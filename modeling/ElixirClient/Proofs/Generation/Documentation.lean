import ElixirClient.Proofs.Generation.Rounds
import ElixirClient.Proofs.Generation.Scope
import ElixirClient.Proofs.Renderer.Layers
import ElixirClient.Proofs.Session.Parallel

/-!
# Documentation of one's own

A layer that replaces nothing but documentation is called from inside the steps that render
operations and schemas. What these make of a descriptor is the default artifact with other
documentation, or the same fault (`renderOperation_documenting`, `renderSchema_documenting`), and a
run does not look at the documentation of what it has rendered. So a run with such a layer goes side
by side with the default run, round by round: `generate_documenting`.
-/

namespace ElixirClient

open Render (Parallel)

def OperationArtifact.withDoc (artifact : OperationArtifact) (doc : Doc) : OperationArtifact :=
  { artifact with doc }

def SchemaArtifact.withDoc (artifact : SchemaArtifact) (doc : Doc) : SchemaArtifact :=
  { artifact with doc }

/-- The layer that documents operations by one function and schemas by another. -/
def Renderer.Layer.documenting (d : Operation → Doc) (e : Schema → Doc) : Renderer.Layer
  | .operationDoc => some fun _ operation => pure (d operation)
  | .schemaDoc => some fun _ schema => pure (e schema)
  | _ => none

/-! ## Artifacts of two runs -/

/-- What the default renderer makes of a schema in a run, if the schema is not left out. -/
def Scope.schemaArtifact? (scope : Scope) (entry : Schema × String) : Option SchemaArtifact :=
  if entry.1.getsModule entry.2 scope.config then (scope.freshSchema entry.1).toOption else none

/-- What the default renderer makes of an operation in a run, if it is not left out. -/
def Scope.operationArtifact? (scope : Scope) (operation : Operation) : Option OperationArtifact :=
  (scope.freshOperation operation).toOption

/-- Artifacts of the same sources, those of the second list with documentation of their own. -/
structure Redocumentation {ι α : Type} (render : ι → Option α) (redocument : ι → α → α)
    (sources : List ι) (artifacts artifacts' : List α) : Prop where
  plain : artifacts = sources.filterMap render
  documented : artifacts' = sources.filterMap fun source => (render source).map (redocument source)

/-- The same module but for the documentation of its operations, which are rendered in the order of
their functions. -/
structure OperationModule.Redocumented (scope : Scope) (d : Operation → Doc)
    (operations : List Operation) (m m' : OperationModule) : Prop where
  name : m'.name = m.name
  module : m'.module = m.module
  location : m'.location = m.location
  operations : ∃ sources,
    Json.sortBy? Operation.functionName (Operation.ofModule operations (.str m.name)) =
      some sources ∧
    Redocumentation scope.operationArtifact? (fun source artifact => artifact.withDoc (d source))
      sources m.operations m'.operations

/-- The same results but for the documentation of schemas and operations. -/
structure GenerationResult.Redocumented (scope : Scope) (d : Operation → Doc) (e : Schema → Doc)
    (schemas : List Schema) (operations : List Operation) (result result' : GenerationResult) :
    Prop where
  schemas : ∃ sources, schemasByName scope schemas = .ok sources ∧
    Redocumentation scope.schemaArtifact? (fun source artifact => artifact.withDoc (e source.1))
      sources result.schemas result'.schemas
  modules : result.modules.Forall₂ (OperationModule.Redocumented scope d operations) result'.modules
  failures : result'.failures = result.failures

namespace Redocumentation

variable {ι α : Type} {render : ι → Option α} {redocument : ι → α → α} {sources : List ι}
  {artifacts artifacts' : List α}

theorem nil : Redocumentation render redocument [] [] [] := ⟨rfl, rfl⟩

/-- What one round of a loop adds. -/
theorem cons {outs outs' : List (Option α)} (source : ι)
    (rest : Redocumentation render redocument sources (outs.filterMap id) (outs'.filterMap id)) :
    Redocumentation render redocument (source :: sources) ((render source :: outs).filterMap id)
      (((render source).map (redocument source) :: outs').filterMap id) := by
  constructor
  · rw [List.filterMap_cons, List.filterMap_cons, rest.plain]
    rfl
  · rw [List.filterMap_cons, List.filterMap_cons, rest.documented]
    rfl

theorem length_eq (h : Redocumentation render redocument sources artifacts artifacts') :
    artifacts'.length = artifacts.length := by
  rw [h.plain, h.documented, List.length_filterMap_eq_countP, List.length_filterMap_eq_countP]
  simp only [Option.isSome_map]

end Redocumentation

/-! ## Steps -/

section Documenting

variable (d : Operation → Doc) (e : Schema → Doc) (scope : Scope)

/-- An operation that is rendered with other documentation is rendered as by default, and then
documented. Where it fails, documentation changes nothing. -/
theorem renderOperation_documenting (operation : Operation) :
    (Renderer.default.override (.documenting d e)).renderOperation scope operation =
      Render.ofExcept ((·.withDoc (d operation)) <$> scope.freshOperation operation) := by
  have hparts := renderOperationParts_eq d scope operation
  rw [scope.freshOperation_eq, Operation.artifact]
  simp only [map_bind, map_pure]
  exact hparts

/-- The same for a schema. -/
theorem renderSchema_documenting (schema : Schema) :
    (Renderer.default.override (.documenting d e)).renderSchema scope schema =
      Render.ofExcept ((·.withDoc (e schema)) <$> scope.freshSchema schema) := by
  have hparts := renderSchemaParts_eq e scope schema
  rw [scope.freshSchema_eq, Schema.artifact]
  simp only [map_bind, map_pure]
  exact hparts

/-! ## Rounds -/

/-- One round over the schemas leaves the same behind in both runs, and its results differ by
documentation alone. -/
theorem parallel_generateSchema (entry : Schema × String) :
    Parallel (fun out out' => out = scope.schemaArtifact? entry ∧
        out' = (scope.schemaArtifact? entry).map (·.withDoc (e entry.1)))
      (generateSchema .default scope entry)
      (generateSchema (Renderer.default.override (.documenting d e)) scope entry) := by
  obtain ⟨schema, normalized⟩ := entry
  unfold generateSchema Scope.schemaArtifact?
  simp only
  rw [default_renderSchema, renderSchema_documenting, ← scope.freshSchema_eq]
  split
  · refine (Parallel.recording_map _ _ normalized).bind ?_
    rintro _ _ ⟨rfl, rfl⟩
    cases (scope.freshSchema schema).toOption with
    | none => exact .pure ⟨rfl, rfl⟩
    -- the line about the artifact names its module, which both have
    | some artifact => exact (Parallel.refl _).bind fun _ _ _ => .pure ⟨rfl, rfl⟩
  · exact (Parallel.refl _).bind fun _ _ _ => .pure ⟨rfl, rfl⟩

/-- The operations of a group come in one order and with the same failures. -/
theorem parallel_renderOperations (operations : List Operation) :
    Parallel (fun rendered rendered' => ∃ sources,
        Json.sortBy? Operation.functionName operations = some sources ∧
        Redocumentation scope.operationArtifact?
          (fun source artifact => artifact.withDoc (d source)) sources rendered rendered')
      (Renderer.default.renderOperations scope operations)
      ((Renderer.default.override (.documenting d e)).renderOperations scope operations) := by
  -- a round records the outcome of rendering, and documentation is put into it afterwards
  have hround (operation : Operation) := Parallel.recording_map (scope.freshOperation operation)
    (·.withDoc (d operation)) operation.qualifiedName
  show Parallel _ (renderAllOperations Renderer.default.renderOperation scope operations)
    (renderAllOperations (Renderer.default.override (.documenting d e)).renderOperation scope
      operations)
  unfold renderAllOperations
  simp only [default_renderOperation, renderOperation_documenting, ← scope.freshOperation_eq]
  refine (Parallel.ofExcept _).bind ?_
  rintro sources _ ⟨hsources, rfl⟩
  -- the invariant is about what the rounds so far have yielded, without the operations left out
  refine (Parallel.mapM (I := fun sources outs outs' => Redocumentation scope.operationArtifact?
      (fun source artifact => artifact.withDoc (d source)) sources (outs.filterMap id)
        (outs'.filterMap id)) hround .nil ?_ sources).bind fun outs outs' houts => ?_
  · rintro operation _ _ rest outs outs' ⟨rfl, rfl⟩ hrest
    exact hrest.cons operation
  · exact .pure ⟨sources, orderly_eq_ok.mp hsources, houts⟩

/-- A group has a module in both runs or in neither. -/
theorem parallel_generateModule (operations : List Operation) (name : Json) :
    Parallel (Option.Rel (OperationModule.Redocumented scope d operations))
      (generateModule .default scope (name, Operation.ofModule operations name))
      (generateModule (Renderer.default.override (.documenting d e)) scope
        (name, Operation.ofModule operations name)) := by
  refine (parallel_renderOperations d e scope _).bind ?_
  rintro rendered rendered' ⟨sources, hsources, h⟩
  have hempty : rendered'.isEmpty = rendered.isEmpty := by
    rw [Bool.eq_iff_iff, List.isEmpty_iff_length_eq_zero, List.isEmpty_iff_length_eq_zero,
      h.length_eq]
  show Parallel _ (moduleOf scope name rendered) (moduleOf scope name rendered')
  -- of the operations a module only looks at how many there are
  unfold moduleOf
  rw [hempty, h.length_eq]
  split
  · exact .pure .none
  · cases name with
    | str name =>
      exact (Parallel.refl _).bind fun _ _ _ => .pure (.some ⟨rfl, rfl, rfl, sources, hsources, h⟩)
    | _ => exact .throw _

/-! ## The run -/

theorem parallel_schemas (entries : List (Schema × String)) :
    Parallel (fun outs outs' => Redocumentation scope.schemaArtifact?
        (fun source artifact => artifact.withDoc (e source.1)) entries (outs.filterMap id)
        (outs'.filterMap id))
      (entries.mapM (generateSchema .default scope))
      (entries.mapM (generateSchema (Renderer.default.override (.documenting d e)) scope)) := by
  refine Parallel.mapM (I := fun entries outs outs' => Redocumentation scope.schemaArtifact?
      (fun source artifact => artifact.withDoc (e source.1)) entries (outs.filterMap id)
        (outs'.filterMap id)) (parallel_generateSchema d e scope) .nil ?_ entries
  rintro entry _ _ rest outs outs' ⟨rfl, rfl⟩ hrest
  exact hrest.cons entry

/-- The rounds over the groups, one after the other. -/
theorem parallel_modules (operations : List Operation) (names : List Json) :
    Parallel (fun outs outs' => List.Forall₂ (OperationModule.Redocumented scope d operations)
        (outs.filterMap id) (outs'.filterMap id))
      ((names.map fun name => (name, Operation.ofModule operations name)).mapM
        (generateModule .default scope))
      ((names.map fun name => (name, Operation.ofModule operations name)).mapM
        (generateModule (Renderer.default.override (.documenting d e)) scope)) := by
  rw [List.mapM_map, List.mapM_map]
  refine Parallel.mapM (I := fun _ outs outs' =>
      List.Forall₂ (OperationModule.Redocumented scope d operations) (outs.filterMap id)
        (outs'.filterMap id)) (parallel_generateModule d e scope operations) .nil ?_ names
  intro name out out' rest outs outs' hround hrest
  -- a group comes to a module in both runs or in none
  cases hround with
  | none => exact hrest
  | some h => exact .cons h hrest

end Documenting

/-- Two runs side by side. Between the loops there are steps that look at schemas, operations and
the configuration only, and these are one and the same step. -/
theorem parallel_generate (d : Operation → Doc) (e : Schema → Doc) (schemas : List Schema)
    (operations : List Operation) (config : Config) :
    Parallel (fun result result' => ∃ scope, Scope.ofSchemas schemas config = .ok scope ∧
        result.Redocumented scope d e schemas operations result')
      (generate .default schemas operations config)
      (generate (Renderer.default.override (.documenting d e)) schemas operations config) := by
  unfold generate
  refine (Parallel.ofExcept _).bind ?_
  rintro scope _ ⟨hscope, rfl⟩
  refine (Parallel.ofExcept _).bind ?_
  rintro entries _ ⟨hentries, rfl⟩
  refine (parallel_schemas d e scope entries).bind fun outs outs' hschemas => ?_
  refine (Parallel.ofExcept _).bind ?_
  rintro groups _ ⟨hgroups, rfl⟩
  obtain ⟨names, _, rfl⟩ := operationsByModule_eq_ok hgroups
  refine (parallel_modules d e scope operations names).bind fun modules modules' hmodules => ?_
  -- what has been left out is read off the trace, which is the same
  refine (Parallel.refl get).bind ?_
  rintro trace _ rfl
  exact .pure ⟨scope, hscope, ⟨entries, hentries, hschemas⟩, hmodules, rfl⟩

/-- **Documentation touches documentation only.** A run of the default steps and a run of the
default steps with a layer around them that documents operations and schemas by functions of their
own leave the same failures and log lines behind, and they end in the same fault or in results that
are the same but for the documentation: that of each artifact is the value of the function on the
descriptor it is rendered from. This holds however the steps are dispatched. -/
theorem generate_documenting (d : Operation → Doc) (e : Schema → Doc) (schemas : List Schema)
    (operations : List Operation) (config : Config) :
    Parallel (fun result result' => ∃ scope, Scope.ofSchemas schemas config = .ok scope ∧
        result.Redocumented scope d e schemas operations result')
      (generate .default schemas operations config)
      (generate (Renderer.default.override (.documenting d e)) schemas operations config) ∧
    ∀ (beyond : Steps) (depth : Nat),
      Parallel (fun result result' => ∃ scope, Scope.ofSchemas schemas config = .ok scope ∧
          result.Redocumented scope d e schemas operations result')
        (generate (.ofSteps (Implementation.default.steps beyond (depth + 3))) schemas operations
          config)
        (generate (.ofSteps ((Implementation.overriding .default
          (Renderer.Layer.documenting d e).methods).steps beyond (depth + 3))) schemas operations
          config) := by
  refine ⟨parallel_generate d e schemas operations config, fun beyond depth => ?_⟩
  -- dispatched methods render as the composed renderer, with and without the layer
  have hplain : generate (.ofSteps (Implementation.default.steps beyond (depth + 3))) =
      generate .default :=
    Implementation.generate_methods [] beyond depth
  have hdocumented : generate (.ofSteps ((Implementation.overriding .default
      (Renderer.Layer.documenting d e).methods).steps beyond (depth + 3))) =
        generate (Renderer.default.override (.documenting d e)) :=
    Implementation.generate_methods [.documenting d e] beyond depth
  rw [hplain, hdocumented]
  exact parallel_generate d e schemas operations config

end ElixirClient

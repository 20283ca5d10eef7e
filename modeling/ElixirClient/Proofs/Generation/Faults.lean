import ElixirClient.Proofs.Generation.Scope
import ElixirClient.Proofs.Rendering.Outcome
import ElixirClient.Proofs.Session.Faults

/-!
# How a run ends

Where everything is called by text, one thing can end a run: the path of an operation that does not
fit. `generate_outcome` says so: a run has a result, or it ends in the complaint about the path of
one of its operations.
-/

namespace ElixirClient

open Render (FaultsWithin)

theorem Resolver.RestsOn.confined {α : Type} {r : Resolver} {refs : List TypeRef}
    {e : Except Fault α} (h : r.RestsOn refs e) : Confined Fault.IsDangling e := by
  intro fault hfault
  rcases h with ⟨_, a, rfl⟩ | ⟨raw, _, rfl⟩
  · cases hfault
  · cases hfault
    exact ⟨_, rfl⟩

variable {schemas : List Schema} {operations : List Operation} {config : Config} {scope : Scope}

/-- The fault is what rendering one of the operations comes to, and one that ends the run. -/
def Scope.EndsRun (scope : Scope) (operations : List Operation) (fault : Fault) : Prop :=
  ∃ operation ∈ operations, ∃ cause, fault = .configuration cause ∧
    operation.artifact scope = .error fault

/-! ## The rounds -/

/-- A schema does not end a run. -/
theorem generateSchema_faults {P : Fault → Prop} {schema : Schema} (h : schema.TextNamed)
    (hname : ∃ name, schema.normalizedName scope = .ok name) (name : String) :
    FaultsWithin P (generateSchema .default scope (schema, name)) := by
  obtain ⟨normalized, hnormalized⟩ := hname
  by_cases hkeep : schema.getsModule name scope.config
  · rw [generateSchema_of_getsModule scope schema name hkeep]
    have hartifact : Confined Fault.IsDangling (schema.artifact scope) :=
      (Schema.artifact_restsOn h hnormalized).confined
    refine (FaultsWithin.recording (fun fault hfault => .inl (hartifact fault hfault)) name).bind ?_
    intro artifact _ _ _
    cases artifact with
    | none => exact .pure none
    | some artifact => exact (FaultsWithin.log _ _ _).bind fun _ _ _ _ => .pure _
  · rw [generateSchema_of_not_getsModule scope schema name hkeep]
    exact (FaultsWithin.log _ _ _).bind fun _ _ _ _ => .pure none

/-- Nor do all of them together. -/
theorem generateSchemas_faults {P : Fault → Prop} (h : ∀ schema ∈ schemas, schema.TextNamed)
    {entries : List (Schema × String)} (hentries : scope.named schemas = .ok entries) :
    FaultsWithin P ((entries.mergeSort nameBefore).mapM (generateSchema .default scope)) := by
  refine .mapM fun entry hentry => ?_
  obtain ⟨hmem, hname⟩ := (mem_named hentries).mp (List.mem_mergeSort.mp hentry)
  exact generateSchema_faults (h entry.1 hmem) ⟨entry.2, hname⟩ entry.2

section Operations

variable (herror : ∀ ref ∈ scope.config.errorType, ref.Sound)

include herror

theorem artifact_confined (h : ∀ operation ∈ operations, operation.Sound) {operation : Operation}
    (hmem : operation ∈ operations) :
    Confined (fun fault => fault.IsDangling ∨ scope.EndsRun operations fault)
      (operation.artifact scope) := by
  intro fault hfault
  by_cases hfits : operation.Fits
  · exact .inl ((Operation.artifact_of_fits (h operation hmem) herror hfits).confined fault hfault)
  · rcases Operation.artifact_of_not_fits (h operation hmem) herror hfits with
      ⟨_, cause, hcause⟩ | ⟨raw, _, _, hraw⟩
    · rw [hcause] at hfault
      cases hfault
      exact .inr ⟨operation, hmem, cause, rfl, hcause⟩
    · rw [hraw] at hfault
      cases hfault
      exact .inl ⟨_, rfl⟩

/-- A group ends a run only by one of its operations. -/
theorem generateModule_faults (h : ∀ operation ∈ operations, operation.Sound) {name : Json}
    (hname : name.IsText) {group : List Operation} (hgroup : ∀ operation ∈ group, operation ∈ operations) :
    FaultsWithin (scope.EndsRun operations) (generateModule .default scope (name, group)) := by
  obtain ⟨text, rfl⟩ := hname
  have hsort := Json.sortBy?_text fun operation (hmem : operation ∈ group) =>
    (h operation (hgroup operation hmem)).names.2
  have hrendered : FaultsWithin (scope.EndsRun operations)
      (renderAllOperations Renderer.default.renderOperation scope group) := by
    rw [renderAllOperations_eq, hsort]
    refine (FaultsWithin.ofExcept (.ok _)).bind fun sorted _ _ hsorted => ?_
    have hperm : sorted.Perm group := by
      rw [← Except.ok.inj (Render.run_ofExcept_eq.mp hsorted).1]
      exact List.mergeSort_perm _ _
    refine FaultsWithin.bind (.mapM fun operation hmem => .recording ?_ _) fun _ _ _ _ => .pure _
    exact artifact_confined herror h (hgroup operation (hperm.mem_iff.mp hmem))
  refine hrendered.bind fun rendered _ _ _ => ?_
  show FaultsWithin _ (moduleOf scope (.str text) rendered)
  unfold moduleOf
  split
  · exact .pure none
  · exact (FaultsWithin.log _ _ _).bind fun _ _ _ _ => .pure _

end Operations

/-! ## The run -/

/-- Everything in the input that names something is text, and its types are references. -/
structure InputSound (schemas : List Schema) (operations : List Operation) (config : Config) :
    Prop where
  schemas : ∀ schema ∈ schemas, schema.TextNamed
  operations : ∀ operation ∈ operations, operation.Sound
  errorType : ∀ ref ∈ config.errorType, ref.Sound

/-- The only faults that end a run are those of paths that do not fit. -/
theorem generate_faults (h : InputSound schemas operations config)
    (hscope : Scope.ofSchemas schemas config = .ok scope) :
    FaultsWithin (scope.EndsRun operations) (generate .default schemas operations config) := by
  have herror : ∀ ref ∈ scope.config.errorType, ref.Sound :=
    (Scope.ofSchemas_eq_ok.mp hscope).2 ▸ h.errorType
  obtain ⟨entries, hentries⟩ := exists_named hscope
  obtain ⟨groups, hgroups⟩ :=
    exists_operationsByModule fun operation hmem => (h.operations operation hmem).names.1
  have hmodules : FaultsWithin (scope.EndsRun operations)
      (groups.mapM (generateModule .default scope)) := by
    refine .mapM fun group hgroup => ?_
    obtain ⟨hname, hsub⟩ := mem_operationsByModule hgroups hgroup
    obtain ⟨operation, hoperation, hname⟩ := List.mem_map.mp hname
    exact generateModule_faults herror h.operations
      (hname ▸ (h.operations operation hoperation).names.1) hsub
  unfold generate
  rw [hscope]
  refine (FaultsWithin.ofExcept (.ok scope)).bind fun other _ _ hother => ?_
  obtain rfl : scope = other := Except.ok.inj (Render.run_ofExcept_eq.mp hother).1
  rw [schemasByName_eq hentries, hgroups]
  refine (FaultsWithin.ofExcept (.ok _)).bind fun sorted _ _ hsame => ?_
  obtain rfl := Except.ok.inj (Render.run_ofExcept_eq.mp hsame).1
  refine (generateSchemas_faults h.schemas hentries).bind fun artifacts _ _ _ => ?_
  refine (FaultsWithin.ofExcept (.ok _)).bind fun others _ _ hsame => ?_
  obtain rfl := Except.ok.inj (Render.run_ofExcept_eq.mp hsame).1
  -- the failures are read off the trace at the end, which cannot fail
  exact hmodules.bind fun modules _ _ _ => fun t fault hfault => by cases hfault

/-- A run has a result, or it ends in the complaint about the path of one of its operations. -/
theorem generate_outcome (h : InputSound schemas operations config)
    (hscope : Scope.ofSchemas schemas config = .ok scope) :
    (∃ result trace,
        (generate .default schemas operations config).run.run {} = (.ok result, trace)) ∨
      ∃ cause trace, (∃ operation ∈ operations,
          operation.artifact scope = .error (.configuration cause)) ∧
        (generate .default schemas operations config).run.run {} =
          (.error (.configuration cause), trace) := by
  have hfaults := generate_faults h hscope {}
  rcases hrun : (generate .default schemas operations config).run.run {} with ⟨fault | result, trace⟩
  · rw [hrun] at hfaults
    obtain ⟨operation, hmem, cause, rfl, hartifact⟩ := hfaults fault rfl
    exact .inr ⟨cause, trace, ⟨operation, hmem, hartifact⟩, rfl⟩
  · exact .inl ⟨result, trace, rfl⟩

end ElixirClient

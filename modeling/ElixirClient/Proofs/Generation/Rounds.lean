import ElixirClient.Proofs.Generation.RunOrder
import ElixirClient.Proofs.Rendering.Artifact
import ElixirClient.Proofs.Session.Isolation

/-!
# The rounds of a run

A run is a loop over the schemas and a loop over the groups of operations. Each round does not look
at the trace of those before, so it does what it would do alone: `generateSchema_spec` and
`generateModule_spec`. `generateSchemas_spec` and `generateModules_spec` collect the rounds, and
`generate_spec` puts the loops together: it says what every result of a run is made of.
-/

namespace ElixirClient

open Render (Detached Settled failure?)

/-- What the default rendering makes of one schema on an empty trace. -/
def Scope.freshSchema (scope : Scope) (schema : Schema) : Except Fault SchemaArtifact :=
  (Renderer.default.renderSchema scope schema).fresh

/-- What the default rendering makes of one operation on an empty trace. -/
def Scope.freshOperation (scope : Scope) (operation : Operation) :
    Except Fault OperationArtifact :=
  (Renderer.default.renderOperation scope operation).fresh

/-- The failure that the run records for a schema of the given normalized name. -/
def Scope.schemaFailure? (scope : Scope) (entry : Schema × String) : Option Dangling :=
  failure? entry.2 (scope.freshSchema entry.1)

/-- The failure that the run records for an operation. -/
def Scope.operationFailure? (scope : Scope) (operation : Operation) : Option Dangling :=
  failure? operation.qualifiedName (scope.freshOperation operation)

/-- Every schema with its normalized name. -/
def Scope.named (scope : Scope) (schemas : List Schema) :
    Except Fault (List (Schema × String)) :=
  schemas.mapM fun schema => do return (schema, ← schema.normalizedName scope)

/-- Ascending normalized names. -/
def nameBefore (a b : Schema × String) : Bool := !decide (b.2 < a.2)

/-- The schemas that get a module, stably sorted by normalized name. -/
def Scope.kept (scope : Scope) (entries : List (Schema × String)) : List (Schema × String) :=
  (entries.filter fun entry => entry.1.getsModule entry.2 scope.config).mergeSort nameBefore

theorem Scope.freshSchema_eq (scope : Scope) (schema : Schema) :
    scope.freshSchema schema = schema.artifact scope := by
  rw [freshSchema, default_renderSchema, Render.fresh_ofExcept]

theorem Scope.freshOperation_eq (scope : Scope) (operation : Operation) :
    scope.freshOperation operation = operation.artifact scope := by
  rw [freshOperation, default_renderOperation, Render.fresh_ofExcept]

/-! ## One schema -/

section Schemas

variable (scope : Scope) (schema : Schema) (name : String)

/-- A line about a rendered schema, if there is one. -/
def announce (artifact : Option SchemaArtifact) : Render (Option SchemaArtifact) := do
  if let some artifact := artifact then
    Render.log .debug .driver ("Rendered schema " ++ artifact.module)
  return artifact

theorem detached_announce (artifact : Option SchemaArtifact) : Detached (announce artifact) := by
  cases artifact with
  | none => exact .pure none
  | some artifact => exact (Detached.log _ _ _).bind fun _ => .pure (some artifact)

theorem fresh_announce (artifact : Option SchemaArtifact) :
    (announce artifact).fresh = .ok artifact := by
  cases artifact <;> rfl

theorem failures_announce (artifact : Option SchemaArtifact) :
    (announce artifact).leaves.failures = [] := by
  cases artifact <;> rfl

theorem generateSchema_of_getsModule (h : schema.getsModule name scope.config) :
    generateSchema .default scope (schema, name) =
      Render.recording name (Render.ofExcept (schema.artifact scope)) >>= announce := by
  unfold generateSchema
  simp only
  rw [if_pos h, default_renderSchema]
  rfl

theorem generateSchema_of_not_getsModule (h : ¬ schema.getsModule name scope.config) :
    generateSchema .default scope (schema, name) = do
      Render.log .debug .driver
        ("Skipping schema " ++ name ++ " (" ++ schema.kind.label ++ ")")
      return none := by
  unfold generateSchema
  simp only
  rw [if_neg h]

theorem detached_generateSchema : Detached (generateSchema .default scope (schema, name)) := by
  by_cases h : schema.getsModule name scope.config
  · rw [generateSchema_of_getsModule scope schema name h]
    exact (Detached.recording (.ofExcept _) name).bind detached_announce
  · rw [generateSchema_of_not_getsModule scope schema name h]
    exact (Detached.log _ _ _).bind fun _ => .pure none

/-- A schema with a module of its own is settled as it would be alone. -/
theorem generateSchema_spec (hkeep : schema.getsModule name scope.config)
    {out : Option SchemaArtifact}
    (h : (generateSchema .default scope (schema, name)).fresh = .ok out) :
    Settled (scope.freshSchema schema) ∧ out = (scope.freshSchema schema).toOption ∧
      (generateSchema .default scope (schema, name)).leaves.failures =
        (failure? name (scope.freshSchema schema)).toList := by
  have hfaults := Schema.unattributed_artifact scope schema
  rw [generateSchema_of_getsModule scope schema name hkeep] at h ⊢
  rw [Render.fresh_bind detached_announce] at h
  rw [Render.leaves_bind detached_announce, scope.freshSchema_eq]
  obtain ⟨artifact, hartifact, hout⟩ := bind_eq_ok.mp h
  rw [fresh_announce] at hout
  cases hout
  obtain ⟨hsettled, hout⟩ := (Render.fresh_recording_eq_ok hfaults).mp hartifact
  refine ⟨hsettled, hout, ?_⟩
  -- the line about the artifact comes behind and is no failure
  rw [hartifact]
  show (_ ++ _ : Trace).failures = _
  rw [Trace.failures_append, failures_announce, List.append_nil, Render.failures_recording hfaults]

/-- A schema without a module leaves nothing behind. -/
theorem generateSchema_skip (hskip : ¬ schema.getsModule name scope.config)
    {out : Option SchemaArtifact}
    (h : (generateSchema .default scope (schema, name)).fresh = .ok out) :
    out = none ∧ (generateSchema .default scope (schema, name)).leaves.failures = [] := by
  rw [generateSchema_of_not_getsModule scope schema name hskip] at h ⊢
  exact ⟨(Except.ok.inj h).symm, rfl⟩

end Schemas

/-! ## One group of operations -/

section Operations

variable (scope : Scope) (operations : List Operation) (name : Json)

/-- The module of a group whose operations have been rendered. -/
def moduleOf (rendered : List OperationArtifact) : Render (Option OperationModule) := do
  if rendered.isEmpty then return none
  match name with
  | .str name =>
    let module : OperationModule := {
      name := name
      module := scope.config.qualified (.str name)
      location := Naming.underscore name
      operations := rendered }
    Render.log .debug .driver
      ("Rendered " ++ toString rendered.length ++ " operations for " ++ module.module)
    return some module
  | _ => throw .noSuchMember

theorem detached_moduleOf (rendered : List OperationArtifact) :
    Detached (moduleOf scope name rendered) := by
  unfold moduleOf
  split
  · exact .pure none
  · cases name with
    | str name => exact (Detached.log _ _ _).bind fun _ => .pure _
    | _ => exact .throw _

/-- A module has operations, all those of its group, and a text for a name, which its place follows
from. -/
theorem moduleOf_spec {rendered : List OperationArtifact} {out : Option OperationModule}
    (h : (moduleOf scope name rendered).fresh = .ok out) :
    (moduleOf scope name rendered).leaves.failures = [] ∧
      ((rendered = [] ∧ out = none) ∨ ∃ text module, name = .str text ∧ out = some module ∧
        module.name = text ∧ module.location = Naming.underscore text ∧
        module.operations = rendered ∧ rendered ≠ []) := by
  unfold moduleOf at h ⊢
  cases rendered with
  | nil =>
    cases h
    exact ⟨rfl, .inl ⟨rfl, rfl⟩⟩
  | cons artifact rest =>
    -- a name of any other kind has no place, so it is a fault
    cases name with
    | str name =>
      cases h
      exact ⟨rfl, .inr ⟨name, _, rfl, rfl, rfl, rfl, rfl, List.cons_ne_nil _ _⟩⟩
    | _ => cases h

theorem renderAllOperations_eq :
    renderAllOperations Renderer.default.renderOperation scope operations = do
      let sorted ← Render.ofExcept (orderly (Json.sortBy? Operation.functionName operations))
      let rendered ← sorted.mapM fun operation =>
        Render.recording operation.qualifiedName (Render.ofExcept (operation.artifact scope))
      return rendered.filterMap id := by
  unfold renderAllOperations
  simp only [default_renderOperation]

theorem detached_renderAllOperations :
    Detached (renderAllOperations Renderer.default.renderOperation scope operations) := by
  rw [renderAllOperations_eq]
  refine (Detached.ofExcept _).bind fun sorted => ?_
  exact (Detached.mapM (fun operation => .recording (.ofExcept _) _) sorted).bind fun _ => .pure _

/-- The operations of one module are settled in the order of their functions. -/
theorem renderAllOperations_spec {rendered : List OperationArtifact} {t t' : Trace}
    (h : (renderAllOperations Renderer.default.renderOperation scope operations).run.run t =
      (.ok rendered, t')) :
    ∃ sorted, Json.sortBy? Operation.functionName operations = some sorted ∧
      (∀ operation ∈ sorted, Settled (scope.freshOperation operation)) ∧
      rendered = sorted.filterMap (fun operation => (scope.freshOperation operation).toOption) ∧
      t'.failures = t.failures ++ sorted.filterMap scope.operationFailure? := by
  have hfaults (operation : Operation) := Operation.unattributed_artifact scope operation
  rw [renderAllOperations_eq] at h
  obtain ⟨sorted, t₁, hfirst, hloop⟩ := Render.run_bind_eq_ok h
  obtain ⟨hsorted, rfl⟩ := Render.run_ofExcept_eq.mp hfirst
  obtain ⟨outs, t₂, hrounds, hlast⟩ := Render.run_bind_eq_ok hloop
  obtain ⟨g, hg, rfl, hfailures⟩ :=
    Render.run_mapM_eq_ok (fun operation => .recording (.ofExcept _) _) hrounds
  obtain ⟨hrendered, rfl⟩ := Prod.mk.inj hlast
  -- each round is a recording, whatever came before it
  have hround (operation : Operation) (hmem : operation ∈ sorted) :
      Settled (scope.freshOperation operation) ∧
        g operation = (scope.freshOperation operation).toOption := by
    rw [scope.freshOperation_eq]
    exact (Render.fresh_recording_eq_ok (hfaults operation)).mp (hg operation hmem)
  refine ⟨sorted, orderly_eq_ok.mp hsorted, fun o ho => (hround o ho).1, ?_, ?_⟩
  · rw [← Except.ok.inj hrendered, List.filterMap_map]
    exact List.filterMap_congr fun operation hmem => (hround operation hmem).2
  · rw [hfailures, List.filterMap_eq_flatMap_toList]
    congr 1
    refine List.flatMap_congr fun operation _ => ?_
    rw [Render.failures_recording (hfaults operation), Scope.operationFailure?,
      scope.freshOperation_eq]

theorem detached_generateModule : Detached (generateModule .default scope (name, operations)) :=
  (detached_renderAllOperations scope operations).bind fun rendered =>
    detached_moduleOf scope name rendered

/-- A group comes to a module of those of its members that can be rendered, if there are any. Only a
group with a text for a name can have a module. -/
def Scope.RendersGroup (members : List Operation) (out : Option OperationModule) : Prop :=
  let rendered := members.filterMap fun operation => (scope.freshOperation operation).toOption
  (rendered = [] ∧ out = none) ∨ ∃ text module, name = .str text ∧ out = some module ∧
    module.name = text ∧ module.location = Naming.underscore text ∧
    module.operations = rendered ∧ rendered ≠ []

/-- The operations of a group are settled, and their module comes of it. -/
theorem generateModule_spec {out : Option OperationModule}
    (h : (generateModule .default scope (name, operations)).fresh = .ok out) :
    ∃ sorted, Json.sortBy? Operation.functionName operations = some sorted ∧
      (∀ operation ∈ sorted, Settled (scope.freshOperation operation)) ∧
      (generateModule .default scope (name, operations)).leaves.failures =
        sorted.filterMap scope.operationFailure? ∧
      scope.RendersGroup name sorted out := by
  have hrun : (renderAllOperations Renderer.default.renderOperation scope operations >>=
      moduleOf scope name).run.run {} =
        (.ok out, (generateModule .default scope (name, operations)).leaves) := Prod.ext h rfl
  obtain ⟨rendered, t, hrendered, hmodule⟩ := Render.run_bind_eq_ok hrun
  obtain ⟨sorted, hsorted, hsettled, hartifacts, hfailures⟩ :=
    renderAllOperations_spec scope operations hrendered
  -- making the module reads nothing of the trace that rendering left
  rw [detached_moduleOf scope name rendered t] at hmodule
  obtain ⟨hout, hleaves⟩ := Prod.mk.inj hmodule
  obtain ⟨hnone, hout⟩ := moduleOf_spec scope name hout
  rw [hartifacts] at hout
  refine ⟨sorted, hsorted, hsettled, ?_, hout⟩
  rw [← hleaves, Trace.failures_append, hnone, List.append_nil, hfailures]
  rfl

end Operations

/-! ## The loops -/

theorem nameBefore_iff {a b : Schema × String} : nameBefore a b = true ↔ a.2 ≤ b.2 :=
  StableSort.byText_iff

theorem nameBefore_trans (a b c : Schema × String) (hab : nameBefore a b) (hbc : nameBefore b c) :
    nameBefore a c :=
  StableSort.byText_trans a b c hab hbc

theorem nameBefore_total (a b : Schema × String) : nameBefore a b || nameBefore b a :=
  StableSort.byText_total a b

/-- It does not matter whether schemas without a module are left out before or after sorting. -/
theorem Scope.kept_eq (scope : Scope) (entries : List (Schema × String)) :
    scope.kept entries =
      (entries.mergeSort nameBefore).filter fun entry => entry.1.getsModule entry.2 scope.config :=
  (StableSort.mergeSort_filter nameBefore_trans nameBefore_total _ _).symm

/-- The loop over all schemas. -/
theorem generateSchemas_spec (scope : Scope) {entries : List (Schema × String)}
    {outs : List (Option SchemaArtifact)} {t t' : Trace}
    (h : ((entries.mergeSort nameBefore).mapM (generateSchema .default scope)).run.run t =
      (.ok outs, t')) :
    (∀ entry ∈ scope.kept entries, Settled (scope.freshSchema entry.1)) ∧
      outs.filterMap id =
        (scope.kept entries).filterMap (fun entry => (scope.freshSchema entry.1).toOption) ∧
      t'.failures = t.failures ++ (scope.kept entries).filterMap scope.schemaFailure? := by
  obtain ⟨g, hg, rfl, hfailures⟩ :=
    Render.run_mapM_eq_ok (fun (entry : Schema × String) =>
      detached_generateSchema scope entry.1 entry.2) h
  rw [scope.kept_eq]
  -- in all three parts a schema that gets a module is settled, and any other leaves no trace
  refine ⟨fun entry hentry => ?_, ?_, ?_⟩
  · obtain ⟨hmem, hkeep⟩ := List.mem_filter.mp hentry
    exact (generateSchema_spec scope entry.1 entry.2 hkeep (hg entry hmem)).1
  · rw [List.filterMap_map, List.filterMap_filter]
    refine List.filterMap_congr fun entry hmem => ?_
    split
    · next hkeep => exact (generateSchema_spec scope entry.1 entry.2 hkeep (hg entry hmem)).2.1
    · next hskip => exact (generateSchema_skip scope entry.1 entry.2 hskip (hg entry hmem)).1
  · rw [hfailures, List.filterMap_filter, List.filterMap_eq_flatMap_toList]
    congr 1
    refine List.flatMap_congr fun entry hmem => ?_
    split
    · next hkeep => exact (generateSchema_spec scope entry.1 entry.2 hkeep (hg entry hmem)).2.2
    · next hskip => exact (generateSchema_skip scope entry.1 entry.2 hskip (hg entry hmem)).2

/-- The loop over all groups. -/
theorem generateModules_spec (scope : Scope) {operations : List Operation} {names : List Json}
    {outs : List (Option OperationModule)} {t t' : Trace}
    (h : ((names.map fun name => (name, Operation.ofModule operations name)).mapM
      (generateModule .default scope)).run.run t = (.ok outs, t')) :
    ∃ group : Json → List Operation, ∃ out : Json → Option OperationModule,
      (∀ name ∈ names, Json.sortBy? Operation.functionName (Operation.ofModule operations name) =
        some (group name)) ∧
      (∀ name ∈ names, ∀ operation ∈ group name, Settled (scope.freshOperation operation)) ∧
      (∀ name ∈ names, scope.RendersGroup name (group name) (out name)) ∧
      outs = names.map out ∧
      t'.failures = t.failures ++ (names.flatMap group).filterMap scope.operationFailure? := by
  obtain ⟨g, hg, rfl, hfailures⟩ :=
    Render.run_mapM_eq_ok (fun (entry : Json × List Operation) =>
      detached_generateModule scope entry.2 entry.1) h
  -- the loop runs over names with their operations, but the names alone determine both
  let out (name : Json) := g (name, Operation.ofModule operations name)
  let group (name : Json) := (Json.sortBy? Operation.functionName
    (Operation.ofModule operations name)).getD []
  have hround (name : Json) (hname : name ∈ names) :=
    generateModule_spec scope _ name (hg _ (List.mem_map.mpr ⟨name, hname, rfl⟩))
  have hgroup (name : Json) {sorted : List Operation}
      (h : Json.sortBy? Operation.functionName (Operation.ofModule operations name) =
        some sorted) : group name = sorted := by
    show Option.getD _ _ = _
    rw [h, Option.getD_some]
  refine ⟨group, out, fun name hname => ?_, fun name hname => ?_, fun name hname => ?_,
    List.map_map, ?_⟩
  · obtain ⟨sorted, hsorted, _⟩ := hround name hname
    rw [hgroup name hsorted, hsorted]
  · obtain ⟨sorted, hsorted, hsettled, _⟩ := hround name hname
    rw [hgroup name hsorted]
    exact hsettled
  · obtain ⟨sorted, hsorted, _, _, hrenders⟩ := hround name hname
    rw [hgroup name hsorted]
    exact hrenders
  · rw [hfailures, List.flatMap_map, List.filterMap_flatMap]
    congr 1
    refine List.flatMap_congr fun name hname => ?_
    obtain ⟨sorted, hsorted, _, hleaves, _⟩ := hround name hname
    rw [hgroup name hsorted, hleaves]

namespace Scope.RendersGroup

variable {scope : Scope} {name : Json} {members : List Operation} {out : Option OperationModule}

theorem operations_eq (h : scope.RendersGroup name members out) :
    out.toList.flatMap (·.operations) =
      members.filterMap fun operation => (scope.freshOperation operation).toOption := by
  rcases h with ⟨hempty, rfl⟩ | ⟨text, module, rfl, rfl, _, _, hmodule, _⟩
  · exact hempty.symm
  · rw [Option.toList_some, List.flatMap_singleton, hmodule]

theorem of_eq_some (h : scope.RendersGroup name members out) {module : OperationModule}
    (hout : out = some module) :
    name = .str module.name ∧ module.operations ≠ [] ∧ module.operations =
      members.filterMap fun operation => (scope.freshOperation operation).toOption := by
  rcases h with ⟨_, rfl⟩ | ⟨text, other, rfl, rfl, rfl, _, hmodule, hne⟩
  · cases hout
  · cases hout
    exact ⟨rfl, hmodule ▸ hne, hmodule⟩

theorem location_eq (h : scope.RendersGroup name members out) {module : OperationModule}
    (hout : out = some module) : module.location = Naming.underscore module.name := by
  rcases h with ⟨_, rfl⟩ | ⟨text, other, rfl, rfl, rfl, hlocation, _⟩
  · cases hout
  · cases hout
    exact hlocation

end Scope.RendersGroup

/-- What every result of a run is made of: the schemas that get a module in the order of their
names, and the groups of operations in the order of the names of their modules. -/
theorem generate_spec {schemas : List Schema} {operations : List Operation} {config : Config}
    {result : GenerationResult} {trace : Trace}
    (h : (generate .default schemas operations config).run.run {} = (.ok result, trace)) :
    ∃ scope entries names, ∃ group : Json → List Operation, ∃ out : Json → Option OperationModule,
      Scope.ofSchemas schemas config = .ok scope ∧ scope.named schemas = .ok entries ∧
      Json.sortBy? id (Operation.moduleNames operations) = some names ∧
      (∀ name ∈ names, Json.sortBy? Operation.functionName (Operation.ofModule operations name) =
        some (group name)) ∧
      (∀ entry ∈ scope.kept entries, Settled (scope.freshSchema entry.1)) ∧
      (∀ name ∈ names, ∀ operation ∈ group name, Settled (scope.freshOperation operation)) ∧
      (∀ name ∈ names, scope.RendersGroup name (group name) (out name)) ∧
      result = {
        schemas := (scope.kept entries).filterMap fun entry => (scope.freshSchema entry.1).toOption
        modules := names.filterMap out
        failures := (scope.kept entries).filterMap scope.schemaFailure? ++
          (names.flatMap group).filterMap scope.operationFailure? } := by
  -- one step after the other; all but the two loops leave the trace as it is
  obtain ⟨scope, _, hfirst, h₁⟩ := Render.run_bind_eq_ok h
  obtain ⟨hscope, rfl⟩ := Render.run_ofExcept_eq.mp hfirst
  obtain ⟨sorted, _, hsecond, h₂⟩ := Render.run_bind_eq_ok h₁
  obtain ⟨hsorted, rfl⟩ := Render.run_ofExcept_eq.mp hsecond
  obtain ⟨entries, hentries, hsort⟩ := bind_eq_ok.mp hsorted
  cases hsort
  obtain ⟨artifacts, t₁, hschemas, h₃⟩ := Render.run_bind_eq_ok h₂
  obtain ⟨groups, _, hthird, h₄⟩ := Render.run_bind_eq_ok h₃
  obtain ⟨hgroups, rfl⟩ := Render.run_ofExcept_eq.mp hthird
  obtain ⟨modules, t₂, hmodules, h₅⟩ := Render.run_bind_eq_ok h₄
  obtain ⟨names, hnames, rfl⟩ := operationsByModule_eq_ok hgroups
  obtain ⟨hsettled, hartifacts, hfailures⟩ := generateSchemas_spec scope hschemas
  obtain ⟨group, out, hgroup, hsettled', hrenders, rfl, hfailures'⟩ :=
    generateModules_spec scope hmodules
  cases h₅
  refine ⟨scope, entries, names, group, out, hscope, hentries, hnames, hgroup, hsettled, hsettled',
    hrenders, ?_⟩
  rw [hartifacts, hfailures', hfailures, List.filterMap_map]
  rfl

/-- The place of every artifact follows from its name. -/
theorem generate_located {schemas : List Schema} {operations : List Operation} {config : Config}
    {result : GenerationResult} {trace : Trace}
    (h : (generate .default schemas operations config).run.run {} = (.ok result, trace)) :
    (∀ artifact ∈ result.schemas, artifact.location = Naming.underscore artifact.name) ∧
      ∀ module ∈ result.modules, module.location = Naming.underscore module.name := by
  obtain ⟨scope, entries, names, group, out, _, _, _, _, _, _, hrenders, rfl⟩ := generate_spec h
  constructor
  · intro artifact hmem
    obtain ⟨entry, _, hentry⟩ := List.mem_filterMap.mp hmem
    rw [scope.freshSchema_eq] at hentry
    cases hartifact : entry.1.artifact scope with
    | error fault =>
      rw [hartifact] at hentry
      cases hentry
    | ok other =>
      rw [hartifact] at hentry
      cases hentry
      exact (Schema.unresolved_artifact hartifact).1
  · intro module hmem
    obtain ⟨name, hname, hmodule⟩ := List.mem_filterMap.mp hmem
    exact (hrenders name hname).location_eq hmodule

end ElixirClient

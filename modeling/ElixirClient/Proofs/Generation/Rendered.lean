import ElixirClient.Proofs.Generation.Scope

/-!
# What stands in a result

A run with a result has come past every descriptor: it rendered it, or left it out for a dangling
reference (`settled_schema`, `settled_operation`). And it holds nothing else: its artifacts are those
that rendering makes of the descriptors (`mem_schemas_iff`, `mem_operations_iff`).
-/

namespace ElixirClient

namespace GenerationResult

/-- All operations, module by module. -/
def operations (result : GenerationResult) : List OperationArtifact :=
  result.modules.flatMap (·.operations)

/-- An operation is left out on account of a schema. -/
def LeavesOut (result : GenerationResult) (operation : Operation) (raw : Json) : Prop :=
  ⟨raw, some operation.qualifiedName⟩ ∈ result.failures

end GenerationResult

section Run

variable {schemas : List Schema} {operations : List Operation} {config : Config} {scope : Scope}
  {result : GenerationResult} {trace : Trace}
  (hscope : Scope.ofSchemas schemas config = .ok scope)
  (hrun : (generate .default schemas operations config).run.run {} = (.ok result, trace))

include hscope hrun

/-! ## Schemas -/

/-- A schema that gets a module has one in the result, or a failure says why not. -/
theorem settled_schema {schema : Schema} (hmem : schema ∈ schemas) {name : String}
    (hname : schema.normalizedName scope = .ok name) (hkeep : schema.getsModule name config) :
    (∃ artifact, schema.artifact scope = .ok artifact) ∨
      ∃ raw, schema.artifact scope = .error (.dangling ⟨raw, none⟩) ∧
        ⟨raw, some name⟩ ∈ result.failures := by
  obtain ⟨other, entries, names, group, out, hother, hentries, _, _, hsettled, _, _, rfl⟩ :=
    generate_spec hrun
  obtain rfl : scope = other := Except.ok.inj (hscope.symm.trans hother)
  obtain rfl := (Scope.ofSchemas_eq_ok.mp hscope).2
  -- the run renders the kept entries of the table, and the schema is one of them
  have hentry : (schema, name) ∈ scope.kept entries := by
    refine List.mem_mergeSort.mpr (List.mem_filter.mpr ⟨?_, hkeep⟩)
    exact (mem_named hentries).mpr ⟨hmem, hname⟩
  rw [← scope.freshSchema_eq]
  rcases hsettled _ hentry with hok | ⟨raw, hraw⟩
  · exact .inl hok
  · refine .inr ⟨raw, hraw, List.mem_append_left _ (List.mem_filterMap.mpr ⟨_, hentry, ?_⟩)⟩
    rw [Scope.schemaFailure?, hraw]
    rfl

/-- The schemas of a result are the artifacts of the schemas that get a module, and nothing else.
Which order they are in, and in which run, is said elsewhere. -/
theorem mem_schemas_iff {artifact : SchemaArtifact} :
    artifact ∈ result.schemas ↔ ∃ schema ∈ schemas, ∃ name,
      schema.normalizedName scope = .ok name ∧ schema.getsModule name config ∧
      schema.artifact scope = .ok artifact := by
  obtain ⟨other, entries, names, group, out, hother, hentries, _, _, _, _, _, rfl⟩ :=
    generate_spec hrun
  obtain rfl : scope = other := Except.ok.inj (hscope.symm.trans hother)
  obtain rfl := (Scope.ofSchemas_eq_ok.mp hscope).2
  simp only [List.mem_filterMap, scope.freshSchema_eq]
  constructor
  · rintro ⟨entry, hentry, hartifact⟩
    obtain ⟨hentry, hkeep⟩ := List.mem_filter.mp (List.mem_mergeSort.mp hentry)
    obtain ⟨hmem, hname⟩ := (mem_named hentries).mp hentry
    exact ⟨entry.1, hmem, entry.2, hname, hkeep, toOption_eq_some.mp hartifact⟩
  · rintro ⟨schema, hmem, name, hname, hkeep, hartifact⟩
    refine ⟨(schema, name), List.mem_mergeSort.mpr (List.mem_filter.mpr ⟨?_, hkeep⟩), ?_⟩
    · exact (mem_named hentries).mpr ⟨hmem, hname⟩
    · exact toOption_eq_some.mpr hartifact

/-! ## Operations -/

/-- An operation is in the result, or left out of it for one reference. The name of its module goes
into the failure. -/
theorem settled_operation {operation : Operation} (hmem : operation ∈ operations) :
    (∃ artifact, operation.artifact scope = .ok artifact) ∨
      ∃ raw, operation.artifact scope = .error (.dangling ⟨raw, none⟩) ∧
        result.LeavesOut operation raw := by
  obtain ⟨other, entries, names, group, out, hother, _, hnames, hgroup, _, hsettled, _, rfl⟩ :=
    generate_spec hrun
  obtain rfl : scope = other := Except.ok.inj (hscope.symm.trans hother)
  have hrendered := (Operation.perm_flatMap_group hnames hgroup).mem_iff.mpr hmem
  obtain ⟨name, hname, hoperation⟩ := List.mem_flatMap.mp hrendered
  rw [← scope.freshOperation_eq]
  rcases hsettled name hname operation hoperation with hok | ⟨raw, hraw⟩
  · exact .inl hok
  · refine .inr ⟨raw, hraw, List.mem_append_right _ (List.mem_filterMap.mpr ⟨_, hrendered, ?_⟩)⟩
    rw [Scope.operationFailure?, hraw]
    rfl

/-- The operations of a result, whatever module they are in, are the artifacts of the operations of
the run. -/
theorem mem_operations_iff {artifact : OperationArtifact} :
    artifact ∈ result.operations ↔
      ∃ operation ∈ operations, operation.artifact scope = .ok artifact := by
  obtain ⟨other, entries, names, group, out, hother, _, hnames, hgroup, _, _, hrenders, rfl⟩ :=
    generate_spec hrun
  obtain rfl : scope = other := Except.ok.inj (hscope.symm.trans hother)
  have hperm := Operation.perm_flatMap_group hnames hgroup
  -- modules partition the operations, so going through both comes to one pass over all operations
  have hoperations : (names.filterMap out).flatMap (·.operations) =
      (names.flatMap group).filterMap fun operation =>
        (scope.freshOperation operation).toOption := by
    rw [List.filterMap_eq_flatMap_toList, List.flatMap_assoc, List.filterMap_flatMap]
    exact List.flatMap_congr fun name hname => (hrenders name hname).operations_eq
  show artifact ∈ (names.filterMap out).flatMap (·.operations) ↔ _
  simp only [hoperations, List.mem_filterMap, hperm.mem_iff, scope.freshOperation_eq,
    toOption_eq_some]

end Run

end ElixirClient

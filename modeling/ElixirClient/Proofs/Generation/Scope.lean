import ElixirClient.Proofs.Generation.Rounds
import ElixirClient.Proofs.Naming.Table
import ElixirClient.Proofs.Resolver.Resolution

/-!
# What a run starts from

The first steps of a run: a scope is made of the schemas and the configuration, each schema gets its
normalized name, and the operations are parted by module. For names of text none of them fails once
there is a name table.
-/

namespace ElixirClient

variable {schemas : List Schema} {operations : List Operation} {config : Config} {scope : Scope}

theorem Scope.ofSchemas_eq_ok : Scope.ofSchemas schemas config = .ok scope ↔
    NameTable.build config.naming schemas = .ok scope.names ∧ scope.config = config := by
  unfold Scope.ofSchemas
  constructor
  · intro h
    obtain ⟨table, htable, h⟩ := bind_eq_ok.mp h
    cases h
    exact ⟨htable, rfl⟩
  · rintro ⟨htable, rfl⟩
    exact bind_eq_ok.mpr ⟨scope.names, htable, rfl⟩

/-! ## Names of schemas -/

instance : Inhabited Schema := ⟨{ name := .null, kind := .reference }⟩

theorem exists_normalizedName (h : Scope.ofSchemas schemas config = .ok scope) {schema : Schema}
    (hmem : schema ∈ schemas) : ∃ name, schema.normalizedName scope = .ok name := by
  obtain ⟨name, hname⟩ := NameTable.exists_find? (Scope.ofSchemas_eq_ok.mp h).1 hmem
  exact ⟨name, Schema.normalizedName_eq_ok.mpr hname⟩

/-- What can be referred to are the names of the schemas. -/
theorem Scope.knows_iff (h : Scope.ofSchemas schemas config = .ok scope) {raw : Json} :
    scope.resolver.Knows raw ↔ raw ∈ schemas.map Schema.name := by
  have htable := (Scope.ofSchemas_eq_ok.mp h).1
  constructor
  · rintro ⟨module, hmodule⟩
    obtain ⟨name, hname, _⟩ := Resolver.moduleName_eq_ok.mp hmodule
    exact ((NameTable.find?_eq_some htable).mp hname).1
  · intro hraw
    obtain ⟨schema, hmem, rfl⟩ := List.mem_map.mp hraw
    obtain ⟨name, hname⟩ := NameTable.exists_find? htable hmem
    exact ⟨_, Resolver.moduleName_eq_ok.mpr ⟨name, hname, rfl⟩⟩

theorem exists_named (h : Scope.ofSchemas schemas config = .ok scope) :
    ∃ entries, scope.named schemas = .ok entries := by
  refine exists_mapM_eq_ok fun schema hmem => ?_
  obtain ⟨name, hname⟩ := exists_normalizedName h hmem
  exact ⟨(schema, name), bind_eq_ok.mpr ⟨name, hname, rfl⟩⟩

/-- The entries are the schemas with their normalized names, in the order of the schemas. -/
theorem named_eq_ok {entries : List (Schema × String)} :
    scope.named schemas = .ok entries ↔ entries.map Prod.fst = schemas ∧
      ∀ entry ∈ entries, entry.1.normalizedName scope = .ok entry.2 := by
  unfold Scope.named
  constructor
  · intro h
    obtain ⟨entry, hentry, rfl⟩ := mapM_eq_ok.mp h
    -- each entry is a schema with the name that was found for it
    have hround : ∀ schema ∈ schemas, (entry schema).1 = schema ∧
        schema.normalizedName scope = .ok (entry schema).2 := by
      intro schema hmem
      obtain ⟨name, hname, hpair⟩ := bind_eq_ok.mp (hentry schema hmem)
      rw [← Except.ok.inj hpair]
      exact ⟨rfl, hname⟩
    refine ⟨?_, fun other hother => ?_⟩
    · rw [List.map_map]
      exact (List.map_congr_left fun schema hmem => (hround schema hmem).1).trans (List.map_id _)
    · obtain ⟨schema, hmem, rfl⟩ := List.mem_map.mp hother
      obtain ⟨hfst, hname⟩ := hround schema hmem
      rw [hfst]
      exact hname
  · rintro ⟨rfl, hnames⟩
    rw [List.mapM_map]
    have hloop : (entries.mapM fun entry => do return (entry.1, ← entry.1.normalizedName scope)) =
        .ok (entries.map id) := by
      refine mapM_of_forall fun entry hentry => ?_
      rw [hnames entry hentry]
      rfl
    rwa [List.map_id] at hloop

theorem mem_named {entries : List (Schema × String)} (h : scope.named schemas = .ok entries)
    {entry : Schema × String} : entry ∈ entries ↔
      entry.1 ∈ schemas ∧ entry.1.normalizedName scope = .ok entry.2 := by
  obtain ⟨rfl, hnames⟩ := named_eq_ok.mp h
  constructor
  · exact fun hentry => ⟨List.mem_map.mpr ⟨entry, hentry, rfl⟩, hnames entry hentry⟩
  · rintro ⟨hmem, hname⟩
    obtain ⟨other, hother, hfst⟩ := List.mem_map.mp hmem
    have hsame := hnames other hother
    rw [hfst, hname] at hsame
    obtain rfl : entry = other := Prod.ext hfst.symm (Except.ok.inj hsame)
    exact hother

theorem schemasByName_eq {entries : List (Schema × String)}
    (h : scope.named schemas = .ok entries) :
    schemasByName scope schemas = .ok (entries.mergeSort nameBefore) :=
  bind_eq_ok.mpr ⟨entries, h, rfl⟩

/-! ## Groups of operations -/

/-- Modules that are called by text have an order. -/
theorem exists_operationsByModule (h : ∀ operation ∈ operations, operation.moduleName.IsText) :
    ∃ groups, operationsByModule operations = .ok groups := by
  have hkeys : (operations.any fun operation => operation.moduleName.key?.isNone) = false := by
    rw [List.any_eq_false]
    intro operation hmem
    obtain ⟨text, htext⟩ := h operation hmem
    rw [htext]
    simp [Json.key?]
  have hnames : ∀ name ∈ Operation.moduleNames operations, (id name).IsText := by
    intro name hname
    obtain ⟨operation, hmem, rfl⟩ := List.mem_map.mp (mem_of_mem_firstOfEach _ hname)
    exact h operation hmem
  unfold operationsByModule
  rw [hkeys, foldl_insertOperation, Json.sortBy?_map]
  show ∃ groups, orderly ((Json.sortBy? id (Operation.moduleNames operations)).map _) = _
  rw [Json.sortBy?_text hnames]
  exact ⟨_, rfl⟩

/-- A group has the name of a module and operations of the run. -/
theorem mem_operationsByModule {groups : List (Json × List Operation)}
    (h : operationsByModule operations = .ok groups) {group : Json × List Operation}
    (hmem : group ∈ groups) : group.1 ∈ operations.map Operation.moduleName ∧
      ∀ operation ∈ group.2, operation ∈ operations := by
  obtain ⟨names, hnames, rfl⟩ := operationsByModule_eq_ok h
  obtain ⟨name, hname, rfl⟩ := List.mem_map.mp hmem
  refine ⟨mem_of_mem_firstOfEach _ ((Json.perm_of_sortBy? hnames).mem_iff.mp hname), ?_⟩
  exact fun operation hoperation => (List.mem_filter.mp hoperation).1

end ElixirClient

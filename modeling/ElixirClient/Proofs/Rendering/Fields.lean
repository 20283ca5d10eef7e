import ElixirClient.Proofs.Rendering.Dangling
import ElixirClient.Proofs.Rendering.Parts

/-!
# The fields of a struct

A rendered schema lists its fields three times: by name, with their types and with their decoders.
`SchemaArtifact.LinesUp` says that these are the same fields in the same order, and what the type of
a field has to do with its decoder. Rendering yields such artifacts only, and fails where a property
refers to a schema that the name table does not list (`Schema.renderSchema_linesUp`).

What a property refers to is looked for where `Schema.typeRef` finds it: a list of lists refers to
what its innermost items do (`Schema.RefersTo`).
-/

namespace ElixirClient

/-- The value of a field as it is found. -/
def Node.rawField (name : String) : Node := .access (.var "value") (.literal (.str name))

namespace Schema

/-- What lists of lists are lists of in the end. -/
def innermost : Schema → Schema
  | ⟨_, .array, _, _, _, some items, _⟩ => items.innermost
  | schema => schema

/-- The property stands for the schema of this raw name, or for lists of it. -/
def RefersTo (property : Schema) (raw : Json) : Prop :=
  property.innermost.kind = .reference ∧
    raw = property.innermost.ref.orElse property.innermost.name

/-- How a field is typed and decoded: a reference by the module that its type names, a list not at
all, and anything else as it is found. -/
structure FieldOf (name : String) (property : Schema) (type decoder : Node) : Prop where
  decodes_iff : (∃ module, decoder = .call (.moduleRef module) "decode" [.rawField name]) ↔
    property.kind = .reference
  named : ∀ module, decoder = .call (.moduleRef module) "decode" [.rawField name] →
    type = .named (.str module)
  array : property.kind = .array → (∃ item, type = .sequence item) ∧ decoder = .literal .null
  raw : property.kind ≠ .reference → property.kind ≠ .array → decoder = .rawField name

end Schema

/-- The three tables of a struct have the same fields, those of the rows. -/
structure SchemaArtifact.LinesUp (artifact : SchemaArtifact) (rows : List (String × Schema)) :
    Prop where
  fieldNames : artifact.fieldNames = rows.map (·.1)
  fieldTypes : artifact.fieldTypes.map (·.1) = rows.map (·.1)
  decoders : artifact.decoders.map (·.1) = rows.map (·.1)
  fields : ∀ (i : Nat) (h : i < rows.length), ∃ type decoder,
    artifact.fieldTypes[i]? = some (rows[i].1, type) ∧
      artifact.decoders[i]? = some (rows[i].1, decoder) ∧
      rows[i].2.FieldOf rows[i].1 type decoder

namespace Schema

variable {scope : Scope} {schema : Schema} {artifact : SchemaArtifact}

/-! ## Fields that line up -/

/-- The type and the decoder of a field are made apart from each other, but of one property: a
reference leads to one module in both, and an array is decoded in no way at all. -/
theorem fieldOf_of_decoder {name : String} {property : Schema} {type decoder : Node}
    (htype : scope.resolver.resolve property.typeRef = .ok type)
    (hdecoder : property.decoder scope name = .ok decoder) :
    property.FieldOf name type decoder := by
  rcases decoder_eq_ok hdecoder with ⟨hkind, rfl⟩ | ⟨⟨kind, hkind⟩, rfl⟩ |
    ⟨module, hkind, hmodule, rfl⟩
  case inl =>
    rw [typeRef_array hkind, Resolver.resolve] at htype
    obtain ⟨node, _, rfl⟩ := map_eq_ok.mp htype
    exact ⟨by simp [hkind], nofun, fun _ => ⟨⟨node, rfl⟩, rfl⟩, fun _ h => absurd hkind h⟩
  case inr.inl =>
    exact ⟨by simp [hkind], nofun, by simp [hkind], fun _ _ => rfl⟩
  case inr.inr =>
    rw [typeRef_reference hkind, Resolver.resolve, hmodule] at htype
    cases htype
    refine ⟨iff_of_true ⟨module, rfl⟩ hkind, ?_, by simp [hkind], fun h => absurd hkind h⟩
    rintro other ⟨⟩
    rfl

/-- All three lists of an artifact go over the same properties. -/
theorem linesUp_of_artifact (h : schema.artifact scope = .ok artifact) :
    artifact.LinesUp schema.propertiesByName := by
  obtain ⟨_, htypes, hdecoders, _⟩ := artifact_eq_ok h
  obtain ⟨type, htype, htypes⟩ := fieldTypes_eq_ok htypes
  obtain ⟨decoder, hdecoder, hdecoders⟩ := decoders_eq_ok hdecoders
  refine ⟨(unresolved_artifact h).2, ?_, ?_, fun i hi => ?_⟩
  · rw [htypes, List.map_map]
    rfl
  · rw [hdecoders, List.map_map]
    rfl
  -- row by row: the name, the type and the decoder at one place belong to one property
  · have hmem := List.getElem_mem hi
    refine ⟨type schema.propertiesByName[i], decoder schema.propertiesByName[i], ?_, ?_, ?_⟩
    · rw [htypes, List.getElem?_map, List.getElem?_eq_getElem hi, Option.map_some]
    · rw [hdecoders, List.getElem?_map, List.getElem?_eq_getElem hi, Option.map_some]
    · exact fieldOf_of_decoder (htype _ hmem) (hdecoder _ hmem)

/-! ## Properties that refer to nothing -/

/-- A property has one leaf: the schema that it refers to, or a primitive. -/
theorem leaves_typeRef : (property : Schema) →
    (∃ raw, property.typeRef.leaves = [.schema raw] ∧
        ∀ other, property.RefersTo other ↔ other = raw) ∨
      ∃ kind, property.typeRef.leaves = [.primitive kind] ∧ ∀ raw, ¬ property.RefersTo raw
  | ⟨name, .reference, _, _, _, _, ref⟩ => by
    refine .inl ⟨ref.orElse name, by rw [typeRef, TypeRef.leaves_schema], ?_⟩
    simp [RefersTo, innermost]
  | ⟨_, .array, _, _, _, none, _⟩ => by
    refine .inr ⟨.any, by rw [typeRef, TypeRef.leaves_array, TypeRef.leaves_primitive], ?_⟩
    simp [RefersTo, innermost]
  | ⟨_, .array, _, _, _, some items, _⟩ => by
    -- neither the leaves nor the innermost items see the list around them
    have hitems := leaves_typeRef items
    unfold RefersTo at hitems ⊢
    rwa [typeRef, TypeRef.leaves_array, innermost]
  | ⟨_, .primitive kind, _, _, _, _, _⟩ => by
    refine .inr ⟨kind, by rw [typeRef, TypeRef.leaves_primitive], ?_⟩
    simp [RefersTo, innermost]

/-- What the type of a property mentions is what the property refers to, however deep in lists. -/
theorem mem_leaves_typeRef {property : Schema} {raw : Json} :
    .schema raw ∈ property.typeRef.leaves ↔ property.RefersTo raw := by
  rcases leaves_typeRef property with ⟨name, hleaves, hrefers⟩ | ⟨kind, hleaves, hrefers⟩
  · rw [hleaves, hrefers, List.mem_singleton, TypeRef.schema.injEq]
  · rw [hleaves, List.mem_singleton]
    exact iff_of_false nofun (hrefers raw)

/-- It is enough that schemas are referred to by text. -/
theorem textNamed_typeRef {property : Schema} (h : ∀ raw, property.RefersTo raw → raw.IsText) :
    property.typeRef.TextNamed := by
  intro leaf hleaf
  rcases leaves_typeRef property with ⟨raw, hleaves, hrefers⟩ | ⟨kind, hleaves, _⟩
  · rw [hleaves, List.mem_singleton] at hleaf
    exact hleaf ▸ h raw ((hrefers raw).mpr rfl)
  · rw [hleaves, List.mem_singleton] at hleaf
    exact hleaf ▸ trivial

/-- The schema is the first one that a property in the rows refers to and that is not listed. -/
def FirstMissing (scope : Scope) (rows : List (String × Schema)) (raw : Json) : Prop :=
  FirstOf (fun entry => ∀ other, entry.2.RefersTo other → scope.Lists other)
    (fun entry => entry.2.RefersTo raw ∧ ¬ scope.Lists raw) rows

/-- The first reference that the resolver does not know belongs to the first property, by name, that
refers to a schema which the table does not list. -/
theorem firstUnknown_fieldRefs {raw : Json} :
    scope.resolver.FirstUnknown schema.fieldRefs raw ↔
      FirstMissing scope schema.propertiesByName raw := by
  unfold Resolver.FirstUnknown FirstMissing fieldRefs
  rw [List.flatMap_map, firstOf_flatMap]
  -- one property has at most one leaf that is a schema, so its leaves are in order or not as a
  -- whole
  have hgood (entry : String × Schema) :
      (∀ leaf ∈ entry.2.typeRef.leaves, ∀ name, leaf = .schema name → scope.resolver.Knows name) ↔
        ∀ other, entry.2.RefersTo other → scope.Lists other := by
    simp only [← mem_leaves_typeRef, Scope.knows_iff_lists]
    exact ⟨fun h other hother => h _ hother other rfl,
      fun h leaf hleaf name hname => h name (hname ▸ hleaf)⟩
  have hbad (entry : String × Schema) :
      FirstOf (fun leaf => ∀ name, leaf = .schema name → scope.resolver.Knows name)
          (fun leaf => leaf = .schema raw ∧ ¬ scope.resolver.Knows raw) entry.2.typeRef.leaves ↔
        entry.2.RefersTo raw ∧ ¬ scope.Lists raw := by
    rcases leaves_typeRef entry.2 with ⟨name, hleaves, hrefers⟩ | ⟨kind, hleaves, hrefers⟩
    · rw [hleaves, firstOf_singleton, hrefers, Scope.knows_iff_lists, TypeRef.schema.injEq, eq_comm]
    · rw [hleaves, firstOf_singleton]
      exact iff_of_false (fun h => nomatch h.1) fun h => hrefers raw h.1
  simp only [hgood, hbad]

theorem mentions_fieldRefs {raw : Json} :
    TypeRef.Mentions schema.fieldRefs raw ↔ ∃ entry ∈ schema.properties, entry.2.RefersTo raw := by
  unfold TypeRef.Mentions fieldRefs
  simp only [List.mem_flatMap, List.mem_map, exists_exists_and_eq_and, mem_propertiesByName,
    mem_leaves_typeRef]

/-- A schema that the table lists is rendered exactly if all that its properties refer to is
listed. -/
theorem artifact_restsOn_of_lists (hlisted : scope.Lists schema.name)
    (htext : ∀ entry ∈ schema.properties, ∀ raw, entry.2.RefersTo raw → raw.IsText) :
    scope.resolver.RestsOn schema.fieldRefs (schema.artifact scope) := by
  obtain ⟨_, hmodule⟩ := Scope.knows_iff_lists.mpr hlisted
  obtain ⟨name, hname, _⟩ := Resolver.moduleName_eq_ok.mp hmodule
  obtain ⟨entry, _, hentry⟩ := List.mem_map.mp hlisted
  exact artifact_restsOn ⟨⟨entry.1, hentry.symm⟩, fun entry hentry =>
    textNamed_typeRef (htext entry hentry)⟩ (normalizedName_eq_ok.mpr hname)

/-- **Struct, types and decoders line up.** Whatever the scope, a rendered schema has as its fields
its properties by strictly ascending name, in each of its three tables. Rendering a schema of the
table comes to a dangling reference exactly if a property refers to a schema that is not listed; the
reference is that of the first such property, and there is no other fault. -/
theorem renderSchema_linesUp (hdistinct : (schema.properties.map (·.1)).Nodup) (t : Trace) :
    ∃ rows, rows.Perm schema.properties ∧ (rows.map (·.1)).Pairwise (· < ·) ∧
      (∀ artifact t', (Renderer.default.renderSchema scope schema).run.run t = (.ok artifact, t') →
        artifact.LinesUp rows) ∧
      (scope.Lists schema.name →
        (∀ entry ∈ schema.properties, ∀ raw, entry.2.RefersTo raw → raw.IsText) →
        ((∃ cause t', (Renderer.default.renderSchema scope schema).run.run t =
            (.error (.dangling cause), t')) ↔
          ∃ entry ∈ schema.properties, ∃ raw, entry.2.RefersTo raw ∧ ¬ scope.Lists raw) ∧
        ∀ fault t', (Renderer.default.renderSchema scope schema).run.run t = (.error fault, t') ↔
          ∃ raw, FirstMissing scope rows raw ∧ fault = .dangling ⟨raw, none⟩ ∧ t' = t) := by
  refine ⟨schema.propertiesByName, List.mergeSort_perm _ _,
    StableSort.ascending_mergeSort_byText hdistinct, ?_, fun hlisted htext => ?_⟩
  · intro artifact t' h
    exact linesUp_of_artifact (renderSchema_eq.mp h).1
  -- all that can go wrong is a schema that the table does not list
  · have hrests := artifact_restsOn_of_lists hlisted htext
    rw [default_renderSchema]
    constructor
    · rw [hrests.run_dangles]
      simp only [mentions_fieldRefs, Scope.knows_iff_lists]
      constructor
      · rintro ⟨raw, ⟨entry, hentry, hrefers⟩, hmissing⟩
        exact ⟨entry, hentry, raw, hrefers, hmissing⟩
      · rintro ⟨entry, hentry, raw, hrefers, hmissing⟩
        exact ⟨raw, ⟨entry, hentry, hrefers⟩, hmissing⟩
    · intro fault t'
      rw [hrests.run_eq_error]
      simp only [firstUnknown_fieldRefs]

/-- A schema whose properties are declared in another order than that of their names. -/
def litter : Schema where
  name := .str "litter"
  kind := .primitive .object
  properties := [
    ("owner", { name := .str "owner", kind := .reference, ref := .str "person" }),
    ("kittens", {
      name := .str "kittens", kind := .array
      items := some {
        name := .null, kind := .array
        items := some { name := .null, kind := .reference, ref := .str "cat" } } }),
    ("born", { name := .str "born", kind := .primitive .string })]

/-- The table names all schemas that the properties refer to. -/
def litterScope : Scope := ⟨{}, [("litter", "Litter"), ("cat", "Cat"), ("person", "Person")]⟩

theorem renderSchema_linesUp_litter :
    (∃ artifact rows, (Renderer.default.renderSchema litterScope litter).run.run {} =
          (.ok artifact, {}) ∧ rows.Perm litter.properties ∧ artifact.LinesUp rows) ∧
      ∃ cause t, (Renderer.default.renderSchema
        { litterScope with names := [("litter", "Litter")] } litter).run.run {} =
          (.error (.dangling cause), t) := by
  have hdistinct : (litter.properties.map (·.1)).Nodup := by decide
  have htext : ∀ entry ∈ litter.properties, ∀ raw, entry.2.RefersTo raw → raw.IsText := by
    simp [litter, RefersTo, innermost, Json.orElse, Json.truthy, Json.IsText]
  constructor
  · have hlisted : litterScope.Lists litter.name := by simp [Scope.Lists, litter, litterScope]
    obtain ⟨rows, hperm, _, hlinesUp, hfaults⟩ := renderSchema_linesUp hdistinct {}
    specialize hfaults hlisted htext
    rcases hrun : (Renderer.default.renderSchema litterScope litter).run.run {} with
      ⟨fault | artifact, t⟩
    · obtain ⟨_, _, rfl, _⟩ := (hfaults.2 fault t).mp hrun
      have hmissing := hfaults.1.mp ⟨_, _, hrun⟩
      simp [litter, litterScope, RefersTo, innermost, Json.orElse, Json.truthy, Scope.Lists]
        at hmissing
    · obtain ⟨_, rfl⟩ := renderSchema_eq.mp hrun
      exact ⟨artifact, rows, rfl, hperm, hlinesUp artifact {} hrun⟩
  · obtain ⟨rows, _, _, _, hfaults⟩ := renderSchema_linesUp hdistinct {}
    refine (hfaults (by simp [Scope.Lists, litter]) htext).1.mpr ?_
    refine ⟨_, .tail _ (.head _), .str "cat", ?_, ?_⟩
    · simp [RefersTo, innermost, Json.orElse, Json.truthy]
    · simp [Scope.Lists]

end Schema

end ElixirClient

import ElixirClient.Proofs.Descriptor.Lookup
import ElixirClient.Proofs.Fault.Loops
import ElixirClient.Proofs.Resolver.Leaves

/-!
# Types of properties

The type of a property is written as a schema, that of a parameter or a body as a reference, and
each has a reader of its own. The two differ in what they fall back on and in which member counts
first. An object that tells its type, and whose items do at every depth, is the same to both
(`readTypeRef_of_readSchema`).
-/

namespace ElixirClient

/-- The objects that an object comes to through the items of array types, itself among them. -/
inductive ReachedByItems : Json → List (String × Json) → Prop
  | self (members : List (String × Json)) : ReachedByItems (.obj members) members
  | items {members inner : List (String × Json)} {item : Json} :
    members.lookup "$ref" = none → members.lookup "type" = some (.str "array") →
    members.lookup "items" = some item → ReachedByItems item inner →
    ReachedByItems (.obj members) inner

/-- The object refers to a schema or has a type, and is neither a module nor a union. -/
structure TellsType (members : List (String × Json)) : Prop where
  told : (members.lookup "$ref").isSome ∨ (members.lookup "type").isSome
  noModule : members.lookup "module" = none
  noUnion : members.lookup "oneOf" = none

section

variable {name value : Json} {members : List (String × Json)} {schema : Schema}

/-! ## What a schema that was read is -/

theorem readSchemaKind_array (htype : members.lookup "type" = some (.str "array")) :
    readSchemaKind name members = .ok .array := by
  unfold readSchemaKind
  rw [htype]
  rfl

/-- A kind other than that of lists is one of the primitive kinds. -/
theorem readSchemaKind_eq_ok {type : Json} {kind : SchemaKind}
    (htype : members.lookup "type" = some type) (harray : type ≠ .str "array")
    (h : readSchemaKind name members = .ok kind) :
    ∃ primitive, kind = .primitive primitive ∧
      Primitive.named? type = .ok (some primitive) := by
  unfold readSchemaKind at h
  simp only [htype, Option.getD_some, if_neg harray] at h
  obtain ⟨named, hnamed, h⟩ := bind_eq_ok.mp h
  cases named with
  | none => cases h
  | some primitive =>
    cases h
    exact ⟨primitive, rfl, hnamed⟩

/-- The kind and the items decide what reference a schema stands for. -/
theorem readSchema_eq_ok (href : members.lookup "$ref" = none)
    (h : readSchema name (.obj members) = .ok schema) :
    readSchemaKind name members = .ok schema.kind ∧
      readItemSchema? members = .ok schema.items := by
  rw [readSchema, href] at h
  obtain ⟨kind, hkind, h⟩ := bind_eq_ok.mp h
  obtain ⟨properties, _, h⟩ := bind_eq_ok.mp h
  obtain ⟨items, hitems, h⟩ := bind_eq_ok.mp h
  cases h
  exact ⟨hkind, hitems⟩

/-! ## The two readers -/

/-- A reference is by the raw name of its schema, unless that is empty and the schema that is read
has a name of its own. -/
theorem readTypeRef_of_reference {ref : Json} (href : members.lookup "$ref" = some ref)
    (hname : name.truthy = true → ref.truthy = true)
    (h : readSchema name (.obj members) = .ok schema) :
    readTypeRef (.obj members) = .ok schema.typeRef := by
  rw [readSchema, href] at h
  cases h
  rw [readTypeRef, href, Schema.typeRef, Json.orElse, Json.orElse]
  by_cases hempty : ref.truthy = true
  · rw [if_pos hempty]
  · rw [if_neg hempty, if_neg (mt hname hempty)]

/-- Items that read alike are found or missing alike. -/
theorem readItems?_of_readItemSchema? {items : Option Schema}
    (h : readItemSchema? members = .ok items)
    (hitem : ∀ item inner, members.lookup "items" = some item →
      readSchema .null item = .ok inner → readTypeRef item = .ok inner.typeRef) :
    readItems? members = .ok (items.map Schema.typeRef) := by
  rw [readItemSchema?_eq] at h
  rw [readItems?_eq]
  cases hlookup : members.lookup "items" with
  | none =>
    rw [hlookup, Option.elim_none] at h
    cases h
    rfl
  | some item =>
    rw [hlookup, Option.elim_some] at h
    rw [Option.elim_some]
    split at h
    · next hnull =>
      cases h
      rw [if_pos hnull]
      rfl
    · next hnull =>
      obtain ⟨inner, hinner, rfl⟩ := map_eq_ok.mp h
      rw [if_neg hnull]
      exact map_eq_ok.mpr ⟨inner.typeRef, hitem item inner hlookup hinner, rfl⟩

/-- Items have no name of their own, so inside of an array even an empty reference stays as it
is. -/
theorem readTypeRef_eq_typeRef : (value name : Json) → (schema : Schema) →
    readSchema name value = .ok schema →
    (∀ ref, value.member? "$ref" = some ref → name.truthy = true → ref.truthy = true) →
    (∀ members, ReachedByItems value members → TellsType members) →
    readTypeRef value = .ok schema.typeRef
  | .obj members, name, schema, h, hname, htold => by
    have hself := htold members (.self members)
    cases href : members.lookup "$ref" with
    | some ref => exact readTypeRef_of_reference href (hname ref href) h
    | none =>
      -- no reference and no module: the type is told by its kind
      have hanonymous : IsAnonymous members := ⟨href, hself.noModule⟩
      obtain ⟨hkind, hitems⟩ := readSchema_eq_ok href h
      by_cases htype : members.lookup "type" = some (.str "array")
      -- the items are read again as a reference, one level down
      · have hall : ∀ item inner, members.lookup "items" = some item →
            readSchema .null item = .ok inner → readTypeRef item = .ok inner.typeRef := by
          intro item inner hlookup hinner
          have hsize := Json.sizeOf_lookup_lt hlookup
          exact readTypeRef_eq_typeRef item .null inner hinner nofun fun deeper hdeeper =>
            htold deeper (.items href htype hlookup hdeeper)
        rw [readSchemaKind_array htype] at hkind
        rw [readTypeRef_array hanonymous hself.noUnion htype,
          readItems?_of_readItemSchema? hitems hall,
          Schema.typeRef_array (Except.ok.inj hkind).symm]
        rfl
      · obtain ⟨type, hlookup⟩ := Option.isSome_iff_exists.mp
          (hself.told.resolve_left fun h => by rw [href] at h; cases h)
        have harray : type ≠ .str "array" := fun heq => htype (heq ▸ hlookup)
        obtain ⟨primitive, hprimitive, hnamed⟩ := readSchemaKind_eq_ok hlookup harray hkind
        rw [readTypeRef_kind hanonymous hself.noUnion htype, hlookup, Option.getD_some, hnamed,
          Schema.typeRef_primitive hprimitive]
        rfl
  | .null, _, _, h, _, _ | .bool _, _, _, h, _, _ | .int _, _, _, h, _, _
  | .float _, _, _, h, _, _ | .str _, _, _, h, _, _ | .arr _, _, _, h, _, _ => by
    rw [readSchema] at h
    · cases h
    · nofun
termination_by value => sizeOf value
decreasing_by exact hsize

/-- **The two readers agree.** What is read as the schema of a property is read as a reference too,
if every object that is reached by items tells its type; where the property itself is a reference,
that must not be empty, or else the name of the property would stand in for it. The schema stands
for the very reference that is read, so with any table of names the two resolve to one node or fail
alike. -/
theorem readTypeRef_of_readSchema (h : readSchema name value = .ok schema)
    (hname : ∀ ref, value.member? "$ref" = some ref → name.truthy = true → ref.truthy = true)
    (htold : ∀ members, ReachedByItems value members → TellsType members) :
    readTypeRef value = .ok schema.typeRef ∧
      ∀ r : Resolver, readTypeRef value >>= r.resolve = r.resolve schema.typeRef := by
  have hread := readTypeRef_eq_typeRef value name schema h hname htold
  refine ⟨hread, fun r => ?_⟩
  rw [hread]
  rfl

end

/-- A list of lists of a schema. -/
def nestedLists : Json :=
  .obj [("type", .str "array"), ("items", .obj [("type", .str "array"),
    ("items", .obj [("$ref", .str "pet")])])]

theorem tellsType_nestedLists (members : List (String × Json))
    (h : ReachedByItems nestedLists members) : TellsType members := by
  unfold nestedLists at h
  cases h with
  | self => exact ⟨.inr rfl, rfl, rfl⟩
  | items _ _ hitem h =>
    cases hitem
    cases h with
    | self => exact ⟨.inr rfl, rfl, rfl⟩
    | items _ _ hitem h =>
      cases hitem
      cases h with
      | self => exact ⟨.inl rfl, rfl, rfl⟩
      | items href => cases href

theorem readTypeRef_of_readSchema_nestedLists :
    ∃ schema, readSchema (.str "litters") nestedLists = .ok schema ∧
      readTypeRef nestedLists = .ok schema.typeRef ∧
      schema.typeRef = .array (.array (.schema (.str "pet"))) := by
  refine ⟨_, rfl, ?_, rfl⟩
  exact (readTypeRef_of_readSchema rfl (fun ref href => by cases href) tellsType_nestedLists).1

end ElixirClient

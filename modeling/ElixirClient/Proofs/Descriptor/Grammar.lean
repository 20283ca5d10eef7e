import ElixirClient.Proofs.Descriptor.Misreading
import ElixirClient.Proofs.Resolver.Leaves

/-!
# The grammar of type references

Objects of five forms are references: the name of a schema, an external module, a union, an array
and a primitive kind. An object may have the members of several forms, and then the first of them
counts. `IsReference` is the set of these objects, and `TypeRef.toJson` the object that is written
for a reference.

The reader looks into the members of unions and the items of arrays (`ReachedByReading`). If these
hold what they should hold (`WellTyped`), it accepts references and refuses all other values, and it
reads what is written for a reference as this reference (`readTypeRef_exact`).
-/

namespace ElixirClient

/-- The values that references are read from. -/
inductive IsReference : Json → Prop
  | schema {members : List (String × Json)} {name : Json} :
    members.lookup "$ref" = some name → IsReference (.obj members)
  | external {members : List (String × Json)} {module : Json} :
    members.lookup "$ref" = none → members.lookup "module" = some module →
    IsReference (.obj members)
  | union {members : List (String × Json)} {items : List Json} : IsAnonymous members →
    members.lookup "oneOf" = some (.arr items) → (∀ item ∈ items, IsReference item) →
    IsReference (.obj members)
  /-- The items may be missing or null. -/
  | array {members : List (String × Json)} : IsAnonymous members →
    members.lookup "oneOf" = none → members.lookup "type" = some (.str "array") →
    (∀ item, members.lookup "items" = some item → item ≠ .null → IsReference item) →
    IsReference (.obj members)
  | primitive {members : List (String × Json)} {kind : Primitive} : IsAnonymous members →
    members.lookup "oneOf" = none → members.lookup "type" = some (.str kind.label) →
    IsReference (.obj members)

/-- The objects that an object comes to through the members of unions and the items of arrays,
itself among them. -/
inductive ReachedByReading : Json → List (String × Json) → Prop
  | self (members : List (String × Json)) : ReachedByReading (.obj members) members
  | unionMember {members inner : List (String × Json)} {items : List Json} {item : Json} :
    members.lookup "oneOf" = some (.arr items) → item ∈ items → ReachedByReading item inner →
    ReachedByReading (.obj members) inner
  | items {members inner : List (String × Json)} {item : Json} :
    members.lookup "items" = some item → ReachedByReading item inner →
    ReachedByReading (.obj members) inner

/-- The members of a union are a list, and a type is called by text. -/
structure WellTyped (members : List (String × Json)) : Prop where
  union : ∀ value, members.lookup "oneOf" = some value → ∃ items, value = .arr items
  type : ∀ value, members.lookup "type" = some value → value.IsText

namespace TypeRef

mutual
/-- The object that is written for a reference. -/
def toJson : TypeRef → Json
  | .primitive kind => .obj [("type", .str kind.label)]
  | .array item => .obj [("type", .str "array"), ("items", toJson item)]
  | .schema name => .obj [("$ref", name)]
  | .external module => .obj [("module", module)]
  | .union members => .obj [("oneOf", .arr (toJsonAll members))]
  | .stray value => value

def toJsonAll : List TypeRef → List Json
  | [] => []
  | ref :: rest => toJson ref :: toJsonAll rest
end

theorem toJsonAll_eq (refs : List TypeRef) : toJsonAll refs = refs.map toJson := by
  induction refs with
  | nil => rw [toJsonAll, List.map_nil]
  | cons ref rest ih => rw [toJsonAll, List.map_cons, ih]

end TypeRef

variable {value : Json} {members : List (String × Json)}

/-! ## What is accepted -/

/-- The kinds have different labels, so a label finds its own kind. -/
theorem named?_eq_some {kind : Primitive} :
    Primitive.named? value = .ok (some kind) ↔ value = .str kind.label := by
  constructor
  · intro h
    cases value with
    | str label =>
      have hlabel := List.find?_some (Except.ok.inj h)
      rw [of_decide_eq_true hlabel]
    | _ => cases h
  · rintro rfl
    cases kind <;> decide +kernel

/-- A union is read if all of its members are. -/
theorem succeeds_readTypeRef_union {items : List Json} (hanonymous : IsAnonymous members)
    (hone : members.lookup "oneOf" = some (.arr items)) :
    Succeeds (readTypeRef (.obj members)) ↔ ∀ item ∈ items, Succeeds (readTypeRef item) := by
  rw [readTypeRef_union hanonymous hone, readMembers_arr]
  constructor
  · rintro ⟨ref, href⟩ item hitem
    obtain ⟨refs, hrefs, _⟩ := map_eq_ok.mp href
    obtain ⟨inner, _, hinner⟩ := exists_result_of_mapM_eq_ok hrefs item hitem
    exact ⟨inner, hinner⟩
  · intro h
    obtain ⟨refs, hrefs⟩ := exists_mapM_eq_ok h
    exact ⟨_, map_eq_ok.mpr ⟨refs, hrefs, rfl⟩⟩

/-- An array may go without a type for its items, or have null there. Any other type must be a
reference. -/
theorem succeeds_readTypeRef_array (hanonymous : IsAnonymous members)
    (hone : members.lookup "oneOf" = none)
    (htype : members.lookup "type" = some (.str "array")) :
    Succeeds (readTypeRef (.obj members)) ↔
      ∀ item, members.lookup "items" = some item → item ≠ .null → Succeeds (readTypeRef item) := by
  rw [readTypeRef_array hanonymous hone htype, readItems?_eq]
  cases members.lookup "items" with
  | none => exact ⟨fun _ => nofun, fun _ => ⟨_, rfl⟩⟩
  | some item =>
    rw [Option.elim_some]
    by_cases hnull : item = .null
    · rw [if_pos hnull]
      refine ⟨?_, fun _ => ⟨_, rfl⟩⟩
      rintro _ _ ⟨⟩ hne
      exact absurd hnull hne
    · rw [if_neg hnull]
      constructor
      · rintro ⟨ref, href⟩ _ ⟨⟩ _
        obtain ⟨inner, hinner, _⟩ := map_eq_ok.mp href
        obtain ⟨found, hfound, _⟩ := map_eq_ok.mp hinner
        exact ⟨found, hfound⟩
      · intro h
        obtain ⟨found, hfound⟩ := h item rfl hnull
        rw [hfound]
        exact ⟨_, rfl⟩

theorem succeeds_readTypeRef_kind (hanonymous : IsAnonymous members)
    (hone : members.lookup "oneOf" = none)
    (htype : members.lookup "type" ≠ some (.str "array")) :
    Succeeds (readTypeRef (.obj members)) ↔
      ∃ kind : Primitive, members.lookup "type" = some (.str kind.label) := by
  rw [readTypeRef_kind hanonymous hone htype]
  constructor
  · rintro ⟨ref, href⟩
    obtain ⟨named, hnamed, href⟩ := bind_eq_ok.mp href
    cases named with
    | none => cases href
    | some kind =>
      have hlabel := named?_eq_some.mp hnamed
      cases hlookup : members.lookup "type" with
      | none =>
        rw [hlookup] at hlabel
        cases hlabel
      | some type =>
        rw [hlookup, Option.getD_some] at hlabel
        exact ⟨kind, by rw [hlabel]⟩
  · rintro ⟨kind, hkind⟩
    rw [hkind, Option.getD_some, named?_eq_some.mpr rfl]
    exact ⟨_, rfl⟩

/-- By induction on the form: each rule is what the reader asks for in this place. -/
theorem IsReference.succeeds (h : IsReference value) : Succeeds (readTypeRef value) := by
  induction h with
  | schema hname => exact readTypeRef_of_not_isAnonymous fun h => by simp [h.1] at hname
  | external _ hmodule => exact readTypeRef_of_not_isAnonymous fun h => by simp [h.2] at hmodule
  | union hanonymous hone _ ih => exact (succeeds_readTypeRef_union hanonymous hone).mpr ih
  | array hanonymous hone htype _ ih =>
    exact (succeeds_readTypeRef_array hanonymous hone htype).mpr ih
  | @primitive members kind hanonymous hone htype =>
    -- the word for arrays is no kind of its own
    have harray : members.lookup "type" ≠ some (.str "array") := by
      rw [htype]
      cases kind <;> decide
    exact (succeeds_readTypeRef_kind hanonymous hone harray).mpr ⟨kind, htype⟩

/-- Nothing but an object is a reference. -/
theorem readTypeRef_of_ne_obj (h : ∀ members, value ≠ .obj members) :
    ¬ Succeeds (readTypeRef value) := by
  rintro ⟨ref, href⟩
  rw [readTypeRef] at href
  · cases href
  · exact fun members hobj => h members hobj

/-- By recursion on the value, along the order in which the reader asks for the forms. That an
object is well typed is only used where the reader looks. -/
theorem isReference_of_succeeds : (value : Json) →
    (∀ members, ReachedByReading value members → WellTyped members) →
    Succeeds (readTypeRef value) → IsReference value
  | .obj members, htyped, h => by
    by_cases hanonymous : IsAnonymous members
    -- no name and no module: the union counts before the kind
    · cases hone : members.lookup "oneOf" with
      | some union =>
        obtain ⟨items, rfl⟩ := (htyped members (.self members)).union union hone
        rw [succeeds_readTypeRef_union hanonymous hone] at h
        refine .union hanonymous hone fun item hitem => ?_
        have hsize := Nat.lt_trans (Json.sizeOf_item_lt hitem) (Json.sizeOf_lookup_lt hone)
        exact isReference_of_succeeds item
          (fun inner hinner => htyped inner (.unionMember hone hitem hinner)) (h item hitem)
      | none =>
        by_cases htype : members.lookup "type" = some (.str "array")
        · rw [succeeds_readTypeRef_array hanonymous hone htype] at h
          refine .array hanonymous hone htype fun item hitem hnull => ?_
          have hsize := Json.sizeOf_lookup_lt hitem
          exact isReference_of_succeeds item
            (fun inner hinner => htyped inner (.items hitem hinner)) (h item hitem hnull)
        · obtain ⟨kind, hkind⟩ := (succeeds_readTypeRef_kind hanonymous hone htype).mp h
          exact .primitive hanonymous hone hkind
    · cases href : members.lookup "$ref" with
      | some name => exact .schema href
      | none =>
        cases hmodule : members.lookup "module" with
        | some module => exact .external href hmodule
        | none => exact absurd ⟨href, hmodule⟩ hanonymous
  | .null, _, h | .bool _, _, h | .int _, _, h | .float _, _, h | .str _, _, h | .arr _, _, h =>
    absurd h (readTypeRef_of_ne_obj fun _ => Json.noConfusion)
termination_by value => sizeOf value
decreasing_by all_goals exact hsize

/-! ## What is refused -/

/-- Where the values hold what they should hold, nothing is misread. -/
theorem not_misreadReference
    (htyped : ∀ members, ReachedByReading value members → WellTyped members) :
    ¬ MisreadReference value := by
  intro h
  induction h with
  | union _ hone hvalue =>
    obtain ⟨items, rfl⟩ := (htyped _ (.self _)).union _ hone
    cases hvalue
  | unionMember _ hone _ _ ih =>
    exact ih fun inner hinner => htyped inner (.unionMember hone List.mem_append_cons_self hinner)
  | items _ _ _ hitem _ ih => exact ih fun inner hinner => htyped inner (.items hitem hinner)
  | kind _ _ htype hcomposite =>
    obtain ⟨text, rfl⟩ := (htyped _ (.self _)).type _ htype
    exact hcomposite

/-! ## What is written -/

/-- What is written for a reference is read as this reference. -/
theorem readTypeRef_toJson {ref : TypeRef} (h : ref.Proper) : readTypeRef ref.toJson = .ok ref := by
  induction ref using TypeRef.induction with
  | primitive kind => cases kind <;> rfl
  | array item ih =>
    have hitem : item.Proper := by rwa [TypeRef.Proper, TypeRef.leaves_array] at h
    have hread := ih hitem
    -- no reference is written as null, so the items are read
    have hnull : item.toJson ≠ .null := fun hnull =>
      readTypeRef_of_ne_obj (fun _ => Json.noConfusion) ⟨item, hnull ▸ hread⟩
    rw [TypeRef.toJson, readTypeRef_array ⟨rfl, rfl⟩ rfl rfl, readItems?_eq]
    show _ <$> (if item.toJson = .null then _ else some <$> readTypeRef item.toJson) = _
    rw [if_neg hnull, hread]
    rfl
  | schema name => rfl
  | external module => rfl
  | union members ih =>
    have hmembers : members.mapM (readTypeRef ∘ TypeRef.toJson) = .ok members := by
      have hread := mapM_of_forall (g := id) fun ref href =>
        ih ref href (TypeRef.proper_union.mp h ref href)
      rwa [List.map_id] at hread
    rw [TypeRef.toJson, readTypeRef_union ⟨rfl, rfl⟩ rfl, readMembers_arr, TypeRef.toJsonAll_eq,
      List.mapM_map, hmembers]
    rfl
  | stray value => exact absurd h (by simp [TypeRef.Proper, TypeRef.IsProper])

/-- **References are read exactly.** Of the values in which unions are lists and types are called by
text, those are accepted that are references, and all others are refused with a cause. Whatever is
written for a reference is read as this reference. -/
theorem readTypeRef_exact :
    (∀ value, (∀ members, ReachedByReading value members → WellTyped members) →
      ((∃ ref, readTypeRef value = .ok ref) ↔ IsReference value) ∧
        (¬ IsReference value → ∃ cause, readTypeRef value = .error (.descriptor cause))) ∧
      ∀ ref : TypeRef, ref.Proper → readTypeRef ref.toJson = .ok ref := by
  refine ⟨fun value htyped => ?_, fun ref => readTypeRef_toJson⟩
  have haccepts : (∃ ref, readTypeRef value = .ok ref) ↔ IsReference value :=
    ⟨isReference_of_succeeds value htyped, IsReference.succeeds⟩
  refine ⟨haccepts, fun hvalue => ?_⟩
  cases h : readTypeRef value with
  | ok ref => exact absurd (haccepts.mp ⟨ref, h⟩) hvalue
  | error fault =>
    cases readTypeRef_faults value fault h with
    | refused cause => exact ⟨cause, rfl⟩
    | misused hmisread => exact absurd hmisread.2 (not_misreadReference htyped)

/-- A union whose last member is an array of something that is no type. -/
def unionWithTuple : Json :=
  .obj [("oneOf", .arr [.obj [("$ref", .str "pet"), ("type", .str "tuple")],
    .obj [("type", .str "array"), ("items", .null)],
    .obj [("type", .str "array"), ("items", .obj [("type", .str "tuple")])]])]

theorem wellTyped_unionWithTuple (members : List (String × Json))
    (h : ReachedByReading unionWithTuple members) : WellTyped members := by
  have htext (text : String) (value : Json) (h : some (Json.str text) = some value) :
      value.IsText := ⟨text, (Option.some.inj h).symm⟩
  unfold unionWithTuple at h
  cases h with
  | self => exact ⟨fun value h => ⟨_, (Option.some.inj h).symm⟩, nofun⟩
  | items hitem => cases hitem
  | unionMember hone hmem h =>
    cases hone
    simp only [List.mem_cons, List.not_mem_nil, or_false] at hmem
    rcases hmem with rfl | rfl | rfl
    · cases h with
      | self => exact ⟨nofun, htext "tuple"⟩
      | unionMember hone => cases hone
      | items hitem => cases hitem
    · cases h with
      | self => exact ⟨nofun, htext "array"⟩
      | unionMember hone => cases hone
      | items hitem h =>
        cases hitem
        cases h
    · cases h with
      | self => exact ⟨nofun, htext "array"⟩
      | unionMember hone => cases hone
      | items hitem h =>
        cases hitem
        cases h with
        | self => exact ⟨nofun, htext "tuple"⟩
        | unionMember hone => cases hone
        | items hitem => cases hitem

theorem readTypeRef_exact_unionWithTuple :
    (¬ IsReference unionWithTuple ∧
      ∃ cause, readTypeRef unionWithTuple = .error (.descriptor cause)) ∧
      readTypeRef (TypeRef.union [.array (.schema (.str "pet")), .primitive .null]).toJson =
        .ok (.union [.array (.schema (.str "pet")), .primitive .null]) := by
  obtain ⟨haccepts, hrefuses⟩ := readTypeRef_exact.1 unionWithTuple wellTyped_unionWithTuple
  have hvalue : ¬ IsReference unionWithTuple := fun h => by
    obtain ⟨ref, href⟩ := haccepts.mpr h
    cases href
  refine ⟨⟨hvalue, hrefuses hvalue⟩, readTypeRef_exact.2 _ ?_⟩
  simp [TypeRef.Proper, TypeRef.IsProper]

end ElixirClient

import ElixirClient.Proofs.Descriptor.Lookup
import ElixirClient.Proofs.Fault.Confined
import ElixirClient.Proofs.Fault.First

/-!
# References and schemas that are misread

What is wrong with a descriptor is refused with a cause of its own, but not everywhere: some values
are gone through, taken apart or looked up before their kind is known. The relations of this file
say where, at every depth, and with what misuse. A value is reached only if all that is read before
it can be read, so the rules of a relation name what comes first.

`readTypeRef_eq_misuse` and `readSchema_eq_misuse`: reading ends in a misuse exactly if the value is
misread.
-/

namespace ElixirClient

/-- The fault is a refusal, or one of the misuses that are accounted for. -/
inductive Fault.RefusedOr {γ : Type} (refusal : γ → Fault) (Misread : Misuse → Prop) : Fault → Prop
  | refused (cause : γ) : RefusedOr refusal Misread (refusal cause)
  | misused {cause : Misuse} : Misread cause → RefusedOr refusal Misread (.misuse cause)

theorem Fault.RefusedOr.imp {γ : Type} {refusal : γ → Fault} {Misread Misread' : Misuse → Prop}
    {fault : Fault} (h : RefusedOr refusal Misread fault)
    (himp : ∀ cause, Misread cause → Misread' cause) : RefusedOr refusal Misread' fault := by
  cases h with
  | refused cause => exact .refused cause
  | misused hcause => exact .misused (himp _ hcause)

/-- A list or an object. -/
def Json.IsComposite : Json → Prop
  | .arr _ | .obj _ => True
  | _ => False

/-! ## Lists -/

/-- Going through a value ends in a misuse: that cannot be done, or one of its items is misread. -/
inductive MisreadEach {α : Type} (read : Json → Except Fault α) (Misread : Misuse → Json → Prop) :
    Misuse → Json → Prop
  | whole {value : Json} : value.elements? = none → MisreadEach read Misread .wrongKind value
  | item {cause : Misuse} {value : Json} {items : List Json} : value.elements? = some items →
    FirstOf (fun item => Succeeds (read item)) (Misread cause) items →
    MisreadEach read Misread cause value

/-- A list is misread as a whole, or at its first item that is misread with all before it read. -/
theorem readEach_eq_misuse {α : Type} {read : Json → Except Fault α}
    {Misread : Misuse → Json → Prop} {cause : Misuse} {value : Json}
    (h : ∀ item, read item = .error (.misuse cause) ↔ Misread cause item) :
    readEach read value = .error (.misuse cause) ↔ MisreadEach read Misread cause value := by
  rw [readEach_eq_error]
  constructor
  · rintro (⟨hcause, hvalue⟩ | ⟨items, hitems, hfirst⟩)
    · cases hcause
      exact .whole hvalue
    · exact .item hitems (hfirst.imp fun item _ => (h item).mp)
  · rintro (hvalue | ⟨hitems, hfirst⟩)
    · exact .inl ⟨rfl, hvalue⟩
    · exact .inr ⟨_, hitems, hfirst.imp fun item _ => (h item).mpr⟩

/-! ## Type references -/

/-- References whose reading ends in a misuse, which is always a wrong kind. -/
inductive MisreadReference : Json → Prop
  /-- The members of a union cannot be gone through. -/
  | union {members : List (String × Json)} {value : Json} : IsAnonymous members →
    members.lookup "oneOf" = some value → value.elements? = none →
    MisreadReference (.obj members)
  | unionMember {members : List (String × Json)} {before behind : List Json} {item : Json} :
    IsAnonymous members → members.lookup "oneOf" = some (.arr (before ++ item :: behind)) →
    (∀ earlier ∈ before, Succeeds (readTypeRef earlier)) → MisreadReference item →
    MisreadReference (.obj members)
  | items {members : List (String × Json)} {value : Json} : IsAnonymous members →
    members.lookup "oneOf" = none → members.lookup "type" = some (.str "array") →
    members.lookup "items" = some value → MisreadReference value →
    MisreadReference (.obj members)
  /-- A list or an object cannot be looked up among the kinds. -/
  | kind {members : List (String × Json)} {value : Json} : IsAnonymous members →
    members.lookup "oneOf" = none → members.lookup "type" = some value → value.IsComposite →
    MisreadReference (.obj members)

section References

variable {value : Json} {members : List (String × Json)} {fault : Fault} {cause : Misuse}

/-- Looking a kind up hashes it. Only lists and objects cannot be hashed; any other value is at
worst an unknown kind. -/
theorem named?_eq_error :
    Primitive.named? value = .error fault ↔ fault = .wrongKind ∧ value.IsComposite := by
  cases value with
  | arr | obj =>
    exact ⟨fun h => ⟨(Except.error.inj h).symm, trivial⟩, fun h => congrArg _ h.1.symm⟩
  | _ => exact ⟨nofun, fun h => h.2.elim⟩

theorem readMembers_arr (items : List Json) :
    readMembers (.arr items) = items.mapM readTypeRef := by
  rw [readMembers, readAll_eq]

/-- Only in a list there are references to misread. -/
theorem readMembers_eq_error (h : readMembers value = .error fault) :
    (∃ cause, fault = .descriptor cause) ∨ (fault = .wrongKind ∧ value.elements? = none) ∨
      ∃ items, value = .arr items ∧
        FirstOf (fun item => Succeeds (readTypeRef item)) (readTypeRef · = .error fault) items := by
  cases value with
  | arr items =>
    rw [readMembers_arr] at h
    exact .inr (.inr ⟨items, rfl, mapM_eq_error.mp h⟩)
  | _ =>
    rw [readMembers] at h
    · rcases bind_eq_error.mp h with h | ⟨items, _, h⟩
      · exact .inr (.inl (Json.elements_eq_error.mp h))
      · cases items with
        | nil => cases h
        | cons item rest =>
          cases h
          exact .inl ⟨_, rfl⟩
    · nofun

/-- A text and an object have elements too, so a union over a number, a truth value or null is the
misuse. -/
theorem readMembers_of_elements?_eq_none (h : value.elements? = none) :
    readMembers value = .error .wrongKind := by
  cases value with
  | arr items => cases h
  | _ =>
    rw [readMembers]
    · exact bind_eq_error.mpr (.inl (Json.elements_eq_error.mpr ⟨rfl, h⟩))
    · nofun

/-- Only what is there can go wrong. -/
theorem elim_eq_error {α : Type} {absent : α} {found : Json → Except Fault α}
    {value? : Option Json} :
    value?.elim (.ok absent) found = .error fault ↔
      ∃ value, value? = some value ∧ found value = .error fault := by
  cases value? with
  | none => exact ⟨nofun, nofun⟩
  | some value =>
    refine ⟨fun h => ⟨value, rfl, h⟩, ?_⟩
    rintro ⟨_, ⟨⟩, h⟩
    exact h

theorem unlessNull_eq_error {α : Type} {read : Json → Except Fault α} :
    (if value = .null then .ok none else some <$> read value) = .error fault ↔
      value ≠ .null ∧ read value = .error fault := by
  split
  · next hnull => exact ⟨nofun, fun h => absurd hnull h.1⟩
  · next hnull => rw [map_eq_error, and_iff_right hnull]

theorem readItems?_eq_error :
    readItems? members = .error fault ↔ ∃ item, members.lookup "items" = some item ∧
      item ≠ .null ∧ readTypeRef item = .error fault := by
  simp only [readItems?_eq, elim_eq_error, unlessNull_eq_error]

/-- What is there in place of a missing value is no list and no object. -/
theorem exists_composite {value? : Option Json} {absent : Json}
    (h : (value?.getD absent).IsComposite) (habsent : ¬ absent.IsComposite) :
    ∃ value, value? = some value ∧ value.IsComposite := by
  cases value? with
  | none => exact absurd h habsent
  | some value => exact ⟨value, rfl, h⟩

theorem MisreadReference.ne_null (h : MisreadReference value) : value ≠ .null := by
  rintro rfl
  cases h

/-- The faults of reading a reference. -/
theorem readTypeRef_faults (value : Json) :
    Confined (Fault.RefusedOr .descriptor fun cause => cause = .wrongKind ∧ MisreadReference value)
      (readTypeRef value) := by
  cases value with
  | obj members =>
    by_cases hanonymous : IsAnonymous members
    · cases hone : members.lookup "oneOf" with
      | some union =>
        rw [readTypeRef_union hanonymous hone]
        intro fault h
        rcases readMembers_eq_error (map_eq_error.mp h) with
          ⟨cause, rfl⟩ | ⟨rfl, hunion⟩ | ⟨items, rfl, before, item, behind, rfl, hbefore, hitem⟩
        · exact .refused cause
        · exact .misused ⟨rfl, .union hanonymous hone hunion⟩
        · have hlist := Json.sizeOf_lookup_lt hone
          have hmem : item ∈ before ++ item :: behind := List.mem_append_cons_self
          have hsize := Nat.lt_trans (Json.sizeOf_item_lt hmem) hlist
          exact (readTypeRef_faults item fault hitem).imp fun cause h =>
            ⟨h.1, .unionMember hanonymous hone hbefore h.2⟩
      | none =>
        by_cases htype : members.lookup "type" = some (.str "array")
        · rw [readTypeRef_array hanonymous hone htype]
          intro fault h
          obtain ⟨item, hitem, _, h⟩ := readItems?_eq_error.mp (map_eq_error.mp h)
          have hsize := Json.sizeOf_lookup_lt hitem
          exact (readTypeRef_faults item fault h).imp fun cause h =>
            ⟨h.1, .items hanonymous hone htype hitem h.2⟩
        · rw [readTypeRef_kind hanonymous hone htype]
          intro fault h
          rcases bind_eq_error.mp h with h | ⟨kind?, _, h⟩
          · obtain ⟨rfl, hcomposite⟩ := named?_eq_error.mp h
            obtain ⟨type, hlookup, hcomposite⟩ := exists_composite hcomposite id
            exact .misused ⟨rfl, .kind hanonymous hone hlookup hcomposite⟩
          · cases kind? with
            | some kind => cases h
            | none =>
              cases h
              exact .refused _
    · obtain ⟨ref, href⟩ := readTypeRef_of_not_isAnonymous hanonymous
      rw [href]
      exact .ok ref
  | _ =>
    rw [readTypeRef]
    · exact .error (.refused _)
    · intro members h
      cases h
termination_by sizeOf value
decreasing_by all_goals exact hsize

/-- One rule of the relation after the other: what comes before the misread part is read, and then
the reader gets stuck at it. -/
theorem readTypeRef_of_misread (h : MisreadReference value) :
    readTypeRef value = .error .wrongKind := by
  induction h with
  | @union members value hanonymous hone hvalue =>
    rw [readTypeRef_union hanonymous hone, map_eq_error]
    exact readMembers_of_elements?_eq_none hvalue
  | unionMember hanonymous hone hbefore _ ih =>
    rw [readTypeRef_union hanonymous hone, map_eq_error, readMembers_arr]
    exact mapM_eq_error.mpr ⟨_, _, _, rfl, hbefore, ih⟩
  | items hanonymous hone htype hitems hmisread ih =>
    rw [readTypeRef_array hanonymous hone htype, map_eq_error, readItems?_eq_error]
    exact ⟨_, hitems, hmisread.ne_null, ih⟩
  | kind hanonymous hone htype hcomposite =>
    rw [readTypeRef_kind hanonymous hone, htype, Option.getD_some,
      named?_eq_error.mpr ⟨rfl, hcomposite⟩]
    · rfl
    -- the kind that cannot be hashed is not the word for arrays either
    · rw [htype]
      rintro ⟨⟩
      exact hcomposite

/-- **Misread references.** -/
theorem readTypeRef_eq_misuse :
    readTypeRef value = .error (.misuse cause) ↔ cause = .wrongKind ∧ MisreadReference value := by
  constructor
  · intro h
    cases readTypeRef_faults value _ h with
    | misused hcause => exact hcause
  · rintro ⟨rfl, h⟩
    exact readTypeRef_of_misread h

end References

/-! ## Schemas -/

/-- The object has a kind of schemas as its `type`, or none. -/
def HasSchemaKind (members : List (String × Json)) : Prop :=
  (members.lookup "type").getD (.str "object") = .str "array" ∨
    ∃ kind, Primitive.named? ((members.lookup "type").getD (.str "object")) = .ok (some kind)

/-- Schemas and properties whose reading ends in a misuse. -/
inductive MisreadSchema : Misuse → Json → Prop
  /-- A list or an object cannot be looked up among the kinds. -/
  | kind {members : List (String × Json)} {value : Json} : members.lookup "$ref" = none →
    members.lookup "type" = some value → value.IsComposite →
    MisreadSchema .wrongKind (.obj members)
  /-- What is no object has no members to be properties. -/
  | properties {members : List (String × Json)} {value : Json} : members.lookup "$ref" = none →
    HasSchemaKind members → members.lookup "properties" = some value → value.isObject = false →
    MisreadSchema .noSuchMember (.obj members)
  | property {cause : Misuse} {members before behind : List (String × Json)} {key : String}
    {value : Json} : members.lookup "$ref" = none → HasSchemaKind members →
    members.lookup "properties" = some (.obj (before ++ (key, value) :: behind)) →
    (∀ earlier ∈ before, Succeeds (readProperty earlier)) → MisreadSchema cause value →
    MisreadSchema cause (.obj members)
  | items {cause : Misuse} {members : List (String × Json)} {value : Json} :
    members.lookup "$ref" = none → HasSchemaKind members → Succeeds (readProperties members) →
    members.lookup "items" = some value → MisreadSchema cause value →
    MisreadSchema cause (.obj members)

section Schemas

variable {name value : Json} {members : List (String × Json)} {fault : Fault} {cause : Misuse}

theorem readSchemaKind_faults :
    Confined (Fault.RefusedOr .descriptor fun cause => cause = .wrongKind ∧
      ∃ value, members.lookup "type" = some value ∧ value.IsComposite)
      (readSchemaKind name members) := by
  unfold readSchemaKind
  simp only
  split
  · exact .ok _
  · refine .bind (fun fault h => ?_) fun kind? _ => ?_
    · obtain ⟨rfl, hcomposite⟩ := named?_eq_error.mp h
      exact .misused ⟨rfl, exists_composite hcomposite id⟩
    · cases kind? with
      | some kind => exact .ok _
      | none => exact .error (.refused _)

theorem readSchemaKind_of_composite (hlookup : members.lookup "type" = some value)
    (h : value.IsComposite) : readSchemaKind name members = .error .wrongKind := by
  unfold readSchemaKind
  rw [hlookup, Option.getD_some]
  simp only
  split
  · next hlist =>
    subst hlist
    exact h.elim
  · exact bind_eq_error.mpr (.inl (named?_eq_error.mpr ⟨rfl, h⟩))

/-- The kind is read exactly if it is the word for arrays or one that has a name. -/
theorem succeeds_readSchemaKind : Succeeds (readSchemaKind name members) ↔ HasSchemaKind members := by
  unfold readSchemaKind HasSchemaKind
  simp only
  split
  · next hlist => exact ⟨fun _ => .inl hlist, fun _ => ⟨_, rfl⟩⟩
  · next hlist =>
    constructor
    · rintro ⟨kind, h⟩
      obtain ⟨kind?, hnamed, h⟩ := bind_eq_ok.mp h
      cases kind? with
      | some kind => exact .inr ⟨kind, hnamed⟩
      | none => cases h
    · rintro (h | ⟨kind, hnamed⟩)
      · exact absurd h hlist
      · exact ⟨.primitive kind, bind_eq_ok.mpr ⟨_, hnamed, rfl⟩⟩

/-- The kind is read first, then the properties in order, then the items. -/
theorem readSchema_eq_error (href : members.lookup "$ref" = none) :
    readSchema name (.obj members) = .error fault ↔
      readSchemaKind name members = .error fault ∨ HasSchemaKind members ∧
        (readProperties members = .error fault ∨ Succeeds (readProperties members) ∧
          readItemSchema? members = .error fault) := by
  rw [readSchema, href, ← @succeeds_readSchemaKind name members]
  refine seq_eq_error fun kind _ => seq_eq_error fun properties _ => ?_
  exact bind_ok_eq_error

theorem readProperty_eq_error {member : String × Json} :
    readProperty member = .error fault ↔
      readSchema (.str member.1) member.2 = .error fault :=
  bind_ok_eq_error

/-- The object of properties is taken apart as an object, so that anything else is a missing member;
and the first property that has a fault decides. -/
theorem readPropertyObject_eq_error :
    readPropertyObject value = .error fault ↔
      (fault = .noSuchMember ∧ value.isObject = false) ∨ ∃ properties, value = .obj properties ∧
        FirstOf (fun member => Succeeds (readProperty member))
          (fun member => readSchema (.str member.1) member.2 = .error fault) properties := by
  cases value with
  | obj properties =>
    rw [readPropertyObject, readPropertyList_eq, mapM_eq_error]
    simp only [readProperty_eq_error]
    constructor
    · intro h
      exact .inr ⟨properties, rfl, h⟩
    · rintro (⟨_, h⟩ | ⟨_, ⟨⟩, h⟩)
      · cases h
      · exact h
  | _ =>
    constructor
    · intro h
      exact .inl ⟨(Except.error.inj h).symm, rfl⟩
    · rintro (⟨rfl, _⟩ | ⟨_, ⟨⟩, _⟩)
      rfl

theorem readProperties_eq_error :
    readProperties members = .error fault ↔ ∃ value, members.lookup "properties" = some value ∧
      readPropertyObject value = .error fault := by
  rw [readProperties_eq, elim_eq_error]

theorem readItemSchema?_eq_error :
    readItemSchema? members = .error fault ↔ ∃ item, members.lookup "items" = some item ∧
      item ≠ .null ∧ readSchema .null item = .error fault := by
  simp only [readItemSchema?_eq, elim_eq_error, unlessNull_eq_error]

theorem MisreadSchema.ne_null (h : MisreadSchema cause value) : value ≠ .null := by
  rintro rfl
  cases h

/-- The faults of reading a schema. -/
theorem readSchema_faults (name value : Json) :
    Confined (Fault.RefusedOr .descriptor fun cause => MisreadSchema cause value)
      (readSchema name value) := by
  cases value with
  | obj members =>
    cases href : members.lookup "$ref" with
    | some ref =>
      rw [readSchema, href]
      exact .ok _
    | none =>
      intro fault h
      -- the three things that are read of a schema, in their order
      rcases (readSchema_eq_error href).mp h with h | ⟨hkind, h | ⟨hproperties, h⟩⟩
      · refine (readSchemaKind_faults fault h).imp ?_
        rintro cause ⟨rfl, type, htype, hcomposite⟩
        exact .kind href htype hcomposite
      · obtain ⟨properties, hlookup, h⟩ := readProperties_eq_error.mp h
        rcases readPropertyObject_eq_error.mp h with
          ⟨rfl, hobject⟩ | ⟨list, rfl, before, ⟨key, property⟩, behind, rfl, hbefore, h⟩
        · exact .misused (.properties href hkind hlookup hobject)
        · have hobject := Json.sizeOf_lookup_lt hlookup
          have hmem : (key, property) ∈ before ++ (key, property) :: behind :=
            List.mem_append_cons_self
          have hsize := Nat.lt_trans (Json.sizeOf_member_lt hmem) hobject
          exact (readSchema_faults (.str key) property fault h).imp fun cause hmisread =>
            .property href hkind hlookup hbefore hmisread
      · obtain ⟨items, hlookup, _, h⟩ := readItemSchema?_eq_error.mp h
        have hsize := Json.sizeOf_lookup_lt hlookup
        exact (readSchema_faults .null items fault h).imp fun cause hmisread =>
          .items href hkind hproperties hlookup hmisread
  | _ =>
    rw [readSchema]
    · exact .error (.refused _)
    · nofun
termination_by sizeOf value
decreasing_by all_goals exact hsize

/-- As `readTypeRef_of_misread`. A property and an item are read under names of their own, so the
name is general. -/
theorem readSchema_of_misread (h : MisreadSchema cause value) (name : Json) :
    readSchema name value = .error (.misuse cause) := by
  induction h generalizing name with
  | kind href htype hcomposite =>
    exact (readSchema_eq_error href).mpr (.inl (readSchemaKind_of_composite htype hcomposite))
  | properties href hkind hlookup hobject =>
    refine (readSchema_eq_error href).mpr (.inr ⟨hkind, .inl ?_⟩)
    refine readProperties_eq_error.mpr ⟨_, hlookup, ?_⟩
    exact readPropertyObject_eq_error.mpr (.inl ⟨rfl, hobject⟩)
  -- the rule has the properties in front of this one read
  | property href hkind hlookup hbefore _ ih =>
    refine (readSchema_eq_error href).mpr (.inr ⟨hkind, .inl ?_⟩)
    refine readProperties_eq_error.mpr ⟨_, hlookup, ?_⟩
    exact readPropertyObject_eq_error.mpr (.inr ⟨_, rfl, _, _, _, rfl, hbefore, ih _⟩)
  | items href hkind hproperties hlookup hmisread ih =>
    refine (readSchema_eq_error href).mpr (.inr ⟨hkind, .inr ⟨hproperties, ?_⟩⟩)
    exact readItemSchema?_eq_error.mpr ⟨_, hlookup, hmisread.ne_null, ih .null⟩

/-- **Misread schemas.** The name a schema is known by plays no part. -/
theorem readSchema_eq_misuse :
    readSchema name value = .error (.misuse cause) ↔ MisreadSchema cause value := by
  constructor
  · intro h
    cases readSchema_faults name value _ h with
    | misused hcause => exact hcause
  · intro h
    exact readSchema_of_misread h name

end Schemas

end ElixirClient

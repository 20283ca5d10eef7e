import Mathlib.Data.List.Basic
import ElixirClient.Descriptor.Reader
import ElixirClient.Proofs.Fault.Loops

/-!
# Readers by what they look up

The readers of references and schemas go through the members of an object themselves, so that their
recursion follows the value. Here each is put as what it does with the one member that it looks for
(`eq_elim_lookup`). A member that is found is smaller than its object (`Json.sizeOf_lookup_lt`), so
an induction on the size of the value goes along.
-/

namespace ElixirClient

variable {key : String} {value : Json} {members : List (String × Json)}

/-! ## Sizes -/

/-- For inductions on the size of a value: what stands in a list is smaller. -/
theorem Json.sizeOf_item_lt {items : List Json} (h : value ∈ items) :
    sizeOf value < sizeOf (Json.arr items) := by
  have hsize := List.sizeOf_lt_of_mem h
  rw [Json.arr.sizeOf_spec]
  omega

theorem Json.sizeOf_member_lt (h : (key, value) ∈ members) :
    sizeOf value < sizeOf (Json.obj members) := by
  have hsize := List.sizeOf_lt_of_mem h
  rw [Prod.mk.sizeOf_spec] at hsize
  rw [Json.obj.sizeOf_spec]
  omega

theorem Json.sizeOf_lookup_lt (h : members.lookup key = some value) :
    sizeOf value < sizeOf (Json.obj members) := by
  obtain ⟨before, behind, rfl, _⟩ := List.lookup_eq_some_iff.mp h
  exact Json.sizeOf_member_lt List.mem_append_cons_self

/-! ## Members -/

/-- What goes on until it comes to a key does no more than look the key up. -/
theorem eq_elim_lookup {α : Type} {f : List (String × Json) → α} {absent : α} {found : Json → α}
    (hnil : f [] = absent)
    (hcons : ∀ k v rest, f ((k, v) :: rest) = if k = key then found v else f rest)
    (members : List (String × Json)) : f members = (members.lookup key).elim absent found := by
  induction members with
  | nil => exact hnil
  | cons member rest ih =>
    obtain ⟨k, v⟩ := member
    rw [hcons, List.lookup_cons]
    split
    · next h => rw [h, beq_self_eq_true, Option.elim_some]
    · next h => rw [beq_false_of_ne (Ne.symm h), ih]

theorem readUnion?_eq (members : List (String × Json)) :
    readUnion? members =
      (members.lookup "oneOf").elim (.ok none) fun value => some <$> readMembers value :=
  eq_elim_lookup (by rw [readUnion?]) (fun _ _ _ => by rw [readUnion?]) members

/-- Items that are null count as missing. -/
theorem readItems?_eq (members : List (String × Json)) :
    readItems? members = (members.lookup "items").elim (.ok none) fun value =>
      if value = .null then .ok none else some <$> readTypeRef value :=
  eq_elim_lookup (by rw [readItems?]) (fun _ _ _ => by rw [readItems?]) members

/-- In a schema, items are read as a schema without a name. -/
theorem readItemSchema?_eq (members : List (String × Json)) :
    readItemSchema? members = (members.lookup "items").elim (.ok none) fun value =>
      if value = .null then .ok none else some <$> readSchema .null value :=
  eq_elim_lookup (by rw [readItemSchema?]) (fun _ _ _ => by rw [readItemSchema?]) members

/-- Reads the object that has the properties of a schema as its members. -/
def readPropertyObject : Json → Except Fault (List (String × Schema))
  | .obj members => readPropertyList members
  | _ => .error .noSuchMember

theorem readProperties_eq (members : List (String × Json)) :
    readProperties members = (members.lookup "properties").elim (.ok []) readPropertyObject := by
  refine eq_elim_lookup (by rw [readProperties]) (fun key value rest => ?_) members
  -- a value that is no object is refused by both
  cases value with
  | obj properties => rw [readProperties, readPropertyObject]
  | _ => rfl

/-! ## References without a name -/

/-- The object names neither a schema nor a module. -/
def IsAnonymous (members : List (String × Json)) : Prop :=
  members.lookup "$ref" = none ∧ members.lookup "module" = none

/-- An object with a name or with a module is a reference, whatever else it holds. -/
theorem readTypeRef_of_not_isAnonymous (h : ¬ IsAnonymous members) :
    ∃ ref, readTypeRef (.obj members) = .ok ref := by
  rw [readTypeRef]
  -- a name, a module, or neither of them
  split
  · exact ⟨_, rfl⟩
  · exact ⟨_, rfl⟩
  · next href hmodule => exact absurd ⟨href, hmodule⟩ h

/-- Of the members of an anonymous object, `oneOf` comes first. -/
theorem readTypeRef_union (h : IsAnonymous members) (hone : members.lookup "oneOf" = some value) :
    readTypeRef (.obj members) = .union <$> readMembers value := by
  rw [readTypeRef, h.1, h.2, readUnion?_eq, hone, Option.elim_some]
  cases readMembers value <;> rfl

/-- Then the type decides, and an array is read with its items. -/
theorem readTypeRef_array (h : IsAnonymous members) (hone : members.lookup "oneOf" = none)
    (htype : members.lookup "type" = some (.str "array")) :
    readTypeRef (.obj members) =
      (fun item => .array (item.getD (.primitive .any))) <$> readItems? members := by
  rw [readTypeRef, h.1, h.2, readUnion?_eq, hone, Option.elim_none]
  simp only [htype]
  cases readItems? members <;> rfl

/-- Any other type must be the name of a primitive one. A missing type is read as null, which names
none. -/
theorem readTypeRef_kind (h : IsAnonymous members) (hone : members.lookup "oneOf" = none)
    (htype : members.lookup "type" ≠ some (.str "array")) :
    readTypeRef (.obj members) = (do
      match ← Primitive.named? ((members.lookup "type").getD .null) with
      | some kind => return .primitive kind
      | none => refuseDescriptor (.unsupportedReference (.obj members))) := by
  rw [readTypeRef, h.1, h.2, readUnion?_eq, hone, Option.elim_none]
  exact if_neg htype

/-! ## Lists -/

theorem readAll_eq (items : List Json) : readAll items = items.mapM readTypeRef :=
  eq_mapM (by rw [readAll]) (fun _ _ => by rw [readAll]) items

/-- Reads a property, which is known by its key. -/
def readProperty (member : String × Json) : Except Fault (String × Schema) := do
  return (member.1, ← readSchema (.str member.1) member.2)

theorem readPropertyList_eq (members : List (String × Json)) :
    readPropertyList members = members.mapM readProperty := by
  refine eq_mapM (by rw [readPropertyList]) (fun member rest => ?_) members
  rw [readPropertyList, readProperty, bind_assoc]
  rfl

end ElixirClient

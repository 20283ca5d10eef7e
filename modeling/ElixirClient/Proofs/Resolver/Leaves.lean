import Mathlib.Data.List.Basic
import ElixirClient.Proofs.Fault.Loops
import ElixirClient.Proofs.Json.Sorting
import ElixirClient.Resolver

/-!
# The leaves of a type reference

Arrays and unions only arrange other references; what a reference says is in its leaves. A statement
about all of a reference goes by `TypeRef.induction`, in which the members of a union are at hand
one by one, and `resolve_union` takes a union to the same form.

`Proper` and `TextNamed` are what can be asked of the leaves: that each of them is a reference at
all, and that schemas and modules are called by text. Both together make a reference `Sound`.
-/

namespace ElixirClient

namespace TypeRef

/-- Induction on a reference with the members of a union given one by one. The recursor of the type
itself has them as a list with a motive of its own. -/
@[elab_as_elim]
theorem induction {motive : TypeRef → Prop} (primitive : ∀ kind, motive (.primitive kind))
    (array : ∀ item, motive item → motive (.array item)) (schema : ∀ name, motive (.schema name))
    (external : ∀ module, motive (.external module))
    (union : ∀ members, (∀ member ∈ members, motive member) → motive (.union members))
    (stray : ∀ value, motive (.stray value)) (ref : TypeRef) : motive ref :=
  @TypeRef.rec motive (fun refs => ∀ ref ∈ refs, motive ref) primitive array schema external union
    stray nofun (fun _ _ head tail => List.forall_mem_cons.mpr ⟨head, tail⟩) ref

mutual
/-- The references below all arrays and unions. -/
def leaves : TypeRef → List TypeRef
  | .array item => leaves item
  | .union members => leavesAll members
  | leaf => [leaf]

def leavesAll : List TypeRef → List TypeRef
  | [] => []
  | ref :: rest => leaves ref ++ leavesAll rest
end

theorem leavesAll_eq (refs : List TypeRef) : leavesAll refs = refs.flatMap leaves := by
  induction refs with
  | nil => rw [leavesAll, List.flatMap_nil]
  | cons ref rest ih => rw [leavesAll, List.flatMap_cons, ih]

@[simp] theorem leaves_primitive (kind : Primitive) :
    (primitive kind).leaves = [.primitive kind] := rfl

@[simp] theorem leaves_array (item : TypeRef) : (array item).leaves = item.leaves := rfl

@[simp] theorem leaves_schema (name : Json) : (schema name).leaves = [.schema name] := rfl

@[simp] theorem leaves_external (module : Json) :
    (external module).leaves = [.external module] := rfl

@[simp] theorem leaves_union (members : List TypeRef) :
    (union members).leaves = members.flatMap leaves := by rw [leaves, leavesAll_eq]

@[simp] theorem leaves_stray (value : Json) : (stray value).leaves = [.stray value] := rfl

/-- No value in the place of a reference. -/
def IsProper : TypeRef → Prop
  | .stray _ => False
  | _ => True

/-- A schema or module is called by text. -/
def IsTextNamed : TypeRef → Prop
  | .schema name | .external name => name.IsText
  | _ => True

/-- Nothing in a reference is anything but a reference. -/
def Proper (ref : TypeRef) : Prop := ∀ leaf ∈ ref.leaves, leaf.IsProper

/-- Schemas and modules in a reference are called by text. -/
def TextNamed (ref : TypeRef) : Prop := ∀ leaf ∈ ref.leaves, leaf.IsTextNamed

/-- A reference that resolves if its schemas are known. -/
structure Sound (ref : TypeRef) : Prop where
  proper : ref.Proper
  textNamed : ref.TextNamed

/-- Members are independent of each other, here and in the next lemmas. -/
theorem proper_union {members : List TypeRef} :
    (union members).Proper ↔ ∀ member ∈ members, member.Proper := by
  unfold Proper
  rw [leaves_union, List.forall_mem_flatMap]

theorem textNamed_union {members : List TypeRef} :
    (union members).TextNamed ↔ ∀ member ∈ members, member.TextNamed := by
  unfold TextNamed
  rw [leaves_union, List.forall_mem_flatMap]

theorem sound_primitive (kind : Primitive) : (primitive kind).Sound :=
  ⟨by simp [Proper, IsProper], by simp [TextNamed, IsTextNamed]⟩

theorem sound_schema (raw : String) : (schema (.str raw)).Sound :=
  ⟨by simp [Proper, IsProper], by simp [TextNamed, IsTextNamed, Json.IsText]⟩

theorem sound_array {item : TypeRef} : (array item).Sound ↔ item.Sound := by
  -- the leaves are the same list, so nothing needs to be shown of them
  have hproper : (array item).Proper ↔ item.Proper := by rw [Proper, leaves_array, Proper]
  have htext : (array item).TextNamed ↔ item.TextNamed := by
    rw [TextNamed, leaves_array, TextNamed]
  exact ⟨fun h => ⟨hproper.mp h.proper, htext.mp h.textNamed⟩,
    fun h => ⟨hproper.mpr h.proper, htext.mpr h.textNamed⟩⟩

theorem sound_union {members : List TypeRef} :
    (union members).Sound ↔ ∀ member ∈ members, member.Sound := by
  constructor
  · intro h member hmember
    exact ⟨proper_union.mp h.proper member hmember, textNamed_union.mp h.textNamed member hmember⟩
  · intro h
    exact ⟨proper_union.mpr fun member hmember => (h member hmember).proper,
      textNamed_union.mpr fun member hmember => (h member hmember).textNamed⟩

/-- External modules in a reference are called by text. -/
def ModulesText (ref : TypeRef) : Prop := ∀ module, .external module ∈ ref.leaves → module.IsText

theorem TextNamed.modulesText {ref : TypeRef} (h : ref.TextNamed) : ref.ModulesText :=
  fun _ hmodule => h _ hmodule

theorem ModulesText.of_mem {members : List TypeRef} (h : (union members).ModulesText)
    {member : TypeRef} (hmember : member ∈ members) : member.ModulesText := by
  intro module hmodule
  refine h module ?_
  rw [leaves_union]
  exact List.mem_flatMap.mpr ⟨member, hmember, hmodule⟩

end TypeRef

/-! ## What a property stands for -/

namespace Schema

variable {schema : Schema}

theorem typeRef_primitive {kind : Primitive} (h : schema.kind = .primitive kind) :
    schema.typeRef = .primitive kind := by
  cases schema
  cases h
  rfl

/-- A reference without a target of its own refers to the schema that the property is called by. -/
theorem typeRef_reference (h : schema.kind = .reference) :
    schema.typeRef = .schema (schema.ref.orElse schema.name) := by
  cases schema
  cases h
  rfl

/-- An array without items is an array of anything. -/
theorem typeRef_array (h : schema.kind = .array) :
    schema.typeRef = .array ((schema.items.map typeRef).getD (.primitive .any)) := by
  obtain ⟨_, _, _, _, _, items, _⟩ := schema
  cases h
  -- both with items and without it is a matter of evaluation
  cases items <;> rfl

end Schema

namespace Resolver

variable (r : Resolver)

/-- Resolving a list is a loop, so the lemmas about loops apply to it. -/
theorem resolveAll_eq (refs : List TypeRef) : r.resolveAll refs = refs.mapM r.resolve :=
  eq_mapM (by rw [resolveAll]) (fun _ _ => by rw [resolveAll]) refs

/-- A list of references resolves to one type as their union does. -/
theorem union_eq (refs : List TypeRef) : r.union refs = r.resolve (.union refs) := by
  rw [union, resolve]

/-- A union is resolved member by member and then merged; the recursion over its list is not needed
any more. -/
theorem resolve_union (members : List TypeRef) :
    r.resolve (.union members) = members.mapM r.resolve >>= Node.merge := by
  rw [resolve, resolveAll_eq]

end Resolver

end ElixirClient

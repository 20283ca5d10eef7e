import Mathlib.Data.List.Basic
import ElixirClient.Node

/-!
# The parts of a node

`parts` lists a node and all nodes below it, whatever their constructors. What is said of every node
of a tree is said of its parts; `Names` is the first such thing: a type somewhere in the tree names
a module.

`parts` opens by its equations, and `partsAll_eq` and `partsEntries_eq` turn the lists below a node
into lists of parts. `Throughout` is a property of all parts. For a node with nothing below it there
is one lemma, `throughout_leaf`; for the others there is an equation per constructor, tagged for
simplification, which goes down to the nodes below. `Names` has its equations in the same way.
-/

namespace ElixirClient.Node

mutual
/-- A node and all nodes below it. -/
@[simp] def parts : Node → List Node
  | .sequence item => .sequence item :: parts item
  | .union members => .union members :: partsAll members
  | .tagged tag payload => .tagged tag payload :: parts payload
  | .typeValue type => .typeValue type :: parts type
  | .access subject key => .access subject key :: (parts subject ++ parts key)
  | .fallback primary alternative =>
    .fallback primary alternative :: (parts primary ++ parts alternative)
  | .selectKeys source keys => .selectKeys source keys :: parts source
  | .pair key value => .pair key value :: (parts key ++ parts value)
  | .list items => .list items :: partsAll items
  | .mapLiteral entries => .mapLiteral entries :: partsEntries entries
  | .call target function args => .call target function args :: (parts target ++ partsAll args)
  | .assign target value => .assign target value :: parts value
  -- all else holds texts and values, and no nodes
  | leaf => [leaf]

/-- The parts of nodes that stand next to each other, in order. -/
def partsAll : List Node → List Node
  | [] => []
  | node :: rest => parts node ++ partsAll rest

/-- The parts of the values of a map; its keys are no nodes. -/
def partsEntries : List (String × Node) → List Node
  | [] => []
  | (_, node) :: rest => parts node ++ partsEntries rest
end

/-- The list below a node is opened by lemmas on lists: `partsAll` is there only for the
recursion. -/
theorem partsAll_eq (nodes : List Node) : partsAll nodes = nodes.flatMap parts := by
  induction nodes with
  | nil => rw [partsAll, List.flatMap_nil]
  | cons node rest ih => rw [partsAll, List.flatMap_cons, ih]

/-- As `partsAll_eq`, for the entries of a map. -/
theorem partsEntries_eq (entries : List (String × Node)) :
    partsEntries entries = entries.flatMap fun entry => parts entry.2 := by
  induction entries with
  | nil => rw [partsEntries, List.flatMap_nil]
  | cons entry rest ih => rw [partsEntries, List.flatMap_cons, ih]

/-- There is no node below. -/
@[simp] abbrev isLeaf : Node → Bool
  | .scalar _ | .map | .named _ | .options | .marker _ | .var _ | .atom _ | .literal _ | .moduleRef _
  | .attribute _ | .interpolation _ | .stray _ => true
  | _ => false

theorem parts_of_isLeaf {node : Node} (h : node.isLeaf) : node.parts = [node] := by
  cases node with
  | sequence | union | tagged | typeValue | access | fallback | selectKeys | pair | list
  | mapLiteral | call | assign => cases h
  | _ => rfl

/-! ## Properties of all parts -/

section Throughout

variable {P Q : Node → Prop}

/-- The node and all nodes below it have the property. -/
def Throughout (P : Node → Prop) (node : Node) : Prop := ∀ part ∈ node.parts, P part

/-- Two properties may be shown of a tree one after the other. -/
theorem throughout_and {node : Node} : node.Throughout (fun part => P part ∧ Q part) ↔
    node.Throughout P ∧ node.Throughout Q :=
  forall₂_and

/-- A node with nothing below it has only itself to answer for. The hypothesis computes, so
simplification uses this for every constructor without nodes below. -/
@[simp] theorem throughout_leaf {node : Node} (h : node.isLeaf) : node.Throughout P ↔ P node := by
  rw [Throughout, parts_of_isLeaf h, List.forall_mem_singleton]

/-! ### Types -/

@[simp] theorem throughout_sequence {item : Node} :
    (sequence item).Throughout P ↔ P (.sequence item) ∧ item.Throughout P := by
  simp only [Throughout, parts, List.forall_mem_cons]

/-- The members of a union are below it as they stand, repeated ones repeatedly. -/
@[simp] theorem throughout_union {members : List Node} :
    (union members).Throughout P ↔
      P (.union members) ∧ ∀ member ∈ members, member.Throughout P := by
  simp only [Throughout, parts, partsAll_eq, List.forall_mem_cons, List.forall_mem_flatMap]

@[simp] theorem throughout_tagged {tag : String} {payload : Node} :
    (tagged tag payload).Throughout P ↔ P (.tagged tag payload) ∧ payload.Throughout P := by
  simp only [Throughout, parts, List.forall_mem_cons]

/-! ### Expressions -/

/-- A type that stands as a value: the one place where an expression has a type below it. -/
@[simp] theorem throughout_typeValue {type : Node} :
    (typeValue type).Throughout P ↔ P (.typeValue type) ∧ type.Throughout P := by
  simp only [Throughout, parts, List.forall_mem_cons]

@[simp] theorem throughout_access {subject key : Node} : (access subject key).Throughout P ↔
    P (.access subject key) ∧ subject.Throughout P ∧ key.Throughout P := by
  simp only [Throughout, parts, List.forall_mem_cons, List.forall_mem_append]

@[simp] theorem throughout_fallback {primary alternative : Node} :
    (fallback primary alternative).Throughout P ↔ P (.fallback primary alternative) ∧
      primary.Throughout P ∧ alternative.Throughout P := by
  simp only [Throughout, parts, List.forall_mem_cons, List.forall_mem_append]

/-- The keys that are selected are names and no nodes; only the source is below. -/
@[simp] theorem throughout_selectKeys {source : Node} {keys : List Json} :
    (selectKeys source keys).Throughout P ↔
      P (.selectKeys source keys) ∧ source.Throughout P := by
  simp only [Throughout, parts, List.forall_mem_cons]

/-- Unlike the key of a map entry, the key of a pair is a node. -/
@[simp] theorem throughout_pair {key value : Node} :
    (pair key value).Throughout P ↔ P (.pair key value) ∧ key.Throughout P ∧ value.Throughout P := by
  simp only [Throughout, parts, List.forall_mem_cons, List.forall_mem_append]

@[simp] theorem throughout_list {items : List Node} :
    (list items).Throughout P ↔ P (.list items) ∧ ∀ item ∈ items, item.Throughout P := by
  simp only [Throughout, parts, partsAll_eq, List.forall_mem_cons, List.forall_mem_flatMap]

/-- What is below a map are its values. -/
@[simp] theorem throughout_mapLiteral {entries : List (String × Node)} :
    (mapLiteral entries).Throughout P ↔
      P (.mapLiteral entries) ∧ ∀ entry ∈ entries, entry.2.Throughout P := by
  simp only [Throughout, parts, partsEntries_eq, List.forall_mem_cons, List.forall_mem_flatMap]

/-- The function of a call is a name and no node; below are the target and the arguments. -/
@[simp] theorem throughout_call {target : Node} {function : String} {args : List Node} :
    (call target function args).Throughout P ↔ P (.call target function args) ∧
      target.Throughout P ∧ ∀ arg ∈ args, arg.Throughout P := by
  simp only [Throughout, parts, partsAll_eq, List.forall_mem_cons, List.forall_mem_append,
    List.forall_mem_flatMap]

/-- The variable that is bound is a name and no node, so it does not count as a part. -/
@[simp] theorem throughout_assign {target : String} {value : Node} :
    (assign target value).Throughout P ↔ P (.assign target value) ∧ value.Throughout P := by
  simp only [Throughout, parts, List.forall_mem_cons]

end Throughout

/-! ## Modules that types name

The equations say on which side of a node a name comes from. Module references in expressions are
not meant: a tree names what a type in it refers to. -/

/-- A type in the tree names the module. -/
def Names (node : Node) (module : Json) : Prop := .named module ∈ node.parts

variable {module : Json}

/-- All names begin here: every other equation passes on what is named below. -/
@[simp] theorem names_named {name : Json} : (named name).Names module ↔ name = module := by
  simp [Names, eq_comm]

/-- Any other node with nothing below it names nothing, be it a type or an expression. -/
@[simp] theorem not_names_leaf {node : Node} (h : node.isLeaf) (hne : node ≠ .named module) :
    ¬ node.Names module := by
  rw [Names, parts_of_isLeaf h, List.mem_singleton]
  exact hne.symm

@[simp] theorem names_sequence {item : Node} :
    (sequence item).Names module ↔ item.Names module := by
  simp [Names]

/-- A union names what any of its members does. -/
@[simp] theorem names_union {members : List Node} :
    (union members).Names module ↔ ∃ member ∈ members, member.Names module := by
  simp [Names, partsAll_eq]

@[simp] theorem names_tagged {tag : String} {payload : Node} :
    (tagged tag payload).Names module ↔ payload.Names module := by
  simp [Names]

/-- An expression names modules only through the types that stand in it as values. -/
@[simp] theorem names_typeValue {type : Node} :
    (typeValue type).Names module ↔ type.Names module := by
  simp [Names]

@[simp] theorem names_pair {key value : Node} :
    (pair key value).Names module ↔ key.Names module ∨ value.Names module := by
  simp [Names]

@[simp] theorem names_call {target : Node} {function : String} {args : List Node} :
    (call target function args).Names module ↔
      target.Names module ∨ ∃ arg ∈ args, arg.Names module := by
  simp [Names, partsAll_eq]

/-- A list names what any of its items does, and nothing of its own. -/
@[simp] theorem names_list {items : List Node} :
    (list items).Names module ↔ ∃ item ∈ items, item.Names module := by
  simp [Names, partsAll_eq]

/-- The keys of a map are texts, so it names what its values do. -/
@[simp] theorem names_mapLiteral {entries : List (String × Node)} :
    (mapLiteral entries).Names module ↔ ∃ entry ∈ entries, entry.2.Names module := by
  simp [Names, partsEntries_eq]

end ElixirClient.Node

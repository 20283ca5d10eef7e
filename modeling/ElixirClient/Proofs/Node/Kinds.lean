import Mathlib.Data.List.Basic
import ElixirClient.Proofs.Node.Parts

/-!
# Types and expressions

`Node` holds types and expressions in one family, so a tree may mix them in ways that nothing can
be written for. `IsType` and `IsExpr` are the trees that are built as intended: a type has types
below it, an expression has expressions, and only `typeValue` passes from one to the other. So a
part of an expression is again an expression or a type (`IsExpr.parts`).

`IsType` also fixes the scalars: there are six of them (`scalarNames`).
-/

namespace ElixirClient

/-- A value that is not made of other values. -/
def Json.IsSimple : Json → Prop
  | .arr _ | .obj _ => False
  | _ => True

namespace Node

/-- The names of the scalar types. -/
def scalarNames : List String := ["boolean", "integer", "number", "string", "null", "any"]

/-- A tree of types. -/
inductive IsType : Node → Prop
  | scalar {name : String} (h : name ∈ scalarNames) : IsType (.scalar name)
  | sequence {item : Node} (h : IsType item) : IsType (.sequence item)
  | map : IsType .map
  | named (module : Json) : IsType (.named module)
  | options : IsType .options
  | union {members : List Node} (h : ∀ member ∈ members, IsType member) : IsType (.union members)
  | marker (tag : String) : IsType (.marker tag)
  | tagged (tag : String) {payload : Node} (h : IsType payload) : IsType (.tagged tag payload)

/-- A tree of expressions, with types in the places of values. Names of atoms are text, and literals
are simple values. -/
inductive IsExpr : Node → Prop
  | var (name : String) : IsExpr (.var name)
  | atom (name : String) : IsExpr (.atom (.str name))
  | literal {value : Json} (h : value.IsSimple) : IsExpr (.literal value)
  | moduleRef (module : String) : IsExpr (.moduleRef module)
  | moduleAttribute (name : String) : IsExpr (.attribute name)
  | typeValue {type : Node} (h : IsType type) : IsExpr (.typeValue type)
  | access {subject key : Node} (hsubject : IsExpr subject) (hkey : IsExpr key) :
    IsExpr (.access subject key)
  | fallback {primary alternative : Node} (hprimary : IsExpr primary)
    (halternative : IsExpr alternative) : IsExpr (.fallback primary alternative)
  | selectKeys {source : Node} {keys : List Json} (hsource : IsExpr source)
    (hkeys : ∀ key ∈ keys, ∃ text, key = .str text) : IsExpr (.selectKeys source keys)
  | pair {key value : Node} (hkey : IsExpr key) (hvalue : IsExpr value) : IsExpr (.pair key value)
  | list {items : List Node} (h : ∀ item ∈ items, IsExpr item) : IsExpr (.list items)
  | mapLiteral {entries : List (String × Node)} (h : ∀ entry ∈ entries, IsExpr entry.2) :
    IsExpr (.mapLiteral entries)
  | interpolation (pieces : List Piece) : IsExpr (.interpolation pieces)
  | call {target : Node} (function : String) {args : List Node} (htarget : IsExpr target)
    (hargs : ∀ arg ∈ args, IsExpr arg) : IsExpr (.call target function args)
  | assign (target : String) {value : Node} (h : IsExpr value) : IsExpr (.assign target value)

theorem IsType.parts {node : Node} (h : node.IsType) : ∀ part ∈ node.parts, part.IsType := by
  induction h with
  | scalar h => simpa using IsType.scalar h
  | map => simpa using IsType.map
  | named module => simpa using IsType.named module
  | options => simpa using IsType.options
  | marker tag => simpa using IsType.marker tag
  | sequence h ih =>
    simp only [Node.parts, List.forall_mem_cons]
    exact ⟨.sequence h, ih⟩
  | tagged tag h ih =>
    simp only [Node.parts, List.forall_mem_cons]
    exact ⟨.tagged tag h, ih⟩
  | union h ih =>
    simp only [Node.parts, partsAll_eq, List.forall_mem_cons, List.forall_mem_flatMap]
    exact ⟨.union h, ih⟩

/-- A part of an expression is an expression, or lies in a type that stands for a value. -/
theorem IsExpr.parts {node : Node} (h : node.IsExpr) :
    ∀ part ∈ node.parts, part.IsExpr ∨ part.IsType := by
  induction h with
  | var name => simpa using .inl (IsExpr.var name)
  | atom name => simpa using .inl (IsExpr.atom name)
  | literal h => simpa using .inl (IsExpr.literal h)
  | moduleRef module => simpa using .inl (IsExpr.moduleRef module)
  | moduleAttribute name => simpa using .inl (IsExpr.moduleAttribute name)
  | interpolation pieces => simpa using .inl (IsExpr.interpolation pieces)
  | typeValue h =>
    -- under a type value there are types only
    simp only [Node.parts, List.forall_mem_cons]
    exact ⟨.inl (.typeValue h), fun part hpart => .inr (h.parts part hpart)⟩
  | access hsubject hkey ihsubject ihkey =>
    simp only [Node.parts, List.forall_mem_cons, List.forall_mem_append]
    exact ⟨.inl (.access hsubject hkey), ihsubject, ihkey⟩
  | fallback hprimary halternative ihprimary ihalternative =>
    simp only [Node.parts, List.forall_mem_cons, List.forall_mem_append]
    exact ⟨.inl (.fallback hprimary halternative), ihprimary, ihalternative⟩
  | selectKeys hsource hkeys ih =>
    simp only [Node.parts, List.forall_mem_cons]
    exact ⟨.inl (.selectKeys hsource hkeys), ih⟩
  | pair hkey hvalue ihkey ihvalue =>
    simp only [Node.parts, List.forall_mem_cons, List.forall_mem_append]
    exact ⟨.inl (.pair hkey hvalue), ihkey, ihvalue⟩
  | list h ih =>
    simp only [Node.parts, partsAll_eq, List.forall_mem_cons, List.forall_mem_flatMap]
    exact ⟨.inl (.list h), ih⟩
  | mapLiteral h ih =>
    simp only [Node.parts, partsEntries_eq, List.forall_mem_cons, List.forall_mem_flatMap]
    exact ⟨.inl (.mapLiteral h), ih⟩
  | call function htarget hargs ihtarget ihargs =>
    simp only [Node.parts, partsAll_eq, List.forall_mem_cons, List.forall_mem_append,
      List.forall_mem_flatMap]
    exact ⟨.inl (.call function htarget hargs), ihtarget, ihargs⟩
  | assign target h ih =>
    simp only [Node.parts, List.forall_mem_cons]
    exact ⟨.inl (.assign target h), ih⟩

end Node

end ElixirClient

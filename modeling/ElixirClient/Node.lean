import ElixirClient.Json

/-!
# Nodes

The trees that rendering builds, from which source text is printed. A type node describes a type;
an expression node describes a value; `Node.typeValue` stands for a type where a value is wanted.
-/

namespace ElixirClient

/-- A piece of a text with variables in it. -/
inductive Piece
  | text (text : String)
  | var (name : String)
deriving DecidableEq, Repr

inductive Node
  -- types
  | scalar (name : String)
  | sequence (item : Node)
  | map
  /-- A generated or external type, by the full name of its module. -/
  | named (module : Json)
  /-- The trailing options of a function. -/
  | options
  | union (members : List Node)
  /-- The bare marker of one outcome. -/
  | marker (tag : String)
  /-- An outcome that carries a value. -/
  | tagged (tag : String) (payload : Node)
  -- expressions
  | var (name : String)
  | atom (name : Json)
  | literal (value : Json)
  | moduleRef (module : String)
  | attribute (name : String)
  | typeValue (type : Node)
  | access (subject key : Node)
  | fallback (primary alternative : Node)
  /-- The entries of `source` under the given keys. -/
  | selectKeys (source : Node) (keys : List Json)
  | pair (key value : Node)
  | list (items : List Node)
  | mapLiteral (entries : List (String × Node))
  | interpolation (pieces : List Piece)
  | call (target : Node) (function : String) (args : List Node)
  | assign (target : String) (value : Node)
  /-- A value that is no type and no expression, known by how it is shown. -/
  | stray (shown : String)
deriving Repr, Inhabited

/-- The documentation of a module or a function. -/
structure Doc where
  text : Json
deriving DecidableEq, Repr

structure Argument where
  name : String
  default : Option Node := none
deriving Repr

/-- The specification of a function. -/
structure Signature where
  name : Json
  arguments : List Node
  returnType : Node
deriving Repr

structure Function where
  name : Json
  arguments : List Argument
  body : List Node
deriving Repr

namespace Node

/-! ### Equality -/

mutual
/-- Structural equality. -/
def same : Node → Node → Bool
  | .scalar a, .scalar b => a == b
  | .sequence a, .sequence b => same a b
  | .map, .map => true
  | .named a, .named b => decide (a = b)
  | .options, .options => true
  | .union a, .union b => sameAll a b
  | .marker a, .marker b => a == b
  | .tagged a p, .tagged b q => a == b && same p q
  | .var a, .var b => a == b
  | .atom a, .atom b => decide (a = b)
  | .literal a, .literal b => decide (a = b)
  | .moduleRef a, .moduleRef b => a == b
  | .attribute a, .attribute b => a == b
  | .typeValue a, .typeValue b => same a b
  | .access a k, .access b l => same a b && same k l
  | .fallback a f, .fallback b g => same a b && same f g
  | .selectKeys a k, .selectKeys b l => same a b && decide (k = l)
  | .pair a v, .pair b w => same a b && same v w
  | .list a, .list b => sameAll a b
  | .mapLiteral a, .mapLiteral b => sameEntries a b
  | .interpolation a, .interpolation b => decide (a = b)
  | .call a f xs, .call b g ys => same a b && f == g && sameAll xs ys
  | .assign a v, .assign b w => a == b && same v w
  | .stray a, .stray b => a == b
  | _, _ => false

def sameAll : List Node → List Node → Bool
  | [], [] => true
  | a :: as, b :: bs => same a b && sameAll as bs
  | _, _ => false

def sameEntries : List (String × Node) → List (String × Node) → Bool
  | [], [] => true
  | (k, a) :: as, (l, b) :: bs => k == l && same a b && sameEntries as bs
  | _, _ => false
end

mutual
theorem same_iff : (a b : Node) → (same a b = true ↔ a = b)
  | .sequence a, b => by cases b <;> simp [same, same_iff a]
  | .union a, b => by cases b <;> simp [same, sameAll_iff a]
  | .tagged _ p, b => by cases b <;> simp [same, same_iff p]
  | .typeValue a, b => by cases b <;> simp [same, same_iff a]
  | .access a k, b => by cases b <;> simp [same, same_iff a, same_iff k]
  | .fallback a f, b => by cases b <;> simp [same, same_iff a, same_iff f]
  | .selectKeys a _, b => by cases b <;> simp [same, same_iff a]
  | .pair a v, b => by cases b <;> simp [same, same_iff a, same_iff v]
  | .list a, b => by cases b <;> simp [same, sameAll_iff a]
  | .mapLiteral a, b => by cases b <;> simp [same, sameEntries_iff a]
  | .call a _ xs, b => by cases b <;> simp [same, same_iff a, sameAll_iff xs, and_assoc]
  | .assign _ v, b => by cases b <;> simp [same, same_iff v]
  | .map, b | .options, b => by cases b <;> simp [same]
  | .scalar _, b | .named _, b | .marker _, b | .var _, b | .atom _, b | .literal _, b
  | .moduleRef _, b | .attribute _, b | .interpolation _, b | .stray _, b => by
    cases b <;> simp [same]

theorem sameAll_iff : (a b : List Node) → (sameAll a b = true ↔ a = b)
  | [], b => by cases b <;> simp [sameAll]
  | a :: as, b => by cases b <;> simp [sameAll, same_iff a, sameAll_iff as]

theorem sameEntries_iff : (a b : List (String × Node)) → (sameEntries a b = true ↔ a = b)
  | [], b => by cases b <;> simp [sameEntries]
  | (_, a) :: as, [] => by simp [sameEntries]
  | (k, a) :: as, (l, b) :: bs => by
    simp [sameEntries, same_iff a, sameEntries_iff as, and_assoc]
end

instance : DecidableEq Node := fun a b => decidable_of_iff _ (same_iff a b)

end Node

deriving instance DecidableEq for Argument, Signature, Function

end ElixirClient

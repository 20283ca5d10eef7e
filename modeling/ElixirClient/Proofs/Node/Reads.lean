import ElixirClient.Proofs.Node.Kinds

/-!
# Variables that a node reads

A node reads the variables that stand anywhere in it and those in the texts it puts together
(`reads`). The target of an assignment is not read. Types read nothing, wherever they stand
(`IsType.reads_eq_nil`).
-/

namespace ElixirClient

def Piece.var? : Piece → Option String
  | .var name => some name
  | .text _ => none

namespace Node

/-- The variables that a node itself reads, apart from the nodes below it. -/
def ownReads : Node → List String
  | .var name => [name]
  | .interpolation pieces => pieces.filterMap Piece.var?
  | _ => []

/-- The variables that are read anywhere in a node, in order. -/
def reads (node : Node) : List String := node.parts.flatMap ownReads

@[simp] theorem reads_var {name : String} : (var name).reads = [name] := by
  simp [reads, ownReads]

@[simp] theorem reads_interpolation {pieces : List Piece} :
    (interpolation pieces).reads = pieces.filterMap Piece.var? := by
  simp [reads, ownReads]

@[simp] theorem reads_atom {name : Json} : (atom name).reads = [] := by simp [reads, ownReads]

@[simp] theorem reads_literal {value : Json} : (literal value).reads = [] := by
  simp [reads, ownReads]

@[simp] theorem reads_moduleRef {module : String} : (moduleRef module).reads = [] := by
  simp [reads, ownReads]

@[simp] theorem reads_moduleAttribute {name : String} : (Node.attribute name).reads = [] := by
  simp [reads, ownReads]

@[simp] theorem reads_access {subject key : Node} :
    (access subject key).reads = subject.reads ++ key.reads := by
  simp [reads, ownReads]

@[simp] theorem reads_fallback {primary alternative : Node} :
    (fallback primary alternative).reads = primary.reads ++ alternative.reads := by
  simp [reads, ownReads]

@[simp] theorem reads_pair {key value : Node} : (pair key value).reads = key.reads ++ value.reads := by
  simp [reads, ownReads]

@[simp] theorem reads_selectKeys {source : Node} {keys : List Json} :
    (selectKeys source keys).reads = source.reads := by
  simp [reads, ownReads]

/-- Reading a list of nodes is reading its parts, however the list stands below a node. -/
theorem flatMap_reads (nodes : List Node) :
    nodes.flatMap reads = (partsAll nodes).flatMap ownReads := by
  rw [partsAll_eq, List.flatMap_assoc]
  rfl

@[simp] theorem reads_list {items : List Node} : (list items).reads = items.flatMap reads := by
  rw [flatMap_reads]
  simp [reads, ownReads]

/-- Only the values of a map are read. -/
@[simp] theorem reads_mapLiteral {entries : List (String × Node)} :
    (mapLiteral entries).reads = entries.flatMap fun entry => entry.2.reads := by
  simp [reads, ownReads, partsEntries_eq, List.flatMap_assoc]

/-- The target of a call comes before the arguments, as in `parts`. -/
@[simp] theorem reads_call {target : Node} {function : String} {args : List Node} :
    (call target function args).reads = target.reads ++ args.flatMap reads := by
  rw [flatMap_reads]
  simp [reads, ownReads]

@[simp] theorem reads_assign {target : String} {value : Node} :
    (assign target value).reads = value.reads := by
  simp [reads, ownReads]

/-- All parts of a type are types, and a type itself is neither a variable nor a text. -/
theorem IsType.reads_eq_nil {node : Node} (h : node.IsType) : node.reads = [] := by
  refine List.flatMap_eq_nil_iff.mpr fun part hpart => ?_
  cases h.parts part hpart <;> rfl

@[simp] theorem reads_typeValue {type : Node} : (typeValue type).reads = type.reads := by
  simp [reads, ownReads]

end Node

end ElixirClient

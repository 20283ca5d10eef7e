import Mathlib.Data.List.Chain
import ElixirClient.Proofs.Source.LiteralReader
import ElixirClient.Source.Expr

/-!
# Reading interpolations

An interpolated text reads as the characters of its texts and the names of its variables, in order
(`readLiteral_interpolationText`). This needs two things of the pieces: no name holds a closing
brace, and no two texts are next to each other. The second matters for a text that ends in `#`.
-/

namespace ElixirClient

namespace Piece

/-- What a piece reads as. -/
def items : Piece → List Source.LiteralItem
  | .text s => s.toList.map .char
  | .var name => [.code name.toList]

def isVar : Piece → Bool
  | .text _ => false
  | .var _ => true

/-- Of two neighbours one is a variable. -/
def Separate (pieces : List Piece) : Prop := pieces.IsChain fun a b => a.isVar ∨ b.isVar

/-- Names that can stand in braces. -/
def Closed (pieces : List Piece) : Prop := ∀ name, .var name ∈ pieces → '\x7d' ∉ name.toList

end Piece

namespace Source

open LiteralItem

theorem toList_pieceText_text (s : String) : (pieceText (.text s)).toList = escapeChars s.toList := by
  rw [pieceText, escapeString, String.toList_ofList]

theorem toList_pieceText_var (name : String) :
    (pieceText (.var name)).toList = '#' :: '\x7b' :: (name.toList ++ ['\x7d']) := by
  rw [pieceText, inBraces, String.toList_append, String.toList_append, String.toList_append]
  rfl

theorem toList_interpolationText (pieces : List Piece) :
    (interpolationText pieces).toList =
      '"' :: (pieces.flatMap fun piece => (pieceText piece).toList) ++ ['"'] := by
  rw [interpolationText, String.toList_append, String.toList_append, String.toList_join,
    List.flatMap_map]
  rfl

/-- Behind a text comes a variable or the end. -/
theorem head?_pieces {s : String} {pieces : List Piece} (h : Piece.Separate (.text s :: pieces))
    (rest : List Char) :
    ((pieces.flatMap fun piece => (pieceText piece).toList) ++ '"' :: rest).head? ≠
      some '\x7b' := by
  cases pieces with
  | nil => exact fun h => absurd (Option.some.inj h) (by decide)
  | cons piece pieces =>
    cases piece with
    -- two texts next to each other are ruled out
    | text t => rcases (List.isChain_cons_cons.mp h).1 with hvar | hvar <;> cases hvar
    | var name =>
      rw [List.flatMap_cons, toList_pieceText_var]
      exact fun h => absurd (Option.some.inj h) (by decide)

/-- By induction on the pieces. A text is read up to what comes next, which must not begin with a
brace; a variable is read up to its closing brace. -/
theorem read_pieces {pieces : List Piece} (hseparate : Piece.Separate pieces)
    (hclosed : Piece.Closed pieces) (rest : List Char) :
    read none ((pieces.flatMap fun piece => (pieceText piece).toList) ++ '"' :: rest) =
      some (pieces.flatMap Piece.items, rest) := by
  induction pieces with
  | nil => rfl
  | cons piece pieces ih =>
    have htail := ih hseparate.tail fun name hname => hclosed name (List.mem_cons_of_mem piece hname)
    rw [List.flatMap_cons, List.flatMap_cons, List.append_assoc]
    cases piece with
    -- `head?_pieces` is where texts next to each other are excluded
    | text s =>
      rw [toList_pieceText_text, read_escapeChars s.toList (head?_pieces hseparate rest), htail]
      rfl
    | var name =>
      rw [toList_pieceText_var]
      show read (some []) ((name.toList ++ ['\x7d']) ++ _) = _
      rw [List.append_assoc, List.singleton_append,
        read_code (hclosed name List.mem_cons_self), htail]
      rfl

/-- An interpolated text reads as its pieces, whatever follows it. -/
theorem readLiteral_interpolationText {pieces : List Piece} (hseparate : Piece.Separate pieces)
    (hclosed : Piece.Closed pieces) (rest : List Char) :
    readLiteral ((interpolationText pieces).toList ++ rest) =
      some (pieces.flatMap Piece.items, rest) := by
  rw [toList_interpolationText, List.append_assoc, List.cons_append, List.singleton_append]
  exact read_pieces hseparate hclosed rest

end Source

end ElixirClient

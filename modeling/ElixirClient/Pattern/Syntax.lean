/-!
# Patterns

A pattern is a tree over sets of characters, anchors and groups. All options are resolved in the
tree: a set knows how it treats case, an anchor knows whether lines count.
-/

namespace ElixirClient.Pattern

inductive Category
  | digit
  | blank
  | word
deriving DecidableEq, Repr

/-- One entry of a set: a range of code points, or a category or its complement. An ASCII category
holds no other characters. -/
inductive ClassItem
  | range (low high : Nat)
  | category (category : Category) (negated ascii : Bool)
deriving DecidableEq, Repr

inductive CaseRule
  | exact
  | ignore
  | ignoreAscii
deriving DecidableEq, Repr

/-- A set of characters, or with `negated` its complement. -/
structure CharSet where
  items : List ClassItem
  negated : Bool
  caseRule : CaseRule
deriving DecidableEq, Repr

inductive Anchor
  | textStart
  | lineStart
  | textEnd
  | lineEnd
  /-- The end of the text, or the place before a line feed that ends it. -/
  | lastLineEnd
  | wordEdge (ascii : Bool)
  | noWordEdge (ascii : Bool)
deriving DecidableEq, Repr

inductive Greed
  | greedy
  | lazy
  /-- As much as there is, none of it given back. -/
  | possessive
deriving DecidableEq, Repr

/-- How many characters something matches, at least and at most, up to `Width.limit`. -/
structure Width where
  low : Nat
  high : Nat
deriving DecidableEq, Repr

namespace Width

def limit : Nat := 18446744073709551616

def clip (w : Width) : Width := ⟨min w.low limit, min w.high limit⟩

def none : Width := ⟨0, 0⟩

def one : Width := ⟨1, 1⟩

def add (v w : Width) : Width := clip ⟨v.low + w.low, v.high + w.high⟩

def either (v w : Width) : Width := ⟨min v.low w.low, max v.high w.high⟩

def times (w : Width) (least : Nat) (most : Option Nat) : Width :=
  clip ⟨w.low * least, match most with
    | some n => w.high * n
    | Option.none => if w.high = 0 then 0 else limit⟩

end Width

inductive Regex
  | nothing
  | one (set : CharSet)
  | anchor (anchor : Anchor)
  | sequence (first second : Regex)
  | either (first second : Regex)
  | repeated (least : Nat) (most : Option Nat) (greed : Greed) (body : Regex)
  | group (index : Nat) (body : Regex)
  /-- The text of an earlier group once more. -/
  | again (index : Nat) (caseRule : CaseRule)
  | ahead (negated : Bool) (body : Regex)
  | behind (negated : Bool) (width : Width) (body : Regex)
  | atomic (body : Regex)
  /-- The first branch if the group has matched, else the second. -/
  | ifGroup (index : Nat) (yes no : Regex)
deriving Repr, Inhabited

namespace Regex

def ofList : List Regex → Regex
  | [] => nothing
  | [r] => r
  | r :: rest => sequence r (ofList rest)

end Regex

end ElixirClient.Pattern

import ElixirClient.Pattern.Syntax
import ElixirClient.Text.Case
import ElixirClient.Text.Letter

/-!
# Matching

Matching is by backtracking, the first way that leads to a match wins. A step is given what is to
match after it, so whatever a step has set is forgotten when that fails.
-/

namespace ElixirClient.Pattern

/-! ### Characters -/

def isAsciiWord (c : Char) : Bool :=
  ('a' ≤ c && c ≤ 'z') || ('A' ≤ c && c ≤ 'Z') || ('0' ≤ c && c ≤ '9') || c = '_'

def Category.contains (ascii : Bool) (c : Char) : Category → Bool
  | .digit => if ascii then '0' ≤ c && c ≤ '9' else Text.isDecimal c
  | .blank => if ascii then c = ' ' || ('\t' ≤ c && c ≤ '\r') else Text.isBlank c
  | .word => if ascii then isAsciiWord c else Text.isWordChar c

def lowerAscii (c : Char) : Char := if 'A' ≤ c && c ≤ 'Z' then Char.ofNat (c.toNat + 32) else c

def upperAscii (c : Char) : Char := if 'a' ≤ c && c ≤ 'z' then Char.ofNat (c.toNat - 32) else c

/-- The characters that stand for `c` in a comparison. -/
def CaseRule.equivalents (c : Char) : CaseRule → List Char
  | .exact => [c]
  | .ignore => Text.caseEquivalents c
  | .ignoreAscii => [lowerAscii c, upperAscii c]

/-- The form in which two texts are compared. -/
def CaseRule.fold (c : Char) : CaseRule → Char
  | .exact => c
  | .ignore => Text.lowerChar c
  | .ignoreAscii => lowerAscii c

def ClassItem.contains (rule : CaseRule) (c : Char) : ClassItem → Bool
  | .range low high => (rule.equivalents c).any fun x => low ≤ x.toNat && x.toNat ≤ high
  | .category kind negated ascii => kind.contains ascii c != negated

def CharSet.contains (set : CharSet) (c : Char) : Bool :=
  set.items.any (ClassItem.contains set.caseRule c) != set.negated

/-! ### Places -/

def isWordAt (ascii : Bool) (text : Array Char) (i : Nat) : Bool :=
  text[i]?.any (Category.word.contains ascii)

/-- Whether exactly one of the neighbours of a place belongs to a word. -/
def isWordEdge (ascii : Bool) (text : Array Char) (i : Nat) : Bool :=
  (i ≠ 0 && isWordAt ascii text (i - 1)) != isWordAt ascii text i

def Anchor.holds (text : Array Char) (i : Nat) : Anchor → Bool
  | .textStart => i = 0
  | .lineStart => i = 0 || text[i - 1]? = some '\n'
  | .textEnd => i = text.size
  | .lineEnd => i = text.size || text[i]? = some '\n'
  | .lastLineEnd => i = text.size || (i + 1 = text.size && text[i]? = some '\n')
  | .wordEdge ascii => text.size ≠ 0 && isWordEdge ascii text i
  | .noWordEdge ascii => text.size ≠ 0 && !isWordEdge ascii text i

/-! ### Steps -/

/-- How far a match has come, and the groups that have matched: index, start and end, the latest
first. -/
structure Progress where
  position : Nat
  groups : List (Nat × Nat × Nat) := []
deriving Repr, DecidableEq

abbrev Rest := Progress → Option Progress

abbrev Step := Progress → Rest → Option Progress

/-- Repeats a step as often as it goes, then less often. After the least count a repetition that
begins where the one before it began is not tried. -/
def greedily (step : Step) (least : Nat) (most : Option Nat) (rest : Rest) :
    Nat → Nat → Option Nat → Rest
  | 0, _, _, p => rest p
  | fuel + 1, count, last, p =>
    if count < least then
      step p (greedily step least most rest fuel (count + 1) last)
    else if most.all (count < ·) && last ≠ some p.position then
      step p (greedily step least most rest fuel (count + 1) (some p.position)) <|> rest p
    else rest p

/-- Repeats a step as seldom as possible, then more often. -/
def lazily (step : Step) (least : Nat) (most : Option Nat) (rest : Rest) :
    Nat → Nat → Option Nat → Rest
  | 0, _, _, p => rest p
  | fuel + 1, count, last, p =>
    if count < least then
      step p (lazily step least most rest fuel (count + 1) last)
    else
      rest p <|>
        if most.all (count < ·) && last ≠ some p.position then
          step p (lazily step least most rest fuel (count + 1) (some p.position))
        else none

/-- Repeats a step as often as it goes, each time in the first way that matches. -/
def possessively (step : Step) (least : Nat) (most : Option Nat) : Nat → Nat → Rest
  | 0, _, p => some p
  | fuel + 1, count, p =>
    if count < least then
      match step p some with
      | none => none
      | some p' => possessively step least most fuel (count + 1) p'
    else if most.all (count < ·) then
      match step p some with
      | none => some p
      | some p' =>
        if p'.position = p.position then some p'
        else possessively step least most fuel (count + 1) p'
    else some p

/-- Enough for every repetition: each one beyond the least count moves on or is the last. -/
def repeatFuel (text : Array Char) (least : Nat) : Nat := least + text.size + 2

/-- Whether a stretch of the text stands again at a place. -/
def standsAgain (rule : CaseRule) (text : Array Char) (start stop place : Nat) : Bool :=
  place + (stop - start) ≤ text.size
    && (List.range (stop - start)).all fun i =>
      text[start + i]?.map rule.fold == text[place + i]?.map rule.fold

def Regex.step (text : Array Char) : Regex → Step
  | .nothing, p, rest => rest p
  | .one set, p, rest =>
    match text[p.position]? with
    | some c => if set.contains c then rest { p with position := p.position + 1 } else none
    | none => none
  | .anchor place, p, rest => if place.holds text p.position then rest p else none
  | .sequence first second, p, rest => first.step text p fun p' => second.step text p' rest
  | .either first second, p, rest => first.step text p rest <|> second.step text p rest
  | .repeated least most greed body, p, rest =>
    let fuel := repeatFuel text least
    match greed with
    | .greedy => greedily (body.step text) least most rest fuel 0 none p
    | .lazy => lazily (body.step text) least most rest fuel 0 none p
    | .possessive => (possessively (body.step text) least most fuel 0 p).bind rest
  | .group index body, p, rest =>
    body.step text p fun p' =>
      rest { p' with groups := (index, p.position, p'.position) :: p'.groups }
  | .again index rule, p, rest =>
    match p.groups.lookup index with
    | some (start, stop) =>
      if standsAgain rule text start stop p.position then
        rest { p with position := p.position + (stop - start) }
      else none
    | none => none
  | .ahead negated body, p, rest =>
    match body.step text p some with
    | some p' => if negated then none else rest { p' with position := p.position }
    | none => if negated then rest p else none
  | .behind negated width body, p, rest =>
    let found := if width.low ≤ p.position then
        body.step text { p with position := p.position - width.low } some
      else none
    match found with
    | some p' => if negated then none else rest { p' with position := p.position }
    | none => if negated then rest p else none
  | .atomic body, p, rest => (body.step text p some).bind rest
  | .ifGroup index yes no, p, rest =>
    match p.groups.lookup index with
    | some _ => yes.step text p rest
    | none => no.step text p rest

/-- A match: where it begins, and how it ended. -/
structure Match where
  start : Nat
  finish : Progress
deriving Repr, DecidableEq

/-- The match that begins at a place; an empty one only if that is wanted. -/
def Regex.matchAt? (r : Regex) (text : Array Char) (start : Nat) (mayBeEmpty : Bool) :
    Option Match :=
  (r.step text ⟨start, []⟩ fun p =>
    if !mayBeEmpty && p.position = start then none else some p).map (⟨start, ·⟩)

/-- The first match that begins at `start` or later. At `start` itself an empty match counts only
if that is wanted. -/
def Regex.search? (r : Regex) (text : Array Char) (start : Nat) (mayBeEmpty : Bool) :
    Option Match :=
  r.matchAt? text start mayBeEmpty <|>
    (List.range' (start + 1) (text.size - start)).findSome? fun i => r.matchAt? text i true

/-- All matches from left to right. A match begins where the one before it ended or later, and two
empty matches do not stand at one place. -/
def Regex.matchesFrom (r : Regex) (text : Array Char) : Nat → Nat → Bool → List Match
  | 0, _, _ => []
  | fuel + 1, start, mayBeEmpty =>
    if text.size < start then []
    else
      match r.search? text start mayBeEmpty with
      | none => []
      | some m => m :: r.matchesFrom text fuel m.finish.position (m.finish.position ≠ m.start)

def Regex.allMatches (r : Regex) (text : Array Char) : List Match :=
  r.matchesFrom text (2 * text.size + 2) 0 true

end ElixirClient.Pattern

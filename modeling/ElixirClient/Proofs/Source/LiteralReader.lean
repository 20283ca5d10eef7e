import Mathlib.Data.List.Basic
import ElixirClient.Source.Literal

/-!
# Reading string literals

What the language makes of a string literal: characters, and interpolated code. Behind a backslash
an `n` is a line feed and any other character is itself; `#` and an opening brace begin code, which
the next closing brace ends; a quotation mark ends the literal.

Escaped text reads as its characters (`read_escapeChars`), whatever follows, as long as that does
not begin with a brace: a `#` at the end of the text would open code together with it. Code reads as
itself if it holds no closing brace (`read_code`).
-/

namespace ElixirClient.Source

/-- One thing that a literal holds. -/
inductive LiteralItem
  | char (c : Char)
  | code (source : List Char)
deriving DecidableEq, Repr

namespace LiteralItem

/-- Items in front of what is read next. -/
def followedBy (items : List LiteralItem) (read : Option (List LiteralItem × List Char)) :
    Option (List LiteralItem × List Char) :=
  read.map fun (others, rest) => (items ++ others, rest)

theorem followedBy_nil (read : Option (List LiteralItem × List Char)) :
    followedBy [] read = read := by
  cases read <;> rfl

theorem followedBy_append (items others : List LiteralItem)
    (read : Option (List LiteralItem × List Char)) :
    followedBy (items ++ others) read = followedBy items (followedBy others read) := by
  cases read with
  | none => rfl
  | some result =>
    show some (items ++ others ++ result.1, _) = some (items ++ (others ++ result.1), _)
    rw [List.append_assoc]

theorem followedBy_cons (item : LiteralItem) (items : List LiteralItem)
    (read : Option (List LiteralItem × List Char)) :
    followedBy (item :: items) read = followedBy [item] (followedBy items read) :=
  followedBy_append [item] items read

/-- Reads up to the closing quotation mark; what follows that is left. Inside of code, its
characters so far are given, the last one first. -/
def read : Option (List Char) → List Char → Option (List LiteralItem × List Char)
  | none, '"' :: rest => some ([], rest)
  | none, '\\' :: 'n' :: rest => followedBy [char '\n'] (read none rest)
  | none, '\\' :: c :: rest => followedBy [char c] (read none rest)
  | none, '#' :: '\x7b' :: rest => read (some []) rest
  | none, c :: rest => followedBy [char c] (read none rest)
  | some source, '\x7d' :: rest => followedBy [code source.reverse] (read none rest)
  | some source, c :: rest => read (some (c :: source)) rest
  | _, [] => none

/-- Reads a literal from its opening quotation mark on. -/
def readLiteral : List Char → Option (List LiteralItem × List Char)
  | '"' :: rest => read none rest
  | _ => none

/-- A character that does not begin anything else is itself. -/
theorem read_plain {c : Char} {rest : List Char} (hquote : c ≠ '"') (hescape : c ≠ '\\')
    (hcode : c = '#' → rest.head? ≠ some '\x7b') :
    read none (c :: rest) = followedBy [char c] (read none rest) := by
  rw [read]
  -- none of the equations for other beginnings applies
  · exact hquote
  · exact fun _ h => absurd h hescape
  · exact fun _ _ h => absurd h hescape
  · rintro tail rfl rfl
    exact hcode rfl rfl

/-- Escaping adds no brace in front: the first character is the text's own or a backslash. -/
theorem head?_escapeChars_append {cs rest : List Char} (hcs : cs.head? ≠ some '\x7b')
    (hrest : rest.head? ≠ some '\x7b') : (escapeChars cs ++ rest).head? ≠ some '\x7b' := by
  fun_cases escapeChars cs with
  | case1 => exact hrest
  | case6 c rest =>
    exact hcs
  | _ => exact fun h => absurd (Option.some.inj h) (by decide)

/-- Escaped text reads as its characters. By induction along the escaping, with a case for each way
in which a character is written. -/
theorem read_escapeChars (cs : List Char) {rest : List Char} (hrest : rest.head? ≠ some '\x7b') :
    read none (escapeChars cs ++ rest) = followedBy (cs.map char) (read none rest) := by
  fun_induction escapeChars cs with
  | case1 => exact (followedBy_nil _).symm
  | case2 cs ih =>
    rw [List.map_cons, followedBy_cons, ← ih]
    rfl
  | case3 cs ih =>
    rw [List.map_cons, followedBy_cons, ← ih]
    rfl
  | case4 cs ih =>
    rw [List.map_cons, followedBy_cons, ← ih]
    rfl
  | case5 cs ih =>
    -- the backslash stands in front of `#` only, so the brace behind it is read on its own
    have hbrace : read none ('\x7b' :: (escapeChars cs ++ rest)) =
        followedBy [char '\x7b'] (read none (escapeChars cs ++ rest)) := rfl
    rw [List.map_cons, List.map_cons, followedBy_cons, followedBy_cons (char '\x7b'), ← ih,
      ← hbrace]
    rfl
  | case6 c cs hescape hquote hfeed hcode ih =>
    rw [List.map_cons, followedBy_cons, ← ih]
    -- a `#` that was not escaped is followed by no brace, neither in the text nor behind it
    refine read_plain hquote hescape fun hc => head?_escapeChars_append (fun hhead => ?_) hrest
    obtain ⟨tail, rfl⟩ := List.head?_eq_some_iff.mp hhead
    exact hcode tail hc rfl

theorem read_code {name : List Char} (hname : '\x7d' ∉ name) (source rest : List Char) :
    read (some source) (name ++ '\x7d' :: rest) =
      followedBy [code (source.reverse ++ name)] (read none rest) := by
  induction name generalizing source with
  | nil =>
    rw [List.append_nil]
    rfl
  | cons c name ih =>
    rw [List.mem_cons, not_or] at hname
    rw [List.cons_append, read, ih hname.2, List.reverse_cons, List.append_assoc,
      List.singleton_append]
    exact fun h => hname.1 h.symm

end LiteralItem

end ElixirClient.Source

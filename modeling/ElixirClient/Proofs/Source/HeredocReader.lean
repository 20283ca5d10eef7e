import ElixirClient.Proofs.Source.LiteralReader
import ElixirClient.Proofs.Text.Split
import ElixirClient.Source.Definition

/-!
# Reading heredocs

What the language makes of a heredoc. It begins with three quotation marks and a line feed, and it
ends at the first line that has nothing but blanks in front of three quotation marks. Of each line
before that, up to two blanks of margin do not count. In what remains a character behind a backslash
is itself, and `#` and an opening brace begin code.

Escaped text has no line that ends a heredoc (`closing?_heredocChars`), since the lines of the
escaped text are the escaped lines of the text (`splitAt_heredocChars`); and it reads as the text
(`readEscapes_heredocChars`). So a text comes back from its heredoc with a margin
(`readHeredoc_heredocChars`).
-/

namespace ElixirClient.Source

open LiteralItem (char code)

/-! ## The reader -/

def isMargin (c : Char) : Bool := c = ' ' || c = '\t'

/-- What follows the quotation marks on a line that ends a heredoc. -/
def closing? (line : List Char) : Option (List Char) :=
  match line.dropWhile isMargin with
  | '"' :: '"' :: '"' :: behind => some behind
  | _ => none

/-- A line without up to two blanks of margin. -/
def withoutMargin : List Char → List Char
  | ' ' :: ' ' :: line => line
  | ' ' :: line => line
  | line => line

/-- The lines up to the one that ends the heredoc, and the text behind the quotation marks in it. -/
def readLines : List (List Char) → Option (List (List Char) × List Char)
  | [] => none
  | line :: others =>
    match closing? line with
    | some behind => some ([], Text.joinWith '\n' (behind :: others))
    | none => (readLines others).map fun (lines, rest) => (withoutMargin line :: lines, rest)

/-- Reads characters and code. Inside of code, its characters so far are given, the last one
first. -/
def readEscapes : Option (List Char) → List Char → Option (List LiteralItem)
  | none, [] => some []
  | none, '\\' :: c :: rest => (readEscapes none rest).map (char c :: ·)
  | none, '#' :: '\x7b' :: rest => readEscapes (some []) rest
  | none, c :: rest => (readEscapes none rest).map (char c :: ·)
  | some source, '\x7d' :: rest => (readEscapes none rest).map (code source.reverse :: ·)
  | some source, c :: rest => readEscapes (some (c :: source)) rest
  | some _, [] => none

/-- What a heredoc says, each line with its line feed, and what follows the heredoc. -/
def readHeredoc : List Char → Option (List LiteralItem × List Char)
  | '"' :: '"' :: '"' :: '\n' :: cs => do
    let (lines, rest) ← readLines (Text.splitAt '\n' cs)
    let items ← readEscapes none (lines.flatMap (· ++ ['\n']))
    return (items, rest)
  | _ => none

/-! ## Escaped text -/

theorem mem_of_mem_heredocChars {cs : List Char} {c : Char} (h : c ∈ heredocChars cs) :
    c ∈ cs ∨ c = '\\' := by
  fun_induction heredocChars cs with
  | case1 => cases h
  | case2 rest ih | case3 rest ih | case4 rest ih | case5 d rest _ _ _ ih =>
    simp only [List.mem_cons] at h ⊢
    tauto

/-- Nothing that is escaped begins with the character. -/
structure IsPlain (c : Char) (rest : List Char) : Prop where
  escape : c ≠ '\\'
  code : ¬ ['#', '\x7b'] <+: c :: rest
  quotes : ¬ ['"', '"', '"'] <+: c :: rest

/-- A character that begins none of what is escaped is plain whatever follows it. -/
theorem IsPlain.of_ne {c : Char} (hescape : c ≠ '\\') (hcode : c ≠ '#') (hquote : c ≠ '"')
    (rest : List Char) : IsPlain c rest := by
  refine ⟨hescape, ?_, ?_⟩
  · rintro ⟨tail, h⟩
    exact hcode (List.cons.inj h).1.symm
  · rintro ⟨tail, h⟩
    exact hquote (List.cons.inj h).1.symm

/-- Less text behind the character makes no escape, so that a line may be cut out of the text. -/
theorem IsPlain.of_prefix {c : Char} {rest front : List Char} (h : IsPlain c rest)
    (hfront : front <+: rest) : IsPlain c front where
  escape := h.escape
  code := fun hcode => h.code (hcode.trans (List.cons_prefix_cons.mpr ⟨rfl, hfront⟩))
  quotes := fun hquotes => h.quotes (hquotes.trans (List.cons_prefix_cons.mpr ⟨rfl, hfront⟩))

theorem heredocChars_cons {c : Char} {rest : List Char} (h : IsPlain c rest) :
    heredocChars (c :: rest) = c :: heredocChars rest := by
  rw [heredocChars]
  · exact h.escape
  · rintro tail rfl rfl
    exact h.code ⟨tail, rfl⟩
  · rintro tail rfl rfl
    exact h.quotes ⟨tail, rfl⟩

/-- Text is escaped from the front: a backslash, an opening of code, three quotation marks or one
character that is none of these. -/
theorem heredoc_induction {motive : List Char → Prop} (nil : motive [])
    (escape : ∀ rest, motive rest → motive ('\\' :: rest))
    (code : ∀ rest, motive rest → motive ('#' :: '\x7b' :: rest))
    (quotes : ∀ rest, motive rest → motive ('"' :: '"' :: '"' :: rest))
    (plain : ∀ c rest, IsPlain c rest → motive rest → motive (c :: rest)) (cs : List Char) :
    motive cs := by
  fun_induction heredocChars cs with
  | case1 => exact nil
  | case2 rest ih => exact escape rest ih
  | case3 rest ih => exact code rest ih
  | case4 rest ih => exact quotes rest ih
  | case5 c rest hescape hcode hquotes ih =>
    refine plain c rest ⟨hescape, ?_, ?_⟩ ih
    · rintro ⟨tail, h⟩
      exact hcode tail (List.cons.inj h).1.symm (List.cons.inj h).2.symm
    · rintro ⟨tail, h⟩
      exact hquotes tail (List.cons.inj h).1.symm (List.cons.inj h).2.symm

/-- What is escaped as a whole stays on its line. -/
theorem splitAt_escaped (front escaped : List Char) {rest : List Char} (hfront : '\n' ∉ front)
    (hescaped : '\n' ∉ escaped)
    (h : ∀ part, part <+: rest → heredocChars (front ++ part) = escaped ++ heredocChars part)
    (ih : Text.splitAt '\n' (heredocChars rest) = (Text.splitAt '\n' rest).map heredocChars) :
    Text.splitAt '\n' (escaped ++ heredocChars rest) =
      (Text.splitAt '\n' (front ++ rest)).map heredocChars := by
  cases hrest : Text.splitAt '\n' rest with
  | nil => exact absurd hrest (Text.splitAt_ne_nil _ _)
  | cons part parts =>
    rw [hrest, List.map_cons] at ih
    rw [Text.splitAt_append_of_not_mem hescaped ih, Text.splitAt_append_of_not_mem hfront hrest,
      List.map_cons, h part (Text.prefix_of_splitAt hrest)]

/-- Escaping goes line by line. -/
theorem splitAt_heredocChars (cs : List Char) :
    Text.splitAt '\n' (heredocChars cs) = (Text.splitAt '\n' cs).map heredocChars := by
  induction cs using heredoc_induction with
  | nil => rfl
  | escape rest ih =>
    exact splitAt_escaped ['\\'] ['\\', '\\'] (by decide) (by decide) (fun _ _ => rfl) ih
  | code rest ih =>
    exact splitAt_escaped ['#', '\x7b'] ['\\', '#', '\x7b'] (by decide) (by decide)
      (fun _ _ => rfl) ih
  | quotes rest ih =>
    exact splitAt_escaped ['"', '"', '"'] ['\\', '"', '\\', '"', '\\', '"'] (by decide) (by decide)
      (fun _ _ => rfl) ih
  | plain c rest hplain ih =>
    rw [heredocChars_cons hplain]
    by_cases hc : c = '\n'
    · rw [hc, Text.splitAt_cons_self, Text.splitAt_cons_self, ih]
      rfl
    · have hfeed : '\n' ∉ [c] := by simpa using Ne.symm hc
      exact splitAt_escaped [c] [c] hfeed hfeed
        (fun part hpart => heredocChars_cons (hplain.of_prefix hpart)) ih

/-- A quotation mark in front of escaped text was in front of the text. -/
theorem of_quote_prefix {cs quotes : List Char} (h : '"' :: quotes <+: heredocChars cs) :
    ∃ rest, cs = '"' :: rest ∧ ¬ ['"', '"'] <+: rest ∧ quotes <+: heredocChars rest := by
  -- all that is escaped begins with a backslash
  have hescape {rest : List Char} : ¬ '"' :: quotes <+: '\\' :: rest := fun h =>
    absurd (List.cons_prefix_cons.mp h).1 (by decide)
  cases cs using heredoc_induction with
  | nil => exact absurd (List.prefix_nil.mp h) (List.cons_ne_nil _ _)
  | escape rest => exact absurd h hescape
  | code rest => exact absurd h hescape
  | quotes rest => exact absurd h hescape
  | plain c rest hplain =>
    rw [heredocChars_cons hplain] at h
    obtain ⟨rfl, hquotes⟩ := List.cons_prefix_cons.mp h
    exact ⟨rest, rfl, fun h => hplain.quotes (List.cons_prefix_cons.mpr ⟨rfl, h⟩), hquotes⟩

/-- Escaped text never begins with three quotation marks, which would end the heredoc. -/
theorem not_quotes_prefix_heredocChars (cs : List Char) : ¬ ['"', '"', '"'] <+: heredocChars cs := by
  intro h
  -- each mark was one of the text, and three of those would have been escaped
  obtain ⟨rest, rfl, hfew, h⟩ := of_quote_prefix h
  obtain ⟨rest, rfl, _, h⟩ := of_quote_prefix h
  obtain ⟨rest, rfl, _, _⟩ := of_quote_prefix h
  exact hfew ⟨rest, rfl⟩

/-- Blanks are not escaped, so that the margin of an escaped line is that of the line. -/
theorem dropWhile_isMargin_heredocChars (cs : List Char) :
    (heredocChars cs).dropWhile isMargin = heredocChars (cs.dropWhile isMargin) := by
  induction cs with
  | nil => rfl
  | cons c rest ih =>
    by_cases hc : isMargin c
    · have hplain : IsPlain c rest := by
        rcases (by simpa [isMargin] using hc : c = ' ' ∨ c = '\t') with rfl | rfl
        · exact .of_ne (by decide) (by decide) (by decide) rest
        · exact .of_ne (by decide) (by decide) (by decide) rest
      rw [heredocChars_cons hplain, List.dropWhile_cons_of_pos hc, List.dropWhile_cons_of_pos hc, ih]
    · rw [List.dropWhile_cons_of_neg hc]
      -- no blank comes to stand in front
      cases hcs : c :: rest using heredoc_induction with
      | nil => rfl
      | escape tail => rfl
      | code tail => rfl
      | quotes tail => rfl
      | plain d tail hplain =>
        obtain ⟨rfl, rfl⟩ := List.cons.inj hcs
        rw [heredocChars_cons hplain, List.dropWhile_cons_of_neg hc]

/-- No line of escaped text ends the heredoc, whatever its margin. -/
theorem closing?_heredocChars (cs : List Char) : closing? (heredocChars cs) = none := by
  unfold closing?
  rw [dropWhile_isMargin_heredocChars]
  split
  · next behind h =>
    refine absurd ?_ (not_quotes_prefix_heredocChars (cs.dropWhile isMargin))
    rw [h]
    exact ⟨behind, rfl⟩
  · rfl

/-! ## Reading -/

/-- Escaping puts no opening brace in front, so no `#` before it begins code. -/
theorem head?_heredocChars_append {cs rest : List Char} (hcs : cs.head? ≠ some '\x7b')
    (hrest : rest.head? ≠ some '\x7b') : (heredocChars cs ++ rest).head? ≠ some '\x7b' := by
  cases cs using heredoc_induction with
  | nil => exact hrest
  | plain c cs hplain =>
    rw [heredocChars_cons hplain]
    exact hcs
  | _ => exact fun h => absurd (Option.some.inj h) (by decide)

/-- The reader's own condition for a character that stands for itself. It is weaker than `IsPlain`,
as quotation marks mean nothing inside of a line. -/
theorem readEscapes_plain {c : Char} {rest : List Char} (hescape : c ≠ '\\')
    (hcode : c = '#' → rest.head? ≠ some '\x7b') :
    readEscapes none (c :: rest) = (readEscapes none rest).map (char c :: ·) := by
  rw [readEscapes]
  · exact fun _ _ h => absurd h hescape
  · rintro tail rfl rfl
    exact hcode rfl rfl

/-- Escaped text reads as the characters of the text and as no code. What follows is read as before,
unless it begins with a brace that a `#` at the end of the text would open code with. -/
theorem readEscapes_heredocChars (cs : List Char) {rest : List Char} {items : List LiteralItem}
    (hhead : rest.head? ≠ some '\x7b') (hrest : readEscapes none rest = some items) :
    readEscapes none (heredocChars cs ++ rest) = some (cs.map char ++ items) := by
  induction cs using heredoc_induction with
  | nil => exact hrest
  | escape cs ih =>
    show (readEscapes none (heredocChars cs ++ rest)).map _ = _
    rw [ih]
    rfl
  | code cs ih =>
    show ((readEscapes none (heredocChars cs ++ rest)).map _).map _ = _
    rw [ih]
    rfl
  | quotes cs ih =>
    show (((readEscapes none (heredocChars cs ++ rest)).map _).map _).map _ = _
    rw [ih]
    rfl
  | plain c cs hplain ih =>
    rw [heredocChars_cons hplain, List.cons_append, readEscapes_plain hplain.escape, ih]
    · rfl
    · -- a `#` that is not escaped has no brace behind it, and escaping puts none there
      rintro rfl
      refine head?_heredocChars_append (fun h => ?_) hhead
      obtain ⟨tail, rfl⟩ := List.head?_eq_some_iff.mp h
      exact hplain.code ⟨tail, rfl⟩

/-! ## A heredoc with a margin -/

/-- A line with two blanks in front, unless it is empty. -/
def withMargin (line : List Char) : List Char := if line.isEmpty then [] else ' ' :: ' ' :: line

/-- The inside of a heredoc with a margin, and the line that ends it. -/
def marginedHeredoc (cs : List Char) : List Char :=
  Text.joinWith '\n' ((Text.splitAt '\n' (heredocChars cs)).map withMargin ++
    [[' ', ' ', '"', '"', '"']])

/-- The blanks that are put in front of a line are those that are taken away again. An empty line
gets none, and none are taken from it. -/
theorem withoutMargin_withMargin (line : List Char) : withoutMargin (withMargin line) = line := by
  cases line <;> rfl

theorem closing?_withMargin (line : List Char) : closing? (withMargin line) = closing? line := by
  cases line <;> rfl

/-- The reader goes through lines that end nothing, takes their margins away and stops at the line
of quotation marks. -/
theorem readLines_withMargin {lines : List (List Char)} (h : ∀ line ∈ lines, closing? line = none)
    (behind : List Char) (others : List (List Char)) :
    readLines (lines.map withMargin ++ (' ' :: ' ' :: '"' :: '"' :: '"' :: behind) :: others) =
      some (lines, Text.joinWith '\n' (behind :: others)) := by
  induction lines with
  | nil => rfl
  | cons line lines ih =>
    have hclosing : closing? (withMargin line) = none :=
      (closing?_withMargin line).trans (h line List.mem_cons_self)
    rw [List.map_cons, List.cons_append, readLines, hclosing,
      ih fun other hother => h other (List.mem_cons_of_mem line hother)]
    show some (withoutMargin (withMargin line) :: lines, _) = _
    rw [withoutMargin_withMargin]

/-- A heredoc with a margin says the text and a line feed, whatever follows it. -/
theorem readHeredoc_heredocChars (cs rest : List Char) :
    readHeredoc ('"' :: '"' :: '"' :: '\n' :: (marginedHeredoc cs ++ rest)) =
      some ((cs ++ ['\n']).map char, rest) := by
  have hfeed : ∀ line ∈ (Text.splitAt '\n' (heredocChars cs)).map withMargin, '\n' ∉ line := by
    intro line hline hmem
    obtain ⟨part, hpart, rfl⟩ := List.mem_map.mp hline
    have hinside : '\n' ∈ part := by
      unfold withMargin at hmem
      split at hmem
      · cases hmem
      · simpa using hmem
    exact (Text.mem_of_mem_splitAt hpart hinside).2 rfl
  have hclosing : ∀ line ∈ Text.splitAt '\n' (heredocChars cs), closing? line = none := by
    intro line hline
    rw [splitAt_heredocChars] at hline
    obtain ⟨part, _, rfl⟩ := List.mem_map.mp hline
    exact closing?_heredocChars part
  have hlines : (Text.splitAt '\n' (heredocChars cs)).flatMap (· ++ ['\n']) =
      heredocChars cs ++ ['\n'] := by
    rw [Text.flatMap_concat (Text.splitAt_ne_nil _ _), Text.joinWith_splitAt]
  have hescapes : readEscapes none (heredocChars cs ++ ['\n']) =
      some ((cs ++ ['\n']).map char) := by
    rw [List.map_append]
    exact readEscapes_heredocChars cs (by decide) rfl
  cases hrest : Text.splitAt '\n' rest with
  | nil => exact absurd hrest (Text.splitAt_ne_nil _ _)
  | cons behind others =>
    have hlast : Text.splitAt '\n' ([' ', ' ', '"', '"', '"'] ++ rest) =
        (' ' :: ' ' :: '"' :: '"' :: '"' :: behind) :: others :=
      Text.splitAt_append_of_not_mem (by decide) hrest
    have hjoin : Text.joinWith '\n' (behind :: others) = rest := by
      rw [← hrest, Text.joinWith_splitAt]
    rw [readHeredoc, marginedHeredoc, Text.splitAt_joinWith_append hfeed, hlast,
      readLines_withMargin hclosing, hjoin]
    show (readEscapes none (List.flatMap (· ++ ['\n']) _) >>= _ : Option _) = _
    rw [hlines, hescapes]
    rfl

end ElixirClient.Source

import ElixirClient.Proofs.Source.LiteralReader

/-!
# Reading atoms

What the language makes of an atom: behind a colon, or in front of one for a key, stands its name,
plain or as a string literal without code. A plain name begins with a small letter or an underscore
and goes as far as it can; a question or exclamation mark ends it.

Literals and atoms read as the text they are written for (`literals_read_back`). What follows a
literal or a key makes no difference to that; what follows an atom with a plain name must not
continue the name (`EndsName`).
-/

namespace ElixirClient.Source

open LiteralItem

/-- A mark that may end a name. -/
def isNameMark (c : Char) : Bool := c = '?' || c = '!'

/-- The rest of a plain name, and what follows it. -/
def readNameRest : List Char → List Char × List Char
  | [] => ([], [])
  | c :: rest =>
    if isAtomChar c then (c :: (readNameRest rest).1, (readNameRest rest).2)
    else if isNameMark c then ([c], rest)
    else ([], c :: rest)

/-- The character that is read, unless code is. -/
def LiteralItem.char? : LiteralItem → Option Char
  | .char c => some c
  | .code _ => none

/-- Reads a name, as a literal if it begins with a quotation mark. -/
def readName : List Char → Option (List Char × List Char)
  | '"' :: rest => do
    let (items, rest) ← readLiteral ('"' :: rest)
    return (← items.mapM LiteralItem.char?, rest)
  | c :: rest =>
    if isAtomStart c then some (c :: (readNameRest rest).1, (readNameRest rest).2) else none
  | [] => none

def readAtom : List Char → Option (List Char × List Char)
  | ':' :: rest => readName rest
  | _ => none

/-- Reads an atom that is a key. -/
def readAtomKey (cs : List Char) : Option (List Char × List Char) :=
  match readName cs with
  | some (name, ':' :: rest) => some (name, rest)
  | _ => none

/-- No plain name goes on here. -/
def EndsName (rest : List Char) : Prop :=
  ∀ c, rest.head? = some c → isAtomChar c = false ∧ isNameMark c = false

theorem endsName_nil : EndsName [] := nofun

theorem endsName_cons {c : Char} (rest : List Char) (hchar : isAtomChar c = false)
    (hmark : isNameMark c = false) : EndsName (c :: rest) := by
  rintro _ ⟨⟩
  exact ⟨hchar, hmark⟩

variable {cs rest : List Char}

theorem readNameRest_of_endsName (h : EndsName rest) : readNameRest rest = ([], rest) := by
  cases rest with
  | nil => rfl
  | cons c rest =>
    obtain ⟨hchar, hmark⟩ := h c rfl
    rw [readNameRest, hchar, hmark]
    rfl

/-! ## Names -/

theorem readNameRest_append (h : isAtomTail cs = true) (hrest : EndsName rest) :
    readNameRest (cs ++ rest) = (cs, rest) := by
  induction cs with
  | nil => exact readNameRest_of_endsName hrest
  | cons c cs ih =>
    cases cs with
    | nil =>
      rw [List.singleton_append, readNameRest, readNameRest_of_endsName hrest]
      by_cases hchar : isAtomChar c = true
      · rw [if_pos hchar]
      · have hmark : isNameMark c = true := by simpa [isAtomTail, hchar, isNameMark] using h
        rw [if_neg hchar, if_pos hmark]
    | cons d cs =>
      obtain ⟨hchar, htail⟩ := Bool.and_eq_true_iff.mp h
      rw [List.cons_append, readNameRest, if_pos hchar, ih htail]

theorem ne_quotation_of_isAtomStart {c : Char} (h : isAtomStart c = true) : c ≠ '"' := by
  rintro rfl
  exact absurd h (by decide)

/-- A plain name is read back if what follows does not continue it. -/
theorem readName_plain (h : isPlainAtom cs = true) (hrest : EndsName rest) :
    readName (cs ++ rest) = some (cs, rest) := by
  cases cs with
  | nil => cases h
  | cons c cs =>
    rw [isPlainAtom, Bool.and_eq_true] at h
    rw [List.cons_append, readName, if_pos h.1, readNameRest_append h.2 hrest]
    exact ne_quotation_of_isAtomStart h.1

/-- A text that is written as a literal is read as that text. -/
theorem readLiteral_literalChars (cs rest : List Char) :
    readLiteral (literalChars cs ++ rest) = some (cs.map .char, rest) := by
  have hquotation : ('"' :: rest).head? ≠ some '\x7b' := fun h =>
    absurd (Option.some.inj h) (by decide)
  rw [literalChars, List.append_assoc]
  show LiteralItem.read none (escapeChars cs ++ '"' :: rest) = _
  rw [read_escapeChars cs hquotation]
  show some (cs.map LiteralItem.char ++ [], rest) = _
  rw [List.append_nil]

/-- A literal without code is the text of its characters. -/
theorem mapM_char?_map_char (cs : List Char) :
    (cs.map LiteralItem.char).mapM LiteralItem.char? = some cs := by
  induction cs with
  | nil => rfl
  | cons c cs ih =>
    rw [List.map_cons, List.mapM_cons, ih]
    rfl

/-- A quoted name is read back whatever follows. -/
theorem readName_literalChars (cs rest : List Char) :
    readName (literalChars cs ++ rest) = some (cs, rest) := by
  show (readLiteral (literalChars cs ++ rest)).bind _ = _
  rw [readLiteral_literalChars]
  show ((cs.map LiteralItem.char).mapM LiteralItem.char?).bind _ = _
  rw [mapM_char?_map_char]
  rfl

/-- The name of an atom is read as what it was written for, if it is not continued. -/
theorem readName_atomName (cs : List Char) (hrest : isPlainAtom cs = true → EndsName rest) :
    readName (atomName cs ++ rest) = some (cs, rest) := by
  unfold atomName
  split
  · next hplain => exact readName_plain hplain (hrest hplain)
  · exact readName_literalChars cs rest

/-! ## Literals and atoms -/

/-- An atom is read back, and only a plain one asks anything of what follows. -/
theorem readAtom_atom (text : String) (hrest : isPlainAtom text.toList = true → EndsName rest) :
    readAtom ((atom text).toList ++ rest) = some (text.toList, rest) := by
  rw [atom, String.toList_ofList]
  exact readName_atomName text.toList hrest

/-- The colon behind a key ends its name, so nothing is asked of what follows. -/
theorem readAtomKey_atomKey (text : String) (rest : List Char) :
    readAtomKey ((atomKey text).toList ++ rest) = some (text.toList, rest) := by
  have hcolon : EndsName (':' :: rest) := endsName_cons rest (by decide) (by decide)
  rw [atomKey, String.toList_ofList, atomKeyChars, List.append_assoc, List.singleton_append,
    readAtomKey, readName_atomName text.toList fun _ => hcolon]
  rfl

/-- A string literal is read back whatever follows. -/
theorem readLiteral_stringLiteral (text : String) (rest : List Char) :
    readLiteral ((stringLiteral text).toList ++ rest) = some (text.toList.map .char, rest) := by
  rw [stringLiteral, String.toList_ofList, readLiteral_literalChars]

/-- What reads back tells the texts apart that it was written for. -/
theorem injective_of_reads_back {α : Type} {write : String → String}
    {reader : List Char → Option (α × List Char)} {result : List Char → α}
    (hresult : Function.Injective result)
    (h : ∀ text, reader ((write text).toList ++ []) = some (result text.toList, [])) :
    Function.Injective write := by
  intro text other heq
  have hread := h text
  rw [heq, h other, Option.some.injEq, Prod.mk.injEq] at hread
  exact String.toList_injective (hresult hread.1).symm

/-- **Literals and atoms read back.** A string literal is read as the characters of its text,
whatever follows it, and no code is met in it. An atom and a key are read as the text they are
called by; what follows a key is never taken for a part of it, and what follows an atom is not if
it does not go on with a plain name. So different texts have different literals, atoms and keys. -/
theorem literals_read_back :
    (∀ text rest, readLiteral ((stringLiteral text).toList ++ rest) =
      some (text.toList.map .char, rest)) ∧
    (∀ text rest, (isPlainAtom text.toList = true → EndsName rest) →
      readAtom ((atom text).toList ++ rest) = some (text.toList, rest)) ∧
    (∀ text rest, readAtomKey ((atomKey text).toList ++ rest) = some (text.toList, rest)) ∧
    Function.Injective stringLiteral ∧ Function.Injective atom ∧ Function.Injective atomKey := by
  have hchars : Function.Injective (List.map LiteralItem.char) :=
    List.map_injective_iff.mpr fun _ _ => LiteralItem.char.inj
  have hatom (text : String) : readAtom ((atom text).toList ++ []) = some (id text.toList, []) :=
    readAtom_atom text fun _ => endsName_nil
  exact ⟨readLiteral_stringLiteral, fun text _ => readAtom_atom text, readAtomKey_atomKey,
    injective_of_reads_back hchars fun text => readLiteral_stringLiteral text [],
    injective_of_reads_back Function.injective_id hatom,
    injective_of_reads_back Function.injective_id fun text => readAtomKey_atomKey text []⟩

theorem literals_read_back_hash :
    readLiteral ((stringLiteral "#\x7b\\n\"\n\\").toList ++ "#\x7b".toList) =
        some ("#\x7b\\n\"\n\\".toList.map .char, "#\x7b".toList) ∧
      readAtom ((atom "valid?").toList ++ "[".toList) = some ("valid?".toList, "[".toList) ∧
      readAtomKey ((atomKey "x-y").toList ++ ":".toList) = some ("x-y".toList, ":".toList) := by
  refine ⟨literals_read_back.1 _ _, literals_read_back.2.1 _ _ fun _ => ?_,
    literals_read_back.2.2.1 _ _⟩
  exact endsName_cons [] (by decide) (by decide)

end ElixirClient.Source

import ElixirClient.Naming.Words
import ElixirClient.Proofs.Text.Ascii
import ElixirClient.Proofs.Text.Split

/-!
# The alphabet of identifiers

Parting words adds underscores to a segment and slashes between segments, and on ASCII text lower
case leaves nothing else than small letters, digits and underscores
(`isArgumentChar_of_mem_underscoreSegment`). So an identifier made of any text is made of those:
`variableName_alphabet`.
-/

namespace ElixirClient.Naming

/-- A small letter, a digit or an underscore. -/
def isArgumentChar (c : Char) : Bool := isLower c || ('0' ≤ c && c ≤ '9') || c = '_'

theorem isAscii_of_isIdentifierChar {c : Char} (h : isIdentifierChar c) : Text.IsAscii c := by
  simp only [isIdentifierChar, isLower, isUpper, Bool.or_eq_true, Bool.and_eq_true,
    decide_eq_true_iff, Char.le_def, UInt32.le_iff_toNat_le] at h
  show c.val.toNat < 128
  rcases h with ((⟨_, h⟩ | ⟨_, h⟩) | ⟨_, h⟩) | h
  · exact Nat.lt_of_le_of_lt h (by decide)
  · exact Nat.lt_of_le_of_lt h (by decide)
  · exact Nat.lt_of_le_of_lt h (by decide)
  · rw [h]
    decide

theorem isArgumentChar_toLower {c : Char} (h : isIdentifierChar c) : isArgumentChar c.toLower :=
  Text.IsAscii.of_forall (P := fun c => isIdentifierChar c → isArgumentChar c.toLower)
    (by decide +kernel) (isAscii_of_isIdentifierChar h) h

/-! ## What parting words adds -/

/-- A character that is kept in front, where behind it underscores may have been added. -/
theorem mem_cons_or_mark {a c : Char} {new old : List Char} (h : c ∈ a :: new)
    (ih : c ∈ new → c ∈ old ∨ c = '_') : c ∈ a :: old ∨ c = '_' := by
  rcases List.mem_cons.mp h with h | h
  · exact .inl (h ▸ List.mem_cons_self)
  · exact (ih h).imp_left (List.mem_cons_of_mem a)

theorem mem_partAcronyms {cs : List Char} {c : Char} (h : c ∈ partAcronyms cs) :
    c ∈ cs ∨ c = '_' := by
  fun_induction partAcronyms cs with
  | case1 a b d rest _ ih =>
    exact mem_cons_or_mark h fun h => (List.mem_cons.mp h).elim .inr ih
  | case2 a b d rest _ ih => exact mem_cons_or_mark h ih
  | case3 short _ => exact .inl h

theorem mem_partWords {cs : List Char} {c : Char} (h : c ∈ partWords cs) : c ∈ cs ∨ c = '_' := by
  fun_induction partWords cs with
  | case1 a b rest _ ih =>
    exact mem_cons_or_mark h fun h => (List.mem_cons.mp h).elim .inr ih
  | case2 a b rest _ ih => exact mem_cons_or_mark h ih
  | case3 short _ => exact .inl h

/-- A segment of identifier characters is parted into words of small letters and digits. -/
theorem isArgumentChar_of_mem_underscoreSegment {segment : List Char}
    (hsegment : ∀ c ∈ segment, isIdentifierChar c) {c : Char} (h : c ∈ underscoreSegment segment) :
    isArgumentChar c := by
  have hwords : ∀ d ∈ partWords (partAcronyms segment), isIdentifierChar d := by
    intro d hd
    rcases mem_partWords hd with hd | rfl
    · rcases mem_partAcronyms hd with hd | rfl
      · exact hsegment d hd
      · decide
    · decide
  unfold underscoreSegment at h
  rw [Text.lower_of_ascii fun d hd => isAscii_of_isIdentifierChar (hwords d hd)] at h
  obtain ⟨d, hd, rfl⟩ := List.mem_map.mp h
  exact isArgumentChar_toLower (hwords d hd)

/-- A character of a parted name is a slash or comes from one of its segments. -/
theorem mem_underscoreChars {cs : List Char} {c : Char} (h : c ∈ underscoreChars cs) :
    c = '/' ∨ ∃ segment ∈ Text.splitAt '.' cs, c ∈ underscoreSegment segment := by
  rcases Text.mem_joinWith h with h | ⟨part, hpart, h⟩
  · exact .inl h
  · obtain ⟨segment, hsegment, rfl⟩ := List.mem_map.mp hpart
    exact .inr ⟨segment, hsegment, h⟩

theorem mem_replaceChar {old new : Char} {cs : List Char} {c : Char}
    (h : c ∈ replaceChar old new cs) : c = new ∨ c ∈ cs ∧ c ≠ old := by
  obtain ⟨d, hd, rfl⟩ := List.mem_map.mp h
  by_cases hold : d = old
  · rw [if_pos hold]
    exact .inl rfl
  · rw [if_neg hold]
    exact .inr ⟨hd, hold⟩

/-- The words of identifier characters, with dots in the place of their underscores and parted by
these: slashes come from dots, and both go. -/
theorem isArgumentChar_of_mem_words {cs : List Char} (hcs : ∀ c ∈ cs, isIdentifierChar c) {c : Char}
    (h : c ∈ replaceChar '/' '_' (underscoreChars (replaceChar '_' '.' cs))) :
    isArgumentChar c := by
  rcases mem_replaceChar h with rfl | ⟨h, hslash⟩
  · decide
  · obtain ⟨segment, hsegment, h⟩ := (mem_underscoreChars h).resolve_left hslash
    refine isArgumentChar_of_mem_underscoreSegment (fun d hd => ?_) h
    obtain ⟨hd, hdot⟩ := Text.mem_of_mem_splitAt hsegment hd
    exact hcs d ((mem_replaceChar hd).resolve_left hdot).1

/-! ## Identifiers -/

theorem mem_of_mem_squeeze {cs : List Char} {c : Char} (h : c ∈ squeeze cs) : c ∈ cs := by
  fun_induction squeeze cs with
  | case1 rest ih => exact List.mem_cons_of_mem _ (ih h)
  | case2 d rest _ ih =>
    rcases List.mem_cons.mp h with h | h
    · exact h ▸ List.mem_cons_self
    · exact List.mem_cons_of_mem d (ih h)
  | case3 => cases h

theorem mem_of_mem_strip {edge : Char} {cs : List Char} {c : Char} (h : c ∈ strip edge cs) :
    c ∈ cs := by
  rw [strip, List.mem_reverse] at h
  exact (List.dropWhile_sublist _).mem (List.mem_reverse.mp ((List.dropWhile_sublist _).mem h))

/-- An identifier is made of small letters, digits and underscores, whatever it is made from. -/
theorem variableName_alphabet (raw : String) :
    ∀ c ∈ (variableName raw).toList, isArgumentChar c := by
  rw [variableName, String.toList_ofList]
  have hcleaned : ∀ c ∈ raw.toList.map fun c => if isIdentifierChar c then c else '_',
      isIdentifierChar c := by
    intro c hc
    obtain ⟨d, _, rfl⟩ := List.mem_map.mp hc
    split
    · assumption
    · decide
  have hname {c : Char} (hc : c ∈ strip '_' (squeeze (replaceChar '/' '_' (underscoreChars
      (replaceChar '_' '.' (raw.toList.map fun c => if isIdentifierChar c then c else '_')))))) :
      isArgumentChar c :=
    isArgumentChar_of_mem_words hcleaned (mem_of_mem_squeeze (mem_of_mem_strip hc))
  unfold variableChars
  simp only
  split
  · -- a prefix keeps the name from beginning with a digit or being empty
    intro c hc
    rcases List.mem_cons.mp hc with rfl | hc
    · decide
    · rcases List.mem_cons.mp hc with rfl | hc
      · decide
      · exact hname hc
  · intro c hc
    exact hname hc

end ElixirClient.Naming

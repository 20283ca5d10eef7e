import ElixirClient.Proofs.Naming.Identifier
import ElixirClient.Proofs.Naming.Namespaces
import ElixirClient.Proofs.Naming.WordBoundaries

/-!
# Argument names

An argument name is made in passes, each of which may undo what another one did, so what holds of
the name is told by what the later passes keep. None of them takes a letter or a digit away
(`filter_bareChars`): nothing is left of a text exactly if it has none. Squeezing and stripping come
last and leave no underscores but single ones between words, and no pass finds anything to do in an
argument name: `variableChars_eq_self`.
-/

namespace ElixirClient.Naming

/-- A letter or a digit of ASCII. -/
def isAlphanumeric (c : Char) : Bool := isLower c || isUpper c || isDigit c

/-- Begins with a small letter; then small letters and digits, with single underscores between. -/
structure IsArgumentName (name : List Char) : Prop where
  begins : name.head?.any isLower
  alphabet : ∀ c ∈ name, isArgumentChar c
  single : ¬ ['_', '_'] <:+: name
  ends : name.getLast? ≠ some '_'

/-! ## Squeezing -/

theorem double_infix_cons {c : Char} {rest : List Char} :
    ['_', '_'] <:+: c :: rest ↔ (c = '_' ∧ rest.head? = some '_') ∨ ['_', '_'] <:+: rest := by
  rw [List.infix_cons_iff, List.cons_prefix_cons, eq_comm]
  cases rest with
  | nil => simp
  | cons d rest => simp [List.cons_prefix_cons, eq_comm]

/-- Squeezing takes the first of two underscores away, and the second one looks the same. -/
theorem head?_squeeze (cs : List Char) : (squeeze cs).head? = cs.head? := by
  fun_induction squeeze cs with
  | case1 rest ih => exact ih
  | case2 c rest _ _ => rfl
  | case3 => rfl

/-- Where squeezing has been, no two underscores are next to each other. -/
theorem single_squeeze (cs : List Char) : ¬ ['_', '_'] <:+: squeeze cs := by
  fun_induction squeeze cs with
  | case1 rest ih => exact ih
  | case2 c rest hpair ih =>
    rw [double_infix_cons, head?_squeeze, not_or]
    refine ⟨fun hdouble => ?_, ih⟩
    -- squeezing keeps the first character, so the pair was there before and would have been squeezed
    obtain ⟨more, hmore⟩ := List.head?_eq_some_iff.mp hdouble.2
    exact hpair more hdouble.1 hmore
  | case3 => simp

theorem squeeze_eq_self {cs : List Char} (h : ¬ ['_', '_'] <:+: cs) : squeeze cs = cs := by
  fun_induction squeeze cs with
  | case1 rest _ => exact absurd (double_infix_cons.mpr (.inl ⟨rfl, rfl⟩)) h
  | case2 c rest _ ih => rw [ih fun hrest => h (double_infix_cons.mpr (.inr hrest))]
  | case3 => rfl

/-! ## The passes -/

/-- Underscores in the place of everything that no identifier has. -/
def plainChars (cs : List Char) : List Char := cs.map fun c => if isIdentifierChar c then c else '_'

/-- The words of a text of identifier characters, parted by underscores. -/
def wordChars (cs : List Char) : List Char :=
  replaceChar '/' '_' (underscoreChars (replaceChar '_' '.' cs))

/-- The name that a text comes to by itself, which may be empty or begin with a digit. -/
def bareChars (cs : List Char) : List Char := strip '_' (squeeze (wordChars (plainChars cs)))

/-- The passes of an argument name under their own names, so that each can be told apart below. -/
theorem variableChars_eq (cs : List Char) : variableChars cs =
    if (bareChars cs).isEmpty || startsWithDigit (bareChars cs) then 'p' :: '_' :: bareChars cs
    else bareChars cs := rfl

theorem isIdentifierChar_of_isArgumentChar {c : Char} (h : isArgumentChar c) :
    isIdentifierChar c := by
  simp only [isArgumentChar, isIdentifierChar, Bool.or_eq_true] at h ⊢
  tauto

theorem isAscii_of_isArgumentChar {c : Char} (h : isArgumentChar c) : Text.IsAscii c :=
  isAscii_of_isIdentifierChar (isIdentifierChar_of_isArgumentChar h)

theorem isIdentifierChar_of_mem_plainChars {cs : List Char} {c : Char} (h : c ∈ plainChars cs) :
    isIdentifierChar c := by
  obtain ⟨d, _, rfl⟩ := List.mem_map.mp h
  split
  · assumption
  · decide

theorem isAscii_of_mem_dotted {cs : List Char} (hcs : ∀ c ∈ cs, isIdentifierChar c) {c : Char}
    (h : c ∈ replaceChar '_' '.' cs) : Text.IsAscii c := by
  rcases mem_replaceChar h with rfl | ⟨hc, _⟩
  · decide
  · exact isAscii_of_isIdentifierChar (hcs c hc)

/-- After the first pass all characters are ASCII, and words are found by the case of ASCII letters
only. -/
theorem wordChars_eq {cs : List Char} (hcs : ∀ c ∈ cs, isIdentifierChar c) :
    wordChars cs = replaceChar '/' '_' (snakeFrom none (replaceChar '_' '.' cs)) := by
  rw [wordChars, underscoreChars_of_ascii fun c => isAscii_of_mem_dotted hcs]

/-! ## Letters and digits -/

/-- A pass that changes nothing but characters of the other kind, into such ones. -/
theorem filter_map_of_fixed {p : Char → Bool} {f : Char → Char}
    (h : ∀ c, f c = c ∨ p c = false ∧ p (f c) = false) (cs : List Char) :
    (cs.map f).filter p = cs.filter p := by
  induction cs with
  | nil => rfl
  | cons c rest ih =>
    rw [List.map_cons, List.filter_cons, List.filter_cons, ih]
    rcases h c with hc | ⟨hc, hfc⟩
    · rw [hc]
    · rw [hc, hfc]
      rfl

/-- What becomes an underscore was neither a letter nor a digit, and neither is the underscore. -/
theorem filter_plainChars (cs : List Char) :
    (plainChars cs).filter isAlphanumeric = cs.filter isAlphanumeric := by
  refine filter_map_of_fixed (fun c => ?_) cs
  by_cases hc : isIdentifierChar c = true
  · exact .inl (if_pos hc)
  -- an identifier has all letters and digits, and the underscore besides
  · have hother : isAlphanumeric c = false := by
      simp only [isIdentifierChar, Bool.not_eq_true, Bool.or_eq_false_iff] at hc
      simp only [isAlphanumeric, isDigit, hc.1, Bool.or_self]
    rw [if_neg hc]
    exact .inr ⟨hother, by decide⟩

theorem filter_replaceChar {old new : Char} (hold : isAlphanumeric old = false)
    (hnew : isAlphanumeric new = false) (cs : List Char) :
    (replaceChar old new cs).filter isAlphanumeric = cs.filter isAlphanumeric := by
  refine filter_map_of_fixed (fun c => ?_) cs
  by_cases hc : c = old
  · rw [if_pos hc, hc]
    exact .inr ⟨hold, hnew⟩
  · exact .inl (if_neg hc)

/-- A letter or digit stays one in lower case, and what is none stays none. -/
theorem isAlphanumeric_of_ascii {c : Char} (hc : Text.IsAscii c) :
    isAlphanumeric (if c = '.' then '/' else c.toLower) = isAlphanumeric c ∧
      (isAlphanumeric c → (if c = '.' then '/' else c.toLower) = c.toLower) :=
  Text.IsAscii.of_forall
    (P := fun c => isAlphanumeric (if c = '.' then '/' else c.toLower) = isAlphanumeric c ∧
      (isAlphanumeric c → (if c = '.' then '/' else c.toLower) = c.toLower))
    (by decide +kernel) hc

/-- Parting words puts the letters in lower case, and what it adds are no letters. -/
theorem filter_snakeFrom {cs : List Char} (hascii : ∀ c ∈ cs, Text.IsAscii c)
    (before : Option Char) : (snakeFrom before cs).filter isAlphanumeric =
      (cs.filter isAlphanumeric).map Char.toLower := by
  induction cs generalizing before with
  | nil => rfl
  | cons c rest ih =>
    obtain ⟨hsame, hlower⟩ := isAlphanumeric_of_ascii (hascii c List.mem_cons_self)
    have htail := ih (fun d hd => hascii d (List.mem_cons_of_mem c hd)) (some c)
    have hmark : (if opensWord before c rest.head? then ['_'] else []).filter isAlphanumeric =
        [] := by
      split <;> rfl
    rw [snakeFrom, List.filter_append, hmark, List.nil_append, List.filter_cons, List.filter_cons,
      hsame, htail]
    split
    · next hc => rw [hlower hc, List.map_cons]
    · rfl

theorem filter_squeeze {p : Char → Bool} (hmark : p '_' = false) (cs : List Char) :
    (squeeze cs).filter p = cs.filter p := by
  fun_induction squeeze cs with
  | case1 rest ih =>
    have hdouble : ('_' :: '_' :: rest).filter p = ('_' :: rest).filter p :=
      List.filter_cons_of_neg (by simp [hmark])
    rw [ih, hdouble]
  | case2 c rest _ ih => rw [List.filter_cons, List.filter_cons, ih]
  | case3 => rfl

/-- A name keeps the letters and digits of the text, in lower case. -/
theorem filter_bareChars (cs : List Char) :
    (bareChars cs).filter isAlphanumeric = (cs.filter isAlphanumeric).map Char.toLower := by
  have hmark : isAlphanumeric '_' = false := by decide
  have hdot : isAlphanumeric '.' = false := by decide
  have hslash : isAlphanumeric '/' = false := by decide
  have hplain : ∀ c ∈ plainChars cs, isIdentifierChar c := fun c => isIdentifierChar_of_mem_plainChars
  rw [bareChars, filter_strip hmark, filter_squeeze hmark, wordChars_eq hplain,
    filter_replaceChar hslash hmark, filter_snakeFrom fun c => isAscii_of_mem_dotted hplain,
    filter_replaceChar hmark hdot, filter_plainChars]

/-! ## What a text comes to -/

theorem isArgumentChar_of_mem_bareChars {cs : List Char} {c : Char} (h : c ∈ bareChars cs) :
    isArgumentChar c :=
  isArgumentChar_of_mem_words (fun _ => isIdentifierChar_of_mem_plainChars)
    (mem_of_mem_squeeze (mem_of_mem_strip h))

theorem single_bareChars (cs : List Char) : ¬ ['_', '_'] <:+: bareChars cs :=
  fun h => single_squeeze _ (h.trans (infix_of_strip _))

theorem head?_bareChars (cs : List Char) : (bareChars cs).head? ≠ some '_' := head?_strip _

theorem getLast?_bareChars (cs : List Char) : (bareChars cs).getLast? ≠ some '_' := getLast?_strip _

/-- Something is left only of a text with letters or digits: a name of underscores alone would end
in one. -/
theorem bareChars_eq_nil_iff (cs : List Char) :
    bareChars cs = [] ↔ ∀ c ∈ cs, isAlphanumeric c = false := by
  have hfilter : (bareChars cs).filter isAlphanumeric = [] ↔ ∀ c ∈ cs, isAlphanumeric c = false := by
    simp [filter_bareChars]
  rw [← hfilter]
  constructor
  · intro h
    rw [h, List.filter_nil]
  · intro h
    by_contra hne
    -- the last character is no letter or digit either, and it is no underscore
    have hlast : (bareChars cs).getLast hne ∈ bareChars cs := List.getLast_mem hne
    have hother := List.filter_eq_nil_iff.mp h _ hlast
    have hmark : (bareChars cs).getLast hne = '_' := by
      have hchar := isArgumentChar_of_mem_bareChars hlast
      simp only [isAlphanumeric, isDigit, Bool.not_eq_true, Bool.or_eq_false_iff] at hother
      simpa [isArgumentChar, hother.1.1, hother.2] using hchar
    have hends := getLast?_bareChars cs
    rw [List.getLast?_eq_some_getLast hne, hmark] at hends
    exact hends rfl

/-- A name that does not begin with a digit begins with a letter. -/
theorem isArgumentName_bareChars {cs : List Char} (hne : bareChars cs ≠ [])
    (hdigit : startsWithDigit (bareChars cs) = false) : IsArgumentName (bareChars cs) where
  begins := by
    have hhead := head?_bareChars cs
    obtain ⟨c, rest, hname⟩ := List.exists_cons_of_ne_nil hne
    have hchar : isArgumentChar c := isArgumentChar_of_mem_bareChars (hname ▸ List.mem_cons_self)
    rw [hname, List.head?_cons] at hhead
    rw [hname, startsWithDigit, isDecimal_of_ascii (isAscii_of_isArgumentChar hchar),
      isDigit] at hdigit
    have hmark : c ≠ '_' := fun h => hhead (congrArg some h)
    -- neither a digit nor an underscore, so a small letter
    rw [hname, List.head?_cons, Option.any_some]
    simpa [isArgumentChar, hdigit, hmark] using hchar
  alphabet := fun c => isArgumentChar_of_mem_bareChars
  single := single_bareChars cs
  ends := getLast?_bareChars cs

/-- Behind the prefix a name may begin with a digit; it is not begun with a second underscore. -/
theorem isArgumentName_prefixed {cs : List Char} (hne : bareChars cs ≠ []) :
    IsArgumentName ('p' :: '_' :: bareChars cs) where
  begins := by
    show isLower 'p' = true
    decide
  alphabet := by
    intro c hc
    simp only [List.mem_cons] at hc
    rcases hc with rfl | rfl | hc
    · decide
    · decide
    · exact isArgumentChar_of_mem_bareChars hc
  single := by
    simp only [double_infix_cons, not_or]
    exact ⟨fun h => absurd h.1 (by decide), fun h => head?_bareChars cs h.2, single_bareChars cs⟩
  ends := by
    have hends := getLast?_bareChars cs
    rw [List.getLast?_eq_some_getLast hne] at hends
    rw [List.getLast?_cons_cons, List.getLast?_cons, List.getLast?_eq_some_getLast hne]
    exact hends

/-! ## Argument names stay -/

/-- Words begin at capitals, so a text without any is one word. -/
theorem snakeFrom_of_small {cs : List Char} (h : ∀ c ∈ cs, isUpper c = false)
    (before : Option Char) :
    snakeFrom before cs = cs.map fun c => if c = '.' then '/' else c.toLower := by
  induction cs generalizing before with
  | nil => rfl
  | cons c rest ih =>
    have hopens : opensWord before c rest.head? = false := by
      rw [opensWord, h c List.mem_cons_self, Bool.false_and]
    rw [snakeFrom, hopens, ih fun d hd => h d (List.mem_cons_of_mem c hd)]
    rfl

theorem plainChars_eq_self {cs : List Char} (h : ∀ c ∈ cs, isArgumentChar c) :
    plainChars cs = cs := by
  have hchar : ∀ c ∈ cs, (if isIdentifierChar c then c else '_') = c :=
    fun c hc => if_pos (isIdentifierChar_of_isArgumentChar (h c hc))
  rw [plainChars, List.map_congr_left hchar, List.map_id']

/-- No capital letter begins a word, and dots stand for the underscores only on the way. -/
theorem wordChars_eq_self {cs : List Char} (h : ∀ c ∈ cs, isArgumentChar c) : wordChars cs = cs := by
  have hsmall : ∀ c ∈ replaceChar '_' '.' cs, isUpper c = false := by
    intro c hc
    rcases mem_replaceChar hc with rfl | ⟨hc, _⟩
    · decide
    · exact Text.IsAscii.of_forall (P := fun c => isArgumentChar c → isUpper c = false)
        (by decide +kernel) (isAscii_of_isArgumentChar (h c hc)) (h c hc)
  rw [wordChars_eq fun c hc => isIdentifierChar_of_isArgumentChar (h c hc),
    snakeFrom_of_small hsmall]
  simp only [replaceChar, List.map_map]
  refine (List.map_congr_left fun c hc => ?_).trans (List.map_id cs)
  -- there and back, character by character
  exact Text.IsAscii.of_forall (P := fun c => isArgumentChar c →
      (((fun c => if c = '/' then '_' else c) ∘ fun c => if c = '.' then '/' else c.toLower) ∘
        fun c => if c = '_' then '.' else c) c = id c)
    (by decide +kernel) (isAscii_of_isArgumentChar (h c hc)) (h c hc)

/-- No pass finds anything to do in an argument name. -/
theorem variableChars_eq_self {name : List Char} (h : IsArgumentName name) :
    variableChars name = name := by
  cases name with
  | nil => cases h.begins
  | cons c rest =>
    have hletter : isLower c = true := h.begins
    have hascii : Text.IsAscii c := isAscii_of_isArgumentChar (h.alphabet c List.mem_cons_self)
    have hfirst : (c :: rest).head? ≠ some '_' := by
      intro hmark
      rw [Option.some.inj hmark] at hletter
      cases hletter
    have hdigit : startsWithDigit (c :: rest) = false :=
      Text.IsAscii.of_forall (P := fun c => isLower c → Text.isDecimal c = false)
        (by decide +kernel) hascii hletter
    -- pass by pass: its alphabet, its case, its single underscores and its ends
    have hbare : bareChars (c :: rest) = c :: rest := by
      rw [bareChars, plainChars_eq_self h.alphabet, wordChars_eq_self h.alphabet,
        squeeze_eq_self h.single, strip_eq_self hfirst h.ends]
    rw [variableChars_eq, hbare, hdigit]
    rfl

/-! ## Any text -/

/-- A text comes to the prefix alone or to an argument name. -/
theorem variableChars_cases (cs : List Char) :
    (variableChars cs = ['p', '_'] ∧ bareChars cs = []) ∨
      (IsArgumentName (variableChars cs) ∧ bareChars cs ≠ []) := by
  rw [variableChars_eq]
  by_cases hne : bareChars cs = []
  · left
    rw [hne]
    exact ⟨rfl, rfl⟩
  · right
    refine ⟨?_, hne⟩
    split
    · exact isArgumentName_prefixed hne
    · next h =>
      rw [Bool.or_eq_true, not_or, Bool.not_eq_true, Bool.not_eq_true] at h
      exact isArgumentName_bareChars hne h.2

theorem not_isArgumentName_prefix : ¬ IsArgumentName ['p', '_'] := fun h => h.ends rfl

/-- **Argument names of any text.** A text without letters and digits of ASCII has no name but the
prefix; every other text has an argument name, which is the argument name of itself. -/
theorem variableName_wellFormed (raw : String) :
    (variableName raw = "p_" ∨ IsArgumentName (variableName raw).toList ∧
      variableName (variableName raw) = variableName raw) ∧
    (variableName raw = "p_" ↔ ∀ c ∈ raw.toList, isAlphanumeric c = false) := by
  have hname : (variableName raw).toList = variableChars raw.toList := String.toList_ofList
  have halone : variableName raw = "p_" ↔ variableChars raw.toList = ['p', '_'] := by
    rw [← hname, ← String.toList_inj]
    rfl
  rw [halone, ← bareChars_eq_nil_iff]
  rcases variableChars_cases raw.toList with ⟨hp, hnil⟩ | ⟨hargument, hne⟩
  · exact ⟨.inl hp, fun _ => hnil, fun _ => hp⟩
  · refine ⟨.inr ⟨hname ▸ hargument, ?_⟩, fun hp => ?_, fun hnil => absurd hnil hne⟩
    · rw [← hname] at hargument
      rw [variableName, variableChars_eq_self hargument, String.ofList_toList]
    · rw [hp] at hargument
      exact absurd hargument not_isArgumentName_prefix

/-- The prefix alone is a text with a letter. -/
example : variableName "p_" = "p" := by decide +kernel

end ElixirClient.Naming

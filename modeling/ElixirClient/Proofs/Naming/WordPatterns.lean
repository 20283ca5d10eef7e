import Mathlib
import ElixirClient.Proofs.Naming.Identifier
import ElixirClient.Proofs.Naming.WordBoundaries
import ElixirClient.Proofs.Pattern.Substitution

/-!
# Words by patterns

The two passes that part a segment can be given by patterns: `([A-Z]+)([A-Z][a-z])` and
`([a-z\d])([A-Z])`, with an underscore between the two groups of every match. The first pattern takes
a whole run of capitals and gives the last one back (`backOff_capital`), so what it finds at the head
of a text is told by reading on to the first small letter (`acronym?`). What a match has taken hides no
later boundary, since a boundary lies in front of a capital letter and a match of either pattern ends
behind the next character but one at most (`substitute_acronym?`, `substitute_word?`).

`underscore_by_patterns` puts both together with the places where words begin.
-/

namespace ElixirClient.Naming

open Pattern (CharSet ClassItem Progress Regex ReplacementPart Rest backOff drop_succ_of_cons expand
  greedily_one replaceAll_eq_substitute size_of_drop_eq_cons step_one substitute toList_extract)

/-! ## The patterns -/

def capital : CharSet := ⟨[.range 65 90], false, .exact⟩

def small : CharSet := ⟨[.range 97 122], false, .exact⟩

def smallOrDigit : CharSet := ⟨[.range 97 122, .category .digit false false], false, .exact⟩

/-- A run of capitals in front of a capital that begins a word. -/
def acronymPattern : Pattern where
  source := "([A-Z]+)([A-Z][a-z])"
  regex := .sequence (.group 1 (.repeated 1 none .greedy (.one capital)))
    (.group 2 (.sequence (.one capital) (.one small)))
  groupCount := 2
  names := []

/-- The end of a word in front of a capital. -/
def wordPattern : Pattern where
  source := "([a-z\\d])([A-Z])"
  regex := .sequence (.group 1 (.one smallOrDigit)) (.group 2 (.one capital))
  groupCount := 2
  names := []

/-- The pattern is what its source compiles to, evaluated once and for all. -/
theorem compile_acronymPattern :
    Pattern.compile "([A-Z]+)([A-Z][a-z])" = .ok acronymPattern := by
  cbv

theorem compile_wordPattern : Pattern.compile "([a-z\\d])([A-Z])" = .ok wordPattern := by
  cbv

/-- The first group, an underscore and the second group. -/
def partedGroups : List ReplacementPart := [.group 1, .text ['_'], .group 2]

theorem readReplacement_acronymPattern :
    Pattern.readReplacement acronymPattern "\\1_\\2".toList = .ok partedGroups := by
  cbv

theorem readReplacement_wordPattern :
    Pattern.readReplacement wordPattern "\\1_\\2".toList = .ok partedGroups := by
  cbv

/-- The sets of the patterns are the characters that the passes ask for. -/
theorem contains_capital (c : Char) : capital.contains c = isUpper c := by
  simp [CharSet.contains, capital, ClassItem.contains, Pattern.CaseRule.equivalents, isUpper,
    Char.le_def, UInt32.le_iff_toNat_le]

theorem contains_small (c : Char) : small.contains c = isLower c := by
  simp [CharSet.contains, small, ClassItem.contains, Pattern.CaseRule.equivalents, isLower,
    Char.le_def, UInt32.le_iff_toNat_le]

theorem contains_smallOrDigit (c : Char) :
    smallOrDigit.contains c = (isLower c || Text.isDecimal c) := by
  simp [CharSet.contains, smallOrDigit, ClassItem.contains, Pattern.CaseRule.equivalents, isLower,
    Char.le_def, UInt32.le_iff_toNat_le, Pattern.Category.contains]

/-! ## What the patterns match -/

/-- How many capitals a run of capitals has in front of its last one, if a small letter follows. -/
def capitalsAhead? : List Char → Option Nat
  | c :: d :: rest =>
    if isUpper c then
      if isLower d then some 0 else (capitalsAhead? (d :: rest)).map (· + 1)
    else none
  | _ => none

/-- A stretch of capitals up to the second character of a word, with an underscore in front of the
word. -/
def acronym? : List Char → Option (Nat × List Char)
  | [] => none
  | c :: cs =>
    if isUpper c then
      (capitalsAhead? cs).map fun n => (n + 3, (c :: cs).take (n + 1) ++ '_' :: (cs.drop n).take 2)
    else none

/-- The end of a word and a capital, with an underscore between them. -/
def word? : List Char → Option (Nat × List Char)
  | c :: d :: _ => if (isLower c || Text.isDecimal c) && isUpper d then some (2, [c, '_', d]) else none
  | _ => none

theorem not_isUpper_of_isLower {c : Char} (h : isLower c = true) : isUpper c = false := by
  simp only [isLower, isUpper, Bool.and_eq_true, decide_eq_true_eq, Char.le_def,
    UInt32.le_iff_toNat_le, Bool.and_eq_false_imp, decide_eq_false_iff_not] at h ⊢
  have hcase : 'Z'.val.toNat < 'a'.val.toNat := by decide
  omega

/-- Behind the capitals that are counted there are two more characters, so a match does not reach
over the end. -/
theorem le_length_of_capitalsAhead? {cs : List Char} {n : Nat} (h : capitalsAhead? cs = some n) :
    n + 2 ≤ cs.length := by
  fun_induction capitalsAhead? cs generalizing n with
  | case1 c d rest _ _ =>
    cases h
    simp
  | case2 c d rest _ _ ih =>
    obtain ⟨m, hm, rfl⟩ := Option.map_eq_some_iff.mp h
    have hlength := ih hm
    simp only [List.length_cons] at hlength ⊢
    -- one more capital, and the same two characters behind it
    omega
  | case3 => cases h
  | case4 => cases h

section Matches

variable {text : Array Char}

/-- The second group of the pattern for acronyms: a capital and a small letter. -/
def startsWord : List Char → Bool
  | c :: d :: _ => isUpper c && isLower d
  | _ => false

/-- A run of capitals gives back as many of them as it must until a word starts behind it: none if
what comes behind the run is no small letter, and else the last one. -/
theorem backOff_capital {groups : List (Nat × Nat × Nat)} {rest : Rest} {finish : Nat → Progress}
    (hrest : ∀ j, rest ⟨j, groups⟩ =
      if startsWord (text.toList.drop j) then some (finish j) else none)
    {cs : List Char} {i : Nat} (hcs : text.toList.drop i = cs) :
    backOff capital groups rest i cs = (capitalsAhead? cs).map fun n => finish (i + n) := by
  induction cs generalizing i with
  | nil =>
    rw [backOff, hrest, hcs]
    rfl
  | cons c cs ih =>
    have hnext := (drop_succ_of_cons hcs).2
    have hrun := ih hnext
    rw [backOff, hrest, hcs, contains_capital, hrun]
    cases cs with
    | nil =>
      have hshort : startsWord [c] = false := rfl
      rw [hshort]
      split <;> rfl
    | cons d cs =>
      rw [startsWord, capitalsAhead?]
      by_cases hc : isUpper c = true
      · by_cases hd : isLower d = true
        · -- the run ends in front of the small letter, and gives one capital back
          have hnone : capitalsAhead? (d :: cs) = none := by
            cases cs with
            | nil => rfl
            | cons e cs => rw [capitalsAhead?, not_isUpper_of_isLower hd]; rfl
          rw [hc, hd, hnone]
          rfl
        · rw [Bool.not_eq_true] at hd
          rw [hc, hd]
          cases capitalsAhead? (d :: cs) with
          | none => rfl
          | some n =>
            have hplace : i + 1 + n = i + (n + 1) := by omega
            simp [hplace]
      · rw [Bool.not_eq_true] at hc
        rw [hc]
        rfl

theorem step_wordStart {groups : List (Nat × Nat × Nat)} {rest : Rest} (j : Nat) :
    (Regex.group 2 (.sequence (.one capital) (.one small))).step text ⟨j, groups⟩ rest =
      if startsWord (text.toList.drop j) then rest ⟨j + 2, (2, j, j + 2) :: groups⟩ else none := by
  show (Regex.one capital).step text ⟨j, groups⟩ (fun p => (Regex.one small).step text p fun p' =>
    rest { p' with groups := (2, j, p'.position) :: p'.groups }) = _
  rw [step_one]
  cases h : text.toList.drop j with
  | nil => rfl
  | cons c cs =>
    simp only [List.head?_cons, Option.elim_some]
    rw [contains_capital, step_one, (drop_succ_of_cons h).2]
    cases cs with
    | nil =>
      have hshort : startsWord [c] = false := rfl
      rw [hshort]
      split <;> rfl
    | cons d cs =>
      simp only [List.head?_cons, Option.elim_some]
      rw [contains_small, startsWord]
      cases isUpper c <;> cases isLower d <;> rfl

/-- A match takes as many capitals as it can and then gives one back. Which one is told without
backtracking, by `capitalsAhead?`. -/
theorem matchAt?_acronymPattern (i : Nat) : acronymPattern.regex.matchAt? text i true =
    match text.toList.drop i with
    | [] => none
    | c :: cs =>
      if isUpper c then
        (capitalsAhead? cs).map fun n =>
          ⟨i, i + n + 3, [(2, i + n + 1, i + n + 3), (1, i, i + n + 1)]⟩
      else none := by
  -- the repetition never runs out: there are fewer capitals than characters
  have hfuel : Pattern.repeatFuel text 1 = text.size + 2 + 1 := by
    rw [Pattern.repeatFuel]
    omega
  have hstep : acronymPattern.regex.matchAt? text i true =
      (Pattern.greedily ((Regex.one capital).step text) 1 none
        (fun p => (Regex.group 2 (.sequence (.one capital) (.one small))).step text
          ⟨p.position, (1, i, p.position) :: p.groups⟩ some)
        (Pattern.repeatFuel text 1) 0 none ⟨i, []⟩).map (⟨i, ·⟩) := rfl
  rw [hstep, hfuel, Pattern.greedily, if_pos Nat.zero_lt_one, step_one]
  cases h : text.toList.drop i with
  | nil => rfl
  | cons c cs =>
    have hnext := (drop_succ_of_cons h).2
    have hsize := size_of_drop_eq_cons h
    have hlength : cs.length < text.size + 2 := by omega
    simp only [List.head?_cons, Option.elim_some]
    rw [contains_capital, greedily_one hnext hlength (Nat.le_refl 1) (by simp),
      backOff_capital (fun j => step_wordStart j) hnext]
    split
    · rw [Option.map_map]
      refine congrArg (Option.map · (capitalsAhead? cs)) (funext fun n => ?_)
      have hplace : i + 1 + n = i + n + 1 := by omega
      simp only [Function.comp_apply, hplace]
    · rfl

theorem matchAt?_wordPattern (i : Nat) : wordPattern.regex.matchAt? text i true =
    match text.toList.drop i with
    | c :: d :: _ =>
      if (isLower c || Text.isDecimal c) && isUpper d then
        some ⟨i, i + 2, [(2, i + 1, i + 2), (1, i, i + 1)]⟩
      else none
    | _ => none := by
  -- the engine is unfolded once: a character of each class, with a group around each
  have hstep : wordPattern.regex.matchAt? text i true =
      ((Regex.one smallOrDigit).step text ⟨i, []⟩ fun p =>
        (Regex.one capital).step text ⟨p.position, (1, i, p.position) :: p.groups⟩ fun p' =>
          some { p' with groups := (2, p.position, p'.position) :: p'.groups }).map (⟨i, ·⟩) := rfl
  rw [hstep, step_one]
  cases h : text.toList.drop i with
  | nil => rfl
  | cons c cs =>
    simp only [List.head?_cons, Option.elim_some]
    rw [contains_smallOrDigit, step_one, (drop_succ_of_cons h).2]
    cases cs with
    | nil => simp
    | cons d cs =>
      simp only [List.head?_cons, Option.elim_some]
      rw [contains_capital]
      cases isLower c || Text.isDecimal c <;> cases isUpper d <;> rfl

/-- What takes the place of a match: its two groups, where the second begins behind the first. -/
theorem expand_partedGroups (i j finish : Nat) :
    expand text ⟨i, finish, [(2, j, finish), (1, i, j)]⟩ partedGroups =
      (text.toList.drop i).take (j - i) ++ '_' :: (text.toList.drop j).take (finish - j) := by
  show (text.extract i j).toList ++ (['_'] ++ ((text.extract j finish).toList ++ [])) = _
  rw [toList_extract, toList_extract, List.append_nil]
  rfl

/-- What the first pattern finds at a place is found by reading on from there. -/
theorem finds_acronym? (text : Array Char) :
    acronymPattern.regex.Finds text partedGroups acronym? where
  none {i} h := by
    rw [matchAt?_acronymPattern]
    cases hcs : text.toList.drop i with
    | nil => rfl
    | cons c cs =>
      rw [hcs, acronym?] at h
      simp only
      split
      · next hc => simpa [hc] using h
      · rfl
  some {i n new} h := by
    cases hcs : text.toList.drop i with
    | nil =>
      rw [hcs] at h
      cases h
    | cons c cs =>
      rw [hcs, acronym?] at h
      split at h
      · next hc =>
        obtain ⟨k, hk, hstretch⟩ := Option.map_eq_some_iff.mp h
        cases hstretch
        have hnext := (drop_succ_of_cons hcs).2
        have hsize := size_of_drop_eq_cons hcs
        have hahead := le_length_of_capitalsAhead? hk
        refine ⟨by omega, by omega, [(2, i + k + 1, i + k + 3), (1, i, i + k + 1)], ?_, ?_⟩
        · rw [matchAt?_acronymPattern, hcs]
          simp only
          rw [if_pos hc, hk]
          rfl
        · -- the groups are the run without its last capital, and this with the small letter
          have hfirst : i + k + 1 - i = k + 1 := by omega
          have hsecond : i + k + 1 = i + 1 + k := by omega
          have hwidth : i + k + 3 - (i + k + 1) = 2 := by omega
          have hbehind : text.toList.drop (i + k + 1) = cs.drop k := by
            rw [hsecond, ← List.drop_drop, hnext]
          have hfinish : i + (k + 3) = i + k + 3 := by omega
          rw [hfinish, expand_partedGroups, hfirst, hwidth, hbehind, hcs]
      · cases h

/-- The same for the second pattern. -/
theorem finds_word? (text : Array Char) : wordPattern.regex.Finds text partedGroups word? where
  none {i} h := by
    rw [matchAt?_wordPattern]
    split
    · next c d cs hcs =>
      rw [hcs, word?] at h
      split at h
      · cases h
      · next hnot => rw [if_neg hnot]
    · rfl
  some {i n new} h := by
    -- a word takes two characters
    obtain ⟨c, d, cs, hcs⟩ : ∃ c d cs, text.toList.drop i = c :: d :: cs := by
      match hcs : text.toList.drop i with
      | [] =>
        rw [hcs] at h
        cases h
      | [c] =>
        rw [hcs] at h
        cases h
      | c :: d :: cs => exact ⟨c, d, cs, rfl⟩
    rw [hcs, word?] at h
    split at h
    · next hopens =>
      cases h
      have hnext := (drop_succ_of_cons hcs).2
      have hsize := size_of_drop_eq_cons hcs
      rw [List.length_cons] at hsize
      -- both groups have one character, the second one first in the list
      refine ⟨by omega, by omega, [(2, i + 1, i + 2), (1, i, i + 1)], ?_, ?_⟩
      · rw [matchAt?_wordPattern, hcs]
        simp only
        rw [if_pos hopens]
      · have hfirst : i + 1 - i = 1 := by omega
        have hwidth : i + 2 - (i + 1) = 1 := by omega
        rw [expand_partedGroups, hfirst, hwidth, hcs, hnext]
        rfl
    · cases h

end Matches

/-! ## Reading on behind a match -/

theorem partAcronyms_cons_of_not_isUpper {c : Char} (h : isUpper c = false) (cs : List Char) :
    partAcronyms (c :: cs) = c :: partAcronyms cs := by
  match cs with
  | [] => rfl
  | [d] => rfl
  | d :: e :: cs =>
    rw [partAcronyms, h]
    rfl

/-- No capitals are parted within a run, but for the last one in front of a small letter. -/
theorem partAcronyms_of_capitalsAhead? {c : Char} {cs : List Char} {n : Nat}
    (hc : isUpper c = true) (h : capitalsAhead? cs = some n) :
    partAcronyms (c :: cs) =
      (c :: cs).take (n + 1) ++ '_' :: (cs.drop n).take 2 ++ partAcronyms (cs.drop (n + 2)) := by
  fun_induction capitalsAhead? cs generalizing c n with
  | case1 d e rest hd he =>
    cases h
    have hfirst : partAcronyms (c :: d :: e :: rest) = c :: '_' :: partAcronyms (d :: e :: rest) := by
      rw [partAcronyms, hc, hd, he]
      rfl
    -- the second capital begins a word, and the small letter behind it ends the search
    have hsecond : partAcronyms (d :: e :: rest) = d :: partAcronyms (e :: rest) := by
      cases rest with
      | nil => rfl
      | cons f rest => rw [partAcronyms, not_isUpper_of_isLower he, Bool.and_false]; rfl
    rw [hfirst, hsecond, partAcronyms_cons_of_not_isUpper (not_isUpper_of_isLower he)]
    rfl
  | case2 d e rest hd he ih =>
    obtain ⟨m, hm, rfl⟩ := Option.map_eq_some_iff.mp h
    rw [Bool.not_eq_true] at he
    have hfirst : partAcronyms (c :: d :: e :: rest) = c :: partAcronyms (d :: e :: rest) := by
      rw [partAcronyms, he, Bool.and_false]
      rfl
    -- one capital more ahead of the same place
    rw [hfirst, ih hd hm]
    rfl
  | case3 => cases h
  | case4 => cases h

theorem partAcronyms_of_acronym?_eq_none {c : Char} {cs : List Char}
    (h : acronym? (c :: cs) = none) : partAcronyms (c :: cs) = c :: partAcronyms cs := by
  match cs with
  | [] => rfl
  | [d] => rfl
  | d :: e :: cs =>
    -- were the two capitals parted, the word would have been found
    have hnot : (isUpper c && isUpper d && isLower e) = false := by
      rw [Bool.eq_false_iff]
      intro hopens
      rw [Bool.and_eq_true, Bool.and_eq_true] at hopens
      simp [acronym?, capitalsAhead?, hopens] at h
    rw [partAcronyms, hnot]
    rfl

/-- Replacing matches and parting words are one thing. A match takes a whole run of capitals, and
the pass parts nothing inside of it. -/
theorem substitute_acronym? (cs : List Char) : substitute acronym? cs = partAcronyms cs := by
  fun_induction substitute acronym? cs with
  | case1 => rfl
  | case2 c rest n new hfound ih =>
    rw [ih]
    rw [acronym?] at hfound
    split at hfound
    · next hc =>
      obtain ⟨k, hk, hstretch⟩ := Option.map_eq_some_iff.mp hfound
      cases hstretch
      rw [partAcronyms_of_capitalsAhead? hc hk]
      rfl
    · cases hfound
  | case3 c rest hfound ih => rw [ih, partAcronyms_of_acronym?_eq_none hfound]

theorem partWords_cons_of_isUpper {c : Char} (h : isUpper c = true) (cs : List Char) :
    partWords (c :: cs) = c :: partWords cs := by
  have hascii : Text.IsAscii c := isAscii_of_isIdentifierChar (by simp [isIdentifierChar, h])
  have hnot : (isLower c || Text.isDecimal c) = false :=
    Text.IsAscii.of_forall
      (P := fun c => isUpper c = true → (isLower c || Text.isDecimal c) = false)
      (by decide +kernel) hascii h
  cases cs with
  | nil => rfl
  | cons d cs =>
    rw [partWords, hnot]
    rfl

/-- As `substitute_acronym?`, for the second pass: behind a match stands a capital, and nothing ends
with it. -/
theorem substitute_word? (cs : List Char) : substitute word? cs = partWords cs := by
  fun_induction substitute word? cs with
  | case1 => rfl
  | case2 c rest n new hfound ih =>
    rw [ih]
    cases rest with
    | nil => cases hfound
    | cons d rest =>
      rw [word?] at hfound
      split at hfound
      · next hopens =>
        cases hfound
        -- the second of the two is taken too, but no word can open behind a capital
        have hd : isUpper d = true := (Bool.and_eq_true _ _ ▸ hopens).2
        rw [partWords, if_pos hopens, partWords_cons_of_isUpper hd]
        rfl
      · cases hfound
  | case3 c rest hfound ih =>
    rw [ih]
    cases rest with
    | nil => rfl
    | cons d rest =>
      rw [word?] at hfound
      split at hfound
      · cases hfound
      · next hnot => rw [partWords, if_neg hnot]

/-! ## Names by patterns -/

/-- A segment parted by the two patterns, one after the other. -/
def partByPatterns (segment : String) : Except Pattern.Error String := do
  let acronyms ← Pattern.compile "([A-Z]+)([A-Z][a-z])"
  let words ← Pattern.compile "([a-z\\d])([A-Z])"
  let parted ← acronyms.replaceAll "\\1_\\2" segment
  words.replaceAll "\\1_\\2" parted

/-- Both patterns one after the other come to both passes. -/
theorem partByPatterns_eq (segment : String) : partByPatterns segment =
    .ok (String.ofList (partWords (partAcronyms segment.toList))) := by
  have hfirst : acronymPattern.replaceAll "\\1_\\2" segment =
      .ok (String.ofList (partAcronyms segment.toList)) := by
    rw [replaceAll_eq_substitute readReplacement_acronymPattern (finds_acronym? _),
      substitute_acronym?]
  -- neither pattern fails to compile, and neither replacement to be read
  rw [partByPatterns, compile_acronymPattern, compile_wordPattern]
  show (acronymPattern.replaceAll "\\1_\\2" segment >>= wordPattern.replaceAll "\\1_\\2") = _
  rw [hfirst]
  show wordPattern.replaceAll "\\1_\\2" _ = _
  rw [replaceAll_eq_substitute readReplacement_wordPattern (finds_word? _), substitute_word?,
    String.toList_ofList]

/-- **Words of a path.** On every ASCII name, parting each segment by the two patterns and putting
it into lower case gives the path of the name: every letter is a small one, every dot a slash, and
there is one underscore more in front of a character exactly if a word begins there. -/
theorem underscore_by_patterns {name : String} (hname : ∀ c ∈ name.toList, Text.IsAscii c) :
    (∃ words : List Char → String,
      (∀ segment ∈ Text.splitAt '.' name.toList,
        partByPatterns (String.ofList segment) = .ok (words segment)) ∧
      (underscore name).toList = Text.joinWith '/'
        ((Text.splitAt '.' name.toList).map fun segment => Text.lower (words segment).toList)) ∧
    (underscore name).toList = name.toList.zipIdx.flatMap fun (c, i) =>
      (if beginsWord name.toList i then ['_'] else []) ++ [if c = '.' then '/' else c.toLower] := by
  rw [underscore, String.toList_ofList]
  constructor
  · refine ⟨fun segment => String.ofList (partWords (partAcronyms segment)), fun segment _ => ?_, ?_⟩
    · rw [partByPatterns_eq, String.toList_ofList]
    · simp only [String.toList_ofList]
      rfl
  · rw [underscoreChars_of_ascii hname, snakeFrom_eq]

/-- A run of capitals, a digit, a separator that was there before, and a capital behind a dot. -/
theorem underscore_by_patterns_HTTPKey :
    (∀ c ∈ "HTTPKey2Id_X.ABc".toList, Text.IsAscii c) ∧
      underscore "HTTPKey2Id_X.ABc" = "http_key2_id_x/a_bc" ∧
      (underscore "HTTPKey2Id_X.ABc").toList = "HTTPKey2Id_X.ABc".toList.zipIdx.flatMap fun (c, i) =>
        (if beginsWord "HTTPKey2Id_X.ABc".toList i then ['_'] else []) ++
          [if c = '.' then '/' else c.toLower] := by
  have hall : "HTTPKey2Id_X.ABc".toList.all (fun c => decide (Text.IsAscii c)) = true := by decide
  have hascii : ∀ c ∈ "HTTPKey2Id_X.ABc".toList, Text.IsAscii c :=
    fun c hc => of_decide_eq_true (List.all_eq_true.mp hall c hc)
  exact ⟨hascii, by rfl, (underscore_by_patterns hascii).2⟩

end ElixirClient.Naming

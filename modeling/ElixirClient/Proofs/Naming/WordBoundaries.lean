import ElixirClient.Naming.Words
import ElixirClient.Proofs.Text.Ascii
import ElixirClient.Proofs.Text.Split

/-!
# Where words begin

Parting a name takes two passes over each of its segments, and the second one looks at underscores
of the first. The two come to one pass with a window of three characters (`partWords_partAcronyms`):
an underscore stands in front of a character exactly if a word begins there, and that can be told
from its neighbours (`opensWord`). On ASCII names the segments may then be read as one text, since a
dot is no letter: `underscoreChars_of_ascii`, and by places `snakeFrom_eq`.
-/

namespace ElixirClient.Naming

/-- A digit of ASCII. -/
def isDigit (c : Char) : Bool := '0' ≤ c && c ≤ '9'

/-- Whether a word begins at a character between two others: at a capital letter behind a small one
or a digit, and at a capital letter between a capital and a small one. -/
def opensWord (before : Option Char) (c : Char) (next : Option Char) : Bool :=
  isUpper c && (before.any (fun x => isLower x || isDigit x) ||
    before.any isUpper && next.any isLower)

/-- The path of a name, behind a given character of it. -/
def snakeFrom (before : Option Char) : List Char → List Char
  | [] => []
  | c :: rest =>
    (if opensWord before c rest.head? then ['_'] else []) ++
      (if c = '.' then '/' else c.toLower) :: snakeFrom (some c) rest

/-! ## Two passes in one -/

/-- The words of a segment with underscores between them, behind a given character of it. -/
def spaced (before : Option Char) : List Char → List Char
  | [] => []
  | c :: rest =>
    (if opensWord before c rest.head? then ['_'] else []) ++ c :: spaced (some c) rest

theorem isDecimal_of_ascii {c : Char} (hc : Text.IsAscii c) : Text.isDecimal c = isDigit c :=
  Text.IsAscii.of_forall (P := fun c => Text.isDecimal c = isDigit c) (by decide +kernel) hc

theorem partAcronyms_cons (c : Char) (rest : List Char) :
    ∃ more, partAcronyms (c :: rest) = c :: more := by
  match rest with
  | [] => exact ⟨[], rfl⟩
  | [b] => exact ⟨[b], rfl⟩
  | b :: d :: rest =>
    rw [partAcronyms]
    split
    · exact ⟨_, rfl⟩
    · exact ⟨_, rfl⟩

/-- Behind the first character, the two passes set the underscores of one. Induction on what comes
behind it: the first pass decides by the next two characters, and an underscore that it has set is
neither a small letter nor a capital to the second. -/
theorem partWords_partAcronyms_cons {x : Char} {rest : List Char}
    (hascii : ∀ c ∈ x :: rest, Text.IsAscii c) :
    partWords (partAcronyms (x :: rest)) = x :: spaced (some x) rest := by
  have hdigit : Text.isDecimal x = isDigit x := isDecimal_of_ascii (hascii x List.mem_cons_self)
  induction rest generalizing x with
  | nil => rfl
  | cons b more ih =>
    have hrest : ∀ c ∈ b :: more, Text.IsAscii c :=
      fun c hc => hascii c (List.mem_cons_of_mem x hc)
    have hwords := ih hrest (isDecimal_of_ascii (hrest b List.mem_cons_self))
    obtain ⟨parted, hparted⟩ := partAcronyms_cons b more
    rw [hparted] at hwords
    by_cases hacronym : isUpper x = true ∧ isUpper b = true ∧ more.head?.any isLower = true
    · -- the first pass parts the two capitals
      obtain ⟨hx, hb, hnext⟩ := hacronym
      have hfirst : partAcronyms (x :: b :: more) = x :: '_' :: b :: parted := by
        cases more with
        | nil => simp at hnext
        | cons d more =>
          simp only [List.head?_cons, Option.any_some] at hnext
          rw [partAcronyms, hx, hb, hnext, hparted]
          rfl
      have hsecond : partWords (x :: '_' :: b :: parted) = x :: '_' :: partWords (b :: parted) := by
        have hmark : isUpper '_' = false := by decide
        have hmark' : (isLower '_' || Text.isDecimal '_') = false := by decide
        rw [partWords, partWords, hmark, hmark', Bool.and_false, Bool.false_and]
        rfl
      have hopens : opensWord (some x) b more.head? = true := by
        simp [opensWord, hx, hb, hnext]
      rw [hfirst, hsecond, hwords, spaced, hopens]
      rfl
    · -- the first pass leaves the two characters to the second
      have hfirst : partAcronyms (x :: b :: more) = x :: b :: parted := by
        cases more with
        | nil =>
          rw [partAcronyms] at hparted ⊢
          · rw [hparted]
          · simp
          · simp
        | cons d more =>
          have hnot : (isUpper x && isUpper b && isLower d) = false := by
            simpa [Bool.and_assoc, Bool.and_eq_false_imp] using hacronym
          rw [partAcronyms, hnot, hparted]
          rfl
      have hopens : opensWord (some x) b more.head? =
          ((isLower x || Text.isDecimal x) && isUpper b) := by
        rw [hdigit, opensWord, Option.any_some, Option.any_some]
        by_cases hb : isUpper b = true
        · have hnot : (isUpper x && more.head?.any isLower) = false := by
            simpa [hb, Bool.and_eq_false_imp] using hacronym
          rw [hnot, hb, Bool.or_false, Bool.true_and, Bool.and_true]
        · rw [Bool.not_eq_true] at hb
          rw [hb, Bool.false_and, Bool.and_false]
      rw [hfirst, partWords, hwords, spaced, hopens]
      split <;> rfl

theorem partWords_partAcronyms {segment : List Char} (hascii : ∀ c ∈ segment, Text.IsAscii c) :
    partWords (partAcronyms segment) = spaced none segment := by
  cases segment with
  | nil => rfl
  | cons x rest =>
    have hopens : opensWord none x rest.head? = false := by simp [opensWord]
    rw [partWords_partAcronyms_cons hascii, spaced, hopens]
    rfl

theorem mem_spaced {before : Option Char} {cs : List Char} {c : Char} (h : c ∈ spaced before cs) :
    c ∈ cs ∨ c = '_' := by
  induction cs generalizing before with
  | nil => exact .inl h
  | cons d rest ih =>
    rw [spaced, List.mem_append, List.mem_cons] at h
    rcases h with h | rfl | h
    · split at h
      · exact .inr (List.mem_singleton.mp h)
      · cases h
    · exact .inl List.mem_cons_self
    · exact (ih h).imp_left (List.mem_cons_of_mem d)

theorem underscoreSegment_of_ascii {segment : List Char}
    (hascii : ∀ c ∈ segment, Text.IsAscii c) :
    underscoreSegment segment = (spaced none segment).map Char.toLower := by
  have hspaced : ∀ c ∈ spaced none segment, Text.IsAscii c := by
    intro c hc
    rcases mem_spaced hc with hc | rfl
    · exact hascii c hc
    · decide
  rw [underscoreSegment, partWords_partAcronyms hascii, Text.lower_of_ascii hspaced]

/-! ## Segments in a name -/

/-- No word of a segment begins on account of the dot in front of it. -/
theorem snakeFrom_dot (cs : List Char) : snakeFrom (some '.') cs = snakeFrom none cs := by
  cases cs with
  | nil => rfl
  | cons c rest =>
    have hopens : opensWord (some '.') c rest.head? = opensWord none c rest.head? := by
      have hdot : (isLower '.' || isDigit '.') = false := by decide
      have hdot' : isUpper '.' = false := by decide
      simp [opensWord, hdot, hdot']
    rw [snakeFrom, snakeFrom, hopens]

/-- A segment and what comes behind it: either nothing or a dot, and so no small letter. -/
theorem snakeFrom_append {segment : List Char} (hdot : '.' ∉ segment) (before : Option Char)
    (rest : List Char) (hrest : rest.head?.all (· = '.')) :
    snakeFrom before (segment ++ rest) = (spaced before segment).map Char.toLower ++
      snakeFrom (segment.getLast?.or before) rest := by
  induction segment generalizing before with
  | nil => rfl
  | cons c segment ih =>
    rw [List.mem_cons, not_or] at hdot
    -- the last character looks at the dot behind it, and a dot is no small letter
    have hopens : opensWord before c (segment ++ rest).head? =
        opensWord before c segment.head? := by
      cases segment with
      | cons d segment => rfl
      | nil =>
        cases rest with
        | nil => rfl
        | cons d rest =>
          have hd : d = '.' := by simpa using hrest
          have hnot : isLower '.' = false := by decide
          simp [opensWord, hd, hnot]
    have hlast : (c :: segment).getLast?.or before = segment.getLast?.or (some c) := by
      cases segment <;> simp [List.getLast?_cons]
    have hlower : (if c = '.' then '/' else c.toLower) = c.toLower := if_neg (Ne.symm hdot.1)
    have hmark : '_'.toLower = '_' := by decide
    rw [List.cons_append, snakeFrom, spaced, hopens, hlower, ih hdot.2, hlast, List.map_append,
      List.map_cons, List.append_assoc, List.cons_append]
    split <;> simp [hmark]

/-- On ASCII names, parting segment by segment is parting the name. -/
theorem underscoreChars_of_ascii {cs : List Char} (hascii : ∀ c ∈ cs, Text.IsAscii c) :
    underscoreChars cs = snakeFrom none cs := by
  -- a name is its segments with dots between them, whatever the segments are
  have hjoin (segments : List (List Char)) (hdots : ∀ segment ∈ segments, '.' ∉ segment)
      (hchars : ∀ segment ∈ segments, ∀ c ∈ segment, Text.IsAscii c) :
      Text.joinWith '/' (segments.map underscoreSegment) =
        snakeFrom none (Text.joinWith '.' segments) := by
    fun_induction Text.joinWith '.' segments with
    | case1 => rfl
    | case2 segment =>
      have hsegment := snakeFrom_append (hdots segment List.mem_cons_self) none [] rfl
      rw [List.append_nil] at hsegment
      rw [hsegment, ← underscoreSegment_of_ascii (hchars segment List.mem_cons_self)]
      simp [Text.joinWith, snakeFrom]
    | case3 segment segments hne ih =>
      have htail := ih (fun s hs => hdots s (List.mem_cons_of_mem segment hs))
        fun s hs => hchars s (List.mem_cons_of_mem segment hs)
      have hne' : segments.map underscoreSegment ≠ [] := by simpa using hne
      rw [List.map_cons, Text.joinWith_cons hne', htail,
        snakeFrom_append (hdots segment List.mem_cons_self) none _ rfl,
        ← underscoreSegment_of_ascii (hchars segment List.mem_cons_self), snakeFrom, snakeFrom_dot]
      have hopens : opensWord (segment.getLast?.or none) '.'
          (Text.joinWith '.' segments).head? = false := rfl
      rw [hopens]
      rfl
  rw [underscoreChars, hjoin, Text.joinWith_splitAt]
  · exact fun segment hsegment hdot => (Text.mem_of_mem_splitAt hsegment hdot).2 rfl
  · exact fun segment hsegment c hc => hascii c (Text.mem_of_mem_splitAt hsegment hc).1

/-! ## Places in a name -/

/-- Whether a word begins at a place of a name that is not its first. The characters that decide it
are letters and digits with no other between them, so they stand in one segment. -/
def beginsWord (cs : List Char) : Nat → Bool
  | 0 => false
  | i + 1 => cs[i + 1]?.any isUpper && (cs[i]?.any (fun x => isLower x || isDigit x) ||
      cs[i]?.any isUpper && cs[i + 2]?.any isLower)

theorem opensWord_eq_beginsWord (front : List Char) (c : Char) (rest : List Char) :
    opensWord front.getLast? c rest.head? = beginsWord (front ++ c :: rest) front.length := by
  cases hfront : front.length with
  | zero =>
    rw [List.length_eq_zero_iff.mp hfront]
    simp [opensWord, beginsWord]
  | succ n =>
    have hc : (front ++ c :: rest)[n + 1]? = some c := by
      rw [List.getElem?_append_right (by omega), hfront, Nat.sub_self]
      rfl
    have hbefore : (front ++ c :: rest)[n]? = front.getLast? := by
      rw [List.getElem?_append_left (by omega), List.getLast?_eq_getElem?, hfront]
      rfl
    have hnext : (front ++ c :: rest)[n + 2]? = rest.head? := by
      have hplace : n + 2 - (n + 1) = 0 + 1 := by omega
      rw [List.getElem?_append_right (by omega), hfront, hplace, List.getElem?_cons_succ,
        List.head?_eq_getElem?]
    rw [opensWord, beginsWord, hc, hbefore, hnext, Option.any_some]

/-- The path of a name, place by place. -/
theorem snakeFrom_eq (cs : List Char) : snakeFrom none cs =
    cs.zipIdx.flatMap fun (c, i) => (if beginsWord cs i then ['_'] else []) ++
      [if c = '.' then '/' else c.toLower] := by
  -- places are counted in the whole name, so the induction carries the part that has been read
  have hbehind (front rest : List Char) : snakeFrom front.getLast? rest =
      (rest.zipIdx front.length).flatMap fun (c, i) =>
        (if beginsWord (front ++ rest) i then ['_'] else []) ++
          [if c = '.' then '/' else c.toLower] := by
    induction rest generalizing front with
    | nil => rfl
    | cons c rest ih =>
      have htail := ih (front ++ [c])
      rw [List.getLast?_concat, List.length_append, List.length_singleton, List.append_assoc,
        List.singleton_append] at htail
      rw [snakeFrom, htail, List.zipIdx_cons, List.flatMap_cons, opensWord_eq_beginsWord,
        List.append_assoc, List.singleton_append]
  exact hbehind [] cs

end ElixirClient.Naming

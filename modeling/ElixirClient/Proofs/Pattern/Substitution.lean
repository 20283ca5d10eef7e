import ElixirClient.Pattern.Replacement

/-!
# Substitution from left to right

Replacing all matches of a pattern is a search over places of a text. Where the pattern is known to
match a certain stretch at each place, and never an empty one, the search disappears: the text is
read once from left to right, and each stretch gives way to what is put in for it
(`replaceAll_eq_substitute`).
-/

namespace ElixirClient.Pattern

/-- Reads a text from left to right and puts something in for stretches of it. What is `found` at
the head of a text is the length of a stretch, and what takes its place. -/
def substitute (found : List Char → Option (Nat × List Char)) : List Char → List Char
  | [] => []
  | c :: rest =>
    match found (c :: rest) with
    | some (n, new) => new ++ substitute found (rest.drop (n - 1))
    | none => c :: substitute found rest
termination_by cs => cs.length
decreasing_by
  · simp only [List.length_drop, List.length_cons]
    omega
  · simp

/-- The regex matches at a place of the text exactly if a stretch is found at the head of what is
left there, and then it matches this stretch, which is not empty. -/
structure Regex.Finds (r : Regex) (text : Array Char) (parts : List ReplacementPart)
    (found : List Char → Option (Nat × List Char)) : Prop where
  none {i : Nat} : found (text.toList.drop i) = none → r.matchAt? text i true = none
  some {i n : Nat} {new : List Char} : found (text.toList.drop i) = some (n, new) →
    0 < n ∧ i + n ≤ text.size ∧ ∃ groups, r.matchAt? text i true = some ⟨i, i + n, groups⟩ ∧
      expand text ⟨i, i + n, groups⟩ parts = new

variable {r : Regex} {text : Array Char} {parts : List ReplacementPart}
  {found : List Char → Option (Nat × List Char)}

/-! ## Steps on the rest of a text -/

theorem drop_eq_cons {i : Nat} (hi : i < text.size) :
    ∃ c, text.toList.drop i = c :: text.toList.drop (i + 1) :=
  ⟨text[i], List.drop_eq_getElem_cons (by simpa using hi)⟩

theorem size_of_drop_eq_cons {i : Nat} {c : Char} {cs : List Char}
    (h : text.toList.drop i = c :: cs) : text.size = i + 1 + cs.length := by
  have hlength := congrArg List.length h
  simp only [List.length_drop, Array.length_toList, List.length_cons] at hlength
  omega

theorem drop_succ_of_cons {i : Nat} {c : Char} {cs : List Char} (h : text.toList.drop i = c :: cs) :
    i < text.size ∧ text.toList.drop (i + 1) = cs := by
  have hsize : i < text.size := by
    have htotal := size_of_drop_eq_cons h
    omega
  obtain ⟨d, hsplit⟩ := drop_eq_cons hsize
  rw [h] at hsplit
  exact ⟨hsize, (List.cons.inj hsplit).2.symm⟩

theorem toList_extract {i j : Nat} :
    (text.extract i j).toList = (text.toList.drop i).take (j - i) := by
  simp [List.extract_eq_take_drop]

section Steps

variable {set : CharSet} {groups : List (Nat × Nat × Nat)} {rest : Rest}

theorem step_one (i : Nat) : (Regex.one set).step text ⟨i, groups⟩ rest =
    (text.toList.drop i).head?.elim none fun c =>
      if set.contains c then rest ⟨i + 1, groups⟩ else none := by
  rw [List.head?_drop, Array.getElem?_toList, Regex.step]
  cases text[i]? <;> rfl

/-- What comes next is tried behind the longest run of characters of the set, and then behind
shorter and shorter ones. -/
def backOff (set : CharSet) (groups : List (Nat × Nat × Nat)) (rest : Rest) :
    Nat → List Char → Option Progress
  | i, [] => rest ⟨i, groups⟩
  | i, c :: cs =>
    if set.contains c then backOff set groups rest (i + 1) cs <|> rest ⟨i, groups⟩
    else rest ⟨i, groups⟩

/-- A repetition of one set takes what it can and then gives back one by one: `backOff` is this as a
recursion on the rest of the text. -/
theorem greedily_one {least : Nat} {cs : List Char} {i : Nat} (hcs : text.toList.drop i = cs)
    {fuel count : Nat} {last : Option Nat} (hfuel : cs.length < fuel) (hcount : least ≤ count)
    (hlast : ∀ j ∈ last, j < i) :
    greedily ((Regex.one set).step text) least none rest fuel count last ⟨i, groups⟩ =
      backOff set groups rest i cs := by
  induction cs generalizing i fuel count last with
  | nil =>
    -- there is fuel for every character that is left, and for one round more
    obtain ⟨fuel, rfl⟩ : ∃ more, fuel = more + 1 := ⟨fuel - 1, by simp at hfuel; omega⟩
    rw [greedily, if_neg (by omega), step_one, hcs, backOff]
    split <;> rfl
  | cons c cs ih =>
    obtain ⟨fuel, rfl⟩ : ∃ more, fuel = more + 1 := ⟨fuel - 1, by simp at hfuel; omega⟩
    have hmoved : last ≠ some i := fun h => Nat.lt_irrefl i (hlast i h)
    have hbehind : ∀ j ∈ some i, j < i + 1 := by simp
    have hrun := ih (drop_succ_of_cons hcs).2 (by simpa using hfuel) (Nat.le_succ_of_le hcount)
      hbehind
    have hgoes : ((Option.none : Option Nat).all (count < ·) && decide (last ≠ some i)) = true := by
      simpa using hmoved
    rw [greedily, if_neg (by omega), if_pos hgoes, step_one, hcs, backOff]
    simp only [List.head?_cons, Option.elim_some]
    split
    · rw [hrun]
    · rfl

end Steps

/-! ## The search for the next match -/

theorem start_of_matchAt? {i : Nat} {mayBeEmpty : Bool} {m : Match}
    (h : r.matchAt? text i mayBeEmpty = some m) : m.start = i := by
  obtain ⟨finish, _, rfl⟩ := Option.map_eq_some_iff.mp h
  rfl

theorem le_start_of_search? {i : Nat} {mayBeEmpty : Bool} {m : Match}
    (h : r.search? text i mayBeEmpty = some m) : i ≤ m.start := by
  rw [Regex.search?, Option.orElse_eq_orElse, Option.orElse_eq_or, Option.or_eq_some_iff] at h
  rcases h with h | ⟨_, h⟩
  · exact Nat.le_of_eq (start_of_matchAt? h).symm
  · obtain ⟨j, hj, hmatch⟩ := List.exists_of_findSome?_eq_some h
    have hstart : m.start = j := start_of_matchAt? hmatch
    have hplace := List.mem_range'_1.mp hj
    omega

/-- Where nothing matches at a place, the search goes on at the next one. -/
theorem search?_of_matchAt?_eq_none {i : Nat} (hi : i < text.size)
    (h : r.matchAt? text i true = none) : r.search? text i true = r.search? text (i + 1) true := by
  have hplaces : text.size - i = text.size - (i + 1) + 1 := by omega
  rw [Regex.search?, Regex.search?, h, hplaces, List.range'_succ, List.findSome?_cons]
  cases r.matchAt? text (i + 1) true <;> rfl

/-- At the end of the text there is no place left. -/
theorem search?_size (h : r.matchAt? text text.size true = none) :
    r.search? text text.size true = none := by
  rw [Regex.search?, h, Nat.sub_self]
  rfl

/-! ## Splicing -/

/-- Text in front of the first match is copied. -/
theorem splice_cons {i : Nat} {c : Char} {rest : List Char} {ms : List Match}
    (hi : text.toList.drop i = c :: rest) (hms : ∀ m ∈ ms.head?, i < m.start) :
    splice text parts i ms = c :: splice text parts (i + 1) ms := by
  obtain ⟨hsize, hrest⟩ := drop_succ_of_cons hi
  have hcopied {j : Nat} (hj : i < j) :
      (text.extract i j).toList = c :: (text.extract (i + 1) j).toList := by
    have hlength : j - i = j - (i + 1) + 1 := by omega
    rw [toList_extract, toList_extract, hi, hrest, hlength, List.take_succ_cons]
  cases ms with
  | nil => rw [splice, splice, hcopied hsize]
  | cons m ms =>
    have hstart : i < m.start := hms m rfl
    rw [splice, splice, hcopied hstart]
    rfl

/-! ## Reading on -/

theorem substitute_of_some {i n : Nat} {new : List Char} (hn : 0 < n) (hend : i + n ≤ text.size)
    (hfound : found (text.toList.drop i) = some (n, new)) :
    substitute found (text.toList.drop i) = new ++ substitute found (text.toList.drop (i + n)) := by
  have hinside : i < text.size := by omega
  obtain ⟨c, hsplit⟩ := drop_eq_cons hinside
  have hplace : i + 1 + (n - 1) = i + n := by omega
  rw [hsplit] at hfound
  rw [hsplit, substitute, hfound]
  simp only
  rw [List.drop_drop, hplace]

/-- A match at the place is the next one, and the search goes on behind it. -/
theorem matchesFrom_of_match {fuel i n : Nat} {groups : List (Nat × Nat × Nat)} (hn : 0 < n)
    (hend : i + n ≤ text.size) (hmatch : r.matchAt? text i true = some ⟨i, i + n, groups⟩) :
    r.matchesFrom text (fuel + 1) i true =
      ⟨i, i + n, groups⟩ :: r.matchesFrom text fuel (i + n) true := by
  have hbound : ¬ text.size < i := by omega
  have hmoved : decide (i + n ≠ i) = true := decide_eq_true (by omega)
  have hsearch : r.search? text i true = some ⟨i, i + n, groups⟩ := by
    rw [Regex.search?, hmatch]
    rfl
  rw [Regex.matchesFrom, if_neg hbound, hsearch]
  simp only
  rw [hmoved]

/-- Without a match there the search goes on from the next place. -/
theorem matchesFrom_of_no_match {fuel i : Nat} (hi : i < text.size)
    (hnone : r.matchAt? text i true = none) :
    r.matchesFrom text (fuel + 1) i true = r.matchesFrom text (fuel + 1) (i + 1) true := by
  have hbound : ¬ text.size < i := by omega
  have hbound' : ¬ text.size < i + 1 := by omega
  rw [Regex.matchesFrom, Regex.matchesFrom, if_neg hbound, if_neg hbound',
    search?_of_matchAt?_eq_none hi hnone]

/-- What is found from a place on begins there or later. -/
theorem le_start_of_matchesFrom {fuel i : Nat} {mayBeEmpty : Bool} :
    ∀ m ∈ (r.matchesFrom text fuel i mayBeEmpty).head?, i ≤ m.start := by
  intro m hm
  cases fuel with
  | zero => cases hm
  | succ fuel =>
    rw [Regex.matchesFrom] at hm
    split at hm
    · cases hm
    · split at hm
      · cases hm
      · next hsearch =>
        cases hm
        exact le_start_of_search? hsearch

/-- Induction on the rest of the text: a match takes at least one character of it and uses up one
unit of fuel, and a character that is copied uses up none. -/
theorem splice_matchesFrom (h : r.Finds text parts found) (fuel : Nat) {i : Nat}
    (hi : i ≤ text.size) (hfuel : text.size - i < fuel) :
    splice text parts i (r.matchesFrom text fuel i true) =
      substitute found (text.toList.drop i) := by
  induction hleft : text.size - i using Nat.strongRecOn generalizing fuel i with
  | ind left ih =>
    obtain ⟨fuel, rfl⟩ : ∃ more, fuel = more + 1 := ⟨fuel - 1, by omega⟩
    cases hfound : found (text.toList.drop i) with
    -- the search goes on behind the match
    | some stretch =>
      obtain ⟨n, new⟩ := stretch
      obtain ⟨hn, hend, groups, hmatch, hnew⟩ := h.some hfound
      have hrest := ih (text.size - (i + n)) (by omega) fuel hend (by omega) rfl
      rw [matchesFrom_of_match hn hend hmatch, substitute_of_some hn hend hfound, splice, hrest,
        hnew, toList_extract, Nat.sub_self, List.take_zero, List.nil_append]
    -- no match begins here, so the character is kept and the search goes on at the next one
    | none =>
      have hnone : r.matchAt? text i true = none := h.none hfound
      by_cases hinside : i < text.size
      · obtain ⟨c, hsplit⟩ := drop_eq_cons hinside
        have hrest := ih (text.size - (i + 1)) (by omega) (fuel + 1) hinside (by omega) rfl
        rw [matchesFrom_of_no_match hinside hnone, splice_cons hsplit le_start_of_matchesFrom, hrest]
        rw [hsplit] at hfound
        rw [hsplit, substitute, hfound]
      · -- nothing is left, neither to match nor to copy
        obtain rfl : i = text.size := by omega
        have hempty : text.toList.drop text.size = [] := by simp
        rw [Regex.matchesFrom, if_neg (Nat.lt_irrefl _), search?_size hnone, splice,
          toList_extract, hempty, substitute, List.take_nil]

/-- Replacing all matches is substitution from left to right. -/
theorem replaceAll_eq_substitute {p : Pattern} {replacement text : String}
    (hparts : readReplacement p replacement.toList = .ok parts)
    (h : p.regex.Finds text.toList.toArray parts found) :
    p.replaceAll replacement text = .ok (String.ofList (substitute found text.toList)) := by
  have hsplice := splice_matchesFrom h (2 * text.toList.toArray.size + 2) (Nat.zero_le _) (by omega)
  rw [replaceAll, hparts]
  show Except.ok (String.ofList (splice _ _ _ _)) = _
  rw [Regex.allMatches, hsplice, List.drop_zero]

end ElixirClient.Pattern

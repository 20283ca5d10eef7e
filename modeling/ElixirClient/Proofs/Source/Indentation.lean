import ElixirClient.Proofs.Text.Lines
import ElixirClient.Source.Definition

/-!
# Indentation and its undoing

The body of a function is indented as a text: every line that is not blank gets two blanks. Taking
two blanks from each line gives the text back only if both sides mean the same by a line
(`outdent_indentLines_iff`). Indenting goes by all line ends, and a line end inside of a literal may
be any of them; only the line feed is there to see for one who reads the lines of the file.

`hang` is indenting character by character, for a text whose first line has been begun already.
-/

namespace ElixirClient.Source

open Text (isBlank isLineEnd FeedsOnly)

/-- A line without the two blanks in front, if they are there. -/
def outdentLine : List Char → List Char
  | ' ' :: ' ' :: line => line
  | line => line

/-- Takes two blanks from every line. -/
def outdent (cs : List Char) : List Char :=
  Text.joinWith '\n' ((Text.splitAt '\n' cs).map outdentLine)

/-! ## Indenting by characters -/

/-- Every line end is blank, so a line of line ends alone is not indented. -/
theorem isBlank_of_isLineEnd {c : Char} (h : isLineEnd c = true) : isBlank c = true := by
  simp only [isLineEnd, Bool.or_eq_true, decide_eq_true_eq] at h
  rcases h with ((((((((rfl | rfl) | rfl) | rfl) | rfl) | rfl) | rfl) | rfl) | rfl) | rfl
  all_goals decide

/-- The first line is not blank. -/
def speaks : List Char → Bool
  | [] => false
  | c :: cs => !isLineEnd c && (!isBlank c || speaks cs)

/-- What goes in front of a text when it is indented. -/
def margin (cs : List Char) : List Char := if speaks cs then [' ', ' '] else []

/-- A text with all lines but the first one indented. -/
def hang : List Char → List Char
  | [] => []
  | c :: cs => c :: (if isLineEnd c then margin cs ++ hang cs else hang cs)

/-- A line with its indentation. -/
def indentLine (line : Text.Line) : List Char :=
  (if line.text.all isBlank then [] else [' ', ' ']) ++ line.text

theorem indentLines_eq_flatMap (cs : List Char) :
    indentLines cs = (Text.lines cs).flatMap indentLine := rfl

/-- The first line decides the margin, and the other lines are indented. -/
def Hangs (cs : List Char) : Prop :=
  Text.lines cs = [] ∧ cs = [] ∨
    ∃ line others, Text.lines cs = line :: others ∧ speaks cs = !line.text.all isBlank ∧
      hang cs = line.text ++ others.flatMap indentLine

/-- A text that hangs is indented by putting a margin in front of it. -/
theorem Hangs.indentLines_eq {cs : List Char} (h : Hangs cs) :
    indentLines cs = margin cs ++ hang cs := by
  rcases h with ⟨_, rfl⟩ | ⟨line, others, hlines, hspeaks, hhang⟩
  · rfl
  · rw [indentLines_eq_flatMap, hlines, List.flatMap_cons, indentLine, margin, hspeaks, hhang,
      List.append_assoc]
    cases line.text.all isBlank <;> rfl

/-- Every text hangs, by induction along its lines. -/
theorem hangs (cs : List Char) : Hangs cs := by
  -- the cases are a text without lines, a double line end, a single one, and any other character
  fun_induction Text.lines cs with
  | case1 => exact .inl ⟨rfl, rfl⟩
  | case2 rest ih =>
    refine .inr ⟨_, _, by rw [Text.lines], rfl, ?_⟩
    rw [← indentLines_eq_flatMap, ih.indentLines_eq]
    rfl
  | case3 c rest hreturn hc ih =>
    -- what follows a line end is indented as a text of its own
    refine .inr ⟨⟨[], [c]⟩, Text.lines rest, ?_, ?_, ?_⟩
    · rw [Text.lines, if_pos hc]
      exact hreturn
    · simp [speaks, hc, Text.Line.text, isBlank_of_isLineEnd hc]
    · rw [← indentLines_eq_flatMap, ih.indentLines_eq, hang, if_pos hc]
      rfl
  | case4 c rest hreturn hc ih =>
    have hlines : Text.lines (c :: rest) = Text.Line.consFirst c (Text.lines rest) := by
      rw [Text.lines, if_neg hc]
      exact hreturn
    rcases ih with ⟨hrest, rfl⟩ | ⟨line, others, hrest, hspeaks, hhang⟩
    · refine .inr ⟨⟨[c], []⟩, [], hlines, ?_, ?_⟩
      · simp [speaks, hc, Text.Line.text]
      · rw [hang, if_neg hc]
        rfl
    · refine .inr ⟨⟨c :: line.content, line.ending⟩, others, ?_, ?_, ?_⟩
      · rw [hlines, hrest]
        rfl
      · simp [speaks, hc, hspeaks, Text.Line.text, Bool.not_and]
      · rw [hang, if_neg hc, hhang]
        rfl

/-- Indenting line by line and character by character is one thing, up to the margin of the first
line. -/
theorem indentLines_eq (cs : List Char) : indentLines cs = margin cs ++ hang cs :=
  (hangs cs).indentLines_eq

theorem mem_of_mem_margin {cs : List Char} {c : Char} (h : c ∈ margin cs) : c = ' ' := by
  unfold margin at h
  split at h
  · simpa using h
  · cases h

theorem mem_of_mem_hang {cs : List Char} {c : Char} (h : c ∈ hang cs) : c ∈ cs ∨ c = ' ' := by
  induction cs with
  | nil => cases h
  | cons d cs ih =>
    rcases List.mem_cons.mp h with rfl | h
    · exact .inl List.mem_cons_self
    · have hrest : c ∈ hang cs ∨ c = ' ' := by
        split at h
        · exact (List.mem_append.mp h).elim (fun h => .inr (mem_of_mem_margin h)) .inl
        · exact .inl h
      rcases hrest with h | h
      · exact (ih h).imp_left (List.mem_cons_of_mem d)
      · exact .inr h

/-! ## Texts that are not indented -/

theorem length_le_length_hang (cs : List Char) : cs.length ≤ (hang cs).length := by
  induction cs with
  | nil => exact Nat.le_refl 0
  | cons c cs ih =>
    rw [hang]
    split
    · simp only [List.length_cons, List.length_append]
      omega
    · simp only [List.length_cons]
      omega

/-- A first line that speaks is moved, so the text changes. -/
theorem margin_append_hang_ne {cs : List Char} (h : speaks cs = true) :
    margin cs ++ hang cs ≠ cs := by
  intro heq
  have hlength := congrArg List.length heq
  have hle := length_le_length_hang cs
  rw [margin, if_pos h, List.length_append, List.length_cons, List.length_singleton] at hlength
  omega

theorem not_all_isBlank_of_speaks {cs : List Char} (h : speaks cs = true) :
    ¬ cs.all isBlank = true := by
  induction cs with
  | nil => cases h
  | cons c cs ih =>
    simp only [speaks, Bool.and_eq_true, Bool.or_eq_true, Bool.not_eq_true'] at h
    rw [List.all_cons, Bool.and_eq_true]
    rintro ⟨hc, hcs⟩
    rcases h.2 with hblank | hspeaks
    · rw [hc] at hblank
      cases hblank
    · exact ih hspeaks hcs

/-- What is blank is not indented, and everything else is. -/
theorem margin_append_hang_eq_iff (cs : List Char) :
    margin cs ++ hang cs = cs ↔ cs.all isBlank = true := by
  induction cs with
  | nil => exact ⟨fun _ => rfl, fun _ => rfl⟩
  | cons c cs ih =>
    by_cases hspeaks : speaks (c :: cs) = true
    · exact iff_of_false (margin_append_hang_ne hspeaks) (not_all_isBlank_of_speaks hspeaks)
    · rw [margin, if_neg hspeaks, List.nil_append, hang, List.all_cons, Bool.and_eq_true]
      by_cases hc : isLineEnd c = true
      · rw [if_pos hc, List.cons_inj_right, ih, and_iff_right (isBlank_of_isLineEnd hc)]
      · have hmute : isBlank c = true ∧ ¬ speaks cs = true := by
          simpa [speaks, hc] using hspeaks
        rw [if_neg hc, List.cons_inj_right, and_iff_right hmute.1, ← ih, margin, if_neg hmute.2,
          List.nil_append]

/-- Behind a line end there is nothing but blanks. -/
def trails : List Char → Bool
  | [] => true
  | c :: cs => if isLineEnd c then cs.all isBlank else trails cs

/-- A text hangs as it is exactly if behind its line ends nothing is said. -/
theorem hang_eq_self_iff (cs : List Char) : hang cs = cs ↔ trails cs = true := by
  induction cs with
  | nil => exact ⟨fun _ => rfl, fun _ => rfl⟩
  | cons c cs ih =>
    rw [hang, trails, List.cons_inj_right]
    by_cases hc : isLineEnd c = true
    · rw [if_pos hc, if_pos hc, margin_append_hang_eq_iff]
    · rw [if_neg hc, if_neg hc, ih]

/-- The first line end stays where it is. -/
theorem takeWhile_hang (cs : List Char) :
    (hang cs).takeWhile (!isLineEnd ·) = cs.takeWhile (!isLineEnd ·) := by
  induction cs with
  | nil => rfl
  | cons c cs ih =>
    by_cases hc : isLineEnd c = true
    · simp [hang, hc]
    · simp [hang, hc, ih]

/-! ## One line -/

/-- A line that indenting and outdenting leave as it is: nothing but blanks stands behind another
line end, and if all of it is blank, it does not begin with the blanks that are taken away. -/
structure SteadyLine (line : List Char) : Prop where
  trails : trails line = true
  blank : line.all isBlank = true → ¬ [' ', ' '] <+: line

instance (line : List Char) : Decidable (SteadyLine line) :=
  decidable_of_iff (trails line = true ∧ (line.all isBlank = true → ¬ [' ', ' '] <+: line))
    ⟨fun h => ⟨h.1, h.2⟩, fun h => ⟨h.trails, h.blank⟩⟩

theorem outdentLine_cases (line : List Char) :
    ¬ [' ', ' '] <+: line ∧ outdentLine line = line ∨ line = ' ' :: ' ' :: outdentLine line := by
  unfold outdentLine
  split
  · exact .inr rfl
  · next hne =>
    refine .inl ⟨?_, rfl⟩
    rintro ⟨rest, rfl⟩
    exact hne rest rfl

theorem outdentLine_eq_self_iff (line : List Char) :
    outdentLine line = line ↔ ¬ [' ', ' '] <+: line := by
  rcases outdentLine_cases line with ⟨hfront, hline⟩ | hline
  · exact iff_of_true hline hfront
  · refine iff_of_false (fun heq => ?_) (fun hfront => hfront ⟨_, hline.symm⟩)
    have hlength := congrArg List.length hline
    rw [heq, List.length_cons, List.length_cons] at hlength
    omega

/-- A line whose beginning is blank and which goes on after some line end does not come back: what
hangs behind that line end has moved. -/
theorem outdentLine_hang_ne {line : List Char} (hspeaks : ¬ speaks line = true)
    (hblank : ¬ line.all isBlank = true) : outdentLine (hang line) ≠ line := by
  intro heq
  -- either nothing was taken away, or two blanks were
  rcases outdentLine_cases (hang line) with ⟨_, hline⟩ | hline
  · rw [heq] at hline
    refine hblank ((margin_append_hang_eq_iff line).mp ?_)
    rw [margin, if_neg hspeaks, List.nil_append, ← hline]
  · -- the first line end would have moved by two
    rw [heq] at hline
    have hfirst := congrArg List.length (takeWhile_hang line)
    rw [hline] at hfirst
    have hspace : isLineEnd ' ' = false := by decide
    simp only [hspace, Bool.not_false, List.takeWhile_cons_of_pos, List.length_cons] at hfirst
    omega

/-- A single line comes back exactly if it is steady. -/
theorem outdentLine_indentLines_iff (line : List Char) :
    outdentLine (indentLines line) = line ↔ SteadyLine line := by
  rw [indentLines_eq, margin]
  by_cases hspeaks : speaks line = true
  · -- the blanks that are put in front are the ones that are taken away
    rw [if_pos hspeaks]
    show hang line = line ↔ _
    rw [hang_eq_self_iff]
    exact ⟨fun h => ⟨h, fun hblank => absurd hblank (not_all_isBlank_of_speaks hspeaks)⟩,
      SteadyLine.trails⟩
  · rw [if_neg hspeaks, List.nil_append]
    have hmargin : margin line ++ hang line = hang line := by
      rw [margin, if_neg hspeaks, List.nil_append]
    by_cases hblank : line.all isBlank = true
    · have hhang : hang line = line := hmargin ▸ (margin_append_hang_eq_iff line).mpr hblank
      rw [hhang, outdentLine_eq_self_iff]
      exact ⟨fun h => ⟨(hang_eq_self_iff line).mp hhang, fun _ => h⟩, fun h => h.blank hblank⟩
    · refine iff_of_false (outdentLine_hang_ne hspeaks hblank) fun h => hblank ?_
      rw [← margin_append_hang_eq_iff, hmargin]
      exact (hang_eq_self_iff line).mpr h.trails

/-! ## All lines -/

/-- A text all of whose lines indenting and outdenting leave as they are. -/
def Steady (cs : List Char) : Prop := ∀ line ∈ Text.splitAt '\n' cs, SteadyLine line

instance (cs : List Char) : Decidable (Steady cs) :=
  List.decidableBAll SteadyLine (Text.splitAt '\n' cs)

theorem speaks_append_feed (front behind : List Char) :
    speaks (front ++ '\n' :: behind) = speaks front := by
  induction front with
  | nil => rfl
  | cons c front ih => rw [List.cons_append, speaks, speaks, ih]

/-- A line feed is a line end for both sides, so texts around it are indented apart from each
other. -/
theorem indentLines_append_feed (front behind : List Char) :
    indentLines (front ++ '\n' :: behind) = indentLines front ++ '\n' :: indentLines behind := by
  have hhang (front : List Char) :
      hang (front ++ '\n' :: behind) = hang front ++ '\n' :: indentLines behind := by
    induction front with
    | nil =>
      rw [indentLines_eq]
      rfl
    | cons c front ih =>
      rw [List.cons_append, hang, hang, ih, margin, speaks_append_feed, ← margin]
      split <;> simp
  rw [indentLines_eq, indentLines_eq front, hhang, margin, speaks_append_feed, ← margin,
    List.append_assoc]

/-- Lines between line feeds are indented one by one. -/
theorem splitAt_indentLines (cs : List Char) :
    Text.splitAt '\n' (indentLines cs) = (Text.splitAt '\n' cs).map indentLines := by
  have hjoin {parts : List (List Char)} (hne : parts ≠ []) :
      indentLines (Text.joinWith '\n' parts) = Text.joinWith '\n' (parts.map indentLines) := by
    induction parts with
    | nil => exact absurd rfl hne
    | cons part parts ih =>
      cases parts with
      | nil => rfl
      | cons next parts =>
        have hnext := List.cons_ne_nil next parts
        have hnext' : (next :: parts).map indentLines ≠ [] := by simp
        rw [List.map_cons, Text.joinWith_cons hnext', Text.joinWith_cons hnext,
          indentLines_append_feed, ih hnext]
  -- indenting brings nothing in but blanks
  have hfeed : ∀ part ∈ (Text.splitAt '\n' cs).map indentLines, '\n' ∉ part := by
    intro part hpart hmem
    obtain ⟨line, hline, rfl⟩ := List.mem_map.mp hpart
    rw [indentLines_eq] at hmem
    rcases List.mem_append.mp hmem with hmem | hmem
    · exact absurd (mem_of_mem_margin hmem) (by decide)
    · rcases mem_of_mem_hang hmem with hmem | hmem
      · exact (Text.mem_of_mem_splitAt hline hmem).2 rfl
      · exact absurd hmem (by decide)
  have hne := Text.splitAt_ne_nil '\n' cs
  calc Text.splitAt '\n' (indentLines cs)
      = Text.splitAt '\n' (Text.joinWith '\n' ((Text.splitAt '\n' cs).map indentLines)) := by
        rw [← hjoin hne, Text.joinWith_splitAt]
    _ = (Text.splitAt '\n' cs).map indentLines :=
        Text.splitAt_joinWith (by simpa using hne) hfeed

theorem mem_of_mem_outdentLine {line : List Char} {c : Char} (h : c ∈ outdentLine line) :
    c ∈ line := by
  rcases outdentLine_cases line with ⟨_, hline⟩ | hline
  · rwa [hline] at h
  · rw [hline]
    exact List.mem_cons_of_mem _ (List.mem_cons_of_mem _ h)

/-- Outdenting takes back indenting exactly if every line is steady. -/
theorem outdent_indentLines_iff (cs : List Char) : outdent (indentLines cs) = cs ↔ Steady cs := by
  have hfeed : ∀ part ∈ ((Text.splitAt '\n' cs).map indentLines).map outdentLine, '\n' ∉ part := by
    intro part hpart hmem
    obtain ⟨line, hline, rfl⟩ := List.mem_map.mp hpart
    rw [← splitAt_indentLines] at hline
    exact (Text.mem_of_mem_splitAt hline (mem_of_mem_outdentLine hmem)).2 rfl
  -- line by line, since neither of the two makes or takes a line feed
  have hsplit : outdent (indentLines cs) = cs ↔
      ((Text.splitAt '\n' cs).map indentLines).map outdentLine = Text.splitAt '\n' cs := by
    unfold outdent
    rw [splitAt_indentLines]
    constructor
    · intro h
      rw [← Text.splitAt_joinWith (by simpa using Text.splitAt_ne_nil '\n' cs) hfeed, h]
    · intro h
      rw [h, Text.joinWith_splitAt]
  have hself : ((Text.splitAt '\n' cs).map indentLines).map outdentLine = Text.splitAt '\n' cs ↔
      ∀ line ∈ Text.splitAt '\n' cs, outdentLine (indentLines line) = line := by
    rw [List.map_map]
    simpa using List.map_inj_left (l := Text.splitAt '\n' cs) (f := outdentLine ∘ indentLines)
      (g := id)
  rw [hsplit, hself, Steady]
  simp only [outdentLine_indentLines_iff]

end ElixirClient.Source

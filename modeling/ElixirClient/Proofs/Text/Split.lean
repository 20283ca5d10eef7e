import Mathlib.Data.List.Basic
import ElixirClient.Text.Split

/-!
# The parts of a split text

The parts hold the characters of the text but no separator (`mem_of_mem_splitAt`), and joining
adds separators only (`mem_joinWith`). Parts without separators come back as they were joined
(`splitAt_joinWith`).
-/

namespace ElixirClient.Text

variable {separator : Char}

theorem splitAt_cons_of_ne {c : Char} (hc : c ≠ separator) (rest : List Char) :
    ∃ part parts, splitAt separator rest = part :: parts ∧
      splitAt separator (c :: rest) = (c :: part) :: parts := by
  cases hsplit : splitAt separator rest with
  | nil => exact absurd hsplit (splitAt_ne_nil separator rest)
  | cons part parts =>
    refine ⟨part, parts, rfl, ?_⟩
    rw [splitAt, if_neg hc, hsplit]

theorem splitAt_cons_self (rest : List Char) :
    splitAt separator (separator :: rest) = [] :: splitAt separator rest := by
  rw [splitAt, if_pos rfl]

theorem mem_of_mem_splitAt {cs part : List Char} (hpart : part ∈ splitAt separator cs) {c : Char}
    (hc : c ∈ part) : c ∈ cs ∧ c ≠ separator := by
  induction cs generalizing part with
  | nil =>
    rw [splitAt, List.mem_singleton] at hpart
    rw [hpart] at hc
    cases hc
  | cons d rest ih =>
    by_cases hd : d = separator
    · rw [hd, splitAt_cons_self] at hpart
      rcases List.mem_cons.mp hpart with rfl | hpart
      · cases hc
      · exact ⟨List.mem_cons_of_mem d (ih hpart hc).1, (ih hpart hc).2⟩
    -- the character joins the first part of what comes behind it
    · obtain ⟨first, others, hrest, hsplit⟩ := splitAt_cons_of_ne hd rest
      rw [hrest] at ih
      rw [hsplit] at hpart
      rcases List.mem_cons.mp hpart with rfl | hpart
      · rcases List.mem_cons.mp hc with rfl | hc
        · exact ⟨List.mem_cons_self, hd⟩
        · have hfirst := ih List.mem_cons_self hc
          exact ⟨List.mem_cons_of_mem d hfirst.1, hfirst.2⟩
      · have hother := ih (List.mem_cons_of_mem first hpart) hc
        exact ⟨List.mem_cons_of_mem d hother.1, hother.2⟩

theorem mem_joinWith {parts : List (List Char)} {c : Char} (hc : c ∈ joinWith separator parts) :
    c = separator ∨ ∃ part ∈ parts, c ∈ part := by
  fun_induction joinWith separator parts with
  | case1 => cases hc
  | case2 part => exact .inr ⟨part, List.mem_cons_self, hc⟩
  | case3 part parts _ ih =>
    rcases List.mem_append.mp hc with hc | hc
    · exact .inr ⟨part, List.mem_cons_self, hc⟩
    · rcases List.mem_cons.mp hc with hc | hc
      · exact .inl hc
      · rcases ih hc with hc | ⟨other, hother, hc⟩
        · exact .inl hc
        · exact .inr ⟨other, List.mem_cons_of_mem part hother, hc⟩

theorem splitAt_of_not_mem {cs : List Char} (h : separator ∉ cs) : splitAt separator cs = [cs] := by
  induction cs with
  | nil => rfl
  | cons c rest ih =>
    rw [List.mem_cons, not_or] at h
    rw [splitAt, if_neg (Ne.symm h.1), ih h.2]

/-- A separator between two texts ends the parts of the first one. -/
theorem splitAt_append_separator (cs rest : List Char) :
    splitAt separator (cs ++ separator :: rest) = splitAt separator cs ++ splitAt separator rest := by
  induction cs with
  | nil => exact splitAt_cons_self rest
  | cons c cs ih =>
    rw [List.cons_append]
    by_cases hc : c = separator
    · rw [hc, splitAt_cons_self, splitAt_cons_self, ih, List.cons_append]
    · obtain ⟨part, parts, hcs, hsplit⟩ := splitAt_cons_of_ne hc cs
      rw [hsplit, splitAt, if_neg hc, ih, hcs, List.cons_append, List.cons_append]

theorem splitAt_append_cons {part : List Char} (h : separator ∉ part) (rest : List Char) :
    splitAt separator (part ++ separator :: rest) = part :: splitAt separator rest := by
  rw [splitAt_append_separator, splitAt_of_not_mem h, List.singleton_append]

/-- Text without separators in front of another goes to its first part. -/
theorem splitAt_append_of_not_mem {front rest part : List Char} {parts : List (List Char)}
    (h : separator ∉ front) (hrest : splitAt separator rest = part :: parts) :
    splitAt separator (front ++ rest) = (front ++ part) :: parts := by
  induction front with
  | nil => exact hrest
  | cons c front ih =>
    rw [List.mem_cons, not_or] at h
    rw [List.cons_append, splitAt, if_neg (Ne.symm h.1), ih h.2, List.cons_append]

theorem joinWith_cons {part : List Char} {parts : List (List Char)} (hne : parts ≠ []) :
    joinWith separator (part :: parts) = part ++ separator :: joinWith separator parts := by
  cases parts with
  | nil => exact absurd rfl hne
  | cons next parts => rw [joinWith]; exact hne

/-- A text begins with its first part. -/
theorem prefix_of_splitAt {cs part : List Char} {parts : List (List Char)}
    (h : splitAt separator cs = part :: parts) : part <+: cs := by
  rw [← joinWith_splitAt separator cs, h]
  cases parts with
  | nil => exact List.prefix_refl part
  | cons next parts =>
    rw [joinWith_cons (List.cons_ne_nil next parts)]
    exact List.prefix_append _ _

/-- Parts that each end in a separator. -/
theorem flatMap_concat {parts : List (List Char)} (hne : parts ≠ []) :
    parts.flatMap (· ++ [separator]) = joinWith separator parts ++ [separator] := by
  induction parts with
  | nil => exact absurd rfl hne
  | cons part parts ih =>
    rw [List.flatMap_cons]
    cases parts with
    | nil => rw [List.flatMap_nil, List.append_nil, joinWith]
    | cons next parts =>
      have htail := List.cons_ne_nil next parts
      rw [ih htail, joinWith_cons htail]
      simp

theorem splitAt_joinWith {parts : List (List Char)} (hne : parts ≠ [])
    (h : ∀ part ∈ parts, separator ∉ part) : splitAt separator (joinWith separator parts) = parts := by
  fun_induction joinWith separator parts with
  | case1 => exact absurd rfl hne
  | case2 part => exact splitAt_of_not_mem (h part List.mem_cons_self)
  | case3 part parts hparts ih =>
    rw [splitAt_append_cons (h part List.mem_cons_self),
      ih (fun hnil => hparts hnil) fun other hother => h other (List.mem_cons_of_mem part hother)]

/-- What follows a joined text goes on from its last part. -/
theorem splitAt_joinWith_append {parts : List (List Char)} (h : ∀ part ∈ parts, separator ∉ part)
    (last rest : List Char) : splitAt separator (joinWith separator (parts ++ [last]) ++ rest) =
      parts ++ splitAt separator (last ++ rest) := by
  induction parts with
  | nil => rfl
  | cons part parts ih =>
    have htail := ih fun other hother => h other (List.mem_cons_of_mem part hother)
    rw [List.cons_append, joinWith_cons (by simp), List.append_assoc, List.cons_append,
      splitAt_append_cons (h part List.mem_cons_self), htail, List.cons_append]

/-- Where two texts meet, the last part of the one and the first part of the other are one part. -/
theorem exists_splitAt_append (separator : Char) (cs : List Char) :
    ∃ parts last, splitAt separator cs = parts ++ [last] ∧ ∀ behind first others,
      splitAt separator behind = first :: others →
        splitAt separator (cs ++ behind) = parts ++ (last ++ first) :: others := by
  induction cs with
  | nil => exact ⟨[], [], rfl, fun behind first others h => h⟩
  | cons c rest ih =>
    obtain ⟨parts, last, hrest, hboth⟩ := ih
    by_cases hc : c = separator
    · refine ⟨[] :: parts, last, ?_, fun behind first others h => ?_⟩
      · rw [hc, splitAt_cons_self, hrest, List.cons_append]
      · rw [hc, List.cons_append, splitAt_cons_self, hboth behind first others h, List.cons_append]
    · -- the character goes to the first part, which may be the last one too
      cases parts with
      | nil =>
        refine ⟨[], c :: last, ?_, fun behind first others h => ?_⟩
        · rw [splitAt, if_neg hc, hrest]
          rfl
        · rw [List.cons_append, splitAt, if_neg hc, hboth behind first others h]
          rfl
      | cons part parts =>
        refine ⟨(c :: part) :: parts, last, ?_, fun behind first others h => ?_⟩
        · rw [splitAt, if_neg hc, hrest]
          rfl
        · rw [List.cons_append, splitAt, if_neg hc, hboth behind first others h]
          rfl

/-- Text without separators behind another goes to its last part. -/
theorem splitAt_append {suffix : List Char} (hsuffix : separator ∉ suffix) (cs : List Char) :
    ∃ parts last, splitAt separator cs = parts ++ [last] ∧
      splitAt separator (cs ++ suffix) = parts ++ [last ++ suffix] := by
  obtain ⟨parts, last, hcs, hboth⟩ := exists_splitAt_append separator cs
  exact ⟨parts, last, hcs, hboth suffix suffix [] (splitAt_of_not_mem hsuffix)⟩

end ElixirClient.Text

import Mathlib.Data.List.Basic
import ElixirClient.Text.Case

/-!
# Upper case once more

Upper case has nothing to do on its own results: the first character of an upper-case form is its
own upper-case form (`upperChar_eq_cons`), also where a form has several characters. And it makes no
separators of names: a dot, a dash or an underscore in an upper-case form was there before
(`eq_of_mem_upperChar`).

Both are read off the case tables, run by run: the images of a run lie apart from the code points
of every other (`clears_upperRuns`).
-/

namespace ElixirClient.Text

/-- Upper case leaves the character as it is. -/
def IsUpright (c : Char) : Prop := upperChar c = [c]

instance (c : Char) : Decidable (IsUpright c) := inferInstanceAs (Decidable (upperChar c = [c]))

/-- The characters that part names into segments and words. -/
def separators : List Char := ['.', '-', '_']

namespace CaseRun

/-- The last code point that the run maps to. -/
def lastImage (run : CaseRun) : Nat := run.image + (run.last - run.first)

/-- A code point that the run maps to: in its stretch, and at the same distance as the others. -/
def HasImage (run : CaseRun) (code : Nat) : Prop :=
  run.image ≤ code ∧ code ≤ run.lastImage ∧ (code - run.image) % run.stride = 0

/-- No image of the first run is a code point of the second: their stretches are apart, or the two
interleave, one at even code points and the other at odd ones. -/
def clears (run other : CaseRun) : Bool :=
  other.last < run.image || run.lastImage < other.first
    || ((run.first = run.last || run.stride = 2) && other.stride = 2
      && (run.image + other.first) % 2 = 1)

theorem not_mem_of_clears {run other : CaseRun} (h : run.clears other = true) {code : Nat}
    (hcode : run.HasImage code) (hfirst : ¬code < other.first) :
    ¬(code ≤ other.last && (code - other.first) % other.stride == 0) = true := by
  obtain ⟨hlow, hhigh, hstride⟩ := hcode
  rw [Bool.and_eq_true, decide_eq_true_eq, beq_iff_eq]
  rintro ⟨hlast, hother⟩
  simp only [clears, Bool.or_eq_true, Bool.and_eq_true, decide_eq_true_eq] at h
  rcases h with (h | h) | ⟨⟨hrun, htwo⟩, hodd⟩
  · omega
  · omega
  · rw [htwo] at hother
    rcases hrun with hsingle | hrun
    · -- the run has one image only
      rw [lastImage, hsingle] at hhigh
      omega
    · rw [hrun] at hstride
      omega

end CaseRun

theorem mapCase_eq_self_or_hasImage (code : Nat) (runs : List CaseRun) :
    mapCase code runs = code ∨ ∃ run ∈ runs, run.HasImage (mapCase code runs) := by
  induction runs with
  | nil => exact .inl rfl
  | cons run rest ih =>
    unfold mapCase
    split
    · exact .inl rfl
    · split
      · next hrun =>
        rw [Bool.and_eq_true, decide_eq_true_eq, beq_iff_eq] at hrun
        refine .inr ⟨run, List.mem_cons_self, by omega, ?_, ?_⟩
        · rw [CaseRun.lastImage]
          omega
        · rw [Nat.add_sub_cancel_left]
          exact hrun.2
      · rcases ih with hself | ⟨other, hother, himage⟩
        · exact .inl hself
        · exact .inr ⟨other, List.mem_cons_of_mem run hother, himage⟩

theorem mapCase_of_clears {run : CaseRun} {runs : List CaseRun}
    (h : ∀ other ∈ runs, run.clears other = true) {code : Nat} (hcode : run.HasImage code) :
    mapCase code runs = code := by
  induction runs with
  | nil => rfl
  | cons other rest ih =>
    unfold mapCase
    split
    · rfl
    · next hfirst =>
      rw [if_neg (CaseRun.not_mem_of_clears (h other List.mem_cons_self) hcode hfirst)]
      exact ih fun another hmem => h another (List.mem_cons_of_mem other hmem)

/-! ## What the tables say -/

theorem clears_upperRuns :
    (upperRuns.all fun run => upperRuns.all fun other => run.clears other) = true := by
  decide +kernel

theorem clears_upperExpansions :
    (upperRuns.all fun run => upperExpansions.all fun entry =>
      run.clears ⟨entry.1, entry.1, 1, entry.1⟩) = true := by
  decide +kernel

theorem upperRuns_apart_separators :
    (upperRuns.all fun run => separators.all fun c =>
      c.toNat < run.image || run.lastImage < c.toNat) = true := by
  decide +kernel

theorem upperExpansions_upright :
    (upperExpansions.all fun entry =>
      entry.2.head?.any fun code => decide (IsUpright (Char.ofNat code))) = true := by
  decide +kernel

theorem upperExpansions_apart_separators :
    (upperExpansions.all fun entry =>
      entry.2.all fun code => !separators.contains (Char.ofNat code)) = true := by
  decide +kernel

/-! ## Single characters -/

/-- A number that is no code point stands for the character zero. -/
theorem toNat_ofNat_or (code : Nat) : (Char.ofNat code).toNat = code ∨ Char.ofNat code = '\x00' := by
  by_cases hvalid : code.isValidChar
  · rw [Char.ofNat, dif_pos hvalid]
    exact .inl rfl
  · rw [Char.ofNat, dif_neg hvalid]
    exact .inr rfl

/-- Upper case has no entry of its own for what a run maps to. -/
theorem isUpright_of_hasImage {run : CaseRun} (hrun : run ∈ upperRuns) {code : Nat}
    (hcode : run.HasImage code) : IsUpright (Char.ofNat code) := by
  rcases toNat_ofNat_or code with hself | hzero
  · have hlookup : upperExpansions.lookup code = none := by
      rw [List.lookup_eq_none_iff]
      intro entry hentry
      have hclears := List.all_eq_true.mp (List.all_eq_true.mp clears_upperExpansions run hrun)
        entry hentry
      rw [bne_iff_ne]
      rintro rfl
      exact CaseRun.not_mem_of_clears hclears hcode (by simp) (by simp)
    have hmap : mapCase code upperRuns = code :=
      mapCase_of_clears (List.all_eq_true.mp (List.all_eq_true.mp clears_upperRuns run hrun)) hcode
    rw [IsUpright, upperChar, hself, hlookup, hmap]
  · rw [hzero]
    decide +kernel

/-- The three ways that a character has an upper-case form: an entry of its own, an image under a
run, or itself. -/
theorem upperChar_cases (c : Char) :
    (∃ entry ∈ upperExpansions, upperChar c = entry.2.map Char.ofNat) ∨
      (∃ run ∈ upperRuns, ∃ code, run.HasImage code ∧ upperChar c = [Char.ofNat code]) ∨
      IsUpright c := by
  cases hlookup : upperExpansions.lookup c.toNat with
  | some codes =>
    obtain ⟨before, behind, htable, _⟩ := List.lookup_eq_some_iff.mp hlookup
    refine .inl ⟨(c.toNat, codes), ?_, ?_⟩
    · rw [htable]
      exact List.mem_append_right before List.mem_cons_self
    · rw [upperChar, hlookup]
  | none =>
    have hform : upperChar c = [Char.ofNat (mapCase c.toNat upperRuns)] := by
      rw [upperChar, hlookup]
    rcases mapCase_eq_self_or_hasImage c.toNat upperRuns with hself | ⟨run, hrun, himage⟩
    · refine .inr (.inr ?_)
      rw [IsUpright, hform, hself, Char.ofNat_toNat]
    · exact .inr (.inl ⟨run, hrun, _, himage, hform⟩)

/-- An upper-case form begins with a character that upper case leaves as it is. -/
theorem upperChar_eq_cons (c : Char) : ∃ d more, upperChar c = d :: more ∧ IsUpright d := by
  rcases upperChar_cases c with ⟨entry, hentry, hform⟩ | ⟨run, hrun, code, himage, hform⟩ | hself
  · have hhead := List.all_eq_true.mp upperExpansions_upright entry hentry
    obtain ⟨code, hcode, hupright⟩ := (Option.any_eq_true _ _).mp hhead
    obtain ⟨more, hmore⟩ := List.head?_eq_some_iff.mp hcode
    refine ⟨Char.ofNat code, more.map Char.ofNat, ?_, of_decide_eq_true hupright⟩
    rw [hform, hmore, List.map_cons]
  · exact ⟨Char.ofNat code, [], hform, isUpright_of_hasImage hrun himage⟩
  · exact ⟨c, [], hself, hself⟩

/-- Upper case makes no separators. -/
theorem eq_of_mem_upperChar {c d : Char} (hd : d ∈ separators) (h : d ∈ upperChar c) : c = d := by
  rcases upperChar_cases c with ⟨entry, hentry, hform⟩ | ⟨run, hrun, code, himage, hform⟩ | hself
  · rw [hform] at h
    obtain ⟨code, hcode, rfl⟩ := List.mem_map.mp h
    have hform := List.all_eq_true.mp upperExpansions_apart_separators entry hentry
    have hcode := List.all_eq_true.mp hform code hcode
    rw [List.contains_iff_mem.mpr hd] at hcode
    cases hcode
  · rw [hform, List.mem_singleton] at h
    obtain ⟨hlow, hhigh, _⟩ := himage
    have hapart := List.all_eq_true.mp
      (List.all_eq_true.mp upperRuns_apart_separators run hrun) d hd
    rw [Bool.or_eq_true, decide_eq_true_eq, decide_eq_true_eq] at hapart
    rcases toNat_ofNat_or code with hcode | hzero
    · rw [h, hcode] at hapart
      omega
    · rw [h, hzero] at hd
      exact absurd hd (by decide)
  · rw [hself, List.mem_singleton] at h
    exact h.symm

end ElixirClient.Text

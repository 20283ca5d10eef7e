import Mathlib.Data.List.Basic
import ElixirClient.Text.Case

/-!
# Lower case of ASCII text

Below code point 128 the case tables say no more than `Char.toLower`: `lower_of_ascii`. None of the
characters that lower case treats by their neighbours is among those. In the other direction, lower
case makes no sign of punctuation that was not there: `mem_of_mem_lower`.
-/

namespace ElixirClient.Text

/-- A character of the first 128. -/
def IsAscii (c : Char) : Prop := c.toNat < 128

instance (c : Char) : Decidable (IsAscii c) := inferInstanceAs (Decidable (c.toNat < 128))

/-- What holds of the first 128 code points holds of all ASCII characters. -/
theorem IsAscii.of_forall {P : Char → Prop} (h : ∀ n < 128, P (Char.ofNat n)) {c : Char}
    (hc : IsAscii c) : P c := by
  have hP := h c.toNat hc
  rwa [Char.ofNat_toNat] at hP

theorem lowerChar_of_ascii {c : Char} (hc : IsAscii c) : lowerChar c = c.toLower :=
  IsAscii.of_forall (P := fun c => lowerChar c = c.toLower) (by decide +kernel) hc

theorem lowerAt_of_ascii (afterCased : Bool) {c : Char} (hc : IsAscii c) (rest : List Char) :
    lowerAt afterCased c rest = [c.toLower] := by
  have hsigma : c ≠ 'Σ' := fun h => absurd hc (h ▸ by decide)
  have hdotted : c ≠ 'İ' := fun h => absurd hc (h ▸ by decide)
  rw [lowerAt, if_neg hsigma, if_neg hdotted, lowerChar_of_ascii hc]

theorem lowerFrom_of_ascii {cs : List Char} (hcs : ∀ c ∈ cs, IsAscii c) (afterCased : Bool) :
    lowerFrom afterCased cs = cs.map Char.toLower := by
  induction cs generalizing afterCased with
  | nil => rfl
  | cons c rest ih =>
    rw [lowerFrom, lowerAt_of_ascii afterCased (hcs c List.mem_cons_self),
      ih fun d hd => hcs d (List.mem_cons_of_mem c hd), List.map_cons, List.singleton_append]

theorem lower_of_ascii {cs : List Char} (hcs : ∀ c ∈ cs, IsAscii c) :
    lower cs = cs.map Char.toLower :=
  lowerFrom_of_ascii hcs false

/-! ## Punctuation -/

/-- A mapping whose images all lie above a bound makes nothing new below it. -/
theorem mapCase_eq_self {runs : List CaseRun} {bound code : Nat}
    (hruns : ∀ run ∈ runs, bound ≤ run.image) (h : mapCase code runs < bound) :
    mapCase code runs = code := by
  induction runs with
  | nil => rfl
  | cons run rest ih =>
    have himage := hruns run List.mem_cons_self
    unfold mapCase at h ⊢
    split
    · rfl
    · next hfirst =>
      rw [if_neg hfirst] at h
      split
      · next hrun =>
        rw [if_pos hrun] at h
        omega
      · next hrun =>
        rw [if_neg hrun] at h
        exact ih (fun other hother => hruns other (List.mem_cons_of_mem run hother)) h

/-- All images of the case tables are small letters or beyond them, so what comes out below those is
unchanged. -/
theorem eq_of_lowerChar_eq {c d : Char} (hpos : 0 < d.toNat) (hd : d.toNat < 0x61)
    (h : lowerChar c = d) : c = d := by
  have hcode := congrArg Char.toNat h
  rw [lowerChar, Char.ofNat] at hcode
  by_cases hvalid : Nat.isValidChar (mapCase c.toNat lowerRuns)
  · rw [dif_pos hvalid] at hcode
    replace hcode : mapCase c.toNat lowerRuns = d.toNat := hcode
    have hself : mapCase c.toNat lowerRuns = c.toNat :=
      mapCase_eq_self (by decide +kernel : ∀ run ∈ lowerRuns, 0x61 ≤ run.image) (by omega)
    rw [← h, lowerChar, hself, Char.ofNat_toNat]
  · -- a number that is no code point stands for the character zero
    rw [dif_neg hvalid] at hcode
    replace hcode : 0 = d.toNat := hcode
    omega

theorem mem_of_mem_lowerFrom {cs : List Char} {afterCased : Bool} {d : Char} (hpos : 0 < d.toNat)
    (hd : d.toNat < 0x61) (h : d ∈ lowerFrom afterCased cs) : d ∈ cs := by
  induction cs generalizing afterCased with
  | nil => exact h
  | cons c rest ih =>
    rcases List.mem_append.mp h with h | h
    · have hc : c = d := by
        -- the characters that are treated by their neighbours come to letters above the bound
        unfold lowerAt at h
        split at h
        · split at h <;>
          · rw [List.mem_singleton.mp h] at hd
            exact absurd hd (by decide)
        · split at h
          · rcases List.mem_cons.mp h with h | h
            · rw [h] at hd
              exact absurd hd (by decide)
            · rw [List.mem_singleton.mp h] at hd
              exact absurd hd (by decide)
          · exact eq_of_lowerChar_eq hpos hd (List.mem_singleton.mp h).symm
      rw [hc]
      exact List.mem_cons_self
    · exact List.mem_cons_of_mem c (ih h)

/-- A character in front of the small letters comes from the text itself. -/
theorem mem_of_mem_lower {cs : List Char} {d : Char} (hpos : 0 < d.toNat) (hd : d.toNat < 0x61)
    (h : d ∈ lower cs) : d ∈ cs :=
  mem_of_mem_lowerFrom hpos hd h

end ElixirClient.Text

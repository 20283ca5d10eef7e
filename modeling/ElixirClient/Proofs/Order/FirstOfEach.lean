import Mathlib.Data.List.Basic
import ElixirClient.Resolver

/-!
# The first item of each key

`firstOfEach key` keeps of a list the first item of every key. Its items have different keys
(`pairwise_firstOfEach`), every key of the list is still there (`exists_mem_firstOfEach`), and of a
list behind another the items with new keys are kept (`firstOfEach_append`). So it does not matter
whether lists are rid of repetitions before they are put together or only then
(`firstOfEach_flatMap_firstOfEach`).
-/

namespace ElixirClient

variable {α β : Type} [DecidableEq β] (key : α → β)

theorem mem_of_mem_firstOfEach {l : List α} {x : α} (h : x ∈ firstOfEach key l) : x ∈ l := by
  induction l with
  | nil => exact h
  | cons a rest ih =>
    rcases List.mem_cons.mp h with h | h
    · rw [h]
      exact List.mem_cons_self
    · exact List.mem_cons_of_mem a (ih (List.mem_filter.mp h).1)

theorem pairwise_firstOfEach (l : List α) :
    (firstOfEach key l).Pairwise fun a b => key a ≠ key b := by
  induction l with
  | nil => exact .nil
  | cons a rest ih =>
    refine .cons (fun b hb => ?_) (ih.sublist List.filter_sublist)
    have hne := (List.mem_filter.mp hb).2
    exact fun h => (of_decide_eq_true hne) h.symm

theorem exists_mem_firstOfEach {l : List α} {x : α} (h : x ∈ l) :
    ∃ y ∈ firstOfEach key l, key y = key x := by
  induction l with
  | nil => cases h
  | cons a rest ih =>
    by_cases hax : key a = key x
    · exact ⟨a, List.mem_cons_self, hax⟩
    · rcases List.mem_cons.mp h with h | h
      · exact absurd (congrArg key h.symm) hax
      · obtain ⟨y, hy, hyx⟩ := ih h
        refine ⟨y, List.mem_cons_of_mem a (List.mem_filter.mpr ⟨hy, ?_⟩), hyx⟩
        rw [decide_eq_true_iff, hyx]
        exact fun h => hax h.symm

theorem mem_map_firstOfEach {l : List α} {k : β} : k ∈ (firstOfEach key l).map key ↔ k ∈ l.map key := by
  constructor
  · intro h
    obtain ⟨x, hx, rfl⟩ := List.mem_map.mp h
    exact List.mem_map_of_mem (mem_of_mem_firstOfEach key hx)
  · intro h
    obtain ⟨x, hx, rfl⟩ := List.mem_map.mp h
    obtain ⟨y, hy, hkey⟩ := exists_mem_firstOfEach key hx
    exact List.mem_map.mpr ⟨y, hy, hkey⟩

/-- Items of different keys all stay. -/
theorem firstOfEach_eq_self {l : List α} (h : l.Pairwise fun a b => key a ≠ key b) :
    firstOfEach key l = l := by
  induction h with
  | nil => rfl
  | @cons a rest hne _ ih =>
    rw [firstOfEach, ih, List.filter_eq_self.mpr fun b hb => decide_eq_true (hne b hb).symm]

/-- Of what follows a list, the items with new keys are kept. -/
theorem firstOfEach_append (l l' : List α) :
    firstOfEach key (l ++ l') =
      firstOfEach key l ++ (firstOfEach key l').filter fun y => key y ∉ l.map key := by
  induction l with
  | nil => simp [firstOfEach]
  | cons a rest ih =>
    rw [List.cons_append, firstOfEach, firstOfEach, ih, List.filter_append, List.filter_filter,
      List.cons_append]
    congr 2
    refine List.filter_congr fun y _ => ?_
    simp

/-- An item behind all others is kept if no other has its key. -/
theorem firstOfEach_concat_of_not_mem {l : List α} {x : α} (h : key x ∉ l.map key) :
    firstOfEach key (l ++ [x]) = firstOfEach key l ++ [x] := by
  rw [firstOfEach_append]
  congr 1
  exact List.filter_eq_self.mpr fun y hy => decide_eq_true (List.mem_singleton.mp hy ▸ h)

/-- Items behind all others are dropped if others have their keys. -/
theorem firstOfEach_append_of_mem {l l' : List α} (h : ∀ x ∈ l', key x ∈ l.map key) :
    firstOfEach key (l ++ l') = firstOfEach key l := by
  have hdrop : (firstOfEach key l').filter (fun y => key y ∉ l.map key) = [] := by
    refine List.filter_eq_nil_iff.mpr fun y hy => ?_
    rw [decide_eq_true_iff]
    exact not_not_intro (h y (mem_of_mem_firstOfEach key hy))
  rw [firstOfEach_append, hdrop, List.append_nil]

theorem firstOfEach_concat_of_mem {l : List α} {x : α} (h : key x ∈ l.map key) :
    firstOfEach key (l ++ [x]) = firstOfEach key l :=
  firstOfEach_append_of_mem key (List.forall_mem_singleton.mpr h)

/-- Lists that are put together may have their repetitions dropped before or behind. -/
theorem firstOfEach_flatMap_firstOfEach {γ : Type} (xs : List γ) (f : γ → List α) :
    firstOfEach key (xs.flatMap fun x => firstOfEach key (f x)) = firstOfEach key (xs.flatMap f) := by
  induction xs with
  | nil => rfl
  | cons x rest ih =>
    rw [List.flatMap_cons, List.flatMap_cons, firstOfEach_append, firstOfEach_append, ih,
      firstOfEach_eq_self key (pairwise_firstOfEach key (f x))]
    congr 1
    exact List.filter_congr fun y _ => decide_eq_decide.mpr (not_congr (mem_map_firstOfEach key))

/-- A list in between others may have its repetitions dropped before or behind. -/
theorem firstOfEach_append_firstOfEach_append (front l behind : List α) :
    firstOfEach key (front ++ firstOfEach key l ++ behind) =
      firstOfEach key (front ++ l ++ behind) := by
  -- both are the same as with the repetitions dropped in all three lists
  have hall (middle : List α) : firstOfEach key (front ++ middle ++ behind) =
      firstOfEach key (firstOfEach key front ++ firstOfEach key middle ++ firstOfEach key behind) := by
    simpa using (firstOfEach_flatMap_firstOfEach key [front, middle, behind] id).symm
  rw [hall, hall l, firstOfEach_eq_self key (pairwise_firstOfEach key l)]

end ElixirClient

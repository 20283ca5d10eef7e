import Mathlib.Data.List.Perm.Basic

/-!
# Groups of one key

A list is parted into groups by handing each name the items of its key. If the names have different
keys and together all keys of the list, the groups hold the list (`perm_flatMap_filter`), and what
is put into the group of a name can be read off all groups together (`filter_flatMap_eq`).
-/

namespace ElixirClient.Grouping

variable {α ι κ : Type} [DecidableEq κ] {key : α → κ} {keyOf : ι → κ}

/-- Parting a list into groups loses and repeats nothing. Induction on the names: the items of the
first name leave, the others keep their groups. -/
theorem perm_flatMap_filter {names : List ι} (hnames : names.Pairwise fun m n => keyOf m ≠ keyOf n)
    {items : List α} (hcover : ∀ x ∈ items, ∃ n ∈ names, keyOf n = key x) :
    (names.flatMap fun n => items.filter fun x => key x = keyOf n).Perm items := by
  induction names generalizing items with
  | nil =>
    cases items with
    | nil => exact .nil
    | cons x rest =>
      obtain ⟨n, hn, _⟩ := hcover x List.mem_cons_self
      cases hn
  | cons name rest ih =>
    rw [List.flatMap_cons]
    -- the groups of the other names lose nothing when the items of the first have left
    have hrest : (rest.flatMap fun n => items.filter fun x => key x = keyOf n) =
        rest.flatMap fun n =>
          (items.filter fun x => !decide (key x = keyOf name)).filter fun x => key x = keyOf n := by
      refine List.flatMap_congr fun n hn => ?_
      rw [List.filter_filter]
      refine List.filter_congr fun x _ => ?_
      have hne := List.rel_of_pairwise_cons hnames hn
      by_cases hx : key x = keyOf n
      · simp [hx, Ne.symm hne]
      · simp [hx]
    rw [hrest]
    refine ((ih hnames.of_cons fun x hx => ?_).append_left _).trans
      (List.filter_append_perm (fun x => decide (key x = keyOf name)) items)
    obtain ⟨hmem, hx⟩ := List.mem_filter.mp hx
    obtain ⟨n, hn, hkey⟩ := hcover x hmem
    rcases List.mem_cons.mp hn with rfl | hn
    · simp [hkey] at hx
    · exact ⟨n, hn, hkey⟩

/-- The items of one key are those in the group of the name with that key. -/
theorem filter_flatMap_eq {names : List ι} (hnames : names.Pairwise fun m n => keyOf m ≠ keyOf n)
    {group : ι → List α} (hgroup : ∀ n ∈ names, ∀ x ∈ group n, key x = keyOf n) {name : ι}
    (hname : name ∈ names) :
    (names.flatMap group).filter (fun x => key x = keyOf name) = group name := by
  induction names with
  | nil => cases hname
  | cons first rest ih =>
    have hgroups : ∀ n ∈ rest, ∀ x ∈ group n, key x = keyOf n :=
      fun n hn => hgroup n (List.mem_cons_of_mem first hn)
    rw [List.flatMap_cons, List.filter_append]
    rcases List.mem_cons.mp hname with rfl | hmem
    · -- its own items all stay, those of the other names all go
      rw [List.filter_eq_self.mpr, List.filter_eq_nil_iff.mpr, List.append_nil]
      · intro x hx
        obtain ⟨n, hn, hx⟩ := List.mem_flatMap.mp hx
        rw [decide_eq_true_iff, hgroups n hn x hx]
        exact fun h => List.rel_of_pairwise_cons hnames hn h.symm
      · intro x hx
        rw [decide_eq_true_iff]
        exact hgroup name List.mem_cons_self x hx
    · rw [List.filter_eq_nil_iff.mpr, List.nil_append, ih hnames.of_cons hgroups hmem]
      intro x hx
      rw [decide_eq_true_iff, hgroup first List.mem_cons_self x hx]
      exact List.rel_of_pairwise_cons hnames hmem

end ElixirClient.Grouping

import Mathlib.Data.List.Sort
import Mathlib.Data.List.TakeWhile
import Mathlib.Data.String.Basic

/-!
# Stable sorting

What `List.mergeSort` does to items that the order does not tell apart. `tied` items keep their
places relative to each other (`filter_tied_mergeSort`), and this, with being sorted, leaves only
one arrangement of a list (`eq_of_pairwise_of_filter_tied`). Two ways of sorting a list can so be
compared by their ties alone; `mergeSort_filter` is the first use: leaving items out and sorting
can be done in either order. One more item at the end moves none of the others (`mergeSort_concat`).
Without ties nothing is left of the order that the items come in (`mergeSort_eq_of_perm`).

`byText` is the order of items by a text that each of them has.
-/

namespace ElixirClient.StableSort

variable {α : Type} {le : α → α → Bool}

/-- Each of two items may stand before the other. -/
def tied (le : α → α → Bool) (a b : α) : Bool := le a b && le b a

theorem tied_iff {a b : α} : tied le a b = true ↔ le a b = true ∧ le b a = true := by
  rw [tied, Bool.and_eq_true]

/-- Sorting leaves the items that are tied with one item in their order. -/
theorem filter_tied_mergeSort (trans : ∀ a b c, le a b → le b c → le a c)
    (total : ∀ a b, le a b || le b a) (x : α) (l : List α) :
    (l.mergeSort le).filter (tied le x) = l.filter (tied le x) := by
  -- all of them are in order among themselves, so they stay a sublist of the sorted list
  have hsorted : (l.filter (tied le x)).Pairwise fun a b => le a b := by
    refine List.pairwise_of_forall_mem_list fun a ha b hb => ?_
    have hxa := tied_iff.mp (List.mem_filter.mp ha).2
    have hxb := tied_iff.mp (List.mem_filter.mp hb).2
    exact trans a x b hxa.2 hxb.1
  have hsub := (List.sublist_mergeSort trans total hsorted List.filter_sublist).filter (tied le x)
  rw [List.filter_filter] at hsub
  simp only [Bool.and_self] at hsub
  refine (hsub.eq_of_length ?_).symm
  exact ((List.mergeSort_perm l le).filter (tied le x)).length_eq.symm

/-- A sorted arrangement of a list is determined by the order of its ties. Induction on the first
arrangement: the heads of both may stand before each other, so they are the first of one tie. -/
theorem eq_of_pairwise_of_filter_tied (total : ∀ a b, le a b || le b a) {l l' : List α}
    (hl : l.Pairwise fun a b => le a b) (hl' : l'.Pairwise fun a b => le a b)
    (hperm : l.Perm l')
    (hfilter : ∀ x ∈ l, l.filter (tied le x) = l'.filter (tied le x)) :
    l = l' := by
  induction l generalizing l' with
  | nil => exact hperm.nil_eq
  | cons a t ih =>
    cases l' with
    | nil => exact absurd hperm.symm (by simp)
    | cons b t' =>
      have hrefl (c : α) : le c c := by simpa using total c c
      -- each head is in the other list, where it is not less than that head
      have hab : le a b := by
        rcases List.mem_cons.mp (hperm.mem_iff.mpr List.mem_cons_self) with h | h
        · rw [h]
          exact hrefl a
        · exact List.rel_of_pairwise_cons hl h
      have hba : le b a := by
        rcases List.mem_cons.mp (hperm.mem_iff.mp List.mem_cons_self) with h | h
        · rw [h]
          exact hrefl b
        · exact List.rel_of_pairwise_cons hl' h
      -- so the heads are tied, and the first of those that are tied with them is the same
      have hheads := hfilter a List.mem_cons_self
      rw [List.filter_cons_of_pos (tied_iff.mpr ⟨hrefl a, hrefl a⟩),
        List.filter_cons_of_pos (tied_iff.mpr ⟨hab, hba⟩)] at hheads
      obtain rfl : a = b := (List.cons.inj hheads).1
      rw [ih hl.of_cons hl'.of_cons hperm.cons_inv fun x hmem => ?_]
      have hx := hfilter x (List.mem_cons_of_mem a hmem)
      rw [List.filter_cons, List.filter_cons] at hx
      split at hx
      · exact (List.cons.inj hx).2
      · exact hx

theorem mergeSort_filter (trans : ∀ a b c, le a b → le b c → le a c)
    (total : ∀ a b, le a b || le b a) (p : α → Bool) (l : List α) :
    (l.mergeSort le).filter p = (l.filter p).mergeSort le := by
  have hsort := List.pairwise_mergeSort trans total
  refine eq_of_pairwise_of_filter_tied total ((hsort l).sublist List.filter_sublist)
    (hsort (l.filter p)) ?_ fun x _ => ?_
  · exact ((List.mergeSort_perm l le).filter p).trans (List.mergeSort_perm _ le).symm
  · rw [filter_tied_mergeSort trans total, List.filter_comm, filter_tied_mergeSort trans total,
      List.filter_comm]

theorem not_of_mem_dropWhile {p : α → Bool} {l : List α} (h : l.Pairwise fun a b => p b → p a) :
    ∀ b ∈ l.dropWhile p, ¬ p b := by
  induction h with
  | nil => nofun
  | @cons a rest ha _ ih =>
    rw [List.dropWhile_cons]
    split
    · exact ih
    · next hp => exact List.forall_mem_cons.mpr ⟨hp, fun b hb hpb => hp (ha b hb hpb)⟩

/-- One more item at the end of a list moves none of the others: it comes to stand behind all that
may stand before it. -/
theorem mergeSort_concat (trans : ∀ a b c, le a b → le b c → le a c)
    (total : ∀ a b, le a b || le b a) (l : List α) (x : α) :
    ∃ front back, l.mergeSort le = front ++ back ∧ (l ++ [x]).mergeSort le = front ++ x :: back := by
  have hsort := List.pairwise_mergeSort trans total
  obtain ⟨front, back, hsplit, hfront, hback⟩ : ∃ front back, l.mergeSort le = front ++ back ∧
      (∀ a ∈ front, le a x) ∧ ∀ b ∈ back, ¬ le b x := by
    refine ⟨(l.mergeSort le).takeWhile (le · x), (l.mergeSort le).dropWhile (le · x),
      List.takeWhile_append_dropWhile.symm, fun a ha => ?_, not_of_mem_dropWhile ?_⟩
    · exact List.mem_takeWhile_imp (p := (le · x)) ha
    · exact (hsort l).imp fun hab hbx => trans _ _ _ hab hbx
  have hrest : (front ++ back).Pairwise fun a b => le a b := hsplit ▸ hsort l
  have hxb : ∀ b ∈ back, le x b := fun b hb =>
    (Bool.or_eq_true _ _ ▸ total x b : le x b = true ∨ le b x = true).resolve_right (hback b hb)
  have hsorted : (front ++ x :: back).Pairwise fun a b => le a b := by
    obtain ⟨hf, hb, hfb⟩ := List.pairwise_append.mp hrest
    refine List.pairwise_append.mpr ⟨hf, List.pairwise_cons.mpr ⟨hxb, hb⟩, fun a ha b hmem => ?_⟩
    rcases List.mem_cons.mp hmem with rfl | hmem
    · exact hfront a ha
    · exact hfb a ha b hmem
  have hperm : (l ++ [x]).Perm (front ++ x :: back) := by
    refine (List.perm_append_singleton x l).trans (List.perm_cons_append_cons x ?_)
    exact hsplit ▸ (List.mergeSort_perm l le).symm
  refine ⟨front, back, hsplit, ?_⟩
  refine eq_of_pairwise_of_filter_tied total (hsort _) hsorted
    ((List.mergeSort_perm _ le).trans hperm) fun y _ => ?_
  have htied := filter_tied_mergeSort trans total y l
  rw [filter_tied_mergeSort trans total, List.filter_append, ← htied, hsplit, List.filter_append,
    List.filter_append, List.filter_cons]
  cases hyx : tied le y x with
  | false => simp [hyx]
  | true =>
    -- what is tied with the item cannot stand behind it
    have hnone : back.filter (tied le y) = [] := by
      refine List.filter_eq_nil_iff.mpr fun b hb hyb => hback b hb ?_
      exact trans b y x (tied_iff.mp hyb).2 (tied_iff.mp hyx).1
    simp [hyx, hnone]

/-- Where no two different items are tied, the order that a list comes in does not show. -/
theorem mergeSort_eq_of_perm (trans : ∀ a b c, le a b → le b c → le a c)
    (total : ∀ a b, le a b || le b a) {l l' : List α} (hperm : l'.Perm l)
    (hanti : ∀ a ∈ l, ∀ b ∈ l, le a b → le b a → a = b) : l'.mergeSort le = l.mergeSort le := by
  have hsort := List.pairwise_mergeSort trans total
  have hperm' : (l'.mergeSort le).Perm l := (List.mergeSort_perm l' le).trans hperm
  refine List.Perm.eq_of_pairwise (fun a b ha hb => ?_) (hsort l') (hsort l)
    (hperm'.trans (List.mergeSort_perm l le).symm)
  exact hanti a (hperm'.mem_iff.mp ha) b (List.mem_mergeSort.mp hb)

/-! ## Items by their texts -/

/-- Items by ascending texts. -/
def byText (text : α → String) (a b : α) : Bool := !decide (text b < text a)

variable {text : α → String}

theorem byText_iff {a b : α} : byText text a b = true ↔ text a ≤ text b := by
  rw [byText, Bool.not_eq_true', decide_eq_false_iff_not, not_lt]

theorem byText_trans (a b c : α) (hab : byText text a b) (hbc : byText text b c) :
    byText text a c :=
  byText_iff.mpr ((byText_iff.mp hab).trans (byText_iff.mp hbc))

theorem byText_total (a b : α) : byText text a b || byText text b a := by
  rw [Bool.or_eq_true, byText_iff, byText_iff]
  exact le_total _ _

/-- Different texts ascend when they are sorted. -/
theorem ascending_mergeSort_byText {l : List α} (h : (l.map text).Nodup) :
    ((l.mergeSort (byText text)).map text).Pairwise (· < ·) := by
  have hsorted : ((l.mergeSort (byText text)).map text).Pairwise (· ≤ ·) :=
    List.pairwise_map.mpr ((List.pairwise_mergeSort byText_trans byText_total l).imp byText_iff.mp)
  have hdistinct : ((l.mergeSort (byText text)).map text).Nodup :=
    ((List.mergeSort_perm l _).map text).nodup_iff.mpr h
  exact (hsorted.and hdistinct).imp fun ⟨hle, hne⟩ => lt_of_le_of_ne hle hne

end ElixirClient.StableSort

import Mathlib.Data.String.Basic
import ElixirClient.Json.Display
import ElixirClient.Json.Order
import ElixirClient.Proofs.Order.StableSort

/-!
# Sorting by keys

`Json.sortBy?` only rearranges (`perm_of_sortBy?`), and sorting by a key of the images is sorting by
the key of the image (`sortBy?_map`). Keys that are text always have an order, so sorting by them
succeeds and is the stable sort by their characters (`sortBy?_text`). Any other key has no order
with a text: among two keys or more that could be sorted, one text makes all of them text
(`isText_of_comparable`). Where the texts are different, the order that the items come in does not
show (`sortBy?_eq_of_perm`).
-/

namespace ElixirClient.Json

variable {α β : Type}

/-- A string, rather than any other value. -/
def IsText (value : Json) : Prop := ∃ text, value = .str text

theorem perm_of_sortBy? {key : α → Json} {items sorted : List α}
    (h : sortBy? key items = some sorted) : sorted.Perm items := by
  unfold sortBy? at h
  split at h
  · cases h
    exact List.mergeSort_perm _ _
  · cases h

theorem sortBy?_map (key : β → Json) (f : α → β) (items : List α) :
    sortBy? key (items.map f) =
      (sortBy? (fun a => key (f a)) items).map fun sorted => sorted.map f := by
  unfold sortBy?
  rw [List.length_map, List.map_map]
  show (if items.length ≤ 1 ∨ comparable (items.map fun a => key (f a)) = true then _ else _) = _
  split
  · rw [Option.map_some]
    congr 1
    rw [List.map_mergeSort (f := f) (s := fun a b => lt? (key b) (key a) != some true)]
    exact fun a _ b _ => rfl
  · rfl

/-! ## Text -/

/-- Only a text is the key that a text is. -/
theorem key?_eq_str {value : Json} {text : String} :
    value.key? = some (.str text) ↔ value = .str text := by
  cases value with
  | float x => cases h : x.toInt? <;> simp [key?, h]
  | _ => simp [key?]

theorem key?_eq_iff_plain_eq {a b : Json} (ha : a.IsText) (hb : b.IsText) :
    a.key? = b.key? ↔ a.plain = b.plain := by
  obtain ⟨s, rfl⟩ := ha
  obtain ⟨t, rfl⟩ := hb
  show (str s).key? = some (.str t) ↔ _
  rw [key?_eq_str]
  exact ⟨fun h => congrArg plain h, fun h => congrArg str h⟩

/-- A text is known by what is shown of it. -/
theorem eq_of_plain_eq {a b : Json} (ha : a.IsText) (hb : b.IsText) (h : a.plain = b.plain) :
    a = b := by
  obtain ⟨s, rfl⟩ := ha
  obtain ⟨t, rfl⟩ := hb
  exact congrArg str h

theorem lt?_str (a b : String) : lt? (.str a) (.str b) = some (decide (a < b)) := by
  simp only [lt?, key?, keyLt?]

/-- A value that has an order with a text is text. -/
theorem isText_of_lt? {a : String} {value : Json} (h : (lt? (.str a) value).isSome) :
    value.IsText := by
  have hlt : lt? (.str a) value = (value.key?).bind fun key => keyLt? (.str a) key := by
    cases value with
    | float x => cases hx : x.toInt? <;> simp [lt?, key?, hx]
    | _ => simp [lt?, key?]
  rw [hlt] at h
  cases hkey : value.key? with
  | none =>
    rw [hkey] at h
    cases h
  | some key =>
    rw [hkey, Option.bind_some] at h
    cases key with
    | str text => exact ⟨text, key?_eq_str.mp hkey⟩
    | _ => cases h

theorem comparable_of_text {keys : List Json} (h : ∀ key ∈ keys, key.IsText) :
    comparable keys = true := by
  induction keys with
  | nil => rfl
  | cons a rest ih =>
    rw [comparable, ih fun key hkey => h key (List.mem_cons_of_mem a hkey), Bool.and_true,
      List.all_eq_true]
    intro b hb
    obtain ⟨s, rfl⟩ := h a List.mem_cons_self
    obtain ⟨t, rfl⟩ := h b (List.mem_cons_of_mem _ hb)
    rw [lt?_str, lt?_str]
    rfl

/-- Sorting by keys of text is the stable sort by their characters. -/
theorem sortBy?_text {key : α → Json} {items : List α} (h : ∀ item ∈ items, (key item).IsText) :
    sortBy? key items =
      some (items.mergeSort fun a b => decide ((key a).plain ≤ (key b).plain)) := by
  have hkeys : comparable (items.map key) = true := by
    refine comparable_of_text fun value hvalue => ?_
    obtain ⟨item, hitem, rfl⟩ := List.mem_map.mp hvalue
    exact h item hitem
  unfold sortBy?
  rw [if_pos (.inr hkeys)]
  congr 1
  have hle : ∀ a ∈ items, ∀ b ∈ items,
      (lt? (key b) (key a) != some true) = decide ((key a).plain ≤ (key b).plain) := by
    -- only among the items, since other keys need not be text
    intro a ha b hb
    obtain ⟨s, hs⟩ := h a ha
    obtain ⟨t, ht⟩ := h b hb
    rw [hs, ht, lt?_str]
    show _ = decide (s ≤ t)
    by_cases hst : t < s
    · rw [decide_eq_true hst, decide_eq_false (not_le.mpr hst)]
      rfl
    · rw [decide_eq_false hst, decide_eq_true (not_lt.mp hst)]
      rfl
  have hsort := List.map_mergeSort (f := id) (s := fun a b => decide ((key a).plain ≤ (key b).plain))
    hle
  rwa [List.map_id, List.map_id] at hsort

theorem plain_le_trans (key : α → Json) (a b c : α)
    (hab : decide ((key a).plain ≤ (key b).plain)) (hbc : decide ((key b).plain ≤ (key c).plain)) :
    decide ((key a).plain ≤ (key c).plain) :=
  decide_eq_true ((of_decide_eq_true hab).trans (of_decide_eq_true hbc))

theorem plain_le_total (key : α → Json) (a b : α) :
    decide ((key a).plain ≤ (key b).plain) || decide ((key b).plain ≤ (key a).plain) := by
  rw [Bool.or_eq_true, decide_eq_true_iff, decide_eq_true_iff]
  exact le_total _ _

theorem pairwise_of_sortBy? {key : α → Json} {items sorted : List α}
    (htext : ∀ item ∈ items, (key item).IsText) (h : sortBy? key items = some sorted) :
    sorted.Pairwise fun a b => (key a).plain ≤ (key b).plain := by
  rw [sortBy?_text htext] at h
  cases h
  exact (List.pairwise_mergeSort (plain_le_trans key) (plain_le_total key) items).imp
    of_decide_eq_true

/-- Items whose keys are different texts come out the same from every order they come in. -/
theorem sortBy?_eq_of_perm {key : α → Json} {items items' : List α} (hperm : items'.Perm items)
    (htext : ∀ item ∈ items, (key item).IsText)
    (hdistinct : ∀ a ∈ items, ∀ b ∈ items, (key a).plain = (key b).plain → a = b) :
    sortBy? key items' = sortBy? key items := by
  have htext' : ∀ item ∈ items', (key item).IsText := fun item hitem =>
    htext item (hperm.mem_iff.mp hitem)
  rw [sortBy?_text htext, sortBy?_text htext']
  congr 1
  refine StableSort.mergeSort_eq_of_perm (plain_le_trans key) (plain_le_total key) hperm ?_
  intro a ha b hb hab hba
  exact hdistinct a ha b hb (le_antisymm (of_decide_eq_true hab) (of_decide_eq_true hba))

/-- Two keys or more that have an order are all text if one of them is. -/
theorem isText_of_comparable {keys : List Json} (h : comparable keys = true) {text : String}
    (hmem : .str text ∈ keys) : ∀ key ∈ keys, key.IsText := by
  induction keys with
  | nil => cases hmem
  | cons a rest ih =>
    rw [comparable, Bool.and_eq_true, List.all_eq_true] at h
    have hhead (key : Json) (hkey : key ∈ rest) :
        (lt? a key).isSome = true ∧ (lt? key a).isSome = true :=
      (Bool.and_eq_true ..).mp (h.1 key hkey)
    -- the first key has an order with all others, so the text may be it or one of them
    rcases List.mem_cons.mp hmem with ha | hrest
    · intro key hkey
      rcases List.mem_cons.mp hkey with hkey | hkey
      · exact ⟨text, hkey.trans ha.symm⟩
      · rw [← ha] at hhead
        exact isText_of_lt? (hhead key hkey).1
    · intro key hkey
      rcases List.mem_cons.mp hkey with hkey | hkey
      · rw [hkey]
        exact isText_of_lt? (hhead _ hrest).2
      · exact ih h.2 hrest key hkey

end ElixirClient.Json

import Mathlib.Data.List.Basic

/-!
# Items that can be told apart in a text

Items are `Apart` if their texts, with something behind each of them, are the same only where the
items and what is behind them are. What may come behind a text is a parameter: there is usually a
character that ends it. A list of such items with separators between them is taken apart again in
one way only (`intercalate_inj`).
-/

namespace ElixirClient.Text

/-- Texts without the characters that end them are told apart with what follows them. -/
theorem append_inj_of_ends {p : Char → Bool} {cs ds rest rest' : List Char}
    (hcs : ∀ c ∈ cs, p c = true) (hds : ∀ c ∈ ds, p c = true)
    (hrest : ∀ c, rest.head? = some c → p c = false)
    (hrest' : ∀ c, rest'.head? = some c → p c = false) (h : cs ++ rest = ds ++ rest') :
    cs = ds ∧ rest = rest' := by
  have hends {rest : List Char} (hrest : ∀ c, rest.head? = some c → p c = false) :
      rest.takeWhile p = [] := by
    cases rest with
    | nil => rfl
    | cons c rest => rw [List.takeWhile_cons, hrest c rfl, if_neg Bool.false_ne_true]
  have hsame := congrArg (List.takeWhile p) h
  rw [List.takeWhile_append_of_pos hcs, List.takeWhile_append_of_pos hds, hends hrest,
    hends hrest', List.append_nil, List.append_nil] at hsame
  rw [hsame] at h
  exact ⟨hsame, List.append_cancel_left h⟩

/-- Texts are told apart with what follows them by a character that ends them. -/
theorem append_cons_inj {c : Char} {cs ds rest rest' : List Char} (hcs : c ∉ cs) (hds : c ∉ ds)
    (h : cs ++ c :: rest = ds ++ c :: rest') : cs = ds ∧ rest = rest' := by
  have hchars {cs : List Char} (hcs : c ∉ cs) : ∀ d ∈ cs, decide (d ≠ c) = true :=
    fun d hd => decide_eq_true (ne_of_mem_of_not_mem hd hcs)
  obtain ⟨hsame, hrest⟩ := append_inj_of_ends (hchars hcs) (hchars hds) (by simp) (by simp) h
  exact ⟨hsame, (List.cons.inj hrest).2⟩

variable {α : Type} {text : α → List Char} {Follows : List Char → Prop}

/-- In front of what may follow them, the texts of the two items are the same only if the items
are. -/
def Apart (text : α → List Char) (Follows : List Char → Prop) (x y : α) : Prop :=
  ∀ rest rest', Follows rest → Follows rest' → text x ++ rest = text y ++ rest' →
    x = y ∧ rest = rest'

theorem Apart.symm {x y : α} (h : Apart text Follows x y) : Apart text Follows y x :=
  fun rest rest' hrest hrest' heq => (h rest' rest hrest' hrest heq.symm).imp Eq.symm Eq.symm

/-- Texts of which none begins the other are apart, whatever follows. -/
theorem apart_of_prefix {x y : α} (hxy : text x <+: text y → x = y)
    (hyx : text y <+: text x → y = x) : Apart text Follows x y := by
  intro rest rest' _ _ heq
  have hsame : x = y := by
    rcases List.prefix_or_prefix_of_prefix (List.prefix_append (text x) rest)
      (heq ▸ List.prefix_append (text y) rest') with h | h
    · exact hxy h
    · exact (hyx h).symm
  rw [hsame] at heq
  exact ⟨hsame, List.append_cancel_left heq⟩

/-- Texts that begin with different characters are apart, whatever follows. -/
theorem apart_of_head? {x y : α} {c d : Char} (hx : (text x).head? = some c)
    (hy : (text y).head? = some d) (hne : c ≠ d) : Apart text Follows x y := by
  intro rest rest' _ _ heq
  have hhead := congrArg List.head? heq
  rw [List.head?_append, List.head?_append, hx, hy] at hhead
  exact absurd (Option.some.inj hhead) hne

/-! ## Lists of items -/

section Separators

variable {β : Type} {text : α → List β} {separator : List β}

/-- Items that each come after a separator. -/
def continued (text : α → List β) (separator : List β) (xs : List α) : List β :=
  xs.flatMap fun x => separator ++ text x

theorem continued_cons (x : α) (xs : List α) : continued text separator (x :: xs) =
    separator ++ (text x ++ continued text separator xs) := by
  rw [continued, List.flatMap_cons, List.append_assoc, continued]

theorem intercalate_eq_append_continued (x : α) (xs : List α) :
    separator.intercalate ((x :: xs).map text) = text x ++ continued text separator xs := by
  induction xs generalizing x with
  | nil => simp [continued]
  | cons y xs ih =>
    rw [List.map_cons, List.map_cons, List.intercalate_cons_cons, ← List.map_cons, ih,
      continued_cons, List.append_assoc]

end Separators

variable {separator rest rest' : List Char}

theorem follows_continued (xs : List α) (hseparator : ∀ more, Follows (separator ++ more))
    (hrest : Follows rest) : Follows (continued text separator xs ++ rest) := by
  cases xs with
  | nil => exact hrest
  | cons x xs =>
    rw [continued_cons, List.append_assoc]
    exact hseparator _

theorem continued_inj {xs ys : List α} (hitems : ∀ x ∈ xs, ∀ y ∈ ys, Apart text Follows x y)
    (hseparator : ∀ more, Follows (separator ++ more)) (hrest : Follows rest)
    (hrest' : Follows rest') (hend : ¬ separator <+: rest) (hend' : ¬ separator <+: rest')
    (h : continued text separator xs ++ rest = continued text separator ys ++ rest') :
    xs = ys ∧ rest = rest' := by
  induction xs generalizing ys with
  | nil =>
    cases ys with
    | nil => exact ⟨rfl, h⟩
    | cons y ys =>
      rw [continued_cons, List.append_assoc] at h
      exact absurd ⟨_, h.symm⟩ hend
  | cons x xs ih =>
    cases ys with
    | nil =>
      rw [continued_cons, List.append_assoc] at h
      exact absurd ⟨_, h⟩ hend'
    | cons y ys =>
      rw [continued_cons, continued_cons, List.append_assoc, List.append_assoc, List.append_assoc,
        List.append_assoc] at h
      -- the first items are apart and followed by what may follow, so they are one
      obtain ⟨rfl, hothers⟩ := hitems x List.mem_cons_self y List.mem_cons_self _ _
        (follows_continued xs hseparator hrest) (follows_continued ys hseparator hrest')
        (List.append_cancel_left h)
      obtain ⟨rfl, hsame⟩ := ih (fun z hz w hw =>
        hitems z (List.mem_cons_of_mem x hz) w (List.mem_cons_of_mem x hw)) hothers
      exact ⟨rfl, hsame⟩

/-- Lists of items are told apart by their joined texts, if no separator follows the lists. -/
theorem intercalate_inj {xs ys : List α} (hxs : xs ≠ []) (hys : ys ≠ [])
    (hitems : ∀ x ∈ xs, ∀ y ∈ ys, Apart text Follows x y)
    (hseparator : ∀ more, Follows (separator ++ more)) (hrest : Follows rest)
    (hrest' : Follows rest') (hend : ¬ separator <+: rest) (hend' : ¬ separator <+: rest')
    (h : separator.intercalate (xs.map text) ++ rest =
      separator.intercalate (ys.map text) ++ rest') : xs = ys ∧ rest = rest' := by
  obtain ⟨x, xs, rfl⟩ := List.exists_cons_of_ne_nil hxs
  obtain ⟨y, ys, rfl⟩ := List.exists_cons_of_ne_nil hys
  rw [intercalate_eq_append_continued, intercalate_eq_append_continued, List.append_assoc,
    List.append_assoc] at h
  obtain ⟨rfl, hothers⟩ := hitems x List.mem_cons_self y List.mem_cons_self _ _
    (follows_continued xs hseparator hrest) (follows_continued ys hseparator hrest') h
  obtain ⟨rfl, hsame⟩ := continued_inj (fun z hz w hw =>
    hitems z (List.mem_cons_of_mem x hz) w (List.mem_cons_of_mem x hw)) hseparator hrest hrest'
    hend hend' hothers
  exact ⟨rfl, hsame⟩

end ElixirClient.Text

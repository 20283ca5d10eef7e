import Mathlib.Data.List.Forall2
import ElixirClient.Fault

/-!
# Loops that end well

A loop over a list ends well exactly if each of its rounds does. `mapM_eq_ok` puts the results of
the rounds into one function, so what is known of every round is known of the list. A fold goes by
what its rounds keep (`of_foldlM_eq_ok`).
-/

namespace ElixirClient

variable {α β : Type}

theorem bind_eq_ok {e : Except Fault α} {next : α → Except Fault β} {b : β} :
    e >>= next = .ok b ↔ ∃ a, e = .ok a ∧ next a = .ok b := by
  constructor
  · intro h
    cases e with
    | error fault => cases h
    | ok a => exact ⟨a, rfl, h⟩
  · rintro ⟨a, rfl, h⟩
    exact h

theorem bind_eq_of_ok {e : Except Fault α} {next : α → Except Fault β} {a : α} (h : e = .ok a) :
    e >>= next = next a := by
  rw [h]
  rfl

theorem map_eq_ok {e : Except Fault α} {f : α → β} {b : β} :
    f <$> e = .ok b ↔ ∃ a, e = .ok a ∧ f a = b := by
  constructor
  · intro h
    cases e with
    | error fault => cases h
    | ok a => exact ⟨a, rfl, Except.ok.inj h⟩
  · rintro ⟨a, rfl, rfl⟩
    rfl

theorem exists_eq_ok_of_isOk {e : Except Fault α} (h : e.isOk = true) : ∃ a, e = .ok a := by
  cases e with
  | error fault => cases h
  | ok a => exact ⟨a, rfl⟩

theorem toOption_eq_some {e : Except Fault α} {a : α} : e.toOption = some a ↔ e = .ok a := by
  cases e with
  | error fault => exact ⟨nofun, nofun⟩
  | ok b => exact ⟨fun h => congrArg Except.ok (Option.some.inj h), fun h => by cases h; rfl⟩

theorem orderly_eq_ok {sorted : Option α} {items : α} :
    orderly sorted = .ok items ↔ sorted = some items := by
  cases sorted with
  | none => exact ⟨nofun, nofun⟩
  | some other => exact ⟨fun h => congrArg some (Except.ok.inj h), fun h => by cases h; rfl⟩

theorem Json.elements_eq_ok {value : Json} {items : List Json} :
    value.elements = .ok items ↔ value.elements? = some items := by
  unfold Json.elements
  cases value.elements? with
  | none => exact ⟨nofun, nofun⟩
  | some other => exact ⟨fun h => congrArg some (Except.ok.inj h), fun h => by cases h; rfl⟩

/-- Loops with the same rounds are the same, in every monad. -/
theorem mapM_congr {m : Type → Type} [Monad m] [LawfulMonad m] {f g : α → m β} {xs : List α}
    (h : ∀ x ∈ xs, f x = g x) : xs.mapM f = xs.mapM g := by
  induction xs with
  | nil => rfl
  | cons x rest ih =>
    rw [List.mapM_cons, List.mapM_cons, h x List.mem_cons_self,
      ih fun y hy => h y (List.mem_cons_of_mem x hy)]

variable {f : α → Except Fault β} {xs : List α}

/-- A recursion that goes down a list with one step for each item is a loop. Functions on trees have
such recursions for the lists below a node, where a loop would hide that the tree gets smaller. -/
theorem eq_mapM {loop : List α → Except Fault (List β)} (hnil : loop [] = .ok [])
    (hcons : ∀ x rest, loop (x :: rest) = do
      let y ← f x
      return y :: (← loop rest)) (xs : List α) : loop xs = xs.mapM f := by
  induction xs with
  | nil => exact hnil
  | cons x rest ih => rw [hcons, List.mapM_cons, ih]

theorem mapM_of_forall {g : α → β} (h : ∀ x ∈ xs, f x = .ok (g x)) :
    xs.mapM f = .ok (xs.map g) := by
  induction xs with
  | nil => rfl
  | cons x rest ih =>
    rw [List.mapM_cons, h x List.mem_cons_self, ih fun y hy => h y (List.mem_cons_of_mem x hy)]
    rfl

theorem exists_mapM_eq_ok (h : ∀ x ∈ xs, ∃ y, f x = .ok y) : ∃ ys, xs.mapM f = .ok ys := by
  induction xs with
  | nil => exact ⟨[], rfl⟩
  | cons x rest ih =>
    obtain ⟨y, hy⟩ := h x List.mem_cons_self
    obtain ⟨ys, hys⟩ := ih fun z hz => h z (List.mem_cons_of_mem x hz)
    rw [List.mapM_cons, hy, hys]
    exact ⟨y :: ys, rfl⟩

/-- Every round of a loop makes one of the results. -/
theorem exists_result_of_mapM_eq_ok {ys : List β} (h : xs.mapM f = .ok ys) :
    ∀ x ∈ xs, ∃ y ∈ ys, f x = .ok y := by
  induction xs generalizing ys with
  | nil => nofun
  | cons x rest ih =>
    rw [List.mapM_cons] at h
    obtain ⟨first, hfirst, h⟩ := bind_eq_ok.mp h
    obtain ⟨others, hothers, h⟩ := bind_eq_ok.mp h
    cases h
    rw [List.forall_mem_cons]
    refine ⟨⟨first, List.mem_cons_self, hfirst⟩, fun z hz => ?_⟩
    obtain ⟨y, hy, hround⟩ := ih hothers z hz
    exact ⟨y, List.mem_cons_of_mem first hy, hround⟩

theorem exists_of_mapM_eq_ok {ys : List β} (h : xs.mapM f = .ok ys) :
    ∀ x ∈ xs, ∃ y, f x = .ok y := by
  intro x hx
  obtain ⟨y, _, hy⟩ := exists_result_of_mapM_eq_ok h x hx
  exact ⟨y, hy⟩

/-- Every result of a loop is that of a round. -/
theorem exists_mem_of_mapM_eq_ok {ys : List β} (h : xs.mapM f = .ok ys) :
    ∀ y ∈ ys, ∃ x ∈ xs, f x = .ok y := by
  induction xs generalizing ys with
  | nil =>
    cases h
    nofun
  | cons x rest ih =>
    rw [List.mapM_cons] at h
    obtain ⟨first, hfirst, h⟩ := bind_eq_ok.mp h
    obtain ⟨others, hothers, h⟩ := bind_eq_ok.mp h
    cases h
    intro y hy
    rcases List.mem_cons.mp hy with rfl | hy
    · exact ⟨x, List.mem_cons_self, hfirst⟩
    · obtain ⟨z, hz, hround⟩ := ih hothers y hy
      exact ⟨z, List.mem_cons_of_mem x hz, hround⟩

/-- What holds at the start of a fold and is kept by each round holds of its result. -/
theorem of_foldlM_eq_ok {P : β → Prop} {f : β → α → Except Fault β}
    (hround : ∀ b, P b → ∀ x ∈ xs, ∀ c, f b x = .ok c → P c) {start last : β} (hstart : P start)
    (h : xs.foldlM f start = .ok last) : P last := by
  induction xs generalizing start with
  | nil =>
    cases h
    exact hstart
  | cons x rest ih =>
    rw [List.foldlM_cons] at h
    obtain ⟨next, hnext, h⟩ := bind_eq_ok.mp h
    have hkept : P next := hround start hstart x List.mem_cons_self next hnext
    exact ih (fun b hb y hy => hround b hb y (List.mem_cons_of_mem x hy)) hkept h

/-- A fold ends well exactly if each of its rounds does, where that depends on the item alone. -/
theorem exists_foldlM_eq_ok_iff {P : α → Prop} {f : β → α → Except Fault β}
    (hround : ∀ b x, (∃ c, f b x = .ok c) ↔ P x) {start : β} :
    (∃ last, xs.foldlM f start = .ok last) ↔ ∀ x ∈ xs, P x := by
  induction xs generalizing start with
  | nil => exact ⟨fun _ => nofun, fun _ => ⟨start, rfl⟩⟩
  | cons x rest ih =>
    rw [List.forall_mem_cons, List.foldlM_cons]
    constructor
    · rintro ⟨last, h⟩
      obtain ⟨next, hnext, h⟩ := bind_eq_ok.mp h
      exact ⟨(hround start x).mp ⟨next, hnext⟩, ih.mp ⟨last, h⟩⟩
    · rintro ⟨hx, hrest⟩
      obtain ⟨next, hnext⟩ := (hround start x).mpr hx
      obtain ⟨last, hlast⟩ := ih.mpr hrest
      exact ⟨last, bind_eq_ok.mpr ⟨next, hnext, hlast⟩⟩

theorem mapM_eq_ok [Inhabited β] {ys : List β} :
    xs.mapM f = .ok ys ↔ ∃ g : α → β, (∀ x ∈ xs, f x = .ok (g x)) ∧ ys = xs.map g := by
  constructor
  · intro h
    refine ⟨fun x => (f x).toOption.getD default, ?_⟩
    have hround : ∀ x ∈ xs, f x = .ok ((f x).toOption.getD default) := by
      intro x hx
      obtain ⟨y, hy⟩ := exists_of_mapM_eq_ok h x hx
      rw [hy]
      rfl
    rw [mapM_of_forall hround] at h
    exact ⟨hround, (Except.ok.inj h).symm⟩
  · rintro ⟨g, hg, rfl⟩
    exact mapM_of_forall hg

/-- The results of a loop stand next to the items that they are made of. -/
theorem forall₂_of_mapM_eq_ok [Inhabited β] {R : α → β → Prop}
    (hround : ∀ x ∈ xs, ∀ y, f x = .ok y → R x y) {ys : List β} (h : xs.mapM f = .ok ys) :
    List.Forall₂ R xs ys := by
  obtain ⟨g, hg, rfl⟩ := mapM_eq_ok.mp h
  rw [List.forall₂_map_right_iff, List.forall₂_same]
  exact fun x hx => hround x hx (g x) (hg x hx)

/-- A loop whose rounds each finish in a value that is made of what they computed. -/
theorem mapM_return_eq_ok {γ : Type} [Inhabited γ] {f : α → Except Fault γ} {g : α → γ → β}
    {ys : List β} (h : (xs.mapM fun x => do return g x (← f x)) = .ok ys) :
    ∃ k : α → γ, (∀ x ∈ xs, f x = .ok (k x)) ∧ ys = xs.map fun x => g x (k x) := by
  -- the loop of the computations alone ends well too, and its results make up those of the other
  have hround : ∀ x ∈ xs, ∃ c, f x = .ok c := by
    intro x hx
    obtain ⟨y, hy⟩ := exists_of_mapM_eq_ok h x hx
    obtain ⟨c, hc, _⟩ := bind_eq_ok.mp hy
    exact ⟨c, hc⟩
  obtain ⟨cs, hcs⟩ := exists_mapM_eq_ok hround
  obtain ⟨k, hk, _⟩ := mapM_eq_ok.mp hcs
  refine ⟨k, hk, ?_⟩
  have hloop : (xs.mapM fun x => do return g x (← f x)) = .ok (xs.map fun x => g x (k x)) := by
    refine mapM_of_forall fun x hx => ?_
    rw [hk x hx]
    rfl
  exact Except.ok.inj (h.symm.trans hloop)

end ElixirClient

import ElixirClient.Proofs.Fault.Loops

/-!
# The fault that comes first

A computation that goes through several steps ends in the fault of the first step that has one, and
the steps behind it do not count. For a list this is `FirstOf`: the items in front end well, and
what is behind is not looked at (`mapM_eq_error`, `foldlM_eq_error`). For a sequence of steps whose
results are only put together in the end it is `seq_eq_error`.
-/

namespace ElixirClient

variable {α β : Type} {fault : Fault}

/-- The computation has a result. -/
def Succeeds (e : Except Fault α) : Prop := ∃ a, e = .ok a

/-- Some item of the list is `Bad`, and all items in front of it are `Good`. -/
def FirstOf (Good Bad : α → Prop) (xs : List α) : Prop :=
  ∃ before x behind, xs = before ++ x :: behind ∧ (∀ y ∈ before, Good y) ∧ Bad x

/-- An empty list has no first fault. With `firstOf_cons` this is the recursion by which lists are
walked below. -/
theorem not_firstOf_nil {Good Bad : α → Prop} : ¬ FirstOf Good Bad [] := by
  rintro ⟨before, x, behind, h, _⟩
  cases before <;> cases h

/-- The first item decides: it is bad, or it is good and the first bad one is behind it. -/
theorem firstOf_cons {Good Bad : α → Prop} {x : α} {xs : List α} :
    FirstOf Good Bad (x :: xs) ↔ Bad x ∨ Good x ∧ FirstOf Good Bad xs := by
  constructor
  · rintro ⟨before, y, behind, h, hgood, hbad⟩
    cases before with
    | nil =>
      cases h
      exact .inl hbad
    | cons z before =>
      cases h
      rw [List.forall_mem_cons] at hgood
      exact .inr ⟨hgood.1, before, y, behind, rfl, hgood.2, hbad⟩
  · rintro (hbad | ⟨hgood, before, y, behind, rfl, hbefore, hbad⟩)
    · exact ⟨[], x, xs, rfl, nofun, hbad⟩
    · exact ⟨x :: before, y, behind, rfl, List.forall_mem_cons.mpr ⟨hgood, hbefore⟩, hbad⟩

/-- The second list only counts where all items of the first one are good. -/
theorem firstOf_append {Good Bad : α → Prop} {xs ys : List α} :
    FirstOf Good Bad (xs ++ ys) ↔ FirstOf Good Bad xs ∨ (∀ x ∈ xs, Good x) ∧ FirstOf Good Bad ys := by
  induction xs with
  | nil => simp [not_firstOf_nil]
  | cons x rest ih =>
    rw [List.cons_append, firstOf_cons, firstOf_cons, ih, List.forall_mem_cons, and_or_left, or_assoc,
      and_assoc]

/-- A step on its own is a list of one, so that it can stand between loops. -/
theorem firstOf_singleton {Good Bad : α → Prop} {x : α} : FirstOf Good Bad [x] ↔ Bad x := by
  rw [firstOf_cons]
  exact or_iff_left fun h => not_firstOf_nil h.2

/-- In lists put together, the first one is in the first list that has one. -/
theorem firstOf_flatMap {Good Bad : β → Prop} {f : α → List β} {xs : List α} :
    FirstOf Good Bad (xs.flatMap f) ↔
      FirstOf (fun x => ∀ y ∈ f x, Good y) (fun x => FirstOf Good Bad (f x)) xs := by
  induction xs with
  | nil => exact iff_of_false not_firstOf_nil not_firstOf_nil
  | cons x rest ih => rw [List.flatMap_cons, firstOf_append, firstOf_cons, ih]

theorem FirstOf.imp {Good Bad Bad' : α → Prop} {xs : List α} (h : FirstOf Good Bad xs)
    (hbad : ∀ x ∈ xs, Bad x → Bad' x) : FirstOf Good Bad' xs := by
  obtain ⟨before, x, behind, rfl, hbefore, hx⟩ := h
  exact ⟨before, x, behind, rfl, hbefore, hbad x List.mem_append_cons_self hx⟩

/-- Two of one list that are both first are one item. -/
theorem FirstOf.exists_both {Good Bad Bad' : α → Prop} {xs : List α}
    (hbad : ∀ x, Bad x → ¬ Good x) (hbad' : ∀ x, Bad' x → ¬ Good x)
    (h : FirstOf Good Bad xs) (h' : FirstOf Good Bad' xs) : ∃ x, Bad x ∧ Bad' x := by
  induction xs with
  | nil => exact absurd h not_firstOf_nil
  | cons x rest ih =>
    -- the two lists are walked together: an item that is bad for one is good for neither
    rcases firstOf_cons.mp h with hx | ⟨hgood, hrest⟩
    · rcases firstOf_cons.mp h' with hx' | ⟨hgood, _⟩
      · exact ⟨x, hx, hx'⟩
      · exact absurd hgood (hbad x hx)
    · rcases firstOf_cons.mp h' with hx' | ⟨_, hrest'⟩
      · exact absurd hgood (hbad' x hx')
      · exact ih hrest hrest'

/-! ## Steps -/

/-- A fault of two steps is one of the first step, or one of the second after the first went
well. -/
theorem bind_eq_error {e : Except Fault α} {next : α → Except Fault β} :
    e >>= next = .error fault ↔ e = .error fault ∨ ∃ a, e = .ok a ∧ next a = .error fault := by
  cases e with
  | error other =>
    constructor
    · intro h
      exact .inl (congrArg Except.error (Except.error.inj h))
    · rintro (h | ⟨a, h, _⟩)
      · exact congrArg Except.error (Except.error.inj h)
      · cases h
  | ok a =>
    constructor
    · intro h
      exact .inr ⟨a, rfl, h⟩
    · rintro (h | ⟨b, h, hb⟩)
      · cases h
      · cases h
        exact hb

/-- Where it does not depend on the result of a step how the rest goes, the step comes first. -/
theorem seq_eq_error {e : Except Fault α} {next : α → Except Fault β} {P : Prop}
    (h : ∀ a, e = .ok a → (next a = .error fault ↔ P)) :
    e >>= next = .error fault ↔ e = .error fault ∨ Succeeds e ∧ P := by
  rw [bind_eq_error]
  refine or_congr_right ?_
  constructor
  · rintro ⟨a, ha, hnext⟩
    exact ⟨⟨a, ha⟩, (h a ha).mp hnext⟩
  · rintro ⟨⟨a, ha⟩, hP⟩
    exact ⟨a, ha, (h a ha).mpr hP⟩

/-- A step that does not end in this fault is over before the rest begins. -/
theorem seq_eq_error_of_ne {e : Except Fault α} {next : α → Except Fault β} {P : Prop}
    (hne : e ≠ .error fault) (h : ∀ a, e = .ok a → (next a = .error fault ↔ P)) :
    e >>= next = .error fault ↔ Succeeds e ∧ P :=
  (seq_eq_error h).trans (or_iff_right hne)

theorem map_eq_error {e : Except Fault α} {f : α → β} :
    f <$> e = .error fault ↔ e = .error fault := by
  cases e with
  | error other =>
    exact ⟨fun h => congrArg _ (Except.error.inj h), fun h => congrArg _ (Except.error.inj h)⟩
  | ok a => exact ⟨nofun, nofun⟩

/-- As `seq_eq_error`: where the second step goes well is said without the first one's result. -/
theorem succeeds_seq {e : Except Fault α} {next : α → Except Fault β} {P : Prop}
    (h : ∀ a, e = .ok a → (Succeeds (next a) ↔ P)) :
    Succeeds (e >>= next) ↔ Succeeds e ∧ P := by
  constructor
  · rintro ⟨b, hb⟩
    obtain ⟨a, ha, hnext⟩ := bind_eq_ok.mp hb
    exact ⟨⟨a, ha⟩, (h a ha).mp ⟨b, hnext⟩⟩
  · rintro ⟨⟨a, ha⟩, hP⟩
    obtain ⟨b, hb⟩ := (h a ha).mpr hP
    exact ⟨b, bind_eq_ok.mpr ⟨a, ha, hb⟩⟩

/-- What is done with a result in the end has no fault of its own. -/
theorem bind_ok_eq_error {e : Except Fault α} {f : α → β} :
    (e >>= fun a => .ok (f a)) = .error fault ↔ e = .error fault := by
  rw [bind_eq_error]
  refine or_iff_left ?_
  rintro ⟨a, _, h⟩
  cases h

theorem succeeds_bind_ok {e : Except Fault α} {f : α → β} :
    Succeeds (e >>= fun a => .ok (f a)) ↔ Succeeds e :=
  (succeeds_seq fun _ _ => iff_true_intro ⟨_, rfl⟩).trans (and_iff_left trivial)

/-- Only what has no elements at all fails, and always in the same way. -/
theorem Json.elements_eq_error {value : Json} :
    value.elements = .error fault ↔ fault = .wrongKind ∧ value.elements? = none := by
  unfold Json.elements
  cases value.elements? with
  | none => exact ⟨fun h => ⟨(Except.error.inj h).symm, rfl⟩, fun h => congrArg _ h.1.symm⟩
  | some items => exact ⟨nofun, nofun⟩

/-- Reads what a value goes through, item by item. -/
def readEach (read : Json → Except Fault α) (value : Json) : Except Fault (List α) := do
  (← value.elements).mapM read

/-! ## Loops -/

/-- A loop over a list has the fault of the first item that has one, and what follows is not
reached. -/
theorem mapM_eq_error {f : α → Except Fault β} {xs : List α} :
    xs.mapM f = .error fault ↔ FirstOf (fun x => Succeeds (f x)) (fun x => f x = .error fault) xs := by
  induction xs with
  | nil => exact ⟨nofun, fun h => absurd h not_firstOf_nil⟩
  | cons x rest ih =>
    rw [List.mapM_cons, firstOf_cons, ← ih]
    -- how the rest of the loop ends does not depend on what this item gave
    refine seq_eq_error fun y _ => ?_
    exact bind_ok_eq_error

/-- As `mapM_eq_error` for a loop with an accumulator, as long as the accumulator has no say in
which items fail. -/
theorem foldlM_eq_error {f : β → α → Except Fault β} {Good Bad : α → Prop}
    (hgood : ∀ b x, Succeeds (f b x) ↔ Good x) (hbad : ∀ b x, f b x = .error fault ↔ Bad x)
    {xs : List α} {start : β} :
    xs.foldlM f start = .error fault ↔ FirstOf Good Bad xs := by
  induction xs generalizing start with
  | nil => exact ⟨nofun, fun h => absurd h not_firstOf_nil⟩
  | cons x rest ih =>
    rw [List.foldlM_cons, firstOf_cons, ← hbad start x, ← hgood start x]
    exact seq_eq_error fun next _ => ih

/-- A list that is read item by item fails as no list, or in its first item that fails. -/
theorem readEach_eq_error {read : Json → Except Fault α} {value : Json} :
    readEach read value = .error fault ↔
      (fault = .wrongKind ∧ value.elements? = none) ∨ ∃ items, value.elements? = some items ∧
        FirstOf (fun item => Succeeds (read item)) (fun item => read item = .error fault) items := by
  rw [readEach, bind_eq_error, Json.elements_eq_error]
  simp only [Json.elements_eq_ok, mapM_eq_error]

end ElixirClient

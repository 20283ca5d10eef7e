import Mathlib.Data.List.Basic
import ElixirClient.Fault

/-!
# Where faults come from

`Confined P e`: whenever `e` ends in a fault, that fault has the property `P`. The steps of
rendering are built from `bind`, `map`, `mapM` and `foldlM`, and confinement goes through each of
these, so a property of all faults of a step follows from the faults of its leaves.

`Unattributed` is the property that isolation of failures rests on: a dangling reference that comes
out of resolving names no artifact yet, so the run is free to name the one that it leaves out.
-/

namespace ElixirClient

variable {α β : Type} {P : Fault → Prop}

/-- Every fault of `e` has the property `P`. -/
def Confined (P : Fault → Prop) (e : Except Fault α) : Prop := ∀ fault, e = .error fault → P fault

namespace Confined

theorem ok (a : α) : Confined P (.ok a) := by
  intro fault h
  cases h

theorem error {fault : Fault} (h : P fault) : Confined P (.error fault : Except Fault α) := by
  intro other hother
  cases hother
  exact h

/-- What is shown of faults in one place may be used where less is asked of them. -/
theorem mono {Q : Fault → Prop} {e : Except Fault α} (he : Confined P e)
    (h : ∀ fault, P fault → Q fault) : Confined Q e :=
  fun fault hfault => h fault (he fault hfault)

/-- The faults of two steps are those of the first and those of the second. The second is looked at
only for values that the first can give. -/
theorem bind {e : Except Fault α} {next : α → Except Fault β} (he : Confined P e)
    (hnext : ∀ a, e = .ok a → Confined P (next a)) : Confined P (e >>= next) := by
  cases e with
  | error fault => exact error (he fault rfl)
  | ok a => exact hnext a rfl

theorem map {e : Except Fault α} (he : Confined P e) (f : α → β) : Confined P (f <$> e) := by
  cases e with
  | error fault => exact error (he fault rfl)
  | ok a => exact ok (f a)

theorem mapM {f : α → Except Fault β} {xs : List α} (h : ∀ x ∈ xs, Confined P (f x)) :
    Confined P (xs.mapM f) := by
  induction xs with
  | nil => exact ok []
  | cons x rest ih =>
    rw [List.mapM_cons]
    refine (h x List.mem_cons_self).bind fun y _ => ?_
    exact (ih fun z hz => h z (List.mem_cons_of_mem x hz)).bind fun ys _ => ok (y :: ys)

theorem foldlM {f : β → α → Except Fault β} {xs : List α}
    (h : ∀ b, ∀ x ∈ xs, Confined P (f b x)) (b : β) : Confined P (xs.foldlM f b) := by
  induction xs generalizing b with
  | nil => exact ok b
  | cons x rest ih =>
    rw [List.foldlM_cons]
    refine (h b x List.mem_cons_self).bind fun c _ => ?_
    exact ih (fun d y hy => h d y (List.mem_cons_of_mem x hy)) c

/-- Sorting has one fault: items that cannot be compared. -/
theorem orderly (h : P .wrongKind) (sorted : Option α) : Confined P (orderly sorted) := by
  cases sorted with
  | none => exact error h
  | some items => exact ok items

end Confined

/-- A fault that lays no dangling reference to the charge of an artifact. -/
def Fault.Unattributed (fault : Fault) : Prop :=
  ∀ cause, fault = .dangling cause → cause.artifact = none

@[simp] theorem Fault.unattributed_dangling (cause : Dangling) :
    (Fault.dangling cause).Unattributed ↔ cause.artifact = none := by
  constructor
  · intro h
    exact h cause rfl
  · intro h other hother
    cases hother
    exact h

/-- Any fault but a dangling reference is unattributed. -/
theorem Fault.unattributed_of_ne {fault : Fault} (h : ∀ cause, fault ≠ .dangling cause) :
    fault.Unattributed :=
  fun cause hcause => absurd hcause (h cause)

end ElixirClient

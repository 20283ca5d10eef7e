import ElixirClient.Proofs.Session.Isolation

/-!
# Faults that end a run

`FaultsWithin P step`: on whatever trace the step is run, a fault that ends it has the property `P`.
It goes through the pieces that a run is made of as `Confined` goes through computations. What sets
the two apart is `FaultsWithin.recording`: a dangling reference does not get out of it.
-/

namespace ElixirClient

/-- A reference to a schema that is not there. -/
def Fault.IsDangling (fault : Fault) : Prop := ∃ cause, fault = .dangling cause

namespace Render

variable {α β : Type} {P : Fault → Prop}

/-- Every fault that the step ends in has the property `P`. -/
def FaultsWithin (P : Fault → Prop) (step : Render α) : Prop :=
  ∀ t, Confined P (step.run.run t).1

namespace FaultsWithin

theorem pure (a : α) : FaultsWithin P (Pure.pure a) := fun _ => .ok a

theorem ofExcept {e : Except Fault α} (h : Confined P e) : FaultsWithin P (ofExcept e) := by
  intro t
  rw [run_ofExcept]
  exact h

theorem log (level : Level) (logger : Logger) (message : String) :
    FaultsWithin P (log level logger message) := by
  intro t
  rw [run_log]
  exact .ok ()

/-- The step that comes next is run on what the first one came to. -/
theorem bind {step : Render α} {next : α → Render β} (hstep : FaultsWithin P step)
    (hnext : ∀ a t t', step.run.run t = (.ok a, t') → FaultsWithin P (next a)) :
    FaultsWithin P (step >>= next) := by
  intro t
  rw [run_bind]
  rcases h : step.run.run t with ⟨fault | a, t'⟩
  · have hfault := hstep t
    rw [h] at hfault
    exact .error (hfault fault rfl)
  · exact hnext a t t' h t'

/-- The rest of a loop runs on the trace that the first step leaves, and its faults are bounded on
any trace. -/
theorem mapM {f : α → Render β} {xs : List α} (h : ∀ x ∈ xs, FaultsWithin P (f x)) :
    FaultsWithin P (xs.mapM f) := by
  induction xs with
  | nil => exact pure []
  | cons x rest ih =>
    rw [List.mapM_cons]
    refine (h x List.mem_cons_self).bind fun y _ _ _ => ?_
    exact (ih fun z hz => h z (List.mem_cons_of_mem x hz)).bind fun ys _ _ _ => pure (y :: ys)

/-- A dangling reference stays inside of the recording. -/
theorem recording {outcome : Except Fault α}
    (h : Confined (fun fault => fault.IsDangling ∨ P fault) outcome) (artifact : String) :
    FaultsWithin P (recording artifact (Render.ofExcept outcome)) := by
  intro t
  rw [run_recording, run_ofExcept]
  cases outcome with
  | ok a => exact .ok (some a)
  | error fault =>
    cases fault with
    | dangling cause => exact .ok none
    | _ =>
      refine .error ((h _ rfl).resolve_left ?_)
      rintro ⟨cause, hcause⟩
      cases hcause

end FaultsWithin

end Render

end ElixirClient

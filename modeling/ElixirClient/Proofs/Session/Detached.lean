import Mathlib.Data.List.Basic
import ElixirClient.Session

/-!
# Steps that only add to the trace

A rendering step runs on the trace of everything before it. `Detached` says that a step does not
look at that trace: from any trace it ends as it does from the empty one, and what it leaves behind
comes after what was there. The failures of one artifact can then not change the outcome of another,
and a run is accounted for step by step:

* `run_bind`, `run_recording` and their companions run a step on a given trace;
* `Detached.bind`, `Detached.recording` and `Detached.mapM` build detached steps;
* `fresh_mapM` and `failures_mapM` read off a loop what each of its rounds does on its own.
-/

namespace ElixirClient

instance : Append Trace := ⟨fun s t => ⟨s.failures ++ t.failures, s.log ++ t.log⟩⟩

namespace Trace

@[simp] theorem failures_append (s t : Trace) : (s ++ t).failures = s.failures ++ t.failures := rfl

@[simp] theorem log_append (s t : Trace) : (s ++ t).log = s.log ++ t.log := rfl

@[simp] theorem append_empty (t : Trace) : t ++ ({} : Trace) = t := by
  show Trace.mk _ _ = _
  rw [List.append_nil, List.append_nil]

@[simp] theorem empty_append (t : Trace) : ({} : Trace) ++ t = t := rfl

theorem append_assoc (s t u : Trace) : s ++ t ++ u = s ++ (t ++ u) := by
  show Trace.mk _ _ = Trace.mk _ _
  rw [failures_append, log_append, failures_append, log_append, List.append_assoc,
    List.append_assoc]

end Trace

namespace Render

variable {α β : Type}

/-- How a step ends on an empty trace. -/
def fresh (step : Render α) : Except Fault α := (step.run.run {}).1

/-- What a step leaves behind on an empty trace. -/
def leaves (step : Render α) : Trace := (step.run.run {}).2

/-! ## Running steps -/

@[simp] theorem run_pure (a : α) (t : Trace) : (pure a : Render α).run.run t = (.ok a, t) := rfl

@[simp] theorem run_throw (fault : Fault) (t : Trace) :
    (throw fault : Render α).run.run t = (.error fault, t) := rfl

@[simp] theorem run_ofExcept (e : Except Fault α) (t : Trace) :
    (ofExcept e).run.run t = (e, t) := by
  cases e <;> rfl

@[simp] theorem run_log (level : Level) (logger : Logger) (message : String) (t : Trace) :
    (log level logger message).run.run t = (.ok (), t ++ ⟨[], [⟨level, logger, message⟩]⟩) := by
  show (Except.ok (), Trace.mk _ _) = (Except.ok (), Trace.mk _ _)
  rw [List.append_nil]

/-- What comes first may have failed, and the trace that it has left is kept even so. -/
theorem run_bind (step : Render α) (next : α → Render β) (t : Trace) :
    (step >>= next).run.run t =
      match step.run.run t with
      | (.ok a, t') => (next a).run.run t'
      | (.error fault, t') => (.error fault, t') := by
  rw [ExceptT.run_bind, StateT.run_bind]
  -- a fault or a value, with the trace behind either
  rcases h : step.run.run t with ⟨fault | a, t'⟩ <;> rfl

/-- Handling a fault begins on the trace that the fault has left, not on the one before. -/
theorem run_tryCatch (step : Render α) (handle : Fault → Render α) (t : Trace) :
    (tryCatch step handle).run.run t =
      match step.run.run t with
      | (.ok a, t') => (.ok a, t')
      | (.error fault, t') => (handle fault).run.run t' := by
  -- the two layers of the monad are opened here and in `run_bind`, and nowhere else
  show (ExceptT.tryCatch step handle).run.run t = _
  unfold ExceptT.run StateT.run ExceptT.tryCatch ExceptT.mk
  simp only [bind, StateT.bind]
  rcases step t with ⟨fault | a, t'⟩ <;> rfl

/-- What is left behind where an artifact is left out: the failure, and a line about it. -/
def omission (dangling : Dangling) (artifact : String) : Trace :=
  let failure := dangling.attributedTo artifact
  ⟨[failure], [⟨.warning, .state, "Skipping " ++ failure.message⟩]⟩

/-- Leaving an artifact out records a failure and a warning. -/
theorem run_leaveOut (dangling : Dangling) (artifact : String) (t : Trace) :
    (leaveOut dangling artifact).run.run t = (.ok (), t ++ omission dangling artifact) := by
  unfold leaveOut
  rw [run_bind, run_log]
  show (Except.ok (), Trace.mk _ _) = (Except.ok (), Trace.mk _ _)
  rw [Trace.failures_append, List.append_nil]
  rfl

/-- The three ways in which recording ends. Only a dangling reference is turned into a failure; any
other fault goes on. -/
theorem run_recording (artifact : String) (step : Render α) (t : Trace) :
    (recording artifact step).run.run t =
      match step.run.run t with
      | (.ok a, t') => (.ok (some a), t')
      | (.error (.dangling dangling), t') => (.ok none, t' ++ omission dangling artifact)
      | (.error fault, t') => (.error fault, t') := by
  unfold recording
  rw [run_tryCatch, ← bind_pure_comp, run_bind]
  rcases step.run.run t with ⟨fault | a, t'⟩
  -- only the fault of a dangling reference is handled
  · cases fault with
    | dangling dangling =>
      simp only
      rw [run_bind, run_leaveOut]
      rfl
    | _ => rfl
  · rfl

/-! ## Detached steps -/

/-- The step ends in the same way on every trace and only adds to it. -/
def Detached (step : Render α) : Prop :=
  ∀ t, step.run.run t = (step.fresh, t ++ step.leaves)

@[simp] theorem fresh_ofExcept (e : Except Fault α) : (ofExcept e).fresh = e := by
  rw [fresh, run_ofExcept]

@[simp] theorem leaves_ofExcept (e : Except Fault α) : (ofExcept e).leaves = {} := by
  rw [leaves, run_ofExcept]

/-- On its own, a step in two parts is its first part on its own and then its second. -/
theorem fresh_bind {step : Render α} {next : α → Render β} (hnext : ∀ a, Detached (next a)) :
    (step >>= next).fresh = step.fresh >>= fun a => (next a).fresh := by
  unfold fresh
  rw [run_bind]
  rcases step.run.run {} with ⟨fault | a, t⟩
  · rfl
  · simp only
    rw [hnext a t]
    rfl

/-- What is left behind is left by the first part, and by the second if it is reached. -/
theorem leaves_bind {step : Render α} {next : α → Render β} (hnext : ∀ a, Detached (next a)) :
    (step >>= next).leaves =
      match step.fresh with
      | .ok a => step.leaves ++ (next a).leaves
      | .error _ => step.leaves := by
  unfold leaves fresh
  rw [run_bind]
  rcases step.run.run {} with ⟨fault | a, t⟩
  · rfl
  · simp only
    rw [hnext a t]
    rfl

namespace Detached

theorem pure (a : α) : Detached (Pure.pure a) := by
  intro t
  show _ = (_, t ++ ({} : Trace))
  rw [Trace.append_empty]
  rfl

theorem ofExcept (e : Except Fault α) : Detached (ofExcept e) := by
  intro t
  rw [run_ofExcept, fresh_ofExcept, leaves_ofExcept, Trace.append_empty]

theorem throw (fault : Fault) : Detached (throw fault : Render α) := ofExcept (.error fault)

theorem log (level : Level) (logger : Logger) (message : String) :
    Detached (log level logger message) := by
  intro t
  rw [leaves, fresh, run_log, run_log, Trace.empty_append]

/-- The second part starts on what the first has left, and being detached it only adds to that. -/
theorem bind {step : Render α} {next : α → Render β} (hstep : Detached step)
    (hnext : ∀ a, Detached (next a)) : Detached (step >>= next) := by
  intro t
  rw [run_bind, hstep t, fresh_bind hnext, leaves_bind hnext]
  cases step.fresh with
  | error fault => rfl
  | ok a =>
    show (next a).run.run _ = ((next a).fresh, _)
    rw [hnext a, Trace.append_assoc]

/-- Leaving an artifact out does not depend on what was left out before. -/
theorem recording {step : Render α} (hstep : Detached step) (artifact : String) :
    Detached (recording artifact step) := by
  intro t
  rw [leaves, fresh, run_recording, run_recording, hstep t, hstep {}]
  -- only a dangling reference adds something, and it adds it behind what the step left
  cases step.fresh with
  | ok a => rfl
  | error fault =>
    cases fault with
    | dangling dangling =>
      simp only
      rw [Trace.append_assoc, Trace.append_assoc, Trace.empty_append]
    | _ => rfl

theorem mapM {f : α → Render β} (hf : ∀ x, Detached (f x)) (xs : List α) :
    Detached (xs.mapM f) := by
  induction xs with
  | nil => exact pure []
  | cons x rest ih =>
    rw [List.mapM_cons]
    exact (hf x).bind fun y => ih.bind fun ys => pure (y :: ys)

end Detached

/-! ## What a loop does, round by round -/

theorem fresh_mapM {f : α → Render β} (hf : ∀ x, Detached (f x)) (xs : List α) :
    (xs.mapM f).fresh = xs.mapM fun x => (f x).fresh := by
  induction xs with
  | nil => rfl
  | cons x rest ih =>
    -- what follows the first round is detached, so it may as well start on an empty trace
    have hrest (y : β) : Detached (do return y :: (← rest.mapM f)) :=
      (Detached.mapM hf rest).bind fun ys => .pure (y :: ys)
    rw [List.mapM_cons, List.mapM_cons, fresh_bind hrest]
    congr 1
    funext y
    rw [fresh_bind fun ys => .pure (y :: ys), ih]
    rfl

/-- A loop that ends well leaves the failures of its rounds, in their order. -/
theorem failures_mapM {f : α → Render β} (hf : ∀ x, Detached (f x)) {xs : List α} {ys : List β}
    (h : (xs.mapM f).fresh = .ok ys) :
    (xs.mapM f).leaves.failures = xs.flatMap fun x => (f x).leaves.failures := by
  induction xs generalizing ys with
  | nil => rfl
  | cons x rest ih =>
    have hrest (y : β) : Detached (do return y :: (← rest.mapM f)) :=
      (Detached.mapM hf rest).bind fun ys => .pure (y :: ys)
    rw [List.mapM_cons, fresh_bind hrest] at h
    rw [List.mapM_cons, leaves_bind hrest, List.flatMap_cons]
    -- a fault in the first round or in the rest would have been the end of the whole loop
    cases hx : (f x).fresh with
    | error fault =>
      rw [hx] at h
      cases h
    | ok y =>
      rw [hx] at h
      replace h : (do return y :: (← rest.mapM f) : Render (List β)).fresh = .ok ys := h
      rw [fresh_bind fun ys => .pure (y :: ys)] at h
      simp only
      rw [Trace.failures_append, leaves_bind fun ys => .pure (y :: ys)]
      cases hys : (rest.mapM f).fresh with
      | error fault =>
        rw [hys] at h
        cases h
      | ok zs =>
        simp only
        rw [Trace.failures_append, ih hys]
        show _ ++ (_ ++ []) = _
        rw [List.append_nil]

end Render

end ElixirClient

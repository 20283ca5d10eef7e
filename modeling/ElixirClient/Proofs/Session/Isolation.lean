import ElixirClient.Proofs.Fault.Confined
import ElixirClient.Proofs.Fault.Loops
import ElixirClient.Proofs.Session.Detached

/-!
# Leaving artifacts out

An artifact is either rendered or left out because of one dangling reference (`Settled`); any other
fault ends the run. `fresh_recording_eq_ok` and `failures_recording` say what recording makes of
these outcomes: an artifact or nothing, and no failure or one that names the artifact.
`run_mapM_eq_ok` collects both over a loop.
-/

namespace ElixirClient.Render

variable {α β : Type}

/-- An artifact, or a dangling reference that is not laid to the charge of any artifact yet. -/
def Settled (outcome : Except Fault α) : Prop :=
  (∃ artifact, outcome = .ok artifact) ∨ ∃ ref, outcome = .error (.dangling ⟨ref, none⟩)

/-- The reference that an artifact is left out for. -/
def missing? : Except Fault α → Option Json
  | .error (.dangling dangling) => some dangling.reference
  | _ => none

/-- The failure that is recorded for an artifact of the given name. -/
def failure? (artifact : String) (outcome : Except Fault α) : Option Dangling :=
  (missing? outcome).map fun ref => ⟨ref, some artifact⟩

variable {outcome : Except Fault α} {artifact : String}

/-- Recording goes on exactly if the outcome is settled, with the artifact if there is one. -/
theorem fresh_recording_eq_ok (hfaults : Confined Fault.Unattributed outcome) {out : Option α} :
    (recording artifact (ofExcept outcome)).fresh = .ok out ↔
      Settled outcome ∧ out = outcome.toOption := by
  rw [fresh, run_recording, run_ofExcept]
  -- an artifact, a reference that becomes a failure, or a fault that goes on
  cases outcome with
  | ok a =>
    constructor
    · intro h
      exact ⟨.inl ⟨a, rfl⟩, (Except.ok.inj h).symm⟩
    · rintro ⟨_, rfl⟩
      rfl
  | error fault =>
    cases fault with
    | dangling dangling =>
      have hnone : dangling.artifact = none := (Fault.unattributed_dangling _).mp (hfaults _ rfl)
      obtain ⟨ref, owner⟩ := dangling
      cases hnone
      constructor
      · intro h
        exact ⟨.inr ⟨ref, rfl⟩, (Except.ok.inj h).symm⟩
      · rintro ⟨_, rfl⟩
        rfl
    | _ =>
      constructor
      · intro h
        cases h
      · rintro ⟨⟨_, h⟩ | ⟨_, h⟩, _⟩ <;> cases h

theorem failures_recording (hfaults : Confined Fault.Unattributed outcome) :
    (recording artifact (ofExcept outcome)).leaves.failures =
      (failure? artifact outcome).toList := by
  rw [leaves, run_recording, run_ofExcept]
  cases outcome with
  | ok a => rfl
  | error fault =>
    cases fault with
    | dangling dangling =>
      -- a reference that named an artifact already would keep that name
      have hnone : dangling.artifact = none := (Fault.unattributed_dangling _).mp (hfaults _ rfl)
      obtain ⟨ref, owner⟩ := dangling
      cases hnone
      rfl
    | _ => rfl

/-! ## Running to a result -/

/-- A run that ends well has ended well in both of its parts, the second on the trace that the first
has left. -/
theorem run_bind_eq_ok {step : Render α} {next : α → Render β} {t t'' : Trace} {b : β}
    (h : (step >>= next).run.run t = (.ok b, t'')) :
    ∃ a t', step.run.run t = (.ok a, t') ∧ (next a).run.run t' = (.ok b, t'') := by
  rw [run_bind] at h
  -- a first part that fails is the end of the run
  rcases hstep : step.run.run t with ⟨fault | a, t'⟩
  · rw [hstep] at h
    cases h
  · rw [hstep] at h
    exact ⟨a, t', rfl, h⟩

theorem run_ofExcept_eq {e outcome : Except Fault α} {t t' : Trace} :
    (ofExcept e).run.run t = (outcome, t') ↔ e = outcome ∧ t' = t := by
  rw [run_ofExcept, Prod.mk.injEq, eq_comm (a := t)]

/-- A loop of detached rounds that ends well: its rounds do, and their failures come in order behind
those that were there. -/
theorem run_mapM_eq_ok [Inhabited β] {f : α → Render β} (hf : ∀ x, Detached (f x)) {xs : List α}
    {ys : List β} {t t' : Trace} (h : (xs.mapM f).run.run t = (.ok ys, t')) :
    ∃ g : α → β, (∀ x ∈ xs, (f x).fresh = .ok (g x)) ∧ ys = xs.map g ∧
      t'.failures = t.failures ++ xs.flatMap fun x => (f x).leaves.failures := by
  rw [Detached.mapM hf xs t] at h
  have hfresh : (xs.mapM f).fresh = .ok ys := congrArg Prod.fst h
  have ht' : t' = t ++ (xs.mapM f).leaves := (congrArg Prod.snd h).symm
  -- the end on an empty trace is needed twice: for the rounds and for their failures
  have hrounds := hfresh
  rw [fresh_mapM hf, mapM_eq_ok] at hrounds
  obtain ⟨g, hg, hys⟩ := hrounds
  exact ⟨g, hg, hys, by rw [ht', Trace.failures_append, failures_mapM hf hfresh]⟩

end ElixirClient.Render

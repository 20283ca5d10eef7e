import Mathlib.Data.List.Basic
import ElixirClient.Proofs.Session.Detached

/-!
# Steps side by side

Two steps are `Parallel` if, begun on the same trace, they leave the same trace behind and end in
the same fault or in results that are related. They may look at the trace, as both find the same one.
Sequences and loops of parallel steps are parallel: `Parallel.bind` hands on what relates the results
of the first steps, and `Parallel.mapM` carries an invariant through the rounds of two loops.
-/

namespace ElixirClient.Render

variable {α α' β β' ι : Type}

/-- Two ends that leave the same trace, in the same fault or in related results. -/
inductive Alike (R : α → α' → Prop) : Except Fault α × Trace → Except Fault α' × Trace → Prop
  | fault (fault : Fault) (t : Trace) : Alike R (.error fault, t) (.error fault, t)
  | result {a : α} {a' : α'} (h : R a a') (t : Trace) : Alike R (.ok a, t) (.ok a', t)

/-- The steps end alike from every trace. -/
def Parallel (R : α → α' → Prop) (step : Render α) (step' : Render α') : Prop :=
  ∀ t, Alike R (step.run.run t) (step'.run.run t)

namespace Parallel

variable {R : α → α' → Prop} {S : β → β' → Prop} {step : Render α} {step' : Render α'}

theorem pure {a : α} {a' : α'} (h : R a a') : Parallel R (Pure.pure a) (Pure.pure a') :=
  fun t => .result h t

theorem throw (fault : Fault) : Parallel R (throw fault) (throw fault) := fun t => .fault fault t

theorem refl (step : Render α) : Parallel Eq step step := by
  intro t
  rcases step.run.run t with ⟨fault | a, t'⟩
  · exact .fault fault t'
  · exact .result rfl t'

/-- A computation that does not touch the trace; besides being equal, the results are what it has
computed. -/
theorem ofExcept (outcome : Except Fault α) :
    Parallel (fun a a' => outcome = .ok a ∧ a = a') (ofExcept outcome) (ofExcept outcome) := by
  intro t
  rw [run_ofExcept]
  cases outcome with
  | error fault => exact .fault fault t
  | ok a => exact .result ⟨rfl, rfl⟩ t

/-- Whatever is made of an artifact, it is left out where the artifact is. -/
theorem recording_map (outcome : Except Fault α) (f : α → α') (artifact : String) :
    Parallel (fun out out' => out = outcome.toOption ∧ out' = outcome.toOption.map f)
      (recording artifact (Render.ofExcept outcome))
      (recording artifact (Render.ofExcept (f <$> outcome))) := by
  intro t
  rw [run_recording, run_recording, run_ofExcept, run_ofExcept]
  cases outcome with
  | ok a => exact .result ⟨rfl, rfl⟩ t
  | error fault =>
    cases fault with
    | dangling dangling => exact .result ⟨rfl, rfl⟩ _
    | _ => exact .fault _ t

theorem bind {next : α → Render β} {next' : α' → Render β'} (h : Parallel R step step')
    (hnext : ∀ a a', R a a' → Parallel S (next a) (next' a')) :
    Parallel S (step >>= next) (step' >>= next') := by
  intro t
  have hends := h t
  rw [run_bind, run_bind]
  -- both begin on one trace, and end on one if the first parts do
  generalize step.run.run t = ends, step'.run.run t = ends' at hends
  cases hends with
  | fault fault t' => exact .fault fault t'
  | result hresult t' => exact hnext _ _ hresult t'

/-- The loop rule: an invariant that two rounds keep is kept by the loops. Induction on the list,
with the first round in front of what the loops make of the rest. -/
theorem mapM {I : List ι → List β → List β' → Prop} {f : ι → Render β} {f' : ι → Render β'}
    {round : ι → β → β' → Prop} (hrounds : ∀ x, Parallel (round x) (f x) (f' x)) (hnil : I [] [] [])
    (hcons : ∀ x y y' xs ys ys', round x y y' → I xs ys ys' → I (x :: xs) (y :: ys) (y' :: ys'))
    (xs : List ι) : Parallel (I xs) (xs.mapM f) (xs.mapM f') := by
  induction xs with
  | nil => exact pure hnil
  | cons x rest ih =>
    rw [List.mapM_cons, List.mapM_cons]
    refine (hrounds x).bind fun y y' hround => ih.bind fun ys ys' hrest => ?_
    exact pure (hcons x y y' rest ys ys' hround hrest)

end Parallel

end ElixirClient.Render

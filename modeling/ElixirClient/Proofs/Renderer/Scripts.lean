import ElixirClient.Proofs.Renderer.Layers
import ElixirClient.Proofs.Session.Detached
import ElixirClient.Renderer.Script

/-!
# Running scripts

Running a program goes through `bind`, through the calls of a step and through loops, so a default
script runs as the default step does (`method_default`). Layers of scripts around the default
steps are then scripts altogether: each step of a session runs the one that it is dispatched to
(`method_dispatched`).
-/

namespace ElixirClient

variable {α β : Type}

namespace Render

/-- Steps are the same if they run in the same way on every trace. -/
theorem ext {step step' : Render α} (h : ∀ t, step.run.run t = step'.run.run t) : step = step' :=
  funext h

theorem run_attempt (step : Render α) (t : Trace) :
    (attempt step).run.run t = (.ok (step.run.run t).1, (step.run.run t).2) := by
  unfold attempt
  rw [run_tryCatch, ← bind_pure_comp, run_bind]
  rcases step.run.run t with ⟨fault | a, t'⟩ <;> rfl

theorem attempt_bind_ofExcept (step : Render α) : attempt step >>= ofExcept = step := by
  refine ext fun t => ?_
  rw [run_bind, run_attempt]
  exact run_ofExcept _ _

end Render

namespace Program

variable {steps : Steps} {step : Step} {scope : Scope} {subject : step.Subject}

/-! ## Programs in sequence -/

theorem bind_done (p : Program α) : p >>= pure = p := by
  induction p with
  | done outcome => cases outcome <;> rfl
  | call step scope subject next ih => exact congrArg (Program.call step scope subject) (funext ih)
  | leaveOut dangling artifact next ih => exact congrArg (Program.leaveOut dangling artifact) ih

/-- What follows may be put together first. Programs are trees, and this goes down to their ends. -/
theorem bind_bind {γ : Type} (p : Program α) (f : α → Program β) (g : β → Program γ) :
    p >>= f >>= g = p >>= fun a => f a >>= g := by
  induction p with
  | done outcome => cases outcome <;> rfl
  | call step scope subject next ih => exact congrArg (Program.call step scope subject) (funext ih)
  | leaveOut dangling artifact next ih => exact congrArg (Program.leaveOut dangling artifact) ih

instance : LawfulMonad Program :=
  LawfulMonad.mk' Program bind_done (fun _ _ => rfl) bind_bind

theorem run_bind (p : Program α) (f : α → Program β) :
    (p >>= f).run steps = p.run steps >>= fun a => (f a).run steps := by
  induction p with
  | done outcome => cases outcome <;> rfl
  | call step scope subject next ih =>
    show (Render.attempt _ >>= fun outcome => (next outcome >>= f).run steps) = _
    rw [run, bind_assoc]
    exact congrArg _ (funext ih)
  | leaveOut dangling artifact next ih =>
    show (Render.leaveOut _ _ >>= fun _ => (next >>= f).run steps) = _
    rw [ih, run, bind_assoc]

theorem run_perform : (perform step scope subject).run steps = steps step scope subject :=
  Render.attempt_bind_ofExcept _

theorem run_perform_bind (f : step.Product → Program α) :
    (perform step scope subject >>= f).run steps =
      steps step scope subject >>= fun product => (f product).run steps := by
  rw [run_bind, run_perform]

/-- Recording as a program does what recording as a step does. A program sees the outcome of the
call, and only a dangling reference makes it leave the artifact out. -/
theorem run_recording (artifact : String) :
    (recording artifact step scope subject).run steps =
      Render.recording artifact (steps step scope subject) := by
  refine Render.ext fun t => ?_
  rw [recording, run, Render.run_bind, Render.run_attempt, Render.run_recording]
  rcases (steps step scope subject).run.run t with ⟨fault | product, t'⟩
  · cases fault with
    | dangling dangling =>
      simp only
      rw [run, Render.run_bind, Render.run_leaveOut]
      rfl
    | _ => rfl
  · rfl

theorem run_mapM (f : α → Program β) (xs : List α) :
    (xs.mapM f).run steps = xs.mapM fun x => (f x).run steps := by
  induction xs with
  | nil => rfl
  | cons x rest ih =>
    rw [List.mapM_cons, List.mapM_cons, run_bind]
    -- the first round is the same on both sides, and what comes after it is the induction
    refine congrArg _ (funext fun y => ?_)
    rw [run_bind, ih]
    rfl

end Program

/-! ## Scripts -/

namespace Script

/-- The default scripts run as the default steps do. -/
theorem method_default (step : Step) : (default step).method = (Renderer.default step).method := by
  funext steps scope subject
  show (default step scope subject).run steps = _
  -- only the steps that call others differ from a computation, and their programs run call by call
  cases step with
  | operations =>
    show _ = renderAllOperations (steps .operation) scope subject
    unfold renderAllOperations
    refine (Program.run_bind _ _).trans (congrArg _ (funext fun sorted => ?_))
    refine (Program.run_bind _ _).trans ?_
    rw [Program.run_mapM]
    refine congrArg (· >>= _) (congrArg sorted.mapM (funext fun operation => ?_))
    exact Program.run_recording _
  | operation =>
    show _ = renderOperationParts
      ⟨steps .operationDoc, steps .operationSpec, steps .operationFunction⟩ scope subject
    unfold renderOperationParts
    refine (Program.run_perform_bind _).trans (congrArg _ (funext fun doc => ?_))
    refine (Program.run_perform_bind _).trans (congrArg _ (funext fun signature => ?_))
    exact Program.run_perform_bind _
  | schema =>
    show _ = renderSchemaParts ⟨steps .schemaDoc, steps .schemaFields, steps .schemaTypes,
      steps .schemaDecoders⟩ scope subject
    unfold renderSchemaParts
    refine (Program.run_bind _ _).trans (congrArg _ (funext fun name => ?_))
    refine (Program.run_perform_bind _).trans (congrArg _ (funext fun doc => ?_))
    refine (Program.run_perform_bind _).trans (congrArg _ (funext fun fieldNames => ?_))
    refine (Program.run_perform_bind _).trans (congrArg _ (funext fun fieldTypes => ?_))
    exact Program.run_perform_bind _
  | _ => rfl

/-- The script that a step is dispatched to: that of the last layer which has one. -/
def dispatched (layers : List ScriptLayer) (step : Step) : Script step :=
  (mergeLayers layers step).getD (default step)

/-- Layers of scripts around the default steps give every step the script that it is dispatched to.
No step runs anything else. -/
theorem method_dispatched (layers : List ScriptLayer) (step : Step) :
    (Implementation.stacked (layers.map ScriptLayer.methods)).method step =
      (dispatched layers step).method := by
  -- a script becomes a method in the same way in every layer, so this may happen after the merge
  have hmerge : mergeLayers (layers.map ScriptLayer.methods) step =
      (mergeLayers layers step).map method :=
    mergeLayers_map (fun _ => method) layers step
  rw [Implementation.stacked, Implementation.method_foldl, hmerge, dispatched,
    Implementation.method, ← method_default]
  cases mergeLayers layers step <;> rfl

end Script

end ElixirClient

import Mathlib.Data.List.Basic
import ElixirClient.Renderer.Dispatch

/-!
# Layers

Layers around a renderer come to one layer, which has for each step the function of the last layer
that has one (`method_foldl`, and `Renderer.foldl_override` for actions). A step calls others through
the whole renderer, so this carries over from the functions to the steps of a run, whatever the depth
of calls (`steps_congr`), and from there to the run (`generate_stacked`).

`generate_methods` ties the two kinds of renderers together: where the functions of all layers come
from actions, three calls deep is deep enough, and the run is the one of `Renderer.override`.
-/

namespace ElixirClient

theorem mergeLayers_cons {F : Step → Type} (layer : (step : Step) → Option (F step))
    (rest : List ((step : Step) → Option (F step))) (step : Step) :
    mergeLayers (layer :: rest) step = (mergeLayers rest step).or (layer step) := by
  rw [mergeLayers, mergeLayers, List.reverse_cons, List.findSome?_append, List.findSome?_singleton]

/-- What is made of each function may as well be made of the one that counts. -/
theorem mergeLayers_map {F G : Step → Type} (f : (step : Step) → F step → G step)
    (layers : List ((step : Step) → Option (F step))) (step : Step) :
    mergeLayers (layers.map fun layer step => (layer step).map (f step)) step =
      (mergeLayers layers step).map (f step) := by
  induction layers with
  | nil => rfl
  | cons layer rest ih => rw [List.map_cons, mergeLayers_cons, mergeLayers_cons, ih, Option.map_or]

theorem Renderer.foldl_override (r : Renderer) (layers : List Renderer.Layer) :
    layers.foldl override r = r.override (mergeLayers layers) := by
  induction layers generalizing r with
  | nil => rfl
  | cons layer rest ih =>
    funext step
    rw [List.foldl_cons, ih, override, override, override, mergeLayers_cons]
    cases mergeLayers rest step <;> rfl

namespace Implementation

/-! ## One function for each step -/

/-- Induction on the layers, from any renderer on: the first layer is the innermost. -/
theorem method_foldl (base : Implementation) (layers : List MethodLayer) (step : Step) :
    (layers.foldl overriding base).method step =
      (mergeLayers layers step).getD (base.method step) := by
  induction layers generalizing base with
  | nil => rfl
  | cons layer rest ih =>
    rw [List.foldl_cons, ih, mergeLayers_cons, method]
    cases mergeLayers rest step <;> rfl

/-! ## Steps of a run -/

/-- Renderers that dispatch every step to the same function run the same steps. Induction on the
depth, since a step calls others one call deeper. -/
theorem steps_congr {r r' : Implementation} (h : ∀ step, r.method step = r'.method step)
    (beyond : Steps) (depth : Nat) : r.steps beyond depth = r'.steps beyond depth := by
  induction depth with
  | zero => rfl
  | succ depth ih =>
    funext step
    show r.method step (r.steps beyond depth) = r'.method step (r'.steps beyond depth)
    rw [h, ih]

/-! ## Layers of actions -/

theorem mergeLayers_methods (layers : List Renderer.Layer) (step : Step) :
    mergeLayers (layers.map Renderer.Layer.methods) step =
      (mergeLayers layers step).map Step.Action.method :=
  mergeLayers_map (fun _ => Step.Action.method) layers step

theorem method_methods (layers : List Renderer.Layer) (step : Step) :
    (stacked (layers.map Renderer.Layer.methods)).method step =
      (layers.foldl Renderer.override Renderer.default step).method := by
  rw [stacked, method_foldl, Renderer.foldl_override, Renderer.override, mergeLayers_methods]
  cases mergeLayers layers step <;> rfl

section Actions

variable {r : Implementation} {actions : Renderer}
  (h : ∀ step, r.method step = (actions step).method) (beyond : Steps) (depth : Nat)

include h

theorem steps_operation : r.steps beyond (depth + 2) .operation = actions.renderOperation := by
  show r.method .operation (r.steps beyond (depth + 1)) = _
  rw [h]
  show actions .operation ⟨r.method .operationDoc (r.steps beyond depth),
    r.method .operationSpec (r.steps beyond depth),
    r.method .operationFunction (r.steps beyond depth)⟩ = _
  rw [h, h, h]
  rfl

theorem steps_operations : r.steps beyond (depth + 3) .operations = actions.renderOperations := by
  show r.method .operations (r.steps beyond (depth + 2)) = _
  rw [h]
  show actions .operations (r.steps beyond (depth + 2) .operation) = _
  rw [steps_operation h]
  rfl

theorem steps_schema : r.steps beyond (depth + 2) .schema = actions.renderSchema := by
  show r.method .schema (r.steps beyond (depth + 1)) = _
  rw [h]
  show actions .schema ⟨r.method .schemaDoc (r.steps beyond depth),
    r.method .schemaFields (r.steps beyond depth), r.method .schemaTypes (r.steps beyond depth),
    r.method .schemaDecoders (r.steps beyond depth)⟩ = _
  rw [h, h, h, h]
  rfl

/-- A run asks its renderer for schemas and for the operations of modules only. -/
theorem generate_steps : generate (.ofSteps (r.steps beyond (depth + 3))) = generate actions := by
  have hschema : (Renderer.ofSteps (r.steps beyond (depth + 3))).renderSchema = actions.renderSchema :=
    steps_schema h beyond (depth + 1)
  have hoperations : (Renderer.ofSteps (r.steps beyond (depth + 3))).renderOperations =
      actions.renderOperations :=
    steps_operations h beyond depth
  unfold generate generateSchema generateModule
  rw [hschema, hoperations]

end Actions

/-- A run with layers of actions calls steps three deep and is the run of the overridden
renderer. -/
theorem generate_methods (layers : List Renderer.Layer) (beyond : Steps) (depth : Nat) :
    generate (.ofSteps ((stacked (layers.map Renderer.Layer.methods)).steps beyond (depth + 3))) =
      generate (layers.foldl Renderer.override Renderer.default) :=
  generate_steps (method_methods layers) beyond depth

/-- **Layers come to one layer.** Whatever functions the layers have for steps and however deep
these call each other, the default steps with one layer around the other behave in every step, and
so in every run, as the default steps with one layer around them that has the last function for each
step. So do layers of actions around the default renderer. -/
theorem generate_stacked (layers : List MethodLayer) (beyond : Steps) (depth : Nat) :
    (∀ step scope subject trace,
      ((stacked layers).steps beyond depth step scope subject).run.run trace =
        ((overriding .default (mergeLayers layers)).steps beyond depth step scope subject).run.run
          trace) ∧
    (∀ schemas operations config trace,
      (generate (.ofSteps ((stacked layers).steps beyond depth)) schemas operations config).run.run
          trace =
        (generate (.ofSteps ((overriding .default (mergeLayers layers)).steps beyond depth)) schemas
          operations config).run.run trace) ∧
    ∀ (actions : List Renderer.Layer) schemas operations config trace,
      (generate (actions.foldl Renderer.override .default) schemas operations config).run.run trace =
        (generate (Renderer.default.override (mergeLayers actions)) schemas operations
          config).run.run trace := by
  have hmethod (step : Step) :
      (stacked layers).method step = (overriding .default (mergeLayers layers)).method step :=
    method_foldl .default layers step
  refine ⟨fun _ _ _ _ => ?steps, fun _ _ _ _ => ?run, fun actions _ _ _ _ => ?actions⟩
  case steps => rw [steps_congr hmethod]
  case run => rw [steps_congr hmethod]
  case actions => rw [Renderer.foldl_override]

end Implementation

end ElixirClient

import ElixirClient.Generation

/-!
# Dispatch

A renderer as it is put together: the default steps, and layers around them that replace some. What
a layer has for a step may call every step of the run, its own included, and a call goes to the
outermost layer that has the step. `Renderer` is the case of replacements that call only the steps
that theirs is made of.

Steps can call each other in circles, so a run is given up to some depth of calls.
-/

namespace ElixirClient

namespace Step

/-- What a step is for. -/
abbrev Subject : Step → Type
  | operations => List Operation
  | operation | operationDoc | operationSpec | operationFunction => Operation
  | schema | schemaDoc | schemaFields | schemaTypes | schemaDecoders => Schema

/-- What a step yields. -/
abbrev Product : Step → Type
  | operations => List OperationArtifact
  | operation => OperationArtifact
  | operationDoc | schemaDoc => Doc
  | operationSpec => Signature
  | operationFunction => Function
  | schema => SchemaArtifact
  | schemaFields => List String
  | schemaTypes | schemaDecoders => List (String × Node)

end Step

/-- The steps of a run, as they are called. -/
abbrev Steps := (step : Step) → Scope → step.Subject → Render step.Product

/-- The function of one step, given the steps of the run. -/
abbrev Step.Method (step : Step) := Steps → Scope → step.Subject → Render step.Product

/-- An action as a function that calls the steps it is made of. -/
def Step.Action.method : {step : Step} → step.Action → step.Method
  | .operations, action => fun steps => action (steps .operation)
  | .operation, action => fun steps =>
    action ⟨steps .operationDoc, steps .operationSpec, steps .operationFunction⟩
  | .schema, action => fun steps =>
    action ⟨steps .schemaDoc, steps .schemaFields, steps .schemaTypes, steps .schemaDecoders⟩
  | .operationDoc, action | .operationSpec, action | .operationFunction, action
  | .schemaDoc, action | .schemaFields, action | .schemaTypes, action
  | .schemaDecoders, action => fun _ => action

/-- The renderer that runs the given steps. -/
def Renderer.ofSteps (steps : Steps) : Renderer
  | .operations => fun _ => steps .operations
  | .operation => fun _ => steps .operation
  | .schema => fun _ => steps .schema
  | .operationDoc => steps .operationDoc
  | .operationSpec => steps .operationSpec
  | .operationFunction => steps .operationFunction
  | .schemaDoc => steps .schemaDoc
  | .schemaFields => steps .schemaFields
  | .schemaTypes => steps .schemaTypes
  | .schemaDecoders => steps .schemaDecoders

/-- Functions for some of the steps. -/
abbrev MethodLayer := (step : Step) → Option step.Method

/-- One layer in the place of many: each step has what the last layer has that has anything. -/
def mergeLayers {F : Step → Type} (layers : List ((step : Step) → Option (F step))) :
    (step : Step) → Option (F step) :=
  fun step => layers.reverse.findSome? fun layer => layer step

/-- The default steps, or a layer around others. -/
inductive Implementation
  | default
  | overriding (base : Implementation) (layer : MethodLayer)

namespace Implementation

/-- The function that a step is dispatched to: that of the outermost layer which has one. -/
def method : Implementation → (step : Step) → step.Method
  | .default, step => (Renderer.default step).method
  | .overriding base layer, step => (layer step).getD (base.method step)

/-- The steps of a run up to a depth of calls. However deep, a call is dispatched by the whole
renderer and not by the layer that it comes from. What is `beyond` the depth is left open. -/
def steps (r : Implementation) (beyond : Steps) : Nat → Steps
  | 0 => beyond
  | depth + 1 => fun step => r.method step (r.steps beyond depth)

/-- The default steps with layers around them, the last one outermost. -/
def stacked (layers : List MethodLayer) : Implementation := layers.foldl .overriding .default

end Implementation

/-- The functions of a layer of actions. -/
def Renderer.Layer.methods (layer : Renderer.Layer) : MethodLayer := fun step =>
  (layer step).map Step.Action.method

end ElixirClient

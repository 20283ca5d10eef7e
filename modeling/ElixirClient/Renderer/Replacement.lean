import ElixirClient.Renderer

/-!
# Ready-made replacements

Replacements that fit any step: one fails with a dangling reference, one yields nothing, the others
change what the default action yields. A change that a result does not admit is a misuse.
-/

namespace ElixirClient.Renderer

inductive Replacement
  | fail (reference : Json) (artifact : Option String)
  | empty
  /-- Puts text before and after the documentation. -/
  | surround (before after : String)
  | reverse
  | rename (name : String)
deriving DecidableEq, Repr

namespace Replacement

/-- A change of the result of an action, by the kinds of results. -/
structure Change where
  doc : Doc → Except Fault Doc
  signature : Signature → Except Fault Signature
  function : Function → Except Fault Function
  operation : OperationArtifact → Except Fault OperationArtifact
  schema : SchemaArtifact → Except Fault SchemaArtifact
  list : {α : Type} → List α → Except Fault (List α)

/-- The default action of a step with its result changed. -/
def Change.action (change : Change) : (step : Step) → step.Action
  | .operations => fun render scope operations => do
    Render.ofExcept (change.list (← Renderer.default .operations render scope operations))
  | .operation => fun parts scope operation => do
    Render.ofExcept (change.operation (← Renderer.default .operation parts scope operation))
  | .operationDoc => fun scope operation => do
    Render.ofExcept (change.doc (← Renderer.default .operationDoc scope operation))
  | .operationSpec => fun scope operation => do
    Render.ofExcept (change.signature (← Renderer.default .operationSpec scope operation))
  | .operationFunction => fun scope operation => do
    Render.ofExcept (change.function (← Renderer.default .operationFunction scope operation))
  | .schema => fun parts scope schema => do
    Render.ofExcept (change.schema (← Renderer.default .schema parts scope schema))
  | .schemaDoc => fun scope schema => do
    Render.ofExcept (change.doc (← Renderer.default .schemaDoc scope schema))
  | .schemaFields => fun scope schema => do
    Render.ofExcept (change.list (← Renderer.default .schemaFields scope schema))
  | .schemaTypes => fun scope schema => do
    Render.ofExcept (change.list (← Renderer.default .schemaTypes scope schema))
  | .schemaDecoders => fun scope schema => do
    Render.ofExcept (change.list (← Renderer.default .schemaDecoders scope schema))

/-- No result admits the change. -/
def Change.refused (fault : Fault) : Change :=
  ⟨fun _ => .error fault, fun _ => .error fault, fun _ => .error fault, fun _ => .error fault,
    fun _ => .error fault, fun _ => .error fault⟩

def surrounded (before after : String) (doc : Doc) : Except Fault Doc :=
  match doc.text with
  | .str text => .ok ⟨.str (before ++ text ++ after)⟩
  | _ => .error .wrongKind

/-- The action of every step that ends in the same way. -/
def constant (result : {α : Type} → Render α) : (step : Step) → step.Action
  | .operations | .operation | .schema => fun _ _ _ => result
  | .operationDoc | .operationSpec | .operationFunction => fun _ _ => result
  | .schemaDoc | .schemaFields | .schemaTypes | .schemaDecoders => fun _ _ => result

def action : Replacement → (step : Step) → step.Action
  | .fail reference artifact => constant (throw (.dangling ⟨reference, artifact⟩))
  | .empty => fun
    | .operations => fun _ _ _ => pure []
    | .schemaFields | .schemaTypes | .schemaDecoders => fun _ _ => pure []
    | step => constant (throw .noSuchMember) step
  | .surround before after =>
    { Change.refused .noSuchMember with doc := surrounded before after }.action
  | .reverse =>
    { Change.refused .wrongKind with list := fun items => .ok items.reverse }.action
  | .rename name =>
    { Change.refused .wrongKind with
      signature := fun signature => .ok { signature with name := .str name }
      function := fun function => .ok { function with name := .str name }
      operation := fun artifact => .ok { artifact with name := .str name }
      schema := fun artifact => .ok { artifact with name := name } }.action

def layer (replacement : Replacement) : Layer := fun step => some (replacement.action step)

end Replacement

end ElixirClient.Renderer

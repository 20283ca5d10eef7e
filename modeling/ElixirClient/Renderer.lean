import ElixirClient.Rendering.Operation
import ElixirClient.Rendering.Schema

/-!
# Renderers

Rendering is made of steps, and a renderer has an action for each. A step that is made of other
steps is handed their actions, so a replaced action takes effect wherever its step is used.
Replacements come in layers: `Renderer.override` puts one on top of a renderer.
-/

namespace ElixirClient

/-- The steps that render the parts of an operation. -/
structure OperationParts where
  doc : Scope → Operation → Render Doc
  signature : Scope → Operation → Render Signature
  function : Scope → Operation → Render Function

/-- The steps that render the parts of a schema. -/
structure SchemaParts where
  doc : Scope → Schema → Render Doc
  fieldNames : Scope → Schema → Render (List String)
  fieldTypes : Scope → Schema → Render (List (String × Node))
  decoders : Scope → Schema → Render (List (String × Node))

inductive Step
  | operations
  | operation
  | operationDoc
  | operationSpec
  | operationFunction
  | schema
  | schemaDoc
  | schemaFields
  | schemaTypes
  | schemaDecoders
deriving DecidableEq, Repr

namespace Step

def all : List Step :=
  [operations, operation, operationDoc, operationSpec, operationFunction, schema, schemaDoc,
    schemaFields, schemaTypes, schemaDecoders]

/-- The name that a step is replaced under. -/
def label : Step → String
  | operations => "render_operations"
  | operation => "render_operation"
  | operationDoc => "render_operation_doc"
  | operationSpec => "render_operation_spec"
  | operationFunction => "render_operation_function"
  | schema => "render_schema"
  | schemaDoc => "render_schema_doc"
  | schemaFields => "render_schema_fields"
  | schemaTypes => "render_schema_types"
  | schemaDecoders => "render_schema_decoders"

def ofLabel? (name : String) : Option Step := all.find? fun step => step.label = name

/-- What a step does: given the actions of the steps it is made of, it renders one thing. -/
abbrev Action : Step → Type
  | operations =>
    (Scope → Operation → Render OperationArtifact) → Scope → List Operation
      → Render (List OperationArtifact)
  | operation => OperationParts → Scope → Operation → Render OperationArtifact
  | operationDoc => Scope → Operation → Render Doc
  | operationSpec => Scope → Operation → Render Signature
  | operationFunction => Scope → Operation → Render Function
  | schema => SchemaParts → Scope → Schema → Render SchemaArtifact
  | schemaDoc => Scope → Schema → Render Doc
  | schemaFields => Scope → Schema → Render (List String)
  | schemaTypes => Scope → Schema → Render (List (String × Node))
  | schemaDecoders => Scope → Schema → Render (List (String × Node))

end Step

/-! ### Default actions -/

/-- How an operation is named when it is left out. -/
def Operation.qualifiedName (operation : Operation) : String :=
  operation.moduleName.plain ++ "." ++ operation.functionName.plain

/-- Renders operations by ascending function name; one with a dangling reference is left out. -/
def renderAllOperations (render : Scope → Operation → Render OperationArtifact) (scope : Scope)
    (operations : List Operation) : Render (List OperationArtifact) := do
  let sorted ← Render.ofExcept (orderly (Json.sortBy? Operation.functionName operations))
  let rendered ← sorted.mapM fun operation =>
    Render.recording operation.qualifiedName (render scope operation)
  return rendered.filterMap id

def renderOperationParts (parts : OperationParts) (scope : Scope) (operation : Operation) :
    Render OperationArtifact := do
  let doc ← parts.doc scope operation
  let signature ← parts.signature scope operation
  let function ← parts.function scope operation
  return { name := operation.functionName, doc, signature, function }

def renderSchemaParts (parts : SchemaParts) (scope : Scope) (schema : Schema) :
    Render SchemaArtifact := do
  let name ← Render.ofExcept (schema.normalizedName scope)
  let doc ← parts.doc scope schema
  let fieldNames ← parts.fieldNames scope schema
  let fieldTypes ← parts.fieldTypes scope schema
  let decoders ← parts.decoders scope schema
  return {
    name, doc, fieldNames, fieldTypes, decoders
    module := scope.config.qualified (.str name)
    location := Naming.underscore name }

/-- An action for each step. -/
abbrev Renderer := (step : Step) → step.Action

namespace Renderer

def default : Renderer
  | .operations => renderAllOperations
  | .operation => renderOperationParts
  | .operationDoc => fun _ operation => pure operation.doc
  | .operationSpec => fun scope operation => Render.ofExcept (operation.signature scope)
  | .operationFunction => fun scope operation => Render.ofExcept (operation.function scope)
  | .schema => renderSchemaParts
  | .schemaDoc => fun _ schema => pure schema.doc
  | .schemaFields => fun _ schema => pure schema.fieldNames
  | .schemaTypes => fun scope schema => Render.ofExcept (schema.fieldTypes scope)
  | .schemaDecoders => fun scope schema => Render.ofExcept (schema.decoders scope)

/-! ### Running steps -/

def operationParts (r : Renderer) : OperationParts :=
  ⟨r .operationDoc, r .operationSpec, r .operationFunction⟩

def schemaParts (r : Renderer) : SchemaParts :=
  ⟨r .schemaDoc, r .schemaFields, r .schemaTypes, r .schemaDecoders⟩

def renderOperation (r : Renderer) : Scope → Operation → Render OperationArtifact :=
  r .operation r.operationParts

def renderOperations (r : Renderer) : Scope → List Operation → Render (List OperationArtifact) :=
  r .operations r.renderOperation

def renderSchema (r : Renderer) : Scope → Schema → Render SchemaArtifact :=
  r .schema r.schemaParts

/-! ### Layers -/

/-- Replacements for some of the steps. -/
abbrev Layer := (step : Step) → Option step.Action

/-- The renderer with the steps of a layer replaced. -/
def override (r : Renderer) (layer : Layer) : Renderer := fun step => (layer step).getD (r step)

/-- The names among the given ones that no step has, in ascending order and each once. -/
def unknownNames (names : List String) : List String :=
  (names.filter fun name => (Step.ofLabel? name).isNone).eraseDups.mergeSort
    fun a b => decide (a ≤ b)

/-- The layer of a table of replacements by step name. The first entry for a step counts. -/
def layerOf (table : List (String × Layer)) : Except Fault Layer :=
  match unknownNames (table.map (·.1)) with
  | [] => .ok fun step => (table.lookup step.label).bind fun layer => layer step
  | names => .error (.unknownSteps names)

end Renderer

end ElixirClient

import ElixirClient.Renderer

/-!
# Generation

A run renders every schema that gets a module and every operation, in the order of their names. A
dangling reference leaves one artifact out; any other fault ends the run.
-/

namespace ElixirClient

/-- Kinds whose schemas get no module of their own. -/
def SchemaKind.isScalar : SchemaKind → Bool
  | .reference | .primitive .object => false
  | _ => true

/-- Objects and references get a module of their own, unless their normalized name is excluded. -/
def Schema.getsModule (schema : Schema) (normalized : String) (config : Config) : Bool :=
  !schema.kind.isScalar && !config.naming.excludes normalized

/-- The groups with one more operation, at the end of the group of its module. -/
def insertOperation (operation : Operation) :
    List (Json × List Operation) → List (Json × List Operation)
  | [] => [(operation.moduleName, [operation])]
  | (name, group) :: rest =>
    if name.key? = operation.moduleName.key? then (name, group ++ [operation]) :: rest
    else (name, group) :: insertOperation operation rest

/-- Operations by the module that owns them, modules by ascending name. -/
def operationsByModule (operations : List Operation) :
    Except Fault (List (Json × List Operation)) :=
  if operations.any fun operation => operation.moduleName.key?.isNone then .error .wrongKind
  else orderly (Json.sortBy? (·.1) (operations.foldl (fun groups o => insertOperation o groups) []))

def Scope.ofSchemas (schemas : List Schema) (config : Config) : Except Fault Scope := do
  return ⟨config, ← NameTable.build config.naming schemas⟩

/-- Renders one schema if it gets a module and does not fail. -/
def generateSchema (renderer : Renderer) (scope : Scope) (entry : Schema × String) :
    Render (Option SchemaArtifact) := do
  let (schema, normalized) := entry
  if schema.getsModule normalized scope.config then
    let artifact ← Render.recording normalized (renderer.renderSchema scope schema)
    if let some artifact := artifact then
      Render.log .debug .driver ("Rendered schema " ++ artifact.module)
    return artifact
  else
    Render.log .debug .driver
      ("Skipping schema " ++ normalized ++ " (" ++ schema.kind.label ++ ")")
    return none

/-- Renders the operations of one module; a module without any is left out. Only a module with a
name of text has a place to go. -/
def generateModule (renderer : Renderer) (scope : Scope) (group : Json × List Operation) :
    Render (Option OperationModule) := do
  let rendered ← renderer.renderOperations scope group.2
  if rendered.isEmpty then return none
  match group.1 with
  | .str name =>
    let module : OperationModule := {
      name := name
      module := scope.config.qualified (.str name)
      location := Naming.underscore name
      operations := rendered }
    Render.log .debug .driver
      ("Rendered " ++ toString rendered.length ++ " operations for " ++ module.module)
    return some module
  | _ => throw .noSuchMember

/-- Every schema with its normalized name, by ascending normalized name. -/
def schemasByName (scope : Scope) (schemas : List Schema) :
    Except Fault (List (Schema × String)) := do
  let named ← schemas.mapM fun schema => do return (schema, ← schema.normalizedName scope)
  return named.mergeSort fun a b => !decide (b.2 < a.2)

/-- Renders every schema and every operation. -/
def generate (renderer : Renderer) (schemas : List Schema) (operations : List Operation)
    (config : Config) : Render GenerationResult := do
  let scope ← Render.ofExcept (Scope.ofSchemas schemas config)
  let entries ← Render.ofExcept (schemasByName scope schemas)
  let schemaArtifacts ← entries.mapM (generateSchema renderer scope)
  let groups ← Render.ofExcept (operationsByModule operations)
  let modules ← groups.mapM (generateModule renderer scope)
  return {
    schemas := schemaArtifacts.filterMap id
    modules := modules.filterMap id
    failures := (← get).failures }

end ElixirClient

import ElixirClient.Naming.Words
import ElixirClient.Session

/-!
# Rendering schemas

A schema becomes a struct with typed fields and a decoder. Fields come in the order of their names.
-/

namespace ElixirClient.Schema

def generatedNotice : String :=
  "Generated by OpenAPI Generator. Avoid editing this file directly."

/-- Properties by ascending name. -/
def propertiesByName (schema : Schema) : List (String × Schema) :=
  schema.properties.mergeSort fun a b => !decide (b.1 < a.1)

/-- The title, or else the description, above the notice. -/
def doc (schema : Schema) : Doc :=
  let summary := schema.title.orElse schema.description
  ⟨.str (if summary.truthy then summary.plain ++ "\n\n" ++ generatedNotice else generatedNotice)⟩

def fieldNames (schema : Schema) : List String := schema.propertiesByName.map (·.1)

def fieldTypes (scope : Scope) (schema : Schema) : Except Fault (List (String × Node)) :=
  schema.propertiesByName.mapM fun (name, property) => do
    return (name, ← scope.resolver.resolve property.typeRef)

/-- The expression that decodes one property. A reference is decoded by the module it stands for;
arrays are not decoded. -/
def decoder (scope : Scope) (name : String) (property : Schema) : Except Fault Node :=
  let raw := Node.access (.var "value") (.literal (.str name))
  match property.kind with
  | .array => .ok (.literal .null)
  | .reference => do
    let module ← scope.resolver.moduleName (property.ref.orElse property.name)
    return .call (.moduleRef module) "decode" [raw]
  | .primitive _ => .ok raw

def decoders (scope : Scope) (schema : Schema) : Except Fault (List (String × Node)) :=
  schema.propertiesByName.mapM fun (name, property) => do
    return (name, ← property.decoder scope name)

/-- The normalized name of a schema of the table. -/
def normalizedName (scope : Scope) (schema : Schema) : Except Fault String := do
  match ← scope.names.find? schema.name with
  | some name => return name
  | none => .error (.misuse .noSuchKey)

end ElixirClient.Schema

import ElixirClient.Descriptor
import ElixirClient.Fault
import ElixirClient.Text.Integer
import ElixirClient.Text.Case

/-!
# Reading descriptors

Descriptors are read from JSON values. What is not of the form that is asked for is refused with a
cause; where a value is of a kind that cannot even be looked at in that way, the fault is a misuse.
-/

namespace ElixirClient

def refuseDescriptor (cause : DescriptorFault) : Except Fault α := .error (.descriptor cause)

/-- The primitive kind that a value names, if it names one. Lists and objects name nothing and
cannot be looked up. -/
def Primitive.named? : Json → Except Fault (Option Primitive)
  | .str label => .ok (Primitive.ofLabel? label)
  | .arr _ | .obj _ => .error .wrongKind
  | _ => .ok none

/-! ### Type references -/

mutual
/-- Reads a type reference: the name of a schema, an external module, a union, an array or a
primitive kind; the first of these forms that an object has counts. -/
def readTypeRef : Json → Except Fault TypeRef
  | .obj members =>
    match members.lookup "$ref", members.lookup "module" with
    | some name, _ => .ok (.schema name)
    | none, some module => .ok (.external module)
    | none, none => do
      match ← readUnion? members with
      | some refs => return .union refs
      | none =>
        if members.lookup "type" = some (.str "array") then
          return .array ((← readItems? members).getD (.primitive .any))
        else
          match ← Primitive.named? ((members.lookup "type").getD .null) with
          | some kind => return .primitive kind
          | none => refuseDescriptor (.unsupportedReference (.obj members))
  | value => refuseDescriptor (.referenceNotObject value)

/-- The members of a union, if an object has any. -/
def readUnion? : List (String × Json) → Except Fault (Option (List TypeRef))
  | [] => .ok none
  | (key, value) :: rest =>
    if key = "oneOf" then some <$> readMembers value else readUnion? rest

/-- The references that a value goes through. The keys of an object and the characters of a string
are no references. -/
def readMembers : Json → Except Fault (List TypeRef)
  | .arr items => readAll items
  | value => do
    match ← value.elements with
    | [] => return []
    | item :: _ => refuseDescriptor (.referenceNotObject item)

def readAll : List Json → Except Fault (List TypeRef)
  | [] => .ok []
  | item :: rest => do
    let ref ← readTypeRef item
    return ref :: (← readAll rest)

/-- The type of the items of an array, if an object gives one that is not null. -/
def readItems? : List (String × Json) → Except Fault (Option TypeRef)
  | [] => .ok none
  | (key, value) :: rest =>
    if key = "items" then
      if value = .null then .ok none else some <$> readTypeRef value
    else readItems? rest
end

/-! ### Schemas -/

/-- The kind of a schema by its `type`, which is an object if it is not given. -/
def readSchemaKind (name : Json) (members : List (String × Json)) : Except Fault SchemaKind := do
  let type := (members.lookup "type").getD (.str "object")
  if type = .str "array" then return .array
  match ← Primitive.named? type with
  | some kind => return .primitive kind
  | none => refuseDescriptor (.unsupportedKind name type)

mutual
/-- Reads a schema, or a property of one, that is known by a name. -/
def readSchema (name : Json) : Json → Except Fault Schema
  | .obj members =>
    match members.lookup "$ref" with
    | some ref => .ok { name := name.orElse ref, kind := .reference, ref := ref }
    | none => do
      let kind ← readSchemaKind name members
      let properties ← readProperties members
      let items ← readItemSchema? members
      return {
        name := name.orElse (.str "")
        kind := kind
        title := (members.lookup "title").getD .null
        description := (members.lookup "description").getD .null
        properties := properties
        items := items }
  | _ => refuseDescriptor (.schemaNotObject name)

/-- The properties that an object gives, each known by its key. -/
def readProperties : List (String × Json) → Except Fault (List (String × Schema))
  | [] => .ok []
  | (key, value) :: rest =>
    if key = "properties" then
      match value with
      | .obj members => readPropertyList members
      | _ => .error .noSuchMember
    else readProperties rest

def readPropertyList : List (String × Json) → Except Fault (List (String × Schema))
  | [] => .ok []
  | (key, value) :: rest => do
    let property ← readSchema (.str key) value
    return (key, property) :: (← readPropertyList rest)

def readItemSchema? : List (String × Json) → Except Fault (Option Schema)
  | [] => .ok none
  | (key, value) :: rest =>
    if key = "items" then
      if value = .null then .ok none else some <$> readSchema .null value
    else readItemSchema? rest
end

/-- Reads a schema of a document, known by its own `name`. -/
def readNamedSchema (value : Json) : Except Fault Schema :=
  readSchema ((value.member? "name").getD .null) value

/-! ### Operations -/

def readStatus (text : String) : Except Fault Status :=
  if text = "default" then .ok .default
  else
    match Text.integer? text.toList with
    | some n => .ok (.code n)
    | none => refuseDescriptor (.badStatus text)

/-- Reads a parameter. Whatever is wrong with it is a bad parameter, but for a type reference that
is refused as such. -/
def readParam (item : Json) : Except Fault Param :=
  match item.member? "name" with
  | none => refuseDescriptor (.badParameter item)
  | some name =>
    let type := (item.member? "type").getD (.obj [("type", .str "any")])
    match readTypeRef type with
    | .ok type => .ok ⟨name, type⟩
    | .error (.misuse .wrongKind) => refuseDescriptor (.badParameter item)
    | .error fault => .error fault

def readParams (members : List (String × Json)) (key : String) : Except Fault (List Param) := do
  (← ((members.lookup key).getD (.arr [])).elements).mapM readParam

/-- Reads a content type and the type of a body: whatever goes through two values. -/
def readBody (value : Json) : Except Fault (Json × TypeRef) := do
  match ← value.elements with
  | [content, type] => return (content, ← readTypeRef type)
  | _ => .error (.misuse .wrongValue)

def readContent : Json → Except Fault Content
  | .obj members => members.mapM fun (content, type) => do return (content, ← readTypeRef type)
  | _ => .error .noSuchMember

/-- Responses by status; of two spellings of one status the later counts, in the place of the
earlier. -/
def insertResponse (status : Status) (content : Content) :
    List (Status × Content) → List (Status × Content)
  | [] => [(status, content)]
  | (s, c) :: rest =>
    if s = status then (s, content) :: rest else (s, c) :: insertResponse status content rest

def readResponses : Json → Except Fault (List (Status × Content))
  | .obj members =>
    members.foldlM (fun done (status, content) => do
      let status ← readStatus status
      let content ← readContent content
      return insertResponse status content done) []
  | _ => .error .noSuchMember

def requireField (members : List (String × Json)) (key : String) : Except Fault Json :=
  match members.lookup key with
  | some value => .ok value
  | none => refuseDescriptor (.missingField key)

def readMethod (value : Json) : Except Fault String :=
  match value with
  | .str method => .ok (String.ofList (Text.lower method.toList))
  | value => refuseDescriptor (.methodNotText value.kindName)

def readOperation : Json → Except Fault Operation
  | .obj members => do
    let functionName ← requireField members "function_name"
    let moduleName ← requireField members "module_name"
    let method ← readMethod (← requireField members "method")
    let path ← requireField members "path"
    let bodies ← ((members.lookup "request_body").getD (.arr [])).elements
    let requestBody ← bodies.mapM readBody
    let responses ← readResponses ((members.lookup "responses").getD (.obj []))
    let pathParams ← readParams members "path_params"
    let queryParams ← readParams members "query_params"
    return {
      functionName, moduleName, method, path, pathParams, queryParams, requestBody, responses
      docstring := (members.lookup "docstring").getD (.str "") }
  | _ => refuseDescriptor .operationNotObject

/-! ### Documents -/

def readDescriptors : Json → Except Fault Descriptors
  | .obj members => do
    let schemas ← ((members.lookup "schemas").getD (.arr [])).elements
    let schemas ← schemas.mapM readNamedSchema
    let operations ← ((members.lookup "operations").getD (.arr [])).elements
    let operations ← operations.mapM readOperation
    return ⟨schemas, operations⟩
  | _ => refuseDescriptor .documentNotObject

end ElixirClient

import ElixirClient.Json

/-!
# Descriptors

What the generator is given: the shapes of data of an API and its operations. Names, texts and
paths are kept as the values that were handed in; only what decides the form of the generated code
has types of its own.
-/

namespace ElixirClient

inductive Primitive
  | boolean
  | integer
  | number
  | string
  | object
  | null
  | any
deriving DecidableEq, Repr

namespace Primitive

def label : Primitive → String
  | boolean => "boolean"
  | integer => "integer"
  | number => "number"
  | string => "string"
  | object => "object"
  | null => "null"
  | any => "any"

def all : List Primitive := [boolean, integer, number, string, object, null, any]

def ofLabel? (s : String) : Option Primitive := all.find? fun p => p.label = s

end Primitive

/-- A reference to a type. -/
inductive TypeRef
  | primitive (kind : Primitive)
  | array (item : TypeRef)
  /-- A schema, by the raw name it was given. -/
  | schema (name : Json)
  /-- A type outside of the generated code, by the full name of its module. -/
  | external (module : Json)
  | union (members : List TypeRef)
  /-- A value that is no reference. None is ever read. -/
  | stray (value : Json)
deriving Repr, Inhabited

namespace TypeRef

mutual
/-- Structural equality. -/
def same : TypeRef → TypeRef → Bool
  | .primitive a, .primitive b => a == b
  | .array a, .array b => same a b
  | .schema a, .schema b => decide (a = b)
  | .external a, .external b => decide (a = b)
  | .union a, .union b => sameAll a b
  | .stray a, .stray b => decide (a = b)
  | _, _ => false

def sameAll : List TypeRef → List TypeRef → Bool
  | [], [] => true
  | a :: as, b :: bs => same a b && sameAll as bs
  | _, _ => false
end

mutual
theorem same_iff : (a b : TypeRef) → (same a b = true ↔ a = b)
  | .array a, b => by cases b <;> simp [same, same_iff a]
  | .union a, b => by cases b <;> simp [same, sameAll_iff a]
  | .primitive _, b | .schema _, b | .external _, b | .stray _, b => by cases b <;> simp [same]

theorem sameAll_iff : (a b : List TypeRef) → (sameAll a b = true ↔ a = b)
  | [], b => by cases b <;> simp [sameAll]
  | a :: as, b => by cases b <;> simp [sameAll, same_iff a, sameAll_iff as]
end

instance : DecidableEq TypeRef := fun a b => decidable_of_iff _ (same_iff a b)

end TypeRef

inductive SchemaKind
  | reference
  | array
  | primitive (kind : Primitive)
deriving DecidableEq, Repr

def SchemaKind.label : SchemaKind → String
  | .reference => "reference"
  | .array => "array"
  | .primitive kind => kind.label

/-- One shape of data, or one property of such a shape. Properties keep the order in which they
were declared, and no two have one name. -/
structure Schema where
  name : Json
  kind : SchemaKind
  title : Json := .null
  description : Json := .null
  properties : List (String × Schema) := []
  items : Option Schema := none
  /-- The raw name of the schema that a reference stands for. -/
  ref : Json := .null
deriving Repr

inductive Status
  | code (n : Int)
  | default
deriving DecidableEq, Repr

structure Param where
  name : Json
  type : TypeRef
deriving DecidableEq, Repr

/-- The types of one response by content type. -/
abbrev Content := List (String × TypeRef)

/-- One endpoint of the API. -/
structure Operation where
  functionName : Json
  /-- The module that owns the function, relative to the base module. -/
  moduleName : Json
  /-- The request method in lower case. -/
  method : String
  /-- The path, with placeholders for parameters in braces. -/
  path : Json
  docstring : Json := .str ""
  pathParams : List Param := []
  queryParams : List Param := []
  requestBody : List (Json × TypeRef) := []
  responses : List (Status × Content) := []
deriving DecidableEq, Repr

structure Descriptors where
  schemas : List Schema
  operations : List Operation
deriving Repr

end ElixirClient

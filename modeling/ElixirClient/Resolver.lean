import ElixirClient.Json.Order
import ElixirClient.Naming.Rules

/-!
# Resolving type references

A type reference becomes a type node. Schemas are looked up by raw name, so schemas may refer to
each other in circles. A resolved union has at least two members, all different and none of them a
union.
-/

namespace ElixirClient

/-- Keeps the first of the items that have one key. -/
def firstOfEach [DecidableEq β] (key : α → β) : List α → List α
  | [] => []
  | x :: rest => x :: (firstOfEach key rest).filter fun y => key y ≠ key x

namespace Node

mutual
/-- The node as a key: the same for nodes that differ in the spelling of numbers only. A node that
names a module by a list or an object is no key. -/
def key? : Node → Option Node
  | .sequence item => .sequence <$> key? item
  | .named module => .named <$> module.key?
  | .union members => .union <$> keys? members
  | node => some node

def keys? : List Node → Option (List Node)
  | [] => some []
  | node :: rest => do return (← key? node) :: (← keys? rest)
end

/-- The members of a union, or the one node itself. -/
def unionMembers : Node → List Node
  | .union members => members
  | node => [node]

/-- The type of a value that is of one of the given types. -/
def ofUnion : List Node → Node
  | [] => .scalar "null"
  | [node] => node
  | members => .union members

/-- Merges types into one: unions are opened, repetitions dropped. -/
def merge (nodes : List Node) : Except Fault Node :=
  let members := nodes.flatMap unionMembers
  match keys? members with
  | none => .error .wrongKind
  | some _ => .ok (ofUnion (firstOfEach key? members))

end Node

structure Resolver where
  baseModule : Json
  names : NameTable
deriving Repr

namespace Resolver

/-- The full name of the module of a schema. -/
def moduleName (r : Resolver) (raw : Json) : Except Fault String := do
  match ← r.names.find? raw with
  | some normalized => return r.baseModule.plain ++ "." ++ normalized
  | none => .error (.dangling ⟨raw, none⟩)

def primitiveNode : Primitive → Node
  | .object => .map
  | kind => .scalar kind.label

mutual
def resolve (r : Resolver) : TypeRef → Except Fault Node
  | .primitive kind => .ok (primitiveNode kind)
  | .array item => .sequence <$> resolve r item
  | .schema name => (fun module => .named (.str module)) <$> r.moduleName name
  | .external module => .ok (.named module)
  | .union members => do Node.merge (← resolveAll r members)
  | .stray value => .error (.notReference value)

def resolveAll (r : Resolver) : List TypeRef → Except Fault (List Node)
  | [] => .ok []
  | ref :: rest => do
    let node ← resolve r ref
    return node :: (← resolveAll r rest)
end

/-- Resolves references into one type. -/
def union (r : Resolver) (refs : List TypeRef) : Except Fault Node := do
  Node.merge (← r.resolveAll refs)

end Resolver

/-- The reference that a schema, as a property of another, stands for. -/
def Schema.typeRef : Schema → TypeRef
  | ⟨name, .reference, _, _, _, _, ref⟩ => .schema (ref.orElse name)
  | ⟨_, .array, _, _, _, none, _⟩ => .array (.primitive .any)
  | ⟨_, .array, _, _, _, some items, _⟩ => .array items.typeRef
  | ⟨_, .primitive kind, _, _, _, _, _⟩ => .primitive kind

end ElixirClient

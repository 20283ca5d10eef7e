import ElixirClient.Fault

/-!
# Artifacts

What rendering yields: the parts of generated files before they become text.
-/

namespace ElixirClient

structure OperationArtifact where
  name : Json
  doc : Doc
  signature : Signature
  function : Function
deriving DecidableEq, Repr

/-- The operations of one module, in the order of their names. -/
structure OperationModule where
  name : String
  /-- The full name of the module. -/
  module : String
  /-- The path of the module's file, without extension. -/
  location : String
  operations : List OperationArtifact
deriving DecidableEq, Repr

structure SchemaArtifact where
  name : String
  module : String
  location : String
  doc : Doc
  fieldNames : List String
  fieldTypes : List (String × Node)
  decoders : List (String × Node)
deriving DecidableEq, Repr

/-- All that a run yields; `failures` are the artifacts that were left out. -/
structure GenerationResult where
  schemas : List SchemaArtifact
  modules : List OperationModule
  failures : List Dangling
deriving DecidableEq, Repr

end ElixirClient

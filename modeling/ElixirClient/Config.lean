import ElixirClient.Naming.Rules

/-!
# Configuration of a run
-/

namespace ElixirClient

/-- Where generated files go. -/
structure OutputSettings where
  schemaDir : Json := .str "lib/example/schemas"
  operationDir : Json := .str "lib/example/operations"
  extension : Json := .str ".ex"
deriving DecidableEq, Repr

structure Config where
  /-- The module that all generated modules belong to. -/
  baseModule : Json := .str "Example"
  /-- The type of every error, in place of the declared ones. -/
  errorType : Option TypeRef := none
  defaultClient : Json := .null
  naming : NamingRules := {}
  output : OutputSettings := {}
deriving Repr

namespace Config

/-- The full name of a module below the base module. -/
def qualified (config : Config) (name : Json) : String :=
  config.baseModule.plain ++ "." ++ name.plain

/-- The module that executes requests when a caller passes no client. -/
def clientModule (config : Config) : Json :=
  config.defaultClient.orElse (.str (config.qualified (.str "Client")))

end Config

end ElixirClient

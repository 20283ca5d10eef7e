import ElixirClient.Config
import ElixirClient.Descriptor.Reader

/-!
# Reading the configuration

A configuration is read from a JSON value. Patterns are compiled here, once; what is missing has a
default.
-/

namespace ElixirClient

def refuseConfiguration (cause : ConfigurationFault) : Except Fault α :=
  .error (.configuration cause)

def compilePattern (use : PatternUse) (pattern : String) : Except Fault Pattern :=
  match Pattern.compile pattern with
  | .ok compiled => .ok compiled
  | .error (.at complaint position) =>
    refuseConfiguration
      (.badPattern use pattern (Pattern.describe pattern.toList complaint position))
  | .error (.somewhere complaint) =>
    refuseConfiguration (.badPattern use pattern complaint.text)
  | .error .tooLarge => .error (.misuse .tooLarge)
  | .error _ => .error (.misuse .wrongValue)

/-- A rename rule is a list of a pattern and a replacement. The replacement is looked at only when
the rule is applied. -/
def readRenameRule : Json → Except Fault (Pattern × Json)
  | .arr [.str pattern, replacement] => do
    return (← compilePattern .rename pattern, replacement)
  | .arr [_, _] => .error .wrongKind
  | rule => refuseConfiguration (.badRenameRule rule)

def readSkipEntry (entry : Json) : Except Fault SkipEntry :=
  match entry with
  | .str name => .ok (.name name)
  | entry =>
    match entry.member? "pattern" with
    | some (.str pattern) => .pattern <$> compilePattern .skip pattern
    | _ => refuseConfiguration (.badSkipEntry entry)

def readNamespaces (value : Json) : Except Fault (List String) := do
  let items ← value.elements
  match items.mapM fun
    | .str ns => if ns = "" then none else some ns
    | _ => none with
  | some namespaces => return namespaces
  | none => refuseConfiguration (.badNamespaces value)

def readNaming : Json → Except Fault NamingRules
  | .obj members => do
    let rename ← ((members.lookup "rename").getD (.arr [])).elements
    let rename ← rename.mapM readRenameRule
    let skip ← ((members.lookup "skip").getD (.arr [])).elements
    let skip ← skip.mapM readSkipEntry
    let namespaces ← readNamespaces ((members.lookup "namespace").getD (.arr []))
    return { rename, skip, namespaces }
  | _ => .error .noSuchMember

/-- A section of the configuration; a missing one is empty. -/
def readSection (members : List (String × Json)) (name : String) :
    Except Fault (List (String × Json)) :=
  match members.lookup name with
  | none => .ok []
  | some (.obj entries) => .ok entries
  | some _ => refuseConfiguration (.sectionNotObject name)

def readErrorType (types : List (String × Json)) : Except Fault (Option TypeRef) :=
  match (types.lookup "error").getD .null with
  | .null => .ok none
  | value =>
    match readTypeRef value with
    | .ok ref => .ok (some ref)
    | .error (.descriptor cause) => refuseConfiguration (.badErrorType cause)
    | .error fault => .error fault

def readOutput (members : List (String × Json)) : OutputSettings :=
  let defaults : OutputSettings := {}
  { schemaDir := (members.lookup "schema_dir").getD defaults.schemaDir
    operationDir := (members.lookup "operation_dir").getD defaults.operationDir
    extension := (members.lookup "extension").getD defaults.extension }

def readConfig : Json → Except Fault Config
  | .obj members => do
    let types ← readSection members "types"
    let naming ← readSection members "naming"
    let output ← readSection members "output"
    let errorType ← readErrorType types
    let naming ← readNaming (.obj naming)
    let defaults : Config := {}
    return {
      baseModule := (members.lookup "base_module").getD defaults.baseModule
      errorType := errorType
      defaultClient := (members.lookup "default_client").getD .null
      naming := naming
      output := readOutput output }
  | _ => refuseConfiguration .notObject

end ElixirClient

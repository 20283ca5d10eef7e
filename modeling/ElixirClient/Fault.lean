import ElixirClient.Json.Reader
import ElixirClient.Node.Display
import ElixirClient.Pattern.Complaint

/-!
# Faults

What can go wrong, as causes. `Fault.message` gives each cause that belongs to the generator its
text; a misuse, a value of a kind that was not provided for, has none.
-/

namespace ElixirClient

/-- The use of a pattern in the configuration. -/
inductive PatternUse
  | rename
  | skip
deriving DecidableEq, Repr

def PatternUse.label : PatternUse → String
  | .rename => "rename"
  | .skip => "skip"

/-- Why a descriptor document was refused. -/
inductive DescriptorFault
  | documentNotObject
  | referenceNotObject (value : Json)
  | unsupportedReference (value : Json)
  | schemaNotObject (name : Json)
  | unsupportedKind (name kind : Json)
  | badStatus (status : String)
  | badParameter (item : Json)
  | operationNotObject
  | missingField (field : String)
  /-- The method of an operation is a value without lower case. -/
  | methodNotText (kind : String)
  | notJson (source complaint : String)
  | notFetched (url reason : String)
deriving DecidableEq, Repr

def DescriptorFault.message : DescriptorFault → String
  | .documentNotObject => "descriptor document must be an object"
  | .referenceNotObject value => "type reference must be an object, got " ++ value.quoted
  | .unsupportedReference value => "unsupported type reference " ++ value.quoted
  | .schemaNotObject name => "schema " ++ name.quoted ++ " must be an object"
  | .unsupportedKind name kind =>
    "schema " ++ name.quoted ++ " has unsupported type " ++ kind.quoted
  | .badStatus status => "invalid response status " ++ Text.quote status
  | .badParameter item => "invalid parameter " ++ item.quoted
  | .operationNotObject => "operation must be an object"
  | .missingField field => "operation is missing " ++ Text.quote field
  | .methodNotText kind => "operation is missing '" ++ kind ++ "' object has no attribute 'lower'"
  | .notJson source complaint => source ++ ": invalid JSON: " ++ complaint
  | .notFetched url reason => "failed to fetch descriptors from " ++ url ++ ": " ++ reason

/-- Why a configuration, or the path of an operation, was refused. -/
inductive ConfigurationFault
  | notObject
  | sectionNotObject (name : String)
  | badErrorType (cause : DescriptorFault)
  | badRenameRule (rule : Json)
  | badPattern (use : PatternUse) (pattern complaint : String)
  | badSkipEntry (entry : Json)
  | badNamespaces (value : Json)
  | notJson (source complaint : String)
  | undeclaredPlaceholder (function : Json) (placeholder path : String)
  | unusedParameter (function : Json) (parameter path : String)
  | reservedArgument (function : Json) (parameter argument : String)
  | sharedArgument (function : Json) (first second argument : String)
deriving DecidableEq, Repr

def ConfigurationFault.message : ConfigurationFault → String
  | .notObject => "configuration must be an object"
  | .sectionNotObject name => Text.quote name ++ " must be an object"
  | .badErrorType cause => "invalid error type: " ++ cause.message
  | .badRenameRule rule =>
    "rename rule must be a [pattern, replacement] pair, got " ++ rule.quoted
  | .badPattern use pattern complaint =>
    "invalid " ++ use.label ++ " pattern " ++ Text.quote pattern ++ ": " ++ complaint
  | .badSkipEntry entry =>
    "skip entry must be a name or \x7b'pattern': ...\x7d, got " ++ entry.quoted
  | .badNamespaces value => "namespaces must be non-empty strings, got " ++ value.quoted
  | .notJson source complaint => source ++ ": invalid JSON: " ++ complaint
  | .undeclaredPlaceholder function placeholder path =>
    function.plain ++ ": placeholder \x7b" ++ placeholder ++ "\x7d in " ++ Text.quote path
      ++ " has no path parameter"
  | .unusedParameter function parameter path =>
    function.plain ++ ": path parameter " ++ Text.quote parameter ++ " does not appear in "
      ++ Text.quote path
  | .reservedArgument function parameter argument =>
    function.plain ++ ": path parameter " ++ Text.quote parameter ++ " clashes with argument "
      ++ Text.quote argument
  | .sharedArgument function first second argument =>
    function.plain ++ ": path parameters " ++ Text.quote first ++ " and " ++ Text.quote second
      ++ " both map to argument " ++ Text.quote argument

/-- A schema reference that no schema answers to, and the artifact it was found in, if known. -/
structure Dangling where
  reference : Json
  artifact : Option String := none
deriving DecidableEq, Repr

namespace Dangling

/-- The artifact, unless it is unknown or has no name. -/
def owner? (d : Dangling) : Option String := d.artifact.filter (· ≠ "")

def message (d : Dangling) : String :=
  let text := "unknown schema reference " ++ d.reference.quoted
  match d.owner? with
  | some artifact => artifact ++ ": " ++ text
  | none => text

/-- The same reference found in an artifact. One that belongs to an artifact already stays. -/
def attributedTo (artifact : String) (d : Dangling) : Dangling :=
  if d.owner?.isSome then d else { d with artifact := some artifact }

end Dangling

/-- A value of a kind that an operation on it does not take. -/
inductive Misuse
  /-- The operation is not defined on values of this kind. -/
  | wrongKind
  /-- Values of this kind do not have the part that is asked for. -/
  | noSuchMember
  /-- The value is of the right kind, but not such a value: a pair without two items. -/
  | wrongValue
  | noSuchGroup
  | noSuchKey
  | tooLarge
deriving DecidableEq, Repr

/-- What the file system has in place of what is wanted. -/
inductive FileFault
  | missing (path : String)
  | isDirectory
  | notDirectory
  | isFile
deriving DecidableEq, Repr

inductive Fault
  | configuration (cause : ConfigurationFault)
  | descriptor (cause : DescriptorFault)
  | dangling (cause : Dangling)
  /-- The replacement of a rename rule. -/
  | replacement (text : String) (complaint : Pattern.Complaint) (position : Nat)
  | unknownSteps (names : List String)
  | notReference (value : Json)
  | notType (node : Node)
  | notExpression (node : Node)
  | misuse (cause : Misuse)
  | file (cause : FileFault)
deriving DecidableEq, Repr

namespace Fault

/-- The text of a fault, for those that have one. -/
def message? : Fault → Option String
  | configuration cause => some cause.message
  | descriptor cause => some cause.message
  | dangling cause => some cause.message
  | replacement text complaint position =>
    some (Pattern.describe text.toList complaint position)
  | unknownSteps names => some ("unknown rendering steps: " ++ ", ".intercalate names)
  | notReference value => some ("not a type reference: " ++ value.quoted)
  | notType node => some ("cannot render type " ++ node.shown)
  | notExpression node => some ("cannot render expression " ++ node.shown)
  | file (.missing path) => some ("[Errno 2] No such file or directory: " ++ Text.quote path)
  | misuse _ | file _ => none

def wrongKind : Fault := misuse .wrongKind

def noSuchMember : Fault := misuse .noSuchMember

end Fault

/-- Goes through a value in order. -/
def Json.elements (value : Json) : Except Fault (List Json) :=
  match value.elements? with
  | some items => .ok items
  | none => .error .wrongKind

/-- Sorts stably by a key of each item. -/
def orderly (sorted : Option α) : Except Fault α :=
  match sorted with
  | some items => .ok items
  | none => .error .wrongKind

end ElixirClient

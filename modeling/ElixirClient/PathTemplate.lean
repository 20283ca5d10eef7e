import ElixirClient.Descriptor
import ElixirClient.Fault
import ElixirClient.Naming.Words

/-!
# Path templates

A path holds placeholders: braces around a name that is not empty and holds no brace. Every
placeholder must be a declared parameter, and every declared parameter a placeholder. Parameters
become arguments of the generated function, under names of their own.

A path is scanned twice. Scanning for any placeholder (`PathPart.ofPath`) is what the check of the
parameters rests on. The url is made by looking for the declared names alone, each in its braces
(`PathPart.divideAt`).
-/

namespace ElixirClient

inductive PathPart
  | text (cs : List Char)
  | placeholder (name : List Char)
deriving DecidableEq, Repr

namespace PathPart

/-- A text part in front of others, unless it is empty. The text is given last character first. -/
def consText (reversed : List Char) (parts : List PathPart) : List PathPart :=
  if reversed.isEmpty then parts else .text reversed.reverse :: parts

/-- The parts of a path. What has been read of the current text and, behind an opening brace, of a
name comes last character first. -/
def scan (text : List Char) : Option (List Char) → List Char → List PathPart
  | none, [] => consText text []
  | some name, [] => consText (name ++ '\x7b' :: text) []
  | none, c :: rest =>
    if c = '\x7b' then scan text (some []) rest else scan (c :: text) none rest
  | some name, c :: rest =>
    if c = '\x7b' then scan (name ++ '\x7b' :: text) (some []) rest
    else if c = '\x7d' then
      if name.isEmpty then scan ('\x7d' :: '\x7b' :: text) none rest
      else consText text (.placeholder name.reverse :: scan [] none rest)
    else scan text (some (c :: name)) rest

def ofPath (path : List Char) : List PathPart := scan [] none path

def placeholder? : PathPart → Option (List Char)
  | .placeholder name => some name
  | .text _ => none

/-- A part as it stands in the path. -/
def source : PathPart → List Char
  | .text cs => cs
  | .placeholder name => '\x7b' :: name ++ ['\x7d']

/-- The path divided wherever one of the names stands in braces; of several that do, the first one
counts. What has been read of the current text comes last character first. -/
def divideAt (names : List (List Char)) (text : List Char) : List Char → List PathPart
  | [] => consText text []
  | c :: rest =>
    match names.find? fun name => (placeholder name).source.isPrefixOf (c :: rest) with
    | some name =>
      consText text (.placeholder name :: divideAt names [] (rest.drop (name.length + 1)))
    | none => divideAt names (c :: text) rest
termination_by cs => cs.length

end PathPart

/-- The names of the placeholders of a path from left to right, repeated ones repeatedly. -/
def placeholders (path : String) : List String :=
  (PathPart.ofPath path.toList).filterMap fun part => part.placeholder?.map String.ofList

/-- Raw parameter names with the names of their arguments, in the order of declaration. -/
abbrev Arguments := List (String × String)

/-- Names of arguments that every generated function may have already. -/
def reservedArguments : List String := ["body", "opts"]

namespace Operation

def refusePath (cause : ConfigurationFault) : Except Fault α := .error (.configuration cause)

/-- The argument of one more path parameter. Its name must not be taken. -/
def addArgument (operation : Operation) (done : Arguments) (param : Param) :
    Except Fault Arguments :=
  match param.name with
  | .str raw =>
    let name := Naming.variableName raw
    if reservedArguments.contains name then
      refusePath (.reservedArgument operation.functionName raw name)
    else
      match done.find? fun (_, other) => other = name with
      | some (first, _) => refusePath (.sharedArgument operation.functionName first raw name)
      | none => .ok (done ++ [(raw, name)])
  | _ => .error .wrongKind

/-- The arguments of the path parameters. -/
def pathArguments (operation : Operation) : Except Fault Arguments :=
  operation.pathParams.foldlM operation.addArgument []

def pathText (operation : Operation) : Except Fault String :=
  match operation.path with
  | .str path => .ok path
  | _ => .error .wrongKind

/-- Every placeholder is a parameter, and every parameter is a placeholder. -/
def checkPath (operation : Operation) (path : String) (arguments : Arguments) :
    Except Fault Unit :=
  let holes := placeholders path
  match holes.find? fun name => (arguments.lookup name).isNone with
  | some name => refusePath (.undeclaredPlaceholder operation.functionName name path)
  | none =>
    match arguments.find? fun (raw, _) => !holes.contains raw with
    | some (raw, _) => refusePath (.unusedParameter operation.functionName raw path)
    | none => .ok ()

/-- The path, divided at the declared names in the order of declaration. Where there are none, the
path is one text. -/
def urlParts (path : String) (arguments : Arguments) : List PathPart :=
  if arguments.isEmpty then
    if path = "" then [] else [.text path.toList]
  else PathPart.divideAt (arguments.map fun entry => entry.1.toList) [] path.toList

/-- A part of a path with its placeholder turned into the argument of that name. -/
def partPiece (arguments : Arguments) : PathPart → Piece
  | .text cs => .text (String.ofList cs)
  | .placeholder name => .var ((arguments.lookup (String.ofList name)).getD "")

/-- The path as a text with the arguments in the place of the placeholders. -/
def url (operation : Operation) : Except Fault (List Piece) := do
  let arguments ← operation.pathArguments
  let path ← operation.pathText
  operation.checkPath path arguments
  return (urlParts path arguments).map (partPiece arguments)

end Operation

end ElixirClient

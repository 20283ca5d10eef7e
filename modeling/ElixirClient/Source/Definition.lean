import ElixirClient.Source.Expr
import ElixirClient.Text.Letter
import ElixirClient.Text.Lines

/-!
# Definitions as text

Documentation is written as a heredoc: text between lines of three quotation marks. The body of a
function is indented below its head, and its last expression stands apart from those before.
-/

namespace ElixirClient.Source

/-- The inside of a heredoc: backslashes, openings of interpolations and runs of three quotation
marks are escaped. -/
def heredocChars : List Char → List Char
  | [] => []
  | '\\' :: rest => '\\' :: '\\' :: heredocChars rest
  | '#' :: '\x7b' :: rest => '\\' :: '#' :: '\x7b' :: heredocChars rest
  | '"' :: '"' :: '"' :: rest => '\\' :: '"' :: '\\' :: '"' :: '\\' :: '"' :: heredocChars rest
  | c :: rest => c :: heredocChars rest

def heredoc (text : String) : String :=
  "\"\"\"\n" ++ String.ofList (heredocChars text.toList) ++ "\n\"\"\""

/-- Documentation under a module attribute. Only text can be written. -/
def documentation (name : String) (doc : Doc) : Except Fault String :=
  match doc.text with
  | .str text => .ok ("@" ++ name ++ " " ++ heredoc text)
  | _ => .error .noSuchMember

def docText (doc : Doc) : Except Fault String := documentation "doc" doc

def moduledocText (doc : Doc) : Except Fault String := documentation "moduledoc" doc

def specText (signature : Signature) : Except Fault String := do
  let arguments ← typeTexts signature.arguments
  return "@spec " ++ signature.name.plain ++ "(" ++ ", ".intercalate arguments ++ ") :: "
    ++ (← typeText signature.returnType)

def argumentText (argument : Argument) : Except Fault String :=
  match argument.default with
  | none => .ok argument.name
  | some default => do return argument.name ++ " \\\\ " ++ (← exprText default)

/-- A text with two blanks in front of every line that is not blank. -/
def indentLines (cs : List Char) : List Char :=
  (Text.lines cs).flatMap fun line =>
    (if line.text.all Text.isBlank then [] else [' ', ' ']) ++ line.text

/-- The statements of a body: the last one after an empty line if others precede it. -/
def bodyText : List String → String
  | [] => "nil"
  | [last] => last
  | statements => "\n".intercalate statements.dropLast ++ "\n\n" ++ statements.getLastD ""

def functionText (function : Function) : Except Fault String := do
  let arguments ← function.arguments.mapM argumentText
  let body := bodyText (← exprTexts function.body)
  return "def " ++ function.name.plain ++ "(" ++ ", ".intercalate arguments ++ ") do\n"
    ++ String.ofList (indentLines body.toList) ++ "\nend"

end ElixirClient.Source

import ElixirClient.Node
import ElixirClient.Json.Display

/-!
# How nodes are shown in messages

A node is shown with the name of its kind and its named parts, a sequence of parts in parentheses.
-/

namespace ElixirClient

/-- A sequence of shown parts; a single one is followed by a comma. -/
def shownTuple : List String → String
  | [] => "()"
  | [part] => "(" ++ part ++ ",)"
  | parts => "(" ++ ", ".intercalate parts ++ ")"

/-- A kind with its named parts. -/
def shownRecord (kind : String) (parts : List (String × String)) : String :=
  kind ++ "(" ++ ", ".intercalate (parts.map fun (name, value) => name ++ "=" ++ value) ++ ")"

def shownVar (name : String) : String := shownRecord "Var" [("name", Text.quote name)]

def Piece.shown : Piece → String
  | .text s => Text.quote s
  | .var name => shownVar name

namespace Node

mutual
def shown : Node → String
  | .scalar name => shownRecord "ScalarType" [("name", Text.quote name)]
  | .sequence item => shownRecord "SequenceType" [("item", shown item)]
  | .map => shownRecord "MapType" []
  | .named module => shownRecord "NamedType" [("module", module.quoted)]
  | .options => shownRecord "OptionsType" []
  | .union members => shownRecord "TypeUnion" [("members", shownTuple (shownAll members))]
  | .marker tag => shownRecord "Tagged" [("tag", Text.quote tag), ("payload", "None")]
  | .tagged tag payload =>
    shownRecord "Tagged" [("tag", Text.quote tag), ("payload", shown payload)]
  | .var name => shownVar name
  | .atom name => shownRecord "Atom" [("name", name.quoted)]
  | .literal value => shownRecord "Literal" [("value", value.quoted)]
  | .moduleRef module => shownRecord "ModuleRef" [("module", Text.quote module)]
  | .attribute name => shownRecord "Attribute" [("name", Text.quote name)]
  | .typeValue type => shownRecord "TypeValue" [("type", shown type)]
  | .access subject key =>
    shownRecord "Access" [("subject", shown subject), ("key", shown key)]
  | .fallback primary alternative =>
    shownRecord "Fallback" [("primary", shown primary), ("fallback", shown alternative)]
  | .selectKeys source keys =>
    shownRecord "SelectKeys"
      [("source", shown source), ("keys", shownTuple (keys.map Json.quoted))]
  | .pair key value => shownRecord "Pair" [("key", shown key), ("value", shown value)]
  | .list items => shownRecord "ListLiteral" [("items", shownTuple (shownAll items))]
  | .mapLiteral entries =>
    shownRecord "MapLiteral" [("entries", shownTuple (shownEntries entries))]
  | .interpolation pieces =>
    shownRecord "StringInterp" [("parts", shownTuple (pieces.map Piece.shown))]
  | .call target function args =>
    shownRecord "CallExpr"
      [("target", shown target), ("function", Text.quote function),
        ("args", shownTuple (shownAll args))]
  | .assign target value =>
    shownRecord "Assign" [("target", shownVar target), ("value", shown value)]
  | .stray s => s

def shownAll : List Node → List String
  | [] => []
  | node :: rest => shown node :: shownAll rest

def shownEntries : List (String × Node) → List String
  | [] => []
  | (key, node) :: rest => shownTuple [Text.quote key, shown node] :: shownEntries rest
end

end Node

def Doc.shown (doc : Doc) : String := shownRecord "Doc" [("text", doc.text.quoted)]

def Argument.shown (argument : Argument) : String :=
  shownRecord "Argument"
    [("name", Text.quote argument.name),
      ("default", argument.default.elim "None" Node.shown)]

def Signature.shown (signature : Signature) : String :=
  shownRecord "Signature"
    [("name", signature.name.quoted),
      ("arguments", shownTuple (signature.arguments.map Node.shown)),
      ("return_type", signature.returnType.shown)]

def Function.shown (function : Function) : String :=
  shownRecord "FunctionDef"
    [("name", function.name.quoted),
      ("arguments", shownTuple (function.arguments.map Argument.shown)),
      ("body", shownTuple (function.body.map Node.shown))]

end ElixirClient

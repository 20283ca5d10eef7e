import ElixirClient.Source.Type

/-!
# Expressions as text

A list whose items are all pairs with an atom for a key is written as a keyword list. A map is
written with an entry on each line.
-/

namespace ElixirClient.Source

/-- An atom whose name is text. -/
def atomText : Json → Except Fault String
  | .str name => .ok (atom name)
  | _ => .error .wrongKind

def atomKeyText : Json → Except Fault String
  | .str name => .ok (atomKey name)
  | _ => .error .wrongKind

def literalText : Json → Except Fault String
  | .null => .ok "nil"
  | .bool b => .ok (if b then "true" else "false")
  | .int n => .ok (toString n)
  | .float x => .ok x.text
  | .str s => .ok (stringLiteral s)
  | .arr _ | .obj _ => .error .noSuchMember

def pieceText : Piece → String
  | .text s => escapeString s
  | .var name => "#" ++ inBraces name

def interpolationText (pieces : List Piece) : String :=
  "\"" ++ String.join (pieces.map pieceText) ++ "\""

/-- A pair with an atom for a key. -/
def isKeyword : Node → Bool
  | .pair (.atom _) _ => true
  | _ => false

def mapText (entries : List String) : String :=
  match entries with
  | [] => "%\x7b\x7d"
  | entries => "%\x7b\n" ++ ",\n".intercalate entries ++ "\n\x7d"

mutual
def exprText : Node → Except Fault String
  | .var name => .ok name
  | .atom name => atomText name
  | .literal value => literalText value
  | .moduleRef module => .ok module
  | .attribute name => .ok ("@" ++ name)
  | .typeValue type => markerText type
  | .access subject key => do
    let subject ← exprText subject
    return subject ++ "[" ++ (← exprText key) ++ "]"
  | .fallback primary alternative => do
    let primary ← exprText primary
    return primary ++ " || " ++ (← exprText alternative)
  | .selectKeys source keys => do
    let keys ← keys.mapM atomText
    return "Keyword.take(" ++ (← exprText source) ++ ", [" ++ ", ".intercalate keys ++ "])"
  | .pair key value => do
    let key ← exprText key
    return inBraces (key ++ ", " ++ (← exprText value))
  | .list items => do
    let items ← if items ≠ [] ∧ items.all isKeyword then keywordTexts items else exprTexts items
    return "[" ++ ", ".intercalate items ++ "]"
  | .mapLiteral entries => do return mapText (← entryTexts entries)
  | .interpolation pieces => .ok (interpolationText pieces)
  | .call target function args => do
    let args ← exprTexts args
    return (← exprText target) ++ "." ++ function ++ "(" ++ ", ".intercalate args ++ ")"
  | .assign target value => do return target ++ " = " ++ (← exprText value)
  | node => .error (.notExpression node)

def exprTexts : List Node → Except Fault (List String)
  | [] => .ok []
  | node :: rest => do
    let text ← exprText node
    return text :: (← exprTexts rest)

/-- The items of a keyword list. -/
def keywordTexts : List Node → Except Fault (List String)
  | [] => .ok []
  | .pair (.atom name) value :: rest => do
    let key ← atomKeyText name
    let text ← exprText value
    return (key ++ " " ++ text) :: (← keywordTexts rest)
  | node :: rest => do
    let text ← exprText node
    return text :: (← keywordTexts rest)

def entryTexts : List (String × Node) → Except Fault (List String)
  | [] => .ok []
  | (key, value) :: rest => do
    let text ← exprText value
    return ("  " ++ atomKey key ++ " " ++ text) :: (← entryTexts rest)
end

end ElixirClient.Source

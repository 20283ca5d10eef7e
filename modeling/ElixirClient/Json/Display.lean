import ElixirClient.Json
import ElixirClient.Number.Shortest
import ElixirClient.Text.Quoted

/-!
# How values are shown in messages

`quoted` shows a value so that its kind can be told: strings in quotes, `None`, `True` and `False`,
lists and objects with their members. `plain` shows a string as it stands and any other value
quoted.
-/

namespace ElixirClient.Json

mutual
def quoted : Json → String
  | .null => "None"
  | .bool b => if b then "True" else "False"
  | .int n => toString n
  | .float x => x.text
  | .str s => Text.quote s
  | .arr items => "[" ++ ", ".intercalate (quotedItems items) ++ "]"
  | .obj members => "\x7b" ++ ", ".intercalate (quotedMembers members) ++ "\x7d"

def quotedItems : List Json → List String
  | [] => []
  | item :: rest => quoted item :: quotedItems rest

def quotedMembers : List (String × Json) → List String
  | [] => []
  | (key, value) :: rest => (Text.quote key ++ ": " ++ quoted value) :: quotedMembers rest
end

def plain : Json → String
  | .str s => s
  | value => quoted value

/-- The name of a value's kind. -/
def kindName : Json → String
  | .null => "NoneType"
  | .bool _ => "bool"
  | .int _ => "int"
  | .float _ => "float"
  | .str _ => "str"
  | .arr _ => "list"
  | .obj _ => "dict"

end ElixirClient.Json

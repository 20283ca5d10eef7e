import ElixirClient.Fault
import ElixirClient.Source.Literal

/-!
# Types as text

A type node is written in two ways: `typeText` is the type itself, for specifications and struct
types; `markerText` is a value that names the type, for the tables of a request descriptor.
-/

namespace ElixirClient.Source

def scalarType : String → String
  | "boolean" => "boolean"
  | "integer" => "integer"
  | "number" => "number"
  | "string" => "String.t()"
  | "null" => "nil"
  | _ => "any"

def scalarMarker : String → String
  | "boolean" => ":boolean"
  | "integer" => ":integer"
  | "number" => ":number"
  | "string" => ":string"
  | "null" => ":null"
  | _ => ":unknown"

def inBraces (s : String) : String := "\x7b" ++ s ++ "\x7d"

mutual
def typeText : Node → Except Fault String
  | .scalar name => .ok (scalarType name)
  | .sequence item => do return "[" ++ (← typeText item) ++ "]"
  | .map => .ok "map"
  | .named module => .ok (module.plain ++ ".t()")
  | .options => .ok "keyword"
  | .union members => do return " | ".intercalate (← typeTexts members)
  | .marker tag => .ok (atom tag)
  | .tagged tag payload => do return inBraces (atom tag ++ ", " ++ (← typeText payload))
  | node => .error (.notType node)

def typeTexts : List Node → Except Fault (List String)
  | [] => .ok []
  | node :: rest => do
    let text ← typeText node
    return text :: (← typeTexts rest)
end

mutual
def markerText : Node → Except Fault String
  | .scalar name => .ok (scalarMarker name)
  | .sequence item => do return "[" ++ (← markerText item) ++ "]"
  | .map => .ok ":map"
  | .named module => .ok (inBraces (module.plain ++ ", :t"))
  | .options => .ok ":keyword"
  | .union members => do
    return inBraces (":union, [" ++ ", ".intercalate (← markerTexts members) ++ "]")
  | .marker tag => .ok (atom tag)
  | .tagged tag payload => do return inBraces (atom tag ++ ", " ++ (← markerText payload))
  | node => .error (.notType node)

def markerTexts : List Node → Except Fault (List String)
  | [] => .ok []
  | node :: rest => do
    let text ← markerText node
    return text :: (← markerTexts rest)
end

end ElixirClient.Source

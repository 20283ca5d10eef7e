import ElixirClient.Descriptor
import ElixirClient.Fault
import ElixirClient.Naming.Words
import ElixirClient.Pattern.Replacement

/-!
# Naming rules

A raw schema name becomes the name of a module: dashes count as underscores, words are joined in
camel case, rename rules are applied in order, and the first namespace that the name begins with is
set apart by a dot.
-/

namespace ElixirClient

/-- An entry of the skip list: one name, or a pattern for names. -/
inductive SkipEntry
  | name (name : String)
  | pattern (pattern : Pattern)
deriving Repr

structure NamingRules where
  /-- Patterns with what takes the place of their matches. -/
  rename : List (Pattern × Json) := []
  skip : List SkipEntry := []
  /-- None of them is empty. -/
  namespaces : List String := []
deriving Repr

namespace NamingRules

/-- Replaces every match of a pattern. A replacement that is no text cannot be applied. -/
def applyRename (pattern : Pattern) (replacement : Json) (name : String) : Except Fault String :=
  match replacement with
  | .str text =>
    match pattern.replaceAll text name with
    | .ok name => .ok name
    | .error (.at complaint position) => .error (.replacement text complaint position)
    | .error (.noSuchGroup _) => .error (.misuse .noSuchGroup)
    | .error .tooLarge => .error (.misuse .tooLarge)
    | .error _ => .error (.misuse .wrongValue)
  | _ => .error .wrongKind

def applyRenames (rules : NamingRules) (name : String) : Except Fault String :=
  rules.rename.foldlM (fun name (pattern, replacement) => applyRename pattern replacement name)
    name

/-- Sets the first of the namespaces that the name begins with apart from the rest. A name that is
set apart already stays as it is. -/
def qualify (name : List Char) : List (List Char) → List Char
  | [] => name
  | ns :: others =>
    if ns.isPrefixOf name then
      let remainder := name.drop ns.length
      let bare := Naming.strip '.' remainder
      if remainder.head? = some '.' ∧ bare ≠ [] then name
      else if bare = [] then ns
      else ns ++ '.' :: bare
    else qualify name others

/-- The part of a name before its first dot, and the part after it if there is a dot. -/
def splitHead (name : List Char) : List Char × Option (List Char) :=
  let head := name.takeWhile (· ≠ '.')
  match name.drop head.length with
  | [] => (head, none)
  | _ :: rest => (head, some rest)

def camelizeRaw (raw : List Char) : List Char :=
  Naming.camelizeChars (Naming.replaceChar '-' '_' raw)

/-- Camel case, but for what follows a namespace and a dot: that has been normalized before. -/
def spell (rules : NamingRules) (raw : List Char) : List Char :=
  let (head, rest) := splitHead raw
  let head := camelizeRaw head
  match rest with
  | some rest =>
    if rules.namespaces.contains (String.ofList head) then head ++ '.' :: rest
    else camelizeRaw raw
  | none => camelizeRaw raw

/-- The name of the module for a raw name. -/
def normalize (rules : NamingRules) (raw : String) : Except Fault String := do
  let name ← rules.applyRenames (String.ofList (rules.spell raw.toList))
  return String.ofList (qualify name.toList (rules.namespaces.map String.toList))

/-- Whether a normalized name is excluded. -/
def excludes (rules : NamingRules) (name : String) : Bool :=
  rules.skip.any fun
    | .name entry => entry = name
    | .pattern pattern => pattern.search name

end NamingRules

/-- Normalized names by raw name, in the order of the schemas. -/
abbrev NameTable := List (String × String)

namespace NameTable

/-- The table of the names of all schemas. A name that is no text has no normalized form. -/
def build (rules : NamingRules) (schemas : List Schema) : Except Fault NameTable :=
  schemas.foldlM (fun table schema =>
    match schema.name with
    | .str raw => do return Json.insertMember raw (← rules.normalize raw) table
    | _ => .error .noSuchMember) []

/-- Looks a raw name up. Lists and objects are no keys; any other value but a string is no key of
this table. -/
def find? (table : NameTable) (raw : Json) : Except Fault (Option String) :=
  match raw with
  | .str raw => .ok (table.lookup raw)
  | .arr _ | .obj _ => .error .wrongKind
  | _ => .ok none

end NameTable

end ElixirClient

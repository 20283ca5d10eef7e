import ElixirClient.Text.Case
import ElixirClient.Text.Letter
import ElixirClient.Text.Split

/-!
# Words in names

Names are segments separated by dots, and segments are words: separated by underscores in a raw
name, begun by capital letters in a module name. `camelize` joins words, `underscore` parts them
again for paths, and `variableName` makes an identifier of any text.
-/

namespace ElixirClient.Naming

def replaceChar (old new : Char) (cs : List Char) : List Char :=
  cs.map fun c => if c = old then new else c

/-! ### Joining words -/

/-- A word with its first letter in upper case and the others as they are. -/
def capitalize : List Char → List Char
  | [] => []
  | c :: rest => Text.upperChar c ++ rest

/-- The words of a segment, capitalized and joined. -/
def camelizeSegment (segment : List Char) : List Char :=
  (Text.splitAt '_' segment).flatMap capitalize

def camelizeChars (cs : List Char) : List Char :=
  Text.joinWith '.' ((Text.splitAt '.' cs).map camelizeSegment)

/-- Upper camel case in each segment of a name. -/
def camelize (name : String) : String := String.ofList (camelizeChars name.toList)

/-! ### Parting words -/

def isUpper (c : Char) : Bool := 'A' ≤ c && c ≤ 'Z'

def isLower (c : Char) : Bool := 'a' ≤ c && c ≤ 'z'

/-- Sets an underscore between a capital letter and a capital that begins a word: between the `P`
and the `K` of `HTTPKey`. -/
def partAcronyms : List Char → List Char
  | a :: b :: c :: rest =>
    if isUpper a && isUpper b && isLower c then a :: '_' :: partAcronyms (b :: c :: rest)
    else a :: partAcronyms (b :: c :: rest)
  | short => short

/-- Sets an underscore between a small letter or a digit and a capital letter. -/
def partWords : List Char → List Char
  | a :: b :: rest =>
    if (isLower a || Text.isDecimal a) && isUpper b then a :: '_' :: partWords (b :: rest)
    else a :: partWords (b :: rest)
  | short => short

def underscoreSegment (segment : List Char) : List Char :=
  Text.lower (partWords (partAcronyms segment))

def underscoreChars (cs : List Char) : List Char :=
  Text.joinWith '/' ((Text.splitAt '.' cs).map underscoreSegment)

/-- The path of a module name: its words in lower case with underscores between them, its segments
with slashes. -/
def underscore (name : String) : String := String.ofList (underscoreChars name.toList)

/-! ### Identifiers -/

def isIdentifierChar (c : Char) : Bool :=
  isLower c || isUpper c || ('0' ≤ c && c ≤ '9') || c = '_'

/-- Runs of underscores become one. -/
def squeeze : List Char → List Char
  | '_' :: '_' :: rest => squeeze ('_' :: rest)
  | c :: rest => c :: squeeze rest
  | [] => []

/-- A text without the given character at its ends. -/
def strip (c : Char) (cs : List Char) : List Char :=
  ((cs.dropWhile (· = c)).reverse.dropWhile (· = c)).reverse

def startsWithDigit : List Char → Bool
  | c :: _ => Text.isDecimal c
  | [] => false

def variableChars (cs : List Char) : List Char :=
  let plain := cs.map fun c => if isIdentifierChar c then c else '_'
  let words := replaceChar '/' '_' (underscoreChars (replaceChar '_' '.' plain))
  let name := strip '_' (squeeze words)
  if name.isEmpty || startsWithDigit name then 'p' :: '_' :: name else name

/-- An identifier in lower case for any text; one that would be empty or begin with a digit is
begun with `p_`. -/
def variableName (name : String) : String := String.ofList (variableChars name.toList)

end ElixirClient.Naming

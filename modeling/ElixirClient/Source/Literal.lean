/-!
# String literals and atoms

In a string literal the backslash, the quotation mark, the line feed and the opening of an
interpolation are escaped. An atom is written plainly if it is an identifier, which a question or
exclamation mark may end, and as a string literal otherwise.
-/

namespace ElixirClient.Source

/-- The inside of a string literal. -/
def escapeChars : List Char → List Char
  | [] => []
  | '\\' :: rest => '\\' :: '\\' :: escapeChars rest
  | '"' :: rest => '\\' :: '"' :: escapeChars rest
  | '\n' :: rest => '\\' :: 'n' :: escapeChars rest
  | '#' :: '\x7b' :: rest => '\\' :: '#' :: '\x7b' :: escapeChars rest
  | c :: rest => c :: escapeChars rest

def literalChars (cs : List Char) : List Char := '"' :: escapeChars cs ++ ['"']

def isAtomStart (c : Char) : Bool := ('a' ≤ c && c ≤ 'z') || c = '_'

def isAtomChar (c : Char) : Bool := isAtomStart c || ('A' ≤ c && c ≤ 'Z') || ('0' ≤ c && c ≤ '9')

/-- Characters of an identifier, and a mark after the last of them if wanted. -/
def isAtomTail : List Char → Bool
  | [] => true
  | [c] => isAtomChar c || c = '?' || c = '!'
  | c :: rest => isAtomChar c && isAtomTail rest

/-- Whether an atom needs no quotes. -/
def isPlainAtom : List Char → Bool
  | [] => false
  | c :: rest => isAtomStart c && isAtomTail rest

def atomName (cs : List Char) : List Char := if isPlainAtom cs then cs else literalChars cs

def atomChars (cs : List Char) : List Char := ':' :: atomName cs

/-- An atom as the key of a keyword list or a map. -/
def atomKeyChars (cs : List Char) : List Char := atomName cs ++ [':']

def escapeString (s : String) : String := String.ofList (escapeChars s.toList)

def stringLiteral (s : String) : String := String.ofList (literalChars s.toList)

def atom (s : String) : String := String.ofList (atomChars s.toList)

def atomKey (s : String) : String := String.ofList (atomKeyChars s.toList)

end ElixirClient.Source

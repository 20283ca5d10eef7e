import ElixirClient.Pattern.Complaint

/-!
# Scanning patterns and replacements

Text is scanned with one token of lookahead. A backslash and the character after it are one token,
so a lone backslash at the end is refused as soon as it comes into view.
-/

namespace ElixirClient.Pattern

inductive Token
  | plain (c : Char)
  | escaped (c : Char)
deriving DecidableEq, Repr

namespace Token

def chars : Token → List Char
  | plain c => [c]
  | escaped c => ['\\', c]

def text (t : Token) : String := String.ofList t.chars

def size (t : Token) : Nat := t.chars.length

end Token

/-- The token in view and the text behind it, which begins at `index`. -/
structure Scan where
  index : Nat
  next : Option Token
  rest : List Char
deriving Repr

namespace Scan

/-- The place of the token in view. -/
def position (s : Scan) : Nat := s.index - s.next.elim 0 Token.size

/-- Brings the next token into view. -/
def advance (s : Scan) : Except Error Scan :=
  match s.rest with
  | [] => .ok { s with next := none }
  | ['\\'] => .error (.at .badEscapeAtEnd s.index)
  | '\\' :: c :: rest => .ok ⟨s.index + 2, some (.escaped c), rest⟩
  | c :: rest => .ok ⟨s.index + 1, some (.plain c), rest⟩

def start (text : List Char) : Except Error Scan := advance ⟨0, none, text⟩

/-- Complains about the text that ends `back` characters after the complaint's place. -/
def refuse (s : Scan) (complaint : Complaint) (back : Nat) : Except Error α :=
  .error (.at complaint (s.position - back))

def seesChar (s : Scan) (c : Char) : Bool := s.next == some (.plain c)

/-- The characters before a terminator, escapes as they are written; the terminator is passed over.
The fuel bounds the number of tokens. -/
def untilChar (terminator : Char) (what : String) :
    Nat → List Char → Scan → Except Error (String × Scan)
  | 0, _, s => s.refuse (.missingName what) 0
  | fuel + 1, done, s =>
    match s.next with
    | none =>
      if done.isEmpty then s.refuse (.missingName what) 0
      else s.refuse (.unterminatedName terminator) done.length
    | some token => do
      let s ← s.advance
      if token = .plain terminator then
        if done.isEmpty then s.refuse (.missingName what) 1
        else .ok (String.ofList done, s)
      else untilChar terminator what fuel (done ++ token.chars) s

def name (terminator : Char) (what : String) (s : Scan) : Except Error (String × Scan) :=
  untilChar terminator what (s.rest.length + 2) [] s

/-- At most `n` plain characters that satisfy a test. -/
def upTo (p : Char → Bool) : Nat → Scan → Except Error (List Char × Scan)
  | 0, s => .ok ([], s)
  | n + 1, s =>
    match s.next with
    | some (.plain c) =>
      if p c then do
        let (more, s) ← upTo p n (← s.advance)
        .ok (c :: more, s)
      else .ok ([], s)
    | _ => .ok ([], s)

end Scan

def isDigit (c : Char) : Bool := '0' ≤ c && c ≤ '9'

def isOctalDigit (c : Char) : Bool := '0' ≤ c && c ≤ '7'

def isHexDigit (c : Char) : Bool :=
  isDigit c || ('a' ≤ c && c ≤ 'f') || ('A' ≤ c && c ≤ 'F')

def isAsciiLetter (c : Char) : Bool := ('a' ≤ c && c ≤ 'z') || ('A' ≤ c && c ≤ 'Z')

def digitValue (c : Char) : Nat :=
  if isDigit c then c.toNat - '0'.toNat
  else if 'a' ≤ c then c.toNat - 'a'.toNat + 10
  else c.toNat - 'A'.toNat + 10

def numeral (base : Nat) (digits : List Char) : Nat :=
  digits.foldl (fun n d => n * base + digitValue d) 0

/-- The control characters that a letter after a backslash stands for. -/
def controlEscape? : Char → Option Nat
  | 'a' => some 7
  | 'b' => some 8
  | 'f' => some 12
  | 'n' => some 10
  | 'r' => some 13
  | 't' => some 9
  | 'v' => some 11
  | '\\' => some 92
  | _ => none

end ElixirClient.Pattern

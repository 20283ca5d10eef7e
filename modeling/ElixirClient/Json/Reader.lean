import ElixirClient.Json

/-!
# Reading JSON text

The reader goes through the text once, from the left, and reports the first place where it cannot
go on. Beyond the standard it takes `NaN`, `Infinity` and `-Infinity` for numbers. A repeated key
keeps its first place and its last value.
-/

namespace ElixirClient.Json

/-- What is wrong with a text. -/
inductive Complaint
  | expectingValue
  | expectingKey
  | expectingColon
  | expectingComma
  | extraData
  | unterminatedString
  | controlCharacter
  | badEscape
  | badUnicodeEscape
  | byteOrderMark
deriving DecidableEq, Repr

def Complaint.text : Complaint → String
  | .expectingValue => "Expecting value"
  | .expectingKey => "Expecting property name enclosed in double quotes"
  | .expectingColon => "Expecting ':' delimiter"
  | .expectingComma => "Expecting ',' delimiter"
  | .extraData => "Extra data"
  | .unterminatedString => "Unterminated string starting at"
  | .controlCharacter => "Invalid control character at"
  | .badEscape => "Invalid \\escape"
  | .badUnicodeEscape => "Invalid \\uXXXX escape"
  | .byteOrderMark => "Unexpected UTF-8 BOM (decode using utf-8-sig)"

/-- Why a text was not read: it is no JSON, or an integer has more digits than are taken. -/
inductive ReadError
  | malformed (complaint : Complaint) (position : Nat)
  | oversizedInteger
deriving DecidableEq, Repr

/-- The complaint with its place: line and column from one, and the position from zero. -/
def describe (text : List Char) (complaint : Complaint) (position : Nat) : String :=
  let before := text.take position
  let line := before.count '\n' + 1
  let column := (before.reverse.takeWhile (· ≠ '\n')).length + 1
  s!"{complaint.text}: line {line} column {column} (char {position})"

/-- The rest of the text and its position in the whole. -/
structure Cursor where
  position : Nat
  rest : List Char
deriving Repr

namespace Cursor

def advance (n : Nat) (c : Cursor) : Cursor := ⟨c.position + n, c.rest.drop n⟩

/-- Passes over the characters at the front that satisfy a test, and returns them too. -/
def span (p : Char → Bool) (c : Cursor) : List Char × Cursor :=
  let taken := c.rest.takeWhile p
  (taken, ⟨c.position + taken.length, c.rest.dropWhile p⟩)

def skipBlank (c : Cursor) : Cursor :=
  (c.span fun x => x = ' ' || x = '\t' || x = '\n' || x = '\r').2

end Cursor

abbrev ReadM := Except ReadError

def fail (complaint : Complaint) (position : Nat) : ReadM α :=
  .error (.malformed complaint position)

/-! ### Strings -/

def hexValue? (c : Char) : Option Nat :=
  if '0' ≤ c ∧ c ≤ '9' then some (c.toNat - '0'.toNat)
  else if 'a' ≤ c ∧ c ≤ 'f' then some (c.toNat - 'a'.toNat + 10)
  else if 'A' ≤ c ∧ c ≤ 'F' then some (c.toNat - 'A'.toNat + 10)
  else none

/-- Four hexadecimal digits, with at least one character after them. -/
def hexQuad? : List Char → Option (Nat × List Char)
  | a :: b :: c :: d :: rest => do
    let a ← hexValue? a
    let b ← hexValue? b
    let c ← hexValue? c
    let d ← hexValue? d
    if rest.isEmpty then none else some (((a * 16 + b) * 16 + c) * 16 + d, rest)
  | _ => none

def simpleEscape? : Char → Option Char
  | '"' => some '"'
  | '\\' => some '\\'
  | '/' => some '/'
  | 'b' => some '\x08'
  | 'f' => some '\x0c'
  | 'n' => some '\n'
  | 'r' => some '\r'
  | 't' => some '\t'
  | _ => none

/-- A code point written as an escape; half of a surrogate pair becomes the replacement
character. -/
def escapedChar (code : Nat) : Char := if code.isValidChar then Char.ofNat code else '\ufffd'

/-- Reads the rest of a string whose quote stands at `start`. The fuel bounds the number of
characters. -/
def readString (start : Nat) : Nat → Nat → List Char → List Char → ReadM (String × Cursor)
  | 0, _, _, _ => fail .unterminatedString start
  | fuel + 1, position, text, done =>
    match text with
    | [] => fail .unterminatedString start
    | '"' :: rest => .ok (String.ofList done.reverse, ⟨position + 1, rest⟩)
    | '\\' :: [] => fail .unterminatedString start
    | '\\' :: 'u' :: rest =>
      match hexQuad? rest with
      | none => fail .badUnicodeEscape (position + 1)
      | some (high, rest) =>
        let single := fun (_ : Unit) =>
          readString start fuel (position + 6) rest (escapedChar high :: done)
        if 0xD800 ≤ high ∧ high < 0xDC00 then
          match rest with
          | '\\' :: 'u' :: tail =>
            match hexQuad? tail with
            | some (low, tail) =>
              if 0xDC00 ≤ low ∧ low < 0xE000 then
                let code := 0x10000 + (high - 0xD800) * 0x400 + (low - 0xDC00)
                readString start fuel (position + 12) tail (escapedChar code :: done)
              else single ()
            | none =>
              if tail.length ≤ 4 then single () else fail .badUnicodeEscape (position + 7)
          | _ => single ()
        else single ()
    | '\\' :: c :: rest =>
      match simpleEscape? c with
      | some x => readString start fuel (position + 2) rest (x :: done)
      | none => fail .badEscape position
    | c :: rest =>
      if c.toNat < 0x20 then fail .controlCharacter position
      else readString start fuel (position + 1) rest (c :: done)

/-! ### Numbers -/

def isDigit (c : Char) : Bool := '0' ≤ c && c ≤ '9'

def digitsValue (ds : List Char) : Nat := ds.foldl (fun n d => n * 10 + (d.toNat - '0'.toNat)) 0

/-- The longest integer that is taken. -/
def maxIntegerDigits : Nat := 4300

/-- An exponent at the front, if it has digits: its value and length. -/
def exponent? : List Char → Option (Int × Nat)
  | e :: rest =>
    if e = 'e' ∨ e = 'E' then
      let (negative, signs, rest) := match rest with
        | '-' :: rest => (true, 1, rest)
        | '+' :: rest => (false, 1, rest)
        | rest => (false, 0, rest)
      let digits := rest.takeWhile isDigit
      if digits.isEmpty then none
      else
        let value : Int := digitsValue digits
        some (if negative then -value else value, 1 + signs + digits.length)
    else none
  | [] => none

/-- The digits of a fraction at the front. -/
def fraction? : List Char → Option (List Char)
  | '.' :: rest =>
    let digits := rest.takeWhile isDigit
    if digits.isEmpty then none else some digits
  | _ => none

/-- A number: an optional sign, an integer without leading zeros, a fraction, an exponent. What
cannot belong to it is left for what follows. -/
def readNumber (c : Cursor) : ReadM (Json × Cursor) :=
  let (negative, body) := match c.rest with
    | '-' :: rest => (true, rest)
    | rest => (false, rest)
  let whole := match body with
    | '0' :: _ => ['0']
    | _ => body.takeWhile isDigit
  if whole.isEmpty then fail .expectingValue c.position
  else
    let afterWhole := body.drop whole.length
    let fraction := fraction? afterWhole
    let afterFraction := match fraction with
      | some digits => afterWhole.drop (digits.length + 1)
      | none => afterWhole
    let exponent := exponent? afterFraction
    let rest := afterFraction.drop (exponent.elim 0 (·.2))
    let next : Cursor := ⟨c.position + (c.rest.length - rest.length), rest⟩
    if fraction.isNone && exponent.isNone then
      if maxIntegerDigits < whole.length then .error .oversizedInteger
      else
        let value : Int := digitsValue whole
        .ok (.int (if negative then -value else value), next)
    else
      let places := fraction.getD []
      let scale := (exponent.elim 0 (·.1)) - (places.length : Int)
      .ok (.float (.ofDecimal negative (digitsValue (whole ++ places)) scale), next)

/-! ### Values -/

/-- The words that stand for values. -/
def words : List (List Char × Json) :=
  [("null".toList, .null), ("true".toList, .bool true), ("false".toList, .bool false),
   ("NaN".toList, .float .notANumber), ("Infinity".toList, .float (.infinite false)),
   ("-Infinity".toList, .float (.infinite true))]

mutual
/-- Reads one value. The fuel bounds the number of values, items and members that are begun: a
bracket begins two of them. -/
def readValue : Nat → Cursor → ReadM (Json × Cursor)
  | 0, c => fail .expectingValue c.position
  | fuel + 1, c =>
    match c.rest with
    | '"' :: rest => do
      let (s, next) ← readString c.position (rest.length + 1) (c.position + 1) rest []
      return (.str s, next)
    | '\x7b' :: _ =>
      let next := (c.advance 1).skipBlank
      match next.rest with
      | '\x7d' :: _ => .ok (.obj [], next.advance 1)
      | _ => readMembers fuel next []
    | '[' :: _ =>
      let next := (c.advance 1).skipBlank
      match next.rest with
      | ']' :: _ => .ok (.arr [], next.advance 1)
      | _ => readItems fuel next []
    | text =>
      match words.find? fun (word, _) => word.isPrefixOf text with
      | some (word, value) => .ok (value, c.advance word.length)
      | none => readNumber c

/-- Reads the items of a list up to its bracket; the items before come last first. -/
def readItems : Nat → Cursor → List Json → ReadM (Json × Cursor)
  | 0, c, _ => fail .expectingValue c.position
  | fuel + 1, c, done => do
    let (item, next) ← readValue fuel c
    let next := next.skipBlank
    match next.rest with
    | ']' :: _ => return (.arr (item :: done).reverse, next.advance 1)
    | ',' :: _ => readItems fuel (next.advance 1).skipBlank (item :: done)
    | _ => fail .expectingComma next.position

/-- Reads the members of an object up to its brace. -/
def readMembers : Nat → Cursor → List (String × Json) → ReadM (Json × Cursor)
  | 0, c, _ => fail .expectingKey c.position
  | fuel + 1, c, done =>
    match c.rest with
    | '"' :: rest => do
      let (key, next) ← readString c.position (rest.length + 1) (c.position + 1) rest []
      let next := next.skipBlank
      match next.rest with
      | ':' :: _ =>
        let (value, next) ← readValue fuel (next.advance 1).skipBlank
        let next := next.skipBlank
        let members := insertMember key value done
        match next.rest with
        | '\x7d' :: _ => return (.obj members, next.advance 1)
        | ',' :: _ => readMembers fuel (next.advance 1).skipBlank members
        | _ => fail .expectingComma next.position
      | _ => fail .expectingColon next.position
    | _ => fail .expectingKey c.position
end

/-- Reads a text that holds one value and nothing else but blanks. -/
def read (text : List Char) : ReadM Json :=
  match text with
  | '\ufeff' :: _ => fail .byteOrderMark 0
  | _ => do
    let (value, next) ← readValue (2 * text.length + 2) (Cursor.skipBlank ⟨0, text⟩)
    let next := next.skipBlank
    if next.rest.isEmpty then return value else fail .extraData next.position

end ElixirClient.Json

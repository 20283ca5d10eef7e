import ElixirClient.Pattern

/-!
# Replacing matches

A replacement is text with references to groups. A text without a backslash stands for itself. The
replacement is read before the pattern is looked for, so a bad one is refused even if nothing
matches.
-/

namespace ElixirClient.Pattern

inductive ReplacementPart
  | text (chars : List Char)
  | group (index : Nat)
deriving DecidableEq, Repr

namespace ReplacementPart

/-- A reference to a group of the pattern, whose text begins `back` characters before the token in
view. -/
def reference (p : Pattern) (s : Scan) (index back : Nat) : Except Error ReplacementPart :=
  if p.groupCount < index then s.refuse (.invalidGroup index) back else .ok (.group index)

/-- A reference by name or number in angle brackets, the letter `g` passed over. -/
def named (p : Pattern) (s : Scan) : Except Error (ReplacementPart × Scan) := do
  unless s.seesChar '<' do s.refuse .missingAngle 0
  let (name, s) ← (← s.advance).name '>' "group name"
  let back := name.length + 1
  if Text.isIdentifier name.toList then
    match p.names.lookup name with
    | none => throw (.noSuchGroup name)
    | some index => return (← reference p s index back, s)
  else
    match Text.integer? name.toList with
    | none => s.refuse (.badGroupName name) back
    | some n =>
      if n < 0 then s.refuse (.badGroupName name) back
      else if 1073741823 ≤ n then s.refuse (.invalidGroup n.toNat) back
      else return (← reference p s n.toNat back, s)

/-- A decimal escape that does not begin with zero, its first digit passed over. -/
def numbered (p : Pattern) (c : Char) (s : Scan) : Except Error (ReplacementPart × Scan) := do
  let (more, s) ← s.upTo isDigit 1
  if let [d] := more then
    if isOctalDigit c && isOctalDigit d then
      let (last, s) ← s.upTo isOctalDigit 1
      if let [e] := last then
        let code := numeral 8 [c, d, e]
        if 0o377 < code then
          s.refuse (.octalOutOfRange (String.ofList ['\\', c, d, e])) 4
        return (.text [Char.ofNat code], s)
  let digits := c :: more
  return (← reference p s (numeral 10 digits) digits.length, s)

/-- What an escape stands for, the backslash and the character after it passed over. -/
def escaped (p : Pattern) (c : Char) (s : Scan) : Except Error (ReplacementPart × Scan) := do
  if c = 'g' then named p s
  else if c = '0' then
    let (digits, s) ← s.upTo isOctalDigit 2
    return (.text [Char.ofNat (numeral 8 digits % 256)], s)
  else if isDigit c then numbered p c s
  else
    match controlEscape? c with
    | some code => return (.text [Char.ofNat code], s)
    | none =>
      if isAsciiLetter c then s.refuse (.badEscape (String.ofList ['\\', c])) 2
      else return (.text ['\\', c], s)

/-- The parts of a replacement. The fuel bounds the number of tokens. -/
def readParts (p : Pattern) : Nat → Scan → Except Error (List ReplacementPart)
  | 0, _ => .ok []
  | fuel + 1, s =>
    match s.next with
    | none => .ok []
    | some (.plain c) => do return .text [c] :: (← readParts p fuel (← s.advance))
    | some (.escaped c) => do
      let (part, s) ← escaped p c (← s.advance)
      return part :: (← readParts p fuel s)

end ReplacementPart

/-- Reads a replacement for the matches of a pattern. -/
def readReplacement (p : Pattern) (text : List Char) : Except Error (List ReplacementPart) :=
  if text.contains '\\' then do ReplacementPart.readParts p (text.length + 1) (← Scan.start text)
  else .ok [.text text]

/-- The text that takes the place of a match; a group that has not matched leaves nothing. -/
def expand (text : Array Char) (m : Match) (parts : List ReplacementPart) : List Char :=
  parts.flatMap fun
    | .text chars => chars
    | .group 0 => (text.extract m.start m.finish.position).toList
    | .group index =>
      match m.finish.groups.lookup index with
      | some (start, stop) => (text.extract start stop).toList
      | none => []

/-- The text with its matches replaced; `position` is the end of the match before. -/
def splice (text : Array Char) (parts : List ReplacementPart) : Nat → List Match → List Char
  | position, [] => (text.extract position text.size).toList
  | position, m :: rest =>
    (text.extract position m.start).toList ++ expand text m parts
      ++ splice text parts m.finish.position rest

/-- Replaces every match of the pattern. -/
def replaceAll (p : Pattern) (replacement text : String) : Except Error String := do
  let parts ← readReplacement p replacement.toList
  let chars := text.toList.toArray
  return String.ofList (splice chars parts 0 (p.regex.allMatches chars))

end ElixirClient.Pattern

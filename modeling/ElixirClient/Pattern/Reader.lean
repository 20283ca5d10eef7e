import ElixirClient.Pattern.Syntax
import ElixirClient.Pattern.Scan
import ElixirClient.Text.Identifier
import ElixirClient.Text.Integer

/-!
# Reading patterns

The reader goes through a pattern once and builds its tree. Options for the whole pattern stand at
its start only, so every part is read with the options that hold for it. What can only be judged
once the whole pattern is read (the width of what is looked for behind) is checked by
`Regex.defect?` afterwards.
-/

namespace ElixirClient.Pattern

/-- Options that hold for a part of a pattern. -/
structure Options where
  ignoreCase : Bool := false
  multiline : Bool := false
  dotAll : Bool := false
  verbose : Bool := false
  ascii : Bool := false
  unicode : Bool := false
  template : Bool := false
deriving DecidableEq, Repr

namespace Options

/-- All options of either. -/
def union (a b : Options) : Options :=
  ⟨a.ignoreCase || b.ignoreCase, a.multiline || b.multiline, a.dotAll || b.dotAll,
    a.verbose || b.verbose, a.ascii || b.ascii, a.unicode || b.unicode, a.template || b.template⟩

def meets (a b : Options) : Bool :=
  a.ignoreCase && b.ignoreCase || a.multiline && b.multiline || a.dotAll && b.dotAll
    || a.verbose && b.verbose || a.ascii && b.ascii || a.unicode && b.unicode
    || a.template && b.template

/-- Options inside a group that turns some on and some off. The choice of a character set replaces
the outer one. -/
def within (outer on off : Options) : Options :=
  let chooses := on.ascii || on.unicode
  { ignoreCase := (outer.ignoreCase || on.ignoreCase) && !off.ignoreCase
    multiline := (outer.multiline || on.multiline) && !off.multiline
    dotAll := (outer.dotAll || on.dotAll) && !off.dotAll
    verbose := (outer.verbose || on.verbose) && !off.verbose
    ascii := if chooses then on.ascii else outer.ascii
    unicode := if chooses then on.unicode else outer.unicode
    template := outer.template }

/-- The option of a letter. The letter `L` is known, but stands for no option of text patterns. -/
def ofLetter? : Char → Option Options
  | 'i' => some { ignoreCase := true }
  | 'L' => some {}
  | 'm' => some { multiline := true }
  | 's' => some { dotAll := true }
  | 'x' => some { verbose := true }
  | 'a' => some { ascii := true }
  | 't' => some { template := true }
  | 'u' => some { unicode := true }
  | _ => none

def caseRule (o : Options) : CaseRule :=
  if o.ignoreCase then (if o.ascii then .ignoreAscii else .ignore) else .exact

end Options

/-- How a part of a pattern came about, as far as a repeat after it depends on that. -/
inductive Shape
  | plain
  | anchor
  | repeated
deriving DecidableEq, Repr

/-- A part of a pattern that has been read. -/
structure Part where
  regex : Regex
  width : Width
  shape : Shape := .plain
deriving Repr

def Part.ofSequence (parts : List Part) : Part :=
  { regex := Regex.ofList (parts.map Part.regex)
    width := parts.foldl (fun w p => w.add p.width) Width.none }

def Part.ofBranches (first : Part) (others : List Part) : Part :=
  { regex := others.foldl (fun r p => .either r p.regex) first.regex
    width := others.foldl (fun w p => w.either p.width) first.width }

/-- What the reader knows at a place of the pattern. -/
structure Reading where
  scan : Scan
  options : Options := {}
  /-- Widths of the groups from 1 on; an open group has none yet. -/
  groups : List (Option Width) := []
  names : List (String × Nat) := []
  /-- The number of groups where the outermost lookbehind began. -/
  lookbehindGroups : Option Nat := none
  /-- Groups that conditions refer to, with the places of the first such references. -/
  conditions : List (Nat × Nat) := []

abbrev ReadM := StateT Reading (Except Error)

namespace ReadM

def scan : ReadM Scan := return (← get).scan

def position : ReadM Nat := return (← get).scan.position

def next : ReadM (Option Token) := return (← get).scan.next

def seesChar (c : Char) : ReadM Bool := return (← get).scan.seesChar c

def setScan (s : Scan) : ReadM Unit := modify fun r => { r with scan := s }

/-- Passes over the token in view. -/
def take : ReadM (Option Token) := do
  let s ← scan
  setScan (← s.advance)
  return s.next

/-- Passes over a character if it is in view. -/
def accept (c : Char) : ReadM Bool := do
  if ← seesChar c then
    let _ ← take
    return true
  else return false

def takeWhile (p : Char → Bool) (atMost : Nat) : ReadM (List Char) := do
  let (taken, s) ← (← scan).upTo p atMost
  setScan s
  return taken

def takeName (terminator : Char) (what : String) : ReadM String := do
  let (name, s) ← (← scan).name terminator what
  setScan s
  return name

/-- Complains about the text that begins `back` characters before the token in view. -/
def refuse (complaint : Complaint) (back : Nat) : ReadM α := do
  (← scan).refuse complaint back

/-- Complains about the text that begins at a place. -/
def refuseAt (complaint : Complaint) (place : Nat) : ReadM α :=
  throw (.at complaint place)

end ReadM

open ReadM

/-! ### Groups -/

/-- The number that the next group gets. -/
def nextGroup (r : Reading) : Nat := r.groups.length + 1

/-- The width of a group that is closed. -/
def closedGroup? (r : Reading) (index : Nat) : Option Width :=
  if index = 0 then none else (r.groups[index - 1]?).join

/-- Inside a lookbehind only groups that were closed before it can be referred to. -/
def checkLookbehind (index : Nat) : ReadM Unit := do
  let r ← get
  match r.lookbehindGroups with
  | none => return
  | some outside =>
    if (closedGroup? r index).isNone then refuse .openGroup 0
    else if outside ≤ index then refuse .sameLookbehind 0

/-- A new group, which a name may stand for. -/
def openGroup (name : Option String) : ReadM Nat := do
  let r ← get
  let index := nextGroup r
  set { r with groups := r.groups ++ [none] }
  match name with
  | none => return index
  | some name =>
    match r.names.lookup name with
    | some earlier => refuse (.redefinedGroup name index earlier) (name.length + 1)
    | none =>
      modify fun r => { r with names := r.names ++ [(name, index)] }
      return index

def closeGroup (index : Nat) (width : Width) : ReadM Unit :=
  modify fun r => { r with groups := r.groups.set (index - 1) (some width) }

def checkGroupName (name : String) : ReadM Unit := do
  unless Text.isIdentifier name.toList do
    refuse (.badGroupName name) (name.length + 1)

/-- A reference to an earlier group. -/
def groupReference (options : Options) (index : Nat) : ReadM Part := do
  let r ← get
  let width := (closedGroup? r index).getD Width.none
  return { regex := .again index options.caseRule, width := width }

/-! ### Escapes -/

def literalSet (options : Options) (code : Nat) : CharSet :=
  ⟨[.range code code], false, options.caseRule⟩

def ofSet (set : CharSet) : Part := { regex := .one set, width := Width.one }

def literal (options : Options) (code : Nat) : Part := ofSet (literalSet options code)

def anchorPart (anchor : Anchor) : Part :=
  { regex := .anchor anchor, width := Width.none, shape := .anchor }

/-- The category of a letter after a backslash. -/
def categoryItem? (options : Options) : Char → Option ClassItem
  | 'd' => some (.category .digit false options.ascii)
  | 'D' => some (.category .digit true options.ascii)
  | 's' => some (.category .blank false options.ascii)
  | 'S' => some (.category .blank true options.ascii)
  | 'w' => some (.category .word false options.ascii)
  | 'W' => some (.category .word true options.ascii)
  | _ => none

def anchorEscape? (options : Options) : Char → Option Anchor
  | 'A' => some .textStart
  | 'Z' => some .textEnd
  | 'b' => some (.wordEdge options.ascii)
  | 'B' => some (.noWordEdge options.ascii)
  | _ => none

def escapeText (chars : List Char) : String := String.ofList ('\\' :: chars)

/-- The digits of an escape with a fixed number of hexadecimal ones, the letter passed over. -/
def hexEscape (letter : Char) (count : Nat) : ReadM (List Char) := do
  let digits ← takeWhile isHexDigit count
  if digits.length ≠ count then
    refuse (.incompleteEscape (escapeText (letter :: digits))) (digits.length + 2)
  else return digits

/-- Escapes by code point, the same inside and outside of sets. -/
def codeEscape? (c : Char) : ReadM (Option Nat) := do
  match c with
  | 'x' => return some (numeral 16 (← hexEscape c 2))
  | 'u' => return some (numeral 16 (← hexEscape c 4))
  | 'U' =>
    let digits ← hexEscape c 8
    let code := numeral 16 digits
    if 0x80000000 ≤ code then throw .tooLarge
    else if 0x110000 ≤ code then refuse (.badEscape (escapeText (c :: digits))) 10
    else return some code
  | 'N' =>
    unless ← accept '\x7b' do refuse .missingBrace 0
    let name ← takeName '\x7d' "character name"
    refuse (.unknownCharacterName name) (name.length + 4)
  | _ => return none

/-- An escape inside a set: a code point or a category. -/
def classEscape (options : Options) (c : Char) : ReadM (Nat ⊕ ClassItem) := do
  if let some code := controlEscape? c then return .inl code
  if let some item := categoryItem? options c then return .inr item
  if let some code ← codeEscape? c then return .inl code
  if isOctalDigit c then
    let digits := c :: (← takeWhile isOctalDigit 2)
    let code := numeral 8 digits
    if 0o377 < code then
      refuse (.octalOutOfRange (escapeText digits)) (digits.length + 1)
    else return .inl code
  else if isDigit c || isAsciiLetter c then
    refuse (.badEscape (escapeText [c])) 2
  else return .inl c.toNat

/-- A decimal escape that does not begin with zero: three octal digits are a code point, else one
or two digits refer to a group. -/
def numberEscape (options : Options) (c : Char) : ReadM Part := do
  let more ← takeWhile isDigit 1
  match more with
  | [d] =>
    if isOctalDigit c && isOctalDigit d then
      let last ← takeWhile isOctalDigit 1
      if let [e] := last then
        let code := numeral 8 [c, d, e]
        if 0o377 < code then
          refuse (.octalOutOfRange (escapeText [c, d, e])) 4
        else return literal options code
  | _ => pure ()
  let digits := c :: more
  let index := numeral 10 digits
  let r ← get
  if index < nextGroup r then
    if (closedGroup? r index).isNone then refuse .openGroup (digits.length + 1)
    else
      checkLookbehind index
      groupReference options index
  else refuse (.invalidGroup index) digits.length

/-- An escape outside of sets. -/
def escape (options : Options) (c : Char) : ReadM Part := do
  if let some anchor := anchorEscape? options c then return anchorPart anchor
  if let some item := categoryItem? options c then
    return ofSet ⟨[item], false, .exact⟩
  if let some code := controlEscape? c then return literal options code
  if let some code ← codeEscape? c then return literal options code
  if c = '0' then
    let digits ← takeWhile isOctalDigit 2
    return literal options (numeral 8 digits)
  else if isDigit c then numberEscape options c
  else if isAsciiLetter c then refuse (.badEscape (escapeText [c])) 2
  else return literal options c.toNat

/-! ### Sets -/

def codeItem : Nat ⊕ ClassItem → ClassItem
  | .inl code => .range code code
  | .inr item => item

/-- The code point or category that a token stands for inside a set. -/
def setElement (options : Options) : Token → ReadM (Nat ⊕ ClassItem)
  | .plain c => return .inl c.toNat
  | .escaped c => classEscape options c

/-- The entries of a set that began at `start`, up to its bracket. A bracket in first place stands
for itself. The fuel bounds the number of entries. -/
def setItems (options : Options) (start : Nat) : Nat → List ClassItem → ReadM (List ClassItem)
  | 0, _ => refuseAt .unterminatedSet start
  | fuel + 1, done => do
    match ← take with
    | none => refuseAt .unterminatedSet start
    | some token =>
      if token = .plain ']' ∧ done ≠ [] then return done
      let low ← setElement options token
      if ← accept '-' then
        match ← take with
        | none => refuseAt .unterminatedSet start
        | some (.plain ']') => return done ++ [codeItem low, .range '-'.toNat '-'.toNat]
        | some token' =>
          let high ← setElement options token'
          let bad : ReadM (List ClassItem) :=
            refuse (.badRange token.text token'.text) (token.size + 1 + token'.size)
          match low, high with
          | .inl low, .inl high =>
            if high < low then bad else setItems options start fuel (done ++ [.range low high])
          | _, _ => bad
      else setItems options start fuel (done ++ [codeItem low])

/-- A set, its bracket passed over. -/
def readSet (options : Options) : ReadM Part := do
  let start := (← position) - 1
  let negated ← accept '^'
  let items ← setItems options start ((← scan).rest.length + 2) []
  return ofSet ⟨items, negated, options.caseRule⟩

/-! ### Repeats -/

/-- Counts from here on are too large. -/
def maxRepeat : Nat := 4294967295

/-- The bounds of a repeat, its first character passed over; nothing if a brace is no repeat. -/
def repeatBounds (c : Char) : ReadM (Option (Nat × Option Nat)) := do
  match c with
  | '?' => return some (0, some 1)
  | '*' => return some (0, none)
  | '+' => return some (1, none)
  | _ =>
    if ← seesChar '\x7d' then return none
    let here ← scan
    let low ← takeWhile isDigit here.rest.length.succ
    let high ← if ← accept ',' then takeWhile isDigit here.rest.length.succ else pure low
    unless ← accept '\x7d' do
      setScan here
      return none
    let least := numeral 10 low
    if maxRepeat ≤ least then throw .tooLarge
    if high.isEmpty then return some (least, none)
    let most := numeral 10 high
    if maxRepeat ≤ most then throw .tooLarge
    if most < least then refuseAt .leastAboveMost here.position
    return some (least, some most)

def readGreed : ReadM Greed := do
  if ← accept '?' then return .lazy
  if ← accept '+' then return .possessive
  return .greedy

/-- Repeats the last part of a sequence whose parts come last first. The repeat sign, of one
character or beginning with a brace, stands at `place`. -/
def repeatLast (place : Nat) (bounds : Nat × Option Nat) (done : List Part) :
    ReadM (List Part) := do
  match done with
  | [] => refuseAt .nothingToRepeat place
  | last :: before =>
    match last.shape with
    | .anchor => refuseAt .nothingToRepeat place
    | .repeated => refuseAt .multipleRepeat place
    | .plain =>
      let greed ← readGreed
      let (least, most) := bounds
      return { regex := .repeated least most greed last.regex
               width := last.width.times least most
               shape := .repeated } :: before

/-! ### Options in the pattern -/

/-- What stands between the parentheses of an option group. -/
inductive OptionGroup
  | whole (on : Options)
  | within (on off : Options)

def isOptionLetter : Token → Option Options
  | .plain c => Options.ofLetter? c
  | .escaped _ => none

def isLetterToken : Token → Bool
  | .plain c => Text.isLetter c
  | .escaped _ => false

/-- Options that are turned off, up to the colon; the first letter is passed over. -/
def optionsOff : Nat → Token → Options → ReadM Options
  | 0, _, off => return off
  | fuel + 1, token, off => do
    let flag := (isOptionLetter token).getD {}
    if token = .plain 'L' || flag.ascii || flag.unicode then refuse .characterOptionOff 0
    let off := off.union flag
    match ← take with
    | none => refuse .missingColon 0
    | some (.plain ':') => return off
    | some token =>
      if (isOptionLetter token).isNone then
        refuse (if isLetterToken token then .unknownOption else .missingColon) token.size
      optionsOff fuel token off

/-- Options that are turned on, up to a parenthesis, a colon or a minus, which is returned. -/
def optionsOn : Nat → Token → Options → ReadM (Options × Char)
  | 0, _, on => return (on, ')')
  | fuel + 1, token, on => do
    if token = .plain 'L' then refuse .localeOption 0
    let flag := (isOptionLetter token).getD {}
    let on := on.union flag
    if (flag.ascii || flag.unicode) && on.ascii && on.unicode then refuse .incompatibleOptions 0
    match ← take with
    | none => refuse .missingOptionEnd 0
    | some (.plain ')') => return (on, ')')
    | some (.plain ':') => return (on, ':')
    | some (.plain '-') => return (on, '-')
    | some token =>
      if (isOptionLetter token).isNone then
        refuse (if isLetterToken token then .unknownOption else .missingOptionEnd) token.size
      optionsOn fuel token on

/-- An option group whose first letter or minus is passed over. -/
def optionGroup (first : Token) : ReadM OptionGroup := do
  let fuel := (← scan).rest.length + 2
  let (on, ending) ←
    if first = .plain '-' then pure ({}, '-') else optionsOn fuel first {}
  if ending = ')' then
    modify fun r => { r with options := r.options.union on }
    return .whole on
  if on.template then refuse .globalOptionOn 1
  let mut off : Options := {}
  if ending = '-' then
    match ← take with
    | none => refuse .missingOption 0
    | some token =>
      if (isOptionLetter token).isNone then
        refuse (if isLetterToken token then .unknownOption else .missingOption) token.size
      off ← optionsOff fuel token {}
  if off.template then refuse .globalOptionOff 1
  if on.meets off then refuse .optionOnAndOff 1
  return .within on off

/-! ### Groups and sequences -/

/-- Passes over a comment that began at `start`. -/
def skipComment (start : Nat) : Nat → ReadM Unit
  | 0 => refuseAt .unterminatedComment start
  | fuel + 1 => do
    if (← next).isNone then refuseAt .unterminatedComment start
    unless (← take) = some (.plain ')') do skipComment start fuel

/-- Passes over the rest of a line. -/
def skipLine : Nat → ReadM Unit
  | 0 => return
  | fuel + 1 => do
    match ← take with
    | none | some (.plain '\n') => return
    | some _ => skipLine fuel

/-- What an opening parenthesis begins. -/
inductive Opening
  | capture (name : Option String)
  | plain (on off : Options)
  | atomic
  | look (behind negated : Bool)
  | condition (index : Nat)
  /-- Nothing more is to be read: a comment, options, or a part that is complete. -/
  | done (part : Option Part)
  | options

/-- The group that a condition names or numbers. -/
def conditionGroup : ReadM Nat := do
  let name ← takeName ')' "group name"
  let back := name.length + 1
  if Text.isIdentifier name.toList then
    match (← get).names.lookup name with
    | none => refuse (.unknownGroupName name) back
    | some index => return index
  else
    match Text.integer? name.toList with
    | none => refuse (.badGroupName name) back
    | some n =>
      if n < 0 then refuse (.badGroupName name) back
      let index := n.toNat
      if index = 0 then refuse .badGroupNumber back
      if 1073741823 ≤ index then refuse (.invalidGroup index) back
      let place := (← position) - back
      modify fun r =>
        if (r.conditions.lookup index).isSome then r
        else { r with conditions := r.conditions ++ [(index, place)] }
      return index

/-- What follows the letter `P` after a question mark: a named group or a reference to one. -/
def namedOpening (options : Options) : ReadM Opening := do
  if ← accept '<' then
    let name ← takeName '>' "group name"
    checkGroupName name
    return .capture (some name)
  else if ← accept '=' then
    let name ← takeName ')' "group name"
    checkGroupName name
    let back := name.length + 1
    match (← get).names.lookup name with
    | none => refuse (.unknownGroupName name) back
    | some index =>
      if (closedGroup? (← get) index).isNone then refuse .openGroup back
      checkLookbehind index
      return .done (some (← groupReference options index))
  else
    match ← take with
    | none => refuse .unexpectedEnd 0
    | some token => refuse (.unknownExtension ("P" ++ token.text)) (token.size + 2)

/-- Reads what stands behind an opening parenthesis at `start`, as far as it tells what the group
is. -/
def opening (options : Options) (start : Nat) : ReadM Opening := do
  unless ← accept '?' do return .capture none
  match ← take with
  | none => refuse .unexpectedEnd 0
  | some token =>
    match token with
    | .plain 'P' => namedOpening options
    | .plain ':' => return .plain {} {}
    | .plain '#' =>
      skipComment start ((← scan).rest.length + 2)
      return .done none
    | .plain '=' => return .look false false
    | .plain '!' => return .look false true
    | .plain '<' =>
      match ← take with
      | none => refuse .unexpectedEnd 0
      | some (.plain '=') => return .look true false
      | some (.plain '!') => return .look true true
      | some token => refuse (.unknownExtension ("<" ++ token.text)) (token.size + 2)
    | .plain '(' =>
      let index ← conditionGroup
      checkLookbehind index
      return .condition index
    | .plain '>' => return .atomic
    | token =>
      if token = .plain '-' || (isOptionLetter token).isSome then
        match ← optionGroup token with
        | .whole _ => return .options
        | .within on off => return .plain on off
      else refuse (.unknownExtension token.text) (token.size + 1)

/-- Where a sequence stands: the options that hold in it, whether it is inside of a group, and
whether it is the very first of the pattern. -/
structure Place where
  options : Options
  nested : Bool
  first : Bool

def isVerboseBlank (c : Char) : Bool := c = ' ' || ('\t' ≤ c && c ≤ '\r')

mutual
/-- Branches separated by bars. The fuel bounds the depth and the length of what is read. -/
def branches : Nat → Options → Bool → ReadM Part
  | 0, _, _ => refuse .unexpectedEnd 0
  | fuel + 1, options, nested => do
    let first ← sequence fuel ⟨options, nested, !nested⟩ []
    let others ← moreBranches fuel options nested []
    return Part.ofBranches first others

/-- The branches after the first, the ones before come last first. -/
def moreBranches : Nat → Options → Bool → List Part → ReadM (List Part)
  | 0, _, _, _ => refuse .unexpectedEnd 0
  | fuel + 1, options, nested, done => do
    if ← accept '|' then
      let whole := (← get).options
      let options := if nested then options else whole
      let branch ← sequence fuel ⟨options, nested, false⟩ []
      moreBranches fuel options nested (branch :: done)
    else return done.reverse

/-- The parts of one branch; the parts before come last first. -/
def sequence : Nat → Place → List Part → ReadM Part
  | 0, _, _ => refuse .unexpectedEnd 0
  | fuel + 1, place, done => do
    let options := place.options
    match ← next with
    | none | some (.plain '|') | some (.plain ')') => return Part.ofSequence done.reverse
    | some token =>
      let here ← position
      let _ ← take
      match token with
      | .escaped c => sequence fuel place ((← escape options c) :: done)
      | .plain c =>
        if options.verbose && isVerboseBlank c then sequence fuel place done
        else if options.verbose && c = '#' then
          skipLine ((← scan).rest.length + 2)
          sequence fuel place done
        else if c = '[' then sequence fuel place ((← readSet options) :: done)
        else if c = '?' || c = '*' || c = '+' || c = '\x7b' then
          match ← repeatBounds c with
          | none => sequence fuel place (literal options c.toNat :: done)
          | some bounds => sequence fuel place (← repeatLast here bounds done)
        else if c = '.' then
          let items := if options.dotAll then [] else [ClassItem.range 10 10]
          sequence fuel place (ofSet ⟨items, true, .exact⟩ :: done)
        else if c = '^' then
          let anchor := if options.multiline then Anchor.lineStart else .textStart
          sequence fuel place (anchorPart anchor :: done)
        else if c = '$' then
          let anchor := if options.multiline then Anchor.lineEnd else .lastLineEnd
          sequence fuel place (anchorPart anchor :: done)
        else if c = '(' then
          match ← opening options here with
          | .options =>
            unless place.first && done.isEmpty do refuseAt .optionsNotAtStart here
            sequence fuel { place with options := (← get).options } done
          | .done none => sequence fuel place done
          | .done (some part) => sequence fuel place (part :: done)
          | .capture name =>
            let index ← openGroup name
            let part ← closed fuel options here
            closeGroup index part.width
            sequence fuel place ({ part with regex := .group index part.regex } :: done)
          | .plain on off =>
            let part ← closed fuel (options.within on off) here
            sequence fuel place ({ part with shape := .plain } :: done)
          | .atomic =>
            let part ← closed fuel options here
            sequence fuel place ({ part with regex := .atomic part.regex } :: done)
          | .look behind negated =>
            let outer := (← get).lookbehindGroups
            if behind && outer.isNone then
              modify fun r => { r with lookbehindGroups := some (nextGroup r) }
            let part ← branches fuel options true
            if behind then modify fun r => { r with lookbehindGroups := outer }
            unless ← accept ')' do refuseAt .unterminatedGroup here
            let regex := if behind then Regex.behind negated part.width part.regex
              else .ahead negated part.regex
            sequence fuel place ({ regex := regex, width := Width.none } :: done)
          | .condition index =>
            let yes ← sequence fuel ⟨options, true, false⟩ []
            let no ←
              if ← accept '|' then
                let no ← sequence fuel ⟨options, true, false⟩ []
                if ← seesChar '|' then refuse .tooManyBranches 0
                pure (some no)
              else pure none
            unless ← accept ')' do refuseAt .unterminatedGroup here
            let width := match no with
              | some no => yes.width.either no.width
              | none => ⟨0, yes.width.high⟩
            let regex := Regex.ifGroup index yes.regex (no.elim .nothing Part.regex)
            sequence fuel place ({ regex := regex, width := width } :: done)
        else sequence fuel place (literal options c.toNat :: done)

/-- The contents of a group that began at `start`, and its parenthesis. -/
def closed : Nat → Options → Nat → ReadM Part
  | 0, _, _ => refuse .unexpectedEnd 0
  | fuel + 1, options, start => do
    let part ← branches fuel options true
    unless ← accept ')' do refuseAt .unterminatedGroup start
    return { part with shape := .plain }
end

/-! ### The whole pattern -/

/-- The farthest that a lookbehind looks. -/
def maxBehind : Nat := 4294967295

/-- What only shows once a pattern is read: repeats under an option that forbids them, and
lookbehind without one width. -/
def Regex.defect? (template : Bool) : Regex → Option Complaint
  | .nothing | .one _ | .anchor _ | .again .. => none
  | .sequence a b | .either a b | .ifGroup _ a b => a.defect? template <|> b.defect? template
  | .repeated _ _ greed body =>
    if template then some (.unsupportedRepeat (match greed with
      | .greedy => "MAX_REPEAT"
      | .lazy => "MIN_REPEAT"
      | .possessive => "POSSESSIVE_REPEAT"))
    else body.defect? template
  | .group _ body | .atomic body | .ahead _ body => body.defect? template
  | .behind _ width body =>
    if maxBehind < width.low then some .tooFarBehind
    else if width.low ≠ width.high then some .variableLookbehind
    else body.defect? template

/-- Reads a pattern: its tree, the number of its groups and their names. -/
def readPattern (text : List Char) : Except Error (Regex × Nat × List (String × Nat)) := do
  let start ← Scan.start text
  let (part, r) ← (branches (3 * text.length + 3) {} false).run { scan := start }
  if r.options.ascii && r.options.unicode then throw .contradictoryOptions
  if r.scan.next.isSome then r.scan.refuse .unbalancedParenthesis 0
  if let some (index, place) := r.conditions.find? fun (index, _) => nextGroup r ≤ index then
    throw (.at (.invalidGroup index) place)
  if let some complaint := part.regex.defect? r.options.template then
    throw (.somewhere complaint)
  return (part.regex, r.groups.length, r.names)

end ElixirClient.Pattern

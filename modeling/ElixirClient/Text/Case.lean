import ElixirClient.Text.CaseTable

/-!
# Upper and lower case

Full case conversion of text: an upper-case form may have several characters (`ß` becomes `SS`),
and a capital sigma at the end of a word becomes the final small sigma.
-/

namespace ElixirClient.Text

/-- The one-character lower-case form. -/
def lowerChar (c : Char) : Char := Char.ofNat (mapCase c.toNat lowerRuns)

/-- The full upper-case form. -/
def upperChar (c : Char) : List Char :=
  match upperExpansions.lookup c.toNat with
  | some codes => codes.map Char.ofNat
  | none => [Char.ofNat (mapCase c.toNat upperRuns)]

def upper (cs : List Char) : List Char := cs.flatMap upperChar

def isCased (c : Char) : Bool := inRanges c.toNat casedRanges

def isCaseIgnorable (c : Char) : Bool := inRanges c.toNat caseIgnorableRanges

/-- Whether the first character that counts for case is a cased letter. -/
def beginsCased (cs : List Char) : Bool :=
  match cs.dropWhile isCaseIgnorable with
  | [] => false
  | c :: _ => isCased c

/-- Lower-case form of `c` where `afterCased` tells whether a cased letter precedes it. A capital
sigma is final when a cased letter precedes and none follows; `İ` keeps its dot as a mark. -/
def lowerAt (afterCased : Bool) (c : Char) (rest : List Char) : List Char :=
  if c = 'Σ' then [if afterCased && !beginsCased rest then 'ς' else 'σ']
  else if c = 'İ' then ['i', '\u0307']
  else [lowerChar c]

def lowerFrom (afterCased : Bool) : List Char → List Char
  | [] => []
  | c :: rest =>
    lowerAt afterCased c rest
      ++ lowerFrom (if isCaseIgnorable c then afterCased else isCased c) rest

def lower (cs : List Char) : List Char := lowerFrom false cs

/-- All characters that a case-insensitive comparison takes for `c`: those with the same
lower-case form, and those whose lower-case form shares its upper-case form with it. -/
def caseEquivalents (c : Char) : List Char :=
  let low := mapCase c.toNat lowerRuns
  let forms := low :: (caseVariants.lookup low).getD []
  (forms.flatMap fun form =>
    (if mapCase form lowerRuns = form then [form] else []) ++ preimages form lowerRuns).map
    Char.ofNat

end ElixirClient.Text

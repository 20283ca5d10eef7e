import ElixirClient.Text.Letter

/-!
# Invocations

The arguments of the program: one descriptor document, and options that may stand before and after
it. A long option may be cut short and may carry its value behind an equals sign; short options may
be run together, the last one with its value. After two dashes everything is a value.
-/

namespace ElixirClient.CommandLine

structure Invocation where
  descriptors : String
  config : Option String := none
  outputDir : String := "."
  verbose : Bool := false
deriving DecidableEq, Repr

/-- Arguments that do not make up an invocation: help is asked for, or the usage is wrong. -/
inductive Usage
  | help
  | wrong
deriving DecidableEq, Repr

def Usage.exitCode : Usage → Nat
  | .help => 0
  | .wrong => 2

inductive Flag
  | help
  | verbose
  | config
  | outputDir
deriving DecidableEq, Repr

namespace Flag

def takesValue : Flag → Bool
  | config | outputDir => true
  | help | verbose => false

def spellings : List (List Char × Flag) :=
  [("-h".toList, help), ("--help".toList, help), ("-c".toList, config),
   ("--config".toList, config), ("-o".toList, outputDir), ("--output-dir".toList, outputDir),
   ("-v".toList, verbose), ("--verbose".toList, verbose)]

def ofShort? (c : Char) : Option Flag := spellings.lookup ['-', c]

end Flag

/-- Text that an option carries: behind an equals sign, or directly behind its letter. -/
inductive Attachment
  | equals (text : List Char)
  | adjoining (text : List Char)
deriving DecidableEq, Repr

/-- What an argument is. -/
inductive Word
  | value (s : List Char)
  | option (flag : Flag) (attached : Option Attachment)
  | unknown
  /-- Two dashes. -/
  | marker
deriving DecidableEq, Repr

/-- A text before and behind its first equals sign. -/
def splitEquals (s : List Char) : List Char × Option (List Char) :=
  let name := s.takeWhile (· ≠ '=')
  match s.drop name.length with
  | [] => (name, none)
  | _ :: rest => (name, some rest)

/-- A minus sign and a number, with a line feed behind it at most. -/
def isNegativeNumber : List Char → Bool
  | '-' :: rest =>
    let rest := if rest.getLast? = some '\n' then rest.dropLast else rest
    let digits := rest.takeWhile Text.isDecimal
    match rest.drop digits.length with
    | [] => !digits.isEmpty
    | '.' :: fraction => !fraction.isEmpty && fraction.all Text.isDecimal
    | _ => false
  | _ => false

/-- The options that an argument may be short for: a long name cut short, or a short option with
text behind its letter. -/
def candidates (s : List Char) : List Word :=
  match s with
  | '-' :: '-' :: _ =>
    let (name, text) := splitEquals s
    (Flag.spellings.filter fun (spelling, _) => name.isPrefixOf spelling).map
      fun (_, flag) => .option flag (text.map .equals)
  | '-' :: c :: text =>
    Flag.spellings.filterMap fun (spelling, flag) =>
      if spelling = ['-', c] then some (.option flag (some (.adjoining text)))
      else if s.isPrefixOf spelling then some (.option flag none)
      else none
  | _ => []

/-- The option that an argument spells out, with or without an equals sign. -/
def spelledOut? (s : List Char) : Option Word :=
  match Flag.spellings.lookup s with
  | some flag => some (.option flag none)
  | none => do
    let (name, text) := splitEquals s
    let flag ← Flag.spellings.lookup name
    return .option flag (some (.equals (← text)))

/-- Classifies one argument. What can be short for several options is refused. -/
def classify (s : List Char) : Except Usage Word :=
  match s with
  | [] | ['-'] => .ok (.value s)
  | ['-', '-'] => .ok .marker
  | '-' :: _ =>
    match spelledOut? s, candidates s with
    | some word, _ => .ok word
    | none, [word] => .ok word
    | none, _ :: _ :: _ => .error .wrong
    | none, [] => .ok (if isNegativeNumber s || s.contains ' ' then .value s else .unknown)
  | _ => .ok (.value s)

/-- Classifies all arguments; behind two dashes all are values. -/
def classifyAll : List (List Char) → Except Usage (List Word)
  | [] => .ok []
  | s :: rest => do
    let word ← classify s
    if word = .marker then return .marker :: rest.map .value
    return word :: (← classifyAll rest)

/-! ### Options -/

/-- How an option ends. -/
inductive Ending
  | complete
  /-- The next letter is no option. -/
  | unknownLetter
  /-- The value is the next argument. -/
  | needsValue (flag : Flag)
  | hasValue (flag : Flag) (text : List Char)
deriving DecidableEq, Repr

/-- An option with nothing attached. -/
def Flag.bare (flag : Flag) : List Flag × Ending :=
  if flag.takesValue then ([], .needsValue flag) else ([flag], .complete)

def Flag.withEquals (flag : Flag) (text : List Char) : Except Usage (List Flag × Ending) :=
  if flag.takesValue then .ok ([], .hasValue flag text) else .error .wrong

/-- Short options that are run together: the options without value that come first, and the end. -/
def Flag.withAdjoining (flag : Flag) : List Char → Except Usage (List Flag × Ending)
  | [] => .ok flag.bare
  | c :: rest =>
    if flag.takesValue then .ok ([], .hasValue flag (c :: rest))
    else if c = '-' then .error .wrong
    else
      match ofShort? c with
      | none => .ok ([flag], .unknownLetter)
      | some next => do
        let (others, ending) ← match rest with
          | '=' :: text => next.withEquals text
          | rest => next.withAdjoining rest
        return (flag :: others, ending)

def Flag.expand (flag : Flag) : Option Attachment → Except Usage (List Flag × Ending)
  | none => .ok flag.bare
  | some (.equals text) => flag.withEquals text
  | some (.adjoining text) => flag.withAdjoining text

/-! ### Gathering -/

/-- What has been gathered from the arguments so far. -/
structure Gathered where
  descriptors : Option (List Char) := none
  config : Option (List Char) := none
  outputDir : List Char := ['.']
  verbose : Bool := false
  /-- Some argument has no place. -/
  excess : Bool := false
deriving DecidableEq, Repr

namespace Gathered

def set (g : Gathered) (value : List Char) : Flag → Gathered
  | .config => { g with config := some value }
  | .outputDir => { g with outputDir := value }
  | .verbose => { g with verbose := true }
  | .help => g

/-- Takes options without a value, in order. -/
def turnOn (g : Gathered) (flags : List Flag) : Except Usage Gathered :=
  if flags.contains .help then .error .help else .ok (flags.foldl (fun g flag => g.set [] flag) g)

end Gathered

/-- Takes the arguments in order. Two dashes next to the document are passed over. -/
def gather : List Word → Gathered → Except Usage Gathered
  | [], g => .ok g
  | .value s :: rest, g =>
    if g.descriptors.isSome then gather rest { g with excess := true }
    else
      let g := { g with descriptors := some s }
      match rest with
      | .marker :: rest => gather rest g
      | rest => gather rest g
  | .marker :: rest, g =>
    match rest with
    | .value s :: rest =>
      if g.descriptors.isSome then gather rest { g with excess := true }
      else gather rest { g with descriptors := some s }
    | rest => gather rest { g with excess := true }
  | .unknown :: rest, g => gather rest { g with excess := true }
  | .option flag attached :: rest, g => do
    let (flags, ending) ← flag.expand attached
    match ending with
    | .complete => gather rest (← g.turnOn flags)
    | .unknownLetter =>
      let g ← g.turnOn flags
      gather rest { g with excess := true }
    | .hasValue flag text =>
      let g ← g.turnOn flags
      gather rest (g.set text flag)
    | .needsValue flag =>
      match rest with
      | .value s :: rest =>
        let g ← g.turnOn flags
        gather rest (g.set s flag)
      | _ => .error .wrong

/-- Reads the arguments of the program. Help takes effect where it stands; that an argument is
missing or has no place shows at the end. -/
def Invocation.ofArguments (arguments : List String) : Except Usage Invocation := do
  let g ← gather (← classifyAll (arguments.map String.toList)) {}
  match g.descriptors with
  | some descriptors =>
    if g.excess then .error .wrong
    else return {
      descriptors := String.ofList descriptors
      config := g.config.map String.ofList
      outputDir := String.ofList g.outputDir
      verbose := g.verbose }
  | none => .error .wrong

end ElixirClient.CommandLine

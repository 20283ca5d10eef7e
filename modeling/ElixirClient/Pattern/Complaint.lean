import ElixirClient.Text.Quoted

/-!
# What can be wrong with a pattern

Each complaint is a cause with its own text; a place in the pattern is added where one is known.
-/

namespace ElixirClient.Pattern

inductive Complaint
  | badEscapeAtEnd
  | badEscape (escape : String)
  | incompleteEscape (escape : String)
  | octalOutOfRange (escape : String)
  | missingBrace
  | missingAngle
  | missingName (what : String)
  | unterminatedName (terminator : Char)
  | unknownCharacterName (name : String)
  | badGroupName (name : String)
  | unknownGroupName (name : String)
  | badGroupNumber
  | invalidGroup (index : Nat)
  | openGroup
  | sameLookbehind
  | redefinedGroup (name : String) (index earlier : Nat)
  | unterminatedSet
  | badRange (low high : String)
  | leastAboveMost
  | nothingToRepeat
  | multipleRepeat
  | unexpectedEnd
  | unknownExtension (text : String)
  | unterminatedComment
  | unterminatedGroup
  | tooManyBranches
  | optionsNotAtStart
  | missingOptionEnd
  | missingOption
  | missingColon
  | unknownOption
  | localeOption
  | incompatibleOptions
  | characterOptionOff
  | globalOptionOn
  | globalOptionOff
  | optionOnAndOff
  | unbalancedParenthesis
  | tooFarBehind
  | variableLookbehind
  | unsupportedRepeat (operator : String)
deriving DecidableEq, Repr

def Complaint.text : Complaint → String
  | .badEscapeAtEnd => "bad escape (end of pattern)"
  | .badEscape escape => "bad escape " ++ escape
  | .incompleteEscape escape => "incomplete escape " ++ escape
  | .octalOutOfRange escape => "octal escape value " ++ escape ++ " outside of range 0-0o377"
  | .missingBrace => "missing \x7b"
  | .missingAngle => "missing <"
  | .missingName what => "missing " ++ what
  | .unterminatedName terminator =>
    "missing " ++ String.singleton terminator ++ ", unterminated name"
  | .unknownCharacterName name => "undefined character name " ++ Text.quote name
  | .badGroupName name => "bad character in group name " ++ Text.quote name
  | .unknownGroupName name => "unknown group name " ++ Text.quote name
  | .badGroupNumber => "bad group number"
  | .invalidGroup index => "invalid group reference " ++ toString index
  | .openGroup => "cannot refer to an open group"
  | .sameLookbehind => "cannot refer to group defined in the same lookbehind subpattern"
  | .redefinedGroup name index earlier =>
    "redefinition of group name " ++ Text.quote name ++ " as group " ++ toString index
      ++ "; was group " ++ toString earlier
  | .unterminatedSet => "unterminated character set"
  | .badRange low high => "bad character range " ++ low ++ "-" ++ high
  | .leastAboveMost => "min repeat greater than max repeat"
  | .nothingToRepeat => "nothing to repeat"
  | .multipleRepeat => "multiple repeat"
  | .unexpectedEnd => "unexpected end of pattern"
  | .unknownExtension text => "unknown extension ?" ++ text
  | .unterminatedComment => "missing ), unterminated comment"
  | .unterminatedGroup => "missing ), unterminated subpattern"
  | .tooManyBranches => "conditional backref with more than two branches"
  | .optionsNotAtStart => "global flags not at the start of the expression"
  | .missingOptionEnd => "missing -, : or )"
  | .missingOption => "missing flag"
  | .missingColon => "missing :"
  | .unknownOption => "unknown flag"
  | .localeOption => "bad inline flags: cannot use 'L' flag with a str pattern"
  | .incompatibleOptions => "bad inline flags: flags 'a', 'u' and 'L' are incompatible"
  | .characterOptionOff => "bad inline flags: cannot turn off flags 'a', 'u' and 'L'"
  | .globalOptionOn => "bad inline flags: cannot turn on global flag"
  | .globalOptionOff => "bad inline flags: cannot turn off global flag"
  | .optionOnAndOff => "bad inline flags: flag turned on and off"
  | .unbalancedParenthesis => "unbalanced parenthesis"
  | .tooFarBehind => "looks too much behind"
  | .variableLookbehind => "look-behind requires fixed-width pattern"
  | .unsupportedRepeat operator => "internal: unsupported template operator " ++ operator

/-- Why a pattern or a replacement was refused. -/
inductive Error
  | at (complaint : Complaint) (position : Nat)
  | somewhere (complaint : Complaint)
  /-- A repeat count or character code beyond all bounds. -/
  | tooLarge
  /-- Both the ASCII and the Unicode option for the whole pattern. -/
  | contradictoryOptions
  /-- A replacement names a group that the pattern does not have. -/
  | noSuchGroup (name : String)
deriving DecidableEq, Repr

/-- The complaint with its position from zero and, in a text of several lines, with line and
column from one. -/
def describe (text : List Char) (complaint : Complaint) (position : Nat) : String :=
  let placed := complaint.text ++ " at position " ++ toString position
  if text.contains '\n' then
    let before := text.take position
    let line := before.count '\n' + 1
    let column := (before.reverse.takeWhile (· ≠ '\n')).length + 1
    placed ++ " (line " ++ toString line ++ ", column " ++ toString column ++ ")"
  else placed

end ElixirClient.Pattern

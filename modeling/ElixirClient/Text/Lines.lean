/-!
# Lines

Splitting text at line ends and indenting its lines. Besides the line feed and the carriage
return, the vertical tab, the form feed, three of the information separators, the next-line
control and the Unicode line and paragraph separators end a line.
-/

namespace ElixirClient.Text

def isLineEnd (c : Char) : Bool :=
  c = '\n' || c = '\r' || c = '\x0b' || c = '\x0c' || c = '\x1c' || c = '\x1d' || c = '\x1e'
    || c = '\u0085' || c = '\u2028' || c = '\u2029'

/-- One line without its end, and the end: empty where the text stops. -/
structure Line where
  content : List Char
  ending : List Char
deriving DecidableEq, Repr

/-- Puts a character in front of the first line. -/
def Line.consFirst (c : Char) : List Line → List Line
  | [] => [⟨[c], []⟩]
  | line :: rest => ⟨c :: line.content, line.ending⟩ :: rest

/-- The lines of a text. A carriage return followed by a line feed is one line end, and a line end
at the end of the text begins no further line. -/
def lines : List Char → List Line
  | [] => []
  | '\r' :: '\n' :: rest => ⟨[], ['\r', '\n']⟩ :: lines rest
  | c :: rest => if isLineEnd c then ⟨[], [c]⟩ :: lines rest else Line.consFirst c (lines rest)

def Line.text (line : Line) : List Char := line.content ++ line.ending

end ElixirClient.Text

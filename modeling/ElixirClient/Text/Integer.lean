import ElixirClient.Text.Letter

/-!
# Reading integers

An integer is written with decimal digits of any script, a sign in front if wanted, single
underscores between digits if wanted, and blanks around it. The ASCII control characters that
separate records count as blanks elsewhere, but not here.
-/

namespace ElixirClient.Text

def isIntegerBlank (c : Char) : Bool :=
  c = ' ' || ('\t' ≤ c && c ≤ '\r') || (127 ≤ c.toNat && isBlank c)

/-- The longest numeral that is taken. -/
def maxNumeralDigits : Nat := 4300

/-- The values of digits with single underscores between them. -/
def digitValues? : List Char → Option (List Nat)
  | [] => none
  | [c] => (decimalValue? c).map ([·])
  | c :: '_' :: rest => do
    let value ← decimalValue? c
    return value :: (← digitValues? rest)
  | c :: rest => do
    let value ← decimalValue? c
    return value :: (← digitValues? rest)

def dropBlanks (cs : List Char) : List Char :=
  ((cs.dropWhile isIntegerBlank).reverse.dropWhile isIntegerBlank).reverse

def integer? (cs : List Char) : Option Int := do
  let (negative, body) := match dropBlanks cs with
    | '-' :: rest => (true, rest)
    | '+' :: rest => (false, rest)
    | rest => (false, rest)
  let digits ← digitValues? body
  guard (digits.length ≤ maxNumeralDigits)
  let value : Int := (digits.foldl (fun n d => n * 10 + d) 0 : Nat)
  return if negative then -value else value

end ElixirClient.Text

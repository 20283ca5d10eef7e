import ElixirClient.Number.Binary64

/-!
# Shortest decimal text

A binary64 number is written with the fewest decimal digits that read back as the same number. Of
the decimals with that many digits it is the nearest, and of two that are equally near the even one.
-/

namespace ElixirClient.Binary64

/-- `mantissa · 2 ^ exponent` as a fraction. -/
def toRatio (mantissa : Nat) (exponent : Int) : Nat × Nat :=
  if 0 ≤ exponent then (mantissa * power 2 exponent, 1) else (mantissa, power 2 (-exponent))

/-- The `k` with `10 ^ (k - 1) ≤ num / den < 10 ^ k`, for a positive fraction of a binary64
number: its order of magnitude is above `-330`. -/
def decimalOrder (num den : Nat) : Int :=
  if den ≤ num then ((Nat.toDigits 10 (num / den)).length : Int)
  else -(((List.range 330).takeWhile fun k => num * power 10 (k + 1 : Nat) < den).length : Int)

/-- On the grid of the multiples of `10 ^ unit`, the neighbour of a positive number that reads back
as the number. If both do it is the nearer of the two, and halfway between them the even one. -/
def onGrid? (mantissa : Nat) (exponent unit : Int) : Option Nat :=
  let (num, den) := toRatio mantissa exponent
  let (num, den) :=
    if 0 ≤ unit then (num, den * power 10 unit) else (num * power 10 (-unit), den)
  let below := num / den
  let readsBack (digits : Nat) : Bool :=
    ofDecimal false digits unit = .finite false mantissa exponent
  let twice := 2 * (num % den)
  let lowerFirst := twice < den || (twice = den && below % 2 = 0)
  if lowerFirst then
    if readsBack below then some below
    else if readsBack (below + 1) then some (below + 1) else none
  else
    if readsBack (below + 1) then some (below + 1)
    else if readsBack below then some below else none

/-- Drops trailing zeros and moves the unit up with each. -/
def stripZeros : Nat → Nat → Int → Nat × Int
  | 0, digits, unit => (digits, unit)
  | fuel + 1, digits, unit =>
    if digits % 10 = 0 then stripZeros fuel (digits / 10) (unit + 1) else (digits, unit)

/-- Digits and decimal exponent of the shortest decimal of a positive number. Seventeen digits
always read back. -/
def shortest (mantissa : Nat) (exponent : Int) : Nat × Int :=
  let (num, den) := toRatio mantissa exponent
  let order := decimalOrder num den
  let found := (List.range 17).findSome? fun k =>
    let unit := order - (k + 1 : Nat)
    (onGrid? mantissa exponent unit).map fun digits => stripZeros 18 digits unit
  found.getD (0, 0)

/-- Digits with a point in them: `point` digits stand before it. A fraction is always shown. -/
def positional (digits : List Char) (point : Int) : List Char :=
  if point ≤ 0 then
    ['0', '.'] ++ List.replicate (-point).toNat '0' ++ digits
  else if digits.length ≤ point.toNat then
    digits ++ List.replicate (point.toNat - digits.length) '0' ++ ['.', '0']
  else digits.take point.toNat ++ ['.'] ++ digits.drop point.toNat

/-- One digit, the others after a point, and an exponent of at least two digits. -/
def scientific (digits : List Char) (exponent : Int) : List Char :=
  let mantissa := match digits with
    | first :: second :: rest => first :: '.' :: second :: rest
    | short => short
  let size := Nat.toDigits 10 exponent.natAbs
  mantissa ++ ['e', if exponent < 0 then '-' else '+']
    ++ (if size.length < 2 then '0' :: size else size)

/-- The text of a number: positional from `0.0001` up to below `1e+16`, scientific beyond. -/
def text : Binary64 → String
  | .notANumber => "nan"
  | .infinite negative => if negative then "-inf" else "inf"
  | .finite negative mantissa exponent =>
    let body :=
      if mantissa = 0 then "0.0".toList
      else
        let (digits, unit) := shortest mantissa exponent
        let ds := Nat.toDigits 10 digits
        let point := (ds.length : Int) + unit
        if -4 < point ∧ point ≤ 16 then positional ds point else scientific ds (point - 1)
    String.ofList (if negative then '-' :: body else body)

end ElixirClient.Binary64

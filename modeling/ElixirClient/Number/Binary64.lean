/-!
# Binary floating-point numbers

A number is sign, mantissa and exponent on the binary64 grid. Reading a decimal rounds to the
nearest grid point, ties to the even mantissa; everything is exact arithmetic on integers.
-/

namespace ElixirClient

/-- A binary64 value. A finite one is `± mantissa · 2 ^ exponent` with the mantissa below `2 ^ 53`,
and at least `2 ^ 52` unless the exponent is the least one, `-1074`. -/
inductive Binary64
  | finite (negative : Bool) (mantissa : Nat) (exponent : Int)
  | infinite (negative : Bool)
  | notANumber
deriving DecidableEq, Repr, Inhabited

namespace Binary64

/-- A power with an exponent that is not negative. -/
def power (base : Nat) (exponent : Int) : Nat := Nat.pow base exponent.toNat

/-- The integer nearest to `num / den`; halfway between two it is the even one. -/
def roundToEven (num den : Nat) : Nat :=
  let quotient := num / den
  let twice := 2 * (num % den)
  if twice < den then quotient
  else if den < twice then quotient + 1
  else quotient + quotient % 2

/-- `num / den` scaled by `2 ^ (-exponent)`, as a fraction. -/
def scaled (num den : Nat) (exponent : Int) : Nat × Nat :=
  if 0 ≤ exponent then (num, den * power 2 exponent) else (num * power 2 (-exponent), den)

/-- The exponent of the grid that a positive fraction is rounded on. -/
def gridExponent (num den : Nat) : Int :=
  let guess : Int := (num.log2 : Int) - (den.log2 : Int)
  let (a, b) := scaled num den guess
  let floorLog := if b ≤ a then guess else guess - 1
  max (floorLog - 52) (-1074)

/-- The binary64 value nearest to a positive fraction. -/
def ofRatio (negative : Bool) (num den : Nat) : Binary64 :=
  let exponent := gridExponent num den
  let (a, b) := scaled num den exponent
  let mantissa := roundToEven a b
  let (mantissa, exponent) :=
    if mantissa = power 2 53 then (power 2 52, exponent + 1) else (mantissa, exponent)
  if 971 < exponent then .infinite negative else .finite negative mantissa exponent

/-- The binary64 value nearest to `± digits · 10 ^ exponent`. Magnitudes far outside the range are
settled by their order of magnitude alone. -/
def ofDecimal (negative : Bool) (digits : Nat) (exponent : Int) : Binary64 :=
  if digits = 0 then .finite negative 0 (-1074)
  else
    let order : Int := ((Nat.toDigits 10 digits).length : Int) + exponent
    if 310 < order then .infinite negative
    else if order < -330 then .finite negative 0 (-1074)
    else if 0 ≤ exponent then ofRatio negative (digits * power 10 exponent) 1
    else ofRatio negative digits (power 10 (-exponent))

/-- The integer that a number is equal to, if it is one. -/
def toInt? : Binary64 → Option Int
  | .finite negative mantissa exponent =>
    let magnitude? : Option Nat :=
      if 0 ≤ exponent then some (mantissa * power 2 exponent)
      else
        let unit := power 2 (-exponent)
        if mantissa % unit = 0 then some (mantissa / unit) else none
    magnitude?.map fun magnitude => if negative then -(magnitude : Int) else magnitude
  | _ => none

def isZero : Binary64 → Bool
  | .finite _ mantissa _ => mantissa = 0
  | _ => false

/-- Compares two finite numbers on their common grid; an infinity is beyond every number, and
nothing is below or above a NaN. -/
def lt : Binary64 → Binary64 → Bool
  | .notANumber, _ | _, .notANumber => false
  | .infinite negative, .infinite negative' => negative && !negative'
  | .infinite negative, .finite .. => negative
  | .finite .., .infinite negative => !negative
  | .finite n m e, .finite n' m' e' =>
    let low := min e e'
    let value (negative : Bool) (mantissa : Nat) (exponent : Int) : Int :=
      (if negative then -1 else 1) * (mantissa * power 2 (exponent - low) : Nat)
    value n m e < value n' m' e'

end Binary64

end ElixirClient

import ElixirClient.Json

/-!
# Keys and sorting

Values serve as keys of tables and are sorted by. As a key, a truth value is the number 0 or 1 and
a float without fraction is that integer; lists and objects are no keys. Numbers are ordered among
themselves, strings by code point, lists item by item; values of different kinds have no order.
-/

namespace ElixirClient.Json

/-- The key that a value stands for. -/
def key? : Json → Option Json
  | .bool b => some (.int (if b then 1 else 0))
  | .float x => match x.toInt? with
    | some n => some (.int n)
    | none => some (.float x)
  | .arr _ | .obj _ => none
  | value => some value

mutual
/-- Equality up to the spelling of numbers. -/
def alike : Json → Json → Bool
  | .arr a, .arr b => alikeItems a b
  | .obj a, .obj b => decide (a = b)
  | a, b => match key? a, key? b with
    | some k, some l => decide (k = l)
    | _, _ => false

def alikeItems : List Json → List Json → Bool
  | [], [] => true
  | a :: as, b :: bs => alike a b && alikeItems as bs
  | _, _ => false
end

/-- Order of two keys, if they have one. -/
def keyLt? : Json → Json → Option Bool
  | .int a, .int b => some (decide (a < b))
  | .str a, .str b => some (decide (a < b))
  | .float a, .float b => some (a.lt b)
  | .int a, .float b => some (ltInt a b)
  | .float a, .int b => some (gtInt a b)
  | _, _ => none
where
  /-- An integer lies below a float that is no integer. -/
  ltInt (n : Int) : Binary64 → Bool
    | .finite negative mantissa exponent =>
      let m : Int := if negative then -(mantissa : Int) else mantissa
      if 0 ≤ exponent then n < m * Binary64.power 2 exponent
      else n * Binary64.power 2 (-exponent) < m
    | .infinite negative => !negative
    | .notANumber => false
  /-- An integer lies above a float that is no integer. -/
  gtInt : Binary64 → Int → Bool
    | .finite negative mantissa exponent, n =>
      let m : Int := if negative then -(mantissa : Int) else mantissa
      if 0 ≤ exponent then m * Binary64.power 2 exponent < n
      else m < n * Binary64.power 2 (-exponent)
    | .infinite negative, _ => negative
    | .notANumber, _ => false

mutual
/-- Whether the first value sorts strictly before the second, if the two have an order. -/
def lt? : Json → Json → Option Bool
  | .arr a, .arr b => ltItems? a b
  | a, b => match key? a, key? b with
    | some k, some l => keyLt? k l
    | _, _ => none

def ltItems? : List Json → List Json → Option Bool
  | _, [] => some false
  | [], _ :: _ => some true
  | a :: as, b :: bs => if alike a b then ltItems? as bs else lt? a b
end

/-- All pairs of a list have an order. -/
def comparable : List Json → Bool
  | [] => true
  | a :: rest => rest.all (fun b => (lt? a b).isSome && (lt? b a).isSome) && comparable rest

/-- Sorts stably by a key of each item. Nothing comes out when two keys have no order. -/
def sortBy? (key : α → Json) (items : List α) : Option (List α) :=
  if items.length ≤ 1 ∨ comparable (items.map key) then
    some (items.mergeSort fun a b => (lt? (key b) (key a)) != some true)
  else none

end ElixirClient.Json

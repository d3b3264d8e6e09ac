import Interpose.Decimal.Binary64

/-! # Shortest decimal text of a binary number

Of all decimals that read back to a number, the text shows one with the fewest digits, and of
those the nearest; of two at the same distance, the even one. It is positional from `1e-4` up to,
but not including, `1e16`, with a point and at least one digit after it; outside that range it has
an exponent of at least two digits.
-/
namespace Interpose.Decimal

set_option autoImplicit false

/-- A positive decimal `digits · 10 ^ exponent`. -/
structure Scaled where
  digits : Nat
  exponent : Int
  deriving DecidableEq, Repr

namespace Scaled

def readsAs (d : Scaled) (count : Nat) : Bool :=
  match Binary64.ofDecimal false d.digits d.exponent with
  | .finite _ magnitude => magnitude.val == count
  | _ => false

/-- A quotient of least units in steps of `10 ^ exponent`, as numerator and denominator. -/
def inSteps (units : Nat) (exponent : Int) : Nat × Nat :=
  if 0 ≤ exponent then (units, 2 ^ 1074 * 10 ^ exponent.toNat)
  else (units * 10 ^ (-exponent).toNat, 2 ^ 1074)

/-- Whether a quotient is nearer to the whole number below it than to the one above, a tie being
nearer to the even one. -/
def isNearerBelow (num den : Nat) : Bool :=
  2 * (num % den) < den || 2 * (num % den) == den && num / den % 2 == 0

/-- Of the two neighbours of a magnitude on the grid of multiples of `10 ^ exponent`, those that
read back to it, the nearer one first. -/
def neighbours (count : Nat) (exponent : Int) : List Scaled :=
  let (num, den) := inSteps (magnitudeUnits count) exponent
  let below : Scaled := ⟨num / den, exponent⟩
  let above : Scaled := ⟨num / den + 1, exponent⟩
  let ordered := if isNearerBelow num den then [below, above] else [above, below]
  ordered.filter (·.readsAs count)

def exact (count : Nat) : Scaled :=
  if count < 2 ^ 52 then ⟨count * 5 ^ 1074, -1074⟩
  else
    let power := count / 2 ^ 52 - 1
    let significand := 2 ^ 52 + count % 2 ^ 52
    if 1074 ≤ power then ⟨significand * 2 ^ (power - 1074), 0⟩
    else ⟨significand * 5 ^ (1074 - power), -(1074 - power : Nat)⟩

/-- The number of digits before the point of a magnitude; zero or negative below a tenth. -/
def leadingPlace (count : Nat) : Int :=
  let scaled := magnitudeUnits count * 10 ^ 340 / 2 ^ 1074
  ((Nat.toDigits 10 scaled).length : Int) - 340

/-- A decimal that reads back to the magnitude: the first found with one digit, two digits and so
on up to seventeen, which always suffice, or else the exact one. -/
def shortest (count : Nat) : Scaled :=
  let place := leadingPlace count
  ((List.range 17).findSome? fun (n : Nat) => (neighbours count (place - (n + 1))).head?).getD
    (exact count)

end Scaled

/-- The digits of an exponent, at least two. -/
def exponentDigits (n : Nat) : List Char :=
  if n < 10 then '0' :: Nat.toDigits 10 n else Nat.toDigits 10 n

/-- The text of a decimal whose digits, without zeros at the end, are given, and whose point
stands after `place` of them. -/
def layout (digits : List Char) (place : Int) : List Char :=
  if -4 < place ∧ place ≤ 16 then
    if place ≤ 0 then '0' :: '.' :: (List.replicate (-place).toNat '0' ++ digits)
    else
      let padded := digits ++ List.replicate (place.toNat - digits.length) '0'
      let fraction := padded.drop place.toNat
      padded.take place.toNat ++ '.' :: (if fraction = [] then ['0'] else fraction)
  else
    let exponent := place - 1
    let sign := if exponent < 0 then '-' else '+'
    let mantissa :=
      match digits with
      | [] => ['0']
      | [d] => [d]
      | d :: rest => d :: '.' :: rest
    mantissa ++ 'e' :: sign :: exponentDigits exponent.natAbs

/-- Digits without the zeros at their end. -/
def dropFinalZeros (digits : List Char) : List Char :=
  (digits.reverse.dropWhile (· == '0')).reverse

def magnitudeText (count : Nat) : List Char :=
  if count = 0 then ['0', '.', '0']
  else
    let d := Scaled.shortest count
    let digits := Nat.toDigits 10 d.digits
    layout (dropFinalZeros digits) (digits.length + d.exponent)

def Binary64.text : Binary64 → String
  | .nan => "nan"
  | .infinite false => "inf"
  | .infinite true => "-inf"
  | .finite negative magnitude =>
    String.ofList ((if negative then ['-'] else []) ++ magnitudeText magnitude.val)

end Interpose.Decimal

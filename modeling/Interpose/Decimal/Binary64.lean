/-! # Binary floating-point numbers

A number of the 64-bit binary format, as a mathematical value. The finite magnitudes are counted
from zero in increasing order: below `2 ^ 52` they are the multiples of the least one, and each
further block of `2 ^ 52` has twice the step of the block before it. A quotient is rounded to the
nearest magnitude, a tie to the even one.
-/
namespace Interpose.Decimal

set_option autoImplicit false

-- Powers of natural numbers are the built-in ones, whatever else is imported.
attribute [instance (10000), default_instance 10000] instPowNat

/-- The number of finite magnitudes; the count itself stands for an overflow. -/
def magnitudeCount : Nat := 2047 * 2 ^ 52

inductive Binary64 where
  | nan
  | infinite (negative : Bool)
  | finite (negative : Bool) (magnitude : Fin magnitudeCount)
  deriving DecidableEq, Repr

/-- The value of the magnitude with the given count, in units of the least positive one. -/
def magnitudeUnits (count : Nat) : Nat :=
  if count < 2 ^ 52 then count else (2 ^ 52 + count % 2 ^ 52) * 2 ^ (count / 2 ^ 52 - 1)

/-- A quotient rounded to the nearest whole number, a tie to the even one. -/
def roundQuotient (num den : Nat) : Nat :=
  let whole := num / den
  let rest := 2 * (num % den)
  if rest < den then whole
  else if den < rest then whole + 1
  else if whole % 2 = 0 then whole else whole + 1

/-- The count of the magnitude nearest to a quotient of least units. -/
def nearestCount (num den : Nat) : Nat :=
  let whole := num / den
  if whole < 2 ^ 53 then roundQuotient num den
  else
    let shift := whole.log2 - 52
    (shift + 1) * 2 ^ 52 + (roundQuotient num (den * 2 ^ shift) - 2 ^ 52)

namespace Binary64

def zero : Binary64 := .finite false ⟨0, by decide⟩

def isFinite : Binary64 → Bool
  | .finite _ _ => true
  | _ => false

def isTruthy : Binary64 → Bool
  | .finite _ magnitude => magnitude.val != 0
  | _ => true

/-- The number with a sign nearest to a quotient of least units. -/
def ofUnits (negative : Bool) (num den : Nat) : Binary64 :=
  let count := nearestCount num den
  if h : count < magnitudeCount then .finite negative ⟨count, h⟩ else .infinite negative

/-- The number nearest to `digits · 10 ^ exponent` with a sign. Exponents beyond the range of the
format are decided without computing the power. -/
def ofDecimal (negative : Bool) (digits : Nat) (exponent : Int) : Binary64 :=
  if digits = 0 then .finite negative ⟨0, by decide⟩
  else
    let scale := (Nat.toDigits 10 digits).length + exponent
    if 400 < scale then .infinite negative
    else if scale < -400 then .finite negative ⟨0, by decide⟩
    else if 0 ≤ exponent then ofUnits negative (digits * 10 ^ exponent.toNat * 2 ^ 1074) 1
    else ofUnits negative (digits * 2 ^ 1074) (10 ^ (-exponent).toNat)

/-- Equality of numbers: a NaN equals nothing, and the two zeros are equal. -/
def equal : Binary64 → Binary64 → Bool
  | .nan, _ | _, .nan => false
  | .infinite a, .infinite b => a == b
  | .finite a m, .finite b n => m == n && (a == b || m.val == 0)
  | _, _ => false

end Binary64
end Interpose.Decimal

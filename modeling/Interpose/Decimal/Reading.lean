import Interpose.Decimal.Binary64

/-! # Reading decimal notation

The decimal notation of numbers: a sign, digits, a point with digits on at least one side of it,
and an exponent. A number without point and exponent is whole.
-/
namespace Interpose.Decimal

set_option autoImplicit false

def digitsValue (cs : List Char) : Nat :=
  Nat.ofDigitChars 10 cs 0

structure Numeral where
  negative : Bool
  whole : List Char
  fraction : Option (List Char)
  exponent : Option Int
  deriving DecidableEq, Repr

/-- Splits off an optional sign; `true` for a minus. -/
def takeSign : List Char → Bool × List Char
  | '-' :: cs => (true, cs)
  | '+' :: cs => (false, cs)
  | cs => (false, cs)

def takeDigits (cs : List Char) : List Char × List Char :=
  (cs.takeWhile Char.isDigit, cs.dropWhile Char.isDigit)

/-- An exponent, if one stands here: a letter, an optional sign and at least one digit. -/
def takeExponent : List Char → Option Int × List Char
  | c :: cs =>
    if c = 'e' ∨ c = 'E' then
      let (negative, unsigned) := takeSign cs
      let (digits, rest) := takeDigits unsigned
      if digits = [] then (none, c :: cs)
      else
        let value : Int := digitsValue digits
        (some (if negative then -value else value), rest)
    else (none, c :: cs)
  | [] => (none, [])

/-- The longest number that a text starts with, and what follows it. -/
def takeNumber (cs : List Char) : Option (Numeral × List Char) :=
  let (negative, unsigned) := takeSign cs
  let (whole, rest) := takeDigits unsigned
  let (fraction, rest) :=
    match rest with
    | '.' :: tail =>
      let (digits, after) := takeDigits tail
      if whole = [] ∧ digits = [] then (none, rest) else (some digits, after)
    | _ => (none, rest)
  if whole = [] ∧ fraction = none then none
  else
    let (exponent, rest) := takeExponent rest
    some (⟨negative, whole, fraction, exponent⟩, rest)

theorem length_takeSign (cs : List Char) : (takeSign cs).2.length ≤ cs.length := by
  unfold takeSign
  split <;> simp

theorem length_takeDigits (cs : List Char) :
    (takeDigits cs).1.length + (takeDigits cs).2.length = cs.length := by
  simp [takeDigits, ← List.length_append]

theorem length_takeExponent (cs : List Char) : (takeExponent cs).2.length ≤ cs.length := by
  cases cs with
  | nil => simp [takeExponent]
  | cons c cs =>
    have hSign := length_takeSign cs
    have hDigits := length_takeDigits (takeSign cs).2
    simp only [takeExponent]
    split
    · split
      · simp
      · simp; omega
    · simp

theorem length_takeNumber {cs rest : List Char} {n : Numeral}
    (h : takeNumber cs = some (n, rest)) : rest.length < cs.length := by
  have hSign := length_takeSign cs
  have hWhole := length_takeDigits (takeSign cs).2
  simp only [takeNumber] at h
  generalize hSplit : takeDigits (takeSign cs).2 = whole at h hWhole
  obtain ⟨whole, after⟩ := whole
  simp only at h hWhole
  split at h
  · rename_i tail
    have hFraction := length_takeDigits tail
    have hExponent := length_takeExponent (takeDigits tail).2
    by_cases hEmpty : whole = [] ∧ (takeDigits tail).1 = []
    · simp [hEmpty] at h
    · simp only [hEmpty, if_false] at h
      simp at h
      obtain ⟨-, rfl⟩ := h
      simp at hWhole
      omega
  · by_cases hEmpty : whole = []
    · simp [hEmpty] at h
    · simp [hEmpty] at h
      obtain ⟨-, rfl⟩ := h
      have hExponent := length_takeExponent after
      have := List.length_pos_iff.2 hEmpty
      omega

namespace Numeral

def isWhole (n : Numeral) : Bool :=
  n.fraction.isNone && n.exponent.isNone

/-- The whole number that the digits before the point are. -/
def toInt (n : Numeral) : Int :=
  if n.negative then -(digitsValue n.whole : Int) else digitsValue n.whole

def toBinary64 (n : Numeral) : Binary64 :=
  let fraction := n.fraction.getD []
  .ofDecimal n.negative (digitsValue (n.whole ++ fraction))
    (n.exponent.getD 0 - fraction.length)

end Numeral

/-- The binary number that a whole text denotes, the three special ones included. -/
def Binary64.ofText? (s : String) : Option Binary64 :=
  if s = "nan" then some .nan
  else if s = "inf" then some (.infinite false)
  else if s = "-inf" then some (.infinite true)
  else
    match takeNumber s.toList with
    | some (n, []) => some n.toBinary64
    | _ => none

end Interpose.Decimal

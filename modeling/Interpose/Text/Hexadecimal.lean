/-! # Upper-case hexadecimal numbers

The form in which tables and names of characters give codes.
-/
namespace Interpose.Text

set_option autoImplicit false

def upperHexValue? (c : Char) : Option Nat :=
  if '0' ≤ c ∧ c ≤ '9' then some (c.toNat - 48)
  else if 'A' ≤ c ∧ c ≤ 'F' then some (c.toNat - 55)
  else none

def upperHex? (digits : List Char) : Option Nat :=
  digits.foldlM (fun value c => (upperHexValue? c).map (16 * value + ·)) 0

end Interpose.Text

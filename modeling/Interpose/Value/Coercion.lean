import Interpose.Decimal.Reading
import Interpose.Text.Dotted
import Interpose.Value.Basic

/-! # Coercion of values

The whole number, or the text of the exact type, that a value gives when one is made from it. A
fraction is cut off, and a text is read as decimal digits, which may be grouped by underscores. A
tuple stands for the arguments that one is made from: none give zero or the empty text.
-/
namespace Interpose

set_option autoImplicit false

/-- The whole number between a finite number and zero that is nearest to it. -/
def Decimal.Binary64.truncate? : Decimal.Binary64 → Option Int
  | .finite negative magnitude =>
    let whole : Int := magnitudeUnits magnitude.val / 2 ^ 1074
    some (if negative then -whole else whole)
  | _ => none

namespace Value

def wholeOfText? (cs : List Char) : Option Int :=
  let isBlank (c : Char) : Bool := c == ' ' || 9 ≤ c.toNat && c.toNat < 14
  let trimmed := ((cs.dropWhile isBlank).reverse.dropWhile isBlank).reverse
  let (negative, unsigned) := Decimal.takeSign trimmed
  let groups := Text.cutAll '_' unsigned
  if groups.all fun group => !group.isEmpty && group.all Char.isDigit then
    let n : Int := Decimal.digitsValue groups.flatten
    some (if negative then -n else n)
  else Option.none

def wholeOf? (v : Value) : Option Int :=
  match v with
  | .float x | .floatSub x => x.truncate?
  | .bytes content => wholeOfText? (content.map fun b => Char.ofNat b.toNat)
  | v => v.asInt?.or (v.asText?.bind fun s => wholeOfText? s.toList)

/-- The value that a member of an enumeration gets from the one it is declared with. -/
def asMemberOf? (base : EnumBase) (v : Value) : Option Value :=
  match base, v with
  | .plain, v => some v
  | .whole, .tuple [] | .whole, .tupleSub [] => some (.int 0)
  | .whole, .tuple [v] | .whole, .tupleSub [v] | .whole, v => (wholeOf? v).map .int
  | .text, .tuple [] | .text, .tupleSub [] => some (.str "")
  | .text, .tuple [v] | .text, .tupleSub [v] | .text, v => v.asText?.map .str

end Value
end Interpose

import Interpose.HintText.Node
import Interpose.HintText.Token
import Interpose.Text.Unescape

/-! # The literals of an annotation

A literal can be spelled without being readable: a text with a malformed escape, a whole number
with leading zeros that is not zero, or one with more than 4300 digits.
-/
namespace Interpose.HintText

set_option autoImplicit false

/-- The longest whole number that is read, in digits. -/
def digitLimit : Nat := 4300

def readNumber (parts : Decimal.Numeral) : Option Value :=
  if !parts.isWhole then some (.float parts.toBinary64)
  else if parts.whole.all (· == '0') then some (.int 0)
  else if parts.whole.head? = some '0' ∨ digitLimit < parts.whole.length then none
  else some (.int parts.toInt)

namespace Spelling

def read? : Spelling → Option Value
  | .text content => (Text.unescape content).map Value.ofCodePoints
  | .number parts => readNumber parts

/-- The size of a spelled literal, the quotes of a text included. -/
def size : Spelling → Nat
  | .text content => content.length + 2
  | .number _ => 0

end Spelling

/-- The size of a literal's value: a text counts with the quotes it takes to write it. -/
def literalSize : Value → Nat
  | .str s => s.toList.length + 2
  | .brokenStr t => t.points.length + 2
  | _ => 0

/-- The text of some code points is no longer than they are. -/
theorem literalSize_ofCodePoints (points : List Text.CodePoint) :
    literalSize (Value.ofCodePoints points) ≤ points.length + 2 := by
  unfold Value.ofCodePoints
  split
  · simp [literalSize]
  · have := List.length_filterMap_le Text.CodePoint.char? points
    simp [literalSize]; omega

theorem literalSize_read? (spelling : Spelling) (value : Value)
    (h : spelling.read? = some value) : literalSize value ≤ spelling.size := by
  cases spelling with
  | text content =>
    obtain ⟨cs, hRead, rfl⟩ := Option.map_eq_some_iff.1 h
    have := Text.length_unescape hRead
    have := literalSize_ofCodePoints cs
    simp only [Spelling.size]
    omega
  | number parts =>
    simp only [Spelling.read?, readNumber] at h
    split at h
    · cases h; exact Nat.le_refl _
    · split at h
      · cases h; exact Nat.le_refl _
      · split at h
        · contradiction
        · cases h; exact Nat.le_refl _

end Interpose.HintText

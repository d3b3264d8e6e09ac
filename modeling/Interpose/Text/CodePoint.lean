/-! # Code points

A code point is a character or one half of a surrogate pair. Escapes can write a half that has no
partner, and a text that holds one is not a sequence of characters.
-/
namespace Interpose.Text

set_option autoImplicit false

inductive CodePoint where
  | char (c : Char)
  /-- Half of a surrogate pair, by its distance from the first one. -/
  | surrogate (offset : Fin 2048)
  deriving DecidableEq, Repr

namespace CodePoint

def code : CodePoint → Nat
  | .char c => c.toNat
  | .surrogate offset => 0xd800 + offset

def ofCode? (code : Nat) : Option CodePoint :=
  if code.isValidChar then some (.char (Char.ofNat code))
  else if h : 0xd800 ≤ code ∧ code < 0xe000 then
    some (.surrogate ⟨code - 0xd800, by omega⟩)
  else none

def isSurrogate : CodePoint → Bool
  | .char _ => false
  | .surrogate _ => true

def char? : CodePoint → Option Char
  | .char c => some c
  | .surrogate _ => none

end CodePoint

/-- A text in which at least one half of a surrogate pair stands alone. -/
structure BrokenText where
  points : List CodePoint
  isBroken : points.any CodePoint.isSurrogate = true
  deriving DecidableEq, Repr

/-- The characters of a broken text, with the null character for each surrogate. Neither of the two
can stand in an annotation. -/
def BrokenText.masked (t : BrokenText) : List Char :=
  t.points.map fun point => point.char?.getD (Char.ofNat 0)

end Interpose.Text

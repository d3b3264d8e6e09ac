import Interpose.Decimal.Reading
import Interpose.Text.Unescape
import Interpose.Value.Basic

/-! # Tokens of JSON text

Between two tokens may stand spaces, tabs, carriage returns and line feeds. A text is in double
quotes; control characters in it have to be escaped. A code point beyond the sixteen-bit ones is
escaped as a pair of surrogates; a surrogate without its partner stands for itself. A whole part of
a number has no superfluous zero in front, and a point stands between two digits. Besides the three
standard words, the special numbers have words of their own.
-/
namespace Interpose.JsonText

set_option autoImplicit false

inductive Token where
  | openBracket
  | closeBracket
  | openBrace
  | closeBrace
  | colon
  | comma
  | text (content : List Text.CodePoint)
  | number (parts : Decimal.Numeral)
  | word (v : Value)
  deriving Repr

def isBlank (c : Char) : Bool :=
  c == ' ' || c == '\t' || c == '\r' || c == '\n'

/-! ## Numbers -/

def takeMinus : List Char → Bool × List Char
  | '-' :: cs => (true, cs)
  | cs => (false, cs)

/-- The whole part of a number: a zero, or digits of which the first is not zero. -/
def takeWhole (cs : List Char) : List Char × List Char :=
  match cs with
  | '0' :: rest => (['0'], rest)
  | cs => Decimal.takeDigits cs

def takeFraction (cs : List Char) : Option (List Char) × List Char :=
  match cs with
  | '.' :: rest =>
    let (digits, after) := Decimal.takeDigits rest
    if digits = [] then (none, cs) else (some digits, after)
  | _ => (none, cs)

def takeNumber (cs : List Char) : Option (Decimal.Numeral × List Char) :=
  let (negative, unsigned) := takeMinus cs
  let (whole, rest) := takeWhole unsigned
  let (fraction, rest) := takeFraction rest
  let (exponent, rest) := Decimal.takeExponent rest
  if whole = [] then none else some (⟨negative, whole, fraction, exponent⟩, rest)

theorem length_takeMinus (cs : List Char) : (takeMinus cs).2.length ≤ cs.length := by
  unfold takeMinus
  split <;> simp

theorem length_takeWhole (cs : List Char) :
    (takeWhole cs).1.length + (takeWhole cs).2.length = cs.length := by
  unfold takeWhole
  split
  · simp; omega
  · exact Decimal.length_takeDigits _

theorem length_takeFraction (cs : List Char) : (takeFraction cs).2.length ≤ cs.length := by
  unfold takeFraction
  split
  · rename_i rest
    have := Decimal.length_takeDigits rest
    simp only
    split
    · simp
    · simp; omega
  · simp

theorem length_takeNumber {cs rest : List Char} {n : Decimal.Numeral}
    (h : takeNumber cs = some (n, rest)) : rest.length < cs.length := by
  have hMinus := length_takeMinus cs
  have hWhole := length_takeWhole (takeMinus cs).2
  have hFraction := length_takeFraction (takeWhole (takeMinus cs).2).2
  have hExponent :=
    Decimal.length_takeExponent (takeFraction (takeWhole (takeMinus cs).2).2).2
  simp only [takeNumber] at h
  split at h
  · contradiction
  · rename_i hEmpty
    have := List.length_pos_iff.2 hEmpty
    cases h
    omega

/-! ## Texts -/

def letterEscape? : Char → Option Char
  | '"' => some '"'
  | '\\' => some '\\'
  | '/' => some '/'
  | 'b' => some (Char.ofNat 8)
  | 'f' => some (Char.ofNat 12)
  | 'n' => some '\n'
  | 'r' => some '\r'
  | 't' => some '\t'
  | _ => none

/-- The character of a pair of surrogates. -/
def joinUnits (high low : Nat) : Char :=
  Char.ofNat (0x10000 + (high - 0xd800) * 0x400 + (low - 0xdc00))

def isHighUnit (code : Nat) : Bool := 0xd800 ≤ code && code < 0xdc00

def isLowUnit (code : Nat) : Bool := 0xdc00 ≤ code && code < 0xe000

/-- An escaped code unit: a letter and four digits, which a backslash precedes. -/
def takeUnit : List Char → Option (Nat × List Char)
  | '\\' :: 'u' :: rest => Text.takeHex 4 0 rest
  | _ => none

/-- The code point that stands first in the content of a text, and what follows it. -/
def takeCharacter : List Char → Option (Text.CodePoint × List Char)
  | [] => none
  | '\\' :: 'u' :: rest =>
    match Text.takeHex 4 0 rest with
    | none => none
    | some (code, rest) =>
      match takeUnit rest with
      | some (low, after) =>
        if isHighUnit code && isLowUnit low then some (.char (joinUnits code low), after)
        else (Text.CodePoint.ofCode? code).map fun point => (point, rest)
      | none => (Text.CodePoint.ofCode? code).map fun point => (point, rest)
  | '\\' :: [] => none
  | '\\' :: c :: rest => (letterEscape? c).map fun d => (.char d, rest)
  | c :: rest => if c.toNat < 32 then none else some (.char c, rest)

theorem length_takeUnit {cs rest : List Char} {code : Nat} (h : takeUnit cs = some (code, rest)) :
    rest.length < cs.length := by
  unfold takeUnit at h
  split at h
  · have := Text.length_takeHex h
    simp; omega
  · contradiction

theorem length_takeCharacter {cs rest : List Char} {c : Text.CodePoint}
    (h : takeCharacter cs = some (c, rest)) : rest.length < cs.length := by
  unfold takeCharacter at h
  split at h
  · contradiction
  · split at h
    · contradiction
    · rename_i code left hHex
      have := Text.length_takeHex hHex
      split at h
      · rename_i low after hUnit
        have := length_takeUnit hUnit
        split at h
        · obtain ⟨-, rfl⟩ := Prod.mk.inj (Option.some.inj h)
          simp; omega
        · obtain ⟨point, _, hd⟩ := Option.map_eq_some_iff.1 h
          cases hd
          simp; omega
      · obtain ⟨point, _, hd⟩ := Option.map_eq_some_iff.1 h
        cases hd
        simp; omega
  · contradiction
  · obtain ⟨d, _, hd⟩ := Option.map_eq_some_iff.1 h
    cases hd
    simp only [List.length_cons]; omega
  · split at h
    · contradiction
    · cases h
      simp

def takeContent (cs : List Char) : Option (List Text.CodePoint × List Char) :=
  match cs with
  | '"' :: rest => some ([], rest)
  | cs =>
    match _character : takeCharacter cs with
    | some (c, rest) => (takeContent rest).map fun (content, after) => (c :: content, after)
    | none => none
termination_by cs.length
decreasing_by exact length_takeCharacter _character

theorem length_takeContent {cs rest : List Char} {content : List Text.CodePoint}
    (h : takeContent cs = some (content, rest)) : rest.length < cs.length := by
  fun_induction takeContent cs generalizing content with
  | case1 => cases h; simp
  | case2 cs _ c left hCharacter ih =>
    obtain ⟨⟨inner, after⟩, hInner, hEq⟩ := Option.map_eq_some_iff.1 h
    cases hEq
    exact Nat.lt_trans (ih hInner) (length_takeCharacter hCharacter)
  | case3 => contradiction

/-! ## Tokens -/

def words : List (List Char × Value) :=
  [("null".toList, .none), ("true".toList, .bool true), ("false".toList, .bool false),
   ("NaN".toList, .float .nan), ("Infinity".toList, .float (.infinite false)),
   ("-Infinity".toList, .float (.infinite true))]

def punctuation? : Char → Option Token
  | '[' => some .openBracket
  | ']' => some .closeBracket
  | '\x7b' => some .openBrace
  | '\x7d' => some .closeBrace
  | ':' => some .colon
  | ',' => some .comma
  | _ => none

def takeWord (cs : List Char) : Option (Value × List Char) :=
  (words.find? fun word => word.1.isPrefixOf cs).map fun word => (word.2, cs.drop word.1.length)

def takeToken : List Char → Option (Token × List Char)
  | [] => none
  | '"' :: rest =>
    (takeContent rest).map fun (content, after) => (.text content, after)
  | c :: rest =>
    match takeWord (c :: rest) with
    | some (v, after) => some (.word v, after)
    | none =>
      match takeNumber (c :: rest) with
      | some (parts, after) => some (.number parts, after)
      | none => (punctuation? c).map fun token => (token, rest)

theorem length_takeWord {cs rest : List Char} {v : Value} (h : takeWord cs = some (v, rest)) :
    rest.length < cs.length := by
  obtain ⟨word, hFind, hEq⟩ := Option.map_eq_some_iff.1 h
  cases hEq
  have hMem := List.mem_of_find?_eq_some hFind
  have hFound : word.1.isPrefixOf cs = true := by simpa using List.find?_some hFind
  have hStart := (List.isPrefixOf_iff_prefix.1 hFound).length_le
  have hLength : 0 < word.1.length := by
    simp only [words, List.mem_cons, List.not_mem_nil, or_false] at hMem
    rcases hMem with rfl | rfl | rfl | rfl | rfl | rfl <;> decide
  simp; omega

theorem length_takeToken {cs rest : List Char} {token : Token}
    (h : takeToken cs = some (token, rest)) : rest.length < cs.length := by
  unfold takeToken at h
  split at h
  · contradiction
  · obtain ⟨⟨content, after⟩, hContent, hEq⟩ := Option.map_eq_some_iff.1 h
    cases hEq
    exact Nat.lt_succ_of_lt (length_takeContent hContent)
  · split at h
    · rename_i hWord
      cases h
      exact length_takeWord hWord
    · split at h
      · rename_i hNumber
        cases h
        exact length_takeNumber hNumber
      · obtain ⟨mark, _, hEq⟩ := Option.map_eq_some_iff.1 h
        cases hEq
        simp

end Interpose.JsonText

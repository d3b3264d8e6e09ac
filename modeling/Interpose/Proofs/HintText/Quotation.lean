import Mathlib
import Interpose.HintText.Token
import Interpose.Text.Quoted
import Interpose.Text.Unescape
import Interpose.Value.Basic

/-! # Quoted text is read back

Each code point has one written form between two quotes. Reading takes the form as a whole, for no
quote or backslash in it stands alone, and the content of a literal stands for the code points whose
forms it is made of.
-/
namespace Interpose

set_option autoImplicit false

namespace Text

/-! ## Hexadecimal digits -/

theorem hexValue?_hexDigit {n : Nat} (h : n < 16) : hexValue? (hexDigit n) = some n := by
  have hAll : ∀ n : Fin 16, hexValue? (hexDigit n) = some n.val := by decide
  exact hAll ⟨n, h⟩

theorem takeHex_hexDigits_append (width more n value : Nat) (rest : List Char) :
    takeHex (width + more) value (hexDigits width n ++ rest)
      = takeHex more (value * 16 ^ width + n % 16 ^ width) rest := by
  induction width generalizing n more rest with
  | zero => rw [Nat.zero_add, Nat.pow_zero, Nat.mod_one, Nat.mul_one]; rfl
  | succ width ih =>
    rw [hexDigits, List.append_assoc, Nat.add_assoc, ih, List.singleton_append, Nat.add_comm 1 more,
      takeHex, hexValue?_hexDigit (Nat.mod_lt n (by decide))]
    have hValue : 16 * (value * 16 ^ width + n / 16 % 16 ^ width) + n % 16
        = value * 16 ^ (width + 1) + n % 16 ^ (width + 1) := by
      rw [Nat.pow_succ', Nat.mod_mul, Nat.mul_left_comm value]
      omega
    rw [← hValue]

theorem takeHex_hexDigits {width n : Nat} (h : n < 16 ^ width) (rest : List Char) :
    takeHex width 0 (hexDigits width n ++ rest) = some (n, rest) := by
  have hAll := takeHex_hexDigits_append width 0 n 0 rest
  rwa [Nat.zero_mul, Nat.zero_add, Nat.mod_eq_of_lt h] at hAll

theorem mem_hexDigits {width n : Nat} {c : Char} (h : c ∈ hexDigits width n) :
    ∃ d, d < 16 ∧ c = hexDigit d := by
  induction width generalizing n with
  | zero => contradiction
  | succ width ih =>
    rcases List.mem_append.1 h with hMore | hLast
    · exact ih hMore
    · exact ⟨n % 16, Nat.mod_lt n (by decide), List.mem_singleton.1 hLast⟩

/-! ## Code points -/

namespace CodePoint

theorem ofCode?_code (point : CodePoint) : ofCode? point.code = some point := by
  cases point with
  | char c =>
    have hValid : c.toNat.isValidChar := c.valid
    rw [ofCode?, code, if_pos hValid, Char.ofNat_toNat]
  | surrogate offset =>
    have hRange : 0xd800 ≤ 0xd800 + offset.val ∧ 0xd800 + offset.val < 0xe000 := by omega
    have hInvalid : ¬ (0xd800 + offset.val).isValidChar := by
      rintro (h | h) <;> omega
    rw [ofCode?, code, if_neg hInvalid, dif_pos hRange]
    simp

theorem code_lt (point : CodePoint) : point.code < 16 ^ 8 := by
  cases point with
  | char c =>
    have hValid : c.toNat.isValidChar := c.valid
    rw [code]
    rcases hValid with h | h <;> omega
  | surrogate offset =>
    rw [code]
    omega

end CodePoint

/-! ## The form of one code point -/

def IsQuote (c : Char) : Prop := c = '\'' ∨ c = '"'

theorem isQuote_quoteFor (content : List Char) : IsQuote (quoteFor content) := by
  unfold quoteFor
  split
  · exact Or.inr rfl
  · exact Or.inl rfl

/-- Whether some characters between two quotes are taken as a whole, and stand for one code
point. -/
structure IsForm (quote : Char) (point : CodePoint) (form : List Char) : Prop where
  taken : ∀ rest, HintText.takeContent quote (form ++ rest)
    = (HintText.takeContent quote rest).map fun (content, after) => (form ++ content, after)
  piece : ∀ rest, takePiece (form ++ rest) = some ([point], rest)

theorem takeContent_plain {quote : Char} {cs : List Char}
    (h : ∀ c ∈ cs, c ≠ '\\' ∧ c ≠ quote) (rest : List Char) :
    HintText.takeContent quote (cs ++ rest)
      = (HintText.takeContent quote rest).map fun (content, after) => (cs ++ content, after) := by
  induction cs with
  | nil => simp
  | cons c cs ih =>
    rw [List.forall_mem_cons] at h
    rw [List.cons_append, HintText.takeContent, if_neg h.1.2, ih h.2, Option.map_map]
    · rfl
    · exact fun hNil => absurd hNil h.1.1
    · exact fun _ _ hCons => absurd hCons h.1.1

theorem takeContent_escape {quote c : Char} (h : c ≠ '\n') (rest : List Char) :
    HintText.takeContent quote ('\\' :: c :: rest)
      = (HintText.takeContent quote rest).map
          fun (content, after) => ('\\' :: c :: content, after) := by
  rw [HintText.takeContent, if_neg h]

theorem IsForm.letter {quote c d : Char} (hLetter : letterEscape? c = some d) :
    IsForm quote (.char d) ['\\', c] where
  taken rest := takeContent_escape (by rintro rfl; contradiction) rest
  piece rest := by
    have hReturn : c ≠ '\r' := by
      rintro rfl
      contradiction
    rw [List.cons_append, List.singleton_append, takePiece, hLetter]
    · exact fun _ hCons => absurd hCons hReturn
    · exact hReturn

theorem IsForm.plain {quote c : Char} (hQuote : c ≠ quote) (hBackslash : c ≠ '\\')
    (hPrintable : isPrintable c = true) : IsForm quote (.char c) [c] where
  taken rest := takeContent_plain (by simp [hQuote, hBackslash]) rest
  piece rest := by
    have hNull : ¬ (c = '\n' ∨ c = '\r' ∨ c.toNat = 0) := by
      rintro (rfl | rfl | hZero)
      · exact absurd hPrintable (by decide)
      · exact absurd hPrintable (by decide)
      · rw [isPrintable, hZero] at hPrintable
        contradiction
    rw [List.singleton_append, takePiece, if_neg hNull]
    · exact fun hNil => absurd hNil hBackslash
    · exact fun _ hCons => absurd hCons hBackslash
    · exact fun _ hCons => absurd hCons hBackslash
    · exact fun _ _ hCons => absurd hCons hBackslash

theorem hexDigit_plain {quote c : Char} (hQuote : IsQuote quote) {width n : Nat}
    (h : c ∈ hexDigits width n) : c ≠ '\\' ∧ c ≠ quote := by
  have hAll : ∀ d : Fin 16, hexDigit d ≠ '\\' ∧ hexDigit d ≠ '\'' ∧ hexDigit d ≠ '"' := by decide
  obtain ⟨d, hLess, rfl⟩ := mem_hexDigits h
  obtain ⟨hBackslash, hSingle, hDouble⟩ := hAll ⟨d, hLess⟩
  rcases hQuote with rfl | rfl
  · exact ⟨hBackslash, hSingle⟩
  · exact ⟨hBackslash, hDouble⟩

theorem IsForm.hex {quote c : Char} (hQuote : IsQuote quote) {width : Nat}
    (hWidth : hexEscapeWidth? c = some width) (hLetter : letterEscape? c = none)
    {point : CodePoint} (hCode : point.code < 16 ^ width) :
    IsForm quote point ('\\' :: c :: hexDigits width point.code) where
  taken rest := by
    have hLine : c ≠ '\n' := by
      rintro rfl
      contradiction
    rw [List.cons_append, List.cons_append, takeContent_escape hLine,
      takeContent_plain fun d hMem => hexDigit_plain hQuote hMem, Option.map_map]
    rfl
  piece rest := by
    have hReturn : c ≠ '\r' := by
      rintro rfl
      contradiction
    rw [List.cons_append, List.cons_append, takePiece, hLetter, hWidth]
    · simp only [takeHex_hexDigits hCode, CodePoint.ofCode?_code, Option.map_some]
    · exact fun _ hCons => absurd hCons hReturn
    · exact hReturn

theorem IsForm.code {quote : Char} (hQuote : IsQuote quote) (point : CodePoint) :
    IsForm quote point (codeEscape point.code) := by
  unfold codeEscape
  split
  case isTrue h => exact .hex hQuote rfl rfl h
  case isFalse =>
    split
    case isTrue h => exact .hex hQuote rfl rfl h
    case isFalse => exact .hex hQuote rfl rfl point.code_lt

theorem isForm_escapeChar {quote : Char} (hQuote : IsQuote quote) (c : Char) :
    IsForm quote (.char c) (escapeChar quote c) := by
  rw [escapeChar]
  by_cases hSelf : (c == quote || c == '\\') = true
  · rw [if_pos hSelf]
    rcases Bool.or_eq_true_iff.1 hSelf with hEq | hEq
    · obtain rfl := beq_iff_eq.1 hEq
      rcases hQuote with rfl | rfl <;> exact .letter rfl
    · obtain rfl := beq_iff_eq.1 hEq
      exact .letter rfl
  rw [if_neg hSelf]
  by_cases hLine : (c == '\n') = true
  · rw [if_pos hLine, beq_iff_eq.1 hLine]
    exact .letter rfl
  rw [if_neg hLine]
  by_cases hReturn : (c == '\r') = true
  · rw [if_pos hReturn, beq_iff_eq.1 hReturn]
    exact .letter rfl
  rw [if_neg hReturn]
  by_cases hTab : (c == '\t') = true
  · rw [if_pos hTab, beq_iff_eq.1 hTab]
    exact .letter rfl
  rw [if_neg hTab]
  by_cases hPrintable : isPrintable c = true
  · rw [if_pos hPrintable]
    rw [Bool.or_eq_true, not_or, beq_iff_eq, beq_iff_eq] at hSelf
    exact .plain hSelf.1 hSelf.2 hPrintable
  · rw [if_neg hPrintable]
    exact .code hQuote (.char c)

theorem isForm_escapePoint {quote : Char} (hQuote : IsQuote quote) (point : CodePoint) :
    IsForm quote point (escapePoint quote point) := by
  cases point with
  | char c => exact isForm_escapeChar hQuote c
  | surrogate offset => exact .code hQuote (.surrogate offset)

theorem toNat_byteChar (b : UInt8) : (byteChar b).toNat = b.toNat := by
  have hValid : b.toNat.isValidChar := .inl (Nat.lt_trans b.toNat_lt (by decide))
  rw [byteChar, Char.toNat_ofNat, if_pos hValid]

theorem isForm_escapeByte {quote : Char} (hQuote : IsQuote quote) (b : UInt8) :
    IsForm quote (.char (byteChar b)) (escapeByte quote b) := by
  unfold escapeByte
  split
  next => exact isForm_escapeChar hQuote _
  next =>
    have hCode : (CodePoint.char (byteChar b)).code = b.toNat := toNat_byteChar b
    exact hCode ▸ .code hQuote (.char (byteChar b))

/-! ## The content of a literal -/

section Forms

variable {α : Type} {quote : Char} {point : α → CodePoint} {form : α → List Char}

/-- The content between two quotes ends at the second one. -/
theorem takeContent_flatMap (hQuote : IsQuote quote) (hForm : ∀ x, IsForm quote (point x) (form x))
    (xs : List α) (rest : List Char) :
    HintText.takeContent quote (xs.flatMap form ++ quote :: rest)
      = some (xs.flatMap form, rest) := by
  induction xs with
  | nil =>
    rw [List.flatMap_nil, List.nil_append, HintText.takeContent, if_pos rfl]
    · rcases hQuote with rfl | rfl <;> exact nofun
    · rcases hQuote with rfl | rfl <;> exact nofun
  | cons x xs ih =>
    rw [List.flatMap_cons, List.append_assoc, (hForm x).taken, ih]
    rfl

theorem unescape_of_takePiece {cs rest : List Char} {piece : List CodePoint}
    (h : takePiece cs = some (piece, rest)) : unescape cs = (unescape rest).map (piece ++ ·) := by
  fun_cases unescape cs with
  | case1 hEmpty =>
    rw [hEmpty] at h
    contradiction
  | case2 hSome piece' rest' hPiece =>
    cases h.symm.trans hPiece
    rfl
  | case3 hSome hNone =>
    rw [hNone] at h
    contradiction

theorem unescape_flatMap (hForm : ∀ x, IsForm quote (point x) (form x)) (xs : List α) :
    unescape (xs.flatMap form) = some (xs.map point) := by
  induction xs with
  | nil =>
    rw [List.flatMap_nil, unescape]
    rfl
  | cons x xs ih =>
    rw [List.flatMap_cons, unescape_of_takePiece ((hForm x).piece _), ih]
    rfl

end Forms

theorem unescape_forms {quote : Char} (hQuote : IsQuote quote) (points : List CodePoint) :
    unescape (points.flatMap (escapePoint quote)) = some points := by
  rw [unescape_flatMap (isForm_escapePoint hQuote), List.map_id']

end Text

namespace Value

theorem ofCodePoints_chars (s : String) : ofCodePoints (s.toList.map .char) = .str s := by
  have hWhole : ¬ (s.toList.map Text.CodePoint.char).any Text.CodePoint.isSurrogate = true := by
    simp [Text.CodePoint.isSurrogate]
  have hChars : (s.toList.map Text.CodePoint.char).filterMap Text.CodePoint.char? = s.toList := by
    rw [List.filterMap_map]
    exact List.filterMap_some
  rw [ofCodePoints, dif_neg hWhole, hChars, String.ofList_toList]

theorem ofCodePoints_broken (t : Text.BrokenText) : ofCodePoints t.points = .brokenStr t := by
  rw [ofCodePoints, dif_pos t.isBroken]

end Value
end Interpose

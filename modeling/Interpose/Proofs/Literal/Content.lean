import Interpose.Proofs.HintExpression
import Interpose.Proofs.Literal.Reader

/-! # The content of literals

What is written between the quotes of a text or a byte string. Each character and each byte is
written as an escape of one letter, as itself, or as an escape of its number, all of them in
printable characters. A byte string is read back byte by byte.
-/
namespace Interpose

set_option autoImplicit false

namespace Text

theorem escapeChar_cases {quote : Char} (hQuote : IsQuote quote) (c : Char) :
    (∃ letter, letterEscape? letter = some c ∧ escapeChar quote c = ['\\', letter]) ∨
      (isPrintable c = true ∧ c ≠ '\\' ∧ escapeChar quote c = [c]) ∨
      escapeChar quote c = codeEscape c.toNat := by
  unfold escapeChar
  split
  next hSelf =>
    rcases Bool.or_eq_true_iff.1 hSelf with hEq | hEq
    · obtain rfl := beq_iff_eq.1 hEq
      rcases hQuote with rfl | rfl <;> exact .inl ⟨_, rfl, rfl⟩
    · obtain rfl := beq_iff_eq.1 hEq
      exact .inl ⟨_, rfl, rfl⟩
  next hSelf =>
    split
    next hLine => exact .inl ⟨'n', beq_iff_eq.1 hLine ▸ rfl, rfl⟩
    split
    next hReturn => exact .inl ⟨'r', beq_iff_eq.1 hReturn ▸ rfl, rfl⟩
    split
    next hTab => exact .inl ⟨'t', beq_iff_eq.1 hTab ▸ rfl, rfl⟩
    split
    next hPrintable =>
      rw [Bool.or_eq_true, not_or, beq_iff_eq, beq_iff_eq] at hSelf
      exact .inr (.inl ⟨hPrintable, hSelf.2, rfl⟩)
    next => exact .inr (.inr rfl)

/-! ## Printable characters -/

def ArePrintable (cs : List Char) : Prop :=
  ∀ c ∈ cs, isPrintable c = true

theorem ArePrintable.append {cs ds : List Char} (h : ArePrintable cs) (hMore : ArePrintable ds) :
    ArePrintable (cs ++ ds) :=
  List.forall_mem_append.2 ⟨h, hMore⟩

theorem ArePrintable.cons {c : Char} {cs : List Char} (hFirst : isPrintable c = true)
    (h : ArePrintable cs) : ArePrintable (c :: cs) :=
  List.forall_mem_cons.2 ⟨hFirst, h⟩

theorem arePrintable_flatMap {α : Type} {form : α → List Char} (h : ∀ x, ArePrintable (form x))
    (xs : List α) : ArePrintable (xs.flatMap form) := by
  intro c hMem
  obtain ⟨x, -, hForm⟩ := List.mem_flatMap.1 hMem
  exact h x c hForm

theorem isPrintable_of_isQuote {quote : Char} (h : IsQuote quote) : isPrintable quote = true := by
  rcases h with rfl | rfl <;> rfl

theorem isPrintable_of_letterEscape? {letter c : Char} (h : letterEscape? letter = some c) :
    isPrintable letter = true := by
  unfold letterEscape? at h
  split at h <;> first | rfl | cases h

theorem arePrintable_codeEscape (code : Nat) : ArePrintable (codeEscape code) := by
  have hDigit : ∀ d : Fin 16, isPrintable (hexDigit d) = true := by decide
  have hDigits (width n : Nat) : ArePrintable (hexDigits width n) := by
    intro c hMem
    obtain ⟨d, hLess, rfl⟩ := mem_hexDigits hMem
    exact hDigit ⟨d, hLess⟩
  unfold codeEscape
  split
  next => exact .cons rfl (.cons rfl (hDigits 2 code))
  next =>
    split
    next => exact .cons rfl (.cons rfl (hDigits 4 code))
    next => exact .cons rfl (.cons rfl (hDigits 8 code))

theorem arePrintable_escapeChar {quote : Char} (hQuote : IsQuote quote) (c : Char) :
    ArePrintable (escapeChar quote c) := by
  obtain ⟨letter, hLetter, hForm⟩ | ⟨hPrintable, -, hForm⟩ | hForm := escapeChar_cases hQuote c
  · rw [hForm]
    exact .cons rfl (.cons (isPrintable_of_letterEscape? hLetter) (List.forall_mem_nil _))
  · rw [hForm]
    exact .cons hPrintable (List.forall_mem_nil _)
  · rw [hForm]
    exact arePrintable_codeEscape c.toNat

theorem arePrintable_escapePoint {quote : Char} (hQuote : IsQuote quote) (point : CodePoint) :
    ArePrintable (escapePoint quote point) := by
  cases point with
  | char c => exact arePrintable_escapeChar hQuote c
  | surrogate offset => exact arePrintable_codeEscape _

theorem arePrintable_escapeByte {quote : Char} (hQuote : IsQuote quote) (b : UInt8) :
    ArePrintable (escapeByte quote b) := by
  unfold escapeByte
  split
  next => exact arePrintable_escapeChar hQuote _
  next => exact arePrintable_codeEscape _

end Text

/-! ## Bytes -/

namespace Literal

open Text

theorem isPlainByte_of_isPrintable {c : Char} (hAscii : c.toNat < 128)
    (hPrintable : isPrintable c = true) : isPlainByte c = true := by
  rw [isPrintable, if_pos hAscii, Bool.and_eq_true, decide_eq_true_iff, decide_eq_true_iff]
    at hPrintable
  have hLine : c ≠ '\n' := by
    rintro rfl
    exact absurd hPrintable.1 (by decide)
  have hReturn : c ≠ '\r' := by
    rintro rfl
    exact absurd hPrintable.1 (by decide)
  simp only [isPlainByte, Bool.and_eq_true, decide_eq_true_eq, bne_iff_ne]
  exact ⟨⟨⟨hAscii, hLine⟩, hReturn⟩, by omega⟩

theorem ofNat_toNat_byteChar (b : UInt8) : UInt8.ofNat (byteChar b).toNat = b := by
  rw [toNat_byteChar, UInt8.ofNat_toNat]

theorem takeBytePiece_codeEscape {code : Nat} (h : code < 0x100) (rest : List Char) :
    takeBytePiece (codeEscape code ++ rest) = some ([UInt8.ofNat code], rest) := by
  rw [codeEscape, if_pos h, List.cons_append, List.cons_append, takeBytePiece]
  have hHex : takeHex 2 0 (hexDigits 2 code ++ rest) = some (code, rest) := takeHex_hexDigits h rest
  rw [if_pos rfl, hHex]
  rfl

theorem takeBytePiece_escapeByte {quote : Char} (hQuote : IsQuote quote) (b : UInt8)
    (rest : List Char) : takeBytePiece (escapeByte quote b ++ rest) = some ([b], rest) := by
  have hCode : takeBytePiece (codeEscape b.toNat ++ rest) = some ([b], rest) := by
    rw [takeBytePiece_codeEscape b.toNat_lt, UInt8.ofNat_toNat]
  unfold escapeByte
  split
  next hAscii =>
    obtain ⟨letter, hLetter, hForm⟩ | ⟨hPrintable, hBackslash, hForm⟩ | hForm :=
      escapeChar_cases hQuote (byteChar b)
    · rw [hForm, List.cons_append, List.singleton_append, takeBytePiece, hLetter]
      simp only [ofNat_toNat_byteChar]
    · have hPlain : isPlainByte (byteChar b) = true := by
        refine isPlainByte_of_isPrintable ?_ hPrintable
        rw [toNat_byteChar]
        omega
      rw [hForm, List.singleton_append, takeBytePiece, if_pos hPlain, ofNat_toNat_byteChar]
      · exact fun hEq _ => hBackslash hEq
      · exact fun _ _ hEq _ => hBackslash hEq
    · rw [hForm, toNat_byteChar]
      exact hCode
  next => exact hCode

theorem unescapeBytes_of_takeBytePiece {cs rest : List Char} {piece : List UInt8}
    (h : takeBytePiece cs = some (piece, rest)) :
    unescapeBytes cs = (unescapeBytes rest).map (piece ++ ·) := by
  fun_cases unescapeBytes cs with
  | case1 hEmpty =>
    rw [hEmpty] at h
    contradiction
  | case2 hSome piece' rest' hPiece =>
    cases h.symm.trans hPiece
    rfl
  | case3 hSome hNone =>
    rw [hNone] at h
    contradiction

theorem unescapeBytes_flatMap {quote : Char} (hQuote : IsQuote quote) (bytes : List UInt8) :
    unescapeBytes (bytes.flatMap (escapeByte quote)) = some bytes := by
  induction bytes with
  | nil =>
    rw [List.flatMap_nil, unescapeBytes]
    rfl
  | cons b bytes ih =>
    rw [List.flatMap_cons, unescapeBytes_of_takeBytePiece (takeBytePiece_escapeByte hQuote b _), ih]
    rfl

end Literal
end Interpose

import Interpose.Proofs.HintText.Lexemes
import Interpose.Text.Identifier

/-! # Texts that are no annotations

Outside its text literals an annotation has characters of ASCII only, and no literal stands right
behind a name. So a name with other letters and the notation of a byte string, which is a letter and
a text literal, are no part of any annotation.
-/
namespace Interpose

set_option autoImplicit false

namespace Text

def IsAscii (cs : List Char) : Prop :=
  ∀ c ∈ cs, c.toNat < 128

-- The instance that would be found goes through all characters there are.
instance : DecidablePred IsAscii := fun cs =>
  decidable_of_iff (cs.all fun c => c.toNat < 128) (by simp [IsAscii])

theorem IsAscii.append {cs ds : List Char} (h : IsAscii cs) (hMore : IsAscii ds) :
    IsAscii (cs ++ ds) :=
  List.forall_mem_append.2 ⟨h, hMore⟩

theorem IsAscii.cons {c : Char} {cs : List Char} (hFirst : c.toNat < 128) (h : IsAscii cs) :
    IsAscii (c :: cs) :=
  List.forall_mem_cons.2 ⟨hFirst, h⟩

end Text

/-! ## Lexemes -/

namespace Decimal

open Text

theorem AreDigits.isAscii {cs : List Char} (h : AreDigits cs) : IsAscii cs := by
  intro c hMem
  have hDigit := h c hMem
  simp only [Char.isDigit, Bool.and_eq_true, decide_eq_true_eq, UInt32.le_iff_toNat_le] at hDigit
  exact Nat.lt_of_le_of_lt hDigit.2 (by decide)

theorem IsSign.isAscii {negative : Bool} {cs : List Char} (h : IsSign negative cs) :
    IsAscii cs := by
  cases h <;> decide

theorem IsBody.isAscii {whole cs : List Char} {fraction : Option (List Char)}
    (h : IsBody whole fraction cs) : IsAscii cs := by
  cases h with
  | whole hDigits => exact hDigits.isAscii
  | pointed hDigits hFraction => exact hDigits.isAscii.append (.cons (by decide) hFraction.isAscii)

theorem IsExponent.isAscii {exponent : Option Int} {cs : List Char} (h : IsExponent exponent cs) :
    IsAscii cs := by
  cases h with
  | none => exact List.forall_mem_nil _
  | some hLetter hSign hDigits =>
    refine .append (.cons ?_ hSign.isAscii) hDigits.isAscii
    rcases hLetter with rfl | rfl <;> decide

theorem IsNumber.isAscii {n : Numeral} {cs : List Char} (h : IsNumber n cs) : IsAscii cs := by
  cases h with
  | of hSign hBody hExponent => exact (hSign.isAscii.append hBody.isAscii).append hExponent.isAscii

end Decimal

namespace HintText

open Text

theorem lt_of_isBlank {c : Char} (h : isBlank c = true) : c.toNat < 128 := by
  simp only [isBlank, Bool.or_eq_true, beq_iff_eq] at h
  rcases h with (((rfl | rfl) | rfl) | rfl) | hFeed
  · decide
  · decide
  · decide
  · decide
  · omega

theorem lt_of_isNameRest {c : Char} (h : isNameRest c = true) : c.toNat < 128 := by
  simp only [isNameRest, Char.isAlphanum, Char.isAlpha, Char.isUpper, Char.isLower, Char.isDigit,
    Bool.or_eq_true, Bool.and_eq_true, decide_eq_true_eq, beq_iff_eq, ge_iff_le,
    UInt32.le_iff_toNat_le] at h
  rcases h with ((h | h) | h) | rfl
  · exact Nat.lt_of_le_of_lt h.2 (by decide)
  · exact Nat.lt_of_le_of_lt h.2 (by decide)
  · exact Nat.lt_of_le_of_lt h.2 (by decide)
  · decide

theorem isNameRest_of_isNameStart {c : Char} (h : isNameStart c = true) : isNameRest c = true := by
  rw [isNameStart, Bool.or_eq_true] at h
  rw [isNameRest, Char.isAlphanum, Bool.or_eq_true, Bool.or_eq_true]
  exact h.imp .inl id

theorem Node.IsIdentifier.isAscii {cs : List Char} (h : IsIdentifier cs) : IsAscii cs := by
  cases cs with
  | nil => exact h.elim
  | cons c cs =>
    refine .cons (lt_of_isNameRest (isNameRest_of_isNameStart h.1)) fun d hMem => ?_
    exact lt_of_isNameRest (List.all_eq_true.1 h.2 d hMem)

/-- The characters of a lexeme are those of ASCII, unless it starts with a quote. -/
theorem IsLexeme.isAscii {token : Token} {lexeme : List Char} (h : IsLexeme token lexeme)
    (hQuote : ∀ c ∈ lexeme.head?, ¬ IsQuote c) : IsAscii lexeme := by
  have hMarks : ∀ mark ∈ marks, mark.1.toNat < 128 := by decide
  cases h with
  | name hName => exact hName.isAscii
  | text hText => exact absurd hText (hQuote _ rfl)
  | number hNumber => exact hNumber.isAscii
  | dots | point => decide
  | mark hMark => exact .cons (hMarks _ hMark) (List.forall_mem_nil _)

/-! ## Characters beyond ASCII -/

/-- Before the first quote of a text that spells tokens stand characters of ASCII only. -/
theorem IsSpelt.isAscii {cs : List Char} {tokens : List Token} (h : IsSpelt cs tokens)
    {front rest : List Char} (hCut : cs = front ++ rest) (hQuotes : ∀ c ∈ front, ¬ IsQuote c) :
    IsAscii front := by
  induction h generalizing front with
  | nil =>
    rw [(List.nil_eq_append_iff.1 hCut).1]
    exact List.forall_mem_nil _
  | @blank c cs tokens hBlank _ ih =>
    cases front with
    | nil => exact List.forall_mem_nil _
    | cons d front =>
      obtain ⟨rfl, hRest⟩ := List.cons.inj hCut
      exact .cons (lt_of_isBlank hBlank) (ih hRest (List.forall_mem_cons.1 hQuotes).2)
  | @token cs lexeme token tokens hLexeme _ ih =>
    cases front with
    | nil => exact List.forall_mem_nil _
    | cons d front =>
      have hHead : ∀ c ∈ lexeme.head?, ¬ IsQuote c := by
        obtain ⟨c, more, rfl⟩ := List.exists_cons_of_ne_nil hLexeme.ne_nil
        obtain ⟨rfl, -⟩ := List.cons.inj hCut
        rintro _ ⟨⟩
        exact hQuotes c List.mem_cons_self
      have hAscii := hLexeme.isAscii hHead
      -- The front ends behind the lexeme or inside it.
      rcases List.append_eq_append_iff.1 hCut with ⟨more, hFront, hRest⟩ | ⟨more, hInside, -⟩
      · rw [hFront] at hQuotes ⊢
        exact hAscii.append (ih hRest (List.forall_mem_append.1 hQuotes).2)
      · rw [hInside] at hAscii
        exact (List.forall_mem_append.1 hAscii).1

theorem tokens?_not_ascii {front : List Char} (hQuotes : ∀ c ∈ front, ¬ IsQuote c)
    (hOther : ¬ IsAscii front) (rest : List Char) : tokens? (front ++ rest) = none :=
  Option.eq_none_iff_forall_ne_some.2 fun _ h =>
    hOther ((isSpelt_of_tokens? h).isAscii rfl hQuotes)

/-! ## Literals behind names -/

theorem ofTokens?_literal_behind_name (front back : List Token) (s : String)
    (spelling : Spelling) : ofTokens? (front ++ .name s :: .literal spelling :: back) = none := by
  refine Option.eq_none_iff_forall_ne_some.2 fun node h => ?_
  obtain ⟨next, hReads, -⟩ := Option.bind_eq_some_iff.1 h
  rw [List.foldlM_append] at hReads
  obtain ⟨state, -, hReads⟩ := Option.bind_eq_some_iff.1 hReads
  obtain ⟨middle, hName, hReads⟩ := Option.bind_eq_some_iff.1 hReads
  obtain ⟨after, hLiteral, -⟩ := Option.bind_eq_some_iff.1 hReads
  obtain ⟨dotted, hOperand⟩ := operand_of_read_name hName
  exact absurd (isMark_of_read_behind_name hOperand hLiteral) Bool.false_ne_true

/-- Whether a text, whatever follows it, cannot be cut into tokens, or can be cut into none but a
name, a literal and further tokens. -/
def IsForeign (cs : List Char) : Prop :=
  ∀ rest tokens, tokens? (cs ++ rest) = some tokens →
    ∃ s spelling more, tokens = .name s :: .literal spelling :: more

/-- Whether a text is cut into some tokens in front of any other text. -/
def IsCut (cs : List Char) (tokens : List Token) : Prop :=
  ∀ rest, tokens? (cs ++ rest) = (tokens? rest).map (tokens ++ ·)

theorem IsCut.append {cs ds : List Char} {tokens more : List Token} (h : IsCut cs tokens)
    (hMore : IsCut ds more) : IsCut (cs ++ ds) (tokens ++ more) := by
  intro rest
  rw [List.append_assoc, h, hMore, Option.map_map]
  simp only [Function.comp_def, List.append_assoc]

theorem Lexes.isCut {cs ds : List Char} {tokens more : List Token} (h : Lexes cs tokens)
    (hMore : IsCut ds more) (hEnds : ∀ rest, EndsToken (ds ++ rest)) :
    IsCut (cs ++ ds) (tokens ++ more) := by
  intro rest
  rw [List.append_assoc, h _ (hEnds rest), hMore, Option.map_map]
  simp only [Function.comp_def, List.append_assoc]

theorem isCut_flatMap {α : Type} {form : α → List Char} {xs : List α}
    (h : ∀ x ∈ xs, ∃ tokens, IsCut (form x) tokens) : ∃ tokens, IsCut (xs.flatMap form) tokens := by
  induction xs with
  | nil => exact ⟨[], fun rest => by simp⟩
  | cons x xs ih =>
    rw [List.forall_mem_cons] at h
    obtain ⟨tokens, hFirst⟩ := h.1
    obtain ⟨more, hRest⟩ := ih h.2
    exact ⟨tokens ++ more, hFirst.append hRest⟩

/-- A text with a foreign one in it, wherever that starts between two tokens, is no annotation. -/
theorem IsForeign.spelled? {front cs : List Char} {tokens : List Token} (h : IsForeign cs)
    (hFront : IsCut front tokens) (rest : List Char) :
    HintText.spelled? (front ++ (cs ++ rest)) = none := by
  rw [HintText.spelled?, hFront]
  cases hTokens : tokens? (cs ++ rest) with
  | none => rfl
  | some more =>
    obtain ⟨s, spelling, others, rfl⟩ := h rest more hTokens
    exact ofTokens?_literal_behind_name tokens others s spelling

/-! ## Names with other letters -/

theorem isIdentifierRest_of_isIdentifierStart {c : Char} (h : isIdentifierStart c = true) :
    isIdentifierRest c = true := by
  unfold isIdentifierStart at h
  unfold isIdentifierRest
  split at h
  next hAscii =>
    rw [if_pos hAscii]
    exact isNameRest_of_isNameStart h
  next hOther => rw [if_neg hOther, h, Bool.true_or]

theorem isIdentifierRest_of_mem {s : String} (h : isIdentifier s = true) {c : Char}
    (hMem : c ∈ s.toList) : isIdentifierRest c = true := by
  unfold isIdentifier at h
  generalize s.toList = cs at h hMem
  cases cs with
  | nil => contradiction
  | cons d cs =>
    rw [Bool.and_eq_true] at h
    rcases List.mem_cons.1 hMem with rfl | hRest
    · exact isIdentifierRest_of_isIdentifierStart h.1
    · exact List.all_eq_true.1 h.2 c hRest

theorem Node.isIdentifier_of_isAscii {s : String} (h : isIdentifier s = true)
    (hAscii : IsAscii s.toList) : IsIdentifier s.toList := by
  unfold isIdentifier at h
  generalize s.toList = cs at h hAscii
  cases cs with
  | nil => contradiction
  | cons c cs =>
    obtain ⟨hFirst, hRest⟩ := List.forall_mem_cons.1 hAscii
    obtain ⟨hStart, hAll⟩ := Bool.and_eq_true_iff.1 h
    rw [isIdentifierStart, if_pos hFirst] at hStart
    refine ⟨hStart, List.all_eq_true.2 fun d hMem => ?_⟩
    have hName := List.all_eq_true.1 hAll d hMem
    rwa [isIdentifierRest, if_pos (hRest d hMem)] at hName

/-- Whether a text is a dotted name of the generated language: identifiers with points between
them. -/
def IsDottedName (dotted : String) : Prop :=
  ∀ part ∈ dottedParts dotted, isIdentifier part = true

theorem IsDottedName.char {dotted : String} (h : IsDottedName dotted) {c : Char}
    (hMem : c ∈ dotted.toList) : c = '.' ∨ isIdentifierRest c = true := by
  obtain ⟨part, parts, hCut, hJoin⟩ := join_cutAll '.' dotted.toList
  rw [IsDottedName, dottedParts, hCut, List.map_cons, List.forall_mem_cons] at h
  rw [← hJoin, List.mem_append, List.mem_flatMap] at hMem
  rcases hMem with hFirst | ⟨other, hOther, hMem⟩
  · exact .inr (isIdentifierRest_of_mem h.1 (by rwa [String.toList_ofList]))
  · rcases List.mem_cons.1 hMem with rfl | hMem
    · exact .inl rfl
    · have hIdentifier := h.2 _ (List.mem_map_of_mem hOther)
      exact .inr (isIdentifierRest_of_mem hIdentifier (by rwa [String.toList_ofList]))

theorem IsDottedName.isForeign {dotted : String} (h : IsDottedName dotted)
    (hOther : ¬ IsAscii dotted.toList) : IsForeign dotted.toList := by
  have hQuotes : ∀ c ∈ dotted.toList, ¬ IsQuote c := by
    rintro c hMem (rfl | rfl)
    · exact absurd (h.char hMem) (by decide)
    · exact absurd (h.char hMem) (by decide)
  intro rest tokens hTokens
  rw [tokens?_not_ascii hQuotes hOther] at hTokens
  contradiction

theorem IsDottedName.isDotted {dotted : String} (h : IsDottedName dotted)
    (hAscii : IsAscii dotted.toList) : Node.IsDotted dotted := by
  intro part hMem
  have hPart := h _ (List.mem_map_of_mem hMem)
  have hName : Node.IsIdentifier (String.ofList part).toList := by
    refine Node.isIdentifier_of_isAscii hPart fun c hChar => ?_
    rw [String.toList_ofList] at hChar
    exact hAscii c (subset_of_mem_cutAll hMem hChar)
  rwa [String.toList_ofList] at hName

/-! ## Byte strings -/

theorem isForeign_quoteBytes (content : List UInt8) : IsForeign (quoteBytes content).toList := by
  have hQuote := isQuote_quoteFor (content.map byteChar)
  have hContent := isContent_flatMap hQuote (isForm_escapeByte hQuote) content
  have hLetter : Node.IsIdentifier ['b'] := by decide
  intro rest tokens hTokens
  have hEnds : EndsName (quoteFor (content.map byteChar) ::
      content.flatMap (escapeByte (quoteFor (content.map byteChar)))
        ++ [quoteFor (content.map byteChar)] ++ rest) := by
    rintro c ⟨⟩
    rcases hQuote with hIs | hIs <;> rw [hIs] <;> decide
  have hCut := tokens?_identifier hLetter hEnds
  rw [tokens?_text hQuote hContent, Option.map_map] at hCut
  rw [quoteBytes, String.toList_ofList] at hTokens
  obtain ⟨more, -, rfl⟩ := Option.map_eq_some_iff.1 (hCut.symm.trans hTokens)
  exact ⟨_, _, more, rfl⟩

end HintText
end Interpose

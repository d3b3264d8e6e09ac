import Interpose.Proofs.Decimal.Notation
import Interpose.Proofs.HintText.Lexing
import Interpose.Proofs.Text.Outside
import Interpose.Source.Wellformed

/-! # Texts that stand on their own

What is written between the separators of a parameter list keeps them apart from its own: names,
dotted names, the texts of literals and all expressions that type hints are made of are closed, and
have none of the separators outside of brackets and quotes.
-/
namespace Interpose

set_option autoImplicit false

namespace Text

/-- The marks that a parameter list is cut at. -/
def separators : List Char := [',', '=', ':']

variable {marks cs ds : List Char}

theorem isPlain_of_test {test : Char → Bool} {c : Char} (h : test c = true)
    (hTest : (quotes ++ openings ++ closings ++ marks).all (test · == false) = true) :
    isPlain marks c = true := by
  rw [isPlain, Bool.not_eq_true', List.contains_eq_mem, decide_eq_false_iff_not]
  intro hMem
  have hOther := beq_iff_eq.1 (List.all_eq_true.1 hTest c hMem)
  rw [h] at hOther
  cases hOther

theorem isClosed_of_test {test : Char → Bool} (h : ∀ c ∈ cs, test c = true)
    (hTest : (quotes ++ openings ++ closings ++ marks).all (test · == false) = true) :
    IsClosed marks cs :=
  isClosed_of_isPlain fun c hMem => isPlain_of_test (h c hMem) hTest

theorem run?_quoted {quote : Char} (h : HintText.IsContent quote cs) (marks : List Char)
    (depth : Nat) :
    Cursor.run? marks (.quoted quote depth) cs = some (.quoted quote depth) := by
  induction h with
  | nil => rfl
  | @plain c cs hQuote hBackslash _ ih =>
    have hNext : Cursor.next? marks (.quoted quote depth) c = some (.quoted quote depth) :=
      Cursor.next?_eq_some_iff.2 ⟨rfl, by rw [Cursor.next, if_neg hBackslash, if_neg hQuote]⟩
    rw [Cursor.run?_cons, hNext]
    exact ih
  | @escaped c cs _ _ ih =>
    have hEscape : Cursor.next? marks (.quoted quote depth) '\\' = some (.escaped quote depth) := rfl
    rw [Cursor.run?_cons, hEscape]
    exact ih

/-- A quoted text does not show what is in it. -/
theorem run?_quotation {quote : Char} (hQuote : IsQuote quote) (h : HintText.IsContent quote cs)
    (hMark : quote ∉ marks) (depth : Nat) :
    Cursor.run? marks (.outside depth) (quote :: (cs ++ [quote])) = some (.outside depth) := by
  have hOpen : Cursor.next? marks (.outside depth) quote = some (.quoted quote depth) := by
    refine Cursor.next?_eq_some_iff.2 ⟨?_, ?_⟩
    · rcases hQuote with rfl | rfl <;> simp [Cursor.refuses, closings, hMark]
    · rcases hQuote with rfl | rfl <;> rfl
  have hClose : Cursor.next? marks (.quoted quote depth) quote = some (.outside depth) := by
    rcases hQuote with rfl | rfl <;> rfl
  rw [Cursor.run?_cons, hOpen]
  show Cursor.run? marks (.quoted quote depth) (cs ++ [quote]) = _
  rw [Cursor.run?_append (run?_quoted h marks depth), Cursor.run?_cons, hClose]
  rfl

/-! ## Names -/

theorem isPlain_of_isIdentifierRest {c : Char} (h : isIdentifierRest c = true) :
    isPlain separators c = true :=
  isPlain_of_test h (by decide +kernel)

theorem isIdentifierRest_of_isIdentifierStart {c : Char} (h : isIdentifierStart c = true) :
    isIdentifierRest c = true := by
  rw [isIdentifierStart] at h
  rw [isIdentifierRest]
  split at h
  next hAscii =>
    rw [if_pos hAscii, Char.isAlphanum]
    rcases Bool.or_eq_true_iff.1 h with hAlpha | hLine
    · rw [hAlpha]
      rfl
    · rw [hLine, Bool.or_true]
  next hOther => rw [if_neg hOther, h, Bool.true_or]

/-- The characters of an identifier. -/
theorem isIdentifierRest_of_mem {name : String} (h : isName name = true) :
    ∀ c ∈ name.toList, isIdentifierRest c = true := by
  rw [isName, Bool.and_eq_true, isIdentifier] at h
  cases hChars : name.toList with
  | nil => exact List.forall_mem_nil _
  | cons c rest =>
    rw [hChars, Bool.and_eq_true, List.all_eq_true] at h
    exact List.forall_mem_cons.2 ⟨isIdentifierRest_of_isIdentifierStart h.1.1, h.1.2⟩

theorem isClosed_of_isName {name : String} (h : isName name = true) :
    IsClosed separators name.toList :=
  isClosed_of_isPlain fun c hMem => isPlain_of_isIdentifierRest (isIdentifierRest_of_mem h c hMem)

theorem mem_of_mem_cutAll (mark : Char) {c : Char} (h : c ∈ cs) :
    c = mark ∨ ∃ part ∈ cutAll mark cs, c ∈ part := by
  obtain ⟨part, parts, hCut, hJoin⟩ := join_cutAll mark cs
  rw [← hJoin, List.mem_append, List.mem_flatMap] at h
  rw [hCut]
  rcases h with hFirst | ⟨other, hOther, hMem⟩
  · exact .inr ⟨part, List.mem_cons_self, hFirst⟩
  · rcases List.mem_cons.1 hMem with rfl | hMem
    · exact .inl rfl
    · exact .inr ⟨other, List.mem_cons_of_mem _ hOther, hMem⟩

theorem isClosed_of_isDottedPath {name : String} (h : isDottedPath name = true) :
    IsClosed separators name.toList := by
  rw [isDottedPath, dottedParts, List.all_map, List.all_eq_true] at h
  refine isClosed_of_isPlain fun c hMem => ?_
  rcases mem_of_mem_cutAll '.' hMem with rfl | ⟨part, hPart, hMem⟩
  · decide
  · have hName : isName (String.ofList part) = true := h part hPart
    exact isPlain_of_isIdentifierRest
      (isIdentifierRest_of_mem hName c (String.toList_ofList.symm ▸ hMem))

/-! ## Numbers -/

def isNumberRest (c : Char) : Bool :=
  HintText.isNumberStart c || c == 'e' || c == 'E'

theorem isNumberRest_of_mem {n : Decimal.Numeral} {cs : List Char} (h : Decimal.IsNumber n cs) :
    ∀ c ∈ cs, isNumberRest c = true := by
  have hDigits {digits : List Char} (h : Decimal.AreDigits digits) :
      ∀ c ∈ digits, isNumberRest c = true := by
    intro c hMem
    rw [isNumberRest, HintText.isNumberStart, h c hMem]
    simp
  have hSigns {negative : Bool} {sign : List Char} (h : Decimal.IsSign negative sign) :
      ∀ c ∈ sign, isNumberRest c = true := by
    cases h with
    | none => exact List.forall_mem_nil _
    | plus | minus => exact List.forall_mem_singleton.2 rfl
  obtain ⟨hSign, hBody, hExponent⟩ := h
  refine List.forall_mem_append.2 ⟨List.forall_mem_append.2 ⟨hSigns hSign, ?_⟩, ?_⟩
  · cases hBody with
    | whole h => exact hDigits h
    | pointed h hFraction =>
      exact List.forall_mem_append.2 ⟨hDigits h, List.forall_mem_cons.2 ⟨rfl, hDigits hFraction⟩⟩
  · cases hExponent with
    | none => exact List.forall_mem_nil _
    | some hLetter hExponentSign h =>
      refine List.forall_mem_append.2 ⟨List.forall_mem_cons.2 ⟨?_, hSigns hExponentSign⟩, hDigits h⟩
      rcases hLetter with rfl | rfl <;> rfl

/-- Some characters that stand for an operand, without a blank in front. -/
structure IsOperand (cs : List Char) : Prop where
  closed : IsClosed separators cs
  noBlank : cs.head? ≠ some ' '

theorem isOperand_of_takeNumber {n : Decimal.Numeral}
    (h : ∀ rest, Decimal.EndsNumber rest → Decimal.takeNumber (cs ++ rest) = some (n, rest)) :
    IsOperand cs := by
  have hNumber := h [] trivial
  rw [List.append_nil] at hNumber
  obtain ⟨number, hIs, hCut⟩ := Decimal.isNumber_of_takeNumber hNumber
  rw [List.append_nil] at hCut
  refine ⟨isClosed_of_test (isNumberRest_of_mem (hCut ▸ hIs)) (by decide), ?_⟩
  cases cs with
  | nil => exact nofun
  | cons c cs =>
    have hStart := HintText.isNumberStart_of_takeNumber hNumber
    rw [List.head?_cons, ne_eq, Option.some.injEq]
    exact HintText.ne_of_test hStart (by decide)

theorem isOperand_quotation {quote : Char} {content : List Char} (hQuote : IsQuote quote)
    (h : HintText.IsContent quote content) : IsOperand (quote :: (content ++ [quote])) where
  closed := run?_quotation hQuote h (by rcases hQuote with rfl | rfl <;> decide) 0
  noBlank := by rcases hQuote with rfl | rfl <;> simp

end Text

/-! ## Literals -/

namespace Value

open Text

theorem isClosed_commaSeparated {texts : List String}
    (h : ∀ text ∈ texts, IsClosed separators text.toList) :
    IsClosed [] (commaSeparated texts).toList := by
  induction texts with
  | nil => rfl
  | cons text texts ih =>
    obtain ⟨hFirst, hOthers⟩ := List.forall_mem_cons.1 h
    have hText := hFirst.of_subset (List.nil_subset _)
    cases texts with
    | nil =>
      rw [commaSeparated, String.intercalate_singleton]
      exact hText
    | cons second texts =>
      rw [commaSeparated, String.intercalate_cons_of_ne_nil (List.cons_ne_nil _ _),
        String.toList_append, String.toList_append]
      have hComma : IsClosed [] ", ".toList := by decide
      exact (hText.append hComma).append (ih hOthers)

theorem isOperand_tupleText {texts : List String}
    (h : ∀ text ∈ texts, IsClosed separators text.toList) :
    IsOperand (tupleText texts).toList := by
  have hRow := isClosed_commaSeparated h
  fun_cases tupleText texts with
  | case1 text =>
    have hText := (List.forall_mem_singleton.1 h).of_subset (List.nil_subset _)
    have hComma : IsClosed [] [','] := by decide
    have hAll : IsClosed separators ('(' :: (text.toList ++ [','] ++ [')'])) :=
      (hText.append hComma).bracketed (by decide) (by decide) (by decide)
    exact ⟨by simpa using hAll, by simp⟩
  | case2 =>
    have hAll : IsClosed separators ('(' :: ((commaSeparated texts).toList ++ [')'])) :=
      hRow.bracketed (by decide) (by decide) (by decide)
    exact ⟨by simpa using hAll, by simp⟩

theorem isOperand_frozensetText {texts : List String}
    (h : ∀ text ∈ texts, IsClosed separators text.toList) :
    IsOperand (frozensetText texts).toList := by
  have hRow := isClosed_commaSeparated h
  fun_cases frozensetText texts with
  | case1 => exact ⟨by decide, by decide⟩
  | case2 =>
    have hSet : IsClosed [] ('\x7b' :: ((commaSeparated texts).toList ++ ['\x7d'])) :=
      hRow.bracketed (by decide) (by decide) (by decide)
    have hCall : IsClosed separators
        ('(' :: ('\x7b' :: ((commaSeparated texts).toList ++ ['\x7d']) ++ [')'])) :=
      hSet.bracketed (by decide) (by decide) (by decide)
    have hWord : IsClosed separators "frozenset".toList := by decide
    exact ⟨by simpa using hWord.append hCall, by simp⟩

theorem isOperand_float {x : Decimal.Binary64} (h : x.isFinite = true) :
    IsOperand x.text.toList := by
  cases x with
  | nan | infinite => cases h
  | finite negative magnitude =>
    obtain ⟨n, -, -, hReads⟩ := Decimal.takeNumber_text negative magnitude
    exact isOperand_of_takeNumber hReads

theorem isOperand_text (s : String) : IsOperand (Text.quote s).toList := by
  have hQuote := isQuote_quoteFor s.toList
  rw [Text.quote, String.toList_ofList]
  exact isOperand_quotation hQuote (HintText.isContent_flatMap hQuote (isForm_escapeChar hQuote) _)

mutual

/-- The text of a literal is closed. -/
theorem isOperand_of_isLiteral : ∀ v : Value, v.isLiteral = true → IsOperand v.text.toList
  | .none, _ => ⟨by decide, by decide⟩
  | .bool b, _ => by cases b <;> exact ⟨by decide, by decide⟩
  | .int n, _ => isOperand_of_takeNumber fun _ => Decimal.takeNumber_repr n
  | .float _, h | .floatSub _, h => isOperand_float h
  | .str s, _ => isOperand_text s
  | .brokenStr t, _ => by
    have hQuote := isQuote_quoteFor t.masked
    rw [text, quoteBroken, String.toList_ofList]
    exact isOperand_quotation hQuote
      (HintText.isContent_flatMap hQuote (isForm_escapePoint hQuote) _)
  | .bytes content, _ => by
    have hQuote := isQuote_quoteFor (content.map byteChar)
    have hQuoted := isOperand_quotation hQuote
      (HintText.isContent_flatMap hQuote (isForm_escapeByte hQuote) content)
    have hLetter : IsClosed separators ['b'] := by decide
    rw [text, quoteBytes, String.toList_ofList]
    exact ⟨hLetter.append hQuoted.closed, nofun⟩
  | .tuple items, h => isOperand_tupleText (isClosed_of_areLiteral items h)
  | .frozenset items, h => isOperand_frozensetText (isClosed_of_areLiteral items h)

theorem isClosed_of_areLiteral : ∀ vs : List Value, areLiteral vs = true →
    ∀ text ∈ texts vs, IsClosed separators text.toList
  | [], _ => List.forall_mem_nil _
  | v :: vs, h => by
    obtain ⟨hFirst, hOthers⟩ := Bool.and_eq_true_iff.1 h
    exact List.forall_mem_cons.2 ⟨(isOperand_of_isLiteral v hFirst).closed,
      isClosed_of_areLiteral vs hOthers⟩

end

end Value

/-! ## Type hints -/

namespace HintMark

open Text Cursor

variable {fuel : Nat} {cs taken after : List Char} {marks : List HintMark} {opens : List Bool}
  {before : Before}

/-- Whether some characters leave a cursor outside of quotes where it is. -/
def IsNeutral (cs : List Char) : Prop :=
  ∀ depth, run? separators (.outside depth) cs = some (.outside depth)

theorem isNeutral_of_all (h : cs.all (isPlain separators) = true) : IsNeutral cs :=
  run?_of_isPlain (List.all_eq_true.1 h)

theorem IsNeutral.append (h : IsNeutral cs) (h' : IsNeutral taken) : IsNeutral (cs ++ taken) :=
  fun depth => (run?_append (h depth) taken).trans (h' depth)

theorem isNeutral_of_takeContent {quote : Char} {content : List Char} (hQuote : IsQuote quote)
    (h : HintText.takeContent quote cs = some (content, after)) :
    ∃ taken, quote :: cs = taken ++ after ∧ IsNeutral taken := by
  obtain ⟨hContent, rfl⟩ := HintText.isContent_of_takeContent h
  refine ⟨quote :: (content ++ [quote]), by simp, run?_quotation hQuote hContent ?_⟩
  rcases hQuote with rfl | rfl <;> decide

theorem isNeutral_of_takeNumber {n : Decimal.Numeral}
    (h : Decimal.takeNumber cs = some (n, after)) :
    ∃ taken, cs = taken ++ after ∧ IsNeutral taken := by
  obtain ⟨number, hNumber, hCut⟩ := Decimal.isNumber_of_takeNumber h
  exact ⟨number, hCut.symm, run?_of_isPlain fun c hMem =>
    isPlain_of_test (isNumberRest_of_mem hNumber c hMem) (by decide)⟩

theorem isNeutral_of_isIdentifierStart {c : Char} (h : isIdentifierStart c = true)
    (cs : List Char) : IsNeutral (c :: cs.takeWhile isDottedRest) := by
  refine run?_of_isPlain (List.forall_mem_cons.2 ⟨?_, fun d hMem => ?_⟩)
  · exact isPlain_of_isIdentifierRest (isIdentifierRest_of_isIdentifierStart h)
  · have hRest : isDottedRest d = true := List.mem_takeWhile_imp hMem
    exact isPlain_of_test hRest (by decide +kernel)

/-- Behind an operand, a cursor is where it was. -/
theorem run?_operand (hTaken : IsNeutral taken)
    (h : (scan? fuel after).map (.operand :: ·) = some marks)
    (hMarks : isExpression opens before marks = true)
    (ih : ∀ {marks opens before}, scan? fuel after = some marks →
      isExpression opens before marks = true →
        run? separators (.outside opens.length) after = some (.outside 0)) :
    run? separators (.outside opens.length) (taken ++ after) = some (.outside 0) := by
  obtain ⟨others, hOthers, rfl⟩ := Option.map_eq_some_iff.1 h
  rw [isExpression, Bool.and_eq_true] at hMarks
  rw [run?_append (hTaken _)]
  exact ih hOthers hMarks.2

/-- What a mark that is no operand makes of a cursor, if it may stand where it does. -/
theorem next?_of_isExpression {c : Char} {mark : HintMark} (hMark : ofChar? c = some mark)
    (h : isExpression opens before (mark :: marks) = true) :
    ∃ opens' before', isExpression opens' before' marks = true ∧
      next? separators (.outside opens.length) c = some (.outside opens'.length) := by
  have hPlain {c : Char} (hPlain : isPlain separators c = true) (opens : List Bool) :
      next? separators (.outside opens.length) c = some (.outside opens.length) :=
    next?_of_isPlain hPlain opens.length
  rw [ofChar?] at hMark
  split at hMark
  next hOperator =>
    cases hMark
    rw [isExpression, Bool.and_eq_true] at h
    refine ⟨opens, _, h.2, hPlain ?_ opens⟩
    rcases hOperator with rfl | rfl <;> rfl
  split at hMark
  next hSign =>
    cases hMark
    rw [isExpression] at h
    refine ⟨opens, _, h, hPlain ?_ opens⟩
    rcases hSign with rfl | rfl <;> rfl
  split at hMark
  next hComma =>
    cases hMark
    rw [isExpression, Bool.and_eq_true, Bool.and_eq_true] at h
    cases opens with
    | nil => cases h.1.2
    | cons mayBeEmpty opens =>
      refine ⟨_, _, h.2, ?_⟩
      rcases hComma with rfl | rfl <;> rfl
  split at hMark
  next hOpening =>
    cases hMark
    rw [isExpression, Bool.and_eq_true] at h
    refine ⟨_, _, h.2, next?_eq_some_iff.2 ⟨?_, ?_⟩⟩
    · rcases hOpening with rfl | rfl | rfl <;> simp [refuses, closings, separators]
    · rcases hOpening with rfl | rfl | rfl <;> rfl
  split at hMark
  next hClosing =>
    cases hMark
    cases opens with
    | nil => cases h
    | cons mayBeEmpty opens =>
      rw [isExpression, Bool.and_eq_true] at h
      refine ⟨opens, _, h.2, ?_⟩
      rcases hClosing with rfl | rfl | rfl <;> rfl
  next => cases hMark

/-- A cursor follows the open brackets of an expression, and leaves it where there are none. -/
theorem run?_of_isExpression (h : scan? fuel cs = some marks)
    (hMarks : isExpression opens before marks = true) :
    run? separators (.outside opens.length) cs = some (.outside 0) := by
  fun_induction scan? fuel cs generalizing marks opens before with
  | case1 =>
    cases h
    rw [isExpression, Bool.and_eq_true, List.isEmpty_iff] at hMarks
    rw [hMarks.1]
    rfl
  | case2 | case9 | case13 => cases h
  | case3 fuel rest ih =>
    have hPoints : IsNeutral ['.', '.', '.'] := isNeutral_of_all rfl
    exact run?_operand hPoints h hMarks ih
  | case4 fuel rest ih | case5 fuel rest ih =>
    obtain ⟨⟨content, after⟩, hContent, h⟩ := Option.bind_eq_some_iff.1 h
    obtain ⟨taken, hCut, hTaken⟩ := isNeutral_of_takeContent (by simp [IsQuote]) hContent
    have hLetter : IsNeutral ['b'] := isNeutral_of_all rfl
    rw [hCut, ← List.singleton_append, ← List.append_assoc]
    exact run?_operand (hLetter.append hTaken) h hMarks (ih after)
  | case6 fuel rest _ _ _ ih =>
    have hBlank : IsNeutral [' '] := isNeutral_of_all rfl
    exact (run?_append (hBlank _) rest).trans (ih h hMarks)
  | case7 fuel c rest _ _ _ _ hQuote ih =>
    obtain ⟨⟨content, after⟩, hContent, h⟩ := Option.bind_eq_some_iff.1 h
    obtain ⟨taken, hCut, hTaken⟩ := isNeutral_of_takeContent hQuote hContent
    rw [hCut]
    exact run?_operand hTaken h hMarks (ih after)
  | case8 fuel c rest _ _ _ _ _ hStart =>
    rename_i ih
    have hWord := run?_operand (isNeutral_of_isIdentifierStart hStart rest) h hMarks ih
    rwa [List.cons_append, List.takeWhile_append_dropWhile] at hWord
  | case10 fuel c rest _ _ _ _ _ _ mark hMark ih =>
    obtain ⟨others, hOthers, rfl⟩ := Option.map_eq_some_iff.1 h
    obtain ⟨opens', before', hRest, hNext⟩ := next?_of_isExpression hMark hMarks
    rw [run?_cons, hNext]
    exact ih hOthers hRest
  | case11 fuel c rest _ _ _ _ _ _ _ n after hNumber ih =>
    obtain ⟨taken, hCut, hTaken⟩ := isNeutral_of_takeNumber hNumber
    have hLetter : IsNeutral ['j'] := isNeutral_of_all rfl
    rw [hCut, ← List.singleton_append, ← List.append_assoc]
    exact run?_operand (hTaken.append hLetter) h hMarks ih
  | case12 fuel c rest _ _ _ _ _ _ _ n after _ hNumber ih =>
    obtain ⟨taken, hCut, hTaken⟩ := isNeutral_of_takeNumber hNumber
    rw [hCut]
    exact run?_operand hTaken h hMarks ih

end HintMark

/-- An expression of the kind that type hints are made of is closed. -/
theorem Text.isClosed_of_isHintExpression {text : String} (h : isHintExpression text = true) :
    IsClosed separators text.toList := by
  rw [isHintExpression] at h
  split at h
  next marks hScan => exact HintMark.run?_of_isExpression hScan h
  next => cases h

end Interpose

import Interpose.Proofs.HintText.Joining
import Interpose.Source.Wellformed

/-! # The expressions of type hints

The grammar of the expressions that type hints are made of, and its agreement with the check of
generated source. A text of the grammar is scanned into the same marks wherever a token ends behind
it, and its marks lead the check from a place for an operand to the place behind that operand.
-/
namespace Interpose

set_option autoImplicit false

open HintText (EndsToken)

/-! ## The grammar -/

/-- A name or a dotted name, the three constants among them, or three dots. -/
def IsAtom (s : String) : Prop :=
  HintMark.isDottedName (Text.dottedParts s) = true ∨ s = "..."

instance : DecidablePred IsAtom := fun s =>
  inferInstanceAs (Decidable (HintMark.isDottedName (Text.dottedParts s) = true ∨ s = "..."))

/-- What may stand between two quotes in a literal: nothing that ends the literal or the line, and
escapes that can be read. -/
structure IsQuotable (quote : Char) (content : List Char) : Prop where
  isQuote : Text.IsQuote quote
  isContent : HintText.IsContent quote content
  isReadable : ∃ points, Text.unescape content = some points

inductive IsHintExpression : String → Prop where
  | atom {s : String} (h : IsAtom s) : IsHintExpression s
  | number {s : String} {n : Decimal.Numeral} {v : Value} (h : Decimal.IsNumber n s.toList)
      (hRead : HintText.readNumber n = some v) : IsHintExpression s
  | text {quote : Char} {content : List Char} (h : IsQuotable quote content) :
      IsHintExpression (String.ofList (quote :: content ++ [quote]))
  | bytes {quote : Char} {content : List Char} (h : IsQuotable quote content)
      (hAscii : ∀ c ∈ content, c.toNat < 128) :
      IsHintExpression (String.ofList ('b' :: quote :: content ++ [quote]))
  | list {items : List String} (h : ∀ item ∈ items, IsHintExpression item) :
      IsHintExpression ("[" ++ ", ".intercalate items ++ "]")
  | subscript {origin : String} {arguments : List String} (hOrigin : IsAtom origin)
      (hSome : arguments ≠ []) (h : ∀ argument ∈ arguments, IsHintExpression argument) :
      IsHintExpression (origin ++ "[" ++ ", ".intercalate arguments ++ "]")
  | either {a b : String} (hLeft : IsHintExpression a) (hRight : IsHintExpression b) :
      IsHintExpression (a ++ " | " ++ b)
  | both {a b : String} (hLeft : IsHintExpression a) (hRight : IsHintExpression b) :
      IsHintExpression (a ++ " & " ++ b)

namespace HintMark

/-! ## Scanning -/

/-- Whether a text has some marks, given enough fuel. -/
def ScansAs (cs : List Char) (marks : List HintMark) : Prop :=
  ∀ fuel, cs.length ≤ fuel → scan? fuel cs = some marks

theorem ScansAs.nil : ScansAs [] [] := by
  intro fuel _
  cases fuel <;> rfl

theorem ScansAs.step {c : Char} {cs rest : List Char} {mark : HintMark} {marks : List HintMark}
    (hStep : ∀ fuel, scan? (fuel + 1) (c :: cs) = (scan? fuel rest).map (mark :: ·))
    (hShorter : rest.length ≤ cs.length) (h : ScansAs rest marks) :
    ScansAs (c :: cs) (mark :: marks) := by
  intro fuel hFuel
  cases fuel with
  | zero => contradiction
  | succ fuel =>
    rw [List.length_cons] at hFuel
    rw [hStep, h fuel (by omega)]
    rfl

theorem ScansAs.blank {cs : List Char} {marks : List HintMark} (h : ScansAs cs marks) :
    ScansAs (' ' :: cs) marks := by
  intro fuel hFuel
  cases fuel with
  | zero => contradiction
  | succ fuel => exact h fuel (Nat.le_of_succ_le_succ hFuel)

def punctuation : List (Char × HintMark) :=
  [('|', .operator), ('&', .operator), ('+', .sign), ('-', .sign), (',', .comma),
   ('[', .opening '['), (']', .closing)]

theorem ScansAs.mark {c : Char} {cs : List Char} {mark : HintMark} {marks : List HintMark}
    (hMark : (c, mark) ∈ punctuation) (h : ScansAs cs marks) :
    ScansAs (c :: cs) (mark :: marks) := by
  refine .step (fun fuel => ?_) (Nat.le_refl _) h
  simp only [punctuation, List.mem_cons, Prod.mk.injEq, List.not_mem_nil, or_false] at hMark
  rcases hMark with ⟨rfl, rfl⟩ | ⟨rfl, rfl⟩ | ⟨rfl, rfl⟩ | ⟨rfl, rfl⟩ | ⟨rfl, rfl⟩ | ⟨rfl, rfl⟩
    | ⟨rfl, rfl⟩ <;> rfl

/-- Whether a text has some marks wherever a token ends behind it. -/
def Scans (cs : List Char) (marks : List HintMark) : Prop :=
  ∀ rest more, EndsToken rest → ScansAs rest more → ScansAs (cs ++ rest) (marks ++ more)

theorem Scans.append {first second : List Char} {marks more : List HintMark}
    (hFirst : Scans first marks) (hSecond : Scans second more)
    (hEnds : ∀ rest, EndsToken rest → EndsToken (second ++ rest)) :
    Scans (first ++ second) (marks ++ more) := by
  intro rest others hRest hOthers
  rw [List.append_assoc, List.append_assoc]
  exact hFirst _ _ (hEnds rest hRest) (hSecond _ _ hRest hOthers)

theorem Scans.mark_cons {c : Char} {cs : List Char} {mark : HintMark} {marks : List HintMark}
    (hMark : (c, mark) ∈ punctuation) (h : Scans cs marks) : Scans (c :: cs) (mark :: marks) :=
  fun rest more hRest hMore => .mark hMark (h rest more hRest hMore)

theorem Scans.nil : Scans [] [] :=
  fun _ _ _ hMore => hMore

theorem Scans.bracketed {cs : List Char} {marks : List HintMark} (h : Scans cs marks) :
    Scans ('[' :: cs ++ [']']) (.opening '[' :: marks ++ [.closing]) := by
  refine Scans.mark_cons (by decide) ?_
  refine h.append (Scans.mark_cons (by decide) .nil) fun rest _ => ?_
  exact (show ']' ∈ HintText.tokenEnds by decide)

/-! ## The marks of operands -/

theorem scans_dots : Scans ['.', '.', '.'] [.operand] := by
  intro rest more _ hMore
  refine .step (fun fuel => rfl) ?_ hMore
  exact Nat.le_add_right rest.length 2

/-- A literal is scanned as one mark, from the first quote or from a letter in front of it. -/
theorem scans_quoted {quote c : Char} {content : List Char} (front : List Char)
    (hQuote : Text.IsQuote quote) (h : HintText.IsContent quote content)
    (hScan : ∀ fuel cs, scan? (fuel + 1) (c :: (front ++ cs))
      = (HintText.takeContent quote cs).bind fun taken =>
          (scan? fuel taken.2).map (.operand :: ·)) :
    Scans (c :: (front ++ (content ++ [quote]))) [.operand] := by
  intro rest more _ hMore
  have hBackslash : quote ≠ '\\' := by rcases hQuote with rfl | rfl <;> decide
  have hCut : front ++ (content ++ [quote]) ++ rest = front ++ (content ++ quote :: rest) := by simp
  rw [List.cons_append, hCut]
  refine .step (fun fuel => ?_) ?_ hMore
  · rw [hScan, h.take hBackslash]
    rfl
  · simp only [List.length_append, List.length_cons]
    omega

theorem scans_text {quote : Char} {content : List Char} (hQuote : Text.IsQuote quote)
    (h : HintText.IsContent quote content) : Scans (quote :: content ++ [quote]) [.operand] := by
  refine scans_quoted [] hQuote h fun fuel cs => ?_
  rcases hQuote with rfl | rfl <;> rfl

theorem scans_bytes {quote : Char} {content : List Char} (hQuote : Text.IsQuote quote)
    (h : HintText.IsContent quote content) :
    Scans ('b' :: quote :: content ++ [quote]) [.operand] := by
  refine scans_quoted [quote] hQuote h fun fuel cs => ?_
  rcases hQuote with rfl | rfl <;> rfl

theorem isDottedRest_of_isIdentifierStart {c : Char} (h : Text.isIdentifierStart c = true) :
    isDottedRest c = true := by
  rw [Text.isIdentifierStart] at h
  rw [isDottedRest, Text.isIdentifierRest, Bool.or_eq_true]
  right
  split at h
  next hAscii =>
    rw [if_pos hAscii, Char.isAlphanum]
    rcases Bool.or_eq_true_iff.1 h with hAlpha | hLine
    · rw [hAlpha, Bool.true_or, Bool.true_or]
    · rw [hLine, Bool.or_true]
  next hOther => rw [if_neg hOther, h, Bool.true_or]

theorem isIdentifier_of_isDottedName {parts : List String} (h : isDottedName parts = true) :
    ∀ part ∈ parts, Text.isIdentifier part = true := by
  unfold isDottedName at h
  split at h
  next part =>
    intro other hMem
    rw [List.mem_singleton.1 hMem]
    exact (Bool.and_eq_true_iff.1 h).1
  next =>
    intro part hMem
    exact (Bool.and_eq_true_iff.1 (List.all_eq_true.1 h part hMem)).1

/-- A dotted name starts as an identifier does, and goes on with what may stand in one. -/
theorem exists_of_isDottedName {dotted : String}
    (h : isDottedName (Text.dottedParts dotted) = true) :
    ∃ c cs, dotted.toList = c :: cs ∧ Text.isIdentifierStart c = true ∧
      ∀ d ∈ cs, isDottedRest d = true := by
  obtain ⟨part, parts, hCut, hJoin⟩ := Text.join_cutAll '.' dotted.toList
  have hParts : ∀ cs ∈ part :: parts, ∃ c rest, cs = c :: rest ∧
      Text.isIdentifierStart c = true ∧ ∀ d ∈ rest, isDottedRest d = true := by
    intro cs hMem
    have hMem' : String.ofList cs ∈ Text.dottedParts dotted := by
      rw [Text.dottedParts, hCut]
      exact List.mem_map_of_mem hMem
    have hIdentifier := isIdentifier_of_isDottedName h _ hMem'
    rw [Text.isIdentifier, String.toList_ofList] at hIdentifier
    cases cs with
    | nil => contradiction
    | cons c rest =>
      obtain ⟨hStart, hRest⟩ := Bool.and_eq_true_iff.1 hIdentifier
      refine ⟨c, rest, rfl, hStart, fun d hMem => ?_⟩
      rw [isDottedRest, List.all_eq_true.1 hRest d hMem, Bool.or_true]
  rw [List.forall_mem_cons] at hParts
  obtain ⟨⟨c, cs, rfl, hStart, hRest⟩, hParts⟩ := hParts
  refine ⟨c, cs ++ parts.flatMap ('.' :: ·), hJoin.symm, hStart, ?_⟩
  refine List.forall_mem_append.2 ⟨hRest, fun d hMem => ?_⟩
  obtain ⟨other, hOther, hMem⟩ := List.mem_flatMap.1 hMem
  rcases List.mem_cons.1 hMem with rfl | hMem
  · rfl
  · obtain ⟨c, rest, rfl, hStart, hRest⟩ := hParts other hOther
    rcases List.mem_cons.1 hMem with rfl | hMem
    · exact isDottedRest_of_isIdentifierStart hStart
    · exact hRest d hMem

theorem scans_dottedName {dotted : String} (h : isDottedName (Text.dottedParts dotted) = true) :
    Scans dotted.toList [.operand] := by
  obtain ⟨c, cs, hChars, hStart, hMore⟩ := exists_of_isDottedName h
  intro rest more hRest hMarks
  have hEnds : ∀ d ∈ rest.head?, isDottedRest d = false := hRest.test_false (by decide)
  have hQuote : ∀ quote after, cs ++ rest = quote :: after →
      isDottedRest quote = true ∨ quote ∈ HintText.tokenEnds := by
    intro quote after hCons
    cases cs with
    | nil =>
      obtain rfl : rest = quote :: after := hCons
      exact .inr hRest
    | cons d cs =>
      obtain ⟨rfl, -⟩ := List.cons.inj hCons
      exact .inl (hMore d List.mem_cons_self)
  have hBlank : c ≠ ' ' := HintText.ne_of_test hStart (by decide)
  have hText : ¬ (c = '\'' ∨ c = '"') :=
    not_or.2 ⟨HintText.ne_of_test hStart (by decide), HintText.ne_of_test hStart (by decide)⟩
  have hDotted : isDottedName (Text.dottedParts (String.ofList (c :: cs))) = true := by
    rwa [← hChars, String.ofList_toList]
  rw [hChars, List.cons_append]
  refine .step (fun fuel => ?_) (by simp) hMarks
  rw [scan?, if_neg hBlank, if_neg hText, if_pos hStart,
    Text.takeWhile_append_of_ends hMore hEnds, Text.dropWhile_append_of_ends hMore hEnds]
  · exact if_pos hDotted
  · exact fun _ hPoint => absurd hPoint (HintText.ne_of_test hStart (by decide))
  · exact fun after _ hCons => absurd (hQuote _ after hCons) (by decide)
  · exact fun after _ hCons => absurd (hQuote _ after hCons) (by decide)

theorem scans_atom {s : String} (h : IsAtom s) : Scans s.toList [.operand] := by
  rcases h with hName | rfl
  · exact scans_dottedName hName
  · exact scans_dots

/-! ## The marks of numbers -/

/-- Whether a number without a sign can start with a character. -/
def startsUnsigned (c : Char) : Bool :=
  c == '.' || c.isDigit

theorem isIdentifierStart_eq_false {c : Char} (h : startsUnsigned c = true) :
    Text.isIdentifierStart c = false := by
  have hLine : c ≠ '_' := HintText.ne_of_test h (by decide)
  rcases Bool.or_eq_true_iff.1 h with hPoint | hDigit
  · rw [beq_iff_eq.1 hPoint]
    rfl
  · have hAscii : c.toNat < 128 :=
      Nat.lt_of_le_of_lt (Char.isDigit_iff_toNat.1 hDigit).2 (by decide)
    have hAlpha : c.isAlpha = false := by
      refine Bool.eq_false_iff.2 fun hAlpha => ?_
      have hName : HintText.isNameStart c = true := by
        rw [HintText.isNameStart, hAlpha, Bool.true_or]
      rw [HintText.isDigit_of_isNameStart hName] at hDigit
      contradiction
    rw [Text.isIdentifierStart, if_pos hAscii, hAlpha, beq_false_of_ne hLine, Bool.or_false]

theorem ofChar?_eq_none {c : Char} (h : startsUnsigned c = true) : ofChar? c = none := by
  have hOther : ∀ d, startsUnsigned d = false → c ≠ d := fun d hD => HintText.ne_of_test h hD
  rw [ofChar?, if_neg, if_neg, if_neg, if_neg, if_neg]
  · exact not_or.2 ⟨hOther _ rfl, not_or.2 ⟨hOther _ rfl, hOther _ rfl⟩⟩
  · exact not_or.2 ⟨hOther _ rfl, not_or.2 ⟨hOther _ rfl, hOther _ rfl⟩⟩
  · exact not_or.2 ⟨hOther _ rfl, hOther _ rfl⟩
  · exact not_or.2 ⟨hOther _ rfl, hOther _ rfl⟩
  · exact not_or.2 ⟨hOther _ rfl, hOther _ rfl⟩

theorem scans_unsigned {n : Decimal.Numeral} {c : Char} {cs : List Char}
    (h : Decimal.IsNumber n (c :: cs)) (hStart : startsUnsigned c = true) :
    Scans (c :: cs) [.operand] := by
  intro rest more hRest hMarks
  have hTake := h.take hRest.endsNumber
  have hBlank : c ≠ ' ' := HintText.ne_of_test hStart (by decide)
  have hText : ¬ (c = '\'' ∨ c = '"') :=
    not_or.2 ⟨HintText.ne_of_test hStart (by decide), HintText.ne_of_test hStart (by decide)⟩
  have hName : ¬ Text.isIdentifierStart c = true :=
    Bool.eq_false_iff.1 (isIdentifierStart_eq_false hStart)
  rw [List.cons_append] at hTake ⊢
  refine .step (fun fuel => ?_) (by simp) hMarks
  rw [scan?, if_neg hBlank, if_neg hText, if_neg hName, ofChar?_eq_none hStart, hTake]
  · dsimp only
    split
    next hCons =>
      cases hCons
      exact absurd hRest (show 'j' ∉ HintText.tokenEnds by decide)
    next hCons =>
      cases hCons
      rfl
    next hNone => cases hNone
  · rintro after rfl hCons
    rw [hCons] at hTake
    exact absurd hTake nofun
  · rintro after rfl -
    exact absurd hStart (by decide)
  · rintro after rfl -
    exact absurd hStart (by decide)

theorem startsUnsigned_of_isBody {whole body : List Char} {fraction : Option (List Char)}
    (h : Decimal.IsBody whole fraction body) :
    ∃ c cs, body = c :: cs ∧ startsUnsigned c = true := by
  have hDigit : ∀ {c : Char}, c.isDigit = true → startsUnsigned c = true := by
    intro c h
    rw [startsUnsigned, h, Bool.or_true]
  cases h with
  | whole hDigits hSome =>
    obtain ⟨d, digits, rfl⟩ := List.exists_cons_of_ne_nil hSome
    exact ⟨d, digits, rfl, hDigit (hDigits d List.mem_cons_self)⟩
  | pointed hDigits _ _ =>
    cases whole with
    | nil => exact ⟨'.', _, rfl, rfl⟩
    | cons d digits => exact ⟨d, _, rfl, hDigit (hDigits d List.mem_cons_self)⟩

/-! ## Checking -/

/-- Whether marks lead from a place for an operand to the place behind it, among open brackets. -/
def Completes (opens : List Bool) (marks : List HintMark) : Prop :=
  ∀ before more, before ≠ .operand →
    isExpression opens before (marks ++ more) = isExpression opens .operand more

theorem completes_operand (opens : List Bool) : Completes opens [.operand] := by
  intro before more hBefore
  rw [List.singleton_append, isExpression, bne_iff_ne.2 hBefore, Bool.true_and]

theorem Completes.sign {opens : List Bool} {marks : List HintMark} (h : Completes opens marks) :
    Completes opens (.sign :: marks) := by
  intro before more _
  rw [List.cons_append, isExpression]
  exact h .operator more (by decide)

theorem Completes.operator {opens : List Bool} {marks more : List HintMark}
    (hLeft : Completes opens marks) (hRight : Completes opens more) :
    Completes opens (marks ++ .operator :: more) := by
  intro before others hBefore
  rw [List.append_assoc, hLeft before _ hBefore, List.cons_append, isExpression, beq_self_eq_true,
    Bool.true_and]
  exact hRight .operator others (by decide)

theorem Completes.comma {mayBeEmpty : Bool} {opens : List Bool} {marks more : List HintMark}
    (hItem : Completes (mayBeEmpty :: opens) marks)
    (hItems : Completes (mayBeEmpty :: opens) more) :
    Completes (mayBeEmpty :: opens) (marks ++ .comma :: more) := by
  intro before others hBefore
  rw [List.append_assoc, hItem before _ hBefore, List.cons_append, isExpression, beq_self_eq_true,
    Bool.true_and, List.isEmpty_cons, Bool.not_false, Bool.true_and]
  exact hItems .comma others (by decide)

theorem Completes.closed {mayBeEmpty : Bool} {opens : List Bool} {marks : List HintMark}
    (h : Completes (mayBeEmpty :: opens) marks) (more : List HintMark) :
    isExpression (mayBeEmpty :: opens) .start (marks ++ .closing :: more)
      = isExpression opens .operand more := by
  rw [h .start _ (by decide), isExpression, beq_self_eq_true, Bool.true_or, Bool.true_or,
    Bool.true_and]

theorem Completes.list {opens : List Bool} {marks : List HintMark}
    (h : marks = [] ∨ Completes (true :: opens) marks) :
    Completes opens (.opening '[' :: marks ++ [.closing]) := by
  intro before more hBefore
  rw [List.append_assoc, List.cons_append, List.singleton_append, isExpression,
    bne_iff_ne.2 hBefore, Bool.true_or, Bool.true_and]
  rcases h with rfl | hMarks
  · rfl
  · exact hMarks.closed more

theorem Completes.subscript {opens : List Bool} {marks : List HintMark}
    (h : ∀ mayBeEmpty, Completes (mayBeEmpty :: opens) marks) :
    Completes opens (.operand :: .opening '[' :: marks ++ [.closing]) := by
  intro before more hBefore
  rw [List.append_assoc, List.cons_append, List.cons_append, List.singleton_append]
  refine (completes_operand opens before _ hBefore).trans ?_
  rw [isExpression]
  exact (h _).closed more

/-! ## Texts of the grammar -/

/-- Whether a text stands for an operand, wherever it stands. -/
def IsRead (s : String) : Prop :=
  ∃ marks, Scans s.toList marks ∧ ∀ opens, Completes opens marks

theorem isRead_number {s : String} {n : Decimal.Numeral} (h : Decimal.IsNumber n s.toList) :
    IsRead s := by
  generalize hChars : s.toList = cs at h
  cases h with
  | @of negative whole sign body tail fraction exponent hSign hBody hExponent =>
    obtain ⟨c, rest, rfl, hStart⟩ := startsUnsigned_of_isBody hBody
    have hUnsigned : Scans (c :: rest ++ tail) [.operand] :=
      scans_unsigned (.of .none hBody hExponent) hStart
    rw [List.append_assoc] at hChars
    rw [IsRead, hChars]
    cases hSign with
    | none => exact ⟨_, hUnsigned, completes_operand⟩
    | plus =>
      exact ⟨_, hUnsigned.mark_cons (by decide), fun opens => (completes_operand opens).sign⟩
    | minus =>
      exact ⟨_, hUnsigned.mark_cons (by decide), fun opens => (completes_operand opens).sign⟩

theorem Scans.comma {cs items : List Char} {marks more : List HintMark} (h : Scans cs marks)
    (hItems : Scans items more) :
    Scans (cs ++ (',' :: ' ' :: items)) (marks ++ .comma :: more) := by
  have hBlank : Scans (' ' :: items) more :=
    fun rest others hRest hOthers => .blank (hItems rest others hRest hOthers)
  refine h.append (hBlank.mark_cons (by decide)) fun rest _ => ?_
  exact (show ',' ∈ HintText.tokenEnds by decide)

theorem Scans.operator {c : Char} {cs operand : List Char} {marks more : List HintMark}
    (hMark : (c, HintMark.operator) ∈ punctuation) (h : Scans cs marks)
    (hOperand : Scans operand more) :
    Scans (cs ++ (' ' :: c :: ' ' :: operand)) (marks ++ .operator :: more) := by
  have hBlank : ∀ {cs marks}, Scans cs marks → Scans (' ' :: cs) marks :=
    fun h rest others hRest hOthers => .blank (h rest others hRest hOthers)
  refine h.append (hBlank (.mark_cons hMark (hBlank hOperand))) fun rest _ => ?_
  exact (show ' ' ∈ HintText.tokenEnds by decide)

theorem exists_row {items : List String} (hSome : items ≠ []) (h : ∀ item ∈ items, IsRead item) :
    ∃ marks, Scans (", ".intercalate items).toList marks ∧
      ∀ mayBeEmpty opens, Completes (mayBeEmpty :: opens) marks := by
  induction items with
  | nil => contradiction
  | cons item items ih =>
    rw [List.forall_mem_cons] at h
    obtain ⟨⟨marks, hScans, hMarks⟩, hItems⟩ := h
    by_cases hLast : items = []
    · rw [hLast, String.intercalate_singleton]
      exact ⟨marks, hScans, fun _ _ => hMarks _⟩
    · obtain ⟨more, hMore, hRest⟩ := ih hLast hItems
      rw [String.intercalate_cons_of_ne_nil hLast, String.toList_append, String.toList_append,
        List.append_assoc]
      exact ⟨_, hScans.comma hMore, fun _ _ => (hMarks _).comma (hRest _ _)⟩

theorem isRead_of_isHintExpression {s : String} (h : IsHintExpression s) : IsRead s := by
  induction h with
  | atom hAtom => exact ⟨_, scans_atom hAtom, completes_operand⟩
  | number hNumber _ => exact isRead_number hNumber
  | text hText =>
    rw [IsRead, String.toList_ofList]
    exact ⟨_, scans_text hText.isQuote hText.isContent, completes_operand⟩
  | bytes hText _ =>
    rw [IsRead, String.toList_ofList]
    exact ⟨_, scans_bytes hText.isQuote hText.isContent, completes_operand⟩
  | @list items _ ih =>
    rw [IsRead, String.toList_append, String.toList_append]
    by_cases hNone : items = []
    · rw [hNone]
      exact ⟨_, Scans.bracketed .nil, fun opens => .list (.inl rfl)⟩
    · obtain ⟨marks, hScans, hMarks⟩ := exists_row hNone ih
      exact ⟨_, hScans.bracketed, fun opens => .list (.inr (hMarks _ _))⟩
  | subscript hOrigin hSome _ ih =>
    obtain ⟨marks, hScans, hMarks⟩ := exists_row hSome ih
    rw [IsRead, String.toList_append, String.toList_append, String.toList_append,
      List.append_assoc, List.append_assoc]
    refine ⟨_, (scans_atom hOrigin).append hScans.bracketed fun rest _ => ?_,
      fun opens => .subscript fun _ => hMarks _ _⟩
    exact (show '[' ∈ HintText.tokenEnds by decide)
  | either _ _ ihLeft ihRight =>
    obtain ⟨marks, hLeft, hMarks⟩ := ihLeft
    obtain ⟨more, hRight, hMore⟩ := ihRight
    rw [IsRead, String.toList_append, String.toList_append, List.append_assoc]
    exact ⟨_, hLeft.operator (by decide) hRight, fun opens => (hMarks opens).operator (hMore opens)⟩
  | both _ _ ihLeft ihRight =>
    obtain ⟨marks, hLeft, hMarks⟩ := ihLeft
    obtain ⟨more, hRight, hMore⟩ := ihRight
    rw [IsRead, String.toList_append, String.toList_append, List.append_assoc]
    exact ⟨_, hLeft.operator (by decide) hRight, fun opens => (hMarks opens).operator (hMore opens)⟩

end HintMark

theorem IsHintExpression.join (joint : HintText.Joint) {texts : List String} (hSome : texts ≠ [])
    (h : ∀ text ∈ texts, IsHintExpression text) :
    IsHintExpression (joint.separator.intercalate texts) := by
  induction texts with
  | nil => contradiction
  | cons text texts ih =>
    rw [List.forall_mem_cons] at h
    by_cases hLast : texts = []
    · rw [hLast, String.intercalate_singleton]
      exact h.1
    · rw [String.intercalate_cons_of_ne_nil hLast]
      cases joint with
      | bar => exact .either h.1 (ih hLast h.2)
      | ampersand => exact .both h.1 (ih hLast h.2)

theorem append_none (s : String) : s ++ " | None" = s ++ " | " ++ "None" := by
  rw [String.append_assoc]
  rfl

theorem IsHintExpression.orNone {s : String} (h : IsHintExpression s) :
    IsHintExpression (s ++ " | None") :=
  append_none s ▸ .either h (.atom (by decide))

/-- A text of the grammar passes the check. -/
theorem IsHintExpression.isHintExpression {s : String} (h : IsHintExpression s) :
    isHintExpression s = true := by
  obtain ⟨marks, hScans, hMarks⟩ := HintMark.isRead_of_isHintExpression h
  have hAll := hScans [] [] trivial .nil s.toList.length
  rw [List.append_nil, List.append_nil] at hAll
  have hComplete := hMarks [] .start [] (by decide)
  rw [List.append_nil] at hComplete
  rw [Interpose.isHintExpression, hAll (Nat.le_refl _)]
  exact hComplete

end Interpose

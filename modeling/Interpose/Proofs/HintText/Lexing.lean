import Mathlib
import Interpose.HintText.Literal
import Interpose.Proofs.Decimal.Notation
import Interpose.Proofs.HintText.Quotation
import Interpose.Proofs.HintText.Tokens
import Interpose.Value.Text

/-! # Written tokens are cut apart

A text is cut into the tokens that were written, whatever follows, provided that what follows ends
a token. Names and numbers need this, since each token is as long as possible.
-/
namespace Interpose.HintText

set_option autoImplicit false

def tokenEnds : List Char :=
  [' ', ',', '[', ']', ')']

/-- Whether a text starts with a blank, a comma or a bracket, or not at all. -/
def EndsToken : List Char → Prop
  | [] => True
  | c :: _ => c ∈ tokenEnds

theorem EndsToken.test_false {rest : List Char} (h : EndsToken rest) {test : Char → Bool}
    (hEnds : tokenEnds.all (test · == false) = true) : ∀ c ∈ rest.head?, test c = false := by
  cases rest with
  | nil => exact nofun
  | cons c rest =>
    intro d hMem
    obtain rfl : c = d := Option.some.inj hMem
    exact beq_iff_eq.1 (List.all_eq_true.1 hEnds c h)

/-- Whether some characters are cut into some tokens wherever a token ends behind them. -/
def Lexes (cs : List Char) (tokens : List Token) : Prop :=
  ∀ rest, EndsToken rest → tokens? (cs ++ rest) = (tokens? rest).map (tokens ++ ·)

theorem Lexes.nil : Lexes [] [] := by
  intro rest _
  simp

theorem Lexes.append {first second : List Char} {tokens more : List Token}
    (hFirst : Lexes first tokens) (hSecond : Lexes second more)
    (hEnds : ∀ rest, EndsToken rest → EndsToken (second ++ rest)) :
    Lexes (first ++ second) (tokens ++ more) := by
  intro rest hRest
  rw [List.append_assoc, hFirst _ (hEnds rest hRest), hSecond rest hRest, Option.map_map]
  simp [Function.comp_def]

theorem Lexes.tokens? {cs : List Char} {tokens : List Token} (h : Lexes cs tokens) :
    HintText.tokens? cs = some tokens := by
  have hAll := h [] trivial
  have hNil : HintText.tokens? [] = some [] := by rw [HintText.tokens?]
  rwa [List.append_nil, hNil, Option.map_some, List.append_nil] at hAll

/-! ## Single tokens -/

theorem tokens?_of_takeToken {c : Char} {cs after : List Char} {token : Token}
    (hBlank : isBlank c = false) (h : takeToken (c :: cs) = some (token, after)) :
    tokens? (c :: cs) = (tokens? after).map (token :: ·) := by
  generalize hAll : c :: cs = all at h ⊢
  fun_cases tokens? all with
  | case1 => contradiction
  | case2 c' rest hIsBlank =>
    obtain ⟨rfl, -⟩ := List.cons.inj hAll
    rw [hBlank] at hIsBlank
    contradiction
  | case3 c' rest hIsBlank token' after' hToken =>
    cases h.symm.trans hToken
    rfl
  | case4 c' rest hIsBlank hNone =>
    rw [hNone] at h
    contradiction

theorem tokens?_blank {c : Char} (h : isBlank c = true) (cs : List Char) :
    tokens? (c :: cs) = tokens? cs := by
  rw [tokens?, if_pos h]

def marks : List (Char × Token) :=
  [('|', .bar), ('&', .ampersand), (',', .comma), ('(', .openParen), (')', .closeParen),
   ('[', .openBracket), (']', .closeBracket)]

theorem tokens?_mark {c : Char} {token : Token} (h : (c, token) ∈ marks) (cs : List Char) :
    tokens? (c :: cs) = (tokens? cs).map (token :: ·) := by
  have hBlanks : ∀ mark ∈ marks, isBlank mark.1 = false := by decide
  refine tokens?_of_takeToken (hBlanks _ h) ?_
  simp only [marks, List.mem_cons, Prod.mk.injEq, List.not_mem_nil, or_false] at h
  rcases h with ⟨rfl, rfl⟩ | ⟨rfl, rfl⟩ | ⟨rfl, rfl⟩ | ⟨rfl, rfl⟩ | ⟨rfl, rfl⟩ | ⟨rfl, rfl⟩
    | ⟨rfl, rfl⟩ <;> rfl

theorem Lexes.mark {c : Char} {token : Token} (h : (c, token) ∈ marks) : Lexes [c] [token] :=
  fun rest _ => tokens?_mark h rest

theorem Lexes.mark_cons {c : Char} {cs : List Char} {token : Token} {tokens : List Token}
    (hMark : (c, token) ∈ marks) (h : Lexes cs tokens) : Lexes (c :: cs) (token :: tokens) := by
  intro rest hRest
  rw [List.cons_append, tokens?_mark hMark, h rest hRest, Option.map_map]
  rfl

/-! ## Names -/

theorem ne_of_test {test : Char → Bool} {c d : Char} (h : test c = true)
    (hOther : test d = false) : c ≠ d := by
  rintro rfl
  rw [h] at hOther
  contradiction

theorem isBlank_eq_false {test : Char → Bool} {c : Char} (h : test c = true)
    (hBlanks : [' ', '\t', '\r', '\n', Char.ofNat 12].all (test · == false) = true) :
    isBlank c = false := by
  rw [Bool.eq_false_iff]
  intro hBlank
  simp only [isBlank, Bool.or_eq_true, beq_iff_eq] at hBlank
  refine ne_of_test h (beq_iff_eq.1 (List.all_eq_true.1 hBlanks c ?_)) rfl
  rcases hBlank with (((rfl | rfl) | rfl) | rfl) | hFeed
  · decide
  · decide
  · decide
  · decide
  · rw [← Char.ofNat_toNat c, hFeed]
    decide

def EndsName (rest : List Char) : Prop :=
  ∀ c ∈ rest.head?, isNameRest c = false

theorem EndsToken.endsName {rest : List Char} (h : EndsToken rest) : EndsName rest :=
  h.test_false (by decide)

theorem Node.IsIdentifier.ne_nil {cs : List Char} (h : IsIdentifier cs) : cs ≠ [] := by
  rintro rfl
  exact h

theorem tokens?_identifier {cs rest : List Char} (h : Node.IsIdentifier cs)
    (hRest : EndsName rest) :
    tokens? (cs ++ rest) = (tokens? rest).map (.name (String.ofList cs) :: ·) := by
  cases cs with
  | nil => contradiction
  | cons c cs =>
    obtain ⟨hStart, hRest'⟩ := h
    have hMore : ∀ d ∈ cs, isNameRest d = true := List.all_eq_true.1 hRest'
    refine tokens?_of_takeToken (isBlank_eq_false hStart (by decide)) ?_
    rw [List.append_eq, takeToken, if_pos hStart, Text.takeWhile_append_of_ends hMore hRest,
      Text.dropWhile_append_of_ends hMore hRest]
    exact fun _ hPoint => absurd hPoint (ne_of_test hStart (by decide))

theorem isDigit_of_isNameStart {c : Char} (h : isNameStart c = true) : c.isDigit = false := by
  simp only [isNameStart, Char.isAlpha, Char.isUpper, Char.isLower, Bool.or_eq_true,
    Bool.and_eq_true, decide_eq_true_eq, beq_iff_eq] at h
  rw [Bool.eq_false_iff]
  intro hDigit
  simp only [Char.isDigit, Bool.and_eq_true, decide_eq_true_eq] at hDigit
  rcases h with (h | h) | rfl
  · simp only [ge_iff_le, UInt32.le_iff_toNat_le] at h hDigit
    simp at h hDigit
    omega
  · simp only [ge_iff_le, UInt32.le_iff_toNat_le] at h hDigit
    simp at h hDigit
    omega
  · exact absurd hDigit.2 (by decide)

/-- Whether a point in front of a text stands for itself. -/
def EndsPoint (rest : List Char) : Prop :=
  ∀ c ∈ rest.head?, c ≠ '.' ∧ c.isDigit = false

theorem tokens?_point {rest : List Char} (h : EndsPoint rest) :
    tokens? ('.' :: rest) = (tokens? rest).map (.point :: ·) := by
  have hDigits : Decimal.takeDigits rest = ([], rest) := by
    have hNone := Decimal.takeDigits_append (show Decimal.AreDigits [] from List.forall_mem_nil _)
      fun c hMem => (h c hMem).2
    exact hNone
  have hNumber : Decimal.takeNumber ('.' :: rest) = none := by
    show (if _ then _ else _) = none
    simp [hDigits]
  refine tokens?_of_takeToken (by decide) ?_
  rw [takeToken]
  · rw [if_neg (by decide), if_neg (by decide), hNumber]
    rfl
  · rintro after - rfl
    exact absurd rfl (h '.' rfl).1

theorem endsPoint_of_isNameStart {c : Char} (h : isNameStart c = true) (rest : List Char) :
    EndsPoint (c :: rest) := by
  rintro _ ⟨⟩
  exact ⟨ne_of_test h (by decide), isDigit_of_isNameStart h⟩

theorem tokens?_parts {parts : List (List Char)} (hParts : ∀ part ∈ parts, Node.IsIdentifier part)
    {part rest : List Char} (hPart : Node.IsIdentifier part) (hRest : EndsName rest) :
    tokens? (part ++ (parts.flatMap ('.' :: ·) ++ rest))
      = (tokens? rest).map
          ((.name (String.ofList part) :: (parts.map String.ofList).flatMap
            fun part => [.point, .name part]) ++ ·) := by
  induction parts generalizing part with
  | nil => exact tokens?_identifier hPart hRest
  | cons next parts ih =>
    rw [List.forall_mem_cons] at hParts
    have hEnds : EndsName (((next :: parts).flatMap ('.' :: ·)) ++ rest) := by
      rintro c ⟨⟩
      decide
    have hPoint : EndsPoint (next ++ (parts.flatMap ('.' :: ·) ++ rest)) := by
      obtain ⟨c, cs, rfl⟩ := List.exists_cons_of_ne_nil (Node.IsIdentifier.ne_nil hParts.1)
      exact endsPoint_of_isNameStart hParts.1.1 _
    rw [tokens?_identifier hPart hEnds, List.flatMap_cons, List.cons_append, List.cons_append,
      List.append_assoc, tokens?_point hPoint, ih hParts.2 hParts.1]
    simp [Function.comp_def]

theorem lexes_dotted {dotted : String} (h : Node.IsDotted dotted) :
    Lexes dotted.toList (nameTokens dotted) := by
  intro rest hRest
  obtain ⟨part, parts, hCut, hJoin⟩ := Text.join_cutAll '.' dotted.toList
  have hAll : ∀ name ∈ part :: parts, Node.IsIdentifier name := hCut ▸ h
  rw [List.forall_mem_cons] at hAll
  have hTokens : nameTokens dotted
      = .name (String.ofList part) :: (parts.map String.ofList).flatMap
          fun part => [.point, .name part] := by
    rw [nameTokens, Text.dottedParts, hCut]
    rfl
  rw [hTokens, ← hJoin, List.append_assoc]
  exact tokens?_parts hAll.2 hAll.1 hRest.endsName

/-! ## Literals -/

theorem lexes_dots : Lexes ['.', '.', '.'] [.dots] :=
  fun _ _ => tokens?_of_takeToken (by decide) rfl

/-- What may stand between two quotes: any character but the quote and a backslash, or a backslash
and any character but a line feed. -/
inductive IsContent (quote : Char) : List Char → Prop where
  | nil : IsContent quote []
  | plain {c : Char} {cs : List Char} (hQuote : c ≠ quote) (hBackslash : c ≠ '\\')
      (h : IsContent quote cs) : IsContent quote (c :: cs)
  | escaped {c : Char} {cs : List Char} (hLine : c ≠ '\n') (h : IsContent quote cs) :
      IsContent quote ('\\' :: c :: cs)

theorem IsContent.take {quote : Char} {content : List Char} (h : IsContent quote content)
    (hQuote : quote ≠ '\\') (rest : List Char) :
    takeContent quote (content ++ quote :: rest) = some (content, rest) := by
  induction h with
  | nil =>
    rw [List.nil_append, takeContent, if_pos rfl]
    · exact fun hNil => absurd hNil hQuote
    · exact fun _ _ hCons => absurd hCons hQuote
  | plain hOther hBackslash _ ih =>
    rw [List.cons_append, takeContent, if_neg hOther, ih]
    · rfl
    · exact fun hNil => absurd hNil hBackslash
    · exact fun _ _ hCons => absurd hCons hBackslash
  | escaped hLine _ ih =>
    rw [List.cons_append, List.cons_append, Text.takeContent_escape hLine, ih]
    rfl

theorem isContent_of_takeContent {quote : Char} {cs content rest : List Char}
    (h : takeContent quote cs = some (content, rest)) :
    IsContent quote content ∧ content ++ quote :: rest = cs := by
  fun_induction takeContent quote cs generalizing content with
  | case1 | case2 | case3 => contradiction
  | case4 c cs hLine ih =>
    obtain ⟨⟨inner, after⟩, hInner, ⟨⟩⟩ := Option.map_eq_some_iff.1 h
    obtain ⟨hContent, rfl⟩ := ih hInner
    exact ⟨.escaped hLine hContent, rfl⟩
  | case5 =>
    cases h
    exact ⟨.nil, rfl⟩
  | case6 c cs hNil hBackslash hOther ih =>
    obtain ⟨⟨inner, after⟩, hInner, ⟨⟩⟩ := Option.map_eq_some_iff.1 h
    obtain ⟨hContent, rfl⟩ := ih hInner
    refine ⟨.plain hOther ?_ hContent, rfl⟩
    intro hEscape
    cases hCons : inner ++ quote :: rest with
    | nil => exact hNil hEscape hCons
    | cons d ds => exact hBackslash d ds hEscape hCons

theorem tokens?_text {quote : Char} {content : List Char} (hQuote : Text.IsQuote quote)
    (h : IsContent quote content) (rest : List Char) :
    tokens? (quote :: content ++ [quote] ++ rest)
      = (tokens? rest).map (.literal (.text content) :: ·) := by
  have hBlank : isBlank quote = false := by rcases hQuote with rfl | rfl <;> decide
  have hName : ¬ isNameStart quote = true := by rcases hQuote with rfl | rfl <;> decide
  have hPoint : quote ≠ '.' := by rcases hQuote with rfl | rfl <;> decide
  have hBackslash : quote ≠ '\\' := by rcases hQuote with rfl | rfl <;> decide
  rw [List.append_assoc, List.cons_append]
  refine tokens?_of_takeToken hBlank ?_
  rw [takeToken, if_neg hName, if_pos (show quote = '\'' ∨ quote = '"' from hQuote),
    List.singleton_append, h.take hBackslash]
  · rfl
  · exact fun _ hCons => absurd hCons hPoint

theorem isContent_flatMap {α : Type} {quote : Char} {point : α → Text.CodePoint}
    {form : α → List Char} (hQuote : Text.IsQuote quote)
    (hForm : ∀ x, Text.IsForm quote (point x) (form x)) (xs : List α) :
    IsContent quote (xs.flatMap form) :=
  (isContent_of_takeContent (Text.takeContent_flatMap hQuote hForm xs [])).1

theorem lexes_quoted {quote : Char} (h : Text.IsQuote quote) (points : List Text.CodePoint) :
    Lexes (quote :: points.flatMap (Text.escapePoint quote) ++ [quote])
      [.literal (.text (points.flatMap (Text.escapePoint quote)))] :=
  fun rest _ => tokens?_text h (isContent_flatMap h (Text.isForm_escapePoint h) points) rest

def isNumberStart (c : Char) : Bool :=
  c == '-' || c == '+' || c == '.' || c.isDigit

theorem isNumberStart_of_takeNumber {c : Char} {cs rest : List Char} {n : Decimal.Numeral}
    (h : Decimal.takeNumber (c :: cs) = some (n, rest)) : isNumberStart c = true := by
  refine Decidable.byContradiction fun hOther => ?_
  simp only [isNumberStart, Bool.or_eq_true, beq_iff_eq, not_or, Bool.not_eq_true] at hOther
  obtain ⟨⟨⟨hMinus, hPlus⟩, hPoint⟩, hDigit⟩ := hOther
  have hSign : Decimal.takeSign (c :: cs) = (false, c :: cs) := by
    unfold Decimal.takeSign
    split
    next hCons => exact absurd (List.cons.inj hCons).1 hMinus
    next hCons => exact absurd (List.cons.inj hCons).1 hPlus
    next => rfl
  have hDigits : Decimal.takeDigits (c :: cs) = ([], c :: cs) := by
    rw [Decimal.takeDigits, List.takeWhile_cons, List.dropWhile_cons, hDigit]
    rfl
  simp [Decimal.takeNumber, hSign, hDigits, hPoint] at h

theorem isNumberStart_of_isNameStart {c : Char} (h : isNameStart c = true) :
    isNumberStart c = false := by
  have hMinus : c ≠ '-' := ne_of_test h (by decide)
  have hPlus : c ≠ '+' := ne_of_test h (by decide)
  have hPoint : c ≠ '.' := ne_of_test h (by decide)
  rw [isNumberStart, beq_false_of_ne hMinus, beq_false_of_ne hPlus, beq_false_of_ne hPoint,
    isDigit_of_isNameStart h]
  rfl

theorem tokens?_number {cs rest : List Char} {n : Decimal.Numeral}
    (h : Decimal.takeNumber cs = some (n, rest)) :
    tokens? cs = (tokens? rest).map (.literal (.number n) :: ·) := by
  cases cs with
  | nil => contradiction
  | cons c cs =>
    have hStart := isNumberStart_of_takeNumber h
    have hBlank : isBlank c = false := isBlank_eq_false hStart (by decide)
    have hName : ¬ isNameStart c = true := fun hName =>
      ne_of_test hStart (isNumberStart_of_isNameStart hName) rfl
    have hQuote : ¬ (c = '\'' ∨ c = '"') :=
      not_or.2 ⟨ne_of_test hStart (by decide), ne_of_test hStart (by decide)⟩
    refine tokens?_of_takeToken hBlank ?_
    rw [takeToken, if_neg hName, if_neg hQuote, h]
    rintro after rfl rfl
    exact absurd h nofun

end Interpose.HintText

import Interpose.Proofs.Literal.Content

/-! # Notations

What the text of a value does to the reader of literals, whatever has been read before and whatever
stands behind it. A value is denoted by a text that puts just this value where a bracket waits for
one. Scalars are denoted by a single token; tuples and frozen sets by the notations of their items
between brackets. A notation has printable characters only.
-/
namespace Interpose

set_option autoImplicit false

namespace Literal

open HintText (isNameStart isNameRest isNumberStart ne_of_test)

/-! ## Tokens -/

def literalEnds : List Char :=
  [',', ')', '\x7d']

/-- Whether a text, standing behind a literal, does not continue it. -/
def EndsLiteral (rest : List Char) : Prop :=
  ∀ c ∈ rest.head?, c ∈ literalEnds

theorem EndsLiteral.test_false {rest : List Char} (h : EndsLiteral rest) {test : Char → Bool}
    (hEnds : literalEnds.all (test · == false) = true) : ∀ c ∈ rest.head?, test c = false :=
  fun c hMem => beq_iff_eq.1 (List.all_eq_true.1 hEnds c (h c hMem))

theorem EndsLiteral.endsNumber {rest : List Char} (h : EndsLiteral rest) :
    Decimal.EndsNumber rest :=
  Decimal.endsNumber_of_head (h.test_false (by decide))

theorem endsLiteral_nil : EndsLiteral [] :=
  nofun

theorem endsLiteral_cons {c : Char} (h : c ∈ literalEnds) (rest : List Char) :
    EndsLiteral (c :: rest) := by
  rintro d ⟨⟩
  exact h

theorem tokens?_of_takeToken {c : Char} {cs after : List Char} {token : Token}
    (hBlank : ¬ (c = ' ' ∨ c = '\t')) (h : takeToken (c :: cs) = some (token, after)) :
    tokens? (c :: cs) = (tokens? after).map (token :: ·) := by
  generalize hAll : c :: cs = all at h ⊢
  fun_cases tokens? all with
  | case1 => contradiction
  | case2 c' rest hIsBlank =>
    obtain ⟨rfl, -⟩ := List.cons.inj hAll
    contradiction
  | case3 c' rest hIsBlank token' after' hToken =>
    cases h.symm.trans hToken
    rfl
  | case4 c' rest hIsBlank hNone =>
    rw [hNone] at h
    contradiction

theorem tokens?_mark {c : Char} {token : Token} (hMark : marks.lookup c = some token)
    (cs : List Char) : tokens? (c :: cs) = (tokens? cs).map (token :: ·) := by
  obtain ⟨before, after, hSplit, -⟩ := List.lookup_eq_some_iff.1 hMark
  have h : (c, token) ∈ marks := hSplit ▸ List.mem_append_right _ List.mem_cons_self
  simp only [marks, List.mem_cons, Prod.mk.injEq, List.not_mem_nil, or_false] at h
  rcases h with ⟨rfl, rfl⟩ | ⟨rfl, rfl⟩ | ⟨rfl, rfl⟩ | ⟨rfl, rfl⟩ | ⟨rfl, rfl⟩ <;>
    exact tokens?_of_takeToken (by decide) rfl

theorem takeToken_word {c : Char} {cs rest : List Char} (hStart : isNameStart c = true)
    (hOther : c ≠ 'b') (hRest : ∀ d ∈ cs, isNameRest d = true)
    (hEnds : ∀ d ∈ rest.head?, isNameRest d = false) :
    takeToken (c :: (cs ++ rest)) = wordToken (c :: cs) rest := by
  have hQuote : ¬ isQuote c = true := by
    rw [isQuote, Bool.or_eq_true, beq_iff_eq, beq_iff_eq]
    exact not_or.2 ⟨ne_of_test hStart (by decide), ne_of_test hStart (by decide)⟩
  rw [takeToken, if_neg hQuote, if_neg fun hBytes => hOther hBytes.1, if_pos hStart,
    Text.takeWhile_append_of_ends hRest hEnds, Text.dropWhile_append_of_ends hRest hEnds]

theorem tokens?_call (cs : List Char) :
    tokens? ("frozenset".toList ++ '(' :: cs) = (tokens? cs).map (.call :: ·) := by
  have hRest : "rozenset".toList.all isNameRest = true := by decide
  have hWord : takeToken ('f' :: ("rozenset".toList ++ '(' :: cs)) = _ :=
    takeToken_word (by decide) (by decide) (List.all_eq_true.1 hRest) (by rintro d ⟨⟩; decide)
  exact tokens?_of_takeToken (by decide) hWord

/-- Whether some characters are cut into some tokens wherever a literal ends behind them. -/
def Lexes (cs : List Char) (tokens : List Token) : Prop :=
  ∀ rest, EndsLiteral rest → tokens? (cs ++ rest) = (tokens? rest).map (tokens ++ ·)

theorem lexes_nil : Lexes [] [] := by
  intro rest _
  simp

theorem Lexes.append {first second : List Char} {tokens more : List Token}
    (hFirst : Lexes first tokens) (hSecond : Lexes second more)
    (hEnds : ∀ rest, EndsLiteral rest → EndsLiteral (second ++ rest)) :
    Lexes (first ++ second) (tokens ++ more) := by
  intro rest hRest
  rw [List.append_assoc, hFirst _ (hEnds rest hRest), hSecond rest hRest, Option.map_map]
  simp [Function.comp_def]

theorem Lexes.mark_cons {c : Char} {cs : List Char} {token : Token} {tokens : List Token}
    (hMark : marks.lookup c = some token) (h : Lexes cs tokens) :
    Lexes (c :: cs) (token :: tokens) := by
  intro rest hRest
  rw [List.cons_append, tokens?_mark hMark, h rest hRest, Option.map_map]
  rfl

theorem Lexes.blank_cons {cs : List Char} {tokens : List Token} (h : Lexes cs tokens) :
    Lexes (' ' :: cs) tokens := by
  intro rest hRest
  rw [List.cons_append, tokens?, if_pos (.inl rfl), h rest hRest]

theorem Lexes.call {cs : List Char} {tokens : List Token} (h : Lexes cs tokens) :
    Lexes ("frozenset".toList ++ '(' :: cs) (.call :: tokens) := by
  intro rest hRest
  rw [List.append_assoc, List.cons_append, tokens?_call, h rest hRest, Option.map_map]
  rfl

theorem Lexes.tokens? {cs : List Char} {tokens : List Token} (h : Lexes cs tokens) :
    Literal.tokens? cs = some tokens := by
  have hAll := h [] endsLiteral_nil
  have hNil : Literal.tokens? [] = some [] := by rw [Literal.tokens?]
  rwa [List.append_nil, hNil, Option.map_some, List.append_nil] at hAll

/-! ## Notations -/

/-- Whether some printable characters denote a value: they are cut into tokens that put the value
where a bracket waits for one. -/
structure Denotes (cs : List Char) (v : Value) : Prop where
  printable : Text.ArePrintable cs
  read : ∃ tokens, Lexes cs tokens ∧ ∀ bracket items frames,
    tokens.foldlM step (⟨bracket, items, none⟩ :: frames)
      = some (⟨bracket, items, some v⟩ :: frames)

/-- Whether some printable characters are a row of values behind a bracket, with a comma after each
of them but the last. -/
structure DenotesRow (cs : List Char) (vs : List Value) : Prop where
  printable : Text.ArePrintable cs
  read : ∃ tokens, Lexes cs tokens ∧ ∀ bracket, bracket = .paren ∨ bracket = .brace →
    ∀ items frames, tokens.foldlM step (⟨bracket, items, none⟩ :: frames)
      = some (⟨bracket, vs.dropLast.reverse ++ items, vs.getLast?⟩ :: frames)

theorem Denotes.read? {text : String} {v : Value} (h : Denotes text.toList v) :
    read? text = some v := by
  obtain ⟨tokens, hLexes, hRun⟩ := h.read
  rw [Literal.read?, hLexes.tokens?]
  show (tokens.foldlM step [.empty .whole] >>= _) = _
  rw [Frame.empty, hRun]
  rfl

/-! ## Scalars -/

theorem denotes_of_tokens? {cs : List Char} {v : Value} (hPrintable : Text.ArePrintable cs)
    (h : ∀ rest, EndsLiteral rest → tokens? (cs ++ rest) = (tokens? rest).map (.value v :: ·)) :
    Denotes cs v :=
  ⟨hPrintable, [.value v], h, fun _ _ _ => rfl⟩

theorem denotes_word {c : Char} {cs : List Char} {v : Value} (hStart : isNameStart c = true)
    (hOther : c ≠ 'b') (hRest : cs.all isNameRest = true)
    (hPrintable : (c :: cs).all Text.isPrintable = true)
    (hWord : ∀ rest, wordToken (c :: cs) rest = some (.value v, rest)) : Denotes (c :: cs) v := by
  refine denotes_of_tokens? (List.all_eq_true.1 hPrintable) fun rest hEnds => ?_
  have hBlank : ¬ (c = ' ' ∨ c = '\t') :=
    not_or.2 ⟨ne_of_test hStart (by decide), ne_of_test hStart (by decide)⟩
  refine tokens?_of_takeToken hBlank ?_
  rw [List.append_eq, takeToken_word hStart hOther (List.all_eq_true.1 hRest)
    (hEnds.test_false (by decide)), hWord]

theorem takeQuoted_flatMap {α : Type} {quote : Char} {point : α → Text.CodePoint}
    {form : α → List Char} (hQuote : Text.IsQuote quote)
    (hForm : ∀ x, Text.IsForm quote (point x) (form x)) (xs : List α) {rest : List Char}
    (hRest : EndsLiteral rest) :
    takeQuoted quote (xs.flatMap form ++ quote :: rest) = some (xs.flatMap form, rest) := by
  have hHead : rest.head? ≠ some quote := by
    intro hHead
    have hEnd := hRest quote hHead
    rcases hQuote with rfl | rfl <;> exact absurd hEnd (by decide)
  rw [takeQuoted, Text.takeContent_flatMap hQuote hForm, Option.filter_some]
  simp [hHead]

theorem isQuote_eq_true {quote : Char} (h : Text.IsQuote quote) : isQuote quote = true := by
  rcases h with rfl | rfl <;> rfl

theorem denotes_text {quote : Char} (hQuote : Text.IsQuote quote) (points : List Text.CodePoint) :
    Denotes (quote :: points.flatMap (Text.escapePoint quote) ++ [quote])
      (.ofCodePoints points) := by
  have hPrintable := Text.isPrintable_of_isQuote hQuote
  have hForms := Text.arePrintable_flatMap (Text.arePrintable_escapePoint hQuote) points
  refine denotes_of_tokens?
    ((hForms.cons hPrintable).append (.cons hPrintable (List.forall_mem_nil _)))
    fun rest hEnds => ?_
  rw [List.append_assoc, List.cons_append]
  refine tokens?_of_takeToken (by rcases hQuote with rfl | rfl <;> decide) ?_
  rw [takeToken, if_pos (isQuote_eq_true hQuote), takeText, List.singleton_append,
    takeQuoted_flatMap hQuote (Text.isForm_escapePoint hQuote) points hEnds, Option.bind_eq_bind,
    Option.bind_some]
  dsimp only
  rw [Text.unescape_forms hQuote points]
  rfl

theorem denotes_bytes {quote : Char} (hQuote : Text.IsQuote quote) (bytes : List UInt8) :
    Denotes ('b' :: quote :: bytes.flatMap (Text.escapeByte quote) ++ [quote]) (.bytes bytes) := by
  have hPrintable := Text.isPrintable_of_isQuote hQuote
  have hForms := Text.arePrintable_flatMap (Text.arePrintable_escapeByte hQuote) bytes
  refine denotes_of_tokens? (.cons rfl
    ((hForms.cons hPrintable).append (.cons hPrintable (List.forall_mem_nil _))))
    fun rest hEnds => ?_
  rw [List.append_assoc, List.cons_append, List.cons_append]
  refine tokens?_of_takeToken (by decide) ?_
  have hStart : 'b' = 'b' ∧ (some quote).any isQuote = true := ⟨rfl, isQuote_eq_true hQuote⟩
  rw [takeToken, if_neg (by decide), List.head?_cons, if_pos hStart, List.headD_cons,
    List.tail_cons, takeBytes, List.singleton_append,
    takeQuoted_flatMap hQuote (Text.isForm_escapeByte hQuote) bytes hEnds, Option.bind_eq_bind,
    Option.bind_some]
  dsimp only
  rw [unescapeBytes_flatMap hQuote bytes]
  rfl

theorem isPrintable_of_isDigit {c : Char} (h : c.isDigit = true) : Text.isPrintable c = true := by
  simp only [Char.isDigit, Bool.and_eq_true, decide_eq_true_eq, ge_iff_le,
    UInt32.le_iff_toNat_le] at h
  have hRange : 48 ≤ c.toNat ∧ c.toNat ≤ 57 := h
  rw [Text.isPrintable, if_pos (by omega), Bool.and_eq_true, decide_eq_true_iff,
    decide_eq_true_iff]
  omega

theorem arePrintable_number {n : Decimal.Numeral} {cs : List Char} (h : Decimal.IsNumber n cs) :
    Text.ArePrintable cs := by
  have hDigits {digits : List Char} (h : Decimal.AreDigits digits) : Text.ArePrintable digits :=
    fun c hMem => isPrintable_of_isDigit (h c hMem)
  have hSigns {negative : Bool} {sign : List Char} (h : Decimal.IsSign negative sign) :
      Text.ArePrintable sign := by
    cases h with
    | none => exact List.forall_mem_nil _
    | plus | minus => exact List.forall_mem_singleton.2 rfl
  obtain ⟨hSign, hBody, hExponent⟩ := h
  refine ((hSigns hSign).append ?_).append ?_
  · cases hBody with
    | whole h => exact hDigits h
    | pointed h hFraction => exact (hDigits h).append (.cons rfl (hDigits hFraction))
  · cases hExponent with
    | none => exact List.forall_mem_nil _
    | some hLetter hExponentSign h =>
      refine .append (.cons ?_ (hSigns hExponentSign)) (hDigits h)
      rcases hLetter with rfl | rfl <;> rfl

theorem lookup_marks_of_isNumberStart {c : Char} (h : isNumberStart c = true) :
    marks.lookup c = none := by
  have hMarks : marks.all (isNumberStart ·.1 == false) = true := by decide
  rw [List.lookup_eq_none_iff]
  intro mark hMem
  have hMark := beq_iff_eq.1 (List.all_eq_true.1 hMarks mark hMem)
  exact bne_iff_ne.2 (ne_of_test h hMark)

/-- A number is read wherever a literal ends behind it. -/
theorem denotes_number {cs : List Char} {n : Decimal.Numeral} {v : Value}
    (hTake : ∀ rest, Decimal.EndsNumber rest → Decimal.takeNumber (cs ++ rest) = some (n, rest))
    (hRead : HintText.readNumber n = some v) : Denotes cs v := by
  have hNumber : Decimal.takeNumber cs = some (n, []) := by
    have hAll := hTake [] trivial
    rwa [List.append_nil] at hAll
  obtain ⟨number, hNumber', hCut⟩ := Decimal.isNumber_of_takeNumber hNumber
  rw [List.append_nil] at hCut
  refine denotes_of_tokens? (hCut ▸ arePrintable_number hNumber') fun rest hEnds => ?_
  cases cs with
  | nil => cases hNumber
  | cons c cs =>
    have hStart : isNumberStart c = true := HintText.isNumberStart_of_takeNumber hNumber
    have hBlank : ¬ (c = ' ' ∨ c = '\t') :=
      not_or.2 ⟨ne_of_test hStart (by decide), ne_of_test hStart (by decide)⟩
    have hQuote : ¬ isQuote c = true := by
      rw [isQuote, Bool.or_eq_true, beq_iff_eq, beq_iff_eq]
      exact not_or.2 ⟨ne_of_test hStart (by decide), ne_of_test hStart (by decide)⟩
    have hBytes : c ≠ 'b' := ne_of_test hStart (by decide)
    have hName : ¬ isNameStart c = true := fun hName =>
      ne_of_test hStart (HintText.isNumberStart_of_isNameStart hName) rfl
    refine tokens?_of_takeToken hBlank ?_
    rw [takeToken, if_neg hQuote, if_neg fun h => hBytes h.1, if_neg hName,
      lookup_marks_of_isNumberStart hStart]
    dsimp only
    have hNumberHere : Decimal.takeNumber (c :: cs.append rest) = some (n, rest) :=
      hTake rest hEnds.endsNumber
    rw [takeNumber, hNumberHere, Option.bind_eq_bind, Option.bind_some]
    dsimp only
    rw [hRead]
    rfl

/-! ## Tuples and frozen sets -/

theorem denotes_emptyTuple : Denotes ['(', ')'] (.tuple []) where
  printable := List.all_eq_true.1 rfl
  read := ⟨[.openParen, .closeParen],
    .mark_cons rfl (.mark_cons rfl lexes_nil), fun _ _ _ => rfl⟩

theorem denotes_emptyFrozenset : Denotes ("frozenset".toList ++ ['(', ')']) (.frozenset []) where
  printable := List.all_eq_true.1 rfl
  read := ⟨[.call, .closeParen], .call (.mark_cons rfl lexes_nil), fun _ _ _ => rfl⟩

theorem Denotes.row {cs : List Char} {v : Value} (h : Denotes cs v) : DenotesRow cs [v] := by
  obtain ⟨tokens, hLexes, hRun⟩ := h.read
  exact ⟨h.printable, tokens, hLexes, fun bracket _ items frames => hRun bracket items frames⟩

theorem Denotes.cons {cs ds : List Char} {v : Value} {vs : List Value} (h : Denotes cs v)
    (hRow : DenotesRow ds vs) (hSome : vs ≠ []) :
    DenotesRow (cs ++ ',' :: ' ' :: ds) (v :: vs) := by
  obtain ⟨tokens, hLexes, hRun⟩ := h.read
  obtain ⟨more, hLexesMore, hRunMore⟩ := hRow.read
  refine ⟨h.printable.append (.cons rfl (.cons rfl hRow.printable)), tokens ++ .comma :: more,
    ?_, ?_⟩
  · exact hLexes.append (.mark_cons rfl hLexesMore.blank_cons)
      fun rest _ => endsLiteral_cons (by decide) _
  · intro bracket hBracket items frames
    rw [List.foldlM_append, hRun]
    obtain ⟨w, ws, rfl⟩ := List.exists_cons_of_ne_nil hSome
    have hComma : step (⟨bracket, items, some v⟩ :: frames) .comma
        = some (⟨bracket, v :: items, none⟩ :: frames) := by
      rcases hBracket with rfl | rfl <;> rfl
    show (step _ .comma >>= fun frames => more.foldlM step frames) = _
    rw [hComma]
    show more.foldlM step _ = _
    rw [hRunMore bracket hBracket]
    simp

theorem Denotes.single {cs : List Char} {v : Value} (h : Denotes cs v) :
    Denotes ('(' :: (cs ++ [',', ')'])) (.tuple [v]) := by
  obtain ⟨tokens, hLexes, hRun⟩ := h.read
  have hEnd : Lexes [',', ')'] [.comma, .closeParen] :=
    .mark_cons rfl (.mark_cons rfl lexes_nil)
  refine ⟨.cons rfl (h.printable.append (.cons rfl (.cons rfl (List.forall_mem_nil _)))),
    .openParen :: (tokens ++ [.comma, .closeParen]), ?_, fun bracket items frames => ?_⟩
  · exact .mark_cons rfl
      (hLexes.append hEnd fun rest _ => endsLiteral_cons (by decide) _)
  · show (tokens ++ _).foldlM step (⟨.paren, [], none⟩ :: _) = _
    rw [List.foldlM_append, hRun]
    rfl

/-- What has been read of a row is the row. -/
theorem content_row (bracket : Bracket) (vs : List Value) :
    Frame.content ⟨bracket, vs.dropLast.reverse ++ [], vs.getLast?⟩ = vs := by
  rw [Frame.content, List.append_nil, List.reverse_reverse]
  cases hLast : vs.getLast? with
  | none => rw [List.getLast?_eq_none_iff.1 hLast]; rfl
  | some v => exact List.dropLast_append_getLast? v hLast

theorem closeParen_of_items {items : List Value} (hSome : items ≠ []) (last : Option Value)
    (frames : List Frame) : closeParen (⟨.paren, items, last⟩ :: frames)
      = place (.tuple (Frame.content ⟨.paren, items, last⟩)) frames := by
  cases items with
  | nil => contradiction
  | cons v items => rfl

theorem DenotesRow.tuple {cs : List Char} {vs : List Value} (h : DenotesRow cs vs)
    (hLength : 2 ≤ vs.length) : Denotes ('(' :: (cs ++ [')'])) (.tuple vs) := by
  obtain ⟨tokens, hLexes, hRun⟩ := h.read
  have hEnd : Lexes [')'] [.closeParen] := .mark_cons rfl lexes_nil
  refine ⟨.cons rfl (h.printable.append (.cons rfl (List.forall_mem_nil _))),
    .openParen :: (tokens ++ [.closeParen]), ?_, fun bracket items frames => ?_⟩
  · exact .mark_cons rfl
      (hLexes.append hEnd fun rest _ => endsLiteral_cons (by decide) _)
  · show (tokens ++ _).foldlM step (⟨.paren, [], none⟩ :: _) = _
    have hItems : vs.dropLast.reverse ++ [] ≠ [] := by
      intro hNone
      have hZero := congrArg List.length hNone
      rw [List.append_nil, List.length_reverse, List.length_dropLast, List.length_nil] at hZero
      omega
    rw [List.foldlM_append, hRun _ (.inl rfl)]
    show closeParen _ >>= _ = _
    rw [closeParen_of_items hItems, content_row]
    rfl

theorem DenotesRow.frozenset {cs : List Char} {vs : List Value} (h : DenotesRow cs vs)
    (hSome : vs ≠ []) (hHashable : Value.areHashable vs = true)
    (hDistinct : Value.distinct vs = vs) :
    Denotes ("frozenset".toList ++ '(' :: '\x7b' :: (cs ++ ['\x7d', ')'])) (.frozenset vs) := by
  obtain ⟨tokens, hLexes, hRun⟩ := h.read
  have hEnd : Lexes ['\x7d', ')'] [.closeBrace, .closeParen] :=
    .mark_cons rfl (.mark_cons rfl lexes_nil)
  have hWord : Text.ArePrintable "frozenset".toList := List.all_eq_true.1 rfl
  refine ⟨hWord.append (.cons rfl (.cons rfl (h.printable.append
      (.cons rfl (.cons rfl (List.forall_mem_nil _)))))),
    .call :: .openBrace :: (tokens ++ [.closeBrace, .closeParen]), ?_,
    fun bracket items frames => ?_⟩
  · exact .call (.mark_cons rfl
      (hLexes.append hEnd fun rest _ => endsLiteral_cons (by decide) _))
  · show (tokens ++ _).foldlM step
      (⟨.brace, [], none⟩ :: ⟨.call, [], none⟩ :: ⟨bracket, items, none⟩ :: frames) = _
    have hClosed : closeBrace (⟨.brace, vs.dropLast.reverse ++ [], vs.getLast?⟩ ::
          ⟨.call, [], none⟩ :: ⟨bracket, items, none⟩ :: frames)
        = some (⟨.call, [], some (.set vs)⟩ :: ⟨bracket, items, none⟩ :: frames) := by
      rw [closeBrace, content_row, hHashable, hDistinct, List.isEmpty_eq_false_iff.2 hSome]
      rfl
    rw [List.foldlM_append, hRun _ (.inr rfl), Option.bind_eq_bind, Option.bind_some,
      List.foldlM_cons, step, hClosed]
    rfl

end Literal
end Interpose

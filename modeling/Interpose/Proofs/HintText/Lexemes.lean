import Interpose.Proofs.HintText.Derived
import Interpose.Proofs.HintText.Lexing

/-! # The lexemes of annotations

A text spells some tokens if it consists of their lexemes with any blanks in front, between and
behind them. Where one lexeme could be cut in another way, as `ab` into two names, the grammar does
not accept the tokens, so that a text is always cut into those that it spells and that a derivation
starts from.
-/
namespace Interpose.HintText

set_option autoImplicit false

inductive IsLexeme : Token → List Char → Prop where
  | name {cs : List Char} (h : Node.IsIdentifier cs) : IsLexeme (.name (String.ofList cs)) cs
  | text {quote : Char} {content : List Char} (hQuote : Text.IsQuote quote)
      (h : IsContent quote content) :
      IsLexeme (.literal (.text content)) (quote :: content ++ [quote])
  | number {n : Decimal.Numeral} {cs : List Char} (h : Decimal.IsNumber n cs) :
      IsLexeme (.literal (.number n)) cs
  | dots : IsLexeme .dots ['.', '.', '.']
  | point : IsLexeme .point ['.']
  | mark {c : Char} {token : Token} (h : (c, token) ∈ marks) : IsLexeme token [c]

inductive IsSpelt : List Char → List Token → Prop where
  | nil : IsSpelt [] []
  | blank {c : Char} {cs : List Char} {tokens : List Token} (hBlank : isBlank c = true)
      (h : IsSpelt cs tokens) : IsSpelt (c :: cs) tokens
  | token {cs lexeme : List Char} {token : Token} {tokens : List Token}
      (hLexeme : IsLexeme token lexeme) (h : IsSpelt cs tokens) :
      IsSpelt (lexeme ++ cs) (token :: tokens)

/-! ## What is cut is a lexeme -/

theorem mem_marks_of_punctuation? {c : Char} {token : Token} (h : punctuation? c = some token) :
    (c, token) = ('.', .point) ∨ (c, token) ∈ marks := by
  unfold punctuation? at h
  split at h <;> first | contradiction | (cases h; decide)

theorem isLexeme_of_takeToken {cs rest : List Char} {token : Token}
    (h : takeToken cs = some (token, rest)) :
    ∃ lexeme, IsLexeme token lexeme ∧ lexeme ++ rest = cs := by
  unfold takeToken at h
  split at h
  next => contradiction
  next =>
    cases h
    exact ⟨_, .dots, rfl⟩
  next c tail _ =>
    split at h
    next hStart =>
      cases h
      refine ⟨_, .name ⟨hStart, List.all_takeWhile⟩, ?_⟩
      rw [List.cons_append, List.takeWhile_append_dropWhile]
    next =>
    split at h
    next hQuote =>
      obtain ⟨⟨content, after⟩, hTake, ⟨⟩⟩ := Option.map_eq_some_iff.1 h
      obtain ⟨hContent, rfl⟩ := isContent_of_takeContent hTake
      exact ⟨_, .text hQuote hContent, by simp⟩
    next =>
    split at h
    next parts after hTake =>
      cases h
      obtain ⟨number, hNumber, hCut⟩ := Decimal.isNumber_of_takeNumber hTake
      exact ⟨number, .number hNumber, hCut⟩
    next =>
      obtain ⟨mark, hMark, ⟨⟩⟩ := Option.map_eq_some_iff.1 h
      obtain ⟨⟨⟩⟩ | hMem := mem_marks_of_punctuation? hMark
      · exact ⟨_, .point, rfl⟩
      · exact ⟨_, .mark hMem, rfl⟩

theorem isSpelt_of_tokens? {cs : List Char} {tokens : List Token} (h : tokens? cs = some tokens) :
    IsSpelt cs tokens := by
  fun_induction tokens? cs generalizing tokens with
  | case1 =>
    cases h
    exact .nil
  | case2 c cs hBlank ih => exact .blank hBlank (ih h)
  | case3 c cs _ token after hToken ih =>
    obtain ⟨more, hMore, rfl⟩ := Option.map_eq_some_iff.1 h
    obtain ⟨lexeme, hLexeme, hCut⟩ := isLexeme_of_takeToken hToken
    rw [← hCut]
    exact .token hLexeme (ih hMore)
  | case4 => contradiction

/-! ## Lexemes are cut -/

/-- Whether a token's lexeme is cut in front of a text. -/
def Token.EndsBefore : Token → List Char → Prop
  | .name _, rest => EndsName rest
  | .literal (.number _), rest => Decimal.EndsNumber rest
  | .point, rest => EndsPoint rest
  | _, _ => True

theorem IsLexeme.tokens? {token : Token} {lexeme rest : List Char} (h : IsLexeme token lexeme)
    (hRest : token.EndsBefore rest) :
    HintText.tokens? (lexeme ++ rest) = (HintText.tokens? rest).map (token :: ·) := by
  cases h with
  | name hName => exact tokens?_identifier hName hRest
  | text hQuote hContent => exact tokens?_text hQuote hContent rest
  | number hNumber => exact tokens?_number (hNumber.take hRest)
  | dots => exact tokens?_of_takeToken (by decide) rfl
  | point => exact tokens?_point hRest
  | mark hMark => exact tokens?_mark hMark rest

/-! ## What the machine has tokens followed by -/

theorem IsLexeme.ne_nil {token : Token} {lexeme : List Char} (h : IsLexeme token lexeme) :
    lexeme ≠ [] := by
  cases h with
  | name hName => exact hName.ne_nil
  | number hNumber =>
    rintro rfl
    have hWhole := hNumber.take (show Decimal.EndsNumber [] from trivial)
    cases hWhole
  | _ => exact List.cons_ne_nil _ _

/-- A text that spells some tokens starts with a blank or with a character of the first token. -/
theorem IsSpelt.head_false {cs : List Char} {tokens : List Token} (h : IsSpelt cs tokens)
    {test : Char → Bool}
    (hBlanks : [' ', '\t', '\r', '\n', Char.ofNat 12].all (test · == false) = true)
    (hFirst : ∀ token more, tokens = token :: more →
      ∀ c rest, IsLexeme token (c :: rest) → test c = false) :
    ∀ c ∈ cs.head?, test c = false := by
  cases h with
  | nil => exact nofun
  | blank hBlank _ =>
    rintro c ⟨⟩
    rw [Bool.eq_false_iff]
    intro hTest
    rw [isBlank_eq_false hTest hBlanks] at hBlank
    contradiction
  | token hLexeme _ =>
    obtain ⟨c, rest, rfl⟩ := List.exists_cons_of_ne_nil hLexeme.ne_nil
    rintro _ ⟨⟩
    exact hFirst _ _ rfl c rest hLexeme

/-- A token of punctuation other than the three dots. -/
def Token.isMark : Token → Bool
  | .name _ | .literal _ | .dots => false
  | _ => true

theorem IsLexeme.mem_marks {token : Token} {c : Char} {rest : List Char}
    (h : IsLexeme token (c :: rest)) (hMark : token.isMark = true) :
    (c, token) = ('.', .point) ∨ (c, token) ∈ marks := by
  cases h with
  | name | text | number | dots => cases hMark
  | point => exact .inl rfl
  | mark hMem => exact .inr hMem

theorem IsLexeme.isNameStart {s : String} {c : Char} {rest : List Char}
    (h : IsLexeme (.name s) (c :: rest)) : HintText.isNameStart c = true := by
  have hMarks : ∀ mark ∈ marks, mark.2.isMark = true := by decide
  cases h with
  | name hName => exact hName.1
  | mark hMem => exact absurd (hMarks _ hMem) Bool.false_ne_true

theorem isMark_of_continueAfter {brackets : List Bracket} {level : Level} {node : Spelled}
    {token : Token} {next : State}
    (h : State.continueAfter brackets level node token = some next) :
    token.isMark = true ∧ token ≠ .point := by
  cases token with
  | name | literal | dots | point => cases h
  | _ => exact ⟨rfl, by decide⟩

section After

variable {state middle next : State}

theorem operand_of_read_name {s : String} (h : state.read (.name s) = some middle) :
    ∃ dotted, middle.operand = .name dotted := by
  obtain ⟨brackets, level, operand⟩ := state
  cases operand with
  | missing | openName =>
    cases h
    exact ⟨_, rfl⟩
  | name | complete | argument => cases h

theorem operand_of_read_literal {spelling : Spelling}
    (h : state.read (.literal spelling) = some middle) :
    ∃ node, middle.operand = .complete node := by
  obtain ⟨brackets, level, operand⟩ := state
  cases operand with
  | missing =>
    cases h
    exact ⟨_, rfl⟩
  | openName | name | complete | argument => cases h

theorem operand_of_read_point (h : state.read .point = some middle) :
    ∃ dotted, middle.operand = .openName dotted := by
  obtain ⟨brackets, level, operand⟩ := state
  cases operand with
  | name =>
    cases h
    exact ⟨_, rfl⟩
  | missing | openName | complete | argument => cases h

theorem isMark_of_read_behind_name {dotted : String} {token : Token}
    (hOperand : middle.operand = .name dotted) (h : middle.read token = some next) :
    token.isMark = true := by
  obtain ⟨brackets, level, operand⟩ := middle
  obtain rfl : operand = .name dotted := hOperand
  cases token with
  | name | literal | dots => cases h
  | _ => rfl

theorem isMark_of_read_behind_literal {node : Spelled} {token : Token}
    (hOperand : middle.operand = .complete node) (h : middle.read token = some next) :
    token.isMark = true ∧ token ≠ .point := by
  obtain ⟨brackets, level, operand⟩ := middle
  obtain rfl : operand = .complete node := hOperand
  exact isMark_of_continueAfter h

theorem name_of_read_behind_point {dotted : String} {token : Token}
    (hOperand : middle.operand = .openName dotted) (h : middle.read token = some next) :
    ∃ s, token = .name s := by
  obtain ⟨brackets, level, operand⟩ := middle
  obtain rfl : operand = .openName dotted := hOperand
  cases token with
  | name s => exact ⟨s, rfl⟩
  | _ => cases h

/-- In front of what the machine goes on to read behind a token, the token's lexeme is cut. -/
theorem IsSpelt.endsBefore {cs : List Char} {tokens : List Token} {token : Token}
    (h : IsSpelt cs tokens) (hRead : state.read token = some middle)
    (hReads : State.Reads tokens middle next) : token.EndsBefore cs := by
  have hFirst : ∀ u more, tokens = u :: more → ∃ after, middle.read u = some after := by
    rintro u more rfl
    obtain ⟨after, hAfter, -⟩ := Option.bind_eq_some_iff.1 hReads
    exact ⟨after, hAfter⟩
  have hNamed : ∀ mark ∈ ('.', Token.point) :: marks, isNameRest mark.1 = false := by decide
  have hNumbered : ∀ mark ∈ marks, Decimal.continuesNumber mark.1 = false := by decide
  cases token with
  | name s =>
    obtain ⟨dotted, hOperand⟩ := operand_of_read_name hRead
    refine h.head_false (by decide) fun u more hTokens c rest hLexeme => ?_
    obtain ⟨after, hAfter⟩ := hFirst u more hTokens
    have hMark := hLexeme.mem_marks (isMark_of_read_behind_name hOperand hAfter)
    exact hNamed (c, u) (List.mem_cons.2 hMark)
  | literal spelling =>
    cases spelling with
    | text => trivial
    | number n =>
      obtain ⟨node, hOperand⟩ := operand_of_read_literal hRead
      refine Decimal.endsNumber_of_head ?_
      refine h.head_false (by decide) fun u more hTokens c rest hLexeme => ?_
      obtain ⟨after, hAfter⟩ := hFirst u more hTokens
      obtain ⟨hMark, hPoint⟩ := isMark_of_read_behind_literal hOperand hAfter
      obtain ⟨⟨⟩⟩ | hMem := hLexeme.mem_marks hMark
      · exact absurd rfl hPoint
      · exact hNumbered (c, u) hMem
  | point =>
    obtain ⟨dotted, hOperand⟩ := operand_of_read_point hRead
    have hHead : ∀ c ∈ cs.head?, (c == '.' || c.isDigit) = false := by
      refine h.head_false (by decide) fun u more hTokens c rest hLexeme => ?_
      obtain ⟨after, hAfter⟩ := hFirst u more hTokens
      obtain ⟨s, rfl⟩ := name_of_read_behind_point hOperand hAfter
      have hStart : isNameStart c = true := hLexeme.isNameStart
      rw [isDigit_of_isNameStart hStart, beq_false_of_ne (ne_of_test hStart (by decide))]
      rfl
    intro c hMem
    simpa using hHead c hMem
  | _ => trivial

end After

/-- A text that spells tokens which the machine reads is cut into them. -/
theorem IsSpelt.tokens? {cs : List Char} {tokens : List Token} {state next : State}
    (h : IsSpelt cs tokens) (hReads : State.Reads tokens state next) :
    HintText.tokens? cs = some tokens := by
  induction h generalizing state with
  | nil => rw [HintText.tokens?]
  | blank hBlank _ ih => rw [tokens?_blank hBlank, ih hReads]
  | token hLexeme h ih =>
    obtain ⟨middle, hRead, hRest⟩ := Option.bind_eq_some_iff.1 hReads
    rw [hLexeme.tokens? (h.endsBefore hRead hRest), ih hRest]
    rfl

/-- Whether a text can be derived as a tree. -/
def IsDerivable (cs : List Char) (node : Spelled) : Prop :=
  ∃ tokens, IsSpelt cs tokens ∧ Derives .union tokens node

/-- A text is read as the tree that can be derived from it. -/
theorem spelled?_eq_some_iff {cs : List Char} {node : Spelled} :
    spelled? cs = some node ↔ IsDerivable cs node := by
  constructor
  · intro h
    obtain ⟨tokens, hTokens, hTree⟩ := Option.bind_eq_some_iff.1 h
    exact ⟨tokens, isSpelt_of_tokens? hTokens, ofTokens?_eq_some_iff.1 hTree⟩
  · rintro ⟨tokens, hSpelt, hDerives⟩
    have hTree := ofTokens?_eq_some_iff.2 hDerives
    obtain ⟨state, hReads, -⟩ := Option.bind_eq_some_iff.1 hTree
    rw [spelled?, hSpelt.tokens? hReads, Option.bind_some, hTree]

/-! ## What is derived has a notation -/

/-- Whether the names among some tokens are identifiers. -/
def AreNamed (tokens : List Token) : Prop :=
  ∀ s, .name s ∈ tokens → Node.IsIdentifier s.toList

theorem AreNamed.mono {tokens more : List Token} (h : AreNamed more) (hSubset : tokens ⊆ more) :
    AreNamed tokens :=
  fun s hMem => h s (hSubset hMem)

theorem IsSpelt.areNamed {cs : List Char} {tokens : List Token} (h : IsSpelt cs tokens) :
    AreNamed tokens := by
  have hMarks : ∀ mark ∈ marks, mark.2.isMark = true := by decide
  induction h with
  | nil => exact fun _ hMem => absurd hMem List.not_mem_nil
  | blank _ _ ih => exact ih
  | token hLexeme _ ih =>
    intro s hMem
    rcases List.mem_cons.1 hMem with rfl | hMem
    · cases hLexeme with
      | name hName => rwa [String.toList_ofList]
      | mark hMark => exact absurd (hMarks _ hMark) Bool.false_ne_true
    · exact ih s hMem

theorem Node.isDotted_of_isIdentifier {s : String} (h : IsIdentifier s.toList) : IsDotted s := by
  have hPoint : '.' ∉ s.toList := by
    generalize s.toList = cs at h
    cases cs with
    | nil => exact List.not_mem_nil
    | cons c cs =>
      rw [List.mem_cons, not_or]
      refine ⟨(ne_of_test h.1 (by decide)).symm, fun hMem => ?_⟩
      exact absurd (List.all_eq_true.1 h.2 '.' hMem) (by decide)
  intro part hMem
  rw [Text.cutAll_of_not_mem hPoint] at hMem
  rwa [List.mem_singleton.1 hMem]

theorem IsName.isDotted {tokens : List Token} {dotted : String} (h : IsName tokens dotted)
    (hNamed : AreNamed tokens) : Node.IsDotted dotted := by
  induction h with
  | one s => exact Node.isDotted_of_isIdentifier (hNamed s List.mem_cons_self)
  | @more tokens dotted _ s ih =>
    refine Node.isDotted_append (ih (hNamed.mono (List.subset_append_left _ _))) ?_
    exact Node.isDotted_of_isIdentifier (hNamed s (List.mem_append_right _ (by simp)))

theorem subset_joined {separator : Token} {phrases : List Phrase} {phrase : Phrase}
    (h : phrase ∈ phrases) : phrase.tokens ⊆ joined separator phrases := by
  cases phrases with
  | nil => contradiction
  | cons first others =>
    intro token hMem
    rcases List.mem_cons.1 h with rfl | hOther
    · exact List.mem_append_left _ hMem
    · exact List.mem_append_right _
        (List.mem_flatMap.2 ⟨phrase, hOther, List.mem_cons_of_mem _ hMem⟩)

theorem IsRow.subset {phrases : List Phrase} {row : List Token} {phrase : Phrase}
    (hRow : IsRow phrases row) (h : phrase ∈ phrases) : phrase.tokens ⊆ row := by
  cases hRow with
  | plain => exact subset_joined h
  | trailing => exact List.Subset.trans (subset_joined h) (List.subset_append_left _ _)

theorem Derives.isHint {symbol : Symbol} {tokens : List Token} {node : Spelled}
    (h : Derives symbol tokens node) (hNamed : AreNamed tokens) :
    node.IsHint (fun _ => True) (symbol = .argument) := by
  have hAll : ∀ {phrases : List Phrase} {mayBeList : Bool}, (∀ phrase ∈ phrases,
      phrase.tree.IsHint (fun _ => True) mayBeList) →
      Node.AreHints (fun _ => True) mayBeList (phrases.map Phrase.tree) := by
    intro phrases mayBeList hPhrases
    exact Node.areHints_iff.2 (List.forall_mem_map.2 hPhrases)
  induction h with
  | name hName => exact hName.isDotted hNamed
  | literal | dots => trivial
  | parentheses _ ih =>
    refine ih (hNamed.mono fun token hMem => ?_)
    exact List.mem_append_left _ (List.mem_cons_of_mem _ hMem)
  | subscript hName _ hRow ih =>
    refine ⟨hName.isDotted (hNamed.mono fun token hToken => ?_),
      hAll fun phrase hMem => ih phrase hMem (hNamed.mono fun token hToken => ?_)⟩
    · exact List.mem_append_left _ (List.mem_append_left _ hToken)
    · refine List.mem_append_left _ (List.mem_append_right _ (List.mem_cons_of_mem _ ?_))
      exact hRow.subset hMem hToken
  | operand _ ih | member _ ih => exact ih hNamed
  | type _ ih => exact (ih hNamed).mono
  | intersection hLength _ ih | union hLength _ ih =>
    refine ⟨(List.length_map Phrase.tree).symm ▸ hLength, hAll fun phrase hMem => ?_⟩
    exact ih phrase hMem (hNamed.mono (subset_joined hMem))
  | list _ hRow ih =>
    refine ⟨rfl, hAll fun phrase hMem => ih phrase hMem (hNamed.mono fun token hToken => ?_)⟩
    exact List.mem_append_left _ (List.mem_cons_of_mem _ (hRow.subset hMem hToken))

theorem IsDerivable.isHint {cs : List Char} {node : Spelled} (h : IsDerivable cs node) :
    node.IsHint (fun _ => True) false := by
  obtain ⟨tokens, hSpelt, hDerives⟩ := h
  exact hDerives.isHint hSpelt.areNamed

end Interpose.HintText

import Interpose.Proofs.HintText.Grammar

/-! # Derivations are followed

The machine follows every derivation of the grammar: behind the tokens of a phrase its state is the
one before them with the tree of the phrase read. So it accepts exactly the tokens that can be
derived, with the tree of the derivation.
-/
namespace Interpose.HintText

set_option autoImplicit false

namespace State

def Reads (tokens : List Token) (state next : State) : Prop :=
  tokens.foldlM State.read state = some next

theorem Reads.nil (state : State) : Reads [] state state := rfl

theorem Reads.cons {token : Token} {rest : List Token} {state middle next : State}
    (hRead : state.read token = some middle) (h : Reads rest middle next) :
    Reads (token :: rest) state next := by
  rw [Reads, List.foldlM_cons, hRead]
  exact h

theorem Reads.append {first second : List Token} {state middle next : State}
    (hFirst : Reads first state middle) (hSecond : Reads second middle next) :
    Reads (first ++ second) state next := by
  rw [Reads, List.foldlM_append, show first.foldlM State.read state = some middle from hFirst]
  exact hSecond

end State

open State

/-- Whether an operand is a given tree; a point or a bracket may still continue a name. -/
inductive Operand.Is : Operand → Spelled → Prop where
  | name (dotted : String) : Is (.name dotted) (.name dotted)
  | complete (node : Spelled) : Is (.complete node) node

/-- Behind an operand all tokens are read alike, but for those that continue a name. -/
theorem Operand.Is.read {operand : Operand} {node : Spelled} (h : operand.Is node)
    (brackets : List Bracket) (level : Level) {token : Token} (hPoint : token ≠ .point)
    (hBracket : token ≠ .openBracket) :
    State.read ⟨brackets, level, operand⟩ token = continueAfter brackets level node token := by
  cases h with
  | name => cases token <;> first | rfl | contradiction
  | complete => rfl

/-- Whether a state takes a phrase into its bracket, be it followed by a comma or by the end of the
bracket. -/
structure Takes (bracket : Bracket) (outer : List Bracket) (state : State) : Prop where
  comma : state.read .comma = some ⟨bracket :: outer, .empty, .missing⟩
  close : state.read .closeBracket = closeEmpty (bracket :: outer)

def IsReadIn (bracket : List Spelled → Bracket) (tokens : List Token) (node : Spelled) : Prop :=
  ∀ complete outer, ∃ state, Takes (bracket (node :: complete)) outer state ∧
    Reads tokens ⟨bracket complete :: outer, .empty, .missing⟩ state

/-- Whether the machine reads some tokens as a tree wherever they may stand. -/
def IsRead : Symbol → List Token → Spelled → Prop
  | .operand, tokens, node => ∀ brackets level, ∃ operand : Operand, operand.Is node ∧
      Reads tokens ⟨brackets, level, .missing⟩ ⟨brackets, level, operand⟩
  | .intersection, tokens, node => ∀ brackets members, ∃ operands last, ∃ operand : Operand,
      operand.Is last ∧ Level.intersection ⟨members, operands⟩ last = node ∧
      Reads tokens ⟨brackets, ⟨members, []⟩, .missing⟩ ⟨brackets, ⟨members, operands⟩, operand⟩
  | .union, tokens, node => ∀ brackets, ∃ level last, ∃ operand : Operand,
      operand.Is last ∧ Level.union level last = node ∧
      Reads tokens ⟨brackets, .empty, .missing⟩ ⟨brackets, level, operand⟩
  | .argument, tokens, node => ∀ outside origin, IsReadIn (.arguments outside origin) tokens node

theorem IsName.reads {tokens : List Token} {dotted : String} (h : IsName tokens dotted)
    (brackets : List Bracket) (level : Level) :
    Reads tokens ⟨brackets, level, .missing⟩ ⟨brackets, level, .name dotted⟩ := by
  induction h with
  | one s => exact Reads.cons rfl (Reads.nil _)
  | more _ s ih => exact ih.append (Reads.cons rfl (Reads.cons rfl (Reads.nil _)))

/-! ## Joined phrases -/

section Joined

variable {brackets : List Bracket} {phrases : List Phrase} {operand : Operand} {last : Spelled}

theorem reads_moreOperands (h : ∀ phrase ∈ phrases, IsRead .operand phrase.tokens phrase.tree)
    {members operands : List Spelled} (hLast : operand.Is last) :
    ∃ operands' last', ∃ operand' : Operand, operand'.Is last' ∧
      (last' :: operands').reverse = (last :: operands).reverse ++ phrases.map Phrase.tree ∧
      Reads (phrases.flatMap fun phrase => .ampersand :: phrase.tokens)
        ⟨brackets, ⟨members, operands⟩, operand⟩ ⟨brackets, ⟨members, operands'⟩, operand'⟩ := by
  -- The operands that are complete stand latest first, and the last one may still be continued.
  induction phrases generalizing operands operand last with
  | nil => exact ⟨operands, last, operand, hLast, (List.append_nil _).symm, Reads.nil _⟩
  | cons phrase phrases ih =>
    rw [List.forall_mem_cons] at h
    obtain ⟨middle, hMiddle, hFirst⟩ := h.1 brackets ⟨members, last :: operands⟩
    obtain ⟨operands', last', operand', hLast', hAll, hRest⟩ := ih h.2 hMiddle
    refine ⟨operands', last', operand', hLast', ?_, ?_⟩
    · rw [hAll, List.reverse_cons, List.append_assoc]
      rfl
    · rw [List.flatMap_cons]
      exact Reads.cons (hLast.read brackets _ nofun nofun) (hFirst.append hRest)

theorem reads_moreMembers
    (h : ∀ phrase ∈ phrases, IsRead .intersection phrase.tokens phrase.tree) {level : Level}
    (hLast : operand.Is last) :
    ∃ level' last', ∃ operand' : Operand, operand'.Is last' ∧
      (level'.intersection last' :: level'.members).reverse
        = (level.intersection last :: level.members).reverse ++ phrases.map Phrase.tree ∧
      Reads (phrases.flatMap fun phrase => .bar :: phrase.tokens)
        ⟨brackets, level, operand⟩ ⟨brackets, level', operand'⟩ := by
  induction phrases generalizing level operand last with
  | nil => exact ⟨level, last, operand, hLast, (List.append_nil _).symm, Reads.nil _⟩
  | cons phrase phrases ih =>
    rw [List.forall_mem_cons] at h
    obtain ⟨operands, last₁, middle, hMiddle, hMember, hFirst⟩ :=
      h.1 brackets (level.intersection last :: level.members)
    obtain ⟨level', last', operand', hLast', hAll, hRest⟩ := ih h.2 hMiddle
    refine ⟨level', last', operand', hLast', ?_, ?_⟩
    · rw [hAll, hMember, List.reverse_cons, List.append_assoc]
      rfl
    · rw [List.flatMap_cons]
      exact Reads.cons (hLast.read brackets _ nofun nofun) (hFirst.append hRest)

theorem Level.join_of_two {joined : List Spelled → Spelled} {nodes : List Spelled}
    (h : 2 ≤ nodes.length) : Level.join joined nodes = joined nodes := by
  match nodes, h with
  | _ :: _ :: _, _ => rfl

theorem IsRead.intersection (hLength : 2 ≤ phrases.length)
    (h : ∀ phrase ∈ phrases, IsRead .operand phrase.tokens phrase.tree) :
    IsRead .intersection (joined .ampersand phrases)
      (.intersection (phrases.map Phrase.tree)) := by
  intro brackets members
  cases phrases with
  | nil => contradiction
  | cons first others =>
    rw [List.forall_mem_cons] at h
    obtain ⟨middle, hMiddle, hFirst⟩ := h.1 brackets ⟨members, []⟩
    obtain ⟨operands, last, operand, hLast, hAll, hRest⟩ := reads_moreOperands h.2 hMiddle
    refine ⟨operands, last, operand, hLast, ?_, hFirst.append hRest⟩
    rw [Level.intersection, hAll]
    exact Level.join_of_two (by simpa [Nat.add_comm] using hLength)

theorem IsRead.union (hLength : 2 ≤ phrases.length)
    (h : ∀ phrase ∈ phrases, IsRead .intersection phrase.tokens phrase.tree) :
    IsRead .union (joined .bar phrases) (.union (phrases.map Phrase.tree)) := by
  intro brackets
  cases phrases with
  | nil => contradiction
  | cons first others =>
    rw [List.forall_mem_cons] at h
    obtain ⟨operands, last₁, middle, hMiddle, hMember, hFirst⟩ := h.1 brackets []
    obtain ⟨level, last, operand, hLast, hAll, hRest⟩ := reads_moreMembers h.2 hMiddle
    refine ⟨level, last, operand, hLast, ?_, hFirst.append hRest⟩
    rw [Level.union, hAll, hMember]
    exact Level.join_of_two (by simpa [Nat.add_comm] using hLength)

end Joined

/-! ## Phrases in brackets -/

section Rows

variable {bracket : List Spelled → Bracket} {outer : List Bracket} {phrases : List Phrase}

theorem reads_moreItems (h : ∀ phrase ∈ phrases, IsReadIn bracket phrase.tokens phrase.tree)
    {state : State} {complete : List Spelled} (hTakes : Takes (bracket complete) outer state) :
    ∃ state', Takes (bracket (trees phrases ++ complete)) outer state' ∧
      Reads (phrases.flatMap fun phrase => .comma :: phrase.tokens) state state' := by
  -- All that is known of the state behind an item is how it reads a comma and the closing bracket.
  induction phrases generalizing state complete with
  | nil => exact ⟨state, hTakes, Reads.nil _⟩
  | cons phrase phrases ih =>
    rw [List.forall_mem_cons] at h
    obtain ⟨middle, hMiddle, hFirst⟩ := h.1 complete outer
    obtain ⟨state', hTakes', hRest⟩ := ih h.2 hMiddle
    refine ⟨state', ?_, ?_⟩
    · rw [trees, List.map_cons, List.reverse_cons, List.append_assoc]
      exact hTakes'
    · rw [List.flatMap_cons]
      exact Reads.cons hTakes.comma (hFirst.append hRest)

theorem reads_joined (outer : List Bracket) (hSome : phrases ≠ [])
    (h : ∀ phrase ∈ phrases, IsReadIn bracket phrase.tokens phrase.tree) :
    ∃ state, Takes (bracket (trees phrases)) outer state ∧
      Reads (joined .comma phrases) ⟨bracket [] :: outer, .empty, .missing⟩ state := by
  cases phrases with
  | nil => contradiction
  | cons first others =>
    rw [List.forall_mem_cons] at h
    obtain ⟨middle, hMiddle, hFirst⟩ := h.1 [] outer
    obtain ⟨state, hTakes, hRest⟩ := reads_moreItems h.2 hMiddle
    refine ⟨state, ?_, hFirst.append hRest⟩
    rw [trees, List.map_cons, List.reverse_cons]
    exact hTakes

theorem IsRow.reads {row : List Token} (hRow : IsRow phrases row)
    (h : ∀ phrase ∈ phrases, IsReadIn bracket phrase.tokens phrase.tree) {closed : State}
    (hClosed : closeEmpty (bracket (trees phrases) :: outer) = some closed) :
    Reads (row ++ [.closeBracket]) ⟨bracket [] :: outer, .empty, .missing⟩ closed := by
  cases hRow with
  | plain =>
    cases phrases with
    | nil => exact Reads.cons hClosed (Reads.nil _)
    | cons first others =>
      obtain ⟨state, hTakes, hReads⟩ := reads_joined outer (List.cons_ne_nil _ _) h
      exact hReads.append (Reads.cons (hTakes.close.trans hClosed) (Reads.nil _))
  | trailing hSome =>
    obtain ⟨state, hTakes, hReads⟩ := reads_joined outer hSome h
    rw [List.append_assoc]
    exact hReads.append (Reads.cons hTakes.comma (Reads.cons hClosed (Reads.nil _)))

end Rows

theorem IsRead.item {tokens : List Token} {node : Spelled} (h : IsRead .union tokens node) :
    IsReadIn .list tokens node := by
  intro complete outer
  obtain ⟨level, last, operand, hLast, hNode, hReads⟩ := h (.list complete :: outer)
  refine ⟨_, ⟨?_, ?_⟩, hReads⟩
  · rw [hLast.read _ _ (by decide) (by decide), continueAfter, hNode]
  · rw [hLast.read _ _ (by decide) (by decide), continueAfter, hNode]
    rfl

theorem IsRead.type {tokens : List Token} {node : Spelled} (h : IsRead .union tokens node) :
    IsRead .argument tokens node := by
  intro outside origin complete outer
  obtain ⟨level, last, operand, hLast, hNode, hReads⟩ :=
    h (.arguments outside origin complete :: outer)
  refine ⟨_, ⟨?_, ?_⟩, hReads⟩
  · rw [hLast.read _ _ (by decide) (by decide), continueAfter, hNode]
  · rw [hLast.read _ _ (by decide) (by decide), continueAfter, hNode]
    rfl

/-! ## All derivations -/

theorem Derives.isRead {symbol : Symbol} {tokens : List Token} {node : Spelled}
    (h : Derives symbol tokens node) : IsRead symbol tokens node := by
  induction h with
  | name hName => exact fun brackets level => ⟨_, .name _, hName.reads brackets level⟩
  | literal spelling =>
    exact fun brackets level => ⟨_, .complete _, Reads.cons rfl (Reads.nil _)⟩
  | dots => exact fun brackets level => ⟨_, .complete _, Reads.cons rfl (Reads.nil _)⟩
  | @parentheses tokens node _ ih =>
    intro brackets level
    obtain ⟨inside, last, operand, hLast, hNode, hReads⟩ := ih (.paren level :: brackets)
    have hClose : State.read ⟨.paren level :: brackets, inside, operand⟩ .closeParen
        = some ⟨brackets, level, .complete node⟩ := by
      rw [hLast.read _ _ (by decide) (by decide), continueAfter, hNode]
    refine ⟨_, .complete _, ?_⟩
    rw [List.cons_append]
    exact Reads.cons rfl (hReads.append (Reads.cons hClose (Reads.nil _)))
  | subscript hName _ hRow ih =>
    intro brackets level
    refine ⟨_, .complete _, ?_⟩
    rw [List.append_assoc, List.cons_append]
    refine (hName.reads brackets level).append (Reads.cons rfl ?_)
    refine hRow.reads (fun phrase hPhrase => ih phrase hPhrase level _) ?_
    rw [closeEmpty, trees, List.reverse_reverse]
  | operand _ ih =>
    intro brackets members
    obtain ⟨operand, hOperand, hReads⟩ := ih brackets ⟨members, []⟩
    exact ⟨[], _, operand, hOperand, rfl, hReads⟩
  | intersection hLength _ ih => exact IsRead.intersection hLength ih
  | member _ ih =>
    intro brackets
    obtain ⟨operands, last, operand, hOperand, hNode, hReads⟩ := ih brackets []
    exact ⟨⟨[], operands⟩, last, operand, hOperand, by rw [Level.union, hNode]; rfl, hReads⟩
  | union hLength _ ih => exact IsRead.union hLength ih
  | type _ ih => exact IsRead.type ih
  | list _ hRow ih =>
    intro outside origin complete outer
    refine ⟨⟨.arguments outside origin complete :: outer, .empty, .argument _⟩, ⟨rfl, rfl⟩, ?_⟩
    rw [List.cons_append]
    refine Reads.cons rfl (hRow.reads (fun phrase hPhrase => (ih phrase hPhrase).item) ?_)
    rw [closeEmpty, trees, List.reverse_reverse]

/-- The machine accepts the tokens that can be derived, with the tree of the derivation. -/
theorem ofTokens?_eq_some_iff {tokens : List Token} {node : Spelled} :
    ofTokens? tokens = some node ↔ Derives .union tokens node := by
  refine ⟨derives_of_ofTokens?, fun h => ?_⟩
  obtain ⟨level, last, operand, hLast, hNode, hReads⟩ := h.isRead []
  have hRun : tokens.foldlM State.read State.initial = some ⟨[], level, operand⟩ := hReads
  rw [ofTokens?, hRun, Option.bind_some, ← hNode]
  cases hLast <;> rfl

end Interpose.HintText

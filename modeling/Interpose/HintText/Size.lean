import Interpose.HintText.Reader

/-! # The size of annotations

A tree is no larger than the text it is read from. The size counts each name and the content of
each text literal with its quotes, so the text in a literal is always shorter than the text that
the literal stands in: an annotation can be quoted only as often as its length allows.
-/
namespace Interpose.HintText

set_option autoImplicit false

-- The zero of a sum of sizes is the built-in one, whatever else is imported.
attribute [local instance (10000)] Zero.ofOfNat0

def Level.size (level : Level) : Nat :=
  Node.totalSize Spelling.size level.members + Node.totalSize Spelling.size level.operands

def Bracket.size : Bracket → Nat
  | .paren outside => outside.size
  | .arguments outside _ complete => outside.size + 1 + Node.totalSize Spelling.size complete
  | .list complete => Node.totalSize Spelling.size complete

def Operand.size : Operand → Nat
  | .missing => 0
  | .name _ | .openName _ => 1
  | .complete node | .argument node => Node.size Spelling.size node

def State.size (state : State) : Nat :=
  (state.brackets.map Bracket.size).sum + state.level.size + state.operand.size

theorem Level.size_join {joined : List Spelled → Spelled}
    (h : ∀ nodes, Node.size Spelling.size (joined nodes) = Node.totalSize Spelling.size nodes)
    (nodes : List Spelled) :
    Node.size Spelling.size (join joined nodes) = Node.totalSize Spelling.size nodes := by
  unfold join
  split
  · simp [Node.totalSize]
  · exact h nodes

theorem Level.size_intersection (level : Level) (last : Spelled) :
    Node.size Spelling.size (level.intersection last)
      = Node.size Spelling.size last + Node.totalSize Spelling.size level.operands := by
  rw [intersection, size_join (fun _ => by rw [Node.size]), Node.totalSize_reverse, Node.totalSize]

theorem Level.size_union (level : Level) (last : Spelled) :
    Node.size Spelling.size (level.union last) = Node.size Spelling.size last + level.size := by
  rw [union, size_join (fun _ => by rw [Node.size]), Node.totalSize_reverse, Node.totalSize,
    size_intersection, Level.size]
  omega

theorem State.size_closeEmpty {brackets : List Bracket} {state : State}
    (h : closeEmpty brackets = some state) :
    state.size = (brackets.map Bracket.size).sum := by
  unfold closeEmpty at h
  split at h
  next outside origin complete brackets =>
    cases h
    simp [State.size, Bracket.size, Operand.size, Node.size, Node.totalSize_reverse]
    omega
  next complete brackets =>
    cases h
    simp [State.size, Bracket.size, Operand.size, Level.empty, Level.size, Node.size,
      Node.totalSize, Node.totalSize_reverse]
    omega
  next => contradiction

theorem State.size_continueAfter {brackets : List Bracket} {level : Level} {node : Spelled}
    {token : Token} {state : State} (h : continueAfter brackets level node token = some state) :
    state.size
      ≤ (brackets.map Bracket.size).sum + level.size + Node.size Spelling.size node := by
  have hUnion := Level.size_union level node
  have hIntersection := Level.size_intersection level node
  cases token with
  | ampersand =>
    cases h
    simp [State.size, Operand.size, Level.size, Node.totalSize]
    omega
  | bar =>
    cases h
    simp [State.size, Operand.size, Level.size, Node.totalSize]
    omega
  | comma =>
    unfold continueAfter at h
    dsimp only at h
    split at h
    next =>
      cases h
      simp [State.size, Bracket.size, Operand.size, Level.empty, Level.size, Node.totalSize]
        at hUnion ⊢
      omega
    next =>
      cases h
      simp [State.size, Bracket.size, Operand.size, Level.empty, Level.size, Node.totalSize]
        at hUnion ⊢
      omega
    next => contradiction
  | closeParen =>
    unfold continueAfter at h
    dsimp only at h
    split at h
    next =>
      cases h
      simp [State.size, Bracket.size, Operand.size] at hUnion ⊢
      omega
    next => contradiction
  | closeBracket =>
    unfold continueAfter at h
    dsimp only at h
    split at h
    next =>
      cases h
      simp [State.size, Bracket.size, Operand.size, Node.size, Node.totalSize,
        Node.totalSize_append, Node.totalSize_reverse] at hUnion ⊢
      omega
    next =>
      cases h
      simp [State.size, Bracket.size, Operand.size, Level.empty, Level.size, Node.size,
        Node.totalSize, Node.totalSize_append, Node.totalSize_reverse] at hUnion ⊢
      omega
    next => contradiction
  | _ => contradiction

theorem State.size_read {state next : State} {token : Token} (h : state.read token = some next) :
    next.size ≤ state.size + token.size := by
  obtain ⟨brackets, level, operand⟩ := state
  cases operand with
  | missing =>
    cases token <;> simp only [State.read] at h
    case name s => cases h; simp [State.size, Operand.size, Token.size]
    case literal spelling =>
      cases h
      cases spelling <;>
        simp [State.size, Operand.size, Token.size, Node.size, Spelling.size]
    case dots => cases h; simp [State.size, Operand.size, Node.size]
    case openParen =>
      cases h
      simp [State.size, Operand.size, Bracket.size, Level.size, Level.empty, Node.totalSize]; omega
    case openBracket =>
      split at h
      · split at h
        · cases h
          simp [State.size, Operand.size, Bracket.size, Level.size, Level.empty, Node.totalSize]
          omega
        · contradiction
      · contradiction
    case closeBracket =>
      split at h
      · rw [size_closeEmpty h]
        simp only [State.size]
        omega
      · contradiction
    all_goals contradiction
  | openName dotted =>
    cases token <;> simp only [State.read] at h
    case name s => cases h; simp [State.size, Operand.size]
    all_goals contradiction
  | name dotted =>
    cases token <;> simp only [State.read] at h
    case point => cases h; simp [State.size, Operand.size]
    case openBracket =>
      cases h
      simp [State.size, Operand.size, Bracket.size, Level.size, Level.empty, Node.totalSize]; omega
    all_goals
      have := size_continueAfter h
      simp [State.size, Operand.size, Node.size] at this ⊢; omega
  | complete node =>
    have := size_continueAfter (show continueAfter brackets level node token = some next from h)
    simp [State.size, Operand.size] at this ⊢; omega
  | argument node =>
    simp only [State.read] at h
    split at h
    · cases h
      simp [State.size, Operand.size, Bracket.size, Level.size, Level.empty, Node.totalSize]; omega
    · cases h
      simp [State.size, Operand.size, Bracket.size, Node.size, Node.totalSize,
        Node.totalSize_append, Node.totalSize_reverse]
      omega
    · contradiction

theorem State.size_foldlM_read {tokens : List Token} {state next : State}
    (h : tokens.foldlM State.read state = some next) :
    next.size ≤ state.size + (tokens.map Token.size).sum := by
  induction tokens generalizing state with
  | nil => cases h; simp
  | cons token tokens ih =>
    obtain ⟨mid, hMid, hRest⟩ := Option.bind_eq_some_iff.1 h
    have := State.size_read hMid
    have := ih hRest
    simp; omega

theorem State.size_finish {state : State} {node : Spelled} (h : state.finish = some node) :
    Node.size Spelling.size node ≤ state.size := by
  unfold State.finish at h
  split at h
  · rename_i level dotted
    cases h
    rw [Level.size_union]
    simp [State.size, Operand.size, Node.size]; omega
  · rename_i level node
    cases h
    rw [Level.size_union]
    simp [State.size, Operand.size]; omega
  · contradiction

theorem size_spelled? {cs : List Char} {node : Spelled} (h : spelled? cs = some node) :
    Node.size Spelling.size node ≤ cs.length := by
  obtain ⟨tokens, hTokens, h⟩ := Option.bind_eq_some_iff.1 h
  obtain ⟨state, hState, h⟩ := Option.bind_eq_some_iff.1 h
  have hFinish := State.size_finish h
  have hRead := State.size_foldlM_read hState
  have hLexed := size_tokens? hTokens
  have hInitial : State.initial.size = 0 := rfl
  omega

theorem size_parseShown {text shown : String} {node : Node Value}
    (h : parseShown text shown = .ok node) : node.size literalSize ≤ text.toList.length := by
  unfold parseShown at h
  split at h
  · contradiction
  · rename_i spelled hSpelled
    split at h
    · contradiction
    · rename_i hRead
      cases h
      exact Nat.le_trans (Node.size_mapLeaves? literalSize_read? spelled _ hRead)
        (size_spelled? hSpelled)

end Interpose.HintText

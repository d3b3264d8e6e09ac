import Interpose.HintText.Reader
import Mathlib.Data.List.Basic

/-! # The grammar of annotations

The grammar as derivations of trees from tokens. What the machine has read at any moment is made of
phrases of the grammar: those in front of each open bracket, those at the innermost level, and a
part of an operand. So whatever it accepts can be derived.
-/
namespace Interpose.HintText

set_option autoImplicit false

/-! ## Derivations -/

inductive Symbol where
  | union
  | intersection
  | operand
  | argument
  deriving DecidableEq, Repr

/-- Some tokens with the tree that is derived from them. -/
structure Phrase where
  tokens : List Token
  tree : Spelled

/-- One phrase, or several with a separator between each two. -/
def joined (separator : Token) : List Phrase → List Token
  | [] => []
  | first :: others => first.tokens ++ others.flatMap fun phrase => separator :: phrase.tokens

/-- Phrases in brackets are separated by commas, and the last one may be followed by a comma. -/
inductive IsRow (phrases : List Phrase) : List Token → Prop where
  | plain : IsRow phrases (joined .comma phrases)
  | trailing (h : phrases ≠ []) : IsRow phrases (joined .comma phrases ++ [.comma])

/-- Names with points between them, and the dotted name that they form. -/
inductive IsName : List Token → String → Prop where
  | one (s : String) : IsName [.name s] s
  | more {tokens : List Token} {dotted : String} (h : IsName tokens dotted) (s : String) :
      IsName (tokens ++ [.point, .name s]) (dotted ++ "." ++ s)

/-- The derivations of the grammar, with their trees. A union or an intersection of one member is
that member, and parentheses leave no trace. -/
inductive Derives : Symbol → List Token → Spelled → Prop where
  | name {tokens : List Token} {dotted : String} (h : IsName tokens dotted) :
      Derives .operand tokens (.name dotted)
  | literal (spelling : Spelling) : Derives .operand [.literal spelling] (.literal spelling)
  | dots : Derives .operand [.dots] .ellipsis
  | parentheses {tokens : List Token} {node : Spelled} (h : Derives .union tokens node) :
      Derives .operand (.openParen :: tokens ++ [.closeParen]) node
  | subscript {tokens row : List Token} {origin : String} {phrases : List Phrase}
      (hName : IsName tokens origin)
      (h : ∀ phrase ∈ phrases, Derives .argument phrase.tokens phrase.tree)
      (hRow : IsRow phrases row) :
      Derives .operand (tokens ++ .openBracket :: row ++ [.closeBracket])
        (.subscript origin (phrases.map Phrase.tree))
  | operand {tokens : List Token} {node : Spelled} (h : Derives .operand tokens node) :
      Derives .intersection tokens node
  | intersection {phrases : List Phrase} (hLength : 2 ≤ phrases.length)
      (h : ∀ phrase ∈ phrases, Derives .operand phrase.tokens phrase.tree) :
      Derives .intersection (joined .ampersand phrases)
        (.intersection (phrases.map Phrase.tree))
  | member {tokens : List Token} {node : Spelled} (h : Derives .intersection tokens node) :
      Derives .union tokens node
  | union {phrases : List Phrase} (hLength : 2 ≤ phrases.length)
      (h : ∀ phrase ∈ phrases, Derives .intersection phrase.tokens phrase.tree) :
      Derives .union (joined .bar phrases) (.union (phrases.map Phrase.tree))
  | type {tokens : List Token} {node : Spelled} (h : Derives .union tokens node) :
      Derives .argument tokens node
  | list {row : List Token} {phrases : List Phrase}
      (h : ∀ phrase ∈ phrases, Derives .union phrase.tokens phrase.tree)
      (hRow : IsRow phrases row) :
      Derives .argument (.openBracket :: row ++ [.closeBracket])
        (.list (phrases.map Phrase.tree))

def AllDerive (symbol : Symbol) (phrases : List Phrase) : Prop :=
  ∀ phrase ∈ phrases, Derives symbol phrase.tokens phrase.tree

/-- Phrases in the order in which a state holds their trees, latest first. -/
def trees (phrases : List Phrase) : List Spelled :=
  (phrases.map Phrase.tree).reverse

/-- Phrases with a separator behind each of them. -/
def ended (separator : Token) (phrases : List Phrase) : List Token :=
  phrases.flatMap fun phrase => phrase.tokens ++ [separator]

section Phrases

variable {symbol : Symbol} {phrases : List Phrase} {separator : Token}

theorem AllDerive.nil : AllDerive symbol [] :=
  List.forall_mem_nil _

theorem AllDerive.concat {tokens : List Token} {node : Spelled} (h : AllDerive symbol phrases)
    (hLast : Derives symbol tokens node) : AllDerive symbol (phrases ++ [⟨tokens, node⟩]) :=
  List.forall_mem_append.2 ⟨h, List.forall_mem_singleton.2 hLast⟩

theorem trees_concat (phrases : List Phrase) (phrase : Phrase) :
    trees (phrases ++ [phrase]) = phrase.tree :: trees phrases := by
  rw [trees, List.map_append, List.reverse_append]
  rfl

theorem ended_concat (separator : Token) (phrases : List Phrase) (phrase : Phrase) :
    ended separator (phrases ++ [phrase])
      = ended separator phrases ++ phrase.tokens ++ [separator] := by
  rw [ended, List.flatMap_append, List.flatMap_singleton, List.append_assoc]
  rfl

theorem joined_concat (separator : Token) (phrases : List Phrase) (phrase : Phrase) :
    joined separator (phrases ++ [phrase]) = ended separator phrases ++ phrase.tokens := by
  cases phrases with
  | nil => exact List.append_nil _
  | cons first others =>
    have hShift : (others.flatMap fun phrase => separator :: phrase.tokens) ++ [separator]
        = separator :: ended separator others := by
      induction others with
      | nil => rfl
      | cons next others ih =>
        rw [List.flatMap_cons, List.append_assoc, ih]
        simp [ended]
    calc joined separator (first :: others ++ [phrase])
        = first.tokens ++ ((others.flatMap fun phrase => separator :: phrase.tokens)
            ++ [separator]) ++ phrase.tokens := by simp [joined]
      _ = ended separator (first :: others) ++ phrase.tokens := by
          rw [hShift]
          simp [ended]

theorem isRow_ended (phrases : List Phrase) : IsRow phrases (ended .comma phrases) := by
  rcases List.eq_nil_or_concat' phrases with rfl | ⟨phrases, last, rfl⟩
  · exact .plain
  · have hTrailing : ended .comma (phrases ++ [last])
        = joined .comma (phrases ++ [last]) ++ [.comma] := by
      rw [joined_concat, ended_concat]
    rw [hTrailing]
    exact .trailing (List.append_ne_nil_of_right_ne_nil _ (List.cons_ne_nil _ _))

theorem AllDerive.intersection {tokens : List Token} {node : Spelled} {members : List Spelled}
    (h : AllDerive .operand phrases) (hLast : Derives .operand tokens node) :
    Derives .intersection (ended .ampersand phrases ++ tokens)
      (Level.intersection ⟨members, trees phrases⟩ node) := by
  have hAll := h.concat hLast
  have hTrees := trees_concat phrases ⟨tokens, node⟩
  rw [← joined_concat .ampersand phrases ⟨tokens, node⟩, Level.intersection, ← hTrees, trees,
    List.reverse_reverse]
  match phrases with
  | [] => simpa [joined, Level.join] using Derives.operand hLast
  | [_] | _ :: _ :: _ => exact .intersection (by simp) hAll

theorem AllDerive.union {tokens : List Token} {node : Spelled}
    (h : AllDerive .intersection phrases) (hLast : Derives .intersection tokens node) :
    Derives .union (ended .bar phrases ++ tokens)
      (Level.join .union (node :: trees phrases).reverse) := by
  have hAll := h.concat hLast
  have hTrees := trees_concat phrases ⟨tokens, node⟩
  rw [← joined_concat .bar phrases ⟨tokens, node⟩, ← hTrees, trees, List.reverse_reverse]
  match phrases with
  | [] => simpa [joined, Level.join] using Derives.member hLast
  | [_] | _ :: _ :: _ => exact .union (by simp) hAll

end Phrases

/-! ## What a state has read -/

/-- Tokens in front of the current operand at one level: members of a union, then operands of an
intersection, each with its separator. -/
inductive IsLevel : Level → List Token → Prop where
  | of {members operands : List Phrase} (hMembers : AllDerive .intersection members)
      (hOperands : AllDerive .operand operands) :
      IsLevel ⟨trees members, trees operands⟩ (ended .bar members ++ ended .ampersand operands)

/-- The phrases that are complete in a bracket, each with its comma. -/
inductive IsFilled (symbol : Symbol) : List Spelled → List Token → Prop where
  | of {phrases : List Phrase} (h : AllDerive symbol phrases) :
      IsFilled symbol (trees phrases) (ended .comma phrases)

/-- The tokens up to the innermost open bracket, and those of what is complete inside it. -/
inductive AreOpen : List Bracket → List Token → Prop where
  | nil : AreOpen [] []
  | paren {brackets : List Bracket} {outside : Level} {before level : List Token}
      (h : AreOpen brackets before) (hLevel : IsLevel outside level) :
      AreOpen (.paren outside :: brackets) (before ++ level ++ [.openParen])
  | arguments {brackets : List Bracket} {outside : Level} {before level name filled : List Token}
      {origin : String} {complete : List Spelled} (h : AreOpen brackets before)
      (hLevel : IsLevel outside level) (hName : IsName name origin)
      (hFilled : IsFilled .argument complete filled) :
      AreOpen (.arguments outside origin complete :: brackets)
        (before ++ level ++ name ++ .openBracket :: filled)
  | list {brackets : List Bracket} {outside : Level} {origin : String}
      {arguments items : List Spelled} {before filled : List Token}
      (h : AreOpen (.arguments outside origin arguments :: brackets) before)
      (hFilled : IsFilled .union items filled) :
      AreOpen (.list items :: .arguments outside origin arguments :: brackets)
        (before ++ .openBracket :: filled)

inductive IsPart : Operand → List Token → Prop where
  | missing : IsPart .missing []
  | name {tokens : List Token} {dotted : String} (h : IsName tokens dotted) :
      IsPart (.name dotted) tokens
  | openName {tokens : List Token} {dotted : String} (h : IsName tokens dotted) :
      IsPart (.openName dotted) (tokens ++ [.point])
  | complete {tokens : List Token} {node : Spelled} (h : Derives .operand tokens node) :
      IsPart (.complete node) tokens
  | argument {tokens : List Token} {node : Spelled} (h : Derives .argument tokens node) :
      IsPart (.argument node) tokens

/-- The tokens behind which a state stands. A whole argument stands at the start of its bracket's
level. -/
inductive HasRead : State → List Token → Prop where
  | of {brackets : List Bracket} {level : Level} {operand : Operand}
      {before between part : List Token} (hOpen : AreOpen brackets before)
      (hLevel : IsLevel level between) (hPart : IsPart operand part)
      (hWhole : ∀ node, operand = .argument node → between = []) :
      HasRead ⟨brackets, level, operand⟩ (before ++ between ++ part)

theorem IsLevel.nil : IsLevel .empty [] :=
  .of AllDerive.nil AllDerive.nil

theorem trees_eq_nil {phrases : List Phrase} (h : trees phrases = []) : phrases = [] :=
  List.map_eq_nil_iff.1 (List.reverse_eq_nil_iff.1 h)

theorem IsLevel.eq_nil {level : Level} {tokens : List Token} (h : IsLevel level tokens)
    (hEmpty : level.isEmpty = true) : tokens = [] := by
  cases h with
  | of hMembers hOperands =>
    rename_i members operands
    rw [Level.isEmpty, Bool.and_eq_true, List.isEmpty_iff, List.isEmpty_iff] at hEmpty
    rw [trees_eq_nil hEmpty.1, trees_eq_nil hEmpty.2]
    rfl

section Steps

variable {brackets : List Bracket} {level : Level} {node : Spelled}
  {before between part : List Token}

theorem IsLevel.intersection (h : IsLevel level between) (hNode : Derives .operand part node) :
    ∃ members operands, AllDerive .intersection members ∧
      between = ended .bar members ++ operands ∧ level.members = trees members ∧
      Derives .intersection (operands ++ part) (level.intersection node) := by
  cases h with
  | of hMembers hOperands =>
    exact ⟨_, _, hMembers, rfl, rfl, hOperands.intersection hNode⟩

theorem IsLevel.union (h : IsLevel level between) (hNode : Derives .operand part node) :
    Derives .union (between ++ part) (level.union node) := by
  obtain ⟨members, operands, hMembers, rfl, hTrees, hLast⟩ := h.intersection hNode
  rw [List.append_assoc, Level.union, hTrees]
  exact hMembers.union hLast

theorem IsLevel.ampersand (h : IsLevel level between) (hNode : Derives .operand part node) :
    IsLevel ⟨level.members, node :: level.operands⟩ (between ++ part ++ [.ampersand]) := by
  cases h with
  | of hMembers hOperands =>
    have hMore := IsLevel.of hMembers (hOperands.concat hNode)
    rw [trees_concat, ended_concat, ← List.append_assoc, ← List.append_assoc] at hMore
    exact hMore

theorem IsLevel.bar (h : IsLevel level between) (hNode : Derives .operand part node) :
    IsLevel ⟨level.intersection node :: level.members, []⟩ (between ++ part ++ [.bar]) := by
  obtain ⟨members, operands, hMembers, rfl, hTrees, hLast⟩ := h.intersection hNode
  have hMore := IsLevel.of (hMembers.concat hLast) AllDerive.nil
  rw [trees_concat, ended_concat] at hMore
  rw [hTrees]
  simpa [ended, trees] using hMore

theorem HasRead.missing (hOpen : AreOpen brackets before) (hLevel : IsLevel level between) :
    HasRead ⟨brackets, level, .missing⟩ (before ++ between) := by
  have hRead := HasRead.of hOpen hLevel .missing nofun
  rwa [List.append_nil] at hRead

/-- Phrases that may stand between brackets, in order. -/
def IsInside (symbol : Symbol) (nodes : List Spelled) (row : List Token) : Prop :=
  ∃ phrases, AllDerive symbol phrases ∧ nodes = phrases.map Phrase.tree ∧ IsRow phrases row

section Filled

variable {symbol : Symbol} {complete : List Spelled} {filled : List Token}

theorem IsFilled.nil : IsFilled symbol [] [] :=
  .of AllDerive.nil

theorem IsFilled.comma (h : IsFilled symbol complete filled) (hNode : Derives symbol part node) :
    IsFilled symbol (node :: complete) (filled ++ part ++ [.comma]) := by
  cases h with
  | of h =>
    have hMore := IsFilled.of (h.concat hNode)
    rwa [trees_concat, ended_concat] at hMore

theorem IsFilled.inside (h : IsFilled symbol complete filled) :
    IsInside symbol complete.reverse filled := by
  cases h with
  | of h => exact ⟨_, h, List.reverse_reverse _, isRow_ended _⟩

theorem IsFilled.inside_concat (h : IsFilled symbol complete filled)
    (hNode : Derives symbol part node) :
    IsInside symbol (node :: complete).reverse (filled ++ part) := by
  cases h with
  | of h =>
    refine ⟨_, h.concat hNode, ?_, ?_⟩
    · rw [trees, List.reverse_cons, List.reverse_reverse, List.map_append]
      rfl
    · rw [← joined_concat .comma _ ⟨part, node⟩]
      exact .plain

theorem IsInside.subscript {nodes : List Spelled} {row name : List Token} {origin : String}
    (h : IsInside .argument nodes row) (hName : IsName name origin) :
    Derives .operand (name ++ .openBracket :: row ++ [.closeBracket])
      (.subscript origin nodes) := by
  obtain ⟨phrases, hAll, rfl, hRow⟩ := h
  exact .subscript hName hAll hRow

theorem IsInside.list {nodes : List Spelled} {row : List Token} (h : IsInside .union nodes row) :
    Derives .argument (.openBracket :: row ++ [.closeBracket]) (.list nodes) := by
  obtain ⟨phrases, hAll, rfl, hRow⟩ := h
  exact .list hAll hRow

end Filled

/-- A comma or a closing bracket behind an argument. -/
theorem AreOpen.after_argument {outside : Level} {origin : String} {complete : List Spelled}
    (h : AreOpen (.arguments outside origin complete :: brackets) before)
    (hNode : Derives .argument part node) :
    AreOpen (.arguments outside origin (node :: complete) :: brackets)
        (before ++ part ++ [.comma]) ∧
      HasRead ⟨brackets, outside, .complete (.subscript origin (node :: complete).reverse)⟩
        (before ++ part ++ [.closeBracket]) := by
  cases h with
  | arguments h hLevel hName hFilled =>
    have hComma := AreOpen.arguments h hLevel hName (hFilled.comma hNode)
    have hClose := HasRead.of h hLevel
      (.complete ((hFilled.inside_concat hNode).subscript hName)) nofun
    simp only [List.append_assoc, List.cons_append] at hComma hClose ⊢
    exact ⟨hComma, hClose⟩

/-- A comma or a closing bracket behind an item of a list. -/
theorem AreOpen.after_item {complete : List Spelled}
    (h : AreOpen (.list complete :: brackets) before) (hNode : Derives .union part node) :
    AreOpen (.list (node :: complete) :: brackets) (before ++ part ++ [.comma]) ∧
      HasRead ⟨brackets, .empty, .argument (.list (node :: complete).reverse)⟩
        (before ++ part ++ [.closeBracket]) := by
  cases h with
  | list h hFilled =>
    have hComma := AreOpen.list h (hFilled.comma hNode)
    have hClose := HasRead.of h IsLevel.nil
      (.argument (hFilled.inside_concat hNode).list) fun _ _ => rfl
    simp only [List.append_assoc, List.cons_append, List.nil_append] at hComma hClose ⊢
    exact ⟨hComma, hClose⟩

theorem HasRead.closeEmpty {next : State} (hOpen : AreOpen brackets before)
    (h : State.closeEmpty brackets = some next) : HasRead next (before ++ [.closeBracket]) := by
  cases hOpen with
  | nil | paren => cases h
  | arguments hOpen hLevel hName hFilled =>
    cases h
    have hClose := HasRead.of hOpen hLevel (.complete (hFilled.inside.subscript hName)) nofun
    simpa only [List.append_assoc, List.cons_append] using hClose
  | list hOpen hFilled =>
    cases h
    have hClose := HasRead.of hOpen IsLevel.nil (.argument hFilled.inside.list) fun _ _ => rfl
    simpa only [List.append_assoc, List.cons_append, List.nil_append] using hClose

theorem HasRead.continueAfter {token : Token} {next : State} (hOpen : AreOpen brackets before)
    (hLevel : IsLevel level between) (hNode : Derives .operand part node)
    (h : State.continueAfter brackets level node token = some next) :
    HasRead next (before ++ between ++ part ++ [token]) := by
  have hUnion := hLevel.union hNode
  rw [List.append_assoc before]
  cases token with
  | ampersand =>
    cases h
    rw [List.append_assoc]
    exact .missing hOpen (hLevel.ampersand hNode)
  | bar =>
    cases h
    rw [List.append_assoc]
    exact .missing hOpen (hLevel.bar hNode)
  | comma =>
    cases hOpen with
    | nil | paren => cases h
    | arguments hOpen hOutside hName hFilled =>
      cases h
      have hMore := (AreOpen.arguments hOpen hOutside hName hFilled).after_argument (.type hUnion)
      simpa using HasRead.missing hMore.1 .nil
    | list hOpen hFilled =>
      cases h
      have hMore := (AreOpen.list hOpen hFilled).after_item hUnion
      simpa using HasRead.missing hMore.1 .nil
  | closeParen =>
    cases hOpen with
    | nil | arguments | list => cases h
    | paren hOpen hOutside =>
      cases h
      have hClose := HasRead.of hOpen hOutside (.complete (.parentheses hUnion)) nofun
      simpa using hClose
  | closeBracket =>
    cases hOpen with
    | nil | paren => cases h
    | arguments hOpen hOutside hName hFilled =>
      cases h
      exact ((AreOpen.arguments hOpen hOutside hName hFilled).after_argument (.type hUnion)).2
    | list hOpen hFilled =>
      cases h
      exact ((AreOpen.list hOpen hFilled).after_item hUnion).2
  | _ => cases h

/-- A token where an operand can start. -/
theorem HasRead.read_missing {token : Token} {next : State} (hOpen : AreOpen brackets before)
    (hLevel : IsLevel level between)
    (hRead : State.read ⟨brackets, level, .missing⟩ token = some next) :
    HasRead next (before ++ between ++ [token]) := by
  cases token with
  | name s =>
    cases hRead
    exact HasRead.of hOpen hLevel (.name (.one s)) nofun
  | literal spelling =>
    cases hRead
    exact HasRead.of hOpen hLevel (.complete (.literal spelling)) nofun
  | dots =>
    cases hRead
    exact HasRead.of hOpen hLevel (.complete .dots) nofun
  | openParen =>
    cases hRead
    simpa using HasRead.missing (.paren hOpen hLevel) .nil
  | openBracket =>
    cases hOpen with
    | nil | paren | list => cases hRead
    | arguments hOpen hOutside hName hFilled =>
      rw [State.read] at hRead
      split at hRead
      next hEmpty =>
        cases hRead
        rw [hLevel.eq_nil hEmpty]
        have hList := AreOpen.list (.arguments hOpen hOutside hName hFilled) .nil
        simpa using HasRead.missing hList .nil
      next => cases hRead
  | closeBracket =>
    rw [State.read] at hRead
    split at hRead
    next hEmpty =>
      rw [hLevel.eq_nil hEmpty, List.append_nil]
      exact HasRead.closeEmpty hOpen hRead
    next => cases hRead
  | _ => cases hRead

/-- A token behind a whole argument: it ends the argument or the list of arguments. -/
theorem HasRead.read_argument {token : Token} {next : State} (hOpen : AreOpen brackets before)
    (hNode : Derives .argument part node)
    (hRead : State.read ⟨brackets, level, .argument node⟩ token = some next) :
    HasRead next (before ++ part ++ [token]) := by
  cases token with
  | comma =>
    cases hOpen with
    | nil | paren | list => cases hRead
    | arguments hOpen hOutside hName hFilled =>
      cases hRead
      have hMore := (AreOpen.arguments hOpen hOutside hName hFilled).after_argument hNode
      simpa using HasRead.missing hMore.1 .nil
  | closeBracket =>
    cases hOpen with
    | nil | paren | list => cases hRead
    | arguments hOpen hOutside hName hFilled =>
      cases hRead
      exact ((AreOpen.arguments hOpen hOutside hName hFilled).after_argument hNode).2
  | _ => cases hRead

end Steps

/-- One token more. -/
theorem HasRead.read {state next : State} {tokens : List Token} {token : Token}
    (h : HasRead state tokens) (hRead : state.read token = some next) :
    HasRead next (tokens ++ [token]) := by
  cases h with
  | of hOpen hLevel hPart hWhole =>
  cases hPart with
  | missing =>
    rw [List.append_nil]
    exact HasRead.read_missing hOpen hLevel hRead
  | openName hName =>
    cases token with
    | name s =>
      cases hRead
      simpa using HasRead.of hOpen hLevel (.name (hName.more s)) nofun
    | _ => cases hRead
  | name hName =>
    cases token with
    | point =>
      cases hRead
      simpa using HasRead.of hOpen hLevel (.openName hName) nofun
    | openBracket =>
      cases hRead
      simpa using HasRead.missing (.arguments hOpen hLevel hName .nil) .nil
    | _ => exact HasRead.continueAfter hOpen hLevel (.name hName) hRead
  | complete hNode => exact HasRead.continueAfter hOpen hLevel hNode hRead
  | argument hNode =>
    rw [hWhole _ rfl, List.append_nil]
    exact HasRead.read_argument hOpen hNode hRead

theorem HasRead.run {state next : State} {tokens more : List Token} (h : HasRead state tokens)
    (hRun : more.foldlM State.read state = some next) : HasRead next (tokens ++ more) := by
  induction more generalizing state tokens with
  | nil =>
    cases hRun
    rwa [List.append_nil]
  | cons token more ih =>
    obtain ⟨middle, hRead, hRest⟩ := Option.bind_eq_some_iff.1 hRun
    rw [List.append_cons]
    exact ih (h.read hRead) hRest

/-- What the machine accepts can be derived. -/
theorem derives_of_ofTokens? {tokens : List Token} {node : Spelled}
    (h : ofTokens? tokens = some node) : Derives .union tokens node := by
  obtain ⟨state, hRun, hFinish⟩ := Option.bind_eq_some_iff.1 h
  have hInitial : HasRead State.initial [] := HasRead.missing .nil .nil
  have hRead := hInitial.run hRun
  rw [List.nil_append] at hRead
  cases hRead with
  | of hOpen hLevel hPart hWhole =>
  cases hOpen with
  | nil =>
    cases hPart with
    | name hName =>
      cases hFinish
      exact hLevel.union (.name hName)
    | complete hNode =>
      cases hFinish
      exact hLevel.union hNode
    | missing | openName | argument => cases hFinish
  | paren | arguments | list => cases hFinish

end Interpose.HintText

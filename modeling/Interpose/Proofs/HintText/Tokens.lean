import Interpose.Proofs.HintText.Derived
import Interpose.Proofs.Text.Cutting

/-! # The tokens of a tree

Each tree that has a notation is written as a sequence of tokens, with parentheses only where a
union or an intersection stands inside another one. These tokens derive the tree, so that reading
them gives it back.
-/
namespace Interpose

set_option autoImplicit false

namespace HintText

/-! ## Trees that have a notation -/

namespace Node

def IsIdentifier : List Char → Prop
  | [] => False
  | c :: cs => isNameStart c = true ∧ cs.all isNameRest = true

def IsDotted (dotted : String) : Prop :=
  ∀ part ∈ Text.cutAll '.' dotted.toList, IsIdentifier part

instance : DecidablePred IsIdentifier
  | [] => isFalse id
  | c :: cs => inferInstanceAs (Decidable (isNameStart c = true ∧ cs.all isNameRest = true))

instance : DecidablePred IsDotted := fun dotted =>
  inferInstanceAs (Decidable (∀ part ∈ Text.cutAll '.' dotted.toList, IsIdentifier part))

theorem isDotted_append {front back : String} (hFront : IsDotted front) (hBack : IsDotted back) :
    IsDotted (front ++ "." ++ back) := by
  intro part hMem
  have hChars : (front ++ "." ++ back).toList = front.toList ++ '.' :: back.toList := by
    rw [String.toList_append, String.toList_append, List.append_assoc]
    rfl
  rw [hChars, Text.cutAll_append] at hMem
  rcases List.mem_append.1 hMem with h | h
  · exact hFront part h
  · exact hBack part h

mutual

/-- Whether a tree has a notation, given which leaves have one. A union or an intersection has at
least two members, and a list stands only among the arguments of a subscript. -/
def IsHint {α : Type} (isLeaf : α → Prop) (mayBeList : Bool) : Node α → Prop
  | .name dotted => IsDotted dotted
  | .subscript origin arguments => IsDotted origin ∧ AreHints isLeaf true arguments
  | .union members | .intersection members => 2 ≤ members.length ∧ AreHints isLeaf false members
  | .list items => mayBeList = true ∧ AreHints isLeaf false items
  | .literal leaf => isLeaf leaf
  | .ellipsis => True

def AreHints {α : Type} (isLeaf : α → Prop) (mayBeList : Bool) : List (Node α) → Prop
  | [] => True
  | node :: nodes => IsHint isLeaf mayBeList node ∧ AreHints isLeaf mayBeList nodes

end

theorem areHints_iff {α : Type} {isLeaf : α → Prop} {mayBeList : Bool} {nodes : List (Node α)} :
    AreHints isLeaf mayBeList nodes ↔ ∀ node ∈ nodes, IsHint isLeaf mayBeList node := by
  induction nodes with
  | nil => exact ⟨fun _ => List.forall_mem_nil _, fun _ => trivial⟩
  | cons node nodes ih => rw [List.forall_mem_cons, ← ih]; rfl

theorem IsHint.mono {α : Type} {isLeaf : α → Prop} {node : Node α} {mayBeList : Bool}
    (h : node.IsHint isLeaf false) : node.IsHint isLeaf mayBeList := by
  cases node with
  | list items => exact absurd h.1 (by decide)
  | _ => exact h

theorem length_mapAllLeaves? {α β : Type} {read : α → Option β} {nodes : List (Node α)}
    {results : List (Node β)} (h : mapAllLeaves? read nodes = some results) :
    results.length = nodes.length := by
  induction nodes generalizing results with
  | nil =>
    cases h
    rfl
  | cons node nodes ih =>
    obtain ⟨result, -, h⟩ := Option.bind_eq_some_iff.1 h
    obtain ⟨results, hResults, ⟨⟩⟩ := Option.bind_eq_some_iff.1 h
    rw [List.length_cons, List.length_cons, ih hResults]

mutual

/-- A tree keeps its notation when its literals are read. -/
theorem IsHint.of_mapLeaves? {α β : Type} {read : α → Option β} {isLeaf : α → Prop}
    {isLeaf' : β → Prop} (hRead : ∀ a b, read a = some b → isLeaf a → isLeaf' b)
    {mayBeList : Bool} (node : Node α) {result : Node β} (h : mapLeaves? read node = some result)
    (hHint : node.IsHint isLeaf mayBeList) : result.IsHint isLeaf' mayBeList := by
  cases node with
  | name _ | ellipsis =>
    cases h
    exact hHint
  | literal leaf =>
    obtain ⟨value, hValue, rfl⟩ := Option.map_eq_some_iff.1 h
    exact hRead leaf value hValue hHint
  | subscript origin nodes | list nodes =>
    obtain ⟨results, hResults, rfl⟩ := Option.map_eq_some_iff.1 h
    exact ⟨hHint.1, AreHints.of_mapAllLeaves? hRead nodes hResults hHint.2⟩
  | union nodes | intersection nodes =>
    obtain ⟨results, hResults, rfl⟩ := Option.map_eq_some_iff.1 h
    exact ⟨length_mapAllLeaves? hResults ▸ hHint.1,
      AreHints.of_mapAllLeaves? hRead nodes hResults hHint.2⟩

theorem AreHints.of_mapAllLeaves? {α β : Type} {read : α → Option β} {isLeaf : α → Prop}
    {isLeaf' : β → Prop} (hRead : ∀ a b, read a = some b → isLeaf a → isLeaf' b)
    {mayBeList : Bool} (nodes : List (Node α)) {results : List (Node β)}
    (h : mapAllLeaves? read nodes = some results) (hHints : AreHints isLeaf mayBeList nodes) :
    AreHints isLeaf' mayBeList results := by
  cases nodes with
  | nil =>
    cases h
    trivial
  | cons node nodes =>
    obtain ⟨result, hResult, h⟩ := Option.bind_eq_some_iff.1 h
    obtain ⟨results, hResults, ⟨⟩⟩ := Option.bind_eq_some_iff.1 h
    exact ⟨IsHint.of_mapLeaves? hRead node hResult hHints.1,
      AreHints.of_mapAllLeaves? hRead nodes hResults hHints.2⟩

end

end Node

/-! ## Tokens -/

/-- How tightly the surroundings bind: what stands between bars, between ampersands, or needs to be
a single operand. -/
inductive Position where
  | whole
  | member
  | operand
  deriving DecidableEq, Repr

def nameTokens (dotted : String) : List Token :=
  match Text.dottedParts dotted with
  | [] => []
  | part :: parts => .name part :: parts.flatMap fun part => [.point, .name part]

def enclosed (isNeeded : Bool) (tokens : List Token) : List Token :=
  if isNeeded then .openParen :: tokens ++ [.closeParen] else tokens

mutual

def tokens (position : Position) : Spelled → List Token
  | .name dotted => nameTokens dotted
  | .subscript origin arguments =>
    nameTokens origin ++ .openBracket :: separated .comma .whole arguments ++ [.closeBracket]
  | .union members => enclosed (position ≠ .whole) (separated .bar .member members)
  | .intersection members => enclosed (position = .operand) (separated .ampersand .operand members)
  | .list items => .openBracket :: separated .comma .whole items ++ [.closeBracket]
  | .literal spelling => [.literal spelling]
  | .ellipsis => [.dots]

def separated (separator : Token) (position : Position) : List Spelled → List Token
  | [] => []
  | node :: nodes => tokens position node ++ followers separator position nodes

def followers (separator : Token) (position : Position) : List Spelled → List Token
  | [] => []
  | node :: nodes => separator :: tokens position node ++ followers separator position nodes

end

/-! ## Their derivations -/

def phrases (position : Position) (nodes : List Spelled) : List Phrase :=
  nodes.map fun node => ⟨tokens position node, node⟩

theorem map_tree_phrases (position : Position) (nodes : List Spelled) :
    (phrases position nodes).map Phrase.tree = nodes := by
  rw [phrases, List.map_map]
  exact List.map_id nodes

theorem length_phrases (position : Position) (nodes : List Spelled) :
    (phrases position nodes).length = nodes.length :=
  List.length_map _

theorem followers_eq_flatMap (separator : Token) (position : Position) (nodes : List Spelled) :
    followers separator position nodes
      = (phrases position nodes).flatMap fun phrase => separator :: phrase.tokens := by
  induction nodes with
  | nil => rfl
  | cons node nodes ih =>
    rw [followers, ih]
    rfl

theorem separated_eq_joined (separator : Token) (position : Position) (nodes : List Spelled) :
    separated separator position nodes = joined separator (phrases position nodes) := by
  cases nodes with
  | nil => rfl
  | cons node nodes =>
    rw [separated, followers_eq_flatMap]
    rfl

theorem isName_furtherParts (parts : List String) {tokens : List Token} {dotted : String}
    (h : IsName tokens dotted) :
    IsName (tokens ++ parts.flatMap fun part => [.point, .name part])
      (parts.foldl (fun before part => before ++ "." ++ part) dotted) := by
  induction parts generalizing tokens dotted with
  | nil => rwa [List.flatMap_nil, List.append_nil]
  | cons part parts ih =>
    have hMore := ih (h.more part)
    rwa [List.append_assoc] at hMore

theorem toList_foldl_dotted (parts : List String) (dotted : String) :
    (parts.foldl (fun before part => before ++ "." ++ part) dotted).toList
      = dotted.toList ++ parts.flatMap fun part => '.' :: part.toList := by
  induction parts generalizing dotted with
  | nil => simp
  | cons part parts ih =>
    rw [List.foldl_cons, ih, List.flatMap_cons]
    simp

theorem isName_nameTokens (dotted : String) : IsName (nameTokens dotted) dotted := by
  obtain ⟨part, parts, hCut, hJoin⟩ := Text.join_cutAll '.' dotted.toList
  have hTokens : nameTokens dotted
      = [.name (String.ofList part)] ++ (parts.map String.ofList).flatMap
          fun part => [.point, .name part] := by
    rw [nameTokens, Text.dottedParts, hCut]
    rfl
  have hName : (parts.map String.ofList).foldl (fun before part => before ++ "." ++ part)
      (String.ofList part) = dotted := by
    rw [← String.toList_inj, toList_foldl_dotted, String.toList_ofList, List.flatMap_map]
    simpa using hJoin
  have hParts := isName_furtherParts (parts.map String.ofList) (.one (String.ofList part))
  rwa [← hTokens, hName] at hParts

/-- Whether the tokens of a tree derive it, at each position that it may stand at. -/
structure IsDerived (node : Spelled) : Prop where
  operand : Derives .operand (tokens .operand node) node
  member : Derives .intersection (tokens .member node) node
  whole : Derives .union (tokens .whole node) node

theorem IsDerived.of_operand {node : Spelled}
    (hMember : tokens .member node = tokens .operand node)
    (hWhole : tokens .whole node = tokens .operand node)
    (h : Derives .operand (tokens .operand node) node) : IsDerived node where
  operand := h
  member := hMember ▸ .operand h
  whole := hWhole ▸ .member (.operand h)

theorem derives_enclosed {inner : List Token} {node : Spelled} (h : Derives .union inner node)
    {isNeeded : Bool} (hNeeded : isNeeded = true) :
    Derives .operand (enclosed isNeeded inner) node := by
  rw [enclosed, if_pos hNeeded]
  exact .parentheses h

theorem forall_mem_phrases {symbol : Symbol} (position : Position) {nodes : List Spelled}
    (h : ∀ node ∈ nodes, Derives symbol (tokens position node) node) :
    ∀ phrase ∈ phrases position nodes, Derives symbol phrase.tokens phrase.tree := by
  intro phrase hMem
  obtain ⟨node, hNode, rfl⟩ := List.mem_map.1 hMem
  exact h node hNode

theorem IsDerived.intersection {nodes : List Spelled} (h : ∀ node ∈ nodes, IsDerived node)
    (hLength : 2 ≤ nodes.length) : IsDerived (.intersection nodes) := by
  have hJoined : Derives .intersection (separated .ampersand .operand nodes)
      (.intersection nodes) := by
    have hAll := Derives.intersection (length_phrases .operand nodes ▸ hLength)
      (forall_mem_phrases _ fun node hNode => (h node hNode).operand)
    rwa [map_tree_phrases, ← separated_eq_joined] at hAll
  exact ⟨derives_enclosed (.member hJoined) rfl, hJoined, .member hJoined⟩

theorem IsDerived.union {nodes : List Spelled} (h : ∀ node ∈ nodes, IsDerived node)
    (hLength : 2 ≤ nodes.length) : IsDerived (.union nodes) := by
  have hJoined : Derives .union (separated .bar .member nodes) (.union nodes) := by
    have hAll := Derives.union (length_phrases .member nodes ▸ hLength)
      (forall_mem_phrases _ fun node hNode => (h node hNode).member)
    rwa [map_tree_phrases, ← separated_eq_joined] at hAll
  exact ⟨derives_enclosed hJoined rfl, .operand (derives_enclosed hJoined rfl), hJoined⟩

theorem derives_list {nodes : List Spelled} (h : ∀ node ∈ nodes, IsDerived node) :
    Derives .argument (tokens .whole (.list nodes)) (.list nodes) := by
  have hAll := Derives.list
    (forall_mem_phrases .whole fun node hNode => (h node hNode).whole) .plain
  rwa [map_tree_phrases, ← separated_eq_joined] at hAll

theorem IsDerived.subscript {nodes : List Spelled} (origin : String)
    (h : ∀ node ∈ nodes, Derives .argument (tokens .whole node) node) :
    IsDerived (.subscript origin nodes) := by
  refine .of_operand rfl rfl ?_
  have hAll := Derives.subscript (isName_nameTokens origin) (forall_mem_phrases _ h) .plain
  rwa [map_tree_phrases, ← separated_eq_joined] at hAll

mutual

theorem isDerived_of_isHint (isLeaf : Spelling → Prop) (node : Spelled)
    (h : node.IsHint isLeaf false) : IsDerived node := by
  cases node with
  | name dotted => exact .of_operand rfl rfl (.name (isName_nameTokens dotted))
  | literal spelling => exact .of_operand rfl rfl (.literal spelling)
  | ellipsis => exact .of_operand rfl rfl .dots
  | list items => exact absurd h.1 (by decide)
  | union members => exact .union (isDerived_of_areHints isLeaf members h.2) h.1
  | intersection members => exact .intersection (isDerived_of_areHints isLeaf members h.2) h.1
  | subscript origin arguments => exact .subscript origin (derives_arguments isLeaf arguments h.2)

theorem isDerived_of_areHints (isLeaf : Spelling → Prop) (nodes : List Spelled)
    (h : Node.AreHints isLeaf false nodes) : ∀ node ∈ nodes, IsDerived node := by
  cases nodes with
  | nil => exact List.forall_mem_nil _
  | cons node nodes =>
    exact List.forall_mem_cons.2
      ⟨isDerived_of_isHint isLeaf node h.1, isDerived_of_areHints isLeaf nodes h.2⟩

theorem derives_arguments (isLeaf : Spelling → Prop) (nodes : List Spelled)
    (h : Node.AreHints isLeaf true nodes) :
    ∀ node ∈ nodes, Derives .argument (tokens .whole node) node := by
  cases nodes with
  | nil => exact List.forall_mem_nil _
  | cons node nodes =>
    refine List.forall_mem_cons.2 ⟨?_, derives_arguments isLeaf nodes h.2⟩
    cases node with
    | list items => exact derives_list (isDerived_of_areHints isLeaf items h.1.2)
    | name _ | literal _ | ellipsis | union _ | intersection _ | subscript _ _ =>
      refine .type (isDerived_of_isHint isLeaf _ ?_).whole
      exact h.1

end

/-- The tokens of a tree that has a notation are read as that tree. -/
theorem ofTokens?_tokens {isLeaf : Spelling → Prop} {node : Spelled}
    (h : node.IsHint isLeaf false) : ofTokens? (tokens .whole node) = some node :=
  ofTokens?_eq_some_iff.2 (isDerived_of_isHint isLeaf node h).whole

end HintText
end Interpose

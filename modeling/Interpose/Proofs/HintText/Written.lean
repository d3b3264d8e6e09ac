import Interpose.HintText.Reader
import Interpose.Proofs.HintText.Lexing

/-! # Annotations that are written are read back

A tree is written with a blank on both sides of a bar or an ampersand, a blank behind each comma,
and each literal in its notation. Reading such a text gives the tree back.
-/
namespace Interpose

set_option autoImplicit false

namespace Value

/-- Whether a value can be a literal of an annotation: a text, a finite floating-point number, or a
whole number that is not too long to be read. -/
def IsHintLiteral : Value → Prop
  | .str _ | .brokenStr _ => True
  | .int n => (Nat.toDigits 10 n.natAbs).length ≤ HintText.digitLimit
  | .float x => x.isFinite = true
  | _ => False

end Value

namespace HintText

/-! ## Literals -/

theorem lexes_textLiteral {quote : Char} (h : Text.IsQuote quote) (points : List Text.CodePoint) :
    ∃ spelling : Spelling, spelling.read? = some (Value.ofCodePoints points) ∧
      Lexes (quote :: points.flatMap (Text.escapePoint quote) ++ [quote])
        [.literal spelling] := by
  refine ⟨.text (points.flatMap (Text.escapePoint quote)), ?_, lexes_quoted h points⟩
  rw [Spelling.read?, Text.unescape_forms h points, Option.map_some]

theorem EndsToken.endsNumber {rest : List Char} (h : EndsToken rest) :
    Decimal.EndsNumber rest :=
  Decimal.endsNumber_of_head (h.test_false (by decide))

theorem head_toDigits {n : Nat} (h : n ≠ 0) : (Nat.toDigits 10 n).head? ≠ some '0' := by
  induction n using Nat.strongRecOn with
  | ind n ih =>
    rw [Nat.toDigits_eq_if (by decide)]
    split
    next hSmall =>
      intro hHead
      exact h (Nat.digitChar_eq_zero.1 (Option.some.inj hHead))
    next hLarge =>
      have hTens := ih (n / 10) (by omega) (by omega)
      obtain ⟨c, cs, hCons⟩ :=
        List.exists_cons_of_ne_nil (Nat.toDigits_ne_nil (n := n / 10) (b := 10))
      rw [hCons] at hTens ⊢
      exact hTens

theorem readNumber_whole {n : Int}
    (h : (Nat.toDigits 10 n.natAbs).length ≤ digitLimit) :
    readNumber ⟨decide (n < 0), Nat.toDigits 10 n.natAbs, none, none⟩ = some (.int n) := by
  unfold readNumber
  by_cases hZero : n = 0
  · subst hZero
    rfl
  have hHead := head_toDigits (Int.natAbs_ne_zero.2 hZero)
  have hSome : ¬ (Nat.toDigits 10 n.natAbs).all (· == '0') = true := by
    intro hAll
    obtain ⟨c, cs, hCons⟩ :=
      List.exists_cons_of_ne_nil (Nat.toDigits_ne_nil (n := n.natAbs) (b := 10))
    rw [hCons] at hAll hHead
    rw [List.all_cons, Bool.and_eq_true, beq_iff_eq] at hAll
    exact hHead (congrArg some hAll.1)
  have hLimit : ¬ ((Nat.toDigits 10 n.natAbs).head? = some '0' ∨
      digitLimit < (Nat.toDigits 10 n.natAbs).length) := not_or.2 ⟨hHead, Nat.not_lt.2 h⟩
  simp only [Decimal.Numeral.isWhole, Option.isNone_none, Bool.and_self, Bool.not_true,
    Bool.false_eq_true, if_false, if_neg hSome, if_neg hLimit, Decimal.toInt_repr]

theorem lexes_literal {v : Value} (h : v.IsHintLiteral) :
    ∃ spelling : Spelling, spelling.read? = some v ∧
      Lexes v.text.toList [.literal spelling] := by
  cases v with
  | str s =>
    have hText := lexes_textLiteral (Text.isQuote_quoteFor s.toList) (s.toList.map .char)
    rw [Value.ofCodePoints_chars, List.flatMap_map] at hText
    rw [Value.text, Text.quote, String.toList_ofList]
    exact hText
  | brokenStr t =>
    have hText := lexes_textLiteral (Text.isQuote_quoteFor t.masked) t.points
    rw [Value.ofCodePoints_broken] at hText
    rw [Value.text, Text.quoteBroken, String.toList_ofList]
    exact hText
  | int n =>
    refine ⟨.number _, readNumber_whole h, fun rest hRest => ?_⟩
    exact tokens?_number (Decimal.takeNumber_repr n hRest.endsNumber)
  | float x =>
    cases x with
    | finite negative magnitude =>
      obtain ⟨n, hWhole, hBinary, hReads⟩ := Decimal.takeNumber_text negative magnitude
      refine ⟨.number n, ?_, fun rest hRest => tokens?_number (hReads rest hRest.endsNumber)⟩
      rw [Spelling.read?, readNumber, hWhole, hBinary]
      rfl
    | nan | infinite _ => exact absurd (show false = true from h) Bool.false_ne_true
  | _ => exact h.elim

/-! ## Trees -/

def parenthesized (isNeeded : Bool) (cs : List Char) : List Char :=
  if isNeeded then '(' :: cs ++ [')'] else cs

namespace Node

mutual

def chars (position : Position) : Node Value → List Char
  | .name dotted => dotted.toList
  | .subscript origin arguments =>
    origin.toList ++ '[' :: charsOf [',', ' '] .whole arguments ++ [']']
  | .union members => parenthesized (position ≠ .whole) (charsOf [' ', '|', ' '] .member members)
  | .intersection members =>
    parenthesized (position = .operand) (charsOf [' ', '&', ' '] .operand members)
  | .list items => '[' :: charsOf [',', ' '] .whole items ++ [']']
  | .literal v => v.text.toList
  | .ellipsis => ['.', '.', '.']

def charsOf (separator : List Char) (position : Position) : List (Node Value) → List Char
  | [] => []
  | node :: nodes => chars position node ++ charsBehind separator position nodes

def charsBehind (separator : List Char) (position : Position) : List (Node Value) → List Char
  | [] => []
  | node :: nodes => separator ++ chars position node ++ charsBehind separator position nodes

end

def written (node : Node Value) : String :=
  String.ofList (chars .whole node)

end Node

/-- Whether some characters are one token with blanks around it, the first of which ends the token
in front. -/
structure IsSeparator (separator : List Char) (token : Token) : Prop where
  lexes : ∀ rest, tokens? (separator ++ rest) = (tokens? rest).map (token :: ·)
  ends : ∀ rest, EndsToken (separator ++ rest)

theorem isSeparator_comma : IsSeparator [',', ' '] .comma where
  lexes rest := by
    have hMark := tokens?_mark (show (',', Token.comma) ∈ marks by decide) (' ' :: rest)
    rwa [tokens?_blank (show isBlank ' ' = true from rfl)] at hMark
  ends _ := List.mem_cons_of_mem _ List.mem_cons_self

theorem isSeparator_bar : IsSeparator [' ', '|', ' '] .bar where
  lexes rest := by
    have hMark := tokens?_mark (show ('|', Token.bar) ∈ marks by decide) (' ' :: rest)
    rw [tokens?_blank (show isBlank ' ' = true from rfl)] at hMark
    exact (tokens?_blank (show isBlank ' ' = true from rfl) _).trans hMark
  ends _ := List.mem_cons_self

theorem isSeparator_ampersand : IsSeparator [' ', '&', ' '] .ampersand where
  lexes rest := by
    have hMark := tokens?_mark (show ('&', Token.ampersand) ∈ marks by decide) (' ' :: rest)
    rw [tokens?_blank (show isBlank ' ' = true from rfl)] at hMark
    exact (tokens?_blank (show isBlank ' ' = true from rfl) _).trans hMark
  ends _ := List.mem_cons_self

theorem Lexes.parenthesized {cs : List Char} {ts : List Token} (h : Lexes cs ts)
    (isNeeded : Bool) : Lexes (parenthesized isNeeded cs) (enclosed isNeeded ts) := by
  cases isNeeded with
  | false => exact h
  | true =>
    refine Lexes.mark_cons (by decide) ?_
    refine h.append (Lexes.mark (by decide)) fun rest _ => ?_
    exact (show ')' ∈ tokenEnds by decide)

theorem IsSeparator.lexes_cons {separator cs : List Char} {token : Token} {ts : List Token}
    (hSeparator : IsSeparator separator token) (h : Lexes cs ts) :
    Lexes (separator ++ cs) (token :: ts) := by
  intro rest hRest
  rw [List.append_assoc, hSeparator.lexes, h rest hRest, Option.map_map]
  rfl

theorem lexes_bracketed {cs : List Char} {ts : List Token} (h : Lexes cs ts) :
    Lexes ('[' :: cs ++ [']']) (.openBracket :: ts ++ [.closeBracket]) := by
  refine Lexes.mark_cons (by decide) ?_
  refine h.append (Lexes.mark (by decide)) fun rest _ => ?_
  exact (show ']' ∈ tokenEnds by decide)

/-- Whether a spelled tree has a notation, is read as a tree, and has the tokens that the tree's
characters are cut into. -/
structure Spells (mayBeList : Bool) (spelled : Spelled) (node : Node Value) : Prop where
  read : Node.mapLeaves? Spelling.read? spelled = some node
  isHint : Node.IsHint (fun _ => True) mayBeList spelled
  lexes : ∀ position, Lexes (Node.chars position node) (tokens position spelled)

structure SpellsAll (mayBeList : Bool) (spelled : List Spelled) (nodes : List (Node Value)) :
    Prop where
  read : Node.mapAllLeaves? Spelling.read? spelled = some nodes
  areHints : Node.AreHints (fun _ => True) mayBeList spelled
  length : spelled.length = nodes.length
  between : ∀ separator token, IsSeparator separator token → ∀ position,
    Lexes (Node.charsOf separator position nodes) (separated token position spelled)
  behind : ∀ separator token, IsSeparator separator token → ∀ position,
    Lexes (Node.charsBehind separator position nodes) (followers token position spelled)

theorem Node.charsBehind_ends {separator : List Char} {token : Token}
    (h : IsSeparator separator token) (position : Position) (nodes : List (Node Value))
    (rest : List Char) (hRest : EndsToken rest) :
    EndsToken (Node.charsBehind separator position nodes ++ rest) := by
  cases nodes with
  | nil => exact hRest
  | cons node nodes =>
    rw [Node.charsBehind, List.append_assoc, List.append_assoc]
    exact h.ends _

theorem SpellsAll.nil (mayBeList : Bool) : SpellsAll mayBeList [] [] where
  read := rfl
  areHints := trivial
  length := rfl
  between _ _ _ _ := Lexes.nil
  behind _ _ _ _ := Lexes.nil

theorem SpellsAll.cons {mayBeList : Bool} {spelled : Spelled} {node : Node Value}
    {more : List Spelled} {nodes : List (Node Value)} (h : Spells mayBeList spelled node)
    (hMore : SpellsAll mayBeList more nodes) :
    SpellsAll mayBeList (spelled :: more) (node :: nodes) where
  read := by rw [Node.mapAllLeaves?, h.read, hMore.read]; rfl
  areHints := ⟨h.isHint, hMore.areHints⟩
  length := by rw [List.length_cons, List.length_cons, hMore.length]
  between separator token hSeparator position := by
    rw [Node.charsOf, separated]
    exact (h.lexes position).append (hMore.behind separator token hSeparator position)
      (Node.charsBehind_ends hSeparator position nodes)
  behind separator token hSeparator position := by
    rw [Node.charsBehind, followers]
    exact (hSeparator.lexes_cons (h.lexes position)).append
      (hMore.behind separator token hSeparator position)
      (Node.charsBehind_ends hSeparator position nodes)

mutual

theorem exists_spells {mayBeList : Bool} (node : Node Value)
    (h : node.IsHint Value.IsHintLiteral mayBeList) :
    ∃ spelled, Spells mayBeList spelled node := by
  cases node with
  | name dotted => exact ⟨.name dotted, rfl, h, fun _ => lexes_dotted h⟩
  | ellipsis => exact ⟨.ellipsis, rfl, trivial, fun _ => lexes_dots⟩
  | literal v =>
    obtain ⟨spelling, hRead, hLexes⟩ := lexes_literal h
    refine ⟨.literal spelling, ?_, trivial, fun _ => hLexes⟩
    rw [Node.mapLeaves?, hRead]
    rfl
  | subscript origin arguments =>
    obtain ⟨spelled, hSpelled⟩ := exists_spellsAll arguments h.2
    refine ⟨.subscript origin spelled, ?_, ⟨h.1, hSpelled.areHints⟩, fun position => ?_⟩
    · rw [Node.mapLeaves?, hSpelled.read]
      rfl
    · have hBracketed := lexes_bracketed (hSpelled.between _ _ isSeparator_comma .whole)
      rw [Node.chars, tokens, List.append_assoc, List.append_assoc]
      refine (lexes_dotted h.1).append hBracketed fun rest _ => ?_
      exact (show '[' ∈ tokenEnds by decide)
  | list items =>
    obtain ⟨spelled, hSpelled⟩ := exists_spellsAll items h.2
    refine ⟨.list spelled, ?_, ⟨h.1, hSpelled.areHints⟩, fun position => ?_⟩
    · rw [Node.mapLeaves?, hSpelled.read]
      rfl
    · exact lexes_bracketed (hSpelled.between _ _ isSeparator_comma .whole)
  | union members =>
    obtain ⟨spelled, hSpelled⟩ := exists_spellsAll members h.2
    refine ⟨.union spelled, ?_, ⟨hSpelled.length ▸ h.1, hSpelled.areHints⟩, fun position => ?_⟩
    · rw [Node.mapLeaves?, hSpelled.read]
      rfl
    · exact (hSpelled.between _ _ isSeparator_bar .member).parenthesized _
  | intersection members =>
    obtain ⟨spelled, hSpelled⟩ := exists_spellsAll members h.2
    refine ⟨.intersection spelled, ?_, ⟨hSpelled.length ▸ h.1, hSpelled.areHints⟩,
      fun position => ?_⟩
    · rw [Node.mapLeaves?, hSpelled.read]
      rfl
    · exact (hSpelled.between _ _ isSeparator_ampersand .operand).parenthesized _

theorem exists_spellsAll {mayBeList : Bool} (nodes : List (Node Value))
    (h : Node.AreHints Value.IsHintLiteral mayBeList nodes) :
    ∃ spelled, SpellsAll mayBeList spelled nodes := by
  cases nodes with
  | nil => exact ⟨[], .nil mayBeList⟩
  | cons node nodes =>
    obtain ⟨spelled, hSpelled⟩ := exists_spells node h.1
    obtain ⟨more, hMore⟩ := exists_spellsAll nodes h.2
    exact ⟨spelled :: more, .cons hSpelled hMore⟩

end

/-- A tree that has a notation is read back from its text. -/
theorem parse_written {node : Node Value} (h : node.IsHint Value.IsHintLiteral false) :
    parse node.written = .ok node := by
  obtain ⟨spelled, hSpelled⟩ := exists_spells node h
  have hTokens : tokens? node.written.toList = some (tokens .whole spelled) := by
    rw [Node.written, String.toList_ofList]
    exact (hSpelled.lexes .whole).tokens?
  rw [parse, parseShown, spelled?, hTokens, Option.bind_some, ofTokens?_tokens hSpelled.isHint]
  simp only [hSpelled.read]

end HintText
end Interpose

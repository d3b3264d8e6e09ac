import Interpose.Decimal.Reading

/-! # Tokens of an annotation

Blanks (space, tab, form feed, carriage return and line feed) may stand between any two tokens and
nowhere inside one. Each token is as long as possible. A text literal ends at the first quote that
no backslash precedes; a backslash may not precede a line feed.
-/
namespace Interpose.HintText

set_option autoImplicit false

-- The zero of a sum of sizes is the built-in one, whatever else is imported.
attribute [local instance (10000)] Zero.ofOfNat0

/-- A literal as it is spelled: the characters between the quotes, or the parts of a number. -/
inductive Spelling where
  | text (content : List Char)
  | number (parts : Decimal.Numeral)
  deriving DecidableEq, Repr

inductive Token where
  | name (s : String)
  | literal (spelling : Spelling)
  | dots
  | point
  | bar
  | ampersand
  | comma
  | openParen
  | closeParen
  | openBracket
  | closeBracket
  deriving DecidableEq, Repr

def isBlank (c : Char) : Bool :=
  c == ' ' || c == '\t' || c == '\r' || c == '\n' || c.toNat == 12

def isNameStart (c : Char) : Bool :=
  c.isAlpha || c == '_'

def isNameRest (c : Char) : Bool :=
  c.isAlphanum || c == '_'

def takeContent (quote : Char) : List Char → Option (List Char × List Char)
  | [] => none
  | '\\' :: [] => none
  | '\\' :: c :: rest =>
    if c = '\n' then none
    else (takeContent quote rest).map fun (content, after) => ('\\' :: c :: content, after)
  | c :: rest =>
    if c = quote then some ([], rest)
    else (takeContent quote rest).map fun (content, after) => (c :: content, after)

def punctuation? : Char → Option Token
  | '.' => some .point
  | '|' => some .bar
  | '&' => some .ampersand
  | ',' => some .comma
  | '(' => some .openParen
  | ')' => some .closeParen
  | '[' => some .openBracket
  | ']' => some .closeBracket
  | _ => none

def takeToken : List Char → Option (Token × List Char)
  | [] => none
  | '.' :: '.' :: '.' :: rest => some (.dots, rest)
  | c :: rest =>
    if isNameStart c then
      some (.name (String.ofList (c :: rest.takeWhile isNameRest)), rest.dropWhile isNameRest)
    else if c = '\'' ∨ c = '"' then
      (takeContent c rest).map fun (content, after) => (.literal (.text content), after)
    else
      match Decimal.takeNumber (c :: rest) with
      | some (parts, after) => some (.literal (.number parts), after)
      | none => (punctuation? c).map fun token => (token, rest)

namespace Token

/-- A lower bound of the number of characters a token is written with, which counts the content
of a text literal in full. -/
def size : Token → Nat
  | .name _ => 1
  | .literal (.text content) => content.length + 2
  | _ => 0

end Token

theorem length_takeContent {quote : Char} {cs content rest : List Char}
    (h : takeContent quote cs = some (content, rest)) :
    content.length + 1 + rest.length = cs.length := by
  fun_induction takeContent quote cs generalizing content with
  | case1 => contradiction
  | case2 => contradiction
  | case3 => contradiction
  | case4 c tail _ ih =>
    obtain ⟨⟨inner, after⟩, hInner, hEq⟩ := Option.map_eq_some_iff.1 h
    cases hEq
    have := ih hInner
    simp; omega
  | case5 => cases h; simp; omega
  | case6 c tail _ _ _ ih =>
    obtain ⟨⟨inner, after⟩, hInner, hEq⟩ := Option.map_eq_some_iff.1 h
    cases hEq
    have := ih hInner
    simp; omega

/-- A token takes at least one character, and at least as many as its size. -/
theorem length_takeToken {cs rest : List Char} {token : Token}
    (h : takeToken cs = some (token, rest)) :
    rest.length < cs.length ∧ token.size + rest.length ≤ cs.length := by
  unfold takeToken at h
  split at h
  · contradiction
  · cases h; simp [Token.size]; omega
  · rename_i c tail _
    split at h
    · cases h
      have := (List.dropWhile_suffix isNameRest (l := tail)).length_le
      simp [Token.size]; omega
    · split at h
      · obtain ⟨⟨content, after⟩, hContent, hEq⟩ := Option.map_eq_some_iff.1 h
        cases hEq
        have := length_takeContent hContent
        simp [Token.size]; omega
      · split at h
        · rename_i hNumber
          cases h
          have := Decimal.length_takeNumber hNumber
          simp [Token.size] at this ⊢; omega
        · obtain ⟨mark, hMark, hEq⟩ := Option.map_eq_some_iff.1 h
          cases hEq
          unfold punctuation? at hMark
          split at hMark <;> first | contradiction | (cases hMark; simp [Token.size])

def tokens? (cs : List Char) : Option (List Token) :=
  match cs with
  | [] => some []
  | c :: rest =>
    if isBlank c then tokens? rest
    else
      match _token : takeToken (c :: rest) with
      | some (token, after) => (tokens? after).map (token :: ·)
      | none => none
termination_by cs.length
decreasing_by
  · simp
  · exact (length_takeToken _token).1

theorem size_tokens? {cs : List Char} {tokens : List Token} (h : tokens? cs = some tokens) :
    (tokens.map Token.size).sum ≤ cs.length := by
  fun_induction tokens? cs generalizing tokens with
  | case1 => cases h; simp
  | case2 c rest _ ih => have := ih h; simp; omega
  | case3 c rest _ token after hToken ih =>
    obtain ⟨more, hMore, rfl⟩ := Option.map_eq_some_iff.1 h
    have := ih hMore
    have := (length_takeToken hToken).2
    simp only [List.length_cons, List.map_cons, List.sum_cons] at *
    omega
  | case4 => contradiction

end Interpose.HintText

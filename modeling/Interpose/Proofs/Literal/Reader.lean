import Interpose.HintText.Literal
import Interpose.Value.Equality

/-! # Reading literals

What a literal in a source text denotes. The literals are `None`, the truth values, numbers with an
optional sign, texts and byte strings between single or double quotes, tuples, sets, and
`frozenset` called with a set or with nothing. An item may be in parentheses, a row of items may end
with a comma, and blanks may stand between tokens. A set keeps the first of the items that are
equal, and takes none that cannot be hashed. Whatever else a source may hold is refused.
-/
namespace Interpose

set_option autoImplicit false

/-! ## Items of a set -/

namespace Value

mutual

/-- Whether two values are one item in a set. Frozen sets are compared without regard to order. -/
def isSameItem : Value → Value → Bool
  | .tuple xs, .tuple ys => areSameItems xs ys
  | .frozenset xs, .frozenset ys => areItemsOf ys xs && ys.all (isItemOf xs)
  | .tuple _, _ | .frozenset _, _ | _, .tuple _ | _, .frozenset _ => false
  | a, b => scalarEqual a b

def areSameItems : List Value → List Value → Bool
  | [], [] => true
  | x :: xs, y :: ys => isSameItem x y && areSameItems xs ys
  | _, _ => false

/-- Whether each value of the second list has its like in the first. -/
def areItemsOf (ys : List Value) : List Value → Bool
  | [] => true
  | x :: xs => ys.any (isSameItem x) && areItemsOf ys xs

def isItemOf : List Value → Value → Bool
  | [], _ => false
  | x :: xs, y => isSameItem x y || isItemOf xs y

end

/-- The items of a set that is built from left to right. -/
def distinct : List Value → List Value
  | [] => []
  | v :: vs => v :: (distinct vs).filter fun other => !isSameItem v other

end Value

namespace Literal

/-! ## Byte strings -/

/-- Whether a character can stand for itself in a byte string. -/
def isPlainByte (c : Char) : Bool :=
  c.toNat < 128 && c != '\n' && c != '\r' && c.toNat != 0

/-- One piece of a byte string's content: the bytes that it stands for, and what follows it. -/
def takeBytePiece : List Char → Option (List UInt8 × List Char)
  | [] => none
  | '\\' :: [] => none
  | '\\' :: c :: rest =>
    match Text.letterEscape? c with
    | some d => some ([UInt8.ofNat d.toNat], rest)
    | none =>
      if c = 'x' then
        (Text.takeHex 2 0 rest).map fun (code, rest) => ([UInt8.ofNat code], rest)
      else
        match Text.octalValue? c with
        | some digit =>
          let (code, rest) := Text.takeOctal 2 digit rest
          some ([UInt8.ofNat code], rest)
        | none =>
          if isPlainByte c then some ([UInt8.ofNat '\\'.toNat, UInt8.ofNat c.toNat], rest) else none
  | c :: rest => if isPlainByte c then some ([UInt8.ofNat c.toNat], rest) else none

theorem length_takeBytePiece {cs rest : List Char} {piece : List UInt8}
    (h : takeBytePiece cs = some (piece, rest)) : rest.length < cs.length := by
  unfold takeBytePiece at h
  split at h
  next => cases h
  next => cases h
  next c tail =>
    split at h
    next =>
      cases h
      exact Nat.lt_succ_of_lt (Nat.lt_succ_self _)
    next =>
      split at h
      next =>
        obtain ⟨⟨code, left⟩, hHex, ⟨⟩⟩ := Option.map_eq_some_iff.1 h
        have hLength := Text.length_takeHex hHex
        rw [List.length_cons, List.length_cons]
        omega
      next =>
        split at h
        next digit _ =>
          cases h
          have hLength := Text.length_takeOctal 2 digit tail
          rw [List.length_cons, List.length_cons]
          omega
        next =>
          split at h
          next =>
            cases h
            exact Nat.lt_succ_of_lt (Nat.lt_succ_self _)
          next => cases h
  next =>
    split at h
    next =>
      cases h
      exact Nat.lt_succ_self _
    next => cases h

def unescapeBytes (cs : List Char) : Option (List UInt8) :=
  if cs = [] then some []
  else
    match _piece : takeBytePiece cs with
    | some (piece, rest) => (unescapeBytes rest).map (piece ++ ·)
    | none => none
termination_by cs.length
decreasing_by exact length_takeBytePiece _piece

/-! ## Tokens -/

inductive Token where
  | value (v : Value)
  | comma
  | openParen
  | closeParen
  | openBrace
  | closeBrace
  /-- The name `frozenset` and the parenthesis behind it. -/
  | call
  deriving Repr

def isQuote (c : Char) : Bool :=
  c == '\'' || c == '"'

def marks : List (Char × Token) :=
  [(',', .comma), ('(', .openParen), (')', .closeParen), ('\x7b', .openBrace),
   ('\x7d', .closeBrace)]

/-- The content up to the second quote. Three quotes in a row start another kind of text. -/
def takeQuoted (quote : Char) (cs : List Char) : Option (List Char × List Char) :=
  (HintText.takeContent quote cs).filter fun (content, after) =>
    !(content.isEmpty && after.head? == some quote)

def takeText (quote : Char) (cs : List Char) : Option (Token × List Char) := do
  let (content, after) ← takeQuoted quote cs
  let points ← Text.unescape content
  return (.value (.ofCodePoints points), after)

def takeBytes (quote : Char) (cs : List Char) : Option (Token × List Char) := do
  let (content, after) ← takeQuoted quote cs
  let bytes ← unescapeBytes content
  return (.value (.bytes bytes), after)

def takeNumber (cs : List Char) : Option (Token × List Char) := do
  let (parts, after) ← Decimal.takeNumber cs
  let v ← HintText.readNumber parts
  return (.value v, after)

/-- What a word stands for; that for frozen sets has to be called. -/
def wordToken (word after : List Char) : Option (Token × List Char) :=
  if word = "None".toList then some (.value .none, after)
  else if word = "True".toList then some (.value (.bool true), after)
  else if word = "False".toList then some (.value (.bool false), after)
  else if word = "frozenset".toList then
    match after with
    | '(' :: after => some (.call, after)
    | _ => none
  else none

def takeToken : List Char → Option (Token × List Char)
  | [] => none
  | c :: rest =>
    if isQuote c then takeText c rest
    else if c = 'b' ∧ rest.head?.any isQuote then takeBytes (rest.headD c) rest.tail
    else if HintText.isNameStart c then
      wordToken (c :: rest.takeWhile HintText.isNameRest) (rest.dropWhile HintText.isNameRest)
    else
      match marks.lookup c with
      | some mark => some (mark, rest)
      | none => takeNumber (c :: rest)

theorem length_takeQuoted {quote : Char} {cs content after : List Char}
    (h : takeQuoted quote cs = some (content, after)) : after.length < cs.length := by
  have hLength := HintText.length_takeContent (Option.filter_eq_some_iff.1 h).1
  omega

theorem length_wordToken {word after rest : List Char} {token : Token}
    (h : wordToken word after = some (token, rest)) : rest.length ≤ after.length := by
  unfold wordToken at h
  split at h
  next =>
    cases h
    exact Nat.le_refl _
  next =>
    split at h
    next =>
      cases h
      exact Nat.le_refl _
    next =>
      split at h
      next =>
        cases h
        exact Nat.le_refl _
      next =>
        split at h
        next =>
          split at h
          next =>
            cases h
            exact Nat.le_succ _
          next => cases h
        next => cases h

theorem length_takeToken {cs rest : List Char} {token : Token}
    (h : takeToken cs = some (token, rest)) : rest.length < cs.length := by
  cases cs with
  | nil => cases h
  | cons c tail =>
    rw [takeToken] at h
    split at h
    next =>
      obtain ⟨⟨content, after⟩, hContent, h⟩ := Option.bind_eq_some_iff.1 h
      obtain ⟨points, -, ⟨⟩⟩ := Option.bind_eq_some_iff.1 h
      exact Nat.lt_succ_of_lt (length_takeQuoted hContent)
    next =>
      split at h
      next =>
        obtain ⟨⟨content, after⟩, hContent, h⟩ := Option.bind_eq_some_iff.1 h
        obtain ⟨bytes, -, ⟨⟩⟩ := Option.bind_eq_some_iff.1 h
        have hLength := length_takeQuoted hContent
        rw [List.length_tail] at hLength
        rw [List.length_cons]
        omega
      next =>
        split at h
        next =>
          have hLength := (List.dropWhile_suffix HintText.isNameRest (l := tail)).length_le
          exact Nat.lt_succ_of_le (Nat.le_trans (length_wordToken h) hLength)
        next =>
          split at h
          next =>
            cases h
            exact Nat.lt_succ_self _
          next =>
            obtain ⟨⟨parts, after⟩, hNumber, h⟩ := Option.bind_eq_some_iff.1 h
            obtain ⟨v, -, ⟨⟩⟩ := Option.bind_eq_some_iff.1 h
            exact Decimal.length_takeNumber hNumber

def tokens? (cs : List Char) : Option (List Token) :=
  match cs with
  | [] => some []
  | c :: rest =>
    if c = ' ' ∨ c = '\t' then tokens? rest
    else
      match _token : takeToken (c :: rest) with
      | some (token, after) => (tokens? after).map (token :: ·)
      | none => none
termination_by cs.length
decreasing_by
  · exact Nat.lt_succ_self _
  · exact length_takeToken _token

/-! ## Values -/

inductive Bracket where
  | whole
  | paren
  | brace
  | call
  deriving DecidableEq, Repr

/-- What has been read behind an open bracket: the items that a comma ends, latest first, and the
item behind the last comma. -/
structure Frame where
  bracket : Bracket
  items : List Value
  last : Option Value
  deriving Repr

namespace Frame

def empty (bracket : Bracket) : Frame := ⟨bracket, [], none⟩

def content (frame : Frame) : List Value :=
  frame.items.reverse ++ frame.last.toList

end Frame

/-- Puts a value where the innermost bracket waits for one. -/
def place (v : Value) : List Frame → Option (List Frame)
  | ⟨bracket, items, none⟩ :: frames => some (⟨bracket, items, some v⟩ :: frames)
  | _ => none

def openBracket (bracket : Bracket) : List Frame → Option (List Frame)
  | ⟨outer, items, none⟩ :: frames => some (.empty bracket :: ⟨outer, items, none⟩ :: frames)
  | _ => none

def endItem : List Frame → Option (List Frame)
  | ⟨.paren, items, some v⟩ :: frames => some (⟨.paren, v :: items, none⟩ :: frames)
  | ⟨.brace, items, some v⟩ :: frames => some (⟨.brace, v :: items, none⟩ :: frames)
  | _ => none

/-- Closes a parenthesis: that of a single value, that of a tuple, or that of a call. -/
def closeParen : List Frame → Option (List Frame)
  | ⟨.paren, [], some v⟩ :: frames => place v frames
  | ⟨.paren, items, last⟩ :: frames => place (.tuple (Frame.content ⟨.paren, items, last⟩)) frames
  | ⟨.call, [], none⟩ :: frames => place (.frozenset []) frames
  | ⟨.call, [], some (.set items)⟩ :: frames => place (.frozenset items) frames
  | _ => none

/-- Closes a brace. Nothing between braces would be a dictionary. -/
def closeBrace : List Frame → Option (List Frame)
  | ⟨.brace, items, last⟩ :: frames =>
    let content := Frame.content ⟨.brace, items, last⟩
    if content.isEmpty || !Value.areHashable content then none
    else place (.set (Value.distinct content)) frames
  | _ => none

def step (frames : List Frame) : Token → Option (List Frame)
  | .value v => place v frames
  | .comma => endItem frames
  | .openParen => openBracket .paren frames
  | .closeParen => closeParen frames
  | .openBrace => openBracket .brace frames
  | .closeBrace => closeBrace frames
  | .call => openBracket .call frames

/-- The value that a text denotes as a literal. -/
def read? (text : String) : Option Value := do
  let tokens ← tokens? text.toList
  match ← tokens.foldlM step [.empty .whole] with
  | [⟨.whole, [], last⟩] => last
  | _ => none

end Literal
end Interpose

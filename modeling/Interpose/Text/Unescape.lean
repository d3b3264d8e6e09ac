import Interpose.Text.CharacterName
import Interpose.Text.CodePoint

/-! # Reading the content of a text literal

A backslash starts an escape; any other character stands for itself, except the line ends and the
null character, which a literal cannot hold. A backslash before a carriage return (with or without
a line feed) continues the line and stands for nothing. A backslash before a character that starts
no escape stands for itself. An escape gives the number of a code point, which may be a surrogate,
or the name of a character in braces.
-/
namespace Interpose.Text

set_option autoImplicit false

def hexValue? (c : Char) : Option Nat :=
  if '0' ≤ c ∧ c ≤ '9' then some (c.toNat - 48)
  else if 'a' ≤ c ∧ c ≤ 'f' then some (c.toNat - 87)
  else if 'A' ≤ c ∧ c ≤ 'F' then some (c.toNat - 55)
  else none

/-- Reads exactly `width` hexadecimal digits, and returns their value and what follows. -/
def takeHex : Nat → Nat → List Char → Option (Nat × List Char)
  | 0, value, cs => some (value, cs)
  | _ + 1, _, [] => none
  | width + 1, value, c :: cs =>
    match hexValue? c with
    | some digit => takeHex width (16 * value + digit) cs
    | none => none

def octalValue? (c : Char) : Option Nat :=
  if '0' ≤ c ∧ c ≤ '7' then some (c.toNat - 48) else none

/-- Reads at most `width` further octal digits. -/
def takeOctal : Nat → Nat → List Char → Nat × List Char
  | 0, value, cs => (value, cs)
  | _ + 1, value, [] => (value, [])
  | width + 1, value, c :: cs =>
    match octalValue? c with
    | some digit => takeOctal width (8 * value + digit) cs
    | none => (value, c :: cs)

def letterEscape? : Char → Option Char
  | '\\' => some '\\'
  | '\'' => some '\''
  | '"' => some '"'
  | 'a' => some (Char.ofNat 7)
  | 'b' => some (Char.ofNat 8)
  | 't' => some '\t'
  | 'n' => some '\n'
  | 'v' => some (Char.ofNat 11)
  | 'f' => some (Char.ofNat 12)
  | 'r' => some '\r'
  | _ => none

/-- The number of digits after the letter of a hexadecimal escape. -/
def hexEscapeWidth? : Char → Option Nat
  | 'x' => some 2
  | 'u' => some 4
  | 'U' => some 8
  | _ => none

def takeNamed : List Char → Option (Char × List Char)
  | '\x7b' :: cs =>
    match cs.dropWhile (· != '\x7d') with
    | [] => none
    | _ :: rest => (characterNamed? (cs.takeWhile (· != '\x7d'))).map fun c => (c, rest)
  | _ => none

/-- One piece of a literal's content: the code points it stands for, and what follows it. -/
def takePiece : List Char → Option (List CodePoint × List Char)
  | [] => none
  | '\\' :: [] => none
  | '\\' :: '\r' :: '\n' :: rest => some ([], rest)
  | '\\' :: '\r' :: rest => some ([], rest)
  | '\\' :: c :: rest =>
    match letterEscape? c with
    | some d => some ([.char d], rest)
    | none =>
      match hexEscapeWidth? c with
      | some width =>
        match takeHex width 0 rest with
        | some (code, rest) => (CodePoint.ofCode? code).map fun d => ([d], rest)
        | none => none
      | none =>
        match octalValue? c with
        | some digit =>
          let (code, rest) := takeOctal 2 digit rest
          (CodePoint.ofCode? code).map fun d => ([d], rest)
        | none =>
          if c = 'N' then (takeNamed rest).map fun (d, rest) => ([.char d], rest)
          else if c.toNat = 0 then none
          else some ([.char '\\', .char c], rest)
  | c :: rest => if c = '\n' ∨ c = '\r' ∨ c.toNat = 0 then none else some ([.char c], rest)

theorem length_takeHex {width value code : Nat} {cs rest : List Char}
    (h : takeHex width value cs = some (code, rest)) : rest.length + width = cs.length := by
  induction width generalizing value cs with
  | zero => simp_all [takeHex]
  | succ width ih =>
    cases cs with
    | nil => simp [takeHex] at h
    | cons c cs =>
      simp only [takeHex] at h
      split at h
      · have := ih h
        simp; omega
      · contradiction

theorem length_takeOctal (width value : Nat) (cs : List Char) :
    (takeOctal width value cs).2.length ≤ cs.length := by
  induction width generalizing value cs with
  | zero => simp [takeOctal]
  | succ width ih =>
    cases cs with
    | nil => simp [takeOctal]
    | cons c cs =>
      simp only [takeOctal]
      split
      · have := ih (8 * value + ‹_›) cs
        simp; omega
      · simp

theorem length_takeNamed {cs rest : List Char} {c : Char} (h : takeNamed cs = some (c, rest)) :
    rest.length < cs.length := by
  unfold takeNamed at h
  split at h
  · rename_i tail
    have := (List.dropWhile_suffix (· != '\x7d') (l := tail)).length_le
    split at h
    · contradiction
    · rename_i hTail
      obtain ⟨d, _, hd⟩ := Option.map_eq_some_iff.1 h
      cases hd
      rw [hTail] at this
      simp at this ⊢; omega
  · contradiction

/-- A piece is written with at least one character, and at least one for each code point. -/
theorem length_takePiece {cs rest : List Char} {piece : List CodePoint}
    (h : takePiece cs = some (piece, rest)) :
    rest.length < cs.length ∧ piece.length + rest.length ≤ cs.length := by
  unfold takePiece at h
  split at h
  · contradiction
  · contradiction
  · cases h; simp; omega
  · cases h; simp; omega
  · rename_i c tail _ _
    split at h
    · cases h; simp; omega
    · split at h
      · split at h
        · rename_i width _ _ code left hHex
          have := length_takeHex hHex
          obtain ⟨d, _, hd⟩ := Option.map_eq_some_iff.1 h
          cases hd
          simp; omega
        · contradiction
      · split at h
        · rename_i digit _
          have := length_takeOctal 2 digit tail
          obtain ⟨d, _, hd⟩ := Option.map_eq_some_iff.1 h
          cases hd
          simp; omega
        · split at h
          · obtain ⟨⟨d, left⟩, hNamed, hd⟩ := Option.map_eq_some_iff.1 h
            have := length_takeNamed hNamed
            cases hd
            simp; omega
          · split at h
            · contradiction
            · cases h; simp; omega
  · split at h
    · contradiction
    · cases h; simp; omega

def unescape (cs : List Char) : Option (List CodePoint) :=
  if cs = [] then some []
  else
    match _piece : takePiece cs with
    | some (piece, rest) => (unescape rest).map (piece ++ ·)
    | none => none
termination_by cs.length
decreasing_by exact (length_takePiece _piece).1

theorem length_unescape {cs : List Char} {text : List CodePoint}
    (h : unescape cs = some text) :
    text.length ≤ cs.length := by
  fun_induction unescape cs generalizing text with
  | case1 => simp_all
  | case2 cs _ piece rest hPiece ih =>
    obtain ⟨left, hLeft, rfl⟩ := Option.map_eq_some_iff.1 h
    have := ih hLeft
    have := (length_takePiece hPiece).2
    simp; omega
  | case3 => contradiction

end Interpose.Text

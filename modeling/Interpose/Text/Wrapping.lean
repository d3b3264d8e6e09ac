import Interpose.Text.Dotted
import Interpose.Text.Width

/-! # Lines of a limited width

A text is broken into lines that fit a number of columns. A line ends before the first word that
does not fit on it any more; blanks belong to the word before them, and at the end of a line they
are dropped as far as they stand beyond its columns. A word that is wider than a line is either cut
into pieces, or starts a line of its own that is shortened.
-/
namespace Interpose.Text

set_option autoImplicit false

def blankRanges : List (Nat × Nat) :=
  [(0x09, 0x0d), (0x1c, 0x20), (0x85, 0x85), (0xa0, 0xa0), (0x1680, 0x1680), (0x2000, 0x200a),
   (0x2028, 0x2029), (0x202f, 0x202f), (0x205f, 0x205f), (0x3000, 0x3000)]

def isBlank (c : Char) : Bool :=
  inRanges blankRanges c.toNat

def trimEnd (cs : List Char) : List Char :=
  (cs.reverse.dropWhile isBlank).reverse

/-- The words of a text, each with the blanks after it, given what has been read of the current one,
latest character first. Blanks in front belong to the first word. -/
def wordsFrom (word : List Char) : List Char → List (List Char)
  | [] => [word.reverse]
  | c :: cs =>
    if !isBlank c && word.head?.any isBlank && word.any (!isBlank ·) then
      word.reverse :: wordsFrom [c] cs
    else wordsFrom (c :: word) cs

/-- The pieces of a text that each fit a number of columns, given what has been read of the current
one, latest character first, and the columns that it takes. -/
def chopFrom (columns : Nat) (piece : List Char) (used : Nat) : List Char → List (List Char)
  | [] => [piece.reverse]
  | c :: cs =>
    if used + charWidth c ≤ columns then chopFrom columns (c :: piece) (used + charWidth c) cs
    else piece.reverse :: chopFrom columns [c] (charWidth c) cs

/-- What is done with a word that is wider than a line. -/
inductive Overflow where
  | cut
  | shorten
  deriving DecidableEq, Repr

/-- Lines under construction: the complete ones, latest first, the current one, and the columns that
it takes. -/
structure Layout where
  complete : List (List Char)
  current : List Char
  used : Nat
  deriving Repr

namespace Layout

def empty : Layout := ⟨[], [], 0⟩

def ended (l : Layout) : List (List Char) :=
  if l.complete.isEmpty && l.current.isEmpty then [] else l.current :: l.complete

def add (columns : Nat) (overflow : Overflow) (l : Layout) (word : List Char) : Layout :=
  let size := widthAfter none (trimEnd word)
  if l.used + size ≤ columns then
    { l with current := l.current ++ word, used := l.used + widthAfter none word }
  else if size ≤ columns ∨ overflow = .shorten then ⟨l.ended, word, widthAfter none word⟩
  else
    match (chopFrom columns [] 0 word).reverse with
    | [] => l
    | last :: others => ⟨others ++ l.ended, last, widthAfter none last⟩

def lines (l : Layout) : List (List Char) :=
  (l.current :: l.complete).reverse

end Layout

/-- A line without the blanks at its end, as far as it has more characters than there are
columns. -/
def dropBeyond (columns : Nat) (line : List Char) : List Char :=
  line.take (max columns (trimEnd line).length)

def fitting (columns : Nat) : List Char → List Char
  | [] => []
  | c :: cs => if charWidth c ≤ columns then c :: fitting (columns - charWidth c) cs else []

/-- The line, or the front of it and an ellipsis if it takes too many columns. -/
def shorten (columns : Nat) (line : List Char) : String :=
  if widthAfter none line ≤ columns then String.ofList line
  else padTo (columns - 1) (String.ofList (fitting (columns - 1) line)) ++ "…"

def wrap (columns : Nat) (overflow : Overflow) (s : String) : List String :=
  (cutAll '\n' s.toList).flatMap fun line =>
    let layout := (wordsFrom [] line).foldl (Layout.add columns overflow) .empty
    layout.lines.map fun line => shorten columns (dropBeyond columns line)

end Interpose.Text

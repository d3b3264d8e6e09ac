import Interpose.Forwarding
import Interpose.Text.Wrapping

/-! # Tables of methods

The methods of a target as a table: the name of each, whether it is decorated, and its signature
as it is generated. Every column is as wide as its widest cell and two spaces more. A table wider
than the console has its signatures in several lines.
-/
namespace Interpose

set_option autoImplicit false

namespace Method

def decorationText (m : Method) : String :=
  match m.skipReason with
  | none => "yes"
  | some reason => "no (" ++ reason.text ++ ")"

def signatureText (world : World) (m : Method) : Except Failure String := do
  let declaration ← writtenDeclaration world m
  let hint ← m.returnHint world
  let result := match hint with
    | none => ""
    | some hint => if hint.text = "" then "" else " -> " ++ hint.text
  return "(" ++ (declarationText declaration).text ++ ")" ++ result

def cells (world : World) (m : Method) : Except Failure (List String) := do
  return [m.name, m.decorationText, ← m.signatureText world]

end Method

def consoleWidth : Nat := 2000

namespace Text

def cellGap : Nat := 2

/-- A column of a table: its title, and whether its cells may take more than one line. -/
structure TableColumn where
  title : String
  mayWrap : Bool
  deriving Repr

/-- The lines of a cell that a text asks for. -/
def plainLines (s : String) : List String :=
  (cutAll '\n' s.toList).map String.ofList

/-- The columns that a cell takes, up to the width of the console. -/
def cellWidth (s : String) : Nat :=
  min consoleWidth ((plainLines s).foldl (fun most line => max most (width line)) 0 + cellGap)

/-- Takes an excess from widths in parts that are equal up to rounding; widths of zero give
nothing. -/
def reduceEvenly (excess : Nat) : List Nat → List Nat
  | [] => []
  | 0 :: widths => 0 :: reduceEvenly excess widths
  | (n + 1) :: widths =>
    let givers := 1 + widths.countP (· != 0)
    let part := min (n + 1) (Decimal.roundQuotient excess givers)
    (n + 1 - part) :: reduceEvenly (excess - part) widths

/-- Widths that fit the console. A column that may wrap gives first, then all do. -/
def fitWidths (columns : List TableColumn) (widths : List Nat) : List Nat :=
  let excess := widths.foldr (· + ·) 0 - consoleWidth
  let narrowed := List.zipWith
    (fun (column : TableColumn) size => if column.mayWrap then size - min excess size else size)
    columns widths
  reduceEvenly (narrowed.foldr (· + ·) 0 - consoleWidth) narrowed

def cellLines (column : TableColumn) (columns : Nat) (s : String) : List String :=
  if columns ≤ cellGap then []
  else if column.mayWrap then wrap (columns - cellGap) .shorten s
  else
    (cutAll '\n' s.toList).map fun line =>
      shorten (columns - cellGap) (dropBeyond (columns - cellGap) line)

def tableRow (columns : List TableColumn) (widths : List Nat) (row : List String) : String :=
  let cells := List.zipWith (fun column (size, s) => (size, cellLines column size s)) columns
    (widths.zip row)
  let height := cells.foldl (fun most cell => max most cell.2.length) 1
  String.join ((List.range height).map fun line =>
    String.join (cells.map fun (size, lines) => padTo size (lines.getD line "")) ++ "\n")

/-- A table with a first row of titles. -/
def table (columns : List TableColumn) (rows : List (List String)) : String :=
  let titles := columns.map TableColumn.title
  let widths := rows.foldl (fun widths row => List.zipWith max widths (row.map cellWidth))
    (titles.map cellWidth)
  let widths := fitWidths columns widths
  String.join ((titles :: rows).map (tableRow columns widths))

end Text

def Target.methodTable (world : World) (t : Target) : Except Failure String := do
  let rows ← t.methods.mapM (Method.cells world)
  return Text.table [⟨"Method", false⟩, ⟨"Decorated", false⟩, ⟨"Signature", true⟩] rows

end Interpose

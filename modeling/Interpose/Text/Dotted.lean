/-! # Dotted names

A dotted name is cut at its points into parts, of which there is always at least one.
-/
namespace Interpose.Text

set_option autoImplicit false

def cutAll (mark : Char) : List Char → List (List Char)
  | [] => [[]]
  | c :: cs =>
    if c = mark then [] :: cutAll mark cs
    else
      match cutAll mark cs with
      | part :: parts => (c :: part) :: parts
      | [] => [[c]]

def dottedParts (s : String) : List String :=
  (cutAll '.' s.toList).map String.ofList

def cutFirst (mark : Char) (s : String) : Option (String × String) :=
  let cs := s.toList
  match cs.dropWhile (· != mark) with
  | [] => none
  | _ :: after => some (String.ofList (cs.takeWhile (· != mark)), String.ofList after)

/-- The text before the last mark and the text after it; without a mark, nothing stands before. -/
def cutLast (mark : Char) (s : String) : String × String :=
  let cs := s.toList.reverse
  let after := String.ofList (cs.takeWhile (· != mark)).reverse
  match cs.dropWhile (· != mark) with
  | [] => ("", after)
  | _ :: before => (String.ofList before.reverse, after)

/-- The dotted name of each non-empty list of leading parts, shortest first. -/
def dottedPrefixes : List String → List String
  | [] => []
  | part :: parts => part :: (dottedPrefixes parts).map fun rest => part ++ "." ++ rest

def startsDunder : List Char → Bool
  | '_' :: '_' :: _ => true
  | _ => false

def isDunder (name : String) : Bool :=
  startsDunder name.toList && startsDunder name.toList.reverse

end Interpose.Text

import Interpose.Value.Basic

/-! # Order of resolution

The classes that a class inherits from are ordered so that each class stands before its bases, and
the bases of a class in the order in which it names them. The order is found by merging the orders
of the bases with the list of the bases: the next class is the first head of a list that stands in
the tail of none. Where no head qualifies, no order exists.
-/
namespace Interpose.Resolution

set_option autoImplicit false

def inTail (c : ClassRef) : List ClassRef → Bool
  | [] => false
  | _ :: tail => tail.contains c

/-- The first head that stands in the tail of no list. -/
def candidate? (lists : List (List ClassRef)) : Option ClassRef :=
  (lists.filterMap List.head?).find? fun c => !lists.any (inTail c)

def dropHead (c : ClassRef) : List ClassRef → List ClassRef
  | [] => []
  | head :: tail => if head = c then tail else head :: tail

/-- Merges lists, of at most the given number of classes in total. -/
def merge : Nat → List (List ClassRef) → Option (List ClassRef)
  | size, lists =>
    if lists.all List.isEmpty then some []
    else
      match size, candidate? lists with
      | size + 1, some c => (merge size (lists.map (dropHead c))).map (c :: ·)
      | _, _ => none

def linearize (c : ClassRef) (bases : List ClassRef) (orders : List (List ClassRef)) :
    Option (List ClassRef) :=
  let lists := orders ++ [bases]
  (merge lists.flatten.length lists).map (c :: ·)

end Interpose.Resolution

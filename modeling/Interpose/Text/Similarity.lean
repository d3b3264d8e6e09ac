/-! # Similarity of texts

Two texts are compared by the blocks that they share: the longest common block, the earliest one if
there are several, then the same on either side of it. Their similarity is the share of characters
that lie in such blocks.
-/
namespace Interpose.Text

set_option autoImplicit false

def commonStart : List Char → List Char → Nat
  | a :: as, b :: bs => if a = b then commonStart as bs + 1 else 0
  | _, _ => 0

/-- A block that two texts share: where it starts in each, and its length. -/
structure SharedBlock where
  left : Nat
  right : Nat
  length : Nat
  deriving DecidableEq, Repr

def sharedBlocks (as bs : List Char) : List SharedBlock :=
  (List.range as.length).flatMap fun i =>
    (List.range bs.length).map fun j => ⟨i, j, commonStart (as.drop i) (bs.drop j)⟩

/-- The longest block, and of several the first. -/
def longestBlock (as bs : List Char) : SharedBlock :=
  (sharedBlocks as bs).foldl (fun best block => if best.length < block.length then block else best)
    ⟨0, 0, 0⟩

/-- The number of characters in shared blocks, counted to a given depth. -/
def sharedCount : Nat → List Char → List Char → Nat
  | 0, _, _ => 0
  | depth + 1, as, bs =>
    let block := longestBlock as bs
    if block.length = 0 then 0
    else
      sharedCount depth (as.take block.left) (bs.take block.right) + block.length
        + sharedCount depth (as.drop (block.left + block.length))
            (bs.drop (block.right + block.length))

/-- Whether at least three fifths of the characters of two texts are shared. -/
def areSimilar (s t : String) : Bool :=
  6 * (s.length + t.length) ≤ 20 * sharedCount s.length s.toList t.toList

def similarTo (s : String) (candidates : List String) : List String :=
  candidates.filter fun candidate => areSimilar candidate s

end Interpose.Text

import Interpose.Value.Text

/-! # The syntax of annotations

The tree of an annotation that is written as text. The leaves for literals are of any type: the
reader makes trees whose literals are still spelled out, and those whose literals can be read
become trees over values.
-/
namespace Interpose.HintText

set_option autoImplicit false

/-- The tree of an annotation. A name is dotted; a list stands only among the arguments of a
subscript. -/
inductive Node (Leaf : Type) where
  | name (dotted : String)
  | subscript (origin : String) (arguments : List (Node Leaf))
  | union (members : List (Node Leaf))
  | intersection (members : List (Node Leaf))
  | list (items : List (Node Leaf))
  | literal (leaf : Leaf)
  | ellipsis
  deriving Repr

namespace Node

mutual

/-- The tree whose literals are read by a function, unless one of them cannot be read. -/
def mapLeaves? {α β : Type} (read : α → Option β) : Node α → Option (Node β)
  | .name dotted => some (.name dotted)
  | .subscript origin arguments => (mapAllLeaves? read arguments).map (.subscript origin ·)
  | .union members => (mapAllLeaves? read members).map .union
  | .intersection members => (mapAllLeaves? read members).map .intersection
  | .list items => (mapAllLeaves? read items).map .list
  | .literal leaf => (read leaf).map .literal
  | .ellipsis => some .ellipsis

def mapAllLeaves? {α β : Type} (read : α → Option β) : List (Node α) → Option (List (Node β))
  | [] => some []
  | node :: nodes => do
    let node ← mapLeaves? read node
    let nodes ← mapAllLeaves? read nodes
    return node :: nodes

end

mutual

/-- The size of a tree, where a leaf has the size that a function gives it. -/
def size {α : Type} (leafSize : α → Nat) : Node α → Nat
  | .name _ => 1
  | .subscript _ arguments => 1 + totalSize leafSize arguments
  | .union members | .intersection members | .list members => totalSize leafSize members
  | .literal leaf => leafSize leaf
  | .ellipsis => 0

def totalSize {α : Type} (leafSize : α → Nat) : List (Node α) → Nat
  | [] => 0
  | node :: nodes => size leafSize node + totalSize leafSize nodes

end

theorem totalSize_append {α : Type} (leafSize : α → Nat) (xs ys : List (Node α)) :
    totalSize leafSize (xs ++ ys) = totalSize leafSize xs + totalSize leafSize ys := by
  induction xs with
  | nil => simp [totalSize]
  | cons x xs ih => simp [totalSize, ih]; omega

theorem totalSize_reverse {α : Type} (leafSize : α → Nat) (xs : List (Node α)) :
    totalSize leafSize xs.reverse = totalSize leafSize xs := by
  induction xs with
  | nil => rfl
  | cons x xs ih => simp [totalSize_append, totalSize, ih]; omega

mutual

theorem size_mapLeaves? {α β : Type} {read : α → Option β} {spelled : α → Nat} {size' : β → Nat}
    (hRead : ∀ a b, read a = some b → size' b ≤ spelled a) (node : Node α) (result : Node β)
    (h : mapLeaves? read node = some result) : size size' result ≤ size spelled node := by
  match node with
  | .name _ | .ellipsis =>
    cases h
    exact Nat.le_refl _
  | .literal leaf =>
    obtain ⟨value, hValue, rfl⟩ := Option.map_eq_some_iff.1 h
    exact hRead leaf value hValue
  | .subscript _ nodes =>
    obtain ⟨values, hValues, rfl⟩ := Option.map_eq_some_iff.1 h
    exact Nat.add_le_add_left (totalSize_mapAllLeaves? hRead nodes values hValues) 1
  | .union nodes | .intersection nodes | .list nodes =>
    obtain ⟨values, hValues, rfl⟩ := Option.map_eq_some_iff.1 h
    exact totalSize_mapAllLeaves? hRead nodes values hValues

theorem totalSize_mapAllLeaves? {α β : Type} {read : α → Option β} {spelled : α → Nat}
    {size' : β → Nat} (hRead : ∀ a b, read a = some b → size' b ≤ spelled a)
    (nodes : List (Node α)) (result : List (Node β)) (h : mapAllLeaves? read nodes = some result) :
    totalSize size' result ≤ totalSize spelled nodes := by
  match nodes with
  | [] =>
    cases h
    exact Nat.le_refl _
  | node :: nodes =>
    obtain ⟨value, hValue, h⟩ := Option.bind_eq_some_iff.1 h
    obtain ⟨values, hValues, h⟩ := Option.bind_eq_some_iff.1 h
    cases h
    exact Nat.add_le_add (size_mapLeaves? hRead node value hValue)
      (totalSize_mapAllLeaves? hRead nodes values hValues)

end

mutual

def text : Node Value → String
  | .name dotted => "_Name(value=" ++ Text.quote dotted ++ ")"
  | .subscript origin arguments =>
    "_Subscript(origin=_Name(value=" ++ Text.quote origin ++ "), arguments=["
      ++ Value.commaSeparated (texts arguments) ++ "])"
  | .union members => "_Union(members=[" ++ Value.commaSeparated (texts members) ++ "])"
  | .intersection members =>
    "_Intersection(members=[" ++ Value.commaSeparated (texts members) ++ "])"
  | .list items => "_TypeList(items=[" ++ Value.commaSeparated (texts items) ++ "])"
  | .literal value => "_Literal(value=" ++ value.text ++ ")"
  | .ellipsis => "_Ellipsis()"

def texts : List (Node Value) → List String
  | [] => []
  | node :: nodes => text node :: texts nodes

end

end Node
end Interpose.HintText

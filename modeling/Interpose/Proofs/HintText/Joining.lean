import Interpose.Proofs.HintText.Written
import Mathlib.Data.List.Basic

/-! # Joined annotations

Texts of annotations that are joined by bars are the text of one union, whose members are those of
the unions among them; likewise for ampersands and intersections. One annotation is itself.
-/
namespace Interpose.HintText

set_option autoImplicit false

inductive Joint where
  | bar
  | ampersand
  deriving DecidableEq, Repr

namespace Joint

variable {α : Type}

def node : Joint → List (Node α) → Node α
  | .bar => .union
  | .ampersand => .intersection

def separator : Joint → String
  | .bar => " | "
  | .ampersand => " & "

def position : Joint → Position
  | .bar => .member
  | .ampersand => .operand

/-- The trees that a tree is joined of; any other tree is its own part. -/
def parts : Joint → Node α → List (Node α)
  | .bar, .union members => members
  | .ampersand, .intersection members => members
  | _, node => [node]

/-- Whether a tree, as a part of a joined one, needs no parentheses and is not dissolved. -/
def IsPart : Joint → Node α → Prop
  | _, .union _ | .ampersand, .intersection _ => False
  | _, _ => True

/-- Some trees joined, where those among them that are joined alike are dissolved. -/
def join (joint : Joint) (nodes : List (Node α)) : Node α :=
  match nodes.flatMap joint.parts with
  | [node] => node
  | parts => joint.node parts

/-- Whether a tree can be joined to others: its parts are, and between ampersands no bar stands. -/
structure Joins (joint : Joint) (node : Node α) : Prop where
  parts_ne_nil : joint.parts node ≠ []
  isPart : ∀ part ∈ joint.parts node, joint.IsPart part
  noBar : joint = .ampersand → Joint.bar.IsPart node

theorem parts_node (joint : Joint) (nodes : List (Node α)) :
    joint.parts (joint.node nodes) = nodes := by
  cases joint <;> rfl

theorem parts_of_isPart {joint : Joint} {node : Node α} (h : joint.IsPart node) :
    joint.parts node = [node] := by
  cases joint <;> cases node <;> first | rfl | exact h.elim

theorem IsPart.noBar {joint : Joint} {node : Node α} (h : joint.IsPart node) :
    Joint.bar.IsPart node := by
  cases joint <;> cases node <;> trivial

theorem isPart_flatMap {joint : Joint} {nodes : List (Node α)}
    (h : ∀ node ∈ nodes, joint.Joins node) :
    ∀ part ∈ nodes.flatMap joint.parts, joint.IsPart part := by
  intro part hMem
  obtain ⟨node, hNode, hPart⟩ := List.mem_flatMap.1 hMem
  exact (h node hNode).isPart part hPart

theorem join_cases (joint : Joint) (nodes : List (Node α)) :
    (∃ node, nodes.flatMap joint.parts = [node] ∧ joint.join nodes = node) ∨
      ((nodes.flatMap joint.parts).length ≠ 1 ∧
        joint.join nodes = joint.node (nodes.flatMap joint.parts)) := by
  unfold join
  split
  next node hSingle => exact Or.inl ⟨node, hSingle, rfl⟩
  next hMany =>
    refine Or.inr ⟨fun hLength => ?_, rfl⟩
    obtain ⟨node, hSingle⟩ := List.length_eq_one_iff.1 hLength
    exact hMany node hSingle

theorem parts_join {joint : Joint} {nodes : List (Node α)} (h : ∀ node ∈ nodes, joint.Joins node) :
    joint.parts (joint.join nodes) = nodes.flatMap joint.parts := by
  rcases join_cases joint nodes with ⟨node, hSingle, hJoin⟩ | ⟨-, hJoin⟩
  · have hPart := isPart_flatMap h node (hSingle ▸ List.mem_cons_self)
    rw [hJoin, hSingle, parts_of_isPart hPart]
  · rw [hJoin, parts_node]

theorem joins_join {joint : Joint} {nodes : List (Node α)} (hSome : nodes ≠ [])
    (h : ∀ node ∈ nodes, joint.Joins node) : joint.Joins (joint.join nodes) where
  parts_ne_nil := by
    obtain ⟨node, more, rfl⟩ := List.exists_cons_of_ne_nil hSome
    rw [parts_join h, List.flatMap_cons]
    exact List.append_ne_nil_of_left_ne_nil (h node List.mem_cons_self).parts_ne_nil _
  isPart := by
    rw [parts_join h]
    exact isPart_flatMap h
  noBar := by
    rintro rfl
    rcases join_cases .ampersand nodes with ⟨node, hSingle, hJoin⟩ | ⟨-, hJoin⟩
    · rw [hJoin]
      exact (isPart_flatMap h node (hSingle ▸ List.mem_cons_self)).noBar
    · rw [hJoin]
      trivial

theorem joins_of_isPart {joint : Joint} {node : Node α} (h : joint.IsPart node) :
    joint.Joins node where
  parts_ne_nil := by
    rw [parts_of_isPart h]
    exact List.cons_ne_nil _ _
  isPart := by
    rw [parts_of_isPart h]
    exact fun part hMem => List.mem_singleton.1 hMem ▸ h
  noBar _ := h.noBar

theorem isHint_parts {isLeaf : α → Prop} {mayBeList : Bool} {node : Node α}
    (h : node.IsHint isLeaf mayBeList) (joint : Joint) :
    ∀ part ∈ joint.parts node, part.IsHint isLeaf mayBeList := by
  have hMembers : ∀ members : List (Node α), Node.AreHints isLeaf false members →
      ∀ part ∈ members, part.IsHint isLeaf mayBeList :=
    fun _ hMembers part hMem => (Node.areHints_iff.1 hMembers part hMem).mono
  have hSelf : ∀ part ∈ [node], part.IsHint isLeaf mayBeList :=
    fun part hMem => List.mem_singleton.1 hMem ▸ h
  cases joint with
  | bar =>
    cases node with
    | union members => exact hMembers members h.2
    | _ => exact hSelf
  | ampersand =>
    cases node with
    | intersection members => exact hMembers members h.2
    | _ => exact hSelf

theorem isHint_node {isLeaf : α → Prop} (joint : Joint) {nodes : List (Node α)}
    (hLength : 2 ≤ nodes.length) (h : ∀ node ∈ nodes, node.IsHint isLeaf false) :
    (joint.node nodes).IsHint isLeaf false := by
  cases joint <;> exact ⟨hLength, Node.areHints_iff.2 h⟩

theorem parts_ne_nil {isLeaf : α → Prop} {mayBeList : Bool} {node : Node α}
    (h : node.IsHint isLeaf mayBeList) (joint : Joint) : joint.parts node ≠ [] := by
  cases joint with
  | bar =>
    cases node with
    | union members => exact List.ne_nil_of_length_pos (Nat.lt_of_lt_of_le Nat.zero_lt_two h.1)
    | _ => exact List.cons_ne_nil _ _
  | ampersand =>
    cases node with
    | intersection members =>
      exact List.ne_nil_of_length_pos (Nat.lt_of_lt_of_le Nat.zero_lt_two h.1)
    | _ => exact List.cons_ne_nil _ _

theorem isHint_join {isLeaf : α → Prop} (joint : Joint) {nodes : List (Node α)}
    (hSome : nodes ≠ []) (h : ∀ node ∈ nodes, node.IsHint isLeaf false) :
    (joint.join nodes).IsHint isLeaf false := by
  have hParts : ∀ part ∈ nodes.flatMap joint.parts, part.IsHint isLeaf false := by
    intro part hMem
    obtain ⟨node, hNode, hPart⟩ := List.mem_flatMap.1 hMem
    exact isHint_parts (h node hNode) joint part hPart
  rcases join_cases joint nodes with ⟨node, hSingle, hJoin⟩ | ⟨hLength, hJoin⟩
  · rw [hJoin]
    exact hParts node (hSingle ▸ List.mem_cons_self)
  · obtain ⟨node, more, rfl⟩ := List.exists_cons_of_ne_nil hSome
    have hFirst := List.length_pos_iff.2 (parts_ne_nil (h node List.mem_cons_self) joint)
    rw [hJoin]
    refine isHint_node joint ?_ hParts
    rw [List.flatMap_cons, List.length_append] at hLength ⊢
    omega

end Joint

/-! ## Texts -/

namespace Node

theorem charsBehind_eq_flatMap (separator : List Char) (position : Position)
    (nodes : List (Node Value)) :
    charsBehind separator position nodes
      = nodes.flatMap fun node => separator ++ chars position node := by
  induction nodes with
  | nil => rfl
  | cons node nodes ih => rw [charsBehind, ih, List.flatMap_cons]

theorem charsOf_append (separator : List Char) (position : Position) {nodes : List (Node Value)}
    (h : nodes ≠ []) (more : List (Node Value)) :
    charsOf separator position (nodes ++ more)
      = charsOf separator position nodes ++ charsBehind separator position more := by
  obtain ⟨node, nodes, rfl⟩ := List.exists_cons_of_ne_nil h
  rw [List.cons_append, charsOf, charsOf, charsBehind_eq_flatMap, charsBehind_eq_flatMap,
    charsBehind_eq_flatMap, List.flatMap_append, List.append_assoc]

theorem charsBehind_eq (separator : List Char) (position : Position) {nodes : List (Node Value)}
    (h : nodes ≠ []) :
    charsBehind separator position nodes = separator ++ charsOf separator position nodes := by
  obtain ⟨node, nodes, rfl⟩ := List.exists_cons_of_ne_nil h
  rw [charsBehind, charsOf, List.append_assoc]

theorem toList_intercalate_cons (separator text : String) (texts : List String) :
    (separator.intercalate (text :: texts)).toList
      = text.toList ++ texts.flatMap fun text => separator.toList ++ text.toList := by
  induction texts generalizing text with
  | nil => rw [String.intercalate_singleton, List.flatMap_nil, List.append_nil]
  | cons next texts ih =>
    rw [String.intercalate_cons_cons, String.toList_append, String.toList_append, ih,
      List.flatMap_cons, List.append_assoc, List.append_assoc]

theorem toList_intercalate_append (separator text : String) (before after : List String) :
    (separator.intercalate (before ++ text :: after)).toList
      = before.flatMap (fun text => text.toList ++ separator.toList)
          ++ (separator.intercalate (text :: after)).toList := by
  induction before with
  | nil => rfl
  | cons first before ih =>
    rw [List.cons_append, String.intercalate_cons_of_ne_nil (by simp), String.toList_append,
      String.toList_append, ih, List.flatMap_cons, List.append_assoc, List.append_assoc,
      List.append_assoc]

theorem toList_intercalate_written (separator : String) (nodes : List (Node Value)) :
    (separator.intercalate (nodes.map written)).toList
      = charsOf separator.toList .whole nodes := by
  cases nodes with
  | nil => rfl
  | cons node nodes =>
    rw [List.map_cons, toList_intercalate_cons, charsOf, charsBehind_eq_flatMap, List.flatMap_map]
    simp only [written, String.toList_ofList]

end Node

namespace Joint

theorem chars_eq {joint : Joint} {node : Node Value} (h : joint.Joins node) :
    Node.chars .whole node
      = Node.charsOf joint.separator.toList joint.position (joint.parts node) := by
  have hNoBar := h.noBar
  cases joint with
  | bar =>
    cases node with
    | union members => rfl
    | _ => exact (List.append_nil _).symm
  | ampersand =>
    cases node with
    | union members => exact (hNoBar rfl).elim
    | intersection members => rfl
    | _ => exact (List.append_nil _).symm

theorem charsOf_flatMap_parts {joint : Joint} {nodes : List (Node Value)}
    (h : ∀ node ∈ nodes, joint.Joins node) :
    Node.charsOf joint.separator.toList joint.position (nodes.flatMap joint.parts)
      = Node.charsOf joint.separator.toList .whole nodes := by
  cases nodes with
  | nil => rfl
  | cons node nodes =>
    rw [List.forall_mem_cons] at h
    have hBehind : Node.charsBehind joint.separator.toList joint.position
        (nodes.flatMap joint.parts) = Node.charsBehind joint.separator.toList .whole nodes := by
      rw [Node.charsBehind_eq_flatMap, Node.charsBehind_eq_flatMap, List.flatMap_assoc]
      refine List.flatMap_congr fun node hMem => ?_
      rw [← Node.charsBehind_eq_flatMap, Node.charsBehind_eq _ _ (h.2 node hMem).parts_ne_nil,
        chars_eq (h.2 node hMem)]
    rw [List.flatMap_cons, Node.charsOf_append _ _ h.1.parts_ne_nil, ← chars_eq h.1, hBehind,
      Node.charsOf]

theorem written_join {joint : Joint} {nodes : List (Node Value)} (hSome : nodes ≠ [])
    (h : ∀ node ∈ nodes, joint.Joins node) :
    (joint.join nodes).written = joint.separator.intercalate (nodes.map Node.written) := by
  rw [← String.toList_inj, Node.toList_intercalate_written, ← charsOf_flatMap_parts h,
    ← parts_join h, ← chars_eq (joins_join hSome h), Node.written, String.toList_ofList]

end Joint
end Interpose.HintText

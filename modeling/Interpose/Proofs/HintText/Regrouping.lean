import Interpose.Proofs.HintText.Joining

/-! # Trees written without parentheses

A text without parentheses is a sum: products stand between its bars, and operands between the
ampersands of a product. When a tree is written without parentheses, an intersection that has a
union among its members falls apart, as only the neighbours of an ampersand stay together. What the
text is read as is the tree regrouped, which is the tree itself exactly if no union stands in an
intersection.
-/
namespace Interpose.HintText

set_option autoImplicit false

variable {α : Type}

/-! ## Sums -/

/-- A product with an ampersand and a sum behind it. -/
def prepend (product : List α) : List (List α) → List (List α)
  | [] => [product]
  | next :: more => (product ++ next) :: more

/-- Two sums with an ampersand between them, which takes the last product of the first sum and the
first product of the second one. -/
def splice : List (List α) → List (List α) → List (List α)
  | [], sum => sum
  | [product], sum => prepend product sum
  | product :: next :: more, sum => product :: splice (next :: more) sum

theorem splice_cons (product : List α) {more : List (List α)} (h : more ≠ [])
    (sum : List (List α)) : splice (product :: more) sum = product :: splice more sum := by
  obtain ⟨next, more, rfl⟩ := List.exists_cons_of_ne_nil h
  rfl

theorem prepend_ne_nil (product : List α) (sum : List (List α)) : prepend product sum ≠ [] := by
  cases sum <;> exact List.cons_ne_nil _ _

theorem splice_ne_nil {first : List (List α)} (h : first ≠ []) (second : List (List α)) :
    splice first second ≠ [] := by
  fun_induction splice first second with
  | case1 => exact absurd rfl h
  | case2 => exact prepend_ne_nil _ _
  | case3 => exact List.cons_ne_nil _ _

theorem splice_prepend (product : List α) {first : List (List α)} (h : first ≠ [])
    (second : List (List α)) :
    splice (prepend product first) second = prepend product (splice first second) := by
  cases first with
  | nil => exact absurd rfl h
  | cons next more =>
    cases more with
    | nil =>
      cases second with
      | nil => rfl
      | cons other others => exact congrArg (· :: others) (List.append_assoc _ _ _)
    | cons _ _ => rfl

theorem splice_assoc (first second third : List (List α)) :
    splice (splice first second) third = splice first (splice second third) := by
  induction first with
  | nil => rfl
  | cons product more ih =>
    cases more with
    | nil =>
      cases second with
      | nil => rfl
      | cons next others => exact splice_prepend product (List.cons_ne_nil _ _) third
    | cons next more =>
      rw [splice, splice, splice_cons product (splice_ne_nil (List.cons_ne_nil _ _) second), ih]

theorem splice_nil (sum : List (List α)) : splice sum [] = sum := by
  induction sum with
  | nil => rfl
  | cons product more ih =>
    cases more with
    | nil => rfl
    | cons next more => exact congrArg (product :: ·) ih

/-- Two sums with a bar or an ampersand between them. -/
def Joint.combine : Joint → List (List α) → List (List α) → List (List α)
  | .bar => List.append
  | .ampersand => splice

namespace Joint

variable (joint : Joint)

theorem combine_nil (sum : List (List α)) : joint.combine sum [] = sum := by
  cases joint with
  | bar => exact List.append_nil sum
  | ampersand => exact splice_nil sum

theorem combine_assoc (first second third : List (List α)) :
    joint.combine (joint.combine first second) third
      = joint.combine first (joint.combine second third) := by
  cases joint with
  | bar => exact List.append_assoc first second third
  | ampersand => exact splice_assoc first second third

end Joint

namespace Node

/-- The tree that the text of a sum is read as. -/
def ofSum (sum : List (List (Node α))) : Node α :=
  Joint.bar.join (sum.map Joint.ampersand.join)

mutual

/-- The sum that is left of a tree without its parentheses. -/
def sum : Node α → List (List (Node α))
  | .name dotted => [[.name dotted]]
  | .subscript origin arguments => [[.subscript origin (regroupedAll arguments)]]
  | .union members => sumOf .bar members
  | .intersection members => sumOf .ampersand members
  | .list items => [[.list (regroupedAll items)]]
  | .literal leaf => [[.literal leaf]]
  | .ellipsis => [[.ellipsis]]

def sumOf (joint : Joint) : List (Node α) → List (List (Node α))
  | [] => []
  | node :: nodes => joint.combine (sum node) (sumOf joint nodes)

def regroupedAll : List (Node α) → List (Node α)
  | [] => []
  | node :: nodes => ofSum (sum node) :: regroupedAll nodes

end

def regrouped (node : Node α) : Node α :=
  ofSum (sum node)

theorem sumOf_append (joint : Joint) (nodes more : List (Node α)) :
    sumOf joint (nodes ++ more) = joint.combine (sumOf joint nodes) (sumOf joint more) := by
  induction nodes with
  | nil =>
    cases joint <;> rfl
  | cons node nodes ih => rw [List.cons_append, sumOf, sumOf, ih, joint.combine_assoc]

theorem sumOf_singleton (joint : Joint) (node : Node α) : sumOf joint [node] = sum node :=
  joint.combine_nil _

theorem sum_node (joint : Joint) (nodes : List (Node α)) :
    sum (joint.node nodes) = sumOf joint nodes := by
  cases joint <;> rfl

theorem sumOf_parts (joint : Joint) (node : Node α) :
    sumOf joint (joint.parts node) = sum node := by
  cases joint with
  | bar =>
    cases node with
    | union members => rfl
    | _ => exact sumOf_singleton .bar _
  | ampersand =>
    cases node with
    | intersection members => rfl
    | _ => exact sumOf_singleton .ampersand _

theorem sum_join (joint : Joint) (nodes : List (Node α)) :
    sum (joint.join nodes) = sumOf joint nodes := by
  have hParts : sumOf joint (nodes.flatMap joint.parts) = sumOf joint nodes := by
    induction nodes with
    | nil => rfl
    | cons node nodes ih => rw [List.flatMap_cons, sumOf_append, sumOf_parts, ih, sumOf]
  rcases Joint.join_cases joint nodes with ⟨node, hSingle, hJoin⟩ | ⟨-, hJoin⟩
  · rw [hJoin, ← hParts, hSingle, sumOf_singleton]
  · rw [hJoin, sum_node, hParts]

/-! ## Trees in which no parentheses are needed -/

mutual

/-- Whether no union stands among the members of an intersection, at any depth. -/
def IsGrouped : Node α → Prop
  | .union members => AreGrouped members
  | .intersection members => (∀ member ∈ members, Joint.bar.IsPart member) ∧ AreGrouped members
  | .subscript _ arguments => AreGrouped arguments
  | .list items => AreGrouped items
  | .name _ | .literal _ | .ellipsis => True

def AreGrouped : List (Node α) → Prop
  | [] => True
  | node :: nodes => IsGrouped node ∧ AreGrouped nodes

end

mutual

/-- Whether unions and intersections have no members of their own kind. -/
def IsFlat : Node α → Prop
  | .union members =>
    (∀ member ∈ members, Joint.bar.parts member = [member]) ∧ AreFlat members
  | .intersection members =>
    (∀ member ∈ members, Joint.ampersand.parts member = [member]) ∧ AreFlat members
  | .subscript _ arguments => AreFlat arguments
  | .list items => AreFlat items
  | .name _ | .literal _ | .ellipsis => True

def AreFlat : List (Node α) → Prop
  | [] => True
  | node :: nodes => IsFlat node ∧ AreFlat nodes

end

theorem areGrouped_iff {nodes : List (Node α)} :
    AreGrouped nodes ↔ ∀ node ∈ nodes, IsGrouped node := by
  induction nodes with
  | nil => exact ⟨fun _ => List.forall_mem_nil _, fun _ => trivial⟩
  | cons node nodes ih => rw [List.forall_mem_cons, ← ih]; rfl

theorem areFlat_iff {nodes : List (Node α)} : AreFlat nodes ↔ ∀ node ∈ nodes, IsFlat node := by
  induction nodes with
  | nil => exact ⟨fun _ => List.forall_mem_nil _, fun _ => trivial⟩
  | cons node nodes ih => rw [List.forall_mem_cons, ← ih]; rfl

theorem isFlat_parts {node : Node α} (h : node.IsFlat) (joint : Joint) :
    ∀ part ∈ joint.parts node, joint.parts part = [part] ∧ part.IsFlat := by
  have hMembers : ∀ members : List (Node α), (∀ m ∈ members, joint.parts m = [m]) →
      AreFlat members → ∀ m ∈ members, joint.parts m = [m] ∧ m.IsFlat :=
    fun _ hKept hFlat m hMem => ⟨hKept m hMem, areFlat_iff.1 hFlat m hMem⟩
  have hSelf : joint.parts node = [node] →
      ∀ part ∈ joint.parts node, joint.parts part = [part] ∧ part.IsFlat := by
    intro hKept part hMem
    rw [hKept, List.mem_singleton] at hMem
    subst hMem
    exact ⟨hKept, h⟩
  cases joint with
  | bar =>
    cases node with
    | union members => exact hMembers members h.1 h.2
    | _ => exact hSelf rfl
  | ampersand =>
    cases node with
    | intersection members => exact hMembers members h.1 h.2
    | _ => exact hSelf rfl

theorem join_parts {isLeaf : α → Prop} {mayBeList : Bool} {node : Node α}
    (hHint : node.IsHint isLeaf mayBeList) (h : node.IsFlat) (joint : Joint) :
    joint.join (joint.parts node) = node := by
  have hKept : (joint.parts node).flatMap joint.parts = joint.parts node := by
    calc (joint.parts node).flatMap joint.parts
        = (joint.parts node).flatMap fun part => [part] :=
          List.flatMap_congr fun part hMem => (isFlat_parts h joint part hMem).1
      _ = joint.parts node := List.flatMap_singleton' _
  have hForm : joint.parts node = [node] ∨
      2 ≤ (joint.parts node).length ∧ joint.node (joint.parts node) = node := by
    cases joint with
    | bar =>
      cases node with
      | union members => exact .inr ⟨hHint.1, rfl⟩
      | _ => exact .inl rfl
    | ampersand =>
      cases node with
      | intersection members => exact .inr ⟨hHint.1, rfl⟩
      | _ => exact .inl rfl
  rcases Joint.join_cases joint (joint.parts node) with ⟨single, hSingle, hJoin⟩ | ⟨hMany, hJoin⟩
  · rw [hKept] at hSingle
    rcases hForm with hSelf | ⟨hLength, -⟩
    · exact hJoin.trans (List.singleton_inj.1 (hSingle.symm.trans hSelf))
    · rw [hSingle] at hLength
      exact absurd hLength (Nat.not_succ_le_self 1)
  · rw [hKept] at hMany hJoin
    rcases hForm with hSelf | ⟨-, hNode⟩
    · exact absurd (congrArg List.length hSelf) hMany
    · exact hJoin.trans hNode

theorem isFlat_join (joint : Joint) {nodes : List (Node α)} (h : ∀ node ∈ nodes, node.IsFlat) :
    (joint.join nodes).IsFlat := by
  have hParts : ∀ part ∈ nodes.flatMap joint.parts, joint.parts part = [part] ∧ part.IsFlat := by
    intro part hMem
    obtain ⟨node, hNode, hPart⟩ := List.mem_flatMap.1 hMem
    exact isFlat_parts (h node hNode) joint part hPart
  rcases Joint.join_cases joint nodes with ⟨node, hSingle, hJoin⟩ | ⟨-, hJoin⟩
  · rw [hJoin]
    exact (hParts node (hSingle ▸ List.mem_cons_self)).2
  · have hKept := fun part hMem => (hParts part hMem).1
    have hFlat := areFlat_iff.2 fun part hMem => (hParts part hMem).2
    rw [hJoin]
    cases joint <;> exact ⟨hKept, hFlat⟩

theorem ofSum_of_isFlat {isLeaf : α → Prop} {mayBeList : Bool} {node : Node α}
    (hHint : node.IsHint isLeaf mayBeList) (hFlat : node.IsFlat)
    (h : sum node = (Joint.bar.parts node).map Joint.ampersand.parts) :
    ofSum (sum node) = node := by
  have hProducts : ∀ part ∈ Joint.bar.parts node,
      (Joint.ampersand.join ∘ Joint.ampersand.parts) part = id part := fun part hMem =>
    join_parts (Joint.isHint_parts hHint .bar part hMem) (isFlat_parts hFlat .bar part hMem).2
      .ampersand
  rw [ofSum, h, List.map_map, List.map_congr_left hProducts, List.map_id]
  exact join_parts hHint hFlat .bar

theorem sumOf_bar {nodes : List (Node α)}
    (h : ∀ node ∈ nodes, sum node = [Joint.ampersand.parts node]) :
    sumOf .bar nodes = nodes.map Joint.ampersand.parts := by
  induction nodes with
  | nil => rfl
  | cons node nodes ih =>
    obtain ⟨hNode, hNodes⟩ := List.forall_mem_cons.1 h
    rw [sumOf, hNode, ih hNodes]
    rfl

theorem sumOf_ampersand {nodes : List (Node α)} (hSome : nodes ≠ [])
    (h : ∀ node ∈ nodes, sum node = [[node]]) : sumOf .ampersand nodes = [nodes] := by
  induction nodes with
  | nil => exact absurd rfl hSome
  | cons node nodes ih =>
    obtain ⟨hNode, hNodes⟩ := List.forall_mem_cons.1 h
    cases nodes with
    | nil => rw [sumOf_singleton, hNode]
    | cons next more =>
      rw [sumOf, hNode, ih (List.cons_ne_nil _ _) hNodes]
      rfl

mutual

theorem sum_of_isGrouped {isLeaf : α → Prop} {mayBeList : Bool} (node : Node α)
    (hHint : node.IsHint isLeaf mayBeList) (hFlat : node.IsFlat) (hGrouped : node.IsGrouped) :
    sum node = (Joint.bar.parts node).map Joint.ampersand.parts := by
  cases node with
  | name _ | literal _ | ellipsis => rfl
  | subscript origin arguments =>
    rw [sum, (sums_of_areGrouped arguments hHint.2 hFlat hGrouped).2]
    rfl
  | list items =>
    rw [sum, (sums_of_areGrouped items hHint.2 hFlat hGrouped).2]
    rfl
  | union members =>
    refine sumOf_bar fun member hMem => ?_
    rw [(sums_of_areGrouped members hHint.2 hFlat.2 hGrouped).1 member hMem, hFlat.1 member hMem]
    rfl
  | intersection members =>
    have hSome := List.ne_nil_of_length_pos (Nat.lt_of_lt_of_le Nat.zero_lt_two hHint.1)
    refine sumOf_ampersand hSome fun member hMem => ?_
    rw [(sums_of_areGrouped members hHint.2 hFlat.2 hGrouped.2).1 member hMem,
      Joint.parts_of_isPart (hGrouped.1 member hMem), List.map_singleton, hFlat.1 member hMem]

theorem sums_of_areGrouped {isLeaf : α → Prop} {mayBeList : Bool} (nodes : List (Node α))
    (hHints : AreHints isLeaf mayBeList nodes) (hFlat : AreFlat nodes)
    (hGrouped : AreGrouped nodes) :
    (∀ node ∈ nodes, sum node = (Joint.bar.parts node).map Joint.ampersand.parts) ∧
      regroupedAll nodes = nodes := by
  cases nodes with
  | nil => exact ⟨List.forall_mem_nil _, rfl⟩
  | cons node nodes =>
    have hSum := sum_of_isGrouped node hHints.1 hFlat.1 hGrouped.1
    obtain ⟨hSums, hNodes⟩ := sums_of_areGrouped nodes hHints.2 hFlat.2 hGrouped.2
    refine ⟨List.forall_mem_cons.2 ⟨hSum, hSums⟩, ?_⟩
    rw [regroupedAll, hNodes, ofSum_of_isFlat hHints.1 hFlat.1 hSum]

end

/-! ## What the text of a sum is read as -/

/-- Whether some operands can stand between ampersands, without parentheses in or around them. -/
def IsProduct (isLeaf : α → Prop) (product : List (Node α)) : Prop :=
  product ≠ [] ∧ ∀ operand ∈ product,
    Joint.ampersand.IsPart operand ∧ operand.IsHint isLeaf false ∧ operand.IsGrouped

def IsSum (isLeaf : α → Prop) (sum : List (List (Node α))) : Prop :=
  sum ≠ [] ∧ ∀ product ∈ sum, IsProduct isLeaf product

section IsSum

variable {isLeaf : α → Prop} {first second : List (List (Node α))}

theorem isSum_singleton {operand : Node α} (hPart : Joint.ampersand.IsPart operand)
    (hHint : operand.IsHint isLeaf false) (hGrouped : operand.IsGrouped) :
    IsSum isLeaf [[operand]] := by
  refine ⟨List.cons_ne_nil _ _, fun product hMem => ?_⟩
  rw [List.mem_singleton.1 hMem]
  refine ⟨List.cons_ne_nil _ _, fun other hOther => ?_⟩
  rw [List.mem_singleton.1 hOther]
  exact ⟨hPart, hHint, hGrouped⟩

theorem IsProduct.append {product next : List (Node α)} (h : IsProduct isLeaf product)
    (hNext : IsProduct isLeaf next) : IsProduct isLeaf (product ++ next) := by
  refine ⟨List.append_ne_nil_of_left_ne_nil h.1 next, fun operand hMem => ?_⟩
  rcases List.mem_append.1 hMem with hMem | hMem
  · exact h.2 operand hMem
  · exact hNext.2 operand hMem

theorem IsSum.splice (h : IsSum isLeaf first) (h' : IsSum isLeaf second) :
    IsSum isLeaf (splice first second) := by
  refine ⟨splice_ne_nil h.1 second, ?_⟩
  have hFirst := h.2
  clear h
  fun_induction HintText.splice first second with
  | case1 second => exact h'.2
  | case2 product second =>
    cases second with
    | nil => exact absurd rfl h'.1
    | cons next more =>
      obtain ⟨hNext, hMore⟩ := List.forall_mem_cons.1 h'.2
      exact List.forall_mem_cons.2 ⟨(hFirst product List.mem_cons_self).append hNext, hMore⟩
  | case3 product next more second ih =>
    obtain ⟨hProduct, hMore⟩ := List.forall_mem_cons.1 hFirst
    exact List.forall_mem_cons.2 ⟨hProduct, ih h' hMore⟩

theorem IsSum.combine (joint : Joint) (h : IsSum isLeaf first) (h' : IsSum isLeaf second) :
    IsSum isLeaf (joint.combine first second) := by
  cases joint with
  | bar =>
    refine ⟨List.append_ne_nil_of_left_ne_nil h.1 second, fun product hMem => ?_⟩
    rcases List.mem_append.1 hMem with hMem | hMem
    · exact h.2 product hMem
    · exact h'.2 product hMem
  | ampersand => exact h.splice h'

theorem IsProduct.joins {product : List (Node α)} (h : IsProduct isLeaf product) :
    ∀ operand ∈ product, Joint.ampersand.Joins operand :=
  fun operand hMem => Joint.joins_of_isPart (h.2 operand hMem).1

theorem IsProduct.joins_bar {product : List (Node α)} (h : IsProduct isLeaf product) :
    Joint.bar.Joins (Joint.ampersand.join product) :=
  Joint.joins_of_isPart ((Joint.joins_join h.1 h.joins).noBar rfl)

theorem IsSum.joins {sum : List (List (Node α))} (h : IsSum isLeaf sum) :
    ∀ node ∈ sum.map Joint.ampersand.join, Joint.bar.Joins node := by
  intro node hMem
  obtain ⟨product, hProduct, rfl⟩ := List.mem_map.1 hMem
  exact (h.2 product hProduct).joins_bar

theorem isGrouped_parts {node : Node α} (h : node.IsGrouped) (joint : Joint) :
    ∀ part ∈ joint.parts node, part.IsGrouped := by
  have hSelf : ∀ part ∈ [node], part.IsGrouped := fun part hMem => List.mem_singleton.1 hMem ▸ h
  cases joint with
  | bar =>
    cases node with
    | union members => exact areGrouped_iff.1 h
    | _ => exact hSelf
  | ampersand =>
    cases node with
    | intersection members => exact areGrouped_iff.1 h.2
    | _ => exact hSelf

theorem isGrouped_join {joint : Joint} {nodes : List (Node α)}
    (hJoins : ∀ node ∈ nodes, joint.Joins node) (h : ∀ node ∈ nodes, node.IsGrouped) :
    (joint.join nodes).IsGrouped := by
  have hParts : ∀ part ∈ nodes.flatMap joint.parts, part.IsGrouped := by
    intro part hMem
    obtain ⟨node, hNode, hPart⟩ := List.mem_flatMap.1 hMem
    exact isGrouped_parts (h node hNode) joint part hPart
  rcases Joint.join_cases joint nodes with ⟨node, hSingle, hJoin⟩ | ⟨-, hJoin⟩
  · rw [hJoin]
    exact hParts node (hSingle ▸ List.mem_cons_self)
  · rw [hJoin]
    cases joint with
    | bar => exact areGrouped_iff.2 hParts
    | ampersand =>
      exact ⟨fun part hMem => (Joint.isPart_flatMap hJoins part hMem).noBar,
        areGrouped_iff.2 hParts⟩

theorem IsSum.isHint_ofSum {sum : List (List (Node α))} (h : IsSum isLeaf sum) :
    (ofSum sum).IsHint isLeaf false := by
  refine Joint.isHint_join .bar (List.map_eq_nil_iff.not.2 h.1) fun node hMem => ?_
  obtain ⟨product, hProduct, rfl⟩ := List.mem_map.1 hMem
  have hOperands := h.2 product hProduct
  exact Joint.isHint_join .ampersand hOperands.1 fun operand hMem => (hOperands.2 operand hMem).2.1

theorem IsSum.isGrouped_ofSum {sum : List (List (Node α))} (h : IsSum isLeaf sum) :
    (ofSum sum).IsGrouped := by
  refine isGrouped_join h.joins fun node hMem => ?_
  obtain ⟨product, hProduct, rfl⟩ := List.mem_map.1 hMem
  have hOperands := h.2 product hProduct
  exact isGrouped_join hOperands.joins fun operand hMem => (hOperands.2 operand hMem).2.2

end IsSum

theorem IsHint.of_ne_list {isLeaf : α → Prop} {mayBeList : Bool} {node : Node α}
    (h : node.IsHint isLeaf mayBeList) (hOther : ∀ items, node ≠ .list items) :
    node.IsHint isLeaf false := by
  cases node with
  | list items => exact absurd rfl (hOther items)
  | _ => exact h

mutual

theorem isSum_sum {isLeaf : α → Prop} (node : Node α) (h : node.IsHint isLeaf false) :
    IsSum isLeaf (sum node) := by
  cases node with
  | name _ | literal _ | ellipsis => exact isSum_singleton trivial h trivial
  | list items => exact absurd h.1 (by decide)
  | subscript origin arguments =>
    obtain ⟨hHints, hGrouped⟩ := areHints_regroupedAll arguments h.2
    exact isSum_singleton trivial ⟨h.1, hHints⟩ hGrouped
  | union members =>
    exact isSum_sumOf .bar members
      (List.ne_nil_of_length_pos (Nat.lt_of_lt_of_le Nat.zero_lt_two h.1)) h.2
  | intersection members =>
    exact isSum_sumOf .ampersand members
      (List.ne_nil_of_length_pos (Nat.lt_of_lt_of_le Nat.zero_lt_two h.1)) h.2

theorem isSum_sumOf {isLeaf : α → Prop} (joint : Joint) (nodes : List (Node α))
    (hSome : nodes ≠ []) (h : AreHints isLeaf false nodes) : IsSum isLeaf (sumOf joint nodes) := by
  cases nodes with
  | nil => exact absurd rfl hSome
  | cons node nodes =>
    have hFirst := isSum_sum node h.1
    cases nodes with
    | nil =>
      rw [sumOf_singleton]
      exact hFirst
    | cons next more =>
      exact hFirst.combine joint (isSum_sumOf joint (next :: more) (List.cons_ne_nil _ _) h.2)

theorem areHints_regroupedAll {isLeaf : α → Prop} {mayBeList : Bool} (nodes : List (Node α))
    (h : AreHints isLeaf mayBeList nodes) :
    AreHints isLeaf mayBeList (regroupedAll nodes) ∧ AreGrouped (regroupedAll nodes) := by
  cases nodes with
  | nil => exact ⟨trivial, trivial⟩
  | cons node nodes =>
    obtain ⟨hHints, hGrouped⟩ := areHints_regroupedAll nodes h.2
    cases node with
    | list items =>
      obtain ⟨hItems, hItemsGrouped⟩ := areHints_regroupedAll items h.1.2
      exact ⟨⟨⟨h.1.1, hItems⟩, hHints⟩, hItemsGrouped, hGrouped⟩
    | name _ | subscript _ _ | union _ | intersection _ | literal _ | ellipsis =>
      have hSum := isSum_sum _ (h.1.of_ne_list fun _ => nofun)
      exact ⟨⟨hSum.isHint_ofSum.mono, hHints⟩, hSum.isGrouped_ofSum, hGrouped⟩

end

theorem isHint_regrouped {isLeaf : α → Prop} {node : Node α} (h : node.IsHint isLeaf false) :
    node.regrouped.IsHint isLeaf false :=
  (isSum_sum node h).isHint_ofSum

/-- A tree is the one that its text without parentheses is read as exactly if it needs none. -/
theorem regrouped_eq_iff {isLeaf : α → Prop} {node : Node α} (hHint : node.IsHint isLeaf false)
    (hFlat : node.IsFlat) : node.regrouped = node ↔ node.IsGrouped := by
  constructor
  · intro hSame
    rw [← hSame]
    exact (isSum_sum node hHint).isGrouped_ofSum
  · intro hGrouped
    exact ofSum_of_isFlat hHint hFlat (sum_of_isGrouped node hHint hFlat hGrouped)

/-! ## Intersections that fall apart -/

theorem length_splice {first second : List (List α)} (h : first ≠ []) (h' : second ≠ []) :
    (splice first second).length + 1 = first.length + second.length := by
  fun_induction splice first second with
  | case1 => exact absurd rfl h
  | case2 product second =>
    cases second with
    | nil => exact absurd rfl h'
    | cons next more =>
      simp only [prepend, List.length_cons, List.length_nil]
      omega
  | case3 product next more second ih =>
    have hMore := ih (List.cons_ne_nil _ _) h'
    rw [List.length_cons, List.length_cons]
    omega

theorem two_le_length_sumOf_bar {isLeaf : α → Prop} {nodes : List (Node α)}
    (hMany : 2 ≤ nodes.length) (h : AreHints isLeaf false nodes) :
    2 ≤ (sumOf .bar nodes).length := by
  obtain ⟨first, second, more, rfl⟩ : ∃ first second more, nodes = first :: second :: more := by
    match nodes with
    | first :: second :: more => exact ⟨first, second, more, rfl⟩
  have hFirst := List.length_pos_iff.2 (isSum_sum first h.1).1
  have hRest :=
    List.length_pos_iff.2 (isSum_sumOf .bar (second :: more) (List.cons_ne_nil _ _) h.2).1
  have hLength : (sumOf .bar (first :: second :: more)).length
      = (sum first).length + (sumOf .bar (second :: more)).length := List.length_append
  omega

theorem two_le_length_sum {isLeaf : α → Prop} {node : Node α} (h : node.IsHint isLeaf false)
    (hUnion : ¬ Joint.bar.IsPart node) : 2 ≤ (sum node).length := by
  cases node with
  | union members => exact two_le_length_sumOf_bar h.1 h.2
  | _ => exact absurd trivial hUnion

theorem two_le_length_sumOf_ampersand {isLeaf : α → Prop} {nodes : List (Node α)}
    (h : AreHints isLeaf false nodes) (hUnion : ∃ node ∈ nodes, ¬ Joint.bar.IsPart node) :
    2 ≤ (sumOf .ampersand nodes).length := by
  induction nodes with
  | nil =>
    obtain ⟨_, hMem, -⟩ := hUnion
    cases hMem
  | cons node nodes ih =>
    have hFirst := (isSum_sum node h.1).1
    cases nodes with
    | nil =>
      obtain ⟨other, hMem, hOther⟩ := hUnion
      rw [sumOf_singleton]
      exact two_le_length_sum h.1 (List.mem_singleton.1 hMem ▸ hOther)
    | cons next more =>
      have hRest := (isSum_sumOf .ampersand (next :: more) (List.cons_ne_nil _ _) h.2).1
      have hLength : (sumOf .ampersand (node :: next :: more)).length + 1
          = (sum node).length + (sumOf .ampersand (next :: more)).length :=
        length_splice hFirst hRest
      have hFirstLength := List.length_pos_iff.2 hFirst
      have hRestLength := List.length_pos_iff.2 hRest
      obtain ⟨other, hMem, hOther⟩ := hUnion
      obtain rfl | hMem := List.mem_cons.1 hMem
      · have := two_le_length_sum h.1 hOther
        omega
      · have := ih h.2 ⟨other, hMem, hOther⟩
        omega

theorem IsSum.ofSum_eq_union {isLeaf : α → Prop} {sum : List (List (Node α))}
    (h : IsSum isLeaf sum) (hMany : 2 ≤ sum.length) :
    ofSum sum = .union (sum.map Joint.ampersand.join) := by
  have hParts : (sum.map Joint.ampersand.join).flatMap Joint.bar.parts
      = sum.map Joint.ampersand.join := by
    calc (sum.map Joint.ampersand.join).flatMap Joint.bar.parts
        = (sum.map Joint.ampersand.join).flatMap fun node => [node] := by
          refine List.flatMap_congr fun node hMem => ?_
          obtain ⟨product, hProduct, rfl⟩ := List.mem_map.1 hMem
          have hOperands := h.2 product hProduct
          exact Joint.parts_of_isPart ((Joint.joins_join hOperands.1 hOperands.joins).noBar rfl)
      _ = sum.map Joint.ampersand.join := List.flatMap_singleton' _
  rcases Joint.join_cases .bar (sum.map Joint.ampersand.join) with ⟨node, hSingle, -⟩ | ⟨-, hJoin⟩
  · have hLength := congrArg List.length (hParts.symm.trans hSingle)
    rw [List.length_map, List.length_singleton] at hLength
    omega
  · rw [ofSum, hJoin, hParts]
    rfl

/-- An intersection with a union among its members is read as a union. -/
theorem regrouped_intersection {isLeaf : α → Prop} {members : List (Node α)}
    (h : (Node.intersection members).IsHint isLeaf false)
    (hUnion : ∃ member ∈ members, ¬ Joint.bar.IsPart member) :
    ∃ alternatives, (Node.intersection members).regrouped = .union alternatives := by
  have hSum := isSum_sum _ h
  exact ⟨_, hSum.ofSum_eq_union (two_le_length_sumOf_ampersand h.2 hUnion)⟩

/-! ## Texts -/

/-- The text of a sum. -/
def sumText (sum : List (List (Node Value))) : String :=
  " | ".intercalate (sum.map fun product => " & ".intercalate (product.map written))

theorem sumText_singleton (node : Node Value) : sumText [[node]] = node.written := by
  rw [sumText, List.map_singleton, List.map_singleton, String.intercalate_singleton,
    String.intercalate_singleton]

theorem IsSum.written_ofSum {isLeaf : Value → Prop} {sum : List (List (Node Value))}
    (h : IsSum isLeaf sum) : (ofSum sum).written = sumText sum := by
  rw [ofSum, Joint.written_join (List.map_eq_nil_iff.not.2 h.1) h.joins, List.map_map]
  refine congrArg _ (List.map_congr_left fun product hMem => ?_)
  exact Joint.written_join (h.2 product hMem).1 (h.2 product hMem).joins

theorem sumText_cons (product : List (Node Value)) {more : List (List (Node Value))}
    (h : more ≠ []) : sumText (product :: more) = sumText [product] ++ " | " ++ sumText more := by
  rw [sumText, List.map_cons, String.intercalate_cons_of_ne_nil (List.map_eq_nil_iff.not.2 h),
    sumText, List.map_singleton, String.intercalate_singleton, sumText]

theorem sumText_append_product {product next : List (Node Value)} (h : product ≠ [])
    (hNext : next ≠ []) :
    sumText [product ++ next] = sumText [product] ++ " & " ++ sumText [next] := by
  simp only [sumText, List.map_singleton, String.intercalate_singleton, List.map_append]
  exact String.intercalate_append_of_ne_nil (List.map_eq_nil_iff.not.2 h)
    (List.map_eq_nil_iff.not.2 hNext)

theorem sumText_splice {isLeaf : Value → Prop} {first second : List (List (Node Value))}
    (h : IsSum isLeaf first) (h' : IsSum isLeaf second) :
    sumText (splice first second) = sumText first ++ " & " ++ sumText second := by
  fun_induction splice first second with
  | case1 second => exact absurd rfl h.1
  | case2 product second =>
    cases second with
    | nil => exact absurd rfl h'.1
    | cons next more =>
      have hProduct := (h.2 product List.mem_cons_self).1
      have hNext := (h'.2 next List.mem_cons_self).1
      cases more with
      | nil => exact sumText_append_product hProduct hNext
      | cons other others =>
        rw [prepend, sumText_cons _ (List.cons_ne_nil _ _), sumText_append_product hProduct hNext,
          sumText_cons next (List.cons_ne_nil _ _)]
        simp only [String.append_assoc]
  | case3 product next more second ih =>
    have hMore : IsSum isLeaf (next :: more) :=
      ⟨List.cons_ne_nil _ _, fun other hMem => h.2 other (List.mem_cons_of_mem _ hMem)⟩
    rw [sumText_cons product (splice_ne_nil hMore.1 second), ih hMore h',
      sumText_cons product hMore.1]
    simp only [String.append_assoc]

theorem sumText_combine {isLeaf : Value → Prop} (joint : Joint)
    {first second : List (List (Node Value))} (h : IsSum isLeaf first) (h' : IsSum isLeaf second) :
    sumText (joint.combine first second) = sumText first ++ joint.separator ++ sumText second := by
  cases joint with
  | bar =>
    have hAppend : sumText (first ++ second) = sumText first ++ " | " ++ sumText second := by
      rw [sumText, List.map_append, String.intercalate_append_of_ne_nil
        (List.map_eq_nil_iff.not.2 h.1) (List.map_eq_nil_iff.not.2 h'.1)]
      rfl
    exact hAppend
  | ampersand => exact sumText_splice h h'

theorem sumText_sumOf {isLeaf : Value → Prop} (joint : Joint) {nodes : List (Node Value)}
    (hSome : nodes ≠ []) (h : AreHints isLeaf false nodes) :
    sumText (sumOf joint nodes)
      = joint.separator.intercalate (nodes.map fun node => sumText (sum node)) := by
  induction nodes with
  | nil => exact absurd rfl hSome
  | cons node nodes ih =>
    cases nodes with
    | nil => rw [sumOf_singleton, List.map_singleton, String.intercalate_singleton]
    | cons next more =>
      have hMore := isSum_sumOf joint (next :: more) (List.cons_ne_nil _ _) h.2
      rw [sumOf, sumText_combine joint (isSum_sum node h.1) hMore, ih (List.cons_ne_nil _ _) h.2]
      exact (String.intercalate_cons_of_ne_nil (List.cons_ne_nil _ _)).symm

theorem written_regrouped {isLeaf : Value → Prop} {mayBeList : Bool} {node : Node Value}
    (h : node.IsHint isLeaf mayBeList) : node.regrouped.written = sumText node.sum := by
  cases node with
  | list items => exact (sumText_singleton _).symm
  | name _ | subscript _ _ | union _ | intersection _ | literal _ | ellipsis =>
    exact (isSum_sum _ (h.of_ne_list fun _ => nofun)).written_ofSum

theorem written_regroupedAll {isLeaf : Value → Prop} {mayBeList : Bool}
    {nodes : List (Node Value)} (h : AreHints isLeaf mayBeList nodes) :
    (regroupedAll nodes).map written = nodes.map fun node => sumText node.sum := by
  induction nodes with
  | nil => rfl
  | cons node nodes ih =>
    rw [regroupedAll, List.map_cons, List.map_cons, ih h.2]
    exact congrArg (· :: _) (written_regrouped h.1)

end Node
end Interpose.HintText

import Mathlib
import Interpose.Hint
import Interpose.Proofs.HintText.Regrouping
import Interpose.Proofs.Sequence

/-! # Rendered hints are read back

A type is written as the text of a tree, in which a nullable type is a union with `None` and types
that are joined directly make up one union or intersection. The text of a hint is read as that tree,
so types with different trees have different texts.
-/
namespace Interpose

set_option autoImplicit false

open HintText (Joint Node)

/-! ## Names -/

/-- Whether the name and the module consist of ASCII identifiers with points between them. -/
def NamedType.IsDotted (t : NamedType) : Prop :=
  Node.IsDotted t.name ∧ ∀ module ∈ t.module, Node.IsDotted module

instance : DecidablePred NamedType.IsDotted := fun t =>
  inferInstanceAs (Decidable (Node.IsDotted t.name ∧ ∀ module ∈ t.module, Node.IsDotted module))

def NamedType.IsEllipsis (t : NamedType) : Prop :=
  t.name = "..." ∧ (t.isBuiltin = true ∨ t.module = Option.none)

def NamedType.IsName (t : NamedType) : Prop :=
  t.IsDotted ∨ t.IsEllipsis

namespace HintSite

def writtenName (site : HintSite) (t : NamedType) : String :=
  if t.name = "static" then "Self"
  else
    match site.resolve t with
    | .ok resolved => if resolved.isBuiltin then resolved.name else resolved.qualifiedName
    | .error _ => t.name

def Refers (site : HintSite) (condition : NamedType → Prop) (t : NamedType) : Prop :=
  ∀ resolved, site.resolve t = .ok resolved → condition resolved

end HintSite

namespace TypeExpr

/-! ## Trees -/

def orNone (isNullable : Bool) (node : Node Value) : Node Value :=
  if isNullable then Joint.bar.join [node, .name "None"] else node

def nameTree (name : String) : Node Value :=
  if name = "..." then .ellipsis else .name name

mutual

/-- The tree that a type is written as at the result of a method. -/
def tree (site : HintSite) : TypeExpr → Node Value
  | .named t =>
    let name := site.writtenName t
    orNone (t.isNullable && name ≠ "Any") (nameTree name)
  | .union members => Joint.bar.join (trees site members)
  | .intersection members => Joint.ampersand.join (trees site members)
  | .generic origin arguments isNullable =>
    orNone isNullable (.subscript (site.writtenName origin) (trees site arguments))
  | .list items => .list (trees site items)
  | .literal v => .literal v

def trees (site : HintSite) : List TypeExpr → List (Node Value)
  | [] => []
  | t :: ts => tree site t :: trees site ts

end

theorem trees_ne_nil (site : HintSite) {ts : List TypeExpr} (h : ts ≠ []) :
    trees site ts ≠ [] := by
  obtain ⟨t, ts, rfl⟩ := List.exists_cons_of_ne_nil h
  exact List.cons_ne_nil _ _

/-! ## Types that can be written -/

/-- Whether the type is no alternative of types, so that it can stand in an intersection. -/
def IsOperand : TypeExpr → Prop
  | .union _ => False
  | .named t => t.isNullable = false
  | .generic _ _ isNullable => isNullable = false
  | _ => True

mutual

/-- Whether the parts of a type can be written: dotted names, alternatives and common types of
which there is at least one, lists only as arguments, and literals that have a notation. -/
def IsWritable (site : HintSite) (mayBeList : Bool) : TypeExpr → Prop
  | .named t => site.Refers NamedType.IsName t
  | .union members => members ≠ [] ∧ AreWritable site false members
  | .intersection members =>
    members ≠ [] ∧ AreWritable site false members ∧ ∀ member ∈ members, member.IsOperand
  | .generic origin arguments _ =>
    site.Refers NamedType.IsDotted origin ∧ origin.isNullable = false
      ∧ AreWritable site true arguments
  | .list items => mayBeList = true ∧ AreWritable site false items
  | .literal v => v.IsHintLiteral

def AreWritable (site : HintSite) (mayBeList : Bool) : List TypeExpr → Prop
  | [] => True
  | t :: ts => IsWritable site mayBeList t ∧ AreWritable site mayBeList ts

end

/-! ## Types whose trees have a notation -/

mutual

/-- Whether the tree of a type has a notation, possibly one with parentheses: the parts of the type
can be written, whatever stands in an intersection. -/
def HasNotation (site : HintSite) (mayBeList : Bool) : TypeExpr → Prop
  | .named t => site.Refers NamedType.IsName t
  | .union members => members ≠ [] ∧ HaveNotations site false members
  | .intersection members => members ≠ [] ∧ HaveNotations site false members
  | .generic origin arguments _ =>
    site.Refers NamedType.IsDotted origin ∧ origin.isNullable = false
      ∧ HaveNotations site true arguments
  | .list items => mayBeList = true ∧ HaveNotations site false items
  | .literal v => v.IsHintLiteral

def HaveNotations (site : HintSite) (mayBeList : Bool) : List TypeExpr → Prop
  | [] => True
  | t :: ts => HasNotation site mayBeList t ∧ HaveNotations site mayBeList ts

end

mutual

theorem IsWritable.hasNotation {site : HintSite} {mayBeList : Bool} (t : TypeExpr)
    (h : t.IsWritable site mayBeList) : t.HasNotation site mayBeList := by
  cases t with
  | named _ | literal _ => exact h
  | union members => exact ⟨h.1, AreWritable.haveNotations members h.2⟩
  | intersection members => exact ⟨h.1, AreWritable.haveNotations members h.2.1⟩
  | generic origin arguments _ => exact ⟨h.1, h.2.1, AreWritable.haveNotations arguments h.2.2⟩
  | list items => exact ⟨h.1, AreWritable.haveNotations items h.2⟩

theorem AreWritable.haveNotations {site : HintSite} {mayBeList : Bool} (ts : List TypeExpr)
    (h : AreWritable site mayBeList ts) : HaveNotations site mayBeList ts := by
  cases ts with
  | nil => trivial
  | cons t ts => exact ⟨IsWritable.hasNotation t h.1, AreWritable.haveNotations ts h.2⟩

end

end TypeExpr

/-! ## Written names -/

theorem NamedType.isDotted_qualifiedName {t : NamedType} (h : t.IsDotted) :
    Node.IsDotted t.qualifiedName := by
  unfold NamedType.qualifiedName
  split
  next module hModule => exact Node.isDotted_append (h.2 module hModule) h.1
  next => exact h.1

theorem NamedType.qualifiedName_of_isEllipsis {t : NamedType} (h : t.IsEllipsis) :
    (if t.isBuiltin then t.name else t.qualifiedName) = "..." := by
  obtain ⟨hName, hBuiltin | hModule⟩ := h
  · rw [if_pos hBuiltin, hName]
  · rw [NamedType.qualifiedName, hModule, hName, ite_self]

namespace HintSite

variable {site : HintSite} {t : NamedType}

theorem resolve_error {e : Failure} (h : site.resolve t = .error e) : t.name = "parent" := by
  unfold resolve at h
  split at h
  next => contradiction
  next =>
    split at h
    next hParent => exact hParent
    next => contradiction

theorem resolve_static (h : t.name = "static") : site.resolve t = .ok t := by
  rw [resolve, h, if_neg (by decide), if_neg (by decide)]

theorem isDotted_writtenName (h : site.Refers NamedType.IsDotted t) :
    Node.IsDotted (site.writtenName t) := by
  unfold writtenName
  split
  next => decide
  next =>
    split
    next resolved hResolved =>
      have hDotted := h resolved hResolved
      split
      next => exact hDotted.1
      next => exact NamedType.isDotted_qualifiedName hDotted
    next hError =>
      rw [resolve_error hError]
      decide

theorem refers_of_resolve {condition : NamedType → Prop} {resolved : NamedType}
    (hResolved : site.resolve t = .ok resolved) (h : condition resolved) :
    site.Refers condition t := by
  intro other hOther
  exact Except.ok.inj (hResolved.symm.trans hOther) ▸ h

theorem writtenName_of_isEllipsis {resolved : NamedType} (h : site.resolve t = .ok resolved)
    (hEllipsis : resolved.IsEllipsis) : site.writtenName t = "..." := by
  have hStatic : t.name ≠ "static" := by
    intro hName
    obtain rfl : t = resolved := Except.ok.inj ((resolve_static hName).symm.trans h)
    exact absurd (hName.symm.trans hEllipsis.1) (by decide)
  rw [writtenName, if_neg hStatic, h]
  exact NamedType.qualifiedName_of_isEllipsis hEllipsis

end HintSite

namespace TypeExpr

/-! ## Shapes -/

theorem isHint_nameTree {site : HintSite} {t : NamedType} {mayBeList : Bool}
    (h : site.Refers NamedType.IsName t) :
    (nameTree (site.writtenName t)).IsHint Value.IsHintLiteral mayBeList := by
  unfold nameTree
  split
  next => trivial
  next hName =>
    refine HintSite.isDotted_writtenName fun resolved hResolved => ?_
    refine (h resolved hResolved).resolve_right fun hEllipsis => hName ?_
    exact HintSite.writtenName_of_isEllipsis hResolved hEllipsis

theorem isPart_nameTree (joint : Joint) (name : String) : joint.IsPart (nameTree name) := by
  unfold nameTree
  split <;> cases joint <;> trivial

theorem isPart_subscript (joint : Joint) (origin : String) (arguments : List (Node Value)) :
    joint.IsPart (.subscript origin arguments) := by
  cases joint <;> trivial

theorem joins_none {node : Node Value} (h : Joint.bar.IsPart node) :
    ∀ part ∈ [node, .name "None"], Joint.bar.Joins part := by
  intro part hMem
  rcases List.mem_pair.1 hMem with rfl | rfl
  · exact Joint.joins_of_isPart h
  · exact Joint.joins_of_isPart trivial

theorem joins_orNone {node : Node Value} (h : Joint.bar.IsPart node) (isNullable : Bool) :
    Joint.bar.Joins (orNone isNullable node) := by
  unfold orNone
  split
  next => exact Joint.joins_join (List.cons_ne_nil _ _) (joins_none h)
  next => exact Joint.joins_of_isPart h

theorem isHint_orNone {node : Node Value} {mayBeList : Bool}
    (h : ∀ mayBeList, node.IsHint Value.IsHintLiteral mayBeList) (isNullable : Bool) :
    (orNone isNullable node).IsHint Value.IsHintLiteral mayBeList := by
  unfold orNone
  split
  next =>
    refine Node.IsHint.mono (Joint.isHint_join .bar (List.cons_ne_nil _ _) fun part hMem => ?_)
    rcases List.mem_pair.1 hMem with rfl | rfl
    · exact h false
    · show Node.IsDotted "None"
      decide
  next => exact h mayBeList

mutual

theorem joins_tree {site : HintSite} (t : TypeExpr) (h : t.IsWritable site false) :
    Joint.bar.Joins (t.tree site) ∧ (t.IsOperand → Joint.ampersand.Joins (t.tree site)) := by
  cases t with
  | named t =>
    refine ⟨joins_orNone (isPart_nameTree .bar _) _, fun hOperand => ?_⟩
    rw [IsOperand] at hOperand
    rw [tree, hOperand]
    exact Joint.joins_of_isPart (isPart_nameTree .ampersand _)
  | generic origin arguments isNullable =>
    refine ⟨joins_orNone (isPart_subscript .bar _ _) _, fun hOperand => ?_⟩
    rw [IsOperand] at hOperand
    rw [tree, hOperand]
    exact Joint.joins_of_isPart (isPart_subscript .ampersand _ _)
  | list items => exact absurd h.1 (by decide)
  | literal v => exact ⟨Joint.joins_of_isPart trivial, fun _ => Joint.joins_of_isPart trivial⟩
  | union members =>
    exact ⟨Joint.joins_join (trees_ne_nil site h.1) (joins_trees members h.2).1, False.elim⟩
  | intersection members =>
    have hJoins := Joint.joins_join (trees_ne_nil site h.1) ((joins_trees members h.2.1).2 h.2.2)
    exact ⟨Joint.joins_of_isPart (hJoins.noBar rfl), fun _ => hJoins⟩

theorem joins_trees {site : HintSite} (ts : List TypeExpr) (h : AreWritable site false ts) :
    (∀ node ∈ trees site ts, Joint.bar.Joins node) ∧
      ((∀ t ∈ ts, t.IsOperand) → ∀ node ∈ trees site ts, Joint.ampersand.Joins node) := by
  cases ts with
  | nil => exact ⟨List.forall_mem_nil _, fun _ => List.forall_mem_nil _⟩
  | cons t ts =>
    obtain ⟨hBar, hAmpersand⟩ := joins_tree t h.1
    obtain ⟨hBars, hAmpersands⟩ := joins_trees ts h.2
    refine ⟨List.forall_mem_cons.2 ⟨hBar, hBars⟩, fun hOperands => ?_⟩
    rw [List.forall_mem_cons] at hOperands
    exact List.forall_mem_cons.2 ⟨hAmpersand hOperands.1, hAmpersands hOperands.2⟩

end

mutual

theorem isHint_tree {site : HintSite} {mayBeList : Bool} (t : TypeExpr)
    (h : t.HasNotation site mayBeList) :
    (t.tree site).IsHint Value.IsHintLiteral mayBeList := by
  cases t with
  | named t => exact isHint_orNone (fun _ => isHint_nameTree h) _
  | generic origin arguments isNullable =>
    refine isHint_orNone (fun mayBeList => ?_) _
    exact ⟨HintSite.isDotted_writtenName h.1, isHint_trees arguments h.2.2⟩
  | list items => exact ⟨h.1, isHint_trees items h.2⟩
  | literal v => exact h
  | union members =>
    have hTrees := Node.areHints_iff.1 (isHint_trees members h.2)
    exact (Joint.isHint_join .bar (trees_ne_nil site h.1) hTrees).mono
  | intersection members =>
    have hTrees := Node.areHints_iff.1 (isHint_trees members h.2)
    exact (Joint.isHint_join .ampersand (trees_ne_nil site h.1) hTrees).mono

theorem isHint_trees {site : HintSite} {mayBeList : Bool} (ts : List TypeExpr)
    (h : HaveNotations site mayBeList ts) :
    Node.AreHints Value.IsHintLiteral mayBeList (trees site ts) := by
  cases ts with
  | nil => trivial
  | cons t ts => exact ⟨isHint_tree t h.1, isHint_trees ts h.2⟩

end

theorem isFlat_nameTree (name : String) : (nameTree name).IsFlat := by
  unfold nameTree
  split <;> trivial

theorem isFlat_orNone {node : Node Value} (h : node.IsFlat) (isNullable : Bool) :
    (orNone isNullable node).IsFlat := by
  unfold orNone
  split
  next =>
    refine Node.isFlat_join .bar fun part hMem => ?_
    rcases List.mem_pair.1 hMem with rfl | rfl
    · exact h
    · trivial
  next => exact h

mutual

theorem isFlat_tree {site : HintSite} (t : TypeExpr) : (t.tree site).IsFlat := by
  cases t with
  | named t => exact isFlat_orNone (isFlat_nameTree _) _
  | generic origin arguments isNullable =>
    have hSubscript : (Node.subscript (site.writtenName origin) (trees site arguments)).IsFlat :=
      areFlat_trees arguments
    exact isFlat_orNone hSubscript _
  | list items => exact areFlat_trees items
  | literal v => trivial
  | union members => exact Node.isFlat_join .bar (Node.areFlat_iff.1 (areFlat_trees members))
  | intersection members =>
    exact Node.isFlat_join .ampersand (Node.areFlat_iff.1 (areFlat_trees members))

theorem areFlat_trees {site : HintSite} (ts : List TypeExpr) : Node.AreFlat (trees site ts) := by
  cases ts with
  | nil => trivial
  | cons t ts => exact ⟨isFlat_tree t, areFlat_trees ts⟩

end

theorem isGrouped_nameTree (name : String) : (nameTree name).IsGrouped := by
  unfold nameTree
  split <;> trivial

theorem isGrouped_orNone {node : Node Value} (hPart : Joint.bar.IsPart node) (h : node.IsGrouped)
    (isNullable : Bool) : (orNone isNullable node).IsGrouped := by
  unfold orNone
  split
  next =>
    refine Node.isGrouped_join (joins_none hPart) fun part hMem => ?_
    rcases List.mem_pair.1 hMem with rfl | rfl
    · exact h
    · trivial
  next => exact h

mutual

theorem isGrouped_tree {site : HintSite} {mayBeList : Bool} (t : TypeExpr)
    (h : t.IsWritable site mayBeList) : (t.tree site).IsGrouped := by
  cases t with
  | named t => exact isGrouped_orNone (isPart_nameTree .bar _) (isGrouped_nameTree _) _
  | generic origin arguments isNullable =>
    have hSubscript : (Node.subscript (site.writtenName origin) (trees site arguments)).IsGrouped :=
      Node.areGrouped_iff.2 (isGrouped_trees arguments h.2.2)
    exact isGrouped_orNone (isPart_subscript .bar _ _) hSubscript _
  | list items => exact Node.areGrouped_iff.2 (isGrouped_trees items h.2)
  | literal v => trivial
  | union members =>
    exact Node.isGrouped_join (joins_trees members h.2).1 (isGrouped_trees members h.2)
  | intersection members =>
    exact Node.isGrouped_join ((joins_trees members h.2.1).2 h.2.2) (isGrouped_trees members h.2.1)

theorem isGrouped_trees {site : HintSite} {mayBeList : Bool} (ts : List TypeExpr)
    (h : AreWritable site mayBeList ts) : ∀ node ∈ trees site ts, node.IsGrouped := by
  cases ts with
  | nil => exact List.forall_mem_nil _
  | cons t ts =>
    exact List.forall_mem_cons.2 ⟨isGrouped_tree t h.1, isGrouped_trees ts h.2⟩

end

/-! ## Texts -/

theorem written_nameTree (name : String) : (nameTree name).written = name := by
  unfold nameTree
  split
  next hName => rw [hName]; rfl
  next => exact String.ofList_toList

theorem written_orNone {node : Node Value} (h : Joint.bar.IsPart node) (isNullable : Bool) :
    (orNone isNullable node).written
      = if isNullable then node.written ++ " | None" else node.written := by
  unfold orNone
  split
  next =>
    have hNone : (Node.name "None" : Node Value).written = "None" := String.ofList_toList
    rw [Joint.written_join (List.cons_ne_nil _ _) (joins_none h), List.map_cons, List.map_cons,
      List.map_nil, String.intercalate_cons_cons, String.intercalate_singleton, hNone,
      String.append_assoc]
    rfl
  next => rfl

theorem written_subscript (origin : String) (arguments : List (Node Value)) :
    (Node.subscript origin arguments).written
      = origin ++ "[" ++ ", ".intercalate (arguments.map Node.written) ++ "]" := by
  rw [← String.toList_inj, String.toList_append, String.toList_append, String.toList_append,
    Node.toList_intercalate_written, Node.written, String.toList_ofList,
    List.append_assoc origin.toList]
  rfl

theorem written_list (items : List (Node Value)) :
    (Node.list items).written = "[" ++ ", ".intercalate (items.map Node.written) ++ "]" := by
  rw [← String.toList_inj, String.toList_append, String.toList_append,
    Node.toList_intercalate_written, Node.written, String.toList_ofList]
  rfl

theorem sumText_nameTree (name : String) : Node.sumText (nameTree name).sum = name := by
  have hSum : (nameTree name).sum = [[nameTree name]] := by
    unfold nameTree
    split <;> rfl
  rw [hSum, Node.sumText_singleton, written_nameTree]

theorem sumText_orNone {node : Node Value} (h : node.IsHint Value.IsHintLiteral false)
    (isNullable : Bool) :
    Node.sumText (orNone isNullable node).sum
      = if isNullable then Node.sumText node.sum ++ " | None" else Node.sumText node.sum := by
  unfold orNone
  split
  next =>
    have hParts : Node.AreHints Value.IsHintLiteral false [node, .name "None"] := by
      refine ⟨h, ?_, trivial⟩
      show Node.IsDotted "None"
      decide
    have hNone : Node.sumText (Node.name "None").sum = "None" := sumText_nameTree "None"
    rw [Node.sum_join, Node.sumText_sumOf .bar (List.cons_ne_nil _ _) hParts, List.map_cons,
      List.map_singleton, String.intercalate_cons_cons, String.intercalate_singleton, hNone,
      String.append_assoc]
    rfl
  next => rfl

end TypeExpr

namespace Hint

variable {world : World} {site : HintSite}

theorem mark_eq (hSite : site.parameter = none) (top isNullable : Bool) (text : String) :
    site.mark top isNullable text = if isNullable then text ++ " | None" else text := by
  rw [HintSite.mark, HintSite.hidesNullable, hSite, Bool.not_false, Bool.and_true]

theorem text_nameOf {t : NamedType} {r : Rendered} (h : nameOf world site t = .ok r) :
    r.text = site.writtenName t := by
  rw [nameOf_world] at h
  obtain ⟨resolved, hResolved, h⟩ := Sequence.bind_eq_ok_iff.1 h
  unfold HintSite.writtenName
  by_cases hStatic : t.name = "static"
  · rw [if_pos hStatic] at h ⊢
    cases h
    rfl
  rw [if_neg hStatic] at h
  rw [if_neg hStatic, hResolved]
  by_cases hBuiltin : resolved.isBuiltin = true
  · simp only [if_pos hBuiltin] at h ⊢
    cases h
    rfl
  · simp only [if_neg hBuiltin] at h ⊢
    obtain ⟨found, -, h⟩ := Sequence.bind_eq_ok_iff.1 h
    cases found with
    | false => contradiction
    | true =>
      cases h
      rfl

theorem text_ofNamed (hSite : site.parameter = none) {top : Bool} {t : NamedType} {r : Rendered}
    (h : ofNamed world site top t = .ok r) :
    r.text = (TypeExpr.tree site (.named t)).written := by
  obtain ⟨name, hName, h⟩ := Sequence.bind_eq_ok_iff.1 h
  have hText := text_nameOf hName
  rw [TypeExpr.tree, TypeExpr.written_orNone (TypeExpr.isPart_nameTree .bar _),
    TypeExpr.written_nameTree, ← hText]
  by_cases hAny : name.text = "Any"
  · rw [if_pos hAny] at h
    cases h
    simp [hAny]
  · rw [if_neg hAny] at h
    cases h
    simp [hAny, mark_eq hSite]

theorem text_ofOrigin {origin : NamedType} {r : Rendered} (hNullable : origin.isNullable = false)
    (h : ofNamed world site false origin = .ok r) : r.text = site.writtenName origin := by
  obtain ⟨name, hName, h⟩ := Sequence.bind_eq_ok_iff.1 h
  rw [← text_nameOf hName]
  split at h
  next =>
    cases h
    rfl
  next =>
    rw [HintSite.mark, hNullable] at h
    cases h
    rfl

mutual

/-- The text of a hint is that of the type's tree without its parentheses. -/
theorem text_eq_sumText (hSite : site.parameter = none) {mayBeList top : Bool} (t : TypeExpr)
    (hNotation : t.HasNotation site mayBeList) {r : Rendered}
    (h : ofType world site top t = .ok r) : r.text = Node.sumText (t.tree site).sum := by
  cases t with
  | named t =>
    rw [text_ofNamed hSite h, TypeExpr.tree,
      TypeExpr.written_orNone (TypeExpr.isPart_nameTree .bar _), TypeExpr.written_nameTree,
      TypeExpr.sumText_orNone (TypeExpr.isHint_nameTree hNotation), TypeExpr.sumText_nameTree]
  | literal v =>
    cases h
    rw [TypeExpr.tree, Node.sum, Node.sumText_singleton]
    exact String.ofList_toList.symm
  | list items =>
    obtain ⟨parts, hParts, h⟩ := Sequence.bind_eq_ok_iff.1 h
    cases h
    have hTrees := TypeExpr.isHint_trees items hNotation.2
    rw [TypeExpr.tree, Node.sum, Node.sumText_singleton, TypeExpr.written_list,
      Node.written_regroupedAll hTrees, ← texts_eq_sumTexts hSite items hNotation.2 hParts]
    rfl
  | union members =>
    obtain ⟨parts, hParts, h⟩ := Sequence.bind_eq_ok_iff.1 h
    cases h
    have hTrees := TypeExpr.isHint_trees members hNotation.2
    rw [TypeExpr.tree, Node.sum_join,
      Node.sumText_sumOf .bar (TypeExpr.trees_ne_nil site hNotation.1) hTrees,
      ← texts_eq_sumTexts hSite members hNotation.2 hParts]
    rfl
  | intersection members =>
    obtain ⟨parts, hParts, h⟩ := Sequence.bind_eq_ok_iff.1 h
    cases h
    have hTrees := TypeExpr.isHint_trees members hNotation.2
    rw [TypeExpr.tree, Node.sum_join,
      Node.sumText_sumOf .ampersand (TypeExpr.trees_ne_nil site hNotation.1) hTrees,
      ← texts_eq_sumTexts hSite members hNotation.2 hParts]
    rfl
  | generic origin arguments isNullable =>
    obtain ⟨name, hName, h⟩ := Sequence.bind_eq_ok_iff.1 h
    obtain ⟨parts, hParts, h⟩ := Sequence.bind_eq_ok_iff.1 h
    cases h
    have hOrigin := text_ofOrigin hNotation.2.1 hName
    have hTrees := TypeExpr.isHint_trees arguments hNotation.2.2
    have hSubscript : Node.IsHint Value.IsHintLiteral false
        (.subscript (site.writtenName origin) (TypeExpr.trees site arguments)) :=
      ⟨HintSite.isDotted_writtenName hNotation.1, hTrees⟩
    rw [TypeExpr.tree, TypeExpr.sumText_orNone hSubscript, Node.sum, Node.sumText_singleton,
      TypeExpr.written_subscript, Node.written_regroupedAll hTrees,
      ← texts_eq_sumTexts hSite arguments hNotation.2.2 hParts, ← hOrigin, mark_eq hSite]
    rfl

theorem texts_eq_sumTexts (hSite : site.parameter = none) {mayBeList top : Bool}
    (ts : List TypeExpr) (hNotation : TypeExpr.HaveNotations site mayBeList ts)
    {parts : List Rendered} (h : ofTypes world site top ts = .ok parts) :
    parts.map Rendered.text = (TypeExpr.trees site ts).map fun node => Node.sumText node.sum := by
  cases ts with
  | nil =>
    cases h
    rfl
  | cons t ts =>
    obtain ⟨part, hPart, h⟩ := Sequence.bind_eq_ok_iff.1 h
    obtain ⟨parts, hParts, h⟩ := Sequence.bind_eq_ok_iff.1 h
    cases h
    rw [TypeExpr.trees, List.map_cons, List.map_cons, text_eq_sumText hSite t hNotation.1 hPart,
      texts_eq_sumTexts hSite ts hNotation.2 hParts]

end

theorem text_ofType (hSite : site.parameter = none) {top : Bool} (t : TypeExpr)
    (hWritable : t.IsWritable site false) {r : Rendered} (h : ofType world site top t = .ok r) :
    r.text = (t.tree site).written := by
  have hTree := TypeExpr.isHint_tree t hWritable.hasNotation
  have hSame := (Node.regrouped_eq_iff hTree (TypeExpr.isFlat_tree t)).2
    (TypeExpr.isGrouped_tree t hWritable)
  calc r.text
      = Node.sumText (t.tree site).sum := text_eq_sumText hSite t hWritable.hasNotation h
    _ = (t.tree site).regrouped.written := (Node.written_regrouped hTree).symm
    _ = (t.tree site).written := by rw [hSame]

end Hint

/-- The hint of a type that can be written, at the result of a method, is read as the tree of the
type; and another type whose hint is the same text has the same tree. -/
theorem rendered_hint_read_back (world : World) (method : Method) (top : Bool) {t : TypeExpr}
    {r : Rendered} (hWritable : t.IsWritable ⟨method, none⟩ false)
    (h : Hint.ofType world ⟨method, none⟩ top t = .ok r) :
    HintText.parse r.text = .ok (t.tree ⟨method, none⟩) ∧
      ∀ (world' : World) method' top' other rendered, other.IsWritable ⟨method', none⟩ false →
        Hint.ofType world' ⟨method', none⟩ top' other = .ok rendered → rendered.text = r.text →
          other.tree ⟨method', none⟩ = t.tree ⟨method, none⟩ := by
  have hParse : ∀ {world : World} {method : Method} {top : Bool} {t : TypeExpr} {r : Rendered},
      t.IsWritable ⟨method, none⟩ false → Hint.ofType world ⟨method, none⟩ top t = .ok r →
        HintText.parse r.text = .ok (t.tree ⟨method, none⟩) := by
    intro world method top t r hWritable h
    rw [Hint.text_ofType rfl t hWritable h]
    exact HintText.parse_written (TypeExpr.isHint_tree t hWritable.hasNotation)
  refine ⟨hParse hWritable h, fun world' method' top' other rendered hOther hRendered hText => ?_⟩
  have hTree := hParse hOther hRendered
  rw [hText] at hTree
  exact Except.ok.inj (hTree.symm.trans (hParse hWritable h))

namespace RenderedHint.Sample

def record : ClassRef := ⟨"m", "Record", 1, false⟩

/-- A class whose name is not an ASCII identifier. -/
def measure : ClassRef := ⟨"m", "Größe", 2, false⟩

def world : World where
  modules := [⟨"m", false, [("Record", .cls record), ("Größe", .cls measure)]⟩]
  classes := []
  memory := []

def method (declaring : ClassRef) : Method := { name := "add", declaring := .ofClass declaring }

def site : HintSite := ⟨method record, none⟩

def operands : List TypeExpr := [.named (.builtin "int"), .named (.unresolved "self")]

def type : TypeExpr :=
  .union [
    .generic (.builtin "Callable")
      [.list [.named { NamedType.builtin "str" with isNullable := true }],
        .named (.unresolved "self")] true,
    .intersection operands, .literal (.str "a | 'b'"), .literal (.int (-7))]

end RenderedHint.Sample

open RenderedHint.Sample in
theorem rendered_hint_read_back_of_callable :
    type.IsWritable site false ∧ ∃ r, Hint.ofType world site true type = .ok r ∧
      HintText.parse r.text = .ok (type.tree site) := by
  have hWritable : type.IsWritable site false := by
    have hCallable : site.Refers NamedType.IsDotted (.builtin "Callable") :=
      HintSite.refers_of_resolve rfl (by decide)
    have hString :
        site.Refers NamedType.IsName { NamedType.builtin "str" with isNullable := true } :=
      HintSite.refers_of_resolve rfl (Or.inl (by decide))
    have hInteger : site.Refers NamedType.IsName (.builtin "int") :=
      HintSite.refers_of_resolve rfl (Or.inl (by decide))
    have hSelf : site.Refers NamedType.IsName (.unresolved "self") :=
      HintSite.refers_of_resolve rfl (Or.inl (by decide))
    have hOperands : ∀ member ∈ operands, member.IsOperand := by
      intro member hMem
      rcases List.mem_pair.1 hMem with rfl | rfl <;> rfl
    have hDigits : (Nat.toDigits 10 7).length ≤ HintText.digitLimit := by decide
    exact ⟨List.cons_ne_nil _ _, ⟨hCallable, rfl, ⟨rfl, hString, trivial⟩, hSelf, trivial⟩,
      ⟨List.cons_ne_nil _ _, ⟨hInteger, hSelf, trivial⟩, hOperands⟩, trivial, hDigits, trivial⟩
  exact ⟨hWritable, _, rfl, (rendered_hint_read_back world (method record) true hWritable rfl).1⟩

open RenderedHint.Sample in
/-- An intersection of no types has an empty text, and a relative name is written as the name of a
class, which need not be an ASCII identifier; neither text can be read. -/
theorem rendered_hint_not_read_back :
    (Hint.ofType world site true (.intersection []) = .ok ⟨"", []⟩ ∧
      ∀ node, HintText.parse "" ≠ .ok node) ∧
    ((NamedType.unresolved "self").IsDotted ∧
      Hint.ofType world ⟨method measure, none⟩ true (.named (.unresolved "self"))
        = .ok ⟨"m.Größe", ["m"]⟩ ∧
      ∀ node, HintText.parse "m.Größe" ≠ .ok node) := by
  have hEmpty : HintText.spelled? "".toList = none := by decide +kernel
  have hForeign : HintText.spelled? "m.Größe".toList = none := by decide +kernel
  refine ⟨⟨rfl, fun node h => ?_⟩, ⟨⟨by decide, fun _ hMem => nomatch hMem⟩, rfl, fun node h => ?_⟩⟩
  · rw [HintText.parse, HintText.parseShown, hEmpty] at h
    contradiction
  · rw [HintText.parse, HintText.parseShown, hForeign] at h
    contradiction

end Interpose

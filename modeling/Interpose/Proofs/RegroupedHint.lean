import Interpose.Proofs.LiveHint.Converted
import Interpose.Proofs.RenderedHint

/-! # Rendered hints have no parentheses

A type is written without parentheses. So its text is read as the tree of the type regrouped: an
intersection with a union or a nullable type among its members is read as a union, and the other
trees are read back.
-/
namespace Interpose

set_option autoImplicit false

open HintText (Joint Node)

/-- The hint of a type whose tree has a notation, at the result of a method, is read as the tree of
the type regrouped. It is read as that tree itself exactly if no union stands among the members of
an intersection, at any depth; and an intersection that has a union among its members is always
read as a union. -/
theorem rendered_hint_regrouped (world : World) (method : Method) (top : Bool) {t : TypeExpr}
    {r : Rendered} (hNotation : t.HasNotation ⟨method, none⟩ false)
    (h : Hint.ofType world ⟨method, none⟩ top t = .ok r) :
    HintText.parse r.text = .ok (t.tree ⟨method, none⟩).regrouped ∧
      (HintText.parse r.text = .ok (t.tree ⟨method, none⟩) ↔
        (t.tree ⟨method, none⟩).IsGrouped) ∧
      ∀ members, t.tree ⟨method, none⟩ = .intersection members →
        (∃ member ∈ members, ¬ Joint.bar.IsPart member) →
        ∃ alternatives, HintText.parse r.text = .ok (.union alternatives) := by
  have hTree := TypeExpr.isHint_tree t hNotation
  have hParse : HintText.parse r.text = .ok (t.tree ⟨method, none⟩).regrouped := by
    rw [Hint.text_eq_sumText rfl t hNotation h, ← Node.written_regrouped hTree]
    exact HintText.parse_written (Node.isHint_regrouped hTree)
  refine ⟨hParse, ?_, fun members hMembers hUnion => ?_⟩
  · rw [hParse, Except.ok.injEq]
    exact Node.regrouped_eq_iff hTree (TypeExpr.isFlat_tree t)
  · rw [hMembers] at hTree hParse
    obtain ⟨alternatives, hAlternatives⟩ := Node.regrouped_intersection hTree hUnion
    exact ⟨alternatives, hAlternatives ▸ hParse⟩

namespace RegroupedHint.Sample

open RenderedHint.Sample (site)

def optionalInteger : TypeExpr := .named { NamedType.builtin "int" with isNullable := true }

/-- A list of what is both of the declaring class and an integer or nothing. -/
def narrowed : TypeExpr :=
  .generic (.builtin "list") [.intersection [.named (.unresolved "self"), optionalInteger]] false

theorem hasNotation_narrowed : narrowed.HasNotation site false := by
  have hList : site.Refers NamedType.IsDotted (.builtin "list") :=
    HintSite.refers_of_resolve rfl (by decide)
  have hSelf : site.Refers NamedType.IsName (.unresolved "self") :=
    HintSite.refers_of_resolve rfl (Or.inl (by decide))
  have hInteger : optionalInteger.HasNotation site false :=
    HintSite.refers_of_resolve rfl (Or.inl (by decide))
  exact ⟨hList, rfl, ⟨List.cons_ne_nil _ _, hSelf, hInteger, trivial⟩, trivial⟩

end RegroupedHint.Sample

open RenderedHint.Sample RegroupedHint.Sample in
theorem rendered_hint_regrouped_of_narrowed :
    narrowed.HasNotation site false ∧ ∃ r, Hint.ofType world site true narrowed = .ok r ∧
      r.text = "list[m.Record & int | None]" ∧
      HintText.parse r.text = .ok (.subscript "list"
        [.union [.intersection [.name "m.Record", .name "int"], .name "None"]]) ∧
      narrowed.tree site = .subscript "list"
        [.intersection [.name "m.Record", .union [.name "int", .name "None"]]] ∧
      ¬ (narrowed.tree site).IsGrouped := by
  obtain ⟨hParse, -, -⟩ :=
    rendered_hint_regrouped world (method record) true hasNotation_narrowed rfl
  refine ⟨hasNotation_narrowed, _, rfl, rfl, hParse, rfl, fun hGrouped => ?_⟩
  exact hGrouped.1.1 (.union [.name "int", .name "None"])
    (List.mem_cons_of_mem _ List.mem_cons_self)

namespace RegroupedHint.Sample

def left : ClassRef := ⟨"m", "A", 1, false⟩

def middle : ClassRef := ⟨"m", "B", 2, false⟩

def right : ClassRef := ⟨"m", "C", 3, false⟩

def letters : World where
  modules := [⟨"m", false, [("A", .cls left), ("B", .cls middle), ("C", .cls right)]⟩]
  classes := []
  memory := []

def grouping : Node Value := .intersection [.name "A", .union [.name "B", .name "C"]]

def other : Node Value := .union [.intersection [.name "m.A", .name "m.B"], .name "m.C"]

theorem parse_grouping : HintText.parse "A & (B | C)" = .ok grouping := by
  have hHint : grouping.IsHint Value.IsHintLiteral false :=
    ⟨by decide, (by decide : Node.IsDotted "A"), ⟨by decide, (by decide : Node.IsDotted "B"),
      (by decide : Node.IsDotted "C"), trivial⟩, trivial⟩
  have hWritten : grouping.written = "A & (B | C)" := rfl
  exact hWritten ▸ HintText.parse_written hHint

theorem parse_other : HintText.parse "m.A & m.B | m.C" = .ok other := by
  have hHint : other.IsHint Value.IsHintLiteral false :=
    ⟨by decide, ⟨by decide, (by decide : Node.IsDotted "m.A"), (by decide : Node.IsDotted "m.B"),
      trivial⟩, (by decide : Node.IsDotted "m.C"), trivial⟩
  have hWritten : other.written = "m.A & m.B | m.C" := rfl
  exact hWritten ▸ HintText.parse_written hHint

def grouped : TypeExpr :=
  .intersection [.named (.ofClass left), .union [.named (.ofClass middle), .named (.ofClass right)]]

theorem ofNode_letter (places : List Place) (name : String) (c : ClassRef)
    (hFind : ((letters.namespaceOf "m").find name).map Found.object = some (.value (.cls c)))
    (hName : ¬ relativeNames.contains name = true ∧ name ≠ "None")
    (hClass : c ≠ ClassRef.genericClass) :
    Conversion.ofNode (letters.namespaceOf "m") places (.name name) = Conversion.classType c := by
  rw [Conversion.ofNode, if_neg hName.1, if_neg hName.2,
    Conversion.ofName_eq_ofObject hFind hClass, Conversion.ofObject, Conversion.ofValue]

theorem toType_grouping :
    (Object.value (.str "A & (B | C)")).toType (letters.namespaceOf "m") = .ok grouped := by
  have hLeft := ofNode_letter (letters.namespaceOf "m").places "A" left rfl (by decide) (by decide)
  have hMiddle :=
    ofNode_letter (letters.namespaceOf "m").places "B" middle rfl (by decide) (by decide)
  have hRight :=
    ofNode_letter (letters.namespaceOf "m").places "C" right rfl (by decide) (by decide)
  rw [toType_text parse_grouping, grouping, Conversion.ofNode, Conversion.ofNodes, hLeft,
    Conversion.ofNodes, Conversion.ofNode]
  simp only [Conversion.ofNodes, hMiddle, hRight]
  rfl

end RegroupedHint.Sample

open RegroupedHint.Sample in
/-- The parentheses of the annotation are lost, and with them the intersection. -/
theorem intersection_not_kept :
    HintText.parse "A & (B | C)" = .ok grouping ∧
    (Object.value (.str "A & (B | C)")).toType (letters.namespaceOf "m") = .ok grouped ∧
    grouped.tree ⟨RenderedHint.Sample.method left, none⟩
      = .intersection [.name "m.A", .union [.name "m.B", .name "m.C"]] ∧
    Hint.ofType letters ⟨RenderedHint.Sample.method left, none⟩ true grouped
      = .ok ⟨"m.A & m.B | m.C", ["m", "m", "m"]⟩ ∧
    HintText.parse "m.A & m.B | m.C"
      = .ok (.union [.intersection [.name "m.A", .name "m.B"], .name "m.C"]) :=
  ⟨parse_grouping, toType_grouping, rfl, rfl, parse_other⟩

end Interpose

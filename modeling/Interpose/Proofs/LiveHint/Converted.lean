import Interpose.Proofs.LiveHint.Arguments

/-! # Texts and objects are converted alike

The converter of trees and the converter of objects treat each construct on their own. On an
annotation that a tree spells they agree, down to the failures of the texts quoted in it.
-/
namespace Interpose

set_option autoImplicit false

open HintText

namespace Conversion

variable {ns : Namespace} {places : List Place}

/-! ## Several parts -/

theorem ofObjects_eq_mapM (objects : List Object) :
    ofObjects ns places objects = objects.mapM (ofObject ns places) := by
  induction objects with
  | nil =>
    rw [ofObjects]
    rfl
  | cons object objects ih => rw [ofObjects, List.mapM_cons, ih]

theorem ofObjects_congr {objects others : List Object}
    (h : objects.map (ofObject ns places) = others.map (ofObject ns places)) :
    ofObjects ns places objects = ofObjects ns places others := by
  have hMapM : ∀ items : List Object,
      ofObjects ns places items = (items.map (ofObject ns places)).mapM id := by
    intro items
    rw [ofObjects_eq_mapM, List.mapM_map]
    rfl
  rw [hMapM, hMapM, h]

theorem ofNodes_parts {parts : List HintPart}
    (h : ∀ part ∈ parts, ofNode ns places part.node = ofObject ns places part.object) :
    ofNodes ns places (parts.map HintPart.node)
      = ofObjects ns places (parts.map HintPart.object) := by
  induction parts with
  | nil =>
    rw [List.map_nil, List.map_nil, ofNodes, ofObjects]
  | cons part parts ih =>
    obtain ⟨hFirst, hRest⟩ := List.forall_mem_cons.1 h
    rw [List.map_cons, List.map_cons, ofNodes, ofObjects, hFirst, ih hRest]

/-! ## Objects -/

theorem ofObject_asArgument (object : Object) :
    ofObject ns places object.asArgument = ofObject ns places object := by
  cases object with
  | value v =>
    cases v with
    | str s => rw [Object.asArgument, ofObject, ofObject, ofValue, Value.text]
    | strSub s => rw [Object.asArgument, ofObject, ofObject, ofValue, Value.text]
    | none =>
      rw [Object.asArgument, ofObject, ofObject, ofValue, ofValue]
      rfl
    | _ => rfl
  | _ => rfl

theorem map_ofObject_asArgument (objects : List Object) :
    (objects.map Object.asArgument).map (ofObject ns places)
      = objects.map (ofObject ns places) := by
  rw [List.map_map]
  exact List.map_congr_left fun object _ => ofObject_asArgument object

theorem ofObjects_asArgument (objects : List Object) :
    ofObjects ns places (objects.map Object.asArgument) = ofObjects ns places objects :=
  ofObjects_congr (map_ofObject_asArgument objects)

theorem map_ofObject_checkedArguments {subject : Object} (objects : List Object)
    (h : subject.isCallableOrigin = false) :
    (Typing.checkedArguments subject objects).map (ofObject ns places)
      = objects.map (ofObject ns places) := by
  rw [Typing.checkedArguments.eq_def]
  split
  · have hAll : objects.dropLast ++ objects.getLast?.toList = objects := by
      rcases List.eq_nil_or_concat objects with rfl | ⟨first, last, rfl⟩
      · rfl
      · rw [List.concat_eq_append, List.dropLast_concat, List.getLast?_concat]
        rfl
    rw [List.map_append, map_ofObject_asArgument, ← List.map_append, hAll]
  · contradiction
  · exact map_ofObject_asArgument objects

theorem classType_eq_ok {c : ClassRef} (h : c ≠ ClassRef.genericClass) :
    ∃ t, classType c = .ok (.named t) := by
  by_cases hAny : c = ClassRef.anyClass
  · exact ⟨_, by rw [classType, if_pos hAny]⟩
  · exact ⟨_, by rw [classType, if_neg hAny, if_neg h]⟩

theorem ofObject_cls (c : ClassRef) : ofObject ns places (.cls c) = classType c := by
  rw [ofObject, ofValue]

theorem ofObject_nameable {object : Object} (h : object.IsNameable) :
    ∃ t, ofObject ns places object = .ok (.named t) := by
  cases object with
  | value v =>
    cases v with
    | cls c =>
      rw [ofObject_cls]
      exact classType_eq_ok h
    | _ => exact h.elim
  | «alias» name c =>
    rw [ofObject]
    exact classType_eq_ok h
  | typeVariable v =>
    rw [ofObject]
    exact ⟨_, rfl⟩
  | variablePart v keyword =>
    rw [ofObject]
    exact ⟨_, rfl⟩
  | special name =>
    rw [ofObject]
    exact ⟨_, rfl⟩
  | _ => exact h.elim

theorem textSize_nameable {object : Object} (h : object.IsNameable) : object.textSize = 0 := by
  cases object with
  | value v =>
    cases v with
    | cls c => rfl
    | _ => exact h.elim
  | «alias» | typeVariable | variablePart | special => rfl
  | _ => exact h.elim

theorem ofName_of_textless {dotted : String} {object : Object}
    (hFind : (ns.find dotted).map Found.object = some object) (h : object.textSize = 0) :
    ofName ns places dotted = ofObject ns places object := by
  obtain ⟨found, hFound, rfl⟩ := Option.map_eq_some_iff.1 hFind
  rw [ofName, hFound]
  dsimp only
  rw [if_pos h]

theorem ofName_eq_ofObject {dotted : String} {object : Object}
    (hFind : (ns.find dotted).map Found.object = some object) (h : object.IsNameable) :
    ofName ns places dotted = ofObject ns places object :=
  ofName_of_textless hFind (textSize_nameable h)

/-! ## Subscripts -/

theorem ofObject_generic {typed : Bool} {subject : Object} {t : NamedType} {objects : List Object}
    (hSubject : ofObject ns places subject = .ok (.named t)) (hSome : objects ≠ []) :
    ofObject ns places (.generic typed subject objects)
      = (ofObjects ns places objects).map fun types => .generic t types false := by
  rw [ofObject, hSubject]
  cases objects with
  | nil => exact absurd rfl hSome
  | cons _ _ => rfl

theorem ofNode_ordinary {origin : String} {subject : Object} {nodes : List (Node Value)}
    {t : NamedType} (hFind : (ns.find origin).map Found.object = some subject)
    (hNameable : subject.IsNameable) (hSubject : ofObject ns places subject = .ok (.named t))
    (hForm : subscriptForm (some subject) nodes.length = .ordinary) :
    ofNode ns places (.subscript origin nodes)
      = (ofNodes ns places nodes).map fun types => .generic t types false := by
  rw [ofNode.eq_def]
  simp only [hFind, hForm, ofName_eq_ofObject hFind hNameable, hSubject]
  rfl

theorem ofNode_eq_generic {origin : String} {typed : Bool} {subject : Object}
    {nodes : List (Node Value)} {objects : List Object}
    (hFind : (ns.find origin).map Found.object = some subject) (hNameable : subject.IsNameable)
    (hForm : subscriptForm (some subject) nodes.length = .ordinary) (hSome : objects ≠ [])
    (hNodes : ofNodes ns places nodes = ofObjects ns places objects) :
    ofNode ns places (.subscript origin nodes)
      = ofObject ns places (.generic typed subject objects) := by
  obtain ⟨t, hSubject⟩ := ofObject_nameable hNameable
  rw [ofNode_ordinary hFind hNameable hSubject hForm, ofObject_generic hSubject hSome, hNodes]

theorem ofNode_union {origin : String} {nodes : List (Node Value)}
    (hFind : (ns.find origin).map Found.object = some (.special "Union")) :
    ofNode ns places (.subscript origin nodes)
      = (ofNodes ns places nodes).map TypeExpr.unite := by
  rw [ofNode.eq_def]
  simp only [hFind]
  rfl

theorem ofNode_optional {origin : String} {node : Node Value}
    (hFind : (ns.find origin).map Found.object = some (.special "Optional")) :
    ofNode ns places (.subscript origin [node])
      = (ofNodes ns places [node]).map fun types => TypeExpr.unite (types ++ [.named .none]) := by
  rw [ofNode.eq_def]
  simp only [hFind]
  rfl

theorem ofObject_union (typed : Bool) (members : List Object) :
    ofObject ns places (.union typed members)
      = (ofObjects ns places members).map TypeExpr.unite := by
  rw [ofObject]
  rfl

theorem literalValues?_map (values : List Value) :
    literalValues? (values.map Node.literal) = some values := by
  rw [literalValues?, List.mapM_map]
  induction values with
  | nil => rfl
  | cons v values ih =>
    rw [List.mapM_cons, ih]
    rfl

theorem ofNode_literal {origin : String} {values : List Value}
    (hFind : (ns.find origin).map Found.object = some (.special "Literal")) :
    ofNode ns places (.subscript origin (values.map .literal))
      = ofObject ns places (.literal values) := by
  rw [ofNode.eq_def, ofObject]
  simp only [hFind, literalValues?_map]
  rfl

theorem ofNode_annotated {origin : String} {node : Node Value} {nodes : List (Node Value)}
    (hFind : (ns.find origin).map Found.object = some Typing.annotatedClass) :
    ofNode ns places (.subscript origin (node :: nodes)) = ofNode ns places node := by
  rw [ofNode.eq_def]
  simp only [hFind]
  rfl

theorem ofObject_annotate (base : Object) (notes : List Object) :
    ofObject ns places (Object.annotate base notes) = ofObject ns places base := by
  rw [Object.annotate.eq_def]
  split
  · rw [ofObject, ofObject]
  · rw [ofObject]

end Conversion

/-! ## Texts -/

theorem toType_text {ns : Namespace} {text : String} {node : Node Value}
    (h : HintText.parse text = .ok node) :
    (Object.value (.str text)).toType ns = Conversion.ofNode ns ns.places node := by
  rw [HintText.parse] at h
  rw [Object.toType, Conversion.ofObject, Conversion.ofValue, Conversion.ofText, Value.text, h]

theorem toType_forward (ns : Namespace) (s : String) :
    (Object.forward s).toType ns = Conversion.ofText ns ns.places s (Text.quote s) := by
  rw [Object.toType, Conversion.ofObject]

end Interpose

import Interpose.Proofs.LiveHint.Converted

/-! # Annotations have one type

By induction on how an annotation is built, its tree and the object that it denotes are converted
to the same type, and they are converted if the texts quoted in it are.
-/
namespace Interpose

set_option autoImplicit false

open HintText Conversion

/-- Whether a tree and an object that is not a list of several are converted alike. -/
structure Agrees (ns : Namespace) (places : List Place) (node : Node Value) (object : Object) :
    Prop where
  isSingle : object.IsSingle
  same : ofNode ns places node = ofObject ns places object

variable {ns : Namespace} {places : List Place} {world : World}

theorem isSingle_nameable {object : Object} (h : object.IsNameable) : object.IsSingle := by
  cases object with
  | value v =>
    cases v with
    | cls c => exact ⟨rfl, rfl⟩
    | _ => exact h.elim
  | «alias» | typeVariable | variablePart | special => exact ⟨rfl, rfl⟩
  | _ => exact h.elim

theorem agrees_name {dotted : String} {object : Object}
    (hFind : (ns.find dotted).map Found.object = some object) (hNameable : object.IsNameable)
    (hRelative : dotted ∉ relativeNames) (hNone : dotted ≠ "None") :
    Agrees ns places (.name dotted) object := by
  refine ⟨isSingle_nameable hNameable, ?_⟩
  have hNot : ¬ relativeNames.contains dotted = true :=
    fun h => hRelative (List.contains_iff_mem.1 h)
  rw [ofNode, if_neg hNot, if_neg hNone]
  exact ofName_eq_ofObject hFind hNameable

theorem agrees_generic {origin : String} {typed : Bool} {subject : Object}
    {nodes : List (Node Value)} {objects arguments : List Object}
    (hFind : (ns.find origin).map Found.object = some subject) (hNameable : subject.IsNameable)
    (hForm : subscriptForm (some subject) nodes.length = .ordinary) (hSome : objects ≠ [])
    (hNodes : ofNodes ns places nodes = ofObjects ns places objects)
    (hSame : arguments.map (ofObject ns places) = objects.map (ofObject ns places)) :
    Agrees ns places (.subscript origin nodes) (.generic typed subject arguments) := by
  refine ⟨⟨rfl, rfl⟩, ?_⟩
  have hArguments : arguments ≠ [] := by
    rintro rfl
    exact hSome (List.map_eq_nil_iff.1 hSame.symm)
  apply ofNode_eq_generic hFind hNameable hForm hArguments
  rw [hNodes]
  exact ofObjects_congr hSame.symm

theorem subscriptForm_special {name : String} (h : name ∉ ["Union", "Optional", "Literal"])
    (count : Nat) : subscriptForm (some (.special name)) count = .ordinary := by
  rw [subscriptForm.eq_def]
  split <;> simp_all

theorem subscriptForm_cls {c : ClassRef} (h : Object.cls c ≠ Typing.annotatedClass) (count : Nat) :
    subscriptForm (some (.cls c)) count = .ordinary := by
  rw [subscriptForm.eq_def]
  split <;> simp_all [Typing.annotatedClass]

theorem subscriptForm_callable {subject : Object} (hNameable : subject.IsNameable)
    (hCallable : subject.isCallableOrigin = true) (count : Nat) :
    subscriptForm (some subject) count = .ordinary := by
  cases subject with
  | «alias» => rfl
  | value v =>
    cases v with
    | cls c =>
      obtain rfl : c = ⟨"collections.abc", "Callable", 0, false⟩ := of_decide_eq_true hCallable
      exact subscriptForm_cls (fun hSame => absurd (congrArg Object.asClass? hSame) (by decide)) _
    | _ => exact hNameable.elim
  | _ => exact absurd hCallable Bool.false_ne_true

open Object Typing in
theorem agrees_subscript {origin : String} {subject object : Object} {nodes : List (Node Value)}
    {objects : List Object} {answers : Memory} (hTakes : Takes world subject objects)
    (hFind : (ns.find origin).map Found.object = some subject) (hNameable : subject.IsNameable)
    (hSingle : ∀ object ∈ objects, object.IsSingle) (hSome : objects ≠ [])
    (hLength : nodes.length = objects.length)
    (hNodes : ofNodes ns places nodes = ofObjects ns places objects)
    (hBuilds : (Typing.subscript world subject objects).Builds object answers) :
    Agrees ns places (.subscript origin nodes) object := by
  have hBracketed := bracketed_of_isSingle hSingle
  cases hTakes with
  | union hMembers =>
    obtain rfl := builds_union hBuilds hMembers hSingle
    refine ⟨⟨rfl, rfl⟩, ?_⟩
    rw [ofNode_union hFind, ofObject_union, ofObjects_asArgument, hNodes]
  | @optional argument hMembers =>
    obtain rfl := builds_optional hBuilds hMembers (hSingle argument List.mem_cons_self)
    refine ⟨⟨rfl, rfl⟩, ?_⟩
    match nodes, hLength with
    | [node], _ =>
      rw [ofNode_optional hFind, ofObject_union, hNodes, ofObjects_eq_mapM, ofObjects_eq_mapM,
        List.mapM_cons, List.mapM_cons, ofObject_asArgument]
      cases ofObject ns places argument with
      | error failure => rfl
      | ok type =>
        have hNone : ofObject ns places (.cls .noneClass) = .ok (.named .none) := by
          rw [ofObject, ofValue]
          rfl
        rw [List.mapM_cons, hNone]
        rfl
  | special hName =>
    obtain rfl := builds_special hName hBuilds hSingle
    apply agrees_generic hFind hNameable (subscriptForm_special hName _) hSome hNodes
    exact map_ofObject_checkedArguments objects rfl
  | typingAlias hCallable =>
    obtain rfl := builds_alias hBuilds
    rw [hBracketed]
    apply agrees_generic hFind hNameable rfl hSome hNodes
    exact map_ofObject_checkedArguments objects hCallable
  | runtimeClass hAnnotated hGeneric hCallable =>
    obtain rfl := builds_runtimeClass hAnnotated hGeneric hBuilds
    rw [hBracketed, if_neg (ne_true_of_eq_false hCallable)]
    exact agrees_generic hFind hNameable (subscriptForm_cls hAnnotated _) hSome hNodes rfl
  | genericClass hAnnotated hGeneric hAligned =>
    obtain rfl := builds_genericClass hAnnotated hGeneric hBuilds
    rw [hBracketed, classArguments_of_areAligned hAligned hSingle]
    apply agrees_generic hFind hNameable (subscriptForm_cls hAnnotated _) hSome hNodes
    exact map_ofObject_asArgument objects
  | @callable _ parameters result hCallable hAll =>
    obtain ⟨typed, row, rfl, hRow⟩ := builds_callable hNameable hCallable hBuilds
    rw [hBracketed, callableRow_pair (hSingle parameters List.mem_cons_self)] at hRow
    apply agrees_generic hFind hNameable
      (subscriptForm_callable hNameable hCallable.isOrigin _) hSome hNodes
    rcases hRow with rfl | rfl
    · rw [List.map_cons, List.map_cons, List.map_nil, callableArguments_pair]
      · exact map_ofObject_asArgument [parameters, result]
      · rwa [isParameters_asArgument]
    · rw [callableArguments_pair hAll]

open Object Typing in
theorem agrees_callable {origin : String} {subject object result : Object}
    {items : List (Node Value)} {node : Node Value} {objects : List Object} {answers : Memory}
    (hFind : (ns.find origin).map Found.object = some subject) (hNameable : subject.IsNameable)
    (hCallable : subject.MakesCallables world)
    (hAlone : ∀ object, objects = [object] → object.isParameters = false)
    (hItems : ofNodes ns places items = ofObjects ns places objects)
    (hResult : ofNode ns places node = ofObject ns places result)
    (hBuilds : (Typing.subscript world subject [.list objects, result]).Builds object answers) :
    Agrees ns places (.subscript origin [.list items, node]) object := by
  have hNodes : ofNodes ns places [.list items, node]
      = ofObjects ns places [.list objects, result] := by
    rw [ofNodes, ofNodes, ofNodes, ofObjects, ofObjects, ofObjects, ofNode, ofObject, hItems,
      hResult]
  have hRowIn : callableRow (bracketed [.list objects, result]).1 = objects ++ [result] := rfl
  obtain ⟨typed, row, rfl, hRow⟩ := builds_callable hNameable hCallable hBuilds
  rw [hRowIn] at hRow
  apply agrees_generic hFind hNameable (subscriptForm_callable hNameable hCallable.isOrigin _)
    (List.cons_ne_nil _ _) hNodes
  rcases hRow with rfl | rfl
  · have hAlone' : ∀ object, objects.map asArgument = [object] → object.isParameters = false := by
      rintro object hOne
      obtain ⟨argument, hArgument, rfl⟩ := List.map_eq_singleton_iff.1 hOne
      rw [isParameters_asArgument]
      exact hAlone argument hArgument
    have hList : ofObject ns places (.list (objects.map asArgument))
        = ofObject ns places (.list objects) := by
      rw [ofObject, ofObject, ofObjects_asArgument]
    rw [List.map_append, List.map_singleton, callableArguments_append hAlone', List.map_cons,
      List.map_singleton, hList, ofObject_asArgument]
    rfl
  · rw [callableArguments_append hAlone]

variable {scope : Scope} {quoted : String → Prop} {node : Node Value} {object : Object}
  {answers : Memory}

/-- The tree and the object of an annotation are converted alike. -/
theorem Denotes.agrees (h : Denotes scope quoted node object answers) :
    Agrees scope.names places node object := by
  induction h with
  | none =>
    refine ⟨⟨rfl, rfl⟩, ?_⟩
    rw [ofNode, ofObject, ofValue]
    rfl
  | name hBinds hNameable hRelative hNone =>
    exact agrees_name hBinds.text hNameable hRelative hNone
  | reference =>
    refine ⟨⟨rfl, rfl⟩, ?_⟩
    rw [ofNode, ofObject, ofValue, Value.text]
  | ellipsis =>
    refine ⟨⟨rfl, rfl⟩, ?_⟩
    rw [ofNode, ofObject, ofValue]
  | bars hParts hMembers hBarred ih =>
    obtain ⟨typed, rfl⟩ := Typing.barred_of_areMembers hBarred hMembers
    refine ⟨⟨rfl, rfl⟩, ?_⟩
    rw [ofNode, ofObject_union, ofObjects_asArgument, ofNodes_parts fun part hMem =>
      (ih part hMem).same]
    rfl
  | literal hBinds hSome hKinds hDistinct hBuilds =>
    obtain rfl := Typing.builds_literal hKinds hDistinct hBuilds
    exact ⟨⟨rfl, rfl⟩, ofNode_literal hBinds.text⟩
  | @annotated origin base notes object answers hBinds hBase hSome hNotes hBuilds ihBase ihNotes =>
    have hNotesSome : notes.map HintPart.object ≠ [] := fun h => hSome (List.map_eq_nil_iff.1 h)
    obtain rfl := Typing.builds_annotated hNotesSome hBuilds
    refine ⟨?_, ?_⟩
    · rw [Object.annotate.eq_def]
      split
      · exact ⟨rfl, rfl⟩
      · exact ⟨rfl, rfl⟩
    · rw [ofNode_annotated hBinds.text, ofObject_annotate, ofObject_asArgument]
      exact ihBase.same
  | callable hBinds hNameable hCallable hItems hAlone hResult hBuilds ihItems ihResult =>
    apply agrees_callable hBinds.text hNameable hCallable ?_ (ofNodes_parts fun item hMem =>
      (ihItems item hMem).same) ihResult.same hBuilds
    rintro object hOne
    obtain ⟨item, hItem, rfl⟩ := List.map_eq_singleton_iff.1 hOne
    exact hAlone item hItem
  | subscript hBinds hNameable hParts hSome hTakes hBuilds ih =>
    apply agrees_subscript hTakes hBinds.text hNameable ?_ ?_ ?_ (ofNodes_parts fun part hMem =>
      (ih part hMem).same) hBuilds
    · rintro object hObject
      obtain ⟨part, hMem, rfl⟩ := List.mem_map.1 hObject
      exact (ih part hMem).isSingle
    · exact fun h => hSome (List.map_eq_nil_iff.1 h)
    · rw [List.length_map, List.length_map]

theorem exists_ofNodes {nodes : List (Node Value)}
    (h : ∀ node ∈ nodes, ∃ type, ofNode ns places node = .ok type) :
    ∃ types, ofNodes ns places nodes = .ok types := by
  induction nodes with
  | nil =>
    rw [ofNodes]
    exact ⟨[], rfl⟩
  | cons node nodes ih =>
    obtain ⟨⟨type, hType⟩, hRest⟩ := List.forall_mem_cons.1 h
    obtain ⟨types, hTypes⟩ := ih hRest
    rw [ofNodes, hType, hTypes]
    exact ⟨type :: types, rfl⟩

theorem exists_ofNodes_parts {parts : List HintPart}
    (h : ∀ part ∈ parts, ∃ type, ofNode ns places part.node = .ok type) :
    ∃ types, ofNodes ns places (parts.map HintPart.node) = .ok types := by
  apply exists_ofNodes
  rintro node hNode
  obtain ⟨part, hMem, rfl⟩ := List.mem_map.1 hNode
  exact h part hMem

theorem exists_ofNode_subscript {origin : String} {subject : Object} {nodes : List (Node Value)}
    {types : List TypeExpr} (hFind : (ns.find origin).map Found.object = some subject)
    (hNameable : subject.IsNameable)
    (hForm : subscriptForm (some subject) nodes.length = .ordinary)
    (hNodes : ofNodes ns places nodes = .ok types) :
    ∃ type, ofNode ns places (.subscript origin nodes) = .ok type := by
  obtain ⟨t, hSubject⟩ := ofObject_nameable hNameable
  rw [ofNode_ordinary hFind hNameable hSubject hForm, hNodes]
  exact ⟨.generic t types false, rfl⟩

theorem exists_ofNode_takes {origin : String} {subject : Object} {nodes : List (Node Value)}
    {objects : List Object} {types : List TypeExpr} (hTakes : Object.Takes world subject objects)
    (hFind : (ns.find origin).map Found.object = some subject) (hNameable : subject.IsNameable)
    (hLength : nodes.length = objects.length) (hNodes : ofNodes ns places nodes = .ok types) :
    ∃ type, ofNode ns places (.subscript origin nodes) = .ok type := by
  have hOrdinary := fun hForm => exists_ofNode_subscript hFind hNameable hForm hNodes
  cases hTakes with
  | union =>
    rw [ofNode_union hFind, hNodes]
    exact ⟨TypeExpr.unite types, rfl⟩
  | optional =>
    match nodes, hLength with
    | [node], _ =>
      rw [ofNode_optional hFind, hNodes]
      exact ⟨TypeExpr.unite (types ++ [.named .none]), rfl⟩
  | special hName => exact hOrdinary (subscriptForm_special hName _)
  | typingAlias => exact hOrdinary rfl
  | runtimeClass hAnnotated => exact hOrdinary (subscriptForm_cls hAnnotated _)
  | genericClass hAnnotated => exact hOrdinary (subscriptForm_cls hAnnotated _)
  | callable hCallable =>
    exact hOrdinary (subscriptForm_callable hNameable hCallable.isOrigin _)

/-- An annotation is converted if the texts quoted in it are. -/
theorem Denotes.exists_type (h : Denotes scope quoted node object answers)
    (hQuoted : ∀ s, quoted s → ∃ type, ofText scope.names places s (Text.quote s) = .ok type) :
    ∃ type, ofNode scope.names places node = .ok type := by
  induction h with
  | none =>
    rw [ofNode]
    exact ⟨_, rfl⟩
  | @name dotted object hBinds hNameable hRelative hNone =>
    have hNamed : ∃ t, ofObject scope.names places object = .ok (.named t) :=
      ofObject_nameable hNameable
    obtain ⟨t, hObject⟩ := hNamed
    exact ⟨.named t, (agrees_name hBinds.text hNameable hRelative hNone).same.trans hObject⟩
  | @reference s hText =>
    rw [ofNode]
    exact hQuoted s hText
  | ellipsis =>
    rw [ofNode]
    exact ⟨_, rfl⟩
  | bars hParts hMembers hBarred ih =>
    obtain ⟨types, hTypes⟩ := exists_ofNodes_parts ih
    rw [ofNode, hTypes]
    exact ⟨TypeExpr.unite types, rfl⟩
  | literal hBinds hSome hKinds hDistinct hBuilds =>
    rw [ofNode_literal hBinds.text, ofObject]
    exact ⟨_, rfl⟩
  | annotated hBinds hBase hSome hNotes hBuilds ihBase ihNotes =>
    rw [ofNode_annotated hBinds.text]
    exact ihBase
  | @callable origin subject items result object answers hBinds hNameable hCallable hItems hAlone
      hResult hBuilds ihItems ihResult =>
    obtain ⟨types, hTypes⟩ := exists_ofNodes_parts ihItems
    obtain ⟨type, hType⟩ := ihResult
    have hNodes : ofNodes scope.names places [.list (items.map HintPart.node), result.node]
        = .ok [.list types, type] := by
      rw [ofNodes, ofNodes, ofNodes, ofNode, hTypes, hType]
      rfl
    exact exists_ofNode_subscript hBinds.text hNameable
      (subscriptForm_callable hNameable hCallable.isOrigin _) hNodes
  | subscript hBinds hNameable hParts hSome hTakes hBuilds ih =>
    obtain ⟨types, hTypes⟩ := exists_ofNodes_parts ih
    apply exists_ofNode_takes hTakes hBinds.text hNameable ?_ hTypes
    rw [List.length_map, List.length_map]

end Interpose

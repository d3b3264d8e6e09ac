import Interpose.Proofs.LiveHint.Construction

/-! # Annotations denote what they spell

Whatever is remembered, an annotation denotes the object that is built when nothing is, as long as
the answers to its subscripts are settled.
-/
namespace Interpose

set_option autoImplicit false

open Evaluation HintText

variable {known : Memory} {scope : Scope} {quoted : String → Prop}

theorem Typing.barAll_append {objects : List Object} (h : objects ≠ []) (last : Object) :
    barAll (objects ++ [last]) = barAll objects >>= fun union => bar union last := by
  match objects, h with
  | first :: rest, _ =>
    rw [List.cons_append, barAll, barAll, List.foldlM_append]
    simp only [List.foldlM_cons, List.foldlM_nil, bind_pure]

theorem Typing.yields_barAll {objects : List Object} {object : Object} {answers : Memory}
    (h : Barred objects object answers) (hSettled : ∀ entry ∈ answers, known.Settles entry) :
    Yields known (barAll objects) object := by
  induction h with
  | one object => exact yields_pure object
  | more hBarred hBuilds ih =>
    obtain ⟨hEarlier, hNew⟩ := List.forall_mem_append.1 hSettled
    rw [barAll_append hBarred.ne_nil]
    apply yields_bind (ih hEarlier)
    exact isStable_bar _ _ _ _ hBuilds known hNew

theorem yields_evalObjects {parts : List HintPart}
    (h : ∀ part ∈ parts,
      Yields known (scope.world.evalObject (part.node.expr scope.paths)) part.object) :
    Yields known (scope.world.evalObjects (Node.exprs scope.paths (parts.map HintPart.node)))
      (parts.map HintPart.object) := by
  induction parts with
  | nil => exact yields_pure []
  | cons part parts ih =>
    obtain ⟨hFirst, hRest⟩ := List.forall_mem_cons.1 h
    rw [List.map_cons, Node.exprs, World.evalObjects]
    apply yields_bind hFirst
    apply yields_bind (ih hRest)
    exact yields_pure _

theorem yields_subscript {origin : String} {subject : Object} {nodes : List (Node Value)}
    {objects : List Object} {object : Object} {answers : Memory}
    (hBinds : scope.Binds origin subject) (hOrigin : Typing.IsOrigin subject = true)
    (hArguments : Yields known (scope.world.evalObjects (Node.exprs scope.paths nodes)) objects)
    (hBuilds : (Typing.subscript scope.world subject objects).Builds object answers)
    (hSettled : ∀ entry ∈ answers, known.Settles entry) :
    Yields known (scope.world.evalObject ((Node.subscript origin nodes).expr scope.paths))
      object := by
  rw [Node.expr, World.evalObject]
  apply yields_bind (yields_lift hBinds.live)
  apply yields_bind hArguments
  exact Typing.isStable_subscript scope.world hOrigin objects object answers hBuilds known hSettled

theorem settled_parts {parts : List HintPart}
    (h : ∀ entry ∈ parts.flatMap HintPart.answers, known.Settles entry) {part : HintPart}
    (hMem : part ∈ parts) : ∀ entry ∈ part.answers, known.Settles entry := by
  intro entry hEntry
  exact h entry (List.mem_flatMap_of_mem hMem hEntry)

theorem Object.IsNameable.isOrigin {subject : Object} {items : List Object} {object : Object}
    {answers : Memory} {world : World} (h : subject.IsNameable)
    (hBuilds : (Typing.subscript world subject items).Builds object answers) :
    Typing.IsOrigin subject = true := by
  cases subject with
  | value v => cases v <;> first | contradiction | rfl
  | special | «alias» => rfl
  | typeVariable v => cases hBuilds
  | variablePart v keyword => cases hBuilds
  | _ => exact h.elim

theorem yields_literals (values : List Value) :
    Yields known (scope.world.evalObjects (Node.exprs scope.paths (values.map .literal)))
      (values.map .value) := by
  induction values with
  | nil => exact yields_pure []
  | cons v values ih =>
    rw [List.map_cons, Node.exprs, World.evalObjects]
    apply yields_bind (yields_pure (Object.value v))
    apply yields_bind ih
    exact yields_pure _

theorem Denotes.yields {node : Node Value} {object : Object} {answers : Memory}
    (h : Denotes scope quoted node object answers)
    (hSettled : ∀ entry ∈ answers, known.Settles entry) :
    Yields known (scope.world.evalObject (node.expr scope.paths)) object := by
  induction h with
  | none => exact yields_pure _
  | name hBinds hNameable hRelative hNone =>
    rw [Node.expr, if_neg hNone, World.evalObject]
    exact yields_lift hBinds.live
  | reference => exact yields_pure _
  | ellipsis => exact yields_pure _
  -- The answers from within the parts come first; the last ones are those to the whole.
  | bars hParts hMembers hBarred ih =>
    obtain ⟨hInner, hOuter⟩ := List.forall_mem_append.1 hSettled
    rw [Node.expr, World.evalObject]
    apply yields_bind (yields_evalObjects fun part hMem => ih part hMem (settled_parts hInner hMem))
    exact Typing.yields_barAll hBarred hOuter
  | literal hBinds hSome hKinds hDistinct hBuilds =>
    exact yields_subscript hBinds rfl (yields_literals _) hBuilds hSettled
  | @annotated origin base notes object answers hBinds hBase hSome hNotes hBuilds ihBase ihNotes =>
    obtain ⟨hInner, hOuter⟩ := List.forall_mem_append.1 hSettled
    obtain ⟨hFirst, hRest⟩ := List.forall_mem_append.1 hInner
    have hParts : ∀ part ∈ base :: notes,
        Yields known (scope.world.evalObject (part.node.expr scope.paths)) part.object := by
      intro part hMem
      rcases List.mem_cons.1 hMem with rfl | hMem
      · exact ihBase hFirst
      · by_cases hConstant : scope.IsConstant part
        · intro memory hMemory
          exact ⟨memory, hMemory, hConstant.2 memory⟩
        · exact ihNotes part hMem hConstant (settled_parts hRest hMem)
    exact yields_subscript hBinds rfl (yields_evalObjects hParts) hBuilds hOuter
  | callable hBinds hNameable hCallable hItems hAlone hResult hBuilds ihItems ihResult =>
    obtain ⟨hInner, hOuter⟩ := List.forall_mem_append.1 hSettled
    obtain ⟨hFirst, hLast⟩ := List.forall_mem_append.1 hInner
    apply yields_subscript hBinds (hNameable.isOrigin hBuilds) ?_ hBuilds hOuter
    rw [Node.exprs, World.evalObjects, Node.expr, World.evalObject]
    apply yields_bind
    · apply yields_bind
        (yields_evalObjects fun item hMem => ihItems item hMem (settled_parts hFirst hMem))
      exact yields_pure _
    · apply yields_bind
      · rw [Node.exprs, World.evalObjects]
        apply yields_bind (ihResult hLast)
        apply yields_bind (yields_pure [])
        exact yields_pure _
      · exact yields_pure _
  | subscript hBinds hNameable hParts hSome hTakes hBuilds ih =>
    obtain ⟨hInner, hOuter⟩ := List.forall_mem_append.1 hSettled
    apply yields_subscript hBinds (hNameable.isOrigin hBuilds) ?_ hBuilds hOuter
    exact yields_evalObjects fun part hMem => ih part hMem (settled_parts hInner hMem)

end Interpose

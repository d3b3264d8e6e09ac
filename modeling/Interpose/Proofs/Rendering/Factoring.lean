import Interpose.Proofs.Rendering.Pieces

/-! # Effects and text of rendering

While a generated module is rendered, the names in its hints are asked for, one after the other, and
asking can fail and have effects. Nothing else does: rendering is asking for the names in order, and
then writing the pieces, which are known beforehand. This holds whatever asking for a name does.
-/
namespace Interpose

set_option autoImplicit false

/-- Failing leaves nothing to do. -/
class LawfulThrow (m : Type → Type) [Monad m] [MonadExceptOf Failure m] : Prop where
  throw_bind {α β : Type} (e : Failure) (f : α → m β) : (throw e : m α) >>= f = throw e

instance : LawfulThrow (Except Failure) where
  throw_bind _ _ := rfl

instance {n : Type → Type} [Monad n] [LawfulMonad n] : LawfulThrow (ExceptT Failure n) where
  throw_bind e f := by
    apply ExceptT.ext
    simp

section Factors

variable {m : Type → Type} [Monad m] {α β γ : Type}

/-- Whether a step has its effects and its failures from a part of it, and yields something that is
known beforehand. -/
def Factors (x : m α) (effects : m PUnit) (a : α) : Prop :=
  x = effects >>= fun _ => pure a

variable [LawfulMonad m] {x : m α} {f : α → m β} {effects more : m PUnit} {a : α} {b : β}

theorem factors_pure (a : α) : Factors (pure a : m α) (pure ⟨⟩) a := by
  rw [Factors, pure_bind]

theorem Factors.bind (hx : Factors x effects a) (hf : Factors (f a) more b) :
    Factors (x >>= f) (effects >>= fun _ => more) b := by
  rw [Factors] at hx hf ⊢
  rw [hx, bind_assoc, bind_assoc]
  simp only [pure_bind, hf]

theorem Factors.bind_pure (hx : Factors x effects a) (hf : f a = pure b) :
    Factors (x >>= f) effects b := by
  have hAll := hx.bind (hf ▸ factors_pure b : Factors (f a) (pure ⟨⟩) b)
  rwa [bind_pure_unit] at hAll

theorem Factors.map (hx : Factors x effects a) (g : α → β) : Factors (g <$> x) effects (g a) := by
  rw [map_eq_pure_bind]
  exact hx.bind_pure rfl

theorem Factors.discard_eq (hx : Factors x effects a) : discard x = effects := by
  have hConst : discard x = Functor.mapConst PUnit.unit x := rfl
  have hMap : discard x = (fun _ => PUnit.unit) <$> x := by
    rw [hConst, map_const]
    rfl
  rw [Factors] at hx
  rw [hMap, hx, map_eq_pure_bind, bind_assoc]
  simp only [pure_bind, bind_pure_unit]

theorem factors_mapM {f : α → m β} {effects : α → m PUnit} {g : α → β}
    (h : ∀ a, Factors (f a) (effects a) (g a)) (as : List α) :
    Factors (as.mapM f) (forM as effects) (as.map g) := by
  induction as with
  | nil => exact factors_pure []
  | cons a as ih =>
    rw [List.mapM_cons, List.forM_cons]
    exact (h a).bind (ih.bind_pure rfl)

theorem factors_option_mapM {f : α → m β} {effects : α → m PUnit} {g : α → β}
    (h : ∀ a, Factors (f a) (effects a) (g a)) (o : Option α) :
    Factors (o.mapM f) (forM o.toList effects) (o.map g) := by
  cases o with
  | none => exact factors_pure none
  | some a =>
    have hOne : forM [a] effects = effects a := by
      rw [List.forM_cons, List.forM_nil, bind_pure_unit]
    rw [Option.toList_some, hOne]
    exact (h a).map some

theorem forM_flatMap (f : α → List β) (effects : β → m PUnit) (as : List α) :
    forM (as.flatMap f) effects = forM as fun a => forM (f a) effects := by
  induction as with
  | nil => rfl
  | cons a as ih => rw [List.flatMap_cons, List.forM_append, ih, List.forM_cons]

end Factors

/-! ## Hints -/

section Rendering

variable {S : Type} {M : Type → Type} [NameSource S M] [Monad M] [LawfulMonad M]
  [MonadExceptOf Failure M] (names : S)

namespace Hint

variable (site : HintSite)

/-- Asks for a name in a hint, and fails if nothing can be written for it. -/
def check (t : NamedType) : M PUnit :=
  nameOf names site t >>= fun _ => pure ⟨⟩

theorem factors_nameOf [LawfulThrow M] (t : NamedType) :
    Factors (nameOf names site t) (check names site t) (Piece.write [site.piece t]) := by
  rw [Factors, check, bind_assoc]
  simp only [pure_bind]
  unfold nameOf HintSite.piece
  cases hResolve : site.resolve t with
  | error failure => simp only [MonadExcept.ofExcept, LawfulThrow.throw_bind]
  | ok resolved =>
    simp only [MonadExcept.ofExcept, pure_bind]
    split
    next => rw [pure_bind, Piece.write_bare]
    next =>
      cases hBuiltin : resolved.isBuiltin with
      | true => simp only [if_true, pure_bind, Piece.write_bare]
      | false =>
        simp only [Bool.false_eq_true, if_false, bind_assoc, NamedType.write_piece]
        refine congrArg _ (funext fun found => ?_)
        cases found with
        | true => simp only [if_true, pure_bind]
        | false => exact (LawfulThrow.throw_bind (m := M) _ _).symm

theorem factors_ofNamed [LawfulThrow M] (top : Bool) (t : NamedType) :
    Factors (ofNamed names site top t) (check names site t)
      (Piece.write (site.namedPieces top t)) := by
  have hText : (Piece.write [site.piece t]).text = (site.piece t).text := by
    simp [Piece.write]
  refine (factors_nameOf names site t).bind_pure ?_
  rw [hText]
  unfold HintSite.namedPieces
  split
  next => rfl
  next =>
    rw [← hText]
    exact congrArg pure (mark_eq_write top t.isNullable [site.piece t]).symm

mutual

/-- The hint of a type is that of its pieces, once its names have been asked for from left to
right. -/
theorem factors_ofType [LawfulThrow M] (top : Bool) (t : TypeExpr) :
    Factors (ofType names site top t) (forM t.names (check names site))
      (Piece.write (t.pieces site top)) := by
  cases t with
  | named t =>
    rw [ofType, TypeExpr.names, List.forM_cons, List.forM_nil, bind_pure_unit]
    exact factors_ofNamed names site top t
  | literal v =>
    rw [ofType, TypeExpr.pieces, Piece.write_bare]
    exact factors_pure _
  | union members | intersection members =>
    rw [ofType, TypeExpr.names, TypeExpr.pieces, Piece.write_intercalate]
    exact (factors_ofTypes top members).bind_pure rfl
  | list items =>
    rw [ofType, TypeExpr.names, TypeExpr.pieces, Piece.write_bracketed, Piece.write_intercalate]
    exact (factors_ofTypes false items).bind_pure rfl
  | generic origin arguments isNullable =>
    rw [ofType, TypeExpr.names, List.forM_cons, TypeExpr.pieces, mark_eq_write, Piece.write_append,
      Piece.write_bracketed, Piece.write_intercalate]
    refine (factors_ofNamed names site false origin).bind
      ((factors_ofTypes false arguments).bind_pure ?_)
    simp only [String.append_assoc]

theorem factors_ofTypes [LawfulThrow M] (top : Bool) (ts : List TypeExpr) :
    Factors (ofTypes names site top ts) (forM (TypeExpr.allNames ts) (check names site))
      ((TypeExpr.allPieces site top ts).map Piece.write) := by
  cases ts with
  | nil => exact factors_pure []
  | cons t ts =>
    rw [ofTypes, TypeExpr.allNames, List.forM_append, TypeExpr.allPieces, List.map_cons]
    exact (factors_ofType top t).bind ((factors_ofTypes top ts).bind_pure rfl)

end

end Hint

/-! ## Methods and targets -/

/-- Asks for the names in some hints. -/
def checkAll (hints : List (HintSite × TypeExpr)) : M PUnit :=
  forM (namesOf hints) fun name => Hint.check names name.1 name.2

theorem checkAll_append (before after : List (HintSite × TypeExpr)) :
    checkAll names (before ++ after)
      = checkAll names before >>= fun _ => checkAll names after := by
  rw [checkAll, namesOf, List.flatMap_append, List.forM_append]
  rfl

theorem checkAll_flatMap {α : Type} (f : α → List (HintSite × TypeExpr)) (as : List α) :
    checkAll names (as.flatMap f) = forM as fun a => checkAll names (f a) := by
  rw [checkAll, namesOf, forM_flatMap, forM_flatMap]
  simp only [checkAll, namesOf, forM_flatMap]

theorem checkAll_eq [LawfulThrow M] (hints : List (HintSite × TypeExpr)) :
    checkAll names hints = forM hints fun hint => discard (Hint.write names hint) := by
  rw [checkAll, namesOf, forM_flatMap]
  simp only [List.forM_map, (Hint.factors_ofType names _ true _).discard_eq]

/-- The hint of an item of a declaration. -/
def Method.itemHints (m : Method) : DeclItem Parameter → List (HintSite × TypeExpr)
  | .receiver | .slash | .star => []
  | .parameter p => p.type.toList.map fun t => (⟨m, some p⟩, t)

variable [LawfulThrow M]

theorem factors_hint (site : HintSite) (type : Option TypeExpr) :
    Factors (type.mapM (Hint.ofType names site true))
      (checkAll names (type.toList.map fun t => (site, t)))
      (type.map fun t => Piece.write (t.pieces site true)) := by
  rw [checkAll, namesOf, forM_flatMap, List.forM_map]
  simp only [List.forM_map]
  exact factors_option_mapM (Hint.factors_ofType names site true) type

theorem factors_item (m : Method) (item : DeclItem Parameter) :
    Factors (item.write names m) (checkAll names (m.itemHints item)) (m.writtenItem item) := by
  cases item with
  | receiver | slash | star => exact factors_pure _
  | parameter p =>
    have hParameter : Factors (WrittenParameter.of names m p) _ (m.writtenParameter p) :=
      (factors_hint names ⟨m, some p⟩ p.type).bind_pure rfl
    exact hParameter.map DeclItem.parameter

theorem factors_forwardingMethod (m : Method) :
    Factors (ForwardingMethod.of names m) (checkAll names m.hints) m.written := by
  have hResult := factors_hint names ⟨m, none⟩ m.returns
  have hItems := factors_mapM (factors_item names m) (declarationOf m.parameters)
  have hHints : (declarationOf m.parameters).flatMap m.itemHints
      = m.parameters.flatMap fun p => p.type.toList.map fun t => (⟨m, some p⟩, t) :=
    flatMap_ofParameters rfl rfl _ _ _
  rw [← checkAll_flatMap, hHints] at hItems
  rw [Method.hints, checkAll_append]
  exact hResult.bind (hItems.bind_pure rfl)

/-- Rendering a target asks for the names in the hints of its forwarded methods, in order, and then
writes what is known beforehand. -/
theorem factors_classSource (target : Target) (className : String) :
    Factors (ClassSource.of names target className) (checkAll names target.hints)
      (target.written className) := by
  have hMethods := factors_mapM (factors_forwardingMethod names) target.forwarded
  rw [← checkAll_flatMap] at hMethods
  have hForwarded : (target.methods.filter fun m => m.skipReason.isNone) = target.forwarded := by
    simp only [Surface.isNone_skipReason, Target.forwarded]
  rw [ClassSource.of, hForwarded]
  exact hMethods.bind_pure rfl

end Rendering

/-! ## Rendering in a world -/

section World

open Sequence

variable {α : Type} {x : Except Failure α} {effects : Except Failure PUnit} {a : α}

theorem Factors.eq_of_eq_ok (h : Factors x effects a) {r : α} (hx : x = .ok r) : r = a := by
  rw [Factors] at h
  obtain ⟨_, -, hPure⟩ := bind_eq_ok_iff.1 (h.symm.trans hx)
  exact (Except.ok.inj hPure).symm

theorem Factors.failure?_eq (h : Factors x effects a) : failure? x = failure? effects := by
  rw [Factors] at h
  rw [h]
  exact failure?_bind_of_none fun _ => rfl

theorem failure?_forM (f : α → Except Failure PUnit) (as : List α) :
    failure? (forM as f) = as.findSome? fun a => failure? (f a) := by
  induction as with
  | nil => rfl
  | cons a as ih =>
    rw [List.forM_cons, failure?_bind (failure? (forM as f)) fun _ => rfl, ih, List.findSome?_cons]
    cases failure? (f a) <;> rfl

theorem findSome?_flatMap {α β γ : Type} (f : α → List β) (g : β → Option γ) (xs : List α) :
    (xs.flatMap f).findSome? g = xs.findSome? fun x => (f x).findSome? g := by
  induction xs with
  | nil => rfl
  | cons x xs ih =>
    rw [List.flatMap_cons, List.findSome?_append, ih, List.findSome?_cons]
    cases (f x).findSome? g <;> rfl

variable {world : World} {site : HintSite}

theorem Hint.failure?_check (t : NamedType) :
    failure? (check world site t) = failure? (nameOf world site t) :=
  failure?_bind_of_none fun _ => rfl

theorem Hint.nameOf_eq_write {t : NamedType} {r : Rendered} (h : nameOf world site t = .ok r) :
    r = Piece.write [site.piece t] :=
  (factors_nameOf world site t).eq_of_eq_ok h

/-- A hint fails as the first of its names does that fails. -/
theorem Hint.failure?_ofType (top : Bool) (t : TypeExpr) :
    failure? (ofType world site top t)
      = t.names.findSome? fun name => failure? (nameOf world site name) := by
  rw [(factors_ofType world site top t).failure?_eq, failure?_forM]
  simp only [failure?_check]

theorem findSome?_hints (hints : List (HintSite × TypeExpr)) :
    (hints.findSome? fun hint => failure? (Hint.write world hint))
      = (namesOf hints).findSome? fun name => failure? (Hint.nameOf world name.1 name.2) := by
  rw [namesOf, findSome?_flatMap]
  simp only [Hint.write, Hint.failure?_ofType, List.findSome?_map]
  rfl

/-- A target fails as the first of its hints does that fails. -/
theorem failure?_classSource (target : Target) (className : String) :
    failure? (ClassSource.of world target className)
      = target.hints.findSome? fun hint => failure? (Hint.write world hint) := by
  rw [(factors_classSource world target className).failure?_eq, checkAll, failure?_forM,
    findSome?_hints]
  simp only [Hint.failure?_check]

theorem nameOf_of_classSource {target : Target} {className : String} {source : ClassSource}
    (h : ClassSource.of world target className = .ok source) {site : HintSite} {t : NamedType}
    (hMem : (site, t) ∈ namesOf target.hints) : ∃ r, Hint.nameOf world site t = .ok r := by
  have hNone := failure?_eq_none_iff.2 ⟨source, h⟩
  rw [failure?_classSource, findSome?_hints, List.findSome?_eq_none_iff] at hNone
  exact failure?_eq_none_iff.1 (hNone _ hMem)

/-- A source depends on the forwarded methods of its target alone. -/
theorem Target.written_eq {target : Target} {className : String} {source : ClassSource}
    (h : ClassSource.of world target className = .ok source) :
    source = target.written className :=
  (factors_classSource world target className).eq_of_eq_ok h

end World

end Interpose

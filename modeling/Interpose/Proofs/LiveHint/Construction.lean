import Interpose.Proofs.LiveHint.Denotation

/-! # What subscripts build

The objects that are built, when nothing is remembered, of arguments that an annotation can have.
-/
namespace Interpose

set_option autoImplicit false

namespace Evaluation

theorem builds_pure {o object : Object} {answers : Memory}
    (h : Builds (pure o) object answers) : object = o := by
  cases h
  rfl

theorem builds_answer_pure {s : Subscript} {o object : Object} {answers : Memory}
    (h : Builds (Memory.answer s (pure o)) object answers) : object = o := by
  obtain ⟨earlier, hBuilds, -⟩ := builds_answer h
  exact builds_pure hBuilds

theorem exists_builds_answer (s : Subscript) (o : Object) :
    ∃ answers, Builds (Memory.answer s (pure o)) o answers := by
  refine ⟨if s.isHashable then [(s, o)] else [], ?_⟩
  rw [Builds, Memory.answer]
  split <;> rfl

end Evaluation

namespace Value

variable {values : List Value}

theorem IsTextOrWhole.eq_of_equal {v w : Value} (hv : v.IsTextOrWhole) (hw : w.IsTextOrWhole)
    (h : w.equal v = true) : w = v := by
  cases v <;> first | contradiction | skip
  all_goals cases w <;> first | contradiction | skip
  all_goals simpa [equal, scalarEqual, asInt?, asFloat?, asText?] using h

theorem IsTextOrWhole.isSingle {v : Value} (h : v.IsTextOrWhole) : (Object.value v).IsSingle := by
  cases v <;> first | contradiction | exact ⟨rfl, rfl⟩

theorem areHashable_of_isTextOrWhole (h : ∀ v ∈ values, v.IsTextOrWhole) :
    areHashable values = true := by
  induction values with
  | nil => rfl
  | cons v values ih =>
    obtain ⟨hFirst, hRest⟩ := List.forall_mem_cons.1 h
    rw [areHashable, ih hRest, Bool.and_true]
    cases v <;> first | contradiction | rfl

theorem distinct_of_nodup (hKinds : ∀ v ∈ values, v.IsTextOrWhole) (hNodup : values.Nodup) :
    values.Pairwise fun v w => (v.equal w && v.sameType w) = false := by
  refine hNodup.imp_of_mem fun {v w} hV hW hNe => Bool.eq_false_iff.2 fun hSame => hNe ?_
  exact (hKinds w hW).eq_of_equal (hKinds v hV) (Bool.and_eq_true_iff.1 hSame).1

end Value

namespace Object

variable {objects : List Object}

/-- Where no two members of a list are the same, each is kept by a walk that leaves out those that
are the same as an earlier one. -/
theorem foldl_of_pairwise {α : Type} (same : α → α → Bool) {kept rest : List α}
    (h : (kept ++ rest).Pairwise fun a b => same a b = false) :
    rest.foldl (fun kept a => if kept.any (same · a) then kept else kept ++ [a]) kept
      = kept ++ rest := by
  induction rest generalizing kept with
  | nil => exact (List.append_nil kept).symm
  | cons a rest ih =>
    have hNew : ¬ kept.any (same · a) = true := by
      rw [List.any_eq_true]
      rintro ⟨earlier, hEarlier, hSame⟩
      have hOther := (List.pairwise_append.1 h).2.2 earlier hEarlier a List.mem_cons_self
      rw [hOther] at hSame
      contradiction
    rw [List.append_cons] at h
    rw [List.foldl_cons, if_neg hNew, ih h, List.append_assoc, List.singleton_append]

theorem literalValues_of_distinct {values : List Value}
    (hHashable : Value.areHashable values = true)
    (hDistinct : values.Pairwise fun v w => (v.equal w && v.sameType w) = false) :
    literalValues (values.map .value) = values := by
  rw [literalValues, List.flatMap_map]
  change (if Value.areHashable (values.flatMap fun v => [v]) = true then
    (values.flatMap fun v => [v]).foldl _ [] else _) = _
  rw [List.flatMap_singleton', if_pos hHashable]
  exact foldl_of_pairwise (fun v w : Value => v.equal w && v.sameType w) hDistinct

theorem distinct_of_pairwise (h : objects.Pairwise fun a b => a.equal b = false) :
    distinct objects = objects :=
  foldl_of_pairwise equal h

theorem members_asArgument {object : Object}
    (h : ∀ typed members, object ≠ .union typed members) :
    object.asArgument.members = [object.asArgument] := by
  cases object with
  | union typed members => exact absurd rfl (h typed members)
  | value v => cases v <;> rfl
  | _ => rfl

theorem flatMap_members (h : ∀ object ∈ objects, ∀ typed members, object ≠ .union typed members) :
    objects.flatMap (fun object => object.asArgument.members) = objects.map asArgument := by
  induction objects with
  | nil => rfl
  | cons object objects ih =>
    obtain ⟨hFirst, hRest⟩ := List.forall_mem_cons.1 h
    rw [List.flatMap_cons, members_asArgument hFirst, ih hRest]
    rfl

theorem unite_of_flatMap (typed : Bool) {parts : List Object}
    (hParts : parts.flatMap (fun object => object.asArgument.members) = objects.map asArgument)
    (hSeveral : 2 ≤ objects.length)
    (hDistinct : objects.Pairwise fun a b => a.asArgument.equal b.asArgument = false) :
    unite typed parts = .union typed (objects.map asArgument) := by
  rw [unite, hParts, distinct_of_pairwise (List.pairwise_map.2 hDistinct)]
  match objects, hSeveral with
  | first :: second :: rest, _ => rfl

theorem AreMembers.unite (h : AreMembers objects) (typed : Bool) :
    unite typed objects = .union typed (objects.map asArgument) :=
  unite_of_flatMap typed (flatMap_members h.flat) h.several h.distinct

end Object

theorem Barred.ne_nil {objects : List Object} {object : Object} {answers : Memory}
    (h : Barred objects object answers) : objects ≠ [] := by
  cases h with
  | one => exact List.cons_ne_nil _ _
  | more => exact List.append_ne_nil_of_right_ne_nil _ (List.cons_ne_nil _ _)

namespace Typing

open Evaluation Object

variable {world : World} {objects : List Object} {object : Object} {answers : Memory}

theorem builds_bar {a b : Object} (h : (bar a b).Builds object answers) :
    ∃ typed, object = unite typed [a, b] := by
  rw [bar] at h
  split at h
  · exact ⟨true, builds_answer_pure h⟩
  · exact ⟨false, builds_pure h⟩

theorem members_barred (h : Barred objects object answers)
    (hFlat : ∀ object ∈ objects, ∀ typed members, object ≠ .union typed members)
    (hDistinct : objects.Pairwise fun a b => a.asArgument.equal b.asArgument = false) :
    object.asArgument.members = objects.map asArgument ∧
      (2 ≤ objects.length → ∃ typed, object = .union typed (objects.map asArgument)) := by
  induction h with
  | one object =>
    refine ⟨members_asArgument (hFlat object List.mem_cons_self), fun hSeveral => ?_⟩
    exact absurd hSeveral (Nat.not_le.2 Nat.one_lt_two)
  | @more objects union last object earlier answers hBarred hBuilds ih =>
    obtain ⟨hFlatFirst, hFlatLast⟩ := List.forall_mem_append.1 hFlat
    have hUnion := (ih hFlatFirst (List.pairwise_append.1 hDistinct).1).1
    have hSeveral : 2 ≤ (objects ++ [last]).length := by
      have hSome := List.length_pos_iff.2 hBarred.ne_nil
      simp only [List.length_append, List.length_singleton]
      omega
    have hParts : [union, last].flatMap (fun object => object.asArgument.members)
        = (objects ++ [last]).map asArgument := by
      rw [List.flatMap_cons, List.flatMap_cons, hUnion,
        members_asArgument (hFlatLast last List.mem_cons_self), List.map_append]
      rfl
    obtain ⟨typed, rfl⟩ := builds_bar hBuilds
    have hUnited := unite_of_flatMap typed hParts hSeveral hDistinct
    rw [hUnited]
    exact ⟨rfl, fun _ => ⟨typed, rfl⟩⟩

theorem barred_of_areMembers (h : Barred objects object answers) (hMembers : AreMembers objects) :
    ∃ typed, object = .union typed (objects.map asArgument) :=
  (members_barred h hMembers.flat hMembers.distinct).2 hMembers.several

theorem bracketed_of_isSingle (h : ∀ object ∈ objects, object.IsSingle) :
    (bracketed objects).1 = objects := by
  match objects, h with
  | [], _ => rfl
  | [object], h =>
    have hSingle := (h object List.mem_cons_self).2
    rw [bracketed, hSingle]
  | _ :: _ :: _, _ => rfl

theorem subscript_special {name : String} (h : name ∉ ["Union", "Optional", "Literal"])
    (items : List Object) :
    subscript world (.special name) items
      = special (.special name) (bracketed items).1 (bracketed items).2 := by
  rw [subscript]
  split
  simp_all

theorem subscript_cls {c : ClassRef} (h : cls c ≠ annotatedClass) (items : List Object) :
    subscript world (cls c) items = ofClass world c (bracketed items).1 (bracketed items).2 := by
  rw [subscript]
  split
  simp_all [annotatedClass]

theorem builds_union (h : (subscript world (.special "Union") objects).Builds object answers)
    (hMembers : AreMembers objects) (hSingle : ∀ object ∈ objects, object.IsSingle) :
    object = .union true (objects.map asArgument) := by
  have hBuilt : object = unite true (bracketed objects).1 := builds_answer_pure h
  rw [hBuilt, bracketed_of_isSingle hSingle, hMembers.unite]

theorem builds_optional {argument : Object}
    (h : (subscript world (.special "Optional") [argument]).Builds object answers)
    (hMembers : AreMembers [argument, .none]) (hSingle : argument.IsSingle) :
    object = .union true [argument.asArgument, .cls .noneClass] := by
  have hOptional : subscript world (.special "Optional") [argument] = optional argument := by
    rw [subscript, bracketed, hSingle.2]
    rfl
  rw [hOptional] at h
  obtain ⟨earlier, hUnion, -⟩ := builds_answer h
  rw [builds_answer_pure hUnion]
  refine unite_of_flatMap true ?_ hMembers.several hMembers.distinct
  have hFlat := hMembers.flat argument List.mem_cons_self
  have hAgain : argument.asArgument.asArgument = argument.asArgument := by
    cases argument with
    | value v => cases v <;> rfl
    | _ => rfl
  rw [List.flatMap_cons, hAgain, members_asArgument hFlat]
  rfl

theorem builds_special {name : String} (hName : name ∉ ["Union", "Optional", "Literal"])
    (h : (subscript world (.special name) objects).Builds object answers)
    (hSingle : ∀ object ∈ objects, object.IsSingle) :
    object = .generic true (.special name) (checkedArguments (.special name) objects) := by
  rw [subscript_special hName, bracketed_of_isSingle hSingle] at h
  exact builds_answer_pure h

theorem builds_alias {name : String} {c : ClassRef}
    (h : (subscript world (.alias name c) objects).Builds object answers) :
    object = .generic true (.alias name c)
      (checkedArguments (.alias name c) (bracketed objects).1) :=
  builds_answer_pure h

theorem builds_runtimeClass {c : ClassRef} (hAnnotated : cls c ≠ annotatedClass)
    (hGeneric : (world.resolution c).contains ClassRef.genericClass = false)
    (h : (subscript world (.cls c) objects).Builds object answers) :
    object = .generic false (.cls c)
      (if (cls c).isCallableOrigin then callableArguments (callableRow (bracketed objects).1)
        else (bracketed objects).1) := by
  rw [subscript_cls hAnnotated, ofClass, if_neg (ne_true_of_eq_false hGeneric)] at h
  exact builds_pure h

theorem builds_genericClass {c : ClassRef} (hAnnotated : cls c ≠ annotatedClass)
    (hGeneric : (world.resolution c).contains ClassRef.genericClass = true)
    (h : (subscript world (.cls c) objects).Builds object answers) :
    object = .generic true (.cls c)
      (classArguments (world.typeParameters c) (bracketed objects).1) := by
  rw [subscript_cls hAnnotated, ofClass, if_pos hGeneric] at h
  exact builds_answer_pure h

/-- The arguments of a callable type are put in a row, as arguments of types if the typing module
makes it. -/
theorem builds_callable {subject : Object} (hNameable : subject.IsNameable)
    (hCallable : subject.MakesCallables world)
    (h : (subscript world subject objects).Builds object answers) :
    ∃ typed row, object = .generic typed subject (callableArguments row) ∧
      (row = (callableRow (bracketed objects).1).map asArgument ∨
        row = callableRow (bracketed objects).1) := by
  have hOrigin := hCallable.isOrigin
  cases subject with
  | «alias» name c =>
    obtain rfl : name = "Callable" := of_decide_eq_true hOrigin
    exact ⟨true, _, builds_alias h, .inl rfl⟩
  | value v =>
    cases v with
    | cls c =>
      obtain rfl : c = ⟨"collections.abc", "Callable", 0, false⟩ := of_decide_eq_true hOrigin
      have hAnnotated : cls ⟨"collections.abc", "Callable", 0, false⟩ ≠ annotatedClass :=
        fun hSame => absurd (congrArg asClass? hSame) (by decide)
      have hBuilt := builds_runtimeClass hAnnotated (hCallable.isRuntime _ rfl) h
      rw [if_pos hOrigin] at hBuilt
      exact ⟨false, _, hBuilt, .inr rfl⟩
    | _ => exact hNameable.elim
  | _ => exact absurd hOrigin Bool.false_ne_true

theorem builds_annotated {base : Object} {notes : List Object} (hSome : notes ≠ [])
    (h : (subscript world annotatedClass (base :: notes)).Builds object answers) :
    object = annotate base.asArgument notes := by
  match notes, hSome with
  | _ :: _, _ => exact builds_answer_pure h

theorem subscript_literal {values : List Value} (hSingle : ∀ v ∈ values, (Object.value v).IsSingle)
    (hHashable : Value.areHashable values = true)
    (hDistinct : values.Pairwise fun v w => (v.equal w && v.sameType w) = false) :
    subscript world (.special "Literal") (values.map .value)
      = Memory.answer ⟨.special "Literal", values.map .value, true, true⟩
          (pure (.literal values)) := by
  show literal (bracketed (values.map .value)).1 = _
  rw [bracketed_of_isSingle (List.forall_mem_map.2 hSingle), literal,
    literalValues_of_distinct hHashable hDistinct]

theorem builds_literal {values : List Value}
    (hKinds : ∀ v ∈ values, v.IsTextOrWhole) (hDistinct : values.Nodup)
    (h : (subscript world (.special "Literal") (values.map .value)).Builds object answers) :
    object = .literal values := by
  rw [subscript_literal (fun v hMem => (hKinds v hMem).isSingle)
    (Value.areHashable_of_isTextOrWhole hKinds) (Value.distinct_of_nodup hKinds hDistinct)] at h
  exact builds_answer_pure h

end Typing
end Interpose

import Interpose.Proofs.LiveHint.Construction

/-! # Arguments in a row

Callable types put their parameters into a list, and generic classes put their arguments into the
row of their type variables. Arguments of annotations come out as they went in.
-/
namespace Interpose.Object

set_option autoImplicit false

variable {objects : List Object}

/-! ## Single arguments -/

theorem IsSingle.asArgument {object : Object} (h : object.IsSingle) :
    object.asArgument.IsSingle := by
  cases object with
  | value v =>
    cases v with
    | str s | strSub s | none => exact ⟨rfl, rfl⟩
    | _ => exact h
  | _ => exact h

theorem isParameters_asArgument (object : Object) :
    object.asArgument.isParameters = object.isParameters := by
  cases object with
  | value v => cases v <;> rfl
  | _ => rfl

theorem unpacked?_asArgument (object : Object) :
    object.asArgument.unpacked? = object.unpacked? := by
  cases object with
  | value v => cases v <;> rfl
  | _ => rfl

/-! ## Callable types -/

theorem callableArguments_append
    (hAlone : ∀ object, objects = [object] → object.isParameters = false) (result : Object) :
    callableArguments (objects ++ [result]) = [.list objects, result] := by
  match objects, hAlone with
  | [], _ => rfl
  | [object], hAlone =>
    have hNot := hAlone object rfl
    rw [List.singleton_append, callableArguments, hNot]
    rfl
  | first :: second :: rest, _ =>
    have hRow : first :: second :: rest ++ [result] = first :: second :: (rest ++ [result]) := rfl
    rw [hRow, callableArguments]
    · rw [← hRow, List.dropLast_concat, List.getLastD_concat]
    · rintro _ _ hCons
      have hEmpty := (List.cons.inj (List.cons.inj hCons).2).2
      exact absurd hEmpty (List.append_ne_nil_of_right_ne_nil _ (List.cons_ne_nil _ _))

theorem callableArguments_pair {parameters : Object} (h : parameters.isParameters = true)
    (result : Object) : callableArguments [parameters, result] = [parameters, result] := by
  rw [callableArguments, h]
  rfl

theorem callableRow_pair {parameters : Object} (h : parameters.IsSingle) (result : Object) :
    callableRow [parameters, result] = [parameters, result] := by
  rw [callableRow, h.1, h.2]
  rfl

/-! ## Type variables -/

theorem foldl_eq_self {α β : Type} {f : α → β → α} {a : α} {bs : List β}
    (h : ∀ b ∈ bs, f a b = a) : bs.foldl f a = a := by
  induction bs with
  | nil => rfl
  | cons b bs ih =>
    obtain ⟨hFirst, hRest⟩ := List.forall_mem_cons.1 h
    rw [List.foldl_cons, hFirst, ih hRest]

theorem modify_eq_self_of_forall {α : Type} {f : α → α} {as : List α} (h : ∀ a ∈ as, f a = a)
    (i : Nat) : as.modify i f = as := by
  induction as generalizing i with
  | nil => exact List.modify_nil f i
  | cons a as ih =>
    obtain ⟨hFirst, hRest⟩ := List.forall_mem_cons.1 h
    cases i with
    | zero => rw [List.modify_zero_cons, hFirst]
    | succ i => rw [List.modify_succ_cons, ih hRest]

/-- Arguments without lists are not changed for a variable that stands for a single type, nor for
one that is given all parameters at once. -/
theorem prepared_eq_self {vs : List TypeVariable} {v : TypeVariable} (hKind : v.kind ≠ .tuple)
    (hLists : ∀ object ∈ objects, object.asList? = Option.none)
    (hAlone : vs.length = 1 → ∀ object, objects.head? = some object → v.kind = .parameters →
      object.isParameters = true) :
    prepared vs objects v = objects := by
  rw [prepared]
  cases hCase : v.kind with
  | single => rfl
  | tuple => exact absurd hCase hKind
  | parameters =>
    have hNot : ¬ (decide (vs.length = 1) && objects.head?.any (!isParameters ·)) = true := by
      rw [Bool.and_eq_true, decide_eq_true_eq, Option.any_eq_true]
      rintro ⟨hOne, object, hHead, hOther⟩
      rw [hAlone hOne object hHead hCase] at hOther
      contradiction
    dsimp only
    rw [if_neg hNot]
    apply modify_eq_self_of_forall
    intro object hObject
    rw [hLists object hObject]
    rfl

theorem le_findIdx_append {α : Type} {p : α → Bool} {first : List α} (rest : List α)
    (h : ∀ a ∈ first, p a = false) : first.length ≤ (first ++ rest).findIdx p := by
  have hFirst : ¬ first.findIdx p < first.length := by
    rw [List.findIdx_eq_length_of_false h]
    exact Nat.lt_irrefl _
  rw [List.findIdx_append, if_neg hFirst]
  exact Nat.le_add_left _ _

theorem findIdx_lt_of_append {α : Type} {p : α → Bool} {first last : List α}
    (h : ∀ a ∈ last, p a = false) (hFound : (first ++ last).findIdx p < (first ++ last).length) :
    (first ++ last).findIdx p < first.length := by
  obtain ⟨a, hMem, hTest⟩ := List.findIdx_lt_length.1 hFound
  have hFirst : first.findIdx p < first.length := by
    rcases List.mem_append.1 hMem with hMem | hMem
    · exact List.findIdx_lt_length_of_exists ⟨a, hMem, hTest⟩
    · rw [h a hMem] at hTest
      contradiction
  rwa [List.findIdx_append, if_pos hFirst]

/-- Where the arguments around it are complete, a variable that stands for several types is given
those in the middle. -/
theorem gather_append {first middle last : List Object}
    (hOpen : ∀ object ∈ first ++ last, object.unpacked?.any Prod.snd = false) :
    gather first.length last.length (first ++ middle ++ last)
      = first ++ [.tuple middle] ++ last := by
  obtain ⟨hFirst, hLast⟩ := List.forall_mem_append.1 hOpen
  have hBefore := le_findIdx_append (middle ++ last) hFirst
  have hAfter := @findIdx_lt_of_append _ _ (first ++ middle) last hLast
  rw [← List.append_assoc] at hBefore
  rw [gather]
  generalize (first ++ middle ++ last).findIdx (fun argument => argument.unpacked?.any Prod.snd) = k
    at hBefore hAfter ⊢
  have hLeft : min first.length k = first.length := Nat.min_eq_left hBefore
  have hRight : (if k < (first ++ middle ++ last).length then
      min last.length ((first ++ middle ++ last).length - k - 1) else last.length)
        = last.length := by
    split
    next hFound =>
      have := hAfter hFound
      simp only [List.length_append] at this ⊢
      omega
    next => rfl
  have hInner : (first ++ middle ++ last).length - last.length = (first ++ middle).length := by
    simp only [List.length_append]
    omega
  simp only [hLeft, hRight, hInner, List.take_left, List.drop_left, Nat.sub_self, Nat.zero_sub,
    List.replicate_zero, List.append_nil]

theorem prepared_tuple {before after : List TypeVariable} {v : TypeVariable}
    {first middle last : List Object} (hKind : v.kind = .tuple)
    (hKinds : ∀ w ∈ before, w.kind ≠ .tuple) (hFirst : first.length = before.length)
    (hLast : last.length = after.length)
    (hOpen : ∀ object ∈ first ++ last, object.unpacked?.any Prod.snd = false) :
    prepared (before ++ v :: after) (first ++ middle ++ last) v
      = first ++ [.tuple middle] ++ last := by
  have hNew : v ∉ before := fun hMem => hKinds v hMem hKind
  have hIndex : (before ++ v :: after).idxOf v = before.length := by
    rw [List.idxOf_append, if_neg hNew, List.idxOf_cons_self, Nat.zero_add]
  have hRest : (before ++ v :: after).length - before.length - 1 = after.length := by
    simp only [List.length_append, List.length_cons]
    omega
  rw [prepared, hIndex, hRest, hKind, ← hFirst, ← hLast]
  exact gather_append hOpen

theorem argumentsFor_each {vs : List TypeVariable} (hKinds : ∀ v ∈ vs, v.kind ≠ .tuple)
    (hLists : ∀ object ∈ objects, object.asList? = Option.none)
    (hAlone : vs.length = 1 → ∀ v ∈ vs, ∀ object, objects.head? = some object →
      v.kind = .parameters → object.isParameters = true) :
    argumentsFor vs objects = objects := by
  apply foldl_eq_self
  intro v hMem
  exact prepared_eq_self (hKinds v hMem) hLists fun hOne => hAlone hOne v hMem

theorem argumentsFor_tuple {before after : List TypeVariable} {v : TypeVariable}
    {first middle last : List Object} (hKind : v.kind = .tuple)
    (hKinds : ∀ w ∈ before ++ after, w.kind ≠ .tuple) (hFirst : first.length = before.length)
    (hLast : last.length = after.length)
    (hOpen : ∀ object ∈ first ++ last, object.unpacked?.any Prod.snd = false)
    (hLists : ∀ object ∈ first ++ middle ++ last, object.asList? = Option.none) :
    argumentsFor (before ++ v :: after) (first ++ middle ++ last)
      = first ++ [.tuple middle] ++ last := by
  obtain ⟨hBefore, hAfter⟩ := List.forall_mem_append.1 hKinds
  have hSeveral : ∀ w ∈ before ++ after, (before ++ v :: after).length ≠ 1 := by
    intro w hMem hOne
    have hSome := List.length_pos_of_mem hMem
    simp only [List.length_append, List.length_cons] at hOne hSome
    omega
  have hGathered : ∀ object ∈ first ++ [Object.tuple middle] ++ last,
      object.asList? = Option.none := by
    intro object hObject
    rcases List.mem_append.1 hObject with hObject | hObject
    · rcases List.mem_append.1 hObject with hObject | hObject
      · exact hLists object (List.mem_append_left _ (List.mem_append_left _ hObject))
      · rw [List.mem_singleton.1 hObject]
        rfl
    · exact hLists object (List.mem_append_right _ hObject)
  -- The variables in front change nothing, the one for several types gathers what is in the middle,
  -- and those behind it change nothing in what has been gathered.
  have hUnchanged : before.foldl (prepared (before ++ v :: after)) (first ++ middle ++ last)
      = first ++ middle ++ last := by
    apply foldl_eq_self
    intro w hMem
    refine prepared_eq_self (hBefore w hMem) hLists fun hOne => ?_
    exact absurd hOne (hSeveral w (List.mem_append_left _ hMem))
  rw [argumentsFor, List.foldl_append, hUnchanged, List.foldl_cons,
    prepared_tuple hKind hBefore hFirst hLast hOpen]
  apply foldl_eq_self
  intro w hMem
  refine prepared_eq_self (hAfter w hMem) hGathered fun hOne => ?_
  exact absurd hOne (hSeveral w (List.mem_append_right _ hMem))

theorem flatMap_zip {vs : List TypeVariable} (hKinds : ∀ v ∈ vs, v.kind ≠ .tuple)
    (hLength : objects.length = vs.length) :
    (vs.zip objects).flatMap (fun (v, argument) =>
      if v.kind = .tuple then argument.asTuple?.getD [argument] else [argument]) = objects := by
  induction vs generalizing objects with
  | nil => exact (List.eq_nil_of_length_eq_zero hLength).symm
  | cons v vs ih =>
    obtain ⟨hFirst, hRest⟩ := List.forall_mem_cons.1 hKinds
    match objects, hLength with
    | object :: objects, hLength =>
      rw [List.zip_cons_cons, List.flatMap_cons, ih hRest (Nat.succ.inj hLength)]
      dsimp only
      rw [if_neg hFirst, List.singleton_append]

theorem classArguments_of_areAligned {vs : List TypeVariable} (h : AreAligned vs objects)
    (hSingle : ∀ object ∈ objects, object.IsSingle) :
    Typing.classArguments vs objects = objects.map asArgument := by
  have hLists : ∀ object ∈ objects.map asArgument, object.asList? = Option.none := by
    intro object hObject
    obtain ⟨argument, hMem, rfl⟩ := List.mem_map.1 hObject
    exact (hSingle argument hMem).asArgument.1
  rw [Typing.classArguments]
  cases h with
  | none => rfl
  | each hKinds hLength hAlone =>
    have hLength' : (objects.map asArgument).length = vs.length := by
      rw [List.length_map, hLength]
    split
    next => rfl
    next =>
      rw [argumentsFor_each hKinds hLists, flatMap_zip hKinds hLength']
      rintro hOne v hMem object hHead hKind
      match vs, objects, hOne, hLength, hMem, hHead with
      | [w], [argument], _, _, hMem, hHead =>
        cases List.mem_singleton.1 hMem
        cases hHead
        rw [isParameters_asArgument]
        exact hAlone v argument rfl rfl hKind
  | @tuple before after v first middle last hKind hKinds hFirst hLast hOpen =>
    have hOpen' : ∀ object ∈ first.map asArgument ++ last.map asArgument,
        object.unpacked?.any Prod.snd = false := by
      intro object hObject
      rw [← List.map_append] at hObject
      obtain ⟨argument, hMem, rfl⟩ := List.mem_map.1 hObject
      rw [unpacked?_asArgument]
      exact hOpen argument hMem
    -- The row is divided where the variable for several types stands.
    obtain ⟨hBefore, hAfter⟩ := List.forall_mem_append.1 hKinds
    have hLengthFirst : (first.map asArgument).length = before.length := by
      rw [List.length_map, hFirst]
    have hLengthLast : (last.map asArgument).length = after.length := by
      rw [List.length_map, hLast]
    have hSome : ¬ (before ++ v :: after).isEmpty = true := by
      rw [List.isEmpty_iff]
      exact List.append_ne_nil_of_right_ne_nil _ (List.cons_ne_nil _ _)
    rw [List.map_append, List.map_append] at hLists ⊢
    dsimp only
    rw [if_neg hSome, argumentsFor_tuple hKind hKinds hLengthFirst hLengthLast hOpen' hLists,
      List.append_assoc, List.zip_append hLengthFirst.symm, List.flatMap_append,
      flatMap_zip hBefore hLengthFirst, List.singleton_append, List.zip_cons_cons,
      List.flatMap_cons, flatMap_zip hAfter hLengthLast, if_pos hKind, List.append_assoc]
    rfl

end Interpose.Object

import Interpose.Proofs.Conversion.Failures

/-! # Conversion without a guard

The conversion with the visited places left out: a name is converted as whatever it means, however
often it has been met. Only the depth of the calls is bounded, and the recursion ends if it comes to
the same result at every depth that is large enough. Where the guarded conversion does not meet its
guard, the recursion ends with the same result.
-/
namespace Interpose.Conversion

set_option autoImplicit false

open HintText

/-- A recursion to some depth. It has no result if it gets too deep, and it can fail. -/
abbrev Recursion (α : Type) := ExceptT Failure Option α

def tooDeep {α : Type} : Recursion α :=
  ExceptT.mk none

namespace Unguarded

/-- The type of a class. The class that marks classes as generic is its own origin. -/
def ofClass (depth : Nat) (c : ClassRef) : Recursion TypeExpr :=
  match depth with
  | 0 => tooDeep
  | depth + 1 =>
    if c = ClassRef.anyClass then pure (.named .any)
    else if c = ClassRef.genericClass then ofClass depth c
    else pure (.named (.ofClass c))

mutual

def ofObject (ns : Namespace) (depth : Nat) (object : Object) : Recursion TypeExpr :=
  match depth with
  | 0 => tooDeep
  | depth + 1 =>
    match object with
    | .value v => ofValue ns depth v
    | .typeVariable v => pure (.named (variableType ns v))
    | .variablePart v keyword => pure (.named (variablePartType ns v keyword))
    | .special name => pure (.named (specialType name))
    | .alias _ origin => ofClass depth origin
    | .newType .. | .module _ | .routine _ | .tuple _ => throw (.unsupportedHint object.text)
    | .union _ members => do
      let types ← members.mapM (ofObject ns depth)
      return .unite types
    | .literal values => pure (literalType values)
    | .annotated base _ => ofObject ns depth base
    | .generic _ origin arguments => do
      match ← ofObject ns depth origin, arguments with
      | type, [] => return type
      | .named t, arguments =>
        let types ← arguments.mapM (ofObject ns depth)
        return .generic t types false
      | _, _ => throw (.unsupportedGeneric object.text)
    | .list items => do
      let types ← items.mapM (ofObject ns depth)
      return .list types
    | .forward text => ofText ns depth text (Text.quote text)

def ofValue (ns : Namespace) (depth : Nat) (value : Value) : Recursion TypeExpr :=
  match depth with
  | 0 => tooDeep
  | depth + 1 =>
    match value with
    | .none => pure (.named .none)
    | .ellipsis => pure (.named (.builtin "..."))
    | .str s | .strSub s | .member _ .text _ (.str s) => ofText ns depth s value.text
    | .brokenStr t => ofText ns depth (String.ofList t.masked) value.text
    | .cls c => ofClass depth c
    | .list items => do
      let types ← items.mapM (ofValue ns depth)
      return .list types
    | v => throw (.unsupportedHint v.text)

def ofText (ns : Namespace) (depth : Nat) (text shown : String) : Recursion TypeExpr :=
  match depth with
  | 0 => tooDeep
  | depth + 1 =>
    match HintText.parseShown text shown with
    | .ok node => ofNode ns depth node
    | .error failure => throw failure

def ofNode (ns : Namespace) (depth : Nat) (node : Node Value) : Recursion TypeExpr :=
  match depth with
  | 0 => tooDeep
  | depth + 1 =>
    match node with
    | .name dotted =>
      if relativeNames.contains dotted then pure (.named (.unresolved dotted))
      else if dotted = "None" then pure (.named .none)
      else ofName ns depth dotted
    | .union members => do
      let types ← members.mapM (ofNode ns depth)
      return .unite types
    | .intersection members => do
      let types ← members.mapM (ofNode ns depth)
      return .intersection types
    | .list items => do
      let types ← items.mapM (ofNode ns depth)
      return .list types
    | .ellipsis => pure (.named (.builtin "..."))
    | .literal (.str s) => ofText ns depth s (Text.quote s)
    | .literal (.brokenStr t) => ofText ns depth (String.ofList t.masked) (Text.quoteBroken t)
    | .literal v => pure (.literal v)
    | .subscript origin arguments =>
      match subscriptForm ((ns.find origin).map Found.object) arguments.length with
      | .optional | .union => do
        let types ← arguments.mapM (ofNode ns depth)
        let form := subscriptForm ((ns.find origin).map Found.object) arguments.length
        return .unite (if form = .optional then types ++ [.named .none] else types)
      | .literal =>
        match literalValues? arguments with
        | some values => pure (literalType values)
        | none => throw (.unsupportedLiteral (Node.subscript origin arguments).text)
      | .annotated =>
        match arguments with
        | argument :: _ => ofNode ns depth argument
        | [] => throw .missingArgument
      | .ordinary => do
        let base ← ofName ns depth origin
        let base ← liftExcept (originOf (Text.quote origin) base)
        let types ← arguments.mapM (ofNode ns depth)
        return .generic base types false

def ofName (ns : Namespace) (depth : Nat) (dotted : String) : Recursion TypeExpr :=
  match depth with
  | 0 => tooDeep
  | depth + 1 =>
    match ns.find dotted with
    | none => pure (.named (.unresolved dotted))
    | some found => ofObject ns depth found.object

end

end Unguarded

/-! ## Recursions that end -/

section EndsWith

variable {α β : Type}

/-- Whether a recursion comes to a result at every depth that is large enough. -/
def EndsWith (x : Nat → Recursion α) (result : Except Failure α) : Prop :=
  ∃ enough, ∀ depth, enough ≤ depth → (x depth).run = some result

def Ends (x : Nat → Recursion α) : Prop :=
  ∃ result, EndsWith x result

theorem EndsWith.const (result : Except Failure α) :
    EndsWith (fun _ => ExceptT.mk (some result)) result :=
  ⟨0, fun _ _ => rfl⟩

/-- The first call takes one level of depth. -/
theorem EndsWith.deeper {x : Nat → Recursion α} {result : Except Failure α}
    (h : EndsWith (fun depth => x (depth + 1)) result) : EndsWith x result := by
  obtain ⟨enough, hRun⟩ := h
  refine ⟨enough + 1, fun depth hEnough => ?_⟩
  cases depth with
  | zero => omega
  | succ depth => exact hRun depth (by omega)

theorem EndsWith.bind {x : Nat → Recursion α} {f : Nat → α → Recursion β}
    {result : Except Failure α} {more : α → Except Failure β} (h : EndsWith x result)
    (hMore : ∀ a, result = .ok a → EndsWith (fun depth => f depth a) (more a)) :
    EndsWith (fun depth => x depth >>= f depth) (result >>= more) := by
  obtain ⟨enough, hRun⟩ := h
  cases result with
  | error e =>
    refine ⟨enough, fun depth hEnough => ?_⟩
    rw [ExceptT.run_bind, hRun depth hEnough]
    rfl
  | ok a =>
    obtain ⟨enough', hRun'⟩ := hMore a rfl
    -- The depth has to be large enough for both parts.
    refine ⟨max enough enough', fun depth hEnough => ?_⟩
    rw [ExceptT.run_bind, hRun depth (by omega)]
    exact hRun' depth (by omega)

theorem Ends.deeper {x : Nat → Recursion α} (h : Ends fun depth => x (depth + 1)) : Ends x := by
  obtain ⟨result, hResult⟩ := h
  exact ⟨result, hResult.deeper⟩

theorem Ends.const (result : Except Failure α) : Ends fun _ => ExceptT.mk (some result) :=
  ⟨result, .const result⟩

theorem Ends.lift (result : Except Failure α) :
    Ends fun _ => (liftExcept result : Recursion α) := by
  cases result with
  | error e => exact .const (.error e)
  | ok a => exact .const (.ok a)

theorem Ends.bind {x : Nat → Recursion α} {f : Nat → α → Recursion β} (h : Ends x)
    (hMore : ∀ a, Ends fun depth => f depth a) : Ends fun depth => x depth >>= f depth := by
  obtain ⟨result, hResult⟩ := h
  choose more hMore using hMore
  exact ⟨result >>= more, hResult.bind fun a _ => hMore a⟩

theorem Ends.mapM {f : Nat → α → Recursion β} {xs : List α}
    (h : ∀ x ∈ xs, Ends fun depth => f depth x) : Ends fun depth => xs.mapM (f depth) := by
  induction xs with
  | nil => exact .const (.ok [])
  | cons x xs ih =>
    simp only [List.mapM_cons]
    obtain ⟨hHere, hMore⟩ := List.forall_mem_cons.1 h
    exact hHere.bind fun y => (ih hMore).bind fun ys => .const (.ok (y :: ys))

end EndsWith

/-- The class that is its own origin is followed to any depth. -/
theorem ofClass_genericClass (depth : Nat) :
    Unguarded.ofClass depth ClassRef.genericClass = tooDeep := by
  induction depth with
  | zero => rfl
  | succ depth ih =>
    rw [Unguarded.ofClass, if_neg (by decide), if_pos rfl]
    exact ih

/-! ## With and without the guard -/

/-- Whether a guarded conversion meets its guard, or the recursion without it ends with the same
result. -/
def Agrees {α : Type} (x : Nat → Recursion α) (guarded : Except Failure α) : Prop :=
  guarded = .error .endlessHint ∨ EndsWith x guarded

section Agrees

variable {α β : Type}

theorem Agrees.const (result : Except Failure α) :
    Agrees (fun _ => ExceptT.mk (some result)) result :=
  .inr (.const result)

theorem Agrees.lift (result : Except Failure α) :
    Agrees (fun _ => (liftExcept result : Recursion α)) result := by
  cases result with
  | error e => exact .const (.error e)
  | ok a => exact .const (.ok a)

theorem Agrees.deeper {x : Nat → Recursion α} {guarded : Except Failure α}
    (h : Agrees (fun depth => x (depth + 1)) guarded) : Agrees x guarded :=
  h.imp_right EndsWith.deeper

theorem Agrees.bind {x : Nat → Recursion α} {guarded : Except Failure α}
    {f : Nat → α → Recursion β} {g : α → Except Failure β} (h : Agrees x guarded)
    (hMore : ∀ a, Agrees (fun depth => f depth a) (g a)) :
    Agrees (fun depth => x depth >>= f depth) (guarded >>= g) := by
  obtain rfl | hEnds := h
  · exact .inl rfl
  · cases guarded with
    | error e => exact .inr (hEnds.bind nofun)
    | ok a =>
      obtain hEndless | hMore := hMore a
      · exact .inl hEndless
      · refine .inr (hEnds.bind ?_)
        rintro a' ⟨⟩
        exact hMore

end Agrees

variable {ns : Namespace}

theorem agrees_ofClass (c : ClassRef) :
    Agrees (fun depth => Unguarded.ofClass depth c) (classType c) := by
  refine .deeper ?_
  simp only [Unguarded.ofClass, classType]
  split
  · exact .const _
  split
  · exact .inl rfl
  · exact .const _

-- The induction is the one by which the guarded conversion ends; the other need not end.
mutual

theorem agrees_ofObject (places : List Place) (object : Object) :
    Agrees (fun depth => Unguarded.ofObject ns depth object) (ofObject ns places object) := by
  refine .deeper ?_
  cases object with
  | value v =>
    rw [ofObject]
    exact agrees_ofValue places v
  | typeVariable | variablePart | special | literal | newType | module | routine | tuple =>
    rw [ofObject]
    exact .const _
  | «alias» form origin =>
    rw [ofObject]
    exact agrees_ofClass origin
  | union typed members =>
    simp only [Unguarded.ofObject]
    rw [ofObject]
    exact (agrees_ofObjects places members).bind fun types => .const _
  | annotated base notes =>
    rw [ofObject]
    exact agrees_ofObject places base
  | generic typed origin arguments =>
    simp only [Unguarded.ofObject]
    rw [ofObject.eq_def]
    refine (agrees_ofObject places origin).bind fun type => ?_
    cases arguments with
    | nil => exact .const _
    | cons argument arguments =>
      cases type with
      | named t =>
        exact (agrees_ofObjects places (argument :: arguments)).bind fun types => .const _
      | _ => exact .const _
  | list items =>
    simp only [Unguarded.ofObject]
    rw [ofObject]
    exact (agrees_ofObjects places items).bind fun types => .const _
  | forward text =>
    rw [ofObject]
    exact agrees_ofText places text _
termination_by (places.length, object.textSize, sizeOf object)
decreasing_by
  all_goals
    subst_vars
    refine lt_of_part ?_ ?_ <;> simp [Object.textSize] <;> omega

theorem agrees_ofObjects (places : List Place) (objects : List Object) :
    Agrees (fun depth => objects.mapM (Unguarded.ofObject ns depth))
      (ofObjects ns places objects) := by
  cases objects with
  | nil =>
    rw [ofObjects]
    exact .const _
  | cons object objects =>
    simp only [List.mapM_cons]
    rw [ofObjects]
    exact (agrees_ofObject places object).bind fun type =>
      (agrees_ofObjects places objects).bind fun types => .const _
termination_by (places.length, Object.totalTextSize objects, sizeOf objects)
decreasing_by
  all_goals
    subst_vars
    exact lt_of_part (by simp [Object.totalTextSize]) (by simp <;> omega)

theorem agrees_ofValue (places : List Place) (value : Value) :
    Agrees (fun depth => Unguarded.ofValue ns depth value) (ofValue ns places value) := by
  refine .deeper ?_
  rw [ofValue.eq_def]
  split
  next => exact .const _
  next => exact .const _
  next s => exact agrees_ofText places s _
  next s => exact agrees_ofText places s _
  next s => exact agrees_ofText places s _
  next t => exact agrees_ofText places _ _
  next c => exact agrees_ofClass c
  next items =>
    simp only [Unguarded.ofValue]
    exact (agrees_ofValues places items).bind fun types => .const _
  next =>
    simp only [Unguarded.ofValue]
    exact .const _
termination_by (places.length, value.textSize, sizeOf value)
decreasing_by
  all_goals
    subst_vars
    first
    | (refine lt_of_shorter ?_; simp [Value.textSize, Text.BrokenText.masked]; done)
    | (refine lt_of_part ?_ ?_ <;> simp [Value.textSize])

theorem agrees_ofValues (places : List Place) (values : List Value) :
    Agrees (fun depth => values.mapM (Unguarded.ofValue ns depth)) (ofValues ns places values) := by
  cases values with
  | nil =>
    rw [ofValues]
    exact .const _
  | cons v values =>
    simp only [List.mapM_cons]
    rw [ofValues]
    exact (agrees_ofValue places v).bind fun type =>
      (agrees_ofValues places values).bind fun types => .const _
termination_by (places.length, Value.totalTextSize values, sizeOf values)
decreasing_by
  all_goals
    subst_vars
    exact lt_of_part (by simp [Value.totalTextSize]) (by simp <;> omega)

theorem agrees_ofText (places : List Place) (text shown : String) :
    Agrees (fun depth => Unguarded.ofText ns depth text shown)
      (ofText ns places text shown) := by
  refine .deeper ?_
  simp only [Unguarded.ofText]
  rw [ofText]
  cases hParsed : HintText.parseShown text shown with
  | error failure => exact .const _
  | ok node => exact agrees_ofNode places node
termination_by (places.length, text.toList.length + 1, 0)
decreasing_by exact lt_of_shorter (Nat.lt_succ_of_le (HintText.size_parseShown ‹_›))

theorem agrees_ofNode (places : List Place) (node : Node Value) :
    Agrees (fun depth => Unguarded.ofNode ns depth node) (ofNode ns places node) := by
  refine .deeper ?_
  rw [ofNode.eq_def]
  split
  next dotted =>
    simp only [Unguarded.ofNode]
    split
    next => exact .const _
    next =>
      split
      next => exact .const _
      next => exact agrees_ofName places dotted
  next members =>
    simp only [Unguarded.ofNode]
    exact (agrees_ofNodes places members).bind fun types => .const _
  next members =>
    simp only [Unguarded.ofNode]
    exact (agrees_ofNodes places members).bind fun types => .const _
  next items =>
    simp only [Unguarded.ofNode]
    exact (agrees_ofNodes places items).bind fun types => .const _
  next => exact .const _
  next s => exact agrees_ofText places s _
  next t => exact agrees_ofText places _ _
  next =>
    simp only [Unguarded.ofNode]
    exact .const _
  next origin arguments =>
    simp only [Unguarded.ofNode]
    cases subscriptForm ((ns.find origin).map Found.object) arguments.length with
    | optional | union => exact (agrees_ofNodes places arguments).bind fun types => .const _
    | literal =>
      dsimp only
      cases literalValues? arguments with
      | some values => exact .const _
      | none => exact .const _
    | annotated =>
      cases arguments with
      | nil => exact .const _
      | cons argument notes => exact agrees_ofNode places argument
    | ordinary =>
      exact (agrees_ofName places origin).bind fun base =>
        (Agrees.lift _).bind fun named =>
          (agrees_ofNodes places arguments).bind fun types => .const _
termination_by (places.length, node.size literalSize, sizeOf node)
decreasing_by
  all_goals
    subst_vars
    first
    | (refine lt_of_shorter ?_; simp [Node.size, literalSize, Text.BrokenText.masked]; done)
    | exact lt_of_part (by simp [Node.size, Node.totalSize] <;> omega) (by simp <;> omega)

theorem agrees_ofNodes (places : List Place) (nodes : List (Node Value)) :
    Agrees (fun depth => nodes.mapM (Unguarded.ofNode ns depth)) (ofNodes ns places nodes) := by
  cases nodes with
  | nil =>
    rw [ofNodes]
    exact .const _
  | cons node nodes =>
    simp only [List.mapM_cons]
    rw [ofNodes]
    exact (agrees_ofNode places node).bind fun type =>
      (agrees_ofNodes places nodes).bind fun types => .const _
termination_by (places.length, Node.totalSize literalSize nodes, sizeOf nodes)
decreasing_by
  all_goals
    subst_vars
    exact lt_of_part (by simp [Node.totalSize]) (by simp <;> omega)

theorem agrees_ofName (places : List Place) (dotted : String) :
    Agrees (fun depth => Unguarded.ofName ns depth dotted) (ofName ns places dotted) := by
  refine .deeper ?_
  simp only [Unguarded.ofName]
  rw [ofName]
  cases ns.find dotted with
  | none => exact .const _
  | some found =>
    dsimp only
    split
    next => exact agrees_ofObject places found.object
    next =>
      split
      next place hPlace =>
        split
        next => exact agrees_ofObject (places.erase place) found.object
        next => exact .inl rfl
      next => exact .inl rfl
termination_by (places.length, 1, 0)
decreasing_by
  · exact lt_of_visit ‹_›
  · exact lt_of_shorter (by omega)

end

/-- A conversion that does not meet its guard comes to what the recursion without it ends with. -/
theorem endsWith_toType {object : Object} (h : object.toType ns ≠ .error .endlessHint) :
    EndsWith (fun depth => Unguarded.ofObject ns depth object) (object.toType ns) :=
  (agrees_ofObject ns.places object).resolve_left h

end Interpose.Conversion

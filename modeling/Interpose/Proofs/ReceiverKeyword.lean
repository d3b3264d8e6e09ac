import Interpose.Proofs.Delegation
import Interpose.Proofs.Rendering.Declared

/-! # Receivers and keywords

A forwarding method names its receiver `self`, whatever the method of the target calls its own and
whatever arguments that one takes. A call with a keyword of this name is passed on with it if some
parameter after the receiver is positional-only: then the slash keeps the receiver out of reach for
keywords. Otherwise the forwarding method takes the keyword for its receiver and refuses the call,
and if another parameter has the name, the generated module is not even well-formed.
-/
namespace Interpose

set_option autoImplicit false

open Sequence

/-- Whether the method that an attribute is takes a call on an object. -/
def Attribute.Accepts (item : Attribute) (call : Call Value) : Prop :=
  Collection.callUndecorated item call = pure .nothing

/-- What is always so for the parameters of a routine: their kinds are in order, at most one takes
further positional arguments and one further keywords, and no name stands twice. -/
structure DeclaredParameter.AreLegal (ps : List DeclaredParameter) : Prop where
  ordered : ps.Pairwise fun p q => p.kind.precedes q.kind
  distinct : (ps.map DeclaredParameter.name).Nodup

/-- What a forwarding method does with a call that it takes, given the call that it makes. -/
def Collection.passOn (load : Operation Unit) (m : DecoratedMethod) (delegated : Call Value) :
    Operation Answer := do
  runHooks load
  note (.delegated m.name delegated)
  let answer ← callWrapped m.name delegated
  let answer ← if m.isAsync then await answer else pure answer
  return if m.returnsResult then answer else .nothing

/-! ## Binding -/

namespace Formal

variable {V : Type}

/-- Whether two parameters take the same arguments, whatever their default values are. -/
def IsLike (f g : Formal V) : Prop :=
  f.name = g.name ∧ f.kind = g.kind ∧ f.default.isSome = g.default.isSome

theorem isSome_bind_map {W X : Type} (o : Option V) (x : Option W) (g : V → W → X) :
    (o.bind fun v => x.map (g v)).isSome = (o.isSome && x.isSome) := by
  cases o <;> cases x <;> rfl

theorem isSome_bindEach_of_like {keywords extra : List (String × V)} {fs gs : List (Formal V)}
    (h : List.Forall₂ IsLike fs gs) (args : List V) :
    (bindEach keywords extra args fs).isSome = (bindEach keywords extra args gs).isSome := by
  induction h generalizing args with
  | nil => cases args <;> rfl
  | @cons f g fs gs hLike _ ih =>
    obtain ⟨name, kind, default⟩ := f
    obtain ⟨name', kind', default'⟩ := g
    obtain ⟨rfl, rfl, hDefault⟩ := hLike
    simp only at hDefault
    cases kind <;> cases args <;>
      simp only [bindEach, Option.bind_eq_bind, isSome_bind_map, Option.isSome_map,
        Option.isSome_or, apply_ite Option.isSome, ih, hDefault]

theorem isSome_bind_eq (fs : List (Formal V)) (call : Call V) :
    (bind fs call).isSome =
      (((extraKeywords fs call).isEmpty || fs.any (·.kind = .varKeyword)) &&
        (bindEach call.keywords (extraKeywords fs call) call.positional fs).isSome) := by
  rw [bind]
  split <;> simp_all

theorem isSome_bind_of_like {fs gs : List (Formal V)} (h : List.Forall₂ IsLike fs gs)
    (call : Call V) : (bind fs call).isSome = (bind gs call).isSome := by
  have hSame : keywordNames fs = keywordNames gs ∧
      fs.any (·.kind = .varKeyword) = gs.any (·.kind = .varKeyword) := by
    induction h with
    | nil => exact ⟨rfl, rfl⟩
    | @cons f g fs gs hLike _ ih =>
      obtain ⟨hName, hKind, -⟩ := hLike
      have hTakes : f.takesKeyword = g.takesKeyword := by rw [takesKeyword, hKind, takesKeyword]
      simp only [keywordNames, List.filter_cons, hTakes, List.any_cons, hKind, ih.2] at ih ⊢
      cases g.takesKeyword <;> simp [ih, hName]
  have hExtra : extraKeywords fs call = extraKeywords gs call := by
    rw [extraKeywords, extraKeywords, hSame.1]
  rw [isSome_bind_eq, isSome_bind_eq, hExtra, hSame.2, isSome_bindEach_of_like h]

end Formal

namespace Delegation

open Parameter (IsLegal formal)

/-- A call on an object that names a receiver gives it two values. -/
theorem bind_cons_of_named {receiver : Formal Value} (hKind : receiver.kind = .positionalOrKeyword)
    (formals : List (Formal Value)) {call : Call Value}
    (hNamed : receiver.name ∈ call.keywords.map Prod.fst) (v : Value) :
    Formal.bind (receiver :: formals) (withReceiver v call) = none := by
  have hSome : (call.keywords.lookup receiver.name).isSome := by
    obtain ⟨entry, hEntry, hName⟩ := List.mem_map.1 hNamed
    rw [List.lookup_isSome_iff]
    exact ⟨entry, hEntry, by simp [hName]⟩
  obtain ⟨name, kind, default⟩ := receiver
  obtain rfl : kind = .positionalOrKeyword := hKind
  simp only [Formal.bind, withReceiver, Formal.bindEach, hSome, if_true, ite_self]

theorem Spares.of_positionalOnly {receiver : Formal Value}
    (hKind : receiver.kind = .positionalOnly) {call : Call Value} : Spares call receiver := by
  intro hTakes
  simp [Formal.takesKeyword, hKind] at hTakes

theorem Spares.of_isSome_bind {receiver : Formal Value} (hKind : receiver.kind.isPositional = true)
    {formals : List (Formal Value)} {call : Call Value} {v : Value}
    (h : (Formal.bind (receiver :: formals) (withReceiver v call)).isSome) :
    Spares call receiver := by
  intro hTakes hNamed
  have hNamable : receiver.kind = .positionalOrKeyword := by
    cases hCase : receiver.kind <;> simp [hCase, Formal.takesKeyword, ParameterKind.isPositional]
      at hKind hTakes ⊢
  rw [bind_cons_of_named hNamable formals hNamed] at h
  cases h

/-- Parameters that take keywords only leave a positional argument over. -/
theorem bindEach_of_beyond {keywords extra : List (String × Value)} {formals : List (Formal Value)}
    (h : ∀ f ∈ formals, 3 ≤ f.kind.rank) (v : Value) (args : List Value) :
    Formal.bindEach keywords extra (v :: args) formals = none := by
  induction formals with
  | nil => rfl
  | cons f formals ih =>
    have hRest := ih fun g hg => h g (List.mem_cons_of_mem f hg)
    have hRank := h f List.mem_cons_self
    cases hKind : f.kind <;> simp [hKind, ParameterKind.rank] at hRank <;>
      simp [Formal.bindEach, hKind, hRest]

end Delegation

/-! ## Methods of the target -/

namespace World

open Collection (formalsOf)
open Delegation

variable {world : World}

/-- A call that binds on an object binds to the parameters after the receiver. -/
theorem isSome_bind_dropReceiver {ps : List DeclaredParameter}
    (hLegal : DeclaredParameter.AreLegal ps) {call : Call Value} {v : Value}
    (h : (Formal.bind (formalsOf ps) (withReceiver v call)).isSome) :
    (Formal.bind (formalsOf (dropReceiver ps)) call).isSome := by
  cases ps with
  | nil =>
    simp only [Formal.bind, withReceiver, formalsOf, List.map_nil, Formal.bindEach, ite_self] at h
    cases h
  | cons p ps =>
    obtain ⟨hHead, -⟩ := List.pairwise_cons.1 hLegal.ordered
    cases hKind : p.kind with
    | positionalOnly | positionalOrKeyword =>
      have hPositional : p.kind.isPositional = true := by rw [hKind]; rfl
      rw [formalsOf, List.map_cons,
        bind_cons_receiver hPositional _ (.of_isSome_bind hPositional h), Option.isSome_map] at h
      rwa [dropReceiver, if_pos hPositional]
    | varPositional =>
      rw [Formal.isSome_bind_eq] at h
      rw [dropReceiver, if_neg (by simp [hKind, ParameterKind.isPositional]),
        Formal.isSome_bind_eq]
      simpa only [formalsOf, List.map_cons, hKind, Formal.bindEach, Option.isSome_map,
        keywords_withReceiver, extraKeywords_withReceiver] using h
    | keywordOnly | varKeyword =>
      have hRank : 3 ≤ p.kind.rank := by
        rw [hKind]
        decide
      have hBeyond : ∀ f ∈ formalsOf (p :: ps), 3 ≤ f.kind.rank := by
        intro f hf
        obtain ⟨q, hq, rfl⟩ := List.mem_map.1 hf
        obtain rfl | hq := List.mem_cons.1 hq
        · exact hRank
        · exact Nat.le_trans hRank (ParameterKind.rank_le_of_precedes (hHead q hq))
      simp only [Formal.bind, withReceiver, bindEach_of_beyond hBeyond, ite_self] at h
      cases h

theorem map_formal_of_mapM {ns : Namespace} {declared : List DeclaredParameter}
    {parameters : List Parameter} (h : declared.mapM (parameterOf ns) = .ok parameters) :
    parameters.map Parameter.formal = formalsOf declared := by
  have hEach := mapM_eq_ok_iff.1 h
  clear h
  induction hEach with
  | nil => rfl
  | cons hParameter _ ih =>
    obtain ⟨type, -, ⟨⟩⟩ := bind_eq_ok_iff.1 hParameter
    rw [List.map_cons, ih]
    rfl

theorem formals_of_methodOf {k : ClassRef} {name : String} {isStatic : Bool} {r : Routine}
    {m : Method} (h : world.methodOf k name isStatic true r = .ok m) :
    m.parameters.map Parameter.formal = formalsOf (dropReceiver r.parameters) := by
  obtain ⟨-, parameters, returns, hParameters, -, rfl⟩ := Surface.methodOf_eq_ok h
  exact map_formal_of_mapM hParameters

theorem callIdle_eq_pure_iff {ps : List DeclaredParameter} {call : Call Value} :
    Collection.callIdle ps call = pure .nothing ↔ (Formal.bind (formalsOf ps) call).isSome := by
  rw [Collection.callIdle]
  cases Formal.bind (formalsOf ps) call with
  | some bindings => exact iff_of_true rfl rfl
  | none =>
    refine iff_of_false (fun h => ?_) Bool.false_ne_true
    exact nomatch congrArg Prod.fst (congrFun h {})

/-- The parameters of a method that takes its receiver are those that stand after it, if they are
known; a method that does not show its parameters takes any call. -/
theorem parameters_of_describes {entry : Entry} {m : Method} (h : world.Describes entry m)
    (hStatic : m.isStatic = false) :
    (m.parameters.map Parameter.formal = formalsOf (dropReceiver entry.2.2.parameters) ∧
      ∀ call, entry.2.2.Accepts call ↔
        (Formal.bind (formalsOf entry.2.2.parameters) (withReceiver .none call)).isSome) ∨
    (m.parameters = anyParameters ∧ ∀ call, entry.2.2.Accepts call) := by
  obtain ⟨k, name, item⟩ := entry
  have hKind : item.isStatic = false := h.isStatic.symm.trans hStatic
  have hConverted := h.converted
  cases item with
  | staticMethod r | classMethod r => cases hKind
  | property r | plain object => cases hConverted
  | descriptor =>
    cases hConverted
    exact .inr ⟨rfl, fun _ => rfl⟩
  | function r =>
    obtain ⟨_, hMethod, ⟨⟩⟩ := map_eq_ok_iff.1 hConverted
    exact .inl ⟨formals_of_methodOf hMethod, fun _ => callIdle_eq_pure_iff⟩
  | native label parameters ofClass =>
    obtain rfl : ofClass = false := hKind
    cases parameters with
    | none =>
      cases hConverted
      exact .inr ⟨rfl, fun _ => rfl⟩
    | some parameters =>
      obtain ⟨_, hMethod, ⟨⟩⟩ := map_eq_ok_iff.1 hConverted
      exact .inl ⟨formals_of_methodOf hMethod, fun _ => callIdle_eq_pure_iff⟩

/-! A method that takes its receiver, as it is introspected. -/

section Described

variable {entry : Entry} {m : Method} (hDescribes : world.Describes entry m)
  (hStatic : m.isStatic = false) (hLegal : DeclaredParameter.AreLegal entry.2.2.parameters)

include hDescribes hStatic hLegal

theorem pairwise_kinds_of_describes :
    m.parameters.Pairwise fun p q => p.kind.precedes q.kind := by
  obtain ⟨hFormals, -⟩ | ⟨hAny, -⟩ := parameters_of_describes hDescribes hStatic
  · have hDeclared : (formalsOf (dropReceiver entry.2.2.parameters)).Pairwise
        fun f g => f.kind.precedes g.kind :=
      List.pairwise_map.2 (hLegal.ordered.sublist (dropReceiver_sublist _))
    rw [← hFormals, List.pairwise_map] at hDeclared
    exact hDeclared
  · rw [hAny]
    decide

theorem nodup_names_of_describes : (m.parameters.map Parameter.name).Nodup := by
  obtain ⟨hFormals, -⟩ | ⟨hAny, -⟩ := parameters_of_describes hDescribes hStatic
  · have hNames : m.parameters.map Parameter.name
        = (dropReceiver entry.2.2.parameters).map DeclaredParameter.name := by
      have := congrArg (List.map Formal.name) hFormals
      simpa [formalsOf, Function.comp_def, Parameter.formal] using this
    rw [hNames]
    exact hLegal.distinct.sublist ((dropReceiver_sublist _).map _)
  · rw [hAny]
    decide

theorem isSome_bind_of_accepts {call : Call Value} (h : entry.2.2.Accepts call) :
    (Formal.bind (m.parameters.map Parameter.formal) call).isSome := by
  obtain ⟨hFormals, hAccepts⟩ | ⟨hAny, -⟩ := parameters_of_describes hDescribes hStatic
  · rw [hFormals]
    exact isSome_bind_dropReceiver hLegal ((hAccepts call).1 h)
  · rw [hAny, Formal.isSome_bind_eq]
    simp [anyParameters, Parameter.formal, Formal.bindEach]

/-- If some parameter after the receiver is positional-only, so is the receiver, and what binds to
the parameters is taken. -/
theorem accepts_of_isSome_bind (hOnly : ∃ p ∈ m.parameters, p.kind = .positionalOnly)
    {call : Call Value} (h : (Formal.bind (m.parameters.map Parameter.formal) call).isSome) :
    entry.2.2.Accepts call := by
  obtain ⟨hFormals, hAccepts⟩ | ⟨-, hAll⟩ := parameters_of_describes hDescribes hStatic
  · rw [hAccepts]
    obtain ⟨q, hq, hqKind⟩ : ∃ q ∈ dropReceiver entry.2.2.parameters, q.kind = .positionalOnly := by
      obtain ⟨p, hp, hpKind⟩ := hOnly
      have hMem : p.formal ∈ formalsOf (dropReceiver entry.2.2.parameters) :=
        hFormals ▸ List.mem_map_of_mem hp
      obtain ⟨q, hq, hSame⟩ := List.mem_map.1 hMem
      exact ⟨q, hq, (congrArg Formal.kind hSame).trans hpKind⟩
    rw [hFormals] at h
    have hOrdered := hLegal.ordered
    generalize entry.2.2.parameters = ps at h hq hOrdered
    cases ps with
    | nil => cases hq
    | cons receiver ps =>
      obtain ⟨hHead, -⟩ := List.pairwise_cons.1 hOrdered
      have hKind : receiver.kind = .positionalOnly := by
        obtain rfl | hLater := List.mem_cons.1 (mem_of_mem_dropReceiver hq)
        · exact hqKind
        · have hRank := ParameterKind.rank_le_of_precedes (hHead q hLater)
          cases hCase : receiver.kind <;> simp [hCase, hqKind, ParameterKind.rank] at hRank ⊢
      have hPositional : receiver.kind.isPositional = true := by rw [hKind]; rfl
      rw [dropReceiver, if_pos hPositional] at h
      rw [formalsOf, List.map_cons, bind_cons_receiver hPositional _ (.of_positionalOnly hKind),
        Option.isSome_map]
      exact h
  · exact hAll call

end Described

end World

/-! ## Forwarding methods -/

namespace DeclItem

def map {α β : Type} (f : α → β) : DeclItem α → DeclItem β
  | .receiver => .receiver
  | .slash => .slash
  | .star => .star
  | .parameter p => .parameter (f p)

theorem any_isSlash_map {α β : Type} (f : α → β) (items : List (DeclItem α)) :
    (items.map (map f)).any isSlash = items.any isSlash := by
  rw [List.any_map]
  congr 1
  funext item
  cases item <;> rfl

theorem readDeclaration_map {α β V : Type} (f : α → β) (name : β → String)
    (kind : β → ParameterKind) (default : β → Option V) (after : Bool)
    (items : List (DeclItem α)) :
    readDeclaration name kind default after (items.map (map f))
      = readDeclaration (fun p => name (f p)) (fun p => kind (f p)) (fun p => default (f p)) after
          items := by
  induction items generalizing after with
  | nil => rfl
  | cons item items ih =>
    cases item <;>
      simp only [List.map_cons, map, readDeclaration, readKind, any_isSlash_map, ih]

theorem parameter_mem_ofParameters {p : Parameter} {ps : List Parameter} (h : p ∈ ps)
    (hasVariadic marked : Bool) : .parameter p ∈ ofParameters hasVariadic marked ps := by
  induction ps generalizing marked with
  | nil => cases h
  | cons q ps ih =>
    simp only [ofParameters, List.mem_append]
    obtain rfl | h := List.mem_cons.1 h
    · exact .inl (.inl (.inr List.mem_cons_self))
    · exact .inr (ih h _)

end DeclItem

namespace ForwardingMethod

variable {world : World} {m : Method} {f : ForwardingMethod}

theorem name_mem_parameters (h : of world m = .ok f) {name : String}
    (hMem : name ∈ m.parameters.map Parameter.name) :
    name ∈ f.parameters.map WrittenParameter.name := by
  obtain ⟨p, hp, rfl⟩ := List.mem_map.1 hMem
  have hItem : DeclItem.parameter p ∈ declarationOf m.parameters :=
    List.mem_cons_of_mem _ (DeclItem.parameter_mem_ofParameters hp _ _)
  obtain ⟨_, _, -, hDeclaration, rfl⟩ := of_eq_ok h
  have hEach := mapM_eq_ok_iff.1 hDeclaration
  obtain ⟨written, hWritten, hWrites⟩ := exists_of_forall₂ hEach.flip hItem
  obtain ⟨w, hOf, rfl⟩ := DeclItem.write_parameter hWrites
  rw [← (WrittenParameter.of_eq_ok hOf).1]
  exact List.mem_map_of_mem (List.mem_filterMap.2 ⟨_, hWritten, rfl⟩)

end ForwardingMethod

theorem privateName_self (className : String) : privateName className "self" = "self" := by
  have hNormal : Text.normalForm "self" = "self" := by decide +kernel
  simp [privateName, hNormal]

namespace ClassSource

variable {world : World} {source : ClassSource} {m : Method} {f : ForwardingMethod}

/-- A module with a parameter that is called like the receiver is not well-formed. -/
theorem run_of_self (h : ForwardingMethod.of world m = .ok f)
    (hSelf : "self" ∈ m.parameters.map Parameter.name) (hMem : f ∈ source.methods)
    (w : LoadedWorld) (moduleName : String) (serial : Nat) :
    source.run w moduleName serial = .error .malformedModule := by
  have hTwice : allDistinct
      ("self" :: f.parameters.map fun p => privateName source.className p.name) = false := by
    obtain ⟨p, hp, hName⟩ := List.mem_map.1 (ForwardingMethod.name_mem_parameters h hSelf)
    have hHere : "self" ∈ f.parameters.map fun p => privateName source.className p.name :=
      List.mem_map.2 ⟨p, hp, by rw [hName, privateName_self]⟩
    rw [allDistinct, List.contains_iff_mem.2 hHere]
    rfl
  have hMalformed : source.isWellformed = false := by
    have hAll : source.methods.all (ForwardingMethod.isWellformed source.className) = false := by
      refine List.all_eq_false.2 ⟨f, hMem, ?_⟩
      simp [ForwardingMethod.isWellformed, hTwice]
    rw [isWellformed, hAll, Bool.and_false]
  rw [run, hMalformed]
  rfl

/-- What the expression of a default value yields in a class, if it yields anything. -/
def defaultIn (source : ClassSource) (world : World) (defined : List DecoratedMethod)
    (e : DefaultExpr) : Value :=
  match world.evalDefault source.className source.importedNames defined e with
  | .ok v => v
  | .error _ => noDefault

theorem eq_defaultIn {defined : List DecoratedMethod} {e : DefaultExpr} {v : Value}
    (h : world.evalDefault source.className source.importedNames defined e = .ok v) :
    v = source.defaultIn world defined e := by
  rw [defaultIn, h]

/-- A forwarding method takes its receiver and the parameters of its method, each of its own kind,
under the names that they have in the class, and with a default value where they have one. -/
theorem defineMethod_eq_ok (h : ForwardingMethod.of world m = .ok f)
    (hOrder : m.parameters.Pairwise fun p q => p.kind.precedes q.kind)
    {defined : List DecoratedMethod} {dm : DecoratedMethod}
    (hDefined : source.defineMethod world defined f = .ok dm) :
    ∃ value : Parameter → Value,
      dm.formals = ⟨"self", receiverKind m.parameters, none⟩ :: m.parameters.map (fun p =>
        ⟨privateName source.className p.name, p.kind, p.default.map fun _ => value p⟩) ∧
      dm.arguments = (callArguments m.parameters).map (CallArgument.inside source.className) := by
  obtain ⟨_, declaration, -, hWritten, rfl⟩ := ForwardingMethod.of_eq_ok h
  obtain ⟨evaluated, hEvaluated, ⟨⟩⟩ := bind_eq_ok_iff.1 hDefined
  have hItems : evaluated = declaration.map (DeclItem.map fun w =>
      (privateName source.className w.name, w.kind,
        w.default.map (source.defaultIn world defined))) := by
    refine eq_map_of_mapM_eq_ok (fun item result hItem => ?_) hEvaluated
    cases item with
    | receiver | slash | star =>
      cases hItem
      rfl
    | parameter w =>
      obtain ⟨default, hDefault, ⟨⟩⟩ := bind_eq_ok_iff.1 hItem
      rw [eq_map_of_option_mapM_eq_ok (fun _ _ => eq_defaultIn) hDefault]
      rfl
  refine ⟨fun p => source.defaultIn world defined (DefaultExpr.of m p), ?_, rfl⟩
  simp only [hItems, DeclItem.readDeclaration_map]
  rw [DeclItem.readDeclaration_of_write (privateName source.className)
    (source.defaultIn world defined) (mapM_eq_ok_iff.1 hWritten)]
  exact readDeclaration_declarationOf _ _ hOrder

end ClassSource

namespace Delegation

open Parameter (IsLegal)

/-- A parameter with another default value, if it has one. -/
def withDefault (value : Parameter → Value) (p : Parameter) : Parameter :=
  { p with default := p.default.map fun _ => value p }

theorem isSome_bind_withDefault (value : Parameter → Value) (ps : List Parameter)
    (call : Call Value) :
    (Formal.bind ((ps.map (withDefault value)).map Parameter.formal) call).isSome
      = (Formal.bind (ps.map Parameter.formal) call).isSome := by
  refine Formal.isSome_bind_of_like ?_ call
  rw [List.map_map, List.forall₂_map_left_iff, List.forall₂_map_right_iff, List.forall₂_same]
  intro p _
  exact ⟨rfl, rfl, Option.isSome_map⟩

theorem isLegal_withDefault {ps : List Parameter} (hLegal : IsLegal ps)
    (value : Parameter → Value) : IsLegal (ps.map (withDefault value)) where
  ordered := List.pairwise_map.2 hLegal.ordered
  distinct := by
    rw [List.map_map]
    exact hLegal.distinct
  noReceiver := by
    rw [List.map_map]
    exact hLegal.noReceiver

theorem callArguments_withDefault (value : Parameter → Value) (ps : List Parameter) :
    callArguments (ps.map (withDefault value)) = callArguments ps := by
  rw [callArguments, List.map_map]
  rfl

theorem callArguments_inside {className : String} {ps : List Parameter}
    (h : ∀ p ∈ ps, privateName className p.name = p.name) :
    (callArguments ps).map (CallArgument.inside className) = callArguments ps := by
  rw [callArguments, List.map_map]
  refine List.map_congr_left fun p hp => ?_
  have hName := h p hp
  cases hKind : p.kind <;>
    simp only [Function.comp_apply, CallArgument.of, hKind, CallArgument.inside, hName]

/-- A keyword with the name of the receiver, which is no parameter's name, is passed on. -/
theorem mem_keywords_of_extra {ps : List Parameter} (hLegal : IsLegal ps) {call : Call Value}
    {bindings : Bindings Value}
    (hExtra : Formal.extraKeywords (ps.map Parameter.formal) (delegatedCall ps bindings)
      = Formal.extraKeywords (ps.map Parameter.formal) call)
    {v : Value} (hSelf : ("self", v) ∈ call.keywords) :
    ("self", v) ∈ (delegatedCall ps bindings).keywords := by
  have hFree : "self" ∉ Formal.keywordNames (ps.map Parameter.formal) := by
    intro hMem
    obtain ⟨f, hf, hName⟩ := List.mem_map.1 hMem
    obtain ⟨p, hp, rfl⟩ := List.mem_map.1 (List.mem_of_mem_filter hf)
    exact hLegal.noReceiver (List.mem_map.2 ⟨p, hp, hName⟩)
  have hMem : ("self", v) ∈ Formal.extraKeywords (ps.map Parameter.formal) call :=
    List.mem_filter.2 ⟨hSelf, by simpa using hFree⟩
  exact List.mem_of_mem_filter (hExtra ▸ hMem)

end Delegation

namespace Collection

open Delegation

variable {m : DecoratedMethod} {call : Call Value}

theorem callDecorated_of_unbound (h : Formal.bind m.formals (withReceiver .none call) = none)
    (load : Operation Unit) : callDecorated load m call = throw .argumentMismatch := by
  have hBind : Formal.bind m.formals { call with positional := .none :: call.positional } = none :=
    h
  rw [callDecorated, hBind]

theorem callDecorated_of_bound {bindings : Bindings Value} {delegated : Call Value}
    (h : Formal.bind m.formals (withReceiver .none call) = some bindings)
    (hEvaluated : CallArgument.evaluateAll bindings m.arguments = some delegated)
    (load : Operation Unit) : callDecorated load m call = passOn load m delegated := by
  have hBind : Formal.bind m.formals { call with positional := .none :: call.positional }
      = some bindings := h
  rw [callDecorated, hBind]
  simp only [hEvaluated]
  rfl

end Collection

open Collection Delegation in
/-- Take a call with the keyword `self` that a method of the target takes. If one of the parameters
after the receiver has this name, no module with the forwarding method runs. If none of them is
positional-only, the forwarding method refuses the call. Otherwise, as long as no parameter is
private to the class, it passes the call on with the keyword, and the method takes what is passed
on. -/
theorem receiver_name_as_keyword (world : World) {entry : Entry} {m : Method}
    {f : ForwardingMethod} (hDescribes : world.Describes entry m) (hForwarded : m.IsForwarded)
    (hLegal : DeclaredParameter.AreLegal entry.2.2.parameters)
    (hForwarding : ForwardingMethod.of world m = .ok f) {call : Call Value}
    (hKeywords : call.HasDistinctKeywords) {v : Value} (hSelf : ("self", v) ∈ call.keywords)
    (hAccepts : entry.2.2.Accepts call) :
    let names := m.parameters.map Parameter.name
    let shielded := ∃ p ∈ m.parameters, p.kind = .positionalOnly
    ("self" ∈ names → ∀ source : ClassSource, f ∈ source.methods → ∀ w moduleName serial,
      source.run w moduleName serial = .error .malformedModule) ∧
    ∀ (source : ClassSource) (defined : List DecoratedMethod) (dm : DecoratedMethod),
      source.defineMethod world defined f = .ok dm →
      (¬ shielded → ∀ load, callDecorated load dm call = throw .argumentMismatch) ∧
      ("self" ∉ names → shielded → (∀ name ∈ names, privateName source.className name = name) →
        ∃ delegated, (∀ load, callDecorated load dm call = passOn load dm delegated) ∧
          ("self", v) ∈ delegated.keywords ∧ delegated.HasDistinctKeywords ∧
          entry.2.2.Accepts delegated) := by
  intro names shielded
  obtain ⟨-, hStatic, -⟩ := hForwarded
  have hOrder := World.pairwise_kinds_of_describes hDescribes hStatic hLegal
  have hTaken := World.isSome_bind_of_accepts hDescribes hStatic hLegal hAccepts
  refine ⟨fun hName source hMem => ClassSource.run_of_self hForwarding hName hMem,
    fun source defined dm hDefined => ?_⟩
  obtain ⟨value, hFormals, hArguments⟩ :=
    ClassSource.defineMethod_eq_ok hForwarding hOrder hDefined
  constructor
  · intro hOpen load
    have hKind : receiverKind m.parameters = .positionalOrKeyword := by
      refine if_neg fun hAny => hOpen ?_
      obtain ⟨p, hp, hOnly⟩ := List.any_eq_true.1 hAny
      exact ⟨p, hp, of_decide_eq_true hOnly⟩
    have hBind : Formal.bind dm.formals (withReceiver .none call) = none := by
      rw [hFormals]
      exact bind_cons_of_named hKind _ (List.mem_map_of_mem hSelf) .none
    exact callDecorated_of_unbound hBind load
  · intro hOther hShielded hNames
    have hLegalBound : Parameter.IsLegal (m.parameters.map (withDefault value)) :=
      isLegal_withDefault
        ⟨hOrder, World.nodup_names_of_describes hDescribes hStatic hLegal, hOther⟩ value
    have hOwnNames (p : Parameter) (hp : p ∈ m.parameters) :
        privateName source.className p.name = p.name := hNames p.name (List.mem_map_of_mem hp)
    rw [← isSome_bind_withDefault value] at hTaken
    obtain ⟨bindings, hBind⟩ := Option.isSome_iff_exists.1 hTaken
    obtain ⟨hFits, hDistinct, hBound, hExtra⟩ := bind_delegatedCall hLegalBound hKeywords hBind
    have hReceived : Formal.bind dm.formals (withReceiver .none call)
        = some (("self", .one .none) :: bindings) := by
      have hKind : receiverKind m.parameters = .positionalOnly := by
        obtain ⟨p, hp, hOnly⟩ := hShielded
        exact if_pos (List.any_eq_true.2 ⟨p, hp, decide_eq_true hOnly⟩)
      have hTail : m.parameters.map (fun p => (⟨privateName source.className p.name, p.kind,
            p.default.map fun _ => value p⟩ : Formal Value))
          = (m.parameters.map (withDefault value)).map Parameter.formal := by
        rw [List.map_map]
        refine List.map_congr_left fun p hp => ?_
        rw [hOwnNames p hp]
        rfl
      rw [hFormals, hTail, hKind, bind_cons_receiver rfl _ (.of_positionalOnly rfl), hBind]
      rfl
    have hEvaluated : CallArgument.evaluateAll (("self", .one .none) :: bindings) dm.arguments
        = some (delegatedCall (m.parameters.map (withDefault value)) bindings) := by
      rw [hArguments, callArguments_inside hOwnNames, ← callArguments_withDefault value]
      exact evaluateAll_delegatedCall hLegalBound hFits _
    refine ⟨_, callDecorated_of_bound hReceived hEvaluated,
      mem_keywords_of_extra hLegalBound hExtra hSelf, hDistinct,
      World.accepts_of_isSome_bind hDescribes hStatic hLegal hShielded ?_⟩
    rw [← isSome_bind_withDefault value, hBound]
    rfl

namespace ReceiverKeyword.Sample

def store : ClassRef := ⟨"m", "Store", 1, false⟩

def receiver : DeclaredParameter := ⟨"self", .positionalOnly, none, none⟩

def options : DeclaredParameter := ⟨"options", .varKeyword, none, none⟩

def routine (parameters : List DeclaredParameter) : Routine :=
  ⟨parameters, none, "m", false, false, true, 1⟩

def putting : Routine := routine [receiver, ⟨"key", .positionalOnly, none, none⟩, options]

def setting : Routine := routine [receiver, options]

/-- A class whose methods take any keywords, their receiver by position only. -/
def world : World where
  modules := [⟨"m", false, [("Store", .cls store)]⟩]
  classes := [
    { ref := store, name := "Store", bases := [.objectClass], resolution := [store, .objectClass]
      attributes := [("put", .function putting), ("set", .function setting)] }]
  memory := []

def method (name : String) (parameters : List Parameter) : Method :=
  { name, declaring := .ofClass store, parameters }

def put : Method :=
  method "put"
    [{ name := "key", kind := .positionalOnly }, { name := "options", kind := .varKeyword }]

def set : Method := method "set" [{ name := "options", kind := .varKeyword }]

def target : Target := ⟨"m", "Store", [put, set]⟩

end ReceiverKeyword.Sample

open Collection ReceiverKeyword.Sample in
theorem receiver_name_as_keyword_of_key :
    let call : Call Value := ⟨[.str "a"], [("self", .int 1)]⟩
    ∃ source f dm delegated, ForwardingMethod.of world put = .ok f ∧
      ClassSource.of world target "mStorePersistent" = .ok source ∧
      source.defineMethod world [] f = .ok dm ∧
      (∀ load, callDecorated load dm call = passOn load dm delegated) ∧
      ("self", .int 1) ∈ delegated.keywords ∧ (Attribute.function putting).Accepts delegated := by
  intro call
  have hDescribes : world.Describes (store, "put", .function putting) put :=
    ⟨rfl, rfl, rfl, rfl, rfl⟩
  have hLegal : DeclaredParameter.AreLegal putting.parameters := ⟨by decide, by decide⟩
  have hKeywords : call.HasDistinctKeywords := List.nodup_singleton _
  have hNames : ∀ name ∈ put.parameters.map Parameter.name,
      privateName "mStorePersistent" name = name := by decide +kernel
  obtain ⟨-, hCalls⟩ := receiver_name_as_keyword world hDescribes (by decide) hLegal
    (f := ⟨"put", false, _, none, _⟩) rfl hKeywords List.mem_cons_self rfl
  obtain ⟨-, hShielded⟩ := hCalls ⟨"mStorePersistent", "m", "Store", _⟩ [] _ rfl
  obtain ⟨delegated, hPassed, hMem, -, hAccepts⟩ := hShielded (by decide) (by decide) hNames
  exact ⟨_, _, _, delegated, rfl, rfl, rfl, hPassed, hMem, hAccepts⟩

open Collection ReceiverKeyword.Sample in
/-- Without another positional-only parameter the keyword is taken for the receiver. -/
theorem receiver_name_refused :
    let call : Call Value := ⟨[], [("self", .int 1)]⟩
    ∃ source methods, world.introspect store = .ok target ∧ set.skipReason = none ∧
      ClassSource.of world target "mStorePersistent" = .ok source ∧
      source.defineMethods world [] source.methods = .ok methods ∧
      world.classAttribute? store "set" = some (store, .function setting) ∧
      (Attribute.function setting).Accepts call ∧
      ∀ ref load, callMethod world (some ⟨ref, store, methods⟩) load "set" call
        = throw .argumentMismatch := by
  refine ⟨_, _, rfl, rfl, rfl, rfl, rfl, rfl, fun ref load => ?_⟩
  have hFound (put set : DecoratedMethod) (hPut : put.name = "put") (hSet : set.name = "set")
      (hUnbound : Formal.bind set.formals ⟨[.none], [("self", .int 1)]⟩ = none) :
      callMethod world (some ⟨ref, store, [put, set]⟩) load "set" ⟨[], [("self", .int 1)]⟩
        = throw .argumentMismatch := by
    have hFind : [put, set].find? (fun m => m.name == "set") = some set := by
      simp [hPut, hSet]
    rw [callMethod, Option.bind_some, hFind]
    exact callDecorated_of_unbound hUnbound load
  exact hFound _ _ (by decide +kernel) (by decide +kernel) rfl

end Interpose

import Mathlib.Data.List.Forall2
import Interpose.Proofs.ParameterText

/-! # Faithful delegation

A forwarding method takes exactly the calls that the parameters of its method take and binds them
alike. The call it makes passes every value on once, in the order of the parameters: those of
parameters that take arguments by position, and further positional arguments, by position, all
others by keyword. That call binds to the same parameters with the same values. Both are read off
the text that is written: the declaration with its asterisks, its slash and its star, and the call
with its arguments.
-/
namespace Interpose

set_option autoImplicit false

def Call.HasDistinctKeywords {V : Type} (call : Call V) : Prop :=
  (call.keywords.map Prod.fst).Nodup

def Bound.passedOn (p : Parameter) : Bound Value → Call Value
  | .one v => if p.kind = .keywordOnly then ⟨[], [(p.name, v)]⟩ else ⟨[v], []⟩
  | .rest vs => ⟨vs, []⟩
  | .extra entries => ⟨[], entries⟩

def delegatedCall : List Parameter → Bindings Value → Call Value
  | p :: ps, (_, b) :: bindings =>
    let first := b.passedOn p
    let others := delegatedCall ps bindings
    ⟨first.positional ++ others.positional, first.keywords ++ others.keywords⟩
  | _, _ => ⟨[], []⟩

/-- Whether an entry of a binding is one for the parameter, given the keyword arguments that no
named parameter takes. -/
def Parameter.Fits (extra : List (String × Value)) (p : Parameter)
    (entry : String × Bound Value) : Prop :=
  entry.1 = p.name ∧
    match p.kind with
    | .varPositional => ∃ vs, entry.2 = .rest vs
    | .varKeyword => entry.2 = .extra extra
    | .positionalOnly | .positionalOrKeyword | .keywordOnly => ∃ v, entry.2 = .one v

namespace Delegation

open Parameter (Fits IsLegal eq_nil_of_varKeyword)

variable {keywords extra : List (String × Value)} {ps : List Parameter} {bindings : Bindings Value}

/-! ## Binding -/

theorem cons_of_map {args : List Value} {p : Parameter} {formals : List (Formal Value)}
    {b : Bound Value} (hFits : Fits extra p (p.name, b))
    (h : (Formal.bindEach keywords extra args formals).map ((p.name, b) :: ·) = some bindings) :
    ∃ entry rest args', bindings = entry :: rest ∧ Fits extra p entry ∧
      Formal.bindEach keywords extra args' formals = some rest := by
  obtain ⟨rest, hRest, rfl⟩ := Option.map_eq_some_iff.mp h
  exact ⟨_, rest, args, rfl, hFits, hRest⟩

theorem bindEach_cons_eq_some {args : List Value} {p : Parameter} {formals : List (Formal Value)}
    (h : Formal.bindEach keywords extra args (p.formal :: formals) = some bindings) :
    ∃ entry rest args', bindings = entry :: rest ∧ Fits extra p entry ∧
      Formal.bindEach keywords extra args' formals = some rest := by
  cases hKind : p.kind with
  | positionalOnly =>
    cases args <;> simp only [Parameter.formal, Formal.bindEach, hKind] at h
    case nil =>
      obtain ⟨v, -, h⟩ := Option.bind_eq_some_iff.mp h
      exact cons_of_map ⟨rfl, by simp [hKind]⟩ h
    case cons v args => exact cons_of_map ⟨rfl, by simp [hKind]⟩ h
  | positionalOrKeyword =>
    cases args <;> simp only [Parameter.formal, Formal.bindEach, hKind] at h
    case nil =>
      obtain ⟨v, -, h⟩ := Option.bind_eq_some_iff.mp h
      exact cons_of_map ⟨rfl, by simp [hKind]⟩ h
    case cons v args =>
      split at h
      · cases h
      · exact cons_of_map ⟨rfl, by simp [hKind]⟩ h
  | varPositional =>
    simp only [Parameter.formal, Formal.bindEach, hKind] at h
    exact cons_of_map ⟨rfl, by simp [hKind]⟩ h
  | keywordOnly =>
    simp only [Parameter.formal, Formal.bindEach, hKind] at h
    obtain ⟨v, -, h⟩ := Option.bind_eq_some_iff.mp h
    exact cons_of_map ⟨rfl, by simp [hKind]⟩ h
  | varKeyword =>
    simp only [Parameter.formal, Formal.bindEach, hKind] at h
    exact cons_of_map ⟨rfl, by simp [hKind]⟩ h

theorem forall₂_fits_of_bindEach {args : List Value}
    (h : Formal.bindEach keywords extra args (ps.map Parameter.formal) = some bindings) :
    List.Forall₂ (Fits extra) ps bindings := by
  induction ps generalizing args bindings with
  | nil =>
    cases args with
    | nil => cases h; exact .nil
    | cons => cases h
  | cons p ps ih =>
    obtain ⟨entry, rest, args', rfl, hFits, hRest⟩ := bindEach_cons_eq_some h
    exact .cons hFits (ih hRest)

theorem map_fst_of_forall₂ (h : List.Forall₂ (Fits extra) ps bindings) :
    bindings.map Prod.fst = ps.map Parameter.name := by
  induction h with
  | nil => rfl
  | cons hFits _ ih => rw [List.map_cons, List.map_cons, hFits.1, ih]

/-! ## Evaluation of the delegated call -/

theorem evaluate_of_lookup {all : Bindings Value} {p : Parameter} {entry : String × Bound Value}
    (hFits : Fits extra p entry) (hLookup : all.lookup entry.1 = some entry.2) :
    (CallArgument.of p).evaluate all = some (entry.2.passedOn p) := by
  obtain ⟨name, b⟩ := entry
  obtain ⟨rfl, hBound⟩ := hFits
  simp only at hLookup hBound
  cases hKind : p.kind <;> simp only [hKind] at hBound
  case varKeyword =>
    subst hBound
    simp [CallArgument.of, CallArgument.evaluate, hKind, hLookup, Bound.passedOn]
  all_goals
    obtain ⟨v, rfl⟩ := hBound
    simp [CallArgument.of, CallArgument.evaluate, hKind, hLookup, Bound.passedOn]

theorem evaluateAll_of_lookup {all : Bindings Value} (h : List.Forall₂ (Fits extra) ps bindings)
    (hLookup : ∀ entry ∈ bindings, all.lookup entry.1 = some entry.2) :
    CallArgument.evaluateAll all (callArguments ps) = some (delegatedCall ps bindings) := by
  induction h with
  | nil => rfl
  | @cons p entry ps bindings hFits _ ih =>
    have hFirst := evaluate_of_lookup hFits (hLookup entry List.mem_cons_self)
    have hOthers := ih fun e he => hLookup e (List.mem_cons_of_mem _ he)
    simp only [callArguments] at hOthers
    simp [callArguments, CallArgument.evaluateAll, hFirst, hOthers, delegatedCall]

/-! ## Binding of the delegated call -/

theorem mem_keywords_delegatedCall (h : List.Forall₂ (Fits extra) ps bindings) {name : String}
    (hMem : name ∈ (delegatedCall ps bindings).keywords.map Prod.fst) :
    (∃ p ∈ ps, p.kind = .keywordOnly ∧ p.name = name) ∨ name ∈ extra.map Prod.fst := by
  induction h with
  | nil => cases hMem
  | @cons p entry ps bindings hFits _ ih =>
    simp only [delegatedCall, List.map_append, List.mem_append] at hMem
    rcases hMem with hFirst | hOthers
    · obtain ⟨-, hBound⟩ := hFits
      cases hKind : p.kind <;> simp only [hKind] at hBound
      case varKeyword =>
        rw [hBound] at hFirst
        exact .inr hFirst
      all_goals
        obtain ⟨v, hv⟩ := hBound
        simp [hv, Bound.passedOn, hKind] at hFirst
      case keywordOnly => exact .inl ⟨p, List.mem_cons_self, hKind, hFirst.symm⟩
    · rcases ih hOthers with ⟨q, hq, hName⟩ | hExtra
      · exact .inl ⟨q, List.mem_cons_of_mem _ hq, hName⟩
      · exact .inr hExtra

theorem not_mem_keywords_delegatedCall (h : List.Forall₂ (Fits extra) ps bindings) {p : Parameter}
    (hName : p.name ∉ ps.map Parameter.name) (hExtra : p.name ∉ extra.map Prod.fst) :
    p.name ∉ (delegatedCall ps bindings).keywords.map Prod.fst := by
  intro hMem
  rcases mem_keywords_delegatedCall h hMem with ⟨q, hq, -, hEq⟩ | hMem
  · exact hName (hEq ▸ List.mem_map_of_mem hq)
  · exact hExtra hMem

theorem positional_delegatedCall_eq_nil (h : List.Forall₂ (Fits extra) ps bindings)
    (hRank : ∀ p ∈ ps, 3 ≤ p.kind.rank) : (delegatedCall ps bindings).positional = [] := by
  induction h with
  | nil => rfl
  | @cons p entry ps bindings hFits _ ih =>
    obtain ⟨-, hBound⟩ := hFits
    have hFirst := hRank p List.mem_cons_self
    have hOthers := ih fun q hq => hRank q (List.mem_cons_of_mem _ hq)
    cases hKind : p.kind <;> simp [hKind, ParameterKind.rank] at hFirst <;>
      simp only [hKind] at hBound
    case keywordOnly =>
      obtain ⟨v, hv⟩ := hBound
      simp [delegatedCall, hv, Bound.passedOn, hKind, hOthers]
    case varKeyword => simp [delegatedCall, hBound, Bound.passedOn, hOthers]

theorem not_mem_keywords_passedOn {p : Parameter} {entry : String × Bound Value}
    (hFits : Fits extra p entry) (hHead : ∀ q ∈ ps, p.kind.precedes q.kind)
    (hName : p.name ∉ ps.map Parameter.name) {q : Parameter} (hq : q ∈ ps) :
    q.name ∉ (entry.2.passedOn p).keywords.map Prod.fst := by
  intro hMem
  obtain ⟨-, hBound⟩ := hFits
  cases hKind : p.kind <;> simp only [hKind] at hBound
  case varKeyword =>
    rw [eq_nil_of_varKeyword hKind hHead] at hq
    cases hq
  all_goals
    obtain ⟨v, hv⟩ := hBound
    simp [hv, Bound.passedOn, hKind] at hMem
  case keywordOnly => exact hName (hMem ▸ List.mem_map_of_mem hq)

theorem lookup_eq_none {entries : List (String × Value)} {name : String}
    (h : name ∉ entries.map Prod.fst) : entries.lookup name = none := by
  rw [List.lookup_eq_none_iff]
  intro entry hEntry
  rw [bne_iff_ne]
  rintro rfl
  exact h (List.mem_map_of_mem hEntry)

/-- Binding the delegated call gives each parameter the value that it passed on. The keywords
before those of the parameters at hand belong to earlier parameters. -/
theorem bindEach_delegatedCall {earlier : List (String × Value)}
    (h : List.Forall₂ (Fits extra) ps bindings)
    (hOrder : ps.Pairwise fun p q => p.kind.precedes q.kind)
    (hDistinct : (ps.map Parameter.name).Nodup)
    (hEarlier : ∀ p ∈ ps, p.name ∉ earlier.map Prod.fst)
    (hExtra : ∀ p ∈ ps, p.formal.takesKeyword = true → p.name ∉ extra.map Prod.fst) :
    Formal.bindEach (earlier ++ (delegatedCall ps bindings).keywords) extra
      (delegatedCall ps bindings).positional (ps.map Parameter.formal) = some bindings := by
  induction h generalizing earlier with
  | nil => rfl
  | @cons p entry ps bindings hFits hRest ih =>
    obtain ⟨hHead, hTail⟩ := List.pairwise_cons.mp hOrder
    obtain ⟨hName, hNames⟩ := List.nodup_cons.mp hDistinct
    -- What the first parameter passes on stands before the keywords of the others, none of which
    -- bears its name: for them it is one more of the earlier keywords.
    have hOthers : Formal.bindEach
        (earlier ++ ((entry.2.passedOn p).keywords ++ (delegatedCall ps bindings).keywords)) extra
        (delegatedCall ps bindings).positional (ps.map Parameter.formal) = some bindings := by
      rw [← List.append_assoc]
      refine ih hTail hNames (fun q hq hMem => ?_) fun q hq => hExtra q (List.mem_cons_of_mem _ hq)
      rw [List.map_append, List.mem_append] at hMem
      rcases hMem with hMem | hMem
      · exact hEarlier q (List.mem_cons_of_mem _ hq) hMem
      · exact not_mem_keywords_passedOn hFits hHead hName hq hMem
    have hAbsent : earlier.lookup p.name = none := lookup_eq_none (hEarlier p List.mem_cons_self)
    obtain ⟨name, b⟩ := entry
    obtain ⟨rfl, hBound⟩ := hFits
    cases hKind : p.kind <;> simp only [hKind] at hBound
    case varKeyword =>
      subst hBound
      simp only [delegatedCall, Bound.passedOn, List.nil_append, List.map_cons, Parameter.formal,
        Formal.bindEach, hKind] at hOthers ⊢
      rw [hOthers]
      rfl
    all_goals
      obtain ⟨v, rfl⟩ := hBound
      simp only [delegatedCall, Bound.passedOn, hKind, if_true, if_false, reduceCtorEq,
        List.nil_append, List.singleton_append, List.map_cons, Parameter.formal,
        Formal.bindEach] at hOthers ⊢
    case positionalOnly =>
      rw [hOthers]
      rfl
    case positionalOrKeyword =>
      have hTakes : p.formal.takesKeyword = true := by
        simp [Formal.takesKeyword, Parameter.formal, hKind]
      have hLater : (delegatedCall ps bindings).keywords.lookup p.name = none :=
        lookup_eq_none (not_mem_keywords_delegatedCall hRest hName
          (hExtra p List.mem_cons_self hTakes))
      rw [List.lookup_append, hAbsent, hLater, hOthers]
      rfl
    case varPositional =>
      have hNone : (delegatedCall ps bindings).positional = [] := by
        refine positional_delegatedCall_eq_nil hRest fun q hq => ?_
        have := ParameterKind.rank_lt_of_precedes (by rw [hKind]; rfl) (hHead q hq)
        rwa [hKind] at this
      rw [hNone] at hOthers ⊢
      rw [hOthers, List.append_nil]
      rfl
    case keywordOnly =>
      rw [List.lookup_append, hAbsent, List.lookup_cons_self, hOthers]
      rfl

/-- Of the keywords of the delegated call, those that no named parameter takes are the ones that
were not taken in the first place. -/
theorem filter_keywords_delegatedCall (names : List String)
    (h : List.Forall₂ (Fits extra) ps bindings)
    (hOrder : ps.Pairwise fun p q => p.kind.precedes q.kind)
    (hNamed : ∀ p ∈ ps, p.kind = .keywordOnly → p.name ∈ names)
    (hExtra : ∀ entry ∈ extra, entry.1 ∉ names) :
    (delegatedCall ps bindings).keywords.filter (fun entry => !names.contains entry.1)
      = if ps.any (fun p => p.kind = .varKeyword) then extra else [] := by
  induction h with
  | nil => rfl
  | @cons p entry ps bindings hFits hRest ih =>
    obtain ⟨hHead, hTail⟩ := List.pairwise_cons.mp hOrder
    obtain ⟨-, hBound⟩ := hFits
    rw [delegatedCall, List.filter_append,
      ih hTail fun q hq => hNamed q (List.mem_cons_of_mem _ hq), List.any_cons]
    cases hKind : p.kind <;> simp only [hKind] at hBound
    -- Only the parameter for further keywords passes on what no named parameter takes.
    case varKeyword =>
      obtain rfl := eq_nil_of_varKeyword hKind hHead
      have hAll : extra.filter (fun entry => !names.contains entry.1) = extra := by
        rw [List.filter_eq_self]
        intro entry hEntry
        simpa using hExtra entry hEntry
      simp only [hBound, Bound.passedOn, hAll, decide_true, Bool.true_or, if_true, List.any_nil,
        Bool.false_eq_true, if_false, List.append_nil]
    all_goals
      obtain ⟨v, hv⟩ := hBound
      rw [hv]
    case keywordOnly =>
      have := hNamed p List.mem_cons_self hKind
      simp [Bound.passedOn, hKind, this]
    all_goals simp [Bound.passedOn, hKind]

theorem hasDistinctKeywords_delegatedCall (h : List.Forall₂ (Fits extra) ps bindings)
    (hOrder : ps.Pairwise fun p q => p.kind.precedes q.kind)
    (hDistinct : (ps.map Parameter.name).Nodup)
    (hExtra : ∀ p ∈ ps, p.formal.takesKeyword = true → p.name ∉ extra.map Prod.fst)
    (hKeys : (extra.map Prod.fst).Nodup) : (delegatedCall ps bindings).HasDistinctKeywords := by
  induction h with
  | nil => exact List.nodup_nil
  | @cons p entry ps bindings hFits hRest ih =>
    obtain ⟨hHead, hTail⟩ := List.pairwise_cons.mp hOrder
    obtain ⟨hName, hNames⟩ := List.nodup_cons.mp hDistinct
    have hOthers := ih hTail hNames fun q hq => hExtra q (List.mem_cons_of_mem _ hq)
    obtain ⟨-, hBound⟩ := hFits
    unfold Call.HasDistinctKeywords at hOthers ⊢
    rw [delegatedCall, List.map_append]
    cases hKind : p.kind <;> simp only [hKind] at hBound
    case varKeyword =>
      obtain rfl := eq_nil_of_varKeyword hKind hHead
      simpa [hBound, Bound.passedOn, delegatedCall] using hKeys
    all_goals
      obtain ⟨v, hv⟩ := hBound
      rw [hv]
    case keywordOnly =>
      simp only [Bound.passedOn, hKind, if_true, List.map_cons, List.map_nil,
        List.singleton_append, List.nodup_cons]
      have hTakes : p.formal.takesKeyword = true := by
        simp [Formal.takesKeyword, Parameter.formal, hKind]
      exact ⟨not_mem_keywords_delegatedCall hRest hName (hExtra p List.mem_cons_self hTakes),
        hOthers⟩
    all_goals simpa [Bound.passedOn, hKind] using hOthers

theorem mem_keywordNames {p : Parameter} (hp : p ∈ ps) (hTakes : p.formal.takesKeyword = true) :
    p.name ∈ Formal.keywordNames (ps.map Parameter.formal) :=
  List.mem_map.mpr ⟨p.formal, List.mem_filter.mpr ⟨List.mem_map_of_mem hp, hTakes⟩, rfl⟩

theorem not_mem_keywordNames_of_extra {call : Call Value} {entry : String × Value}
    (h : entry ∈ Formal.extraKeywords (ps.map Parameter.formal) call) :
    entry.1 ∉ Formal.keywordNames (ps.map Parameter.formal) := by
  simpa using (List.mem_filter.mp h).2

theorem name_not_mem_extraKeywords {call : Call Value} {p : Parameter} (hp : p ∈ ps)
    (hTakes : p.formal.takesKeyword = true) :
    p.name ∉ (Formal.extraKeywords (ps.map Parameter.formal) call).map Prod.fst := by
  intro hMem
  obtain ⟨entry, hEntry, hEq⟩ := List.mem_map.mp hMem
  exact not_mem_keywordNames_of_extra hEntry (hEq ▸ mem_keywordNames hp hTakes)

theorem extraKeywords_delegatedCall (hOrder : ps.Pairwise fun p q => p.kind.precedes q.kind)
    {call : Call Value}
    (hFits : List.Forall₂ (Fits (Formal.extraKeywords (ps.map Parameter.formal) call)) ps bindings)
    (hTaken : (Formal.extraKeywords (ps.map Parameter.formal) call = [] ∨
      ∃ p ∈ ps, p.kind = .varKeyword)) :
    Formal.extraKeywords (ps.map Parameter.formal) (delegatedCall ps bindings)
      = Formal.extraKeywords (ps.map Parameter.formal) call := by
  have hNamed : ∀ p ∈ ps, p.kind = .keywordOnly →
      p.name ∈ Formal.keywordNames (ps.map Parameter.formal) := fun p hp hKind =>
    mem_keywordNames hp (by simp [Formal.takesKeyword, Parameter.formal, hKind])
  refine (filter_keywords_delegatedCall _ hFits hOrder hNamed fun entry hEntry =>
    not_mem_keywordNames_of_extra hEntry).trans ?_
  rcases hTaken with hEmpty | ⟨p, hp, hKind⟩
  · rw [hEmpty, ite_self]
  · exact if_pos (List.any_eq_true.mpr ⟨p, hp, decide_eq_true hKind⟩)

/-- The delegated call binds to the parameters with the values that it passes on, and has the same
keywords that no named parameter takes. -/
theorem bind_delegatedCall (hLegal : IsLegal ps) {call : Call Value}
    (hKeywords : call.HasDistinctKeywords)
    (h : Formal.bind (ps.map Parameter.formal) call = some bindings) :
    List.Forall₂ (Fits (Formal.extraKeywords (ps.map Parameter.formal) call)) ps bindings ∧
    (delegatedCall ps bindings).HasDistinctKeywords ∧
    Formal.bind (ps.map Parameter.formal) (delegatedCall ps bindings) = some bindings ∧
    Formal.extraKeywords (ps.map Parameter.formal) (delegatedCall ps bindings)
      = Formal.extraKeywords (ps.map Parameter.formal) call := by
  simp only [Formal.bind] at h
  split at h
  · rename_i hTaken
    have hFits := forall₂_fits_of_bindEach h
    have hExtra : ∀ p ∈ ps, p.formal.takesKeyword = true →
        p.name ∉ (Formal.extraKeywords (ps.map Parameter.formal) call).map Prod.fst :=
      fun p hp hTakes => name_not_mem_extraKeywords hp hTakes
    have hKeys : ((Formal.extraKeywords (ps.map Parameter.formal) call).map Prod.fst).Nodup :=
      hKeywords.sublist (List.filter_sublist.map _)
    have hLeft := extraKeywords_delegatedCall hLegal.ordered hFits (by
      rcases Bool.or_eq_true _ _ |>.mp hTaken with hEmpty | hSome
      · exact .inl (List.isEmpty_iff.mp hEmpty)
      · obtain ⟨f, hMem, hKind⟩ := List.any_eq_true.mp hSome
        obtain ⟨p, hp, rfl⟩ := List.mem_map.mp hMem
        exact .inr ⟨p, hp, of_decide_eq_true hKind⟩)
    have hBound : Formal.bindEach ([] ++ (delegatedCall ps bindings).keywords) _ _ _ = _ :=
      bindEach_delegatedCall hFits hLegal.ordered hLegal.distinct (fun _ _ hMem => by cases hMem)
        hExtra
    refine ⟨hFits,
      hasDistinctKeywords_delegatedCall hFits hLegal.ordered hLegal.distinct hExtra hKeys, ?_,
      hLeft⟩
    simp only [Formal.bind, hLeft, hTaken, if_true]
    exact hBound
  · cases h

theorem evaluateAll_delegatedCall (hLegal : IsLegal ps)
    (hFits : List.Forall₂ (Fits extra) ps bindings) (receiver : Bound Value) :
    CallArgument.evaluateAll (("self", receiver) :: bindings) (callArguments ps)
      = some (delegatedCall ps bindings) := by
  refine evaluateAll_of_lookup hFits fun entry hEntry => ?_
  have hNames : ((("self", receiver) :: bindings).map Prod.fst).Nodup := by
    rw [List.map_cons, map_fst_of_forall₂ hFits]
    exact List.nodup_cons.mpr ⟨hLegal.noReceiver, hLegal.distinct⟩
  exact Sequence.lookup_of_mem hNames (List.mem_cons_of_mem _ hEntry)

/-! ## The receiver -/

def withReceiver (receiver : Value) (call : Call Value) : Call Value :=
  { call with positional := receiver :: call.positional }

@[simp]
theorem keywords_withReceiver (receiver : Value) (call : Call Value) :
    (withReceiver receiver call).keywords = call.keywords :=
  rfl

@[simp]
theorem extraKeywords_withReceiver (formals : List (Formal Value)) (receiver : Value)
    (call : Call Value) :
    Formal.extraKeywords formals (withReceiver receiver call)
      = Formal.extraKeywords formals call :=
  rfl

/-- Whether the keywords of a call leave the name of a receiver alone. -/
def Spares (call : Call Value) (receiver : Formal Value) : Prop :=
  receiver.takesKeyword = true → receiver.name ∉ call.keywords.map Prod.fst

theorem extraKeywords_cons_receiver {receiver : Formal Value} (formals : List (Formal Value))
    {call : Call Value} (hSpares : Spares call receiver) (v : Value) :
    Formal.extraKeywords (receiver :: formals) (withReceiver v call)
      = Formal.extraKeywords formals call := by
  refine List.filter_congr fun entry hEntry => ?_
  simp only [Formal.keywordNames, List.filter_cons]
  cases hTakes : receiver.takesKeyword with
  | false => rfl
  | true =>
    have hNe : entry.1 ≠ receiver.name := fun hEq =>
      hSpares hTakes (hEq ▸ List.mem_map_of_mem hEntry)
    simp [hNe]

/-- A call on an object binds to a receiver and parameters exactly if the call binds to the
parameters, and alike, unless it names the receiver. -/
theorem bind_cons_receiver {receiver : Formal Value} (hKind : receiver.kind.isPositional = true)
    (formals : List (Formal Value)) {call : Call Value} (hSpares : Spares call receiver)
    (v : Value) :
    Formal.bind (receiver :: formals) (withReceiver v call)
      = (Formal.bind formals call).map ((receiver.name, .one v) :: ·) := by
  obtain ⟨name, kind, default⟩ := receiver
  simp only [Formal.bind, extraKeywords_cons_receiver _ hSpares, List.any_cons]
  cases kind with
  | positionalOnly =>
    simp only [withReceiver, Formal.bindEach, reduceCtorEq, decide_false, Bool.false_or]
    split <;> rfl
  | positionalOrKeyword =>
    have hAbsent : call.keywords.lookup name = none := lookup_eq_none (hSpares rfl)
    simp only [withReceiver, Formal.bindEach, hAbsent, reduceCtorEq, decide_false, Bool.false_or,
      Option.isSome_none, Bool.false_eq_true, if_false]
    split <;> rfl
  | varPositional | keywordOnly | varKeyword => cases hKind

theorem isPositional_receiverKind (ps : List Parameter) :
    (receiverKind ps).isPositional = true := by
  unfold receiverKind
  split <;> rfl

/-- A call on an object binds to the declaration exactly if the call binds to the parameters, and
alike. -/
theorem bind_declaredFormals (hLegal : IsLegal ps) {call : Call Value}
    (hSelf : "self" ∉ call.keywords.map Prod.fst) (receiver : Value) :
    Formal.bind (declaredFormals ps) (withReceiver receiver call)
      = (Formal.bind (ps.map Parameter.formal) call).map (("self", .one receiver) :: ·) := by
  rw [declaredFormals_eq hLegal]
  exact bind_cons_receiver (isPositional_receiverKind ps) _ (fun _ => hSelf) receiver

end Delegation

open Delegation Parameter in
/-- What is written for a method is read as a receiver and parameters that take exactly the calls
that the method's own parameters take, and bind them alike. This holds of the items that are
written, and of their text if the hints and the names of classes in it show no separator outside of
brackets and quotes. The text of the delegated call passes each value on once and in order, in a
call that binds to the method's own parameters with the same values. -/
theorem forwarding_faithful (m : Method) (hLegal : IsLegal m.parameters)
    (hNames : ∀ p ∈ m.parameters, Text.isName p.name = true) (call : Call Value)
    (hKeywords : call.HasDistinctKeywords) (hSelf : "self" ∉ call.keywords.map Prod.fst)
    (receiver : Value) :
    let original := m.parameters.map formal
    let declared := ⟨"self", receiverKind m.parameters, none⟩ :: original
    (∀ (world : World) (items : List (DeclItem WrittenParameter)) (value : String → Value),
      writtenDeclaration world m = .ok items →
      (∀ p ∈ m.parameters, ∀ v, p.default = some v →
        value (DefaultExpr.of m p).render.text = v) →
      writtenFormals (fun d => value d.render.text) items = declared ∧
      ((∀ w, .parameter w ∈ items → w.IsReadable) →
        readParameters value (declarationText items).text = some declared)) ∧
    Formal.bind declared (withReceiver receiver call)
      = (Formal.bind original call).map (("self", .one receiver) :: ·) ∧
    ∀ bindings, Formal.bind original call = some bindings →
      ∃ arguments,
        readArguments (", ".intercalate ((callArguments m.parameters).map CallArgument.text))
          = some arguments ∧
        ReadArgument.evaluateAll (("self", .one receiver) :: bindings) arguments
          = some (delegatedCall m.parameters bindings) ∧
        (delegatedCall m.parameters bindings).HasDistinctKeywords ∧
        Formal.bind original (delegatedCall m.parameters bindings) = some bindings := by
  intro original declared
  have hDeclared : declaredFormals m.parameters = declared := declaredFormals_eq hLegal
  refine ⟨fun world items value hWritten hValue => ⟨?_, fun hReadable => ?_⟩, ?_,
    fun bindings hBind => ?_⟩
  · rw [← hDeclared]
    exact writtenFormals_eq hWritten hValue
  · rw [← hDeclared]
    exact readParameters_of_written hWritten hLegal hNames hReadable hValue
  · rw [← hDeclared]
    exact bind_declaredFormals hLegal hSelf receiver
  · obtain ⟨hFits, hDistinct, hBound, -⟩ := bind_delegatedCall hLegal hKeywords hBind
    refine ⟨_, readArguments_callArguments hLegal hNames, ?_, hDistinct, hBound⟩
    rw [CallArgument.evaluateAll_seen]
    exact evaluateAll_delegatedCall hLegal hFits (.one receiver)

open Delegation Parameter in
/-- A keyword that bears the name of a positional-only parameter is passed on as a further
keyword. -/
theorem forwarding_faithful_all_kinds :
    let pair : TypeExpr :=
      .generic (.builtin "tuple") [.named (.builtin "int"), .named (.builtin "int")] false
    let m : Method := {
      name := "put", declaring := .builtin "Store"
      parameters := [
        { name := "key", kind := .positionalOnly },
        { name := "value", kind := .positionalOrKeyword, type := some pair,
          default := some (.tuple [.int 0, .int 1]) },
        { name := "more", kind := .varPositional },
        { name := "strict", kind := .keywordOnly, default := some (.bool false) },
        { name := "options", kind := .varKeyword }] }
    let call : Call Value := ⟨[.str "a"], [("strict", .bool true), ("key", .int 7)]⟩
    let bindings : Bindings Value := [("key", .one (.str "a")),
      ("value", .one (.tuple [.int 0, .int 1])), ("more", .rest []),
      ("strict", .one (.bool true)), ("options", .extra [("key", .int 7)])]
    let delegated : Call Value :=
      ⟨[.str "a", .tuple [.int 0, .int 1]], [("strict", .bool true), ("key", .int 7)]⟩
    let value (text : String) : Value :=
      if text = "(0, 1)" then .tuple [.int 0, .int 1] else .bool false
    let declared := ⟨"self", .positionalOnly, none⟩ :: m.parameters.map formal
    IsLegal m.parameters ∧ (∀ p ∈ m.parameters, Text.isName p.name = true) ∧
      call.HasDistinctKeywords ∧ "self" ∉ call.keywords.map Prod.fst ∧
      readParameters value
          "self, key, /, value: tuple[int, int] = (0, 1), *more, strict=False, **options"
        = some declared ∧
      Formal.bind declared (withReceiver .none call) = some (("self", .one .none) :: bindings) ∧
      (∃ arguments,
        readArguments "key, value, *more, strict=strict, **options" = some arguments ∧
        ReadArgument.evaluateAll (("self", .one .none) :: bindings) arguments = some delegated) ∧
      Formal.bind (m.parameters.map formal) delegated = some bindings := by
  intro pair m call bindings delegated value declared
  have hLegal : IsLegal m.parameters := by decide
  have hNames : ∀ p ∈ m.parameters, Text.isName p.name = true := by decide +kernel
  have hKeywords : call.HasDistinctKeywords := by
    unfold Call.HasDistinctKeywords
    decide
  have hSelf : "self" ∉ call.keywords.map Prod.fst := by decide
  have hBind : Formal.bind (m.parameters.map formal) call = some bindings := rfl
  obtain ⟨hWritten, hDeclared, hDelegated⟩ :=
    forwarding_faithful m hLegal hNames call hKeywords hSelf .none
  obtain ⟨arguments, hArguments, hEvaluated, -, hBound⟩ := hDelegated bindings hBind
  let world : World := ⟨[], [], []⟩
  let items : List (DeclItem WrittenParameter) := [.receiver,
    .parameter ⟨"key", .positionalOnly, none, none⟩, .slash,
    .parameter ⟨"value", .positionalOrKeyword, some ⟨"tuple[int, int]", []⟩,
      some (.literal (.tuple [.int 0, .int 1]))⟩,
    .parameter ⟨"more", .varPositional, none, none⟩,
    .parameter ⟨"strict", .keywordOnly, none, some (.literal (.bool false))⟩,
    .parameter ⟨"options", .varKeyword, none, none⟩]
  have hItems : writtenDeclaration world m = .ok items := rfl
  have hValue : ∀ p ∈ m.parameters, ∀ v, p.default = some v →
      value (DefaultExpr.of m p).render.text = v := by
    simp only [m, List.forall_mem_cons]
    refine ⟨?_, ?_, ?_, ?_, ?_, List.forall_mem_nil _⟩ <;> rintro _ ⟨⟩ <;> rfl
  have hWellformed : ∀ item ∈ items, ∀ w, item = .parameter w → w.isWellformed = true := by
    simp only [items, List.forall_mem_cons]
    refine ⟨?_, ?_, ?_, ?_, ?_, ?_, ?_, List.forall_mem_nil _⟩ <;> rintro _ ⟨⟩ <;>
      decide +kernel
  obtain ⟨-, hText⟩ := hWritten world items value hItems hValue
  have hRead := hText fun w hMem =>
    WrittenParameter.isReadable_of_isWellformed (hWellformed _ hMem w rfl)
  refine ⟨hLegal, hNames, hKeywords, hSelf, ?_, hDeclared.trans (by rw [hBind]; rfl),
    ⟨arguments, ?_, hEvaluated⟩, hBound⟩
  · exact hRead
  · exact hArguments

end Interpose

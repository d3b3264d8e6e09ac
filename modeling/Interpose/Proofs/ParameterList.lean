import Interpose.Proofs.Sequence
import Interpose.Source.Execution

/-! # Parameter lists

A legal parameter list has its kinds in order, each variadic kind at most once, and names that
differ from each other and from the receiver's. The declaration of a forwarding method writes none
of the kinds down: it marks variadic parameters and places a slash and a star. Reading a
declaration of a legal list gives back the receiver and the list itself.
-/
namespace Interpose

set_option autoImplicit false

namespace ParameterKind

def rank : ParameterKind → Nat
  | .positionalOnly => 0
  | .positionalOrKeyword => 1
  | .varPositional => 2
  | .keywordOnly => 3
  | .varKeyword => 4

/-- Whether a parameter of one kind may stand somewhere before one of another. -/
def precedes (k l : ParameterKind) : Prop :=
  k.rank < l.rank ∨ (k = l ∧ k.isVariadic = false)

instance (k l : ParameterKind) : Decidable (k.precedes l) :=
  inferInstanceAs (Decidable (_ ∨ _))

theorem rank_le_of_precedes {k l : ParameterKind} (h : k.precedes l) : k.rank ≤ l.rank := by
  rcases h with h | ⟨rfl, -⟩
  · exact Nat.le_of_lt h
  · exact Nat.le_refl _

theorem rank_lt_of_precedes {k l : ParameterKind} (hVariadic : k.isVariadic = true)
    (h : k.precedes l) : k.rank < l.rank := by
  rcases h with h | ⟨-, hPlain⟩
  · exact h
  · exact Bool.noConfusion (hVariadic.symm.trans hPlain)

end ParameterKind

namespace Parameter

/-- A parameter list that may be written down: kinds in order, at most one parameter for further
positional arguments and one for further keywords, and no name twice. -/
structure IsLegal (ps : List Parameter) : Prop where
  ordered : ps.Pairwise fun p q => p.kind.precedes q.kind
  distinct : (ps.map Parameter.name).Nodup
  noReceiver : "self" ∉ ps.map Parameter.name

instance (ps : List Parameter) : Decidable (IsLegal ps) :=
  decidable_of_iff
    ((ps.Pairwise fun p q => p.kind.precedes q.kind) ∧ (ps.map Parameter.name).Nodup ∧
      "self" ∉ ps.map Parameter.name)
    ⟨fun ⟨ordered, distinct, noReceiver⟩ => ⟨ordered, distinct, noReceiver⟩,
      fun h => ⟨h.ordered, h.distinct, h.noReceiver⟩⟩

def formal (p : Parameter) : Formal Value :=
  ⟨p.name, p.kind, p.default⟩

/-- The parameter for further keywords is the last one. -/
theorem eq_nil_of_varKeyword {p : Parameter} {ps : List Parameter} (hKind : p.kind = .varKeyword)
    (hHead : ∀ q ∈ ps, p.kind.precedes q.kind) : ps = [] := by
  refine List.eq_nil_iff_forall_not_mem.mpr fun q hq => ?_
  have := hHead q hq
  cases hOther : q.kind <;>
    simp [hKind, hOther, ParameterKind.precedes, ParameterKind.rank,
      ParameterKind.isVariadic] at this

end Parameter

/-- The parameters, receiver included, that the declaration of a forwarding method says there
are. -/
def declaredFormals (ps : List Parameter) : List (Formal Value) :=
  readDeclaration Parameter.name Parameter.kind Parameter.default false (declarationOf ps)

namespace DeclItem

theorem any_isSlash_ofParameters (hasVariadic marked : Bool) (ps : List Parameter) :
    (ofParameters hasVariadic marked ps).any isSlash
      = ps.any fun p => p.kind = .positionalOnly := by
  induction ps generalizing marked with
  | nil => rfl
  | cons p ps ih =>
    simp only [ofParameters, List.any_append, List.any_cons, List.any_nil, ih]
    cases hKind : p.kind <;> cases ps.any (fun q => decide (q.kind = .positionalOnly)) <;>
      cases hasVariadic <;> cases marked <;> simp [isSlash]

variable {α V : Type} (name : α → String) (kind : α → ParameterKind) (default : α → Option V)

theorem readDeclaration_optional_slash (slash after : Bool) (items : List (DeclItem α)) :
    readDeclaration name kind default after ((if slash then [.slash] else []) ++ items) =
      readDeclaration name kind default after items := by
  cases slash <;> rfl

theorem readDeclaration_optional_star (star after : Bool) (items : List (DeclItem α)) :
    readDeclaration name kind default after ((if star then [.star] else []) ++ items) =
      readDeclaration name kind default (after || star) items := by
  cases star <;> cases after <;> rfl

theorem readDeclaration_ofParameters_cons (name : Parameter → String)
    (default : Parameter → Option V) (hasVariadic marked after : Bool) (p : Parameter)
    (ps : List Parameter) :
    let star := p.kind = .keywordOnly && !hasVariadic && !marked
    ∃ rest : List (DeclItem Parameter),
      rest.any isSlash = (p :: ps).any (fun q => q.kind = .positionalOnly) ∧
      readDeclaration name Parameter.kind default after
          (ofParameters hasVariadic marked (p :: ps)) =
        ⟨name p, readKind p.kind (after || star) rest, default p⟩
          :: readDeclaration name Parameter.kind default
            (after || star || p.kind == .varPositional)
            (ofParameters hasVariadic (marked || star) ps) := by
  intro star
  let slash := p.kind = .positionalOnly && !ps.any (fun q => q.kind = .positionalOnly)
  refine ⟨(if slash then [.slash] else []) ++ ofParameters hasVariadic (marked || star) ps, ?_, ?_⟩
  · rw [List.any_append, any_isSlash_ofParameters, List.any_cons]
    by_cases hKind : p.kind = .positionalOnly <;>
      cases hLater : ps.any (fun q => decide (q.kind = .positionalOnly)) <;>
      simp [slash, hKind, hLater, isSlash]
  · rw [ofParameters, List.append_assoc, List.append_assoc, readDeclaration_optional_star,
      List.singleton_append, readDeclaration, readDeclaration_optional_slash]

/-- What has been passed on the way through a parameter list: `after` says whether a star or a
variadic parameter has. Beyond it no parameter takes its argument by position. -/
structure Passed (hasVariadic marked after : Bool) (ps : List Parameter) : Prop where
  beyond : after = true → (hasVariadic || marked) = true ∧ ∀ p ∈ ps, 3 ≤ p.kind.rank
  before : after = false → marked = false ∧
    hasVariadic = ps.any fun p => p.kind = .varPositional

namespace Passed

variable {hasVariadic marked after : Bool} {p : Parameter} {ps : List Parameter}

theorem readKind_eq (hPassed : Passed hasVariadic marked after (p :: ps))
    (hRank : ∀ q ∈ ps, p.kind.rank ≤ q.kind.rank) {rest : List (DeclItem Parameter)}
    (hSlash : rest.any isSlash = (p :: ps).any fun q => q.kind = .positionalOnly) :
    readKind p.kind (after || (p.kind = .keywordOnly && !hasVariadic && !marked)) rest
      = p.kind := by
  cases after with
  | true =>
    have hBeyond : 3 ≤ p.kind.rank := (hPassed.beyond rfl).2 p List.mem_cons_self
    cases hKind : p.kind <;> simp [hKind, ParameterKind.rank] at hBeyond <;>
      simp [readKind, ParameterKind.isVariadic]
  | false =>
    obtain ⟨hMarked, hVariadic⟩ := hPassed.before rfl
    cases hKind : p.kind with
    | varPositional | varKeyword => rfl
    | positionalOnly => simp [readKind, ParameterKind.isVariadic, hSlash, hKind]
    | positionalOrKeyword =>
      have hNone : ∀ q ∈ ps, q.kind ≠ .positionalOnly := by
        intro q hq hOnly
        have := hRank q hq
        simp [hKind, hOnly, ParameterKind.rank] at this
      have hNoSlash : rest.any isSlash = false := by
        rw [hSlash]
        simpa [hKind] using hNone
      simp [readKind, ParameterKind.isVariadic, hNoSlash]
    | keywordOnly =>
      have hNone : ∀ q ∈ ps, q.kind ≠ .varPositional := by
        intro q hq hMany
        have := hRank q hq
        simp [hKind, hMany, ParameterKind.rank] at this
      have hNoVariadic : hasVariadic = false := by
        rw [hVariadic]
        simpa [hKind] using hNone
      simp [readKind, ParameterKind.isVariadic, hMarked, hNoVariadic]

theorem tail (hPassed : Passed hasVariadic marked after (p :: ps))
    (hHead : ∀ q ∈ ps, p.kind.precedes q.kind) :
    let star := p.kind = .keywordOnly && !hasVariadic && !marked
    Passed hasVariadic (marked || star) (after || star || p.kind == .varPositional) ps := by
  intro star
  -- Three things take the reader beyond positions: what it has passed before, a star that is
  -- written in front of this parameter, and this parameter if it is variadic.
  have hRank : ∀ q ∈ ps, p.kind.rank ≤ q.kind.rank :=
    fun q hq => ParameterKind.rank_le_of_precedes (hHead q hq)
  constructor
  · intro hAfter
    rcases Bool.or_eq_true _ _ |>.mp hAfter with hAfter | hMany
    · rcases Bool.or_eq_true _ _ |>.mp hAfter with hAfter | hStar
      · obtain ⟨hMark, hBeyond⟩ := hPassed.beyond hAfter
        exact ⟨by rw [← Bool.or_assoc, hMark, Bool.true_or],
          fun q hq => hBeyond q (List.mem_cons_of_mem _ hq)⟩
      · have hKind : p.kind = .keywordOnly := by
          simp only [star, Bool.and_eq_true, decide_eq_true_eq] at hStar
          exact hStar.1.1
        refine ⟨by simp [hStar], fun q hq => ?_⟩
        have := hRank q hq
        rwa [hKind] at this
    · have hKind : p.kind = .varPositional := by simpa using hMany
      have hBeyond : ∀ q ∈ ps, 3 ≤ q.kind.rank := by
        intro q hq
        have := ParameterKind.rank_lt_of_precedes (by rw [hKind]; rfl) (hHead q hq)
        rwa [hKind] at this
      cases hCase : after with
      | true =>
        obtain ⟨hMark, -⟩ := hPassed.beyond hCase
        exact ⟨by rw [← Bool.or_assoc, hMark, Bool.true_or], hBeyond⟩
      | false =>
        obtain ⟨-, hVariadic⟩ := hPassed.before hCase
        exact ⟨by rw [hVariadic]; simp [hKind], hBeyond⟩
  · intro hAfter
    simp only [Bool.or_eq_false_iff] at hAfter
    obtain ⟨⟨hAfter, hStar⟩, hMany⟩ := hAfter
    obtain ⟨hMarked, hVariadic⟩ := hPassed.before hAfter
    refine ⟨by rw [hMarked, hStar]; rfl, ?_⟩
    have hKind : p.kind ≠ .varPositional := by simpa using hMany
    rw [hVariadic, List.any_cons, decide_eq_false hKind, Bool.false_or]

end Passed

/-- Reading the items of an ordered parameter list gives back its parameters, each of its own
kind. -/
theorem readDeclaration_ofParameters (name : Parameter → String)
    (default : Parameter → Option V) {hasVariadic marked after : Bool} {ps : List Parameter}
    (hOrder : ps.Pairwise fun p q => p.kind.precedes q.kind)
    (hPassed : Passed hasVariadic marked after ps) :
    readDeclaration name Parameter.kind default after (ofParameters hasVariadic marked ps)
      = ps.map fun p => ⟨name p, p.kind, default p⟩ := by
  induction ps generalizing marked after with
  | nil => rfl
  | cons p ps ih =>
    obtain ⟨hHead, hTail⟩ := List.pairwise_cons.mp hOrder
    have hRank : ∀ q ∈ ps, p.kind.rank ≤ q.kind.rank :=
      fun q hq => ParameterKind.rank_le_of_precedes (hHead q hq)
    obtain ⟨rest, hSlash, hRead⟩ :=
      readDeclaration_ofParameters_cons name default hasVariadic marked after p ps
    rw [hRead, hPassed.readKind_eq hRank hSlash, ih hTail (hPassed.tail hHead)]
    rfl

end DeclItem

/-- The kind that the receiver is read with: its name is out of reach for keywords if some
parameter is positional-only. -/
def receiverKind (ps : List Parameter) : ParameterKind :=
  if ps.any fun p => p.kind = .positionalOnly then .positionalOnly else .positionalOrKeyword

theorem readDeclaration_declarationOf {V : Type} (name : Parameter → String)
    (default : Parameter → Option V) {ps : List Parameter}
    (hOrder : ps.Pairwise fun p q => p.kind.precedes q.kind) :
    readDeclaration name Parameter.kind default false (declarationOf ps)
      = ⟨"self", receiverKind ps, none⟩ :: ps.map fun p => ⟨name p, p.kind, default p⟩ := by
  have hPassed : DeclItem.Passed (ps.any fun p => p.kind = .varPositional) false false ps :=
    ⟨fun h => Bool.noConfusion h, fun _ => ⟨rfl, rfl⟩⟩
  simp only [declarationOf, readDeclaration,
    DeclItem.readDeclaration_ofParameters name default hOrder hPassed, readKind,
    DeclItem.any_isSlash_ofParameters, ParameterKind.isVariadic, receiverKind]
  rfl

/-- The declaration of a legal list says that there are the receiver and the parameters of the
list, each of its own kind. -/
theorem declaredFormals_eq {ps : List Parameter} (hLegal : Parameter.IsLegal ps) :
    declaredFormals ps = ⟨"self", receiverKind ps, none⟩ :: ps.map Parameter.formal :=
  readDeclaration_declarationOf Parameter.name Parameter.default hLegal.ordered

/-- The parameters that a written declaration is read to have, where a function says what the
expressions of default values yield. -/
def writtenFormals (value : DefaultExpr → Value) (items : List (DeclItem WrittenParameter)) :
    List (Formal Value) :=
  readDeclaration WrittenParameter.name WrittenParameter.kind (fun p => p.default.map value) false
    items

theorem WrittenParameter.of_eq_ok {world : World} {m : Method} {p : Parameter}
    {w : WrittenParameter} (h : WrittenParameter.of world m p = .ok w) :
    w.name = p.name ∧ w.kind = p.kind ∧ w.default = p.default.map fun _ => DefaultExpr.of m p := by
  obtain ⟨hint, -, hEq⟩ := Sequence.bind_eq_ok_iff.mp h
  cases hEq
  exact ⟨rfl, rfl, rfl⟩

namespace DeclItem

variable {world : World} {m : Method}

theorem write_parameter {p : Parameter} {written : DeclItem WrittenParameter}
    (h : write world m (.parameter p) = .ok written) :
    ∃ w, WrittenParameter.of world m p = .ok w ∧ written = .parameter w := by
  rw [write] at h
  obtain ⟨w, hOf, hEq⟩ := Sequence.map_eq_ok_iff.mp h
  exact ⟨w, hOf, hEq.symm⟩

theorem any_isSlash_of_write {items : List (DeclItem Parameter)}
    {written : List (DeclItem WrittenParameter)}
    (h : List.Forall₂ (fun item w => write world m item = .ok w) items written) :
    written.any isSlash = items.any isSlash := by
  induction h with
  | nil => rfl
  | @cons item w _ _ hItem _ ih =>
    have hSame : w.isSlash = item.isSlash := by
      cases item with
      | receiver | slash | star => cases hItem; rfl
      | parameter p =>
        obtain ⟨_, -, rfl⟩ := write_parameter hItem
        rfl
    rw [List.any_cons, List.any_cons, hSame, ih]

/-- A written declaration is read as the declaration that it has been written for, whatever is made
of the names and of the expressions of default values. -/
theorem readDeclaration_of_write {V : Type} (name : String → String) (value : DefaultExpr → V)
    {after : Bool} {items : List (DeclItem Parameter)} {written : List (DeclItem WrittenParameter)}
    (h : List.Forall₂ (fun item w => write world m item = .ok w) items written) :
    readDeclaration (fun w : WrittenParameter => name w.name) WrittenParameter.kind
        (fun w => w.default.map value) after written =
      readDeclaration (fun p : Parameter => name p.name) Parameter.kind
        (fun p => p.default.map fun _ => value (DefaultExpr.of m p)) after items := by
  induction h generalizing after with
  | nil => rfl
  | @cons item w items written hItem hItems ih =>
    have hSlash := any_isSlash_of_write hItems
    cases item with
    | receiver =>
      cases hItem
      simp only [readDeclaration, readKind, hSlash, ih]
    | slash | star =>
      cases hItem
      simp only [readDeclaration, ih]
    | parameter p =>
      obtain ⟨w, hOf, rfl⟩ := write_parameter hItem
      obtain ⟨hName, hKind, hDefault⟩ := WrittenParameter.of_eq_ok hOf
      simp only [readDeclaration, readKind, hSlash, ih, hName, hKind, hDefault, Option.map_map,
        Function.comp_def]

theorem readDeclaration_congr {V : Type} {name : Parameter → String}
    {default default' : Parameter → Option V} {after : Bool} {items : List (DeclItem Parameter)}
    (h : ∀ p, .parameter p ∈ items → default p = default' p) :
    readDeclaration name Parameter.kind default after items
      = readDeclaration name Parameter.kind default' after items := by
  induction items generalizing after with
  | nil => rfl
  | cons item items ih =>
    have hRest := fun {after} => @ih after fun p hp => h p (List.mem_cons_of_mem _ hp)
    cases item with
    | receiver | slash | star => simp only [readDeclaration, hRest]
    | parameter p => simp only [readDeclaration, hRest, h p List.mem_cons_self]

theorem mem_of_parameter_mem_ofParameters {p : Parameter} {hasVariadic marked : Bool}
    {ps : List Parameter} (h : .parameter p ∈ ofParameters hasVariadic marked ps) : p ∈ ps := by
  induction ps generalizing marked with
  | nil => cases h
  | cons q ps ih =>
    simp only [ofParameters, List.mem_append, List.mem_singleton] at h
    rcases h with ((hStar | hHere) | hSlash) | hLater
    · split at hStar <;> simp at hStar
    · cases hHere
      exact List.mem_cons_self
    · split at hSlash <;> simp at hSlash
    · exact List.mem_cons_of_mem _ (ih hLater)

end DeclItem

/-- What is written for a method is read as the declaration of its parameters, where each default
value is what its expression yields. -/
theorem writtenFormals_eq {world : World} {m : Method} {items : List (DeclItem WrittenParameter)}
    {value : DefaultExpr → Value} (hWritten : writtenDeclaration world m = .ok items)
    (hValue : ∀ p ∈ m.parameters, ∀ v, p.default = some v → value (DefaultExpr.of m p) = v) :
    writtenFormals value items = declaredFormals m.parameters := by
  refine (DeclItem.readDeclaration_of_write id value
    (Sequence.mapM_eq_ok_iff.mp hWritten)).trans (DeclItem.readDeclaration_congr fun p hp => ?_)
  have hMem : p ∈ m.parameters := by
    rcases List.mem_cons.mp hp with hp | hp
    · cases hp
    · exact DeclItem.mem_of_parameter_mem_ofParameters hp
  cases hCase : p.default with
  | none => rfl
  | some v => exact congrArg some (hValue p hMem v hCase)

end Interpose

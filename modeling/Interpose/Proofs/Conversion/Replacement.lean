import Interpose.Proofs.Conversion.Derivations
import Interpose.Proofs.Sequence

/-! # Conversion with types for the type variables

What an object is converted to where types are given for its type variables, as a relation with one
rule for each way to build an object. A type that is given can be found again in the result: a
literal stands there only where its variable stands in the object.
-/
namespace Interpose

set_option autoImplicit false

namespace Conversion

/-- The rules of conversion for an object whose type variables are replaced by types. -/
inductive ConvertsWith (ns : Namespace) (replacement : TypeVariable → Option TypeExpr) :
    Object → TypeExpr → Prop where
  | closed {object : Object} {t : TypeExpr} (hClosed : object.typeVariables = [])
      (h : Converts ns (.object object) t) : ConvertsWith ns replacement object t
  | typeVariable {v : TypeVariable} {t : TypeExpr} (h : replacement v = some t) :
      ConvertsWith ns replacement (.typeVariable v) t
  | alternatives {typed : Bool} {parts : List (Object × TypeExpr)}
      (h : ∀ part ∈ parts, ConvertsWith ns replacement part.1 part.2) :
      ConvertsWith ns replacement (.union typed (parts.map Prod.fst)) (.unite (parts.map Prod.snd))
  | base {base : Object} {notes : List Object} {t : TypeExpr}
      (h : ConvertsWith ns replacement base t) :
      ConvertsWith ns replacement (.annotated base notes) t
  | generic {typed : Bool} {origin : Object} {t : NamedType} {parts : List (Object × TypeExpr)}
      (hOrigin : Converts ns (.object origin) (.named t)) (hSome : parts ≠ [])
      (h : ∀ part ∈ parts, ConvertsWith ns replacement part.1 part.2) :
      ConvertsWith ns replacement (.generic typed origin (parts.map Prod.fst))
        (.generic t (parts.map Prod.snd) false)
  | items {parts : List (Object × TypeExpr)}
      (h : ∀ part ∈ parts, ConvertsWith ns replacement part.1 part.2) :
      ConvertsWith ns replacement (.list (parts.map Prod.fst)) (.list (parts.map Prod.snd))

variable {ns : Namespace} {replacement : TypeVariable → Option TypeExpr}

/-- With its own type for each type variable an object is converted as it stands. -/
theorem convertsWith_variables_iff {object : Object} {t : TypeExpr} :
    ConvertsWith ns (fun v => some (.named (variableType ns v))) object t
      ↔ Converts ns (.object object) t := by
  constructor
  · intro h
    induction h with
    | closed _ h => exact h
    | typeVariable h =>
      cases h
      exact .typeVariable _
    | alternatives _ ih => exact .alternatives ih
    | base _ ih => exact .base ih
    | generic hOrigin hSome _ ih => exact .generic hOrigin hSome ih
    | items _ ih => exact .items ih
  · intro h
    generalize hSubject : Subject.object object = subject at h
    induction h generalizing object with
    | typeVariable v =>
      cases hSubject
      exact .typeVariable rfl
    | alternatives _ ih =>
      cases hSubject
      exact .alternatives fun part hMem => ih part hMem rfl
    | base _ ih =>
      cases hSubject
      exact .base (ih rfl)
    | generic hOrigin hSome _ _ ih =>
      cases hSubject
      exact .generic hOrigin hSome fun part hMem => ih part hMem rfl
    | items _ ih =>
      cases hSubject
      exact .items fun part hMem => ih part hMem rfl
    | value h =>
      cases hSubject
      exact .closed rfl (.value h)
    | variablePart v keyword =>
      cases hSubject
      exact .closed rfl (.variablePart v keyword)
    | special name =>
      cases hSubject
      exact .closed rfl (.special name)
    | aliased h =>
      cases hSubject
      exact .closed rfl (.aliased h)
    | literals values =>
      cases hSubject
      exact .closed rfl (.literals values)
    | bare h =>
      cases hSubject
      exact .closed rfl (.bare h)
    | forward h =>
      cases hSubject
      exact .closed rfl (.forward h)
    | _ => cases hSubject

end Conversion

/-! ## Objects that are other ones -/

namespace Object

/-- Whether an object is another one, notes and unions of a single member apart. -/
inductive Wraps : Object → Object → Prop where
  | self (object : Object) : Wraps object object
  | annotated {base core : Object} (notes : List Object) (h : Wraps base core) :
      Wraps (.annotated base notes) core
  | single {member core : Object} (typed : Bool) (h : Wraps member core) :
      Wraps (.union typed [member]) core

variable {object core : Object}

theorem typeVariablesOf_singleton (object : Object) :
    typeVariablesOf [object] = object.typeVariables := by
  rw [typeVariablesOf, typeVariablesOf, List.filter_nil, List.append_nil]

theorem Wraps.typeVariables (h : object.Wraps core) :
    core.typeVariables = object.typeVariables := by
  induction h with
  | self => rfl
  | annotated _ _ ih => rw [ih, Object.typeVariables]
  | single _ _ ih => rw [ih, Object.typeVariables, typeVariablesOf_singleton]

theorem mem_typeVariablesOf {v : TypeVariable} {objects : List Object}
    (h : v ∈ typeVariablesOf objects) : ∃ object ∈ objects, v ∈ object.typeVariables := by
  induction objects with
  | nil => cases h
  | cons object objects ih =>
    rw [typeVariablesOf, List.mem_append, List.mem_filter] at h
    rcases h with hFirst | ⟨hRest, -⟩
    · exact ⟨object, List.mem_cons_self, hFirst⟩
    · obtain ⟨other, hMem, hVariable⟩ := ih hRest
      exact ⟨other, List.mem_cons_of_mem _ hMem, hVariable⟩

mutual

theorem nodup_typeVariables (object : Object) : object.typeVariables.Nodup := by
  cases object with
  | typeVariable v => exact List.nodup_singleton v
  | union typed members => exact nodup_typeVariablesOf members
  | annotated base notes => exact nodup_typeVariables base
  | generic typed origin arguments => exact nodup_typeVariablesOf arguments
  | list items | tuple items => exact nodup_typeVariablesOf items
  | _ => exact List.nodup_nil

theorem nodup_typeVariablesOf (objects : List Object) : (typeVariablesOf objects).Nodup := by
  cases objects with
  | nil => exact List.nodup_nil
  | cons object objects =>
    rw [typeVariablesOf]
    refine (nodup_typeVariables object).append ((nodup_typeVariablesOf objects).filter _) ?_
    intro v hFirst hRest
    simpa [hFirst] using (List.mem_filter.1 hRest).2

end

end Object

namespace Conversion

open Object

variable {ns : Namespace} {replacement : TypeVariable → Option TypeExpr} {object core : Object}
  {t : TypeExpr}

theorem Converts.unwrapped (h : Converts ns (.object object) t) (hWraps : object.Wraps core) :
    Converts ns (.object core) t := by
  induction hWraps with
  | self => exact h
  | annotated _ _ ih =>
    cases h with
    | base h => exact ih h
  | @single member core typed _ ih =>
    generalize hUnion : Object.union typed [member] = union at h
    cases h with
    | alternatives h =>
      obtain ⟨-, hMembers⟩ := Object.union.inj hUnion
      obtain ⟨part, rfl, rfl⟩ := List.map_eq_singleton_iff.1 hMembers.symm
      exact ih (h part List.mem_cons_self)
    | _ => cases hUnion

theorem ConvertsWith.unwrapped (h : ConvertsWith ns replacement object t)
    (hWraps : object.Wraps core) : ConvertsWith ns replacement core t := by
  have hClosed {whole : Object} (hNone : whole.typeVariables = [])
      (h : Converts ns (.object whole) t) (hWraps : whole.Wraps core) :
      ConvertsWith ns replacement core t :=
    .closed (hWraps.typeVariables.trans hNone) (h.unwrapped hWraps)
  induction hWraps with
  | self => exact h
  | annotated notes hWraps ih =>
    cases h with
    | closed hNone h => exact hClosed hNone h (.annotated notes hWraps)
    | base h => exact ih h hClosed
  | @single member core typed hWraps ih =>
    generalize hUnion : Object.union typed [member] = union at h
    cases h with
    | closed hNone h =>
      subst hUnion
      exact hClosed hNone h (.single typed hWraps)
    | alternatives h =>
      obtain ⟨-, hMembers⟩ := Object.union.inj hUnion
      obtain ⟨part, rfl, rfl⟩ := List.map_eq_singleton_iff.1 hMembers.symm
      exact ih (h part List.mem_cons_self) hClosed
    | _ => cases hUnion

theorem ConvertsWith.of_members {members : List Object} {types : List TypeExpr} (typed : Bool)
    (h : List.Forall₂ (ConvertsWith ns replacement) members types) :
    ConvertsWith ns replacement (.union typed members) (.unite types) := by
  obtain ⟨parts, rfl, rfl, hParts⟩ := Sequence.exists_pairs_of_forall₂ h
  exact .alternatives hParts

theorem ConvertsWith.wrapped (h : ConvertsWith ns replacement core t)
    (hWraps : object.Wraps core) : ConvertsWith ns replacement object t := by
  induction hWraps with
  | self => exact h
  | annotated _ _ ih => exact .base (ih h)
  | single typed _ ih => exact .of_members typed (.cons (ih h) .nil)

/-! ## What is found again in the result -/

theorem unite_cases (types : List TypeExpr) :
    types = [TypeExpr.unite types] ∨ (∃ members, TypeExpr.unite types = .union members) ∨
      (∃ t, TypeExpr.unite types = .named t) ∨
      ∃ origin arguments, TypeExpr.unite types = .generic origin arguments true := by
  unfold TypeExpr.unite
  split
  next => exact .inl rfl
  next =>
    split
    next => exact .inr (.inr (.inl ⟨_, rfl⟩))
    next => exact .inr (.inr (.inr ⟨_, _, rfl⟩))
    next => exact .inr (.inl ⟨_, rfl⟩)
  next => exact .inr (.inl ⟨_, rfl⟩)

theorem eq_singleton_of_unite_literal {value : Value} {types : List TypeExpr}
    (h : TypeExpr.unite types = .literal value) : types = [.literal value] := by
  rcases unite_cases types with hOne | ⟨_, hOther⟩ | ⟨_, hOther⟩ | ⟨_, _, hOther⟩
  · rwa [h] at hOne
  all_goals cases h.symm.trans hOther

theorem eq_singleton_of_unite_generic {origin : NamedType} {arguments types : List TypeExpr}
    (h : TypeExpr.unite types = .generic origin arguments false) :
    types = [.generic origin arguments false] := by
  rcases unite_cases types with hOne | ⟨_, hOther⟩ | ⟨_, hOther⟩ | ⟨_, _, hOther⟩
  · rwa [h] at hOne
  all_goals cases h.symm.trans hOther

/-- What is converted to a type that only a single member can be united to is a type variable that
is replaced by it, a generic type or a list, notes and unions of a single member apart. -/
theorem ConvertsWith.wraps (h : ConvertsWith ns replacement object t)
    (hOpen : object.typeVariables ≠ [])
    (hSingle : ∀ types, TypeExpr.unite types = t → types = [t]) :
    (∃ v, object.Wraps (.typeVariable v) ∧ replacement v = some t) ∨
      (∃ typed subject arguments, object.Wraps (.generic typed subject arguments) ∧
        ∃ origin types, t = .generic origin types false) ∨
      ∃ items, object.Wraps (.list items) ∧ ∃ types, t = .list types := by
  induction h with
  | closed hClosed => exact absurd hClosed hOpen
  | typeVariable h => exact .inl ⟨_, .self _, h⟩
  | @alternatives typed parts _ ih =>
    obtain ⟨part, rfl, hPart⟩ := List.map_eq_singleton_iff.1 (hSingle _ rfl)
    rw [List.map_singleton, Object.typeVariables, typeVariablesOf_singleton] at hOpen
    rw [← hPart] at hSingle ⊢
    rcases ih part List.mem_cons_self hOpen hSingle with
      ⟨v, hWraps, hReplaced⟩ | ⟨_, _, _, hWraps, hGeneric⟩ | ⟨_, hWraps, hList⟩
    · exact .inl ⟨v, .single typed hWraps, hReplaced⟩
    · exact .inr (.inl ⟨_, _, _, .single typed hWraps, hGeneric⟩)
    · exact .inr (.inr ⟨_, .single typed hWraps, hList⟩)
  | @base _ notes _ _ ih =>
    rcases ih hOpen hSingle with
      ⟨v, hWraps, hReplaced⟩ | ⟨_, _, _, hWraps, hGeneric⟩ | ⟨_, hWraps, hList⟩
    · exact .inl ⟨v, .annotated notes hWraps, hReplaced⟩
    · exact .inr (.inl ⟨_, _, _, .annotated notes hWraps, hGeneric⟩)
    · exact .inr (.inr ⟨_, .annotated notes hWraps, hList⟩)
  | generic => exact .inr (.inl ⟨_, _, _, .self _, _, _, rfl⟩)
  | items => exact .inr (.inr ⟨_, .self _, _, rfl⟩)

theorem ConvertsWith.of_literal {value : Value}
    (h : ConvertsWith ns replacement object (.literal value)) (hOpen : object.typeVariables ≠ []) :
    ∃ v, object.Wraps (.typeVariable v) ∧ replacement v = some (.literal value) := by
  rcases h.wraps hOpen fun _ => eq_singleton_of_unite_literal with
    hVariable | ⟨_, _, _, -, _, _, hGeneric⟩ | ⟨_, -, _, hList⟩
  · exact hVariable
  · cases hGeneric
  · cases hList

theorem ConvertsWith.of_generic {origin : NamedType} {types : List TypeExpr}
    (h : ConvertsWith ns replacement object (.generic origin types false))
    (hOpen : object.typeVariables ≠ [])
    (hReplacement : ∀ v, replacement v ≠ some (.generic origin types false)) :
    ∃ typed subject arguments, object.Wraps (.generic typed subject arguments) := by
  rcases h.wraps hOpen fun _ => eq_singleton_of_unite_generic with
    ⟨v, -, hReplaced⟩ | ⟨typed, subject, arguments, hWraps, -⟩ | ⟨_, -, _, hList⟩
  · exact absurd hReplaced (hReplacement v)
  · exact ⟨typed, subject, arguments, hWraps⟩
  · cases hList

theorem ConvertsWith.arguments {typed : Bool} {subject : Object} {arguments : List Object}
    {origin : NamedType} {types : List TypeExpr}
    (h : ConvertsWith ns replacement (.generic typed subject arguments)
      (.generic origin types false))
    (hOpen : typeVariablesOf arguments ≠ []) :
    List.Forall₂ (ConvertsWith ns replacement) arguments types := by
  cases h with
  | closed hClosed => exact absurd hClosed hOpen
  | generic _ _ h =>
    exact List.forall₂_map_left_iff.2 (List.forall₂_map_right_iff.2 (List.forall₂_same.2 h))

theorem ConvertsWith.of_arguments {subject : Object} {arguments : List Object}
    {origin : NamedType} {types : List TypeExpr} (typed : Bool)
    (hOrigin : Converts ns (.object subject) (.named origin)) (hSome : arguments ≠ [])
    (h : List.Forall₂ (ConvertsWith ns replacement) arguments types) :
    ConvertsWith ns replacement (.generic typed subject arguments)
      (.generic origin types false) := by
  obtain ⟨parts, rfl, rfl, hParts⟩ := Sequence.exists_pairs_of_forall₂ h
  exact .generic hOrigin (mt (congrArg (List.map Prod.fst)) hSome) hParts

theorem Converts.origin {typed : Bool} {subject : Object} {arguments : List Object}
    (h : Converts ns (.object (.generic typed subject arguments)) t) (hSome : arguments ≠ []) :
    ∃ origin types, t = .generic origin types false ∧
      Converts ns (.object subject) (.named origin) := by
  cases h with
  | bare => exact absurd rfl hSome
  | generic hOrigin => exact ⟨_, _, rfl, hOrigin⟩

/-- Given some types for some type variables, the type for each variable. -/
def assigned (vs : List TypeVariable) (types : List TypeExpr) (v : TypeVariable) :
    Option TypeExpr :=
  (vs.zip types).lookup v

theorem mem_of_assigned {vs : List TypeVariable} {types : List TypeExpr} {v : TypeVariable}
    (h : assigned vs types v = some t) : t ∈ types :=
  (List.of_mem_zip (Sequence.mem_of_lookup h)).2

theorem assigned_getElem {vs : List TypeVariable} {types : List TypeExpr} (hDistinct : vs.Nodup)
    (hLength : types.length = vs.length) {i : Nat} (hVariable : i < vs.length)
    (hType : i < types.length) : assigned vs types vs[i] = some types[i] := by
  have hKeys : ((vs.zip types).map Prod.fst).Nodup := by
    rwa [List.map_fst_zip hLength.ge]
  have hEntry : i < (vs.zip types).length := by
    rw [List.length_zip]
    omega
  have hMem := List.getElem_mem hEntry
  rw [List.getElem_zip] at hMem
  exact Sequence.lookup_of_mem hKeys hMem

end Conversion

end Interpose

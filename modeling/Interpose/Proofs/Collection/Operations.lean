import Interpose.Instance
import Interpose.Proofs.Stateful

/-! # What the operations of a collection do

Apart from the elements, most operations of a decorated collection only add requests to its history.
Those that load it, mark it as changed or schedule its owner are taken apart here, step by step and
with each way in which they can end, so that whatever holds of runs follows from these cases.
-/
namespace Interpose

set_option autoImplicit false

open Stateful

namespace Collection

variable {c c' : Collection} {load : Operation Unit}

/-! ## Marks and requests -/

def asked (c : Collection) (event : Event) : Collection :=
  { c with
    history := c.history ++ [.asked event], events := c.events ++ [event]
    refusals := c.refusals.tail }

def withDirty (c : Collection) (isDirty : Bool) : Collection :=
  { c with isDirty, history := c.history ++ [.dirty isDirty] }

def withInitialized (c : Collection) (isInitialized : Bool) : Collection :=
  { c with isInitialized, history := c.history ++ [.initialized isInitialized] }

def withDelegation (c : Collection) (method : String) (call : Call Value) : Collection :=
  { c with history := c.history ++ [.delegated method call] }

/-- The requests that have nothing to do with loading and scheduling. -/
def IsQuiet : Moment → Prop
  | .asked .loading | .asked (.scheduled _) => False
  | .asked _ => True
  | _ => False

/-- Apart from quiet requests, only the elements change. -/
def Quiet (c c' : Collection) : Prop :=
  ∃ content events refusals more, (∀ m ∈ more, IsQuiet m) ∧
    c' = { c with content, events, refusals, history := c.history ++ more }

instance : Std.Refl Quiet where
  refl c := ⟨c.content, c.events, c.refusals, [], by simp, by simp⟩

instance : IsTrans Collection Quiet where
  trans := by
    rintro c _ _ ⟨_, _, _, more, hMore, rfl⟩ ⟨content, events, refusals, more', hMore', rfl⟩
    refine ⟨content, events, refusals, more ++ more', ?_, by simp⟩
    intro m hm
    exact (List.mem_append.mp hm).elim (hMore m) (hMore' m)

theorem record_cases {event : Event} {r : Except Failure Unit}
    (h : outcome (record event) c = (r, c')) :
    c' = c.asked event ∧
      (r = .ok () ∨ ∃ failure, c.refusals.head? = some (some failure) ∧ r = .error failure) := by
  rw [record, note, outcome_modify_bind, outcome_get_bind, outcome_bind, outcome_set] at h
  dsimp only at h
  split at h
  next failure hRefused =>
    cases h
    exact ⟨rfl, .inr ⟨failure, hRefused, rfl⟩⟩
  next =>
    cases h
    exact ⟨rfl, .inl rfl⟩

theorem outcome_record (event : Event) (c : Collection) :
    (outcome (record event) c).2 = c.asked event :=
  (record_cases rfl).1

theorem moves_record {event : Event} (h : IsQuiet (.asked event)) : Moves Quiet (record event) := by
  intro c
  rw [outcome_record]
  exact ⟨_, _, _, [.asked event], by simpa using h, rfl⟩

theorem quiet_content (c : Collection) (content : List Element) : Quiet c { c with content } :=
  ⟨content, c.events, c.refusals, [], by simp, by simp⟩

theorem moves_clear : Moves Quiet clear :=
  Moves.bind (moves_record (by trivial)) fun _ => moves_modify fun c => quiet_content c []

theorem moves_addAll (method : String) (elements : List Element) :
    Moves Quiet (addAll method elements) := by
  induction elements with
  | nil => exact moves_pure _
  | cons e es ih =>
    rw [addAll]
    exact Moves.bind (moves_record (by trivial)) fun _ =>
      Moves.bind (moves_modify fun c => quiet_content c _) fun _ => ih

theorem moves_addBack (elements : List Element) : Moves Quiet (addBack elements) := by
  refine moves_get_bind fun c => ?_
  split
  · exact moves_addAll _ elements c
  · exact moves_throw _ c

theorem moves_needsScheduling : Moves Quiet needsScheduling := by
  refine moves_get_bind fun c => ?_
  split
  · exact moves_pure _ c
  · exact Moves.bind (moves_record (by trivial)) (fun _ => moves_pure _) c

theorem moves_callWrapped (method : String) (call : Call Value) :
    Moves Quiet (callWrapped method call) := by
  rw [callWrapped]
  split
  · exact moves_unless (moves_clear.bind fun _ => moves_pure _)
  split
  · exact moves_unless (moves_get_bind fun c => moves_pure _ c)
  · refine moves_get_bind fun c => ?_
    refine moves_unless (Moves.bind (moves_record (by trivial)) fun _ => ?_) c
    dsimp only
    split
    · exact Moves.bind (moves_modify fun c => quiet_content c _) fun _ => moves_pure _
    · exact moves_pure _

def withSnapshot (c : Collection) : Collection :=
  { c with snapshot := c.content }.withDirty false

theorem changed_cases {r : Except Failure Unit} (h : outcome changed c = (r, c')) :
    c.isDirty = true ∧ r = .ok () ∧ c' = c ∨
      c.isDirty = false ∧ ∃ c₁, Quiet (c.withDirty true) c₁ ∧
        (c' = c₁ ∨ ∃ owner, c' = c₁.asked (.scheduled owner)) := by
  rw [changed, outcome_get_bind] at h
  dsimp only at h
  split at h
  next hDirty =>
    cases h
    exact .inl ⟨hDirty, rfl, rfl⟩
  next hClean =>
    refine .inr ⟨by simpa using hClean, ?_⟩
    obtain ⟨_, hMark, -⟩ | ⟨⟨⟩, c₁, hMark, hRest⟩ := outcome_bind_cases h
    · cases hMark
    cases hMark
    obtain ⟨_, hNeeds, -⟩ | ⟨needs, c₂, hNeeds, hEnd⟩ := outcome_bind_cases hRest
    · exact ⟨c', moves_needsScheduling.related hNeeds, .inl rfl⟩
    · refine ⟨c₂, moves_needsScheduling.related hNeeds, ?_⟩
      split at hEnd
      · split at hEnd
        · cases hEnd
          exact .inl rfl
        · split at hEnd
          next owner _ =>
            have hScheduled := outcome_record (.scheduled owner) c₂
            rw [hEnd] at hScheduled
            exact .inr ⟨owner, hScheduled⟩
          next =>
            cases hEnd
            exact .inl rfl
      · cases hEnd
        exact .inl rfl

/-! ## Loading -/

structure IsUnloaded (c : Collection) : Prop where
  isInitialized : c.isInitialized = false
  hasMapping : c.hasMapping = true
  hasUnitOfWork : c.hasUnitOfWork = true

theorem not_isUnloaded_iff :
    ¬ c.IsUnloaded ↔
      c.isInitialized = true ∨ c.hasMapping = false ∨ c.hasUnitOfWork = false := by
  constructor
  · intro h
    cases hMark : c.isInitialized with
    | true => exact .inl rfl
    | false =>
      cases hMapping : c.hasMapping with
      | false => exact .inr (.inl rfl)
      | true =>
        cases hWork : c.hasUnitOfWork with
        | false => exact .inr (.inr rfl)
        | true => exact absurd ⟨hMark, hMapping, hWork⟩ h
  · rintro (hMark | hMapping | hWork) ⟨hMark', hMapping', hWork'⟩
    · exact absurd (hMark.symm.trans hMark') Bool.noConfusion
    · exact absurd (hMapping.symm.trans hMapping') Bool.noConfusion
    · exact absurd (hWork.symm.trans hWork') Bool.noConfusion

/-- The elements that were added before the collection is loaded. -/
def pending (c : Collection) : List Element :=
  if c.isDirty then c.content else []

theorem outcome_ensureLoaded (h : ¬ c.IsUnloaded) :
    outcome (ensureLoaded load) c = (.ok (), c) := by
  rw [ensureLoaded, outcome_get_bind]
  dsimp only
  rw [if_pos (by simpa [or_assoc] using not_isUnloaded_iff.mp h)]
  rfl

/-- The ways in which a collection that is not loaded can be loaded: each step is the last one if it
fails. -/
theorem ensureLoaded_ways {r : Except Failure Unit} (hUnloaded : c.IsUnloaded)
    (h : outcome (ensureLoaded load) c = (r, c')) :
    (∃ failure, outcome clear (c.withInitialized true) = (.error failure, c') ∧
        r = .error failure) ∨
      ∃ c₁, outcome clear (c.withInitialized true) = (.ok (), c₁) ∧
        ((∃ failure, outcome load c₁ = (.error failure, c') ∧ r = .error failure) ∨
          ∃ c₂, outcome load c₁ = (.ok (), c₂) ∧
            (c.pending = [] ∧ r = .ok () ∧ c' = c₂.withSnapshot ∨
              c.pending ≠ [] ∧
                ((∃ failure, outcome (addBack c.pending) c₂.withSnapshot = (.error failure, c') ∧
                    r = .error failure) ∨
                  ∃ c₃, outcome (addBack c.pending) c₂.withSnapshot = (.ok (), c₃) ∧
                    r = .ok () ∧ c' = c₃.withDirty true))) := by
  rw [ensureLoaded, outcome_get_bind] at h
  dsimp only at h
  have hNeeded : ¬ (c.isInitialized || !c.hasMapping || !c.hasUnitOfWork) = true := by
    simp [hUnloaded.isInitialized, hUnloaded.hasMapping, hUnloaded.hasUnitOfWork]
  rw [← pending, if_neg hNeeded] at h
  obtain ⟨_, hMark, -⟩ | ⟨⟨⟩, c₀, hMark, hRest⟩ := outcome_bind_cases h
  · cases hMark
  cases hMark
  obtain ⟨failure, hClear, rfl⟩ | ⟨⟨⟩, c₁, hClear, hRest⟩ := outcome_bind_cases hRest
  · exact .inl ⟨failure, hClear, rfl⟩
  refine .inr ⟨c₁, hClear, ?_⟩
  obtain ⟨failure, hLoad, rfl⟩ | ⟨⟨⟩, c₂, hLoad, hRest⟩ := outcome_bind_cases hRest
  · exact .inl ⟨failure, hLoad, rfl⟩
  refine .inr ⟨c₂, hLoad, ?_⟩
  obtain ⟨_, hSnapshot, -⟩ | ⟨⟨⟩, c₃, hSnapshot, hRest⟩ := outcome_bind_cases hRest
  · cases hSnapshot
  cases hSnapshot
  split at hRest
  next hSome =>
    refine .inr ⟨by simpa using hSome, ?_⟩
    obtain ⟨failure, hBack, rfl⟩ | ⟨⟨⟩, c₃, hBack, hRest⟩ := outcome_bind_cases hRest
    · exact .inl ⟨failure, hBack, rfl⟩
    · cases hRest
      exact .inr ⟨c₃, hBack, rfl, rfl⟩
  next hNone =>
    cases hRest
    exact .inl ⟨by simpa using hNone, rfl, rfl⟩

theorem ensureLoaded_cases {r : Except Failure Unit}
    (h : outcome (ensureLoaded load) c = (r, c')) :
    r = .ok () ∧ c' = c ∧
        (c.isInitialized = true ∨ c.hasMapping = false ∨ c.hasUnitOfWork = false) ∨
      c.isInitialized = false ∧ ∃ c₁, Quiet (c.withInitialized true) c₁ ∧
        ((∃ failure, r = .error failure) ∧ c' = c₁ ∨
          ∃ r₂ c₂, outcome load c₁ = (r₂, c₂) ∧
            ((∃ failure, r₂ = .error failure ∧ r = .error failure) ∧ c' = c₂ ∨
              r₂ = .ok () ∧ ∃ c₃, Quiet c₂.withSnapshot c₃ ∧
                (c' = c₃ ∨ c' = c₃.withDirty true))) := by
  by_cases hUnloaded : c.IsUnloaded
  · refine .inr ⟨hUnloaded.isInitialized, ?_⟩
    obtain ⟨failure, hClear, rfl⟩ | ⟨c₁, hClear, hRest⟩ := ensureLoaded_ways hUnloaded h
    · exact ⟨c', moves_clear.related hClear, .inl ⟨⟨failure, rfl⟩, rfl⟩⟩
    refine ⟨c₁, moves_clear.related hClear, .inr ?_⟩
    obtain ⟨failure, hLoad, rfl⟩ | ⟨c₂, hLoad, hRest⟩ := hRest
    · exact ⟨_, c', hLoad, .inl ⟨⟨failure, rfl, rfl⟩, rfl⟩⟩
    refine ⟨_, c₂, hLoad, .inr ⟨rfl, ?_⟩⟩
    obtain ⟨-, -, rfl⟩ | ⟨-, ⟨failure, hBack, -⟩ | ⟨c₃, hBack, -, rfl⟩⟩ := hRest
    · exact ⟨c₂.withSnapshot, Std.Refl.refl _, .inl rfl⟩
    · exact ⟨c', (moves_addBack _).related hBack, .inl rfl⟩
    · exact ⟨c₃, (moves_addBack _).related hBack, .inr rfl⟩
  · rw [outcome_ensureLoaded hUnloaded] at h
    cases h
    exact .inl ⟨rfl, rfl, not_isUnloaded_iff.mp hUnloaded⟩

/-! ## Calls -/

def wantsScheduling (c : Collection) : Bool :=
  c.owner.isSome && c.hasManager && c.isOwningSide && c.notifies.isTruthy

theorem isTruthy_needsScheduling {v : Value} (h : outcome needsScheduling c = (.ok v, c')) :
    v.isTruthy = c.wantsScheduling := by
  rw [needsScheduling, outcome_get_bind] at h
  split at h
  next hIdle =>
    cases h
    show false = c.wantsScheduling
    rw [wantsScheduling]
    rcases (by simpa using hIdle : (c.owner = none ∨ c.hasManager = false) ∨ c.isOwningSide = false)
      with (hNone | hNone) | hNone
    · rw [hNone]
      rfl
    · rw [hNone, Bool.and_false]
      rfl
    · rw [hNone, Bool.and_false]
      rfl
  next hAsked =>
    obtain ⟨_, -, ⟨⟩⟩ | ⟨⟨⟩, c₁, -, hEnd⟩ := outcome_bind_cases h
    cases hEnd
    obtain ⟨⟨hOwner, hManager⟩, hSide⟩ :
        (c.owner.isSome = true ∧ c.hasManager = true) ∧ c.isOwningSide = true := by
      simpa [Option.isSome_iff_ne_none] using hAsked
    rw [wantsScheduling, hOwner, hManager, hSide]
    rfl

theorem runHooks_cases {r : Except Failure Unit} (h : outcome (runHooks load) c = (r, c')) :
    ∃ r₀ c₀, outcome (ensureLoaded load) c = (r₀, c₀) ∧
      ((∃ failure, r₀ = .error failure ∧ r = .error failure) ∧ c' = c₀ ∨
        r₀ = .ok () ∧ ∃ r₁ c₁, outcome needsScheduling c₀ = (r₁, c₁) ∧
          ((∃ failure, r₁ = .error failure ∧ r = .error failure) ∧ c' = c₁ ∨
            ∃ needs, r₁ = .ok needs ∧
              (needs.isTruthy = false ∧ c' = c₁ ∨
                needs.isTruthy = true ∧ outcome changed c₁ = (r, c')))) := by
  obtain ⟨failure, hLoad, rfl⟩ | ⟨⟨⟩, c₀, hLoad, hRest⟩ := outcome_bind_cases h
  · exact ⟨_, c', hLoad, .inl ⟨⟨failure, rfl, rfl⟩, rfl⟩⟩
  refine ⟨_, c₀, hLoad, .inr ⟨rfl, ?_⟩⟩
  obtain ⟨failure, hNeeds, rfl⟩ | ⟨needs, c₁, hNeeds, hEnd⟩ := outcome_bind_cases hRest
  · exact ⟨_, c', hNeeds, .inl ⟨⟨failure, rfl, rfl⟩, rfl⟩⟩
  refine ⟨_, c₁, hNeeds, .inr ⟨needs, rfl, ?_⟩⟩
  split at hEnd
  next hTruthy => exact .inr ⟨hTruthy, hEnd⟩
  next hFalsy =>
    cases hEnd
    exact .inl ⟨by simpa using hFalsy, rfl⟩

/-- What a forwarding method hands back of what the wrapped collection has answered. -/
def handBack (m : DecoratedMethod) (answer : Answer) : Except Failure Answer :=
  if m.isAsync && answer != .object then .error .notAwaitable
  else .ok (if !m.returnsResult then .nothing else if m.isAsync then .awaited else answer)

theorem outcome_handBack (m : DecoratedMethod) (answer : Answer) (c : Collection) :
    outcome (do
        let answer ← if m.isAsync then await answer else pure answer
        return if m.returnsResult then answer else .nothing) c = (handBack m answer, c) := by
  rw [handBack]
  cases m.isAsync <;> cases m.returnsResult <;> cases answer <;> rfl

/-- A call that is taken note of as passed on is a call of the wrapped collection: it starts from
the collection with that note, and what the forwarding method hands back is what it answers. -/
theorem callDecorated_cases {m : DecoratedMethod} {given : Call Value} {r : Except Failure Answer}
    (h : outcome (callDecorated load m given) c = (r, c')) :
    (∃ failure, r = .error failure) ∧ c' = c ∨
      ∃ r₁ c₁, outcome (runHooks load) c = (r₁, c₁) ∧
        ((∃ failure, r = .error failure) ∧ c' = c₁ ∨
          r₁ = .ok () ∧ ∃ bindings delegated,
            Formal.bind m.formals { given with positional := .none :: given.positional }
              = some bindings ∧
            CallArgument.evaluateAll bindings m.arguments = some delegated ∧
            ∃ r₂, outcome (callWrapped m.name delegated) (c₁.withDelegation m.name delegated)
                = (r₂, c') ∧
              r = r₂.bind (handBack m)) := by
  rw [callDecorated] at h
  split at h
  · cases h
    exact .inl ⟨⟨_, rfl⟩, rfl⟩
  next bindings hBindings =>
    right
    obtain ⟨failure, hHooks, rfl⟩ | ⟨⟨⟩, c₁, hHooks, hRest⟩ := outcome_bind_cases h
    · exact ⟨_, c', hHooks, .inl ⟨⟨failure, rfl⟩, rfl⟩⟩
    refine ⟨_, c₁, hHooks, ?_⟩
    split at hRest
    · cases hRest
      exact .inl ⟨⟨_, rfl⟩, rfl⟩
    next delegated hDelegated =>
      refine .inr ⟨rfl, bindings, delegated, hBindings, hDelegated, ?_⟩
      obtain ⟨_, hNote, -⟩ | ⟨⟨⟩, c₂, hNote, hRest⟩ := outcome_bind_cases hRest
      · cases hNote
      cases hNote
      obtain ⟨failure, hCalled, rfl⟩ | ⟨answer, c₂, hCalled, hRest⟩ := outcome_bind_cases hRest
      · exact ⟨_, hCalled, rfl⟩
      · rw [outcome_handBack] at hRest
        cases hRest
        exact ⟨_, hCalled, rfl⟩

end Collection
end Interpose

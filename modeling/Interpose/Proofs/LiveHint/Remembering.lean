import Interpose.World.ObjectExpr

/-! # What remembered answers change

The typing module answers a subscript from its memory if the memory has one that it takes for the
same. So an annotation denotes what it spells if, for each subscript in it, all that counts as the
same has the same answer. What a subscript spells is what is built when nothing is remembered.
-/
namespace Interpose

set_option autoImplicit false

variable {known : Memory}

/-- Whether a memory has the answer to a subscript, and no other for what counts as the same. -/
def Memory.Settles (known : Memory) (entry : Subscript × Object) : Prop :=
  entry ∈ known ∧ ∀ other ∈ known, entry.1.isSame other.1 = true → other.2 = entry.2

namespace Evaluation

/-- Whether an evaluation has a result, whichever of the known answers are remembered. -/
def Yields {α : Type} (known : Memory) (x : Evaluation α) (a : α) : Prop :=
  ∀ memory : Memory, memory ⊆ known → ∃ next : Memory, next ⊆ known ∧ x.run memory = some (a, next)

theorem yields_pure {α : Type} (a : α) : Yields known (pure a) a := by
  intro memory hMemory
  exact ⟨memory, hMemory, rfl⟩

theorem yields_bind {α β : Type} {x : Evaluation α} {a : α} {f : α → Evaluation β} {b : β}
    (hx : Yields known x a) (hf : Yields known (f a) b) : Yields known (x >>= f) b := by
  intro memory hMemory
  obtain ⟨middle, hMiddle, hRun⟩ := hx memory hMemory
  obtain ⟨next, hNext, hRest⟩ := hf middle hMiddle
  refine ⟨next, hNext, ?_⟩
  rw [StateT.run_bind, hRun]
  exact hRest

theorem yields_lift {α : Type} {x : Option α} {a : α} (h : x = some a) :
    Yields known (liftM x) a := by
  intro memory hMemory
  subst h
  exact ⟨memory, hMemory, rfl⟩

theorem yields_answer {s : Subscript} {x : Evaluation Object} {o : Object}
    (hSettled : s.isHashable = true → known.Settles (s, o)) (hx : Yields known x o) :
    Yields known (Memory.answer s x) o := by
  intro memory hMemory
  obtain ⟨next, hNext, hRun⟩ := hx memory hMemory
  rw [Memory.answer]
  by_cases hHashable : s.isHashable = true
  · obtain ⟨hMem, hSame⟩ := hSettled hHashable
    rw [if_pos hHashable]
    cases hFind : memory.find? fun entry => s.isSame entry.1 with
    | some entry =>
      have hIsSame := List.find?_some hFind
      have hAnswer := hSame entry (hMemory (List.mem_of_find?_eq_some hFind)) hIsSame
      refine ⟨memory, hMemory, ?_⟩
      simp [StateT.run_bind, hFind, hAnswer]
    | none =>
      refine ⟨next ++ [(s, o)], ?_, ?_⟩
      · exact List.append_subset.2 ⟨hNext, List.cons_subset.2 ⟨hMem, List.nil_subset _⟩⟩
      · simp [StateT.run_bind, hFind, hRun]
  · rw [if_neg hHashable]
    exact ⟨next, hNext, hRun⟩

/-- What is built when nothing is remembered, and the answers that are remembered from it. -/
def Builds (x : Evaluation Object) (o : Object) (answers : Memory) : Prop :=
  x.run [] = some (o, answers)

/-- Whether an evaluation has the result that it has when nothing is remembered, wherever the
answers in it are settled. -/
def IsStable (x : Evaluation Object) : Prop :=
  ∀ o answers, Builds x o answers → ∀ known : Memory, (∀ entry ∈ answers, known.Settles entry) →
    Yields known x o

theorem isStable_pure (o : Object) : IsStable (pure o) := by
  rintro o' answers h known -
  cases h
  exact yields_pure o

theorem isStable_failure : IsStable failure := by
  rintro o answers h
  cases h

theorem builds_answer {s : Subscript} {x : Evaluation Object} {o : Object} {answers : Memory}
    (h : Builds (Memory.answer s x) o answers) :
    ∃ earlier, Builds x o earlier ∧
      answers = if s.isHashable then earlier ++ [(s, o)] else earlier := by
  rw [Builds, Memory.answer] at h
  by_cases hHashable : s.isHashable = true
  · rw [if_pos hHashable] at h
    simp only [StateT.run_bind, StateT.run_get, Option.pure_def, Option.bind_eq_bind,
      Option.bind_some, List.find?_nil, Option.bind_eq_some_iff] at h
    obtain ⟨⟨o', earlier⟩, hRun, h⟩ := h
    obtain ⟨rfl, rfl⟩ : o' = o ∧ earlier ++ [(s, o')] = answers := by
      simpa [StateT.run_bind] using h
    exact ⟨earlier, hRun, (if_pos hHashable).symm⟩
  · rw [if_neg hHashable] at h
    exact ⟨answers, h, (if_neg hHashable).symm⟩

theorem isStable_answer {s : Subscript} {x : Evaluation Object} (hx : IsStable x) :
    IsStable (Memory.answer s x) := by
  intro o answers h known hSettled
  obtain ⟨earlier, hBuilds, rfl⟩ := builds_answer h
  apply yields_answer
  · intro hHashable
    apply hSettled
    rw [if_pos hHashable]
    exact List.mem_append_right _ List.mem_cons_self
  · apply hx o earlier hBuilds known
    intro entry hEntry
    apply hSettled
    by_cases hHashable : s.isHashable = true
    · rw [if_pos hHashable]
      exact List.mem_append_left _ hEntry
    · rw [if_neg hHashable]
      exact hEntry

end Evaluation

namespace Typing

open Evaluation

theorem isStable_union (arguments : List Object) (isTuple : Bool) :
    IsStable (union arguments isTuple) :=
  isStable_answer (isStable_pure _)

theorem isStable_bar (a b : Object) : IsStable (bar a b) := by
  rw [bar]
  split
  · exact isStable_union _ _
  · exact isStable_pure _

theorem isStable_ofClass (world : World) (c : ClassRef) (arguments : List Object)
    (isTuple : Bool) : IsStable (ofClass world c arguments isTuple) := by
  rw [ofClass]
  split
  · exact isStable_answer (isStable_pure _)
  · exact isStable_pure _

/-- Whether an object is subscripted as it stands, and not as a type in which type variables are
replaced. -/
def IsOrigin : Object → Bool
  | .special _ | .alias .. | .value (.cls _) => true
  | _ => false

theorem isStable_subscript (world : World) {object : Object} (h : IsOrigin object = true)
    (items : List Object) : IsStable (subscript world object items) := by
  rw [subscript]
  obtain ⟨arguments, isTuple⟩ := bracketed items
  dsimp only
  split
  · exact isStable_answer (isStable_union _ _)
  · exact isStable_union _ _
  · exact isStable_answer (isStable_pure _)
  · exact isStable_answer (isStable_pure _)
  · exact isStable_answer (isStable_pure _)
  · exact isStable_answer (isStable_pure _)
  · exact isStable_ofClass _ _ _ _
  all_goals first | contradiction | exact isStable_failure

end Typing
end Interpose

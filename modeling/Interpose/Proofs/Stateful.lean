import Mathlib.Order.Defs.Unbundled

/-! # Steps that change a state

A step yields a result or fails, and leaves a state in both cases. The rules below say which state
each way of putting steps together leaves, so that a program is followed from its first step on.
-/
namespace Interpose.Stateful

set_option autoImplicit false

variable {ε σ α β : Type}

/-- What a step yields in a state, and the state that it leaves. -/
def outcome (x : ExceptT ε (StateM σ) α) (s : σ) : Except ε α × σ :=
  x.run.run s

theorem outcome_get (s : σ) : outcome (get : ExceptT ε (StateM σ) σ) s = (.ok s, s) := rfl

theorem outcome_set (s' s : σ) :
    outcome (set s' : ExceptT ε (StateM σ) PUnit) s = (.ok ⟨⟩, s') := rfl

theorem outcome_modify (f : σ → σ) (s : σ) :
    outcome (modify f : ExceptT ε (StateM σ) PUnit) s = (.ok ⟨⟩, f s) := rfl

theorem outcome_lift (r : Except ε α) (s : σ) :
    outcome (liftM r : ExceptT ε (StateM σ) α) s = (r, s) := rfl

theorem outcome_bind (x : ExceptT ε (StateM σ) α) (f : α → ExceptT ε (StateM σ) β) (s : σ) :
    outcome (x >>= f) s = match outcome x s with
      | (.ok a, s') => outcome (f a) s'
      | (.error e, s') => (.error e, s') := by
  show (ExceptT.bindCont f (x.run.run s).1).run (x.run.run s).2 = _
  rw [outcome]
  cases x.run.run s with
  | mk r s' => cases r <;> rfl

theorem run_bind_of_outcome {x : ExceptT ε (StateM σ) α} {f : Except ε α → StateM σ β}
    {r : Except ε α} {s s' : σ} (h : outcome x s = (r, s')) :
    (x.run >>= f).run s = (f r).run s' := by
  have hRun : x.run.run s = (r, s') := h
  rw [StateT.run_bind, hRun]
  rfl

theorem outcome_get_bind (f : σ → ExceptT ε (StateM σ) α) (s : σ) :
    outcome (get >>= f) s = outcome (f s) s := by
  rw [outcome_bind, outcome_get]

theorem outcome_modify_bind (g : σ → σ) (f : PUnit → ExceptT ε (StateM σ) α) (s : σ) :
    outcome (modify g >>= f) s = outcome (f ⟨⟩) (g s) := by
  rw [outcome_bind, outcome_modify]

theorem outcome_bind_pure_snd (x : ExceptT ε (StateM σ) α) (b : β) (s : σ) :
    (outcome (x >>= fun _ => pure b) s).2 = (outcome x s).2 := by
  rw [outcome_bind]
  cases outcome x s with
  | mk r s' => cases r <;> rfl

theorem discard_eq (x : ExceptT ε (StateM σ) α) : discard x = x >>= fun _ => pure ⟨⟩ := by
  have hMap : discard x = (fun _ => PUnit.unit) <$> x := rfl
  rw [hMap, map_eq_pure_bind]

theorem outcome_tryCatch (x : ExceptT ε (StateM σ) α) (h : ε → ExceptT ε (StateM σ) α) (s : σ) :
    outcome (tryCatch x h) s = match outcome x s with
      | (.ok a, s') => (.ok a, s')
      | (.error e, s') => outcome (h e) s' := by
  unfold outcome
  rw [ExceptT.run_tryCatch, StateT.run_bind]
  cases x.run.run s with
  | mk r s' => cases r <;> rfl

theorem outcome_bind_cases {x : ExceptT ε (StateM σ) α} {f : α → ExceptT ε (StateM σ) β}
    {s s'' : σ} {r : Except ε β} (h : outcome (x >>= f) s = (r, s'')) :
    (∃ e, outcome x s = (.error e, s'') ∧ r = .error e) ∨
      ∃ a s', outcome x s = (.ok a, s') ∧ outcome (f a) s' = (r, s'') := by
  rw [outcome_bind] at h
  cases hx : outcome x s with
  | mk first s' =>
    rw [hx] at h
    cases first with
    | error e =>
      cases h
      exact .inl ⟨e, rfl, rfl⟩
    | ok a => exact .inr ⟨a, s', rfl, h⟩

theorem outcome_discard (x : ExceptT ε (StateM σ) α) (s : σ) :
    outcome (discard x) s = ((outcome x s).1.map fun _ => ⟨⟩, (outcome x s).2) := by
  rw [discard_eq, outcome_bind]
  cases outcome x s with
  | mk r s' => cases r <;> rfl

theorem outcome_discard_cases {x : ExceptT ε (StateM σ) α} {s s' : σ} {r : Except ε PUnit}
    (h : outcome (discard x) s = (r, s')) :
    ∃ r₀, outcome x s = (r₀, s') ∧ r = r₀.map fun _ => ⟨⟩ := by
  rw [outcome_discard] at h
  cases h
  exact ⟨_, rfl, rfl⟩

/-- A test before a step changes nothing. -/
theorem outcome_lift_bind_cases {x : Except ε α} {f : α → ExceptT ε (StateM σ) β}
    {s s' : σ} {r : Except ε β} (h : outcome (liftM x >>= f) s = (r, s')) :
    (∃ e, r = .error e ∧ s' = s) ∨ ∃ a, x = .ok a ∧ outcome (f a) s = (r, s') := by
  rw [outcome_bind, outcome_lift] at h
  cases x with
  | error e =>
    cases h
    exact .inl ⟨e, rfl, rfl⟩
  | ok a => exact .inr ⟨a, rfl, h⟩

/-! ## Steps one after the other -/

section ForM

variable {f : α → ExceptT ε (StateM σ) PUnit} {as : List α} {s s' : σ} {e : ε}

theorem outcome_forM_cons (a : α) (as : List α) (s : σ) :
    outcome (forM (a :: as) f) s = match outcome (f a) s with
      | (.ok _, s') => outcome (forM as f) s'
      | (.error e, s') => (.error e, s') := by
  rw [List.forM_cons, outcome_bind]
  cases outcome (f a) s with
  | mk r s' => cases r <;> rfl

/-- Steps fail as the first of them does that fails where those before it lead to. -/
theorem outcome_forM_eq_error_iff :
    outcome (forM as f) s = (.error e, s') ↔
      ∃ before a after between, as = before ++ a :: after ∧
        outcome (forM before f) s = (.ok ⟨⟩, between) ∧ outcome (f a) between = (.error e, s') := by
  induction as generalizing s with
  | nil =>
    constructor
    · intro h
      cases h
    · rintro ⟨before, a, after, _, hSplit, -⟩
      simp at hSplit
  | cons a as ih =>
    rw [outcome_forM_cons]
    constructor
    · intro h
      cases hFirst : outcome (f a) s with
      | mk r between =>
        rw [hFirst] at h
        cases r with
        | error e' => exact ⟨[], a, as, s, rfl, rfl, hFirst.trans h⟩
        | ok _ =>
          obtain ⟨before, b, after, last, rfl, hBefore, hFails⟩ := ih.1 h
          refine ⟨a :: before, b, after, last, rfl, ?_, hFails⟩
          rw [outcome_forM_cons, hFirst]
          exact hBefore
    · rintro ⟨before, b, after, last, hSplit, hBefore, hFails⟩
      cases before with
      | nil =>
        cases hBefore
        cases hSplit
        rw [hFails]
      | cons first before =>
        cases hSplit
        rw [outcome_forM_cons] at hBefore
        cases hFirst : outcome (f a) s with
        | mk r between =>
          rw [hFirst] at hBefore
          cases r with
          | error e' => cases hBefore
          | ok _ => exact ih.2 ⟨before, b, after, last, rfl, hBefore, hFails⟩

theorem exists_of_outcome_forM {u : PUnit} (h : outcome (forM as f) s = (.ok u, s')) :
    ∀ a ∈ as, ∃ s₁ s₂, outcome (f a) s₁ = (.ok ⟨⟩, s₂) := by
  induction as generalizing s with
  | nil => exact List.forall_mem_nil _
  | cons a as ih =>
    rw [outcome_forM_cons] at h
    cases hFirst : outcome (f a) s with
    | mk r between =>
      rw [hFirst] at h
      cases r with
      | error e' => cases h
      | ok _ => exact List.forall_mem_cons.2 ⟨⟨s, between, hFirst⟩, ih h⟩

/-- Steps that leave the state as it is come to what they come to on their own. -/
theorem outcome_forM_of_settled (h : ∀ a ∈ as, (outcome (f a) s).2 = s) :
    (outcome (forM as f) s).2 = s ∧
      ∀ e, (outcome (forM as f) s).1 = .error e ↔
        ∃ before a after, as = before ++ a :: after ∧
          (∀ b ∈ before, (outcome (f b) s).1 = .ok ⟨⟩) ∧ (outcome (f a) s).1 = .error e := by
  induction as with
  | nil =>
    refine ⟨rfl, fun e => ⟨fun hFails => ?_, ?_⟩⟩
    · cases hFails
    · rintro ⟨before, a, after, hSplit, -⟩
      simp at hSplit
  | cons a as ih =>
    obtain ⟨hHere, hThere⟩ := List.forall_mem_cons.1 h
    obtain ⟨hLeft, hRest⟩ := ih hThere
    rw [outcome_forM_cons]
    cases hFirst : outcome (f a) s with
    | mk r s₁ =>
      obtain rfl : s₁ = s := by rw [← hHere, hFirst]
      cases r with
      | error e' =>
        refine ⟨rfl, fun e => ⟨fun hFails => ⟨[], a, as, rfl, List.forall_mem_nil _, ?_⟩, ?_⟩⟩
        · rw [hFirst]
          exact hFails
        · rintro ⟨before, b, after, hSplit, hBefore, hFails⟩
          cases before with
          | nil =>
            cases hSplit
            rwa [hFirst] at hFails
          | cons first before =>
            cases hSplit
            have hOk := hBefore a List.mem_cons_self
            rw [hFirst] at hOk
            cases hOk
      | ok _ =>
        refine ⟨hLeft, fun e => (hRest e).trans ⟨?_, ?_⟩⟩
        · rintro ⟨before, b, after, rfl, hBefore, hFails⟩
          refine ⟨a :: before, b, after, rfl, List.forall_mem_cons.2 ⟨?_, hBefore⟩, hFails⟩
          rw [hFirst]
        · rintro ⟨before, b, after, hSplit, hBefore, hFails⟩
          cases before with
          | nil =>
            cases hSplit
            rw [hFirst] at hFails
            cases hFails
          | cons first before =>
            cases hSplit
            exact ⟨before, b, after, rfl, (List.forall_mem_cons.1 hBefore).2, hFails⟩

/-- Steps that can fail, but leave the state as it is, are steps without a state. -/
theorem outcome_forM_of_stateless {g : α → Except ε PUnit}
    (h : ∀ a ∈ as, outcome (f a) s = (g a, s)) : outcome (forM as f) s = (forM as g, s) := by
  induction as with
  | nil => rfl
  | cons a as ih =>
    obtain ⟨hFirst, hOthers⟩ := List.forall_mem_cons.1 h
    rw [outcome_forM_cons, hFirst, List.forM_cons]
    cases g a with
    | error e => rfl
    | ok _ => exact ih hOthers

end ForM

/-! ## Relations between the states before and after -/

/-- Whether it succeeds or fails, a step leaves a state that is related to the one before. -/
def Moves (R : σ → σ → Prop) (x : ExceptT ε (StateM σ) α) : Prop :=
  ∀ s, R s (outcome x s).2

section Moves

variable {R : σ → σ → Prop}

theorem Moves.related {x : ExceptT ε (StateM σ) α} {r : Except ε α} {s s' : σ} (hx : Moves R x)
    (h : outcome x s = (r, s')) : R s s' := by
  have hLeft := hx s
  rwa [h] at hLeft

theorem moves_pure [Std.Refl R] (a : α) : Moves R (pure a : ExceptT ε (StateM σ) α) :=
  fun s => Std.Refl.refl s

theorem moves_throw [Std.Refl R] (e : ε) : Moves R (throw e : ExceptT ε (StateM σ) α) :=
  fun s => Std.Refl.refl s

theorem moves_modify {f : σ → σ} (h : ∀ s, R s (f s)) :
    Moves R (modify f : ExceptT ε (StateM σ) PUnit) := h

theorem moves_get_bind {f : σ → ExceptT ε (StateM σ) α} (h : ∀ s, R s (outcome (f s) s).2) :
    Moves R (get >>= f) := by
  intro s
  rw [outcome_get_bind]
  exact h s

theorem Moves.bind [IsTrans σ R] {x : ExceptT ε (StateM σ) α} {f : α → ExceptT ε (StateM σ) β}
    (hx : Moves R x) (hf : ∀ a, Moves R (f a)) : Moves R (x >>= f) := by
  intro s
  have hFirst := hx s
  rw [outcome_bind]
  cases h : outcome x s with
  | mk r s' =>
    rw [h] at hFirst
    cases r with
    | error e => exact hFirst
    | ok a => exact IsTrans.trans _ _ _ hFirst (hf a s')

theorem moves_unless [Std.Refl R] {forbidden : Prop} [Decidable forbidden] {e : ε}
    {f : PUnit → ExceptT ε (StateM σ) α} (h : Moves R (f ⟨⟩)) :
    Moves R (if forbidden then throw e >>= f else f ⟨⟩) := by
  split
  · exact fun s => Std.Refl.refl s
  · exact h

end Moves

end Interpose.Stateful

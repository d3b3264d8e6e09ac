import Mathlib.Data.List.Forall2

/-! # Steps that can fail

Going through a list with a step that can fail succeeds exactly if each step does, and yields the
results in order. It fails as the first step does that fails.
-/
namespace Interpose.Sequence

set_option autoImplicit false

variable {ε α β : Type}

theorem bind_eq_ok_iff {x : Except ε α} {f : α → Except ε β} {b : β} :
    x >>= f = .ok b ↔ ∃ a, x = .ok a ∧ f a = .ok b := by
  cases x with
  | error e =>
    constructor
    · intro h
      cases h
    · rintro ⟨_, h, -⟩
      cases h
  | ok a =>
    constructor
    · intro h
      exact ⟨a, rfl, h⟩
    · rintro ⟨_, hEq, h⟩
      cases hEq
      exact h

theorem bind_eq_error_iff {x : Except ε α} {f : α → Except ε β} {e : ε} :
    x >>= f = .error e ↔ x = .error e ∨ ∃ a, x = .ok a ∧ f a = .error e := by
  cases x with
  | error e' =>
    constructor
    · intro h
      cases h
      exact .inl rfl
    · rintro (h | ⟨_, h, -⟩)
      · cases h
        rfl
      · cases h
  | ok a =>
    constructor
    · intro h
      exact .inr ⟨a, rfl, h⟩
    · rintro (h | ⟨_, hEq, h⟩)
      · cases h
      · cases hEq
        exact h

theorem map_eq_error_iff {x : Except ε α} {f : α → β} {e : ε} :
    x.map f = .error e ↔ x = .error e := by
  cases x with
  | error e => simp [Except.map]
  | ok a => simp [Except.map]

/-- Where going through a list fails, a step fails. -/
theorem exists_of_mapM_eq_error {f : α → Except ε β} {xs : List α} {e : ε}
    (h : xs.mapM f = .error e) : ∃ x ∈ xs, f x = .error e := by
  induction xs with
  | nil => cases h
  | cons x xs ih =>
    rw [List.mapM_cons] at h
    obtain hHere | ⟨y, -, hRest⟩ := bind_eq_error_iff.1 h
    · exact ⟨x, List.mem_cons_self, hHere⟩
    · obtain hThere | ⟨ys, -, ⟨⟩⟩ := bind_eq_error_iff.1 hRest
      obtain ⟨x', hMem, hFails⟩ := ih hThere
      exact ⟨x', List.mem_cons_of_mem _ hMem, hFails⟩

theorem map_eq_ok_iff {x : Except ε α} {f : α → β} {b : β} :
    x.map f = .ok b ↔ ∃ a, x = .ok a ∧ f a = b := by
  cases x with
  | error e => simp [Except.map]
  | ok a => simp [Except.map]

theorem mapM_eq_ok_iff {f : α → Except ε β} {xs : List α} {ys : List β} :
    xs.mapM f = .ok ys ↔ List.Forall₂ (fun x y => f x = .ok y) xs ys := by
  induction xs generalizing ys with
  | nil =>
    rw [List.mapM_nil, List.forall₂_nil_left_iff]
    exact ⟨fun h => by cases h; rfl, fun h => by rw [h]; rfl⟩
  | cons x xs ih =>
    rw [List.mapM_cons, bind_eq_ok_iff, List.forall₂_cons_left_iff]
    constructor
    · rintro ⟨y, hy, hRest⟩
      obtain ⟨ys', hys, hEq⟩ := bind_eq_ok_iff.mp hRest
      cases hEq
      exact ⟨y, ys', hy, ih.mp hys, rfl⟩
    · rintro ⟨y, ys', hy, hys, rfl⟩
      exact ⟨y, hy, bind_eq_ok_iff.mpr ⟨ys', ih.mpr hys, rfl⟩⟩

theorem exists_of_forall₂ {R : α → β → Prop} {xs : List α} {ys : List β}
    (h : List.Forall₂ R xs ys) {y : β} (hMem : y ∈ ys) : ∃ x ∈ xs, R x y := by
  induction h with
  | nil => cases hMem
  | @cons x _ _ _ hHere _ ih =>
    obtain rfl | hMem := List.mem_cons.1 hMem
    · exact ⟨x, List.mem_cons_self, hHere⟩
    · obtain ⟨x', hMem', hThere⟩ := ih hMem
      exact ⟨x', List.mem_cons_of_mem x hMem', hThere⟩

theorem exists_pairs_of_forall₂ {R : α → β → Prop} {xs : List α} {ys : List β}
    (h : List.Forall₂ R xs ys) :
    ∃ pairs : List (α × β), pairs.map Prod.fst = xs ∧ pairs.map Prod.snd = ys ∧
      ∀ pair ∈ pairs, R pair.1 pair.2 := by
  obtain ⟨hLength, hPairs⟩ := List.forall₂_iff_zip.1 h
  exact ⟨xs.zip ys, List.map_fst_zip (Nat.le_of_eq hLength),
    List.map_snd_zip (Nat.le_of_eq hLength.symm), fun _ hMem => hPairs hMem⟩

/-- Each result of going through a list is that of a step. -/
theorem exists_of_mem_of_mapM_eq_ok {f : α → Except ε β} {xs : List α} {ys : List β}
    (h : xs.mapM f = .ok ys) {y : β} (hMem : y ∈ ys) : ∃ x ∈ xs, f x = .ok y :=
  exists_of_forall₂ (mapM_eq_ok_iff.1 h) hMem

/-- Where a step can only yield one result, so does going through a list. -/
theorem eq_map_of_mapM_eq_ok {f : α → Except ε β} {g : α → β}
    (h : ∀ x y, f x = .ok y → y = g x) {xs : List α} {ys : List β} (hs : xs.mapM f = .ok ys) :
    ys = xs.map g := by
  induction mapM_eq_ok_iff.1 hs with
  | nil => rfl
  | cons hHere _ ih => rw [List.map_cons, h _ _ hHere, ih (mapM_eq_ok_iff.2 ‹_›)]

theorem eq_map_of_option_mapM_eq_ok {f : α → Except ε β} {g : α → β}
    (h : ∀ x y, f x = .ok y → y = g x) {o : Option α} {r : Option β} (ho : o.mapM f = .ok r) :
    r = o.map g := by
  cases o with
  | none =>
    cases ho
    rfl
  | some x =>
    obtain ⟨y, hHere, rfl⟩ := map_eq_ok_iff.1 ho
    rw [h x y hHere, Option.map_some]

/-! ## Entries -/

section Entries

variable {Key Item : Type} [BEq Key] [LawfulBEq Key] {entries : List (Key × Item)}

theorem mem_of_lookup {key : Key} {item : Item} (h : entries.lookup key = some item) :
    (key, item) ∈ entries := by
  obtain ⟨l₁, l₂, rfl, -⟩ := List.lookup_eq_some_iff.1 h
  exact List.mem_append_right _ List.mem_cons_self

theorem lookup_of_mem (hDistinct : (entries.map Prod.fst).Nodup) {entry : Key × Item}
    (hMem : entry ∈ entries) : entries.lookup entry.1 = some entry.2 := by
  induction entries with
  | nil => cases hMem
  | cons first entries ih =>
    obtain ⟨hFirst, hRest⟩ := List.nodup_cons.mp hDistinct
    rcases List.mem_cons.mp hMem with rfl | hMem
    · rw [List.lookup_cons, beq_self_eq_true]
    · have hNe : (entry.1 == first.1) = false := by
        rw [beq_eq_false_iff_ne]
        rintro hEq
        exact hFirst (hEq ▸ List.mem_map_of_mem hMem)
      rw [List.lookup_cons, hNe]
      exact ih hRest hMem

end Entries

/-! ## Failures -/

/-- What a step fails with, if it fails. -/
def failure? : Except ε α → Option ε
  | .ok _ => none
  | .error e => some e

theorem failure?_eq_some_iff {x : Except ε α} {e : ε} : failure? x = some e ↔ x = .error e := by
  cases x with
  | error e' => simp [failure?]
  | ok a => simp [failure?]

theorem failure?_eq_none_iff {x : Except ε α} : failure? x = none ↔ ∃ a, x = .ok a := by
  cases x with
  | error e => simp [failure?]
  | ok a => simp [failure?]

theorem failure?_bind {x : Except ε α} {f : α → Except ε β} (rest : Option ε)
    (h : ∀ a, failure? (f a) = rest) : failure? (x >>= f) = (failure? x).or rest := by
  cases x with
  | error e => rfl
  | ok a => exact h a

theorem failure?_bind_of_none {x : Except ε α} {f : α → Except ε β}
    (h : ∀ a, failure? (f a) = none) : failure? (x >>= f) = failure? x := by
  rw [failure?_bind none h, Option.or_none]

end Interpose.Sequence

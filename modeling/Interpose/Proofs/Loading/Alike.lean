import Interpose.Proofs.Loading.Deed

/-! # Workspaces that are alike

A class that is made gets the next number, and so its number depends on how many were made before.
Changes under different names can be made in either order otherwise: the two orders hold different
class objects with the same methods, and nothing else differs.
-/
namespace Interpose

set_option autoImplicit false

/-- What a decorated class is made of, whichever number it has. -/
def DecoratedClass.definition (c : DecoratedClass) : ClassRef × List DecoratedMethod :=
  (c.target, c.methods)

theorem optionRel_refl {α : Type} {R : α → α → Prop} (hRefl : ∀ a, R a a) (x : Option α) :
    Option.Rel R x x := by
  cases x with
  | none => exact .none
  | some a => exact .some (hRefl a)

theorem optionRel_swap {α β : Type} {R : α → β → Prop} {S : β → α → Prop}
    (h : ∀ a b, R a b → S b a) {x : Option α} {y : Option β} :
    Option.Rel R x y → Option.Rel S y x
  | .none => .none
  | .some hR => .some (h _ _ hR)

namespace Workspace

/-- Two values are the same, or classes of which one is the other one with another number. -/
def SameValue (R : ClassRef → ClassRef → Prop) (v w : Value) : Prop :=
  v = w ∨ ∃ c d, v = .cls c ∧ w = .cls d ∧ R c d

def SameBindings (R : ClassRef → ClassRef → Prop) :
    List (String × Value) → List (String × Value) → Prop :=
  List.Forall₂ fun b b' => b.1 = b'.1 ∧ SameValue R b.2 b'.2

/-- A relation gives new classes other new numbers, one for each, and leaves them as they are
otherwise. -/
structure Renumbers (R : ClassRef → ClassRef → Prop) (old : Nat) (p q : Workspace) : Prop where
  unique : ∀ {c d d'}, R c d → R c d' → d = d'
  unique' : ∀ {c c' d}, R c d → R c' d → c = c'
  isNew : ∀ {c d}, R c d → old < c.serial ∧ old < d.serial
  serial : ∀ {c d}, R c d → d = { c with serial := d.serial }
  definition : ∀ {c d}, R c d →
    (p.class? c).map DecoratedClass.definition = (q.class? d).map DecoratedClass.definition

/-- Two workspaces that cannot be told apart but for the numbers of the new classes. -/
structure Alike (R : ClassRef → ClassRef → Prop) (old : Nat) (p q : Workspace) : Prop where
  renumbers : Renumbers R old p q
  stored : ∀ place, p.storage.item? place = q.storage.item? place
  device : p.device = q.device
  registered : ∀ id name, Option.Rel (SameValue R) (p.registered? id name) (q.registered? id name)
  modules : ∀ name,
    Option.Rel (SameBindings R) (p.modules.lookup name) (q.modules.lookup name)
  next : p.next = q.next

variable {p q : Workspace} {id id' name name' : String} {change : Change} {old : Nat}
  {R S : ClassRef → ClassRef → Prop}

theorem SameValue.swap (hR : ∀ c d, R c d → S d c) {v w : Value} (h : SameValue R v w) :
    SameValue S w v := by
  obtain rfl | ⟨c, d, rfl, rfl, hSame⟩ := h
  · exact .inl rfl
  · exact .inr ⟨d, c, rfl, rfl, hR c d hSame⟩

theorem SameBindings.swap (hR : ∀ c d, R c d → S d c) {bs bs' : List (String × Value)}
    (h : SameBindings R bs bs') : SameBindings S bs' bs :=
  (h.imp fun _ _ hSame => ⟨hSame.1.symm, hSame.2.swap hR⟩).flip

theorem sameBindings_refl (R : ClassRef → ClassRef → Prop) (bindings : List (String × Value)) :
    SameBindings R bindings bindings :=
  List.forall₂_same.mpr fun _ _ => ⟨rfl, .inl rfl⟩

theorem Alike.withStorage (h : Alike R old p q) {s t : Storage FileContent}
    (hStored : ∀ place, s.item? place = t.item? place) :
    Alike R old { p with storage := s } { q with storage := t } where
  renumbers := {
    unique := h.renumbers.unique
    unique' := h.renumbers.unique'
    isNew := h.renumbers.isNew
    serial := h.renumbers.serial
    definition := h.renumbers.definition }
  stored := hStored
  device := h.device
  registered := h.registered
  modules := h.modules
  next := h.next

/-! ## Changes under one name -/

def Change.classes (name : String) (next : Nat) : Change → List DecoratedClass
  | .ran running => running.classes name next
  | .nothing | .adopted _ | .vacated => []

def Change.count : Change → Nat
  | .ran running => running.count
  | .nothing | .adopted _ | .vacated => 0

theorem changed_ran (p : Workspace) (id name : String) (running : Running) :
    ∃ registries, p.changed id name (.ran running) = { p with
      modules := (name, running.bindings name p.next) :: p.modules
      classes := p.classes ++ running.classes name p.next
      next := p.next + running.count
      registries } := by
  rw [changed]
  cases (running.bindings name p.next).lookup (lastPart name) with
  | none => exact ⟨_, rfl⟩
  | some v => exact ⟨_, rfl⟩

theorem classes_changed (p : Workspace) (id name : String) (change : Change) :
    (p.changed id name change).classes = p.classes ++ change.classes name p.next := by
  cases change with
  | nothing | adopted | vacated => exact (List.append_nil _).symm
  | ran running =>
    obtain ⟨_, hRan⟩ := p.changed_ran id name running
    rw [hRan]
    rfl

theorem next_changed (p : Workspace) (id name : String) (change : Change) :
    (p.changed id name change).next = p.next + change.count := by
  cases change with
  | nothing | adopted | vacated => rfl
  | ran running =>
    obtain ⟨_, hRan⟩ := p.changed_ran id name running
    rw [hRan]
    rfl

theorem storage_changed (p : Workspace) (id name : String) (change : Change) :
    (p.changed id name change).storage = p.storage := by
  cases change with
  | nothing | adopted | vacated => rfl
  | ran running =>
    obtain ⟨_, hRan⟩ := p.changed_ran id name running
    rw [hRan]

theorem device_changed (p : Workspace) (id name : String) (change : Change) :
    (p.changed id name change).device = p.device := by
  cases change with
  | nothing | adopted | vacated => rfl
  | ran running =>
    obtain ⟨_, hRan⟩ := p.changed_ran id name running
    rw [hRan]

theorem changed_withStorage (p : Workspace) (id name : String) (change : Change)
    (s : Storage FileContent) :
    ({ p with storage := s } : Workspace).changed id name change
      = { p.changed id name change with storage := s } := by
  cases change with
  | nothing | adopted | vacated => rfl
  | ran running =>
    rw [changed, changed]
    cases (running.bindings name p.next).lookup (lastPart name) with
    | none => rfl
    | some v => rfl

theorem registered?_changed_of_ne (h : id' ≠ id ∨ name' ≠ name) :
    (p.changed id name change).registered? id' name' = p.registered? id' name' := by
  cases change with
  | nothing | vacated => rfl
  | adopted c => exact registered?_enter_of_ne h
  | ran running =>
    rw [changed]
    cases (running.bindings name p.next).lookup (lastPart name) with
    | none => rfl
    | some v => exact registered?_enter_of_ne h

theorem lookup_changed_of_ne (h : name' ≠ name) :
    (p.changed id name change).modules.lookup name' = p.modules.lookup name' := by
  have hOther : (name' == name) = false := beq_eq_false_iff_ne.mpr h
  cases change with
  | nothing | adopted => rfl
  | vacated => exact Entries.lookup_erase_of_ne h p.modules
  | ran running =>
    obtain ⟨_, hRan⟩ := p.changed_ran id name running
    rw [hRan]
    dsimp only
    rw [List.lookup_cons, hOther]

theorem known_changed_of_ne (h : name' ≠ name) :
    (p.changed id name change).known id name' = p.known id name' := by
  rw [known, known, registered?_changed_of_ne (.inr h), lookup_changed_of_ne h]

theorem lookup_changed_self (p : Workspace) (id name : String) (change : Change) :
    (p.changed id name change).modules.lookup name = match change with
      | .vacated => none
      | .ran running => some (running.bindings name p.next)
      | .nothing | .adopted _ => p.modules.lookup name := by
  cases change with
  | nothing | adopted => rfl
  | vacated => exact Entries.lookup_erase_self name p.modules
  | ran running =>
    obtain ⟨_, hRan⟩ := p.changed_ran id name running
    rw [hRan]
    exact List.lookup_cons_self

theorem registered?_changed_self (p : Workspace) (id name : String) (change : Change) :
    (p.changed id name change).registered? id name = match change with
      | .adopted c => some ((p.registered? id name).getD (.cls c))
      | .ran running =>
        (((running.bindings name p.next).lookup (lastPart name)).map
          (p.registered? id name).getD).or (p.registered? id name)
      | .nothing | .vacated => p.registered? id name := by
  cases change with
  | nothing | vacated => rfl
  | adopted c => exact registered?_enter_self p id name (.cls c)
  | ran running =>
    rw [changed]
    dsimp only
    cases (running.bindings name p.next).lookup (lastPart name) with
    | none => rfl
    | some v => exact registered?_enter_self _ id name v

/-! ## Two changes -/

/-- The classes that have been made have numbers up to the last one that was given. -/
def IsNumbered (p : Workspace) : Prop :=
  ∀ made ∈ p.classes, made.ref.serial ≤ p.next

variable {change' : Change} {qualname : String}

theorem find?_of_isNumbered (hNumbered : p.IsNumbered) {c : ClassRef} (h : p.next < c.serial) :
    (p.classes.find? fun made => made.ref == c) = none := by
  rw [List.find?_eq_none]
  intro made hMade hSame
  have hSerial := hNumbered made hMade
  rw [eq_of_beq hSame] at hSerial
  exact absurd hSerial (Nat.not_le_of_lt h)

theorem find?_classes_of_ne {c : ClassRef} (h : c.module ≠ name) (next : Nat) (change : Change) :
    ((change.classes name next).find? fun made => made.ref == c) = none := by
  rw [List.find?_eq_none]
  intro made hMade hSame
  cases change with
  | nothing | adopted | vacated => cases hMade
  | ran running =>
    obtain ⟨⟨_, _, _⟩, -, rfl⟩ := List.mem_map.mp hMade
    exact h (congrArg ClassRef.module (eq_of_beq hSame)).symm

/-- The class that a change makes is found under its own number, whichever number comes next. -/
theorem definition_find?_classes (change : Change) (name qualname : String) (next next' k : Nat) :
    ((change.classes name next).find?
        fun made => made.ref == ⟨name, qualname, next + 1 + k, false⟩).map DecoratedClass.definition
      = ((change.classes name next').find?
        fun made => made.ref == ⟨name, qualname, next' + 1 + k, false⟩).map
          DecoratedClass.definition := by
  cases change with
  | nothing | adopted | vacated => rfl
  | ran running =>
    rw [Change.classes, Change.classes, Running.classes, Running.classes]
    cases running.decorated with
    | none => rfl
    | some decorated =>
      by_cases h : decorated.1 = qualname ∧ k = 0 <;> simp [h, DecoratedClass.definition]

theorem class?_second (hNumbered : p.IsNumbered) (hNames : name' ≠ name) (k : Nat) :
    ((p.changed id name change).changed id name' change').class?
        ⟨name', qualname, p.next + change.count + 1 + k, false⟩
      = (change'.classes name' (p.next + change.count)).find?
        fun made => made.ref == ⟨name', qualname, p.next + change.count + 1 + k, false⟩ := by
  rw [class?, classes_changed, classes_changed, next_changed, List.find?_append,
    List.find?_append, find?_of_isNumbered hNumbered (by dsimp only; omega),
    find?_classes_of_ne hNames, Option.none_or, Option.none_or]

theorem class?_first (hNumbered : p.IsNumbered) (hNames : name ≠ name') (k : Nat) :
    ((p.changed id name change).changed id name' change').class?
        ⟨name, qualname, p.next + 1 + k, false⟩
      = (change.classes name p.next).find?
        fun made => made.ref == ⟨name, qualname, p.next + 1 + k, false⟩ := by
  have hOther := find?_classes_of_ne (c := ⟨name, qualname, p.next + 1 + k, false⟩) hNames
    (p.next + change.count) change'
  rw [class?, classes_changed, classes_changed, next_changed, List.find?_append,
    List.find?_append, find?_of_isNumbered hNumbered (by dsimp only; omega), hOther,
    Option.none_or, Option.or_none]

theorem forall₂_bindings {R : Value → Value → Prop} (running : Running) {next next' : Nat}
    (hR : ∀ k b, R (boundValue name (next + 1 + k) b) (boundValue name (next' + 1 + k) b)) :
    List.Forall₂ (fun b b' => b.1 = b'.1 ∧ R b.2 b'.2) (running.bindings name next)
      (running.bindings name next') := by
  refine List.forall₂_of_length_eq_of_get ?_ fun i _ _ => ?_
  · simp only [Running.bindings, List.length_mapIdx]
  · simp only [Running.bindings, List.get_eq_getElem, List.getElem_mapIdx]
    exact ⟨trivial, hR _ _⟩

theorem rel_lookup {R : Value → Value → Prop} {xs ys : List (String × Value)}
    (h : List.Forall₂ (fun b b' => b.1 = b'.1 ∧ R b.2 b'.2) xs ys) (key : String) :
    Option.Rel R (xs.lookup key) (ys.lookup key) := by
  induction h with
  | nil => exact .none
  | @cons x y _ _ hHead _ ih =>
    rw [List.lookup_cons, List.lookup_cons, hHead.1]
    cases key == y.1 with
    | true => exact .some hHead.2
    | false => exact ih

/-- How the numbers of the classes of two modules change with the order in which the modules run. -/
def Reordered (next count count' : Nat) (name name' : String) (c d : ClassRef) : Prop :=
  ∃ qualname k,
    c = ⟨name, qualname, next + 1 + k, false⟩ ∧
        d = ⟨name, qualname, next + count' + 1 + k, false⟩ ∨
      c = ⟨name', qualname, next + count + 1 + k, false⟩ ∧
        d = ⟨name', qualname, next + 1 + k, false⟩

theorem Reordered.swap {next count count' : Nat} {c d : ClassRef}
    (h : Reordered next count count' name name' c d) :
    Reordered next count' count name' name d c := by
  obtain ⟨qualname, k, ⟨rfl, rfl⟩ | ⟨rfl, rfl⟩⟩ := h
  · exact ⟨qualname, k, .inr ⟨rfl, rfl⟩⟩
  · exact ⟨qualname, k, .inl ⟨rfl, rfl⟩⟩

theorem Reordered.unique {next count count' : Nat} (hNames : name' ≠ name) {c d d' : ClassRef}
    (h : Reordered next count count' name name' c d)
    (h' : Reordered next count count' name name' c d') : d = d' := by
  obtain ⟨qualname, k, ⟨rfl, rfl⟩ | ⟨rfl, rfl⟩⟩ := h
  · obtain ⟨qualname', k', ⟨hSame, rfl⟩ | ⟨hSame, rfl⟩⟩ := h'
    · injection hSame with _ hQualname hSerial
      obtain rfl : k = k' := by omega
      rw [hQualname]
    · exact absurd (congrArg ClassRef.module hSame).symm hNames
  · obtain ⟨qualname', k', ⟨hSame, rfl⟩ | ⟨hSame, rfl⟩⟩ := h'
    · exact absurd (congrArg ClassRef.module hSame) hNames
    · injection hSame with _ hQualname hSerial
      obtain rfl : k = k' := by omega
      rw [hQualname]

theorem renumbers_reordered (hNumbered : p.IsNumbered) (hNames : name' ≠ name) :
    Renumbers (Reordered p.next change.count change'.count name name') p.next
      ((p.changed id name change).changed id name' change')
      ((p.changed id name' change').changed id name change) where
  unique h h' := h.unique hNames h'
  unique' h h' := h.swap.unique hNames.symm h'.swap
  isNew := by
    rintro _ _ ⟨qualname, k, ⟨rfl, rfl⟩ | ⟨rfl, rfl⟩⟩
    all_goals
      dsimp only
      omega
  serial := by
    rintro _ _ ⟨qualname, k, ⟨rfl, rfl⟩ | ⟨rfl, rfl⟩⟩ <;> rfl
  definition := by
    rintro _ _ ⟨qualname, k, ⟨rfl, rfl⟩ | ⟨rfl, rfl⟩⟩
    · rw [class?_first hNumbered hNames.symm, class?_second hNumbered hNames.symm,
        definition_find?_classes]
    · rw [class?_second hNumbered hNames, class?_first hNumbered hNames, definition_find?_classes]

section Second

variable (p) (id) (change) (change')

/-- What a module binds is alike, whether it runs before or after the other one. -/
theorem sameBindings_bindings (name name' : String) (running : Running) (count' : Nat) :
    SameBindings (Reordered p.next change.count count' name name')
      (running.bindings name' (p.next + change.count)) (running.bindings name' p.next) := by
  refine forall₂_bindings running fun k b => ?_
  cases b with
  | value v => exact .inl rfl
  | newClass qualname => exact .inr ⟨_, _, rfl, rfl, qualname, k, .inr ⟨rfl, rfl⟩⟩

theorem modules_second (hNames : name' ≠ name) :
    Option.Rel (SameBindings (Reordered p.next change.count change'.count name name'))
      (((p.changed id name change).changed id name' change').modules.lookup name')
      (((p.changed id name' change').changed id name change).modules.lookup name') := by
  rw [lookup_changed_of_ne hNames, lookup_changed_self, lookup_changed_self, next_changed,
    lookup_changed_of_ne hNames]
  cases change' with
  | nothing | adopted => exact optionRel_refl (sameBindings_refl _) _
  | vacated => exact .none
  | ran running => exact .some (sameBindings_bindings p change name name' running _)

theorem registered_second (hNames : name' ≠ name) :
    Option.Rel (SameValue (Reordered p.next change.count change'.count name name'))
      (((p.changed id name change).changed id name' change').registered? id name')
      (((p.changed id name' change').changed id name change).registered? id name') := by
  rw [registered?_changed_of_ne (.inr hNames), registered?_changed_self, registered?_changed_self,
    next_changed, registered?_changed_of_ne (.inr hNames)]
  cases change' with
  | nothing | vacated | adopted => exact optionRel_refl (fun _ => .inl rfl) _
  | ran running =>
    dsimp only
    have hBound := rel_lookup (sameBindings_bindings p change name name' running running.count)
      (lastPart name')
    generalize (running.bindings name' (p.next + change.count)).lookup (lastPart name') = x,
      (running.bindings name' p.next).lookup (lastPart name') = y at hBound ⊢
    cases hBound with
    | none => exact optionRel_refl (fun _ => .inl rfl) _
    | some hSame =>
      cases p.registered? id name' with
      | none => exact .some hSame
      | some v => exact .some (.inl rfl)

end Second

/-- Changes under different names can be made in either order. -/
theorem changed_comm (hNumbered : p.IsNumbered) (hNames : name' ≠ name) :
    Alike (Reordered p.next change.count change'.count name name') p.next
      ((p.changed id name change).changed id name' change')
      ((p.changed id name' change').changed id name change) where
  renumbers := renumbers_reordered hNumbered hNames
  stored place := by rw [storage_changed, storage_changed, storage_changed, storage_changed]
  device := by rw [device_changed, device_changed, device_changed, device_changed]
  registered id₁ name₁ := by
    by_cases hSecond : id₁ = id ∧ name₁ = name'
    · obtain ⟨rfl, rfl⟩ := hSecond
      exact registered_second p _ change change' hNames
    by_cases hFirst : id₁ = id ∧ name₁ = name
    · obtain ⟨rfl, rfl⟩ := hFirst
      exact optionRel_swap (fun _ _ => SameValue.swap fun _ _ => Reordered.swap)
        (registered_second p _ change' change hNames.symm)
    rw [Classical.not_and_iff_not_or_not] at hSecond hFirst
    rw [registered?_changed_of_ne hSecond, registered?_changed_of_ne hFirst,
      registered?_changed_of_ne hFirst, registered?_changed_of_ne hSecond]
    exact optionRel_refl (fun _ => .inl rfl) _
  modules name₁ := by
    by_cases hSecond : name₁ = name'
    · subst hSecond
      exact modules_second p id change change' hNames
    by_cases hFirst : name₁ = name
    · subst hFirst
      exact optionRel_swap (fun _ _ => SameBindings.swap fun _ _ => Reordered.swap)
        (modules_second p id change' change hNames.symm)
    rw [lookup_changed_of_ne hSecond, lookup_changed_of_ne hFirst, lookup_changed_of_ne hFirst,
      lookup_changed_of_ne hSecond]
    exact optionRel_refl (sameBindings_refl _) _
  next := by rw [next_changed, next_changed, next_changed, next_changed, Nat.add_right_comm]

end Workspace
end Interpose

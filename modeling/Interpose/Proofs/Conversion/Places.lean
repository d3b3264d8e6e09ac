import Interpose.Conversion
import Interpose.Proofs.Sequence

/-! # What is found has a place

Whatever a dotted name leads to either has no text that a conversion would read, or is stored at one
of the places of the world; and at each place only one object is stored. Both hold of what an object
knows about itself, of what a module binds, of what a class has and of what is made when it is read,
and so of whatever these lead to.
-/
namespace Interpose

set_option autoImplicit false

namespace World

def IsPlaced (world : World) (found : Found) : Prop :=
  found.object.textSize ≠ 0 → ∃ place ∈ world.places, found.place = some place

/-- The object that is stored at a place. -/
def at? (world : World) : Place → Option Object
  | .binding module name => (world.module? module).bind fun m => m.bindings.lookup name
  | .member owner name => ((world.attributes owner).lookup name).map (attributeObject owner name)
  | .text s => some (.value (.str s))

def IsStored (world : World) (found : Found) : Prop :=
  ∀ {place : Place}, found.place = some place → world.at? place = some found.object

/-- Whether something holds of all that is found directly. What is made when it is read has neither
a text nor a place. -/
structure IsKept (world : World) (P : Found → Prop) : Prop where
  own : ∀ {object : Object} {name : String} {found : Found},
    world.own? object name = some found → P found
  bound : ∀ {module name : String} {found : Found},
    world.moduleAttribute? module name = some found → P found
  member : ∀ {c : ClassRef} {name : String} {found : Found},
    world.memberOf? c name = some found → P found
  made : ∀ {object : Object}, object.textSize = 0 → P ⟨object, none⟩

variable {world : World} {found : Found} {P : Found → Prop}

theorem or_cases {α : Type} {a b : Option α} {x : α} (h : a.or b = some x) :
    a = some x ∨ b = some x := by
  cases a with
  | none => exact .inr h
  | some _ => exact .inl h

/-! ## Behind dotted names -/

theorem IsKept.inherited (hKept : world.IsKept P) {object : Object} {name : String}
    (h : world.inherited? object name = some found) : P found := by
  obtain ⟨member, hMember, rfl⟩ := Option.map_eq_some_iff.1 h
  rw [boundTo]
  split
  · exact hKept.made rfl
  · exact hKept.member hMember

theorem IsKept.classStored (hKept : world.IsKept P) {c : ClassRef} {name : String}
    (h : world.classStored? c name = some found) : P found := by
  rcases or_cases h with h | h
  · rcases or_cases h with h | h
    · exact hKept.own h
    · exact hKept.member h
  · split at h
    · cases h
      exact hKept.made rfl
    · obtain ⟨_, -, rfl⟩ := Option.map_eq_some_iff.1 h
      exact hKept.made rfl

/-- What an object knows about itself, and otherwise inherits. -/
theorem IsKept.ownOrInherited (hKept : world.IsKept P) {object : Object} {name : String}
    (h : (world.own? object name).or (world.inherited? object name) = some found) : P found := by
  rcases or_cases h with h | h
  · exact hKept.own h
  · exact hKept.inherited h

theorem IsKept.stored (hKept : world.IsKept P) (object : Object) {name : String}
    (h : world.stored? object name = some found) : P found := by
  cases object with
  | module m =>
    rcases or_cases h with h | h
    · rcases or_cases h with h | h
      · exact hKept.bound h
      · exact hKept.own h
    · exact hKept.inherited h
  | «alias» form origin =>
    rcases or_cases h with h | h
    · exact hKept.ownOrInherited h
    · split at h
      · cases h
      · exact hKept.classStored h
  | generic typed origin arguments =>
    rw [stored?.eq_def] at h
    dsimp only at h
    split at h
    · rcases or_cases h with h | h
      · exact hKept.ownOrInherited h
      · split at h
        · cases h
        · split at h
          · exact hKept.classStored h
          · exact hKept.classStored h
          · cases h
    · rcases or_cases h with h | h
      · exact hKept.own h
      · split at h
        · exact hKept.classStored h
        · exact hKept.classStored h
        · cases h
  | annotated base notes =>
    rw [stored?] at h
    rcases or_cases h with h | h
    · exact hKept.ownOrInherited h
    · split at h
      · cases h
      · exact IsKept.stored hKept base h
  | value v =>
    cases v with
    | cls c => exact hKept.classStored h
    | _ => exact hKept.ownOrInherited h
  | _ => exact hKept.ownOrInherited h
termination_by sizeOf object

theorem IsKept.follow (hKept : world.IsKept P) {first : Found} (names : List String)
    (hFirst : P first) (h : world.follow first names = some found) : P found := by
  induction names generalizing first with
  | nil =>
    cases h
    exact hFirst
  | cons name names ih =>
    rw [World.follow] at h
    split at h
    next next hRead =>
      exact ih (hKept.stored first.object (Option.eq_some_of_filter_eq_some hRead)) h
    next => cases h

theorem IsKept.name (hKept : world.IsKept P) {module name : String}
    (h : world.nameIn? module name = some found) : P found := by
  have hStored := Option.eq_some_of_filter_eq_some h
  rcases or_cases hStored with h | h
  · rcases or_cases h with h | h
    · exact hKept.bound h
    · split at h
      · cases h
      · exact hKept.own h
  · exact hKept.stored _ h

/-- What holds of all that is found directly holds of what a dotted name leads to. -/
theorem IsKept.find (hKept : world.IsKept P) {module dotted : String}
    (h : (world.namespaceOf module).find dotted = some found) : P found := by
  have hDotted : world.dottedIn? module dotted = some found := h
  rw [dottedIn?] at hDotted
  split at hDotted
  · cases hDotted
  · obtain ⟨first, hFirst, hFollow⟩ := Option.bind_eq_some_iff.1 hDotted
    exact hKept.follow _ (hKept.name hFirst) hFollow

/-! ## Places of texts -/

theorem isPlaced_of_textless {object : Object} {place : Option Place} (h : object.textSize = 0) :
    world.IsPlaced ⟨object, place⟩ :=
  fun hText => absurd h hText

theorem isPlaced_own {object : Object} {name : String}
    (h : world.own? object name = some found) : world.IsPlaced found := by
  rw [own?] at h
  split at h
  next s _ =>
    split at h
    next hMem =>
      cases h
      refine fun _ => ⟨.text s, ?_, rfl⟩
      exact List.mem_append_right _ (List.mem_map_of_mem (List.contains_iff_mem.1 hMem))
    next => cases h
  next =>
    split at h
    next hNone =>
      cases h
      exact isPlaced_of_textless hNone
    next => cases h
  next => cases h

theorem isPlaced_moduleAttribute {module name : String}
    (h : world.moduleAttribute? module name = some found) : world.IsPlaced found := by
  rw [moduleAttribute?] at h
  split at h
  next object hBound =>
    cases h
    obtain ⟨m, hModule, hLookup⟩ := Option.bind_eq_some_iff.1 hBound
    refine fun _ => ⟨.binding module name, ?_, rfl⟩
    rw [module?] at hModule
    have hName : m.name = module := by simpa using List.find?_some hModule
    refine List.mem_append_left _ (List.mem_append_left _ (List.mem_flatMap.2 ⟨m, ?_, ?_⟩))
    · exact List.mem_of_find?_eq_some hModule
    · exact List.mem_map.2 ⟨(name, object), Sequence.mem_of_lookup hLookup, by rw [hName]⟩
  next =>
    obtain ⟨_, -, rfl⟩ := Option.map_eq_some_iff.1 h
    exact isPlaced_of_textless rfl

theorem textSize_ownMember {owner name : String} {object : Object}
    (h : Library.ownMember? owner name = some object) : object.textSize = 0 := by
  obtain ⟨members, -, hFind⟩ := Option.bind_eq_some_iff.1 h
  unfold Library.OwnMembers.find? at hFind
  dsimp only at hFind
  repeat' split at hFind
  all_goals first | contradiction | (cases hFind; rfl)

theorem isPlaced_member {c : ClassRef} {name : String}
    (h : world.memberOf? c name = some found) : world.IsPlaced found := by
  obtain ⟨k, -, hFound⟩ := List.exists_of_findSome?_eq_some h
  split at hFound
  next item hLookup =>
    cases hFound
    refine fun _ => ⟨.member k name, ?_, rfl⟩
    rw [attributes] at hLookup
    split at hLookup
    next info hInfo =>
      rw [classInfo?] at hInfo
      have hRef : info.ref = k := by simpa using List.find?_some hInfo
      refine List.mem_append_left _ (List.mem_append_right _ (List.mem_flatMap.2 ⟨info, ?_, ?_⟩))
      · exact List.mem_of_find?_eq_some hInfo
      · exact List.mem_map.2 ⟨(name, item), Sequence.mem_of_lookup hLookup, by rw [hRef]⟩
    next => cases hLookup
  next =>
    obtain ⟨object, hMember, rfl⟩ := Option.map_eq_some_iff.1 hFound
    exact isPlaced_of_textless (textSize_ownMember hMember)

theorem isKept_isPlaced (world : World) : world.IsKept world.IsPlaced where
  own := isPlaced_own
  bound := isPlaced_moduleAttribute
  member := isPlaced_member
  made := isPlaced_of_textless

/-- What a name means in a namespace has a place if it has a text. -/
theorem isPlaced_find {module dotted : String}
    (h : (world.namespaceOf module).find dotted = some found) : world.IsPlaced found :=
  (isKept_isPlaced world).find h

/-! ## Objects at places -/

theorem isStored_own {object : Object} {name : String}
    (h : world.own? object name = some found) : world.IsStored found := by
  rw [own?] at h
  split at h
  next =>
    split at h
    next =>
      cases h
      rintro place ⟨⟩
      rfl
    next => cases h
  next =>
    split at h
    next =>
      cases h
      rintro place ⟨⟩
    next => cases h
  next => cases h

theorem isStored_moduleAttribute {module name : String}
    (h : world.moduleAttribute? module name = some found) : world.IsStored found := by
  rw [moduleAttribute?] at h
  split at h
  next object hBound =>
    cases h
    rintro place ⟨⟩
    exact hBound
  next =>
    obtain ⟨_, -, rfl⟩ := Option.map_eq_some_iff.1 h
    rintro place ⟨⟩

theorem isStored_member {c : ClassRef} {name : String}
    (h : world.memberOf? c name = some found) : world.IsStored found := by
  obtain ⟨k, -, hFound⟩ := List.exists_of_findSome?_eq_some h
  split at hFound
  next item hLookup =>
    cases hFound
    rintro place ⟨⟩
    rw [at?, hLookup, Option.map_some]
  next =>
    obtain ⟨_, -, rfl⟩ := Option.map_eq_some_iff.1 hFound
    rintro place ⟨⟩

theorem isKept_isStored (world : World) : world.IsKept world.IsStored where
  own := isStored_own
  bound := isStored_moduleAttribute
  member := isStored_member
  made := by
    rintro object - place ⟨⟩

/-- What two names lead to at one place is one object. -/
theorem object_unique {module dotted other : String} {found' : Found} {place : Place}
    (h : (world.namespaceOf module).find dotted = some found)
    (h' : (world.namespaceOf module).find other = some found')
    (hPlace : found.place = some place) (hPlace' : found'.place = some place) :
    found.object = found'.object :=
  Option.some.inj (((isKept_isStored world).find h hPlace).symm.trans
    ((isKept_isStored world).find h' hPlace'))

end World
end Interpose

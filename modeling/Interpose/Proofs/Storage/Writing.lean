import Interpose.Proofs.Sequence
import Interpose.Proofs.Stateful
import Interpose.Storage.Writing
import Mathlib.Algebra.Order.BigOperators.Group.List
import Mathlib.Algebra.Order.Ring.Nat

/-! # What writing a file leaves

Whether it succeeds or fails, and whichever step fails, writing a file leaves a storage that differs
from the one before by new directories above the file and, if it succeeds, by the file itself with
its whole content. Nothing is left beside the file, unless a step fails and the removal of the file
beside fails as well; then this one file stays. What has been written can be read back.
-/
namespace Interpose

set_option autoImplicit false

open Stateful

/-- The places that parts lead through from a place, the last one included. -/
def Storage.placesAlong (place : List String) : List String → List (List String)
  | [] => []
  | part :: parts => step place part :: placesAlong (step place part) parts

namespace StorePath

def place (p : StorePath) : List String :=
  p.parts.foldl Storage.step []

def ancestors (p : StorePath) : List (List String) :=
  Storage.placesAlong [] p.parent.parts

end StorePath

namespace Storage

variable {Content : Type} {s s' : Storage Content} {path : StorePath} {content : Content}
  {place d : List String} {parts : List String}

def withDirectories (s : Storage Content) (made : List (List String)) : Storage Content :=
  ⟨s.entries ++ made.map fun d => (d, .directory)⟩

/-- Places at which directories above a path can be new. -/
structure AreNew (s : Storage Content) (path : StorePath) (made : List (List String)) : Prop where
  nodup : made.Nodup
  above : ∀ d ∈ made, d ∈ path.ancestors
  absent : ∀ d ∈ made, s.item? d = none

/-- Where a file is written before it is moved to where a path leads. -/
def besidePlace (s : Storage Content) (path : StorePath) : List String :=
  path.parent.place ++ [s.nameBeside path.name]

/-- The storages that writing a file can leave, with what comes of it: the one before with new
directories above the file, and with its whole content in place if it is written; if it is not, with
nothing more, or with the file beside, if that cannot be removed. -/
inductive Leaves (s : Storage Content) (device : Device Content) (path : StorePath)
    (content : Content) : Except Failure Unit → Storage Content → Prop where
  | directories {made : List (List String)} (hMade : s.AreNew path made) (failure : Failure) :
    Leaves s device path content (.error failure) (s.withDirectories made)
  | file {made : List (List String)} (hMade : s.AreNew path made) :
    Leaves s device path content (.ok ())
      ((s.withDirectories made).put path.place (.file content))
  | beside {made : List (List String)} {failure : Failure} {reached : Content}
    (hMade : s.AreNew path made) (hStays : device.allow .cleanUp = .error failure)
    (hReached : reached = device.incomplete ∨ reached = content) :
    Leaves s device path content (.error failure)
      ((s.withDirectories made).put ((s.withDirectories made).besidePlace path) (.file reached))

/-! ## Items -/

theorem withDirectories_nil (s : Storage Content) : s.withDirectories [] = s := by
  rw [withDirectories, List.map_nil, List.append_nil]

theorem withDirectories_cons (s : Storage Content) (d : List String) (made : List (List String)) :
    (s.withDirectories [d]).withDirectories made = s.withDirectories (d :: made) := by
  simp [withDirectories]

theorem item?_withDirectories (s : Storage Content) (made : List (List String)) :
    (s.withDirectories made).item? d
      = (s.item? d).or (if d ∈ made then some .directory else none) := by
  rw [item?, item?, withDirectories]
  split
  · rfl
  · have hMade : (made.map fun d => (d, (.directory : StoredItem Content))).lookup d
        = if d ∈ made then some .directory else none := by
      induction made with
      | nil => rfl
      | cons first made ih =>
        rw [List.map_cons, List.lookup_cons]
        by_cases hFirst : d = first
        · simp [hFirst]
        · have hOther : (d == first) = false := by simp [hFirst]
          simp [hFirst, hOther, ih]
    rw [List.lookup_append, hMade]

theorem item?_beside (s : Storage Content) (directory : List String) (name : String) :
    s.item? (directory ++ [s.nameBeside name]) = none := by
  rw [item?, if_neg (by simp), List.lookup_eq_none_iff]
  intro entry hEntry
  have hLength : (entry.1.getLastD "").length
      ≤ (s.entries.map fun entry => (entry.1.getLastD "").length).sum :=
    List.le_sum_of_mem (List.mem_map_of_mem hEntry)
  have hLonger : (s.entries.map fun entry => (entry.1.getLastD "").length).sum
      < (s.nameBeside name).length := by
    simp only [nameBeside, String.length_append, String.length_ofList, List.length_replicate,
      List.sum_eq_foldr, List.foldr_map]
    have hPoint : ".".length = 1 := rfl
    omega
  rw [bne_iff_ne]
  intro hSame
  rw [← hSame, List.getLastD_concat] at hLength
  omega

theorem item?_put_self (hPlace : place ≠ []) (item : StoredItem Content) :
    (s.put place item).item? place = some item := by
  rw [item?, if_neg hPlace]
  exact Entries.lookup_insert_self place item s.entries

theorem item?_put_of_ne (h : d ≠ place) (item : StoredItem Content) :
    (s.put place item).item? d = s.item? d := by
  rw [item?, item?]
  split
  · rfl
  · exact Entries.lookup_insert_of_ne h item s.entries

theorem isDirectory_iff : s.isDirectory place = true ↔ s.item? place = some .directory := by
  rw [isDirectory]
  cases s.item? place with
  | none => simp
  | some item => cases item <;> simp

/-- At a place that is neither above the file nor the file itself, nothing changes, unless a file
stays beside that cannot be removed; above the file, at most a directory is new; and the file has
its whole content or is what it was. -/
theorem Leaves.item? {device : Device Content} {r : Except Failure Unit}
    (h : s.Leaves device path content r s') (d : List String) :
    s'.item? d = s.item? d ∨
      (d ∈ path.ancestors ∧ s.item? d = none ∧ s'.item? d = some .directory) ∨
      (d = path.place ∧ s'.item? d = some (.file content)) ∨
      (∃ made failure, d = (s.withDirectories made).besidePlace path ∧ s.item? d = none ∧
        device.allow .cleanUp = .error failure) := by
  have hDirectories : ∀ {made}, s.AreNew path made →
      (s.withDirectories made).item? d = s.item? d ∨
        (d ∈ path.ancestors ∧ s.item? d = none ∧
          (s.withDirectories made).item? d = some .directory) := by
    intro made hMade
    rw [item?_withDirectories]
    by_cases hd : d ∈ made
    · exact .inr ⟨hMade.above d hd, hMade.absent d hd, by simp [hMade.absent d hd, hd]⟩
    · exact .inl (by simp [hd])
  cases h with
  | directories hMade => exact (hDirectories hMade).imp_right .inl
  | file hMade =>
    by_cases hPlace : d = path.place
    · by_cases hRoot : path.place = []
      · left
        rw [hPlace, hRoot]
        rfl
      · exact .inr (.inr (.inl ⟨hPlace, hPlace ▸ item?_put_self hRoot _⟩))
    · rw [item?_put_of_ne hPlace]
      exact (hDirectories hMade).imp_right .inl
  | @beside made failure reached hMade hStays hReached =>
    by_cases hBeside : d = (s.withDirectories made).besidePlace path
    · have hNone := item?_beside (s.withDirectories made) path.parent.place path.name
      rw [← besidePlace, ← hBeside, item?_withDirectories, Option.or_eq_none_iff] at hNone
      exact .inr (.inr (.inr ⟨made, failure, hBeside, hNone.1, hStays⟩))
    · rw [item?_put_of_ne hBeside]
      exact (hDirectories hMade).imp_right .inl

/-! ## The steps -/

theorem locate_eq_ok {text : String} (hPlace : s.item? place = some .directory)
    (hAbove : ∀ d ∈ placesAlong place parts.dropLast, s.item? d = some .directory) :
    s.locate text place parts = .ok (parts.foldl step place) := by
  induction parts generalizing place with
  | nil => rfl
  | cons part parts ih =>
    rw [locate, hPlace, List.foldl_cons]
    cases parts with
    | nil => rfl
    | cons next parts =>
      rw [List.dropLast_cons_of_ne_nil (List.cons_ne_nil _ _), placesAlong] at hAbove
      exact ih (hAbove _ List.mem_cons_self) fun d hd => hAbove d (List.mem_cons_of_mem _ hd)

/-- Directories that are new in a storage, among the places that parts lead through. -/
structure AreMade (s : Storage Content) (place : List String) (parts : List String)
    (made : List (List String)) : Prop where
  nodup : made.Nodup
  along : ∀ d ∈ made, d ∈ placesAlong place parts
  absent : ∀ d ∈ made, s.item? d = none

theorem areMade_nil (s : Storage Content) (place parts : List String) :
    s.AreMade place parts [] :=
  ⟨List.nodup_nil, List.forall_mem_nil _, List.forall_mem_nil _⟩

theorem AreMade.skip {part : String} {made : List (List String)}
    (h : s.AreMade (step place part) parts made) : s.AreMade place (part :: parts) made :=
  ⟨h.nodup, fun d hd => List.mem_cons_of_mem _ (h.along d hd), h.absent⟩

/-- One more directory, in front of those that are made in the storage that has it. -/
theorem AreMade.cons {part : String} {made : List (List String)}
    (hItem : s.item? (step place part) = none)
    (h : (s.withDirectories [step place part]).AreMade (step place part) parts made) :
    s.AreMade place (part :: parts) (step place part :: made) := by
  have hAbsent : ∀ d ∈ made, d ≠ step place part ∧ s.item? d = none := by
    intro d hd
    have hNone := h.absent d hd
    rw [item?_withDirectories, Option.or_eq_none_iff] at hNone
    refine ⟨?_, hNone.1⟩
    rintro rfl
    simp at hNone
  refine ⟨List.nodup_cons.mpr ⟨fun hMem => (hAbsent _ hMem).1 rfl, h.nodup⟩, ?_, ?_⟩
  · intro d hd
    rcases List.mem_cons.mp hd with rfl | hd
    · exact List.mem_cons_self
    · exact List.mem_cons_of_mem _ (h.along d hd)
  · intro d hd
    rcases List.mem_cons.mp hd with rfl | hd
    · exact hItem
    · exact (hAbsent d hd).2

theorem makeDirectories_cases {closed : List (List String)} {text : String}
    {r : Except Failure Unit} (h : outcome (makeDirectories closed text place parts) s = (r, s')) :
    ∃ made, s.AreMade place parts made ∧ s' = s.withDirectories made ∧
      ((∃ failure, r = .error failure) ∨
        r = .ok () ∧ ∀ d ∈ placesAlong place parts, s'.item? d = some .directory) := by
  -- Behind each directory that is made, the parts that are left lead on from it in the storage that
  -- has it; what is absent there was absent before.
  induction parts generalizing place s with
  | nil =>
    cases h
    exact ⟨[], areMade_nil .., (withDirectories_nil _).symm, .inr ⟨rfl, List.forall_mem_nil _⟩⟩
  | cons part parts ih =>
    rw [makeDirectories, outcome_get_bind] at h
    cases hItem : s.item? (step place part) with
    | none =>
      simp only [hItem] at h
      split at h
      · cases h
        exact ⟨[], areMade_nil .., (withDirectories_nil _).symm, .inl ⟨_, rfl⟩⟩
      · rw [outcome_modify_bind] at h
        obtain ⟨made, hMade, rfl, hEnd⟩ := ih h
        have hAll : withDirectories ⟨s.entries ++ [(step place part, .directory)]⟩ made
            = s.withDirectories (step place part :: made) := withDirectories_cons ..
        refine ⟨step place part :: made, hMade.cons hItem, hAll, hEnd.imp_right ?_⟩
        rintro ⟨hOk, hThere⟩
        refine ⟨hOk, List.forall_mem_cons.mpr ⟨?_, hThere⟩⟩
        rw [hAll, item?_withDirectories, hItem]
        simp
    | some item =>
      cases item with
      | file _ =>
        simp only [hItem] at h
        cases h
        exact ⟨[], areMade_nil .., (withDirectories_nil _).symm, .inl ⟨_, rfl⟩⟩
      | directory =>
        simp only [hItem] at h
        obtain ⟨made, hMade, rfl, hEnd⟩ := ih h
        refine ⟨made, hMade.skip, rfl, hEnd.imp_right ?_⟩
        rintro ⟨hOk, hThere⟩
        refine ⟨hOk, List.forall_mem_cons.mpr ⟨?_, hThere⟩⟩
        rw [item?_withDirectories, hItem, Option.some_or]

theorem item?_put_beside (h : s.item? place = none) (item : StoredItem Content)
    (hd : s.item? d = some .directory) : (s.put place item).item? d = some .directory := by
  rw [item?_put_of_ne _ item, hd]
  rintro rfl
  rw [h] at hd
  cases hd

theorem drop_put_beside (h : s.item? place = none) (item : StoredItem Content) :
    (s.put place item).drop place = s := by
  have hAbsent : s.entries.lookup place = none := by
    rw [item?] at h
    split at h
    · cases h
    · exact h
  rw [drop, put, Entries.erase_insert, Entries.erase_eq_self hAbsent]

theorem isDirectory_put_beside (h : s.item? place = none) (content : Content) :
    (s.put place (.file content)).isDirectory d = s.isDirectory d := by
  have hNew : place ≠ [] := by
    rintro rfl
    cases h
  by_cases hd : d = place
  · rw [isDirectory, isDirectory, hd, item?_put_self hNew, h]
  · rw [isDirectory, isDirectory, item?_put_of_ne hd]

theorem mem_placesAlong_of_dropLast (h : d ∈ placesAlong place parts.dropLast) :
    d ∈ placesAlong place parts := by
  induction parts generalizing place with
  | nil => exact h
  | cons part parts ih =>
    cases parts with
    | nil => cases h
    | cons next parts =>
      rw [List.dropLast_cons_of_ne_nil (List.cons_ne_nil _ _), placesAlong] at h
      rcases List.mem_cons.mp h with rfl | h
      · exact List.mem_cons_self
      · exact List.mem_cons_of_mem _ (ih h)

theorem read_put (hAbove : ∀ d ∈ path.ancestors, s.item? d = some .directory)
    (hFree : s.item? path.place ≠ some .directory) (content : Content) :
    (s.put path.place (.file content)).read path = .ok content := by
  have hRoot : path.place ≠ [] := by
    intro hRoot
    rw [hRoot] at hFree
    exact hFree rfl
  have hStill : ∀ d ∈ path.ancestors,
      (s.put path.place (.file content)).item? d = some .directory := by
    intro d hd
    rw [item?_put_of_ne _ _, hAbove d hd]
    rintro rfl
    exact hFree (hAbove _ hd)
  have hTarget : (s.put path.place (.file content)).locate path.text [] path.parts
      = .ok path.place := locate_eq_ok rfl hStill
  simp only [read, hTarget, Bind.bind, Except.bind, item?_put_self hRoot]
  rfl

/-- What comes of filling a file beside its place and moving it there. -/
def completion (s : Storage Content) (device : Device Content) (path : StorePath) :
    Except Failure Unit := do
  device.allow .fill
  device.allow .permit
  device.allow .replace
  if s.isDirectory path.place then throw (.isDirectory path.text)

theorem outcome_move {source : List String} {item : StoredItem Content}
    (hAbove : ∀ d ∈ path.ancestors, s.item? d = some .directory)
    (hSource : s.item? source = some item) :
    outcome (move source path) s
      = if s.isDirectory path.place then (.error (.isDirectory path.text), s)
      else (.ok (), (s.drop source).put path.place item) := by
  have hTarget : s.locate path.text [] path.parts = .ok path.place := locate_eq_ok rfl hAbove
  rw [move, outcome_get_bind, hTarget, outcome_bind, outcome_lift]
  dsimp only
  split
  · rfl
  · rw [hSource]
    rfl

/-- The file stands at its place, or the storage differs from the one before by the file beside
alone, which holds what it held first or the whole content. -/
theorem outcome_complete (device : Device Content) {beside : List String} (content : Content)
    (hAbove : ∀ d ∈ path.ancestors, s.item? d = some .directory) (hBeside : s.item? beside = none) :
    ∃ s', outcome (complete device beside path content) (s.put beside (.file device.incomplete))
        = (s.completion device path, s') ∧
      match s.completion device path with
      | .ok () => s' = s.put path.place (.file content)
      | .error _ => ∃ reached, (reached = device.incomplete ∨ reached = content) ∧
        s' = s.put beside (.file reached) := by
  have hNew : beside ≠ [] := by
    rintro rfl
    cases hBeside
  have hOnce : (s.put beside (.file device.incomplete)).put beside (.file content)
      = s.put beside (.file content) := by
    rw [put, put, put, Entries.insert_insert]
  rw [complete, completion]
  cases device.allow .fill with
  | error failure => exact ⟨_, rfl, _, .inl rfl, rfl⟩
  | ok _ =>
    rw [outcome_bind, outcome_lift]
    dsimp only
    rw [outcome_modify_bind, hOnce]
    cases device.allow .permit with
    | error failure => exact ⟨_, rfl, _, .inr rfl, rfl⟩
    | ok _ =>
      cases device.allow .replace with
      | error failure => exact ⟨_, rfl, _, .inr rfl, rfl⟩
      | ok _ =>
        have hStill := fun d hd => item?_put_beside hBeside (.file content) (hAbove d hd)
        have hMove := outcome_move hStill (item?_put_self hNew (.file content))
        rw [isDirectory_put_beside hBeside, drop_put_beside hBeside] at hMove
        by_cases hTaken : s.isDirectory path.place = true
        · rw [if_pos hTaken] at hMove ⊢
          exact ⟨_, hMove, _, .inr rfl, rfl⟩
        · rw [if_neg hTaken] at hMove ⊢
          exact ⟨_, hMove, rfl⟩

/-! ## The whole -/

/-- What comes of a write once the directories above the file are there. -/
def placement (s : Storage Content) (device : Device Content) (path : StorePath) :
    Except Failure Unit := do
  if device.closed.contains path.parent.place then throw (.directoryNotWritable path.parent.text)
  device.allow .create
  s.completion device path

def placed (s : Storage Content) (path : StorePath) (content : Content) :
    Except Failure Unit → Storage Content
  | .ok () => s.put path.place (.file content)
  | .error _ => s

theorem placement_congr (device : Device Content)
    (h : s'.isDirectory path.place = s.isDirectory path.place) :
    s'.placement device path = s.placement device path := by
  rw [placement, placement, completion, completion, h]

theorem isDirectory_of_placement {device : Device Content}
    (h : s.placement device path = .ok ()) : s.isDirectory path.place = false := by
  rw [placement] at h
  split at h
  · cases h
  obtain ⟨_, -, h⟩ := Sequence.bind_eq_ok_iff.1 h
  obtain ⟨_, -, h⟩ := Sequence.bind_eq_ok_iff.1 h
  obtain ⟨_, -, h⟩ := Sequence.bind_eq_ok_iff.1 h
  obtain ⟨_, -, h⟩ := Sequence.bind_eq_ok_iff.1 h
  split at h
  · cases h
  · exact Bool.eq_false_of_not_eq_true ‹_›

/-- What comes of a write once the directories above the file are there: it is put in place, or all
is as before; or the file beside stays, since it cannot be removed, and this is the failure. -/
theorem write_of_made {device : Device Content} {s₁ : Storage Content} {content : Content}
    {r : Except Failure Unit}
    (hMake : outcome (makeDirectories device.closed path.parent.text [] path.parent.parts) s
      = (.ok (), s₁))
    (hAbove : ∀ d ∈ path.ancestors, s₁.item? d = some .directory)
    (h : outcome (write device path content) s = (r, s')) :
    r = s₁.placement device path ∧ s' = s₁.placed path content r ∨
      ∃ failure reached, device.allow .cleanUp = .error failure ∧ r = .error failure ∧
        (reached = device.incomplete ∨ reached = content) ∧
        s' = s₁.put (s₁.besidePlace path) (.file reached) := by
  -- The directories above are there, so that the path of the directory leads to its place.
  have hParent : s₁.locate path.parent.text [] path.parent.parts = .ok path.parent.place :=
    locate_eq_ok rfl fun d hd => hAbove d (mem_placesAlong_of_dropLast hd)
  rw [write, outcome_bind, hMake] at h
  dsimp only at h
  rw [outcome_get_bind, hParent, outcome_bind, outcome_lift] at h
  dsimp only at h
  rw [placement]
  by_cases hClosed : device.closed.contains path.parent.place = true
  · rw [if_pos hClosed] at h ⊢
    cases h
    exact .inl ⟨rfl, rfl⟩
  rw [if_neg hClosed] at h ⊢
  cases hCreate : device.allow .create with
  | error failure =>
    rw [hCreate] at h
    cases h
    exact .inl ⟨rfl, rfl⟩
  | ok _ =>
    have hBeside := item?_beside s₁ path.parent.place path.name
    obtain ⟨s₂, hComplete, hReached⟩ := outcome_complete device content hAbove hBeside
    rw [hCreate, outcome_bind, outcome_lift] at h
    dsimp only at h
    rw [outcome_modify_bind, outcome_tryCatch, hComplete] at h
    have hAllowed : ∀ x : Except Failure Unit, (do Except.ok (); x) = x := fun x => rfl
    rw [hAllowed]
    cases hEnd : s₁.completion device path with
    | ok _ =>
      rw [hEnd] at h hReached
      cases h
      exact .inl ⟨rfl, hReached⟩
    | error failure =>
      rw [hEnd] at h hReached
      obtain ⟨reached, hContent, rfl⟩ := hReached
      cases hCleanUp : device.allow .cleanUp with
      | error stays =>
        rw [hCleanUp] at h
        cases h
        exact .inr ⟨stays, reached, rfl, rfl, hContent, rfl⟩
      | ok _ =>
        rw [hCleanUp] at h
        cases h
        exact .inl ⟨rfl, drop_put_beside hBeside _⟩

theorem outcome_write_of_made {device : Device Content} {s₁ : Storage Content} (content : Content)
    (hRemoves : device.allow .cleanUp = .ok ())
    (hMake : outcome (makeDirectories device.closed path.parent.text [] path.parent.parts) s
      = (.ok (), s₁))
    (hAbove : ∀ d ∈ path.ancestors, s₁.item? d = some .directory) :
    outcome (write device path content) s
      = (s₁.placement device path, s₁.placed path content (s₁.placement device path)) := by
  cases h : outcome (write device path content) s with
  | mk r s' =>
    obtain ⟨rfl, rfl⟩ | ⟨failure, _, hStays, -⟩ := write_of_made hMake hAbove h
    · rfl
    · rw [hRemoves] at hStays
      cases hStays

/-- A file that cannot be written leaves at most new directories, and the file beside only if this
cannot be removed; one that is written is there with its whole content. -/
theorem write_cases {device : Device Content} {r : Except Failure Unit}
    (h : outcome (write device path content) s = (r, s')) :
    s.Leaves device path content r s' ∧ (r = .ok () → s'.read path = .ok content) := by
  obtain ⟨failure, hMake, rfl⟩ | ⟨⟨⟩, s₁, hMake, -⟩ := outcome_bind_cases h
  · obtain ⟨made, hMade, rfl, -⟩ := makeDirectories_cases hMake
    exact ⟨.directories ⟨hMade.nodup, hMade.along, hMade.absent⟩ failure, nofun⟩
  obtain ⟨made, hMade, rfl, ⟨_, ⟨⟩⟩ | ⟨-, hAbove⟩⟩ := makeDirectories_cases hMake
  have hNew : s.AreNew path made := ⟨hMade.nodup, hMade.along, hMade.absent⟩
  obtain ⟨rfl, rfl⟩ | ⟨failure, reached, hStays, rfl, hReached, rfl⟩ :=
    write_of_made hMake hAbove h
  · cases hPlacement : (s.withDirectories made).placement device path with
    | ok _ =>
      have hFree : (s.withDirectories made).item? path.place ≠ some .directory := by
        intro hThere
        have hTaken := isDirectory_of_placement hPlacement
        rw [isDirectory_iff.mpr hThere] at hTaken
        cases hTaken
      exact ⟨.file hNew, fun _ => read_put hAbove hFree content⟩
    | error failure => exact ⟨.directories hNew failure, nofun⟩
  · exact ⟨.beside hNew hStays hReached, nofun⟩

end Storage
end Interpose

import Interpose.Proofs.Storage.Writing

/-! # The way to a file

As long as the way to a file does not lead up from where a directory is still missing, it is known
beforehand which directories a write makes, whether its file can be put in place, and what is read
there afterwards.
-/
namespace Interpose.Storage

set_option autoImplicit false

open Stateful

variable {Content : Type} {s t : Storage Content} {closed : List (List String)} {text : String}
  {place d base : List String} {part : String} {parts before after rest : List String}

/-! ## Ways -/

/-- Every entry is in a directory. -/
def IsTree (s : Storage Content) : Prop :=
  ∀ place, s.item? place ≠ none → s.item? place.dropLast = some .directory

/-- The parts lead through directories that are there, and go down from then on. -/
structure LeadsDown (s : Storage Content) (parts before after : List String) : Prop where
  parts : parts = before ++ after
  there : ∀ d ∈ placesAlong [] before, s.item? d = some .directory
  down : ".." ∉ after

theorem down_cons (hDown : ".." ∉ part :: parts) : part ≠ ".." ∧ ".." ∉ parts :=
  ⟨fun h => hDown (h ▸ List.mem_cons_self), fun h => hDown (List.mem_cons_of_mem _ h)⟩

theorem down_dropLast (hDown : ".." ∉ parts) : ".." ∉ parts.dropLast :=
  fun h => hDown (List.dropLast_subset _ h)

theorem step_of_ne (h : part ≠ "..") : step place part = place ++ [part] :=
  if_neg h

theorem placesAlong_append (place parts parts' : List String) :
    placesAlong place (parts ++ parts')
      = placesAlong place parts ++ placesAlong (parts.foldl step place) parts' := by
  induction parts generalizing place with
  | nil => rfl
  | cons part parts ih =>
    rw [List.cons_append, placesAlong, placesAlong, ih, List.foldl_cons, List.cons_append]

theorem foldl_step_of_down (hDown : ".." ∉ parts) : parts.foldl step place = place ++ parts := by
  induction parts generalizing place with
  | nil => rw [List.foldl_nil, List.append_nil]
  | cons part parts ih =>
    obtain ⟨hPart, hParts⟩ := down_cons hDown
    rw [List.foldl_cons, step_of_ne hPart, ih hParts, List.append_assoc, List.singleton_append]

theorem mem_placesAlong_iff (hDown : ".." ∉ parts) :
    d ∈ placesAlong place parts ↔ ∃ first, first ≠ [] ∧ first <+: parts ∧ d = place ++ first := by
  induction parts generalizing place with
  | nil =>
    constructor
    · intro h
      cases h
    · rintro ⟨first, hFirst, hPrefix, -⟩
      exact absurd (List.prefix_nil.mp hPrefix) hFirst
  | cons part parts ih =>
    obtain ⟨hPart, hParts⟩ := down_cons hDown
    rw [placesAlong, step_of_ne hPart, List.mem_cons, ih hParts]
    constructor
    · rintro (rfl | ⟨first, -, hPrefix, rfl⟩)
      · exact ⟨[part], List.cons_ne_nil _ _, ⟨parts, rfl⟩, rfl⟩
      · refine ⟨part :: first, List.cons_ne_nil _ _, (List.prefix_cons_inj part).mpr hPrefix, ?_⟩
        rw [List.append_assoc, List.singleton_append]
    · rintro ⟨first, hFirst, hPrefix, rfl⟩
      obtain ⟨head, tail, rfl⟩ := List.exists_cons_of_ne_nil hFirst
      obtain ⟨rfl, hTail⟩ := List.cons_prefix_cons.mp hPrefix
      cases tail with
      | nil => exact .inl rfl
      | cons next tail =>
        refine .inr ⟨next :: tail, List.cons_ne_nil _ _, hTail, ?_⟩
        rw [List.append_assoc, List.singleton_append]

theorem ne_of_mem_placesAlong (hDown : ".." ∉ parts) (h : d ∈ placesAlong place parts) :
    d ≠ place := by
  obtain ⟨first, hFirst, -, rfl⟩ := (mem_placesAlong_iff hDown).mp h
  intro hSame
  exact hFirst (List.append_right_eq_self.mp hSame)

theorem item?_foldl_step (hPlace : s.item? place = some .directory)
    (hThere : ∀ d ∈ placesAlong place parts, s.item? d = some .directory) :
    s.item? (parts.foldl step place) = some .directory := by
  induction parts generalizing place with
  | nil => exact hPlace
  | cons part parts ih =>
    obtain ⟨hNext, hRest⟩ := List.forall_mem_cons.mp hThere
    exact ih hNext hRest

theorem LeadsDown.item?_base (h : s.LeadsDown parts before after) :
    s.item? (before.foldl step []) = some .directory :=
  item?_foldl_step rfl h.there

/-! ## Directories that are made -/

/-- The directories that are made on the way that some parts lead: those that are missing, up to a
file that is in the way or a directory that is closed. -/
def lacking (s : Storage Content) (closed : List (List String)) (place : List String) :
    List String → List (List String)
  | [] => []
  | part :: parts =>
    let next := step place part
    match s.item? next with
    | some .directory => s.lacking closed next parts
    | some (.file _) => []
    | none => if closed.contains place then [] else next :: s.lacking closed next parts

/-- Whether all directories on a way are there or can be made. -/
def isOpen (s : Storage Content) (closed : List (List String)) (place : List String) :
    List String → Bool
  | [] => true
  | part :: parts =>
    let next := step place part
    match s.item? next with
    | some .directory => s.isOpen closed next parts
    | some (.file _) => false
    | none => !closed.contains place && s.isOpen closed next parts

/-- At a place, one storage is like another one or has a directory that could be made there. -/
def IsLike (closed : List (List String)) (s t : Storage Content) (d : List String) : Prop :=
  t.item? d = s.item? d ∨
    s.item? d = none ∧ t.item? d = some .directory ∧ closed.contains d.dropLast = false

theorem isOpen_of_isLike (closed : List (List String)) (hDown : ".." ∉ parts)
    (hLike : ∀ d ∈ placesAlong place parts, IsLike closed s t d) :
    t.isOpen closed place parts = s.isOpen closed place parts := by
  induction parts generalizing place with
  | nil => rfl
  | cons part parts ih =>
    obtain ⟨hPart, hParts⟩ := down_cons hDown
    obtain ⟨hNext, hRest⟩ := List.forall_mem_cons.mp hLike
    rw [isOpen, isOpen]
    obtain hSame | ⟨hMissing, hThere, hOpen⟩ := hNext
    · rw [hSame, ih hParts hRest]
    · rw [step_of_ne hPart, List.dropLast_concat] at hOpen
      rw [hMissing, hThere, ih hParts hRest]
      simp only [hOpen, Bool.not_false, Bool.true_and]

/-- What could be made is made on either storage, but for what the other one has already. -/
theorem mem_lacking_of_isLike (hDown : ".." ∉ parts)
    (hLike : ∀ d ∈ placesAlong place parts, IsLike closed s t d) :
    d ∈ t.lacking closed place parts ↔ d ∈ s.lacking closed place parts ∧ t.item? d = none := by
  induction parts generalizing place with
  | nil => simp [lacking]
  | cons part parts ih =>
    obtain ⟨hPart, hParts⟩ := down_cons hDown
    obtain ⟨hNext, hRest⟩ := List.forall_mem_cons.mp hLike
    rw [lacking, lacking]
    obtain hSame | ⟨hMissing, hThere, hOpen⟩ := hNext
    · rw [hSame]
      cases hItem : s.item? (step place part) with
      | none =>
        dsimp only
        split
        · simp
        · rw [List.mem_cons, List.mem_cons, ih hParts hRest]
          constructor
          · rintro (rfl | ⟨hMem, hNone⟩)
            · exact ⟨.inl rfl, hSame.trans hItem⟩
            · exact ⟨.inr hMem, hNone⟩
          · rintro ⟨rfl | hMem, hNone⟩
            · exact .inl rfl
            · exact .inr ⟨hMem, hNone⟩
      | some item =>
        cases item with
        | file _ => simp
        | directory => exact ih hParts hRest
    · rw [step_of_ne hPart, List.dropLast_concat] at hOpen
      rw [hMissing, hThere]
      simp only [hOpen, Bool.false_eq_true, if_false]
      rw [List.mem_cons, ih hParts hRest]
      constructor
      · rintro ⟨hMem, hNone⟩
        exact ⟨.inr hMem, hNone⟩
      · rintro ⟨rfl | hMem, hNone⟩
        · rw [hThere] at hNone
          cases hNone
        · exact ⟨hMem, hNone⟩

theorem of_mem_lacking (hDown : ".." ∉ parts) (h : d ∈ s.lacking closed place parts) :
    d ∈ placesAlong place parts ∧ s.item? d = none ∧ closed.contains d.dropLast = false := by
  induction parts generalizing place with
  | nil => cases h
  | cons part parts ih =>
    obtain ⟨hPart, hParts⟩ := down_cons hDown
    rw [lacking] at h
    cases hItem : s.item? (step place part) with
    | none =>
      simp only [hItem] at h
      split at h
      · cases h
      next hClosed =>
        rcases List.mem_cons.mp h with rfl | h
        · refine ⟨List.mem_cons_self, hItem, ?_⟩
          rw [step_of_ne hPart, List.dropLast_concat]
          exact Bool.not_eq_true _ ▸ hClosed
        · exact (ih hParts h).imp_left (List.mem_cons_of_mem _)
    | some item =>
      simp only [hItem] at h
      cases item with
      | file _ => cases h
      | directory => exact (ih hParts h).imp_left (List.mem_cons_of_mem _)

/-- A directory that is made is in one that is there or is made as well. -/
theorem dropLast_of_mem_lacking (hDown : ".." ∉ parts) (h : d ∈ s.lacking closed place parts) :
    d.dropLast = place ∨ s.item? d.dropLast = some .directory ∨
      d.dropLast ∈ s.lacking closed place parts := by
  induction parts generalizing place with
  | nil => cases h
  | cons part parts ih =>
    obtain ⟨hPart, hParts⟩ := down_cons hDown
    rw [lacking] at h ⊢
    cases hItem : s.item? (step place part) with
    | none =>
      simp only [hItem] at h
      dsimp only
      split at h
      · cases h
      next hClosed =>
        rw [if_neg hClosed]
        rcases List.mem_cons.mp h with rfl | h
        · rw [step_of_ne hPart, List.dropLast_concat]
          exact .inl rfl
        · right
          obtain hNext | hThere | hMade := ih hParts h
          · exact .inr (hNext ▸ List.mem_cons_self)
          · exact .inl hThere
          · exact .inr (List.mem_cons_of_mem _ hMade)
    | some item =>
      simp only [hItem] at h
      cases item with
      | file _ => cases h
      | directory =>
        right
        obtain hNext | hThere | hMade := ih hParts h
        · exact .inl (hNext ▸ hItem)
        · exact .inl hThere
        · exact .inr hMade

theorem lacking_congr (h : ∀ d ∈ placesAlong place parts, t.item? d = s.item? d) :
    t.lacking closed place parts = s.lacking closed place parts := by
  induction parts generalizing place with
  | nil => rfl
  | cons part parts ih =>
    obtain ⟨hNext, hRest⟩ := List.forall_mem_cons.mp h
    rw [lacking, lacking, hNext, ih hRest]

theorem item?_withDirectories_of_not_mem {made : List (List String)} (h : d ∉ made) :
    (s.withDirectories made).item? d = s.item? d := by
  rw [item?_withDirectories, if_neg h, Option.or_none]

theorem outcome_makeDirectories (hDown : ".." ∉ parts) :
    outcome (makeDirectories closed text place parts) s
      = (if s.isOpen closed place parts then .ok () else .error (.directoryNotWritable text),
        s.withDirectories (s.lacking closed place parts)) := by
  -- Behind a directory that is made, the way goes on in the storage that has it; as it only goes
  -- down, what is further along is as before.
  induction parts generalizing place s with
  | nil =>
    rw [lacking, withDirectories_nil]
    rfl
  | cons part parts ih =>
    obtain ⟨-, hParts⟩ := down_cons hDown
    rw [makeDirectories, outcome_get_bind, isOpen, lacking]
    cases hItem : s.item? (step place part) with
    | none =>
      dsimp only
      by_cases hClosed : closed.contains place = true
      · rw [if_pos hClosed, if_pos hClosed, hClosed, withDirectories_nil]
        rfl
      · have hUnclosed : closed.contains place = false := by simpa using hClosed
        rw [if_neg hClosed, if_neg hClosed, outcome_modify_bind]
        have hFurther : ∀ d ∈ placesAlong (step place part) parts,
            (s.withDirectories [step place part]).item? d = s.item? d := by
          intro d hd
          refine item?_withDirectories_of_not_mem fun hMem => ?_
          exact ne_of_mem_placesAlong hParts hd (List.mem_singleton.mp hMem)
        have hOpen := isOpen_of_isLike closed hParts fun d hd => .inl (hFurther d hd)
        have hMake := @ih (s.withDirectories [step place part]) (step place part) hParts
        rw [hOpen, lacking_congr hFurther, withDirectories_cons] at hMake
        rw [hUnclosed, Bool.not_false, Bool.true_and]
        exact hMake
    | some item =>
      cases item with
      | file _ =>
        dsimp only
        rw [withDirectories_nil]
        rfl
      | directory => exact ih hParts

theorem outcome_makeDirectories_append
    (hThere : ∀ d ∈ placesAlong place before, s.item? d = some .directory) :
    outcome (makeDirectories closed text place (before ++ after)) s
      = outcome (makeDirectories closed text (before.foldl step place) after) s := by
  induction before generalizing place with
  | nil => rfl
  | cons part before ih =>
    obtain ⟨hNext, hRest⟩ := List.forall_mem_cons.mp hThere
    rw [List.cons_append, makeDirectories, outcome_get_bind, hNext]
    exact ih hRest

/-! ## What is read -/

def isBarred (s : Storage Content) (places : List (List String)) : Bool :=
  places.any fun d => match s.item? d with
    | some (.file _) => true
    | _ => false

theorem isBarred_of_isLike {places : List (List String)}
    (h : ∀ d ∈ places, IsLike closed s t d) : t.isBarred places = s.isBarred places := by
  induction places with
  | nil => rfl
  | cons d places ih =>
    obtain ⟨hFirst, hOthers⟩ := List.forall_mem_cons.mp h
    have hSame : (match t.item? d with | some (.file _) => true | _ => false)
        = (match s.item? d with | some (.file _) => true | _ => false) := by
      obtain hSame | ⟨hMissing, hThere, -⟩ := hFirst
      · rw [hSame]
      · rw [hMissing, hThere]
    rw [isBarred, isBarred, List.any_cons, List.any_cons, hSame, ← isBarred, ← isBarred,
      ih hOthers]

/-- Only a directory has something in it. -/
theorem IsTree.item?_append (hTree : s.IsTree) (hPlace : s.item? place ≠ some .directory)
    (hParts : parts ≠ []) : s.item? (place ++ parts) = none := by
  induction parts generalizing place with
  | nil => exact absurd rfl hParts
  | cons part parts ih =>
    have hNext : s.item? (place ++ [part]) = none := by
      by_contra hItem
      have hParent := hTree _ hItem
      rw [List.dropLast_concat] at hParent
      exact hPlace hParent
    cases parts with
    | nil => exact hNext
    | cons next parts =>
      have hNone : s.item? (place ++ [part]) ≠ some .directory := by
        rw [hNext]
        exact fun h => nomatch h
      rw [← List.singleton_append, ← List.append_assoc]
      exact ih hNone (List.cons_ne_nil _ _)

theorem IsTree.not_isBarred (hTree : s.IsTree) (hDown : ".." ∉ parts)
    (hPlace : s.item? place ≠ some .directory) : s.isBarred (placesAlong place parts) = false := by
  rw [isBarred, List.any_eq_false]
  intro d hd
  obtain ⟨first, hFirst, -, rfl⟩ := (mem_placesAlong_iff hDown).mp hd
  rw [hTree.item?_append hPlace hFirst]
  exact Bool.false_ne_true

theorem locate_append (hPlace : s.item? place = some .directory)
    (hThere : ∀ d ∈ placesAlong place before, s.item? d = some .directory) :
    s.locate text place (before ++ after) = s.locate text (before.foldl step place) after := by
  induction before generalizing place with
  | nil => rfl
  | cons part before ih =>
    obtain ⟨hNext, hRest⟩ := List.forall_mem_cons.mp hThere
    rw [List.cons_append, locate, hPlace]
    exact ih hNext hRest

theorem locate_of_down (hTree : s.IsTree) (hDown : ".." ∉ parts)
    (hPlace : s.item? place = some .directory) :
    s.locate text place parts = .ok (place ++ parts) ∧
        s.isBarred (placesAlong place parts.dropLast) = false ∨
      s.locate text place parts
          = .error (if s.isBarred (placesAlong place parts.dropLast) then .notDirectory text
            else .fileNotFound text) ∧
        s.item? (place ++ parts) = none := by
  induction parts generalizing place with
  | nil =>
    rw [List.append_nil]
    exact .inl ⟨rfl, rfl⟩
  | cons part parts ih =>
    obtain ⟨hPart, hParts⟩ := down_cons hDown
    rw [locate, hPlace]
    dsimp only
    rw [step_of_ne hPart]
    cases parts with
    | nil => exact .inl ⟨rfl, rfl⟩
    | cons next parts =>
      rw [List.dropLast_cons_of_ne_nil (List.cons_ne_nil _ _), placesAlong, step_of_ne hPart,
        isBarred, List.any_cons, ← isBarred]
      rw [List.append_cons place part (next :: parts)]
      cases hItem : s.item? (place ++ [part]) with
      | none =>
        have hMissing : s.item? (place ++ [part]) ≠ some .directory := by simp [hItem]
        right
        rw [locate, hItem, hTree.not_isBarred (down_dropLast hParts) hMissing]
        exact ⟨rfl, hTree.item?_append hMissing (List.cons_ne_nil _ _)⟩
      | some item =>
        cases item with
        | file _ =>
          have hFile : s.item? (place ++ [part]) ≠ some .directory := by simp [hItem]
          right
          rw [locate, hItem]
          exact ⟨rfl, hTree.item?_append hFile (List.cons_ne_nil _ _)⟩
        | directory => simpa only [Bool.false_or] using ih hParts hItem

theorem locate_of_leadsDown (text : String) (hTree : s.IsTree)
    (hWay : s.LeadsDown parts before rest) :
    let place := before.foldl step [] ++ rest
    let barred := s.isBarred (placesAlong (before.foldl step []) rest.dropLast)
    s.locate text [] parts = .ok place ∧ barred = false ∨
      s.locate text [] parts
          = .error (if barred then .notDirectory text else .fileNotFound text) ∧
        s.item? place = none := by
  rw [hWay.parts, locate_append rfl hWay.there]
  exact locate_of_down hTree hWay.down hWay.item?_base

theorem read_of_leadsDown {path : StorePath} (hTree : s.IsTree)
    (hWay : s.LeadsDown path.parts before rest) :
    s.read path = match s.item? (before.foldl step [] ++ rest) with
      | some (.file content) => .ok content
      | some .directory => .error (.isDirectory path.text)
      | none => .error (if s.isBarred (placesAlong (before.foldl step []) rest.dropLast) then
          .notDirectory path.text else .fileNotFound path.text) := by
  obtain ⟨hLocate, hClear⟩ | ⟨hLocate, hNone⟩ := locate_of_leadsDown path.text hTree hWay
  · rw [read, hLocate, hClear]
    simp only [Bind.bind, Except.bind]
    cases s.item? (before.foldl step [] ++ rest) with
    | none => rfl
    | some item => cases item <;> rfl
  · rw [read, hLocate, hNone]
    rfl

theorem exists?_of_leadsDown {path : StorePath} (hTree : s.IsTree)
    (hWay : s.LeadsDown path.parts before rest) :
    s.exists? path = (s.item? (before.foldl step [] ++ rest)).isSome := by
  obtain ⟨hLocate, -⟩ | ⟨hLocate, hNone⟩ := locate_of_leadsDown path.text hTree hWay
  · rw [exists?, hLocate]
  · rw [exists?, hLocate, hNone]
    rfl

/-! ## What is written -/

theorem there_or_made (hDown : ".." ∉ parts) (hOpen : s.isOpen closed place parts = true)
    (hd : d ∈ placesAlong place parts) :
    s.item? d = some .directory ∨ d ∈ s.lacking closed place parts := by
  induction parts generalizing place with
  | nil => cases hd
  | cons part parts ih =>
    obtain ⟨-, hParts⟩ := down_cons hDown
    rw [isOpen] at hOpen
    rw [lacking]
    cases hItem : s.item? (step place part) with
    | none =>
      simp only [hItem, Bool.and_eq_true, Bool.not_eq_true'] at hOpen
      dsimp only
      rw [hOpen.1, if_neg Bool.false_ne_true]
      rcases List.mem_cons.mp hd with rfl | hd
      · exact .inr List.mem_cons_self
      · exact (ih hParts hOpen.2 hd).imp_right (List.mem_cons_of_mem _)
    | some item =>
      simp only [hItem] at hOpen
      cases item with
      | file _ => cases hOpen
      | directory =>
        rcases List.mem_cons.mp hd with rfl | hd
        · exact .inl hItem
        · exact ih hParts hOpen hd

theorem item?_of_isOpen (hDown : ".." ∉ parts) (hOpen : s.isOpen closed place parts = true)
    (hd : d ∈ placesAlong place parts) :
    (s.withDirectories (s.lacking closed place parts)).item? d = some .directory := by
  rw [item?_withDirectories]
  obtain hThere | hMade := there_or_made hDown hOpen hd
  · rw [hThere, Option.some_or]
  · rw [(of_mem_lacking hDown hMade).2.1, if_pos hMade, Option.none_or]

/-- What a write leaves behind. -/
inductive Trace (Content : Type) where
  | nothing
  | directories
  | file (content : Content)

def Trace.of (content : Content) : Except Failure Unit → Trace Content
  | .ok () => .file content
  | .error _ => .directories

/-- The directories that are made on the way to a file. -/
def made (s : Storage Content) (closed : List (List String)) (base rest : List String) :
    Trace Content → List (List String)
  | .nothing => []
  | .directories | .file _ => s.lacking closed base rest.dropLast

def left (s : Storage Content) (closed : List (List String)) (base rest : List String)
    (trace : Trace Content) : Storage Content :=
  match trace with
  | .nothing => s
  | .directories => s.withDirectories (s.made closed base rest trace)
  | .file content =>
    (s.withDirectories (s.made closed base rest trace)).put (base ++ rest) (.file content)

/-- What comes of writing a file to which a way leads from a directory that is there. -/
def verdict (s : Storage Content) (device : Device Content) (path : StorePath)
    (base rest : List String) : Except Failure Unit :=
  if s.isOpen device.closed base rest.dropLast then s.placement device path
  else .error (.directoryNotWritable path.parent.text)

/-- Writing a file does what is known of it beforehand. -/
def WritesAs (s : Storage Content) (device : Device Content) (path : StorePath)
    (base rest : List String) : Prop :=
  ∀ content, outcome (write device path content) s
    = (s.verdict device path base rest,
      s.left device.closed base rest (.of content (s.verdict device path base rest)))

section Ways

variable {path : StorePath}

theorem LeadsDown.parent (h : s.LeadsDown path.parts before rest) (hRest : rest ≠ []) :
    s.LeadsDown path.parent.parts before rest.dropLast where
  parts := by
    rw [StorePath.parent, h.parts]
    exact List.dropLast_append_of_ne_nil hRest
  there := h.there
  down := down_dropLast h.down

theorem LeadsDown.place_eq (h : s.LeadsDown path.parts before rest) :
    path.place = before.foldl step [] ++ rest := by
  rw [StorePath.place, h.parts, List.foldl_append, foldl_step_of_down h.down]

theorem LeadsDown.ancestors (h : s.LeadsDown path.parts before rest) (hRest : rest ≠ []) :
    path.ancestors
      = placesAlong [] before ++ placesAlong (before.foldl step []) rest.dropLast := by
  rw [StorePath.ancestors, (h.parent hRest).parts, placesAlong_append]

theorem not_mem_lacking_dropLast (hRest : rest ≠ []) (hDown : ".." ∉ rest) :
    base ++ rest ∉ s.lacking closed base rest.dropLast := by
  intro hMade
  obtain ⟨first, -, hPrefix, hSame⟩ :=
    (mem_placesAlong_iff (down_dropLast hDown)).mp (of_mem_lacking (down_dropLast hDown) hMade).1
  obtain rfl := List.append_cancel_left hSame
  have hLength := hPrefix.length_le
  have hLonger := List.length_pos_iff.mpr hRest
  rw [List.length_dropLast] at hLength
  omega

end Ways

theorem LeadsDown.item?_ancestors {path : StorePath} (hWay : s.LeadsDown path.parts before rest)
    (hRest : rest ≠ []) (hOpen : s.isOpen closed (before.foldl step []) rest.dropLast = true)
    (hd : d ∈ path.ancestors) :
    (s.withDirectories (s.lacking closed (before.foldl step []) rest.dropLast)).item? d
      = some .directory := by
  rw [hWay.ancestors hRest, List.mem_append] at hd
  rcases hd with hd | hd
  · rw [item?_withDirectories, hWay.there d hd, Option.some_or]
  · exact item?_of_isOpen (down_dropLast hWay.down) hOpen hd

theorem LeadsDown.writesAs {device : Device Content} {path : StorePath}
    (hRemoves : device.allow .cleanUp = .ok ()) (hWay : s.LeadsDown path.parts before rest)
    (hRest : rest ≠ []) :
    s.WritesAs device path (before.foldl step []) rest := by
  intro content
  have hParent := hWay.parent hRest
  have hMake : outcome (makeDirectories device.closed path.parent.text [] path.parent.parts) s
      = (if s.isOpen device.closed (before.foldl step []) rest.dropLast then .ok ()
          else .error (.directoryNotWritable path.parent.text),
        s.withDirectories (s.lacking device.closed (before.foldl step []) rest.dropLast)) := by
    rw [hParent.parts, outcome_makeDirectories_append hParent.there,
      outcome_makeDirectories hParent.down]
  rw [verdict]
  cases hOpen : s.isOpen device.closed (before.foldl step []) rest.dropLast with
  | false =>
    rw [write, outcome_bind, hMake, hOpen]
    rfl
  | true =>
    rw [hOpen, if_pos rfl] at hMake
    have hPlace : (s.withDirectories
        (s.lacking device.closed (before.foldl step []) rest.dropLast)).isDirectory path.place
          = s.isDirectory path.place := by
      rw [hWay.place_eq, isDirectory, isDirectory, item?_withDirectories_of_not_mem
        (not_mem_lacking_dropLast hRest hWay.down)]
    rw [outcome_write_of_made content hRemoves hMake fun d hd => hWay.item?_ancestors hRest hOpen hd,
      placement_congr device hPlace, if_pos rfl]
    cases s.placement device path with
    | error failure => rfl
    | ok _ =>
      rw [placed, hWay.place_eq]
      rfl

theorem WritesAs.read_left {device : Device Content} {path : StorePath} {rest : List String}
    (hWrite : s.WritesAs device path base rest) (content : Content)
    (hVerdict : s.verdict device path base rest = .ok ()) :
    (s.left device.closed base rest (.file content)).read path = .ok content := by
  have hOutcome := hWrite content
  rw [hVerdict] at hOutcome
  exact (write_cases hOutcome).2 rfl

end Interpose.Storage

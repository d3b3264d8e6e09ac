import Interpose.Proofs.Storage.Ways

/-! # Writing two files

A write of another file beside or below may have made some of the directories before; the rest is
as without it. So two writes leave the same storage in either order.
-/
namespace Interpose.Storage

set_option autoImplicit false

open Stateful

variable {Content : Type} {s t : Storage Content} {closed : List (List String)}
  {place d base parts before after rest rest' : List String} {part : String}

/-! ## What is left -/

/-- A file is put in place only if the directories above it are there or can be made, and never in
place of a directory. -/
def IsAllowed (s : Storage Content) (closed : List (List String)) (base rest : List String) :
    Trace Content → Prop
  | .file _ => s.isOpen closed base rest.dropLast = true ∧ s.item? (base ++ rest) ≠ some .directory
  | .nothing | .directories => True

section Left

variable {trace trace' : Trace Content} {content : Content}

theorem isAllowed_of_verdict {device : Device Content} {path : StorePath} (content : Content)
    (hWay : s.LeadsDown path.parts before rest) :
    s.IsAllowed device.closed (before.foldl step []) rest
      (.of content (s.verdict device path (before.foldl step []) rest)) := by
  cases hVerdict : s.verdict device path (before.foldl step []) rest with
  | error _ => trivial
  | ok _ =>
    rw [verdict] at hVerdict
    split at hVerdict
    next hOpen =>
      have hFree := isDirectory_of_placement hVerdict
      rw [hWay.place_eq] at hFree
      refine ⟨hOpen, fun hThere => ?_⟩
      rw [isDirectory_iff.mpr hThere] at hFree
      cases hFree
    next => cases hVerdict

theorem of_mem_made (hDown : ".." ∉ rest) (h : d ∈ s.made closed base rest trace) :
    d ∈ placesAlong base rest.dropLast ∧ s.item? d = none ∧ closed.contains d.dropLast = false := by
  cases trace with
  | nothing => cases h
  | directories | file _ => exact of_mem_lacking (down_dropLast hDown) h

theorem not_mem_made (s : Storage Content) (closed : List (List String)) (base : List String)
    (trace : Trace Content) (hRest : rest ≠ []) (hDown : ".." ∉ rest) :
    base ++ rest ∉ s.made closed base rest trace := by
  cases trace with
  | nothing => exact List.not_mem_nil
  | directories | file _ => exact not_mem_lacking_dropLast hRest hDown

theorem item?_left_of_ne (h : d ≠ base ++ rest) :
    (s.left closed base rest trace).item? d
      = (s.item? d).or (if d ∈ s.made closed base rest trace then some .directory else none) := by
  cases trace with
  | nothing => exact (Option.or_none).symm
  | directories => exact item?_withDirectories s _
  | file content => rw [left, item?_put_of_ne h, item?_withDirectories]

theorem item?_left_self (hRest : rest ≠ []) (hDown : ".." ∉ rest) :
    (s.left closed base rest trace).item? (base ++ rest)
      = match trace with
        | .file content => some (.file content)
        | .nothing | .directories => s.item? (base ++ rest) := by
  have hMade := not_mem_made s closed base trace hRest hDown
  cases trace with
  | nothing => rfl
  | directories => exact item?_withDirectories_of_not_mem hMade
  | file content => exact item?_put_self (by simp [hRest]) _

theorem isLike_left (hDown : ".." ∉ rest) (h : d ≠ base ++ rest) :
    IsLike closed s (s.left closed base rest trace) d := by
  rw [IsLike, item?_left_of_ne h]
  by_cases hMade : d ∈ s.made closed base rest trace
  · obtain ⟨-, hMissing, hOpen⟩ := of_mem_made hDown hMade
    exact .inr ⟨hMissing, by rw [hMissing, if_pos hMade, Option.none_or], hOpen⟩
  · exact .inl (by rw [if_neg hMade, Option.or_none])

theorem item?_left_of_directory (hAllowed : s.IsAllowed closed base rest trace)
    (hThere : s.item? d = some .directory) :
    (s.left closed base rest trace).item? d = some .directory := by
  have hMade : (s.withDirectories (s.made closed base rest trace)).item? d = some .directory := by
    rw [item?_withDirectories, hThere, Option.some_or]
  cases trace with
  | nothing => exact hThere
  | directories => exact hMade
  | file content =>
    have hOther : d ≠ base ++ rest := by
      rintro rfl
      exact hAllowed.2 hThere
    rw [left, item?_put_of_ne hOther]
    exact hMade

theorem LeadsDown.left (h : s.LeadsDown parts before after)
    (hAllowed : s.IsAllowed closed base rest trace) :
    (s.left closed base rest trace).LeadsDown parts before after where
  parts := h.parts
  there d hd := item?_left_of_directory hAllowed (h.there d hd)
  down := h.down

theorem IsTree.withDirectories (hTree : s.IsTree) (closed : List (List String))
    (hDown : ".." ∉ parts) (hPlace : s.item? place = some .directory) :
    (s.withDirectories (s.lacking closed place parts)).IsTree := by
  intro d hItem
  rw [item?_withDirectories] at hItem ⊢
  by_cases hThere : s.item? d = none
  · have hMade : d ∈ s.lacking closed place parts := by
      by_contra hMade
      rw [hThere, if_neg hMade] at hItem
      exact hItem rfl
    obtain hPlace' | hDirectory | hParent := dropLast_of_mem_lacking hDown hMade
    · rw [hPlace', hPlace, Option.some_or]
    · rw [hDirectory, Option.some_or]
    · rw [(of_mem_lacking hDown hParent).2.1, if_pos hParent, Option.none_or]
  · rw [hTree d hThere, Option.some_or]

theorem IsTree.left (hTree : s.IsTree) (hRest : rest ≠ []) (hDown : ".." ∉ rest)
    (hBase : s.item? base = some .directory) (hAllowed : s.IsAllowed closed base rest trace) :
    (s.left closed base rest trace).IsTree := by
  have hMade := hTree.withDirectories closed (down_dropLast hDown) hBase
  cases trace with
  | nothing => exact hTree
  | directories => exact hMade
  | file content =>
    obtain ⟨hOpen, hFree⟩ := hAllowed
    have hFile : (s.withDirectories (s.lacking closed base rest.dropLast)).item? (base ++ rest)
        ≠ some .directory := by
      rwa [item?_withDirectories_of_not_mem (not_mem_lacking_dropLast hRest hDown)]
    have hParent : (s.withDirectories (s.lacking closed base rest.dropLast)).item?
        (base ++ rest.dropLast) = some .directory := by
      rw [← foldl_step_of_down (down_dropLast hDown)]
      refine item?_foldl_step ?_ fun d hd => item?_of_isOpen (down_dropLast hDown) hOpen hd
      rw [item?_withDirectories, hBase, Option.some_or]
    intro d hItem
    have hAbove : (s.withDirectories (s.lacking closed base rest.dropLast)).item? d.dropLast
        = some .directory := by
      by_cases hd : d = base ++ rest
      · rwa [hd, List.dropLast_append_of_ne_nil hRest]
      · rw [Storage.left, item?_put_of_ne hd] at hItem
        exact hMade d hItem
    have hOther : d.dropLast ≠ base ++ rest := by
      intro hSame
      rw [hSame] at hAbove
      exact hFile hAbove
    rw [Storage.left, item?_put_of_ne hOther]
    exact hAbove

/-! ## Two files -/

/-- Two ways down of which neither goes on from the end of the other. -/
structure AreApart (rest rest' : List String) : Prop where
  down : ".." ∉ rest
  down' : ".." ∉ rest'
  apart : ¬ rest <+: rest'
  apart' : ¬ rest' <+: rest

theorem AreApart.symm (h : AreApart rest rest') : AreApart rest' rest :=
  ⟨h.down', h.down, h.apart', h.apart⟩

theorem AreApart.ne_nil (h : AreApart rest rest') : rest ≠ [] := by
  rintro rfl
  exact h.apart List.nil_prefix

theorem AreApart.ne (h : AreApart rest rest') (hd : d ∈ placesAlong base rest') :
    d ≠ base ++ rest := by
  obtain ⟨first, -, hPrefix, rfl⟩ := (mem_placesAlong_iff h.down').mp hd
  intro hSame
  exact h.apart (List.append_cancel_left hSame ▸ hPrefix)

theorem AreApart.file_ne (h : AreApart rest rest') (base : List String) :
    base ++ rest' ≠ base ++ rest := by
  intro hSame
  exact h.apart (List.append_cancel_left hSame ▸ List.prefix_rfl)

theorem AreApart.not_mem_made (h : AreApart rest rest') :
    base ++ rest' ∉ s.made closed base rest trace := by
  intro hMade
  exact h.symm.ne (mem_placesAlong_of_dropLast (of_mem_made h.down hMade).1) rfl

/-- A file is as it was without the other one. -/
theorem AreApart.item?_left (h : AreApart rest rest') :
    (s.left closed base rest trace).item? (base ++ rest') = s.item? (base ++ rest') := by
  rw [item?_left_of_ne (h.file_ne base), if_neg h.not_mem_made, Option.or_none]

theorem AreApart.isLike (h : AreApart rest rest') (s : Storage Content)
    (closed : List (List String)) (base : List String) (trace : Trace Content) :
    ∀ d ∈ placesAlong base rest'.dropLast, IsLike closed s (s.left closed base rest trace) d :=
  fun _ hd => isLike_left h.down (h.ne (mem_placesAlong_of_dropLast hd))

variable {path : StorePath}

/-- What is read at a file is as without the other one. -/
theorem AreApart.read_left (h : AreApart rest rest') (hTree : s.IsTree)
    (hWay : s.LeadsDown path.parts before rest')
    (hAllowed : s.IsAllowed closed (before.foldl step []) rest trace) :
    (s.left closed (before.foldl step []) rest trace).read path = s.read path := by
  have hLeft := hTree.left h.ne_nil h.down hWay.item?_base hAllowed
  have hBarred := isBarred_of_isLike (h.isLike s closed (before.foldl step []) trace)
  rw [read_of_leadsDown hLeft (hWay.left hAllowed), read_of_leadsDown hTree hWay, h.item?_left,
    hBarred]

theorem AreApart.exists?_left (h : AreApart rest rest') (hTree : s.IsTree)
    (hWay : s.LeadsDown path.parts before rest')
    (hAllowed : s.IsAllowed closed (before.foldl step []) rest trace) :
    (s.left closed (before.foldl step []) rest trace).exists? path = s.exists? path := by
  have hLeft := hTree.left h.ne_nil h.down hWay.item?_base hAllowed
  rw [exists?_of_leadsDown hLeft (hWay.left hAllowed), exists?_of_leadsDown hTree hWay,
    h.item?_left]

theorem AreApart.verdict_left {device : Device Content} (h : AreApart rest rest')
    (hWay : s.LeadsDown path.parts before rest') :
    (s.left device.closed (before.foldl step []) rest trace).verdict device path
        (before.foldl step []) rest'
      = s.verdict device path (before.foldl step []) rest' := by
  have hOpen := isOpen_of_isLike device.closed (down_dropLast h.down')
    (h.isLike s device.closed (before.foldl step []) trace)
  have hPlace : (s.left device.closed (before.foldl step []) rest trace).isDirectory path.place
      = s.isDirectory path.place := by
    rw [hWay.place_eq, isDirectory, isDirectory, h.item?_left]
  rw [verdict, verdict, hOpen, placement_congr device hPlace]

/-- Of two ways, the directories of both are made, whichever goes first. -/
theorem AreApart.item?_left_left (h : AreApart rest rest') (hd : d ≠ base ++ rest)
    (hd' : d ≠ base ++ rest') :
    ((s.left closed base rest trace).left closed base rest' trace').item? d
      = (s.item? d).or (if d ∈ s.made closed base rest trace ∨ d ∈ s.made closed base rest' trace'
        then some .directory else none) := by
  have hMade : d ∈ (s.left closed base rest trace).made closed base rest' trace' ↔
      d ∈ s.made closed base rest' trace' ∧ (s.left closed base rest trace).item? d = none := by
    cases trace' with
    | nothing => simp [made]
    | directories | file _ =>
      exact mem_lacking_of_isLike (down_dropLast h.down') (h.isLike s closed base trace)
  rw [item?_left_of_ne hd', if_congr hMade rfl rfl, item?_left_of_ne hd]
  cases s.item? d with
  | some _ => rfl
  | none => by_cases hFirst : d ∈ s.made closed base rest trace <;> simp [hFirst]

/-- Two writes leave the same in either order. -/
theorem AreApart.left_comm (h : AreApart rest rest') (d : List String) :
    ((s.left closed base rest trace).left closed base rest' trace').item? d
      = ((s.left closed base rest' trace').left closed base rest trace).item? d := by
  by_cases hd : d = base ++ rest
  · rw [hd, h.symm.item?_left, item?_left_self h.ne_nil h.down, item?_left_self h.ne_nil h.down,
      h.symm.item?_left]
  by_cases hd' : d = base ++ rest'
  · rw [hd', h.item?_left, item?_left_self h.symm.ne_nil h.down',
      item?_left_self h.symm.ne_nil h.down', h.item?_left]
  · rw [h.item?_left_left hd hd', h.symm.item?_left_left hd' hd, if_congr or_comm rfl rfl]

end Left

/-! ## Writes that do not meet -/

/-- The traces of a write, or of none. -/
def CanLeave (s : Storage Content) (device : Device Content) (path : StorePath)
    (base rest : List String) (trace : Trace Content) : Prop :=
  trace = .nothing ∨ ∃ content, trace = .of content (s.verdict device path base rest)

/-- Whatever is left of a write of one file, the other one is read and written as without it. -/
structure Spares (s : Storage Content) (device : Device Content) (base : List String)
    (path : StorePath) (rest : List String) (path' : StorePath) (rest' : List String) : Prop where
  writes : ∀ {trace}, s.CanLeave device path base rest trace →
    (s.left device.closed base rest trace).WritesAs device path' base rest'
  verdict : ∀ {trace}, s.CanLeave device path base rest trace →
    (s.left device.closed base rest trace).verdict device path' base rest'
      = s.verdict device path' base rest'
  read : ∀ {trace}, s.CanLeave device path base rest trace →
    (s.left device.closed base rest trace).read path' = s.read path'
  exists? : ∀ {trace}, s.CanLeave device path base rest trace →
    (s.left device.closed base rest trace).exists? path' = s.exists? path'

structure AreIndependent (s : Storage Content) (device : Device Content) (base : List String)
    (path : StorePath) (rest : List String) (path' : StorePath) (rest' : List String) : Prop where
  spares : s.Spares device base path rest path' rest'
  spares' : s.Spares device base path' rest' path rest
  comm : ∀ {trace trace'}, s.CanLeave device path base rest trace →
    s.CanLeave device path' base rest' trace' → ∀ d,
      ((s.left device.closed base rest trace).left device.closed base rest' trace').item? d
        = ((s.left device.closed base rest' trace').left device.closed base rest trace).item? d

theorem AreApart.spares {device : Device Content} {path path' : StorePath}
    (h : AreApart rest rest') (hRemoves : device.allow .cleanUp = .ok ()) (hTree : s.IsTree)
    (hWay : s.LeadsDown path.parts before rest) (hWay' : s.LeadsDown path'.parts before rest') :
    s.Spares device (before.foldl step []) path rest path' rest' := by
  have hAllowed : ∀ {trace}, s.CanLeave device path (before.foldl step []) rest trace →
      s.IsAllowed device.closed (before.foldl step []) rest trace := by
    rintro _ (rfl | ⟨content, rfl⟩)
    · trivial
    · exact isAllowed_of_verdict content hWay
  exact {
    writes := fun hTrace => (hWay'.left (hAllowed hTrace)).writesAs hRemoves h.symm.ne_nil
    verdict := fun _ => h.verdict_left hWay'
    read := fun hTrace => h.read_left hTree hWay' (hAllowed hTrace)
    exists? := fun hTrace => h.exists?_left hTree hWay' (hAllowed hTrace) }

theorem AreApart.areIndependent {device : Device Content} {path path' : StorePath}
    (h : AreApart rest rest') (hRemoves : device.allow .cleanUp = .ok ()) (hTree : s.IsTree)
    (hWay : s.LeadsDown path.parts before rest) (hWay' : s.LeadsDown path'.parts before rest') :
    s.AreIndependent device (before.foldl step []) path rest path' rest' where
  spares := h.spares hRemoves hTree hWay hWay'
  spares' := h.symm.spares hRemoves hTree hWay' hWay
  comm _ _ := h.left_comm

/-! ## A file in the way -/

/-- The parts lead through directories that are there to a file, and on from it. -/
structure IsBlocked (s : Storage Content) (parts before after : List String) : Prop where
  parts : parts = before ++ after
  there : ∀ d ∈ placesAlong [] before, s.item? d = some .directory
  blocked : ∃ part more content, after = part :: more ∧ more ≠ [] ∧
    s.item? (step (before.foldl step []) part) = some (.file content)

namespace IsBlocked

variable {device : Device Content} {path : StorePath}

theorem dropLast (h : s.IsBlocked path.parts before rest) :
    s.isOpen closed (before.foldl step []) rest.dropLast = false ∧
      s.lacking closed (before.foldl step []) rest.dropLast = [] := by
  obtain ⟨part, more, content, rfl, hMore, hFile⟩ := h.blocked
  rw [List.dropLast_cons_of_ne_nil hMore, isOpen, lacking, hFile]
  exact ⟨rfl, rfl⟩

theorem verdict_eq (h : s.IsBlocked path.parts before rest) :
    s.verdict device path (before.foldl step []) rest
      = .error (.directoryNotWritable path.parent.text) := by
  rw [verdict, h.dropLast.1]
  rfl

theorem left_eq (h : s.IsBlocked path.parts before rest) {trace : Trace Content}
    (hTrace : s.CanLeave device path (before.foldl step []) rest trace) :
    s.left closed (before.foldl step []) rest trace = s := by
  obtain rfl | ⟨content, rfl⟩ := hTrace
  · rfl
  · rw [h.verdict_eq, Trace.of, left, made, h.dropLast.2, withDirectories_nil]

theorem writesAs (h : s.IsBlocked path.parts before rest) :
    s.WritesAs device path (before.foldl step []) rest := by
  intro content
  have hParent : path.parent.parts = before ++ rest.dropLast := by
    obtain ⟨part, more, _, rfl, -⟩ := h.blocked
    rw [StorePath.parent, h.parts]
    exact List.dropLast_append_of_ne_nil (List.cons_ne_nil _ _)
  have hMake : outcome (makeDirectories device.closed path.parent.text [] path.parent.parts) s
      = (.error (.directoryNotWritable path.parent.text), s) := by
    obtain ⟨part, more, _, rfl, hMore, hFile⟩ := h.blocked
    rw [hParent, outcome_makeDirectories_append h.there, List.dropLast_cons_of_ne_nil hMore,
      makeDirectories, outcome_get_bind, hFile]
    rfl
  rw [h.left_eq (.inr ⟨content, rfl⟩), h.verdict_eq, write, outcome_bind, hMake]

theorem spares {path' : StorePath} (h : s.IsBlocked path.parts before rest)
    (h' : s.IsBlocked path'.parts before rest') :
    s.Spares device (before.foldl step []) path rest path' rest' where
  writes hTrace := by
    rw [h.left_eq hTrace]
    exact h'.writesAs
  verdict hTrace := by rw [h.left_eq hTrace]
  read hTrace := by rw [h.left_eq hTrace]
  exists? hTrace := by rw [h.left_eq hTrace]

theorem areIndependent {path' : StorePath} (h : s.IsBlocked path.parts before rest)
    (h' : s.IsBlocked path'.parts before rest') :
    s.AreIndependent device (before.foldl step []) path rest path' rest' where
  spares := h.spares h'
  spares' := h'.spares h
  comm hTrace hTrace' d := by
    rw [h.left_eq hTrace, h'.left_eq hTrace', h.left_eq hTrace]

end IsBlocked

/-! ## Ways that do not lead up from nothing -/

/-- As far as it is known, the way does not lead up from a place where there is nothing. -/
def IsStraight (s : Storage Content) (place : List String) : List String → Prop
  | [] => True
  | part :: parts =>
    match s.item? (step place part) with
    | none => ".." ∉ parts
    | some (.file _) => True
    | some .directory => s.IsStraight (step place part) parts

theorem IsStraight.split (hTree : s.IsTree) (hPlace : s.item? place = some .directory)
    (h : s.IsStraight place parts) :
    ∃ before after, parts = before ++ after ∧
      (∀ d ∈ placesAlong place before, s.item? d = some .directory) ∧
      (".." ∉ after ∨ ∃ part more content, after = part :: more ∧
        s.item? (step (before.foldl step place) part) = some (.file content)) := by
  induction parts generalizing place with
  | nil => exact ⟨[], [], rfl, nofun, .inl List.not_mem_nil⟩
  | cons part parts ih =>
    rw [IsStraight] at h
    cases hItem : s.item? (step place part) with
    | none =>
      rw [hItem] at h
      refine ⟨[], part :: parts, rfl, nofun, .inl ?_⟩
      have hPart : part ≠ ".." := by
        rintro rfl
        have hAbove := hTree place (by rw [hPlace]; exact nofun)
        rw [step, if_pos rfl, hAbove] at hItem
        cases hItem
      rw [List.mem_cons, not_or]
      exact ⟨hPart.symm, h⟩
    | some item =>
      cases item with
      | file content =>
        exact ⟨[], part :: parts, rfl, nofun, .inr ⟨part, parts, content, rfl, hItem⟩⟩
      | directory =>
        rw [hItem] at h
        obtain ⟨before, after, rfl, hThere, hAfter⟩ := ih hItem h
        exact ⟨part :: before, after, rfl, List.forall_mem_cons.mpr ⟨hItem, hThere⟩, hAfter⟩

end Interpose.Storage

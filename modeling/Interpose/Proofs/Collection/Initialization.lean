import Interpose.Proofs.Collection.HookDiscipline

/-! # Loading a collection

The first use of a collection that is not loaded clears it, loads it, takes a snapshot and adds back
what was added before. When all of that succeeds, the loaded elements stand before those that were
added, and the snapshot tells them apart. When a step fails, nothing that was done before it is
undone: the collection counts as loaded from then on, and what was added before is lost unless it
was already added back.
-/
namespace Interpose

set_option autoImplicit false

open Stateful

namespace Collection

variable {c c' c'' : Collection} {elements elements' : List Element} {loader : Loader}
  {r : Except Failure Unit} {failure : Failure}

/-- Apart from quiet requests, elements are added at the end and nothing else changes. -/
def Adds (elements : List Element) (c c' : Collection) : Prop :=
  ∃ events refusals more, (∀ m ∈ more, IsQuiet m) ∧
    c' = { c with
      content := c.content ++ elements, events, refusals, history := c.history ++ more }

theorem adds_nil (c : Collection) : Adds [] c c :=
  ⟨c.events, c.refusals, [], by simp, by simp⟩

theorem Adds.trans (h : Adds elements c c') (h' : Adds elements' c' c'') :
    Adds (elements ++ elements') c c'' := by
  obtain ⟨_, _, more, hMore, rfl⟩ := h
  obtain ⟨events, refusals, more', hMore', rfl⟩ := h'
  refine ⟨events, refusals, more ++ more', ?_, by simp⟩
  intro m hm
  exact (List.mem_append.mp hm).elim (hMore m) (hMore' m)

theorem adds_asked (event : Event) (h : IsQuiet (.asked event)) (c : Collection) :
    Adds [] c (c.asked event) :=
  ⟨_, _, [.asked event], by simpa using h, by rw [List.append_nil]; rfl⟩

theorem adds_content (c : Collection) (elements : List Element) :
    Adds elements c { c with content := c.content ++ elements } :=
  ⟨c.events, c.refusals, [], by simp, by simp⟩

theorem Adds.countP_isLoad (h : Adds elements c c') :
    c'.history.countP Moment.isLoad = c.history.countP Moment.isLoad := by
  obtain ⟨_, _, more, hMore, rfl⟩ := h
  have hNone : more.countP Moment.isLoad = 0 := by
    rw [List.countP_eq_zero]
    intro m hm
    simp [(hMore m hm).isLoad]
  simp only [List.countP_append, hNone, Nat.add_zero]

/-! ## Requests that are granted -/

/-- The next requests are not refused. -/
def Grants (c : Collection) (count : Nat) : Prop :=
  ∀ refusal ∈ c.refusals.take count, refusal = none

theorem Grants.not_refused {count : Nat} (h : c.Grants (count + 1))
    (hRefused : c.refusals.head? = some (some failure)) : False := by
  obtain ⟨rest, hRest⟩ := List.head?_eq_some_iff.mp hRefused
  have hNone := h (some failure) (by rw [hRest, List.take_succ_cons]; exact List.mem_cons_self)
  cases hNone

theorem Grants.asked {count : Nat} (h : c.Grants (count + 1)) (event : Event) :
    (c.asked event).Grants count := by
  intro refusal hMem
  refine h refusal ?_
  cases hRefusals : c.refusals with
  | nil => simp [Collection.asked, hRefusals] at hMem
  | cons first rest =>
    rw [List.take_succ_cons]
    simp only [Collection.asked, hRefusals, List.tail_cons] at hMem
    exact List.mem_cons_of_mem _ hMem

def cleared (c : Collection) : Collection :=
  { c.asked .cleared with content := [] }

theorem clear_cases (h : outcome clear c = (r, c')) :
    (∃ failure, c.refusals.head? = some (some failure) ∧ r = .error failure ∧
        c' = c.asked .cleared) ∨
      r = .ok () ∧ c' = c.cleared := by
  obtain ⟨failure, hRecord, rfl⟩ | ⟨⟨⟩, c₁, hRecord, hEnd⟩ := outcome_bind_cases h
  · obtain ⟨rfl, hEnds⟩ := record_cases hRecord
    obtain hEnds | ⟨failure', hRefused, hEnds⟩ := hEnds
    · cases hEnds
    · exact .inl ⟨failure', hRefused, hEnds, rfl⟩
  · obtain ⟨rfl, -⟩ := record_cases hRecord
    cases hEnd
    exact .inr ⟨rfl, rfl⟩

/-- Adding stops at the first element that is refused. -/
theorem addAll_cases {method : String} (h : outcome (addAll method elements) c = (r, c')) :
    r = .ok () ∧ Adds elements c c' ∨
      ∃ failure kept lost, elements = kept ++ lost ∧ lost ≠ [] ∧ r = .error failure ∧
        Adds kept c c' ∧ ¬ c.Grants elements.length := by
  induction elements generalizing c with
  | nil =>
    cases h
    exact .inl ⟨rfl, adds_nil _⟩
  | cons e es ih =>
    rw [addAll] at h
    obtain ⟨failure, hRecord, rfl⟩ | ⟨⟨⟩, c₁, hRecord, hRest⟩ := outcome_bind_cases h
    · obtain ⟨rfl, hEnds⟩ := record_cases hRecord
      obtain hEnds | ⟨failure', hRefused, hEnds⟩ := hEnds
      · cases hEnds
      · exact .inr ⟨failure', [], e :: es, rfl, List.cons_ne_nil _ _, hEnds,
          adds_asked _ (by trivial) c, fun hGrants => hGrants.not_refused hRefused⟩
    · obtain ⟨rfl, -⟩ := record_cases hRecord
      rw [outcome_modify_bind] at hRest
      have hFirst : Adds [e] c { c.asked (.called method ⟨[.object e], []⟩) with
          content := c.content ++ [e] } :=
        (adds_asked _ (by trivial) c).trans (adds_content _ [e])
      obtain ⟨rfl, hOthers⟩ | ⟨failure, kept, lost, rfl, hLost, rfl, hKept, hRefused⟩ := ih hRest
      · exact .inl ⟨rfl, hFirst.trans hOthers⟩
      · exact .inr ⟨failure, e :: kept, lost, rfl, hLost, rfl, hFirst.trans hKept,
          fun hGrants => hRefused (hGrants.asked (.called method ⟨[.object e], []⟩))⟩

theorem addBack_cases (h : outcome (addBack elements) c = (r, c')) :
    r = .ok () ∧ Adds elements c c' ∨
      (∃ failure, r = .error failure) ∧
        ((c.adder? = none ∧ c' = c) ∨
          ∃ kept lost, elements = kept ++ lost ∧ lost ≠ [] ∧ Adds kept c c' ∧
            ¬ c.Grants elements.length) := by
  rw [addBack, outcome_get_bind] at h
  split at h
  · obtain hAdded | ⟨failure, kept, lost, hSplit, hLost, rfl, hKept, hRefused⟩ := addAll_cases h
    · exact .inl hAdded
    · exact .inr ⟨⟨failure, rfl⟩, .inr ⟨kept, lost, hSplit, hLost, hKept, hRefused⟩⟩
  next hNone =>
    cases h
    exact .inr ⟨⟨_, rfl⟩, .inl ⟨hNone, rfl⟩⟩

theorem adder?_isSome (h : "append" ∈ c.adders ∨ "add" ∈ c.adders) : c.adder?.isSome = true := by
  rw [adder?, List.find?_isSome]
  obtain hAppend | hAdd := h
  · exact ⟨"append", by simp, by simpa using hAppend⟩
  · exact ⟨"add", by simp, by simpa using hAdd⟩

/-! ## What a first use leaves -/

/-- The collection that the unit of work is asked to load. -/
def awaiting (c : Collection) : Collection :=
  (c.withInitialized true).cleared.asked .loading

theorem countP_isLoad_awaiting (c : Collection) :
    c.awaiting.history.countP Moment.isLoad = c.history.countP Moment.isLoad + 1 := by
  simp [awaiting, cleared, asked, withInitialized, List.countP_append, Moment.isLoad]

theorem outcome_loadBy_of_grants {work : Operation Unit} (h : c.Grants 1) :
    outcome (loadBy work) c = outcome work (c.asked .loading) := by
  rw [loadBy, outcome_bind]
  cases hRecord : outcome (record .loading) c with
  | mk r c₁ =>
    obtain ⟨rfl, rfl | ⟨_, hRefused, rfl⟩⟩ := record_cases hRecord
    · rfl
    · exact (h.not_refused hRefused).elim

/-- What is true of the collection once it is loaded: the loaded elements stand first, and the
snapshot and the marks tell them from those that were added before. -/
structure Merged (c : Collection) (loaded : List Element) (c' : Collection) : Prop where
  content : c'.content = loaded ++ c.pending
  snapshot : c'.snapshot = loaded
  isDirty : c'.isDirty = !c.pending.isEmpty
  insertDiff : c'.insertDiff = c.pending.filter fun e => !loaded.contains e
  deleteDiff : c'.deleteDiff = []
  loads : c'.history.countP Moment.isLoad = c.history.countP Moment.isLoad + 1
  isInitialized : c'.isInitialized = true

theorem insertDiff_of_append (hContent : c.content = elements ++ elements')
    (hSnapshot : c.snapshot = elements) :
    c.insertDiff = elements'.filter fun e => !elements.contains e := by
  rw [insertDiff, hContent, hSnapshot, List.filter_append]
  have hKnown : elements.filter (fun e => !elements.contains e) = [] := by
    rw [List.filter_eq_nil_iff]
    intro e hMem
    simp [hMem]
  rw [hKnown, List.nil_append]

theorem deleteDiff_of_append (hContent : c.content = elements ++ elements')
    (hSnapshot : c.snapshot = elements) : c.deleteDiff = [] := by
  rw [deleteDiff, hContent, hSnapshot, List.filter_eq_nil_iff]
  intro e hMem
  simp [hMem]

theorem Adds.withSnapshot (h : Adds elements c.awaiting c') :
    c'.withSnapshot.content = elements ∧ c'.withSnapshot.snapshot = elements ∧
      c'.withSnapshot.isDirty = false ∧ c'.withSnapshot.isInitialized = true ∧
      c'.withSnapshot.history.countP Moment.isLoad = c.history.countP Moment.isLoad + 1 := by
  have hLoads := h.countP_isLoad.trans (countP_isLoad_awaiting c)
  obtain ⟨_, _, _, -, rfl⟩ := h
  refine ⟨rfl, rfl, rfl, rfl, ?_⟩
  rw [← hLoads]
  simp [Collection.withSnapshot, withDirty, List.countP_append, Moment.isLoad]

theorem ensureLoaded_merges {c₂ : Collection} {loaded : List Element} (hUnloaded : c.IsUnloaded)
    (hAdder : "append" ∈ c.adders ∨ "add" ∈ c.adders) (hGrants : c.Grants 2)
    (hLoad : outcome loader.run c.awaiting = (.ok (), c₂)) (hLoaded : Adds loaded c.awaiting c₂)
    (hBack : c₂.Grants c.pending.length) :
    ∃ c', outcome (ensureLoaded loader.load) c = (.ok (), c') ∧ Merged c loaded c' := by
  cases h : outcome (ensureLoaded loader.load) c with
  | mk r c' =>
    obtain ⟨hContent, hSnapshot, hDirty, hMark, hLoads⟩ := hLoaded.withSnapshot
    have hMarked : (c.withInitialized true).Grants 2 := hGrants
    obtain ⟨_, hClear, -⟩ | ⟨c₁, hClear, hRest⟩ := ensureLoaded_ways hUnloaded h
    · obtain ⟨_, hRefused, -⟩ | ⟨⟨⟩, -⟩ := clear_cases hClear
      exact (hMarked.not_refused hRefused).elim
    obtain ⟨_, -, ⟨⟩, -⟩ | ⟨-, rfl⟩ := clear_cases hClear
    have hCleared : (c.withInitialized true).cleared.Grants 1 := hMarked.asked .cleared
    have hWork : outcome loader.load (c.withInitialized true).cleared = (.ok (), c₂) :=
      (outcome_loadBy_of_grants hCleared).trans hLoad
    obtain ⟨_, hFails, -⟩ | ⟨_, hReturns, hRest⟩ := hRest
    · cases hWork.symm.trans hFails
    cases hWork.symm.trans hReturns
    obtain ⟨hNone, rfl, rfl⟩ | ⟨hSome, hRest⟩ := hRest
    · have hAll : c₂.withSnapshot.content = loaded ++ c.pending := by
        rw [hContent, hNone, List.append_nil]
      refine ⟨_, rfl, hAll, hSnapshot, ?_, insertDiff_of_append hAll hSnapshot,
        deleteDiff_of_append hAll hSnapshot, hLoads, hMark⟩
      rw [hDirty, hNone]
      rfl
    have hKeeps : c₂.withSnapshot.adder? = c.adder? := by
      obtain ⟨_, _, _, -, rfl⟩ := hLoaded
      rfl
    have hKept : r = .ok () ∧ ∃ c₃, Adds c.pending c₂.withSnapshot c₃ ∧ c' = c₃.withDirty true := by
      obtain ⟨failure, hFails, -⟩ | ⟨c₃, hReturns, rfl, rfl⟩ := hRest
      · obtain ⟨⟨⟩, -⟩ | ⟨-, ⟨hNone, -⟩ | ⟨_, _, -, -, -, hRefused⟩⟩ := addBack_cases hFails
        · rw [hKeeps] at hNone
          exact absurd (adder?_isSome hAdder) (by simp [hNone])
        · exact absurd hBack hRefused
      · obtain ⟨-, hAdds⟩ | ⟨⟨_, ⟨⟩⟩, -⟩ := addBack_cases hReturns
        exact ⟨rfl, c₃, hAdds, rfl⟩
    obtain ⟨rfl, c₃, hAdds, rfl⟩ := hKept
    have hCount := hAdds.countP_isLoad
    obtain ⟨_, _, _, -, rfl⟩ := hAdds
    have hAll : c₂.withSnapshot.content ++ c.pending = loaded ++ c.pending := by rw [hContent]
    refine ⟨_, rfl, hAll, hSnapshot, ?_, insertDiff_of_append hAll hSnapshot,
      deleteDiff_of_append hAll hSnapshot, ?_, hMark⟩
    · show true = !c.pending.isEmpty
      simpa using hSome
    · rw [← hLoads, ← hCount]
      simp [withDirty, List.countP_append, Moment.isLoad]

/-- What a unit of work does that only adds elements, whether it returns or fails. -/
def OnlyAdds (work : Operation Unit) : Prop :=
  ∀ c r c', outcome work c = (r, c') → ∃ elements, Adds elements c c'

theorem onlyAdds_done : OnlyAdds Loader.done.run := by
  intro c r c' h
  cases h
  exact ⟨[], adds_nil c⟩

theorem OnlyAdds.append (h : OnlyAdds loader.run) (elements : List Element) :
    OnlyAdds (Loader.append elements loader).run := by
  intro c r c' hRun
  rw [Loader.run, outcome_modify_bind] at hRun
  obtain ⟨others, hOthers⟩ := h _ _ _ hRun
  exact ⟨elements ++ others, (adds_content c elements).trans hOthers⟩

/-- What is left of a collection by a load that has failed while the collection was cleared, while
it was loaded, or while the elements that were added before were added back. -/
inductive Interrupted (c c' : Collection) : Prop where
  | clearing (content : c'.content = c.content) (snapshot : c'.snapshot = c.snapshot)
      (isDirty : c'.isDirty = c.isDirty)
      (loads : c'.history.countP Moment.isLoad = c.history.countP Moment.isLoad)
  | loading (loaded : List Element) (content : c'.content = loaded)
      (snapshot : c'.snapshot = c.snapshot) (isDirty : c'.isDirty = c.isDirty)
      (loads : c'.history.countP Moment.isLoad = c.history.countP Moment.isLoad + 1)
  | addingBack (loaded kept lost : List Element) (pending : c.pending = kept ++ lost)
      (content : c'.content = loaded ++ kept) (lost_ne_nil : lost ≠ [])
      (snapshot : c'.snapshot = loaded) (isDirty : c'.isDirty = false)
      (loads : c'.history.countP Moment.isLoad = c.history.countP Moment.isLoad + 1)

theorem Interrupted.of_addingBack {c₂ : Collection} {loaded kept lost : List Element}
    (hLoaded : Adds loaded c.awaiting c₂) (hPending : c.pending = kept ++ lost) (hLost : lost ≠ [])
    (hKept : Adds kept c₂.withSnapshot c') : Interrupted c c' := by
  obtain ⟨hContent, hSnapshot, hDirty, -, hLoads⟩ := hLoaded.withSnapshot
  have hCount := hKept.countP_isLoad.trans hLoads
  obtain ⟨_, _, _, -, rfl⟩ := hKept
  exact .addingBack loaded kept lost hPending (congrArg (· ++ kept) hContent) hLost hSnapshot hDirty
    hCount

theorem ensureLoaded_interrupted (hUnloaded : c.IsUnloaded) (hAdds : OnlyAdds loader.run)
    (h : outcome (ensureLoaded loader.load) c = (.error failure, c')) : Interrupted c c' := by
  obtain ⟨_, hClear, -⟩ | ⟨c₁, hClear, hRest⟩ := ensureLoaded_ways hUnloaded h
  · obtain ⟨_, -, -, rfl⟩ | ⟨⟨⟩, -⟩ := clear_cases hClear
    refine .clearing rfl rfl rfl ?_
    simp [asked, withInitialized, List.countP_append, Moment.isLoad]
  obtain ⟨_, -, ⟨⟩, -⟩ | ⟨-, rfl⟩ := clear_cases hClear
  -- Whether the unit of work was refused or has run, it has added some elements.
  have hSome : ∀ r₂ c₂, outcome loader.load (c.withInitialized true).cleared = (r₂, c₂) →
      ∃ loaded, Adds loaded c.awaiting c₂ := by
    intro r₂ c₂ hLoad
    obtain rfl | hRun := outcome_loadBy hLoad
    · exact ⟨[], adds_nil c.awaiting⟩
    · exact hAdds _ _ _ hRun
  obtain ⟨_, hLoad, -⟩ | ⟨c₂, hLoad, hRest⟩ := hRest
  · obtain ⟨loaded, hLoaded⟩ := hSome _ _ hLoad
    have hLoads := hLoaded.countP_isLoad.trans (countP_isLoad_awaiting c)
    obtain ⟨_, _, _, -, rfl⟩ := hLoaded
    exact .loading loaded rfl rfl rfl hLoads
  obtain ⟨loaded, hLoaded⟩ := hSome _ _ hLoad
  obtain ⟨-, ⟨⟩, -⟩ | ⟨hPending, ⟨_, hBack, -⟩ | ⟨_, -, ⟨⟩, -⟩⟩ := hRest
  obtain ⟨⟨⟩, -⟩ | ⟨-, ⟨-, rfl⟩ | ⟨kept, lost, hSplit, hLost, hKept, -⟩⟩ := addBack_cases hBack
  · exact .of_addingBack hLoaded (List.nil_append _).symm hPending (adds_nil _)
  · exact .of_addingBack hLoaded hSplit hLost hKept

theorem isInitialized_of_ensureLoaded (hUnloaded : c.IsUnloaded)
    (h : outcome (ensureLoaded loader.load) c = (r, c')) : c'.isInitialized = true := by
  obtain ⟨-, -, hIdle⟩ | ⟨-, c₁, hQuiet, hEnd⟩ := ensureLoaded_cases h
  · exact absurd hUnloaded (not_isUnloaded_iff.mpr hIdle)
  have hCleared : c₁.isInitialized = true := hQuiet.proceeds.initialized rfl
  obtain ⟨-, rfl⟩ | ⟨r₂, c₂, hLoad, hEnd⟩ := hEnd
  · exact hCleared
  have hLoaded := Loader.isInitialized_load hCleared hLoad
  obtain ⟨-, rfl⟩ | ⟨-, c₃, hBack, rfl | rfl⟩ := hEnd
  · exact hLoaded
  · exact hBack.proceeds.initialized hLoaded
  · exact hBack.proceeds.initialized hLoaded

theorem after_ensureLoaded (h : ¬ c.IsUnloaded) (loaders : List Loader) :
    c.after (loaders.map fun loader => .perform .ensureLoaded loader) = c := by
  induction loaders with
  | nil => rfl
  | cons loader loaders ih =>
    have hStep : (outcome (Activity.ensureLoaded.perform loader.load) c).2 = c := by
      rw [Activity.perform, outcome_bind, outcome_ensureLoaded h]
      rfl
    rw [after] at ih ⊢
    rw [List.map_cons, List.foldl_cons]
    dsimp only [RunStep.operation]
    rw [hStep]
    exact ih

theorem not_isUnloaded (h : c.isInitialized = true) : ¬ c.IsUnloaded :=
  not_isUnloaded_iff.mpr (.inl h)

end Collection

open Collection in
/-- The first use of a collection merges: whatever the unit of work loads stands before what was
added before, the snapshot is what was loaded, and the collection is changed exactly if something
was added. The unit of work is asked once, and however often the collection is used after that, it
is not loaded again. A collection that is loaded, or that cannot be loaded, stays as it is. -/
theorem first_use_merges (c : Collection) (loader : Loader) :
    (¬ c.IsUnloaded → outcome (ensureLoaded loader.load) c = (.ok (), c)) ∧
    ∀ (c₂ : Collection) (loaded : List Element), c.IsUnloaded →
      "append" ∈ c.adders ∨ "add" ∈ c.adders → c.Grants 2 →
      outcome loader.run c.awaiting = (.ok (), c₂) → Adds loaded c.awaiting c₂ →
      c₂.Grants c.pending.length →
      ∃ c', outcome (ensureLoaded loader.load) c = (.ok (), c') ∧ Merged c loaded c' ∧
        ∀ loaders : List Loader,
          c'.after (loaders.map fun loader => .perform .ensureLoaded loader) = c' := by
  refine ⟨outcome_ensureLoaded, ?_⟩
  intro c₂ loaded hUnloaded hAdder hGrants hLoad hLoaded hBack
  obtain ⟨c', hEnds, hMerged⟩ :=
    ensureLoaded_merges hUnloaded hAdder hGrants hLoad hLoaded hBack
  exact ⟨c', hEnds, hMerged, after_ensureLoaded (not_isUnloaded hMerged.isInitialized)⟩

namespace Collection.Sample

/-- Two elements were added before the collection is loaded. -/
def waiting : Collection where
  content := ["new", "stored"]
  mapping := some [("is_owning_side", .bool true)]
  isDirty := true
  isInitialized := false

def twofold : Loader :=
  .append ["stored"] (.append ["other"] .done)

theorem waiting_isUnloaded : waiting.IsUnloaded := ⟨rfl, rfl, rfl⟩

end Collection.Sample

open Collection Collection.Sample in
/-- One of the two elements that were added is known already: both are kept, one is new. -/
theorem first_use_merges_of_waiting :
    waiting.IsUnloaded ∧ waiting.pending = ["new", "stored"] ∧
    ∃ c', outcome (ensureLoaded twofold.load) waiting = (.ok (), c') ∧
      c'.content = ["stored", "other", "new", "stored"] ∧ c'.snapshot = ["stored", "other"] ∧
      c'.isDirty = true ∧ c'.insertDiff = ["new"] ∧ c'.deleteDiff = [] ∧
      outcome (ensureLoaded twofold.load) c' = (.ok (), c') := by
  have hLoaded : Adds ["stored", "other"] waiting.awaiting
      { waiting.awaiting with content := ["stored", "other"] } :=
    adds_content waiting.awaiting ["stored", "other"]
  obtain ⟨c', hEnds, hMerged, -⟩ := (first_use_merges waiting twofold).2 _ _ waiting_isUnloaded
    (.inl (by decide)) (by simp [Grants, waiting]) rfl hLoaded
    (by simp [Grants, waiting, awaiting, cleared, asked, withInitialized])
  exact ⟨waiting_isUnloaded, rfl, c', hEnds, hMerged.content, hMerged.snapshot, hMerged.isDirty,
    hMerged.insertDiff, hMerged.deleteDiff,
    (first_use_merges c' twofold).1 (not_isUnloaded hMerged.isInitialized)⟩

open Collection in
/-- A load that fails is never undone: the collection counts as loaded, and using it again does not
load it. When the unit of work only adds elements, the rest depends on the step that failed. Where
it failed to clear the collection, the elements are there; where it failed to load it, what was
added before is lost; and where it failed to add that back, a part of it is lost, and nothing says
that the collection has changed. -/
theorem failed_load_not_undone {c c' : Collection} {loader : Loader} {failure : Failure}
    (h : outcome (ensureLoaded loader.load) c = (.error failure, c')) :
    c.isInitialized = false ∧ c'.isInitialized = true ∧
    (∀ load : Operation Unit, outcome (ensureLoaded load) c' = (.ok (), c')) ∧
    (OnlyAdds loader.run → Interrupted c c') := by
  by_cases hUnloaded : c.IsUnloaded
  · have hMark := isInitialized_of_ensureLoaded hUnloaded h
    exact ⟨hUnloaded.isInitialized, hMark, fun load => outcome_ensureLoaded (not_isUnloaded hMark),
      fun hAdds => ensureLoaded_interrupted hUnloaded hAdds h⟩
  · rw [outcome_ensureLoaded hUnloaded] at h
    cases h

open Collection Collection.Sample in
/-- The wrapped collection has no method that adds an element: what was loaded is there, and what
was added before is not. -/
theorem failed_load_not_undone_of_waiting :
    ∃ c', outcome (ensureLoaded twofold.load) { waiting with adders := [] }
        = (.error (.missingAttribute "add"), c') ∧
      c'.isInitialized = true ∧ outcome (ensureLoaded twofold.load) c' = (.ok (), c') ∧
      c'.content = ["stored", "other"] ∧ c'.isDirty = false ∧
      Interrupted { waiting with adders := [] } c' := by
  have hFails : outcome (ensureLoaded twofold.load) { waiting with adders := [] }
      = (.error (.missingAttribute "add"), _) := rfl
  obtain ⟨-, hMark, hAgain, hInterrupted⟩ := failed_load_not_undone hFails
  exact ⟨_, hFails, hMark, hAgain twofold.load, rfl, rfl,
    hInterrupted ((onlyAdds_done.append ["other"]).append ["stored"])⟩

open Collection Collection.Sample in
/-- Where the unit of work fails, the elements that were added before are gone, and the collection
counts as loaded. -/
theorem failed_load_loses_pending :
    ∃ c', outcome (ensureLoaded (UnitOfWork.load ⟨["stored"], true⟩)) waiting
        = (.error .loadFailed, c') ∧
      waiting.content = ["new", "stored"] ∧ c'.content = [] ∧
      waiting.isInitialized = false ∧ c'.isInitialized = true ∧
      outcome (ensureLoaded (UnitOfWork.load ⟨["stored"], true⟩)) c' = (.ok (), c') :=
  ⟨_, rfl, rfl, rfl, rfl, rfl, rfl⟩

end Interpose

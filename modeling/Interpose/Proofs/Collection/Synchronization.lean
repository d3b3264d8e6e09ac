import Interpose.Proofs.Collection.HookDiscipline

/-! # Changes are scheduled

The mark of a change says two things at once: that the collection has changed, and that its owner
need not be scheduled again. The hook that sets it schedules the owner as well, but other operations
set it and leave the owner alone, and the hook itself can stop in between. Where none of this
happens, every call of a forwarding method that has something to schedule finds that the unit of
work knows of it; otherwise the call goes through and the change is lost.

What a run does is listed first: each activity, also those of a load that calls back, with the
collection that it is performed on.
-/
namespace Interpose

set_option autoImplicit false

open Stateful

namespace Collection

/-! ## What is performed in a run -/

/-- An activity, the loader that would load the collection during it, and the collection that it is
performed on. -/
structure Performance where
  activity : Activity
  loader : Loader
  collection : Collection

/-- Whether an activity starts with loading the collection if that is needed. A call does so once
its arguments are bound. -/
def Activity.startsLoading : Activity → Bool
  | .ensureLoaded => true
  | .call m given =>
    (Formal.bind m.formals { given with positional := .none :: given.positional }).isSome
  | _ => false

/-- The collection when the unit of work has been asked to load it, if that is needed and nothing
is refused before. -/
def loadPoint? (c : Collection) : Option Collection :=
  if c.isInitialized || !c.hasMapping || !c.hasUnitOfWork then none
  else
    match outcome (do setInitialized true; clear; record .loading) c with
    | (.ok (), c') => some c'
    | (.error _, _) => none

def Activity.loadPoint? (activity : Activity) (c : Collection) : Option Collection :=
  if activity.startsLoading then c.loadPoint? else none

def Loader.performances : Loader → Collection → List Performance
  | .done, _ | .fail _, _ => []
  | .append elements next, c => performances next { c with content := c.content ++ elements }
  | .perform activity nested next, c =>
    let (result, c') := outcome (activity.perform nested.load) c
    ⟨activity, nested, c⟩ :: (activity.loadPoint? c).elim [] (performances nested)
      ++ performances (next result c') c'

/-- What is performed while an activity is: the activity, and what its load calls back. -/
def Activity.performances (activity : Activity) (loader : Loader) (c : Collection) :
    List Performance :=
  ⟨activity, loader, c⟩ :: (activity.loadPoint? c).elim [] loader.performances

def RunStep.performances : RunStep → Collection → List Performance
  | .perform activity loader, c => activity.performances loader c
  | .setInitialized _, _ | .elsewhere .., _ => []

def performances (c : Collection) : List RunStep → List Performance
  | [] => []
  | step :: run => step.performances c ++ performances (outcome step.operation c).2 run

/-! ## Marking without scheduling -/

/-- Whether the hook would mark the collection and not come to schedule its owner: nothing has to be
scheduled yet, the document manager refuses to answer, or there is no unit of work. -/
def changesSilently (c : Collection) : Bool :=
  !c.isDirty && (!c.wantsScheduling || !c.hasUnitOfWork
    || !(outcome needsScheduling (c.withDirty true)).1.isOk)

/-- Whether a load would reset the mark, add elements back and set the mark again. -/
def addsBack (c : Collection) : Bool :=
  c.loadPoint?.isSome && c.isDirty && !c.content.isEmpty

/-- Whether the hook of a call would do so, after the load. -/
def hookMarksSilently (load : Operation Unit) (c : Collection) : Bool :=
  match outcome (do ensureLoaded load; needsScheduling) c with
  | (.ok needs, c') => needs.isTruthy && c'.changesSilently
  | (.error _, _) => false

/-- Whether an activity leaves the collection marked without its owner being scheduled since, or
gives a marked collection another owner. -/
def Performance.marksSilently (p : Performance) : Bool :=
  match p.activity with
  | .clearSnapshot | .setDirty true => !p.collection.isDirty
  | .setDirty false | .takeSnapshot => false
  | .setOwner owner _ => p.collection.isDirty && owner != p.collection.owner
  | .changed => p.collection.changesSilently
  | .ensureLoaded => p.collection.addsBack
  | .call m given =>
    (Activity.call m given).startsLoading &&
      (p.collection.addsBack || hookMarksSilently p.loader.load p.collection)

/-- Since the mark of a change was set, the owner has been scheduled and the mark was not reset. -/
def IsScheduled (owner : Element) (history : List Moment) : Prop :=
  ∃ past since, history = past ++ .dirty true :: since ∧ .dirty false ∉ since ∧
    .asked (.scheduled owner) ∈ since

/-- If the collection is marked, its owner has been scheduled. -/
def IsAnswered (c : Collection) : Prop :=
  c.isDirty = true → ∃ owner, c.owner = some owner ∧ IsScheduled owner c.history

variable {c c' c₁ : Collection}

theorem IsScheduled.append {owner : Element} {history more : List Moment}
    (h : IsScheduled owner history) (hMore : .dirty false ∉ more) :
    IsScheduled owner (history ++ more) := by
  obtain ⟨past, since, rfl, hSince, hScheduled⟩ := h
  refine ⟨past, since ++ more, by simp, ?_, List.mem_append_left _ hScheduled⟩
  rw [List.mem_append, not_or]
  exact ⟨hSince, hMore⟩

theorem IsAnswered.append (h : c.IsAnswered) (more : List Moment) (hMore : .dirty false ∉ more)
    (hDirty : c'.isDirty = c.isDirty) (hOwner : c'.owner = c.owner)
    (hHistory : c'.history = c.history ++ more) : c'.IsAnswered := by
  intro hMarked
  obtain ⟨owner, hOwned, hScheduled⟩ := h (hDirty ▸ hMarked)
  exact ⟨owner, hOwner.trans hOwned, hHistory ▸ hScheduled.append hMore⟩

theorem IsQuiet.not_dirty {more : List Moment} (h : ∀ m ∈ more, IsQuiet m) (isDirty : Bool) :
    .dirty isDirty ∉ more :=
  fun hMem => h _ hMem

theorem Quiet.isAnswered (hQuiet : Quiet c c') (h : c.IsAnswered) : c'.IsAnswered := by
  obtain ⟨_, _, _, more, hMore, rfl⟩ := hQuiet
  exact h.append _ (IsQuiet.not_dirty hMore false) rfl rfl rfl

theorem isAnswered_of_unmarked (h : c.isDirty = false) : c.IsAnswered :=
  fun hMarked => absurd (h.symm.trans hMarked) Bool.false_ne_true

/-- The state in which a load starts, when it has been asked for and not refused. -/
theorem loadPoint?_of_steps
    (hNeeded : ¬ (c.isInitialized || !c.hasMapping || !c.hasUnitOfWork) = true)
    {c₂ : Collection} (hClear : outcome clear (c.withInitialized true) = (.ok (), c₁))
    (hAsked : outcome (record .loading) c₁ = (.ok (), c₂)) : c.loadPoint? = some c₂ := by
  have hSteps : outcome (do setInitialized true; clear; record .loading) c = (.ok (), c₂) := by
    have hMark : outcome (setInitialized true) c = (.ok (), c.withInitialized true) := rfl
    rw [outcome_bind, hMark]
    dsimp only
    rw [outcome_bind, hClear]
    exact hAsked
  rw [loadPoint?, if_neg hNeeded, hSteps]

/-- The ways in which loading ends, with the state in which the unit of work starts. If no element
is added back, the mark is reset in the end. -/
theorem ensureLoaded_steps {loader : Loader} {r : Except Failure Unit}
    (h : outcome (ensureLoaded loader.load) c = (r, c')) :
    c' = c ∨ ∃ c₁, Quiet (c.withInitialized true) c₁ ∧
      (c' = c₁ ∨ c' = c₁.asked .loading ∨
        ∃ r₂ c₂, c.loadPoint? = some (c₁.asked .loading) ∧
          outcome loader.run (c₁.asked .loading) = (r₂, c₂) ∧
          (c' = c₂ ∨ (c.addsBack = false → c' = c₂.withSnapshot))) := by
  rw [ensureLoaded, outcome_get_bind] at h
  dsimp only at h
  split at h
  next =>
    cases h
    exact .inl rfl
  next hNeeded =>
    right
    obtain ⟨_, hMark, -⟩ | ⟨⟨⟩, c₀, hMark, hRest⟩ := outcome_bind_cases h
    · cases hMark
    cases hMark
    obtain ⟨_, hClear, -⟩ | ⟨⟨⟩, c₁, hClear, hRest⟩ := outcome_bind_cases hRest
    · exact ⟨c', moves_clear.related hClear, .inl rfl⟩
    refine ⟨c₁, moves_clear.related hClear, .inr ?_⟩
    cases hAsked : outcome (record .loading) c₁ with
    | mk asked c₂ =>
      have hThen : c₂ = c₁.asked .loading := by
        have hState := outcome_record .loading c₁
        rwa [hAsked] at hState
      subst hThen
      rw [Loader.load, loadBy, bind_assoc, outcome_bind, hAsked] at hRest
      cases asked with
      | error _ =>
        cases hRest
        exact .inl rfl
      | ok _ =>
        have hPoint := loadPoint?_of_steps hNeeded hClear hAsked
        obtain ⟨_, hLoad, -⟩ | ⟨⟨⟩, c₂, hLoad, hRest⟩ := outcome_bind_cases hRest
        · exact .inr ⟨_, c', hPoint, hLoad, .inl rfl⟩
        refine .inr ⟨_, c₂, hPoint, hLoad, .inr fun hNone => ?_⟩
        -- Without elements to add back, the load ends with the snapshot.
        have hPending : (if c.isDirty = true then c.content else []) = [] := by
          rw [addsBack, hPoint] at hNone
          cases hDirty : c.isDirty with
          | false => rfl
          | true => simpa [hDirty] using hNone
        rw [hPending] at hRest
        obtain ⟨_, hSnapshot, -⟩ | ⟨⟨⟩, c₃, hSnapshot, hRest⟩ := outcome_bind_cases hRest
        · cases hSnapshot
        cases hSnapshot
        cases hRest
        rfl

theorem IsAnswered.withInitialized (h : c.IsAnswered) (isInitialized : Bool) :
    (c.withInitialized isInitialized).IsAnswered :=
  h.append [.initialized isInitialized] (by simp) rfl rfl rfl

theorem IsAnswered.asked (h : c.IsAnswered) (event : Event) : (c.asked event).IsAnswered :=
  h.append [.asked event] (by simp) rfl rfl rfl

theorem IsAnswered.ensureLoaded {loader : Loader} (h : c.IsAnswered)
    (hLoad : ∀ c₁, c.loadPoint? = some c₁ → c₁.IsAnswered →
      (outcome loader.run c₁).2.IsAnswered)
    (hNone : c.addsBack = false) :
    (outcome (Collection.ensureLoaded loader.load) c).2.IsAnswered := by
  cases hEnd : outcome (Collection.ensureLoaded loader.load) c with
  | mk r c' =>
    obtain rfl | ⟨c₁, hQuiet, rfl | rfl | ⟨r₂, c₂, hPoint, hRun, rfl | hSnapshot⟩⟩ :=
      ensureLoaded_steps hEnd
    · exact h
    · exact hQuiet.isAnswered (h.withInitialized true)
    · exact (hQuiet.isAnswered (h.withInitialized true)).asked .loading
    · have hLoaded := hLoad _ hPoint ((hQuiet.isAnswered (h.withInitialized true)).asked .loading)
      rwa [hRun] at hLoaded
    · rw [hSnapshot hNone]
      exact isAnswered_of_unmarked rfl

/-- The hook schedules the owner when it marks the collection, unless it does so silently. -/
theorem IsAnswered.changed (h : c.IsAnswered) (hSilent : c.changesSilently = false) :
    (outcome changed c).2.IsAnswered := by
  rw [Collection.changed, outcome_get_bind]
  dsimp only
  cases hDirty : c.isDirty with
  | true => exact h
  | false =>
    rw [changesSilently, hDirty] at hSilent
    simp only [Bool.not_false, Bool.true_and, Bool.or_eq_false_iff, Bool.not_eq_eq_eq_not,
      Bool.not_false] at hSilent
    obtain ⟨⟨hWants, hUnit⟩, hAnswers⟩ := hSilent
    have hMark : outcome (setDirty true) c = (.ok (), c.withDirty true) := rfl
    rw [if_neg Bool.false_ne_true, outcome_bind, hMark]
    dsimp only
    rw [outcome_bind]
    cases hNeeds : outcome needsScheduling (c.withDirty true) with
    | mk r c₁ =>
      rw [hNeeds] at hAnswers
      cases r with
      | error _ => cases hAnswers
      | ok needs =>
        obtain ⟨_, _, _, more, hMore, rfl⟩ := moves_needsScheduling.related hNeeds
        have hTruthy : needs.isTruthy = true := (isTruthy_needsScheduling hNeeds).trans hWants
        obtain ⟨owner, hOwner⟩ : ∃ owner, c.owner = some owner := by
          rw [wantsScheduling] at hWants
          simp only [Bool.and_eq_true] at hWants
          exact Option.isSome_iff_exists.mp hWants.1.1.1
        simp only [hTruthy, hUnit, hOwner, if_true, Bool.not_true, Bool.false_eq_true, if_false]
        rw [outcome_record]
        intro _
        refine ⟨owner, hOwner, c.history, more ++ [.asked (.scheduled owner)], ?_, ?_, by simp⟩
        · simp [Collection.asked, withDirty]
        · simpa using IsQuiet.not_dirty hMore false

theorem IsAnswered.runHooks {loader : Loader} (h : c.IsAnswered)
    (hLoad : ∀ c₁, c.loadPoint? = some c₁ → c₁.IsAnswered →
      (outcome loader.run c₁).2.IsAnswered)
    (hNone : c.addsBack = false) (hSilent : hookMarksSilently loader.load c = false) :
    (outcome (Collection.runHooks loader.load) c).2.IsAnswered := by
  have hLoaded := h.ensureLoaded hLoad hNone
  cases hHooks : outcome (Collection.runHooks loader.load) c with
  | mk r c' =>
    obtain ⟨r₀, c₀, hFirst, ⟨-, rfl⟩ | ⟨rfl, r₁, c₁, hNeeds, hEnd⟩⟩ := runHooks_cases hHooks
    · rwa [hFirst] at hLoaded
    rw [hFirst] at hLoaded
    have hStill : c₁.IsAnswered := (moves_needsScheduling.related hNeeds).isAnswered hLoaded
    obtain ⟨-, rfl⟩ | ⟨needs, rfl, ⟨-, rfl⟩ | ⟨hTruthy, hChanged⟩⟩ := hEnd
    · exact hStill
    · exact hStill
    · rw [hookMarksSilently, outcome_bind, hFirst] at hSilent
      dsimp only at hSilent
      rw [hNeeds] at hSilent
      dsimp only at hSilent
      rw [hTruthy, Bool.true_and] at hSilent
      have hAfter := hStill.changed hSilent
      rwa [hChanged] at hAfter

theorem IsAnswered.callDecorated {loader : Loader} {m : DecoratedMethod} {given : Call Value}
    (h : c.IsAnswered)
    (hHooks : (Activity.call m given).startsLoading = true →
      (outcome (Collection.runHooks loader.load) c).2.IsAnswered) :
    (outcome (Collection.callDecorated loader.load m given) c).2.IsAnswered := by
  cases hBound : Formal.bind m.formals { given with positional := .none :: given.positional } with
  | none =>
    rw [Collection.callDecorated]
    simp only [hBound]
    exact h
  | some bindings =>
    have hAfter := hHooks (by rw [Activity.startsLoading, hBound]; rfl)
    cases hCall : outcome (Collection.callDecorated loader.load m given) c with
    | mk r c' =>
      obtain ⟨-, rfl⟩ | ⟨r₁, c₁, hFirst, hEnd⟩ := callDecorated_cases hCall
      · exact h
      rw [hFirst] at hAfter
      obtain ⟨-, rfl⟩ | ⟨-, _, delegated, -, -, _, hCalled, -⟩ := hEnd
      · exact hAfter
      · exact ((moves_callWrapped m.name delegated).related hCalled).isAnswered
          (hAfter.append [.delegated m.name delegated] (by simp) rfl rfl rfl)

/-! ## What a run keeps -/

/-- If the performance is a call, its hooks leave the collection with a scheduled owner or not
marked. -/
def Performance.IsAnswered (p : Performance) : Prop :=
  ∀ m given, p.activity = .call m given → p.activity.startsLoading = true →
    (outcome (runHooks p.loader.load) p.collection).2.IsAnswered

theorem IsAnswered.loadPoint (h : c.IsAnswered) (hPoint : c.loadPoint? = some c₁) :
    c₁.IsAnswered := by
  rw [loadPoint?] at hPoint
  split at hPoint
  · cases hPoint
  split at hPoint
  next c₂ hSteps =>
    cases hPoint
    obtain ⟨_, -, ⟨⟩⟩ | ⟨⟨⟩, c₃, hMark, hSteps⟩ := outcome_bind_cases hSteps
    cases hMark
    obtain ⟨_, -, ⟨⟩⟩ | ⟨⟨⟩, c₄, hClear, hAsked⟩ := outcome_bind_cases hSteps
    have hState := outcome_record .loading c₄
    rw [hAsked] at hState
    obtain rfl : c₁ = c₄.asked .loading := hState
    exact ((moves_clear.related hClear).isAnswered (h.withInitialized true)).asked .loading
  next => cases hPoint

/-- Whatever a loader calls back finds the owner scheduled, and so does what comes after the
load. -/
def Loader.IsAnswered (loader : Loader) : Prop :=
  ∀ c : Collection, c.IsAnswered → (∀ p ∈ loader.performances c, p.marksSilently = false) →
    (∀ p ∈ loader.performances c, p.IsAnswered) ∧ (outcome loader.run c).2.IsAnswered

theorem Loader.IsAnswered.perform {loader : Loader} (hLoader : loader.IsAnswered)
    (activity : Activity) (h : c.IsAnswered)
    (hSilent : ∀ p ∈ activity.performances loader c, p.marksSilently = false) :
    (∀ p ∈ activity.performances loader c, p.IsAnswered) ∧
      (outcome (activity.perform loader.load) c).2.IsAnswered := by
  rw [Activity.performances, List.forall_mem_cons] at hSilent
  obtain ⟨hHere, hInside⟩ := hSilent
  have hNested : ∀ c₁, activity.loadPoint? c = some c₁ →
      (∀ p ∈ loader.performances c₁, p.IsAnswered) ∧ (outcome loader.run c₁).2.IsAnswered := by
    intro c₁ hPoint
    rw [hPoint] at hInside
    refine hLoader c₁ ?_ hInside
    rw [Activity.loadPoint?] at hPoint
    split at hPoint
    · exact h.loadPoint hPoint
    · cases hPoint
  have hLoad : activity.startsLoading = true → ∀ c₁, c.loadPoint? = some c₁ → c₁.IsAnswered →
      (outcome loader.run c₁).2.IsAnswered := by
    intro hStarts c₁ hPoint _
    exact (hNested c₁ (by rw [Activity.loadPoint?, if_pos hStarts, hPoint])).2
  have hHooks : ∀ m given, activity = .call m given → activity.startsLoading = true →
      (outcome (runHooks loader.load) c).2.IsAnswered := by
    rintro m given rfl hStarts
    rw [Performance.marksSilently] at hHere
    dsimp only at hHere
    rw [hStarts, Bool.true_and, Bool.or_eq_false_iff] at hHere
    exact h.runHooks (hLoad hStarts) hHere.1 hHere.2
  refine ⟨?_, ?_⟩
  · rw [Activity.performances, List.forall_mem_cons]
    refine ⟨hHooks, ?_⟩
    cases hPoint : activity.loadPoint? c with
    | none => exact List.forall_mem_nil _
    | some c₁ => exact (hNested c₁ hPoint).1
  · cases activity with
    | call m given => exact h.callDecorated (hHooks m given rfl)
    | ensureLoaded =>
      rw [Activity.perform, outcome_bind_pure_snd]
      exact h.ensureLoaded (hLoad rfl) hHere
    | changed =>
      rw [Activity.perform, outcome_bind_pure_snd]
      exact h.changed hHere
    | setOwner owner mapping =>
      intro hMarked
      have hDirty : c.isDirty = true := hMarked
      have hSame : owner = c.owner := by
        rw [Performance.marksSilently] at hHere
        simpa [hDirty] using hHere
      exact hSame ▸ h hDirty
    | setDirty isDirty =>
      cases isDirty with
      | false => exact isAnswered_of_unmarked rfl
      | true =>
        have hDirty : c.isDirty = true := by simpa [Performance.marksSilently] using hHere
        exact h.append [.dirty true] (by simp) hDirty.symm rfl rfl
    | takeSnapshot => exact isAnswered_of_unmarked rfl
    | clearSnapshot =>
      have hDirty : c.isDirty = true := by simpa [Performance.marksSilently] using hHere
      exact h.append [.dirty true] (by simp) hDirty.symm rfl rfl

theorem Loader.isAnswered (loader : Loader) : loader.IsAnswered := by
  induction loader with
  | done => exact fun c h _ => ⟨List.forall_mem_nil _, h⟩
  | fail _ => exact fun c h _ => ⟨List.forall_mem_nil _, h⟩
  | append elements next ih =>
    intro c h hSilent
    have hAppended : Collection.IsAnswered { c with content := c.content ++ elements } := h
    rw [run, outcome_modify_bind]
    exact ih _ hAppended hSilent
  | perform activity nested next ihNested ihNext =>
    intro c h hSilent
    -- What the loader does next depends on how the call back has ended.
    have hSplit : performances (.perform activity nested next) c
        = activity.performances nested c ++
          performances (next (outcome (activity.perform nested.load) c).1
              (outcome (activity.perform nested.load) c).2)
            (outcome (activity.perform nested.load) c).2 := rfl
    rw [hSplit, List.forall_mem_append] at hSilent ⊢
    obtain ⟨hActivity, hAfter⟩ := IsAnswered.perform ihNested activity h hSilent.1
    obtain ⟨hRest, hEnd⟩ := ihNext _ _ _ hAfter hSilent.2
    refine ⟨⟨hActivity, hRest⟩, ?_⟩
    rw [run, outcome_bind, outcome_observe]
    dsimp only
    rw [outcome_get_bind]
    exact hEnd

theorem IsAnswered.run (h : c.IsAnswered) {run : List RunStep}
    (hSilent : ∀ p ∈ c.performances run, p.marksSilently = false) :
    ∀ p ∈ c.performances run, p.IsAnswered := by
  induction run generalizing c with
  | nil => exact List.forall_mem_nil _
  | cons step run ih =>
    rw [performances, List.forall_mem_append] at hSilent ⊢
    cases step with
    | perform activity loader =>
      obtain ⟨hActivity, hAfter⟩ := loader.isAnswered.perform activity h hSilent.1
      exact ⟨hActivity, ih hAfter hSilent.2⟩
    | setInitialized isInitialized =>
      exact ⟨List.forall_mem_nil _, ih (h.withInitialized isInitialized) hSilent.2⟩
    | elsewhere content notifies refusals =>
      have hElsewhere : IsAnswered { c with content, notifies, refusals } := h
      exact ⟨List.forall_mem_nil _, ih hElsewhere hSilent.2⟩

end Collection

open Collection in
/-- In every run of a collection that is not marked as changed, in which nothing marks it silently:
when a call of a forwarding method returns, at the top or during a load, and a change had to be
scheduled when its hooks had run, the unit of work has been asked to schedule the owner since the
mark was set, and the mark has not been reset since. -/
theorem change_scheduled {c : Collection} (hClean : c.isDirty = false) {run : List RunStep}
    (hSilent : ∀ p ∈ c.performances run, p.marksSilently = false) :
    ∀ m given loader c₀, ⟨.call m given, loader, c₀⟩ ∈ c.performances run →
      ∀ answer c', outcome (callDecorated loader.load m given) c₀ = (.ok answer, c') →
        ∃ c₁, outcome (runHooks loader.load) c₀ = (.ok (), c₁) ∧
          ∀ needs c₂, outcome needsScheduling c₁ = (.ok needs, c₂) → needs.isTruthy = true →
            ∃ owner, c₁.owner = some owner ∧ IsScheduled owner c₁.history := by
  intro m given loader c₀ hMem answer c' hCall
  have hAnswered := (isAnswered_of_unmarked hClean).run hSilent _ hMem m given rfl
  have hStarts : (Activity.call m given).startsLoading = true := by
    rw [callDecorated] at hCall
    rw [Activity.startsLoading]
    cases hBound : Formal.bind m.formals { given with positional := .none :: given.positional } with
    | none =>
      simp only [hBound] at hCall
      cases hCall
    | some _ => rfl
  obtain ⟨⟨_, ⟨⟩⟩, -⟩ | ⟨r₁, c₁, hHooks, ⟨⟨_, ⟨⟩⟩, -⟩ | ⟨rfl, -⟩⟩ := callDecorated_cases hCall
  have hScheduled := hAnswered hStarts
  dsimp only at hScheduled
  rw [hHooks] at hScheduled
  refine ⟨c₁, hHooks, fun needs c₂ hNeeds hTruthy => hScheduled ?_⟩
  exact (runHooks_settles hHooks).2.1 ((isTruthy_needsScheduling hNeeds).symm.trans hTruthy)

namespace Collection.Sample

def own : RunStep :=
  .perform (.setOwner (some "owner") (some [("is_owning_side", .bool true)])) .done

/-- The collection gets an owner and counts as not loaded. Then an element is added, while the
collection is loaded and another one is added by the loader. -/
def promptSteps : List RunStep :=
  [own, .setInitialized false, .perform (.call add given) loader]

/-- The collection gets an owner and its snapshot is cleared. -/
def lostSteps : List RunStep :=
  [own, .perform .clearSnapshot .done]

end Collection.Sample

open Collection Collection.Sample in
/-- A call that is the first change, with a load before it, schedules the owner. -/
theorem change_scheduled_of_steps :
    (∀ p ∈ performances {} promptSteps, p.marksSilently = false) ∧
    ∃ c₁, outcome (runHooks loader.load) (after {} [own, .setInitialized false])
        = (.ok (), c₁) ∧ ∃ owner, c₁.owner = some owner ∧ IsScheduled owner c₁.history := by
  have hSilent : ∀ p ∈ performances {} promptSteps, p.marksSilently = false := by
    have hAll : (performances {} promptSteps).all (fun p => !p.marksSilently) = true := by
      decide +kernel
    simpa using hAll
  have hMem : ⟨.call add given, loader, after {} [own, .setInitialized false]⟩
      ∈ performances {} promptSteps :=
    List.mem_append_right _ (List.mem_append_right _
      (List.mem_append_left _ List.mem_cons_self))
  have hReturns : (outcome (callDecorated loader.load add given)
      (after {} [own, .setInitialized false])).1.toOption = some .nothing := by
    decide +kernel
  have hTruthy : ((outcome (do runHooks loader.load; needsScheduling)
      (after {} [own, .setInitialized false])).1.toOption.map Value.isTruthy) = some true := by
    decide +kernel
  cases hCall : outcome (callDecorated loader.load add given)
      (after {} [own, .setInitialized false]) with
  | mk r c' =>
    rw [hCall] at hReturns
    cases r with
    | error _ => cases hReturns
    | ok answer =>
      obtain ⟨c₁, hHooks, hScheduled⟩ :=
        change_scheduled rfl hSilent add given loader _ hMem answer c' hCall
      refine ⟨hSilent, c₁, hHooks, ?_⟩
      rw [outcome_bind, hHooks] at hTruthy
      dsimp only at hTruthy
      cases hNeeds : outcome needsScheduling c₁ with
      | mk r c₂ =>
        rw [hNeeds] at hTruthy
        cases r with
        | error _ => cases hTruthy
        | ok needs => exact hScheduled needs c₂ hNeeds (Option.some.inj hTruthy)

open Collection Collection.Sample in
/-- Clearing the snapshot marks a new collection without a word to the unit of work. The next call
has something to schedule and returns, but no owner is ever scheduled. -/
theorem change_not_scheduled :
    ∃ c₁ c₂ c', outcome (callDecorated (Loader.done).load add given) (after {} lostSteps)
        = (.ok .nothing, c') ∧
      outcome (runHooks (Loader.done).load) (after {} lostSteps) = (.ok (), c₁) ∧
      outcome needsScheduling c₁ = (.ok (.bool true), c₂) ∧
      c'.history.all (fun m => !m.isSchedule) = true :=
  ⟨_, _, _, rfl, rfl, rfl, rfl⟩

end Interpose

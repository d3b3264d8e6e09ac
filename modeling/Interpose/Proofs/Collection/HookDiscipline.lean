import Interpose.Proofs.Collection.Operations
import Interpose.Proofs.Collection.Runs
import Interpose.Proofs.Sequence
import Mathlib.Data.List.Basic

/-! # The discipline of the hooks

In every run of a collection, the unit of work loads it at most once for each time that the mark of
having been loaded was reset, and schedules its owner again only after the mark of a change was
reset. A call of a forwarding method that returns has passed one call on to the wrapped collection,
after both hooks have done their work. A load may call back and may fail on the way.
-/
namespace Interpose

set_option autoImplicit false

open Stateful

namespace Moment

def isLoad : Moment → Bool
  | .asked .loading => true
  | _ => false

def isReset : Moment → Bool
  | .initialized false => true
  | _ => false

def isSchedule : Moment → Bool
  | .asked (.scheduled _) => true
  | _ => false

def isDelegation : Moment → Bool
  | .delegated _ _ => true
  | _ => false

end Moment

namespace Collection

/-- Since every request to schedule the owner, the mark of a change has been reset. -/
def IsUnscheduled (history : List Moment) : Prop :=
  ∀ a b owner, history = a ++ .asked (.scheduled owner) :: b → .dirty false ∈ b

/-- The order that runs keep, for a history and the two marks at its end: every load has a reset of
its own before it, with one to spare when the collection counts as not loaded, and the mark of a
change is reset between two requests to schedule, and after the last one when it is not set. -/
structure Orderly (history : List Moment) (isInitialized isDirty : Bool) : Prop where
  loads : ∀ past, past <+: history → past.countP Moment.isLoad ≤ past.countP Moment.isReset
  separated : ∀ a b d owner owner',
    history = a ++ .asked (.scheduled owner) :: b ++ .asked (.scheduled owner') :: d →
    .dirty false ∈ b
  spare : isInitialized = false →
    history.countP Moment.isLoad < history.countP Moment.isReset
  unscheduled : isDirty = false → IsUnscheduled history

section Orderly

variable {history : List Moment} {isInitialized isDirty isInitialized' isDirty' : Bool} {m : Moment}

theorem append_singleton_eq_iff {α : Type} {l a b : List α} {x y : α} :
    l ++ [x] = a ++ y :: b ↔ (b = [] ∧ l = a ∧ x = y) ∨ ∃ b', b = b' ++ [x] ∧ l = a ++ y :: b' := by
  rcases List.eq_nil_or_concat' b with rfl | ⟨b', z, rfl⟩
  · simp
  · rw [← List.cons_append, ← List.append_assoc, List.append_singleton_inj]
    constructor
    · rintro ⟨rfl, rfl⟩
      exact .inr ⟨b', rfl, rfl⟩
    · rintro (⟨hNil, -⟩ | ⟨b'', hSame, rfl⟩)
      · exact absurd hNil (List.append_ne_nil_of_right_ne_nil _ (List.cons_ne_nil _ _))
      · obtain ⟨rfl, rfl⟩ := List.append_singleton_inj.mp hSame
        exact ⟨rfl, rfl⟩

theorem IsUnscheduled.append (h : IsUnscheduled history) (hm : m.isSchedule = false) :
    IsUnscheduled (history ++ [m]) := by
  intro a b owner hSplit
  obtain ⟨-, -, rfl⟩ | ⟨b', rfl, hBefore⟩ := append_singleton_eq_iff.mp hSplit
  · cases hm
  · exact List.mem_append_left _ (h a b' owner hBefore)

theorem isUnscheduled_append_dirty (history : List Moment) :
    IsUnscheduled (history ++ [.dirty false]) := by
  intro a b owner hSplit
  obtain ⟨-, -, hLast⟩ | ⟨b', rfl, -⟩ := append_singleton_eq_iff.mp hSplit
  · cases hLast
  · exact List.mem_append_right _ List.mem_cons_self

/-- One more moment: a load needs a reset to spare, and a request to schedule needs the mark to have
been reset. -/
theorem Orderly.append (h : Orderly history isInitialized isDirty)
    (hLoad : m.isLoad = true → history.countP Moment.isLoad < history.countP Moment.isReset)
    (hSchedule : m.isSchedule = true → IsUnscheduled history)
    (hSpare : isInitialized' = false →
      m.isLoad = false ∧ (m.isReset = true ∨ isInitialized = false))
    (hDirty : isDirty' = false → m = .dirty false ∨ isDirty = false ∧ m.isSchedule = false) :
    Orderly (history ++ [m]) isInitialized' isDirty' where
  loads := by
    intro past hPast
    -- Either the past is the whole history, with the new moment, or it ends before that.
    obtain rfl | hPast := List.prefix_concat_iff.mp hPast
    · have hBefore := h.loads history List.prefix_rfl
      rw [List.countP_append, List.countP_append, List.countP_singleton, List.countP_singleton]
      cases hm : m.isLoad with
      | false => simp only [Bool.false_eq_true, if_false]; omega
      | true => have := hLoad hm; simp only [if_true]; omega
    · exact h.loads past hPast
  separated := by
    intro a b d owner owner' hSplit
    obtain ⟨-, hBefore, rfl⟩ | ⟨d', -, hBefore⟩ := append_singleton_eq_iff.mp hSplit
    · exact hSchedule rfl a b owner hBefore
    · exact h.separated a b d' owner owner' hBefore
  spare := by
    intro hNot
    have hBefore := h.loads history List.prefix_rfl
    rw [List.countP_append, List.countP_append, List.countP_singleton, List.countP_singleton]
    obtain ⟨hOther, hReset | hNot⟩ := hSpare hNot
    · simp only [hReset, hOther, if_true, Bool.false_eq_true, if_false]
      omega
    · have := h.spare hNot
      simp only [hOther, Bool.false_eq_true, if_false]
      omega
  unscheduled := by
    intro hNot
    obtain rfl | ⟨hNot, hOther⟩ := hDirty hNot
    · exact isUnscheduled_append_dirty history
    · exact (h.unscheduled hNot).append hOther

end Orderly

/-! ## What every call keeps -/

variable {c c' c'' : Collection}

def IsOrderly (c : Collection) : Prop :=
  Orderly c.history c.isInitialized c.isDirty

/-- A step that keeps the order, and does not reset the mark of having been loaded. -/
structure Proceeds (c c' : Collection) : Prop where
  orderly : c.IsOrderly → c'.IsOrderly
  initialized : c.isInitialized = true → c'.isInitialized = true

instance : Std.Refl Proceeds where
  refl _ := ⟨id, id⟩

instance : IsTrans Collection Proceeds where
  trans _ _ _ h h' := ⟨h'.orderly ∘ h.orderly, h'.initialized ∘ h.initialized⟩

theorem IsQuiet.isLoad {m : Moment} (h : IsQuiet m) : m.isLoad = false := by
  cases m with
  | asked event =>
    cases event with
    | loading => cases h
    | _ => rfl
  | _ => rfl

theorem IsQuiet.isSchedule {m : Moment} (h : IsQuiet m) : m.isSchedule = false := by
  cases m with
  | asked event =>
    cases event with
    | scheduled _ => cases h
    | _ => rfl
  | _ => rfl

theorem Orderly.append_quiet {history more : List Moment} {isInitialized isDirty : Bool}
    (h : Orderly history isInitialized isDirty) (hMore : ∀ m ∈ more, IsQuiet m) :
    Orderly (history ++ more) isInitialized isDirty := by
  induction more generalizing history with
  | nil => rwa [List.append_nil]
  | cons m more ih =>
    have hQuiet := hMore m List.mem_cons_self
    rw [List.append_cons]
    refine ih (h.append ?_ ?_ ?_ ?_) fun m hm => hMore m (List.mem_cons_of_mem _ hm)
    · simp [hQuiet.isLoad]
    · simp [hQuiet.isSchedule]
    · exact fun hNot => ⟨hQuiet.isLoad, .inr hNot⟩
    · exact fun hNot => .inr ⟨hNot, hQuiet.isSchedule⟩

theorem Quiet.proceeds (h : Quiet c c') : Proceeds c c' := by
  obtain ⟨_, _, _, more, hMore, rfl⟩ := h
  exact ⟨fun hOrderly => hOrderly.append_quiet hMore, id⟩

theorem moves_of_quiet {α : Type} {x : Operation α} (h : Moves Quiet x) : Moves Proceeds x :=
  fun c => (h c).proceeds

theorem proceeds_withDirty (c : Collection) (isDirty : Bool) :
    Proceeds c (c.withDirty isDirty) where
  orderly h := by
    refine h.append (by simp [Moment.isLoad]) (by simp [Moment.isSchedule])
      (fun hNot => ⟨rfl, .inr hNot⟩) ?_
    rintro rfl
    exact .inl rfl
  initialized := id

theorem proceeds_withDelegation (c : Collection) (method : String) (call : Call Value) :
    Proceeds c (c.withDelegation method call) where
  orderly h := h.append (by simp [Moment.isLoad]) (by simp [Moment.isSchedule])
    (fun hNot => ⟨rfl, .inr hNot⟩) (fun hNot => .inr ⟨hNot, rfl⟩)
  initialized := id

theorem IsUnscheduled.append_quiet {history more : List Moment} (h : IsUnscheduled history)
    (hMore : ∀ m ∈ more, IsQuiet m) : IsUnscheduled (history ++ more) := by
  induction more generalizing history with
  | nil => rwa [List.append_nil]
  | cons m more ih =>
    rw [List.append_cons]
    exact ih (h.append (hMore m List.mem_cons_self).isSchedule)
      fun m hm => hMore m (List.mem_cons_of_mem _ hm)

theorem moves_changed : Moves Proceeds changed := by
  intro c
  cases h : outcome changed c with
  | mk r c' =>
    obtain ⟨-, -, rfl⟩ | ⟨hClean, c₁, hQuiet, rfl | ⟨owner, rfl⟩⟩ := changed_cases h
    · exact Std.Refl.refl _
    · exact IsTrans.trans _ _ _ (proceeds_withDirty c true) hQuiet.proceeds
    · obtain ⟨_, _, _, more, hMore, rfl⟩ := hQuiet
      refine ⟨fun hOrderly => ?_, id⟩
      -- The mark was not set before, so that each request to schedule is followed by a reset, and
      -- setting the mark and asking the document manager add no other request.
      have hMarked := ((proceeds_withDirty c true).orderly hOrderly).append_quiet hMore
      have hUnscheduled : IsUnscheduled ((c.withDirty true).history ++ more) :=
        ((hOrderly.unscheduled hClean).append rfl).append_quiet hMore
      refine hMarked.append (by simp [Moment.isLoad]) (fun _ => hUnscheduled)
        (fun hNot => ⟨rfl, .inr hNot⟩) ?_
      intro hNot
      cases hNot

theorem proceeds_withSnapshot (c : Collection) : Proceeds c c.withSnapshot :=
  ⟨(proceeds_withDirty { c with snapshot := c.content } false).orderly, id⟩

theorem IsOrderly.asked_loading (h : c.IsOrderly) (hReset : c.isInitialized = false)
    (hQuiet : Quiet (c.withInitialized true) c') :
    c'.IsOrderly ∧ (c'.asked .loading).IsOrderly := by
  obtain ⟨_, _, _, more, hMore, rfl⟩ := hQuiet
  have hMarked : (c.withInitialized true).IsOrderly := by
    refine h.append (by simp [Moment.isLoad]) (by simp [Moment.isSchedule]) ?_
      (fun hNot => .inr ⟨hNot, rfl⟩)
    intro hNot
    cases hNot
  have hSpare : ((c.withInitialized true).history ++ more).countP Moment.isLoad
      < ((c.withInitialized true).history ++ more).countP Moment.isReset := by
    have hQuietLoad : more.countP Moment.isLoad = 0 := by
      rw [List.countP_eq_zero]
      intro m hm
      simp [(hMore m hm).isLoad]
    have hBefore := h.spare hReset
    simp only [withInitialized, List.countP_append, hQuietLoad]
    simp only [List.countP_singleton, Moment.isLoad, Moment.isReset]
    simp only [Bool.false_eq_true, if_false]
    omega
  have hOrderly := hMarked.append_quiet hMore
  refine ⟨hOrderly, hOrderly.append (fun _ => hSpare) (by simp [Moment.isSchedule]) ?_
    (fun hNot => .inr ⟨hNot, rfl⟩)⟩
  intro hNot
  cases hNot

theorem outcome_loadBy {work : Operation Unit} {r : Except Failure Unit}
    (h : outcome (loadBy work) c = (r, c')) :
    c' = c.asked .loading ∨ outcome work (c.asked .loading) = (r, c') := by
  have hAsked := outcome_record .loading c
  obtain ⟨_, hRecord, -⟩ | ⟨⟨⟩, c₁, hRecord, hWork⟩ := outcome_bind_cases h
  · rw [hRecord] at hAsked
    exact .inl hAsked
  · rw [hRecord] at hAsked
    cases hAsked
    exact .inr hWork

theorem moves_ensureLoaded {work : Operation Unit}
    (hWork : ∀ c : Collection, c.isInitialized = true → Proceeds c (outcome work c).2) :
    Moves Proceeds (ensureLoaded (loadBy work)) := by
  intro c
  cases h : outcome (ensureLoaded (loadBy work)) c with
  | mk r c' =>
    obtain ⟨-, rfl, -⟩ | ⟨hReset, c₁, hQuiet, hEnd⟩ := ensureLoaded_cases h
    · exact Std.Refl.refl _
    refine ⟨fun hOrderly => ?_, fun hNot => absurd (hReset.symm.trans hNot) Bool.false_ne_true⟩
    -- The mark is set before the load, so that whatever the load calls finds a loaded collection.
    obtain ⟨hCleared, hAsked⟩ := hOrderly.asked_loading hReset hQuiet
    obtain ⟨-, rfl⟩ | ⟨r₂, c₂, hLoad, hEnd⟩ := hEnd
    · exact hCleared
    have hLoaded : c₂.IsOrderly := by
      obtain rfl | hRun := outcome_loadBy hLoad
      · exact hAsked
      · have hProceeds := hWork (c₁.asked .loading) (hQuiet.proceeds.initialized rfl)
        rw [hRun] at hProceeds
        exact hProceeds.orderly hAsked
    obtain ⟨-, rfl⟩ | ⟨-, c₃, hBack, rfl | rfl⟩ := hEnd
    · exact hLoaded
    · exact hBack.proceeds.orderly ((proceeds_withSnapshot c₂).orderly hLoaded)
    · exact (proceeds_withDirty c₃ true).orderly
        (hBack.proceeds.orderly ((proceeds_withSnapshot c₂).orderly hLoaded))

section Calls

variable {load : Operation Unit}

theorem moves_runHooks (hLoad : Moves Proceeds (ensureLoaded load)) :
    Moves Proceeds (runHooks load) := by
  refine hLoad.bind fun _ => (moves_of_quiet moves_needsScheduling).bind fun needs => ?_
  split
  · exact moves_changed
  · exact moves_pure _

theorem moves_callDecorated (hLoad : Moves Proceeds (ensureLoaded load)) (m : DecoratedMethod)
    (given : Call Value) : Moves Proceeds (callDecorated load m given) := by
  intro c
  cases h : outcome (callDecorated load m given) c with
  | mk r c' =>
    obtain ⟨-, rfl⟩ | ⟨r₁, c₁, hHooks, hEnd⟩ := callDecorated_cases h
    · exact Std.Refl.refl _
    have hBefore := (moves_runHooks hLoad).related hHooks
    obtain ⟨-, rfl⟩ | ⟨-, _, delegated, -, -, _, hCalled, -⟩ := hEnd
    · exact hBefore
    · have hQuiet := (moves_callWrapped m.name delegated).related hCalled
      exact IsTrans.trans _ _ _ hBefore
        (IsTrans.trans _ _ _ (proceeds_withDelegation c₁ m.name delegated) hQuiet.proceeds)

theorem moves_perform (hLoad : Moves Proceeds (ensureLoaded load)) (activity : Activity) :
    Moves Proceeds (activity.perform load) := by
  cases activity with
  | call m given => exact moves_callDecorated hLoad m given
  | ensureLoaded => exact hLoad.bind fun _ => moves_pure _
  | changed => exact moves_changed.bind fun _ => moves_pure _
  | setOwner _ _ => exact fun _ => ⟨id, id⟩
  | setDirty isDirty => exact fun c => proceeds_withDirty c isDirty
  | takeSnapshot => exact proceeds_withSnapshot
  | clearSnapshot =>
    exact fun c => ⟨(proceeds_withDirty { c with snapshot := [] } true).orderly, id⟩

end Calls

theorem outcome_observe {α : Type} (x : Operation α) (c : Collection) :
    outcome (observe x) c = (.ok (outcome x c).1, (outcome x c).2) := by
  rw [observe, outcome_tryCatch, map_eq_pure_bind, outcome_bind]
  cases outcome x c with
  | mk r c' => cases r <;> rfl

theorem Loader.proceeds (loader : Loader) (h : c.isInitialized = true) :
    Proceeds c (outcome loader.run c).2 := by
  -- For a call back, the induction hypothesis of the nested loader covers a load during the call.
  induction loader generalizing c with
  | done => exact Std.Refl.refl _
  | fail _ => exact Std.Refl.refl _
  | append elements next ih =>
    rw [run, outcome_modify_bind]
    have hAppended : Proceeds c { c with content := c.content ++ elements } := ⟨id, id⟩
    exact IsTrans.trans _ _ _ hAppended (ih h)
  | perform activity nested next ihNested ihNext =>
    have hActivity := moves_perform (moves_ensureLoaded fun c => ihNested (c := c)) activity c
    rw [run, outcome_bind, outcome_observe]
    dsimp only
    rw [outcome_get_bind]
    exact IsTrans.trans _ _ _ hActivity (ihNext _ _ (hActivity.initialized h))

theorem Loader.isInitialized_load {loader : Loader} {r : Except Failure Unit}
    (h : c.isInitialized = true) (hLoad : outcome loader.load c = (r, c')) :
    c'.isInitialized = true := by
  have hAsked : (c.asked .loading).isInitialized = true := h
  obtain rfl | hRun := outcome_loadBy hLoad
  · exact hAsked
  · have hProceeds := loader.proceeds hAsked
    rw [hRun] at hProceeds
    exact hProceeds.initialized hAsked

theorem IsOrderly.after {run : List RunStep} (h : c.IsOrderly) : (c.after run).IsOrderly := by
  induction run generalizing c with
  | nil => exact h
  | cons step run ih =>
    refine ih ?_
    cases step with
    | perform activity loader =>
      exact (moves_perform (moves_ensureLoaded fun _ => loader.proceeds) activity c).orderly h
    | setInitialized isInitialized =>
      refine Orderly.append h (by simp [Moment.isLoad]) (by simp [Moment.isSchedule]) ?_
        (fun hNot => .inr ⟨hNot, rfl⟩)
      rintro rfl
      exact ⟨rfl, .inl rfl⟩
    | elsewhere _ _ _ => exact h

theorem IsFresh.isOrderly (h : c.IsFresh) : c.IsOrderly := by
  rw [IsOrderly, h.history, h.isInitialized]
  exact {
    loads := by
      intro past hPast
      rw [List.prefix_nil.mp hPast]
      exact Nat.le_refl _
    separated := by simp
    spare := by simp
    unscheduled := by simp [IsUnscheduled] }

/-! ## A call that returns -/

def Undelegated (c c' : Collection) : Prop :=
  ∃ more, (∀ m ∈ more, m.isDelegation = false) ∧ c'.history = c.history ++ more

instance : Std.Refl Undelegated where
  refl _ := ⟨[], by simp, by simp⟩

instance : IsTrans Collection Undelegated where
  trans := by
    rintro _ _ _ ⟨more, hMore, hHistory⟩ ⟨more', hMore', hHistory'⟩
    refine ⟨more ++ more', ?_, by rw [hHistory', hHistory, List.append_assoc]⟩
    intro m hm
    exact (List.mem_append.mp hm).elim (hMore m) (hMore' m)

theorem IsQuiet.isDelegation {m : Moment} (h : IsQuiet m) : m.isDelegation = false := by
  cases m with
  | delegated _ _ => cases h
  | _ => rfl

theorem Quiet.undelegated (h : Quiet c c') : Undelegated c c' := by
  obtain ⟨_, _, _, more, hMore, rfl⟩ := h
  exact ⟨more, fun m hm => (hMore m hm).isDelegation, rfl⟩

theorem undelegated_append {m : Moment} (h : c'.history = c.history ++ [m])
    (hm : m.isDelegation = false) : Undelegated c c' :=
  ⟨[m], by simpa using hm, h⟩

/-- What decides whether a collection has to be loaded or its owner to be scheduled is the same. -/
structure SameGuards (c c' : Collection) : Prop where
  isInitialized : c'.isInitialized = c.isInitialized
  hasMapping : c'.hasMapping = c.hasMapping
  hasUnitOfWork : c'.hasUnitOfWork = c.hasUnitOfWork
  wantsScheduling : c'.wantsScheduling = c.wantsScheduling

theorem Quiet.sameGuards (h : Quiet c c') : SameGuards c c' := by
  obtain ⟨_, _, _, _, -, rfl⟩ := h
  exact ⟨rfl, rfl, rfl, rfl⟩

theorem SameGuards.trans (h : SameGuards c c') (h' : SameGuards c' c'') : SameGuards c c'' where
  isInitialized := h'.isInitialized.trans h.isInitialized
  hasMapping := h'.hasMapping.trans h.hasMapping
  hasUnitOfWork := h'.hasUnitOfWork.trans h.hasUnitOfWork
  wantsScheduling := h'.wantsScheduling.trans h.wantsScheduling

theorem changed_marks {r : Except Failure Unit} (h : outcome changed c = (r, c')) :
    Undelegated c c' ∧ SameGuards c c' ∧ c'.isDirty = true := by
  obtain ⟨hDirty, -, rfl⟩ | ⟨-, c₁, hQuiet, hEnd⟩ := changed_cases h
  · exact ⟨Std.Refl.refl _, ⟨rfl, rfl, rfl, rfl⟩, hDirty⟩
  have hGuards : SameGuards c (c.withDirty true) := ⟨rfl, rfl, rfl, rfl⟩
  have hMarked : Undelegated c c₁ ∧ SameGuards c c₁ ∧ c₁.isDirty = true := by
    refine ⟨IsTrans.trans _ _ _ (undelegated_append rfl rfl) hQuiet.undelegated,
      hGuards.trans hQuiet.sameGuards, ?_⟩
    obtain ⟨_, _, _, _, -, rfl⟩ := hQuiet
    rfl
  obtain rfl | ⟨owner, rfl⟩ := hEnd
  · exact hMarked
  · obtain ⟨hUndelegated, hGuards, hDirty⟩ := hMarked
    exact ⟨IsTrans.trans _ _ _ hUndelegated (undelegated_append rfl rfl),
      hGuards.trans ⟨rfl, rfl, rfl, rfl⟩, hDirty⟩

def IsSettled (c : Collection) : Prop :=
  c.isInitialized = true ∨ c.hasMapping = false ∨ c.hasUnitOfWork = false

theorem SameGuards.isSettled (h : SameGuards c c') (hSettled : c.IsSettled) : c'.IsSettled := by
  rwa [IsSettled, h.isInitialized, h.hasMapping, h.hasUnitOfWork]

theorem ensureLoaded_settles {loader : Loader}
    (h : outcome (ensureLoaded loader.load) c = (.ok (), c')) :
    c'.IsSettled ∧ ∃ c₁ c₂, Undelegated c c₁ ∧
      (c₂ = c₁ ∨ outcome loader.load c₁ = (.ok (), c₂)) ∧ Undelegated c₂ c' := by
  obtain ⟨-, rfl, hSettled⟩ | ⟨-, c₁, hQuiet, ⟨⟨_, ⟨⟩⟩, -⟩ | ⟨r₂, c₂, hLoad, hEnd⟩⟩ :=
    ensureLoaded_cases h
  · exact ⟨hSettled, c', c', Std.Refl.refl _, .inl rfl, Std.Refl.refl _⟩
  obtain ⟨⟨_, -, ⟨⟩⟩, -⟩ | ⟨rfl, c₃, hBack, hEnd⟩ := hEnd
  have hInitialized : c₂.isInitialized = true :=
    Loader.isInitialized_load (hQuiet.proceeds.initialized rfl) hLoad
  have hBefore : Undelegated c c₁ :=
    IsTrans.trans _ _ _ (undelegated_append rfl rfl) hQuiet.undelegated
  have hBehind : Undelegated c₂ c₃ :=
    IsTrans.trans _ _ _ (undelegated_append rfl rfl) hBack.undelegated
  have hStill : c₃.isInitialized = true := hBack.proceeds.initialized hInitialized
  obtain rfl | rfl := hEnd
  · exact ⟨.inl hStill, c₁, c₂, hBefore, .inr hLoad, hBehind⟩
  · exact ⟨.inl hStill, c₁, c₂, hBefore, .inr hLoad,
      IsTrans.trans _ _ _ hBehind (undelegated_append rfl rfl)⟩

theorem runHooks_settles {loader : Loader}
    (h : outcome (runHooks loader.load) c = (.ok (), c')) :
    c'.IsSettled ∧ (c'.wantsScheduling = true → c'.isDirty = true) ∧
      ∃ c₁ c₂, Undelegated c c₁ ∧ (c₂ = c₁ ∨ outcome loader.load c₁ = (.ok (), c₂)) ∧
        Undelegated c₂ c' := by
  obtain ⟨r₀, c₀, hLoad, ⟨⟨_, -, ⟨⟩⟩, -⟩ | ⟨rfl, r₁, c₁, hNeeds, hEnd⟩⟩ := runHooks_cases h
  obtain ⟨⟨_, -, ⟨⟩⟩, -⟩ | ⟨needs, rfl, hEnd⟩ := hEnd
  obtain ⟨hSettled, c₂, c₃, hBefore, hLoaded, hBehind⟩ := ensureLoaded_settles hLoad
  have hQuiet := moves_needsScheduling.related hNeeds
  have hWants : c₁.wantsScheduling = needs.isTruthy :=
    hQuiet.sameGuards.wantsScheduling.trans (isTruthy_needsScheduling hNeeds).symm
  have hThen : Undelegated c₃ c₁ := IsTrans.trans _ _ _ hBehind hQuiet.undelegated
  have hStill := hQuiet.sameGuards.isSettled hSettled
  obtain ⟨hFalsy, rfl⟩ | ⟨-, hChanged⟩ := hEnd
  · refine ⟨hStill, fun hNot => ?_, c₂, c₃, hBefore, hLoaded, hThen⟩
    rw [hWants, hFalsy] at hNot
    cases hNot
  · obtain ⟨hUndelegated, hGuards, hDirty⟩ := changed_marks hChanged
    exact ⟨hGuards.isSettled hStill, fun _ => hDirty, c₂, c₃, hBefore, hLoaded,
      IsTrans.trans _ _ _ hThen hUndelegated⟩

end Collection

open Collection in
/-- In every run of a new collection, loads are never ahead of the resets of the mark of having been
loaded, and between two requests to schedule the owner the mark of a change is reset. And every call
of a forwarding method that returns, in a run, during a load or anywhere else, runs both hooks and
then calls the wrapped collection once, with its own arguments, and hands back what this answers;
nothing is left to be loaded at that moment, and the collection is marked as changed if a change has
to be scheduled. -/
theorem hook_discipline {c : Collection} (hFresh : c.IsFresh) (run : List RunStep) :
    (∀ past, past <+: (c.after run).history →
      past.countP Moment.isLoad ≤ past.countP Moment.isReset) ∧
    (∀ a b d owner owner',
      (c.after run).history
        = a ++ .asked (.scheduled owner) :: b ++ .asked (.scheduled owner') :: d →
      .dirty false ∈ b) ∧
    ∀ (c c' : Collection) (loader : Loader) (m : DecoratedMethod) (given : Call Value)
      (answer : Answer), outcome (callDecorated loader.load m given) c = (.ok answer, c') →
      ∃ c₁ c₂ c₃ bindings delegated result,
        Undelegated c c₁ ∧ (c₂ = c₁ ∨ outcome loader.load c₁ = (.ok (), c₂)) ∧
        Undelegated c₂ c₃ ∧ outcome (runHooks loader.load) c = (.ok (), c₃) ∧
        (c₃.isInitialized = true ∨ c₃.hasMapping = false ∨ c₃.hasUnitOfWork = false) ∧
        (∀ needs c₄, outcome needsScheduling c₃ = (.ok needs, c₄) → needs.isTruthy = true →
          c₃.isDirty = true) ∧
        Formal.bind m.formals { given with positional := .none :: given.positional }
          = some bindings ∧
        CallArgument.evaluateAll bindings m.arguments = some delegated ∧
        outcome (callWrapped m.name delegated) (c₃.withDelegation m.name delegated)
          = (.ok result, c') ∧
        handBack m result = .ok answer ∧
        Undelegated (c₃.withDelegation m.name delegated) c' := by
  have hOrderly : (c.after run).IsOrderly := hFresh.isOrderly.after
  refine ⟨hOrderly.loads, hOrderly.separated, ?_⟩
  intro c c' loader m given answer h
  obtain ⟨⟨_, ⟨⟩⟩, -⟩ | ⟨r₁, c₃, hHooks, ⟨⟨_, ⟨⟩⟩, -⟩ | ⟨rfl, bindings, delegated, hBindings,
    hDelegated, r₂, hCalled, hHanded⟩⟩ := callDecorated_cases h
  obtain ⟨result, rfl, hBack⟩ := Sequence.bind_eq_ok_iff.mp hHanded.symm
  obtain ⟨hSettled, hMarked, c₁, c₂, hBefore, hLoaded, hBehind⟩ := runHooks_settles hHooks
  have hQuiet := (moves_callWrapped m.name delegated).related hCalled
  refine ⟨c₁, c₂, c₃, bindings, delegated, result, hBefore, hLoaded, hBehind, hHooks, hSettled, ?_,
    hBindings, hDelegated, hCalled, hBack, hQuiet.undelegated⟩
  intro needs c₄ hNeeds hTruthy
  exact hMarked ((isTruthy_needsScheduling hNeeds).symm.trans hTruthy)

namespace Collection.Sample

def add : DecoratedMethod where
  name := "append"
  isAsync := false
  returnsResult := false
  formals := [⟨"self", .positionalOrKeyword, none⟩, ⟨"item", .positionalOrKeyword, none⟩]
  arguments := [.positional "item"]

def given : Call Value := ⟨[.object "new"], []⟩

/-- A loader that finds one element and adds another one through the collection itself. -/
def loader : Loader :=
  .append ["stored"] (.perform (.call add given) .done fun _ _ => .done)

/-- The collection gets an owner and counts as not loaded; then an element is added, the change is
taken note of, and another one is added. -/
def steps : List RunStep :=
  [.perform (.setOwner (some "owner") (some [("is_owning_side", .bool true)])) .done,
    .setInitialized false, .perform (.call add given) loader,
    .perform .takeSnapshot .done, .perform (.call add given) loader]

theorem fresh : IsFresh {} := ⟨rfl, rfl, rfl, rfl, rfl, rfl, rfl⟩

end Collection.Sample

open Collection Collection.Sample in
/-- The collection has been loaded once, with a call back in between. The call in which it is loaded
returns; at that moment nothing is left to be loaded, and the wrapped collection is called. -/
theorem hook_discipline_of_steps :
    (after {} steps).history.countP Moment.isLoad = 1 ∧
    1 ≤ (after {} steps).history.countP Moment.isReset ∧
    ∃ c₃ c', outcome (callDecorated loader.load add given) (after {} (steps.take 2))
        = (.ok .nothing, c') ∧
      outcome (runHooks loader.load) (after {} (steps.take 2)) = (.ok (), c₃) ∧
      (c₃.isInitialized = true ∨ c₃.hasMapping = false ∨ c₃.hasUnitOfWork = false) ∧
      ∃ delegated result, outcome (callWrapped "append" delegated)
        (c₃.withDelegation "append" delegated) = (.ok result, c') := by
  obtain ⟨hLoads, -, hCalls⟩ := hook_discipline fresh steps
  have hOnce : (after {} steps).history.countP Moment.isLoad = 1 := by decide +kernel
  have hAnswer : (outcome (callDecorated loader.load add given)
      (after {} (steps.take 2))).1.toOption = some .nothing := by decide +kernel
  cases hReturns : outcome (callDecorated loader.load add given) (after {} (steps.take 2)) with
  | mk r c' =>
    rw [hReturns] at hAnswer
    cases r with
    | error _ => cases hAnswer
    | ok answer =>
      cases hAnswer
      obtain ⟨_, _, c₃, _, _, _, -, -, -, hHooks, hSettled, -, -, -, hCalled, -, -⟩ :=
        hCalls _ c' loader add given _ hReturns
      exact ⟨hOnce, hOnce ▸ hLoads _ List.prefix_rfl, c₃, c', rfl, hHooks, hSettled, _, _, hCalled⟩

end Interpose

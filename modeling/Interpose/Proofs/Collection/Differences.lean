import Mathlib.Data.List.Count
import Mathlib.Data.Multiset.AddSub
import Interpose.Proofs.Collection.Operations

/-! # Differences from the snapshot

The two differences of a collection hold what only the snapshot has, and what only the collection
has. Within a difference, an element stands as often as it was added or removed; but an element that
both have is in neither, even if one has it more often. The differences account for every change
exactly if no such element has changed its count, and only then does a collection without changes
hold what the snapshot holds.
-/
namespace Interpose

set_option autoImplicit false

open Stateful

namespace Collection

variable {c : Collection}

/-- The snapshot without the deleted elements and with the inserted ones. -/
def patched (c : Collection) : Multiset Element :=
  (c.snapshot : Multiset Element) - c.deleteDiff + c.insertDiff

/-- What the snapshot and the collection share, both hold equally often. -/
def KeepsCounts (c : Collection) : Prop :=
  ∀ e ∈ c.snapshot, e ∈ c.content → c.snapshot.count e = c.content.count e

theorem count_filter_not_contains (known elements : List Element) (e : Element) :
    (elements.filter fun e => !known.contains e).count e
      = if e ∈ known then 0 else elements.count e := by
  split
  next hKnown =>
    rw [List.count_eq_zero, List.mem_filter]
    rintro ⟨-, hNew⟩
    simp [hKnown] at hNew
  next hNew => exact List.count_filter (by simpa using hNew)

theorem count_patched (c : Collection) (e : Element) :
    c.patched.count e
      = if e ∈ c.snapshot ∧ e ∈ c.content then c.snapshot.count e else c.content.count e := by
  rw [patched, Multiset.count_add, Multiset.count_sub, Multiset.coe_count, Multiset.coe_count,
    Multiset.coe_count, deleteDiff, insertDiff, count_filter_not_contains,
    count_filter_not_contains]
  by_cases hSnapshot : e ∈ c.snapshot <;> by_cases hContent : e ∈ c.content
  · simp [hSnapshot, hContent]
  · simp [hSnapshot, hContent, List.count_eq_zero_of_not_mem hContent]
  · simp [hSnapshot, hContent, List.count_eq_zero_of_not_mem hSnapshot]
  · simp [hSnapshot, hContent, List.count_eq_zero_of_not_mem hSnapshot]

theorem patched_eq_content_iff : c.patched = c.content ↔ c.KeepsCounts := by
  rw [Multiset.ext]
  simp only [count_patched, Multiset.coe_count]
  constructor
  · intro hCounts e hSnapshot hContent
    rw [← hCounts e, if_pos ⟨hSnapshot, hContent⟩]
  · intro hKeeps e
    split
    next hShared => exact hKeeps e hShared.1 hShared.2
    next => rfl

theorem keepsCounts_of_nodup (hSnapshot : c.snapshot.Nodup) (hContent : c.content.Nodup) :
    c.KeepsCounts := by
  intro e hOld hNew
  rw [List.count_eq_one_of_mem hSnapshot hOld, List.count_eq_one_of_mem hContent hNew]

theorem filter_not_contains_eq_nil_iff {known elements : List Element} :
    (elements.filter fun e => !known.contains e) = [] ↔ ∀ e ∈ elements, e ∈ known := by
  simp [List.filter_eq_nil_iff]

/-- A collection without the mark of a change is found unchanged by what it holds, not by how
often. -/
theorem hasChanged_eq_false_iff (hInitialized : c.isInitialized = true)
    (hUnmarked : c.isDirty = false) :
    c.hasChanged = false ↔ ∀ e, e ∈ c.content ↔ e ∈ c.snapshot := by
  have hNone : c.hasChanged = false ↔ c.insertDiff = [] ∧ c.deleteDiff = [] := by
    simp [hasChanged, hInitialized, hUnmarked]
  rw [hNone, insertDiff, deleteDiff, filter_not_contains_eq_nil_iff,
    filter_not_contains_eq_nil_iff]
  exact ⟨fun ⟨hNew, hOld⟩ e => ⟨hNew e, hOld e⟩,
    fun hSame => ⟨fun e => (hSame e).1, fun e => (hSame e).2⟩⟩

theorem KeepsCounts.perm_iff (hKeeps : c.KeepsCounts) :
    c.content.Perm c.snapshot ↔ ∀ e, e ∈ c.content ↔ e ∈ c.snapshot := by
  constructor
  · intro hPerm e
    exact hPerm.mem_iff
  · intro hSame
    rw [List.perm_iff_count]
    intro e
    by_cases hContent : e ∈ c.content
    · exact (hKeeps e ((hSame e).1 hContent) hContent).symm
    · have hSnapshot : e ∉ c.snapshot := fun hOld => hContent ((hSame e).2 hOld)
      rw [List.count_eq_zero_of_not_mem hContent, List.count_eq_zero_of_not_mem hSnapshot]

end Collection

/-- Applied to the snapshot, the differences give the elements of the collection with one exception:
an element that both hold is counted as in the snapshot. So they account for every change exactly if
no shared element has changed its count, as when no element is held twice. A loaded collection
without the mark of a change is found unchanged exactly if it holds the elements of the snapshot,
however often; where shared elements keep their counts, that is to hold them equally often. -/
theorem differences_account_but_for_counts (c : Collection) :
    (∀ e, c.patched.count e
      = if e ∈ c.snapshot ∧ e ∈ c.content then c.snapshot.count e else c.content.count e) ∧
    (c.patched = c.content ↔ c.KeepsCounts) ∧
    (c.snapshot.Nodup → c.content.Nodup → c.KeepsCounts) ∧
    (c.isInitialized = true → c.isDirty = false →
      (c.hasChanged = false ↔ ∀ e, e ∈ c.content ↔ e ∈ c.snapshot) ∧
      (c.KeepsCounts → (c.hasChanged = false ↔ c.content.Perm c.snapshot))) := by
  refine ⟨c.count_patched, Collection.patched_eq_content_iff, Collection.keepsCounts_of_nodup, ?_⟩
  intro hInitialized hUnmarked
  have hFound := Collection.hasChanged_eq_false_iff hInitialized hUnmarked
  exact ⟨hFound, fun hKeeps => hFound.trans hKeeps.perm_iff.symm⟩

namespace Collection.Sample

/-- One element was removed and another one added, which also stands there twice. -/
def changed : Collection where
  content := ["kept", "new", "new"]
  snapshot := ["old", "kept"]

end Collection.Sample

open Collection.Sample in
/-- New elements are counted, so the differences turn the snapshot into the collection. -/
theorem differences_account_but_for_counts_of_changed :
    changed.insertDiff = ["new", "new"] ∧ changed.deleteDiff = ["old"] ∧
      changed.patched = changed.content ∧ changed.hasChanged = true ∧
      ¬ changed.content.Perm changed.snapshot := by
  obtain ⟨-, hPatched, -, hUnmarked⟩ := differences_account_but_for_counts changed
  have hKeeps : changed.KeepsCounts := by
    unfold Collection.KeepsCounts
    decide
  have hFound := (hUnmarked rfl rfl).2 hKeeps
  have hChanged : changed.hasChanged = true := by decide
  refine ⟨by decide, by decide, hPatched.2 hKeeps, hChanged, fun hPerm => ?_⟩
  exact Bool.noConfusion (hChanged.symm.trans (hFound.2 hPerm))

open Collection in
/-- An element of the snapshot is added once more: neither difference holds it, and the collection
is found unchanged. -/
theorem repeated_element_not_found :
    ∃ c, outcome (do takeSnapshot; callWrapped "append" ⟨[.object "a"], []⟩) { content := ["a"] }
        = (.ok .object, c) ∧
      c.snapshot = ["a"] ∧ c.content = ["a", "a"] ∧ c.isInitialized = true ∧ c.isDirty = false ∧
      c.insertDiff = [] ∧ c.deleteDiff = [] ∧ c.hasChanged = false ∧
      c.patched ≠ c.content ∧ ¬ c.content.Perm c.snapshot := by
  refine ⟨_, rfl, rfl, rfl, rfl, rfl, rfl, rfl, rfl, fun hPatched => ?_, ?_⟩
  · have hKeeps := patched_eq_content_iff.1 hPatched "a" List.mem_cons_self List.mem_cons_self
    exact absurd hKeeps (by decide)
  · exact fun hPerm => absurd hPerm.length_eq (by decide)

end Interpose

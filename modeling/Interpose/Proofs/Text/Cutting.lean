import Interpose.Text.Dotted
import Mathlib.Data.List.TakeWhile

/-! # Cutting text

A text that is cut at a mark is joined again with the mark between the parts. Where a text goes on
with what passes a test and then does not, it is cut there.
-/
namespace Interpose.Text

set_option autoImplicit false

/-! ## At a test -/

section Test

variable {test : Char → Bool} {cs rest : List Char}

theorem takeWhile_append_of_ends (hFront : ∀ c ∈ cs, test c = true)
    (hRest : ∀ c ∈ rest.head?, test c = false) : (cs ++ rest).takeWhile test = cs := by
  rw [List.takeWhile_append_of_pos hFront]
  cases rest with
  | nil => rw [List.takeWhile_nil, List.append_nil]
  | cons c rest =>
    rw [List.takeWhile_cons_of_neg (Bool.eq_false_iff.1 (hRest c rfl)), List.append_nil]

theorem dropWhile_append_of_ends (hFront : ∀ c ∈ cs, test c = true)
    (hRest : ∀ c ∈ rest.head?, test c = false) : (cs ++ rest).dropWhile test = rest := by
  rw [List.dropWhile_append_of_pos hFront]
  cases rest with
  | nil => rfl
  | cons c rest => rw [List.dropWhile_cons_of_neg (Bool.eq_false_iff.1 (hRest c rfl))]

end Test

/-! ## At a mark -/

theorem join_cutAll (mark : Char) (cs : List Char) :
    ∃ part parts, cutAll mark cs = part :: parts ∧ part ++ parts.flatMap (mark :: ·) = cs := by
  induction cs with
  | nil => exact ⟨[], [], rfl, rfl⟩
  | cons c cs ih =>
    obtain ⟨part, parts, hCut, hJoin⟩ := ih
    rw [cutAll]
    by_cases hMark : c = mark
    · refine ⟨[], part :: parts, by rw [if_pos hMark, hCut], ?_⟩
      rw [List.flatMap_cons, List.nil_append, List.cons_append, hJoin, hMark]
    · refine ⟨c :: part, parts, by rw [if_neg hMark, hCut], ?_⟩
      rw [List.cons_append, hJoin]

theorem cutAll_append (mark : Char) (cs ds : List Char) :
    cutAll mark (cs ++ mark :: ds) = cutAll mark cs ++ cutAll mark ds := by
  induction cs with
  | nil => simp [cutAll]
  | cons c cs ih =>
    rw [List.cons_append, cutAll, cutAll, ih]
    by_cases hMark : c = mark
    · rw [if_pos hMark, if_pos hMark, List.cons_append]
    · obtain ⟨part, parts, hCut, -⟩ := join_cutAll mark cs
      rw [if_neg hMark, if_neg hMark, hCut]
      rfl

section Mark

variable {mark : Char} {part cs ds : List Char}

theorem cutAll_of_not_mem (h : mark ∉ cs) : cutAll mark cs = [cs] := by
  induction cs with
  | nil => rfl
  | cons c cs ih =>
    obtain ⟨hFirst, hOthers⟩ := List.ne_and_not_mem_of_not_mem_cons h
    rw [cutAll, if_neg hFirst.symm, ih hOthers]

/-- What is added at the end, without the mark, is added to the last part. -/
theorem cutAll_append_of_not_mem (cs : List Char) (h : mark ∉ ds) :
    ∃ parts part, cutAll mark cs = parts ++ [part] ∧
      cutAll mark (cs ++ ds) = parts ++ [part ++ ds] := by
  induction cs with
  | nil => exact ⟨[], [], rfl, cutAll_of_not_mem h⟩
  | cons c cs ih =>
    obtain ⟨parts, part, hCut, hMore⟩ := ih
    rw [List.cons_append, cutAll, cutAll, hCut, hMore]
    by_cases hMark : c = mark
    · rw [if_pos hMark, if_pos hMark]
      exact ⟨[] :: parts, part, rfl, rfl⟩
    · rw [if_neg hMark, if_neg hMark]
      cases parts with
      | nil => exact ⟨[], c :: part, rfl, rfl⟩
      | cons first parts => exact ⟨(c :: first) :: parts, part, rfl, rfl⟩

theorem subset_of_mem_cutAll (h : part ∈ cutAll mark cs) : part ⊆ cs := by
  induction cs generalizing part with
  | nil =>
    rw [List.mem_singleton.mp h]
    exact List.Subset.refl []
  | cons c cs ih =>
    rw [cutAll] at h
    split at h
    · rcases List.mem_cons.mp h with rfl | h
      · exact List.nil_subset _
      · exact List.Subset.trans (ih h) (List.subset_cons_self c cs)
    · cases hCut : cutAll mark cs with
      | nil =>
        rw [hCut] at h
        rw [List.mem_singleton.mp h]
        exact List.cons_subset_cons c (List.nil_subset cs)
      | cons first parts =>
        rw [hCut] at h ih
        rcases List.mem_cons.mp h with rfl | h
        · exact List.cons_subset_cons c (ih List.mem_cons_self)
        · exact List.Subset.trans (ih (List.mem_cons_of_mem _ h)) (List.subset_cons_self c cs)

end Mark

section Halves

variable {mark : Char} {text before after : String}

theorem forall_bne_of_not_mem {cs : List Char} (h : mark ∉ cs) : ∀ c ∈ cs, (c != mark) = true := by
  intro c hMem
  rw [bne_iff_ne]
  rintro rfl
  exact h hMem

theorem cutFirst_of_split (h : text.toList = before.toList ++ mark :: after.toList)
    (hBefore : mark ∉ before.toList) : cutFirst mark text = some (before, after) := by
  have hOther := forall_bne_of_not_mem hBefore
  have hEnds : ∀ c ∈ (mark :: after.toList).head?, (c != mark) = false := by simp
  rw [cutFirst, h, takeWhile_append_of_ends hOther hEnds, dropWhile_append_of_ends hOther hEnds]
  simp only [String.ofList_toList]

theorem cutFirst_of_not_mem (h : mark ∉ text.toList) : cutFirst mark text = none := by
  rw [cutFirst, List.dropWhile_eq_nil_iff.2 (forall_bne_of_not_mem h)]

theorem cutLast_of_split (h : text.toList = before.toList ++ mark :: after.toList)
    (hAfter : mark ∉ after.toList) : cutLast mark text = (before, after) := by
  have hOther := forall_bne_of_not_mem (mt List.mem_reverse.1 hAfter)
  have hEnds : ∀ c ∈ (mark :: before.toList.reverse).head?, (c != mark) = false := by simp
  have hReverse : text.toList.reverse = after.toList.reverse ++ mark :: before.toList.reverse := by
    rw [h, List.reverse_append, List.reverse_cons, List.append_assoc, List.singleton_append]
  rw [cutLast, hReverse, takeWhile_append_of_ends hOther hEnds,
    dropWhile_append_of_ends hOther hEnds]
  simp only [List.reverse_reverse, String.ofList_toList]

end Halves

end Interpose.Text

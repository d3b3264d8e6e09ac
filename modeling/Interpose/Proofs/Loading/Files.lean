import Interpose.Proofs.Loading.Steps
import Interpose.Proofs.Storage.Independence
import Interpose.Proofs.Text.Cutting

/-! # The files of generated classes

The name of a file comes from the name of a class, without the points; slashes in it lead to
directories. So only the last part of it has a point, and no file is in the way of another one.
-/
namespace Interpose

set_option autoImplicit false

namespace Storage

variable {above above' after : List String} {last last' : String}

/-- The last part has a point but does not lead up; those above it have none. -/
structure IsFileName (above : List String) (last : String) : Prop where
  unpointed : ∀ part ∈ above, '.' ∉ part.toList
  pointed : '.' ∈ last.toList
  ne : last ≠ ".."

theorem IsFileName.down (h : IsFileName above last) : ".." ∉ above ++ [last] := by
  rw [List.mem_append, List.mem_singleton]
  rintro (hAbove | hLast)
  · exact h.unpointed _ hAbove (by decide)
  · exact h.ne hLast.symm

/-- A name that goes on from a file goes through its last part. -/
theorem IsFileName.eq_of_prefix (h : IsFileName above last) (h' : IsFileName above' last')
    (hPrefix : above ++ [last] <+: above' ++ [last']) :
    above ++ [last] = above' ++ [last'] := by
  obtain hSame | hAbove := List.prefix_concat_iff.mp hPrefix
  · exact hSame
  · have hLast : last ∈ above' := hAbove.subset (List.mem_append_right _ List.mem_cons_self)
    exact absurd h.pointed (h'.unpointed last hLast)

theorem IsFileName.areApart (h : IsFileName above last) (h' : IsFileName above' last')
    (hDown : ".." ∉ after) (hOther : above ++ [last] ≠ above' ++ [last']) :
    AreApart (after ++ (above ++ [last])) (after ++ (above' ++ [last'])) where
  down := by
    rw [List.mem_append, not_or]
    exact ⟨hDown, h.down⟩
  down' := by
    rw [List.mem_append, not_or]
    exact ⟨hDown, h'.down⟩
  apart hPrefix := hOther (h.eq_of_prefix h' ((List.prefix_append_right_inj after).mp hPrefix))
  apart' hPrefix :=
    hOther.symm (h'.eq_of_prefix h ((List.prefix_append_right_inj after).mp hPrefix))

end Storage

namespace Generator

variable {g : Generator} {c d : ClassRef} {s : Storage FileContent}

open Storage (IsFileName)

theorem isFileName_shortName (fullName : String) :
    ∃ above last, (StorePath.ofText (shortName fullName ++ ".py")).parts = above ++ [last] ∧
      IsFileName above last := by
  have hExtension : '/' ∉ ".py".toList := by decide
  obtain ⟨parts, part, hCut, hMore⟩ :=
    Text.cutAll_append_of_not_mem (shortName fullName).toList hExtension
  have hUnpointed : '.' ∉ (shortName fullName).toList := by
    simp [shortName, String.toList_append]
  have hOther : ∀ name : String, 'p' ∉ name.toList →
      String.ofList (part ++ ".py".toList) ≠ name := by
    rintro _ hLetter rfl
    rw [String.toList_ofList] at hLetter
    exact hLetter (List.mem_append_right _ (by decide))
  refine ⟨(parts.map String.ofList).filter fun part => part != "" && part != ".",
    String.ofList (part ++ ".py".toList), ?_, ?_, ?_, hOther ".." (by decide)⟩
  · have hKept : (String.ofList (part ++ ".py".toList) != ""
        && String.ofList (part ++ ".py".toList) != ".") = true := by
      rw [Bool.and_eq_true, bne_iff_ne, bne_iff_ne]
      exact ⟨hOther "" (by decide), hOther "." (by decide)⟩
    rw [StorePath.ofText, String.toList_append, hMore, List.map_append, List.filter_append,
      List.map_singleton, List.filter_singleton, hKept]
    rfl
  · intro named hNamed hPoint
    obtain ⟨cs, hcs, rfl⟩ := List.mem_map.mp (List.mem_of_mem_filter hNamed)
    rw [String.toList_ofList] at hPoint
    exact hUnpointed (Text.subset_of_mem_cutAll (hCut ▸ List.mem_append_left _ hcs) hPoint)
  · rw [String.toList_ofList]
    exact List.mem_append_right _ (by decide)

theorem exists_parts_fileFor (g : Generator) (c : ClassRef) :
    ∃ above last, g.fileFor c = { StorePath.ofText g.directory with
        parts := (StorePath.ofText g.directory).parts ++ (above ++ [last]) } ∧
      IsFileName above last := by
  obtain ⟨above, last, hFile, hName⟩ := isFileName_shortName c.fullName
  refine ⟨above, last, ?_, hName⟩
  rw [fileFor, classFile, StorePath.child, hFile]

/-- What is done with the file of one class does not matter to the file of another one. -/
theorem exists_areIndependent (hFiles : g.fileFor c ≠ g.fileFor d) (hTree : s.IsTree)
    (hStraight : s.IsStraight [] (StorePath.ofText g.directory).parts)
    {device : Device FileContent} (hRemoves : device.allow .cleanUp = .ok ()) :
    ∃ base rest rest', s.AreIndependent device base (g.fileFor c) rest (g.fileFor d) rest' := by
  obtain ⟨above, last, hFile, hName⟩ := exists_parts_fileFor g c
  obtain ⟨above', last', hFile', hName'⟩ := exists_parts_fileFor g d
  have hOther : above ++ [last] ≠ above' ++ [last'] := by
    intro hSame
    rw [hFile, hFile', hSame] at hFiles
    exact hFiles rfl
  obtain ⟨before, after, hParts, hThere, hAfter⟩ := hStraight.split hTree rfl
  rw [hFile, hFile']
  refine ⟨before.foldl Storage.step [], after ++ (above ++ [last]), after ++ (above' ++ [last']),
    ?_⟩
  have hPath : ∀ parts,
      (StorePath.ofText g.directory).parts ++ parts = before ++ (after ++ parts) :=
    fun parts => by rw [hParts, List.append_assoc]
  obtain hDown | ⟨part, more, content, rfl, hItem⟩ := hAfter
  · have hApart := hName.areApart hName' hDown hOther
    exact hApart.areIndependent hRemoves hTree ⟨hPath _, hThere, hApart.down⟩
      ⟨hPath _, hThere, hApart.down'⟩
  · have hBlocked : ∀ above : List String, ∀ last,
        ∃ part' more' content', part :: more ++ (above ++ [last]) = part' :: more' ∧ more' ≠ [] ∧
          s.item? (Storage.step (before.foldl Storage.step []) part') = some (.file content') :=
      fun above last => ⟨part, more ++ (above ++ [last]), content, rfl, by simp, hItem⟩
    exact Storage.IsBlocked.areIndependent ⟨hPath _, hThere, hBlocked above last⟩
      ⟨hPath _, hThere, hBlocked above' last'⟩

theorem classNameFor_ne (hFiles : g.fileFor c ≠ g.fileFor d) :
    g.classNameFor c ≠ g.classNameFor d := by
  intro hSame
  have hShort : shortName c.fullName = shortName d.fullName := by
    have hChars := congrArg String.toList hSame
    simp only [classNameFor, String.toList_append] at hChars
    exact String.toList_inj.mp (List.append_cancel_left hChars)
  rw [fileFor, fileFor, hShort] at hFiles
  exact hFiles rfl

end Generator
end Interpose

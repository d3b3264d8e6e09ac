import Interpose.Proofs.Loading.Steps
import Interpose.Proofs.Storage.Ways

/-! # What a load writes

A load writes at most the file of a class that is not defined, and only if the policy says so. The
file is then there with the whole source of the class or is what it was, whatever fails on the way.
All else that can be new are directories that its path leads through and, if not even that can be
removed again, the file beside. The same holds when a class is generated into a directory, and a
class that is returned can be read back.
-/
namespace Interpose

set_option autoImplicit false

open Stateful

/-- Where no part leads up, a path leads through nothing but the directories above its place. -/
theorem StorePath.isAbove_of_down {path : StorePath} {d : List String} (hDown : ".." ∉ path.parts)
    (h : d ∈ path.ancestors) : d <+: path.place ∧ d ≠ path.place := by
  obtain ⟨first, hFirst, hPrefix, rfl⟩ :=
    (Storage.mem_placesAlong_iff (Storage.down_dropLast hDown)).mp h
  have hPlace : path.place = path.parts := Storage.foldl_step_of_down hDown
  have hLength := hPrefix.length_le
  rw [List.length_dropLast] at hLength
  have hSome : 0 < d.length := List.length_pos_iff.mpr hFirst
  rw [hPlace]
  refine ⟨hPrefix.trans (List.dropLast_prefix _), fun hSame => ?_⟩
  have hLengths : d.length = path.parts.length := congrArg List.length hSame
  omega

namespace Generator

variable {g : Generator} {world : World} {target : TargetRef} {p : Workspace}

theorem generateIn_cases {directory : String} {r : Except Failure GeneratedClass} {p' : Workspace}
    (h : outcome (g.generateIn world target directory) p = (r, p')) :
    (∃ failure, r = .error failure ∧ p' = p) ∨
      ∃ c source written s, target.resolve world = .ok c ∧
        sourceFor ⟨world, p.modules⟩ (.cls c) (g.classNameFor c) = .ok source ∧
        p.storage.Leaves p.device (classFile directory (shortName c.fullName)) (.generated source)
          written s ∧
        p' = { p with storage := s } ∧
        ((∃ failure, written = .error failure ∧ r = .error failure) ∨
          ∃ generated, written = .ok () ∧ r = .ok generated ∧ generated.source = source ∧
            generated.path = some (classFile directory (shortName c.fullName)) ∧
            s.read (classFile directory (shortName c.fullName)) = .ok (.generated source)) := by
  obtain hRefused | ⟨c, hTarget, hGenerate⟩ := outcome_lift_bind_cases h
  · exact .inl hRefused
  · refine (generateClass_file_cases hGenerate).imp_right ?_
    rintro ⟨source, written, s, hSource, hLeaves, hLeft, hEnd, hRead⟩
    refine ⟨c, source, written, s, hTarget, hSource, hLeaves, hLeft, ?_⟩
    cases written with
    | error failure => exact .inl ⟨failure, rfl, hEnd⟩
    | ok _ => exact .inr ⟨_, rfl, hEnd, rfl, rfl, hRead rfl⟩

theorem generateIn_left (g : Generator) (world : World) (target : TargetRef) (directory : String)
    (p : Workspace) :
    (outcome (g.generateIn world target directory) p).2
      = { p with storage := (outcome (g.generateIn world target directory) p).2.storage } := by
  cases h : outcome (g.generateIn world target directory) p with
  | mk r p' =>
    obtain ⟨_, -, rfl⟩ | ⟨_, _, _, _, -, -, -, rfl, -⟩ := generateIn_cases h
    · rfl
    · rfl

theorem Loads.storage {policy : Value} {r : Except Failure String} {p' : Workspace}
    (h : g.Loads world target policy p r p') :
    p'.storage = p.storage ∨
      ∃ c chosen source written, target.resolve world = .ok c ∧
        Policy.ofValue policy = .ok chosen ∧ p.IsFree g.registry (g.classNameFor c) ∧
        (chosen = .always ∨ chosen = .ifMissing ∧ p.storage.exists? (g.fileFor c) = false) ∧
        sourceFor ⟨world, p.modules⟩ (.cls c) (g.classNameFor c) = .ok source ∧
        p.storage.Leaves p.device (g.fileFor c) (.generated source) written p'.storage := by
  cases h with
  | refused _ => exact .inl rfl
  | registered _ _ _ => exact .inl rfl
  | adopted _ _ _ _ => exact .inl rfl
  | ungenerated failure hTarget hFree hPolicy hStorage =>
    cases hStorage with
    | untouched => exact .inl rfl
    | written hAllowed hSource hLeaves =>
      exact .inr ⟨_, _, _, _, hTarget, hPolicy, hFree, hAllowed, hSource, hLeaves⟩
  | ran hTarget hFree hPolicy hStorage hRan =>
    have hLeft := hRan.storage
    dsimp only at hLeft
    rw [hLeft]
    cases hStorage with
    | untouched => exact .inl rfl
    | written hAllowed hSource hLeaves =>
      exact .inr ⟨_, _, _, _, hTarget, hPolicy, hFree, hAllowed, hSource, hLeaves⟩

end Generator

/-- Loading changes the storage only to write the file of a class that is not defined, and only as
the policy says; generating a class into a directory changes nothing but the storage. What is
written is the whole source or nothing, with the directories that the path leads through; these are
above the file if no part of the path leads up. If a step of writing fails and the file beside
cannot be removed, this one stays. -/
theorem loading_storage_frame (g : Generator) (world : World) (target : TargetRef)
    (p : Workspace) :
    (∀ policy,
      let left := (outcome (g.load world target policy) p).2.storage
      left = p.storage ∨
        ∃ c chosen source written, target.resolve world = .ok c ∧
          Policy.ofValue policy = .ok chosen ∧ p.IsFree g.registry (g.classNameFor c) ∧
          (chosen = .always ∨ chosen = .ifMissing ∧ p.storage.exists? (g.fileFor c) = false) ∧
          sourceFor ⟨world, p.modules⟩ (.cls c) (g.classNameFor c) = .ok source ∧
          p.storage.Leaves p.device (g.fileFor c) (.generated source) written left) ∧
    (∀ directory,
      let done := outcome (g.generateIn world target directory) p
      (∃ failure, done = (.error failure, p)) ∨
        ∃ c source written left, target.resolve world = .ok c ∧
          sourceFor ⟨world, p.modules⟩ (.cls c) (g.classNameFor c) = .ok source ∧
          p.storage.Leaves p.device (classFile directory (shortName c.fullName))
            (.generated source) written left ∧
          done.2 = { p with storage := left } ∧
          ((∃ failure, written = .error failure ∧ done.1 = .error failure) ∨
            ∃ generated, written = .ok () ∧ done.1 = .ok generated ∧ generated.source = source ∧
              generated.path = some (classFile directory (shortName c.fullName)) ∧
              left.read (classFile directory (shortName c.fullName))
                = .ok (.generated source))) ∧
    ∀ path : StorePath, ".." ∉ path.parts →
      ∀ d ∈ path.ancestors, d <+: path.place ∧ d ≠ path.place := by
  refine ⟨fun policy => (Generator.load_cases rfl).storage, fun directory => ?_,
    fun path hDown d => StorePath.isAbove_of_down hDown⟩
  refine (Generator.generateIn_cases rfl).imp_left ?_
  rintro ⟨failure, hFails, hSame⟩
  exact ⟨failure, Prod.ext hFails hSame⟩

namespace Loading.Sample

/-- A program whose storage lets entries be added, but neither moved nor removed. -/
def appendOnly : Workspace where
  device :=
    { incomplete := .plain ""
      faults := [(.replace, .directoryNotWritable "out"), (.cleanUp, .directoryNotWritable "out")] }

/-- A generator whose directory goes up from where there may be nothing yet. -/
def ascending : Generator := ⟨"a/../b", "ns", "r"⟩

end Loading.Sample

open Loading.Sample in
/-- A load can leave more than a file and directories above it: the file beside where this cannot be
removed, and a directory that the path leads up from again. -/
theorem loading_leaves_more :
    (let left := (outcome (generator.load world (.cls target) (.str "always")) appendOnly).2.storage
      let beside := ["out", "mCPersistent.py.___"]
      appendOnly.storage.item? beside = none ∧ (left.item? beside).isSome = true ∧
        beside ≠ (generator.fileFor target).place ∧
        ¬ beside <+: (generator.fileFor target).place) ∧
      let left := (outcome (ascending.load world (.cls target) (.str "always")) {}).2.storage
      left.isDirectory ["a"] = true ∧ ¬ ["a"] <+: (ascending.fileFor target).place :=
  ⟨⟨rfl, rfl, by decide, by decide⟩, rfl, by decide⟩

end Interpose

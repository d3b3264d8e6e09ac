import Interpose.Generator
import Interpose.Proofs.Storage.Writing

/-! # What a load does

A load that is not refused at once either finds a class that is defined already, takes over one
that another registry has defined, or provides it: it may write the file, as the policy says, and
then runs the module once. The rules below say in each case which workspace is left; whatever is
known of a load follows from them.
-/
namespace Interpose

set_option autoImplicit false

open Stateful

namespace Workspace

variable {world : World} {p p' : Workspace} {id name : String} {v : Value}

def enter (p : Workspace) (id name : String) (v : Value) : Workspace :=
  let entries := Entries.insertIfNew name v (p.registry id)
  { p with registries := Entries.insert id entries p.registries }

def IsFree (p : Workspace) (id name : String) : Prop :=
  p.registered? id name = some .none ∨
    p.registered? id name = none ∧ p.modules.lookup name = none

theorem registered?_enter_self (p : Workspace) (id name : String) (v : Value) :
    (p.enter id name v).registered? id name = some ((p.registered? id name).getD v) := by
  rw [registered?, registry, enter, Entries.lookup_insert_self, Option.getD_some,
    Entries.lookup_insertIfNew_self, registered?]

theorem registered?_enter_of_ne {id' name' : String} (h : id' ≠ id ∨ name' ≠ name) :
    (p.enter id name v).registered? id' name' = p.registered? id' name' := by
  by_cases hId : id' = id
  · subst hId
    have hName : name' ≠ name := h.resolve_left fun h => h rfl
    rw [registered?, registry, enter, Entries.lookup_insert_self, Option.getD_some,
      Entries.lookup_insertIfNew_of_ne hName, registered?]
  · rw [registered?, registry, enter, Entries.lookup_insert_of_ne hId, registered?, registry]

theorem outcome_register (p : Workspace) (id name : String) (v : Value) :
    outcome (register id name v) p
      = (.ok ((p.registered? id name).getD v), p.enter id name v) := by
  have hResult : ((Entries.insertIfNew name v (p.registry id)).lookup name).getD v
      = (p.registered? id name).getD v := by
    rw [Entries.lookup_insertIfNew_self, Option.getD_some, registered?]
  rw [← hResult]
  rfl

/-! ## Looking for a class -/

inductive Found (p : Workspace) (id name : String) :
    Except Failure (Option Value) → Workspace → Prop where
  | free (hFree : p.IsFree id name) : Found p id name (.ok none) p
  | registered {v : Value} (hValue : v ≠ .none) (hRegistered : p.registered? id name = some v) :
    Found p id name (.ok (some v)) p
  | adopted {c : ClassRef} {bindings : List (String × Value)}
    (hAbsent : p.registered? id name = none) (hModule : p.modules.lookup name = some bindings)
    (hClass : bindings.lookup (lastPart name) = some (.cls c)) :
    Found p id name (.ok (some (.cls c))) (p.enter id name (.cls c))
  | occupied {bindings : List (String × Value)}
    (hAbsent : p.registered? id name = none) (hModule : p.modules.lookup name = some bindings)
    (hClass : ∀ c, bindings.lookup (lastPart name) ≠ some (.cls c)) :
    Found p id name (.error (.moduleOccupied name)) p

theorem defined?_cases {r : Except Failure (Option Value)}
    (h : outcome (defined? id name) p = (r, p')) : Found p id name r p' := by
  rw [defined?, outcome_get_bind] at h
  cases hRegistered : p.registered? id name with
  | some v =>
    rw [hRegistered] at h
    by_cases hNone : v = .none
    · subst hNone
      cases h
      exact .free (.inl hRegistered)
    · have hFound : (r, p') = (.ok (some v), p) := by
        cases v <;> first | exact absurd rfl hNone | exact h.symm
      cases hFound
      exact .registered hNone hRegistered
  | none =>
    rw [hRegistered] at h
    dsimp only at h
    cases hModule : p.modules.lookup name with
    | none =>
      rw [hModule] at h
      cases h
      exact .free (.inr ⟨hRegistered, hModule⟩)
    | some bindings =>
      rw [hModule] at h
      dsimp only at h
      split at h
      next c hClass =>
        rw [outcome_bind, outcome_register, hRegistered] at h
        cases h
        exact .adopted hRegistered hModule hClass
      next hOther =>
        cases h
        exact .occupied hRegistered hModule hOther

/-! ## Running a module -/

theorem runContent_cases {content : FileContent} {r : Except Failure (List (String × Value))}
    (h : outcome (runContent world name content) p = (r, p')) :
    (∃ failure, r = .error failure) ∧ p' = p ∨
      ∃ bindings classes next, r = .ok bindings ∧ p' = { p with classes, next } := by
  cases content with
  | generated source =>
    rw [runContent, outcome_get_bind] at h
    cases hRun : source.run ⟨world, p.modules⟩ name (p.next + 1) with
    | error failure =>
      simp only [hRun] at h
      cases h
      exact .inl ⟨⟨_, rfl⟩, rfl⟩
    | ok c =>
      simp only [hRun] at h
      cases h
      exact .inr ⟨_, _, _, rfl, rfl⟩
  | emptyClass _ | assignment _ =>
    rw [runContent] at h
    split at h
    · cases h
      exact .inl ⟨⟨_, rfl⟩, rfl⟩
    · cases h
      exact .inr ⟨_, _, _, rfl, rfl⟩
  | malformed | failing _ =>
    cases h
    exact .inl ⟨⟨_, rfl⟩, rfl⟩
  | plain _ effect =>
    cases effect with
    | error failure =>
      cases h
      exact .inl ⟨⟨_, rfl⟩, rfl⟩
    | ok names =>
      cases h
      exact .inr ⟨_, _, _, rfl, rfl⟩

inductive Ran (p : Workspace) (id name : String) : Except Failure Unit → Workspace → Prop where
  | failed (failure : Failure) :
    Ran p id name (.error failure) { p with modules := Entries.erase name p.modules }
  /-- The module has run, but it does not bind the class. -/
  | unbound {bindings : List (String × Value)} (classes : List DecoratedClass) (next : Nat)
    (hClass : bindings.lookup (lastPart name) = none) :
    Ran p id name (.error (.missingAttribute (lastPart name)))
      { p with modules := (name, bindings) :: p.modules, classes, next }
  | bound {bindings : List (String × Value)} {v : Value} (classes : List DecoratedClass)
    (next : Nat) (hClass : bindings.lookup (lastPart name) = some v) :
    Ran p id name (.ok ())
      (enter { p with modules := (name, bindings) :: p.modules, classes, next } id name v)

theorem Ran.storage {r : Except Failure Unit} (h : Ran p id name r p') :
    p'.storage = p.storage := by
  cases h <;> rfl

theorem execute_cases {content : Except Failure FileContent}
    {r : Except Failure (List (String × Value))}
    (h : outcome (execute world name content) p = (r, p')) :
    (∃ failure, r = .error failure ∧ p' = { p with modules := Entries.erase name p.modules }) ∨
      ∃ bindings classes next, r = .ok bindings ∧
        p' = { p with modules := (name, []) :: p.modules, classes, next } := by
  have hErase : Entries.erase name ((name, []) :: p.modules) = Entries.erase name p.modules := by
    simp [Entries.erase]
  rw [execute, outcome_modify_bind, outcome_tryCatch] at h
  split at h
  next bindings p₁ hRun =>
    cases h
    obtain ⟨_, ⟨⟩, -⟩ | ⟨content, -, hRun⟩ := outcome_lift_bind_cases hRun
    obtain ⟨⟨_, ⟨⟩⟩, -⟩ | ⟨_, _, _, hOk, rfl⟩ := runContent_cases hRun
    cases hOk
    exact .inr ⟨_, _, _, rfl, rfl⟩
  next failure p₁ hRun =>
    cases h
    have hTaken : p₁ = { p with modules := (name, []) :: p.modules } := by
      obtain ⟨_, -, hTaken⟩ | ⟨content, -, hRun⟩ := outcome_lift_bind_cases hRun
      · exact hTaken
      · obtain ⟨-, rfl⟩ | ⟨_, _, _, ⟨⟩, -⟩ := runContent_cases hRun
        rfl
    -- Nothing but the name was taken before the failure, so that giving it back undoes it all.
    refine .inl ⟨failure, rfl, ?_⟩
    rw [hTaken, ← hErase]

theorem runModule_cases {content : Except Failure FileContent} {r : Except Failure Unit}
    (h : outcome (runModule world id name content) p = (r, p')) : Ran p id name r p' := by
  obtain ⟨_, hExecute, rfl⟩ | ⟨bindings, p₁, hExecute, h⟩ := outcome_bind_cases h
  · obtain ⟨failure, hFails, rfl⟩ | ⟨_, _, _, ⟨⟩, -⟩ := execute_cases hExecute
    exact .failed _
  · obtain ⟨_, ⟨⟩, -⟩ | ⟨_, classes, next, hOk, rfl⟩ := execute_cases hExecute
    cases hOk
    have hInsert : Entries.insert name bindings ((name, []) :: p.modules)
        = (name, bindings) :: p.modules := by
      simp [Entries.insert]
    rw [outcome_modify_bind, hInsert] at h
    split at h
    next v hClass =>
      rw [discard_eq, outcome_bind, outcome_register] at h
      cases h
      exact .bound classes next hClass
    next hClass =>
      cases h
      exact .unbound classes next hClass

theorem outcome_defined?_of_isFree (hFree : p.IsFree id name) :
    outcome (defined? id name) p = (.ok none, p) := by
  rw [defined?, outcome_get_bind]
  obtain hNone | ⟨hAbsent, hModule⟩ := hFree
  · rw [hNone]
    rfl
  · rw [hAbsent]
    dsimp only
    rw [hModule]
    rfl

theorem define_cases {source : ClassSource} {r : Except Failure Unit} (hFree : p.IsFree id name)
    (h : outcome (define world id name source) p = (r, p')) : Ran p id name r p' := by
  rw [define, outcome_bind, outcome_defined?_of_isFree hFree] at h
  exact runModule_cases h

theorem require_cases {path : StorePath} {r : Except Failure Unit} (hFree : p.IsFree id name)
    (h : outcome (require world id name path) p = (r, p')) : Ran p id name r p' := by
  rw [require, outcome_bind, outcome_defined?_of_isFree hFree] at h
  exact runModule_cases h

end Workspace

/-! ## Generating a class -/

section Generating

variable {world : World} {p p' : Workspace} {path : StorePath}

theorem writeFile_cases {content : FileContent} {r : Except Failure Unit}
    (h : outcome (Workspace.writeFile path content) p = (r, p')) :
    ∃ s, outcome (Storage.write p.device path content) p.storage = (r, s) ∧
      p' = { p with storage := s } := by
  cases h
  exact ⟨_, rfl, rfl⟩

variable {target : TargetRef} {registry fullName : String}

theorem generateClass_cases {path : Option StorePath} {r : Except Failure GeneratedClass}
    (h : outcome (generateClass world registry target fullName path) p = (r, p')) :
    (∃ failure, r = .error failure ∧ p' = p) ∨
      ∃ source done, sourceFor ⟨world, p.modules⟩ target fullName = .ok source ∧
        outcome (deliver world registry fullName source path) p = (done, p') ∧
        r = done.map fun _ => ⟨(Text.cutLast '.' fullName).1, lastPart fullName, source, path⟩ := by
  rw [generateClass, outcome_get_bind] at h
  obtain hRefused | ⟨source, hSource, hRest⟩ := outcome_lift_bind_cases h
  · exact .inl hRefused
  · right
    obtain ⟨failure, hDeliver, rfl⟩ | ⟨⟨⟩, p₁, hDeliver, hReturn⟩ := outcome_bind_cases hRest
    · exact ⟨source, _, hSource, hDeliver, rfl⟩
    · cases hReturn
      exact ⟨source, _, hSource, hDeliver, rfl⟩

theorem generateClass_file_cases {path : StorePath} {r : Except Failure GeneratedClass}
    (h : outcome (generateClass world registry target fullName (some path)) p = (r, p')) :
    (∃ failure, r = .error failure ∧ p' = p) ∨
      ∃ source written s, sourceFor ⟨world, p.modules⟩ target fullName = .ok source ∧
        p.storage.Leaves p.device path (.generated source) written s ∧
        p' = { p with storage := s } ∧
        r = written.map (fun _ =>
          ⟨(Text.cutLast '.' fullName).1, lastPart fullName, source, some path⟩) ∧
        (written = .ok () → s.read path = .ok (.generated source)) := by
  obtain hRefused | ⟨source, done, hSource, hDeliver, rfl⟩ := generateClass_cases h
  · exact .inl hRefused
  · right
    obtain ⟨s, hWrite, rfl⟩ := writeFile_cases hDeliver
    obtain ⟨hLeaves, hRead⟩ := Storage.write_cases hWrite
    exact ⟨source, done, s, hSource, hLeaves, rfl, rfl, hRead⟩

/-! ## Loading a class -/

namespace Generator

variable {g : Generator} {c : ClassRef} {name : String} {policy : Policy}

def fileFor (g : Generator) (c : ClassRef) : StorePath :=
  classFile g.directory (shortName c.fullName)

/-- What becomes of the storage when the class of a free name is provided: it is written to only as
the policy says, and not before the source is complete. -/
inductive Provision (w : LoadedWorld) (device : Device FileContent) (c : ClassRef) (name : String)
    (path : StorePath) (policy : Policy) (s : Storage FileContent) :
    Storage FileContent → Prop where
  | untouched : Provision w device c name path policy s s
  | written {source : ClassSource} {written : Except Failure Unit} {s' : Storage FileContent}
    (hPolicy : policy = .always ∨ policy = .ifMissing ∧ s.exists? path = false)
    (hSource : sourceFor w (.cls c) name = .ok source)
    (hLeaves : s.Leaves device path (.generated source) written s') :
    Provision w device c name path policy s s'

theorem generate_require_cases {r : Except Failure Unit} (hFree : p.IsFree g.registry name)
    (h : outcome (do
        discard (generateClass world g.registry (.cls c) name (some path))
        Workspace.require world g.registry name path) p = (r, p')) :
    (∃ failure, r = .error failure ∧ p' = p) ∨
      ∃ source written s, sourceFor ⟨world, p.modules⟩ (.cls c) name = .ok source ∧
        p.storage.Leaves p.device path (.generated source) written s ∧
        ((∃ failure, r = .error failure ∧ p' = { p with storage := s }) ∨
          Workspace.Ran { p with storage := s } g.registry name r p') := by
  obtain ⟨failure, hDiscard, rfl⟩ | ⟨⟨⟩, p₁, hDiscard, hRequire⟩ := outcome_bind_cases h
  · obtain ⟨r₀, hGenerate, -⟩ := outcome_discard_cases hDiscard
    obtain ⟨_, -, rfl⟩ | ⟨source, written, s, hSource, hLeaves, rfl, -⟩ :=
      generateClass_file_cases hGenerate
    · exact .inl ⟨failure, rfl, rfl⟩
    · exact .inr ⟨source, written, s, hSource, hLeaves, .inl ⟨failure, rfl, rfl⟩⟩
  · obtain ⟨r₀, hGenerate, hOk⟩ := outcome_discard_cases hDiscard
    obtain ⟨_, rfl, -⟩ | ⟨source, written, s, hSource, hLeaves, rfl, -⟩ :=
      generateClass_file_cases hGenerate
    · cases hOk
    · have hRan : Workspace.Ran { p with storage := s } g.registry name r p' :=
        Workspace.require_cases hFree hRequire
      exact .inr ⟨source, written, s, hSource, hLeaves, .inr hRan⟩

theorem provide_cases {r : Except Failure Unit} (hFree : p.IsFree g.registry name)
    (h : outcome (g.provide world c name policy) p = (r, p')) :
    ∃ s, Provision ⟨world, p.modules⟩ p.device c name (g.fileFor c) policy p.storage s ∧
      ((∃ failure, r = .error failure ∧ p' = { p with storage := s }) ∨
        Workspace.Ran { p with storage := s } g.registry name r p') := by
  cases policy with
  | never => exact ⟨p.storage, .untouched, .inr (Workspace.require_cases hFree h)⟩
  | always =>
    obtain ⟨failure, rfl, rfl⟩ | ⟨source, _, s, hSource, hLeaves, hEnd⟩ :=
      generate_require_cases hFree h
    · exact ⟨_, .untouched, .inl ⟨failure, rfl, rfl⟩⟩
    · exact ⟨s, .written (.inl rfl) hSource hLeaves, hEnd⟩
  | ifMissing =>
    rw [provide, outcome_get_bind] at h
    split at h
    next hMissing =>
      have hAbsent : p.storage.exists? (g.fileFor c) = false := by
        simpa [fileFor] using hMissing
      obtain ⟨failure, rfl, rfl⟩ | ⟨source, _, s, hSource, hLeaves, hEnd⟩ :=
        generate_require_cases hFree h
      · exact ⟨_, .untouched, .inl ⟨failure, rfl, rfl⟩⟩
      · exact ⟨s, .written (.inr ⟨rfl, hAbsent⟩) hSource hLeaves, hEnd⟩
    next hThere =>
      exact ⟨p.storage, .untouched, .inr (Workspace.require_cases hFree h)⟩
  | ephemeral =>
    refine ⟨p.storage, .untouched, ?_⟩
    obtain ⟨r₀, hGenerate, rfl⟩ := outcome_discard_cases h
    obtain ⟨failure, rfl, rfl⟩ | ⟨source, done, -, hDeliver, rfl⟩ := generateClass_cases hGenerate
    · exact .inl ⟨failure, rfl, rfl⟩
    · have hRan := Workspace.define_cases hFree hDeliver
      cases done with
      | error _ => exact .inr hRan
      | ok _ => exact .inr hRan

inductive Loads (g : Generator) (world : World) (target : TargetRef) (policy : Value)
    (p : Workspace) : Except Failure String → Workspace → Prop where
  /-- The generator has no directory or no namespace, there is no such target or policy, or a module
  without the class has the name. Nothing is done. -/
  | refused (failure : Failure) : Loads g world target policy p (.error failure) p
  | registered {c : ClassRef} {v : Value} (hTarget : target.resolve world = .ok c)
    (hValue : v ≠ .none) (hRegistered : p.registered? g.registry (g.classNameFor c) = some v) :
    Loads g world target policy p (.ok (g.classNameFor c)) p
  | adopted {c found : ClassRef} {bindings : List (String × Value)}
    (hTarget : target.resolve world = .ok c)
    (hAbsent : p.registered? g.registry (g.classNameFor c) = none)
    (hModule : p.modules.lookup (g.classNameFor c) = some bindings)
    (hClass : bindings.lookup (lastPart (g.classNameFor c)) = some (.cls found)) :
    Loads g world target policy p (.ok (g.classNameFor c))
      (p.enter g.registry (g.classNameFor c) (.cls found))
  /-- The class could not be generated or its file not be written; no module has run. -/
  | ungenerated {c : ClassRef} {chosen : Policy} {s : Storage FileContent} (failure : Failure)
    (hTarget : target.resolve world = .ok c)
    (hFree : p.IsFree g.registry (g.classNameFor c)) (hPolicy : Policy.ofValue policy = .ok chosen)
    (hStorage : Provision ⟨world, p.modules⟩ p.device c (g.classNameFor c) (g.fileFor c) chosen
      p.storage s) :
    Loads g world target policy p (.error failure) { p with storage := s }
  | ran {c : ClassRef} {chosen : Policy} {s : Storage FileContent} {r : Except Failure Unit}
    {p' : Workspace} (hTarget : target.resolve world = .ok c)
    (hFree : p.IsFree g.registry (g.classNameFor c)) (hPolicy : Policy.ofValue policy = .ok chosen)
    (hStorage : Provision ⟨world, p.modules⟩ p.device c (g.classNameFor c) (g.fileFor c) chosen
      p.storage s)
    (hRan : Workspace.Ran { p with storage := s } g.registry (g.classNameFor c) r p') :
    Loads g world target policy p (r.map fun _ => g.classNameFor c) p'

theorem load_cases {policy : Value} {r : Except Failure String}
    (h : outcome (g.load world target policy) p = (r, p')) :
    Loads g world target policy p r p' := by
  rw [load] at h
  split at h
  · cases h
    exact .refused _
  split at h
  · cases h
    exact .refused _
  obtain ⟨failure, rfl, rfl⟩ | ⟨c, hTarget, hName⟩ := outcome_lift_bind_cases h
  · exact .refused failure
  obtain ⟨failure, hDefined, rfl⟩ | ⟨found, p₁, hDefined, hFound⟩ := outcome_bind_cases hName
  · cases Workspace.defined?_cases hDefined
    exact .refused _
  cases Workspace.defined?_cases hDefined with
  | registered hValue hRegistered =>
    cases hFound
    exact .registered hTarget hValue hRegistered
  | adopted hAbsent hModule hClass =>
    cases hFound
    exact .adopted hTarget hAbsent hModule hClass
  | free hFree =>
    obtain ⟨failure, rfl, rfl⟩ | ⟨chosen, hPolicy, hChosen⟩ := outcome_lift_bind_cases hFound
    · exact .refused failure
    obtain ⟨failure, hProvide, rfl⟩ | ⟨⟨⟩, p₂, hProvide, hReturn⟩ := outcome_bind_cases hChosen
    · obtain ⟨s, hStorage, ⟨_, -, rfl⟩ | hRan⟩ := provide_cases hFree hProvide
      · exact .ungenerated failure hTarget hFree hPolicy hStorage
      · exact .ran hTarget hFree hPolicy hStorage hRan
    · cases hReturn
      obtain ⟨s, hStorage, ⟨_, ⟨⟩, -⟩ | hRan⟩ := provide_cases hFree hProvide
      exact .ran hTarget hFree hPolicy hStorage hRan

end Generator

end Generating

/-! ## A sample -/

namespace Loading.Sample

def target : ClassRef := ⟨"m", "C", 1, false⟩

/-- A world with a single module and its class, which has no methods. -/
def world : World where
  modules := [{ name := "m", isPackage := false, bindings := [("C", .cls target)] }]
  classes := [
    { ref := target, name := "C", bases := [.objectClass], resolution := [target, .objectClass]
      attributes := [] }]
  memory := []

def generator : Generator := ⟨"out", "ns", "r"⟩

def workspace (content : FileContent) : Workspace where
  storage := ⟨[(["out"], .directory), (["out", "mCPersistent.py"], .file content)]⟩

end Loading.Sample
end Interpose

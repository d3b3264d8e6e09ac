import Interpose.Proofs.Loading.Alike
import Interpose.Proofs.Loading.Files
import Interpose.Proofs.Loading.Loaded
import Interpose.Proofs.Loading.StorageFrame

/-! # Loads of different classes

Two loads of classes whose files differ do not get in each other's way, unless one of them refers to
a module under the namespace that they share: each returns what it would return without the other,
and it does not matter which one goes first.
-/
namespace Interpose

set_option autoImplicit false

open Stateful

namespace Generator

variable {g : Generator} {world : World} {c d : ClassRef} {p : Workspace}
  {base rest rest' : List String} {done : Deed}

/-! ## One load after another -/

theorem canLeave_generated (g : Generator) (w : LoadedWorld) (c : ClassRef)
    (s : Storage FileContent) (device : Device FileContent) (base rest : List String) :
    s.CanLeave device (g.fileFor c) base rest
      (provision.generated g w c s device base rest).2 := by
  rw [provision.generated]
  cases sourceFor w (.cls c) (g.classNameFor c) with
  | error _ => exact .inl rfl
  | ok source => exact .inr ⟨.generated source, rfl⟩

theorem canLeave_provision (g : Generator) (w : LoadedWorld) (c : ClassRef)
    (s : Storage FileContent) (device : Device FileContent) (base rest : List String)
    (policy : Policy) :
    s.CanLeave device (g.fileFor c) base rest
      (g.provision w c s device base rest policy).2 := by
  cases policy with
  | never | ephemeral => exact .inl rfl
  | always => exact canLeave_generated g w c s device base rest
  | ifMissing =>
    rw [provision]
    split
    · exact .inl rfl
    · exact canLeave_generated g w c s device base rest

theorem trace_deedOf (g : Generator) (world : World) (c : ClassRef) (p : Workspace)
    (base rest : List String) (policy : Policy) :
    (g.deedOf world c p base rest policy).trace
      = (g.provision ⟨world, p.modules⟩ c p.storage p.device base rest policy).2 := by
  rw [deedOf]
  cases g.provision ⟨world, p.modules⟩ c p.storage p.device base rest policy with
  | mk provided trace =>
    cases provided with
    | error failure => rfl
    | ok content =>
      dsimp only
      cases content >>= Running.ofContent (p.running world (g.classNameFor c)) (g.classNameFor c)
        with
      | error failure => rfl
      | ok running => rfl

theorem canLeave_deed (g : Generator) (world : World) (c : ClassRef) (policy : Value)
    (base rest : List String) (p : Workspace) :
    p.storage.CanLeave p.device (g.fileFor c) base rest
      (g.deed world c policy base rest p).trace := by
  rw [deed]
  by_cases hDirectory : g.directory = ""
  · rw [if_pos hDirectory]
    exact .inl rfl
  by_cases hNamespace : g.namespaceName = ""
  · rw [if_neg hDirectory, if_pos hNamespace]
    exact .inl rfl
  rw [if_neg hDirectory, if_neg hNamespace]
  cases p.known g.registry (g.classNameFor c) with
  | registered | bound | occupied => exact .inl rfl
  | free =>
    cases Policy.ofValue policy with
    | error failure => exact .inl rfl
    | ok chosen =>
      dsimp only
      rw [trace_deedOf]
      exact canLeave_provision g _ c p.storage p.device base rest chosen

theorem did_eq (g : Generator) (c : ClassRef) (p : Workspace) (base rest : List String)
    (done : Deed) : g.did c p base rest done
      = { p.changed g.registry (g.classNameFor c) done.change with
          storage := p.storage.left p.device.closed base rest done.trace } :=
  p.changed_withStorage _ _ _ _

theorem storage_did (g : Generator) (c : ClassRef) (p : Workspace) (base rest : List String)
    (done : Deed) : (g.did c p base rest done).storage
      = p.storage.left p.device.closed base rest done.trace :=
  Workspace.storage_changed _ _ _ _

theorem device_did (g : Generator) (c : ClassRef) (p : Workspace) (base rest : List String)
    (done : Deed) : (g.did c p base rest done).device = p.device :=
  Workspace.device_changed _ _ _ _

theorem known_did (hNames : g.classNameFor d ≠ g.classNameFor c) :
    (g.did c p base rest done).known g.registry (g.classNameFor d)
      = p.known g.registry (g.classNameFor d) :=
  Workspace.known_changed_of_ne hNames

theorem modules_did (g : Generator) (c : ClassRef) (p : Workspace) (base rest : List String)
    (done : Deed) : (g.did c p base rest done).modules
      = (p.changed g.registry (g.classNameFor c) done.change).modules := by
  rw [did_eq]

/-- What is provided is what is stored, or a source that is generated. -/
theorem provided_cases {w : LoadedWorld} {s : Storage FileContent} {device : Device FileContent}
    {policy : Policy} {content : Except Failure FileContent}
    (h : (g.provision w d s device base rest policy).1 = .ok content) :
    content = s.read (g.fileFor d) ∨ ∃ source,
      sourceFor w (.cls d) (g.classNameFor d) = .ok source ∧ content = .ok (.generated source) := by
  have hGenerated (h : (provision.generated g w d s device base rest).1 = .ok content) :
      ∃ source, sourceFor w (.cls d) (g.classNameFor d) = .ok source ∧
        content = .ok (.generated source) := by
    rw [provision.generated] at h
    cases hSource : sourceFor w (.cls d) (g.classNameFor d) with
    | error failure =>
      rw [hSource] at h
      cases h
    | ok source =>
      rw [hSource] at h
      dsimp only at h
      cases hVerdict : s.verdict device (g.fileFor d) base rest with
      | error failure =>
        rw [hVerdict] at h
        cases h
      | ok _ =>
        rw [hVerdict] at h
        cases h
        exact ⟨source, rfl, rfl⟩
  cases policy with
  | never =>
    cases h
    exact .inl rfl
  | always => exact .inr (hGenerated h)
  | ifMissing =>
    rw [provision] at h
    split at h
    · cases h
      exact .inl rfl
    · exact .inr (hGenerated h)
  | ephemeral =>
    rw [provision] at h
    cases hSource : sourceFor w (.cls d) (g.classNameFor d) with
    | error failure =>
      rw [hSource] at h
      cases h
    | ok source =>
      rw [hSource] at h
      cases h
      exact .inr ⟨source, rfl, rfl⟩

theorem provision_congr {w w' : LoadedWorld} {s t : Storage FileContent}
    {device : Device FileContent}
    (hSource : sourceFor w' (.cls d) (g.classNameFor d) = sourceFor w (.cls d) (g.classNameFor d))
    (hVerdict : t.verdict device (g.fileFor d) base rest = s.verdict device (g.fileFor d) base rest)
    (hRead : t.read (g.fileFor d) = s.read (g.fileFor d))
    (hExists : t.exists? (g.fileFor d) = s.exists? (g.fileFor d)) (policy : Policy) :
    g.provision w' d t device base rest policy
      = g.provision w d s device base rest policy := by
  cases policy with
  | never => rw [provision, provision, hRead]
  | always =>
    rw [provision, provision, provision.generated, provision.generated, hSource, hVerdict]
  | ifMissing =>
    rw [provision, provision, provision.generated, provision.generated, hSource, hVerdict, hRead,
      hExists]
  | ephemeral => rw [provision, provision, hSource]

/-- The modules that have been loaded are the same after the load of one class, up to its own. -/
theorem sameBut_did (g : Generator) (world : World) (c : ClassRef) (p : Workspace)
    (base rest : List String) (done : Deed) :
    LoadedWorld.SameBut (g.classNameFor c) ⟨world, (g.did c p base rest done).modules⟩
      ⟨world, p.modules⟩ where
  world := rfl
  loaded other hOther := by
    dsimp only
    rw [modules_did, Workspace.lookup_changed_of_ne hOther]

/-- After the load of one class, the class that is provided next runs as it would run before. -/
theorem ofContent_did (hApart : g.IsApart world p.storage d) {policy : Policy}
    {content : Except Failure FileContent}
    (h : (g.provision ⟨world, p.modules⟩ d p.storage p.device base rest' policy).1 = .ok content) :
    content >>= Running.ofContent ((g.did c p base rest done).running world (g.classNameFor d))
        (g.classNameFor d)
      = content >>= Running.ofContent (p.running world (g.classNameFor d)) (g.classNameFor d) := by
  cases hContent : content with
  | error failure => simp only [bind, Except.bind]
  | ok stored =>
    have hSame := (sameBut_did g world c p base rest done).cons (g.classNameFor d, [])
    have hApartFrom : ∀ source, stored = .generated source →
        ∀ module ∈ source.importedNames, ¬ g.Owns module := by
      rintro source rfl module hMem
      obtain hStored | ⟨_, hSource, hGenerated⟩ := provided_cases h
      · rw [hContent] at hStored
        exact hApart.stored source hStored.symm module hMem
      · rw [hContent] at hGenerated
        cases hGenerated
        exact hApart.target module (refersTo_of_sourceFor hSource hMem)
    exact ofContent_congr hSame hApartFrom

/-- After the load of one class, the load of another one does what it would do before. -/
theorem deed_did (hApart : g.IsApart world p.storage d)
    (hSpares : p.storage.Spares p.device base (g.fileFor c) rest (g.fileFor d) rest')
    (hNames : g.classNameFor d ≠ g.classNameFor c)
    (hTrace : p.storage.CanLeave p.device (g.fileFor c) base rest done.trace) (policy : Value) :
    g.deed world d policy base rest' (g.did c p base rest done)
      = g.deed world d policy base rest' p := by
  have hSource := sourceFor_congr (sameBut_did g world c p base rest done) hApart.target
    (g.classNameFor d)
  have hProvision := provision_congr hSource (hSpares.verdict hTrace) (hSpares.read hTrace)
    (hSpares.exists? hTrace)
  have hDeed (chosen : Policy) : g.deedOf world d (g.did c p base rest done) base rest' chosen
      = g.deedOf world d p base rest' chosen := by
    rw [deedOf, deedOf, storage_did, device_did, hProvision]
    cases hProvided : g.provision ⟨world, p.modules⟩ d p.storage p.device base rest' chosen with
    | mk provided trace =>
      cases provided with
      | error failure => rfl
      | ok content =>
        dsimp only
        rw [ofContent_did hApart (congrArg Prod.fst hProvided)]
  rw [deed, deed, known_did hNames]
  simp only [hDeed]

theorem outcome_load_did (hApart : g.IsApart world p.storage d)
    (hSpares : p.storage.Spares p.device base (g.fileFor c) rest (g.fileFor d) rest')
    (hNames : g.classNameFor d ≠ g.classNameFor c)
    (hTrace : p.storage.CanLeave p.device (g.fileFor c) base rest done.trace) (policy : Value) :
    outcome (g.load world (.cls d) policy) (g.did c p base rest done)
      = let next := g.deed world d policy base rest' p
        (next.result, g.did d (g.did c p base rest done) base rest' next) := by
  have hWrite : (g.did c p base rest done).storage.WritesAs (g.did c p base rest done).device
      (g.fileFor d) base rest' := by
    rw [storage_did, device_did]
    exact hSpares.writes hTrace
  rw [outcome_load hWrite, deed_did hApart hSpares hNames hTrace]

/-! ## Two loads -/

theorem did_did (g : Generator) (c d : ClassRef) (p : Workspace) (base rest rest' : List String)
    (done next : Deed) :
    g.did d (g.did c p base rest done) base rest' next
      = { (p.changed g.registry (g.classNameFor c) done.change).changed g.registry
            (g.classNameFor d) next.change with
          storage := (p.storage.left p.device.closed base rest done.trace).left p.device.closed
            base rest' next.trace } := by
  rw [did_eq g d, storage_did, device_did, did_eq g c, Workspace.changed_withStorage]

theorem classes_did_did (g : Generator) (c d : ClassRef) (p : Workspace)
    (base rest rest' : List String) (done next : Deed) :
    p.classes <+: (g.did d (g.did c p base rest done) base rest' next).classes := by
  rw [did_did, Workspace.classes_changed, Workspace.classes_changed, List.append_assoc]
  exact List.prefix_append _ _

theorem alike_did_did {next : Deed}
    (hIndependent : p.storage.AreIndependent p.device base (g.fileFor c) rest (g.fileFor d) rest')
    (hNames : g.classNameFor d ≠ g.classNameFor c) (hNumbered : p.IsNumbered)
    (hTrace : p.storage.CanLeave p.device (g.fileFor c) base rest done.trace)
    (hTrace' : p.storage.CanLeave p.device (g.fileFor d) base rest' next.trace) :
    Workspace.Alike (Workspace.Reordered p.next done.change.count next.change.count
        (g.classNameFor c) (g.classNameFor d)) p.next
      (g.did d (g.did c p base rest done) base rest' next)
      (g.did c (g.did d p base rest' next) base rest done) := by
  rw [did_did, did_did]
  exact (Workspace.changed_comm hNumbered hNames).withStorage (hIndependent.comm hTrace hTrace')

end Generator

namespace Loading.Sample

def second : ClassRef := ⟨"m", "D", 2, false⟩

/-- A world with a single module and its two classes, which have no methods. -/
def pair (c d : ClassRef) : World where
  modules := [{ name := "m", isPackage := false, bindings := [("C", .cls c), ("D", .cls d)] }]
  classes := [
    { ref := c, name := "C", bases := [.objectClass], resolution := [c, .objectClass]
      attributes := [] },
    { ref := d, name := "D", bases := [.objectClass], resolution := [d, .objectClass]
      attributes := [] }]
  memory := []

def furnished : Workspace where
  storage := ⟨[(["b"], .directory), (["b", "mDPersistent.py"], .file (.emptyClass "mDPersistent"))]⟩

def slashed : ClassRef := ⟨"m", "x/y", 1, false⟩

def slashedTwice : ClassRef := ⟨"m", "x//y", 2, false⟩

/-- The world with a package of the name of the namespace. -/
def packaged : World :=
  { pair target second with modules := ⟨"ns", true, []⟩ :: (pair target second).modules }

/-- A program whose storage has a generated module that imports another one. -/
def referring : Workspace where
  storage := ⟨[(["out"], .directory), (["out", "mDPersistent.py"],
    .file (.generated ⟨"mDPersistent", "ns.mCPersistent", "mCPersistent", []⟩))]⟩

/-- A class with a method that takes one parameter. -/
def taking (p : Parameter) : Target :=
  ⟨"m", "C", [{ Imports.Sample.send p p with parameters := [p] }]⟩

end Loading.Sample

open Loading.Sample in
theorem Loading.Sample.isApart_pair {c : ClassRef} {failure : Failure}
    (h : (pair target second).introspect c = .ok ⟨"m", c.qualname, []⟩)
    (hMissing : ({} : Storage FileContent).read (generator.fileFor c) = .error failure) :
    generator.IsApart (pair target second) {} c where
  target := by
    rintro module ⟨introspected, used, hTarget, hUses, hModule⟩
    cases h.symm.trans hTarget
    have hUsed : used = "m" := by
      cases hUses with
      | header isOwn => exact isOwn
      | hint isWritten _ _ _ _ => cases isWritten
      | default isForwarded _ _ _ _ => cases isForwarded
    subst hUsed
    have hNormal : Text.normalForm "m" = "m" := by decide +kernel
    rw [hNormal, or_self] at hModule
    subst hModule
    intro hPrefix
    exact absurd hPrefix.length_le (by decide)
  stored source hStored := by
    rw [hMissing] at hStored
    cases hStored

end Interpose

import Interpose.Proofs.Loading.Steps
import Interpose.Proofs.Storage.Ways

/-! # Loads as data

What a load does is settled by little of the workspace it starts in: by what is known under the name
of the class, and by what the storage says about the file. This module says what it does as a value:
what it returns, what it leaves in the storage, and how it changes the modules and the registries.
-/
namespace Interpose

set_option autoImplicit false

open Stateful

/-! ## Looking for a class -/

/-- What is known under a name. -/
inductive Known where
  | free
  | registered (v : Value)
  /-- A module binds the class, but it is not registered. -/
  | bound (c : ClassRef)
  | occupied

namespace Workspace

variable {p : Workspace} {id name : String}

def known (p : Workspace) (id name : String) : Known :=
  match p.registered? id name with
  | some .none => .free
  | some v => .registered v
  | none =>
    match p.modules.lookup name with
    | none => .free
    | some bindings =>
      match bindings.lookup (lastPart name) with
      | some (.cls c) => .bound c
      | _ => .occupied

theorem isFree_of_known (h : p.known id name = .free) : p.IsFree id name := by
  rw [known] at h
  split at h
  next hNone => exact .inl hNone
  next => cases h
  next hAbsent =>
    split at h
    next hModule => exact .inr ⟨hAbsent, hModule⟩
    next => split at h <;> cases h

theorem outcome_defined? (p : Workspace) (id name : String) :
    outcome (defined? id name) p = match p.known id name with
      | .free => (.ok none, p)
      | .registered v => (.ok (some v), p)
      | .bound c => (.ok (some (.cls c)), p.enter id name (.cls c))
      | .occupied => (.error (.moduleOccupied name), p) := by
  rw [defined?, outcome_get_bind, known]
  cases hRegistered : p.registered? id name with
  | some v => cases v <;> rfl
  | none =>
    dsimp only
    cases p.modules.lookup name with
    | none => rfl
    | some bindings =>
      dsimp only
      cases bindings.lookup (lastPart name) with
      | none => rfl
      | some v =>
        cases v with
        | cls c =>
          dsimp only
          rw [outcome_bind, outcome_register, hRegistered]
          rfl
        | _ => rfl

end Workspace

/-! ## Running a module -/

/-- What a module that runs to its end does: the names it binds, the class that it decorates, if it
does, with its qualified name, target and methods, and how many serial numbers it takes. -/
structure Running where
  items : List (String × BoundItem)
  decorated : Option (String × ClassRef × List DecoratedMethod)
  count : Nat

namespace Running

def bindings (running : Running) (name : String) (next : Nat) : List (String × Value) :=
  running.items.mapIdx fun i (bound, b) => (bound, Workspace.boundValue name (next + 1 + i) b)

theorem bindings_cons (item : String × BoundItem) (items : List (String × BoundItem))
    (decorated : Option (String × ClassRef × List DecoratedMethod)) (count : Nat) (name : String)
    (next : Nat) :
    bindings ⟨item :: items, decorated, count⟩ name next
      = (item.1, Workspace.boundValue name (next + 1) item.2)
        :: bindings ⟨items, decorated, count⟩ name (next + 1) := by
  rw [bindings, bindings, List.mapIdx_cons]
  congr 2
  funext i entry
  rw [Nat.add_right_comm next 1 1, Nat.add_assoc (next + 1) 1 i, Nat.add_comm 1 i]

theorem isSome_lookup_bindings (running : Running) (name key : String) (next : Nat) :
    ((running.bindings name next).lookup key).isSome = (running.items.lookup key).isSome := by
  obtain ⟨items, decorated, count⟩ := running
  induction items generalizing next with
  | nil => rfl
  | cons item items ih =>
    rw [bindings_cons, List.lookup_cons, List.lookup_cons]
    cases key == item.1 with
    | true => rfl
    | false => exact ih (next + 1)

def classes (running : Running) (name : String) (next : Nat) : List DecoratedClass :=
  running.decorated.toList.map fun (qualname, target, methods) =>
    ⟨⟨name, qualname, next + 1, false⟩, target, methods⟩

def ofContent (w : LoadedWorld) (name : String) : FileContent → Except Failure Running
  | .generated source => (source.run w name 0).map fun c =>
    ⟨[(source.definedName, .newClass source.definedName)],
      some (source.definedName, c.target, c.methods), 1⟩
  | .emptyClass className =>
    if Text.isName className then
      .ok ⟨[(Text.normalForm className, .newClass (Text.normalForm className))], none, 1⟩
    else .error .malformedModule
  | .assignment bound =>
    if Text.isName bound then .ok ⟨[(Text.normalForm bound, .value (.int 1))], none, 0⟩
    else .error .malformedModule
  | .malformed => .error .malformedModule
  | .failing message => .error (.moduleFails message)
  | .plain _ effect => effect.map fun names => ⟨names, none, names.length⟩

end Running

/-- The class that a source defines has the number it is given; nothing else depends on it. -/
theorem ClassSource.run_eq (w : LoadedWorld) (source : ClassSource) (name : String) (serial : Nat) :
    source.run w name serial = (source.run w name 0).map fun c =>
      ⟨⟨name, source.definedName, serial, false⟩, c.target, c.methods⟩ := by
  rw [run, run]
  cases source.isWellformed with
  | false => rfl
  | true =>
    cases source.importedNames.forM w.bindModule with
    | error failure => rfl
    | ok _ =>
      cases w.world.globalObject source.importedNames (Text.normalForm source.target) with
      | error failure => rfl
      | ok base =>
        cases hClass : base.asClass? with
        | none =>
          simp only [hClass, Bind.bind, Except.bind]
          rfl
        | some target =>
          cases hUsable : w.world.isUsableBase target with
          | false =>
            simp only [hClass, hUsable, Bind.bind, Except.bind]
            rfl
          | true =>
            simp only [hClass, hUsable, Bind.bind, Except.bind]
            cases source.defineMethods w.world [] source.methods with
            | error failure => rfl
            | ok methods => rfl

namespace Workspace

variable {world : World} {p : Workspace} {id name : String}

theorem outcome_runContent (world : World) (p : Workspace) (name : String) (content : FileContent) :
    outcome (runContent world name content) p
      = match Running.ofContent ⟨world, p.modules⟩ name content with
      | .error failure => (.error failure, p)
      | .ok running => (.ok (running.bindings name p.next),
          { p with classes := p.classes ++ running.classes name p.next
                   next := p.next + running.count }) := by
  cases content with
  | generated source =>
    rw [runContent, outcome_get_bind, source.run_eq, Running.ofContent]
    cases source.run ⟨world, p.modules⟩ name 0 with
    | error failure => rfl
    | ok c => rfl
  | emptyClass className =>
    rw [runContent, Running.ofContent]
    by_cases hName : Text.isName className = true
    · simp only [hName]
      simp [Running.bindings, Running.classes]
      rfl
    · simp only [hName]
      rfl
  | assignment bound =>
    rw [runContent, Running.ofContent]
    by_cases hName : Text.isName bound = true
    · simp only [hName]
      simp [Running.bindings, Running.classes]
      rfl
    · simp only [hName]
      rfl
  | malformed => rfl
  | failing message => rfl
  | plain text effect =>
    cases effect with
    | error failure => rfl
    | ok names =>
      have hClasses : p.classes ++ Running.classes ⟨names, none, names.length⟩ name p.next
          = p.classes := List.append_nil _
      have hContent : Running.ofContent ⟨world, p.modules⟩ name (.plain text (.ok names))
          = .ok ⟨names, none, names.length⟩ := rfl
      rw [hContent]
      dsimp only
      rw [hClasses]
      rfl

/-- How a load changes the modules and the registries. -/
inductive Change where
  | nothing
  /-- A class that a module binds already is registered. -/
  | adopted (c : ClassRef)
  /-- The name stands for no module any more. -/
  | vacated
  | ran (running : Running)

def changed (p : Workspace) (id name : String) : Change → Workspace
  | .nothing => p
  | .adopted c => p.enter id name (.cls c)
  | .vacated => { p with modules := Entries.erase name p.modules }
  | .ran running =>
    let after : Workspace :=
      { p with
        modules := (name, running.bindings name p.next) :: p.modules
        classes := p.classes ++ running.classes name p.next
        next := p.next + running.count }
    match (running.bindings name p.next).lookup (lastPart name) with
    | some v => after.enter id name v
    | none => after

/-- The world as a module finds it that runs under a name. -/
def running (p : Workspace) (world : World) (name : String) : LoadedWorld :=
  ⟨world, (name, []) :: p.modules⟩

theorem outcome_execute (world : World) (p : Workspace) (name : String)
    (content : Except Failure FileContent) :
    outcome (execute world name content) p
      = match content >>= Running.ofContent (p.running world name) name with
        | .error failure => (.error failure, { p with modules := Entries.erase name p.modules })
        | .ok running => (.ok (running.bindings name p.next),
          { p with
            modules := (name, []) :: p.modules
            classes := p.classes ++ running.classes name p.next
            next := p.next + running.count }) := by
  have hErase : Entries.erase name ((name, []) :: p.modules) = Entries.erase name p.modules := by
    simp [Entries.erase]
  rw [execute, outcome_modify_bind, outcome_tryCatch]
  cases content with
  | error failure =>
    rw [← hErase]
    rfl
  | ok content =>
    rw [outcome_bind, outcome_lift]
    dsimp only
    rw [outcome_runContent]
    have hBind : (Except.ok content >>= Running.ofContent (p.running world name) name)
        = Running.ofContent ⟨world, (name, []) :: p.modules⟩ name content := rfl
    rw [hBind]
    cases Running.ofContent ⟨world, (name, []) :: p.modules⟩ name content with
    | error failure =>
      rw [← hErase]
      rfl
    | ok running => rfl

theorem outcome_runModule (world : World) (p : Workspace) (id name : String)
    (content : Except Failure FileContent) :
    outcome (runModule world id name content) p
      = match content >>= Running.ofContent (p.running world name) name with
        | .error failure => (.error failure, p.changed id name .vacated)
        | .ok running =>
          (if (running.items.lookup (lastPart name)).isSome then .ok ()
            else .error (.missingAttribute (lastPart name)), p.changed id name (.ran running)) := by
  rw [runModule, outcome_bind, outcome_execute]
  cases content >>= Running.ofContent (p.running world name) name with
  | error failure => rfl
  | ok running =>
    dsimp only
    have hInsert : Entries.insert name (running.bindings name p.next) ((name, []) :: p.modules)
        = (name, running.bindings name p.next) :: p.modules := by
      simp [Entries.insert]
    rw [outcome_modify_bind, hInsert, changed, ← running.isSome_lookup_bindings name _ p.next]
    cases (running.bindings name p.next).lookup (lastPart name) with
    | none => rfl
    | some v =>
      dsimp only
      rw [discard_eq, outcome_bind, outcome_register]
      rfl

end Workspace
/-! ## Loading a class -/

namespace Generator

variable {g : Generator} {world : World} {c : ClassRef} {p : Workspace}
  {base rest : List String}

/-- What providing a class comes to before a module runs: the content that is run, and what is left
of writing its file. -/
def provision (g : Generator) (w : LoadedWorld) (c : ClassRef) (s : Storage FileContent)
    (device : Device FileContent) (base rest : List String) :
    Policy → Except Failure (Except Failure FileContent) × Storage.Trace FileContent
  | .never => (.ok (s.read (g.fileFor c)), .nothing)
  | .always => generated
  | .ifMissing =>
    if s.exists? (g.fileFor c) then (.ok (s.read (g.fileFor c)), .nothing) else generated
  | .ephemeral =>
    ((sourceFor w (.cls c) (g.classNameFor c)).map fun source => .ok (.generated source),
      .nothing)
where
  generated : Except Failure (Except Failure FileContent) × Storage.Trace FileContent :=
    match sourceFor w (.cls c) (g.classNameFor c) with
    | .error failure => (.error failure, .nothing)
    | .ok source =>
      let verdict := s.verdict device (g.fileFor c) base rest
      (verdict.map fun () => .ok (.generated source), .of (.generated source) verdict)

theorem outcome_require (world : World) (hFree : p.IsFree g.registry (g.classNameFor c))
    (path : StorePath) :
    outcome (Workspace.require world g.registry (g.classNameFor c) path) p
      = outcome (Workspace.runModule world g.registry (g.classNameFor c)
          (p.storage.read path)) p := by
  rw [Workspace.require, outcome_bind, Workspace.outcome_defined?_of_isFree hFree]
  rfl

theorem outcome_writeFile (path : StorePath) (content : FileContent) :
    outcome (Workspace.writeFile path content) p
      = ((outcome (Storage.write p.device path content) p.storage).1,
        { p with storage := (outcome (Storage.write p.device path content) p.storage).2 }) :=
  rfl

theorem outcome_generate_require (hWrite : p.storage.WritesAs p.device (g.fileFor c) base rest)
    (hFree : p.IsFree g.registry (g.classNameFor c)) :
    outcome (do
        discard (generateClass world g.registry (.cls c) (g.classNameFor c) (some (g.fileFor c)))
        Workspace.require world g.registry (g.classNameFor c) (g.fileFor c)) p
      = match provision.generated g ⟨world, p.modules⟩ c p.storage p.device base rest with
        | (.error failure, trace) => (.error failure, { p with
            storage := p.storage.left p.device.closed base rest trace })
        | (.ok content, trace) =>
          outcome (Workspace.runModule world g.registry (g.classNameFor c) content) { p with
            storage := p.storage.left p.device.closed base rest trace } := by
  rw [provision.generated, discard_eq, outcome_bind, outcome_bind, generateClass, outcome_get_bind,
    outcome_bind, outcome_lift]
  cases sourceFor ⟨world, p.modules⟩ (.cls c) (g.classNameFor c) with
  | error failure => rfl
  | ok source =>
    dsimp only
    rw [outcome_bind, deliver, outcome_writeFile, hWrite]
    cases hVerdict : p.storage.verdict p.device (g.fileFor c) base rest with
    | error failure => rfl
    | ok _ =>
      have hRequire := outcome_require world (p := { p with
        storage := p.storage.left p.device.closed base rest
          (.file (.generated source)) }) hFree (g.fileFor c)
      dsimp only at hRequire
      rw [hWrite.read_left _ hVerdict] at hRequire
      exact hRequire

theorem outcome_provide (hWrite : p.storage.WritesAs p.device (g.fileFor c) base rest)
    (hFree : p.IsFree g.registry (g.classNameFor c)) (policy : Policy) :
    outcome (g.provide world c (g.classNameFor c) policy) p
      = match g.provision ⟨world, p.modules⟩ c p.storage p.device base rest policy with
        | (.error failure, trace) => (.error failure, { p with
            storage := p.storage.left p.device.closed base rest trace })
        | (.ok content, trace) =>
          outcome (Workspace.runModule world g.registry (g.classNameFor c) content) { p with
            storage := p.storage.left p.device.closed base rest trace } := by
  cases policy with
  | never => exact outcome_require world hFree (g.fileFor c)
  | always => exact outcome_generate_require hWrite hFree
  | ifMissing =>
    rw [provide, outcome_get_bind, provision]
    cases hThere : p.storage.exists? (g.fileFor c) with
    | true =>
      have hKept := outcome_require world hFree (g.fileFor c)
      rw [fileFor] at hThere
      rw [hThere]
      exact hKept
    | false =>
      rw [fileFor] at hThere
      rw [hThere]
      exact outcome_generate_require hWrite hFree
  | ephemeral =>
    rw [provide, provision, discard_eq, outcome_bind, generateClass, outcome_get_bind, outcome_bind,
      outcome_lift]
    cases sourceFor ⟨world, p.modules⟩ (.cls c) (g.classNameFor c) with
    | error failure => rfl
    | ok source =>
      dsimp only
      rw [outcome_bind, deliver, Workspace.define, outcome_bind,
        Workspace.outcome_defined?_of_isFree hFree]
      dsimp only
      have hStays : ({ p with
          storage := p.storage.left p.device.closed base rest .nothing }
            : Workspace) = p := rfl
      dsimp only [Except.map]
      rw [hStays]
      cases hRun : outcome (Workspace.runModule world g.registry (g.classNameFor c)
          (.ok (.generated source))) p with
      | mk r p' => cases r <;> rfl

/-- What a load does: what it returns, what it leaves of writing a file, and how it changes the
modules and the registries. -/
structure Deed where
  result : Except Failure String
  trace : Storage.Trace FileContent := .nothing
  change : Workspace.Change := .nothing

/-- What a load does with a class that is not defined. -/
def deedOf (g : Generator) (world : World) (c : ClassRef) (p : Workspace) (base rest : List String)
    (policy : Policy) : Deed :=
  match g.provision ⟨world, p.modules⟩ c p.storage p.device base rest policy with
  | (.error failure, trace) => { result := .error failure, trace }
  | (.ok content, trace) =>
    match content >>= Running.ofContent (p.running world (g.classNameFor c)) (g.classNameFor c) with
    | .error failure => { result := .error failure, trace, change := .vacated }
    | .ok running =>
      { result :=
          if (running.items.lookup (lastPart (g.classNameFor c))).isSome then
            .ok (g.classNameFor c)
          else .error (.missingAttribute (lastPart (g.classNameFor c)))
        trace, change := .ran running }

def deed (g : Generator) (world : World) (c : ClassRef) (policy : Value) (base rest : List String)
    (p : Workspace) : Deed :=
  if g.directory = "" then { result := .error .directoryRequired }
  else if g.namespaceName = "" then { result := .error .namespaceRequired }
  else
    match p.known g.registry (g.classNameFor c) with
    | .free =>
      match Policy.ofValue policy with
      | .error failure => { result := .error failure }
      | .ok chosen => g.deedOf world c p base rest chosen
    | .registered _ => { result := .ok (g.classNameFor c) }
    | .bound found => { result := .ok (g.classNameFor c), change := .adopted found }
    | .occupied => { result := .error (.moduleOccupied (g.classNameFor c)) }

def did (g : Generator) (c : ClassRef) (p : Workspace) (base rest : List String) (deed : Deed) :
    Workspace :=
  ({ p with storage := p.storage.left p.device.closed base rest deed.trace } : Workspace).changed
    g.registry (g.classNameFor c) deed.change

theorem outcome_provided (hWrite : p.storage.WritesAs p.device (g.fileFor c) base rest)
    (hFree : p.IsFree g.registry (g.classNameFor c)) (policy : Policy) :
    outcome (do
        g.provide world c (g.classNameFor c) policy
        return g.classNameFor c) p
      = let deed := g.deedOf world c p base rest policy
        (deed.result, g.did c p base rest deed) := by
  rw [outcome_bind, outcome_provide hWrite hFree, deedOf]
  cases hProvision : g.provision ⟨world, p.modules⟩ c p.storage p.device base rest policy with
  | mk content trace =>
    cases content with
    | error failure => rfl
    | ok content =>
      dsimp only
      rw [Workspace.outcome_runModule]
      have hRunning : ({ p with storage := p.storage.left p.device.closed base rest trace }
          : Workspace).running world (g.classNameFor c) = p.running world (g.classNameFor c) := rfl
      rw [hRunning]
      cases content >>= Running.ofContent (p.running world (g.classNameFor c)) (g.classNameFor c)
        with
      | error failure => rfl
      | ok running =>
        dsimp only
        cases (running.items.lookup (lastPart (g.classNameFor c))).isSome <;> rfl

theorem outcome_load (hWrite : p.storage.WritesAs p.device (g.fileFor c) base rest)
    (policy : Value) :
    outcome (g.load world (.cls c) policy) p
      = let deed := g.deed world c policy base rest p
        (deed.result, g.did c p base rest deed) := by
  rw [load, deed]
  by_cases hDirectory : g.directory = ""
  · rw [if_pos hDirectory, if_pos hDirectory]
    rfl
  rw [if_neg hDirectory, if_neg hDirectory]
  by_cases hNamespace : g.namespaceName = ""
  · rw [if_pos hNamespace, if_pos hNamespace]
    rfl
  rw [if_neg hNamespace, if_neg hNamespace, TargetRef.resolve, outcome_bind, outcome_lift]
  dsimp only
  rw [outcome_bind, Workspace.outcome_defined?]
  cases hKnown : p.known g.registry (g.classNameFor c) with
  | registered | bound | occupied => rfl
  | free =>
    dsimp only
    rw [outcome_bind, outcome_lift]
    cases Policy.ofValue policy with
    | error failure => rfl
    | ok chosen => exact outcome_provided hWrite (Workspace.isFree_of_known hKnown) chosen

end Generator

end Interpose

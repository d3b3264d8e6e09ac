import Interpose.Source.Execution
import Interpose.Source.ModuleContent
import Interpose.Storage.Writing

/-! # Workspaces

What a running program holds: its storage, the modules that generated names stand for, and the
registries of generated classes. A name that stands for a module is not run again; while a module
runs its name is taken, and if it fails the name is free again. A registry keeps the first class
that is registered under a name.
-/
namespace Interpose

set_option autoImplicit false

/-- The state of a program. A registry is recorded with what is registered under each name. Every
module that has been run is recorded with the names it binds, the latest first. -/
structure Workspace where
  storage : Storage FileContent := {}
  device : Device FileContent := { incomplete := .plain "" }
  modules : List (String × List (String × Value)) := []
  registries : List (String × List (String × Value)) := []
  classes : List DecoratedClass := []
  next : Nat := 0
  deriving Repr

/-- A step of a program: it can fail, and what it did before stays done. -/
abbrev Action (α : Type) := ExceptT Failure (StateM Workspace) α

def lastPart (name : String) : String :=
  (Text.cutLast '.' name).2

namespace Workspace

def registry (p : Workspace) (id : String) : List (String × Value) :=
  (p.registries.lookup id).getD []

def registered? (p : Workspace) (id name : String) : Option Value :=
  (p.registry id).lookup name

def registeredNames (p : Workspace) (id : String) : List String :=
  ((p.registry id).map Prod.fst).mergeSort fun a b => decide (a ≤ b)

def class? (p : Workspace) (c : ClassRef) : Option DecoratedClass :=
  p.classes.find? fun d => d.ref == c

/-- Registers something under a name, unless the name is taken, and returns what is registered. -/
def register (id name : String) (v : Value) : Action Value := do
  let entries := Entries.insertIfNew name v ((← get).registry id)
  modify fun p => { p with registries := Entries.insert id entries p.registries }
  return (entries.lookup name).getD v

def registered (id name : String) : Action Value := do
  match (← get).registered? id name with
  | some v => return v
  | none => throw (.missingEntry name)

/-- What the program has already defined under a name. A class that was defined through another
registry is adopted. A name that is registered without a value counts as not defined. -/
def defined? (id name : String) : Action (Option Value) := do
  let p ← get
  match p.registered? id name with
  | some .none => return none
  | some v => return some v
  | none =>
    match p.modules.lookup name with
    | none => return none
    | some bindings =>
      match bindings.lookup (lastPart name) with
      | some (.cls c) => return some (← register id name (.cls c))
      | _ => throw (.moduleOccupied name)

/-- What a name is bound to by a module that runs under some name, given a serial number for a
class. -/
def boundValue (moduleName : String) (serial : Nat) : BoundItem → Value
  | .newClass qualname => .cls ⟨moduleName, qualname, serial, false⟩
  | .value v => v

def runContent (world : World) (name : String) : FileContent → Action (List (String × Value))
  | .generated source => do
    let p ← get
    let c ← source.run ⟨world, p.modules⟩ name (p.next + 1)
    set { p with classes := p.classes ++ [c], next := p.next + 1 }
    return [(source.definedName, .cls c.ref)]
  | .emptyClass className => do
    if !Text.isName className then throw .malformedModule
    let p ← get
    let bound := Text.normalForm className
    let c : ClassRef := ⟨name, bound, p.next + 1, false⟩
    set { p with next := p.next + 1 }
    return [(bound, .cls c)]
  | .assignment bound => do
    if !Text.isName bound then throw .malformedModule
    return [(Text.normalForm bound, .int 1)]
  | .malformed => throw .malformedModule
  | .failing message => throw (.moduleFails message)
  | .plain _ effect => do
    let names ← effect
    let p ← get
    set { p with next := p.next + names.length }
    return names.mapIdx fun i (bound, b) => (bound, boundValue name (p.next + 1 + i) b)

/-- Runs the content of a module under a name, if there is content. The name is taken from then on,
but free again if the module fails. -/
def execute (world : World) (name : String) (content : Except Failure FileContent) :
    Action (List (String × Value)) := do
  modify fun p => { p with modules := (name, []) :: p.modules }
  try
    runContent world name (← content)
  catch failure =>
    modify fun p => { p with modules := Entries.erase name p.modules }
    throw failure

/-- Runs a module under a name and registers its class. A module that does not bind the class
leaves its name taken. -/
def runModule (world : World) (id name : String) (content : Except Failure FileContent) :
    Action Unit := do
  let bindings ← execute world name content
  modify fun p => { p with modules := Entries.insert name bindings p.modules }
  match bindings.lookup (lastPart name) with
  | some v => discard (register id name v)
  | none => throw (.missingAttribute (lastPart name))

def define (world : World) (id name : String) (source : ClassSource) : Action Unit := do
  match ← defined? id name with
  | some _ => return
  | none => runModule world id name (.ok (.generated source))

def require (world : World) (id name : String) (path : StorePath) : Action Unit := do
  match ← defined? id name with
  | some _ => return
  | none => runModule world id name ((← get).storage.read path)

def writeFile (path : StorePath) (content : FileContent) : Action Unit := do
  let p ← get
  let (result, storage) := (Storage.write p.device path content).run.run p.storage
  set { p with storage }
  result

end Workspace
end Interpose

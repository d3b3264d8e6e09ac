import Interpose.Introspection
import Interpose.Policy
import Interpose.Workspace

/-! # Generators

A generator makes decorated classes available under a namespace. The class for a target is written
to a file of a directory, or defined in memory, as a policy says, and is then registered under its
name. A class that has been defined under the name is never generated again.
-/
namespace Interpose

set_option autoImplicit false

inductive TargetRef where
  | cls (c : ClassRef)
  | named (text : String)
  deriving DecidableEq, Repr

def TargetRef.resolve (world : World) : TargetRef → Except Failure ClassRef
  | .cls c => .ok c
  | .named text => world.resolveTarget text

/-- Where generated classes live: the directory of their files, the namespace of their modules and
the registry that knows them. -/
structure Generator where
  directory : String
  namespaceName : String
  registry : String
  deriving DecidableEq, Repr

/-- A generated class: its name in two parts, its source and, unless it is in memory only, the path
of its file. -/
structure GeneratedClass where
  namespaceName : String
  shortName : String
  source : ClassSource
  path : Option StorePath
  deriving Repr

def GeneratedClass.name (g : GeneratedClass) : String :=
  g.namespaceName ++ "." ++ g.shortName

def classFile (directory shortName : String) : StorePath :=
  (StorePath.ofText directory).child (shortName ++ ".py")

def sourceFor (w : LoadedWorld) (target : TargetRef) (fullName : String) :
    Except Failure ClassSource := do
  let c ← target.resolve w.world
  let introspected ← w.world.introspect c
  ClassSource.of w introspected (lastPart fullName)

/-- Puts a source in a file or, without one, defines its class in memory. -/
def deliver (world : World) (registry fullName : String) (source : ClassSource) :
    Option StorePath → Action Unit
  | none => Workspace.define world registry fullName source
  | some path => Workspace.writeFile path (.generated source)

def generateClass (world : World) (registry : String) (target : TargetRef) (fullName : String)
    (path : Option StorePath) : Action GeneratedClass := do
  let source ← sourceFor ⟨world, (← get).modules⟩ target fullName
  deliver world registry fullName source path
  return ⟨(Text.cutLast '.' fullName).1, lastPart fullName, source, path⟩

namespace Generator

def classNameFor (g : Generator) (c : ClassRef) : String :=
  g.namespaceName ++ "." ++ shortName c.fullName

def generateIn (g : Generator) (world : World) (target : TargetRef) (directory : String) :
    Action GeneratedClass := do
  let c ← target.resolve world
  generateClass world g.registry (.cls c) (g.classNameFor c)
    (some (classFile directory (shortName c.fullName)))

def provide (g : Generator) (world : World) (c : ClassRef) (name : String) :
    Policy → Action Unit
  | .never => Workspace.require world g.registry name (classFile g.directory (shortName c.fullName))
  | .always => do
    let path := classFile g.directory (shortName c.fullName)
    discard (generateClass world g.registry (.cls c) name (some path))
    Workspace.require world g.registry name path
  | .ifMissing => do
    let path := classFile g.directory (shortName c.fullName)
    if !(← get).storage.exists? path then
      discard (generateClass world g.registry (.cls c) name (some path))
    Workspace.require world g.registry name path
  | .ephemeral => discard (generateClass world g.registry (.cls c) name none)

/-- Makes the class for a target available, and returns the name it is registered under. -/
def load (g : Generator) (world : World) (target : TargetRef) (policy : Value) :
    Action String := do
  if g.directory = "" then throw .directoryRequired
  if g.namespaceName = "" then throw .namespaceRequired
  let c ← target.resolve world
  let name := g.classNameFor c
  match ← Workspace.defined? g.registry name with
  | some _ => return name
  | none =>
    let policy ← Policy.ofValue policy
    g.provide world c name policy
    return name

def getClass (g : Generator) (name : String) : Action Value :=
  Workspace.registered g.registry name

def loadClass (g : Generator) (world : World) (target : TargetRef) (policy : Value) :
    Action Value := do
  g.getClass (← g.load world target policy)

end Generator
end Interpose

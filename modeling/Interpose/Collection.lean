import Interpose.Binding
import Interpose.Failure

/-! # Decorated collections

A decorated collection wraps a collection of elements and keeps track of its changes. It is loaded
through a unit of work the first time it is used after it has been marked as not initialized, and
it schedules its owner for synchronization the first time it is changed. Elements are known by
identity alone.

Every operation can fail, and a failing operation leaves behind what it did before it failed. What
the wrapped collection and the collaborators are asked to do is recorded as events; they can refuse
it. The history of a collection has these events and, between them, the changes of its two marks
and the calls that its forwarding methods pass on.
-/
namespace Interpose

set_option autoImplicit false

/-- An element of a collection, or the owner of one, known by its label. -/
abbrev Element := String

/-- What the wrapped collection or a collaborator is asked to do. -/
inductive Event where
  | cleared
  | called (method : String) (call : Call Value)
  | metadata
  | loading
  | scheduled (owner : Element)
  deriving Repr

inductive Moment where
  | asked (event : Event)
  /-- The mark of a change is set or reset. -/
  | dirty (b : Bool)
  /-- The mark of having been loaded is set or reset. -/
  | initialized (b : Bool)
  /-- A forwarding method passes a call on. -/
  | delegated (method : String) (call : Call Value)
  deriving Repr

/-- The description of the association that a collection stands for. -/
abbrev Mapping := List (String × Value)

/-- A decorated collection with its wrapped collection and its collaborators: the elements and the
methods that add one, what the document manager says about notification, whether there are a
document manager and a unit of work, and which of the next requests to them are refused, and why. -/
structure Collection where
  content : List Element := []
  adders : List String := ["append"]
  notifies : Value := .bool true
  hasManager : Bool := true
  hasUnitOfWork : Bool := true
  owner : Option Element := none
  mapping : Option Mapping := none
  snapshot : List Element := []
  isDirty : Bool := false
  isInitialized : Bool := true
  events : List Event := []
  history : List Moment := []
  refusals : List (Option Failure) := []
  deriving Repr

abbrev Operation (α : Type) := ExceptT Failure (StateM Collection) α

namespace Collection

def hasMapping (c : Collection) : Bool :=
  match c.mapping with
  | none => false
  | some entries => !entries.isEmpty

def isOwningSide (c : Collection) : Bool :=
  match c.mapping with
  | none => false
  | some entries => (((entries.lookup "is_owning_side").map Value.isTruthy).getD false)

def insertDiff (c : Collection) : List Element :=
  c.content.filter fun e => !c.snapshot.contains e

def deleteDiff (c : Collection) : List Element :=
  c.snapshot.filter fun e => !c.content.contains e

/-- Whether the collection is known to have changed since the snapshot. -/
def hasChanged (c : Collection) : Bool :=
  c.isDirty || (c.isInitialized && (!c.insertDiff.isEmpty || !c.deleteDiff.isEmpty))

def note (moment : Moment) : Operation Unit :=
  modify fun c => { c with history := c.history ++ [moment] }

/-- Asks for something, which may be refused. -/
def record (event : Event) : Operation Unit := do
  note (.asked event)
  let c ← get
  set { c with events := c.events ++ [event], refusals := c.refusals.tail }
  match c.refusals.head? with
  | some (some failure) => throw failure
  | _ => pure ()

def clear : Operation Unit := do
  record .cleared
  modify fun c => { c with content := [] }

def setDirty (isDirty : Bool) : Operation Unit := do
  note (.dirty isDirty)
  modify fun c => { c with isDirty }

def setInitialized (isInitialized : Bool) : Operation Unit := do
  note (.initialized isInitialized)
  modify fun c => { c with isInitialized }

/-- Remembers the elements and resets the mark of a change. -/
def takeSnapshot : Operation Unit := do
  modify fun c => { c with snapshot := c.content }
  setDirty false

def clearSnapshot : Operation Unit := do
  modify fun c => { c with snapshot := [] }
  setDirty true

def setOwner (owner : Option Element) (mapping : Option Mapping) : Operation Unit :=
  modify fun c => { c with owner, mapping }

def addAll (method : String) : List Element → Operation Unit
  | [] => pure ()
  | e :: es => do
    record (.called method ⟨[.object e], []⟩)
    modify fun c => { c with content := c.content ++ [e] }
    addAll method es

def adder? (c : Collection) : Option String :=
  ["append", "add"].find? c.adders.contains

def addBack (elements : List Element) : Operation Unit := do
  match (← get).adder? with
  | some method => addAll method elements
  | none => throw (.missingAttribute "add")

/-- Whether a change has to be scheduled: the raw answer of the document manager, if it is
asked. -/
def needsScheduling : Operation Value := do
  let c ← get
  if c.owner.isNone || !c.hasManager || !c.isOwningSide then return .bool false
  record .metadata
  return c.notifies

/-- Marks the collection as changed, and schedules its owner if that is needed. -/
def changed : Operation Unit := do
  let c ← get
  if c.isDirty then return
  setDirty true
  let needs ← needsScheduling
  if needs.isTruthy then
    if !c.hasUnitOfWork then throw .noUnitOfWork
    match c.owner with
    | some owner => record (.scheduled owner)
    | none => pure ()

/-- Loads the collection if it has not been loaded. Elements added before are kept, after those
that were loaded. -/
def ensureLoaded (load : Operation Unit) : Operation Unit := do
  let c ← get
  if c.isInitialized || !c.hasMapping || !c.hasUnitOfWork then return
  let pending := if c.isDirty then c.content else []
  setInitialized true
  clear
  load
  takeSnapshot
  if !pending.isEmpty then
    addBack pending
    setDirty true

end Collection

/-- A unit of work that loads certain elements, or fails. -/
structure UnitOfWork where
  elements : List Element := []
  fails : Bool := false
  deriving Repr

def UnitOfWork.load (work : UnitOfWork) : Operation Unit := do
  Collection.record .loading
  if work.fails then throw .loadFailed
  modify fun c => { c with content := c.content ++ work.elements }

/-- The operations that every decorated collection supports. -/
def supportedOperations : List String :=
  ["initialize", "changed", "needs_scheduling_for_synchronization", "is_dirty", "set_dirty",
   "is_initialized", "set_initialized", "set_owner", "get_owner", "get_mapping", "unwrap"]

def undecoratedCall (operation : String) : Failure :=
  if supportedOperations.contains operation then .notSupported operation
  else .missingAttribute operation

end Interpose

import Interpose.Storage.Basic

/-! # Writing files

A file is written beside its place first, under a name that nothing else has, and moved there when
it is complete, so that no one sees half of it. The directories above it are made before, and they
stay if the file cannot be written; the file beside is removed again, if that can be done.

The device decides what can be done: a directory can be closed to new entries, and any step after
the directories have been made can fail, the removal of the file beside included. In a directory to
which entries can only be added, the last two steps fail together.
-/
namespace Interpose

set_option autoImplicit false

inductive WritingStep where
  | create
  | fill
  | permit
  | replace
  /-- The removal of the file beside, after another step has failed. -/
  | cleanUp
  deriving DecidableEq, Repr

/-- What holds a storage: the directories in which nothing can be made, what a file holds before it
is complete, and the steps of writing a file that fail. -/
structure Device (Content : Type) where
  closed : List (List String) := []
  incomplete : Content
  faults : List (WritingStep × Failure) := []
  deriving Repr

abbrev Storing (Content α : Type) := ExceptT Failure (StateM (Storage Content)) α

def StorePath.name (p : StorePath) : String :=
  p.parts.getLastD ""

namespace Device

variable {Content : Type}

def allow (device : Device Content) (step : WritingStep) : Except Failure Unit :=
  match device.faults.lookup step with
  | some failure => .error failure
  | none => .ok ()

end Device

namespace Storage

variable {Content : Type}

def put (place : List String) (item : StoredItem Content) (s : Storage Content) :
    Storage Content :=
  ⟨Entries.insert place item s.entries⟩

def drop (place : List String) (s : Storage Content) : Storage Content :=
  ⟨Entries.erase place s.entries⟩

/-- The name of a file beside one of the given name. It is longer than all names in the storage
together, so that nothing has it. -/
def nameBeside (s : Storage Content) (name : String) : String :=
  let length := s.entries.foldr (fun entry length => (entry.1.getLastD "").length + length) 0
  name ++ "." ++ String.ofList (List.replicate length '_')

/-- Makes the directories that some parts lead through. A file in the way is an error, and so is a
directory that is closed. -/
def makeDirectories (closed : List (List String)) (path : String) (place : List String) :
    List String → Storing Content Unit
  | [] => pure ()
  | part :: parts => do
    let next := step place part
    match (← get).item? next with
    | some .directory => pure ()
    | some (.file _) => throw (.directoryNotWritable path)
    | none =>
      if closed.contains place then throw (.directoryNotWritable path)
      modify fun s => ⟨s.entries ++ [(next, .directory)]⟩
    makeDirectories closed path next parts

/-- Moves what stands at a place to where a path leads, in place of a file there. -/
def move (source : List String) (path : StorePath) : Storing Content Unit := do
  let s ← get
  let target ← s.locate path.text [] path.parts
  if s.isDirectory target then throw (.isDirectory path.text)
  match s.item? source with
  | some item => set ((s.drop source).put target item)
  | none => throw (.fileNotFound path.text)

/-- Fills a file that stands beside the place of another one, and moves it there. -/
def complete (device : Device Content) (beside : List String) (path : StorePath)
    (content : Content) : Storing Content Unit := do
  device.allow .fill
  modify (put beside (.file content))
  device.allow .permit
  device.allow .replace
  move beside path

/-- Puts a file in place, after making the directories above it. It is written beside its place
and then moved there. If the file cannot be put in place, the directories stay. The file beside is
removed then; if that cannot be done either, it stays, and this is the failure. -/
def write (device : Device Content) (path : StorePath) (content : Content) :
    Storing Content Unit := do
  makeDirectories device.closed path.parent.text [] path.parent.parts
  let s ← get
  let directory ← s.locate path.parent.text [] path.parent.parts
  if device.closed.contains directory then throw (.directoryNotWritable path.parent.text)
  device.allow .create
  let beside := directory ++ [s.nameBeside path.name]
  modify (put beside (.file device.incomplete))
  try
    complete device beside path content
  catch failure =>
    device.allow .cleanUp
    modify (drop beside)
    throw failure

def addDirectory (s : Storage Content) (path : StorePath) : Except Failure (Storage Content) :=
  let (result, s) := (makeDirectories [] path.text [] path.parts).run.run s
  result.map fun () => s

end Storage
end Interpose

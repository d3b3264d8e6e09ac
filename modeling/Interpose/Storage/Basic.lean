import Interpose.Entries
import Interpose.Failure
import Interpose.Storage.Path

/-! # Storage

A tree of directories and files. Entries are kept under the list of their parts, counted from the
working directory, which always exists; every entry is in a directory.
-/
namespace Interpose

set_option autoImplicit false

inductive StoredItem (Content : Type) where
  | directory
  | file (content : Content)
  deriving Repr

structure Storage (Content : Type) where
  entries : List (List String × StoredItem Content) := []
  deriving Repr

namespace Storage

variable {Content : Type}

def item? (s : Storage Content) (place : List String) : Option (StoredItem Content) :=
  if place = [] then some .directory else s.entries.lookup place

def isDirectory (s : Storage Content) (place : List String) : Bool :=
  match s.item? place with
  | some .directory => true
  | _ => false

/-- Where a step from a directory leads: two points lead to the directory above. -/
def step (place : List String) (part : String) : List String :=
  if part = ".." then place.dropLast else place ++ [part]

/-- The place that some parts lead to from a directory. Each part but the last has to lead to a
directory; a file in the way is told apart from nothing. -/
def locate (s : Storage Content) (path : String) (place : List String) :
    List String → Except Failure (List String)
  | [] => .ok place
  | part :: parts =>
    match s.item? place with
    | some .directory => s.locate path (step place part) parts
    | some (.file _) => .error (.notDirectory path)
    | none => .error (.fileNotFound path)

def read (s : Storage Content) (path : StorePath) : Except Failure Content := do
  let place ← s.locate path.text [] path.parts
  match s.item? place with
  | some (.file content) => return content
  | some .directory => throw (.isDirectory path.text)
  | none => throw (.fileNotFound path.text)

def exists? (s : Storage Content) (path : StorePath) : Bool :=
  match s.locate path.text [] path.parts with
  | .ok place => (s.item? place).isSome
  | .error _ => false

def remove (s : Storage Content) (path : StorePath) : Except Failure (Storage Content) := do
  let place ← s.locate path.text [] path.parts
  match s.item? place with
  | some (.file _) => return ⟨Entries.erase place s.entries⟩
  | some .directory => throw (.isDirectory path.text)
  | none => throw (.fileNotFound path.text)

def isBelow (directory place : List String) : Bool :=
  directory.length < place.length && place.take directory.length == directory

/-- The paths of all files and, with a slash at the end, of all empty directories. -/
def listing (s : Storage Content) : List String :=
  let names := s.entries.filterMap fun (place, entry) =>
    let name := "/".intercalate place
    match entry with
    | .file _ => some name
    | .directory =>
      if s.entries.any fun other => isBelow place other.1 then none else some (name ++ "/")
  names.mergeSort fun a b => decide (a ≤ b)

end Storage
end Interpose

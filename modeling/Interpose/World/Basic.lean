import Interpose.Entries
import Interpose.Failure
import Interpose.Text.Dotted
import Interpose.World.Memory

/-! # The class world

The modules and classes that a generator looks at. All modules of a world have been imported:
importing one again leaves the world as it is, and a package has its submodules among its
attributes. What it takes to import a module for the first time is not told here. The attribute of a
class is the one of the first class, in the order of resolution, that has the name.
-/
namespace Interpose

set_option autoImplicit false

/-- The modules that have been imported, the classes that exist, and what the typing module remembers
from their making. -/
structure World where
  modules : List Module
  classes : List ClassInfo
  memory : Memory
  deriving Repr

/-- Where an object is found: under a name of a module or of a class, or as a text that some object
knows about itself. -/
inductive Place where
  | binding (module name : String)
  | member (owner : ClassRef) (name : String)
  | text (s : String)
  deriving DecidableEq, Repr

/-- An object that a name leads to, and the place where it is found. An object that is made when it
is read has no place. -/
structure Found where
  object : Object
  place : Option Place
  deriving Repr

namespace World

variable (world : World)

def module? (name : String) : Option Module :=
  world.modules.find? fun m => m.name == name

def classInfo? (c : ClassRef) : Option ClassInfo :=
  world.classes.find? fun info => info.ref == c

/-- The classes that the attributes of a class are searched in, itself first. -/
def resolution (c : ClassRef) : List ClassRef :=
  match world.classInfo? c with
  | some info => info.resolution
  | none => [c, ClassRef.objectClass]

def attributes (c : ClassRef) : List (String × Attribute) :=
  match world.classInfo? c with
  | some info => info.attributes
  | none => []

def bases (c : ClassRef) : List ClassRef :=
  match world.classInfo? c with
  | some info => info.bases
  | none => [ClassRef.objectClass]

def typeParameters (c : ClassRef) : List TypeVariable :=
  match world.classInfo? c with
  | some info => info.typeParameters
  | none => []

def className (c : ClassRef) : String :=
  match world.classInfo? c with
  | some info => info.name
  | none => c.name

def firstAttribute? (name : String) : List ClassRef → Option (ClassRef × Attribute)
  | [] => none
  | c :: cs =>
    match (world.attributes c).lookup name with
    | some item => some (c, item)
    | none => firstAttribute? name cs

def classAttribute? (c : ClassRef) (name : String) : Option (ClassRef × Attribute) :=
  world.firstAttribute? name (world.resolution c)

/-- Imports each of a chain of modules, given the one before it. -/
def importChain (before : Option String) : List String → Except Failure Unit
  | [] => .ok ()
  | name :: names =>
    match world.module? name with
    | some _ => importChain (some name) names
    | none =>
      let holder := before.filter fun parent =>
        match world.module? parent with
        | some m => !m.isPackage
        | none => false
      .error (.moduleNotFound name holder)

/-- Imports a module under its dotted name, after the modules that the leading parts name. There is
nothing to do for a module that has been imported, and no other one is found. -/
def importModule (name : String) : Except Failure Unit :=
  if name = "" then .error .emptyModuleName
  else if name.toList.head? = some '.' then .error .relativeModuleName
  else world.importChain none (Text.dottedPrefixes (Text.dottedParts name))

end World
end Interpose

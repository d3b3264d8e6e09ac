import Interpose.TargetName

/-! # Importing modules

Asking a module for a name imports the module. A module is run when it is imported for the first
time, after the module that its name has before the last point. That one has to be a package, which
binds the module once it has been run. So what a name leads to can depend on what has been imported
before. It does not where there is nothing left to import, as in a world that is asked on its own.
-/
namespace Interpose

set_option autoImplicit false

/-- The modules that can be found. Of each it is known, in a world so far, whether running it
succeeds, and which world it leaves. -/
structure ModulePath where
  run? : String → World → Option (Except Failure Unit × World)

/-- A step that may import modules. -/
abbrev Importing := ExceptT Failure (StateM World)

/-- Binds a submodule in its package. -/
def World.bindSubmodule (world : World) (package name : String) : World where
  modules := world.modules.map fun m =>
    if m.name == package then
      { m with bindings := Entries.insert (Text.cutLast '.' name).2 (.module name) m.bindings }
    else m
  classes := world.classes
  memory := world.memory

namespace ModulePath

/-- Finds modules that bind some names when they are run, and do nothing else. -/
def ofModules (modules : List Module) : ModulePath where
  run? name world := (modules.find? fun m => m.name == name).map fun m =>
    (.ok (), { world with modules := world.modules ++ [m] })

variable (path : ModulePath)

def runModule (name : String) : Importing Unit := do
  match path.run? name (← get) with
  | none => throw (.moduleNotFound name none)
  | some (result, world) =>
    set world
    MonadExcept.ofExcept result

/-- Imports a module that is not there, after its package if it is in one. -/
def importAfter (name : String) : Option String → Importing Unit
  | none => path.runModule name
  | some package => do
    if ((← get).module? package).any fun m => !m.isPackage then
      throw (.moduleNotFound name (some package))
    path.runModule name
    modify fun world => world.bindSubmodule package name

/-- Imports the first of some modules, each of which is a submodule of the next one. Running a
package can import its submodules. -/
def importFirst : List String → Importing Unit
  | [] => return
  | name :: packages => do
    if ((← get).module? name).isSome then return
    importFirst packages
    if ((← get).module? name).isSome then return
    path.importAfter name packages.head?

def importModule (name : String) : Importing Unit := do
  if name = "" then throw .emptyModuleName
  if name.toList.head? = some '.' then throw .relativeModuleName
  path.importFirst (Text.dottedPrefixes (Text.dottedParts name)).reverse

/-- Whether a module and a qualified name lead to something that a type hint can name, once the
module has been imported. -/
def typeExists (module : Option String) (qualname : String) : Importing Bool :=
  match module with
  | none => return false
  | some module => do
    let isImported ←
      try
        path.importModule module
        pure true
      catch failure => if failure.isImport then pure false else throw failure
    if isImported then
      match (← get).follow ⟨.module module, none⟩ (Text.dottedParts qualname) with
      | none => return false
      | some found => return World.isTypeObject found.object
    else return false

instance : NameSource ModulePath Importing where
  typeExists := ModulePath.typeExists

end ModulePath

/-- The modules of the library under study that are there only once they have been imported. -/
def Library.path : ModulePath :=
  .ofModules [⟨"wsgiref", true, []⟩,
    ⟨"wsgiref.headers", false, [("Headers", .cls ⟨"wsgiref.headers", "Headers", 0, false⟩)]⟩]

end Interpose

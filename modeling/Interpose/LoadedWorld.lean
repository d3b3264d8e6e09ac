import Interpose.TargetName

/-! # Worlds with loaded modules

A module that has been loaded can be imported by its full name, whatever there is of the packages
that the name leads through. It is no attribute of a package, and has no submodules itself. A name
in it means what it binds.
-/
namespace Interpose

set_option autoImplicit false

/-- A world, and the modules that have been loaded besides with the names they bind. -/
structure LoadedWorld where
  world : World
  loaded : List (String × List (String × Value))

namespace LoadedWorld

variable (w : LoadedWorld)

/-- The last one of some modules that has been loaded, and those that come after it. -/
def lastLoaded? : List String → Option (String × List String)
  | [] => none
  | name :: names =>
    (lastLoaded? names).or (if (w.loaded.lookup name).isSome then some (name, names) else none)

/-- Imports a module by its dotted name. -/
def importModule (name : String) : Except Failure Unit :=
  if name = "" then .error .emptyModuleName
  else if name.toList.head? = some '.' then .error .relativeModuleName
  else
    let names := Text.dottedPrefixes (Text.dottedParts name)
    match w.lastLoaded? names with
    | none => w.world.importChain none names
    | some (_, []) => .ok ()
    | some (holder, missing :: _) => .error (.moduleNotFound missing (some holder))

/-- Imports a module in a statement, which binds the first module that the name leads through. -/
def bindModule (name : String) : Except Failure Unit := do
  w.importModule name
  w.importModule ((Text.dottedParts name).headD "")

/-- What a dotted name means in a module that has been imported. -/
def follow (module : String) (names : List String) : Option Found :=
  match w.loaded.lookup module, names with
  | some bindings, name :: rest =>
    match bindings.lookup name with
    | some .none => none
    | some v => w.world.follow ⟨.value v, none⟩ rest
    | none => w.world.follow ⟨.module module, none⟩ names
  | _, _ => w.world.follow ⟨.module module, none⟩ names

/-- Whether a module and a qualified name lead to something that a type hint can name. -/
def typeExists (module : Option String) (qualname : String) : Except Failure Bool :=
  match module with
  | none => .ok false
  | some module =>
    match w.importModule module with
    | .ok () =>
      match w.follow module (Text.dottedParts qualname) with
      | none => .ok false
      | some found => .ok (World.isTypeObject found.object)
    | .error failure => if failure.isImport then .ok false else .error failure

instance : NameSource LoadedWorld (Except Failure) where
  typeExists := LoadedWorld.typeExists

/-! ## Nothing loaded -/

theorem lastLoaded?_of_nil (world : World) (names : List String) :
    lastLoaded? ⟨world, []⟩ names = none := by
  induction names with
  | nil => rfl
  | cons name names ih => rw [lastLoaded?, ih]; rfl

/-- Where nothing has been loaded, importing a module is importing it from the world. -/
theorem importModule_of_nil (world : World) (name : String) :
    importModule ⟨world, []⟩ name = world.importModule name := by
  simp only [importModule, World.importModule, lastLoaded?_of_nil]

theorem typeExists_of_nil (world : World) (module : Option String) (qualname : String) :
    typeExists ⟨world, []⟩ module qualname = world.typeExists module qualname := by
  cases module with
  | none => rfl
  | some module =>
    simp only [typeExists, World.typeExists, importModule_of_nil]
    rfl

/-- A class of a loaded module can be named, though no package has the module. -/
example :
    let w : LoadedWorld := ⟨⟨[], [], []⟩, [("a.b", [("C", .cls ⟨"a.b", "C", 1, false⟩)])]⟩
    w.typeExists (some "a.b") "C" = .ok true ∧ w.typeExists (some "a.b.c") "C" = .ok false ∧
      w.bindModule "a.b" = .error (.moduleNotFound "a" none) :=
  ⟨rfl, rfl, rfl⟩

end LoadedWorld
end Interpose

import Interpose.World.ObjectExpr

/-! # Target names

A target class is named by its module and its qualified name, with a colon between them. A point
may stand in place of the colon; then the part after the last point is the class.
-/
namespace Interpose

set_option autoImplicit false

def splitTarget (text : String) : String × String :=
  match Text.cutFirst ':' text with
  | some parts => parts
  | none => Text.cutLast '.' text

namespace World

variable (world : World)

def resolveTarget (text : String) : Except Failure ClassRef := do
  let (module, qualname) := splitTarget text
  if module = "" ∨ qualname = "" then throw (.malformedTarget text)
  world.importModule module
  match world.follow ⟨.module module, none⟩ (Text.dottedParts qualname) with
  | none => throw (.classNotFound qualname module)
  | some found =>
    match found.object.asClass? with
    | some c => return c
    | none => throw (.targetIsNoClass text)

/-- Whether the object can be named in a type hint. -/
def isTypeObject (object : Object) : Bool :=
  match object with
  | .value (.cls _) | .typeVariable _ => true
  | object => object.isTyping

/-- Whether a module and a qualified name lead to something that a type hint can name. A module
that cannot be found has no types; a malformed module name is an error. -/
def typeExists (module : Option String) (qualname : String) : Except Failure Bool :=
  match module with
  | none => .ok false
  | some module =>
    match world.importModule module with
    | .ok () =>
      match world.follow ⟨.module module, none⟩ (Text.dottedParts qualname) with
      | none => .ok false
      | some found => .ok (isTypeObject found.object)
    | .error failure => if failure.isImport then .ok false else .error failure

end World

/-- Something that can be asked whether a module and a qualified name lead to what a type hint can
name. Asking can have effects. -/
class NameSource (S : Type) (m : outParam (Type → Type)) where
  typeExists : S → Option String → String → m Bool

instance : NameSource World (Except Failure) where
  typeExists := World.typeExists

end Interpose

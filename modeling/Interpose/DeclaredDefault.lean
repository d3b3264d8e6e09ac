import Interpose.World.Library
import Interpose.World.Reading

/-! # Declared defaults

The default value of a parameter, as the method of a class declares it. The method is looked up on
the class; the parameters of a method that is bound to its class do not include the receiver. What
cannot be called has no parameters, and those of some methods are not known.
-/
namespace Interpose.World

set_option autoImplicit false

variable (world : World)

def boundParameters : List DeclaredParameter → List DeclaredParameter
  | [] => []
  | p :: ps => if p.kind = .varPositional then p :: ps else ps

def callParameters (item : Attribute) : Except Failure (List DeclaredParameter) :=
  match item with
  | .function r | .staticMethod r => if r.isReadable then .ok r.parameters else .error .notCallable
  | .classMethod r =>
    if r.isReadable then .ok (boundParameters r.parameters) else .error .notCallable
  | .native _ none _ | .descriptor => .error .unknownParameters
  | .native _ (some parameters) ofClass =>
    .ok (if ofClass then boundParameters parameters else parameters)
  | .plain (.value (.cls c)) =>
    if c = .builtin "type" then .error .unknownParameters
    else
      match world.classAttribute? c "__init__" with
      | some (_, .function r) => .ok (boundParameters r.parameters)
      | _ => .ok []
  | .plain (.routine ⟨.bound, _, _⟩) => .ok []
  | .property _ | .plain _ => .error .notCallable

/-- The names under which every class has something of its own, whatever it declares. Most of it
cannot be called. -/
def classOwnNames : List String :=
  ["__class__", "__name__", "__qualname__", "__bases__", "__base__", "__mro__", "__basicsize__",
   "__itemsize__", "__flags__", "__dictoffset__", "__weakrefoffset__", "__text_signature__"]

/-- What a class has under a name: what it has of its own, what it or an ancestor declares, a method
that every object has, or what it has because it is a class. -/
def memberNamed? (c : ClassRef) (name : String) : Option Attribute :=
  let stored := (world.stored? (.cls c) name).map Found.object
  if classOwnNames.contains name then
    stored.map fun object => .plain (if object.asClass?.isSome then object else .none)
  else
    (((world.classAttribute? c name).map Prod.snd).or (Library.objectMethods.lookup name)).or
      (stored.map .plain)

/-- The default value that a class declares for a parameter of a method; `none` if the parameter
has no default. -/
def declaredDefault (c : ClassRef) (method parameter : String) :
    Except Failure (Option Value) :=
  match world.memberNamed? c method with
  | none => .error (.missingAttribute method)
  | some item => do
    let parameters ← world.callParameters item
    match parameters.find? fun p => p.name == parameter with
    | some p => return p.default
    | none => throw (.missingEntry parameter)

end Interpose.World

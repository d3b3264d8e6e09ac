import Interpose.Conversion
import Interpose.Signature

/-! # Introspection

The public methods of a class, own and inherited. The classes in the order of resolution are gone
through one by one, and each attribute in the order of declaration. The first attribute of a name
decides: if it is not a method, the name is hidden. Names with two underscores on both sides are
public unless they belong to the machinery of objects; other names are public unless they start
with an underscore. The receiver is not a parameter of a method.
-/
namespace Interpose

set_option autoImplicit false

/-- The names of the machinery of objects. -/
def machineryNames : List String :=
  ["__init__", "__new__", "__del__", "__init_subclass__", "__subclasshook__", "__class_getitem__",
   "__getattribute__", "__getattr__", "__setattr__", "__delattr__", "__dir__", "__get__", "__set__",
   "__delete__", "__set_name__", "__post_init__", "__reduce__", "__reduce_ex__", "__getstate__",
   "__setstate__", "__getnewargs__", "__getnewargs_ex__", "__copy__", "__deepcopy__", "__sizeof__",
   "__format__", "__annotate__", "__annotate_func__"]

def isPublic (name : String) : Bool :=
  if Text.isDunder name then !machineryNames.contains name else name.toList.head? != some '_'

namespace World

variable (world : World)

/-- The type of the first base of a class, unless that is the class of all objects. -/
def parentType (c : ClassRef) : Option NamedType :=
  match world.bases c with
  | [] => none
  | base :: _ => if base = ClassRef.objectClass then none else some (.ofClass base)

def anyParameters : List Parameter :=
  [{ name := "args", kind := .varPositional }, { name := "kwargs", kind := .varKeyword }]

/-- The parameters after the receiver, which is the first one if it takes an argument by
position. -/
def dropReceiver : List DeclaredParameter → List DeclaredParameter
  | [] => []
  | p :: ps => if p.kind.isPositional then ps else p :: ps

def hintType (ns : Namespace) (hint : Option Object) :
    Except Failure (Option TypeExpr) :=
  match hint with
  | none => .ok none
  | some object => (object.toType ns).map some

def parameterOf (ns : Namespace) (p : DeclaredParameter) : Except Failure Parameter := do
  let type ← hintType ns p.hint
  return { name := p.name, kind := p.kind, type, default := p.default }

def methodOf (c : ClassRef) (name : String) (isStatic hasReceiver : Bool) (r : Routine) :
    Except Failure Method := do
  if !r.isReadable then throw (.unreadableSignature name c.qualname)
  let ns := world.namespaceOf r.home
  let declared := if hasReceiver then dropReceiver r.parameters else r.parameters
  let parameters ← declared.mapM (parameterOf ns)
  let returns ← hintType ns r.returns
  return {
    name, declaring := .ofClass c, parent := world.parentType c, parameters, returns
    isFinal := r.isFinal, isStatic, isAsync := r.isCoroutine }

def introspectAttribute (c : ClassRef) (name : String) :
    Attribute → Except Failure (Option Method)
  | .function r => (world.methodOf c name false true r).map some
  | .staticMethod r => (world.methodOf c name true false r).map some
  | .classMethod r => (world.methodOf c name true true r).map some
  | .property _ | .plain _ => .ok none
  | .descriptor =>
    .ok (some {
      name, declaring := .ofClass c, parent := world.parentType c, parameters := anyParameters })
  | .native _ none ofClass =>
    .ok (some {
      name, declaring := .ofClass c, parent := world.parentType c, parameters := anyParameters
      isStatic := ofClass })
  | .native _ (some parameters) ofClass =>
    (world.methodOf c name ofClass true ⟨parameters, none, "", false, false, true, 0⟩).map some

/-- The classes whose attributes are gone through. -/
def surfaceClasses (c : ClassRef) : List ClassRef :=
  (world.resolution c).filter fun k => k != ClassRef.objectClass && k != ClassRef.genericClass

/-- The entries whose name is neither seen already nor that of an earlier entry. -/
def firstsByName (seen : List String) :
    List (ClassRef × String × Attribute) → List (ClassRef × String × Attribute)
  | [] => []
  | entry :: entries =>
    if seen.contains entry.2.1 then firstsByName seen entries
    else entry :: firstsByName (entry.2.1 :: seen) entries

/-- The public attributes that decide what a class can do, with the class that declares each. -/
def surface (c : ClassRef) : List (ClassRef × String × Attribute) :=
  firstsByName [] ((world.surfaceClasses c).flatMap fun k =>
    ((world.attributes k).filter fun entry => isPublic entry.1).map fun entry =>
      (k, entry.1, entry.2))

def introspect (c : ClassRef) : Except Failure Target := do
  let methods ← (world.surface c).mapM fun (k, name, item) => world.introspectAttribute k name item
  return ⟨c.module, c.qualname, methods.filterMap id⟩

end World
end Interpose

import Interpose.Binding
import Interpose.DeclaredDefault
import Interpose.LoadedWorld
import Interpose.Source.Wellformed

/-! # Running generated modules

Running a generated module defines its class. The modules it imports have to exist or be loaded, its
target has to be reachable under its name, and the default values that are not literals are looked
up while the body of the class runs. There a name means the method of that name, if one has been defined
before, and otherwise an imported module or a builtin. Names mean what their normal forms mean.
-/
namespace Interpose

set_option autoImplicit false

structure DecoratedMethod where
  name : String
  isAsync : Bool
  returnsResult : Bool
  formals : List (Formal Value)
  arguments : List CallArgument
  deriving Repr

structure DecoratedClass where
  ref : ClassRef
  target : ClassRef
  methods : List DecoratedMethod
  deriving Repr

/-- What reading a parameter's default value yields where the parameter has none. -/
def noDefault : Value := .cls ⟨"inspect", "_empty", 0, false⟩

/-! ## Parameter lists -/

namespace DeclItem

def isSlash {α : Type} : DeclItem α → Bool
  | .slash => true
  | _ => false

end DeclItem

/-- The kind of a parameter that a declaration marks with the given asterisks, where `after` says
whether a star or a variadic parameter stands before it, and the items after it are given. -/
def readKind {α : Type} (mark : ParameterKind) (after : Bool) (rest : List (DeclItem α)) :
    ParameterKind :=
  if mark.isVariadic then mark
  else if after then .keywordOnly
  else if rest.any DeclItem.isSlash then .positionalOnly
  else .positionalOrKeyword

/-- The parameters that a declaration says there are: those before the slash take arguments by
position only, and those after a star or a variadic parameter by keyword only. Of the kind of a
written parameter only its asterisks can be seen. -/
def readDeclaration {α V : Type} (name : α → String) (kind : α → ParameterKind)
    (default : α → Option V) (after : Bool) : List (DeclItem α) → List (Formal V)
  | [] => []
  | .receiver :: rest =>
    ⟨"self", readKind .positionalOrKeyword after rest, none⟩
      :: readDeclaration name kind default after rest
  | .slash :: rest => readDeclaration name kind default after rest
  | .star :: rest => readDeclaration name kind default true rest
  | .parameter p :: rest =>
    ⟨name p, readKind (kind p) after rest, default p⟩
      :: readDeclaration name kind default (after || kind p == .varPositional) rest

/-! ## Names in the body of a class -/

/-- The names that a generated module takes from the decoration support, after all other imports. -/
def supportImports : List String :=
  ["BaseCollection", "DocumentManager", "PersistentCollectionMixin", "UnitOfWork",
   "original_default"]

/-- The names that a generated module takes from the typing module, before all other imports. -/
def typingImports : List String :=
  ["Any", "Never", "NoReturn", "Self"]

/-- The names that the body of a generated class binds before its forwarding methods. -/
def bodyNames : List String :=
  ["__module__", "__qualname__", "__doc__", "__init__"]

/-- A dotted name as it is known inside a class. -/
def privatePath (className dotted : String) : String :=
  ".".intercalate ((Text.dottedParts dotted).map (privateName className))

namespace World

variable (world : World)

/-- What a name means at the top of a module that imports some modules, the names of the decoration
support aside. -/
def globalName? (imports : List String) (name : String) : Option Found :=
  if imports.any fun module => (Text.dottedParts module).head? == some name then
    some ⟨.module name, none⟩
  else if typingImports.contains name then world.moduleAttribute? "typing" name
  else world.moduleAttribute? "builtins" name

/-- The object that a dotted name means at the top of a module that imports some modules. -/
def globalObject (imports : List String) (dotted : String) : Except Failure Object :=
  match Text.dottedParts dotted with
  | [] => .error (.unknownName dotted)
  | head :: rest =>
    if supportImports.contains head then .error (.missingAttribute dotted)
    else
      match world.globalName? imports head with
      | none => .error (.unknownName head)
      | some found =>
        match world.follow found rest with
        | some found => .ok found.object
        | none => .error (.missingAttribute dotted)

/-- The default value that an expression in the body of a class yields, after the definition of
some methods. -/
def evalDefault (className : String) (imports : List String) (defined : List DecoratedMethod) :
    DefaultExpr → Except Failure Value
  | .literal v => .ok v
  | .declared owner method parameter => do
    let shadows (name : String) := defined.find? fun m => m.name == name
    let ownerName := privatePath className owner.qualifiedName
    let head := (Text.dottedParts ownerName).headD ""
    if bodyNames.contains head || (shadows head).isSome then throw (.missingAttribute ownerName)
    let object ← world.globalObject imports ownerName
    match shadows "original_default" with
    | some m =>
      match Formal.bind m.formals ⟨[.none, .str method, .str parameter], []⟩ with
      | some _ =>
        if m.isAsync then return .object "coroutine" else throw (.missingAttribute "initialize")
      | none => throw .argumentMismatch
    | none =>
      match object.asClass? with
      | none => throw (.missingAttribute method)
      | some c => do
        let v ← world.declaredDefault c method parameter
        return v.getD noDefault

/-- Classes that no class can descend from. -/
def closedClasses : List ClassRef :=
  [ClassRef.genericClass, ⟨"typing", "Protocol", 0, false⟩, ⟨"typing", "Annotated", 0, false⟩] ++
    ["bool", "NoneType", "slice", "range", "memoryview", "ellipsis", "NotImplementedType",
     "function", "builtin_function_or_method", "method", "generator", "coroutine",
     "async_generator", "code", "frame", "traceback", "cell", "mappingproxy"].map ClassRef.builtin

/-- Whether another class can descend from a class. An enumeration with members is closed. -/
def isUsableBase (c : ClassRef) : Bool :=
  !closedClasses.contains c && (world.attributes c).all fun
    | (_, .plain (.value (.member owner ..))) => owner != c
    | _ => true

end World

/-! ## Definition of the class -/

namespace CallArgument

/-- The argument as the body of a class passes it. -/
def inside (className : String) : CallArgument → CallArgument
  | .positional name => .positional (privateName className name)
  | .spread name => .spread (privateName className name)
  | .keyword name => .keyword (privateName className name)
  | .spreadKeywords name => .spreadKeywords (privateName className name)

end CallArgument

namespace ClassSource

variable (world : World) (source : ClassSource)

def importedNames : List String :=
  source.imports.map Text.normalForm

def definedName : String :=
  Text.normalForm source.className

def defineMethod (defined : List DecoratedMethod) (f : ForwardingMethod) :
    Except Failure DecoratedMethod := do
  let evaluated ← f.declaration.mapM fun item => do
    match item with
    | .receiver => return DeclItem.receiver
    | .slash => return .slash
    | .star => return .star
    | .parameter p =>
      let default ← p.default.mapM
        (world.evalDefault source.className source.importedNames defined)
      return .parameter (privateName source.className p.name, p.kind, default)
  return {
    name := Text.normalForm f.name, isAsync := f.isAsync, returnsResult := f.returnsResult
    formals := readDeclaration (·.1) (·.2.1) (·.2.2) false evaluated
    arguments := f.arguments.map (CallArgument.inside source.className) }

def defineMethods (defined : List DecoratedMethod) :
    List ForwardingMethod → Except Failure (List DecoratedMethod)
  | [] => .ok defined
  | f :: fs => do
    let m ← source.defineMethod world defined f
    defineMethods (defined ++ [m]) fs

/-- Runs the module under a name; the class it defines gets a serial number. -/
def run (w : LoadedWorld) (source : ClassSource) (moduleName : String) (serial : Nat) :
    Except Failure DecoratedClass := do
  if !source.isWellformed then throw .malformedModule
  source.importedNames.forM w.bindModule
  let base ← w.world.globalObject source.importedNames (Text.normalForm source.target)
  match base.asClass? with
  | none => throw .unusableBase
  | some target =>
    if !w.world.isUsableBase target then throw .unusableBase
    let methods ← source.defineMethods w.world [] source.methods
    return ⟨⟨moduleName, source.definedName, serial, false⟩, target, methods⟩

end ClassSource
end Interpose

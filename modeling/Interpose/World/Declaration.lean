import Interpose.Text.NormalForm
import Interpose.Value.Coercion
import Interpose.World.ObjectExpr
import Interpose.World.Library
import Interpose.World.Resolution

/-! # Declarations

The modules under study are given by declarations, which are carried out in order. All modules
exist before any name is declared, and so do the parents of a dotted module. A class has the
builtin class `object` as its base if it names none. A class that defines equality but no hash
loses its hash. A member of an enumeration whose value equals that of an earlier member is another
name for that member.

The annotations of functions are evaluated last, in the order in which the functions are made, so
they can refer to names that are declared later.
-/
namespace Interpose

set_option autoImplicit false

structure ParameterDecl where
  name : String
  kind : ParameterKind
  hint : Option ObjectExpr
  default : Option ValueExpr
  deriving Repr

structure FunctionDecl where
  parameters : List ParameterDecl
  returns : Option ObjectExpr
  isFinal : Bool
  isCoroutine : Bool
  isReadable : Bool
  deriving Repr

inductive FunctionRole where
  | method
  | static
  | ofClass
  | property
  deriving DecidableEq, Repr

def FunctionRole.stored (routine : Routine) : FunctionRole → Attribute
  | .method => .function routine
  | .static => .staticMethod routine
  | .ofClass => .classMethod routine
  | .property => .property routine

/-- A base of a class: another class, or the mark of a class that is generic in some type
variables. -/
inductive BaseDecl where
  | cls (path : ObjectPath)
  | generic (arguments : List ObjectPath)
  deriving Repr

mutual

inductive MemberDecl where
  | function (name : String) (role : FunctionRole) (function : FunctionDecl)
  /-- A function that stands for another one, of another module. -/
  | wrapper (name : String) (isFinal isCoroutine : Bool) (inner : FunctionDecl) (home : String)
  | descriptor (name : String)
  /-- The attribute of another class, under a name of its own. -/
  | copied (name : String) (owner : ObjectPath) (source : String)
  | nested (name : String) (decl : ClassDecl)
  | value (name : String) (v : ValueExpr)

inductive ClassDecl where
  | mk (name : String) (qualname module : Option String) (bases : List BaseDecl)
    (members : List MemberDecl)

end

inductive NameDecl where
  | cls (decl : ClassDecl)
  | enumeration (base : EnumBase) (members : List (String × ValueExpr))
  | typeVariable (kind : VariableKind) (name : String)
  | newType (name : String) (supertype : ObjectExpr)
  | module (name : String)
  | object (expr : ObjectExpr)

structure ModuleDecl where
  name : String
  names : List (String × NameDecl)

/-- A world under construction, the next serial number, and the functions made so far, whose
annotations have not been evaluated yet. -/
structure Draft where
  world : World
  next : Nat
  functions : List (Routine × FunctionDecl)

namespace Draft

def addModule (draft : Draft) (name : String) : Draft :=
  match draft.world.module? name with
  | some _ => draft
  | none =>
    { draft with world.modules := draft.world.modules ++ [⟨name, false, []⟩] }

def bind (draft : Draft) (module name : String) (object : Object) : Draft :=
  let bound (m : Module) : Module :=
    if m.name = module then { m with bindings := Entries.insert name object m.bindings } else m
  { draft with world.modules := draft.world.modules.map bound }

def addClass (draft : Draft) (info : ClassInfo) : Draft :=
  { draft with world.classes := draft.world.classes ++ [info] }

def take (draft : Draft) : Nat × Draft :=
  (draft.next, { draft with next := draft.next + 1 })

def eval? (draft : Draft) (expr : ObjectExpr) : Option (Object × Draft) := do
  let (object, memory) ← (draft.world.evalObject expr).run draft.world.memory
  return (object, { draft with world.memory := memory })

/-- The parameter that a declaration makes, without its annotation. A default value that cannot be
evaluated yet is left for later. -/
def parameter (draft : Draft) (decl : ParameterDecl) : DeclaredParameter :=
  ⟨Text.normalForm decl.name, decl.kind, none, decl.default.bind draft.world.evalValue?⟩

def makeRoutine (draft : Draft) (home : String) (decl : FunctionDecl) : Routine × Draft :=
  let (serial, draft) := draft.take
  let routine : Routine :=
    ⟨decl.parameters.map draft.parameter, none, home, decl.isFinal, decl.isCoroutine,
      decl.isReadable, serial + 1⟩
  (routine, { draft with functions := draft.functions ++ [(routine, decl)] })

def base? (draft : Draft) : BaseDecl → Option ClassRef
  | .cls path => draft.world.classAt? path
  | .generic _ => some ClassRef.genericClass

def bases? (draft : Draft) : List BaseDecl → Option (List ClassRef)
  | [] => some [ClassRef.objectClass]
  | bases => bases.mapM draft.base?

def typeParameters (draft : Draft) (bases : List BaseDecl) : List TypeVariable :=
  bases.flatMap fun
    | .cls _ => []
    | .generic paths => paths.flatMap fun path =>
      ((draft.world.atPath? path).map Object.typeVariables).getD []

/-- A hash that a definition of equality takes away, after the attributes of the class. -/
def hideHash (attributes : List (String × Attribute)) : List (String × Attribute) :=
  if (attributes.lookup "__eq__").isSome && (attributes.lookup "__hash__").isNone then
    attributes ++ [("__hash__", .plain .none)]
  else attributes

mutual

/-- Makes a class in a module; `outer` is the qualified name of the class it is nested in. -/
def makeClass? (home : String) (outer : Option String) (draft : Draft) :
    ClassDecl → Option (ClassRef × Draft)
  | .mk name qualname module bases members => do
    let path := match outer with
      | some outer => outer ++ "." ++ name
      | none => name
    let typeParameters := draft.typeParameters bases
    let bases ← draft.bases? bases
    let (serial, draft) := draft.take
    let ref : ClassRef := ⟨module.getD home, qualname.getD path, serial + 1, false⟩
    let (attributes, draft) ← makeMembers? home path draft [] members
    let order ← Resolution.linearize ref bases (bases.map draft.world.resolution)
    return (ref, draft.addClass ⟨ref, name, bases, order, hideHash attributes, typeParameters⟩)

def makeMembers? (home path : String) (draft : Draft) (made : List (String × Attribute)) :
    List MemberDecl → Option (List (String × Attribute) × Draft)
  | [] => some (made, draft)
  | .function name role function :: members => do
    let (routine, draft) := draft.makeRoutine home function
    makeMembers? home path draft (Entries.insert name (role.stored routine) made) members
  | .wrapper name isFinal isCoroutine inner other :: members => do
    let (routine, draft) := draft.makeRoutine other inner
    let outer := { routine with isFinal := isFinal, isCoroutine := isCoroutine }
    makeMembers? home path draft (Entries.insert name (.function outer) made) members
  | .descriptor name :: members =>
    makeMembers? home path draft (Entries.insert name .descriptor made) members
  | .copied name owner source :: members => do
    let c ← draft.world.classAt? owner
    let item ← (draft.world.attributes c).lookup source
    makeMembers? home path draft (Entries.insert name item made) members
  | .nested name decl :: members => do
    let (ref, draft) ← makeClass? home (some path) draft decl
    makeMembers? home path draft (Entries.insert name (.plain (.cls ref)) made) members
  | .value name v :: members => do
    let v ← draft.world.evalValue? v
    makeMembers? home path draft (Entries.insert name (.plain (.value v)) made) members

end

/-- The member of an enumeration that a value belongs to, if one has an equal value. A value that
can be a key is only looked up among those that can. -/
def memberOf? (v : Value) (made : List (String × Attribute)) : Option Attribute :=
  (made.find? fun
    | (_, .plain (.value (.member _ _ _ w))) => (!v.isHashable || w.isHashable) && v.equal w
    | _ => false).map Prod.snd

def enumerationBases : EnumBase → List ClassRef
  | .plain => [.enumClass]
  | .whole =>
    [⟨"enum", "IntEnum", 0, true⟩, .builtin "int", ⟨"enum", "ReprEnum", 0, true⟩, .enumClass]
  | .text =>
    [⟨"enum", "StrEnum", 0, true⟩, .builtin "str", ⟨"enum", "ReprEnum", 0, true⟩, .enumClass]

def makeEnumeration? (home name : String) (base : EnumBase) (members : List (String × ValueExpr))
    (draft : Draft) : Option (ClassRef × Draft) := do
  let (serial, draft) := draft.take
  let ref : ClassRef := ⟨home, name, serial + 1, true⟩
  let attributes ← members.foldlM
    (fun made (label, expr) => do
      let v ← (← draft.world.evalValue? expr).asMemberOf? base
      let item := (memberOf? v made).getD (.plain (.value (.member ref base label v)))
      return Entries.insert label item made)
    []
  let bases := enumerationBases base
  return (ref, draft.addClass
    ⟨ref, name, bases.take 1, ref :: bases ++ [ClassRef.objectClass], attributes, []⟩)

def declare? (module : String) (draft : Draft) (name : String) : NameDecl → Option Draft
  | .cls decl => do
    let (ref, draft) ← makeClass? module none draft decl
    return draft.bind module name (.cls ref)
  | .enumeration base members => do
    let (ref, draft) ← makeEnumeration? module name base members draft
    return draft.bind module name (.cls ref)
  | .typeVariable kind own =>
    let (serial, draft) := draft.take
    some (draft.bind module name (.typeVariable ⟨kind, own, module, serial + 1⟩))
  | .newType own supertype => do
    let (supertype, draft) ← draft.eval? supertype
    let (serial, draft) := draft.take
    return draft.bind module name (.newType module own (serial + 1) supertype)
  | .module other => some (draft.bind module name (.module other))
  | .object expr => do
    let (object, draft) ← draft.eval? expr
    return draft.bind module name object

/-- Adds the modules of declarations, and the parents of dotted ones. -/
def addModules (draft : Draft) (decls : List ModuleDecl) : Draft :=
  decls.foldl
    (fun draft decl => (Text.dottedPrefixes (Text.dottedParts decl.name)).foldl addModule draft)
    draft

end Draft

/-! ## Annotations of functions -/

namespace World

variable (world : World)

/-- The parameter with its annotation, and with its default value if that was left out. -/
def completeParameter (decl : ParameterDecl) (p : DeclaredParameter) :
    Evaluation DeclaredParameter := do
  let hint ← decl.hint.mapM world.evalObject
  match p.default, decl.default with
  | none, some expr =>
    let default ← liftM (world.evalValue? expr)
    return { p with hint, default := some default }
  | _, _ => return { p with hint }

def completeRoutine (routine : Routine) (decl : FunctionDecl) : Evaluation Routine := do
  let parameters ← (decl.parameters.zip routine.parameters).mapM fun (decl, p) =>
    world.completeParameter decl p
  let returns ← decl.returns.mapM world.evalObject
  return { routine with parameters, returns }

end World

/-- A function with the annotations of the one of the same serial number. -/
def Routine.completed (completed : List Routine) (routine : Routine) : Routine :=
  if routine.serial = 0 then routine
  else
    match completed.find? fun r => r.serial = routine.serial with
    | some r => { routine with parameters := r.parameters, returns := r.returns }
    | none => routine

def Attribute.mapRoutine (f : Routine → Routine) : Attribute → Attribute
  | .function routine => .function (f routine)
  | .staticMethod routine => .staticMethod (f routine)
  | .classMethod routine => .classMethod (f routine)
  | .property routine => .property (f routine)
  | item => item

def ClassInfo.mapRoutine (f : Routine → Routine) (info : ClassInfo) : ClassInfo :=
  { info with attributes := info.attributes.map fun (name, item) => (name, item.mapRoutine f) }

/-- The world that a draft comes to, when the annotations of its functions have been evaluated. -/
def Draft.finish? (draft : Draft) : Option World := do
  let (completed, memory) ←
    (draft.functions.mapM fun (routine, decl) => draft.world.completeRoutine routine decl).run
      draft.world.memory
  return { draft.world with
    classes := draft.world.classes.map (ClassInfo.mapRoutine (Routine.completed completed))
    memory }

/-- The world that some declarations make, unless one of them refers to something missing. -/
def World.declare? (decls : List ModuleDecl) : Option World := do
  let draft ← decls.foldlM
    (fun draft decl =>
      decl.names.foldlM (fun draft (name, item) => Draft.declare? decl.name draft name item) draft)
    (Draft.addModules ⟨World.library, 0, []⟩ decls)
  draft.finish?

end Interpose

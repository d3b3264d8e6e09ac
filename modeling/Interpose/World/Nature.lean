import Interpose.World.Basic
import Interpose.World.Library.Members
import Interpose.World.Library.Names

/-! # What objects know about themselves

Each object belongs to a class, and some attributes are those of the object as such: the name of a
class, the value of a member of an enumeration, the arguments of a generic type.
-/
namespace Interpose

set_option autoImplicit false

namespace World

variable (world : World)

/-! ## The class of an object -/

def metaclass (c : ClassRef) : ClassRef :=
  let resolution := world.resolution c
  if c = ClassRef.anyClass then ⟨"typing", "_AnyMeta", 0, false⟩
  else if c.isEnumeration then ⟨"enum", "EnumType", 0, false⟩
  else if resolution.contains ⟨"typing", "Protocol", 0, false⟩ then
    ⟨"typing", "_ProtocolMeta", 0, false⟩
  else if resolution.any fun k => k.module = "collections.abc"
      || k.serial = 0 && Library.furtherAbstractClasses.contains (k.module, k.qualname) then
    ⟨"abc", "ABCMeta", 0, false⟩
  else .builtin "type"

/-- The class of a value, if it is known. Instances of unnamed subclasses count as instances of the
class itself. -/
def valueClass? : Value → Option ClassRef
  | .none => some .noneClass
  | .bool _ => some (.builtin "bool")
  | .int _ | .intSub _ => some (.builtin "int")
  | .float _ | .floatSub _ => some (.builtin "float")
  | .complex _ => some (.builtin "complex")
  | .str _ | .strSub _ | .brokenStr _ => some (.builtin "str")
  | .bytes _ => some (.builtin "bytes")
  | .tuple _ | .tupleSub _ => some (.builtin "tuple")
  | .list _ => some (.builtin "list")
  | .set _ => some (.builtin "set")
  | .frozenset _ => some (.builtin "frozenset")
  | .dict _ => some (.builtin "dict")
  | .ellipsis => some (.builtin "ellipsis")
  | .object _ => none
  | .cls c => some (world.metaclass c)
  | .member owner .. => some owner

def classOf? (object : Object) : Option ClassRef :=
  let typing (name : String) : Option ClassRef := some ⟨"typing", name, 0, false⟩
  match object with
  | .value v => world.valueClass? v
  | .typeVariable v =>
    match v.kind with
    | .single => typing "TypeVar"
    | .parameters => typing "ParamSpec"
    | .tuple => typing "TypeVarTuple"
  | .variablePart _ keyword => typing (if keyword then "ParamSpecKwargs" else "ParamSpecArgs")
  | .special name => typing (if name = "Literal" then "_LiteralSpecialForm" else "_SpecialForm")
  | .alias name _ =>
    typing (if name = "Tuple" then "_TupleType"
      else if name = "Callable" then "_CallableType" else "_SpecialGenericAlias")
  | .newType .. => typing "NewType"
  | .module _ => some (.builtin "module")
  | .routine label =>
    match label.kind with
    | .function => some (.builtin "function")
    | .builtinFunction | .bound => some (.builtin "builtin_function_or_method")
    | .method => some (.builtin "method_descriptor")
    | .slot => some (.builtin "wrapper_descriptor")
    | .attribute => some (.builtin "getset_descriptor")
    | .field => some (.builtin "member_descriptor")
    | .property => some (.builtin "property")
    | .singleton => none
  | .union true _ => typing "_UnionGenericAlias"
  | .union false _ => some ⟨"types", "UnionType", 0, false⟩
  | .literal _ => typing "_LiteralGenericAlias"
  | .annotated .. => typing "_AnnotatedAlias"
  | .generic true origin _ =>
    typing (match origin with
      | .special "Concatenate" => "_ConcatenateGenericAlias"
      | .special "Unpack" => "_UnpackGenericAlias"
      | origin => if origin.isCallableOrigin then "_CallableGenericAlias" else "_GenericAlias")
  | .generic false origin _ =>
    if origin.isCallableOrigin then some ⟨"collections.abc", "_CallableGenericAlias", 0, false⟩
    else some ⟨"types", "GenericAlias", 0, false⟩
  | .list _ => some (.builtin "list")
  | .tuple _ => some (.builtin "tuple")
  | .forward _ => typing "ForwardRef"

/-! ## Own attributes -/

def textObject (s : String) : Option Object :=
  some (.value (.str s))

def classTuple (classes : List ClassRef) : Option Object :=
  some (.value (.tuple (classes.map .cls)))

/-- The base that decides how the instances of a class are built. -/
def mainBase? (c : ClassRef) : Option ClassRef :=
  let bases := world.bases c
  let isBuilt (k : ClassRef) : Bool :=
    (world.resolution k).any fun j => j.module = "builtins" && j != ClassRef.objectClass
  (bases.find? isBuilt).or bases.head?

def ownOfClass? (c : ClassRef) : String → Option Object
  | "__name__" => textObject (world.className c)
  | "__qualname__" => textObject c.qualname
  | "__module__" => textObject c.module
  | "__bases__" => classTuple (world.bases c)
  | "__mro__" => classTuple (world.resolution c)
  | "__base__" =>
    match world.mainBase? c with
    | some base => some (.cls base)
    | none => some .none
  | "__doc__" => some .none
  | "__dict__" => some (.routine ⟨.singleton, "", "mappingproxy"⟩)
  | "__annotations__" => if c.serial = 0 then none else some (.value (.dict []))
  | _ => none

def membersText (c : ClassRef) : String :=
  (Value.dict ((world.attributes c).filterMap fun
    | (name, .plain (.value (.member owner base label v))) =>
      if owner = c then some (.str name, .member owner base label v) else none
    | _ => none)).text

def ownOfMember? (owner : ClassRef) (label : String) (v : Value) : String → Option Object
  | "name" | "_name_" => textObject label
  | "value" | "_value_" => some (.value v)
  | "__objclass__" => some (.cls owner)
  | "__module__" => textObject owner.module
  | "__doc__" => some .none
  | _ => none

def ownOfNumber? (v : Value) (name : String) : Option Object :=
  match v.asInt?, v with
  | some n, _ =>
    match name with
    | "real" | "numerator" => some (.value (.int n))
    | "imag" => some (.value (.int 0))
    | "denominator" => some (.value (.int 1))
    | _ => none
  | none, .float x | none, .floatSub x =>
    match name with
    | "real" => some (.value (.float x))
    | "imag" => some (.value (.float Decimal.Binary64.zero))
    | _ => none
  | none, _ => none

def ownOfValue? (v : Value) (name : String) : Option Object :=
  match v with
  | .cls c => world.ownOfClass? c name
  | .member owner _ label w => (ownOfMember? owner label w name).or (ownOfNumber? v name)
  | v => if name = "__doc__" then some .none else ownOfNumber? v name

def flatArguments (origin : Object) (arguments : List Object) : List Object :=
  match origin.isCallableOrigin, arguments with
  | true, [.list parameters, result] => parameters ++ [result]
  | _, arguments => arguments

def ownOfRoutine? (label : RoutineLabel) (name : String) : Option Object :=
  match label.kind, name with
  | .singleton, _ | .property, _ => none
  | _, "__name__" => textObject label.name
  | .builtinFunction, "__qualname__" => textObject label.name
  | .builtinFunction, "__module__" => textObject "builtins"
  | _, "__qualname__" =>
    textObject (if label.owner = "" then label.name else label.owner ++ "." ++ label.name)
  | .method, "__objclass__" | .slot, "__objclass__"
  | .attribute, "__objclass__" | .field, "__objclass__" => some (.cls (.builtin label.owner))
  | .function, "__defaults__" | .function, "__kwdefaults__" | .function, "__closure__" =>
    some .none
  | _, "__doc__" => some .none
  | _, _ => none

/-- What an object knows about itself under a name. -/
def ownAttribute? (object : Object) (name : String) : Option Object :=
  if name = "__class__" then (world.classOf? object).map .cls
  else
    match object, name with
    | .value v, name => world.ownOfValue? v name
    | .typeVariable v, "__name__" => textObject v.name
    | .typeVariable v, "__module__" => textObject v.module
    | .typeVariable v, "__bound__" => if v.kind = .tuple then none else some .none
    | .typeVariable v, "__constraints__" =>
      if v.kind = .single then some (.tuple []) else none
    | .typeVariable v, "__covariant__" | .typeVariable v, "__contravariant__" =>
      if v.kind = .tuple then none else some (.value (.bool false))
    | .typeVariable v, "args" =>
      if v.kind = .parameters then some (.variablePart v false) else none
    | .typeVariable v, "kwargs" =>
      if v.kind = .parameters then some (.variablePart v true) else none
    | .variablePart v _, "__origin__" => some (.typeVariable v)
    | .special form, "_name" | .special form, "__name__" | .special form, "__qualname__"
    | .alias form _, "_name" | .alias form _, "__name__" | .alias form _, "__qualname__"
    | .generic true (.alias form _) _, "_name" | .generic true (.alias form _) _, "__name__"
    | .generic true (.alias form _) _, "__qualname__"
    | .generic true (.special form) _, "__name__"
    | .generic true (.special form) _, "__qualname__" => textObject form
    | .alias _ origin, "__origin__" | .generic true (.alias _ origin) _, "__origin__" =>
      some (.cls origin)
    | .newType _ form _ _, "__name__" => textObject (Text.cutLast '.' form).2
    | .newType _ form _ _, "__qualname__" => textObject form
    | .newType home _ _ _, "__module__" => textObject home
    | .newType _ _ _ supertype, "__supertype__" => some supertype
    | .module m, "__name__" => textObject m
    | .module _, "__doc__" | .module _, "__package__" | .module _, "__loader__"
    | .module _, "__spec__" => some .none
    | .routine label, name => ownOfRoutine? label name
    | .union true members, "_name" =>
      if members.length = 2 && members.any fun m => m.asClass? = some ClassRef.noneClass then
        textObject "Optional"
      else some .none
    | .union true members, "__name__" | .union true members, "__qualname__" =>
      textObject
        (if members.length = 2 && members.any fun m => m.asClass? = some ClassRef.noneClass then
          "Optional"
        else "Union")
    | .union true _, "__origin__" => some (.special "Union")
    | .union false _, "__module__" => textObject "types"
    | .union _ members, "__args__" => some (.tuple members)
    | .literal _, "__name__" | .literal _, "__qualname__" => textObject "Literal"
    | .literal _, "__origin__" => some (.special "Literal")
    | .literal values, "__args__" => some (.tuple (values.map .value))
    | .annotated .., "__name__" | .annotated .., "__qualname__" => textObject "Annotated"
    | .annotated .., "_name" => some .none
    | .annotated base _, "__origin__" => some base
    | .annotated base _, "__args__" => some (.tuple [base])
    | .annotated _ notes, "__metadata__" => some (.tuple notes)
    | .annotated base _, "__module__" =>
      match base with
      | .value (.cls c) => textObject c.module
      | _ => textObject "typing"
    | .union .., "__parameters__" | .literal _, "__parameters__"
    | .annotated .., "__parameters__" | .generic .., "__parameters__" =>
      some (.tuple (object.typeVariables.map .typeVariable))
    | .generic _ origin _, "__origin__" => some origin
    | .generic _ origin arguments, "__args__" => some (.tuple (flatArguments origin arguments))
    | .generic true (.value (.cls c)) _, "__name__"
    | .generic true (.value (.cls c)) _, "__qualname__" => textObject (world.className c)
    | .generic true (.value (.cls c)) _, "__module__" => textObject c.module
    | .forward text, "__forward_arg__" => textObject text
    | .forward _, "__forward_module__" | .forward _, "__forward_value__" => some .none
    | .forward _, "__forward_evaluated__" => some (.value (.bool false))
    | .forward _, "__forward_is_argument__" => some (.value (.bool true))
    | .variablePart .., "__module__" | .special _, "__module__" | .alias .., "__module__"
    | .union true _, "__module__" | .literal _, "__module__"
    | .generic true _ _, "__module__" | .forward _, "__module__" => textObject "typing"
    | _, _ => none

end World
end Interpose

import Interpose.World.Nature

/-! # Reading names and attributes

What an object knows about itself comes before what its class has. A typing alias, a generic type
and an annotated type also have the attributes of what they stand for, unless the name starts and
ends with two underscores; a generic type made of a runtime class has those too. What is stored as
`None` counts as not found.

A text that is found can lead to further names. Each such text has a place, and there are finitely
many places, so the texts that follow each other can be told to go round in a circle.
-/
namespace Interpose

set_option autoImplicit false

namespace World

variable (world : World)

/-! ## Places -/

/-- The names under which objects know texts about themselves. -/
def selfNames : List String :=
  ["__name__", "__qualname__", "_name", "__module__", "name", "_name_", "value", "_value_",
   "__forward_arg__", "__supertype__"]

def textsOf (object : Object) : List String :=
  selfNames.filterMap fun name =>
    match world.ownAttribute? object name with
    | some (.value (.str s)) => some s
    | _ => none

def libraryTexts : List String :=
  let locals (names : List (String × String × String)) : List String :=
    names.map fun entry => entry.2.2
  Library.moduleNames ++ Library.builtinClasses ++ Library.builtinFunctions ++ Library.typingForms
    ++ Library.typingAliases.map Prod.fst ++ Library.typingClasses ++ Library.typingVariables
    ++ Library.collectionsClasses ++ Library.abstractClasses ++ Library.typesClasses
    ++ locals Library.typesBuiltins ++ Library.patternClasses ++ Library.contextClasses
    ++ ["abc", "ABCMeta", "enum", "EnumType", "Enum", "IntEnum", "StrEnum", "ReprEnum"]

def attributeObject (owner : ClassRef) (name : String) : Attribute → Object
  | .plain object => object
  | .native label _ _ => .routine label
  | .property _ | .descriptor => .routine ⟨.property, owner.qualname, name⟩
  | .function _ | .staticMethod _ | .classMethod _ => .routine ⟨.function, owner.qualname, name⟩

/-- The texts that the objects of the modules under study know about themselves. -/
def ownTexts : List String :=
  (world.modules.filter fun m => !Library.moduleNames.contains m.name).flatMap (fun m =>
      m.name :: m.bindings.flatMap fun binding => world.textsOf binding.2)
    ++ (world.classes.filter fun info => info.ref.serial != 0).flatMap (fun info =>
      world.textsOf (.cls info.ref) ++ info.attributes.flatMap fun (name, item) =>
        world.textsOf (attributeObject info.ref name item))

def texts : List String :=
  libraryTexts ++ world.ownTexts

def places : List Place :=
  world.modules.flatMap (fun m => m.bindings.map fun binding => .binding m.name binding.1)
    ++ world.classes.flatMap (fun info =>
      info.attributes.map fun entry => .member info.ref entry.1)
    ++ world.texts.map .text

/-! ## Attributes -/

/-- What an object knows about itself under a name, as far as it leads on: texts that have a place,
and objects without texts. -/
def own? (object : Object) (name : String) : Option Found :=
  match world.ownAttribute? object name with
  | some (.value (.str s)) =>
    if world.texts.contains s then some ⟨.value (.str s), some (.text s)⟩ else none
  | some found => if found.textSize = 0 then some ⟨found, none⟩ else none
  | none => none

/-- What a module binds to a name: its own binding, or else its submodule of that name, which has
been imported as all modules of a world have. -/
def moduleAttribute? (module name : String) : Option Found :=
  match (world.module? module).bind fun m => m.bindings.lookup name with
  | some object => some ⟨object, some (.binding module name)⟩
  | none =>
    let submodule := module ++ "." ++ name
    (world.module? submodule).map fun _ => ⟨.module submodule, none⟩

def memberOf? (c : ClassRef) (name : String) : Option Found :=
  (world.resolution c).findSome? fun k =>
    match (world.attributes k).lookup name with
    | some item => some ⟨attributeObject k name item, some (.member k name)⟩
    | none => (Library.ownMember? (Object.classText k) name).map fun object => ⟨object, none⟩

/-- A method is bound to the object that it is read from. -/
def boundTo (name : String) (found : Found) : Found :=
  match found.object with
  | .routine label => ⟨.routine ⟨.bound, label.owner, name⟩, none⟩
  | _ => found

def inherited? (object : Object) (name : String) : Option Found :=
  (world.memberOf? ((world.classOf? object).getD ClassRef.objectClass) name).map (boundTo name)

/-- The attribute of a class, which may be one of its own class. -/
def classStored? (c : ClassRef) (name : String) : Option Found :=
  ((world.own? (.cls c) name).or (world.memberOf? c name)).or
    (if c.isEnumeration && name == "__members__" then
      some ⟨.routine ⟨.singleton, "", "mappingproxy(" ++ world.membersText c ++ ")"⟩, none⟩
    else
      (Library.ownMember? "type" name).map fun _ => ⟨.routine ⟨.bound, "type", name⟩, none⟩)

/-- The attribute of an object, where `None` may be stored. -/
def stored? : Object → String → Option Found
  | .module m, name =>
    ((world.moduleAttribute? m name).or (world.own? (.module m) name)).or
      (world.inherited? (.module m) name)
  | .value (.cls c), name => world.classStored? c name
  | .alias form origin, name =>
    let whole : Object := .alias form origin
    ((world.own? whole name).or (world.inherited? whole name)).or
      (if Text.isDunder name then none else world.classStored? origin name)
  | .generic typed origin arguments, name =>
    let generic : Object := .generic typed origin arguments
    let ofOrigin : Option Found :=
      match origin with
      | .alias _ c | .value (.cls c) => world.classStored? c name
      | _ => none
    if typed then
      ((world.own? generic name).or (world.inherited? generic name)).or
        (if Text.isDunder name then none else ofOrigin)
    else (world.own? generic name).or ofOrigin
  | .annotated base notes, name =>
    let annotated : Object := .annotated base notes
    ((world.own? annotated name).or (world.inherited? annotated name)).or
      (if Text.isDunder name then none else stored? base name)
  | object, name => (world.own? object name).or (world.inherited? object name)

/-- The attribute of an object, unless it is missing or `None`. -/
def read? (object : Object) (name : String) : Option Found :=
  (world.stored? object name).filter fun found => !found.object.isNone

def follow (found : Found) : List String → Option Found
  | [] => some found
  | name :: names =>
    match world.read? found.object name with
    | some next => follow next names
    | none => none

/-! ## Names -/

/-- What a name means in a module: what the module binds, then what it knows about itself, and
otherwise a builtin. The class of a module is not a name in it. -/
def nameIn? (module name : String) : Option Found :=
  let own := if name = "__class__" then none else world.own? (.module module) name
  let found := ((world.moduleAttribute? module name).or own).or
    (world.stored? (.module "builtins") name)
  found.filter fun found => !found.object.isNone

def dottedIn? (module dotted : String) : Option Found :=
  match Text.dottedParts dotted with
  | [] => none
  | head :: rest => (world.nameIn? module head).bind fun found => world.follow found rest

end World
end Interpose

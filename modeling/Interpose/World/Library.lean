import Interpose.World.Basic
import Interpose.World.Library.Names

/-! # The library of the described language

The modules and classes that exist before any module under study. Of a class only what can be
seen is recorded: for most classes that is the name; for the classes that collections are built on
it is also the order of resolution and the own methods. Some methods have no readable signature.
-/
namespace Interpose.Library

set_option autoImplicit false

/-! ## Modules -/

def functionObject (name : String) : Object :=
  .routine ⟨.function, "", name⟩

def builtinFunction (name : String) : Object :=
  .routine ⟨.builtinFunction, "", name⟩

def bindClasses (module : String) (names : List String) : List (String × Object) :=
  names.map fun name => (name, .cls ⟨module, name, 0, false⟩)

def bindImports (imports : List (String × String × String)) : List (String × Object) :=
  imports.map fun (name, module, qualname) => (name, .cls ⟨module, qualname, 0, false⟩)

def bindFunctions (names : List String) : List (String × Object) :=
  names.map fun name => (name, functionObject name)

def builtinModule : Module :=
  ⟨"builtins", false,
    bindClasses "builtins" builtinClasses
      ++ [("EnvironmentError", .cls (.builtin "OSError")), ("IOError", .cls (.builtin "OSError"))]
      ++ builtinFunctions.map (fun name => (name, builtinFunction name))
      ++ [("None", .none), ("True", .value (.bool true)), ("False", .value (.bool false)),
        ("__debug__", .value (.bool true)), ("Ellipsis", .value .ellipsis),
        ("NotImplemented", .routine ⟨.singleton, "", "NotImplemented"⟩)]
      ++ interactiveTexts.map (fun (name, text) => (name, .routine ⟨.singleton, "", text⟩))⟩

def typingModule : Module :=
  ⟨"typing", false,
    bindClasses "typing" typingClasses
      ++ typingForms.map (fun name => (name, .special name))
      ++ typingAliases.map (fun (name, module, qualname) =>
        (name, .alias name ⟨module, qualname, 0, false⟩))
      ++ typingVariables.map (fun name => (name, .typeVariable ⟨.single, name, "typing", 0⟩))
      ++ bindFunctions typingFunctions
      ++ bindImports typingImports
      ++ [("TYPE_CHECKING", .value (.bool false)), ("collections", .module "collections"),
        ("contextlib", .module "contextlib"), ("types", .module "types"),
        ("stdlib_re", .module "re")]⟩

def modules : List Module :=
  [builtinModule,
    typingModule,
    ⟨"collections", true, bindClasses "collections" collectionsClasses
      ++ bindFunctions ["namedtuple"]⟩,
    ⟨"collections.abc", false, bindClasses "collections.abc" abstractClasses⟩,
    ⟨"types", false, bindClasses "types" typesClasses ++ bindImports typesBuiltins
      ++ bindFunctions typesFunctions⟩,
    ⟨"re", true, bindClasses "re" patternClasses ++ bindFunctions patternFunctions⟩,
    ⟨"contextlib", false, bindClasses "contextlib" contextClasses
      ++ bindFunctions contextFunctions⟩]

/-! ## Classes -/

def required (name : String) : DeclaredParameter := ⟨name, .positionalOnly, none, none⟩

def optional (name : String) (default : Value) : DeclaredParameter :=
  ⟨name, .positionalOnly, none, some default⟩

/-- The receiver of a method that is not written in the language itself. -/
def nativeReceiver : DeclaredParameter := required "self"

/-- A method of a builtin class, with its parameters after the receiver if they are known. -/
def ownMethod (owner name : String) (parameters : Option (List DeclaredParameter)) :
    String × Attribute :=
  (name, .native ⟨.method, owner, name⟩ (parameters.map (nativeReceiver :: ·)) false)

def slotMethod (owner name : String) (parameters : Option (List DeclaredParameter)) :
    String × Attribute :=
  (name, .native ⟨.slot, owner, name⟩ (parameters.map (nativeReceiver :: ·)) false)

def typeMethod (owner name : String) (parameters : Option (List DeclaredParameter)) :
    String × Attribute :=
  (name, .native ⟨.bound, owner, name⟩ (parameters.map (required "type" :: ·)) true)

/-- A method of an abstract collection class, an ordinary function without annotations. -/
def inheritedMethod (name : String) (parameters : List DeclaredParameter) : String × Attribute :=
  (name, .function
    ⟨⟨"self", .positionalOrKeyword, none, none⟩ :: parameters, none, "collections.abc", false,
      false, true, 0⟩)

def listMethods : List (String × Attribute) :=
  [slotMethod "list" "__repr__" (some []), ("__hash__", .plain .none),
   slotMethod "list" "__lt__" (some [required "value"]),
   slotMethod "list" "__le__" (some [required "value"]),
   slotMethod "list" "__eq__" (some [required "value"]),
   slotMethod "list" "__ne__" (some [required "value"]),
   slotMethod "list" "__gt__" (some [required "value"]),
   slotMethod "list" "__ge__" (some [required "value"]), slotMethod "list" "__iter__" (some []),
   slotMethod "list" "__len__" (some []), ownMethod "list" "__getitem__" none,
   slotMethod "list" "__setitem__" (some [required "key", required "value"]),
   slotMethod "list" "__delitem__" (some [required "key"]),
   slotMethod "list" "__add__" (some [required "value"]),
   slotMethod "list" "__mul__" (some [required "value"]),
   slotMethod "list" "__rmul__" (some [required "value"]),
   slotMethod "list" "__contains__" (some [required "key"]),
   slotMethod "list" "__iadd__" (some [required "value"]),
   slotMethod "list" "__imul__" (some [required "value"]),
   ownMethod "list" "__reversed__" (some []), ownMethod "list" "clear" (some []),
   ownMethod "list" "copy" (some []), ownMethod "list" "append" (some [required "object"]),
   ownMethod "list" "insert" (some [required "index", required "object"]),
   ownMethod "list" "extend" (some [required "iterable"]),
   ownMethod "list" "pop" (some [optional "index" (.int (-1))]),
   ownMethod "list" "remove" (some [required "value"]),
   ownMethod "list" "index"
     (some [required "value", optional "start" (.int 0),
       optional "stop" (.int 9223372036854775807)]),
   ownMethod "list" "count" (some [required "value"]), ownMethod "list" "reverse" (some []),
   ownMethod "list" "sort"
     (some [⟨"key", .keywordOnly, none, some .none⟩,
      ⟨"reverse", .keywordOnly, none, some (.bool false)⟩])]

def dictMethods : List (String × Attribute) :=
  [slotMethod "dict" "__repr__" (some []), ("__hash__", .plain .none),
   slotMethod "dict" "__lt__" (some [required "value"]),
   slotMethod "dict" "__le__" (some [required "value"]),
   slotMethod "dict" "__eq__" (some [required "value"]),
   slotMethod "dict" "__ne__" (some [required "value"]),
   slotMethod "dict" "__gt__" (some [required "value"]),
   slotMethod "dict" "__ge__" (some [required "value"]), slotMethod "dict" "__iter__" (some []),
   slotMethod "dict" "__or__" (some [required "value"]),
   slotMethod "dict" "__ror__" (some [required "value"]),
   slotMethod "dict" "__ior__" (some [required "value"]), slotMethod "dict" "__len__" (some []),
   ownMethod "dict" "__getitem__" none,
   slotMethod "dict" "__setitem__" (some [required "key", required "value"]),
   slotMethod "dict" "__delitem__" (some [required "key"]),
   ownMethod "dict" "__contains__" (some [required "key"]),
   ownMethod "dict" "get" (some [required "key", optional "default" .none]),
   ownMethod "dict" "setdefault" (some [required "key", optional "default" .none]),
   ownMethod "dict" "pop" none, ownMethod "dict" "popitem" (some []),
   ownMethod "dict" "keys" none, ownMethod "dict" "items" none, ownMethod "dict" "values" none,
   ownMethod "dict" "update" none,
   typeMethod "dict" "fromkeys" (some [required "iterable", optional "value" .none]),
   ownMethod "dict" "clear" none, ownMethod "dict" "copy" none,
   ownMethod "dict" "__reversed__" (some [])]

def setMethods : List (String × Attribute) :=
  [slotMethod "set" "__repr__" (some []), ("__hash__", .plain .none),
   slotMethod "set" "__lt__" (some [required "value"]),
   slotMethod "set" "__le__" (some [required "value"]),
   slotMethod "set" "__eq__" (some [required "value"]),
   slotMethod "set" "__ne__" (some [required "value"]),
   slotMethod "set" "__gt__" (some [required "value"]),
   slotMethod "set" "__ge__" (some [required "value"]), slotMethod "set" "__iter__" (some []),
   slotMethod "set" "__sub__" (some [required "value"]),
   slotMethod "set" "__rsub__" (some [required "value"]),
   slotMethod "set" "__and__" (some [required "value"]),
   slotMethod "set" "__rand__" (some [required "value"]),
   slotMethod "set" "__xor__" (some [required "value"]),
   slotMethod "set" "__rxor__" (some [required "value"]),
   slotMethod "set" "__or__" (some [required "value"]),
   slotMethod "set" "__ror__" (some [required "value"]),
   slotMethod "set" "__isub__" (some [required "value"]),
   slotMethod "set" "__iand__" (some [required "value"]),
   slotMethod "set" "__ixor__" (some [required "value"]),
   slotMethod "set" "__ior__" (some [required "value"]), slotMethod "set" "__len__" (some []),
   ownMethod "set" "__contains__" none, ownMethod "set" "add" none, ownMethod "set" "clear" none,
   ownMethod "set" "copy" none, ownMethod "set" "discard" none,
   ownMethod "set" "difference" none, ownMethod "set" "difference_update" none,
   ownMethod "set" "intersection" none, ownMethod "set" "intersection_update" none,
   ownMethod "set" "isdisjoint" none, ownMethod "set" "issubset" none,
   ownMethod "set" "issuperset" none, ownMethod "set" "pop" none, ownMethod "set" "remove" none,
   ownMethod "set" "symmetric_difference" none,
   ownMethod "set" "symmetric_difference_update" none, ownMethod "set" "union" none,
   ownMethod "set" "update" none]

def objectMethods : List (String × Attribute) :=
  let rest (receiver : List DeclaredParameter) : Option (List DeclaredParameter) :=
    some (receiver ++ [⟨"args", .varPositional, none, none⟩, ⟨"kwargs", .varKeyword, none, none⟩])
  ["__repr__", "__str__", "__hash__"].map (slotMethod "object" · (some []))
    ++ ["__lt__", "__le__", "__eq__", "__ne__", "__gt__", "__ge__"].map
      (slotMethod "object" · (some [required "value"]))
    ++ ["__dir__", "__sizeof__", "__reduce__", "__getstate__"].map
      (ownMethod "object" · (some []))
    ++ [slotMethod "object" "__getattribute__" (some [required "name"]),
      slotMethod "object" "__setattr__" (some [required "name", required "value"]),
      slotMethod "object" "__delattr__" (some [required "name"]),
      ownMethod "object" "__format__" (some [required "format_spec"]),
      ownMethod "object" "__reduce_ex__" (some [required "protocol"]),
      ("__init__", .native ⟨.slot, "object", "__init__"⟩ (rest [nativeReceiver]) false),
      ("__new__", .native ⟨.bound, "object", "__new__"⟩ (rest []) false),
      ("__init_subclass__", .native ⟨.bound, "object", "__init_subclass__"⟩ none true),
      ("__subclasshook__", .native ⟨.bound, "object", "__subclasshook__"⟩ none true)]

def sizedMethods : List (String × Attribute) :=
  [inheritedMethod "__len__" []]

def iterableMethods : List (String × Attribute) :=
  [inheritedMethod "__iter__" []]

def iteratorMethods : List (String × Attribute) :=
  [inheritedMethod "__next__" [], inheritedMethod "__iter__" []]

def containerMethods : List (String × Attribute) :=
  [inheritedMethod "__contains__" [⟨"x", .positionalOrKeyword, none, none⟩]]

def reversibleMethods : List (String × Attribute) :=
  [inheritedMethod "__reversed__" []]

def sequenceMethods : List (String × Attribute) :=
  [inheritedMethod "__getitem__" [⟨"index", .positionalOrKeyword, none, none⟩],
   inheritedMethod "__iter__" [],
   inheritedMethod "__contains__" [⟨"value", .positionalOrKeyword, none, none⟩],
   inheritedMethod "__reversed__" [],
   inheritedMethod "index"
     [⟨"value", .positionalOrKeyword, none, none⟩,
      ⟨"start", .positionalOrKeyword, none, some (.int 0)⟩,
      ⟨"stop", .positionalOrKeyword, none, some .none⟩],
   inheritedMethod "count" [⟨"value", .positionalOrKeyword, none, none⟩]]

def mutableSequenceMethods : List (String × Attribute) :=
  [inheritedMethod "__setitem__"
     [⟨"index", .positionalOrKeyword, none, none⟩,
      ⟨"value", .positionalOrKeyword, none, none⟩],
   inheritedMethod "__delitem__" [⟨"index", .positionalOrKeyword, none, none⟩],
   inheritedMethod "insert"
     [⟨"index", .positionalOrKeyword, none, none⟩,
      ⟨"value", .positionalOrKeyword, none, none⟩],
   inheritedMethod "append" [⟨"value", .positionalOrKeyword, none, none⟩],
   inheritedMethod "clear" [], inheritedMethod "reverse" [],
   inheritedMethod "extend" [⟨"values", .positionalOrKeyword, none, none⟩],
   inheritedMethod "pop" [⟨"index", .positionalOrKeyword, none, some (.int (-1))⟩],
   inheritedMethod "remove" [⟨"value", .positionalOrKeyword, none, none⟩],
   inheritedMethod "__iadd__" [⟨"values", .positionalOrKeyword, none, none⟩]]

def baseExceptionMethods : List (String × Attribute) :=
  [slotMethod "BaseException" "__repr__" (some []), slotMethod "BaseException" "__str__" (some []),
   ownMethod "BaseException" "with_traceback" none, ownMethod "BaseException" "add_note" none]

/-- A class that descends from the given classes, nearest first, and from `object`. -/
def classUnder (module name : String) (bases ancestors : List ClassRef)
    (attributes : List (String × Attribute)) : ClassInfo :=
  let ref : ClassRef := ⟨module, name, 0, false⟩
  ⟨ref, name, bases, ref :: ancestors ++ [ClassRef.objectClass], attributes, []⟩

def builtinClass (name : String) (attributes : List (String × Attribute)) : ClassInfo :=
  classUnder "builtins" name [ClassRef.objectClass] [] attributes

def abstractClass (name : String) (bases ancestors : List String)
    (attributes : List (String × Attribute)) : ClassInfo :=
  let refs (names : List String) : List ClassRef :=
    names.map fun n => ⟨"collections.abc", n, 0, false⟩
  classUnder "collections.abc" name
    (if bases = [] then [ClassRef.objectClass] else refs bases) (refs ancestors) attributes

/-- The chain of first bases of an exception, up to the root of all exceptions. -/
def exceptionAncestors : Nat → String → List String
  | 0, _ => []
  | fuel + 1, name =>
    match exceptionBases.lookup name with
    | some "object" | none => []
    | some base => base :: exceptionAncestors fuel base

def exceptionClass (name : String) : ClassInfo :=
  let ancestors := (exceptionAncestors 8 name).map ClassRef.builtin
  classUnder "builtins" name [ancestors.headD ClassRef.objectClass] ancestors
    (if name = "BaseException" then baseExceptionMethods else [])

def protocolClass : ClassRef := ⟨"typing", "Protocol", 0, false⟩

def classes : List ClassInfo :=
  [⟨ClassRef.objectClass, "object", [], [ClassRef.objectClass], [], []⟩,
    classUnder "typing" "Generic" [ClassRef.objectClass] [] [],
    classUnder "typing" "Protocol" [ClassRef.genericClass] [ClassRef.genericClass] [],
    classUnder "typing" "IO" [ClassRef.genericClass] [ClassRef.genericClass] [],
    classUnder "typing" "BinaryIO" [⟨"typing", "IO", 0, false⟩]
      [⟨"typing", "IO", 0, false⟩, ClassRef.genericClass] [],
    classUnder "typing" "TextIO" [⟨"typing", "IO", 0, false⟩]
      [⟨"typing", "IO", 0, false⟩, ClassRef.genericClass] [],
    builtinClass "list" listMethods,
    builtinClass "dict" dictMethods,
    builtinClass "set" setMethods,
    classUnder "builtins" "bool" [.builtin "int"] [.builtin "int"] [],
    abstractClass "Sized" [] []
      sizedMethods,
    abstractClass "Iterable" [] []
      iterableMethods,
    abstractClass "Iterator" ["Iterable"] ["Iterable"]
      iteratorMethods,
    abstractClass "Container" [] []
      containerMethods,
    abstractClass "Collection" ["Sized", "Iterable", "Container"] ["Sized", "Iterable", "Container"]
      [],
    abstractClass "Reversible" ["Iterable"] ["Iterable"]
      reversibleMethods,
    abstractClass "Sequence" ["Reversible", "Collection"]
      ["Reversible", "Collection", "Sized", "Iterable", "Container"]
      sequenceMethods,
    abstractClass "MutableSequence" ["Sequence"]
      ["Sequence", "Reversible", "Collection", "Sized", "Iterable", "Container"]
      mutableSequenceMethods]
    ++ protocolClasses.map (fun name =>
      classUnder "typing" name [protocolClass] [protocolClass, ClassRef.genericClass] [])
    ++ exceptionBases.map fun entry => exceptionClass entry.1

end Interpose.Library

namespace Interpose

def World.library : World :=
  ⟨Library.modules, Library.classes, []⟩

end Interpose

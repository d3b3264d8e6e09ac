import Interpose.Value.Text

/-! # Objects of a class world

What a name in a module, or an attribute of a class, can be bound to: values, type variables, the
constructs that annotations are built from, modules and routines.
-/
namespace Interpose

set_option autoImplicit false

inductive VariableKind where
  | single
  | parameters
  | tuple
  deriving DecidableEq, Repr

/-- A type variable: its own name, the module it was made in, and a serial number that tells
apart variables of one name. -/
structure TypeVariable where
  kind : VariableKind
  name : String
  module : String
  serial : Nat
  deriving DecidableEq, Repr

/-- What an object is that neither is a value nor belongs to an annotation. -/
inductive RoutineKind where
  | function
  | builtinFunction
  /-- A method of a builtin class, and one that implements an operator. -/
  | method
  | slot
  /-- A computed and a stored attribute of a builtin class. -/
  | attribute
  | field
  | bound
  | property
  /-- An object that is shown as its name. -/
  | singleton
  deriving DecidableEq, Repr

/-- An object that no annotation can be: its kind, the class it belongs to, or nothing, and its
name. -/
structure RoutineLabel where
  kind : RoutineKind
  owner : String
  name : String
  deriving DecidableEq, Repr

/-- An object. The flag of a union or generic type says whether the typing module made it, in
contrast to one made of runtime classes. The origin of a generic type that was made from an alias
is the alias. -/
inductive Object where
  | value (v : Value)
  | typeVariable (v : TypeVariable)
  /-- The positional or, with the flag, the keyword arguments of a parameter variable. -/
  | variablePart (v : TypeVariable) (keyword : Bool)
  /-- A construct of the typing module that is not a class. -/
  | special (name : String)
  /-- A typing alias of a runtime class. -/
  | alias (name : String) (origin : ClassRef)
  /-- A type that is made from another one; its serial number tells it apart. -/
  | newType (module name : String) (serial : Nat) (supertype : Object)
  | module (name : String)
  | routine (label : RoutineLabel)
  | union (typed : Bool) (members : List Object)
  | literal (values : List Value)
  | annotated (base : Object) (notes : List Object)
  | generic (typed : Bool) (origin : Object) (arguments : List Object)
  | list (items : List Object)
  /-- The types that an argument for a parameter variable consists of. -/
  | tuple (items : List Object)
  | forward (text : String)
  deriving Repr, Inhabited

def RoutineLabel.text (label : RoutineLabel) : String :=
  let ofObjects (kind : String) : String :=
    "<" ++ kind ++ " " ++ Text.quote label.name ++ " of " ++ Text.quote label.owner ++ " objects>"
  let full := if label.owner = "" then label.name else label.owner ++ "." ++ label.name
  match label.kind with
  | .function => "<function " ++ full ++ ">"
  | .builtinFunction => "<built-in function " ++ label.name ++ ">"
  | .method => ofObjects "method"
  | .slot => ofObjects "slot wrapper"
  | .attribute => ofObjects "attribute"
  | .field => ofObjects "member"
  | .bound => "<built-in method " ++ label.name ++ " of " ++ label.owner ++ ">"
  | .property => "<property object>"
  | .singleton => label.name

namespace Object

abbrev cls (c : ClassRef) : Object := .value (.cls c)

abbrev none : Object := .value .none

def isNone : Object → Bool
  | .value .none => true
  | _ => false

def asClass? : Object → Option ClassRef
  | .value (.cls c) => some c
  | _ => Option.none

def asList? : Object → Option (List Object)
  | .list items => some items
  | .value (.list items) => some (items.map .value)
  | _ => Option.none

def asTuple? : Object → Option (List Object)
  | .tuple items => some items
  | .value (.tuple items) | .value (.tupleSub items) => some (items.map .value)
  | _ => Option.none

mutual

/-- The value that the object is, if it is one. A list or tuple of values is a value. -/
def asValue? : Object → Option Value
  | .value v => some v
  | .list items => (asValues? items).map .list
  | .tuple items => (asValues? items).map .tuple
  | _ => Option.none

def asValues? : List Object → Option (List Value)
  | [] => some []
  | object :: objects => do
    let v ← asValue? object
    let vs ← asValues? objects
    return v :: vs

end

def isCallableOrigin : Object → Bool
  | .alias name _ => name = "Callable"
  | .value (.cls c) => c = ⟨"collections.abc", "Callable", 0, false⟩
  | _ => false

/-! ## Texts -/

def classText (c : ClassRef) : String :=
  if c.module = "builtins" then c.qualname else c.fullName

def innerText : Value → String
  | .cls c => classText c
  | .ellipsis => "..."
  | v => v.text

/-- How a type variable is shown. The variance of the variables of the typing module can be read off
their names. -/
def variableText (v : TypeVariable) : String :=
  let ends (mark : String) : Bool := v.module = "typing" && mark.toList.isSuffixOf v.name.toList
  if v.kind = .tuple then v.name
  else if ends "_co" then "+" ++ v.name
  else if ends "_contra" then "-" ++ v.name
  else "~" ++ v.name

mutual

/-- The text of an object, by itself or in brackets, where classes are shown by their names. -/
def shown (inBrackets : Bool) : Object → String
  | .value v => if inBrackets then innerText v else v.text
  | .typeVariable v => variableText v
  | .variablePart v keyword => v.name ++ (if keyword then ".kwargs" else ".args")
  | .special name | .alias name _ => "typing." ++ name
  | .newType home name _ _ => home ++ "." ++ name
  | .module name => "<module " ++ Text.quote name ++ ">"
  | .routine label => label.text
  | .forward t => "ForwardRef(" ++ Text.quote t ++ ")"
  | .union true members =>
    match shownAll true members with
    | ["NoneType", other] | [other, "NoneType"] => "typing.Optional[" ++ other ++ "]"
    | texts => "typing.Union[" ++ Value.commaSeparated texts ++ "]"
  | .union false members =>
    " | ".intercalate ((shownAll true members).map fun t => if t = "NoneType" then "None" else t)
  | .literal [] => "typing.Literal[()]"
  | .literal values => "typing.Literal[" ++ Value.commaSeparated (values.map innerText) ++ "]"
  | .annotated base notes =>
    "typing.Annotated[" ++ Value.commaSeparated (shown true base :: shownAll false notes) ++ "]"
  | .generic _ (.special "Unpack") [argument] => "*" ++ shown false argument
  | .generic _ origin [.list parameters, result] =>
    shown true origin ++ "[["
      ++ Value.commaSeparated (shownAll (origin.isCallableOrigin) parameters) ++ "], "
      ++ shown true result ++ "]"
  | .generic _ origin arguments =>
    shown true origin ++ "[" ++
      (if arguments.isEmpty then "()" else Value.commaSeparated (shownAll true arguments)) ++ "]"
  | .list items => "[" ++ Value.commaSeparated (shownAll false items) ++ "]"
  | .tuple items => Value.tupleText (shownAll false items)

def shownAll (inBrackets : Bool) : List Object → List String
  | [] => []
  | object :: objects => shown inBrackets object :: shownAll inBrackets objects

end

def text (object : Object) : String :=
  object.shown false

/-! ## Type variables -/

mutual

def typeVariables : Object → List TypeVariable
  | .typeVariable v => [v]
  | .union _ members => typeVariablesOf members
  | .annotated base _ => typeVariables base
  | .generic _ _ arguments => typeVariablesOf arguments
  | .list items | .tuple items => typeVariablesOf items
  | _ => []

def typeVariablesOf : List Object → List TypeVariable
  | [] => []
  | object :: objects =>
    let first := typeVariables object
    first ++ (typeVariablesOf objects).filter (!first.contains ·)

end

end Object

/-! ## Texts in objects -/

mutual

/-- The size of the texts that converting a value reads. -/
def Value.textSize : Value → Nat
  | .str s | .strSub s | .member _ .text _ (.str s) => s.toList.length + 2
  | .brokenStr t => t.points.length + 2
  | .list items => Value.totalTextSize items
  | _ => 0

def Value.totalTextSize : List Value → Nat
  | [] => 0
  | v :: vs => Value.textSize v + Value.totalTextSize vs

end

mutual

def Object.textSize : Object → Nat
  | .value v => v.textSize
  | .forward s => s.toList.length + 2
  | .union _ members => Object.totalTextSize members
  | .annotated base _ => Object.textSize base
  | .generic _ origin arguments => Object.textSize origin + Object.totalTextSize arguments
  | .list items => Object.totalTextSize items
  | _ => 0

def Object.totalTextSize : List Object → Nat
  | [] => 0
  | object :: objects => Object.textSize object + Object.totalTextSize objects

end

inductive ParameterKind where
  | positionalOnly
  | positionalOrKeyword
  | varPositional
  | keywordOnly
  | varKeyword
  deriving DecidableEq, Repr

structure DeclaredParameter where
  name : String
  kind : ParameterKind
  hint : Option Object
  default : Option Value
  deriving Repr

/-- A function: its parameters with the receiver, and the module whose names its annotations
mean. The signature of a function can be unreadable. The serial number tells apart the functions of
the modules under study, whose annotations are evaluated after all else; it is zero for others. -/
structure Routine where
  parameters : List DeclaredParameter
  returns : Option Object
  home : String
  isFinal : Bool
  isCoroutine : Bool
  isReadable : Bool
  serial : Nat := 0
  deriving Repr

inductive Attribute where
  | function (routine : Routine)
  | staticMethod (routine : Routine)
  | classMethod (routine : Routine)
  | property (routine : Routine)
  /-- A callable object that binds like a method, but whose signature cannot be read. -/
  | descriptor
  /-- A method of a builtin class; its signature is not always known. -/
  | native (label : RoutineLabel) (parameters : Option (List DeclaredParameter)) (ofClass : Bool)
  | plain (object : Object)
  deriving Repr

/-- A class: its own name, its direct bases, the classes in the order of resolution, itself first,
its own attributes in the order of declaration, and the type variables that it is generic in. -/
structure ClassInfo where
  ref : ClassRef
  name : String
  bases : List ClassRef
  resolution : List ClassRef
  attributes : List (String × Attribute)
  typeParameters : List TypeVariable := []
  deriving Repr

/-- A module and the names it binds. Only a package can have submodules that are not there yet. -/
structure Module where
  name : String
  isPackage : Bool
  bindings : List (String × Object)
  deriving Repr

end Interpose

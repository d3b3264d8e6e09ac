import Interpose.World.Reading

/-! # Types built at run time

Unions are flattened and lose duplicates, an optional type is a union with `None`, and subscripting
a type that has type variables puts the arguments in their places. What the typing module builds, it
builds through its memory of earlier subscripts; what is built of runtime classes alone is built
anew each time.
-/
namespace Interpose

set_option autoImplicit false

namespace Object

/-! ## Parts -/

/-- Whether the typing module made the object: its aliases, forms and the types built from them. -/
def isTyping : Object → Bool
  | .variablePart .. | .special _ | .alias .. | .newType .. | .literal _ | .annotated ..
  | .forward _ => true
  | .union typed _ | .generic typed _ _ => typed
  | _ => false

/-- Whether the typing module makes the unions that a bar puts the object into. -/
def joinsAsTyping : Object → Bool
  | .typeVariable _ => true
  | object => object.isTyping

def members : Object → List Object
  | .union _ members => members
  | object => [object]

/-- An object as an argument of a type made by the typing module: a text is a reference to a later
name, and `None` is the class of the one value `None`. -/
def asArgument : Object → Object
  | .value (.str s) | .value (.strSub s) => .forward s
  | .value .none => .cls .noneClass
  | object => object

def unite (typed : Bool) (objects : List Object) : Object :=
  match distinct (objects.flatMap fun object => object.asArgument.members) with
  | [object] => object
  | members => .union typed members

/-- The values of a literal type with some arguments, where further literal types stand for their
values. Of values that are equal and of the same exact type the first is kept, unless some value
cannot be a key. -/
def literalValues (arguments : List Object) : List Value :=
  let values := arguments.flatMap fun
    | .literal values => values
    | object => object.asValue?.toList
  if Value.areHashable values then
    values.foldl
      (fun kept v => if kept.any (fun w => w.equal v && w.sameType v) then kept else kept ++ [v]) []
  else values

/-- An annotated type; the notes of an annotated base come first. -/
def annotate (base : Object) (notes : List Object) : Object :=
  match base with
  | .annotated base earlier => .annotated base (earlier ++ notes)
  | base => .annotated base notes

/-- Whether an object can stand for all parameters of a callable object. -/
def isParameters : Object → Bool
  | .value .ellipsis => true
  | .typeVariable v => v.kind = .parameters
  | .generic true (.special "Concatenate") _ => true
  | object => object.asList?.isSome || object.asTuple?.isSome

/-- The arguments of a callable type with the given parameters and result in a row. Unless a single
object stands for all parameters, they form a list. -/
def callableArguments (row : List Object) : List Object :=
  match row with
  | [first, result] => if first.isParameters then [first, result] else [.list [first], result]
  | row => [.list row.dropLast, row.getLastD .none]

/-- The parameters and the result of a callable type in a row. A list or tuple of parameters stands
for its items. -/
def callableRow : List Object → List Object
  | [parameters, result] =>
    match parameters.asList?.or parameters.asTuple? with
    | some items => items ++ [result]
    | .none => [parameters, result]
  | arguments => arguments

/-- Tuples of types in a row of parameters stand for their items. -/
def spliced (row : List Object) : List Object :=
  row.flatMap fun object => object.asTuple?.getD [object]

/-- The type of a parameter list that continues some parameters. -/
def concatenation (arguments : List Object) : Object :=
  let first := arguments.dropLast
  let last := arguments.getLastD .none
  match last.asList?.or last.asTuple?, last with
  | some items, _ => .tuple (first ++ items)
  | .none, .generic true (.special "Concatenate") more =>
    .generic true (.special "Concatenate") (first ++ more)
  | .none, _ => .generic true (.special "Concatenate") arguments

/-- The types that an unpacked tuple type consists of, and whether their number is open, where
there is one type for all of them. -/
def unpacked? : Object → Option (List Object × Bool)
  | .generic true (.special "Unpack") [.generic true (.alias "Tuple" _) items] =>
    match items with
    | [item, .value .ellipsis] => some ([item], true)
    | items => some (items, false)
  | _ => Option.none

def unpackAll (arguments : List Object) : List Object :=
  arguments.flatMap fun argument =>
    match argument.unpacked? with
    | some (items, false) => items
    | _ => [argument]

/-- What is given for a variable number of types becomes a tuple; before and after it stand the
arguments of the other variables. An unpacked tuple type of open length also stands for those
arguments around it that are missing. -/
def gather (before after : Nat) (arguments : List Object) : List Object :=
  let isOpen (argument : Object) : Bool := argument.unpacked?.any Prod.snd
  let k := arguments.findIdx isOpen
  let fill := match (arguments[k]?).bind unpacked? with
    | some ([item], _) => item
    | _ => .none
  let left := min before k
  let right := if k < arguments.length then min after (arguments.length - k - 1) else after
  let inner := arguments.take (arguments.length - right)
  inner.take left ++ List.replicate (before - left) fill ++ [.tuple (inner.drop left)]
    ++ List.replicate (after - right - left) fill ++ arguments.drop (arguments.length - right)

/-- The arguments, after what is given for one of the type variables has been put into a tuple if
the variable stands for several types. A list that is given for a parameter variable is a tuple, and
a single parameter variable takes all arguments, unless the first one stands for all parameters. -/
def prepared (typeVariables : List TypeVariable) (arguments : List Object) (v : TypeVariable) :
    List Object :=
  let i := typeVariables.idxOf v
  match v.kind with
  | .single => arguments
  | .tuple => gather i (typeVariables.length - i - 1) arguments
  | .parameters =>
    if typeVariables.length = 1 && arguments.head?.any (!isParameters ·) then [.tuple arguments]
    else arguments.modify i fun argument => (argument.asList?.map .tuple).getD argument

/-- The arguments for type variables, one for each. -/
def argumentsFor (typeVariables : List TypeVariable) (arguments : List Object) : List Object :=
  typeVariables.foldl (prepared typeVariables) arguments

def placed (v : TypeVariable) (argument : Object) : Object :=
  if v.kind = .parameters then
    match argument.asList?.or argument.asTuple? with
    | some items => .tuple (items.map asArgument)
    | .none => argument
  else argument.asArgument

end Object

namespace Typing

open Object

/-! ## Types of the typing module -/

def union (arguments : List Object) (isTuple : Bool) : Evaluation Object :=
  Memory.answer ⟨.special "Union", arguments, isTuple, false⟩ (pure (unite true arguments))

def optional (argument : Object) : Evaluation Object :=
  Memory.answer ⟨.special "Optional", [argument], false, false⟩
    (union [argument.asArgument, .cls .noneClass] true)

def literal (arguments : List Object) : Evaluation Object :=
  Memory.answer ⟨.special "Literal", arguments, true, true⟩
    (pure (.literal (literalValues arguments)))

def annotatedClass : Object := .cls ⟨"typing", "Annotated", 0, false⟩

def annotated (base : Object) (notes : List Object) : Evaluation Object :=
  Memory.answer ⟨annotatedClass, base :: notes, true, true⟩ (pure (annotate base.asArgument notes))

def bar (a b : Object) : Evaluation Object :=
  if a.joinsAsTyping || b.joinsAsTyping then union [a, b] true else pure (unite false [a, b])

def barAll : List Object → Evaluation Object
  | [] => failure
  | first :: rest => rest.foldlM bar first

/-! ## Substitution -/

def isUnpackedVariable : Object → Bool
  | .generic true (.special "Unpack") [.typeVariable v] => v.kind = .tuple
  | _ => false

/-- Whether a subscript of the object goes through the memory. -/
def isRemembered : Object → Bool
  | .annotated .. => true
  | .union typed _ => typed
  | .generic typed origin arguments =>
    typed && !isUnpackedVariable (.generic typed origin arguments)
  | _ => false

/-- The result of replacing type variables in a part of a type. A part with type variables is
subscripted with what replaces them. -/
def replaced (replacements : List (TypeVariable × Object)) (part : Object)
    (result : List (TypeVariable × Object) → Evaluation Object) : Evaluation Object :=
  let replacedVariables := part.typeVariables
  let arguments := replacedVariables.flatMap fun v =>
    let argument := (replacements.lookup v).getD (.typeVariable v)
    if v.kind = .tuple then argument.asTuple?.getD [argument] else [argument]
  let own := replacedVariables.zip (argumentsFor replacedVariables arguments)
  if replacedVariables.isEmpty then pure part
  else match part with
  | .union .. | .generic .. | .annotated .. =>
    if isRemembered part then Memory.answer ⟨part, arguments, true, false⟩ (result own)
    else result own
  | _ => result replacements

mutual

def substitute (replacements : List (TypeVariable × Object)) : Object → Evaluation Object
  | .typeVariable v =>
    pure (match replacements.lookup v with
      | some argument => placed v argument
      | .none => .typeVariable v)
  | .union typed members => do
    let parts ← substituteAll replacements members
    if typed then union parts true else barAll parts
  | .annotated base notes => do
    let base ← replaced replacements base fun own => substitute own base
    return annotate base notes
  | .generic true (.special "Unpack") [.typeVariable v] =>
    pure ((replacements.lookup v).getD (.generic true (.special "Unpack") [.typeVariable v]))
  | .generic typed origin arguments => do
    let parts ← substituteAll replacements arguments
    match origin with
    | .special "Concatenate" => return concatenation parts
    | origin =>
      return .generic typed origin
        (if origin.isCallableOrigin then callableArguments (callableRow parts) else parts)
  | .list items => do
    let parts ← substituteAll replacements items
    return .list (spliced parts)
  | .tuple items => do
    let parts ← substituteAll replacements items
    return .tuple parts
  | object => pure object

def substituteAll (replacements : List (TypeVariable × Object)) :
    List Object → Evaluation (List Object)
  | [] => pure []
  | object :: objects => do
    let part ← replaced replacements object fun own => substitute own object
    let parts ← substituteAll replacements objects
    return if isUnpackedVariable object then part.asTuple?.getD [part] ++ parts else part :: parts

end

/-! ## Subscripts -/

/-- A type with the arguments put in the places of its type variables. An unpacked variable becomes
what is in the brackets. -/
def instantiate (object : Object) (arguments : List Object) (isTuple : Bool) :
    Evaluation Object :=
  let arguments' := unpackAll (arguments.map asArgument)
  let replacements := object.typeVariables.zip (argumentsFor object.typeVariables arguments')
  if isUnpackedVariable object then
    pure (if isTuple then .tuple arguments else arguments.headD object)
  else if isRemembered object then
    Memory.answer ⟨object, arguments, isTuple, false⟩ (substitute replacements object)
  else substitute replacements object

def checkedArguments (subject : Object) (arguments : List Object) : List Object :=
  match subject with
  | .special "Concatenate" => arguments.dropLast.map asArgument ++ arguments.getLast?.toList
  | .alias "Callable" _ =>
    callableArguments ((callableRow arguments).map asArgument)
  | _ => arguments.map asArgument

def special (subject : Object) (arguments : List Object) (isTuple : Bool) : Evaluation Object :=
  let remembered := match subject, arguments with
    | .alias "Callable" _, [parameters, result] =>
      [(parameters.asList?.map Object.tuple).getD parameters, result]
    | _, arguments => arguments
  Memory.answer ⟨subject, remembered, isTuple, false⟩
    (pure (.generic true subject (checkedArguments subject arguments)))

/-- The arguments of a generic class. Those for several types stand in the row of the others. A
class without type variables of its own, which marks others as generic, takes any. -/
def classArguments (typeVariables : List TypeVariable) (arguments : List Object) : List Object :=
  let arguments := arguments.map asArgument
  if typeVariables.isEmpty then arguments
  else (typeVariables.zip (argumentsFor typeVariables arguments)).flatMap fun (v, argument) =>
    if v.kind = .tuple then argument.asTuple?.getD [argument] else [argument]

def ofClass (world : World) (c : ClassRef) (arguments : List Object) (isTuple : Bool) :
    Evaluation Object :=
  let subject : Object := .cls c
  if (world.resolution c).contains ClassRef.genericClass then
    Memory.answer ⟨subject, arguments, isTuple, false⟩
      (pure (.generic true subject (classArguments (world.typeParameters c) arguments)))
  else
    pure (.generic false subject
      (if subject.isCallableOrigin then callableArguments (callableRow arguments)
      else arguments))

/-- The arguments in some brackets, and whether they form a tuple. -/
def bracketed : List Object → List Object × Bool
  | [argument] =>
    match argument.asTuple? with
    | some items => (items, true)
    | .none => ([argument], false)
  | arguments => (arguments, true)

def subscript (world : World) (object : Object) (items : List Object) : Evaluation Object :=
  let (arguments, isTuple) := bracketed items
  match object, arguments with
  | .special "Optional", [argument] => optional argument
  | .special "Union", arguments => union arguments isTuple
  | .special "Literal", arguments => literal arguments
  | .special _, arguments | .alias .., arguments => special object arguments isTuple
  | .value (.cls ⟨"typing", "Annotated", 0, false⟩), base :: notes => annotated base notes
  | .value (.cls c), arguments => ofClass world c arguments isTuple
  | .union .., arguments | .generic .., arguments | .annotated .., arguments =>
    instantiate object arguments isTuple
  | _, _ => failure

end Typing
end Interpose

import Interpose.Conversion
import Interpose.Proofs.LiveHint.Remembering

/-! # Annotations as text and as objects

The tree of an annotation that is read from text is also an expression that builds an object. The
same names have to mean the same: in the text, what the names of a module lead to, and in the
expression, what stands at a path.
-/
namespace Interpose

set_option autoImplicit false

/-! ## Objects in annotations -/

def Value.IsTextOrWhole : Value → Prop
  | .str _ | .brokenStr _ | .int _ => True
  | _ => False

namespace Object

/-- Whether a name in an annotation can mean the object. -/
def IsNameable : Object → Prop
  | .value (.cls c) | .alias _ c => c ≠ ClassRef.genericClass
  | .typeVariable _ | .variablePart .. | .special _ => True
  | _ => False

def IsSingle (object : Object) : Prop :=
  object.asList? = Option.none ∧ object.asTuple? = Option.none

/-- Whether a union has the objects as its members: they are several and distinct, and none of them
is a union itself. -/
structure AreMembers (objects : List Object) : Prop where
  several : 2 ≤ objects.length
  flat : ∀ object ∈ objects, ∀ typed members, object ≠ .union typed members
  distinct : objects.Pairwise fun a b => a.asArgument.equal b.asArgument = false

/-- Whether the arguments for the type variables of a class stand in the row of the variables: one
for each variable, and any number for one variable that stands for several types. A parameter
variable by itself has to be given all parameters at once, and an unpacked tuple type of open
length only adds to the arguments of the variable that stands for several types. -/
inductive AreAligned : List TypeVariable → List Object → Prop
  | none (objects : List Object) : AreAligned [] objects
  | each {vs : List TypeVariable} {objects : List Object} (hKinds : ∀ v ∈ vs, v.kind ≠ .tuple)
      (hLength : objects.length = vs.length)
      (hAlone : ∀ v object, vs = [v] → objects = [object] → v.kind = .parameters →
        object.isParameters = true) : AreAligned vs objects
  | tuple {before after : List TypeVariable} {v : TypeVariable} {first middle last : List Object}
      (hKind : v.kind = .tuple) (hKinds : ∀ w ∈ before ++ after, w.kind ≠ .tuple)
      (hFirst : first.length = before.length) (hLast : last.length = after.length)
      (hOpen : ∀ object ∈ first ++ last, object.unpacked?.any Prod.snd = false) :
      AreAligned (before ++ v :: after) (first ++ middle ++ last)

structure MakesCallables (origin : Object) (world : World) : Prop where
  isOrigin : origin.isCallableOrigin = true
  isRuntime : ∀ c, origin = .cls c →
    (world.resolution c).contains ClassRef.genericClass = false

/-- Whether an object takes the arguments, none of which is a list, in a subscript. -/
inductive Takes (world : World) : Object → List Object → Prop
  | union {objects : List Object} (h : AreMembers objects) :
      Takes world (.special "Union") objects
  | optional {object : Object} (h : AreMembers [object, .none]) :
      Takes world (.special "Optional") [object]
  | special {name : String} {objects : List Object}
      (hName : name ∉ ["Union", "Optional", "Literal"]) : Takes world (.special name) objects
  | typingAlias {name : String} {c : ClassRef} {objects : List Object}
      (hCallable : (Object.alias name c).isCallableOrigin = false) :
      Takes world (.alias name c) objects
  | runtimeClass {c : ClassRef} {objects : List Object}
      (hAnnotated : cls c ≠ Typing.annotatedClass)
      (hGeneric : (world.resolution c).contains ClassRef.genericClass = false)
      (hCallable : (cls c).isCallableOrigin = false) : Takes world (.cls c) objects
  | genericClass {c : ClassRef} {objects : List Object}
      (hAnnotated : cls c ≠ Typing.annotatedClass)
      (hGeneric : (world.resolution c).contains ClassRef.genericClass = true)
      (hAligned : AreAligned (world.typeParameters c) objects) : Takes world (.cls c) objects
  | callable {origin parameters result : Object} (hCallable : origin.MakesCallables world)
      (hAll : parameters.isParameters = true) : Takes world origin [parameters, result]

end Object

/-! ## Trees as expressions -/

namespace HintText.Node

mutual

/-- The expression that a tree is, where each name stands for a path. There is no expression for an
intersection. -/
def expr (paths : String → ObjectPath) : Node Value → ObjectExpr
  | .name dotted => if dotted = "None" then .value (.value .none) else .ref (paths dotted)
  | .subscript origin arguments => .subscript (paths origin) (exprs paths arguments)
  | .union members => .barred (exprs paths members)
  | .intersection _ => .barred []
  | .list items => .list (exprs paths items)
  | .literal v => .value (.value v)
  | .ellipsis => .value (.value .ellipsis)

def exprs (paths : String → ObjectPath) : List (Node Value) → List ObjectExpr
  | [] => []
  | node :: nodes => expr paths node :: exprs paths nodes

end

end HintText.Node

open HintText (Node)

/-- What the names of an annotation mean in its text, and where it is evaluated. -/
structure Scope where
  world : World
  names : Namespace
  paths : String → ObjectPath

/-- A part of an annotation: what is written, the object that it denotes, and the answers that the
typing module gives while it is evaluated. -/
structure HintPart where
  node : Node Value
  object : Object
  answers : Memory

namespace Scope

structure Binds (scope : Scope) (dotted : String) (object : Object) : Prop where
  text : (scope.names.find dotted).map Found.object = some object
  live : scope.world.atPath? (scope.paths dotted) = some object

def IsConstant (scope : Scope) (part : HintPart) : Prop :=
  part.answers = [] ∧ ∀ memory : Memory,
    (scope.world.evalObject (part.node.expr scope.paths)).run memory = some (part.object, memory)

end Scope

/-- What is built of objects joined by bars, and the answers to the unions in it. -/
inductive Barred : List Object → Object → Memory → Prop
  | one (object : Object) : Barred [object] object []
  | more {objects : List Object} {union last object : Object} {earlier answers : Memory}
      (hBarred : Barred objects union earlier)
      (hBuilds : (Typing.bar union last).Builds object answers) :
      Barred (objects ++ [last]) object (earlier ++ answers)

/-- The annotations whose text and object are compared, with the object that each denotes when
nothing is remembered. The texts that may be quoted in it are given. -/
inductive Denotes (scope : Scope) (quoted : String → Prop) : Node Value → Object → Memory → Prop
  | none : Denotes scope quoted (.name "None") .none []
  | name {dotted : String} {object : Object} (hBinds : scope.Binds dotted object)
      (hNameable : object.IsNameable) (hRelative : dotted ∉ relativeNames)
      (hNone : dotted ≠ "None") : Denotes scope quoted (.name dotted) object []
  | reference {s : String} (hQuoted : quoted s) :
      Denotes scope quoted (.literal (.str s)) (.value (.str s)) []
  | ellipsis : Denotes scope quoted .ellipsis (.value .ellipsis) []
  | bars {parts : List HintPart} {object : Object} {answers : Memory}
      (hParts : ∀ part ∈ parts, Denotes scope quoted part.node part.object part.answers)
      (hMembers : Object.AreMembers (parts.map HintPart.object))
      (hBarred : Barred (parts.map HintPart.object) object answers) :
      Denotes scope quoted (.union (parts.map HintPart.node)) object
        (parts.flatMap HintPart.answers ++ answers)
  | literal {origin : String} {values : List Value} {object : Object} {answers : Memory}
      (hBinds : scope.Binds origin (.special "Literal")) (hSome : values ≠ [])
      (hKinds : ∀ v ∈ values, v.IsTextOrWhole) (hDistinct : values.Nodup)
      (hBuilds : (Typing.subscript scope.world (.special "Literal")
        (values.map .value)).Builds object answers) :
      Denotes scope quoted (.subscript origin (values.map .literal)) object answers
  | annotated {origin : String} {base : HintPart} {notes : List HintPart} {object : Object}
      {answers : Memory} (hBinds : scope.Binds origin Typing.annotatedClass)
      (hBase : Denotes scope quoted base.node base.object base.answers) (hSome : notes ≠ [])
      (hNotes : ∀ note ∈ notes, ¬ scope.IsConstant note →
        Denotes scope quoted note.node note.object note.answers)
      (hBuilds : (Typing.subscript scope.world Typing.annotatedClass
        (base.object :: notes.map HintPart.object)).Builds object answers) :
      Denotes scope quoted (.subscript origin (base.node :: notes.map HintPart.node)) object
        (base.answers ++ notes.flatMap HintPart.answers ++ answers)
  | callable {origin : String} {subject : Object} {items : List HintPart} {result : HintPart}
      {object : Object} {answers : Memory} (hBinds : scope.Binds origin subject)
      (hNameable : subject.IsNameable) (hCallable : subject.MakesCallables scope.world)
      (hItems : ∀ item ∈ items, Denotes scope quoted item.node item.object item.answers)
      (hAlone : ∀ item, items = [item] → item.object.isParameters = false)
      (hResult : Denotes scope quoted result.node result.object result.answers)
      (hBuilds : (Typing.subscript scope.world subject
        [.list (items.map HintPart.object), result.object]).Builds object answers) :
      Denotes scope quoted (.subscript origin [.list (items.map HintPart.node), result.node]) object
        (items.flatMap HintPart.answers ++ result.answers ++ answers)
  | subscript {origin : String} {subject : Object} {parts : List HintPart} {object : Object}
      {answers : Memory} (hBinds : scope.Binds origin subject) (hNameable : subject.IsNameable)
      (hParts : ∀ part ∈ parts, Denotes scope quoted part.node part.object part.answers)
      (hSome : parts ≠ []) (hTakes : Object.Takes scope.world subject (parts.map HintPart.object))
      (hBuilds : (Typing.subscript scope.world subject
        (parts.map HintPart.object)).Builds object answers) :
      Denotes scope quoted (.subscript origin (parts.map HintPart.node)) object
        (parts.flatMap HintPart.answers ++ answers)

end Interpose

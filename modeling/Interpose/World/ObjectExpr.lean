import Interpose.World.Typing

/-! # Expressions for objects

How the objects of a world are written down: values that may mention classes and enumeration
members by their path, and annotations built from references, unions, subscripts and literals.
Evaluating an annotation builds the object that it denotes.
-/
namespace Interpose

set_option autoImplicit false

/-- A path: a module and the attributes to read from it. -/
abbrev ObjectPath := List String

inductive ValueExpr where
  | value (v : Value)
  | ref (path : ObjectPath)
  | tuple (items : List ValueExpr)
  | list (items : List ValueExpr)
  | set (items : List ValueExpr)
  | frozenset (items : List ValueExpr)
  | tupleSub (items : List ValueExpr)
  | dict (entries : List (ValueExpr × ValueExpr))
  deriving Repr, Inhabited

inductive ObjectExpr where
  | ref (path : ObjectPath)
  | value (v : ValueExpr)
  | forward (text : String)
  | list (items : List ObjectExpr)
  | union (members : List ObjectExpr)
  | barred (members : List ObjectExpr)
  | literal (values : List ValueExpr)
  | annotated (base : ObjectExpr) (note : ValueExpr)
  | subscript (path : ObjectPath) (arguments : List ObjectExpr)
  deriving Repr, Inhabited

namespace World

variable (world : World)

def atPath? : ObjectPath → Option Object
  | [] => none
  | module :: names =>
    if (world.module? module).isNone then none
    else names.foldlM (fun object name => (world.stored? object name).map Found.object)
      (.module module)

def classAt? (path : ObjectPath) : Option ClassRef :=
  (world.atPath? path).bind Object.asClass?

mutual

def evalValue? : ValueExpr → Option Value
  | .value v => some v
  | .ref path =>
    match world.atPath? path with
    | some (.value v) => some v
    | _ => none
  | .tuple items => (evalValues? items).map .tuple
  | .list items => (evalValues? items).map .list
  | .set items => (evalValues? items).map .set
  | .frozenset items => (evalValues? items).map .frozenset
  | .tupleSub items => (evalValues? items).map .tupleSub
  | .dict entries => (evalEntries? entries).map .dict

def evalValues? : List ValueExpr → Option (List Value)
  | [] => some []
  | item :: items => do
    let v ← evalValue? item
    let vs ← evalValues? items
    return v :: vs

def evalEntries? : List (ValueExpr × ValueExpr) → Option (List (Value × Value))
  | [] => some []
  | (key, item) :: entries => do
    let k ← evalValue? key
    let v ← evalValue? item
    let rest ← evalEntries? entries
    return (k, v) :: rest

end

mutual

def evalObject : ObjectExpr → Evaluation Object
  | .ref path => liftM (world.atPath? path)
  | .value v => do
    let v ← liftM (world.evalValue? v)
    return .value v
  | .forward text => pure (.forward text)
  | .list items => do
    let items ← evalObjects items
    return .list items
  | .union members => do
    let members ← evalObjects members
    Typing.union members true
  | .barred members => do
    let members ← evalObjects members
    Typing.barAll members
  | .literal values => do
    let values ← liftM (world.evalValues? values)
    Typing.literal (values.map .value)
  | .annotated base note => do
    let base ← evalObject base
    let note ← liftM (world.evalValue? note)
    Typing.annotated base [.value note]
  | .subscript path arguments => do
    let object ← liftM (world.atPath? path)
    let arguments ← evalObjects arguments
    Typing.subscript world object arguments

def evalObjects : List ObjectExpr → Evaluation (List Object)
  | [] => pure []
  | item :: items => do
    let object ← evalObject item
    let objects ← evalObjects items
    return object :: objects

end

/-- The object that an annotation denotes once the world has been made. -/
def evalObject? (expr : ObjectExpr) : Option Object :=
  (world.evalObject expr).run' world.memory

end World
end Interpose

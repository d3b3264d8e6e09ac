import Interpose.Collection
import Interpose.Source.Execution

/-! # Calls on decorated collections

Calling a method of a decorated collection. A forwarding method binds its arguments, runs the two
hooks and then calls the method of the wrapped collection with the same arguments. The operations
of the decoration are called directly, and so are methods that are not decorated, which do nothing.

The wrapped collection answers a call with an object of its own, which can also be awaited;
clearing it answers nothing, and going through it yields its elements.
-/
namespace Interpose

set_option autoImplicit false

inductive Answer where
  | nothing
  | object
  | awaited
  | elements (es : List Element)
  | truth (b : Bool)
  deriving DecidableEq, Repr

def elementOf : Value → Element
  | .object label => label
  | v => v.text

namespace CallArgument

/-- What an argument contributes to a call, in the bindings of a method's parameters. -/
def evaluate (bindings : Bindings Value) : CallArgument → Option (Call Value)
  | .positional name =>
    match bindings.lookup name with
    | some (.one v) => some ⟨[v], []⟩
    | _ => none
  | .spread name =>
    match bindings.lookup name with
    | some (.rest vs) => some ⟨vs, []⟩
    | _ => none
  | .keyword name =>
    match bindings.lookup name with
    | some (.one v) => some ⟨[], [(name, v)]⟩
    | _ => none
  | .spreadKeywords name =>
    match bindings.lookup name with
    | some (.extra entries) => some ⟨[], entries⟩
    | _ => none

def evaluateAll (bindings : Bindings Value) : List CallArgument → Option (Call Value)
  | [] => some ⟨[], []⟩
  | a :: rest => do
    let first ← a.evaluate bindings
    let others ← evaluateAll bindings rest
    return ⟨first.positional ++ others.positional, first.keywords ++ others.keywords⟩

end CallArgument

namespace Collection

def callWrapped (method : String) (call : Call Value) : Operation Answer := do
  if method = "clear" then
    if !call.positional.isEmpty || !call.keywords.isEmpty then throw .argumentMismatch
    clear
    return .nothing
  else if method = "__iter__" then
    if !call.positional.isEmpty || !call.keywords.isEmpty then throw .argumentMismatch
    return .elements (← get).content
  else
    let isAdder := (← get).adders.contains method
    if ["append", "add"].contains method && !isAdder then throw (.missingAttribute method)
    record (.called method call)
    match isAdder, call.positional with
    | true, v :: _ => modify fun c => { c with content := c.content ++ [elementOf v] }
    | _, _ => pure ()
    return .object

/-- Awaits what a call yields; only the answer object can be awaited. -/
def await : Answer → Operation Answer
  | .object => pure .awaited
  | _ => throw .notAwaitable

/-- The two hooks that run before every delegated call. -/
def runHooks (load : Operation Unit) : Operation Unit := do
  ensureLoaded load
  let needs ← needsScheduling
  if needs.isTruthy then changed

def callDecorated (load : Operation Unit) (m : DecoratedMethod) (call : Call Value) :
    Operation Answer := do
  match Formal.bind m.formals { call with positional := .none :: call.positional } with
  | none => throw .argumentMismatch
  | some bindings =>
    runHooks load
    match CallArgument.evaluateAll bindings m.arguments with
    | none => throw .argumentMismatch
    | some delegated =>
      note (.delegated m.name delegated)
      let answer ← callWrapped m.name delegated
      let answer ← if m.isAsync then await answer else pure answer
      return if m.returnsResult then answer else .nothing

def operationParameters : List (String × List String) :=
  [("initialize", []), ("changed", []), ("needs_scheduling_for_synchronization", []),
   ("is_dirty", []), ("set_dirty", ["dirty"]), ("is_initialized", []),
   ("set_initialized", ["initialized"]), ("set_owner", ["document", "mapping"]),
   ("get_owner", []), ("get_mapping", []), ("take_snapshot", []), ("get_snapshot", []),
   ("clear_snapshot", []), ("get_insert_diff", []), ("get_delete_diff", []), ("unwrap", []),
   ("__init__", ["coll", "dm", "uow"])]

def mappingOf : Value → Option Mapping
  | .dict entries => some (entries.map fun (key, v) => ((key.asText?).getD key.text, v))
  | _ => none

/-- The truth value that an answer shows, if the value is one. -/
def truthOf : Value → Answer
  | .bool b => .truth b
  | _ => .nothing

def ownerOf : Value → Option Element
  | .none => none
  | v => some (elementOf v)

def callOperation (load : Operation Unit) (operation : String) (call : Call Value)
    (parameters : List String) : Operation Answer := do
  let formals : List (Formal Value) :=
    parameters.map fun name => ⟨name, .positionalOrKeyword, none⟩
  match Formal.bind formals call with
  | none => throw .argumentMismatch
  | some bindings =>
    match operation, bindings with
    | "initialize", _ => ensureLoaded load; return .nothing
    | "changed", _ => changed; return .nothing
    | "needs_scheduling_for_synchronization", _ => return truthOf (← needsScheduling)
    | "is_dirty", _ => return .truth (← get).hasChanged
    | "is_initialized", _ => return .truth (← get).isInitialized
    | "set_dirty", [(_, .one v)] => setDirty v.isTruthy; return .nothing
    | "set_initialized", [(_, .one v)] => setInitialized v.isTruthy; return .nothing
    | "set_owner", [(_, .one owner), (_, .one mapping)] =>
      setOwner (ownerOf owner) (mappingOf mapping)
      return .nothing
    | "take_snapshot", _ => takeSnapshot; return .nothing
    | "clear_snapshot", _ => clearSnapshot; return .nothing
    | _, _ => return .nothing

def formalsOf (parameters : List DeclaredParameter) : List (Formal Value) :=
  parameters.map fun p => ⟨p.name, p.kind, p.default⟩

def callIdle (parameters : List DeclaredParameter) (call : Call Value) : Operation Answer :=
  match Formal.bind (formalsOf parameters) call with
  | some _ => pure .nothing
  | none => throw .argumentMismatch

/-- Calls what the target stores under a name, for a collection of a class that descends from
it. -/
def callUndecorated (item : Attribute) (call : Call Value) : Operation Answer :=
  let bound : Call Value := { call with positional := .none :: call.positional }
  match item with
  | .function r | .classMethod r => callIdle r.parameters bound
  | .staticMethod r => callIdle r.parameters call
  | .native _ (some parameters) _ => callIdle parameters bound
  | .native _ none _ | .descriptor => pure .nothing
  | .property _ | .plain _ => throw .notCallable

def objectMethods : List (String × Nat) :=
  [("__repr__", 0), ("__str__", 0), ("__hash__", 0), ("__dir__", 0), ("__sizeof__", 0),
   ("__reduce__", 0), ("__getstate__", 0), ("__eq__", 1), ("__ne__", 1), ("__lt__", 1),
   ("__le__", 1), ("__gt__", 1), ("__ge__", 1)]

/-- Calls a method that all objects have. Those named here yield nothing that can be told apart. -/
def callInherited (method : String) (call : Call Value) : Operation Answer :=
  match objectMethods.lookup method with
  | none => throw (.missingAttribute method)
  | some count =>
    if call.positional.length = count && call.keywords.isEmpty then pure .nothing
    else throw .argumentMismatch

/-- Calls a method by name: of the class, of the decoration, of the target or of any object. -/
def callMethod (world : World) (c : Option DecoratedClass) (load : Operation Unit)
    (method : String) (call : Call Value) : Operation Answer := do
  match c.bind fun c => c.methods.find? fun m => m.name == method with
  | some m => callDecorated load m call
  | none =>
    match operationParameters.lookup method with
    | some parameters => callOperation load method call parameters
    | none =>
      if (supportNames ++ ["_coll"]).contains method then throw .notCallable
      match c.bind fun c => world.classAttribute? c.target method with
      | some (_, item) => callUndecorated item call
      | none => callInherited method call

end Collection
end Interpose

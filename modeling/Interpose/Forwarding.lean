import Interpose.Hint

/-! # Forwarding methods

For each method of a target that can be decorated, a method that runs the hooks of the decoration
and then calls the same method of the wrapped collection. Its declaration repeats the parameters,
with the marks that tell positional-only and keyword-only parameters apart; the delegated call
passes each argument the way its parameter takes it.
-/
namespace Interpose

set_option autoImplicit false

inductive SkipReason where
  | decorationSupport
  | constructor
  | final
  | static
  deriving DecidableEq, Repr

def SkipReason.text : SkipReason → String
  | .decorationSupport => "decoration support"
  | .constructor => "constructor"
  | .final => "final"
  | .static => "static"

/-- The names that the decoration support defines for every generated class. -/
def supportNames : List String :=
  ["__module__", "__doc__", "__annotations__", "__dict__", "__weakref__", "_dm", "_uow", "_owner",
   "_mapping", "_snapshot", "_is_dirty", "_initialized", "initialize", "changed",
   "needs_scheduling_for_synchronization", "is_dirty", "set_dirty", "is_initialized",
   "set_initialized", "set_owner", "get_owner", "get_mapping", "take_snapshot", "get_snapshot",
   "clear_snapshot", "get_insert_diff", "get_delete_diff", "unwrap"]

def Method.skipReason (m : Method) : Option SkipReason :=
  if supportNames.contains m.name then some .decorationSupport
  else if m.name = "__init__" ∨ m.name = "__new__" then some .constructor
  else if m.isFinal then some .final
  else if m.isStatic then some .static
  else none

/-! ## Declarations -/

/-- An item of a parameter list: the receiver, one of the two marks, or a parameter. -/
inductive DeclItem (α : Type) where
  | receiver
  | slash
  | star
  | parameter (p : α)
  deriving DecidableEq, Repr

namespace DeclItem

/-- The items for parameters. A slash follows the last positional-only parameter; a star stands
before the first keyword-only parameter, unless some parameter takes any number of positional
arguments. -/
def ofParameters (hasVariadic marked : Bool) : List Parameter → List (DeclItem Parameter)
  | [] => []
  | p :: ps =>
    let needsStar := p.kind = .keywordOnly && !hasVariadic && !marked
    let needsSlash := p.kind = .positionalOnly && !ps.any (·.kind = .positionalOnly)
    (if needsStar then [.star] else []) ++ [.parameter p] ++ (if needsSlash then [.slash] else [])
      ++ ofParameters hasVariadic (marked || needsStar) ps

end DeclItem

def declarationOf (parameters : List Parameter) : List (DeclItem Parameter) :=
  .receiver :: DeclItem.ofParameters (parameters.any (·.kind = .varPositional)) false parameters

structure WrittenParameter where
  name : String
  kind : ParameterKind
  hint : Option Rendered
  default : Option DefaultExpr
  deriving Repr

section Writing

variable {S : Type} {M : Type → Type} [NameSource S M] [Monad M] [MonadExceptOf Failure M]
  (names : S)

def WrittenParameter.of (m : Method) (p : Parameter) : M WrittenParameter := do
  let hint ← p.type.mapM (Hint.ofType names ⟨m, some p⟩ true)
  return ⟨p.name, p.kind, hint, p.default.map fun _ => DefaultExpr.of m p⟩

def DeclItem.write (m : Method) : DeclItem Parameter → M (DeclItem WrittenParameter)
  | .receiver => return .receiver
  | .slash => return .slash
  | .star => return .star
  | .parameter p => DeclItem.parameter <$> WrittenParameter.of names m p

def writtenDeclaration (m : Method) : M (List (DeclItem WrittenParameter)) :=
  (declarationOf m.parameters).mapM (DeclItem.write names m)

def Method.returnHint (m : Method) : M (Option Rendered) :=
  m.returns.mapM (Hint.ofType names ⟨m, none⟩ true)

end Writing

namespace WrittenParameter

def text (p : WrittenParameter) : String :=
  let mark := match p.kind with
    | .varPositional => "*"
    | .varKeyword => "**"
    | _ => ""
  let hint := match p.hint with
    | some hint => ": " ++ hint.text
    | none => ""
  let default := match p.default, p.hint with
    | none, _ => ""
    | some d, some _ => " = " ++ d.render.text
    | some d, none => "=" ++ d.render.text
  mark ++ p.name ++ hint ++ default

def modules (p : WrittenParameter) : List String :=
  (match p.hint with
    | some hint => hint.modules
    | none => [])
  ++ (match p.default with
    | some d => d.render.modules
    | none => [])

end WrittenParameter

def DeclItem.text : DeclItem WrittenParameter → String
  | .receiver => "self"
  | .slash => "/"
  | .star => "*"
  | .parameter p => p.text

def DeclItem.modules : DeclItem WrittenParameter → List String
  | .parameter p => p.modules
  | _ => []

def declarationText (items : List (DeclItem WrittenParameter)) : Rendered :=
  ⟨", ".intercalate (items.map DeclItem.text), items.flatMap DeclItem.modules⟩

/-! ## Delegated calls -/

inductive CallArgument where
  | positional (name : String)
  | spread (name : String)
  | keyword (name : String)
  | spreadKeywords (name : String)
  deriving DecidableEq, Repr

namespace CallArgument

def of (p : Parameter) : CallArgument :=
  match p.kind with
  | .varPositional => .spread p.name
  | .varKeyword => .spreadKeywords p.name
  | .keywordOnly => .keyword p.name
  | .positionalOnly | .positionalOrKeyword => .positional p.name

def text : CallArgument → String
  | .positional name => name
  | .spread name => "*" ++ name
  | .keyword name => name ++ "=" ++ name
  | .spreadKeywords name => "**" ++ name

end CallArgument

def callArguments (parameters : List Parameter) : List CallArgument :=
  parameters.map CallArgument.of

/-! ## Methods -/

structure ForwardingMethod where
  name : String
  isAsync : Bool
  declaration : List (DeclItem WrittenParameter)
  returnHint : Option Rendered
  arguments : List CallArgument
  deriving Repr

namespace ForwardingMethod

/-- The forwarding method for a method; its result is looked at before its parameters. -/
def of {S : Type} {M : Type → Type} [NameSource S M] [Monad M] [MonadExceptOf Failure M] (names : S)
    (m : Method) : M ForwardingMethod := do
  let returnHint ← m.returnHint names
  let declaration ← writtenDeclaration names m
  return ⟨m.name, m.isAsync, declaration, returnHint, callArguments m.parameters⟩

def returnsResult (f : ForwardingMethod) : Bool :=
  match f.returnHint with
  | some hint => !isNothing hint.text
  | none => true

def modules (f : ForwardingMethod) : List String :=
  (match f.returnHint with
    | some hint => hint.modules
    | none => [])
  ++ (declarationText f.declaration).modules

def lines (f : ForwardingMethod) : List String :=
  let result := match f.returnHint with
    | some hint => if hint.text = "" then "" else " -> " ++ hint.text
    | none => ""
  let call := "self._coll." ++ f.name ++ "(" ++ ", ".intercalate (f.arguments.map CallArgument.text)
    ++ ")"
  [(if f.isAsync then "    async def " else "    def ") ++ f.name ++ "("
      ++ (declarationText f.declaration).text ++ ")" ++ result ++ ":",
    "        self.initialize()",
    "        if self.needs_scheduling_for_synchronization():",
    "            self.changed()",
    "        " ++ (if f.returnsResult then "return " else "")
      ++ (if f.isAsync then "await " else "") ++ call]

/-- The text of the method, between line feeds. -/
def text (f : ForwardingMethod) : String :=
  "\n" ++ String.join (f.lines.map (· ++ "\n"))

end ForwardingMethod
end Interpose

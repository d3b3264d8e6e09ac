import Interpose.Signature
import Interpose.TargetName

/-! # Type hints

The text of types and default values in a generated module, with the modules that the text refers
to. A type hint is refused if a name in it leads to nothing. The text of a nullable type ends in an
alternative `None`, except at the top of a parameter whose default value is not `None`.
-/
namespace Interpose

set_option autoImplicit false

/-- A text of generated source and the modules that its qualified names need. -/
structure Rendered where
  text : String
  modules : List String
  deriving DecidableEq, Repr

/-- Where a type hint stands: at a method, and at a parameter unless it is that of the result. -/
structure HintSite where
  method : Method
  parameter : Option Parameter
  deriving Repr

namespace HintSite

def invalid (site : HintSite) : Failure :=
  let className := site.method.declaring.qualifiedName
  match site.parameter with
  | some p => .invalidParameterHint className site.method.name p.name
  | none => .invalidReturnHint className site.method.name

/-- Whether the mark of a nullable type is left out, at the top of a hint or below. -/
def hidesNullable (site : HintSite) (top : Bool) : Bool :=
  match site.parameter with
  | some p => top && p.hasValue
  | none => false

def mark (site : HintSite) (top isNullable : Bool) (text : String) : String :=
  if isNullable && !site.hidesNullable top then text ++ " | None" else text

/-- What a named type refers to: the relative names refer to the declaring class and its parent. -/
def resolve (site : HintSite) (t : NamedType) : Except Failure NamedType :=
  if t.name = "self" then .ok site.method.declaring
  else if t.name = "parent" then
    match site.method.parent with
    | some parent => .ok parent
    | none =>
      .error (.parentRequired site.method.declaring.qualifiedName site.method.name)
  else .ok t

end HintSite

def NamedType.qualified (t : NamedType) : Rendered :=
  ⟨t.qualifiedName, t.module.toList⟩

namespace Hint

variable {S : Type} {m : Type → Type} [NameSource S m] [Monad m] [MonadExceptOf Failure m]
  (names : S) (site : HintSite)

/-- The name that stands for a named type, without the mark of a nullable type. -/
def nameOf (t : NamedType) : m Rendered := do
  let resolved ← MonadExcept.ofExcept (site.resolve t)
  if t.name = "static" then return ⟨"Self", []⟩
  else if resolved.isBuiltin then return ⟨resolved.name, []⟩
  else if ← NameSource.typeExists names resolved.module resolved.name then
    return resolved.qualified
  else throw site.invalid

/-- Where asking for a name has no effects, a name that leads to nothing is refused. -/
theorem nameOf_eq [NameSource S (Except Failure)] (names : S) (site : HintSite) (t : NamedType) :
    nameOf names site t = site.resolve t >>= fun resolved =>
      if t.name = "static" then .ok ⟨"Self", []⟩
      else if resolved.isBuiltin then .ok ⟨resolved.name, []⟩
      else NameSource.typeExists names resolved.module resolved.name >>= fun found =>
        if found then .ok resolved.qualified else .error site.invalid := by
  unfold nameOf
  cases site.resolve t <;> rfl

theorem nameOf_world (world : World) (site : HintSite) (t : NamedType) :
    nameOf world site t = site.resolve t >>= fun resolved =>
      if t.name = "static" then .ok ⟨"Self", []⟩
      else if resolved.isBuiltin then .ok ⟨resolved.name, []⟩
      else world.typeExists resolved.module resolved.name >>= fun found =>
        if found then .ok resolved.qualified else .error site.invalid :=
  nameOf_eq world site t

def ofNamed (top : Bool) (t : NamedType) : m Rendered := do
  let name ← nameOf names site t
  if name.text = "Any" then return name
  else return { name with text := site.mark top t.isNullable name.text }

def separated (separator : String) (parts : List Rendered) : Rendered :=
  ⟨separator.intercalate (parts.map Rendered.text), parts.flatMap Rendered.modules⟩

mutual

/-- The hint of a type at a site, at its top or below. -/
def ofType (top : Bool) : TypeExpr → m Rendered
  | .named t => ofNamed names site top t
  | .union members => do
    let parts ← ofTypes top members
    return separated " | " parts
  | .intersection members => do
    let parts ← ofTypes top members
    return separated " & " parts
  | .generic origin arguments isNullable => do
    let name ← ofNamed names site false origin
    let parts ← ofTypes false arguments
    let inner := separated ", " parts
    return ⟨site.mark top isNullable (name.text ++ "[" ++ inner.text ++ "]"),
      name.modules ++ inner.modules⟩
  | .list items => do
    let parts ← ofTypes false items
    let inner := separated ", " parts
    return { inner with text := "[" ++ inner.text ++ "]" }
  | .literal v => return ⟨v.text, []⟩

def ofTypes (top : Bool) : List TypeExpr → m (List Rendered)
  | [] => return []
  | t :: ts => do
    let part ← ofType top t
    let parts ← ofTypes top ts
    return part :: parts

end

end Hint

/-- A default value as it is written: as a literal, or as a look-up of the default that a class
declares for the parameter of a method. -/
inductive DefaultExpr where
  | literal (v : Value)
  | declared (owner : NamedType) (method parameter : String)
  deriving Repr

namespace DefaultExpr

def of (m : Method) (p : Parameter) : DefaultExpr :=
  let v := p.default.getD .none
  if v.isLiteral then .literal v else .declared m.declaring m.name p.name

def render : DefaultExpr → Rendered
  | .literal v => ⟨v.text, []⟩
  | .declared owner method parameter =>
    ⟨"original_default(" ++ owner.qualifiedName ++ ", " ++ Text.quote method ++ ", "
      ++ Text.quote parameter ++ ")", owner.module.toList⟩

end DefaultExpr

/-- The results of methods that never carry a value back. -/
def nothingHints : List String := ["None", "NoReturn", "Never"]

def isNothing (text : String) : Bool :=
  nothingHints.contains text

end Interpose

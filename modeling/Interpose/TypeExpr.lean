import Interpose.Value.Basic

/-! # Type expressions

The types of parameters and results, independent of how they were annotated. A named type without
a module that is not builtin could not be resolved, or is one of three relative names whose
meaning depends on the class that a method belongs to.
-/
namespace Interpose

set_option autoImplicit false

structure NamedType where
  name : String
  module : Option String := none
  isBuiltin : Bool := false
  isNullable : Bool := false
  deriving DecidableEq, Repr

inductive TypeExpr where
  | named (t : NamedType)
  | union (members : List TypeExpr)
  | intersection (members : List TypeExpr)
  | generic (origin : NamedType) (arguments : List TypeExpr) (isNullable : Bool)
  | list (items : List TypeExpr)
  | literal (v : Value)
  deriving Repr, Inhabited

namespace NamedType

def qualifiedName (t : NamedType) : String :=
  match t.module with
  | some module => module ++ "." ++ t.name
  | none => t.name

/-- A type that generated modules can name without an import. -/
def builtin (name : String) : NamedType := { name, isBuiltin := true }

def unresolved (name : String) : NamedType := { name }

def none : NamedType := builtin "None"

def any : NamedType := builtin "Any"

/-- The type of a class, under its own name and module. -/
def ofClass (c : ClassRef) : NamedType :=
  if c = ClassRef.noneClass then none
  else if c.module = "builtins" then builtin c.qualname
  else { name := c.qualname, module := some c.module }

end NamedType

/-- The names that stand for the declaring class, its parent, and the class of the receiver. -/
def relativeNames : List String := ["self", "parent", "static"]

namespace TypeExpr

def isNone : TypeExpr → Bool
  | .named t => t = NamedType.none
  | _ => false

/-- The union of some types: with `None`, a single type that can carry the mark is nullable, and
a union of one type is that type. -/
def unite (members : List TypeExpr) : TypeExpr :=
  match members with
  | [member] => member
  | [a, b] =>
    match [a, b].filter (!·.isNone) with
    | [.named t] => .named { t with isNullable := true }
    | [.generic origin arguments _] => .generic origin arguments true
    | _ => .union members
  | _ => .union members

end TypeExpr
end Interpose

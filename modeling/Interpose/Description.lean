import Interpose.Signature
import Interpose.World.Basic

/-! # Descriptions

A target as plain data: dictionaries whose keys are the names of the parts, in a fixed order. An
enumeration that is a default value is described by its members.
-/
namespace Interpose

set_option autoImplicit false

/-- The members of an enumeration, without the other names that they have. -/
def World.enumerationMembers (world : World) (c : ClassRef) : List Value :=
  (world.attributes c).filterMap fun
    | (name, .plain (.value (.member owner base label v))) =>
      if label = name then some (.member owner base label v) else none
    | _ => none

namespace Value

mutual

/-- The value with every enumeration replaced by its members. -/
def expand (world : World) : Value → Value
  | .cls c =>
    if (world.resolution c).contains ClassRef.enumClass then .list (world.enumerationMembers c)
    else .cls c
  | .tuple items => .tuple (expandAll world items)
  | .tupleSub items => .tupleSub (expandAll world items)
  | .list items => .list (expandAll world items)
  | .set items => .set (expandAll world items)
  | .frozenset items => .frozenset (expandAll world items)
  | .dict entries => .dict (expandEntries world entries)
  | v => v

def expandAll (world : World) : List Value → List Value
  | [] => []
  | v :: vs => expand world v :: expandAll world vs

def expandEntries (world : World) : List (Value × Value) → List (Value × Value)
  | [] => []
  | (key, v) :: rest => (key, expand world v) :: expandEntries world rest

end

def ofOption {α : Type} (describe : α → Value) : Option α → Value
  | some a => describe a
  | Option.none => .none

end Value

def NamedType.describe (t : NamedType) : Value :=
  .ofFields [("name", .str t.name), ("module", .ofOption .str t.module),
    ("builtin", .bool t.isBuiltin), ("nullable", .bool t.isNullable)]

namespace TypeExpr

mutual

def describe (world : World) : TypeExpr → Value
  | .named t => t.describe
  | .union members | .intersection members =>
    .ofFields [("members", .list (describeAll world members))]
  | .generic origin arguments isNullable =>
    .ofFields [("origin", origin.describe), ("arguments", .list (describeAll world arguments)),
      ("nullable", .bool isNullable)]
  | .list items => .ofFields [("items", .list (describeAll world items))]
  | .literal v => .ofFields [("value", v.expand world)]

def describeAll (world : World) : List TypeExpr → List Value
  | [] => []
  | t :: ts => describe world t :: describeAll world ts

end

end TypeExpr

def Parameter.describe (world : World) (p : Parameter) : Value :=
  .ofFields [("name", .str p.name), ("kind", .str p.kind.text),
    ("type", .ofOption (TypeExpr.describe world) p.type), ("has_default", .bool p.default.isSome),
    ("default", .ofOption (Value.expand world) p.default)]

def Method.describe (world : World) (m : Method) : Value :=
  .ofFields [("name", .str m.name), ("parameters", .list (m.parameters.map (·.describe world))),
    ("return_type", .ofOption (TypeExpr.describe world) m.returns),
    ("declaring", m.declaring.describe), ("parent", .ofOption NamedType.describe m.parent),
    ("is_final", .bool m.isFinal), ("is_static", .bool m.isStatic), ("is_async", .bool m.isAsync)]

def Target.describe (world : World) (t : Target) : Value :=
  .ofFields [("module", .str t.module), ("name", .str t.name),
    ("methods", .list (t.methods.map (·.describe world)))]

end Interpose

import Interpose.Decimal.Binary64
import Interpose.Text.CodePoint

/-! # Values

The values that a class under study can hold: default values, enumeration members, arguments of
literal types and the mappings that a collection is given. A class is a value too. Instances of
subclasses of the number, text and tuple types are told apart from the exact types, since only
the exact types have a literal notation.
-/
namespace Interpose

set_option autoImplicit false

/-- A class, under its own module and qualified name. Classes that share both are told apart by
their serial number, which is zero for the classes of the library. Enumerations are shown in a way
of their own. -/
structure ClassRef where
  module : String
  qualname : String
  serial : Nat := 0
  isEnumeration : Bool := false
  deriving DecidableEq, Repr

/-- What the members of an enumeration are besides members. -/
inductive EnumBase where
  | plain
  | whole
  | text
  deriving DecidableEq, Repr

inductive Value where
  | none
  | bool (b : Bool)
  | int (n : Int)
  | float (x : Decimal.Binary64)
  | complex (text : String)
  | str (s : String)
  /-- A text that no `String` can be, for it holds halves of surrogate pairs. -/
  | brokenStr (t : Text.BrokenText)
  | bytes (content : List UInt8)
  | tuple (items : List Value)
  | list (items : List Value)
  | set (items : List Value)
  | frozenset (items : List Value)
  | dict (entries : List (Value × Value))
  | ellipsis
  /-- An object that has nothing but its identity. -/
  | object (label : String)
  | cls (c : ClassRef)
  | member (owner : ClassRef) (base : EnumBase) (name : String) (value : Value)
  | intSub (n : Int)
  | floatSub (x : Decimal.Binary64)
  | strSub (s : String)
  | tupleSub (items : List Value)
  deriving Repr, Inhabited

namespace ClassRef

/-- The name of a class within the class or module that holds it. -/
def name (c : ClassRef) : String :=
  String.ofList (c.qualname.toList.reverse.takeWhile (· != '.')).reverse

def fullName (c : ClassRef) : String :=
  c.module ++ "." ++ c.qualname

def builtin (name : String) : ClassRef := ⟨"builtins", name, 0, false⟩

def objectClass : ClassRef := builtin "object"

def anyClass : ClassRef := ⟨"typing", "Any", 0, false⟩

/-- The class that marks a class as generic. -/
def genericClass : ClassRef := ⟨"typing", "Generic", 0, false⟩

def enumClass : ClassRef := ⟨"enum", "Enum", 0, true⟩

def noneClass : ClassRef := builtin "NoneType"

end ClassRef

namespace Value

def ofCodePoints (points : List Text.CodePoint) : Value :=
  if h : points.any Text.CodePoint.isSurrogate = true then .brokenStr ⟨points, h⟩
  else .str (String.ofList (points.filterMap Text.CodePoint.char?))

def ofFields (fields : List (String × Value)) : Value :=
  .dict (fields.map fun field => (.str field.1, field.2))

def field? (name : String) : Value → Option Value
  | .dict entries => entries.findSome? fun
    | (.str key, v) => if key = name then some v else Option.none
    | _ => Option.none
  | _ => Option.none

/-- The text of a value that is a text, of whatever class. -/
def asText? : Value → Option String
  | .str s | .strSub s => some s
  | .member _ .text _ (.str s) => some s
  | _ => Option.none

def asInt? : Value → Option Int
  | .int n | .intSub n => some n
  | .bool b => some (if b then 1 else 0)
  | .member _ .whole _ (.int n) => some n
  | _ => Option.none

def isTruthy : Value → Bool
  | .none => false
  | .bool b => b
  | .int n | .intSub n => n != 0
  | .float x | .floatSub x => x.isTruthy
  | .complex text => text.toList.any fun c => '1' ≤ c && c ≤ '9' || c == 'n'
  | .str s | .strSub s => s != ""
  | .bytes content => !content.isEmpty
  | .tuple items | .tupleSub items | .list items | .set items | .frozenset items => !items.isEmpty
  | .dict entries => !entries.isEmpty
  | .member _ .whole _ (.int n) => n != 0
  | .member _ .text _ (.str s) => s != ""
  | .brokenStr _ | .ellipsis | .object _ | .cls _ | .member .. => true

mutual

/-- Whether a value can be a key of a dictionary: it holds no list, set or dictionary. -/
def isHashable : Value → Bool
  | .list _ | .set _ | .dict _ => false
  | .tuple items | .tupleSub items | .frozenset items => areHashable items
  | _ => true

def areHashable : List Value → Bool
  | [] => true
  | v :: vs => isHashable v && areHashable vs

end

mutual

/-- Whether a value has a literal notation that reads back to it: the scalars of the exact types,
the finite floating-point numbers, and tuples and frozen sets of such values. -/
def isLiteral : Value → Bool
  | .none | .bool _ | .int _ | .str _ | .brokenStr _ | .bytes _ => true
  | .float x | .floatSub x => x.isFinite
  | .tuple items | .frozenset items => areLiteral items
  | _ => false

def areLiteral : List Value → Bool
  | [] => true
  | v :: vs => isLiteral v && areLiteral vs

end

end Value
end Interpose

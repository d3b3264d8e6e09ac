import Interpose.TypeExpr
import Interpose.World.Object

/-! # Signatures

The methods of a class as a generator sees them: parameters without the receiver, types as type
expressions, and the class that declares each method.
-/
namespace Interpose

set_option autoImplicit false

structure Parameter where
  name : String
  kind : ParameterKind
  type : Option TypeExpr := none
  default : Option Value := none
  deriving Repr

/-- A method, with the class that declares it and the first base of that class. -/
structure Method where
  name : String
  declaring : NamedType
  parent : Option NamedType := none
  parameters : List Parameter := []
  returns : Option TypeExpr := none
  isFinal : Bool := false
  isStatic : Bool := false
  isAsync : Bool := false
  deriving Repr

/-- A class whose methods are to be decorated. -/
structure Target where
  module : String
  name : String
  methods : List Method
  deriving Repr

namespace ParameterKind

def text : ParameterKind → String
  | .positionalOnly => "positional_only"
  | .positionalOrKeyword => "positional_or_keyword"
  | .varPositional => "var_positional"
  | .keywordOnly => "keyword_only"
  | .varKeyword => "var_keyword"

/-- Whether the parameter takes any number of arguments. -/
def isVariadic : ParameterKind → Bool
  | .varPositional | .varKeyword => true
  | _ => false

/-- Whether the parameter takes one argument by position. -/
def isPositional : ParameterKind → Bool
  | .positionalOnly | .positionalOrKeyword => true
  | _ => false

end ParameterKind

namespace Parameter

/-- Whether a missing argument is replaced by something other than `None`. -/
def hasValue (p : Parameter) : Bool :=
  match p.default with
  | none | some .none => false
  | some _ => true

end Parameter

def Target.fullName (t : Target) : String :=
  t.module ++ "." ++ t.name

end Interpose

import Interpose.Decimal.Shortest
import Interpose.Text.Quoted
import Interpose.Value.Basic

/-! # The text of a value

How a value is written in generated source and in messages. Where a literal notation exists, the
text is that literal.
-/
namespace Interpose

set_option autoImplicit false

def ClassRef.text (c : ClassRef) : String :=
  if c = ClassRef.anyClass then "typing.Any"
  else if c.isEnumeration then "<enum '" ++ c.name ++ "'>"
  else if c.module = "builtins" then "<class '" ++ c.qualname ++ "'>"
  else "<class '" ++ c.fullName ++ "'>"

namespace Value

def commaSeparated (items : List String) : String :=
  ", ".intercalate items

/-- The items of a tuple in parentheses; a single one keeps its comma. -/
def tupleText : List String → String
  | [item] => "(" ++ item ++ ",)"
  | items => "(" ++ commaSeparated items ++ ")"

def setText : List String → String
  | [] => "set()"
  | items => "\x7b" ++ commaSeparated items ++ "\x7d"

def frozensetText : List String → String
  | [] => "frozenset()"
  | items => "frozenset(\x7b" ++ commaSeparated items ++ "\x7d)"

mutual

def text : Value → String
  | .none => "None"
  | .bool b => if b then "True" else "False"
  | .int n | .intSub n => n.repr
  | .float x | .floatSub x => x.text
  | .complex t => t
  | .str s | .strSub s => Text.quote s
  | .brokenStr t => Text.quoteBroken t
  | .bytes content => Text.quoteBytes content
  | .tuple items | .tupleSub items => tupleText (texts items)
  | .list items => "[" ++ commaSeparated (texts items) ++ "]"
  | .set items => setText (texts items)
  | .frozenset items => frozensetText (texts items)
  | .dict entries => "\x7b" ++ commaSeparated (entryTexts entries) ++ "\x7d"
  | .ellipsis => "Ellipsis"
  | .object label => "<" ++ label ++ ">"
  | .cls c => c.text
  | .member owner _ name value => "<" ++ owner.name ++ "." ++ name ++ ": " ++ text value ++ ">"

def texts : List Value → List String
  | [] => []
  | v :: vs => text v :: texts vs

def entryTexts : List (Value × Value) → List String
  | [] => []
  | (key, value) :: rest => (text key ++ ": " ++ text value) :: entryTexts rest

end

end Value
end Interpose

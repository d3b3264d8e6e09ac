import Interpose.Failure

/-! # Generation policies

When a class is generated: never, always, only if its file is missing, or in memory only.
-/
namespace Interpose

set_option autoImplicit false

inductive Policy where
  | never
  | always
  | ifMissing
  | ephemeral
  deriving DecidableEq, Repr

namespace Policy

def text : Policy → String
  | .never => "never"
  | .always => "always"
  | .ifMissing => "if_missing"
  | .ephemeral => "ephemeral"

def ofText? (s : String) : Option Policy :=
  [never, always, ifMissing, ephemeral].find? fun p => p.text == s

/-- The policy that a value names: only a text names one. -/
def ofValue (v : Value) : Except Failure Policy :=
  match v.asText?.bind ofText? with
  | some policy => .ok policy
  | none => .error (.unknownPolicy v.text)

end Policy
end Interpose

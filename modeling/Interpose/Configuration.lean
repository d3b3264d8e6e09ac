import Interpose.Generator
import Interpose.JsonText.Reader

/-! # Configurations

A configuration says where generated classes live and when they are generated. It is written as a
JSON object, in which every part may be missing and unknown parts are ignored. The directory and the
namespace are texts: any other value but a missing one counts as its text. A part that is given as
`null` has no value at all.
-/
namespace Interpose

set_option autoImplicit false

/-- Where generated classes live, and when they are generated. -/
structure Configuration where
  directory : Option String := some ""
  namespaceName : Option String := some ""
  policy : Option Policy := some .always
  deriving DecidableEq, Repr

namespace Configuration

def textOf : Value → Option String
  | .none => none
  | .str s => some s
  | v => some v.text

def policyOf : Value → Except Failure (Option Policy)
  | .none => .ok none
  | v => (Policy.ofValue v).map some

def ofValue (v : Value) : Except Failure Configuration := do
  let .dict _ := v | throw .unusableConfiguration
  let default : Configuration := {}
  let policy ← match v.field? "autogenerate" with
    | none => pure default.policy
    | some part => policyOf part
  return {
    directory := (v.field? "collection_dir").elim default.directory textOf
    namespaceName := (v.field? "collection_namespace").elim default.namespaceName textOf
    policy }

def ofText (text : String) : Except Failure Configuration := do
  ofValue (← JsonText.read text)

def generator (c : Configuration) (registry : String) : Generator :=
  ⟨c.directory.getD "", c.namespaceName.getD "", registry⟩

/-- Makes the class for a target available as the configuration says. -/
def load (c : Configuration) (world : World) (registry : String) (target : TargetRef) :
    Action String :=
  (c.generator registry).load world target (c.policy.elim .none fun policy => .str policy.text)

end Configuration
end Interpose

import Interpose.World.Equality

/-! # What the typing module remembers

A subscript that the typing module has answered before gets the same answer again. What counts as
the same subscript is decided by equality, so a type can come back with the members of its unions in
the order of an earlier, equal type. Subscripts with arguments that cannot be keys are not
remembered.
-/
namespace Interpose

set_option autoImplicit false

/-- A subscript: what stands before the brackets, and what stands in them. A single argument differs
from a tuple of one argument. Some subscripts also tell apart equal arguments of different types. -/
structure Subscript where
  subject : Object
  arguments : List Object
  isTuple : Bool
  isExact : Bool
  deriving Repr

namespace Subscript

/-- Whether two subscripts are the same to the typing module. -/
def isSame (s t : Subscript) : Bool :=
  s.isTuple == t.isTuple && s.isExact == t.isExact && s.subject.equal t.subject
    && Object.allEqual s.arguments t.arguments
    && (!s.isExact || (s.arguments.zip t.arguments).all fun (a, b) => a.sameType b)

def isHashable (s : Subscript) : Bool :=
  s.subject.isHashable && Object.areHashable s.arguments

end Subscript

/-- The subscripts answered so far, with their answers. -/
abbrev Memory := List (Subscript × Object)

/-- The evaluation of annotations: it can fail, and it adds to what the typing module remembers. -/
abbrev Evaluation (α : Type) := StateT Memory Option α

def Memory.answer (s : Subscript) (answer : Evaluation Object) : Evaluation Object := do
  if s.isHashable then
    match (← get).find? fun entry => s.isSame entry.1 with
    | some entry => return entry.2
    | none =>
      let object ← answer
      modify fun memory => memory ++ [(s, object)]
      return object
  else answer

end Interpose

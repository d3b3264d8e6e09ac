import Interpose.Value.Equality
import Interpose.World.Object

/-! # Equality of objects

Unions are equal if they have the same members in any order, and so are literal types, whose values
also have to be of the same exact type. Other types are equal if their parts are. Type variables,
new types and classes are equal only to themselves.
-/
namespace Interpose

set_option autoImplicit false

namespace Object

mutual

def equal : Object → Object → Bool
  | .value a, .value b => a.equal b
  | .typeVariable a, .typeVariable b => a == b
  | .variablePart a k, .variablePart b l => a == b && k == l
  | .special a, .special b => a == b
  | .alias a _, .alias b _ => a == b
  | .newType _ _ m _, .newType _ _ n _ => m == n
  | .module a, .module b => a == b
  | .routine a, .routine b => a == b
  | .forward a, .forward b => a == b
  | .literal a, .literal b =>
    let within (xs ys : List Value) :=
      xs.all fun x => ys.any fun y => x.equal y && x.sameType y
    within a b && within b a
  | .annotated a m, .annotated b n => equal a b && allEqual m n
  | .generic s a xs, .generic t b ys => s == t && equal a b && allEqual xs ys
  | .union _ xs, .union _ ys => xs.length == ys.length && allWithin xs ys
  | .list xs, .list ys => allEqual xs ys
  | .tuple xs, .tuple ys => allEqual xs ys
  | _, _ => false

def allEqual : List Object → List Object → Bool
  | [], [] => true
  | x :: xs, y :: ys => equal x y && allEqual xs ys
  | _, _ => false

def allWithin : List Object → List Object → Bool
  | [], _ => true
  | x :: xs, ys => ys.any (equal x ·) && allWithin xs ys

end

mutual

/-- Whether an object can be a key of a dictionary: it holds no list. -/
def isHashable : Object → Bool
  | .value v => v.isHashable
  | .union _ members => areHashable members
  | .literal values => Value.areHashable values
  | .annotated base notes => isHashable base && areHashable notes
  | .generic _ origin arguments => isHashable origin && areHashable arguments
  | .list _ => false
  | .tuple items => areHashable items
  | _ => true

def areHashable : List Object → Bool
  | [] => true
  | object :: objects => isHashable object && areHashable objects

end

def sameType : Object → Object → Bool
  | .value v, .value w => v.sameType w
  | .union s _, .union t _ => s == t
  | _, _ => true

/-- The objects without those that are equal to an earlier one. -/
def distinct (objects : List Object) : List Object :=
  objects.foldl
    (fun kept object => if kept.any (equal · object) then kept else kept ++ [object]) []

end Object
end Interpose

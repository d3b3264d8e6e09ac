import Interpose.Value.Basic

/-! # Equality of values

Two notions. `Value.equal` is the equality that the values themselves define: numbers are compared
by value whatever their types, texts and tuples regardless of subclasses, objects by identity.
`Value.sameType` says whether two values have the same exact type.
-/
namespace Interpose

set_option autoImplicit false

def Decimal.Binary64.isInt (x : Decimal.Binary64) (n : Int) : Bool :=
  match x with
  | .finite negative magnitude =>
    let units := magnitudeUnits magnitude.val
    units == n.natAbs * 2 ^ 1074 && (n == 0 || negative == decide (n < 0))
  | _ => false

namespace Value

def asFloat? : Value → Option Decimal.Binary64
  | .float x | .floatSub x => some x
  | _ => Option.none

/-- Equality of scalars, which decides by number, then by text, then by identity. -/
def scalarEqual (a b : Value) : Bool :=
  match a.asInt?, b.asInt?, a.asFloat?, b.asFloat? with
  | some m, some n, _, _ => m == n
  | some n, Option.none, Option.none, some x => x.isInt n
  | Option.none, some n, some x, Option.none => x.isInt n
  | Option.none, Option.none, some x, some y => x.equal y
  | _, _, _, _ =>
    match a.asText?, b.asText? with
    | some s, some t => s == t
    | some _, Option.none | Option.none, some _ => false
    | Option.none, Option.none =>
      match a, b with
      | .none, .none | .ellipsis, .ellipsis => true
      | .complex s, .complex t => s == t
      | .brokenStr s, .brokenStr t => s == t
      | .bytes s, .bytes t => s == t
      | .object s, .object t => s == t
      | .cls c, .cls d => c == d
      | .member c _ m _, .member d _ n _ => c == d && m == n
      | _, _ => false

mutual

def equal : Value → Value → Bool
  | .tuple xs, .tuple ys | .tuple xs, .tupleSub ys
  | .tupleSub xs, .tuple ys | .tupleSub xs, .tupleSub ys => allEqual xs ys
  | .list xs, .list ys => allEqual xs ys
  | .set xs, .set ys | .set xs, .frozenset ys
  | .frozenset xs, .set ys | .frozenset xs, .frozenset ys => allEqual xs ys
  | .dict xs, .dict ys => xs.length == ys.length && entriesIn xs ys
  | a, b => scalarEqual a b

def allEqual : List Value → List Value → Bool
  | [], [] => true
  | x :: xs, y :: ys => equal x y && allEqual xs ys
  | _, _ => false

/-- Whether each entry has an equal one among the others. -/
def entriesIn : List (Value × Value) → List (Value × Value) → Bool
  | [], _ => true
  | (k, v) :: rest, others =>
    (others.any fun entry => equal k entry.1 && equal v entry.2) && entriesIn rest others

end

def sameType : Value → Value → Bool
  | .member c _ _ _, .member d _ _ _ => c == d
  | a, b => a.ctorIdx == b.ctorIdx

end Value
end Interpose

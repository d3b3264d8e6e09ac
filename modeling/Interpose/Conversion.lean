import Interpose.HintText.Size
import Interpose.TypeExpr
import Interpose.World.Reading

/-! # Conversion of annotations

An annotation is an object or a text, and a text is read first. Both are converted to the same type
expressions. A name in a text means whatever the namespace of its module binds, which can again be
a text, so a conversion can lead back to where it started; such a conversion fails. The conversion
ends because each text is longer than the texts quoted in it, and because a place that stores a
text is visited at most once on the way to any of its results.
-/
namespace Interpose

set_option autoImplicit false

/-- What the names in a text mean: the object that a dotted name leads to, whether a type variable
can be referred to by name, and the places that the objects are stored at. -/
structure Namespace where
  find : String → Option Found
  isBound : TypeVariable → Bool
  places : List Place

namespace World

/-- Whether the module of a type variable binds the variable to its own name. -/
def bindsVariable (world : World) (v : TypeVariable) : Bool :=
  match world.read? (.module v.module) v.name with
  | some ⟨.typeVariable w, _⟩ => v == w
  | _ => false

def namespaceOf (world : World) (module : String) : Namespace where
  find := world.dottedIn? module
  isBound := world.bindsVariable
  places := world.places

end World

namespace Conversion

open HintText (Node literalSize)

def typingName (name : String) : NamedType := { name, module := some "typing" }

def specialType : String → NamedType
  | "Self" => .unresolved "static"
  | "NoReturn" => .builtin "NoReturn"
  | "Never" => .builtin "Never"
  | name => typingName name

/-- The type of a class. The class that marks classes as generic is its own origin, without end. -/
def classType (c : ClassRef) : Except Failure TypeExpr :=
  if c = ClassRef.anyClass then .ok (.named .any)
  else if c = ClassRef.genericClass then .error .endlessHint
  else .ok (.named (.ofClass c))

/-- The type of a type variable: its name, or any type if it has no name that can be used. -/
def variableType (ns : Namespace) (v : TypeVariable) : NamedType :=
  if ns.isBound v then { name := v.name, module := some v.module } else .any

def variablePartType (ns : Namespace) (v : TypeVariable) (keyword : Bool) : NamedType :=
  let origin := variableType ns v
  match origin.module with
  | none => origin
  | some _ => { origin with name := origin.name ++ (if keyword then ".kwargs" else ".args") }

def literalType (values : List Value) : TypeExpr :=
  .generic (typingName "Literal") (values.map .literal) false

def literalValues? (nodes : List (Node Value)) : Option (List Value) :=
  nodes.mapM fun
    | .literal v => some v
    | _ => none

/-- What a subscript makes of the name before its bracket. -/
inductive SubscriptForm where
  | optional
  | union
  | literal
  | annotated
  | ordinary
  deriving DecidableEq, Repr

def subscriptForm (object : Option Object) (count : Nat) : SubscriptForm :=
  match object with
  | some (.special "Optional") => if count = 1 then .optional else .ordinary
  | some (.special "Union") => .union
  | some (.special "Literal") => .literal
  | some (.value (.cls ⟨"typing", "Annotated", 0, false⟩)) => .annotated
  | _ => .ordinary

/-- The origin of a generic type whose subscripted name has the given type. -/
def originOf (text : String) : TypeExpr → Except Failure NamedType
  | .named t => .ok t
  | .generic origin _ _ => .ok origin
  | _ => .error (.unsupportedGeneric text)

/-- A step to a part of what is converted: no longer to read, and smaller. -/
theorem lt_of_part {n a b c d : Nat} (h : a ≤ c) (h' : b < d) :
    Prod.Lex (· < ·) (Prod.Lex (· < ·) (· < ·)) (n, a, b) (n, c, d) := by
  rcases Nat.lt_or_eq_of_le h with h | rfl
  · exact .right _ (.left _ _ h)
  · exact .right _ (.right _ h')

theorem lt_of_shorter {n a b c d : Nat} (h : a < c) :
    Prod.Lex (· < ·) (Prod.Lex (· < ·) (· < ·)) (n, a, b) (n, c, d) :=
  .right _ (.left _ _ h)

theorem lt_of_visit {places : List Place} {place : Place} {a b c d : Nat} (h : place ∈ places) :
    Prod.Lex (· < ·) (Prod.Lex (· < ·) (· < ·)) ((places.erase place).length, a, b)
      (places.length, c, d) := by
  have := List.length_pos_of_mem h
  rw [List.length_erase_of_mem h]
  exact .left _ _ (by omega)

mutual

/-- Converts an object. The places are those not visited yet. -/
def ofObject (ns : Namespace) (places : List Place) (object : Object) :
    Except Failure TypeExpr :=
  match object with
  | .value v => ofValue ns places v
  | .typeVariable v => .ok (.named (variableType ns v))
  | .variablePart v keyword => .ok (.named (variablePartType ns v keyword))
  | .special name => .ok (.named (specialType name))
  | .alias _ origin => classType origin
  | .newType .. | .module _ | .routine _ | .tuple _ => .error (.unsupportedHint object.text)
  | .union _ members => do
    let types ← ofObjects ns places members
    return .unite types
  | .literal values => .ok (literalType values)
  | .annotated base _ => ofObject ns places base
  | .generic _ origin arguments => do
    match ← ofObject ns places origin, arguments with
    | type, [] => return type
    | .named t, arguments =>
      let types ← ofObjects ns places arguments
      return .generic t types false
    | _, _ => throw (.unsupportedGeneric object.text)
  | .list items => do
    let types ← ofObjects ns places items
    return .list types
  | .forward text => ofText ns places text (Text.quote text)
termination_by (places.length, object.textSize, sizeOf object)
decreasing_by
  all_goals
    refine lt_of_part ?_ ?_ <;> simp [Object.textSize] <;> omega

def ofObjects (ns : Namespace) (places : List Place) (objects : List Object) :
    Except Failure (List TypeExpr) :=
  match objects with
  | [] => .ok []
  | object :: objects => do
    let type ← ofObject ns places object
    let types ← ofObjects ns places objects
    return type :: types
termination_by (places.length, Object.totalTextSize objects, sizeOf objects)
decreasing_by all_goals exact lt_of_part (by simp [Object.totalTextSize]) (by simp <;> omega)

def ofValue (ns : Namespace) (places : List Place) (value : Value) : Except Failure TypeExpr :=
  match value with
  | .none => .ok (.named .none)
  | .ellipsis => .ok (.named (.builtin "..."))
  | .str s | .strSub s | .member _ .text _ (.str s) => ofText ns places s value.text
  | .brokenStr t => ofText ns places (String.ofList t.masked) value.text
  | .cls c => classType c
  | .list items => do
    let types ← ofValues ns places items
    return .list types
  | v => .error (.unsupportedHint v.text)
termination_by (places.length, value.textSize, sizeOf value)
decreasing_by
  all_goals
    first
    | (refine lt_of_shorter ?_; simp [Value.textSize, Text.BrokenText.masked]; done)
    | (refine lt_of_part ?_ ?_ <;> simp [Value.textSize])

def ofValues (ns : Namespace) (places : List Place) (values : List Value) :
    Except Failure (List TypeExpr) :=
  match values with
  | [] => .ok []
  | value :: values => do
    let type ← ofValue ns places value
    let types ← ofValues ns places values
    return type :: types
termination_by (places.length, Value.totalTextSize values, sizeOf values)
decreasing_by all_goals exact lt_of_part (by simp [Value.totalTextSize]) (by simp <;> omega)

/-- Converts an annotation that is written as text, and shown in messages in a given way. -/
def ofText (ns : Namespace) (places : List Place) (text shown : String) :
    Except Failure TypeExpr :=
  match _parsed : HintText.parseShown text shown with
  | .ok node => ofNode ns places node
  | .error failure => .error failure
termination_by (places.length, text.toList.length + 1, 0)
decreasing_by exact lt_of_shorter (Nat.lt_succ_of_le (HintText.size_parseShown _parsed))

def ofNode (ns : Namespace) (places : List Place) (node : Node Value) :
    Except Failure TypeExpr :=
  match node with
  | .name dotted =>
    if relativeNames.contains dotted then .ok (.named (.unresolved dotted))
    else if dotted = "None" then .ok (.named .none)
    else ofName ns places dotted
  | .union members => do
    let types ← ofNodes ns places members
    return .unite types
  | .intersection members => do
    let types ← ofNodes ns places members
    return .intersection types
  | .list items => do
    let types ← ofNodes ns places items
    return .list types
  | .ellipsis => .ok (.named (.builtin "..."))
  | .literal (.str s) => ofText ns places s (Text.quote s)
  | .literal (.brokenStr t) => ofText ns places (String.ofList t.masked) (Text.quoteBroken t)
  | .literal v => .ok (.literal v)
  | .subscript origin arguments =>
    match subscriptForm ((ns.find origin).map Found.object) arguments.length with
    | .optional | .union => do
      let types ← ofNodes ns places arguments
      let form := subscriptForm ((ns.find origin).map Found.object) arguments.length
      return .unite (if form = .optional then types ++ [.named .none] else types)
    | .literal =>
      match literalValues? arguments with
      | some values => .ok (literalType values)
      | none => .error (.unsupportedLiteral (Node.subscript origin arguments).text)
    | .annotated =>
      match arguments with
      | argument :: _ => ofNode ns places argument
      | [] => .error .missingArgument
    | .ordinary => do
      let base ← ofName ns places origin
      let base ← originOf (Text.quote origin) base
      let types ← ofNodes ns places arguments
      return .generic base types false
termination_by (places.length, node.size literalSize, sizeOf node)
decreasing_by
  all_goals
    first
    | (refine lt_of_shorter ?_; simp [Node.size, literalSize, Text.BrokenText.masked]; done)
    | exact lt_of_part (by simp [Node.size, Node.totalSize] <;> omega) (by simp <;> omega)

def ofNodes (ns : Namespace) (places : List Place) (nodes : List (Node Value)) :
    Except Failure (List TypeExpr) :=
  match nodes with
  | [] => .ok []
  | node :: nodes => do
    let type ← ofNode ns places node
    let types ← ofNodes ns places nodes
    return type :: types
termination_by (places.length, Node.totalSize literalSize nodes, sizeOf nodes)
decreasing_by all_goals exact lt_of_part (by simp [Node.totalSize]) (by simp <;> omega)

/-- Converts what a dotted name means; a name without a meaning stays unresolved. -/
def ofName (ns : Namespace) (places : List Place) (dotted : String) : Except Failure TypeExpr :=
  match ns.find dotted with
  | none => .ok (.named (.unresolved dotted))
  | some found =>
    if found.object.textSize = 0 then ofObject ns places found.object
    else
      match found.place with
      | some place =>
        if place ∈ places then ofObject ns (places.erase place) found.object
        else .error .endlessHint
      | none => .error .endlessHint
termination_by (places.length, 1, 0)
decreasing_by
  · rename_i h
    exact lt_of_shorter (by omega)
  · exact lt_of_visit ‹_›

end

end Conversion

def Object.toType (ns : Namespace) (object : Object) : Except Failure TypeExpr :=
  Conversion.ofObject ns ns.places object

end Interpose

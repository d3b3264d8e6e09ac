import Interpose.Entries
import Interpose.Failure
import Interpose.JsonText.Token

/-! # Reading JSON text

A text is read token by token. The state holds the arrays and objects that are open and what may
stand next. An object keeps the keys in the order of their first occurrence, and the last value of
each. Nothing but blanks may follow the value. Arrays and objects can stand in each other only up to
a fixed depth.
-/
namespace Interpose.JsonText

set_option autoImplicit false

abbrev Key := List Text.CodePoint

/-- An array or object around the current value: the items before it, latest first, or the
entries before it and its key. -/
inductive Frame where
  | array (complete : List Value)
  | object (complete : List (Key × Value)) (key : Key)
  deriving Repr

/-- What may stand next. The entries of an object are held here until a value follows. -/
inductive Position where
  | value
  | firstItem
  | firstKey
  | key (complete : List (Key × Value))
  | colon (complete : List (Key × Value)) (key : Key)
  | after (v : Value)
  deriving Repr

structure State where
  frames : List Frame
  position : Position
  deriving Repr

def maxDigits : Nat := 4300

def maxDepth : Nat := 990

def dictionary (entries : List (Key × Value)) : Value :=
  .dict (entries.map fun (key, v) => (.ofCodePoints key, v))

def numberValue (parts : Decimal.Numeral) : Except Failure Value :=
  if parts.isWhole then
    if maxDigits < parts.whole.length then .error .oversizedInteger else .ok (.int parts.toInt)
  else .ok (.float parts.toBinary64)

namespace State

def initial : State := ⟨[], .value⟩

def readValue (frames : List Frame) : Token → Except Failure State
  | .text content => .ok ⟨frames, .after (.ofCodePoints content)⟩
  | .word v => .ok ⟨frames, .after v⟩
  | .number parts => (numberValue parts).map fun v => ⟨frames, .after v⟩
  | .openBracket => if frames.length < maxDepth then .ok ⟨frames, .firstItem⟩ else .error .deepJson
  | .openBrace => if frames.length < maxDepth then .ok ⟨frames, .firstKey⟩ else .error .deepJson
  | _ => .error .malformedJson

def readAfter (frames : List Frame) (v : Value) (token : Token) : Except Failure State :=
  match token, frames with
  | .comma, .array complete :: rest => .ok ⟨.array (v :: complete) :: rest, .value⟩
  | .closeBracket, .array complete :: rest => .ok ⟨rest, .after (.list (v :: complete).reverse)⟩
  | .comma, .object complete key :: rest => .ok ⟨rest, .key (Entries.insert key v complete)⟩
  | .closeBrace, .object complete key :: rest =>
    .ok ⟨rest, .after (dictionary (Entries.insert key v complete))⟩
  | _, _ => .error .malformedJson

def read (state : State) (token : Token) : Except Failure State :=
  match state.position, token with
  | .value, token => readValue state.frames token
  | .firstItem, .closeBracket => .ok ⟨state.frames, .after (.list [])⟩
  | .firstItem, token => readValue (.array [] :: state.frames) token
  | .firstKey, .closeBrace => .ok ⟨state.frames, .after (dictionary [])⟩
  | .firstKey, .text s => .ok ⟨state.frames, .colon [] s⟩
  | .key complete, .text s => .ok ⟨state.frames, .colon complete s⟩
  | .colon complete key, .colon => .ok ⟨.object complete key :: state.frames, .value⟩
  | .after v, token => readAfter state.frames v token
  | _, _ => .error .malformedJson

def finish : State → Except Failure Value
  | ⟨[], .after v⟩ => .ok v
  | _ => .error .malformedJson

end State

def readFrom (state : State) (cs : List Char) : Except Failure Value :=
  match cs with
  | [] => state.finish
  | c :: rest =>
    if isBlank c then readFrom state rest
    else
      match _token : takeToken (c :: rest) with
      | none => .error .malformedJson
      | some (token, after) =>
        match state.read token with
        | .ok next => readFrom next after
        | .error failure => .error failure
termination_by cs.length
decreasing_by
  · simp
  · exact length_takeToken _token

/-- The value of a text: an array is a list, and an object is a dictionary whose keys are texts. -/
def read (text : String) : Except Failure Value :=
  readFrom .initial text.toList

end Interpose.JsonText

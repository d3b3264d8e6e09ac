import Interpose.Failure
import Interpose.Value.Text

/-! # Writing JSON text

A value as JSON text in lines, each level two spaces further in than the one around it. The text
is plain ASCII. Sequences and sets are arrays, dictionaries are objects. Values of a subclass are
written like those of the class; a value that has no notation is written as its text.
-/
namespace Interpose.JsonText

set_option autoImplicit false

def unitEscape (code : Nat) : List Char :=
  '\\' :: 'u' :: Text.hexDigits 4 code

def escapeChar (c : Char) : List Char :=
  if c == '"' || c == '\\' then ['\\', c]
  else if c == '\n' then ['\\', 'n']
  else if c == '\r' then ['\\', 'r']
  else if c == '\t' then ['\\', 't']
  else if c.toNat == 8 then ['\\', 'b']
  else if c.toNat == 12 then ['\\', 'f']
  else if 32 ≤ c.toNat && c.toNat < 127 then [c]
  else if c.toNat < 0x10000 then unitEscape c.toNat
  else
    unitEscape (0xd800 + (c.toNat - 0x10000) / 0x400)
      ++ unitEscape (0xdc00 + (c.toNat - 0x10000) % 0x400)

def quote (s : String) : String :=
  String.ofList ('"' :: s.toList.flatMap escapeChar ++ ['"'])

def escapePoint : Text.CodePoint → List Char
  | .char c => escapeChar c
  | .surrogate offset => unitEscape (Text.CodePoint.surrogate offset).code

def quoteBroken (t : Text.BrokenText) : String :=
  String.ofList ('"' :: t.points.flatMap escapePoint ++ ['"'])

/-- The notation of a value that is a text, of whatever class. -/
def textNotation? : Value → Option String
  | .brokenStr t => some (quoteBroken t)
  | v => v.asText?.map quote

def numberText : Decimal.Binary64 → String
  | .nan => "NaN"
  | .infinite false => "Infinity"
  | .infinite true => "-Infinity"
  | x => x.text

/-- The text of a value that has no parts, without quotes if it is a number or a word; `none` for
a value that is written as its text in quotes. -/
def plainText? : Value → Option String
  | .none => some "null"
  | .bool b => some (if b then "true" else "false")
  | .float x | .floatSub x => some (numberText x)
  | v => v.asInt?.map Int.repr

/-- The key that a value is: a text is its own key, and the notation of a number or word is one. -/
def keyText (v : Value) : Except Failure String :=
  match textNotation? v, plainText? v with
  | some quoted, _ => .ok quoted
  | none, some s => .ok (quote s)
  | none, none => .error .unsupportedKey

def scalarText (v : Value) : String :=
  match textNotation? v, plainText? v with
  | some quoted, _ => quoted
  | none, some s => s
  | none, none => quote v.text

def lineStart (level : Nat) : String :=
  "\n" ++ String.ofList (List.replicate (2 * level) ' ')

/-- Parts between two brackets, each on lines of its own at the next level. -/
def enclose (opening closing : String) (level : Nat) : List String → String
  | [] => opening ++ closing
  | parts =>
    opening ++ lineStart (level + 1) ++ ("," ++ lineStart (level + 1)).intercalate parts
      ++ lineStart level ++ closing

mutual

def writeAt (level : Nat) : Value → Except Failure String
  | .list items | .tuple items | .tupleSub items | .set items | .frozenset items =>
    (writeAll (level + 1) items).map (enclose "[" "]" level)
  | .dict entries => (writeEntries (level + 1) entries).map (enclose "\x7b" "\x7d" level)
  | v => .ok (scalarText v)

def writeAll (level : Nat) : List Value → Except Failure (List String)
  | [] => .ok []
  | v :: vs => do
    let part ← writeAt level v
    let parts ← writeAll level vs
    return part :: parts

def writeEntries (level : Nat) : List (Value × Value) → Except Failure (List String)
  | [] => .ok []
  | (key, v) :: rest => do
    let key ← keyText key
    let part ← writeAt level v
    let parts ← writeEntries level rest
    return (key ++ ": " ++ part) :: parts

end

def write (v : Value) : Except Failure String :=
  writeAt 0 v

end Interpose.JsonText

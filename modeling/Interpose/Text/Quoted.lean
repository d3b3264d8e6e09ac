import Interpose.Text.CodePoint
import Interpose.Text.Printable

/-! # Quoted text

Text and byte strings in the notation of a literal. The quote is the single one, unless the
content has single quotes and no double ones. A backslash, the quote itself, the three blanks that
have letters of their own and everything unprintable is escaped, so a quoted text stays on one
line.
-/
namespace Interpose.Text

set_option autoImplicit false

def hexDigit (n : Nat) : Char :=
  if n < 10 then Char.ofNat (48 + n) else Char.ofNat (87 + n)

/-- The last `width` hexadecimal digits of a number, most significant first. -/
def hexDigits : Nat → Nat → List Char
  | 0, _ => []
  | width + 1, n => hexDigits width (n / 16) ++ [hexDigit (n % 16)]

/-- The escape of a code point: two, four or eight digits, whichever first suffices. -/
def codeEscape (code : Nat) : List Char :=
  if code < 0x100 then '\\' :: 'x' :: hexDigits 2 code
  else if code < 0x10000 then '\\' :: 'u' :: hexDigits 4 code
  else '\\' :: 'U' :: hexDigits 8 code

def quoteFor (content : List Char) : Char :=
  if content.contains '\'' && !content.contains '"' then '"' else '\''

def escapeChar (quote c : Char) : List Char :=
  if c == quote || c == '\\' then ['\\', c]
  else if c == '\n' then ['\\', 'n']
  else if c == '\r' then ['\\', 'r']
  else if c == '\t' then ['\\', 't']
  else if isPrintable c then [c]
  else codeEscape c.toNat

def quoteChars (content : List Char) : List Char :=
  quoteFor content :: content.flatMap (escapeChar (quoteFor content)) ++ [quoteFor content]

def quote (s : String) : String :=
  String.ofList (quoteChars s.toList)

def escapePoint (quote : Char) : CodePoint → List Char
  | .char c => escapeChar quote c
  | .surrogate offset => codeEscape (CodePoint.surrogate offset).code

def quoteBroken (t : BrokenText) : String :=
  let quote := quoteFor t.masked
  String.ofList (quote :: t.points.flatMap (escapePoint quote) ++ [quote])

def byteChar (b : UInt8) : Char :=
  Char.ofNat b.toNat

/-- One byte as it stands between two quotes: like a character, but from 127 on always escaped. -/
def escapeByte (quote : Char) (b : UInt8) : List Char :=
  if b.toNat < 127 then escapeChar quote (byteChar b) else codeEscape b.toNat

def quoteBytes (bytes : List UInt8) : String :=
  let quote := quoteFor (bytes.map byteChar)
  String.ofList ('b' :: quote :: bytes.flatMap (escapeByte quote) ++ [quote])

end Interpose.Text

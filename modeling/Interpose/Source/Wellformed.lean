import Interpose.HintText.Token
import Interpose.Source.ClassSource
import Interpose.Text.Identifier
import Interpose.Text.NormalForm

/-! # Well-formed source

A generated module has to follow the grammar of the language before it can run. Names have to be
identifiers and no reserved words, the parameters of a method different from each other, and type
hints expressions: operands joined by operators, with brackets in pairs and no subscript empty.
-/
namespace Interpose

set_option autoImplicit false

/-- The lexical elements of a type hint, as far as its form depends on them. -/
inductive HintMark where
  | operand
  | operator
  /-- A sign, which stands before an operand or joins two. -/
  | sign
  | comma
  | opening (bracket : Char)
  | closing
  deriving DecidableEq, Repr

namespace HintMark

/-- Whether the parts of a dotted name may stand in an expression. -/
def isDottedName (parts : List String) : Bool :=
  match parts with
  | [part] => Text.isIdentifier part &&
    (["None", "True", "False"].contains part || !Text.reservedWords.contains part)
  | parts => parts.all Text.isName

def isDottedRest (c : Char) : Bool :=
  c == '.' || Text.isIdentifierRest c

def ofChar? (c : Char) : Option HintMark :=
  if c = '|' ∨ c = '&' then some .operator
  else if c = '+' ∨ c = '-' then some .sign
  else if c = ',' ∨ c = ':' then some .comma
  else if c = '[' ∨ c = '(' ∨ c = '\x7b' then some (.opening c)
  else if c = ']' ∨ c = ')' ∨ c = '\x7d' then some .closing
  else none

/-- The marks of a text of at most the given length, unless something in it is no mark. -/
def scan? : Nat → List Char → Option (List HintMark)
  | _, [] => some []
  | 0, _ => none
  | fuel + 1, '.' :: '.' :: '.' :: rest => (scan? fuel rest).map (.operand :: ·)
  | fuel + 1, 'b' :: '\'' :: rest =>
    (HintText.takeContent '\'' rest).bind fun (_, after) => (scan? fuel after).map (.operand :: ·)
  | fuel + 1, 'b' :: '"' :: rest =>
    (HintText.takeContent '"' rest).bind fun (_, after) => (scan? fuel after).map (.operand :: ·)
  | fuel + 1, c :: rest =>
    if c = ' ' then scan? fuel rest
    else if c = '\'' ∨ c = '"' then
      (HintText.takeContent c rest).bind fun (_, after) => (scan? fuel after).map (.operand :: ·)
    else if Text.isIdentifierStart c then
      let name := String.ofList (c :: rest.takeWhile isDottedRest)
      if isDottedName (Text.dottedParts name) then
        (scan? fuel (rest.dropWhile isDottedRest)).map (.operand :: ·)
      else none
    else
      match ofChar? c with
      | some mark => (scan? fuel rest).map (mark :: ·)
      | none =>
        match Decimal.takeNumber (c :: rest) with
        | some (_, 'j' :: after) | some (_, after) => (scan? fuel after).map (.operand :: ·)
        | none => none

/-- What the last mark was, before an operand. -/
inductive Before where
  | start
  | operator
  | comma
  | operand
  deriving DecidableEq, Repr

/-- Whether marks form an expression, given the open brackets, innermost first (whether each one
may be empty), and what stands before the marks. -/
def isExpression : List Bool → Before → List HintMark → Bool
  | opens, before, [] => opens.isEmpty && before == .operand
  | opens, before, .operand :: marks => before != .operand && isExpression opens .operand marks
  | opens, before, .operator :: marks => before == .operand && isExpression opens .operator marks
  | opens, _, .sign :: marks => isExpression opens .operator marks
  | opens, before, .comma :: marks =>
    before == .operand && !opens.isEmpty && isExpression opens .comma marks
  | opens, before, .opening bracket :: marks =>
    let mayBeEmpty := before != .operand || bracket == '('
    (before != .operand || bracket != '\x7b') && isExpression (mayBeEmpty :: opens) .start marks
  | [], _, .closing :: _ => false
  | mayBeEmpty :: opens, before, .closing :: marks =>
    (before == .operand || before == .comma || (before == .start && mayBeEmpty))
      && isExpression opens .operand marks

end HintMark

def isHintExpression (text : String) : Bool :=
  match HintMark.scan? text.toList.length text.toList with
  | some marks => HintMark.isExpression [] .start marks
  | none => false

def isDottedPath (s : String) : Bool :=
  (Text.dottedParts s).all Text.isName

def allDistinct : List String → Bool
  | [] => true
  | s :: rest => !rest.contains s && allDistinct rest

/-- A name as it is known inside a class: in its normal form, and if it starts, but does not end,
with two underscores, private to the class. -/
def privateName (className name : String) : String :=
  let owner := (Text.normalForm className).toList.dropWhile (· == '_')
  let name := Text.normalForm name
  match name.toList, name.toList.reverse with
  | '_' :: '_' :: _, '_' :: '_' :: _ => name
  | '_' :: '_' :: _, _ =>
    if owner.isEmpty then name else "_" ++ String.ofList owner ++ name
  | _, _ => name

def ForwardingMethod.parameters (f : ForwardingMethod) : List WrittenParameter :=
  f.declaration.filterMap fun
    | .parameter p => some p
    | _ => none

def WrittenParameter.isWellformed (p : WrittenParameter) : Bool :=
  Text.isName p.name
    && (match p.hint with
      | some hint => isHintExpression hint.text
      | none => true)
    && (match p.default with
      | some (.declared owner _ _) => isDottedPath owner.qualifiedName
      | _ => true)

def ForwardingMethod.isWellformed (className : String) (f : ForwardingMethod) : Bool :=
  Text.isName f.name
    && f.parameters.all WrittenParameter.isWellformed
    && allDistinct ("self" :: f.parameters.map fun p => privateName className p.name)
    && (match f.returnHint with
      | some hint => hint.text == "" || isHintExpression hint.text
      | none => true)

def ClassSource.isWellformed (source : ClassSource) : Bool :=
  Text.isName source.className
    && source.imports.all isDottedPath
    && isDottedPath source.target
    && source.methods.all (ForwardingMethod.isWellformed source.className)

end Interpose

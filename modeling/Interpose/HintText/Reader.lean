import Interpose.HintText.Literal
import Interpose.Failure

/-! # Reading annotations

The grammar, over tokens:

* a union is one or more intersections, separated by bars;
* an intersection is one or more operands, separated by ampersands;
* an operand is a dotted name, a subscript, a literal, three dots, or a union in parentheses;
* a subscript is a dotted name and arguments in brackets; an argument is a union or a list in
  brackets, a list holds unions, and either may be empty or end with a comma.

A union or intersection of one member is that member, and parentheses leave no trace except that a
union in parentheses stays a member of its own. Tokens are read one by one. The state holds the
brackets that are open, what stands before the current operand at the innermost level, and the
operand itself as far as it has been read.
-/
namespace Interpose.HintText

set_option autoImplicit false

/-- A tree whose literals are still spelled out. -/
abbrev Spelled := Node Spelling

/-- What stands at one level before the current operand, latest first: the members of the union
that are complete, and the operands of the current intersection. -/
structure Level where
  members : List Spelled
  operands : List Spelled
  deriving Repr

namespace Level

def empty : Level := ⟨[], []⟩

def isEmpty (level : Level) : Bool :=
  level.members.isEmpty && level.operands.isEmpty

def join (joined : List Spelled → Spelled) : List Spelled → Spelled
  | [node] => node
  | nodes => joined nodes

def intersection (level : Level) (last : Spelled) : Spelled :=
  join .intersection (last :: level.operands).reverse

def union (level : Level) (last : Spelled) : Spelled :=
  join .union (level.intersection last :: level.members).reverse

end Level

/-- An open bracket. A parenthesis and the bracket of a subscript remember the level outside; the
bracket of a list always opens where a whole argument may stand. -/
inductive Bracket where
  | paren (outside : Level)
  | arguments (outside : Level) (origin : String) (complete : List Spelled)
  | list (complete : List Spelled)
  deriving Repr

/-- How far the current operand has been read: not at all, a name that a point may continue, a
name and a point, an operand that nothing can continue, or a list that is a whole argument. -/
inductive Operand where
  | missing
  | name (dotted : String)
  | openName (dotted : String)
  | complete (node : Spelled)
  | argument (node : Spelled)
  deriving Repr

structure State where
  brackets : List Bracket
  level : Level
  operand : Operand
  deriving Repr

namespace State

def initial : State := ⟨[], .empty, .missing⟩

/-- Closes the innermost bracket where a new argument or item may start. -/
def closeEmpty : List Bracket → Option State
  | .arguments outside origin complete :: brackets =>
    some ⟨brackets, outside, .complete (.subscript origin complete.reverse)⟩
  | .list complete :: brackets => some ⟨brackets, .empty, .argument (.list complete.reverse)⟩
  | _ => none

/-- Reads a token that follows a complete operand. -/
def continueAfter (brackets : List Bracket) (level : Level) (node : Spelled) :
    Token → Option State
  | .ampersand => some ⟨brackets, ⟨level.members, node :: level.operands⟩, .missing⟩
  | .bar => some ⟨brackets, ⟨level.intersection node :: level.members, []⟩, .missing⟩
  | .comma =>
    match brackets with
    | .arguments outside origin complete :: rest =>
      some ⟨.arguments outside origin (level.union node :: complete) :: rest, .empty, .missing⟩
    | .list complete :: rest =>
      some ⟨.list (level.union node :: complete) :: rest, .empty, .missing⟩
    | _ => none
  | .closeParen =>
    match brackets with
    | .paren outside :: rest => some ⟨rest, outside, .complete (level.union node)⟩
    | _ => none
  | .closeBracket =>
    match brackets with
    | .arguments outside origin complete :: rest =>
      some ⟨rest, outside, .complete (.subscript origin (level.union node :: complete).reverse)⟩
    | .list complete :: rest =>
      some ⟨rest, .empty, .argument (.list (level.union node :: complete).reverse)⟩
    | _ => none
  | _ => none

/-- Reads one token, unless none of the grammar's texts continues with it. -/
def read (state : State) (token : Token) : Option State :=
  let ⟨brackets, level, operand⟩ := state
  match operand with
  | .missing =>
    match token with
    | .name s => some ⟨brackets, level, .name s⟩
    | .literal spelling => some ⟨brackets, level, .complete (.literal spelling)⟩
    | .dots => some ⟨brackets, level, .complete .ellipsis⟩
    | .openParen => some ⟨.paren level :: brackets, .empty, .missing⟩
    | .openBracket =>
      match brackets with
      | .arguments .. :: _ =>
        if level.isEmpty then some ⟨.list [] :: brackets, .empty, .missing⟩ else none
      | _ => none
    | .closeBracket => if level.isEmpty then closeEmpty brackets else none
    | _ => none
  | .openName dotted =>
    match token with
    | .name s => some ⟨brackets, level, .name (dotted ++ "." ++ s)⟩
    | _ => none
  | .name dotted =>
    match token with
    | .point => some ⟨brackets, level, .openName dotted⟩
    | .openBracket => some ⟨.arguments level dotted [] :: brackets, .empty, .missing⟩
    | token => continueAfter brackets level (.name dotted) token
  | .complete node => continueAfter brackets level node token
  | .argument node =>
    match token, brackets with
    | .comma, .arguments outside origin complete :: rest =>
      some ⟨.arguments outside origin (node :: complete) :: rest, .empty, .missing⟩
    | .closeBracket, .arguments outside origin complete :: rest =>
      some ⟨rest, outside, .complete (.subscript origin (node :: complete).reverse)⟩
    | _, _ => none

def finish : State → Option Spelled
  | ⟨[], level, .name dotted⟩ => some (level.union (.name dotted))
  | ⟨[], level, .complete node⟩ => some (level.union node)
  | _ => none

end State

def ofTokens? (tokens : List Token) : Option Spelled :=
  (tokens.foldlM State.read State.initial).bind State.finish

def spelled? (cs : List Char) : Option Spelled :=
  (tokens? cs).bind ofTokens?

/-- The tree of an annotation that is written as text, and shown in messages in a given way. -/
def parseShown (text shown : String) : Except Failure (Node Value) :=
  match spelled? text.toList with
  | none => .error (.malformedHint shown)
  | some spelled =>
    match spelled.mapLeaves? Spelling.read? with
    | none => .error .unreadableLiteral
    | some node => .ok node

def parse (text : String) : Except Failure (Node Value) :=
  parseShown text (Text.quote text)

end Interpose.HintText

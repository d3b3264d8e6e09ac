import Interpose.World.Object

/-! # Binding of arguments

A call passes values by position and by keyword. Binding it to a list of parameters gives each
parameter its value: a single one, all remaining positional ones, or all keyword arguments that no
other parameter takes. A call that gives a parameter no value or two, or has an argument that no
parameter takes, does not bind.
-/
namespace Interpose

set_option autoImplicit false

/-- A parameter as far as binding is concerned. -/
structure Formal (V : Type) where
  name : String
  kind : ParameterKind
  default : Option V
  deriving DecidableEq, Repr

/-- The arguments of a call. Each keyword stands once. -/
structure Call (V : Type) where
  positional : List V
  keywords : List (String × V)
  deriving DecidableEq, Repr

inductive Bound (V : Type) where
  | one (v : V)
  | rest (vs : List V)
  | extra (entries : List (String × V))
  deriving DecidableEq, Repr

/-- The values of parameters, by name and in order. -/
abbrev Bindings (V : Type) := List (String × Bound V)

namespace Formal

variable {V : Type}

def takesKeyword (p : Formal V) : Bool :=
  p.kind = .positionalOrKeyword || p.kind = .keywordOnly

def keywordNames (ps : List (Formal V)) : List String :=
  (ps.filter takesKeyword).map Formal.name

/-- The keyword arguments that no named parameter takes. -/
def extraKeywords (ps : List (Formal V)) (call : Call V) : List (String × V) :=
  call.keywords.filter fun entry => !(keywordNames ps).contains entry.1

/-- Gives parameters their values from the positional arguments that are left and the keywords of
the call; `extra` are the keyword arguments that no named parameter takes. -/
def bindEach (keywords extra : List (String × V)) :
    List V → List (Formal V) → Option (Bindings V)
  | [], [] => some []
  | _ :: _, [] => none
  | args, p :: ps =>
    match p.kind, args with
    | .positionalOnly, v :: rest =>
      (bindEach keywords extra rest ps).map ((p.name, .one v) :: ·)
    | .positionalOrKeyword, v :: rest =>
      if (keywords.lookup p.name).isSome then none
      else (bindEach keywords extra rest ps).map ((p.name, .one v) :: ·)
    | .positionalOnly, [] => do
      let v ← p.default
      (bindEach keywords extra [] ps).map ((p.name, .one v) :: ·)
    | .positionalOrKeyword, [] => do
      let v ← (keywords.lookup p.name).or p.default
      (bindEach keywords extra [] ps).map ((p.name, .one v) :: ·)
    | .keywordOnly, args => do
      let v ← (keywords.lookup p.name).or p.default
      (bindEach keywords extra args ps).map ((p.name, .one v) :: ·)
    | .varPositional, args =>
      (bindEach keywords extra [] ps).map ((p.name, .rest args) :: ·)
    | .varKeyword, args =>
      (bindEach keywords extra args ps).map ((p.name, .extra extra) :: ·)

def bind (ps : List (Formal V)) (call : Call V) : Option (Bindings V) :=
  let extra := extraKeywords ps call
  if extra.isEmpty || ps.any (·.kind = .varKeyword) then
    bindEach call.keywords extra call.positional ps
  else none

end Formal
end Interpose

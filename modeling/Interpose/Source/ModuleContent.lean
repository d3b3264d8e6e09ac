import Interpose.Source.ClassSource

/-! # Contents of files

The files that matter are modules: generated ones, and ones of other origin that stand at the place
of a generated one. Of a text of unknown origin, nothing is known but what happens when it runs as a
module: it fails, or it leaves some names bound.
-/
namespace Interpose

set_option autoImplicit false

/-- What a module binds a name to: a class that it defines, or something that exists without it. -/
inductive BoundItem where
  | newClass (qualname : String)
  | value (v : Value)
  deriving Repr

/-- What happens when a text runs as a module. -/
abbrev Effect := Except Failure (List (String × BoundItem))

inductive FileContent where
  | generated (source : ClassSource)
  | emptyClass (name : String)
  /-- A module that gives a name a whole number. -/
  | assignment (name : String)
  | malformed
  /-- A module that fails with a message when it runs. -/
  | failing (message : String)
  /-- Any other text, such as that of a configuration. -/
  | plain (text : String) (effect : Effect := .ok [])
  deriving Repr

def FileContent.text : FileContent → String
  | .generated source => source.text
  | .emptyClass name => "class " ++ name ++ ":\n    pass\n"
  | .assignment name => name ++ " = 1\n"
  | .malformed => "def\n"
  | .failing message => "raise RuntimeError(" ++ Text.quote message ++ ")\n"
  | .plain text _ => text

end Interpose

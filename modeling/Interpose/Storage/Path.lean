import Interpose.Text.Dotted

/-! # Paths

A path has parts, separated by slashes, and may start at a root. Empty parts and single points are
left out; two leading slashes are a root of their own, any other number is the same as one. A path
without parts is written as a point.
-/
namespace Interpose

set_option autoImplicit false

/-- A path: the slashes it starts with, and its parts. -/
structure StorePath where
  root : String
  parts : List String
  deriving DecidableEq, Repr

namespace StorePath

def ofText (s : String) : StorePath :=
  let cs := s.toList
  let slashes := (cs.takeWhile (· == '/')).length
  let root := if slashes = 0 then "" else if slashes = 2 then "//" else "/"
  let parts := (Text.cutAll '/' cs).map String.ofList
  ⟨root, parts.filter fun part => part != "" && part != "."⟩

def text (p : StorePath) : String :=
  if p.root = "" && p.parts.isEmpty then "." else p.root ++ "/".intercalate p.parts

def isEmpty (p : StorePath) : Bool :=
  p.root == "" && p.parts.isEmpty

def child (p : StorePath) (name : String) : StorePath :=
  { p with parts := p.parts ++ (ofText name).parts }

def parent (p : StorePath) : StorePath :=
  { p with parts := p.parts.dropLast }

end StorePath
end Interpose

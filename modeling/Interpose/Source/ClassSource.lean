import Interpose.Forwarding

/-! # Source of generated classes

A generated module defines one class, which descends from the decoration support and from the
target. It imports the module of the target and the modules that its hints and default values
refer to, each once and in order.
-/
namespace Interpose

set_option autoImplicit false

def insertSorted (s : String) : List String → List String
  | [] => [s]
  | t :: ts =>
    if s < t then s :: t :: ts
    else if s = t then t :: ts
    else t :: insertSorted s ts

def sortedUnique (texts : List String) : List String :=
  texts.foldr insertSorted []

def shortName (fullName : String) : String :=
  String.ofList (fullName.toList.filter (· != '.')) ++ "Persistent"

/-- A generated module. -/
structure ClassSource where
  className : String
  /-- The module and the qualified name of the target. -/
  targetModule : String
  targetName : String
  methods : List ForwardingMethod
  deriving Repr

namespace ClassSource

/-- The module for a target; methods that are not decorated play no part. -/
def of {S : Type} {M : Type → Type} [NameSource S M] [Monad M] [MonadExceptOf Failure M] (names : S)
    (target : Target) (className : String) : M ClassSource := do
  let methods ← (target.methods.filter fun m => m.skipReason.isNone).mapM
    (ForwardingMethod.of names)
  return ⟨className, target.module, target.name, methods⟩

def target (source : ClassSource) : String :=
  source.targetModule ++ "." ++ source.targetName

def imports (source : ClassSource) : List String :=
  sortedUnique (source.targetModule :: source.methods.flatMap ForwardingMethod.modules)

/-- What every generated module begins with. -/
def opening : String :=
  "\"\"\"DO NOT EDIT THIS FILE - "
  ++ "IT WAS CREATED BY THE PCGEN PERSISTENT COLLECTION GENERATOR\"\"\"\n"
  ++ "\n"
  ++ "from __future__ import annotations\n"
  ++ "\n"
  ++ "from typing import Any, Never, NoReturn, Self\n"
  ++ "\n"

def supportImport : String :=
  "from pcgen.persistent import (\n"
  ++ "    BaseCollection,\n"
  ++ "    DocumentManager,\n"
  ++ "    PersistentCollectionMixin,\n"
  ++ "    UnitOfWork,\n"
  ++ "    original_default,\n"
  ++ ")\n"

def initializer : String :=
  "    def __init__(self, coll: BaseCollection, dm: DocumentManager, uow: UnitOfWork) -> None:\n"
  ++ "        self._coll = coll\n"
  ++ "        self._dm = dm\n"
  ++ "        self._uow = uow\n"

def text (source : ClassSource) : String :=
  opening
  ++ String.join (source.imports.map fun module => "import " ++ module ++ "\n")
  ++ supportImport
  ++ "\n"
  ++ "\n"
  ++ "class " ++ source.className ++ "(PersistentCollectionMixin, " ++ source.target ++ "):\n"
  ++ "    \"\"\"Persistent collection decorating " ++ source.target ++ ".\"\"\"\n"
  ++ "\n"
  ++ initializer
  ++ String.join (source.methods.flatMap fun m => m.lines.map (· ++ "\n"))

end ClassSource
end Interpose

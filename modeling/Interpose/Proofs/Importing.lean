import Interpose.Importing
import Interpose.Proofs.Sequence
import Interpose.Proofs.Stateful
import Mathlib.Data.List.Induction

/-! # Worlds in which everything has been imported

A world is complete if it has the packages of all its modules, and nothing else can be found. There
an import changes nothing: it succeeds or fails as the world says on its own, and so does each
question that imports a module.
-/
namespace Interpose

set_option autoImplicit false

open Stateful (outcome outcome_bind outcome_get_bind outcome_tryCatch)

/-- Whether a world has the packages of its modules, and all modules that can be found. -/
structure World.IsComplete (world : World) (path : ModulePath) : Prop where
  packages : ∀ name, (Text.dottedPrefixes (Text.dottedParts name)).Pairwise
    fun package module => (world.module? module).isSome → (world.module? package).isSome
  nothingElse : ∀ name, world.module? name = none → path.run? name world = none

namespace World

variable {world : World}

theorem importChain_append (before : Option String) (names : List String) (last : String) :
    world.importChain before (names ++ [last])
      = world.importChain before names >>= fun _ =>
        world.importChain (names.getLast?.or before) [last] := by
  induction names generalizing before with
  | nil => cases before <;> rfl
  | cons name names ih =>
    rw [List.cons_append, importChain, importChain]
    split
    next =>
      rw [ih, List.getLast?_cons]
      cases names.getLast? <;> rfl
    next => rfl

theorem importChain_of_all {before : Option String} {names : List String}
    (h : ∀ name ∈ names, (world.module? name).isSome) : world.importChain before names = .ok () := by
  induction names generalizing before with
  | nil => rfl
  | cons name names ih =>
    obtain ⟨hFirst, hOthers⟩ := List.forall_mem_cons.1 h
    obtain ⟨m, hModule⟩ := Option.isSome_iff_exists.1 hFirst
    rw [importChain, hModule]
    exact ih hOthers

end World

namespace ModulePath

variable {path : ModulePath} {world : World}

theorem outcome_runModule {name : String} (h : path.run? name world = none) :
    outcome (path.runModule name) world = (.error (.moduleNotFound name none), world) := by
  rw [runModule, outcome_get_bind, h]
  rfl

theorem outcome_importFirst_of_present {name : String} {packages : List String}
    (h : (world.module? name).isSome) :
    outcome (path.importFirst (name :: packages)) world = (.ok (), world) := by
  rw [importFirst, outcome_get_bind, if_pos h]
  rfl

theorem outcome_importAfter {name : String} (hNone : world.module? name = none)
    (hNothing : path.run? name world = none) (package : Option String) :
    outcome (path.importAfter name package) world
      = (world.importChain package [name], world) := by
  cases package with
  | none =>
    rw [importAfter, outcome_runModule hNothing, World.importChain, hNone]
    rfl
  | some package =>
    have hRun {f : PUnit → Importing Unit} :
        outcome (path.runModule name >>= f) world
          = (.error (.moduleNotFound name none), world) := by
      rw [outcome_bind, outcome_runModule hNothing]
    rw [importAfter, outcome_get_bind, World.importChain, hNone]
    cases hPackage : world.module? package with
    | none => simp [Option.filter_some, hPackage, hRun]
    | some m =>
      cases hKind : m.isPackage with
      | true => simp [Option.filter_some, hPackage, hKind, hRun]
      | false =>
        simp [Option.filter_some, hPackage, hKind]
        rfl

/-- A chain of modules is imported as in the world on its own. -/
theorem outcome_importFirst {names : List String}
    (hPackages : names.Pairwise
      fun package module => (world.module? module).isSome → (world.module? package).isSome)
    (hNothing : ∀ name, world.module? name = none → path.run? name world = none) :
    outcome (path.importFirst names.reverse) world = (world.importChain none names, world) := by
  induction names using List.reverseRecOn with
  | nil => rfl
  | append_singleton names last ih =>
    obtain ⟨hNames, -, hLast⟩ := List.pairwise_append.1 hPackages
    rw [List.reverse_append, List.reverse_singleton, List.singleton_append]
    by_cases hPresent : (world.module? last).isSome
    · have hAll : ∀ name ∈ names ++ [last], (world.module? name).isSome := by
        intro name hMem
        rcases List.mem_append.1 hMem with hMem | hMem
        · exact hLast name hMem last (List.mem_singleton_self last) hPresent
        · rwa [List.mem_singleton.1 hMem]
      rw [outcome_importFirst_of_present hPresent, World.importChain_of_all hAll]
    · have hNone := Option.not_isSome_iff_eq_none.1 hPresent
      rw [importFirst, outcome_get_bind, if_neg hPresent, outcome_bind, ih hNames,
        World.importChain_append, List.head?_reverse]
      cases hChain : world.importChain none names with
      | error failure => rfl
      | ok _ =>
        show outcome (get >>= _) world = _
        rw [outcome_get_bind, if_neg hPresent, Option.or_none]
        exact outcome_importAfter hNone (hNothing last hNone) names.getLast?

/-- An import changes nothing in a complete world. -/
theorem outcome_importModule (h : world.IsComplete path) (name : String) :
    outcome (path.importModule name) world = (world.importModule name, world) := by
  rw [importModule, World.importModule]
  split
  next => rfl
  next =>
    split
    next => rfl
    next => exact outcome_importFirst (h.packages name) h.nothingElse

/-- Asking for a name changes nothing in a complete world. -/
theorem outcome_typeExists (h : world.IsComplete path) (module : Option String) (qualname : String) :
    outcome (path.typeExists module qualname) world = (world.typeExists module qualname, world) := by
  cases module with
  | none => rfl
  | some module =>
    have hImport := outcome_importModule h module
    rw [typeExists, World.typeExists, outcome_bind, outcome_tryCatch, outcome_bind, hImport]
    cases world.importModule module with
    | error failure =>
      cases hImport : failure.isImport <;> simp [hImport] <;> rfl
    | ok _ =>
      show outcome (get >>= _) world = _
      rw [outcome_get_bind]
      cases world.follow ⟨.module module, none⟩ (Text.dottedParts qualname) <;> rfl

end ModulePath

end Interpose

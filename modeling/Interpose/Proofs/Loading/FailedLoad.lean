import Interpose.Proofs.Loading.Steps

/-! # What a failed load leaves

A load that fails leaves every registry as it was. It leaves the modules as they were, too, whether
the class cannot be found, generated or written or its module fails, but for two cases. A module
that runs and does not bind its class stays: reading the class out of the module comes after the
step that takes a failed module back. The name is then lost to every registry that does not know it.
And where a name is registered without a value, a module that fails takes the one before it along.
-/
namespace Interpose

set_option autoImplicit false

open Stateful

namespace Generator

variable {g : Generator} {world : World} {target : TargetRef} {policy : Value} {p : Workspace}

theorem load_of_occupied {c : ClassRef} {bindings : List (String × Value)}
    (hDirectory : g.directory ≠ "") (hNamespace : g.namespaceName ≠ "")
    (hTarget : target.resolve world = .ok c)
    (hAbsent : p.registered? g.registry (g.classNameFor c) = none)
    (hModule : p.modules.lookup (g.classNameFor c) = some bindings)
    (hClass : bindings.lookup (lastPart (g.classNameFor c)) = none) :
    outcome (g.load world target policy) p = (.error (.moduleOccupied (g.classNameFor c)), p) := by
  have hDefined : outcome (Workspace.defined? g.registry (g.classNameFor c)) p
      = (.error (.moduleOccupied (g.classNameFor c)), p) := by
    rw [Workspace.defined?, outcome_get_bind]
    simp only [hAbsent, hModule, hClass]
    rfl
  rw [load, if_neg hDirectory, if_neg hNamespace, hTarget, outcome_bind, outcome_lift]
  dsimp only
  rw [outcome_bind, hDefined]

end Generator

/-- A failed load changes no registry, and no module either unless its own module has run without
binding the class or the name is registered without a value. -/
theorem failed_load_restores {g : Generator} {world : World} {target : TargetRef} {policy : Value}
    {failure : Failure} {p p' : Workspace}
    (h : outcome (g.load world target policy) p = (.error failure, p')) :
    p'.registries = p.registries ∧
      (p' = { p with storage := p'.storage } ∨
        ∃ c, target.resolve world = .ok c ∧
          let name := g.classNameFor c
          (p.registered? g.registry name = some .none ∧
            p' = { p with storage := p'.storage, modules := Entries.erase name p.modules }) ∨
          ∃ bindings, failure = .missingAttribute (lastPart name) ∧
            bindings.lookup (lastPart name) = none ∧
            p'.modules = (name, bindings) :: p.modules ∧
            ∀ (g' : Generator) (world' : World) (target' : TargetRef) (policy' : Value)
              (c' : ClassRef), g'.directory ≠ "" → g'.namespaceName ≠ "" →
              target'.resolve world' = .ok c' → g'.classNameFor c' = name →
              p.registered? g'.registry name = none →
              outcome (g'.load world' target' policy') p'
                = (.error (.moduleOccupied name), p')) := by
  generalize hResult : (Except.error failure : Except Failure String) = r at h
  cases Generator.load_cases h with
  | refused _ => exact ⟨rfl, .inl rfl⟩
  | registered _ _ _ => cases hResult
  | adopted _ _ _ _ => cases hResult
  | ungenerated _ _ _ _ _ => exact ⟨rfl, .inl rfl⟩
  | ran hTarget hFree hPolicy hStorage hRan =>
    cases hRan with
    | failed _ =>
      refine ⟨rfl, ?_⟩
      obtain hNone | ⟨-, hModule⟩ := hFree
      · exact .inr ⟨_, hTarget, .inl ⟨hNone, rfl⟩⟩
      · -- No module had the name, so that giving it back leaves the modules of before.
        left
        dsimp only
        rw [Entries.erase_eq_self hModule]
    | unbound classes next hClass =>
      cases hResult
      refine ⟨rfl, .inr ⟨_, hTarget, .inr ⟨_, rfl, hClass, rfl, ?_⟩⟩⟩
      intro g' world' target' policy' c' hDirectory hNamespace hTarget' hName hAbsent
      rw [← hName] at hClass hAbsent ⊢
      exact Generator.load_of_occupied hDirectory hNamespace hTarget' hAbsent
        List.lookup_cons_self hClass
    | bound _ _ _ => cases hResult

namespace Loading.Sample

def misled : Workspace := workspace (.assignment "x")

end Loading.Sample

open Loading.Sample in
/-- After the failure, every load of the name is refused. -/
theorem failed_load_restores_of_misled :
    ∃ p', outcome (generator.load world (.named "m:C") (.str "never")) misled
        = (.error (.missingAttribute "mCPersistent"), p') ∧ p'.registries = [] ∧
      ∀ policy, outcome (generator.load world (.cls target) policy) p'
        = (.error (.moduleOccupied "ns.mCPersistent"), p') := by
  have hFails : outcome (generator.load world (.named "m:C") (.str "never")) misled
      = (.error (.missingAttribute "mCPersistent"),
        { misled with modules := [("ns.mCPersistent", [("x", .int 1)])] }) := rfl
  obtain ⟨hRegistries, hSame | ⟨c, hTarget, ⟨hNone, -⟩ | ⟨bindings, -, -, -, hLater⟩⟩⟩ :=
    failed_load_restores hFails
  · cases congrArg Workspace.modules hSame
  · cases hTarget
    cases hNone
  · cases hTarget
    exact ⟨_, hFails, hRegistries, fun policy => hLater generator world (.cls target) policy target
      (by decide) (by decide) rfl rfl rfl⟩

open Loading.Sample in
/-- Where a load has failed because its file binds another name, the module stays, and a load that
would have succeeded without it is refused. -/
theorem failed_load_leaves_module :
    ∃ p', outcome (generator.load world (.named "m:C") (.str "never")) misled
        = (.error (.missingAttribute "mCPersistent"), p') ∧
      misled.modules = [] ∧ p'.modules = [("ns.mCPersistent", [("x", .int 1)])] ∧
      (outcome (generator.load world (.named "m:C") (.str "always")) misled).1
        = .ok "ns.mCPersistent" ∧
      (outcome (generator.load world (.named "m:C") (.str "always")) p').1
        = .error (.moduleOccupied "ns.mCPersistent") :=
  ⟨_, rfl, rfl, rfl, rfl, rfl⟩

end Interpose

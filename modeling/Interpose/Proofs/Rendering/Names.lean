import Interpose.Proofs.HintExpression
import Interpose.Proofs.Surface

/-! # The names in the hints of a target

The hints that are written for a target are those of the methods that are forwarded: of each method
first the hint of the result, then those of the parameters. The names in a hint are taken from left
to right.
-/
namespace Interpose

set_option autoImplicit false

namespace Method

/-- The hints of a method with the places where they are written, in the order of writing. -/
def hints (m : Method) : List (HintSite × TypeExpr) :=
  m.returns.toList.map (fun t => (⟨m, none⟩, t)) ++
    m.parameters.flatMap fun p => p.type.toList.map fun t => (⟨m, some p⟩, t)

end Method

namespace Target

def forwarded (target : Target) : List Method :=
  target.methods.filter fun m => m.IsForwarded

def hints (target : Target) : List (HintSite × TypeExpr) :=
  target.forwarded.flatMap Method.hints

end Target

/-- The names in some hints, each with the place of its hint. -/
def namesOf (hints : List (HintSite × TypeExpr)) : List (HintSite × NamedType) :=
  hints.flatMap fun hint => hint.2.names.map fun name => (hint.1, name)

theorem mem_namesOf {hints : List (HintSite × TypeExpr)} {name : HintSite × NamedType} :
    name ∈ namesOf hints ↔ ∃ hint ∈ hints, hint.1 = name.1 ∧ name.2 ∈ hint.2.names := by
  rw [namesOf, List.mem_flatMap]
  constructor
  · rintro ⟨hint, hHint, hMem⟩
    obtain ⟨t, hName, rfl⟩ := List.mem_map.1 hMem
    exact ⟨hint, hHint, rfl, hName⟩
  · rintro ⟨hint, hHint, hSite, hName⟩
    exact ⟨hint, hHint, List.mem_map.2 ⟨name.2, hName, Prod.ext hSite rfl⟩⟩

/-- What comes of a hint, at the top of its place. -/
abbrev Hint.write {S : Type} {M : Type → Type} [NameSource S M] [Monad M]
    [MonadExceptOf Failure M] (names : S) (hint : HintSite × TypeExpr) : M Rendered :=
  Hint.ofType names hint.1 true hint.2

/-- What is asked of the items of a declaration is asked of its parameters, as far as the marks
between them have nothing to say. -/
theorem flatMap_ofParameters {α : Type} {g : DeclItem Parameter → List α} (hSlash : g .slash = [])
    (hStar : g .star = []) (hasVariadic marked : Bool) (ps : List Parameter) :
    (DeclItem.ofParameters hasVariadic marked ps).flatMap g
      = ps.flatMap fun p => g (.parameter p) := by
  have hMark : ∀ (mark : DeclItem Parameter) (needed : Bool), g mark = [] →
      (if needed then [mark] else []).flatMap g = [] := by
    intro mark needed hNone
    cases needed <;> simp [hNone]
  induction ps generalizing marked with
  | nil => rfl
  | cons p ps ih =>
    rw [DeclItem.ofParameters, List.flatMap_append, List.flatMap_append, List.flatMap_append,
      hMark _ _ hSlash, hMark _ _ hStar, ih, List.nil_append, List.append_nil,
      List.flatMap_singleton, List.flatMap_cons]

end Interpose

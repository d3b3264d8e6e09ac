import Interpose.Proofs.HintText.Lexemes

/-! # Annotations are read by their grammar

A text is read exactly if the grammar derives it and its literals have values, and what it is read
as is the tree of the derivation. All derivations of a text have the same tree. Any other text is
refused with the message that it cannot be parsed.
-/
namespace Interpose

set_option autoImplicit false

open HintText

namespace HintText

theorem parse_eq_ok_iff {text : String} {tree : Node Value} :
    parse text = .ok tree ↔ ∃ spelled, spelled? text.toList = some spelled ∧
      spelled.mapLeaves? Spelling.read? = some tree := by
  rw [parse, parseShown]
  cases spelled? text.toList with
  | none => exact ⟨nofun, fun ⟨_, hNone, _⟩ => nomatch hNone⟩
  | some spelled =>
    dsimp only
    cases hRead : spelled.mapLeaves? Spelling.read? with
    | none =>
      refine ⟨nofun, ?_⟩
      rintro ⟨_, ⟨⟩, hSome⟩
      cases hRead.symm.trans hSome
    | some node =>
      constructor
      · rintro ⟨⟩
        exact ⟨spelled, rfl, hRead⟩
      · rintro ⟨_, ⟨⟩, hSome⟩
        cases hRead.symm.trans hSome
        rfl

theorem parse_of_not_derivable {text : String} (h : ∀ spelled, ¬ IsDerivable text.toList spelled) :
    parse text = .error (.malformedHint (Text.quote text)) := by
  have hNone : spelled? text.toList = none := by
    rw [Option.eq_none_iff_forall_ne_some]
    exact fun spelled hSpelled => h spelled (spelled?_eq_some_iff.1 hSpelled)
  rw [parse, parseShown, hNone]

/-- What a text is read as has a notation. -/
theorem isHint_of_parse {text : String} {tree : Node Value} (h : parse text = .ok tree) :
    tree.IsHint (fun _ => True) false := by
  obtain ⟨spelled, hSpelled, hRead⟩ := parse_eq_ok_iff.1 h
  have hHint := (spelled?_eq_some_iff.1 hSpelled).isHint
  exact Node.IsHint.of_mapLeaves? (fun _ _ _ _ => trivial) spelled hRead hHint

end HintText

/-- A text is read as a tree if and only if a tree with its literals spelled out can be derived from
the text and becomes that tree when the literals are read. Only one tree can be derived from a text.
If none can, then reading fails with the error of an annotation that cannot be parsed. -/
theorem hint_read_exactly (text : String) :
    (∀ tree, parse text = .ok tree ↔ ∃ spelled, IsDerivable text.toList spelled ∧
      spelled.mapLeaves? Spelling.read? = some tree) ∧
    (∀ spelled spelled', IsDerivable text.toList spelled → IsDerivable text.toList spelled' →
      spelled = spelled') ∧
    ((∀ spelled, ¬ IsDerivable text.toList spelled) →
      ∃ failure, parse text = .error failure ∧ failure.isIntrospection = true) := by
  refine ⟨fun tree => ?_, fun spelled spelled' h h' => ?_, fun h => ?_⟩
  · simp only [parse_eq_ok_iff, spelled?_eq_some_iff]
  · exact Option.some.inj ((spelled?_eq_some_iff.2 h).symm.trans (spelled?_eq_some_iff.2 h'))
  · exact ⟨_, parse_of_not_derivable h, rfl⟩

end Interpose

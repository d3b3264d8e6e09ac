import Interpose.Proofs.Conversion.Failures
import Mathlib.Order.WellFounded

/-! # Ranks of names

Every step of a conversion leads to less text, or to a smaller part of the same text, but for the
step from a name to what it means. So where the names have ranks that fall along that step, there
is no endless row of steps.
-/
namespace Interpose

set_option autoImplicit false

universe u

/-! ## Sizes of parts -/

theorem le_of_mem_of_total {α : Type} {size : α → Nat} {total : List α → Nat}
    (hTotal : ∀ x xs, total (x :: xs) = size x + total xs) {x : α} {xs : List α} (h : x ∈ xs) :
    size x ≤ total xs := by
  induction xs with
  | nil => cases h
  | cons first xs ih =>
    rw [hTotal]
    obtain rfl | h := List.mem_cons.1 h
    · omega
    · have := ih h
      omega

theorem Object.textSize_le_of_mem {object : Object} {objects : List Object} (h : object ∈ objects) :
    object.textSize ≤ Object.totalTextSize objects :=
  le_of_mem_of_total (fun _ _ => by rw [Object.totalTextSize]) h

theorem Value.textSize_le_of_mem {v : Value} {values : List Value} (h : v ∈ values) :
    v.textSize ≤ Value.totalTextSize values :=
  le_of_mem_of_total (fun _ _ => by rw [Value.totalTextSize]) h

namespace HintText

theorem Node.size_le_of_mem {node : Node Value} {nodes : List (Node Value)} (h : node ∈ nodes) :
    node.size Value.textSize ≤ Node.totalSize Value.textSize nodes :=
  le_of_mem_of_total (fun _ _ => by rw [Node.totalSize]) h

/-- A literal counts with the text that it is converted as. -/
theorem textSize_eq_literalSize {spelling : Spelling} {v : Value} (h : spelling.read? = some v) :
    v.textSize = literalSize v := by
  cases spelling with
  | text content =>
    obtain ⟨points, -, rfl⟩ := Option.map_eq_some_iff.1 h
    rw [Value.ofCodePoints]
    split <;> rfl
  | number parts =>
    rw [Spelling.read?, readNumber] at h
    split at h
    · cases h
      rfl
    split at h
    · cases h
      rfl
    split at h
    · cases h
    · cases h
      rfl

theorem size_parse {text : String} {node : Node Value} (h : parse text = .ok node) :
    node.size Value.textSize ≤ text.toList.length := by
  rw [parse, parseShown] at h
  split at h
  next => cases h
  next spelled hSpelled =>
    split at h
    next => cases h
    next hRead =>
      cases h
      refine (Node.size_mapLeaves? (fun spelling v hLeaf => ?_) spelled node hRead).trans
        (size_spelled? hSpelled)
      exact textSize_eq_literalSize hLeaf ▸ literalSize_read? spelling v hLeaf

end HintText

namespace Conversion

open HintText

/-- The text that is left to read, and the size of what holds it. -/
noncomputable def Subject.size : Subject → Nat × Nat
  | .object whole => (whole.textSize, sizeOf whole)
  | .value whole => (whole.textSize, sizeOf whole)
  | .text whole => (whole.toList.length + 1, 0)
  | .node whole => (whole.size Value.textSize, sizeOf whole)
  | .name _ => (1, 0)

theorem textSize_of_textOf? {v : Value} {text : String} (h : textOf? v = some text) :
    text.toList.length + 2 ≤ v.textSize := by
  unfold textOf? at h
  split at h
  all_goals first | contradiction | (cases h; simp [Value.textSize, Text.BrokenText.masked])

variable {ns : Namespace}

/-- A step that does not follow a name leads to less text, or to a part. -/
theorem Leads.size_lt {whole part : Subject} (h : Leads ns whole part)
    (hName : ∀ dotted, whole ≠ .name dotted) :
    Prod.Lex (· < ·) (· < ·) part.size whole.size := by
  rw [Prod.lex_def]
  cases h with
  | unionMember h | argument h | item h =>
    have := Object.textSize_le_of_mem h
    have := List.sizeOf_lt_of_mem h
    simp [Subject.size, Object.textSize]
    omega
  | valueItem h =>
    have := Value.textSize_le_of_mem h
    have := List.sizeOf_lt_of_mem h
    simp [Subject.size, Value.textSize]
    omega
  | member h | operand h | entry h | nodeArgument _ _ h =>
    have := Node.size_le_of_mem h
    have := List.sizeOf_lt_of_mem h
    simp [Subject.size, Node.size]
    omega
  | value | forward => simp [Subject.size, Object.textSize]
  | base | origin =>
    simp [Subject.size, Object.textSize]
    omega
  | valueText h | quoted h =>
    have := textSize_of_textOf? h
    simp [Subject.size, Node.size]
    omega
  | tree h =>
    have := size_parse h
    simp [Subject.size]
    omega
  -- A name is as long as the tree that consists of it, so the second component decides.
  | name => simp [Subject.size, Node.size]
  | nodeOrigin | nodeBase =>
    simp [Subject.size, Node.size, Node.totalSize]
    omega
  | found => exact absurd rfl (hName _)

/-- The names that something is converted with, before any of them is followed. -/
inductive Mentions (ns : Namespace) : Subject → String → Prop where
  | here (dotted : String) : Mentions ns (.name dotted) dotted
  | part {whole part : Subject} {dotted : String} (hLeads : Leads ns whole part)
      (hName : ∀ name, whole ≠ .name name) (h : Mentions ns part dotted) : Mentions ns whole dotted

/-- Whether what a name means only mentions names of smaller rank. -/
def IsRankedBy {Rank : Type u} [LT Rank] (ns : Namespace) (rank : String → Rank) : Prop :=
  ∀ {dotted other : String} {found : Found}, ns.find dotted = some found →
    Mentions ns (.object found.object) other → rank other < rank dotted

/-- Where no endless row of steps starts. -/
def IsGrounded (ns : Namespace) (subject : Subject) : Prop :=
  Acc (fun part whole => Leads ns whole part) subject

/-- Up to the names that something mentions there are finitely many steps. -/
theorem isGrounded_of_mentions (subject : Subject)
    (h : ∀ dotted, Mentions ns subject dotted → IsGrounded ns (.name dotted)) :
    IsGrounded ns subject := by
  by_cases hName : ∃ dotted, subject = .name dotted
  · obtain ⟨dotted, rfl⟩ := hName
    exact h dotted (.here dotted)
  · have hOther : ∀ dotted, subject ≠ .name dotted := fun dotted hEq => hName ⟨dotted, hEq⟩
    -- What a part mentions before a name is followed, the whole mentions as well.
    refine Acc.intro subject fun part hLeads => ?_
    exact isGrounded_of_mentions part fun dotted hMentions =>
      h dotted (.part hLeads hOther hMentions)
termination_by subject.size
decreasing_by exact hLeads.size_lt hOther

variable {Rank : Type u} [Preorder Rank] [WellFoundedLT Rank] {rank : String → Rank}

theorem IsRankedBy.name (hRanked : IsRankedBy ns rank) (dotted : String) :
    IsGrounded ns (.name dotted) := by
  induction hRank : rank dotted using WellFoundedLT.induction generalizing dotted with
  | ind _ ih =>
    refine Acc.intro _ fun part hLeads => ?_
    cases hLeads with
    | found hFind =>
      refine isGrounded_of_mentions _ fun other hMentions => ?_
      exact ih (rank other) (hRank ▸ hRanked hFind hMentions) other rfl

/-- Where the names have ranks, no endless row of steps starts. -/
theorem IsRankedBy.isGrounded (hRanked : IsRankedBy ns rank) (subject : Subject) :
    IsGrounded ns subject :=
  isGrounded_of_mentions subject fun dotted _ => hRanked.name dotted

end Conversion
end Interpose

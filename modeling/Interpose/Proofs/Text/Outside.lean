import Interpose.Proofs.Text.Cutting

/-! # Cutting outside brackets and quotes

A row of expressions is cut at its commas, but not at a comma in brackets or in a quoted text. A
text is closed if all brackets and quotes that it opens are closed again in it, and none of some
marks stands outside of them. A row of closed texts is cut back into just these texts.
-/
namespace Interpose.Text

set_option autoImplicit false

/-! ## Cursors -/

/-- Where a reader of source text is: outside of quotes at a depth of brackets, in a quoted text, or
behind a backslash in it. -/
inductive Cursor where
  | outside (depth : Nat)
  | quoted (quote : Char) (depth : Nat)
  | escaped (quote : Char) (depth : Nat)
  deriving DecidableEq, Repr

def openings : List Char := ['(', '[', '\x7b']

def closings : List Char := [')', ']', '\x7d']

def quotes : List Char := ['\'', '"']

namespace Cursor

def next : Cursor → Char → Cursor
  | .outside depth, c =>
    if quotes.contains c then .quoted c depth
    else if openings.contains c then .outside (depth + 1)
    else if closings.contains c then .outside (depth - 1)
    else .outside depth
  | .quoted quote depth, c =>
    if c = '\\' then .escaped quote depth
    else if c = quote then .outside depth
    else .quoted quote depth
  | .escaped quote depth, _ => .quoted quote depth

/-- Whether a character may not stand at a cursor: outside of all brackets and quotes, this is a
closing bracket or one of some marks. -/
def refuses (marks : List Char) (cursor : Cursor) (c : Char) : Bool :=
  cursor == .outside 0 && (closings ++ marks).contains c

def next? (marks : List Char) (cursor : Cursor) (c : Char) : Option Cursor :=
  if cursor.refuses marks c then none else some (cursor.next c)

def run? (marks : List Char) (cursor : Cursor) (cs : List Char) : Option Cursor :=
  cs.foldlM (next? marks) cursor

/-- The cursor that is in one bracket more. -/
def deeper : Cursor → Cursor
  | .outside depth => .outside (depth + 1)
  | .quoted quote depth => .quoted quote (depth + 1)
  | .escaped quote depth => .escaped quote (depth + 1)

variable {marks fewer : List Char} {cursor cursor' : Cursor} {c : Char} {cs ds : List Char}

theorem run?_cons (marks : List Char) (cursor : Cursor) (c : Char) (cs : List Char) :
    run? marks cursor (c :: cs) = (next? marks cursor c).bind fun next => run? marks next cs :=
  List.foldlM_cons ..

theorem run?_append (h : run? marks cursor cs = some cursor') (ds : List Char) :
    run? marks cursor (cs ++ ds) = run? marks cursor' ds := by
  rw [run?, List.foldlM_append, ← run?, h]
  rfl

theorem next?_eq_some_iff :
    next? marks cursor c = some cursor' ↔ cursor.refuses marks c = false ∧ cursor.next c = cursor' := by
  rw [next?]
  cases cursor.refuses marks c <;> simp

theorem refuses_deeper (marks : List Char) (cursor : Cursor) (c : Char) :
    cursor.deeper.refuses marks c = false := by
  cases cursor <;> rfl

theorem next_deeper (h : cursor.refuses marks c = false) :
    cursor.deeper.next c = (cursor.next c).deeper := by
  cases cursor with
  | outside depth =>
    simp only [deeper, next]
    split
    · rfl
    split
    · rfl
    split
    next hClosing =>
      -- A closing bracket is not refused only if there is one to close.
      cases depth with
      | zero => simp [refuses, List.contains_iff_mem.1 hClosing] at h
      | succ depth => rfl
    next => rfl
  | quoted quote depth =>
    simp only [deeper, next]
    split
    · rfl
    split <;> rfl
  | escaped quote depth => rfl

/-- In one bracket more, a reader does the same, and no mark is in its way. -/
theorem run?_deeper (more : List Char) (h : run? marks cursor cs = some cursor') :
    run? more cursor.deeper cs = some cursor'.deeper := by
  induction cs generalizing cursor with
  | nil =>
    cases h
    rfl
  | cons c cs ih =>
    rw [run?_cons] at h ⊢
    obtain ⟨next, hNext, hRest⟩ := Option.bind_eq_some_iff.1 h
    obtain ⟨hTaken, rfl⟩ := next?_eq_some_iff.1 hNext
    rw [next?_eq_some_iff.2 ⟨refuses_deeper more cursor c, next_deeper hTaken⟩]
    exact ih hRest

theorem refuses_of_subset (hFewer : fewer ⊆ marks) (h : cursor.refuses marks c = false) :
    cursor.refuses fewer c = false := by
  simp only [refuses, Bool.and_eq_false_iff, List.contains_eq_mem, List.mem_append,
    decide_eq_false_iff_not, not_or] at h ⊢
  exact h.imp_right fun hOther => ⟨hOther.1, fun hMem => hOther.2 (hFewer hMem)⟩

theorem run?_of_subset (hFewer : fewer ⊆ marks) (h : run? marks cursor cs = some cursor') :
    run? fewer cursor cs = some cursor' := by
  induction cs generalizing cursor with
  | nil => exact h
  | cons c cs ih =>
    rw [run?_cons] at h ⊢
    obtain ⟨next, hNext, hRest⟩ := Option.bind_eq_some_iff.1 h
    obtain ⟨hTaken, rfl⟩ := next?_eq_some_iff.1 hNext
    rw [next?_eq_some_iff.2 ⟨refuses_of_subset hFewer hTaken, rfl⟩]
    exact ih hRest

end Cursor

/-! ## Closed texts -/

open Cursor

/-- Whether all brackets and quotes are closed that some characters open, and none of some marks
stands outside of them. -/
def IsClosed (marks cs : List Char) : Prop :=
  run? marks (.outside 0) cs = some (.outside 0)

instance (marks cs : List Char) : Decidable (IsClosed marks cs) :=
  inferInstanceAs (Decidable (_ = _))

/-- The characters that stand for themselves outside of brackets and quotes. -/
def isPlain (marks : List Char) (c : Char) : Bool :=
  !(quotes ++ openings ++ closings ++ marks).contains c

section Closed

variable {marks cs ds : List Char} {c opening closing quote : Char}

theorem isClosed_nil (marks : List Char) : IsClosed marks [] :=
  rfl

theorem IsClosed.append (h : IsClosed marks cs) (h' : IsClosed marks ds) :
    IsClosed marks (cs ++ ds) :=
  (run?_append h ds).trans h'

theorem next?_of_isPlain (h : isPlain marks c = true) (depth : Nat) :
    next? marks (.outside depth) c = some (.outside depth) := by
  simp only [isPlain, Bool.not_eq_true', List.contains_eq_mem, decide_eq_false_iff_not,
    List.mem_append, not_or] at h
  obtain ⟨⟨⟨hQuote, hOpening⟩, hClosing⟩, hMark⟩ := h
  refine next?_eq_some_iff.2 ⟨?_, ?_⟩
  · simp [refuses, hClosing, hMark]
  · simp [next, hQuote, hOpening, hClosing]

theorem run?_of_isPlain (h : ∀ c ∈ cs, isPlain marks c = true) (depth : Nat) :
    run? marks (.outside depth) cs = some (.outside depth) := by
  induction cs with
  | nil => rfl
  | cons c cs ih =>
    obtain ⟨hFirst, hOthers⟩ := List.forall_mem_cons.1 h
    rw [run?_cons, next?_of_isPlain hFirst]
    exact ih hOthers

theorem isClosed_of_isPlain (h : ∀ c ∈ cs, isPlain marks c = true) : IsClosed marks cs :=
  run?_of_isPlain h 0

theorem IsClosed.of_subset {fewer : List Char} (hFewer : fewer ⊆ marks) (h : IsClosed marks cs) :
    IsClosed fewer cs :=
  run?_of_subset hFewer h

/-- Between brackets, any marks may stand. -/
theorem IsClosed.bracketed (h : IsClosed [] cs) (hOpening : opening ∈ openings)
    (hClosing : closing ∈ closings) (hMark : opening ∉ marks) :
    IsClosed marks (opening :: (cs ++ [closing])) := by
  have hOpen : next? marks (.outside 0) opening = some (.outside 1) := by
    rw [openings, List.mem_cons, List.mem_cons, List.mem_singleton] at hOpening
    obtain rfl | rfl | rfl := hOpening <;>
      exact next?_eq_some_iff.2 ⟨by simpa [refuses, closings] using hMark, rfl⟩
  have hClose : next? marks (.outside 1) closing = some (.outside 0) := by
    rw [closings, List.mem_cons, List.mem_cons, List.mem_singleton] at hClosing
    obtain rfl | rfl | rfl := hClosing <;> rfl
  have hContent : run? marks (.outside 1) cs = some (.outside 1) := run?_deeper marks h
  rw [IsClosed, run?_cons, hOpen]
  show run? marks (.outside 1) (cs ++ [closing]) = _
  rw [run?_append hContent, run?_cons, hClose]
  rfl

end Closed

/-! ## Cutting -/

/-- Cuts characters at the marks that stand outside of brackets and quotes, unless some of these are
not in pairs. -/
def cutOutside (mark : Char) : Cursor → List Char → Option (List (List Char))
  | cursor, [] => if cursor = .outside 0 then some [[]] else none
  | cursor, c :: cs =>
    if cursor = .outside 0 ∧ c = mark then (cutOutside mark cursor cs).map ([] :: ·)
    else if cursor.refuses [] c then none
    else
      match cutOutside mark (cursor.next c) cs with
      | some (part :: parts) => some ((c :: part) :: parts)
      | _ => none

section Cutting

variable {mark : Char} {cursor : Cursor} {cs rest : List Char}

/-- Characters without the mark outside of brackets and quotes go to the first part as a whole. -/
theorem cutOutside_append {cursor' : Cursor} {part : List Char} {parts : List (List Char)}
    (h : run? [mark] cursor cs = some cursor')
    (hRest : cutOutside mark cursor' rest = some (part :: parts)) :
    cutOutside mark cursor (cs ++ rest) = some ((cs ++ part) :: parts) := by
  induction cs generalizing cursor with
  | nil =>
    cases h
    exact hRest
  | cons c cs ih =>
    rw [run?_cons] at h
    obtain ⟨next, hNext, hOthers⟩ := Option.bind_eq_some_iff.1 h
    obtain ⟨hTaken, rfl⟩ := next?_eq_some_iff.1 hNext
    have hMark : ¬ (cursor = .outside 0 ∧ c = mark) := by
      rintro ⟨rfl, rfl⟩
      simp [refuses] at hTaken
    have hClosing : ¬ cursor.refuses [] c = true := by
      rw [refuses_of_subset (List.nil_subset _) hTaken]
      exact Bool.false_ne_true
    rw [List.cons_append, cutOutside, if_neg hMark, if_neg hClosing, ih hOthers]
    rfl

theorem cutOutside_of_isClosed (h : IsClosed [mark] cs) :
    cutOutside mark (.outside 0) cs = some [cs] := by
  have hNothing : cutOutside mark (.outside 0) [] = some [[]] := rfl
  have hAll := cutOutside_append h hNothing
  rwa [List.append_nil] at hAll

/-- A closed text in front of a mark is the first part, and the rest is cut on its own. -/
theorem cutOutside_of_isClosed_append {parts : List (List Char)} (h : IsClosed [mark] cs)
    (hRest : cutOutside mark (.outside 0) rest = some parts) :
    cutOutside mark (.outside 0) (cs ++ mark :: rest) = some (cs :: parts) := by
  have hMark : cutOutside mark (.outside 0) (mark :: rest) = some ([] :: parts) := by
    rw [cutOutside, if_pos ⟨rfl, rfl⟩, hRest]
    rfl
  rw [cutOutside_append h hMark, List.append_nil]

/-- A row of closed texts is cut at the commas between them. -/
theorem cutOutside_intercalate {first : String} {others : List String}
    (h : ∀ text ∈ first :: others, IsClosed [','] text.toList) :
    cutOutside ',' (.outside 0) (", ".intercalate (first :: others)).toList
      = some (first.toList :: others.map fun text => ' ' :: text.toList) := by
  induction others generalizing first with
  | nil =>
    rw [String.intercalate_singleton]
    exact cutOutside_of_isClosed (h first List.mem_cons_self)
  | cons second others ih =>
    obtain ⟨hFirst, hOthers⟩ := List.forall_mem_cons.1 h
    have hBlank : run? [','] (.outside 0) [' '] = some (.outside 0) := rfl
    have hRest := cutOutside_append hBlank (ih hOthers)
    rw [String.intercalate_cons_of_ne_nil (List.cons_ne_nil _ _), String.toList_append,
      String.toList_append, List.append_assoc]
    exact cutOutside_of_isClosed_append hFirst hRest

end Cutting

end Interpose.Text

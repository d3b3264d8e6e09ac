import Interpose.Decimal.Reading
import Interpose.Proofs.Text.Cutting

/-! # The spelling of numbers

A number is spelled with a sign that may be missing, digits with a point among them, in front of
them or behind them, and an exponent that may be missing. A text is cut behind such a number, and
behind the whole of it wherever no further part of a number follows.
-/
namespace Interpose.Decimal

set_option autoImplicit false

/-! ## The parts of a number -/

def AreDigits (cs : List Char) : Prop :=
  ∀ c ∈ cs, c.isDigit = true

/-- A sign, and whether it is a minus. -/
inductive IsSign : Bool → List Char → Prop where
  | none : IsSign false []
  | plus : IsSign false ['+']
  | minus : IsSign true ['-']

/-- The digits in front of a point and those behind it, if there is one; not both may be missing. -/
inductive IsBody : List Char → Option (List Char) → List Char → Prop where
  | whole {digits : List Char} (hDigits : AreDigits digits) (hSome : digits ≠ []) :
      IsBody digits none digits
  | pointed {digits fraction : List Char} (hDigits : AreDigits digits)
      (hFraction : AreDigits fraction) (hSome : digits ≠ [] ∨ fraction ≠ []) :
      IsBody digits (some fraction) (digits ++ '.' :: fraction)

inductive IsExponent : Option Int → List Char → Prop where
  | none : IsExponent none []
  | some {letter : Char} {negative : Bool} {sign digits : List Char}
      (hLetter : letter = 'e' ∨ letter = 'E') (hSign : IsSign negative sign)
      (hDigits : AreDigits digits) (hSome : digits ≠ []) :
      IsExponent (some (if negative then -(digitsValue digits : Int) else digitsValue digits))
        (letter :: sign ++ digits)

inductive IsNumber : Numeral → List Char → Prop where
  | of {negative : Bool} {whole sign body tail : List Char} {fraction : Option (List Char)}
      {exponent : Option Int} (hSign : IsSign negative sign) (hBody : IsBody whole fraction body)
      (hExponent : IsExponent exponent tail) :
      IsNumber ⟨negative, whole, fraction, exponent⟩ (sign ++ body ++ tail)

/-- Whether a text, standing behind a number, does not continue it. -/
def EndsNumber : List Char → Prop
  | [] => True
  | c :: _ => c.isDigit = false ∧ c ≠ '.' ∧ c ≠ 'e' ∧ c ≠ 'E'

def continuesNumber (c : Char) : Bool :=
  c.isDigit || c == '.' || c == 'e' || c == 'E'

section Ends

variable {rest : List Char}

theorem endsNumber_of_head (h : ∀ c ∈ rest.head?, continuesNumber c = false) : EndsNumber rest := by
  cases rest with
  | nil => trivial
  | cons c rest =>
    have hHead := h c rfl
    simp only [continuesNumber, Bool.or_eq_false_iff, beq_eq_false_iff_ne] at hHead
    obtain ⟨⟨⟨hDigit, hPoint⟩, hSmall⟩, hLarge⟩ := hHead
    exact ⟨hDigit, hPoint, hSmall, hLarge⟩

theorem EndsNumber.noPoint (h : EndsNumber rest) :
    ∀ c ∈ rest.head?, c.isDigit = false ∧ c ≠ '.' := by
  cases rest with
  | nil => exact nofun
  | cons c rest =>
    intro d hMem
    obtain rfl : c = d := Option.some.inj hMem
    exact ⟨h.1, h.2.1⟩

theorem EndsNumber.noDigit (h : EndsNumber rest) : ∀ c ∈ rest.head?, c.isDigit = false :=
  fun c hMem => (h.noPoint c hMem).1

theorem EndsNumber.noLetter (h : EndsNumber rest) : takeExponent rest = (none, rest) := by
  cases rest with
  | nil => rfl
  | cons c rest =>
    rw [takeExponent, if_neg]
    rintro (rfl | rfl)
    · exact h.2.2.1 rfl
    · exact h.2.2.2 rfl

end Ends

/-! ## Numbers are taken as a whole -/

theorem takeDigits_append {digits rest : List Char} (hDigits : AreDigits digits)
    (hRest : ∀ c ∈ rest.head?, c.isDigit = false) :
    takeDigits (digits ++ rest) = (digits, rest) := by
  rw [takeDigits, Text.takeWhile_append_of_ends hDigits hRest,
    Text.dropWhile_append_of_ends hDigits hRest]

theorem IsSign.take {negative : Bool} {sign rest : List Char} (h : IsSign negative sign)
    (hRest : ∀ c ∈ rest.head?, c ≠ '-' ∧ c ≠ '+') : takeSign (sign ++ rest) = (negative, rest) := by
  cases h with
  | plus | minus => rfl
  | none =>
    rw [List.nil_append]
    unfold takeSign
    split
    next => exact absurd rfl (hRest '-' rfl).1
    next => exact absurd rfl (hRest '+' rfl).2
    next => rfl

theorem noSign_of_isDigit {c : Char} (h : c.isDigit = true) : c ≠ '-' ∧ c ≠ '+' := by
  constructor <;> rintro rfl <;> exact absurd h (by decide)

theorem IsExponent.take {exponent : Option Int} {tail rest : List Char}
    (h : IsExponent exponent tail) (hRest : EndsNumber rest) :
    takeExponent (tail ++ rest) = (exponent, rest) := by
  cases h with
  | none => exact hRest.noLetter
  | @some letter negative sign digits hLetter hSign hDigits hSome =>
    have hTakeSign : takeSign (sign ++ (digits ++ rest)) = (negative, digits ++ rest) := by
      obtain ⟨d, digits, rfl⟩ := List.exists_cons_of_ne_nil hSome
      refine hSign.take ?_
      rintro _ ⟨⟩
      exact noSign_of_isDigit (hDigits d List.mem_cons_self)
    rw [List.cons_append, List.cons_append, takeExponent, if_pos hLetter, List.append_assoc,
      hTakeSign]
    simp only [takeDigits_append hDigits hRest.noDigit, if_neg hSome]

theorem IsBody.noSign {whole body : List Char} {fraction : Option (List Char)}
    (h : IsBody whole fraction body) (rest : List Char) :
    ∀ c ∈ (body ++ rest).head?, c ≠ '-' ∧ c ≠ '+' := by
  cases h with
  | whole hDigits hSome =>
    obtain ⟨d, digits, rfl⟩ := List.exists_cons_of_ne_nil hSome
    rintro _ ⟨⟩
    exact noSign_of_isDigit (hDigits d List.mem_cons_self)
  | pointed hDigits _ _ =>
    cases whole with
    | nil =>
      rintro _ ⟨⟩
      decide
    | cons d digits =>
      rintro _ ⟨⟩
      exact noSign_of_isDigit (hDigits d List.mem_cons_self)

theorem IsExponent.noPoint {exponent : Option Int} {tail rest : List Char}
    (h : IsExponent exponent tail) (hRest : EndsNumber rest) :
    ∀ c ∈ (tail ++ rest).head?, c.isDigit = false ∧ c ≠ '.' := by
  cases h with
  | none => exact hRest.noPoint
  | some hLetter _ _ _ =>
    rintro c ⟨⟩
    rcases hLetter with rfl | rfl <;> decide

/-- Where nothing continues a number, it is taken as a whole. -/
theorem IsNumber.take {n : Numeral} {cs rest : List Char} (h : IsNumber n cs)
    (hRest : EndsNumber rest) : takeNumber (cs ++ rest) = some (n, rest) := by
  cases h with
  | @of negative whole sign body tail fraction exponent hSign hBody hExponent =>
    have hTail := hExponent.noPoint hRest
    have hTake := hExponent.take hRest
    generalize hAfter : tail ++ rest = after at hTail hTake
    have hSplit : sign ++ body ++ tail ++ rest = sign ++ (body ++ after) := by
      rw [← hAfter]
      simp only [List.append_assoc]
    rw [hSplit, takeNumber, hSign.take (hBody.noSign after)]
    cases hBody with
    | whole hDigits hSome =>
      simp only [takeDigits_append hDigits fun c hMem => (hTail c hMem).1]
      cases after with
      | nil => simp [hSome, hTake]
      | cons c after =>
        have hPoint : c ≠ '.' := (hTail c rfl).2
        simp [hSome, hTake, hPoint]
    | @pointed fraction hDigits hFraction hSome =>
      have hWhole : takeDigits (whole ++ '.' :: (fraction ++ after))
          = (whole, '.' :: (fraction ++ after)) :=
        takeDigits_append hDigits (by rintro c ⟨⟩; rfl)
      have hNot : ¬ (whole = [] ∧ fraction = []) := fun hNone =>
        hSome.elim (· hNone.1) (· hNone.2)
      rw [List.append_assoc, List.cons_append]
      simp [hWhole, takeDigits_append hFraction fun c hMem => (hTail c hMem).1, hNot, hTake]

/-! ## What is taken is a number -/

theorem takeDigits_cut (cs : List Char) :
    AreDigits (takeDigits cs).1 ∧ (takeDigits cs).1 ++ (takeDigits cs).2 = cs :=
  ⟨fun c hMem => List.all_eq_true.1 List.all_takeWhile c hMem, List.takeWhile_append_dropWhile⟩

theorem takeSign_cut (cs : List Char) :
    ∃ sign, IsSign (takeSign cs).1 sign ∧ sign ++ (takeSign cs).2 = cs := by
  unfold takeSign
  split
  · exact ⟨['-'], .minus, rfl⟩
  · exact ⟨['+'], .plus, rfl⟩
  · exact ⟨[], .none, rfl⟩

theorem takeExponent_cut (cs : List Char) :
    ∃ tail, IsExponent (takeExponent cs).1 tail ∧ tail ++ (takeExponent cs).2 = cs := by
  cases cs with
  | nil => exact ⟨[], .none, rfl⟩
  | cons c cs =>
    rw [takeExponent]
    split
    next hLetter =>
      obtain ⟨sign, hSign, hUnsigned⟩ := takeSign_cut cs
      obtain ⟨hDigits, hCut⟩ := takeDigits_cut (takeSign cs).2
      dsimp only
      split
      next => exact ⟨[], .none, rfl⟩
      next hSome =>
        refine ⟨_, .some hLetter hSign hDigits hSome, ?_⟩
        rw [List.cons_append, List.cons_append, List.append_assoc, hCut, hUnsigned]
    next => exact ⟨[], .none, rfl⟩

theorem isNumber_of_takeNumber {cs rest : List Char} {n : Numeral}
    (h : takeNumber cs = some (n, rest)) : ∃ number, IsNumber n number ∧ number ++ rest = cs := by
  obtain ⟨sign, hSign, hUnsigned⟩ := takeSign_cut cs
  obtain ⟨hWhole, hCut⟩ := takeDigits_cut (takeSign cs).2
  rw [takeNumber] at h
  generalize takeSign cs = signed at *
  obtain ⟨negative, unsigned⟩ := signed
  dsimp only at hSign hUnsigned hWhole hCut h
  generalize takeDigits unsigned = split at *
  obtain ⟨whole, after⟩ := split
  dsimp only at hWhole hCut h
  have hFinish : ∀ fraction body behind, IsBody whole fraction body → body ++ behind = unsigned →
      some (⟨negative, whole, fraction, (takeExponent behind).1⟩, (takeExponent behind).2)
        = some (n, rest) → ∃ number, IsNumber n number ∧ number ++ rest = cs := by
    rintro fraction body behind hBody hBehind ⟨⟩
    obtain ⟨tail, hExponent, hTail⟩ := takeExponent_cut behind
    refine ⟨_, .of hSign hBody hExponent, ?_⟩
    rw [List.append_assoc, List.append_assoc, hTail, hBehind, hUnsigned]
  split at h
  next tail =>
    obtain ⟨hFraction, hSplit⟩ := takeDigits_cut tail
    by_cases hNone : whole = [] ∧ (takeDigits tail).1 = []
    · simp [hNone] at h
    · have hSome : whole ≠ [] ∨ (takeDigits tail).1 ≠ [] := Decidable.not_and_iff_not_or_not.1 hNone
      rw [if_neg hNone] at h
      refine hFinish (some (takeDigits tail).1) _ (takeDigits tail).2
        (.pointed hWhole hFraction hSome) ?_ ?_
      · rw [List.append_assoc, List.cons_append, hSplit, hCut]
      · simpa using h
  next =>
    by_cases hNone : whole = []
    · simp [hNone] at h
    · refine hFinish none whole after (.whole hWhole hNone) hCut ?_
      simpa [hNone] using h

end Interpose.Decimal

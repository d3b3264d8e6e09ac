import Interpose.Proofs.Decimal.Rounding
import Interpose.Proofs.Decimal.Spelling

/-! # Written numbers are read back

The text of a number is cut into its parts wherever no further part of a number follows. The parts
of a whole number have its value, and those of a floating-point number denote a decimal that rounds
to it.
-/
namespace Interpose.Decimal

set_option autoImplicit false

/-! ## Digits -/

theorem areDigits_toDigits (n : Nat) : AreDigits (Nat.toDigits 10 n) :=
  fun _ h => Nat.isDigit_of_mem_toDigits (by decide) (by decide) h

theorem areDigits_zeros (count : Nat) : AreDigits (List.replicate count '0') := by
  intro c h
  rw [List.eq_of_mem_replicate h]
  rfl

theorem AreDigits.append {xs ys : List Char} (hXs : AreDigits xs) (hYs : AreDigits ys) :
    AreDigits (xs ++ ys) :=
  fun c h => (List.mem_append.1 h).elim (hXs c) (hYs c)

theorem digitsValue_toDigits (n : Nat) : digitsValue (Nat.toDigits 10 n) = n :=
  Nat.ofDigitChars_ten_toDigits

theorem digitsValue_append_zeros (digits : List Char) (count : Nat) :
    digitsValue (digits ++ List.replicate count '0') = digitsValue digits * 10 ^ count := by
  unfold digitsValue
  rw [Nat.ofDigitChars_append, Nat.ofDigitChars_replicate_zero, Nat.mul_comm]

theorem digitsValue_zeros_append (count : Nat) (digits : List Char) :
    digitsValue (List.replicate count '0' ++ digits) = digitsValue digits := by
  unfold digitsValue
  rw [Nat.ofDigitChars_append, Nat.ofDigitChars_replicate_zero, Nat.mul_zero]

theorem digitsValue_exponentDigits (n : Nat) : digitsValue (exponentDigits n) = n := by
  unfold exponentDigits
  split
  · exact (digitsValue_zeros_append 1 _).trans (digitsValue_toDigits n)
  · exact digitsValue_toDigits n

theorem areDigits_exponentDigits (n : Nat) : AreDigits (exponentDigits n) := by
  unfold exponentDigits
  split
  · exact (areDigits_zeros 1).append (areDigits_toDigits n)
  · exact areDigits_toDigits n

theorem exponentDigits_ne_nil (n : Nat) : exponentDigits n ≠ [] := by
  unfold exponentDigits
  split
  · exact List.cons_ne_nil _ _
  · exact Nat.toDigits_ne_nil

theorem dropFinalZeros_append (digits : List Char) :
    ∃ zeros, dropFinalZeros digits ++ List.replicate zeros '0' = digits := by
  have hZeros : digits.reverse.takeWhile (· == '0')
      = List.replicate (digits.reverse.takeWhile (· == '0')).length '0' := by
    refine List.eq_replicate_of_mem fun c hMem => ?_
    exact beq_iff_eq.1 (List.all_eq_true.1 List.all_takeWhile c hMem)
  refine ⟨(digits.reverse.takeWhile (· == '0')).length, ?_⟩
  rw [dropFinalZeros, ← List.reverse_inj, List.reverse_append, List.reverse_replicate, ← hZeros,
    List.reverse_reverse, List.takeWhile_append_dropWhile]

/-! ## The parts of a number -/

def pointed : Option (List Char) → List Char
  | none => []
  | some digits => '.' :: digits

def signed (negative : Bool) : List Char :=
  if negative then ['-'] else []

theorem isSign_signed (negative : Bool) : IsSign negative (signed negative) := by
  cases negative with
  | false => exact .none
  | true => exact .minus

theorem isBody_pointed {whole : List Char} {fraction : Option (List Char)}
    (hWhole : AreDigits whole) (hSome : whole ≠ [])
    (hFraction : ∀ digits ∈ fraction, AreDigits digits) :
    IsBody whole fraction (whole ++ pointed fraction) := by
  cases fraction with
  | none =>
    rw [pointed, List.append_nil]
    exact .whole hWhole hSome
  | some digits => exact .pointed hWhole (hFraction digits rfl) (.inl hSome)

theorem isExponent_digits (exponent : Int) :
    IsExponent (some exponent) ('e' :: (if exponent < 0 then '-' else '+')
      :: exponentDigits exponent.natAbs) := by
  have hDigits := areDigits_exponentDigits exponent.natAbs
  have hSome := exponentDigits_ne_nil exponent.natAbs
  by_cases hSign : exponent < 0
  · have hExponent := IsExponent.some (.inl rfl) .minus hDigits hSome
    rw [if_pos rfl, digitsValue_exponentDigits, show -(exponent.natAbs : Int) = exponent by omega]
      at hExponent
    rwa [if_pos hSign]
  · have hExponent := IsExponent.some (.inl rfl) .plus hDigits hSome
    rw [if_neg Bool.false_ne_true, digitsValue_exponentDigits,
      show (exponent.natAbs : Int) = exponent by omega] at hExponent
    rwa [if_neg hSign]

/-! ## Whole numbers -/

theorem toList_repr (n : Int) :
    n.repr.toList = signed (decide (n < 0)) ++ Nat.toDigits 10 n.natAbs := by
  cases n with
  | ofNat n =>
    show n.repr.toList = _
    rw [Nat.toList_repr]
    rfl
  | negSucc n =>
    show ("-" ++ (n + 1).repr).toList = _
    rw [String.toList_append, Nat.toList_repr, decide_eq_true (Int.negSucc_lt_zero n)]
    rfl

theorem takeNumber_repr (n : Int) {rest : List Char} (h : EndsNumber rest) :
    takeNumber (n.repr.toList ++ rest)
      = some (⟨decide (n < 0), Nat.toDigits 10 n.natAbs, none, none⟩, rest) := by
  have hNumber := IsNumber.of (isSign_signed (decide (n < 0)))
    (.whole (areDigits_toDigits n.natAbs) Nat.toDigits_ne_nil) .none
  rw [List.append_nil, ← toList_repr] at hNumber
  exact hNumber.take h

theorem toInt_repr (n : Int) :
    Numeral.toInt ⟨decide (n < 0), Nat.toDigits 10 n.natAbs, none, none⟩ = n := by
  unfold Numeral.toInt
  simp only [digitsValue_toDigits, decide_eq_true_eq]
  split <;> omega

/-! ## Floating-point numbers -/

/-- Whether some characters are read as a decimal with a point or an exponent, whatever the sign in
front of them. -/
def IsDecimal (cs : List Char) (digits : Nat) (exponent : Int) : Prop :=
  ∀ negative : Bool, ∃ n : Numeral, n.isWhole = false ∧
    n.toBinary64 = Binary64.ofDecimal negative digits exponent ∧
    ∀ rest, EndsNumber rest → takeNumber (signed negative ++ (cs ++ rest)) = some (n, rest)

theorem isDecimal_pointed {whole fraction : List Char} (hWhole : AreDigits whole)
    (hSome : whole ≠ []) (hFraction : AreDigits fraction) :
    IsDecimal (whole ++ '.' :: fraction) (digitsValue (whole ++ fraction)) (-fraction.length) := by
  intro negative
  refine ⟨⟨negative, whole, some fraction, none⟩, rfl, ?_, ?_⟩
  · simp [Numeral.toBinary64]
  · intro rest hRest
    have hNumber := IsNumber.of (isSign_signed negative) (.pointed hWhole hFraction (.inl hSome))
      .none
    rw [List.append_nil] at hNumber
    rw [← List.append_assoc]
    exact hNumber.take hRest

theorem isDecimal_scientific {whole : List Char} {fraction : Option (List Char)}
    (hWhole : AreDigits whole) (hSome : whole ≠ [])
    (hFraction : ∀ digits ∈ fraction, AreDigits digits) (exponent : Int) :
    IsDecimal (whole ++ pointed fraction
        ++ 'e' :: (if exponent < 0 then '-' else '+') :: exponentDigits exponent.natAbs)
      (digitsValue (whole ++ fraction.getD [])) (exponent - (fraction.getD []).length) := by
  intro negative
  refine ⟨⟨negative, whole, fraction, some exponent⟩, ?_, ?_, ?_⟩
  · simp [Numeral.isWhole]
  · simp [Numeral.toBinary64]
  · intro rest hRest
    have hNumber := IsNumber.of (isSign_signed negative) (isBody_pointed hWhole hSome hFraction)
      (isExponent_digits exponent)
    rw [← hNumber.take hRest]
    simp only [List.append_assoc, List.cons_append]

/-- The digits in front of the point and behind it, where the point stands behind the first
`place` digits or behind zeros that follow them. -/
theorem isDecimal_positional {digits : List Char} (hDigits : AreDigits digits)
    (hValue : digitsValue digits ≠ 0) {place : Nat} (hPlace : 0 < place) :
    let padded := digits ++ List.replicate (place - digits.length) '0'
    let fraction := padded.drop place
    ∃ value exponent,
      IsDecimal (padded.take place ++ '.' :: (if fraction = [] then ['0'] else fraction))
        value exponent ∧
      ∀ negative, Binary64.ofDecimal negative value exponent
        = Binary64.ofDecimal negative (digitsValue digits) (place - digits.length) := by
  intro padded fraction
  have hPadded : AreDigits padded := hDigits.append (areDigits_zeros _)
  have hLength : padded.length = digits.length + (place - digits.length) := by
    rw [List.length_append, List.length_replicate]
  have hWhole : AreDigits (padded.take place) := fun c h => hPadded c (List.mem_of_mem_take h)
  have hSome : padded.take place ≠ [] := by
    rw [← List.length_pos_iff, List.length_take]
    omega
  by_cases hLong : digits.length ≤ place
  · have hEmpty : fraction = [] := List.drop_eq_nil_of_le (by omega)
    have hTake : padded.take place = padded := List.take_of_length_le (by omega)
    have hDecimal := isDecimal_pointed hWhole hSome (areDigits_zeros 1)
    refine ⟨_, _, by rw [if_pos hEmpty]; exact hDecimal, fun negative => ?_⟩
    rw [hTake, List.append_assoc, List.replicate_append_replicate, digitsValue_append_zeros,
      ofDecimal_mul_pow hValue, List.length_replicate]
    congr 1
    omega
  · have hDrop : fraction ≠ [] := by
      rw [← List.length_pos_iff, List.length_drop]
      omega
    have hFraction : AreDigits fraction := fun c h => hPadded c (List.mem_of_mem_drop h)
    have hNoZeros : padded = digits := by
      show digits ++ List.replicate (place - digits.length) '0' = digits
      rw [Nat.sub_eq_zero_of_le (by omega), List.replicate_zero, List.append_nil]
    have hDecimal := isDecimal_pointed hWhole hSome hFraction
    refine ⟨_, _, by rw [if_neg hDrop]; exact hDecimal, fun negative => ?_⟩
    rw [List.take_append_drop, List.length_drop, hNoZeros]
    congr 1
    omega

theorem isDecimal_layout {digits : List Char} (hDigits : AreDigits digits)
    (hValue : digitsValue digits ≠ 0) (place : Int) :
    ∃ value exponent, IsDecimal (layout digits place) value exponent ∧
      ∀ negative, Binary64.ofDecimal negative value exponent
        = Binary64.ofDecimal negative (digitsValue digits) (place - digits.length) := by
  unfold layout
  split
  case isTrue hRange =>
    split
    -- The point stands in front of all digits, and zeros fill the gap between them.
    case isTrue hSmall =>
      have hZeros := (areDigits_zeros (-place).toNat).append hDigits
      refine ⟨_, _, isDecimal_pointed (areDigits_zeros 1) (List.cons_ne_nil _ _) hZeros, ?_⟩
      intro negative
      rw [digitsValue_zeros_append, digitsValue_zeros_append, List.length_append,
        List.length_replicate]
      congr 1
      omega
    case isFalse hLarge =>
      obtain ⟨value, exponent, hDecimal, hEqual⟩ :=
        isDecimal_positional hDigits hValue (show 0 < place.toNat by omega)
      refine ⟨value, exponent, hDecimal, fun negative => ?_⟩
      rw [hEqual, Int.toNat_of_nonneg (by omega)]
  case isFalse hRange =>
    cases digits with
    | nil => exact absurd rfl hValue
    | cons d more =>
      have hWhole : AreDigits [d] := fun c hMem => by
        rw [List.mem_singleton.1 hMem]
        exact hDigits d List.mem_cons_self
      cases more with
      | nil =>
        refine ⟨_, _, isDecimal_scientific hWhole (List.cons_ne_nil d [])
          (show ∀ digits ∈ (none : Option (List Char)), AreDigits digits from nofun)
          (place - 1), fun negative => ?_⟩
        simp
      | cons e more =>
        have hFraction : ∀ digits ∈ some (e :: more), AreDigits digits := by
          rintro _ ⟨⟩
          exact fun c hMem => hDigits c (List.mem_cons_of_mem d hMem)
        refine ⟨_, _, isDecimal_scientific hWhole (List.cons_ne_nil d []) hFraction (place - 1),
          fun negative => ?_⟩
        congr 1
        simp
        omega

/-! ## The text of a number -/

theorem isDecimal_magnitudeText (magnitude : Fin magnitudeCount) :
    ∃ value exponent, IsDecimal (magnitudeText magnitude.val) value exponent ∧
      ∀ negative, Binary64.ofDecimal negative value exponent = .finite negative magnitude := by
  obtain ⟨count, hCount⟩ := magnitude
  unfold magnitudeText
  by_cases hZero : count = 0
  · subst hZero
    refine ⟨_, _, isDecimal_pointed (areDigits_zeros 1) (List.cons_ne_nil _ _)
      (areDigits_zeros 1), fun negative => rfl⟩
  rw [if_neg hZero]
  have hShortest := fun negative =>
    Scaled.ofDecimal_shortest negative (Nat.pos_of_ne_zero hZero) hCount
  generalize Scaled.shortest count = d at hShortest ⊢
  obtain ⟨zeros, hZeros⟩ := dropFinalZeros_append (Nat.toDigits 10 d.digits)
  have hValue : digitsValue (dropFinalZeros (Nat.toDigits 10 d.digits)) * 10 ^ zeros
      = d.digits := by
    rw [← digitsValue_append_zeros, hZeros, digitsValue_toDigits]
  have hDigits : AreDigits (dropFinalZeros (Nat.toDigits 10 d.digits)) := fun c hMem =>
    areDigits_toDigits d.digits c (hZeros ▸ List.mem_append_left _ hMem)
  have hNonzero : digitsValue (dropFinalZeros (Nat.toDigits 10 d.digits)) ≠ 0 := by
    intro hNone
    rw [hNone, Nat.zero_mul] at hValue
    have hFinite := hShortest false
    rw [← hValue, Binary64.ofDecimal, if_pos rfl] at hFinite
    cases hFinite
    exact hZero rfl
  have hLength := congrArg List.length hZeros
  rw [List.length_append, List.length_replicate] at hLength
  obtain ⟨value, exponent, hDecimal, hEqual⟩ := isDecimal_layout hDigits hNonzero
    ((Nat.toDigits 10 d.digits).length + d.exponent)
  refine ⟨value, exponent, hDecimal, fun negative => ?_⟩
  -- The zeros that the text leaves out count in the exponent.
  have hPower := ofDecimal_mul_pow hNonzero negative zeros d.exponent
  rw [hValue] at hPower
  rw [hEqual, ← hShortest negative, hPower]
  congr 1
  omega

/-- The text of a finite number is read as a number that rounds to it. -/
theorem takeNumber_text (negative : Bool) (magnitude : Fin magnitudeCount) :
    ∃ n : Numeral, n.isWhole = false ∧ n.toBinary64 = .finite negative magnitude ∧
      ∀ rest, EndsNumber rest →
        takeNumber ((Binary64.finite negative magnitude).text.toList ++ rest) = some (n, rest) := by
  obtain ⟨value, exponent, hDecimal, hValue⟩ := isDecimal_magnitudeText magnitude
  obtain ⟨n, hWhole, hBinary, hReads⟩ := hDecimal negative
  refine ⟨n, hWhole, hBinary.trans (hValue negative), fun rest hRest => ?_⟩
  rw [Binary64.text, String.toList_ofList, List.append_assoc]
  exact hReads rest hRest

end Interpose.Decimal

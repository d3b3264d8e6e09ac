import Interpose.Decimal.Shortest

/-! # Shortest decimals read back

Rounding depends on a quotient alone, so the decimals that denote one number read as one. Every
magnitude is a multiple of the least one and an exact decimal, which is within the range of
exponents that are computed; and of the shorter decimals only those that read back are shown.
-/
namespace Interpose.Decimal

set_option autoImplicit false

/-! ## Quotients -/

theorem roundQuotient_mul_left {factor : Nat} (h : 0 < factor) (num den : Nat) :
    roundQuotient (factor * num) (factor * den) = roundQuotient num den := by
  have hDiv : factor * num / (factor * den) = num / den := Nat.mul_div_mul_left num den h
  have hMod : 2 * (factor * num % (factor * den)) = factor * (2 * (num % den)) := by
    rw [Nat.mul_mod_mul_left, Nat.mul_left_comm]
  unfold roundQuotient
  simp only [hDiv, hMod, Nat.mul_lt_mul_left h]

theorem roundQuotient_exact {den : Nat} (h : 0 < den) (whole : Nat) :
    roundQuotient (whole * den) den = whole := by
  have hMod : 2 * (whole * den % den) = 0 := by rw [Nat.mul_mod_left]
  unfold roundQuotient
  simp only [hMod, Nat.mul_div_cancel whole h, if_pos h]

theorem nearestCount_mul_left {factor : Nat} (h : 0 < factor) (num den : Nat) :
    nearestCount (factor * num) (factor * den) = nearestCount num den := by
  unfold nearestCount
  simp only [Nat.mul_div_mul_left num den h, roundQuotient_mul_left h, Nat.mul_assoc]

theorem ofUnits_mul_left {factor : Nat} (h : 0 < factor) (negative : Bool) (num den : Nat) :
    Binary64.ofUnits negative (factor * num) (factor * den)
      = Binary64.ofUnits negative num den := by
  unfold Binary64.ofUnits
  simp only [nearestCount_mul_left h]

theorem ofUnits_of_finite {sign other : Bool} {num den : Nat} {magnitude : Fin magnitudeCount}
    (h : Binary64.ofUnits other num den = .finite sign magnitude) (negative : Bool) :
    Binary64.ofUnits negative num den = .finite negative magnitude := by
  unfold Binary64.ofUnits at h ⊢
  simp only at h ⊢
  split at h
  next hCount =>
    cases h
    rw [dif_pos hCount]
  next => contradiction

theorem ofDecimal_of_finite {sign other : Bool} {digits : Nat} {exponent : Int}
    {magnitude : Fin magnitudeCount}
    (h : Binary64.ofDecimal other digits exponent = .finite sign magnitude) (negative : Bool) :
    Binary64.ofDecimal negative digits exponent = .finite negative magnitude := by
  unfold Binary64.ofDecimal at h ⊢
  generalize 2 ^ 1074 = unit at h ⊢
  simp only at h ⊢
  split at h
  next hZero =>
    cases h
    rw [if_pos hZero]
  next hZero =>
    rw [if_neg hZero]
    split at h
    next => contradiction
    next hLarge =>
      rw [if_neg hLarge]
      split at h
      next hSmall =>
        cases h
        rw [if_pos hSmall]
      next hSmall =>
        rw [if_neg hSmall]
        split at h
        next hWhole =>
          rw [if_pos hWhole]
          exact ofUnits_of_finite h negative
        next hWhole =>
          rw [if_neg hWhole]
          exact ofUnits_of_finite h negative

/-! ## Decimals of one number -/

theorem length_toDigits_mul_ten {digits : Nat} (h : digits ≠ 0) :
    (Nat.toDigits 10 (digits * 10)).length = (Nat.toDigits 10 digits).length + 1 := by
  have hAppend := Nat.toDigits_append_toDigits (show 1 < 10 by decide)
    (Nat.pos_of_ne_zero h) (show 0 < 10 by decide)
  rw [Nat.mul_comm, ← Nat.add_zero (10 * digits), ← hAppend, List.length_append]
  rfl

/-- A zero at the end of the digits counts like one more in the exponent. -/
theorem ofDecimal_mul_ten {digits : Nat} (h : digits ≠ 0) (negative : Bool) (exponent : Int) :
    Binary64.ofDecimal negative (digits * 10) exponent
      = Binary64.ofDecimal negative digits (exponent + 1) := by
  have hScale : ((Nat.toDigits 10 (digits * 10)).length : Int) + exponent
      = (Nat.toDigits 10 digits).length + (exponent + 1) := by
    rw [length_toDigits_mul_ten h]
    omega
  have hTimes : digits * 10 ≠ 0 := Nat.mul_ne_zero h (by decide)
  unfold Binary64.ofDecimal
  generalize 2 ^ 1074 = unit
  rw [if_neg hTimes, if_neg h, hScale]
  by_cases hLarge : 400 < ((Nat.toDigits 10 digits).length : Int) + (exponent + 1)
  · rw [if_pos hLarge, if_pos hLarge]
  by_cases hSmall : ((Nat.toDigits 10 digits).length : Int) + (exponent + 1) < -400
  · rw [if_neg hLarge, if_pos hSmall, if_neg hLarge, if_pos hSmall]
  rw [if_neg hLarge, if_neg hSmall, if_neg hLarge, if_neg hSmall]
  -- Where the sign of the exponent changes, the factor moves from the denominator to the numerator.
  rcases Int.lt_trichotomy exponent (-1) with hBelow | rfl | hAbove
  · have hPower : (-exponent).toNat = (-(exponent + 1)).toNat + 1 := by omega
    rw [if_neg (by omega), if_neg (by omega), hPower, Nat.pow_succ', Nat.mul_comm digits,
      Nat.mul_assoc]
    exact ofUnits_mul_left (show 0 < 10 by decide) negative _ _
  · have hTen := ofUnits_mul_left (show 0 < 10 by decide) negative (digits * unit) 1
    rw [if_neg (by decide), if_pos (by decide), Nat.mul_comm digits, Nat.mul_assoc]
    simpa using hTen
  · have hPower : (exponent + 1).toNat = exponent.toNat + 1 := by omega
    rw [if_pos (by omega), if_pos (by omega), hPower, Nat.pow_succ', Nat.mul_assoc digits]

theorem ofDecimal_mul_pow {digits : Nat} (h : digits ≠ 0) (negative : Bool) (zeros : Nat)
    (exponent : Int) :
    Binary64.ofDecimal negative (digits * 10 ^ zeros) exponent
      = Binary64.ofDecimal negative digits (exponent + zeros) := by
  induction zeros generalizing exponent with
  | zero => rw [Nat.pow_zero, Nat.mul_one, Int.natCast_zero, Int.add_zero]
  | succ zeros ih =>
    have hSome : digits * 10 ^ zeros ≠ 0 :=
      Nat.mul_ne_zero h (Nat.ne_of_gt (Nat.pow_pos (by decide)))
    rw [Nat.pow_succ, ← Nat.mul_assoc, ofDecimal_mul_ten hSome, ih]
    congr 1
    omega

/-! ## Magnitudes -/

theorem magnitudeUnits_pos {count : Nat} (h : 0 < count) : 0 < magnitudeUnits count := by
  unfold magnitudeUnits
  split
  · exact h
  · exact Nat.mul_pos (by omega) (Nat.pow_pos (by decide))

theorem magnitudeUnits_lt {count top : Nat} (h : count < (top + 2) * 2 ^ 52) :
    magnitudeUnits count < 2 ^ 53 * 2 ^ top := by
  unfold magnitudeUnits
  split
  · exact Nat.lt_of_lt_of_le (show count < 2 ^ 53 by omega)
      (Nat.le_mul_of_pos_right (2 ^ 53) (Nat.two_pow_pos top))
  · refine Nat.mul_lt_mul_of_lt_of_le (by omega) ?_ (Nat.two_pow_pos top)
    exact Nat.pow_le_pow_right (by decide) (by omega)

theorem nearestCount_magnitudeUnits (count : Nat) :
    nearestCount (magnitudeUnits count) 1 = count := by
  -- Below `2 ^ 53` a magnitude is its own number of units. Above, the units end in zeros, as many
  -- as rounding drops.
  by_cases hSmall : count < 2 ^ 53
  · have hUnits : magnitudeUnits count = count := by
      unfold magnitudeUnits
      split
      · rfl
      · have hBlock : count / 2 ^ 52 = 1 := by omega
        rw [hBlock]
        omega
    have hRound := roundQuotient_exact (show 0 < 1 by decide) count
    rw [Nat.mul_one] at hRound
    unfold nearestCount
    simp only [hUnits, Nat.div_one, if_pos hSmall, hRound]
  · obtain ⟨shift, hShift⟩ : ∃ shift, count / 2 ^ 52 = shift + 2 :=
      ⟨count / 2 ^ 52 - 2, by omega⟩
    have hUnits : magnitudeUnits count = (2 ^ 52 + count % 2 ^ 52) * 2 ^ (shift + 1) := by
      rw [magnitudeUnits, if_neg (by omega), hShift]
      rfl
    have hPower : 0 < 2 ^ (shift + 1) := Nat.pow_pos (by decide)
    have hLog : ((2 ^ 52 + count % 2 ^ 52) * 2 ^ (shift + 1)).log2 = 52 + (shift + 1) := by
      refine (Nat.log2_eq_iff (Nat.mul_ne_zero (by omega) (Nat.ne_of_gt hPower))).2 ⟨?_, ?_⟩
      · rw [Nat.pow_add]
        exact Nat.mul_le_mul_right _ (by omega)
      · rw [show 52 + (shift + 1) + 1 = 53 + (shift + 1) by omega, Nat.pow_add 2 53 (shift + 1)]
        exact (Nat.mul_lt_mul_right hPower).2 (by omega)
    have hLarge : ¬ (2 ^ 52 + count % 2 ^ 52) * 2 ^ (shift + 1) < 2 ^ 53 := by
      have hTwice : 2 ≤ 2 ^ (shift + 1) := Nat.le_self_pow (by omega) 2
      have hLeast := Nat.mul_le_mul (Nat.le_add_right (2 ^ 52) (count % 2 ^ 52)) hTwice
      omega
    unfold nearestCount
    simp only [hUnits, Nat.div_one, if_neg hLarge, hLog, Nat.add_sub_cancel_left, Nat.one_mul,
      roundQuotient_exact hPower]
    omega

theorem ofUnits_magnitudeUnits (negative : Bool) {count : Nat} (h : count < magnitudeCount) :
    Binary64.ofUnits negative (magnitudeUnits count) 1 = .finite negative ⟨count, h⟩ := by
  unfold Binary64.ofUnits
  simp only [nearestCount_magnitudeUnits, dif_pos h]

/-! ## The exact decimal -/

namespace Scaled

theorem mul_five_pow_mul_two_pow (n places : Nat) :
    n * 5 ^ places * 2 ^ places = 10 ^ places * n := by
  rw [Nat.mul_assoc, ← Nat.mul_pow, Nat.mul_comm]

theorem exact_eq (count : Nat) :
    ∃ places : Nat, (exact count).exponent = -(places : Int) ∧
      (exact count).digits * 2 ^ 1074 = 10 ^ places * magnitudeUnits count := by
  unfold exact magnitudeUnits
  by_cases hSmall : count < 2 ^ 52
  · refine ⟨1074, ?_, ?_⟩
    · rw [if_pos hSmall]
      rfl
    · rw [if_pos hSmall, if_pos hSmall]
      exact mul_five_pow_mul_two_pow count 1074
  rw [if_neg hSmall, if_neg hSmall]
  by_cases hPower : 1074 ≤ count / 2 ^ 52 - 1
  · refine ⟨0, ?_, ?_⟩
    · simp only [if_pos hPower]
      rfl
    · simp only [if_pos hPower]
      generalize 1074 = top at hPower ⊢
      rw [Nat.mul_assoc, ← Nat.pow_add, Nat.sub_add_cancel hPower, Nat.pow_zero, Nat.one_mul]
  · refine ⟨1074 - (count / 2 ^ 52 - 1), ?_, ?_⟩
    · simp only [if_neg hPower]
    · simp only [if_neg hPower]
      generalize count / 2 ^ 52 - 1 = power at hPower ⊢
      generalize 1074 = top at hPower ⊢
      have hTwo : 2 ^ top = 2 ^ (top - power) * 2 ^ power := by
        rw [← Nat.pow_add, Nat.sub_add_cancel (by omega)]
      rw [hTwo, ← Nat.mul_assoc, mul_five_pow_mul_two_pow, Nat.mul_assoc]

end Scaled

theorem lt_length_toDigits_add {digits places more : Nat}
    (h : 10 ^ places ≤ digits * 10 ^ more) :
    places < (Nat.toDigits 10 digits).length + more := by
  have hDigits : digits < 10 ^ (Nat.toDigits 10 digits).length :=
    (Nat.length_toDigits_le_iff (by decide) Nat.length_toDigits_pos).1 (Nat.le_refl _)
  refine (Nat.pow_lt_pow_iff_right (show 1 < 10 by decide)).1 (Nat.lt_of_le_of_lt h ?_)
  rw [Nat.pow_add]
  exact (Nat.mul_lt_mul_right (Nat.pow_pos (by decide))).2 hDigits

/-- A decimal without positive exponent is rounded where it is neither too large nor too small. -/
theorem ofDecimal_of_bounds {digits places : Nat} (negative : Bool) (hLow : 0 < digits)
    (hSmall : 10 ^ places ≤ digits * 10 ^ 401) (hLarge : digits < 10 ^ (places + 400)) :
    Binary64.ofDecimal negative digits (-(places : Int))
      = Binary64.ofUnits negative (digits * 2 ^ 1074) (10 ^ places) := by
  have hLength : (Nat.toDigits 10 digits).length ≤ places + 400 :=
    (Nat.length_toDigits_le_iff (by decide) (by omega)).2 hLarge
  have hPlaces := lt_length_toDigits_add hSmall
  unfold Binary64.ofDecimal
  generalize 2 ^ 1074 = unit
  rw [if_neg (Nat.ne_of_gt hLow)]
  simp only
  rw [if_neg (by omega), if_neg (by omega)]
  cases places with
  | zero =>
    rw [if_pos (by decide)]
    simp
  | succ places =>
    have hToNat : (- -((places + 1 : Nat) : Int)).toNat = places + 1 := by omega
    rw [if_neg (by omega), hToNat]

namespace Scaled

theorem ofDecimal_exact (negative : Bool) {count : Nat} (hPos : 0 < count)
    (h : count < magnitudeCount) :
    Binary64.ofDecimal negative (exact count).digits (exact count).exponent
      = .finite negative ⟨count, h⟩ := by
  obtain ⟨places, hExponent, hValue⟩ := exact_eq count
  have hUnits := magnitudeUnits_pos hPos
  have hLow : 0 < (exact count).digits := by
    refine Nat.pos_of_mul_pos_right (b := 2 ^ 1074) ?_
    rw [hValue]
    exact Nat.mul_pos (Nat.pow_pos (by decide)) hUnits
  have hSmall : 10 ^ places ≤ (exact count).digits * 10 ^ 401 := by
    refine Nat.le_trans (Nat.le_mul_of_pos_right _ hUnits) ?_
    rw [← hValue]
    exact Nat.mul_le_mul_left _ (by decide +kernel)
  have hLarge : (exact count).digits < 10 ^ (places + 400) := by
    refine Nat.lt_of_mul_lt_mul_right (a := 2 ^ 1074) ?_
    rw [hValue, Nat.pow_add, Nat.mul_assoc]
    refine (Nat.mul_lt_mul_left (Nat.pow_pos (by decide))).2 ?_
    exact Nat.lt_of_lt_of_le (magnitudeUnits_lt h) (by decide +kernel)
  rw [hExponent, ofDecimal_of_bounds negative hLow hSmall hLarge, hValue,
    ← ofUnits_magnitudeUnits negative h]
  have hCancel := ofUnits_mul_left (show 0 < 10 ^ places from Nat.pow_pos (by decide)) negative
    (magnitudeUnits count) 1
  rwa [Nat.mul_one] at hCancel

theorem readsAs_of_mem_neighbours {count : Nat} {exponent : Int} {d : Scaled}
    (h : d ∈ neighbours count exponent) : d.readsAs count = true := by
  unfold neighbours at h
  exact (List.mem_filter.1 h).2

/-- The shortest decimal is a neighbour that reads back, or else the exact decimal. -/
theorem shortest_eq (count : Nat) :
    (shortest count).readsAs count = true ∨ shortest count = exact count := by
  have hReads : ∀ d, ((List.range 17).findSome? fun (n : Nat) =>
      (neighbours count (leadingPlace count - (n + 1))).head?) = some d →
        d.readsAs count = true := by
    intro d hFound
    obtain ⟨n, -, hHead⟩ := List.exists_of_findSome?_eq_some hFound
    exact readsAs_of_mem_neighbours (List.mem_of_head? hHead)
  rw [shortest]
  generalize (List.range 17).findSome? _ = found at hReads ⊢
  cases found with
  | none => exact Or.inr rfl
  | some d => exact Or.inl (hReads d rfl)

theorem ofDecimal_of_readsAs {d : Scaled} {count : Nat} (h : count < magnitudeCount)
    (hReads : d.readsAs count = true) (negative : Bool) :
    Binary64.ofDecimal negative d.digits d.exponent = .finite negative ⟨count, h⟩ := by
  unfold readsAs at hReads
  split at hReads
  next sign magnitude hDecimal =>
    obtain rfl : magnitude = ⟨count, h⟩ := Fin.ext (beq_iff_eq.1 hReads)
    exact ofDecimal_of_finite hDecimal negative
  next => contradiction

theorem ofDecimal_shortest (negative : Bool) {count : Nat} (hPos : 0 < count)
    (h : count < magnitudeCount) :
    Binary64.ofDecimal negative (shortest count).digits (shortest count).exponent
      = .finite negative ⟨count, h⟩ := by
  rcases shortest_eq count with hReads | hExact
  · exact ofDecimal_of_readsAs h hReads negative
  · rw [hExact]
    exact ofDecimal_exact negative hPos h

end Scaled
end Interpose.Decimal

import Mathlib.Algebra.Group.Nat.Defs
import ReplLink.Decimal.Rounding

/-!
# The nearest double depends on the value only

The unit of a quotient is the least power of two, but none below the least one that a double
has, in which the quotient has at most fifty-three bits before its point. `IsUnit` says so
without a division and without powers of a negative exponent: both sides are multiplied by
`2 ^ 1074`. There is one unit only, and it does not change when numerator and denominator are
multiplied by the same factor. So neither does the nearest double, and a decimal may have any
number of zeros behind its digits.
-/

namespace ReplLink.Decimal

variable {numerator denominator factor : Nat}

theorem hiddenBit_eq : Binary64.hiddenBit = 2 ^ 52 := by decide

/-- Rounding looks at the quotient only. -/
theorem divideEven_mul_right (hf : 0 < factor) :
    divideEven (numerator * factor) (denominator * factor)
      = divideEven numerator denominator := by
  have htwice : 2 * (numerator % denominator * factor)
      = 2 * (numerator % denominator) * factor := (Nat.mul_assoc _ _ _).symm
  have habove : denominator * factor < 2 * (numerator % denominator) * factor
      ↔ denominator < 2 * (numerator % denominator) := Nat.mul_lt_mul_right hf
  have hhalf : 2 * (numerator % denominator) * factor = denominator * factor
      ↔ 2 * (numerator % denominator) = denominator := Nat.mul_left_inj (Nat.ne_of_gt hf)
  unfold divideEven
  simp only [Nat.mul_div_mul_right _ _ hf, Nat.mul_mod_mul_right, htwice, habove, hhalf]

/-- A quotient without remainder is rounded to itself. -/
theorem divideEven_mul_self (quotient : Nat) (hd : 0 < denominator) :
    divideEven (quotient * denominator) denominator = quotient := by
  have hzero : 0 ≠ denominator := Nat.ne_of_lt hd
  simp [divideEven, Nat.mul_div_cancel _ hd, hzero]

/-- To divide by a power of two is to multiply by the one and to divide by the other of two
powers, in lowest terms or not. -/
theorem exists_factor_scaledQuotient (numerator denominator floor step : Nat) :
    ∃ factor, 0 < factor ∧
      (scaledQuotient numerator denominator ((step : Int) - floor)).1 * factor
        = numerator * 2 ^ floor ∧
      (scaledQuotient numerator denominator ((step : Int) - floor)).2 * factor
        = denominator * 2 ^ step := by
  unfold scaledQuotient
  split
  · next h =>
    have hsum : ((step : Int) - floor).toNat + floor = step := by omega
    refine ⟨2 ^ floor, Nat.two_pow_pos floor, rfl, ?_⟩
    dsimp only
    rw [Nat.pow_eq, Nat.mul_assoc, ← Nat.pow_add, hsum]
  · next h =>
    have hsum : (-((step : Int) - floor)).toNat + step = floor := by omega
    refine ⟨2 ^ step, Nat.two_pow_pos step, ?_, rfl⟩
    dsimp only
    rw [Nat.pow_eq, Nat.mul_assoc, ← Nat.pow_add, hsum]

/-- The least power of two, by its distance from the least one that a double has, that leaves
at most fifty-three bits before the point of a quotient. -/
structure IsUnit (numerator denominator step : Nat) : Prop where
  /-- The quotient has no more bits. -/
  fits : numerator * 2 ^ 1074 < denominator * 2 ^ (step + 53)
  /-- It would have, were the power any smaller. -/
  least : step = 0 ∨ denominator * 2 ^ (step + 52) ≤ numerator * 2 ^ 1074

theorem IsUnit.le {step other : Nat} (h : IsUnit numerator denominator step)
    (ho : IsUnit numerator denominator other) : step ≤ other := by
  rcases h.least with rfl | hleast
  · exact Nat.zero_le other
  · have hpow : 2 ^ (step + 52) < 2 ^ (other + 53) :=
      Nat.lt_of_mul_lt_mul_left (Nat.lt_of_le_of_lt hleast ho.fits)
    have hstep := (Nat.pow_lt_pow_iff_right (by decide : 1 < 2)).mp hpow
    omega

/-- A quotient has one unit. -/
theorem IsUnit.unique {step other : Nat} (h : IsUnit numerator denominator step)
    (ho : IsUnit numerator denominator other) : step = other :=
  Nat.le_antisymm (h.le ho) (ho.le h)

/-- It is the value that has it. -/
theorem isUnit_mul_right (hf : 0 < factor) {step : Nat} :
    IsUnit (numerator * factor) (denominator * factor) step
      ↔ IsUnit numerator denominator step := by
  have hn : numerator * factor * 2 ^ 1074 = numerator * 2 ^ 1074 * factor :=
    Nat.mul_right_comm _ _ _
  have hd (power : Nat) : denominator * factor * 2 ^ power = denominator * 2 ^ power * factor :=
    Nat.mul_right_comm _ _ _
  constructor
  · rintro ⟨hfits, hleast⟩
    rw [hn, hd, Nat.mul_lt_mul_right hf] at hfits
    rw [hn, hd, Nat.mul_le_mul_right_iff hf] at hleast
    exact ⟨hfits, hleast⟩
  · rintro ⟨hfits, hleast⟩
    refine ⟨?_, ?_⟩
    · rw [hn, hd, Nat.mul_lt_mul_right hf]
      exact hfits
    · rw [hn, hd, Nat.mul_le_mul_right_iff hf]
      exact hleast

/-- Whether a quotient has at most fifty-three bits before its point can be told without a
division. -/
theorem scaledQuotient_div_lt_iff (hd : 0 < denominator) (floor step : Nat) :
    (scaledQuotient numerator denominator ((step : Int) - floor)).1
        / (scaledQuotient numerator denominator ((step : Int) - floor)).2
        < 2 * Binary64.hiddenBit
      ↔ numerator * 2 ^ floor < denominator * 2 ^ (step + 53) := by
  obtain ⟨factor, hf, hn, hm⟩ := exists_factor_scaledQuotient numerator denominator floor step
  have hbits : 2 * Binary64.hiddenBit = 2 ^ 53 := by decide
  rw [← Nat.mul_div_mul_right _ _ hf, hn, hm, hbits,
    Nat.div_lt_iff_lt_mul (Nat.mul_pos hd (Nat.two_pow_pos step)), Nat.pow_add,
    Nat.mul_comm (2 ^ 53), Nat.mul_assoc]

/-- Of two naturals that are moved to the left, the one that ends up with fewer bits is the
smaller one. -/
theorem mul_two_pow_lt_of_log2_le {first second left right : Nat} (hs : 0 < second)
    (h : first.log2 + 1 + left ≤ second.log2 + right) : first * 2 ^ left < second * 2 ^ right :=
  calc first * 2 ^ left < 2 ^ (first.log2 + 1) * 2 ^ left :=
        Nat.mul_lt_mul_of_pos_right Nat.lt_log2_self (Nat.two_pow_pos left)
    _ = 2 ^ (first.log2 + 1 + left) := (Nat.pow_add 2 _ left).symm
    _ ≤ 2 ^ (second.log2 + right) := Nat.pow_le_pow_right (by decide) h
    _ = 2 ^ second.log2 * 2 ^ right := Nat.pow_add 2 _ right
    _ ≤ second * 2 ^ right := Nat.mul_le_mul_right _ (Nat.log2_self_le (Nat.ne_of_gt hs))

/-- The guess that the lengths of numerator and denominator give is at most one too low. -/
theorem isUnit_unitExponent (hn : 0 < numerator) (hd : 0 < denominator) :
    ∃ step : Nat, unitExponent numerator denominator = (step : Int) - 1074 ∧
      IsUnit numerator denominator step := by
  obtain ⟨guess, hguess⟩ : ∃ guess : Nat,
      max (-1074) ((numerator.log2 : Int) - denominator.log2 - 53) = (guess : Int) - (1074 : Nat) :=
    ⟨(max (-1074) ((numerator.log2 : Int) - denominator.log2 - 53) + 1074).toNat, by omega⟩
  have hhigh : numerator * 2 ^ 1074 < denominator * 2 ^ (guess + 1 + 53) :=
    mul_two_pow_lt_of_log2_le hd (by omega)
  have hlow : guess = 0 ∨ denominator * 2 ^ (guess + 52) ≤ numerator * 2 ^ 1074 :=
    (Nat.eq_zero_or_pos guess).imp_right fun hpos =>
      Nat.le_of_lt (mul_two_pow_lt_of_log2_le hn (by omega))
  -- The test of the algorithm tells which of the two powers is the unit.
  unfold unitExponent
  dsimp only
  rw [hguess]
  simp only [scaledQuotient_div_lt_iff hd]
  split
  · next hfits => exact ⟨guess, rfl, hfits, hlow⟩
  · next hfits => exact ⟨guess + 1, by omega, hhigh, .inr (Nat.le_of_not_lt hfits)⟩

/-- The nearest double of a quotient counts its units, rounded, on from the number with that
unit and no significand. -/
theorem nearestMagnitude_of_isUnit (hn : 0 < numerator) (hd : 0 < denominator) {step : Nat}
    (h : IsUnit numerator denominator step) :
    nearestMagnitude numerator denominator
      = min (step * Binary64.hiddenBit
          + divideEven (numerator * 2 ^ 1074) (denominator * 2 ^ step))
        Binary64.infiniteMagnitude := by
  obtain ⟨found, hfound, hunit⟩ := isUnit_unitExponent hn hd
  obtain rfl := h.unique hunit
  obtain ⟨factor, hf, hn', hd'⟩ := exists_factor_scaledQuotient numerator denominator 1074 step
  have hstep : ((step : Int) - 1074 + 1074).toNat = step := by omega
  unfold nearestMagnitude
  dsimp only
  rw [hfound, hstep, ← hn', ← hd', divideEven_mul_right hf]
  rfl

/-- A common factor makes no difference. -/
theorem nearestMagnitude_mul_right (hn : 0 < numerator) (hd : 0 < denominator)
    (hf : 0 < factor) : nearestMagnitude (numerator * factor) (denominator * factor)
      = nearestMagnitude numerator denominator := by
  obtain ⟨step, -, hunit⟩ := isUnit_unitExponent hn hd
  have hscaled := (isUnit_mul_right hf).mpr hunit
  rw [nearestMagnitude_of_isUnit hn hd hunit,
    nearestMagnitude_of_isUnit (Nat.mul_pos hn hf) (Nat.mul_pos hd hf) hscaled,
    Nat.mul_right_comm numerator, Nat.mul_right_comm denominator, divideEven_mul_right hf]

/-- A number of units with at most fifty-three bits is what it is rounded to, if it has that
many, or the unit is the least one. -/
theorem nearestMagnitude_of_eq {significand step : Nat} (hn : 0 < numerator)
    (hd : 0 < denominator) (h : numerator * 2 ^ 1074 = significand * (denominator * 2 ^ step))
    (hbits : significand < 2 ^ 53) (hfull : step = 0 ∨ 2 ^ 52 ≤ significand) :
    nearestMagnitude numerator denominator
      = min (step * Binary64.hiddenBit + significand) Binary64.infiniteMagnitude := by
  have hpos : 0 < denominator * 2 ^ step := Nat.mul_pos hd (Nat.two_pow_pos step)
  have hunit : IsUnit numerator denominator step := by
    refine ⟨?_, hfull.imp_right fun hfull => ?_⟩
    · rw [h, Nat.mul_comm, Nat.pow_add, ← Nat.mul_assoc denominator]
      exact Nat.mul_lt_mul_of_pos_left hbits hpos
    · rw [h, Nat.mul_comm significand, Nat.pow_add, ← Nat.mul_assoc denominator]
      exact Nat.mul_le_mul_left _ hfull
  rw [nearestMagnitude_of_isUnit hn hd hunit, h, divideEven_mul_self significand hpos]

/-- Zeros behind the digits of a decimal make no difference. -/
theorem magnitudeOfDecimal_zeros (digits count : Nat) (exponent : Int) :
    magnitudeOfDecimal (digits * 10 ^ count) (exponent - count)
      = magnitudeOfDecimal digits exponent := by
  rcases Nat.eq_zero_or_pos digits with rfl | hpos
  · rw [Nat.zero_mul, magnitudeOfDecimal, magnitudeOfDecimal, if_pos rfl, if_pos rfl]
  have hten (power : Nat) : 0 < 10 ^ power := Nat.pow_pos (by decide)
  have hscaled : digits * 10 ^ count ≠ 0 := Nat.ne_of_gt (Nat.mul_pos hpos (hten count))
  rw [magnitudeOfDecimal, magnitudeOfDecimal, if_neg hscaled, if_neg (Nat.ne_of_gt hpos)]
  simp only [Nat.pow_eq]
  by_cases hwhole : 0 ≤ exponent - count
  · have hsum : count + (exponent - count).toNat = exponent.toNat := by omega
    rw [if_pos hwhole, if_pos (by omega), Nat.mul_assoc, ← Nat.pow_add, hsum]
  · rw [if_neg hwhole]
    by_cases hexponent : 0 ≤ exponent
    · -- The zeros cancel out up to the places that are left.
      have hsum : exponent.toNat + (-(exponent - count)).toNat = count := by omega
      have hcancel := nearestMagnitude_mul_right (Nat.mul_pos hpos (hten exponent.toNat))
        Nat.one_pos (hten (-(exponent - count)).toNat)
      rw [Nat.mul_assoc, ← Nat.pow_add, hsum, Nat.one_mul] at hcancel
      rw [if_pos hexponent, hcancel]
    · have hsum : (-exponent).toNat + count = (-(exponent - count)).toNat := by omega
      have hcancel := nearestMagnitude_mul_right hpos (hten (-exponent).toNat) (hten count)
      rw [← Nat.pow_add, hsum] at hcancel
      rw [if_neg hexponent, hcancel]

/-- No decimal is rounded to a NaN. -/
theorem magnitudeOfDecimal_le (digits : Nat) (exponent : Int) :
    magnitudeOfDecimal digits exponent ≤ Binary64.infiniteMagnitude := by
  unfold magnitudeOfDecimal
  repeat' split
  · exact Nat.zero_le _
  · exact Nat.min_le_right _ _
  · exact Nat.min_le_right _ _

end ReplLink.Decimal

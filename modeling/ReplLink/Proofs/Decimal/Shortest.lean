import ReplLink.Decimal.Shortest
import ReplLink.Proofs.Decimal.Rounding

/-!
# The digits that are printed are read back

A finite magnitude is rounded from its exact decimal expansion. A cut of it is printed only if
it has passed the test that it is rounded to the magnitude as well, so the digits that are
printed are, in either case. How many there are, and where the point is, stays within bounds
that are far from where exponents are no longer read digit by digit.
-/

namespace ReplLink.Decimal

variable {magnitude : Nat}

/-- The unit of a finite magnitude, by its distance from the least one. -/
def stepOf (magnitude : Nat) : Nat :=
  if magnitude < Binary64.hiddenBit then 0 else magnitude / Binary64.hiddenBit - 1

theorem scale_eq (magnitude : Nat) :
    Binary64.scale magnitude = (stepOf magnitude : Int) - (1074 : Nat) := by
  have hbit := hiddenBit_eq
  unfold Binary64.scale stepOf
  split
  · rfl
  · have hpos : 1 ≤ magnitude / Binary64.hiddenBit :=
      (Nat.one_le_div_iff (by omega)).mpr (by omega)
    omega

/-- A magnitude counts its units. -/
theorem stepOf_add_significand (magnitude : Nat) :
    stepOf magnitude * Binary64.hiddenBit + Binary64.significand magnitude = magnitude := by
  unfold stepOf Binary64.significand
  split <;> simp only [Binary64.hiddenBit] at * <;> omega

theorem significand_lt (magnitude : Nat) : Binary64.significand magnitude < 2 ^ 53 := by
  unfold Binary64.significand
  split <;> simp only [Binary64.hiddenBit] at * <;> omega

/-- Only multiples of the least unit have fewer than fifty-three bits. -/
theorem stepOf_eq_zero_or_le (magnitude : Nat) :
    stepOf magnitude = 0 ∨ 2 ^ 52 ≤ Binary64.significand magnitude := by
  unfold stepOf Binary64.significand
  split
  · exact .inl rfl
  · rw [hiddenBit_eq]
    exact .inr (Nat.le_add_left _ _)

theorem significand_pos (hpos : 0 < magnitude) : 0 < Binary64.significand magnitude := by
  have hsum := stepOf_add_significand magnitude
  rcases stepOf_eq_zero_or_le magnitude with hzero | hle
  · rw [hzero] at hsum
    omega
  · exact Nat.lt_of_lt_of_le (Nat.two_pow_pos 52) hle

/-- What is exactly a finite magnitude is rounded to it. -/
theorem nearestMagnitude_of_exact {numerator denominator : Nat}
    (hfinite : magnitude < Binary64.infiniteMagnitude) (hn : 0 < numerator)
    (hd : 0 < denominator)
    (h : numerator * 2 ^ 1074
      = Binary64.significand magnitude * (denominator * 2 ^ stepOf magnitude)) :
    nearestMagnitude numerator denominator = magnitude := by
  rw [nearestMagnitude_of_eq hn hd h (significand_lt magnitude) (stepOf_eq_zero_or_le magnitude),
    stepOf_add_significand, Nat.min_eq_left (Nat.le_of_lt hfinite)]

/-- A finite magnitude is rounded from its exact expansion. -/
theorem magnitudeOfDecimal_expansion (hpos : 0 < magnitude)
    (hfinite : magnitude < Binary64.infiniteMagnitude) :
    magnitudeOfDecimal (expansion magnitude).1 (expansion magnitude).2 = magnitude := by
  have hs := significand_pos hpos
  have hscale := scale_eq magnitude
  unfold expansion
  dsimp only
  split
  · next hwhole =>
    have hsum : (Binary64.scale magnitude).toNat + 1074 = stepOf magnitude := by omega
    have hdigits : 0 < Binary64.significand magnitude * 2 ^ (Binary64.scale magnitude).toNat :=
      Nat.mul_pos hs (Nat.two_pow_pos _)
    have hexact : nearestMagnitude
        (Binary64.significand magnitude * 2 ^ (Binary64.scale magnitude).toNat) 1 = magnitude := by
      refine nearestMagnitude_of_exact hfinite hdigits Nat.one_pos ?_
      rw [Nat.mul_assoc, ← Nat.pow_add 2 (Binary64.scale magnitude).toNat 1074, hsum, Nat.one_mul]
    dsimp only
    rw [magnitudeOfDecimal, Nat.pow_eq, if_neg (Nat.ne_of_gt hdigits), if_pos (Int.le_refl 0)]
    exact (congrArg (nearestMagnitude · 1) (Nat.mul_one _)).trans hexact
  · next hwhole =>
    have hsum : (-Binary64.scale magnitude).toNat + stepOf magnitude = 1074 := by omega
    have hdigits : 0 < Binary64.significand magnitude * 5 ^ (-Binary64.scale magnitude).toNat :=
      Nat.mul_pos hs (Nat.pow_pos (by decide))
    have hten : 10 ^ (-Binary64.scale magnitude).toNat
        = 5 ^ (-Binary64.scale magnitude).toNat * 2 ^ (-Binary64.scale magnitude).toNat :=
      Nat.mul_pow 5 2 _
    simp only [Nat.pow_eq]
    rw [magnitudeOfDecimal, if_neg (Nat.ne_of_gt hdigits), if_neg hwhole, Nat.pow_eq]
    refine nearestMagnitude_of_exact hfinite hdigits (Nat.pow_pos (by decide)) ?_
    rw [hten, Nat.mul_assoc, Nat.mul_assoc (5 ^ _), ← Nat.pow_add, hsum]

/-- A neighbour is chosen only if it passes the test, and is one of the two. -/
theorem neighbour?_eq_some {tie : Tie} {passes : Nat → Bool} {digits unit candidate : Nat}
    (h : neighbour? tie passes digits unit = some candidate) :
    passes candidate = true ∧ candidate ≤ digits / unit + 1 := by
  have heven : digits / unit + digits / unit % 2 = digits / unit ∨
      digits / unit + digits / unit % 2 = digits / unit + 1 := by omega
  unfold neighbour? at h
  dsimp only at h
  split at h
  · next hlow hhigh =>
    repeat' split at h
    all_goals obtain rfl := Option.some.inj h
    · exact ⟨hlow, Nat.le_succ _⟩
    · exact ⟨hhigh, Nat.le_refl _⟩
    · exact ⟨hhigh, Nat.le_refl _⟩
    · rcases heven with he | he
      · rw [he]
        exact ⟨hlow, Nat.le_succ _⟩
      · rw [he]
        exact ⟨hhigh, Nat.le_refl _⟩
  · next hlow _ =>
    obtain rfl := Option.some.inj h
    exact ⟨hlow, Nat.le_succ _⟩
  · next _ hhigh =>
    obtain rfl := Option.some.inj h
    exact ⟨hhigh, Nat.le_refl _⟩
  · exact absurd h (by simp)

/-- A cut that is found is rounded to the magnitude. It has no more digits than what is cut,
but for a carry, and drops no more places than that has digits. -/
theorem shortestFrom_eq_some {tie : Tie} {digits : Nat} {exponent : Int} {fuel count : Nat}
    {cut : Nat × Int} (h : shortestFrom tie magnitude digits exponent fuel count = some cut) :
    magnitudeOfDecimal cut.1 cut.2 = magnitude ∧ cut.1 ≤ digits + 1 ∧
      exponent ≤ cut.2 ∧ cut.2 ≤ exponent + digitCount digits := by
  fun_induction shortestFrom tie magnitude digits exponent fuel count with
  | case1 count => exact absurd h (by simp)
  | case2 count fuel dropped place passes candidate hfound =>
    obtain rfl := Option.some.inj h
    obtain ⟨hpasses, hle⟩ := neighbour?_eq_some hfound
    have hquotient := Nat.div_le_self digits (Nat.pow 10 dropped)
    refine ⟨beq_iff_eq.mp hpasses, by omega, by omega, by omega⟩
  | case3 count fuel dropped place passes hnone ih => exact ih h

theorem digitCount_le {n places : Nat} (hp : 0 < places) (h : n < 10 ^ places) :
    digitCount n ≤ places :=
  (Nat.length_toDigits_le_iff (by decide) hp).mpr h

/-- A power of two or of five has no more digits than factors, and a significand has no more
digits than bits. -/
theorem significand_mul_pow_lt (magnitude : Nat) {base count : Nat} (hbase : base ≤ 10) :
    Binary64.significand magnitude * base ^ count < 10 ^ (53 + count) :=
  calc Binary64.significand magnitude * base ^ count
      ≤ Binary64.significand magnitude * 10 ^ count :=
        Nat.mul_le_mul_left _ (Nat.pow_le_pow_left hbase count)
    _ < 2 ^ 53 * 10 ^ count :=
        Nat.mul_lt_mul_of_pos_right (significand_lt magnitude) (Nat.pow_pos (by decide))
    _ ≤ 10 ^ 53 * 10 ^ count := Nat.mul_le_mul_right _ (Nat.pow_le_pow_left (by decide) 53)
    _ = 10 ^ (53 + count) := (Nat.pow_add 10 53 count).symm

/-- How long an exact expansion can be. -/
theorem expansion_bounds (hfinite : magnitude < Binary64.infiniteMagnitude) :
    ∃ places, 0 < places ∧ places ≤ 1127 ∧ (expansion magnitude).1 < 10 ^ places ∧
      -1074 ≤ (expansion magnitude).2 ∧ (expansion magnitude).2 ≤ 0 := by
  have hscale := scale_eq magnitude
  have hstep : stepOf magnitude ≤ 2045 := by
    have hfields : magnitude / Binary64.hiddenBit < 2047 := Nat.div_lt_of_lt_mul (by
      rw [Nat.mul_comm]
      exact hfinite)
    unfold stepOf
    split <;> omega
  unfold expansion
  dsimp only
  split
  · exact ⟨53 + (Binary64.scale magnitude).toNat, by omega, by omega,
      significand_mul_pow_lt magnitude (by decide), by omega, Int.le_refl 0⟩
  · exact ⟨53 + (-Binary64.scale magnitude).toNat, by omega, by omega,
      significand_mul_pow_lt magnitude (by decide), by omega, by omega⟩

/-- The decimal that is printed for a finite magnitude is rounded to it. -/
theorem magnitudeOfDecimal_shortest (tie : Tie) (hpos : 0 < magnitude)
    (hfinite : magnitude < Binary64.infiniteMagnitude) :
    magnitudeOfDecimal (shortest tie magnitude).1 (shortest tie magnitude).2 = magnitude := by
  unfold shortest
  dsimp only
  cases hcut : shortestFrom tie magnitude (expansion magnitude).1 (expansion magnitude).2 17 1 with
  | none => exact magnitudeOfDecimal_expansion hpos hfinite
  | some cut => exact (shortestFrom_eq_some hcut).1

/-- It is neither very long nor very large nor very small. -/
theorem shortest_bounds (tie : Tie) (hfinite : magnitude < Binary64.infiniteMagnitude) :
    -1074 ≤ (shortest tie magnitude).2 ∧
      (shortest tie magnitude).2 + digitCount (shortest tie magnitude).1 ≤ 3000 := by
  obtain ⟨places, hpos, hplaces, hdigits, hlow, hhigh⟩ := expansion_bounds hfinite
  have hcount := digitCount_le hpos hdigits
  unfold shortest
  dsimp only
  cases hcut : shortestFrom tie magnitude (expansion magnitude).1 (expansion magnitude).2 17 1 with
  | none =>
    dsimp only [Option.getD_none]
    omega
  | some cut =>
    obtain ⟨-, hcarry, hfrom, hto⟩ := shortestFrom_eq_some hcut
    have hlonger : 10 ^ places < 10 ^ (places + 1) :=
      Nat.pow_lt_pow_right (by decide) (Nat.lt_succ_self places)
    have hcutCount := digitCount_le (Nat.succ_pos places)
      (Nat.lt_of_le_of_lt (Nat.le_trans hcarry hdigits) hlonger)
    dsimp only [Option.getD_some]
    omega

end ReplLink.Decimal

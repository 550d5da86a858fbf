import PassTuner.Double.Shortest
import PassTuner.Proofs.Double.Rounding

/-! The shortest decimal reads back.

A decimal may trade zeros between its digits and its exponent. Every grid on which the search ends
has been tried by reading, and the exact decimal that is left over reads back because a magnitude
is the rounding of its own ratio. That this last resort is never needed is not shown. -/
namespace PassTuner.Double

theorem digitCountBelow {n k : Nat} (some : 0 < k) : digitCount n ≤ k ↔ n < 10 ^ k :=
  Nat.length_toDigits_le_iff (by decide) some

theorem digitCountPositive (n : Nat) : 0 < digitCount n := Nat.length_toDigits_pos

theorem digitCountTimes {n : Nat} (some : 0 < n) (k : Nat) :
    digitCount (n * 10 ^ k) = digitCount n + k := by
  induction k with
  | zero => rw [pow_zero, Nat.mul_one, Nat.add_zero]
  | succ k ih =>
    have positive : 0 < n * 10 ^ k := by positivity
    have shifted : Nat.toDigits 10 (10 * (n * 10 ^ k) + 0) =
        Nat.toDigits 10 (n * 10 ^ k) ++ Nat.toDigits 10 0 :=
      (Nat.toDigits_append_toDigits (by decide) positive (by decide)).symm
    have times : n * 10 ^ (k + 1) = 10 * (n * 10 ^ k) + 0 := by ring
    rw [times, digitCount, shifted, List.length_append, ← digitCount, ih]
    rfl

/-- The ratio that digits and an exponent stand for. -/
def decimalRatio (digits : Nat) (exponent : Int) : Nat × Nat :=
  if exponent < 0 then (digits, Nat.pow 10 (-exponent).toNat)
  else (digits * Nat.pow 10 exponent.toNat, 1)

theorem decimalRatioPositive (digits : Nat) (exponent : Int) :
    0 < (decimalRatio digits exponent).2 := by
  rw [decimalRatio]
  split
  · exact Nat.pow_pos (by decide)
  · exact Nat.one_pos

theorem decimalByRatio {digits : Nat} (some : 0 < digits) (exponent : Int) :
    decimalMagnitude digits exponent =
      if 310 < digitCount digits + exponent then infinityMagnitude
      else if digitCount digits + exponent < -330 then 0
      else nearestMagnitude (decimalRatio digits exponent).1 (decimalRatio digits exponent).2 := by
  simp only [decimalMagnitude, decimalRatio, if_neg some.ne']
  split
  · rfl
  · split
    · rfl
    · split <;> rfl

theorem decimalRatioScaled (digits k : Nat) (exponent : Int) :
    (decimalRatio (digits * 10 ^ k) (exponent - k)).1 * (decimalRatio digits exponent).2 =
      (decimalRatio digits exponent).1 * (decimalRatio (digits * 10 ^ k) (exponent - k)).2 := by
  simp only [decimalRatio, Nat.pow_eq]
  split <;> split <;> simp only [Nat.mul_one, Nat.mul_assoc, ← Nat.pow_add]
  all_goals first | omega | (congr 2; omega)

theorem decimalScaled (digits k : Nat) (exponent : Int) :
    decimalMagnitude (digits * 10 ^ k) (exponent - k) = decimalMagnitude digits exponent := by
  rcases Nat.eq_zero_or_pos digits with rfl | some
  · simp [decimalMagnitude]
  · have size : (digitCount (digits * 10 ^ k) : Int) + (exponent - k) =
        digitCount digits + exponent := by
      rw [digitCountTimes some]
      omega
    have nearest := nearestRatio (decimalRatioPositive (digits * 10 ^ k) (exponent - k))
      (decimalRatioPositive digits exponent) (decimalRatioScaled digits k exponent)
    rw [decimalByRatio some, decimalByRatio (by positivity), size, nearest]

namespace Decimal

theorem stripMagnitude (d : Decimal) : d.strip.magnitude = d.magnitude := by
  rw [strip]
  generalize digitCount d.digits = fuel
  induction fuel generalizing d with
  | zero => rfl
  | succ fuel ih =>
    rw [stripWithin]
    split
    · rename_i zero
      rw [ih]
      have scaled := decimalScaled (d.digits / 10) 1 (d.exponent + 1)
      have digits : d.digits / 10 * 10 ^ 1 = d.digits := by omega
      rw [digits] at scaled
      simpa [magnitude] using scaled.symm
    · rfl

end Decimal

theorem onGridMagnitude {tie : Tie} {magnitude : Nat} {exponent : Int} {d : Decimal}
    (found : onGrid? tie magnitude exponent = some d) : d.magnitude = magnitude := by
  simp only [onGrid?] at found
  split at found
  · rename_i both
    simp only [Bool.and_eq_true, beq_iff_eq] at both
    cases Option.some.inj found
    split
    · exact both.1
    · exact both.2
  · split at found
    · rename_i low
      cases Option.some.inj found
      simpa using low
    · split at found
      · rename_i high
        cases Option.some.inj found
        simpa using high
      · contradiction

theorem exactSizeLarge {m q : Nat} (small : m < 2 * hiddenBit) (most : q ≤ 971) :
    digitCount (m * 2 ^ q) ≤ 310 := by
  rw [digitCountBelow (by decide)]
  calc m * 2 ^ q < 2 * hiddenBit * 2 ^ q := by gcongr
    _ ≤ 2 * hiddenBit * 2 ^ 971 := by gcongr; decide
    _ ≤ 10 ^ 310 := by decide +kernel

theorem exactSizeMost {m k : Nat} (small : m < 2 * hiddenBit) :
    digitCount (m * 5 ^ k) ≤ 310 + k := by
  rw [digitCountBelow (by omega), Nat.pow_add]
  calc m * 5 ^ k < 2 * hiddenBit * 5 ^ k := by gcongr
    _ ≤ 10 ^ 310 * 5 ^ k := by gcongr; decide +kernel
    _ ≤ 10 ^ 310 * 10 ^ k := by gcongr; decide

theorem exactSizeLeast {m k : Nat} (some : 0 < m) (least : k ≤ 1074) :
    k ≤ digitCount (m * 5 ^ k) + 330 := by
  rcases Nat.lt_or_ge 331 k with deep | shallow
  · by_contra short
    have below : digitCount (m * 5 ^ k) ≤ k - 331 := by omega
    rw [digitCountBelow (by omega)] at below
    have power : 10 ^ (k - 331) * 10 ^ 331 = 5 ^ k * 2 ^ k := by
      rw [← Nat.pow_add, Nat.sub_add_cancel deep.le, ← Nat.mul_pow]
    have bits : 2 ^ k < 10 ^ 331 := calc
      2 ^ k ≤ 2 ^ 1074 := by gcongr; decide
      _ < 10 ^ 331 := by decide +kernel
    have steps : 10 ^ (k - 331) * 10 ^ 331 < 10 ^ (k - 331) * 10 ^ 331 := calc
      10 ^ (k - 331) * 10 ^ 331 = 5 ^ k * 2 ^ k := power
      _ ≤ m * 5 ^ k * 2 ^ k := by gcongr; exact Nat.le_mul_of_pos_left _ some
      _ < 10 ^ (k - 331) * 10 ^ 331 := by gcongr
    exact lt_irrefl _ steps
  · have positive := digitCountPositive (m * 5 ^ k)
    omega

theorem exactByParts (magnitude : Nat) : exactDecimal magnitude =
    if (parts magnitude).2 < 0 then
      ⟨(parts magnitude).1 * Nat.pow 5 (-(parts magnitude).2).toNat, (parts magnitude).2⟩
    else ⟨(parts magnitude).1 * Nat.pow 2 (parts magnitude).2.toNat, 0⟩ := rfl

theorem exactMagnitude {magnitude : Nat} (some : 0 < magnitude)
    (finite : magnitude < infinityMagnitude) : (exactDecimal magnitude).magnitude = magnitude := by
  obtain ⟨least, most, small, subnormal, same⟩ := partsBounds finite
  have nearest := nearestOfRatio finite
  rw [ratioDyadic] at nearest
  rw [exactByParts]
  generalize (parts magnitude).1 = m at *
  generalize (parts magnitude).2 = q at *
  have significant : 0 < m := by
    rcases Nat.eq_zero_or_pos m with rfl | positive
    · rw [subnormal (by decide)] at same
      exact absurd same some.ne
    · exact positive
  -- a negative binary exponent trades its twos for fives, so that the ratio stays
  rw [← nearest]
  split
  · rename_i negative
    obtain ⟨k, rfl⟩ : ∃ k : Nat, q = -k := ⟨(-q).toNat, by omega⟩
    have digits : 0 < m * 5 ^ k := by positivity
    have lower := exactSizeLeast significant (show k ≤ 1074 by omega)
    have upper := exactSizeMost (k := k) small
    simp only [Decimal.magnitude, Nat.pow_eq, Int.neg_neg, Int.toNat_natCast]
    rw [decimalByRatio digits, if_neg (by omega), if_neg (by omega)]
    refine nearestRatio (decimalRatioPositive ..) (dyadicPositive ..) ?_
    simp only [decimalRatio, dyadic, negative, ↓reduceIte, Int.neg_neg, Int.toNat_natCast, Nat.pow_eq]
    rw [Nat.mul_assoc, ← Nat.mul_pow]
  · rename_i positive
    obtain ⟨k, rfl⟩ : ∃ k : Nat, q = k := ⟨q.toNat, by omega⟩
    have digits : 0 < m * 2 ^ k := by positivity
    have upper := exactSizeLarge (q := k) small (by omega)
    simp only [Decimal.magnitude, Nat.pow_eq, Int.toNat_natCast]
    rw [decimalByRatio digits, if_neg (by omega), if_neg (by omega)]
    refine nearestRatio (decimalRatioPositive ..) (dyadicPositive ..) ?_
    simp [decimalRatio, dyadic, positive]

theorem firstOnGridMagnitude {tie : Tie} {magnitude : Nat} {leading : Int} {counts : List Nat}
    (some : 0 < magnitude) (finite : magnitude < infinityMagnitude) :
    (firstOnGrid tie magnitude leading counts).magnitude = magnitude := by
  induction counts with
  | nil => exact exactMagnitude some finite
  | cons count more ih =>
    rw [firstOnGrid]
    split
    · rename_i found
      exact onGridMagnitude found
    · exact ih

theorem shortestMagnitude {tie : Tie} {magnitude : Nat} (finite : magnitude < infinityMagnitude) :
    (shortest tie magnitude).magnitude = magnitude := by
  rw [shortest]
  split
  · rename_i zero
    rw [zero]
    rfl
  · rename_i some
    rw [Decimal.stripMagnitude]
    exact firstOnGridMagnitude (Nat.pos_of_ne_zero some) finite

end PassTuner.Double

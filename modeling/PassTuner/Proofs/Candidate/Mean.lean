import PassTuner.Proofs.Candidate.Score
import PassTuner.Proofs.Double.Overflow

/-! When the running mean leaves the doubles.

The mean of finite values lies between them, but it is worked out from their total. What is lost is
lost before the division: the count times the mean or the sum with the new value is rounded to
infinity, and a mean that is infinite or not a number stays so. -/
namespace PassTuner.Candidate
open Double (limit hiddenBit)

/-- Whether a mean can take in one more value: no total on the way is rounded to infinity. -/
structure HasRoom (score : Double) (n : Nat) (fitness : Double) : Prop where
  count : (n : ℚ) < limit
  product : |(Double.ofNat n).value * score.value| < limit
  sum : |(Double.ofNat n * score).value + fitness.value| < limit

variable {score fitness : Double} {n : Nat}

theorem runningMeanKept (finite : (runningMean score n fitness).isFinite) : score.isFinite :=
  (Double.productFinite (Double.sumFinite (Double.quotientFinite finite)).1).2

/-- The divisor is at least one, so that a quotient is no greater than what is divided. -/
theorem divisorStands (count : (Double.ofNat n).isFinite) :
    ∃ d, (Double.ofNat n + .one).Stands d ∧ 1 ≤ |d| := by
  have rounds := (Double.finiteStands count).roundsSum oneStands
  have one : |(1 : ℚ)| < 2 ^ (970 : ℤ) := by
    rw [abs_one]
    exact one_lt_zpow₀ one_lt_two (by decide)
  have finite := rounds.finite.mpr (Double.valueRoom count one)
  have least : |(1 : ℚ)| ≤ |(Double.ofNat n).value + 1| := by
    rw [abs_one]
    exact le_trans (le_add_of_nonneg_left (Double.natNonnegative n)) (le_abs_self _)
  have beyond := rounds.beyond finite oneStands least
  rw [abs_one] at beyond
  exact ⟨_, Double.finiteStands finite, beyond⟩

theorem runningMeanFinite (mean : score.isFinite) (value : fitness.isFinite) :
    (runningMean score n fitness).isFinite ↔ HasRoom score n fitness := by
  have product (count : (Double.ofNat n).isFinite) :=
    ((Double.finiteStands count).roundsProduct (Double.finiteStands mean)).finite
  have sum (product : (Double.ofNat n * score).isFinite) :=
    ((Double.finiteStands product).roundsSum (Double.finiteStands value)).finite
  constructor
  · intro finite
    have total := Double.quotientFinite finite
    have scaled := (Double.sumFinite total).1
    have count := (Double.productFinite scaled).1
    exact ⟨Double.natFinite.mp count, (product count).mp scaled, (sum scaled).mp total⟩
  · intro room
    have count := Double.natFinite.mpr room.count
    have scaled := (product count).mpr room.product
    have total := (sum scaled).mpr room.sum
    obtain ⟨d, divisor, least⟩ := divisorStands count
    have apart : d ≠ 0 := by
      rintro rfl
      rw [abs_zero] at least
      exact absurd least (by norm_num)
    have quotient := (Double.finiteStands total).roundsQuotient divisor apart
    refine quotient.finite.mpr (lt_of_le_of_lt ?_ (Double.valueBelow total))
    rw [abs_div]
    exact div_le_self (abs_nonneg _) least

/-! Values that leave room for as many as can be counted. -/

theorem runningMeanWithin {bound : ℚ} (mean : score.Within bound) (value : fitness.Within bound)
    (few : n + 1 < 2 * hiddenBit) (product : ∃ z : Double, z.Stands (n * bound))
    (sum : ∃ z : Double, z.Stands ((n + 1 : ℕ) * bound)) (whole : ∃ z : Double, z.Stands bound) :
    (runningMean score n fitness).Within bound := by
  obtain ⟨_, product⟩ := product
  obtain ⟨_, sum⟩ := sum
  obtain ⟨_, whole⟩ := whole
  have count : (Double.ofNat n).Stands n := Double.natStands (Nat.lt_of_succ_lt few)
  have scaled : (Double.ofNat n * score).Within (n * bound) := by
    refine (count.roundsProduct (Double.finiteStands mean.finite)).within product ?_
    rw [abs_mul, Nat.abs_cast]
    exact mul_le_mul_of_nonneg_left mean.value (Nat.cast_nonneg n)
  have total : (Double.ofNat n * score + fitness).Within ((n + 1 : ℕ) * bound) := by
    have rounds := (Double.finiteStands scaled.finite).roundsSum (Double.finiteStands value.finite)
    refine rounds.within sum ((abs_add_le _ _).trans ?_)
    rw [Nat.cast_succ, add_mul, one_mul]
    exact add_le_add scaled.value value.value
  have apart : (n : ℚ) + 1 ≠ 0 := by positivity
  refine ((Double.finiteStands total.finite).roundsQuotient (divisorExact few) apart).within whole ?_
  have some : (0 : ℚ) < n + 1 := by positivity
  rw [abs_div, abs_of_pos some, div_le_iff₀ some, mul_comm bound, ← Nat.cast_succ]
  exact total.value

/-- Up to here the total of as many values as a record can count is a double. -/
def moderate : ℚ := 2 ^ (991 : ℤ)

theorem moderateMultiple {k : Nat} (few : k < 2 ^ 33) : ∃ z : Double, z.Stands (k * moderate) := by
  have small : (k * 2 ^ 20 : ℤ).natAbs < 2 * hiddenBit := by
    unfold hiddenBit
    omega
  obtain ⟨z, stands⟩ := Double.dyadicStands small (q := 971) (by decide) (by decide)
  have split : (k : ℚ) * moderate = ((k * 2 ^ 20 : ℤ) : ℚ) * 2 ^ (971 : ℤ) := by
    rw [moderate, show (991 : ℤ) = (20 : ℕ) + 971 by rfl, zpow_add₀ two_ne_zero, zpow_natCast,
      ← mul_assoc, Int.cast_mul, Int.cast_natCast, Int.cast_pow, Int.cast_ofNat]
  exact ⟨z, split ▸ stands⟩

theorem runningMeanModerate (mean : score.Within moderate) (value : fitness.Within moderate)
    (few : n + 1 < 2 ^ 33) : (runningMean score n fitness).Within moderate := by
  have countable : n + 1 < 2 * hiddenBit := by
    unfold hiddenBit
    omega
  have one := moderateMultiple (show 1 < 2 ^ 33 by decide)
  rw [Nat.cast_one, one_mul] at one
  exact runningMeanWithin mean value countable (moderateMultiple (Nat.lt_of_succ_lt few))
    (moderateMultiple few) one

end PassTuner.Candidate

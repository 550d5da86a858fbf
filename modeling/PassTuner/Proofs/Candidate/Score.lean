import PassTuner.Candidate.Basic
import PassTuner.Proofs.Double.Arithmetic

/-! The score of a candidate that is given the same fitness whenever it is evaluated.

The mean of equal values is that value as long as all of their multiples are doubles. Otherwise
rounding may move it. -/
namespace PassTuner.Candidate
open Double (hiddenBit)

/-- The mean of so many equal values, taken in one by one. -/
def steadyMean (fitness : Double) : Nat → Double
  | 0 => .zero
  | n + 1 => runningMean (steadyMean fitness n) n fitness

/-- Whether the mean of equal values is that value, for any of them up to so many. -/
def HoldsMean (fitness : Double) (n : Nat) : Prop :=
  ∀ k, 0 < k → k ≤ n → (steadyMean fitness k).numericKey = fitness.numericKey

theorem HoldsMean.fewer {fitness : Double} {n m : Nat} (holds : HoldsMean fitness n)
    (fewer : m ≤ n) :
    HoldsMean fitness m :=
  fun k some within => holds k some (Nat.le_trans within fewer)

/-! Rounding moves the mean of three values to a neighbour, and the sum of two values near the
greatest is infinite. -/

example : steadyMean ⟨0x3fd5555555555556⟩ 3 = ⟨0x3fd5555555555555⟩ := by decide +kernel

example : steadyMean (.ofDecimal false 1 308) 2 = .infinity := by decide +kernel

theorem zeroStands : Double.zero.Stands 0 := by
  have zero : Double.zero = .ofNat 0 := by decide +kernel
  rw [zero]
  exact_mod_cast Double.natStands (by decide)

theorem oneStands : Double.one.Stands 1 := by
  have one : Double.one = .ofNat 1 := by decide +kernel
  rw [one]
  exact_mod_cast Double.natStands (by decide)

theorem divisorExact {n : Nat} (few : n + 1 < 2 * hiddenBit) :
    (Double.ofNat n + .one).Stands ((n : ℚ) + 1) :=
  (Double.natStands (Nat.lt_of_succ_lt few)).sum oneStands (by exact_mod_cast Double.natStands few)

/-- One more of equal values, while their multiples are doubles. -/
theorem runningMeanStands {score fitness : Double} {t r : ℚ} {n : Nat} (before : score.Stands t)
    (value : fitness.Stands r) (mean : n * t = n * r) (few : n + 1 < 2 * hiddenBit)
    (product : ∃ z : Double, z.Stands (n * r)) (sum : ∃ z : Double, z.Stands ((n + 1 : ℕ) * r)) :
    (runningMean score n fitness).Stands r := by
  obtain ⟨_, product⟩ := product
  obtain ⟨_, sum⟩ := sum
  have multiple : (Double.ofNat n * score).Stands (n * t) :=
    (Double.natStands (Nat.lt_of_succ_lt few)).product before (mean ▸ product)
  have whole : (n : ℚ) * t + r = (n + 1 : ℕ) * r := by
    rw [mean]
    push_cast
    ring
  have total := multiple.sum value (whole ▸ sum)
  have some : (n : ℚ) + 1 ≠ 0 := by positivity
  have quotient : ((n : ℚ) * t + r) / (n + 1) = r := by
    rw [whole]
    push_cast
    exact mul_div_cancel_left₀ r some
  have divided := total.quotient (divisorExact few) some (quotient.symm ▸ value)
  rwa [quotient] at divided

theorem steadyMeanStands {fitness : Double} {r : ℚ} {n : Nat} (value : fitness.Stands r)
    (few : n < 2 * hiddenBit) (multiples : ∀ k ≤ n, ∃ z : Double, z.Stands (k * r)) (some : 0 < n) :
    (steadyMean fitness n).Stands r := by
  induction n with
  | zero => contradiction
  | succ n ih =>
    have product := multiples n (Nat.le_succ n)
    have sum := multiples (n + 1) (Nat.le_refl _)
    rcases Nat.eq_zero_or_pos n with rfl | some
    · exact runningMeanStands zeroStands value (by simp) few product sum
    · have fewer := fun k within => multiples k (Nat.le_succ_of_le within)
      exact runningMeanStands (ih (Nat.lt_of_succ_lt few) fewer some) value rfl few product sum

/-- Whether so many times a value is a double with room in its significand. -/
def Short (fitness : Double) (n : Nat) : Prop :=
  ∃ m q : Int, fitness.Stands (m * (2 : ℚ) ^ q) ∧ m.natAbs * n < 2 * hiddenBit ∧
    -1074 ≤ q ∧ q ≤ 971

theorem Short.holdsMean {fitness : Double} {n : Nat} (short : Short fitness n)
    (few : n < 2 * hiddenBit) : HoldsMean fitness n := by
  obtain ⟨m, q, value, room, least, most⟩ := short
  intro k some within
  have countable : k < 2 * hiddenBit := Nat.lt_of_le_of_lt within few
  refine (steadyMeanStands value countable (fun j below => ?_) some).numericKey value
  have small : (j * m).natAbs < 2 * hiddenBit := by
    rw [Int.natAbs_mul, Int.natAbs_natCast, Nat.mul_comm]
    exact Nat.lt_of_le_of_lt (Nat.mul_le_mul_left _ (Nat.le_trans below within)) room
  obtain ⟨z, stands⟩ := Double.dyadicStands small least most
  exact ⟨z, by simpa [mul_assoc] using stands⟩

end PassTuner.Candidate

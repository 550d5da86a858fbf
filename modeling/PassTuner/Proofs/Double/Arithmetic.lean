import PassTuner.Double.Arithmetic
import PassTuner.Proofs.Double.Rounding

/-! Arithmetic on values.

An operation on finite doubles yields its exact result, rounded. If that is a double it is not
changed, as a finite number is the rounding of its own ratio. All is said of values, so that the
sign of a zero takes no part. -/
namespace PassTuner.Double

/-- The number that a finite pattern stands for. -/
def value (x : Double) : ℚ := (x.signedRatio.1 : ℚ) / x.signedRatio.2

/-- The value of a finite magnitude. -/
def size (magnitude : Nat) : ℚ := ((ratio magnitude).1 : ℚ) / (ratio magnitude).2

structure Stands (x : Double) (r : ℚ) : Prop where
  finite : x.isFinite
  value : x.value = r

theorem ratioPositive (magnitude : Nat) : 0 < (ratio magnitude).2 := dyadicPositive _ _

theorem sizeParts (magnitude : Nat) :
    size magnitude = (parts magnitude).1 * (2 : ℚ) ^ (parts magnitude).2 := dyadicValue _ _

theorem sizeNonnegative (magnitude : Nat) : 0 ≤ size magnitude := by
  rw [size]
  positivity

theorem valueSigned (x : Double) :
    x.value = if x.negative then -size x.magnitude else size x.magnitude := by
  rw [value, signedRatio, size]
  dsimp only
  split
  · rw [Int.cast_neg, neg_div, Int.cast_natCast]
  · rw [Int.cast_natCast]

theorem valueSize (x : Double) : |x.value| = size x.magnitude := by
  rw [valueSigned]
  split
  · rw [abs_neg, abs_of_nonneg (sizeNonnegative _)]
  · exact abs_of_nonneg (sizeNonnegative _)

theorem nearestSize {num den magnitude : Nat} (positive : 0 < den)
    (finite : magnitude < infinityMagnitude) (same : (num : ℚ) / den = size magnitude) :
    nearestMagnitude num den = magnitude := by
  have above : (den : ℚ) ≠ 0 := by exact_mod_cast positive.ne'
  have above' : ((ratio magnitude).2 : ℚ) ≠ 0 := by exact_mod_cast (ratioPositive magnitude).ne'
  rw [size, div_eq_div_iff above above'] at same
  rw [nearestRatio positive (ratioPositive magnitude) (by exact_mod_cast same),
    nearestOfRatio finite]

/-- Whether a number may carry a sign. Zero may carry either. -/
def Signed (negative : Bool) (r : ℚ) : Prop := if negative then r ≤ 0 else 0 ≤ r

theorem Signed.mul {m n : Bool} {a b : ℚ} (left : Signed m a) (right : Signed n b) :
    Signed (m != n) (a * b) := by
  cases m <;> cases n
  · exact mul_nonneg left right
  · exact mul_nonpos_of_nonneg_of_nonpos left right
  · exact mul_nonpos_of_nonpos_of_nonneg left right
  · exact mul_nonneg_of_nonpos_of_nonpos left right

theorem Signed.inv {n : Bool} {b : ℚ} (signed : Signed n b) : Signed n b⁻¹ := by
  cases n
  · exact inv_nonneg.mpr signed
  · exact inv_nonpos.mpr signed

theorem Signed.abs {n : Bool} {r : ℚ} (signed : Signed n r) : (if n then -|r| else |r|) = r := by
  cases n
  · exact abs_of_nonneg signed
  · exact neg_eq_iff_eq_neg.mpr (abs_of_nonpos signed)

theorem Signed.unique {n : Bool} {r : ℚ} (signed : Signed n r) (some : r ≠ 0) :
    n = decide (r < 0) := by
  cases n
  · exact (decide_eq_false (not_lt.mpr signed)).symm
  · exact (decide_eq_true (lt_of_le_of_ne signed some)).symm

variable {x y z : Double} {a b r : ℚ}

namespace Stands

theorem magnitude (stands : x.Stands r) : x.magnitude < infinityMagnitude :=
  of_decide_eq_true stands.finite

theorem size (stands : x.Stands r) : Double.size x.magnitude = |r| := by
  rw [← valueSize, stands.value]

theorem signed (stands : x.Stands r) : Signed x.negative r := by
  rw [← stands.value, valueSigned, Signed]
  split
  · exact neg_nonpos.mpr (sizeNonnegative _)
  · exact sizeNonnegative _

theorem number (stands : x.Stands r) : x.isNaN = false ∧ x.isInfinite = false := by
  have finite := stands.magnitude
  simp only [isNaN, isInfinite, decide_eq_false_iff_not]
  omega

end Stands

/-- A number rounded to a double, which may be infinite. -/
def Rounds (z : Double) (r : ℚ) : Prop :=
  ∃ (negative : Bool) (num den : Nat), 0 < den ∧ (num : ℚ) / den = |r| ∧ Signed negative r ∧
    z = ofMagnitude negative (nearestMagnitude num den)

/-- A number that is a double is not changed by rounding. -/
theorem Rounds.exact (rounds : x.Rounds r) (stands : z.Stands r) : x.Stands r := by
  obtain ⟨negative, num, den, positive, same, signed, rfl⟩ := rounds
  rw [nearestSize positive stands.magnitude (same.trans stands.size.symm)]
  have small : z.magnitude < signWeight := Nat.lt_trans stands.magnitude (by decide)
  refine ⟨finiteOf negative stands.magnitude, ?_⟩
  rw [valueSigned, magnitudeOf negative small, negativeOf negative small, stands.size]
  exact signed.abs

theorem Rounds.ofNat (n : Nat) : (ofNat n).Rounds n :=
  ⟨false, n, 1, Nat.one_pos, by simp, Nat.cast_nonneg n, rfl⟩

namespace Stands

theorem roundsProduct (left : x.Stands a) (right : y.Stands b) : (x * y).Rounds (a * b) := by
  have unfolded : x * y = ofMagnitude (x.negative != y.negative)
      (nearestMagnitude ((ratio x.magnitude).1 * (ratio y.magnitude).1)
        ((ratio x.magnitude).2 * (ratio y.magnitude).2)) := by
    change lift Double.product x y = _
    simp only [lift, Double.product, left.number, right.number, Bool.false_eq_true, Bool.or_self,
      ↓reduceIte]
  rw [unfolded]
  refine ⟨_, _, _, Nat.mul_pos (ratioPositive _) (ratioPositive _), ?_,
    left.signed.mul right.signed, rfl⟩
  rw [abs_mul, ← left.size, ← right.size, Double.size, Double.size, div_mul_div_comm]
  push_cast
  rfl

theorem roundsQuotient (left : x.Stands a) (right : y.Stands b) (some : b ≠ 0) :
    (x / y).Rounds (a / b) := by
  have apart : y.isZero = false := by
    refine decide_eq_false fun zero => some (abs_eq_zero.mp ?_)
    rw [← right.size, zero]
    exact zero_div _
  have unfolded : x / y = ofMagnitude (x.negative != y.negative)
      (nearestMagnitude ((ratio x.magnitude).1 * (ratio y.magnitude).2)
        ((ratio x.magnitude).2 * (ratio y.magnitude).1)) := by
    change lift Double.quotient x y = _
    simp only [lift, Double.quotient, left.number, right.number, apart, Bool.false_eq_true,
      ↓reduceIte]
  rw [unfolded]
  have divisor : 0 < (ratio y.magnitude).1 := by
    rw [Nat.pos_iff_ne_zero]
    intro none
    refine some (abs_eq_zero.mp ?_)
    rw [← right.size, Double.size, none, Nat.cast_zero, zero_div]
  refine ⟨_, _, _, Nat.mul_pos (ratioPositive _) divisor, ?_,
    div_eq_mul_inv a b ▸ left.signed.mul right.signed.inv, rfl⟩
  rw [abs_div, ← left.size, ← right.size, Double.size, Double.size, div_div_div_eq]
  push_cast
  rfl

theorem roundsSum (left : x.Stands a) (right : y.Stands b) : (x + y).Rounds (a + b) := by
  have unfolded : x + y = lift Double.sum x y := rfl
  simp only [unfolded, lift, Double.sum, left.number, right.number, Bool.false_eq_true, ↓reduceIte]
  have first : (x.signedRatio.1 : ℚ) / x.signedRatio.2 = a := left.value
  have second : (y.signedRatio.1 : ℚ) / y.signedRatio.2 = b := right.value
  have positive : 0 < x.signedRatio.2 := ratioPositive _
  have positive' : 0 < y.signedRatio.2 := ratioPositive _
  generalize x.signedRatio = p at *
  generalize y.signedRatio = q at *
  have above : (p.2 : ℚ) ≠ 0 := by exact_mod_cast positive.ne'
  have above' : (q.2 : ℚ) ≠ 0 := by exact_mod_cast positive'.ne'
  have total : ((p.1 * q.2 + q.1 * p.2 : ℤ) : ℚ) / (p.2 * q.2 : ℕ) = a + b := by
    rw [← first, ← second, div_add_div _ _ above above']
    push_cast
    ring
  generalize p.1 * q.2 + q.1 * p.2 = num at *
  refine ⟨_, _, _, Nat.mul_pos positive positive', ?_, ?_, rfl⟩
  · rw [← total, abs_div, Nat.abs_cast, Nat.cast_natAbs, Int.cast_abs]
  · rw [← total]
    rcases lt_trichotomy num 0 with minus | rfl | plus
    · have signed : (num : ℚ) ≤ 0 := by exact_mod_cast minus.le
      simpa [Signed, minus, minus.ne] using div_nonpos_of_nonpos_of_nonneg signed (by positivity)
    · simp [Signed]
    · have signed : (0 : ℚ) ≤ num := by exact_mod_cast plus.le
      simpa [Signed, plus.not_gt, plus.ne'] using div_nonneg signed (by positivity)

theorem product (left : x.Stands a) (right : y.Stands b) (exact : z.Stands (a * b)) :
    (x * y).Stands (a * b) := (left.roundsProduct right).exact exact

theorem quotient (left : x.Stands a) (right : y.Stands b) (some : b ≠ 0)
    (exact : z.Stands (a / b)) : (x / y).Stands (a / b) :=
  (left.roundsQuotient right some).exact exact

theorem sum (left : x.Stands a) (right : y.Stands b) (exact : z.Stands (a + b)) :
    (x + y).Stands (a + b) := (left.roundsSum right).exact exact

end Stands

/-! Which numbers there are: those with a significand of 53 bits. -/

theorem partsOf {m : Nat} {q : Int} (least : -1074 ≤ q) (small : m < 2 * hiddenBit)
    (normal : hiddenBit ≤ m ∨ q = -1074) : parts ((q + 1074).toNat * hiddenBit + m) = (m, q) := by
  rw [parts]
  unfold hiddenBit at *
  split <;> simp only [Prod.mk.injEq] <;> omega

/-- The significand is moved up as far as it goes, or as the exponent does. -/
theorem normalForm {m : Nat} {q : Int} (some : 0 < m) (small : m < 2 * hiddenBit)
    (least : -1074 ≤ q) : ∃ k : Nat, m * 2 ^ k < 2 * hiddenBit ∧ -1074 ≤ q - k ∧
      (hiddenBit ≤ m * 2 ^ k ∨ q - k = -1074) := by
  have short : m.log2 < 53 := (Nat.log2_lt some.ne').mpr small
  have above : m < 2 ^ (m.log2 + 1) := Nat.lt_log2_self
  have below : 2 ^ m.log2 ≤ m := Nat.log2_self_le some.ne'
  have room : m * 2 ^ (52 - m.log2) < 2 * hiddenBit := by
    calc m * 2 ^ (52 - m.log2) < 2 ^ (m.log2 + 1) * 2 ^ (52 - m.log2) := by gcongr
      _ = 2 * hiddenBit := by rw [← Nat.pow_add, show m.log2 + 1 + (52 - m.log2) = 53 by omega]; rfl
  rcases Nat.le_total (52 - m.log2) (q + 1074).toNat with far | near
  · refine ⟨52 - m.log2, room, by omega, .inl ?_⟩
    calc hiddenBit = 2 ^ m.log2 * 2 ^ (52 - m.log2) := by
          rw [← Nat.pow_add, show m.log2 + (52 - m.log2) = 52 by omega]; rfl
      _ ≤ m * 2 ^ (52 - m.log2) := by gcongr
  · refine ⟨(q + 1074).toNat, Nat.lt_of_le_of_lt ?_ room, by omega, .inr (by omega)⟩
    exact Nat.mul_le_mul_left _ (Nat.pow_le_pow_right Nat.two_pos near)

theorem standsParts (negative : Bool) {m : Nat} {q : Int} (small : m < 2 * hiddenBit)
    (least : -1074 ≤ q) (most : q ≤ 971) (normal : hiddenBit ≤ m ∨ q = -1074) :
    (ofMagnitude negative ((q + 1074).toNat * hiddenBit + m)).Stands
      ((if negative then -1 else 1) * m * (2 : ℚ) ^ q) := by
  have finite : (q + 1074).toNat * hiddenBit + m < infinityMagnitude := by
    unfold hiddenBit infinityMagnitude at *
    omega
  have bounded : (q + 1074).toNat * hiddenBit + m < signWeight := Nat.lt_trans finite (by decide)
  refine ⟨finiteOf negative finite, ?_⟩
  rw [valueSigned, magnitudeOf negative bounded, negativeOf negative bounded, sizeParts,
    partsOf least small normal]
  cases negative <;> simp

theorem dyadicStands {m : Int} {q : Int} (small : m.natAbs < 2 * hiddenBit) (least : -1074 ≤ q)
    (most : q ≤ 971) : ∃ z : Double, z.Stands (m * (2 : ℚ) ^ q) := by
  rcases Nat.eq_zero_or_pos m.natAbs with none | some
  · obtain rfl := Int.natAbs_eq_zero.mp none
    exact ⟨_, by simpa using standsParts false small (le_refl (-1074)) (by decide) (.inr rfl)⟩
  · obtain ⟨k, short, low, normal⟩ := normalForm some small least
    have stands := standsParts (decide (m < 0)) short low (by omega) normal
    have scaled : ((m.natAbs * 2 ^ k : ℕ) : ℚ) * 2 ^ (q - k) = m.natAbs * 2 ^ q := by
      rw [zpow_sub₀ two_ne_zero, zpow_natCast]
      push_cast
      field_simp
    have whole : (if decide (m < 0) then -1 else 1 : ℚ) * m.natAbs = m := by
      rw [Nat.cast_natAbs]
      rcases lt_or_ge m 0 with minus | plus
      · simp [minus, abs_of_neg]
      · simp [Int.not_lt.mpr plus, abs_of_nonneg plus]
    rw [mul_assoc, scaled, ← mul_assoc, whole] at stands
    exact ⟨_, stands⟩

theorem natStands {n : Nat} (small : n < 2 * hiddenBit) : (ofNat n).Stands n := by
  obtain ⟨z, stands⟩ :=
    dyadicStands (m := n) (q := 0) (by simpa using small) (by decide) (by decide)
  rw [zpow_zero, mul_one, Int.cast_natCast] at stands
  exact (Rounds.ofNat n).exact stands

theorem sizeZero {magnitude : Nat} (finite : magnitude < infinityMagnitude)
    (zero : size magnitude = 0) : magnitude = 0 := by
  have none : nearestMagnitude 0 1 = magnitude := nearestSize Nat.one_pos finite (by simp [zero])
  exact none.symm

/-- A value has one pattern, but for the sign of zero. -/
theorem Stands.numericKey (left : x.Stands r) (right : y.Stands r) :
    x.numericKey = y.numericKey := by
  have same : x.magnitude = y.magnitude := by
    rw [← nearestOfRatio right.magnitude]
    exact (nearestSize (ratioPositive _) left.magnitude (right.size.trans left.size.symm)).symm
  rw [Double.numericKey, Double.numericKey, same]
  rcases eq_or_ne r 0 with rfl | some
  · rw [sizeZero right.magnitude (right.size.trans abs_zero)]
    split <;> split <;> rfl
  · rw [left.signed.unique some, right.signed.unique some]

/-- A finite number is rounded to the nearest natural, a half upwards. -/
theorem roundToNatFloor (x : Double) :
    x.roundToNat = if x.isFinite then ⌊x.value + 1 / 2⌋₊ else 0 := by
  rw [roundToNat]
  cases x.isFinite with
  | false => simp
  | true =>
    rw [valueSigned]
    cases x.negative with
    | true =>
      have small : -size x.magnitude + 1 / 2 < 1 := by linarith [sizeNonnegative x.magnitude]
      simpa using (Nat.floor_eq_zero.mpr small).symm
    | false =>
      have positive : ((ratio x.magnitude).2 : ℚ) ≠ 0 := by
        exact_mod_cast (ratioPositive x.magnitude).ne'
      have half : size x.magnitude + 1 / 2 =
          ((2 * (ratio x.magnitude).1 + (ratio x.magnitude).2 : ℕ) : ℚ) /
            (2 * (ratio x.magnitude).2 : ℕ) := by
        rw [size]
        push_cast
        field_simp
      simp only [Bool.false_eq_true, if_false, Bool.not_true, Bool.or_self, if_true, half,
        Rat.natFloor_natCast_div_natCast]

end PassTuner.Double

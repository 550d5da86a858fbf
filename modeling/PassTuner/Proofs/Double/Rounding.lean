import Mathlib.Algebra.Order.Field.Power
import Mathlib.Data.Int.Log
import Mathlib.Data.Rat.Floor
import Mathlib.Tactic.FieldSimp
import Mathlib.Tactic.Linarith
import Mathlib.Tactic.NormNum
import Mathlib.Tactic.Positivity
import Mathlib.Tactic.Ring
import PassTuner.Double.Rounding

/-! Rounding sees a ratio and not how it is written.

The binary exponent is the logarithm of the quotient, so equal quotients round to the same
magnitude. A finite magnitude is the rounding of its own ratio. -/
namespace PassTuner.Double

theorem roundScaled {num den scale : Nat} (positive : 0 < scale) :
    roundHalfEven (num * scale) (den * scale) = roundHalfEven num den := by
  have whole : num * scale / (den * scale) = num / den := Nat.mul_div_mul_right _ _ positive
  have rest : num * scale % (den * scale) = num % den * scale := Nat.mul_mod_mul_right ..
  simp only [roundHalfEven, whole, rest, ← Nat.mul_assoc, Nat.mul_lt_mul_right positive]

theorem roundMultiple {n den : Nat} (positive : 0 < den) : roundHalfEven (n * den) den = n := by
  simp [roundHalfEven, Nat.mul_div_cancel n positive, positive]

/-! A power of two as the program forms it, by the sign of its exponent. -/

theorem powerBelow {e : Int} (negative : e < 0) : (2 : ℚ) ^ e = (2 ^ (-e).toNat)⁻¹ := by
  rw [← zpow_natCast, Int.toNat_of_nonneg (by omega), zpow_neg, inv_inv]

theorem powerAbove {e : Int} (positive : ¬e < 0) : (2 : ℚ) ^ e = 2 ^ e.toNat := by
  rw [← zpow_natCast, Int.toNat_of_nonneg (by omega)]

/-- The comparison by which an estimated exponent is corrected. -/
def reaches (num den : Nat) (e : Int) : Bool :=
  if e < 0 then decide (den ≤ num * Nat.pow 2 (-e).toNat)
  else decide (den * Nat.pow 2 e.toNat ≤ num)

theorem reachesIff {num den : Nat} (positive : 0 < den) (e : Int) :
    reaches num den e ↔ (2 : ℚ) ^ e ≤ num / den := by
  have above : (0 : ℚ) < den := by exact_mod_cast positive
  rw [le_div_iff₀ above, reaches]
  split
  · rename_i negative
    have power : (2 : ℚ) ^ e * 2 ^ (-e).toNat = 1 := by
      rw [powerBelow negative]
      exact inv_mul_cancel₀ (by positivity)
    have scale : (0 : ℚ) < 2 ^ e := by positivity
    rw [decide_eq_true_iff, Nat.pow_eq, ← Nat.cast_le (α := ℚ), ← mul_le_mul_iff_right₀ scale]
    push_cast
    rw [mul_left_comm, power, mul_one]
  · rename_i negative
    rw [decide_eq_true_iff, Nat.pow_eq, ← Nat.cast_le (α := ℚ)]
    push_cast
    rw [powerAbove negative, mul_comm]

theorem logBetween {r : ℚ} {e : Int} (least : (2 : ℚ) ^ e ≤ r) (below : r < 2 ^ (e + 1)) :
    Int.log 2 r = e := by
  have positive : 0 < r := lt_of_lt_of_le (by positivity) least
  have lower : e ≤ Int.log 2 r := (Int.zpow_le_iff_le_log (by norm_num) positive).mp (mod_cast least)
  have upper : Int.log 2 r < e + 1 :=
    (Int.lt_zpow_iff_log_lt (by norm_num) positive).mp (mod_cast below)
  omega

theorem binaryExponentLog {num den : Nat} (some : 0 < num) (positive : 0 < den) :
    binaryExponent num den = Int.log 2 ((num : ℚ) / den) := by
  have least : (2 : ℚ) ^ num.log2 ≤ num := by exact_mod_cast Nat.log2_self_le some.ne'
  have most : (num : ℚ) < 2 ^ (num.log2 + 1) := by exact_mod_cast Nat.lt_log2_self
  have least' : (2 : ℚ) ^ den.log2 ≤ den := by exact_mod_cast Nat.log2_self_le positive.ne'
  have most' : (den : ℚ) < 2 ^ (den.log2 + 1) := by exact_mod_cast Nat.lt_log2_self
  have above : (0 : ℚ) < den := by exact_mod_cast positive
  have folded : binaryExponent num den =
      if reaches num den ((num.log2 : Int) - den.log2) then (num.log2 : Int) - den.log2
      else (num.log2 : Int) - den.log2 - 1 := rfl
  rw [folded]
  split
  · rename_i reached
    refine (logBetween ((reachesIff positive _).mp reached) ?_).symm
    rw [div_lt_iff₀ above]
    calc (num : ℚ) < 2 ^ (num.log2 + 1) := most
      _ = 2 ^ ((num.log2 : Int) - den.log2 + 1) * 2 ^ den.log2 := by
        rw [← zpow_natCast, ← zpow_natCast, ← zpow_add₀ two_ne_zero]
        congr 1
        push_cast
        ring
      _ ≤ 2 ^ ((num.log2 : Int) - den.log2 + 1) * den := by gcongr
  · rename_i missed
    rw [reachesIff positive, not_le] at missed
    refine (logBetween ?_ (by rwa [sub_add_cancel])).symm
    rw [le_div_iff₀ above]
    calc (2 : ℚ) ^ ((num.log2 : Int) - den.log2 - 1) * den
        ≤ 2 ^ ((num.log2 : Int) - den.log2 - 1) * 2 ^ (den.log2 + 1) := by gcongr
      _ = 2 ^ num.log2 := by
        rw [← zpow_natCast, ← zpow_natCast, ← zpow_add₀ two_ne_zero]
        congr 1
        push_cast
        ring
      _ ≤ num := least

/-! Rounding to a place, and where that place is. -/

/-- The exponent of the place that a ratio is rounded to. -/
def quantum (num den : Nat) : Int := max (binaryExponent num den - 52) (-1074)

/-- How often a place goes into a ratio, rounded. -/
def significand (num den : Nat) (q : Int) : Nat :=
  if q < 0 then roundHalfEven (num * Nat.pow 2 (-q).toNat) den
  else roundHalfEven num (den * Nat.pow 2 q.toNat)

theorem nearestUnfolded {num : Nat} (some : 0 < num) (den : Nat) : nearestMagnitude num den =
    min ((quantum num den + 1074).toNat * hiddenBit + significand num den (quantum num den))
      infinityMagnitude := by
  rw [nearestMagnitude, if_neg some.ne']
  rfl

theorem nearestScaled {num den scale : Nat} (positive : 0 < den) (proper : 0 < scale) :
    nearestMagnitude (num * scale) (den * scale) = nearestMagnitude num den := by
  rcases Nat.eq_zero_or_pos num with rfl | some
  · simp [nearestMagnitude]
  · have quotient : ((num * scale : Nat) : ℚ) / (den * scale : Nat) = num / den := by
      have : (scale : ℚ) ≠ 0 := by exact_mod_cast proper.ne'
      push_cast
      field_simp
    have exponent : binaryExponent (num * scale) (den * scale) = binaryExponent num den := by
      rw [binaryExponentLog (by positivity) (by positivity), quotient, binaryExponentLog some positive]
    have apart : num * scale ≠ 0 := by positivity
    simp only [nearestMagnitude, exponent, apart, some.ne', ↓reduceIte, Nat.mul_right_comm _ scale,
      roundScaled proper]

theorem nearestRatio {a b c d : Nat} (left : 0 < b) (right : 0 < d) (same : a * d = c * b) :
    nearestMagnitude a b = nearestMagnitude c d := by
  calc nearestMagnitude a b = nearestMagnitude (a * d) (b * d) := (nearestScaled left right).symm
    _ = nearestMagnitude (c * b) (d * b) := by rw [same, Nat.mul_comm b d]
    _ = nearestMagnitude c d := nearestScaled right left

/-! A finite magnitude is the rounding of the ratio that it stands for. -/

/-- The ratio of a significand and a binary exponent. -/
def dyadic (m : Nat) (q : Int) : Nat × Nat :=
  if q < 0 then (m, Nat.pow 2 (-q).toNat) else (m * Nat.pow 2 q.toNat, 1)

theorem dyadicPositive (m : Nat) (q : Int) : 0 < (dyadic m q).2 := by
  rw [dyadic]
  split
  · exact Nat.pow_pos (by decide)
  · exact Nat.one_pos

theorem dyadicValue (m : Nat) (q : Int) :
    ((dyadic m q).1 : ℚ) / (dyadic m q).2 = m * (2 : ℚ) ^ q := by
  rw [dyadic]
  split
  · rename_i negative
    rw [Nat.pow_eq, powerBelow negative]
    push_cast
    rw [div_eq_mul_inv]
  · rename_i negative
    rw [Nat.pow_eq, powerAbove negative]
    push_cast
    rw [div_one]

theorem dyadicSome {m : Nat} {q : Int} (some : 0 < m) : 0 < (dyadic m q).1 := by
  rw [dyadic]
  split
  · exact some
  · exact Nat.mul_pos some (Nat.pow_pos (by decide))

theorem dyadicExponent {m : Nat} {q : Int} (some : 0 < m) :
    binaryExponent (dyadic m q).1 (dyadic m q).2 = m.log2 + q := by
  have least : (2 : ℚ) ^ m.log2 ≤ m := by exact_mod_cast Nat.log2_self_le some.ne'
  have most : (m : ℚ) < 2 ^ (m.log2 + 1) := by exact_mod_cast Nat.lt_log2_self
  rw [binaryExponentLog (dyadicSome some) (dyadicPositive m q), dyadicValue]
  apply logBetween
  · rw [zpow_add₀ two_ne_zero, zpow_natCast]
    gcongr
  · rw [add_right_comm, zpow_add₀ two_ne_zero, ← Nat.cast_succ, zpow_natCast]
    gcongr

theorem dyadicRounded {m : Nat} {q : Int} :
    significand (dyadic m q).1 (dyadic m q).2 q = m := by
  have positive (n : Nat) : 0 < Nat.pow 2 n := Nat.pow_pos (by decide)
  rw [significand, dyadic]
  split
  · exact roundMultiple (positive _)
  · dsimp only
    rw [Nat.one_mul]
    exact roundMultiple (positive _)

theorem ratioDyadic (magnitude : Nat) :
    ratio magnitude = dyadic (parts magnitude).1 (parts magnitude).2 := rfl

theorem partsBounds {magnitude : Nat} (finite : magnitude < infinityMagnitude) :
    -1074 ≤ (parts magnitude).2 ∧ (parts magnitude).2 ≤ 971 ∧
      (parts magnitude).1 < 2 * hiddenBit ∧
      ((parts magnitude).1 < hiddenBit → (parts magnitude).2 = -1074) ∧
      ((parts magnitude).2 + 1074).toNat * hiddenBit + (parts magnitude).1 = magnitude := by
  rw [parts]
  unfold infinityMagnitude at finite
  split
  · rename_i small
    exact ⟨Int.le_refl _, by simp, by omega, fun _ => rfl, by simp⟩
  · simp only [hiddenBit] at *
    omega

theorem nearestOfRatio {magnitude : Nat} (finite : magnitude < infinityMagnitude) :
    nearestMagnitude (ratio magnitude).1 (ratio magnitude).2 = magnitude := by
  obtain ⟨least, _, small, subnormal, same⟩ := partsBounds finite
  rw [ratioDyadic]
  generalize (parts magnitude).1 = m at *
  generalize (parts magnitude).2 = q at *
  rcases Nat.eq_zero_or_pos m with rfl | some
  · have lowest : q = -1074 := subnormal (by decide)
    subst lowest
    rw [← same, dyadic, if_pos (by decide)]
    rfl
  · have exponent : max (m.log2 + q - 52) (-1074) = q := by
      rcases Nat.lt_or_ge m hiddenBit with low | normal
      · have short : m.log2 < 52 := (Nat.log2_lt some.ne').mpr low
        have lowest := subnormal low
        omega
      · have long : 52 ≤ m.log2 := (Nat.le_log2 some.ne').mpr normal
        have short : m.log2 < 53 := (Nat.log2_lt some.ne').mpr small
        omega
    rw [nearestUnfolded (dyadicSome some), quantum, dyadicExponent some, exponent, dyadicRounded, same]
    exact min_eq_left finite.le

/-! A pattern is its sign and its magnitude. -/

theorem ofMagnitudeSelf (x : Double) : ofMagnitude x.negative x.magnitude = x := by
  obtain ⟨⟨⟨bits⟩⟩⟩ := x
  have small := bits.isLt
  simp only [ofMagnitude, negative, magnitude, UInt64.toNat, BitVec.toNat, decide_eq_true_eq]
  congr 1
  apply UInt64.toNat_inj.mp
  rw [UInt64.toNat_ofNat']
  simp only [UInt64.toNat, BitVec.toNat]
  unfold signWeight
  split <;> omega

theorem magnitudeOf (negative : Bool) {m : Nat} (small : m < signWeight) :
    (ofMagnitude negative m).magnitude = m := by
  simp only [ofMagnitude, magnitude, UInt64.toNat_ofNat']
  unfold signWeight at *
  cases negative
  · simp only [Bool.false_eq_true, ↓reduceIte]
    omega
  · simp only [↓reduceIte]
    omega

theorem negativeOf (negative : Bool) {m : Nat} (small : m < signWeight) :
    (ofMagnitude negative m).negative = negative := by
  simp only [ofMagnitude, Double.negative, UInt64.toNat_ofNat']
  unfold signWeight at *
  cases negative
  · simp only [Bool.false_eq_true, ↓reduceIte, decide_eq_false_iff_not]
    omega
  · simp only [↓reduceIte, decide_eq_true_eq]
    omega

theorem finiteOf (negative : Bool) {m : Nat} (finite : m < infinityMagnitude) :
    (ofMagnitude negative m).isFinite := by
  rw [isFinite, magnitudeOf negative (Nat.lt_trans finite (by decide))]
  exact decide_eq_true finite

end PassTuner.Double

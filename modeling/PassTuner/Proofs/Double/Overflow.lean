import PassTuner.Proofs.Double.Arithmetic

/-! Where rounding leaves the doubles.

A larger number is never rounded to a smaller one. A number is rounded to infinity from halfway
between the greatest double and the next power of two on, and an operation on finite doubles stays
finite exactly if its exact result is below that limit. -/
namespace PassTuner.Double

/-- The least number that is rounded to infinity. -/
def limit : ℚ := (2 ^ 54 - 1) * 2 ^ (970 : ℤ)

theorem quotientParts (num : Nat) {den : Nat} (positive : 0 < den) :
    (num : ℚ) / den = (num / den : ℕ) + ((num % den : ℕ) : ℚ) / den := by
  have above : (den : ℚ) ≠ 0 := by exact_mod_cast positive.ne'
  have whole : (num : ℚ) = den * (num / den : ℕ) + (num % den : ℕ) := by
    exact_mod_cast (Nat.div_add_mod num den).symm
  rw [div_eq_iff above, add_mul, div_mul_cancel₀ _ above, mul_comm _ (den : ℚ)]
  exact whole

theorem roundError (num : Nat) {den : Nat} (positive : 0 < den) :
    |(roundHalfEven num den : ℚ) - num / den| ≤ 1 / 2 := by
  have above : (0 : ℚ) < den := by exact_mod_cast positive
  have least : 0 ≤ ((num % den : ℕ) : ℚ) / den := by positivity
  have most : ((num % den : ℕ) : ℚ) / den < 1 := by
    rw [div_lt_one above]
    exact_mod_cast Nat.mod_lt num positive
  have down : 2 * (num % den) ≤ den → ((num % den : ℕ) : ℚ) / den ≤ 1 / 2 := by
    intro low
    rw [div_le_div_iff₀ above two_pos]
    exact_mod_cast (by omega : num % den * 2 ≤ 1 * den)
  have up : den ≤ 2 * (num % den) → 1 / 2 ≤ ((num % den : ℕ) : ℚ) / den := by
    intro high
    rw [div_le_div_iff₀ two_pos above]
    exact_mod_cast (by omega : 1 * den ≤ num % den * 2)
  rw [quotientParts num positive, abs_le, roundHalfEven]
  generalize ((num % den : ℕ) : ℚ) / den = part at *
  split
  · rename_i less
    have := down less.le
    constructor <;> linarith
  · split
    · rename_i more
      have := up more.le
      push_cast
      constructor <;> linarith
    · have := down (by omega)
      have := up (by omega)
      rcases Nat.mod_two_eq_zero_or_one (num / den) with even | odd
      · rw [even, Nat.add_zero]
        constructor <;> linarith
      · rw [odd]
        push_cast
        constructor <;> linarith

theorem roundMono {a b c d : Nat} (left : 0 < b) (right : 0 < d) (le : (a : ℚ) / b ≤ c / d) :
    roundHalfEven a b ≤ roundHalfEven c d := by
  by_contra greater
  have apart : (roundHalfEven c d : ℚ) + 1 ≤ roundHalfEven a b := by
    exact_mod_cast Nat.lt_of_not_le greater
  have error := abs_le.mp (roundError a left)
  have error' := abs_le.mp (roundError c right)
  -- neighbours that far apart are the two choices of one tie
  have tie : (a : ℚ) / b = c / d := by linarith
  have above : (b : ℚ) ≠ 0 := by exact_mod_cast left.ne'
  have above' : (d : ℚ) ≠ 0 := by exact_mod_cast right.ne'
  have same : a * d = c * b := by exact_mod_cast (div_eq_div_iff above above').mp tie
  refine greater (le_of_eq ?_)
  rw [← roundScaled right, same, Nat.mul_comm b d, roundScaled left]

theorem roundNatural (k : Nat) : roundHalfEven k 1 = k := by
  simpa using roundMultiple (n := k) Nat.one_pos

theorem significandRounds (num : Nat) {den : Nat} (positive : 0 < den) (q : Int) :
    ∃ a b : Nat, 0 < b ∧ (a : ℚ) / b = num / den / 2 ^ q ∧
      significand num den q = roundHalfEven a b := by
  rw [significand]
  split
  · rename_i negative
    refine ⟨_, _, positive, ?_, rfl⟩
    rw [powerBelow negative, Nat.pow_eq, div_inv_eq_mul, div_mul_eq_mul_div]
    push_cast
    rfl
  · rename_i negative
    refine ⟨num, den * Nat.pow 2 q.toNat, Nat.mul_pos positive (Nat.pow_pos Nat.two_pos), ?_, rfl⟩
    rw [powerAbove negative, Nat.pow_eq, div_div]
    push_cast
    rfl

variable {num den : Nat}

theorem significandMono {num' den' : Nat} (left : 0 < den) (right : 0 < den')
    (le : (num : ℚ) / den ≤ num' / den') (q : Int) :
    significand num den q ≤ significand num' den' q := by
  obtain ⟨a, b, proper, value, rounded⟩ := significandRounds num left q
  obtain ⟨c, d, proper', value', rounded'⟩ := significandRounds num' right q
  rw [rounded, rounded']
  refine roundMono proper proper' ?_
  rw [value, value']
  gcongr

theorem significandMost {q : Int} {k : Nat} (positive : 0 < den) (le : (num : ℚ) / den ≤ k * 2 ^ q) :
    significand num den q ≤ k := by
  obtain ⟨a, b, proper, value, rounded⟩ := significandRounds num positive q
  rw [rounded, ← roundNatural k]
  refine roundMono proper Nat.one_pos ?_
  rwa [value, Nat.cast_one, div_one, div_le_iff₀ (by positivity)]

theorem significandLeast {q : Int} {k : Nat} (positive : 0 < den) (le : k * 2 ^ q ≤ (num : ℚ) / den) :
    k ≤ significand num den q := by
  obtain ⟨a, b, proper, value, rounded⟩ := significandRounds num positive q
  rw [rounded, ← roundNatural k]
  refine roundMono Nat.one_pos proper ?_
  rwa [value, Nat.cast_one, div_one, le_div_iff₀ (by positivity)]

theorem quantumLog (some : 0 < num) (positive : 0 < den) :
    quantum num den = max (Int.log 2 ((num : ℚ) / den) - 52) (-1074) := by
  rw [quantum, binaryExponentLog some positive]

theorem quantumAbove (some : 0 < num) (positive : 0 < den) :
    (num : ℚ) / den < 2 ^ (quantum num den + 53) := by
  have below : (num : ℚ) / den < 2 ^ (Int.log 2 ((num : ℚ) / den) + 1) := by
    have := Int.lt_zpow_succ_log_self (b := 2) (by decide) ((num : ℚ) / den)
    exact_mod_cast this
  refine below.trans_le (zpow_le_zpow_right₀ one_le_two ?_)
  rw [quantumLog some positive]
  omega

theorem quantumBelow (some : 0 < num) (positive : 0 < den) (normal : -1074 < quantum num den) :
    2 ^ (quantum num den + 52) ≤ (num : ℚ) / den := by
  have ratio : (0 : ℚ) < num / den := by positivity
  have above : (2 : ℚ) ^ Int.log 2 ((num : ℚ) / den) ≤ num / den := by
    have := Int.zpow_log_le_self (b := 2) (by decide) ratio
    exact_mod_cast this
  refine le_trans (zpow_le_zpow_right₀ one_le_two ?_) above
  rw [quantumLog some positive] at normal ⊢
  omega

/-- Rounding may carry a significand up to the next power of two, but not beyond it. -/
theorem significandCarry (some : 0 < num) (positive : 0 < den) :
    significand num den (quantum num den) ≤ 2 * hiddenBit := by
  refine significandMost positive ((quantumAbove some positive).le.trans_eq ?_)
  rw [zpow_add₀ two_ne_zero, mul_comm]
  norm_num [hiddenBit]

theorem significandNormal (some : 0 < num) (positive : 0 < den) (normal : -1074 < quantum num den) :
    hiddenBit ≤ significand num den (quantum num den) := by
  refine significandLeast positive (le_of_eq_of_le ?_ (quantumBelow some positive normal))
  rw [zpow_add₀ two_ne_zero, mul_comm]
  norm_num [hiddenBit]

theorem nearestMono {num' den' : Nat} (left : 0 < den) (right : 0 < den')
    (le : (num : ℚ) / den ≤ num' / den') :
    nearestMagnitude num den ≤ nearestMagnitude num' den' := by
  rcases Nat.eq_zero_or_pos num with rfl | some
  · simp [nearestMagnitude]
  have ratio : (0 : ℚ) < num / den := by positivity
  have some' : 0 < num' := by
    rcases Nat.eq_zero_or_pos num' with rfl | other
    · rw [Nat.cast_zero, zero_div] at le
      exact absurd ratio le.not_gt
    · exact other
  rw [nearestUnfolded some, nearestUnfolded some']
  refine min_le_min_right _ ?_
  have exponents : quantum num den ≤ quantum num' den' := by
    rw [quantumLog some left, quantumLog some' right]
    have := Int.log_mono_right (b := 2) ratio le
    omega
  have lowest : -1074 ≤ quantum num den := le_max_right _ _
  rcases exponents.eq_or_lt with same | less
  · rw [same]
    exact Nat.add_le_add_left (significandMono left right le _) _
  · have carry := significandCarry some left
    have normal := significandNormal some' right (lt_of_le_of_lt lowest less)
    unfold hiddenBit at *
    omega

theorem significandBelow {q : Int} {k : Nat} (positive : 0 < den)
    (below : (num : ℚ) / den < (k - 1 / 2) * 2 ^ q) : significand num den q < k := by
  obtain ⟨a, b, proper, value, rounded⟩ := significandRounds num positive q
  have error := abs_le.mp (roundError a proper)
  rw [← div_lt_iff₀ (by positivity), ← value] at below
  have less : (significand num den q : ℚ) < k := by
    rw [rounded]
    linarith
  exact_mod_cast less

theorem quantumMost (some : 0 < num) (positive : 0 < den) (below : (num : ℚ) / den < limit) :
    quantum num den ≤ 971 := by
  by_contra large
  have above := quantumBelow some positive (by omega)
  have power : (2 : ℚ) ^ (1024 : ℤ) ≤ 2 ^ (quantum num den + 52) :=
    zpow_le_zpow_right₀ one_le_two (by omega)
  have beyond : limit < 2 ^ (1024 : ℤ) := by
    rw [limit, show (1024 : ℤ) = 54 + 970 by rfl, zpow_add₀ two_ne_zero]
    gcongr
    norm_num
  linarith

theorem nearestFinite (positive : 0 < den) :
    nearestMagnitude num den < infinityMagnitude ↔ (num : ℚ) / den < limit := by
  constructor
  · contrapose!
    intro beyond
    have infinite : nearestMagnitude (dyadic (2 ^ 54 - 1) 970).1 (dyadic (2 ^ 54 - 1) 970).2 =
        infinityMagnitude := by decide +kernel
    rw [← infinite]
    refine nearestMono (dyadicPositive _ _) positive (le_of_eq_of_le ?_ beyond)
    have whole : ((2 ^ 54 - 1 : ℕ) : ℚ) = 2 ^ 54 - 1 := by norm_num
    rw [dyadicValue, whole, limit]
  · intro below
    rcases Nat.eq_zero_or_pos num with rfl | some
    · simp [nearestMagnitude, infinityMagnitude]
    rw [nearestUnfolded some, min_lt_iff]
    left
    rcases (quantumMost some positive below).lt_or_eq with less | last
    · have carry := significandCarry some positive
      unfold hiddenBit infinityMagnitude at *
      omega
    · -- in the last place a carry is what makes the difference
      have short : significand num den 971 < 2 * hiddenBit := by
        refine significandBelow positive (below.trans_eq ?_)
        rw [limit, show (971 : ℤ) = 1 + 970 by rfl, zpow_add₀ two_ne_zero]
        generalize (2 : ℚ) ^ (970 : ℤ) = scale
        norm_num [hiddenBit]
        ring
      rw [last]
      unfold hiddenBit infinityMagnitude at *
      omega

theorem nearestMost (num den : Nat) : nearestMagnitude num den ≤ infinityMagnitude := by
  rw [nearestMagnitude]
  split
  · exact Nat.zero_le _
  · exact min_le_right _ _

theorem roundedMagnitude (negative : Bool) (num den : Nat) :
    (ofMagnitude negative (nearestMagnitude num den)).magnitude = nearestMagnitude num den :=
  magnitudeOf negative (Nat.lt_of_le_of_lt (nearestMost num den) (by decide))

theorem sizeMono {m n : Nat} (finite : n < infinityMagnitude) (le : m ≤ n) : size m ≤ size n := by
  by_contra greater
  have reversed := nearestMono (ratioPositive n) (ratioPositive m) (not_le.mp greater).le
  rw [nearestOfRatio finite, nearestOfRatio (Nat.lt_of_le_of_lt le finite)] at reversed
  exact greater (Nat.le_antisymm le reversed ▸ le_rfl)

/-- A finite double that is no greater than a bound, whatever its sign. -/
structure Within (x : Double) (bound : ℚ) : Prop where
  finite : x.isFinite
  value : |x.value| ≤ bound

variable {x y z : Double} {a b r : ℚ}

namespace Rounds

theorem finite (rounds : z.Rounds r) : z.isFinite ↔ |r| < limit := by
  obtain ⟨negative, num, den, positive, same, -, rfl⟩ := rounds
  rw [← same, ← nearestFinite positive, isFinite, roundedMagnitude, decide_eq_true_iff]

/-- A number is not rounded past a double. -/
theorem within (rounds : z.Rounds r) (bound : y.Stands b) (le : |r| ≤ b) : z.Within b := by
  obtain ⟨negative, num, den, positive, same, -, rfl⟩ := rounds
  have size : size y.magnitude = b := bound.size.trans (abs_of_nonneg ((abs_nonneg r).trans le))
  have below : nearestMagnitude num den ≤ y.magnitude := by
    rw [← same, ← size] at le
    exact (nearestMono positive (ratioPositive _) le).trans_eq (nearestOfRatio bound.magnitude)
  refine ⟨finiteOf negative (Nat.lt_of_le_of_lt below bound.magnitude), ?_⟩
  rw [valueSize, roundedMagnitude, ← size]
  exact sizeMono bound.magnitude below

theorem beyond (rounds : z.Rounds r) (finite : z.isFinite) (bound : y.Stands b) (le : |b| ≤ |r|) :
    |b| ≤ |z.value| := by
  obtain ⟨negative, num, den, positive, same, -, rfl⟩ := rounds
  have above : y.magnitude ≤ nearestMagnitude num den := by
    rw [← same, ← bound.size] at le
    exact (nearestOfRatio bound.magnitude).symm.trans_le (nearestMono (ratioPositive _) positive le)
  rw [isFinite, roundedMagnitude, decide_eq_true_iff] at finite
  rw [valueSize, roundedMagnitude, ← bound.size]
  exact sizeMono finite above

end Rounds

theorem natFinite {n : Nat} : (ofNat n).isFinite ↔ (n : ℚ) < limit := by
  rw [(Rounds.ofNat n).finite, Nat.abs_cast]

theorem natNonnegative (n : Nat) : 0 ≤ (ofNat n).value := by
  have plus : (ofNat n).negative = false :=
    negativeOf false (Nat.lt_of_le_of_lt (nearestMost n 1) (by decide))
  rw [valueSigned, plus]
  exact sizeNonnegative _

theorem finiteStands (finite : x.isFinite) : x.Stands x.value := ⟨finite, rfl⟩

/-- What is far less than the place of the greatest double does not move a sum out of range. -/
theorem valueRoom (finite : x.isFinite) (small : |r| < 2 ^ (970 : ℤ)) : |x.value + r| < limit := by
  obtain ⟨-, most, short, -, -⟩ := partsBounds (finiteStands finite).magnitude
  have significand : ((parts x.magnitude).1 : ℚ) ≤ 2 ^ 53 - 1 := by
    unfold hiddenBit at short
    have whole : (parts x.magnitude).1 + 1 ≤ 2 ^ 53 := by omega
    rw [le_sub_iff_add_le]
    exact_mod_cast whole
  have greatest : |x.value| ≤ (2 ^ 53 - 1) * 2 ^ (971 : ℤ) := by
    rw [valueSize, sizeParts]
    exact mul_le_mul significand (zpow_le_zpow_right₀ one_le_two most) (by positivity) (by norm_num)
  have room : limit = (2 ^ 53 - 1) * 2 ^ (971 : ℤ) + 2 ^ (970 : ℤ) := by
    rw [limit, show (971 : ℤ) = 1 + 970 by rfl, zpow_add₀ two_ne_zero]
    generalize (2 : ℚ) ^ (970 : ℤ) = scale
    ring
  calc |x.value + r| ≤ |x.value| + |r| := abs_add_le _ _
    _ < (2 ^ 53 - 1) * 2 ^ (971 : ℤ) + 2 ^ (970 : ℤ) := add_lt_add_of_le_of_lt greatest small
    _ = limit := room.symm

theorem valueBelow (finite : x.isFinite) : |x.value| < limit := by
  have room := valueRoom finite (r := 0) (by rw [abs_zero]; positivity)
  rwa [add_zero] at room

/-! An operand that is not finite makes the result so, unless it is a divisor. -/

theorem finiteKind : x.isFinite ↔ x.isNaN = false ∧ x.isInfinite = false := by
  simp only [isFinite, isNaN, isInfinite, decide_eq_true_eq, decide_eq_false_iff_not]
  omega

theorem quietMagnitude (x : Double) : x.magnitude ≤ x.quiet.magnitude := by
  have width : signWeight = 2 ^ 63 := rfl
  rw [magnitude, magnitude, quiet, UInt64.toNat_or, width, Nat.or_mod_two_pow]
  exact Nat.left_le_or

theorem quietNaN (nan : x.isNaN) : ¬x.quiet.isFinite := by
  have more := quietMagnitude x
  simp only [isNaN, isFinite, decide_eq_true_eq] at nan ⊢
  omega

theorem liftFinite {op : Double → Double → Double} (finite : (lift op x y).isFinite) :
    x.isNaN = false ∧ y.isNaN = false ∧ (op x y).isFinite := by
  rw [lift] at finite
  split at finite
  · rename_i nan
    exact absurd finite (quietNaN nan)
  · split at finite
    · rename_i nan
      exact absurd finite (quietNaN nan)
    · rename_i number number'
      exact ⟨Bool.not_eq_true _ ▸ number, Bool.not_eq_true _ ▸ number', finite⟩

theorem infiniteNotFinite (infinite : x.isInfinite) : ¬x.isFinite := by
  simp [finiteKind, infinite]

theorem sumFinite (finite : (x + y).isFinite) : x.isFinite ∧ y.isFinite := by
  obtain ⟨number, number', finite⟩ := liftFinite finite
  rw [sum] at finite
  split at finite
  · rename_i infinite
    split at finite
    · exact absurd finite (by decide)
    · exact absurd finite (infiniteNotFinite infinite)
  · rename_i bounded
    split at finite
    · rename_i infinite
      exact absurd finite (infiniteNotFinite infinite)
    · rename_i bounded'
      simp only [finiteKind, number, number', true_and]
      exact ⟨Bool.not_eq_true _ ▸ bounded, Bool.not_eq_true _ ▸ bounded'⟩

theorem endlessOf (negative : Bool) : ¬(ofMagnitude negative infinityMagnitude).isFinite := by
  cases negative <;> decide

theorem productFinite (finite : (x * y).isFinite) : x.isFinite ∧ y.isFinite := by
  obtain ⟨number, number', finite⟩ := liftFinite finite
  rw [product] at finite
  split at finite
  · split at finite
    · exact absurd finite (by decide)
    · exact absurd finite (endlessOf _)
  · rename_i bounded
    rw [Bool.or_eq_true, not_or, Bool.not_eq_true, Bool.not_eq_true] at bounded
    simp only [finiteKind, number, number', bounded, and_self]

theorem quotientFinite (finite : (x / y).isFinite) : x.isFinite := by
  obtain ⟨number, -, finite⟩ := liftFinite finite
  rw [quotient] at finite
  split at finite
  · split at finite
    · exact absurd finite (by decide)
    · exact absurd finite (endlessOf _)
  · rename_i bounded
    exact finiteKind.mpr ⟨number, Bool.not_eq_true _ ▸ bounded⟩

end PassTuner.Double

import PassTuner.Proofs.Double.Overflow
import PassTuner.Random

/-! The doubles that the random stream gives.

A drawn double is one of those from zero up to the last below one, whatever the words of the stream
are. Twice such a double is the factor by which a float literal is scaled. -/
namespace PassTuner.Random
open Double (infinityMagnitude ofMagnitude nearestMagnitude signWeight)

theorem fractionSucc {word : Nat} {random moved : Random} (drawn : next64 random = (word, moved))
    (fuel : Nat) : fraction (fuel + 1) random =
      if (ofMagnitude false (nearestMagnitude (word / 2) signWeight)).lt .one then
        (ofMagnitude false (nearestMagnitude (word / 2) signWeight), moved)
      else fraction fuel moved := by
  rw [fraction]
  beta_reduce
  rw [drawn]

theorem fractionBelow (fuel : Nat) (random : Random) :
    ((fraction fuel).run random).1.negative = false ∧ ((fraction fuel).run random).1.lt .one := by
  induction fuel generalizing random with
  | zero => exact (by decide : Double.zero.negative = false ∧ Double.zero.lt .one)
  | succ fuel ih =>
    rcases drawn : next64 random with ⟨word, moved⟩
    rw [StateT.run, fractionSucc drawn]
    split
    · rename_i below
      have small := Nat.lt_of_le_of_lt (Double.nearestMost (word / 2) signWeight)
        (by decide : infinityMagnitude < signWeight)
      exact ⟨Double.negativeOf false small, below⟩
    · exact ih moved

theorem belowOne {x : Double} (plus : x.negative = false) (below : x.lt .one) :
    x.magnitude ≤ 0x3fefffffffffffff := by
  have key : Double.one.numericKey = 0x3ff0000000000000 := by decide
  rw [Double.lt, Double.compare?] at below
  split at below
  · contradiction
  · have less : x.numericKey < Double.one.numericKey :=
      Std.compare_eq_lt.mp (by simpa using below)
    rw [key, Double.numericKey, if_neg (by simp [plus])] at less
    omega

theorem doubleWithin (random : Random) :
    (double.run random).1.Within (1 - 2 ^ (-53 : ℤ)) := by
  obtain ⟨plus, below⟩ := fractionBelow tries random
  rw [double]
  have least := belowOne plus below
  have parts : Double.parts 0x3fefffffffffffff = (2 ^ 53 - 1, -53) := by decide
  have greatest : Double.size 0x3fefffffffffffff = 1 - 2 ^ (-53 : ℤ) := by
    rw [Double.sizeParts, parts]
    norm_num
  refine ⟨decide_eq_true (Nat.lt_of_le_of_lt least (by decide)), ?_⟩
  rw [Double.valueSize, ← greatest]
  exact Double.sizeMono (by decide) least

theorem twoStands : Double.two.Stands 2 := by
  have parts : Double.parts Double.two.magnitude = (2 ^ 52, -51) := by decide
  refine ⟨by decide, ?_⟩
  rw [Double.valueSigned, if_neg (by decide), Double.sizeParts, parts]
  norm_num

/-- What a float literal is multiplied by stays below two by the last place of a double. -/
theorem factorWithin (random : Random) :
    (Double.two * (double.run random).1).Within (2 - 2 ^ (-52 : ℤ)) := by
  have drawn := doubleWithin random
  obtain ⟨z, last⟩ : ∃ z : Double, z.Stands (2 - 2 ^ (-52 : ℤ)) := by
    obtain ⟨z, stands⟩ := Double.dyadicStands (m := 2 ^ 53 - 1) (q := -52) (by decide) (by decide)
      (by decide)
    exact ⟨z, by norm_num at stands ⊢; exact stands⟩
  refine (twoStands.roundsProduct (Double.finiteStands drawn.finite)).within last ?_
  rw [abs_mul, abs_two]
  calc 2 * |(double.run random).1.value| ≤ 2 * (1 - 2 ^ (-53 : ℤ)) := by
        have := drawn.value
        gcongr
    _ = 2 - 2 ^ (-52 : ℤ) := by norm_num

end PassTuner.Random

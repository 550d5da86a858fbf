import PassTuner.Random

/-! Bounds of draws from the random stream. -/
namespace PassTuner.Random

theorem acceptBelow {width bound fuel : Nat} {draw : StateM Random Nat}
    (words : ∀ random, (draw.run random).1 < Nat.pow 2 width) (positive : 0 < bound)
    (random : Random) : ((accept width draw bound fuel).run random).1 < bound := by
  induction fuel generalizing random with
  | zero => exact positive
  | succ fuel ih =>
    have small : (draw.run random).1 * bound / Nat.pow 2 width < bound :=
      Nat.div_lt_of_lt_mul (Nat.mul_lt_mul_of_pos_right (words random) positive)
    change (if _ then (_, _) else (accept width draw bound fuel).run (draw.run random).2).1 < bound
    split
    · exact small
    · exact ih _

theorem wordBelow (random : Random) : (next64.run random).1 < Nat.pow 2 64 :=
  (scramble (random.state + step)).toNat_lt

theorem belowBound {bound : Nat} (positive : 0 < bound) (random : Random) :
    ((below bound).run random).1 < bound :=
  acceptBelow wordBelow positive random

theorem betweenBounds {lo hi : Int} (ordered : lo ≤ hi) (random : Random) :
    lo ≤ ((between lo hi).run random).1 ∧ ((between lo hi).run random).1 ≤ hi := by
  have positive : 0 < (hi - lo + 1).toNat := by omega
  have offset := belowBound positive random
  have drawn : ((between lo hi).run random).1 =
      lo + ((below (hi - lo + 1).toNat).run random).1 := rfl
  omega

theorem runBind {α β : Type} (draw : StateM Random α) (next : α → StateM Random β)
    (random : Random) : (draw >>= next).run random =
      (next (draw.run random).1).run (draw.run random).2 := rfl

end PassTuner.Random

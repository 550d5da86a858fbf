import PassTuner.Proofs.Formula.Folding
import PassTuner.Proofs.Formula.Nodes

/-! What constant folding leaves.

A formula becomes a literal, or what one of its children becomes, or it keeps its node over what
its children become; `simplifiedInduction` has one case for each. Nothing is left to fold. -/
namespace PassTuner.Formula

theorem arithmeticType {op : ArithOp} {a b value : Value} (applied : op.apply a b = .ok value) :
    value.type ≠ .string := by
  unfold ArithOp.apply at applied
  split at applied
  · split at applied <;> try contradiction
    split at applied <;> try contradiction
    cases applied
    exact nofun
  · cases applied
    exact nofun
  · contradiction

theorem booleanType {op : BoolOp} {a b value : Value} (applied : op.apply a b = .ok value) :
    value.type ≠ .string := by
  simp only [BoolOp.apply] at applied
  repeat' split at applied
  all_goals try contradiction
  all_goals
    cases applied
    exact nofun

theorem foldedLiteral {apply : Value → Value → Except EvalError Value} {lhs rhs : Formula} {value}
    (typed : ∀ a b result, apply a b = .ok result → result.type ≠ .string)
    (folded : fold? apply lhs rhs = some value) :
    value.type ≠ .string ∧ value.isNonFinite = false := by
  obtain ⟨a, b, _, _, applied, finite⟩ := foldedOperands folded
  exact ⟨typed a b value applied, finite⟩

theorem simplifiedInduction {motive : Formula → Formula → Prop}
    (leaf : ∀ f, f.children = [] → motive f f)
    (folded : ∀ f value, value.type ≠ .string ∧ value.isNonFinite = false →
      motive f (.literal value))
    (taken : ∀ f, ∀ child ∈ f.children, motive child child.simplified → motive f child.simplified)
    (kept : ∀ f, (∀ child ∈ f.children, motive child child.simplified) →
      motive f (f.withChildren (f.children.map simplified)))
    (f : Formula) : motive f f.simplified := by
  induction f with
  | literal value => exact leaf _ rfl
  | feature type ref => exact leaf _ rfl
  | arithmetic type op lhs rhs left right =>
    have node := kept (.arithmetic type op lhs rhs) (by simp [children, left, right])
    simp only [simplified, simplify]
    split
    · rename_i value same
      exact folded _ value (foldedLiteral (fun a b result => arithmeticType) same)
    · exact node
  | boolean operandType op lhs rhs left right =>
    have node := kept (.boolean operandType op lhs rhs) (by simp [children, left, right])
    simp only [simplified, simplify]
    split
    · rename_i value same
      exact folded _ value (foldedLiteral (fun a b result => booleanType) same)
    · exact node
  | conditional type condition whenTrue whenFalse test onTrue onFalse =>
    have node := kept (.conditional type condition whenTrue whenFalse)
      (by simp [children, test, onTrue, onFalse])
    simp only [simplified, simplify]
    split
    · exact taken _ whenTrue (by simp [children]) onTrue
    · exact taken _ whenFalse (by simp [children]) onFalse
    · rename_i same
      simp only [children, List.map_cons, List.map_nil, simplified, same] at node
      exact node

theorem simplifyTwice (f : Formula) : f.simplified.simplify = (f.simplified, false) := by
  induction f with
  | literal value => rfl
  | feature type ref => rfl
  | arithmetic type op lhs rhs left right =>
    simp only [simplified] at left right
    simp only [simplified, simplify]
    split
    · rfl
    · rename_i stays
      simp only [simplify, left, right, stays, Bool.or_self]
  | boolean operandType op lhs rhs left right =>
    simp only [simplified] at left right
    simp only [simplified, simplify]
    split
    · rfl
    · rename_i stays
      simp only [simplify, left, right, stays, Bool.or_self]
  | conditional type condition whenTrue whenFalse test onTrue onFalse =>
    simp only [simplified] at test onTrue onFalse
    simp only [simplified, simplify]
    split
    · exact onTrue
    · exact onFalse
    · -- a condition that is not a literal once folded is none when folded again
      rename_i kept changed notTrue notFalse same
      rw [same] at test
      rw [simplify, test]
      split
      · rename_i folded
        exact (notTrue (Prod.mk.inj folded).1).elim
      · rename_i folded
        exact (notFalse (Prod.mk.inj folded).1).elim
      · rename_i again
        simp only [onTrue, onFalse]
        cases again
        rfl

theorem depthLe {f : Formula} {levels : Nat} :
    f.depth ≤ levels ↔ ∀ child ∈ f.children, child.depth + 1 ≤ levels := by
  cases f with
  | literal value => exact ⟨fun _ => List.forall_mem_nil _, fun _ => Nat.zero_le _⟩
  | feature type ref => exact ⟨fun _ => List.forall_mem_nil _, fun _ => Nat.zero_le _⟩
  | arithmetic type op lhs rhs =>
    rw [children, List.forall_mem_cons, List.forall_mem_singleton, depth]
    omega
  | boolean operandType op lhs rhs =>
    rw [children, List.forall_mem_cons, List.forall_mem_singleton, depth]
    omega
  | conditional type condition whenTrue whenFalse =>
    rw [children, List.forall_mem_cons, List.forall_mem_cons, List.forall_mem_singleton, depth]
    omega

theorem childDepth {f child : Formula} (mem : child ∈ f.children) : child.depth + 1 ≤ f.depth :=
  depthLe.mp (Nat.le_refl _) child mem

theorem withChildDepth {f child : Formula} {levels : Nat} (index : Nat) (low : f.depth ≤ levels)
    (below : child.depth + 1 ≤ levels) : (f.withChild index child).depth ≤ levels := by
  refine depthLe.mpr fun other mem => ?_
  rw [withChildChildren] at mem
  rcases List.mem_or_eq_of_mem_set mem with old | rfl
  · exact depthLe.mp low other old
  · exact below

theorem simplifiedDepth (f : Formula) : f.simplified.depth ≤ f.depth := by
  induction f using simplifiedInduction with
  | leaf f none => exact Nat.le_refl _
  | folded f value plain => exact Nat.zero_le _
  | taken f child mem below => exact Nat.le_of_succ_le (Nat.le_trans (Nat.succ_le_succ below) (childDepth mem))
  | kept f below =>
    refine depthLe.mpr fun result mem => ?_
    rw [withChildrenChildren (List.length_map _)] at mem
    obtain ⟨child, inside, rfl⟩ := List.mem_map.mp mem
    exact Nat.le_trans (Nat.succ_le_succ (below child inside)) (childDepth inside)

end PassTuner.Formula

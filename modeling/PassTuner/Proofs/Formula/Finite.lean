import PassTuner.Proofs.Formula.Heredity
import PassTuner.Proofs.Formula.Stored
import PassTuner.Proofs.Random.Double

/-! Whether the float literals of a formula stay finite, so that it can be stored.

Drawn literals lie within the bound of the grammar, and folding leaves alone what would not be
finite. A mutation scales a literal by up to two, and nothing is checked there: `ScalesOut` says
when the result is out of range. It is in range for all literals up to half of what a double
holds. -/
namespace PassTuner.Formula
open Double (limit)

variable {p : Double} {features : FeatureSource} {grammar : Grammar} {level room : Nat}
variable {f : Formula} {type : ValueType} {random rest : Random} {out : Changed Formula}

theorem finiteChildren (inner : f.children ≠ []) :
    f.FiniteLiterals ↔ ∀ child ∈ f.children, child.FiniteLiterals := by
  cases f with
  | literal value => contradiction
  | feature type ref => contradiction
  | arithmetic type op lhs rhs => simp [children, FiniteLiterals]
  | boolean operandType op lhs rhs => simp [children, FiniteLiterals]
  | conditional type condition whenTrue whenFalse => simp [children, FiniteLiterals]

theorem finiteLeaf (leaf : f.children = []) (other : ∀ x, f ≠ .literal (.float x)) :
    f.FiniteLiterals := by
  cases f with
  | literal value =>
    cases value with
    | float x => exact absurd rfl (other x)
    | _ => rfl
  | feature type ref => trivial
  | _ => contradiction

theorem finiteFloat {x : Double} : (literal (.float x)).FiniteLiterals ↔ x.isFinite := by
  rw [FiniteLiterals, Value.isNonFinite, Bool.not_eq_false']

theorem finiteWithChild {child changed : Formula} {index : Nat} (finite : f.FiniteLiterals)
    (found : f.children[index]? = some child) :
    (f.withChild index changed).FiniteLiterals ↔ changed.FiniteLiterals := by
  have mem := List.mem_of_getElem? found
  have inside := (List.getElem?_eq_some_iff.mp found).1
  have inner : f.children ≠ [] := List.ne_nil_of_mem mem
  have placed : changed ∈ f.children.set index changed := List.mem_set inside changed
  rw [finiteChildren (by rw [withChildChildren]; exact List.ne_nil_of_mem placed), withChildChildren]
  constructor
  · exact fun each => each changed placed
  · intro fresh other within
    rcases List.mem_or_eq_of_mem_set within with old | rfl
    · exact (finiteChildren inner).mp finite other old
    · exact fresh

theorem simplifiedFinite (finite : f.FiniteLiterals) : f.simplified.FiniteLiterals := by
  induction f using simplifiedInduction with
  | leaf f none => exact finite
  | folded f value plain => exact plain.2
  | taken f child mem below =>
    exact below ((finiteChildren (List.ne_nil_of_mem mem)).mp finite child mem)
  | kept f below =>
    by_cases leaf : f.children = []
    · rw [leaf, List.map_nil, ← leaf, withChildrenSame]
      exact finite
    · have same : (f.withChildren (f.children.map simplified)).children =
          f.children.map simplified := withChildrenChildren (List.length_map _)
      rw [finiteChildren (by rw [same]; simpa using leaf), same]
      intro result mem
      obtain ⟨child, inside, rfl⟩ := List.mem_map.mp mem
      exact below child inside ((finiteChildren leaf).mp finite child inside)

/-! Drawn formulas. -/

theorem drawnFinite (bounded : grammar.floatLiteralMax.isFinite) (random : Random) :
    ((Random.double.run random).1 * grammar.floatLiteralMax).isFinite := by
  have drawn := Random.doubleWithin random
  have rounds := (Double.finiteStands drawn.finite).roundsProduct (Double.finiteStands bounded)
  refine rounds.finite.mpr (lt_of_le_of_lt ?_ (Double.valueBelow bounded))
  rw [abs_mul]
  refine mul_le_of_le_one_left (abs_nonneg _) (drawn.value.trans ?_)
  norm_num

theorem Grown.finite (grown : Grown features grammar room type f)
    (bounded : grammar.floatLiteralMax.isFinite) : f.FiniteLiterals := by
  induction grown with
  | int lower upper => rfl
  | float random => exact finiteFloat.mpr (drawnFinite bounded random)
  | bool b => rfl
  | feature numeric found => trivial
  | arithmetic numeric left right ihLeft ihRight => exact ⟨ihLeft, ihRight⟩
  | boolean operand defined left right ihLeft ihRight => exact ⟨ihLeft, ihRight⟩
  | conditional test onTrue onFalse ihTest ihTrue ihFalse => exact ⟨ihTest, ihTrue, ihFalse⟩

/-! Mutated formulas. -/

/-- What a float literal is scaled by from this stream. -/
def factor (random : Random) : Double := .two * (Random.double.run random).1

/-- From this stream a mutation comes to scale a literal beyond the range of the doubles. -/
inductive ScalesOut (p : Double) : Formula → Random → Prop
  | here {x : Double} {random : Random} (beyond : limit ≤ |x.value * (factor random).value|) :
      ScalesOut p (.literal (.float x)) random
  | deeper {f child : Formula} {index : Nat} {random moved : Random}
      (drawn : (pick p f.children.length).run random = (some (index, false), moved))
      (found : f.children[index]? = some child) (below : ScalesOut p child moved) :
      ScalesOut p f random

theorem mutateFloat (x : Double) (random : Random) :
    ((Strategy.mutateValue (.float x)).run random).1 = .float (x * factor random) := by
  rw [Strategy.mutateValue, Random.runBind, factor]
  generalize Random.double.run random = drawn
  rfl

theorem scaledFinite {x : Double} (finite : x.isFinite) (random : Random) :
    (x * factor random).isFinite ↔ |x.value * (factor random).value| < limit :=
  ((Double.finiteStands finite).roundsProduct
    (Double.finiteStands (Random.factorWithin random).finite)).finite

theorem scalesFloat {x : Double} :
    ScalesOut p (.literal (.float x)) random ↔ limit ≤ |x.value * (factor random).value| := by
  constructor
  · rintro (⟨beyond⟩ | ⟨_, found, _⟩)
    · exact beyond
    · simp [children] at found
  · exact .here

theorem ScalesOut.leaf (scales : f.ScalesOut p random) (leaf : f.children = []) :
    ∃ x, f = .literal (.float x) := by
  cases scales with
  | here beyond => exact ⟨_, rfl⟩
  | deeper drawn found below => simp [leaf] at found

theorem scalesDeeper {child : Formula} {index : Nat} {moved : Random} {afresh : Bool}
    (drawn : (pick p f.children.length).run random = (some (index, afresh), moved))
    (found : f.children[index]? = some child) :
    f.ScalesOut p random ↔ afresh = false ∧ child.ScalesOut p moved := by
  constructor
  · rintro (⟨beyond⟩ | ⟨drawn', found', below⟩)
    · simp [children] at found
    · cases drawn.symm.trans drawn'
      cases found.symm.trans found'
      exact ⟨rfl, below⟩
  · rintro ⟨rfl, below⟩
    exact .deeper drawn found below

theorem Mutates.finite (mutates : Mutates p features grammar level f random out rest)
    (bounded : grammar.floatLiteralMax.isFinite) (finite : f.FiniteLiterals) :
    out.1.FiniteLiterals ↔ ¬f.ScalesOut p random := by
  induction mutates with
  | literal value random =>
    by_cases float : ∃ x, value = .float x
    · obtain ⟨x, rfl⟩ := float
      rw [mutateFloat, finiteFloat, scalesFloat, not_le]
      exact scaledFinite (finiteFloat.mp finite) random
    · refine iff_of_true (finiteLeaf rfl fun x same => float ?_) fun scales => float ?_
      · have type := mutateValueType value random
        rw [literal.inj same] at type
        cases value <;> first | exact ⟨_, rfl⟩ | cases type
      · obtain ⟨x, same⟩ := scales.leaf rfl
        exact ⟨x, literal.inj same⟩
  | feature type ref random =>
    refine iff_of_true trivial fun scales => ?_
    obtain ⟨x, same⟩ := scales.leaf rfl
    contradiction
  | entered drawn found below ih =>
    have child := (finiteChildren (List.ne_nil_of_mem (List.mem_of_getElem? found))).mp finite _
      (List.mem_of_getElem? found)
    rw [finiteWithChild finite found, scalesDeeper drawn found]
    simpa using ih child
  | redrawn drawn found drawable grown ran =>
    rw [finiteWithChild finite found, scalesDeeper drawn found]
    simpa using grown.finite bounded
  | refused drawn found text =>
    rw [scalesDeeper drawn found]
    simpa using finite

/-! Literals of up to half the range have room for every factor. -/

theorem scaledRoom {x : Double} (moderate : |x.value| ≤ 2 ^ (1023 : ℤ)) (random : Random) :
    |x.value * (factor random).value| < limit := by
  have scale := (Random.factorWithin random).value
  have room : (2 : ℚ) ^ (1023 : ℤ) * (2 - 2 ^ (-52 : ℤ)) < limit := by
    have split : (2 : ℚ) ^ (1023 : ℤ) = 2 ^ (53 : ℕ) * 2 ^ (970 : ℤ) := by
      rw [← zpow_natCast, ← zpow_add₀ two_ne_zero]
      rfl
    rw [split, limit]
    have positive : (0 : ℚ) < 2 ^ (970 : ℤ) := by positivity
    generalize (2 : ℚ) ^ (970 : ℤ) = place at positive
    rw [mul_right_comm]
    refine mul_lt_mul_of_pos_right ?_ positive
    norm_num
  rw [abs_mul]
  exact lt_of_le_of_lt (mul_le_mul moderate scale (abs_nonneg _) (by positivity)) room

/-- No float literal is beyond half the range of the doubles. -/
def Moderate (f : Formula) : Prop :=
  ∀ x, .literal (.float x) ∈ f.nodes → |x.value| ≤ 2 ^ (1023 : ℤ)

theorem Moderate.stays (moderate : f.Moderate) : ¬f.ScalesOut p random := by
  intro scales
  induction scales with
  | here beyond =>
    exact absurd (scaledRoom (moderate _ (selfNode _)) _) (not_lt.mpr beyond)
  | deeper drawn found below ih =>
    exact ih fun x mem => moderate x (childNodes (List.mem_of_getElem? found) mem)

theorem literalsFinite (set : FeatureSet) (bounded : grammar.floatLiteralMax.isFinite)
    (finite : f.FiniteLiterals) (p : Double) (depth : Nat) (random : Random) :
    let mutated := ((mutate p set.source grammar depth f).run random).1.1
    (mutated.FiniteLiterals ↔ ¬f.ScalesOut p random) ∧
      (¬f.ScalesOut p random → mutated.simplified.FiniteLiterals) ∧
      (f.Moderate → mutated.simplified.FiniteLiterals) := by
  have exact : ((mutate p set.source grammar depth f).run random).1.1.FiniteLiterals ↔
      ¬f.ScalesOut p random :=
    (mutateSource set.sourceIndexed rfl).finite bounded finite
  exact ⟨exact, fun stays => simplifiedFinite (exact.mpr stays),
    fun moderate => simplifiedFinite (exact.mpr moderate.stays)⟩

/-- What is left of a formula that is mutated from one stream after the other, and folded each
time. -/
def mutations (p : Double) (features : FeatureSource) (grammar : Grammar) :
    List Random → Formula → Formula
  | [], f => f
  | random :: rest, f =>
    mutations p features grammar rest ((mutate p features grammar 0 f).run random).1.1.simplified

/-- At some point on the way a literal is scaled out of range. -/
def SomeScalesOut (p : Double) (features : FeatureSource) (grammar : Grammar) :
    List Random → Formula → Prop
  | [], _ => False
  | random :: rest, f => f.ScalesOut p random ∨
    SomeScalesOut p features grammar rest
      ((mutate p features grammar 0 f).run random).1.1.simplified

theorem mutationsFinite (indexed : features.Indexed) (bounded : grammar.floatLiteralMax.isFinite)
    {randoms : List Random} (finite : f.FiniteLiterals)
    (stays : ¬SomeScalesOut p features grammar randoms f) :
    (mutations p features grammar randoms f).FiniteLiterals := by
  induction randoms generalizing f with
  | nil => exact finite
  | cons random rest ih =>
    obtain ⟨now, later⟩ := not_or.mp stays
    exact ih (simplifiedFinite (((mutateSource indexed rfl).finite bounded finite).mpr now)) later

/-! A literal near the greatest double: one stream leaves it in range, another does not. -/

def steepLiteral : Formula := .literal (.float (.ofDecimal false 1 308))

def mutateSteep (seed : UInt64) : Formula :=
  ((mutate ⟨0x3fd3333333333333⟩ (FeatureSet.ofList []).source .default 0 steepLiteral).run
    ⟨seed⟩).1.1

theorem literalsFiniteSteep : Grammar.default.floatLiteralMax.isFinite ∧
    steepLiteral.FiniteLiterals ∧
    (¬steepLiteral.ScalesOut ⟨0x3fd3333333333333⟩ ⟨0⟩ ∧
      (mutateSteep 0).simplified.FiniteLiterals) ∧
    steepLiteral.ScalesOut ⟨0x3fd3333333333333⟩ ⟨11⟩ ∧ ¬(mutateSteep 11).FiniteLiterals := by
  have bounded : Grammar.default.floatLiteralMax.isFinite := by decide +kernel
  have finite : steepLiteral.FiniteLiterals := by decide +kernel
  have kept := literalsFinite (FeatureSet.ofList []) bounded finite ⟨0x3fd3333333333333⟩ 0 ⟨0⟩
  have lost := literalsFinite (FeatureSet.ofList []) bounded finite ⟨0x3fd3333333333333⟩ 0 ⟨11⟩
  have inside : (mutateSteep 0).FiniteLiterals := by decide +kernel
  have outside : ¬(mutateSteep 11).FiniteLiterals := by decide +kernel
  have stays := kept.1.mp inside
  exact ⟨bounded, finite, ⟨stays, kept.2.1 stays⟩, not_not.mp (mt lost.1.mpr outside), outside⟩

theorem literalsLost : ¬∀ (f : Formula) (set : FeatureSet) (grammar : Grammar) (p : Double)
    (random : Random), f.FiniteLiterals → grammar.floatLiteralMax.isFinite →
      ¬grammar.floatLiteralMax.lt .zero →
        ((mutate p set.source grammar 0 f).run random).1.1.simplified.FiniteLiterals := by
  intro kept
  have finite := kept steepLiteral (FeatureSet.ofList []) .default ⟨0x3fd3333333333333⟩ ⟨11⟩
    (by decide +kernel) (by decide +kernel) (by decide +kernel)
  exact absurd finite (by decide +kernel)

end PassTuner.Formula

import PassTuner.Proofs.Formula.Evolution
import PassTuner.Proofs.Formula.Normal

/-! What formulas inherit.

A search has two sources of formulas: it draws them afresh, and it mutates known ones; either way
they are folded before they are stored. What both leave in place is `Hereditary`. For a law of
single nodes that is one case for each thing that happens to a node (`Lasting`). -/
namespace PassTuner.Formula

variable {p : Double} {features : FeatureSource} {grammar : Grammar} {level room : Nat}
variable {f : Formula} {type : ValueType} {random rest : Random} {out : Changed Formula}
variable {law : Formula → Prop}

structure Hereditary (p : Double) (features : FeatureSource) (grammar : Grammar)
    (good : Formula → Prop) : Prop where
  drawn {type : ValueType} {f : Formula} {random rest : Random}
    (ran : (generate features grammar type).run.run random = (.ok f, rest)) : good f.simplified
  mutated {f changed : Formula} {random rest : Random} (known : good f)
    (ran : (mutate p features grammar 0 f).run random = ((changed, .ok ()), rest)) :
    good changed.simplified

theorem Hereditary.and {good fine : Formula → Prop} (left : Hereditary p features grammar good)
    (right : Hereditary p features grammar fine) :
    Hereditary p features grammar fun f => good f ∧ fine f :=
  ⟨fun ran => ⟨left.drawn ran, right.drawn ran⟩,
    fun known ran => ⟨left.mutated known.1 ran, right.mutated known.2 ran⟩⟩

theorem hereditaryNormal : Hereditary p features grammar fun f => f.simplify = (f, false) where
  drawn {_ f} _ _ _ := simplifyTwice f
  mutated {_ changed} _ _ _ _ := simplifyTwice changed

theorem drawnGrown (indexed : features.Indexed)
    (ran : (generate features grammar type).run.run random = (.ok f, rest)) :
    type ≠ .string ∧ Grown features grammar grammar.maxDepth type f := by
  by_cases text : type = .string
  · subst text
    have refused : (generate features grammar .string).run.run random =
        (.error (.unsupportedGeneration .string), random) := generateString random
    cases refused.symm.trans ran
  · have yields : (generate features grammar type).Yields
        (Grown features grammar (grammar.maxDepth - 0) type) := generateYields indexed text
    obtain ⟨g, last, drawn, grown⟩ := yields random
    cases drawn.symm.trans ran
    exact ⟨text, grown⟩

theorem Grown.depth (grown : Grown features grammar room type f) : f.depth ≤ room := by
  induction grown with
  | int lower upper => exact Nat.zero_le _
  | float random => exact Nat.zero_le _
  | bool b => exact Nat.zero_le _
  | feature numeric found => exact Nat.zero_le _
  | arithmetic numeric left right ihLeft ihRight =>
    exact depthLe.mpr (by simp [children, ihLeft, ihRight])
  | boolean operand defined left right ihLeft ihRight =>
    exact depthLe.mpr (by simp [children, ihLeft, ihRight])
  | conditional test onTrue onFalse ihTest ihTrue ihFalse =>
    exact depthLe.mpr (by simp [children, ihTest, ihTrue, ihFalse])

/-- What is entered or drawn one level further down has one level less. -/
theorem Mutates.depth (mutates : Mutates p features grammar level f random out rest)
    (low : f.depth ≤ grammar.maxDepth - level) : out.1.depth ≤ grammar.maxDepth - level := by
  induction mutates with
  | literal value random => exact Nat.zero_le _
  | feature type ref random => exact Nat.zero_le _
  | entered drawn found below ih =>
    have child := Nat.le_trans (childDepth (List.mem_of_getElem? found)) low
    have changed := ih (by omega)
    dsimp only at changed
    exact withChildDepth _ low (by omega)
  | redrawn drawn found drawable grown ran =>
    have child := Nat.le_trans (childDepth (List.mem_of_getElem? found)) low
    have fresh := grown.depth
    exact withChildDepth _ low (by omega)
  | refused drawn found text => exact low

theorem hereditaryDepth (indexed : features.Indexed) :
    Hereditary p features grammar fun f => f.depth ≤ grammar.maxDepth := by
  constructor
  · intro type f random rest ran
    exact Nat.le_trans (simplifiedDepth f) (drawnGrown indexed ran).2.depth
  · intro f changed random rest low ran
    exact Nat.le_trans (simplifiedDepth changed) ((mutateSource indexed ran).depth low)

/-- The law holds at every node. -/
def Every (law : Formula → Prop) (f : Formula) : Prop := ∀ node ∈ f.nodes, law node

theorem everyNode : f.Every law ↔ law f ∧ ∀ child ∈ f.children, child.Every law := by
  constructor
  · intro every
    exact ⟨every f (selfNode f), fun child mem node inside => every node (childNodes mem inside)⟩
  · rintro ⟨root, below⟩ node mem
    rcases nodeCases mem with rfl | ⟨child, inside, under⟩
    · exact root
    · exact below child inside node under

theorem everyLeaf (leaf : f.children = []) : f.Every law ↔ law f := by
  rw [everyNode, leaf]
  exact and_iff_left (List.forall_mem_nil _)

/-- Folding puts new children into old nodes, and makes literals, which are no strings. -/
theorem Every.simplified
    (literal : ∀ {value : Value}, value.type ≠ .string → law (.literal value))
    (head : ∀ {node : Formula} (children : List Formula), law node → law (node.withChildren children))
    (every : f.Every law) : f.simplified.Every law := by
  induction f using simplifiedInduction with
  | leaf f none => exact every
  | folded f value plain => exact (everyLeaf (by rfl)).mpr (literal plain.1)
  | taken f child mem below => exact below ((everyNode.mp every).2 child mem)
  | kept f below =>
    obtain ⟨root, each⟩ := everyNode.mp every
    refine everyNode.mpr ⟨head _ root, fun result mem => ?_⟩
    rw [withChildrenChildren (List.length_map _)] at mem
    obtain ⟨child, inside, rfl⟩ := List.mem_map.mp mem
    exact below child inside (each child inside)

/-- Every node of a drawn formula could have been drawn by itself, and is no string. -/
theorem Grown.nodes (grown : Grown features grammar room type f) (drawable : type ≠ .string) :
    f.Every fun node => ∃ room type, type ≠ .string ∧ Grown features grammar room type node := by
  induction grown with
  | int lower upper => exact (everyLeaf (by rfl)).mpr ⟨0, _, drawable, .int lower upper⟩
  | float random => exact (everyLeaf (by rfl)).mpr ⟨0, _, drawable, .float random⟩
  | bool b => exact (everyLeaf (by rfl)).mpr ⟨0, _, drawable, .bool b⟩
  | feature numeric found => exact (everyLeaf (by rfl)).mpr ⟨0, _, drawable, .feature numeric found⟩
  | arithmetic numeric left right ihLeft ihRight =>
    refine everyNode.mpr ⟨⟨_, _, drawable, .arithmetic numeric left right⟩, ?_⟩
    simp [children, ihLeft drawable, ihRight drawable]
  | boolean operand defined left right ihLeft ihRight =>
    refine everyNode.mpr ⟨⟨_, _, drawable, .boolean operand defined left right⟩, ?_⟩
    rcases operand with rfl | rfl <;> simp [children, ihLeft, ihRight]
  | conditional test onTrue onFalse ihTest ihTrue ihFalse =>
    refine everyNode.mpr ⟨⟨_, _, drawable, .conditional test onTrue onFalse⟩, ?_⟩
    simp [children, ihTest (by decide), ihTrue drawable, ihFalse drawable]

/-- A law of single nodes that every change of a formula leaves in place. -/
structure Lasting (features : FeatureSource) (law : Formula → Prop) : Prop where
  literal {value : Value} (drawable : value.type ≠ .string) : law (.literal value)
  named {index : Nat} {type : ValueType} {ref : FeatureRef} (drawable : type ≠ .string)
    (found : features.nth index type = some ref) : law (.feature type ref)
  interior {f : Formula} (inner : f.children ≠ []) (drawable : f.type ≠ .string) : law f
  head {f : Formula} (children : List Formula) (holds : law f) : law (f.withChildren children)
  value {a b : Value} (same : b.type = a.type) (holds : law (.literal a)) : law (.literal b)
  renamed {index : Nat} {type : ValueType} {ref other : FeatureRef}
    (found : features.nth index type = some other) (holds : law (.feature type ref)) :
    law (.feature type other)

namespace Lasting

theorem withChild (lasting : Lasting features law) {child : Formula} (every : f.Every law)
    (index : Nat) (other : child.Every law) : (f.withChild index child).Every law := by
  obtain ⟨root, below⟩ := everyNode.mp every
  refine everyNode.mpr ⟨lasting.head _ root, fun node mem => ?_⟩
  rw [withChildChildren] at mem
  rcases List.mem_or_eq_of_mem_set mem with old | rfl
  · exact below node old
  · exact other

theorem simplified (lasting : Lasting features law) (every : f.Every law) :
    f.simplified.Every law := every.simplified lasting.literal lasting.head

theorem grown (lasting : Lasting features law) (grown : Grown features grammar room type f)
    (drawable : type ≠ .string) : f.Every law := by
  intro node mem
  obtain ⟨room, type, drawable, grown⟩ := grown.nodes drawable node mem
  cases grown with
  | int lower upper => exact lasting.literal drawable
  | float random => exact lasting.literal drawable
  | bool b => exact lasting.literal drawable
  | feature numeric found => exact lasting.named drawable found
  | arithmetic numeric left right => exact lasting.interior (List.cons_ne_nil _ _) drawable
  | boolean operand defined left right => exact lasting.interior (List.cons_ne_nil _ _) drawable
  | conditional test onTrue onFalse => exact lasting.interior (List.cons_ne_nil _ _) drawable

end Lasting

theorem mutateValueType (value : Value) (random : Random) :
    ((Strategy.mutateValue value).run random).1.type = value.type := by
  cases value with
  | int i =>
    -- the draw stays closed: the type is that of the constructor around it
    rw [Strategy.mutateValue, Random.runBind]
    exact (rfl : ValueType.int = .int)
  | float x =>
    rw [Strategy.mutateValue, Random.runBind]
    exact (rfl : ValueType.float = .float)
  | bool b => rfl
  | string s => rfl

theorem mutateFeatureSource (features : FeatureSource) (type : ValueType) (ref : FeatureRef)
    (random : Random) : ((Strategy.mutateFeature features type ref).run random).1 = ref ∨
      ∃ index, features.nth index type =
        some ((Strategy.mutateFeature features type ref).run random).1 := by
  rw [Strategy.mutateFeature]
  split
  · exact .inl rfl
  · rw [Random.runBind]
    generalize (Random.below (features.count type)).run random = drawn
    change (features.nth drawn.1 type).getD ref = ref ∨
      ∃ index, features.nth index type = some ((features.nth drawn.1 type).getD ref)
    cases found : features.nth drawn.1 type with
    | none => exact .inl rfl
    | some other => exact .inr ⟨drawn.1, found⟩

theorem Mutates.every (mutates : Mutates p features grammar level f random out rest)
    (lasting : Lasting features law) (every : f.Every law) : out.1.Every law := by
  induction mutates with
  | literal value random =>
    have holds := (everyLeaf (by rfl)).mp every
    exact (everyLeaf (by rfl)).mpr (lasting.value (mutateValueType value random) holds)
  | feature type ref random =>
    have holds := (everyLeaf (by rfl)).mp every
    refine (everyLeaf (by rfl)).mpr ?_
    rcases mutateFeatureSource features type ref random with same | ⟨index, found⟩
    · rw [same]
      exact holds
    · exact lasting.renamed found holds
  | entered drawn found below ih =>
    have child := (everyNode.mp every).2 _ (List.mem_of_getElem? found)
    exact lasting.withChild every _ (ih child)
  | redrawn drawn found drawable grown ran =>
    exact lasting.withChild every _ (lasting.grown grown drawable)
  | refused drawn found text => exact every

theorem Lasting.hereditary (lasting : Lasting features law) (indexed : features.Indexed) :
    Hereditary p features grammar (Every law) := by
  constructor
  · intro type f random rest ran
    obtain ⟨drawable, grown⟩ := drawnGrown indexed ran
    exact lasting.simplified (lasting.grown grown drawable)
  · intro f changed random rest every ran
    exact lasting.simplified ((mutateSource indexed ran).every lasting every)

end PassTuner.Formula

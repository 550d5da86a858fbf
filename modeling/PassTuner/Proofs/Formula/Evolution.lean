import PassTuner.Formula.Evolution
import PassTuner.Proofs.Formula.Generation
import PassTuner.Proofs.Formula.Nodes

/-! What a subtree mutation can do to a formula.

`Mutates` has one case for each way in which a mutation ends; `mutateSource` is the one place
where the code of the strategy is opened. A mutation fails exactly if it comes to draw a string
afresh, and then leaves the formula as it was. -/
namespace PassTuner.Formula

/-- A step without a state of its own, on the bare stream. -/
def bare {α : Type} (step : Evolving Unit α) : StateM Random α := step.run' ()

section

variable {α β : Type}

theorem bareBind (step : Evolving Unit α) (next : α → Evolving Unit β) (random : Random) :
    (bare (step >>= next)).run random =
      (bare (next ((bare step).run random).1)).run ((bare step).run random).2 := rfl

theorem bareRun (step : Evolving Unit α) (random : Random) :
    (step.run ()).run random =
      ((((bare step).run random).1, ()), ((bare step).run random).2) := rfl

theorem bareSource {step : Evolving Unit α} {s t : Unit} {a : α} {random rest : Random}
    (ran : (step.run s).run random = ((a, t), rest)) : (bare step).run random = (a, rest) :=
  congrArg (fun result : (α × Unit) × Random => (result.1.1, result.2)) ran

theorem bareLift (draw : StateM Random α) : bare (draw : Evolving Unit α) = draw := rfl

end

/-- The child that a subtree mutation changes, and whether it draws it afresh. -/
def pick (p : Double) (children : Nat) : StateM Random (Option (Nat × Bool)) :=
  bare ((Strategy.subtreeMutation p).move children)

def mutate (p : Double) (features : FeatureSource) (grammar : Grammar) (depth : Nat)
    (f : Formula) : StateM Random (Changed Formula) :=
  bare (evolve (Strategy.subtreeMutation p) features grammar depth f)

def settle (p : Double) (features : FeatureSource) (grammar : Grammar) (depth : Nat)
    (afresh : Bool) (child : Formula) : StateM Random (Changed Formula) :=
  if afresh then bare (regrow features grammar depth child)
  else mutate p features grammar depth child

variable {p : Double} {features : FeatureSource} {grammar : Grammar} {depth : Nat}

theorem pickSome {children : Nat} (some : 0 < children) (random : Random) :
    ∃ index afresh moved, (pick p children).run random = (.some (index, afresh), moved) ∧
      index < children := by
  have apart : children ≠ 0 := by omega
  rw [pick]
  simp only [Strategy.subtreeMutation]
  rw [if_neg apart, bareBind, bareLift, bareBind, bareLift]
  exact ⟨_, _, _, rfl, Random.belowBound some random⟩

theorem settleNode (node : Formula → Formula) (afresh : Bool) (child : Formula) (random : Random) :
    (bare (do
      let (changed, outcome) ← if afresh then regrow features grammar depth child
        else child.evolve (Strategy.subtreeMutation p) features grammar depth
      return (node changed, outcome))).run random =
    let ((changed, outcome), rest) := (settle p features grammar depth afresh child).run random
    ((node changed, outcome), rest) := by
  cases afresh <;> rfl

theorem mutateNode {f : Formula} (interior : 0 < f.children.length) (random : Random) :
    ∃ index afresh moved child,
      (pick p f.children.length).run random = (some (index, afresh), moved) ∧
      f.children[index]? = some child ∧
      (mutate p features grammar depth f).run random =
        let ((changed, outcome), rest) :=
          (settle p features grammar (depth + 1) afresh child).run moved
        ((f.withChild index changed, outcome), rest) := by
  obtain ⟨index, afresh, moved, drawn, inside⟩ := pickSome (p := p) interior random
  refine ⟨index, afresh, moved, f.children[index], drawn, List.getElem?_eq_getElem inside, ?_⟩
  cases f with
  | literal value => contradiction
  | feature type ref => contradiction
  | arithmetic type op lhs rhs =>
    have picked : (bare ((Strategy.subtreeMutation p).move 2)).run random =
      (some (index, afresh), moved) := drawn
    rw [mutate, evolve, bareBind, picked]
    match index, inside with
    | 0, _ => exact settleNode (fun lhs => .arithmetic type op lhs rhs) afresh lhs moved
    | 1, _ => exact settleNode (fun rhs => .arithmetic type op lhs rhs) afresh rhs moved
  | boolean operandType op lhs rhs =>
    have picked : (bare ((Strategy.subtreeMutation p).move 2)).run random =
      (some (index, afresh), moved) := drawn
    rw [mutate, evolve, bareBind, picked]
    match index, inside with
    | 0, _ => exact settleNode (fun lhs => .boolean operandType op lhs rhs) afresh lhs moved
    | 1, _ => exact settleNode (fun rhs => .boolean operandType op lhs rhs) afresh rhs moved
  | conditional type condition whenTrue whenFalse =>
    have picked : (bare ((Strategy.subtreeMutation p).move 3)).run random =
      (some (index, afresh), moved) := drawn
    rw [mutate, evolve, bareBind, picked]
    match index, inside with
    | 0, _ =>
      exact settleNode (fun condition => .conditional type condition whenTrue whenFalse) afresh
        condition moved
    | 1, _ =>
      exact settleNode (fun whenTrue => .conditional type condition whenTrue whenFalse) afresh
        whenTrue moved
    | 2, _ =>
      exact settleNode (fun whenFalse => .conditional type condition whenTrue whenFalse) afresh
        whenFalse moved

/-- A formula at a depth, the stream before, what the mutation leaves, and the stream after. -/
inductive Mutates (p : Double) (features : FeatureSource) (grammar : Grammar) :
    Nat → Formula → Random → Changed Formula → Random → Prop
  | literal {depth : Nat} (value : Value) (random : Random) :
      Mutates p features grammar depth (.literal value) random
        (.literal ((Strategy.mutateValue value).run random).1, .ok ())
        ((Strategy.mutateValue value).run random).2
  | feature {depth : Nat} (type : ValueType) (ref : FeatureRef) (random : Random) :
      Mutates p features grammar depth (.feature type ref) random
        (.feature type ((Strategy.mutateFeature features type ref).run random).1, .ok ())
        ((Strategy.mutateFeature features type ref).run random).2
  | entered {depth index : Nat} {f child changed : Formula} {random moved rest : Random} {outcome}
      (drawn : (pick p f.children.length).run random = (some (index, false), moved))
      (found : f.children[index]? = some child)
      (below : Mutates p features grammar (depth + 1) child moved (changed, outcome) rest) :
      Mutates p features grammar depth f random (f.withChild index changed, outcome) rest
  | redrawn {depth index : Nat} {f child fresh : Formula} {random moved rest : Random}
      (drawn : (pick p f.children.length).run random = (some (index, true), moved))
      (found : f.children[index]? = some child) (drawable : child.type ≠ .string)
      (grown : Grown features grammar (grammar.maxDepth - (depth + 1)) child.type fresh)
      (ran : (generateAt features grammar child.type (depth + 1)).run.run moved = (.ok fresh, rest)) :
      Mutates p features grammar depth f random (f.withChild index fresh, .ok ()) rest
  | refused {depth index : Nat} {f child : Formula} {random moved : Random}
      (drawn : (pick p f.children.length).run random = (some (index, true), moved))
      (found : f.children[index]? = some child) (text : child.type = .string) :
      Mutates p features grammar depth f random (f, .error (.unsupportedGeneration .string)) moved

theorem regrowDrawable (indexed : features.Indexed) {child : Formula}
    (drawable : child.type ≠ .string) (random : Random) :
    ∃ fresh rest, Grown features grammar (grammar.maxDepth - depth) child.type fresh ∧
      (generateAt features grammar child.type depth).run.run random = (.ok fresh, rest) ∧
      (bare (regrow features grammar depth child)).run random = ((fresh, .ok ()), rest) := by
  have yields : (generateAt features grammar child.type depth).Yields
      (Grown features grammar (grammar.maxDepth - depth) child.type) :=
    generateYields indexed drawable
  obtain ⟨fresh, rest, drawn, grown⟩ := yields random
  refine ⟨fresh, rest, grown, drawn, ?_⟩
  rw [regrow, bareBind, bareLift, drawn]
  rfl

theorem regrowString {child : Formula} (text : child.type = .string) (random : Random) :
    (bare (regrow features grammar depth child)).run random =
      ((child, .error (.unsupportedGeneration .string)), random) := by
  rw [regrow, bareBind, bareLift, generateAt, text, generateString]
  rfl

theorem mutateSource (indexed : features.Indexed) {f : Formula} {random rest : Random} {out}
    (ran : (mutate p features grammar depth f).run random = (out, rest)) :
    Mutates p features grammar depth f random out rest := by
  induction f using childInduction generalizing depth random out rest with
  | step f ih =>
    -- leaves are changed in place, all other nodes through one of their children
    rcases Nat.eq_zero_or_pos f.children.length with leaf | interior
    · cases f with
      | literal value =>
        rw [mutate, evolve, bareBind] at ran
        cases ran
        exact .literal value random
      | feature type ref =>
        rw [mutate, evolve, bareBind] at ran
        cases ran
        exact .feature type ref random
      | _ => contradiction
    · obtain ⟨index, afresh, moved, child, drawn, found, through⟩ := mutateNode interior random
      rw [through] at ran
      cases afresh with
      | false =>
        rw [settle, if_neg nofun] at ran
        rcases below : (mutate p features grammar (depth + 1) child).run moved with
          ⟨⟨changed, outcome⟩, after⟩
        rw [below] at ran
        cases ran
        exact .entered drawn found (ih child (List.mem_of_getElem? found) below)
      | true =>
        rw [settle, if_pos rfl] at ran
        by_cases text : child.type = .string
        · rw [regrowString text] at ran
          cases ran
          have kept := withChildSame found
          rw [kept]
          exact .refused drawn found text
        · obtain ⟨fresh, after, grown, generated, regrown⟩ := regrowDrawable indexed text moved
          rw [regrown] at ran
          cases ran
          exact .redrawn drawn found text grown generated

end PassTuner.Formula

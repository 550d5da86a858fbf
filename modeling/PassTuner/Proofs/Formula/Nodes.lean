import PassTuner.Formula.Basic

/-! The nodes of a formula.

`nodes` lists a formula and everything below it, the root first. What holds of every node is
proved by `childInduction`, which has one case for all kinds of nodes. -/
namespace PassTuner.Formula

def nodes : Formula → List Formula
  | .literal value => [.literal value]
  | .feature type ref => [.feature type ref]
  | .arithmetic type op lhs rhs => .arithmetic type op lhs rhs :: (lhs.nodes ++ rhs.nodes)
  | .boolean operandType op lhs rhs =>
    .boolean operandType op lhs rhs :: (lhs.nodes ++ rhs.nodes)
  | .conditional type condition whenTrue whenFalse =>
    .conditional type condition whenTrue whenFalse ::
      (condition.nodes ++ (whenTrue.nodes ++ whenFalse.nodes))

theorem nodesOfChildren (f : Formula) : f.nodes = f :: f.children.flatMap nodes := by
  cases f <;> simp [nodes, children]

theorem selfNode (f : Formula) : f ∈ f.nodes := by
  rw [nodesOfChildren]
  exact List.mem_cons_self

theorem childNodes {f child : Formula} (mem : child ∈ f.children) : child.nodes ⊆ f.nodes := by
  intro node inside
  rw [nodesOfChildren f]
  exact List.mem_cons_of_mem _ (List.mem_flatMap.mpr ⟨child, mem, inside⟩)

theorem nodeCases {f node : Formula} (mem : node ∈ f.nodes) :
    node = f ∨ ∃ child ∈ f.children, node ∈ child.nodes := by
  rw [nodesOfChildren] at mem
  rcases List.mem_cons.mp mem with same | below
  · exact .inl same
  · exact .inr (List.mem_flatMap.mp below)

theorem childInduction {motive : Formula → Prop}
    (step : ∀ f, (∀ child ∈ f.children, motive child) → motive f) (f : Formula) : motive f := by
  induction f with
  | literal value => exact step _ (by simp [children])
  | feature type ref => exact step _ (by simp [children])
  | arithmetic type op lhs rhs left right => exact step _ (by simp [children, left, right])
  | boolean operandType op lhs rhs left right => exact step _ (by simp [children, left, right])
  | conditional type condition whenTrue whenFalse test onTrue onFalse =>
    exact step _ (by simp [children, test, onTrue, onFalse])

/-- The node with another child in one place. -/
def withChild (f : Formula) (index : Nat) (child : Formula) : Formula :=
  f.withChildren (f.children.set index child)

theorem withChildrenType (f : Formula) (children : List Formula) :
    (f.withChildren children).type = f.type := by
  unfold withChildren
  split <;> rfl

theorem withChildrenChildren {f : Formula} {children : List Formula}
    (length : children.length = f.children.length) :
    (f.withChildren children).children = children := by
  cases f with
  | literal value => exact (List.eq_nil_of_length_eq_zero length).symm
  | feature type ref => exact (List.eq_nil_of_length_eq_zero length).symm
  | arithmetic type op lhs rhs => match children, length with | [_, _], _ => rfl
  | boolean operandType op lhs rhs => match children, length with | [_, _], _ => rfl
  | conditional type condition whenTrue whenFalse =>
    match children, length with | [_, _, _], _ => rfl

theorem withChildrenFeature {f : Formula} {children : List Formula} {type : ValueType} {ref : FeatureRef}
    (same : f.withChildren children = .feature type ref) : f = .feature type ref := by
  unfold withChildren at same
  split at same
  · contradiction
  · contradiction
  · contradiction
  · exact same

theorem withChildrenSame (f : Formula) : f.withChildren f.children = f := by
  cases f <;> rfl

theorem withChildType (f : Formula) (index : Nat) (child : Formula) :
    (f.withChild index child).type = f.type := withChildrenType f _

theorem withChildChildren (f : Formula) (index : Nat) (child : Formula) :
    (f.withChild index child).children = f.children.set index child :=
  withChildrenChildren List.length_set

theorem withChildSame {f child : Formula} {index : Nat} (found : f.children[index]? = some child) :
    f.withChild index child = f := by
  obtain ⟨inside, rfl⟩ := List.getElem?_eq_some_iff.mp found
  rw [withChild, List.set_getElem_self, withChildrenSame]

end PassTuner.Formula

import PassTuner.Proofs.Formula.Normal

/-! Positions in a formula.

A position is the way down from the root, one index of a child for each level. Putting a formula in
the place of a subterm leaves every node alone that does not lie at or below that position. -/
namespace PassTuner.Formula

variable {f old child : Formula}

def subterm? (f : Formula) : List Nat → Option Formula
  | [] => some f
  | index :: path => f.children[index]?.bind fun child => child.subterm? path

/-- The formula with another one in the place of a subterm; without that place it stays. -/
def put (f : Formula) : List Nat → Formula → Formula
  | [], other => other
  | index :: path, other =>
    match f.children[index]? with
    | some child => f.withChild index (child.put path other)
    | none => f

/-- A node apart from what stands below it. -/
def root (f : Formula) : Formula := f.withChildren (f.children.map fun _ => .literal (.bool false))

theorem withChildRoot (f : Formula) (index : Nat) (child : Formula) :
    (f.withChild index child).root = f.root := by
  cases f with
  | literal value => rfl
  | feature type ref => rfl
  | arithmetic type op lhs rhs => rcases index with _ | _ | index <;> rfl
  | boolean operandType op lhs rhs => rcases index with _ | _ | index <;> rfl
  | conditional type condition whenTrue whenFalse => rcases index with _ | _ | _ | index <;> rfl

theorem subtermCons {index : Nat} {path : List Nat} (found : f.children[index]? = some child) :
    f.subterm? (index :: path) = child.subterm? path := by
  rw [subterm?, found, Option.bind_some]

theorem putCons {index : Nat} {path : List Nat} (other : Formula)
    (found : f.children[index]? = some child) :
    f.put (index :: path) other = f.withChild index (child.put path other) := by
  rw [put, found]

theorem subtermBelow {index : Nat} {path : List Nat}
    (found : f.subterm? (index :: path) = some old) :
    ∃ child, f.children[index]? = some child ∧ child.subterm? path = some old :=
  Option.bind_eq_some_iff.mp found

theorem putFound {path : List Nat} (other : Formula) (found : f.subterm? path = some old) :
    (f.put path other).subterm? path = some other := by
  induction path generalizing f with
  | nil => rfl
  | cons index path ih =>
    obtain ⟨child, place, below⟩ := subtermBelow found
    have inside := (List.getElem?_eq_some_iff.mp place).1
    have placed : (f.withChild index (child.put path other)).children[index]? =
        some (child.put path other) := by
      rw [withChildChildren, List.getElem?_set_self inside]
    rw [putCons other place, subtermCons placed]
    exact ih below

theorem putElsewhere {path elsewhere : List Nat} (other : Formula)
    (apart : ¬path <+: elsewhere) :
    ((f.put path other).subterm? elsewhere).map root = (f.subterm? elsewhere).map root := by
  induction path generalizing f elsewhere with
  | nil => exact absurd List.nil_prefix apart
  | cons index path ih =>
    rw [put]
    cases place : f.children[index]? with
    | none => rfl
    | some child =>
      cases elsewhere with
      | nil => exact congrArg some (withChildRoot f index _)
      | cons turn elsewhere =>
        have inside := (List.getElem?_eq_some_iff.mp place).1
        rw [subterm?, subterm?, withChildChildren]
        by_cases same : index = turn
        · -- the ways part further down
          subst same
          rw [List.getElem?_set_self inside, place]
          exact ih fun further => apart (List.cons_prefix_cons.mpr ⟨rfl, further⟩)
        · rw [List.getElem?_set_ne same]

theorem subtermDepth {path : List Nat} (found : f.subterm? path = some old) :
    path.length + old.depth ≤ f.depth := by
  induction path generalizing f with
  | nil =>
    cases found
    exact Nat.le_of_eq (Nat.zero_add _)
  | cons index path ih =>
    obtain ⟨child, place, below⟩ := subtermBelow found
    have level := childDepth (List.mem_of_getElem? place)
    have under := ih below
    rw [List.length_cons]
    omega

theorem putDepth (path : List Nat) (other : Formula) :
    (f.put path other).depth ≤ max f.depth (path.length + other.depth) := by
  induction path generalizing f with
  | nil => exact Nat.le_trans (Nat.le_add_left _ _) (Nat.le_max_right _ _)
  | cons index path ih =>
    rw [put]
    cases place : f.children[index]? with
    | none => exact Nat.le_max_left _ _
    | some child =>
      have level := childDepth (List.mem_of_getElem? place)
      have under := ih (f := child)
      rw [List.length_cons]
      exact withChildDepth index (Nat.le_max_left _ _) (by omega)

end PassTuner.Formula

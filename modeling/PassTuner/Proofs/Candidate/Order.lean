import PassTuner.Proofs.Order

/-! The order of candidates is strict and total, and what it holds equal has the same entries.

Points are compared by name alone. Their types are not lost by that: where each formula has the
type of its point, the formulas tell them. -/
namespace PassTuner.Candidate
open Std

/-- Each formula has the type of its point. -/
def Agrees (c : Candidate) : Prop := ∀ entry ∈ c.entries, entry.2.type = entry.1.type

instance (c : Candidate) : Decidable c.Agrees :=
  inferInstanceAs (Decidable (∀ entry ∈ c.entries, _))

theorem contentEntries {c : Candidate} (typed : c.Agrees) :
    (c.content.map fun named => (⟨named.1, named.2.type⟩, named.2)) = c.entries := by
  rw [content, List.map_map]
  refine (List.map_congr_left fun entry mem => ?_).trans (List.map_id _)
  exact congrArg (fun type => (DecisionPoint.mk entry.1.name type, entry.2)) (typed entry mem)

theorem entriesSame {c d : Candidate} (left : c.Agrees) (right : d.Agrees)
    (same : c.order d = .eq) : c.entries = d.entries := by
  rw [← contentEntries left, ← contentEntries right, orderSame.mp same]

theorem orderIdentity {c d : Candidate} (left : c.Agrees) (right : d.Agrees) :
    c.order d = .eq ↔ c.entries = d.entries :=
  ⟨entriesSame left right, orderEntries⟩

theorem fewerFirst {c d : Candidate} (fewer : c.size < d.size) : c.order d = .lt := by
  have sizes : compare c.entries.length d.entries.length = .lt := Nat.compare_eq_lt.mpr fewer
  rw [order, sizes, Ordering.lt_then]

/-- One of three, and no other. -/
def OnlyOne (p q r : Prop) : Prop := p ∧ ¬q ∧ ¬r ∨ ¬p ∧ q ∧ ¬r ∨ ¬p ∧ ¬q ∧ r

theorem orderOnlyOne (c d : Candidate) :
    OnlyOne (c.order d = .lt) (c.order d = .eq) (d.order c = .lt) := by
  have swapped : d.order c = (c.order d).swap := OrientedCmp.eq_swap
  rw [swapped]
  cases c.order d with
  | lt => exact .inl ⟨rfl, nofun, nofun⟩
  | eq => exact .inr (.inl ⟨nofun, rfl, nofun⟩)
  | gt => exact .inr (.inr ⟨nofun, nofun, rfl⟩)

theorem orderTotal {a b : Candidate} (c : Candidate) (left : a.Agrees) (right : b.Agrees) :
    OnlyOne (a.order b = .lt) (a.order b = .eq) (b.order a = .lt) ∧
      (a.order b = .lt → b.order c = .lt → a.order c = .lt) ∧
      (a.size < b.size → a.order b = .lt) ∧
      (a.order b = .eq ↔ a.entries = b.entries) ∧
      ∀ s t m n, order { a with score := s, count := m } { b with score := t, count := n } =
        a.order b :=
  ⟨orderOnlyOne a b, TransCmp.lt_trans, fewerFirst, orderIdentity left right, fun _ _ _ _ => rfl⟩

/-! Without that agreement the type of a point may differ where the order sees no difference. -/

example : order ⟨[(⟨"gvn", .bool⟩, .literal (.bool true))], .zero, 0⟩
    ⟨[(⟨"gvn", .int⟩, .literal (.bool true))], .zero, 0⟩ = .eq := by decide

/-- Candidates that differ in the type of one argument, and one more with a further point. -/
def whole : Candidate := ⟨[(⟨"~gvn.0", .int⟩, .literal (.int 3))], .two, 4⟩

def decimal : Candidate := ⟨[(⟨"~gvn.0", .float⟩, .literal (.float .one))], .one, 0⟩

def larger : Candidate :=
  ⟨[(⟨"dce", .bool⟩, .literal (.bool false)), (⟨"~gvn.0", .int⟩, .literal (.int 3))], .zero, 1⟩

theorem orderTotalRetyped : whole.Agrees ∧ decimal.Agrees ∧ whole.order decimal = .lt ∧
    whole.order larger = .lt ∧ (whole.order decimal = .eq ↔ whole.entries = decimal.entries) ∧
      ∀ s t m n, order { whole with score := s, count := m }
        { decimal with score := t, count := n } = .lt := by
  have agree : whole.Agrees := by decide
  have agree' : decimal.Agrees := by decide
  obtain ⟨_, transitive, _, identity, unscored⟩ := orderTotal larger agree agree'
  have first : whole.order decimal = .lt := by decide
  have second : decimal.order larger = .lt := fewerFirst (by decide)
  exact ⟨agree, agree', first, transitive first second, identity,
    fun s t m n => (unscored s t m n).trans first⟩

end PassTuner.Candidate

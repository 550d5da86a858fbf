import PassTuner.Proofs.Formula.Heredity

/-! Strings below a formula, and mutations.

Nothing draws strings, so a mutation that is about to draw one afresh is refused. `MeetsString`
says when that happens. It does not happen to a formula without strings, and neither drawing,
mutating nor simplifying brings strings in. -/
namespace PassTuner.Formula

variable {p : Double} {features : FeatureSource} {grammar : Grammar} {depth room : Nat}
variable {f : Formula} {random rest : Random} {out : Changed Formula}

/-- From this stream a mutation comes to draw a string afresh. -/
inductive MeetsString (p : Double) : Formula → Random → Prop
  | here {f child : Formula} {index : Nat} {random moved : Random}
      (drawn : (pick p f.children.length).run random = (some (index, true), moved))
      (found : f.children[index]? = some child) (text : child.type = .string) :
      MeetsString p f random
  | deeper {f child : Formula} {index : Nat} {random moved : Random}
      (drawn : (pick p f.children.length).run random = (some (index, false), moved))
      (found : f.children[index]? = some child) (meets : MeetsString p child moved) :
      MeetsString p f random

theorem Mutates.refusal (mutates : Mutates p features grammar depth f random out rest)
    {e : FormulaError} (failed : out.2 = .error e) :
    e = .unsupportedGeneration .string ∧ out.1 = f ∧ MeetsString p f random := by
  induction mutates with
  | literal value random => contradiction
  | feature type ref random => contradiction
  | entered drawn found below ih =>
    obtain ⟨same, kept, meets⟩ := ih failed
    cases kept
    exact ⟨same, withChildSame found, .deeper drawn found meets⟩
  | redrawn drawn found drawable grown ran => contradiction
  | refused drawn found text =>
    cases failed
    exact ⟨rfl, rfl, .here drawn found text⟩

theorem Mutates.passes (mutates : Mutates p features grammar depth f random out rest)
    (went : out.2 = .ok ()) : ¬ MeetsString p f random := by
  induction mutates with
  | literal value random => rintro (⟨_, found, _⟩ | ⟨_, found, _⟩) <;> simp [children] at found
  | feature type ref random => rintro (⟨_, found, _⟩ | ⟨_, found, _⟩) <;> simp [children] at found
  | entered drawn found below ih =>
    rintro (⟨drawn', found', text⟩ | ⟨drawn', found', meets⟩)
    · cases drawn.symm.trans drawn'
    · cases drawn.symm.trans drawn'
      cases found.symm.trans found'
      exact ih went meets
  | redrawn drawn found drawable grown ran =>
    rintro (⟨drawn', found', text⟩ | ⟨drawn', found', meets⟩)
    · cases drawn.symm.trans drawn'
      cases found.symm.trans found'
      exact drawable text
    · cases drawn.symm.trans drawn'
  | refused drawn found text => contradiction

/-- How a run ends that hands over these formulas, each with its stream, to be mutated. -/
inductive Verdict {α : Type} (p : Double) (calls : List (Formula × Random)) :
    Except FormulaError α → Prop
  | went {a : α} (free : ∀ call ∈ calls, ¬ MeetsString p call.1 call.2) : Verdict p calls (.ok a)
  | refused {call : Formula × Random} (mem : call ∈ calls) (meets : MeetsString p call.1 call.2) :
      Verdict p calls (.error (.unsupportedGeneration .string))

theorem Mutates.verdict (mutates : Mutates p features grammar depth f random out rest) :
    Verdict p [(f, random)] out.2 := by
  cases outcome : out.2 with
  | error e =>
    obtain ⟨rfl, _, meets⟩ := mutates.refusal outcome
    exact .refused List.mem_cons_self meets
  | ok => exact .went (List.forall_mem_singleton.mpr (mutates.passes outcome))

namespace Verdict

variable {α β : Type} {calls later : List (Formula × Random)} {result : Except FormulaError α}
variable {draw : Gen α} {next : α → Gen β}

theorem append (free : ∀ call ∈ calls, ¬ MeetsString p call.1 call.2)
    (rest : Verdict p later result) : Verdict p (calls ++ later) result := by
  cases rest with
  | went others => exact .went (List.forall_mem_append.mpr ⟨free, others⟩)
  | refused mem meets => exact .refused (List.mem_append_right _ mem) meets

theorem bind {more : Random → List (Formula × Random)}
    (first : Verdict p calls (draw.run.run random).1)
    (rest : ∀ a moved, Verdict p (more moved) ((next a).run.run moved).1) :
    Verdict p (calls ++ Gen.following (draw.run.run random) more)
      ((draw >>= next).run.run random).1 := by
  rw [Gen.runBind]
  generalize draw.run.run random = drawn at first ⊢
  obtain ⟨outcome, moved⟩ := drawn
  cases first with
  | went free => exact .append free (rest _ moved)
  | refused mem meets => exact .refused (List.mem_append_left _ mem) meets

theorem yields {post : α → β → Prop} (first : Verdict p calls (draw.run.run random).1)
    (rest : ∀ a, (next a).Yields (post a)) :
    Verdict p calls ((draw >>= next).run.run random).1 := by
  rw [Gen.runBind]
  generalize draw.run.run random = drawn at first ⊢
  obtain ⟨outcome, moved⟩ := drawn
  cases first with
  | went free =>
    obtain ⟨b, last, ran, _⟩ := rest _ moved
    dsimp only
    rw [ran]
    exact .went free
  | refused mem meets => exact .refused mem meets

theorem map {f : α → β} (first : Verdict p calls (draw.run.run random).1) :
    Verdict p calls ((draw >>= fun a => pure (f a)).run.run random).1 := by
  have plain : ∀ a, (pure (f a) : Gen β).Yields fun _ => True := fun a => Gen.yieldsPure trivial
  exact first.yields plain

theorem fails (verdict : Verdict p calls result) :
    result = .error (.unsupportedGeneration .string) ↔
      ∃ call ∈ calls, MeetsString p call.1 call.2 := by
  cases verdict with
  | went free => exact ⟨nofun, fun ⟨call, mem, meets⟩ => absurd meets (free call mem)⟩
  | refused mem meets => exact ⟨fun _ => ⟨_, mem, meets⟩, fun _ => rfl⟩

end Verdict

/-- No node stands for a string. -/
def Stringless (f : Formula) : Prop := ∀ node ∈ f.nodes, node.type ≠ .string

theorem stringlessNode :
    f.Stringless ↔ f.type ≠ .string ∧ ∀ child ∈ f.children, child.Stringless := everyNode

theorem MeetsString.string (meets : MeetsString p f random) :
    ∃ child ∈ f.children, ¬ child.Stringless := by
  induction meets with
  | here drawn found text =>
    exact ⟨_, List.mem_of_getElem? found, fun stringless => (stringlessNode.mp stringless).1 text⟩
  | deeper drawn found meets ih =>
    obtain ⟨child, mem, strings⟩ := ih
    exact ⟨_, List.mem_of_getElem? found, fun stringless =>
      strings ((stringlessNode.mp stringless).2 child mem)⟩

theorem Stringless.notMeets (stringless : f.Stringless) : ¬ MeetsString p f random := by
  intro meets
  obtain ⟨child, mem, strings⟩ := meets.string
  exact strings ((stringlessNode.mp stringless).2 child mem)

theorem stringlessLasting : Lasting features fun node => node.type ≠ .string where
  literal drawable := drawable
  named drawable _ := drawable
  interior _ drawable := drawable
  head children holds := (withChildrenType _ children).symm ▸ holds
  value same holds text := holds (same.symm.trans text)
  renamed _ holds := holds

theorem hereditaryStringless (indexed : features.Indexed) :
    Hereditary p features grammar Stringless := stringlessLasting.hereditary indexed

end PassTuner.Formula

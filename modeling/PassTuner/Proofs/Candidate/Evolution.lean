import PassTuner.Proofs.Candidate.Filling
import PassTuner.Proofs.Formula.Stringless

/-! Rounds of mutations over the entries of a candidate.

A round goes through the entries in their order and hands the chosen ones over to be mutated, up
to the first that is refused. `Visits` has one case for each thing that happens at an entry, and
`evolveEntriesSource` is the one place where the loop is opened. What formulas inherit lasts in all
entries, through rounds that went well and through filling the gaps. -/
namespace PassTuner.Candidate
open Formula (bare bareBind bareLift bareRun bareSource mutate mutateSource Verdict Hereditary)

section

variable {σ : Type} {step : Formula → Evolving σ (Changed Formula)} {chosen : List Nat}
variable {index : Nat} {entries : List Entry} {s t : σ} {random last : Random}
variable {out : Changed (List Entry)}

/-- A round of any step: the index of the first entry, the entries, and the state before; what is
left of them, how it ended, and the state after. -/
inductive Visits (step : Formula → Evolving σ (Changed Formula)) (chosen : List Nat) :
    Nat → List Entry → σ → Random → Changed (List Entry) → σ → Random → Prop
  | done (index : Nat) (s : σ) (random : Random) :
      Visits step chosen index [] s random ([], .ok ()) s random
  | passed {index : Nat} {entry : Entry} {rest : List Entry} {s t : σ} {random last : Random}
      {out : Changed (List Entry)} (apart : ¬chosen.contains index)
      (later : Visits step chosen (index + 1) rest s random out t last) :
      Visits step chosen index (entry :: rest) s random (entry :: out.1, out.2) t last
  | refused {index : Nat} {point : DecisionPoint} {f g : Formula} {rest : List Entry} {s t : σ}
      {random moved : Random} {e : FormulaError} (among : chosen.contains index)
      (ran : ((step f).run s).run random = (((g, .error e), t), moved)) :
      Visits step chosen index ((point, f) :: rest) s random ((point, g) :: rest, .error e) t moved
  | changed {index : Nat} {point : DecisionPoint} {f g : Formula} {rest : List Entry}
      {s t u : σ} {random moved last : Random} {out : Changed (List Entry)}
      (among : chosen.contains index)
      (ran : ((step f).run s).run random = (((g, .ok ()), t), moved))
      (later : Visits step chosen (index + 1) rest t moved out u last) :
      Visits step chosen index ((point, f) :: rest) s random
        ((point, g.simplified) :: out.1, out.2) u last

theorem evolvingBind {α β : Type} (first : Evolving σ α) (next : α → Evolving σ β) (s : σ)
    (random : Random) : ((first >>= next).run s).run random =
      ((next ((first.run s).run random).1.1).run ((first.run s).run random).1.2).run
        ((first.run s).run random).2 := rfl

theorem evolveEntriesSource
    (ran : ((evolveEntries step chosen index entries).run s).run random = ((out, t), last)) :
    Visits step chosen index entries s random out t last := by
  induction entries generalizing index out s random with
  | nil =>
    cases ran
    exact .done index _ _
  | cons entry rest ih =>
    obtain ⟨point, f⟩ := entry
    rw [evolveEntries] at ran
    split at ran
    · rename_i among
      rw [evolvingBind] at ran
      rcases went : ((step f).run s).run random with ⟨⟨⟨g, e | _⟩, middle⟩, moved⟩
      · rw [went] at ran
        cases ran
        exact .refused among went
      · rw [went] at ran
        dsimp only at ran
        rw [evolvingBind] at ran
        rcases below : ((evolveEntries step chosen (index + 1) rest).run middle).run moved with
          ⟨⟨left, final⟩, after⟩
        rw [below] at ran
        cases ran
        exact .changed among went (ih below)
    · rename_i apart
      rw [evolvingBind] at ran
      rcases below : ((evolveEntries step chosen (index + 1) rest).run s).run random with
        ⟨⟨left, final⟩, after⟩
      rw [below] at ran
      cases ran
      exact .passed apart (ih below)

theorem Visits.points (visits : Visits step chosen index entries s random out t last) :
    out.1.map Prod.fst = entries.map Prod.fst := by
  induction visits with
  | done index s random => rfl
  | passed apart later ih => exact congrArg (_ :: ·) ih
  | refused among ran => rfl
  | changed among ran later ih => exact congrArg (_ :: ·) ih

end

variable {p : Double} {features : FeatureSource} {grammar : Grammar} {chosen : List Nat}
variable {index : Nat} {entries : List Entry} {s t : Unit} {random last : Random}
variable {out : Changed (List Entry)}

def round (p : Double) (features : FeatureSource) (grammar : Grammar) (chosen : List Nat)
    (index : Nat) (entries : List Entry) : StateM Random (Changed (List Entry)) :=
  bare (evolveEntries (Formula.evolve (Strategy.subtreeMutation p) features grammar 0) chosen index
    entries)

theorem roundSource (ran : (round p features grammar chosen index entries).run random = (out, last)) :
    Visits (Formula.evolve (Strategy.subtreeMutation p) features grammar 0) chosen index entries ()
      random out () last :=
  evolveEntriesSource (by rw [bareRun, ← round, ran])

/-- The formulas that a round hands over, each with the stream it is mutated from. -/
def handed (p : Double) (features : FeatureSource) (grammar : Grammar) (chosen : List Nat) :
    Nat → List Entry → Random → List (Formula × Random)
  | _, [], _ => []
  | index, (_, f) :: rest, random =>
    if chosen.contains index then
      (f, random) :: match (mutate p features grammar 0 f).run random with
        | ((_, .error _), _) => []
        | ((_, .ok ()), moved) => handed p features grammar chosen (index + 1) rest moved
    else handed p features grammar chosen (index + 1) rest random

theorem handedSource {chosen : List Nat} {index : Nat} {entries : List Entry} {random : Random} :
    ∀ call ∈ handed p features grammar chosen index entries random,
      ∃ entry ∈ entries, call.1 = entry.2 := by
  induction entries generalizing index random with
  | nil => exact fun call mem => nomatch mem
  | cons entry rest ih =>
    intro call mem
    simp only [handed] at mem
    split at mem
    · rcases List.mem_cons.mp mem with rfl | later
      · exact ⟨entry, List.mem_cons_self, rfl⟩
      · split at later
        · contradiction
        · obtain ⟨entry, inside, same⟩ := ih call later
          exact ⟨entry, List.mem_cons_of_mem _ inside, same⟩
    · obtain ⟨entry, inside, same⟩ := ih call mem
      exact ⟨entry, List.mem_cons_of_mem _ inside, same⟩

theorem Visits.verdict (indexed : features.Indexed)
    (visits : Visits (Formula.evolve (Strategy.subtreeMutation p) features grammar 0) chosen index
      entries s random out t last) :
    Verdict p (handed p features grammar chosen index entries random) out.2 := by
  induction visits with
  | done index s random => exact .went nofun
  | passed apart later ih =>
    rw [handed, if_neg apart]
    exact ih
  | refused among ran =>
    have mutated : (mutate p features grammar 0 _).run _ = _ := bareSource ran
    rw [handed, if_pos among, mutated]
    cases (mutateSource indexed mutated).verdict with
    | refused mem meets => exact .refused mem meets
  | changed among ran later ih =>
    have mutated : (mutate p features grammar 0 _).run _ = _ := bareSource ran
    rw [handed, if_pos among, mutated]
    cases (mutateSource indexed mutated).verdict with
    | went free => exact .append free ih

theorem Visits.all {good : Formula → Prop} (hereditary : Hereditary p features grammar good)
    (visits : Visits (Formula.evolve (Strategy.subtreeMutation p) features grammar 0) chosen index
      entries s random out t last) (went : out.2 = .ok ())
    (known : ∀ entry ∈ entries, good entry.2) : ∀ entry ∈ out.1, good entry.2 := by
  induction visits with
  | done index s random => exact known
  | passed apart later ih =>
    obtain ⟨here, others⟩ := List.forall_mem_cons.mp known
    exact List.forall_mem_cons.mpr ⟨here, ih went others⟩
  | refused among ran => cases went
  | changed among ran later ih =>
    obtain ⟨here, others⟩ := List.forall_mem_cons.mp known
    exact List.forall_mem_cons.mpr ⟨hereditary.mutated here (bareSource ran), ih went others⟩

def All (good : Formula → Prop) (c : Candidate) : Prop := ∀ entry ∈ c.entries, good entry.2

def Stringless (c : Candidate) : Prop := ∀ entry ∈ c.entries, entry.2.Stringless

/-- The formulas that an evolution hands over, each with the stream it is mutated from. -/
def evolutions (p : Double) (features : FeatureSource) (grammar : Grammar) (rate : Double)
    (c : Candidate) (random : Random) : List (Formula × Random) :=
  let n := quantity rate c.size
  if n = 0 then []
  else
    let (offsets, moved) := (drawOffsets n c.size).run random
    handed p features grammar (chooseAt (List.range c.size) offsets) 0 c.entries moved

variable {rate : Double} {c : Candidate}

theorem evolutionsSource {random : Random} :
    ∀ call ∈ c.evolutions p features grammar rate random,
      ∃ entry ∈ c.entries, call.1 = entry.2 := by
  intro call mem
  simp only [evolutions] at mem
  split at mem
  · contradiction
  · exact handedSource call mem

theorem evolveCases (c : Candidate) (random : Random) :
    (c.evolutions p features grammar rate random = [] ∧
      (bare (c.evolve (Strategy.subtreeMutation p) features grammar rate)).run random =
        ((c, .ok 0), random)) ∨
    ∃ chosen moved entries outcome last,
      c.evolutions p features grammar rate random =
        handed p features grammar chosen 0 c.entries moved ∧
      (round p features grammar chosen 0 c.entries).run moved = ((entries, outcome), last) ∧
      (bare (c.evolve (Strategy.subtreeMutation p) features grammar rate)).run random =
        match outcome with
        | .error e => (({ c with entries := entries }, .error e), last)
        | .ok () =>
          (({ c with entries := entries }.unscored, .ok (quantity rate c.size)), last) := by
  simp only [evolve, evolveWith, evolutions]
  split
  · exact .inl ⟨rfl, rfl⟩
  · rw [bareBind, bareLift, bareBind, ← round]
    rcases (drawOffsets (quantity rate c.size) c.size).run random with ⟨offsets, moved⟩
    rcases ran : (round p features grammar (chooseAt (List.range c.size) offsets) 0
      c.entries).run moved with ⟨⟨entries, outcome⟩, last⟩
    refine .inr ⟨_, moved, entries, outcome, last, rfl, ran, ?_⟩
    cases outcome <;> rfl

theorem evolveCarries {evolved : Candidate} {n : Nat}
    (ran : (bare (c.evolve (Strategy.subtreeMutation p) features grammar rate)).run random =
      ((evolved, .ok n), rest)) : evolved.Unscored ∨ evolved = c := by
  rcases evolveCases c random with
    ⟨_, same⟩ | ⟨chosen, moved, entries, outcome, last, _, _, same⟩
  · cases same.symm.trans ran
    exact .inr rfl
  · cases outcome with
    | error e => cases same.symm.trans ran
    | ok =>
      cases same.symm.trans ran
      exact .inl ⟨rfl, rfl⟩

theorem evolveVerdict (indexed : features.Indexed) (c : Candidate) (random : Random) :
    Verdict p (c.evolutions p features grammar rate random)
      ((bare (c.evolve (Strategy.subtreeMutation p) features grammar rate)).run random).1.2 := by
  rcases evolveCases c random with
    ⟨calls, same⟩ | ⟨chosen, moved, entries, outcome, last, calls, ran, same⟩
  · rw [calls, same]
    exact .went nofun
  · rw [calls, same]
    cases (roundSource ran).verdict indexed with
    | went free => exact .went free
    | refused mem meets => exact .refused mem meets

theorem evolveAll {good : Formula → Prop} (hereditary : Hereditary p features grammar good)
    {c evolved : Candidate} {n : Nat} {random rest : Random} (known : c.All good)
    (ran : (bare (c.evolve (Strategy.subtreeMutation p) features grammar rate)).run random =
      ((evolved, .ok n), rest)) : evolved.All good := by
  rcases evolveCases c random with
    ⟨_, same⟩ | ⟨chosen, moved, entries, outcome, last, _, went, same⟩
  · cases same.symm.trans ran
    exact known
  · cases outcome with
    | error e => cases same.symm.trans ran
    | ok =>
      cases same.symm.trans ran
      exact (roundSource went).all hereditary rfl known

theorem fillMissingAll {good : Formula → Prop} (hereditary : Hereditary p features grammar good)
    {points : List DecisionPoint} {c filled : Candidate} {added n : Nat} {random rest : Random}
    (known : c.All good)
    (ran : (fillMissing features grammar points c added).run random = ((filled, .ok n), rest)) :
    filled.All good := by
  intro entry mem
  rcases (fillMissingSource ran).source entry mem with old | ⟨_, f, before, after, same, drawn⟩
  · exact known entry old
  · exact same ▸ hereditary.drawn drawn

end PassTuner.Candidate

import PassTuner.Proofs.Candidate.Completion

/-! Whether a change of the content resets the score.

Evolving and filling go from entry to entry and reset the score behind the last one. A round that is
refused on its way keeps what it has changed by then together with the old score, which was observed
for other content. -/
namespace PassTuner.Candidate
open Formula (bare bareSource mutate mutateSource Verdict)

variable {p rate : Double} {features : FeatureSource} {grammar : Grammar}
variable {points : List DecisionPoint} {c : Candidate} {random : Random}

/-- A formula that is handed over goes through the mutation, and is another one once it is folded. -/
def Rewritten (p : Double) (features : FeatureSource) (grammar : Grammar)
    (call : Formula × Random) : Prop :=
  ∃ g, ((mutate p features grammar 0 call.1).run call.2).1 = (g, .ok ()) ∧ g.simplified ≠ call.1

theorem Visits.rewrites {chosen : List Nat} {index : Nat} {entries : List Entry} {s t : Unit}
    {last : Random} {out : Changed (List Entry)} (indexed : features.Indexed)
    (visits : Visits (Formula.evolve (Strategy.subtreeMutation p) features grammar 0) chosen index
      entries s random out t last) :
    out.1 ≠ entries ↔ ∃ call ∈ handed p features grammar chosen index entries random,
      Rewritten p features grammar call := by
  induction visits with
  | done index s random => exact iff_of_false (not_not_intro rfl) nofun
  | passed apart later ih =>
    rw [handed, if_neg apart, ← ih]
    simp
  | @refused index point f g rest s t random moved e among ran =>
    -- what is refused stays as it was
    have mutated : (mutate p features grammar 0 f).run random = _ := bareSource ran
    obtain ⟨_, rfl, _⟩ := (mutateSource indexed mutated).refusal rfl
    rw [handed, if_pos among, mutated]
    refine iff_of_false (not_not_intro rfl) ?_
    rintro ⟨call, mem, changed, went, _⟩
    cases List.mem_singleton.mp mem
    rw [mutated] at went
    cases went
  | @changed index point f g rest s t u random moved last out among ran later ih =>
    have mutated : (mutate p features grammar 0 f).run random = _ := bareSource ran
    have here : Rewritten p features grammar (f, random) ↔ g.simplified ≠ f := by
      simp [Rewritten, mutated]
    rw [handed, if_pos among, mutated, List.exists_mem_cons_iff, here, ← ih]
    simp [imp_iff_not_or]

theorem evolveRewrites (grammar : Grammar) (indexed : features.Indexed) (c : Candidate)
    (random : Random) :
    ((bare (c.evolve (Strategy.subtreeMutation p) features grammar rate)).run
        random).1.1.entries ≠ c.entries ↔
      ∃ call ∈ c.evolutions p features grammar rate random, Rewritten p features grammar call := by
  rcases evolveCases c random with
    ⟨calls, same⟩ | ⟨chosen, moved, entries, outcome, last, calls, ran, same⟩
  · rw [calls, same]
    exact iff_of_false (not_not_intro rfl) nofun
  · rw [calls, same, ← (roundSource ran).rewrites indexed]
    cases outcome <;> rfl

theorem evolveHalts {e : FormulaError} {left : Candidate} {rest : Random}
    (ran : (bare (c.evolve (Strategy.subtreeMutation p) features grammar rate)).run random =
      ((left, .error e), rest)) : left.score = c.score ∧ left.count = c.count := by
  rcases evolveCases c random with
    ⟨_, same⟩ | ⟨chosen, moved, entries, outcome, last, _, _, same⟩
  · cases same.symm.trans ran
  · cases outcome with
    | error e =>
      cases same.symm.trans ran
      exact ⟨rfl, rfl⟩
    | ok => cases same.symm.trans ran

/-- Some formula is rewritten, and another one is about to get a string drawn afresh. -/
def HaltsEvolving (p : Double) (features : FeatureSource) (grammar : Grammar) (rate : Double)
    (c : Candidate) (random : Random) : Prop :=
  (∃ call ∈ c.evolutions p features grammar rate random, Rewritten p features grammar call) ∧
    ∃ call ∈ c.evolutions p features grammar rate random, call.1.MeetsString p call.2

/-- The first of the missing points gets a formula, and a later one is to hold a string. -/
def HaltsFilling (points : List DecisionPoint) (c : Candidate) : Prop :=
  ∃ first later, c.missing points = first :: later ∧ first.type ≠ .string ∧
    ∃ point ∈ later, point.type = .string

/-- A change of the content resets the score, unless the round halts; then the old one is kept. -/
structure Resets (halts : Prop) (before : Candidate) (after : Candidate × Except FormulaError Nat) :
    Prop where
  resets (went : ¬halts) (changed : after.1.entries ≠ before.entries) : after.1.Unscored
  keeps (halted : halts) : after.2 = .error (.unsupportedGeneration .string) ∧
    after.1.entries ≠ before.entries ∧ after.1.score = before.score ∧ after.1.count = before.count

theorem evolveResets (indexed : features.Indexed) (c : Candidate) (random : Random) :
    Resets (c.HaltsEvolving p features grammar rate random) c
      ((bare (c.evolve (Strategy.subtreeMutation p) features grammar rate)).run random).1 := by
  have rewrites : _ ↔ ∃ call ∈ c.evolutions p features grammar rate random, _ :=
    evolveRewrites grammar indexed c random
  have verdict : Verdict p (c.evolutions p features grammar rate random) _ :=
    evolveVerdict indexed c random
  rcases ran : (bare (c.evolve (Strategy.subtreeMutation p) features grammar rate)).run random with
    ⟨⟨left, outcome⟩, rest⟩
  rw [ran] at rewrites verdict
  cases verdict with
  | went free =>
    refine ⟨fun _ changed => ?_, fun halts => ?_⟩
    · exact (evolveCarries ran).resolve_right fun same => changed (same ▸ rfl)
    · obtain ⟨_, call, mem, meets⟩ := halts
      exact absurd meets (free call mem)
  | refused mem meets =>
    refine ⟨fun went changed => ?_, fun halts => ⟨rfl, rewrites.mpr halts.1, evolveHalts ran⟩⟩
    exact absurd ⟨rewrites.mp changed, _, mem, meets⟩ went

theorem fillResets (indexed : features.Indexed)
    (ordered : Sorted.Ascending DecisionPoint.order points) (c : Candidate) (random : Random) :
    Resets (c.HaltsFilling points) c
      ((c.generateMissing features grammar points).run random).1 := by
  rcases ran : (c.generateMissing features grammar points).run random with ⟨⟨left, outcome⟩, rest⟩
  have fills := fillMissingSource ran
  have changes := fills.changed indexed
  have fails := fills.fails indexed (DecisionPoint.namesDistinct ordered)
  constructor
  · intro went changed
    obtain ⟨first, later, same, drawable⟩ := changes.mp changed
    cases outcome with
    | ok n => exact fills.carries.resolve_right fun kept => changed (kept.2 ▸ rfl)
    | error e =>
      obtain ⟨point, mem, text⟩ := fails.mp ⟨e, rfl⟩
      rw [same] at mem
      rcases List.mem_cons.mp mem with rfl | mem
      · contradiction
      · exact absurd ⟨first, later, same, drawable, point, mem, text⟩ went
  · rintro ⟨first, later, same, drawable, point, mem, text⟩
    obtain ⟨e, failed⟩ := fails.mpr ⟨point, same ▸ List.mem_cons_of_mem _ mem, text⟩
    cases failed
    exact ⟨congrArg _ (fills.refusal indexed), changes.mpr ⟨first, later, same, drawable⟩, fills.halted⟩

theorem changesReset (set : FeatureSet) (grammar : Grammar) (p rate : Double) (c : Candidate)
    {points : List DecisionPoint} (ordered : Sorted.Ascending DecisionPoint.order points)
    (random : Random) :
    Resets (c.HaltsEvolving p set.source grammar rate random) c
        ((bare (c.evolve (Strategy.subtreeMutation p) set.source grammar rate)).run random).1 ∧
      Resets (c.HaltsFilling points) c
        ((c.generateMissing set.source grammar points).run random).1 :=
  ⟨evolveResets set.sourceIndexed c random, fillResets set.sourceIndexed ordered c random⟩

/-- One flag is set outright, the other one by comparing texts. -/
def compared : Candidate :=
  ⟨[(⟨"dce", .bool⟩, .literal (.bool true)),
    (⟨"gvn", .bool⟩, .boolean .string .eq (.literal (.string "x")) (.literal (.string "x")))],
    .two, 1⟩

/-- Two more points: one that can be drawn for, and then a text. -/
def textPoints : List DecisionPoint :=
  [⟨"dce", .bool⟩, ⟨"gvn", .bool⟩, ⟨"licm", .bool⟩, ⟨"target", .string⟩]

theorem changesResetCompared :
    Sorted.Ascending DecisionPoint.order textPoints ∧ compared.HaltsFilling textPoints ∧
      let filled := ((compared.generateMissing FeatureSet.empty.source .default textPoints).run
        ⟨1⟩).1.1
      filled.entries ≠ compared.entries ∧ filled.score = .two ∧ filled.count = 1 := by
  have ordered : Sorted.Ascending DecisionPoint.order textPoints := by decide
  have halts : compared.HaltsFilling textPoints :=
    ⟨⟨"licm", .bool⟩, [⟨"target", .string⟩], by decide, by decide, _, List.mem_cons_self, rfl⟩
  have kept := (changesReset FeatureSet.empty .default .one .one compared ordered ⟨1⟩).2.keeps halts
  exact ⟨ordered, halts, kept.2⟩

/-- The first flag is turned over and the comparison refused; the score is still that of before. -/
theorem resetSkipped :
    let evolved := ((bare (compared.evolve (Strategy.subtreeMutation .one) FeatureSet.empty.source
      .default .one)).run ⟨1⟩).1.1
    evolved.entries ≠ compared.entries ∧ ¬evolved.Unscored ∧
      evolved.score = .two ∧ evolved.count = 1 := by
  decide +kernel

end PassTuner.Candidate

import PassTuner.Proofs.Candidate.Evolution
import PassTuner.Search.Pool

/-! Drawing the candidates of a generation.

The draws fail exactly if the evolution of an elite is refused, which takes a string below an
entry that fits the active points. Filling the gaps never fails, as no point is a string. What
formulas inherit holds in every candidate that is drawn, if it holds in what is known. -/
namespace PassTuner.Search
open Formula (bare bareRun Verdict Hereditary)

variable {s : Search}

/-- What fits the active points of an elite, evolved. -/
def evolveElite (s : Search) (elite : Candidate) :
    StateM Random (Candidate × Except FormulaError Nat) :=
  bare ((elite.retain s.points).1.evolve s.config.strategy s.features s.config.grammar
    s.config.maxEvolutionRate)

/-- The formulas that an elite hands over to be mutated, each with its stream. -/
def eliteEvolutions (s : Search) (elite : Candidate) (random : Random) : List (Formula × Random) :=
  if (Random.double.run random).1.lt s.config.evolveProbability then
    (elite.retain s.points).1.evolutions s.config.mutationProbability s.features s.config.grammar
      s.config.maxEvolutionRate (Random.double.run random).2
  else []

def elitesEvolutions (s : Search) : List Candidate → Random → List (Formula × Random)
  | [], _ => []
  | elite :: rest, random =>
    s.eliteEvolutions elite random ++
      Gen.following ((s.selectElite elite).run.run random) (s.elitesEvolutions rest)

/-- The formulas that the next generation mutates, each with its stream. -/
def evolutions (s : Search) : List (Formula × Random) :=
  s.elitesEvolutions (s.knowledge.ranked.take s.config.candidatesNumber) s.random

theorem selectEliteRun (elite : Candidate) (random : Random) :
    (s.selectElite elite).run.run random =
      if (Random.double.run random).1.lt s.config.evolveProbability then
        match (s.evolveElite elite).run (Random.double.run random).2 with
        | ((evolved, .ok _), last) => (.ok evolved, last)
        | ((_, .error e), last) => (.error e, last)
      else (.ok (elite.retain s.points).1, (Random.double.run random).2) := by
  rw [selectElite, Gen.runDraw]
  generalize Random.double.run random = drawn
  split
  · rw [Gen.runDraw, bareRun, ← evolveElite]
    rcases (s.evolveElite elite).run drawn.2 with ⟨⟨evolved, _ | n⟩, last⟩ <;> rfl
  · rfl

theorem selectEliteVerdict (indexed : s.features.Indexed) (elite : Candidate) (random : Random) :
    Verdict s.config.mutationProbability (s.eliteEvolutions elite random)
      ((s.selectElite elite).run.run random).1 := by
  rw [selectEliteRun, eliteEvolutions]
  generalize Random.double.run random = drawn
  split
  · have verdict : Verdict s.config.mutationProbability _ ((s.evolveElite elite).run drawn.2).1.2 :=
      Candidate.evolveVerdict indexed (elite.retain s.points).1 drawn.2
    generalize (s.evolveElite elite).run drawn.2 = evolution at verdict ⊢
    obtain ⟨⟨evolved, outcome⟩, last⟩ := evolution
    cases verdict with
    | went free => exact .went free
    | refused mem meets => exact .refused mem meets
  · exact .went nofun

/-- A candidate that is drawn from an elite is what fits the active points, as it is or evolved. -/
theorem selectEliteSource {elite c : Candidate} {random rest : Random}
    (ran : (s.selectElite elite).run.run random = (.ok c, rest)) :
    c = (elite.retain s.points).1 ∨
      ∃ before n after, (s.evolveElite elite).run before = ((c, .ok n), after) := by
  rw [selectEliteRun] at ran
  generalize Random.double.run random = drawn at ran
  split at ran
  · rcases evolution : (s.evolveElite elite).run drawn.2 with ⟨⟨evolved, _ | n⟩, last⟩
    · rw [evolution] at ran
      cases ran
    · rw [evolution] at ran
      cases ran
      exact .inr ⟨drawn.2, n, rest, evolution⟩
  · cases ran
    exact .inl rfl

theorem selectElitesVerdict (indexed : s.features.Indexed) (elites : List Candidate)
    (random : Random) :
    Verdict s.config.mutationProbability (s.elitesEvolutions elites random)
      ((s.selectElites elites).run.run random).1 := by
  induction elites generalizing random with
  | nil => exact .went nofun
  | cons elite rest ih =>
    rw [selectElites, elitesEvolutions]
    refine Verdict.bind (selectEliteVerdict indexed elite random) fun first moved => ?_
    exact (ih moved).map

theorem selectElitesSource {elites pool : List Candidate} {random rest : Random}
    (ran : (s.selectElites elites).run.run random = (.ok pool, rest)) :
    pool.length = elites.length ∧ ∀ c ∈ pool, ∃ elite ∈ elites, ∃ before after,
      (s.selectElite elite).run.run before = (.ok c, after) := by
  induction elites generalizing pool random with
  | nil =>
    cases ran
    exact ⟨rfl, List.forall_mem_nil _⟩
  | cons elite others ih =>
    obtain ⟨c, moved, first, ran⟩ := Gen.bindOk ran
    obtain ⟨more, last, second, ran⟩ := Gen.bindOk ran
    cases ran
    obtain ⟨length, source⟩ := ih second
    refine ⟨congrArg (· + 1) length, List.forall_mem_cons.mpr ⟨?_, fun d mem => ?_⟩⟩
    · exact ⟨elite, List.mem_cons_self, random, moved, first⟩
    · obtain ⟨old, inside, drawn⟩ := source d mem
      exact ⟨old, List.mem_cons_of_mem _ inside, drawn⟩

/-- What is stored holds no strings, as far as it fits the active points. -/
def Stringless (s : Search) : Prop :=
  ∀ c ∈ s.knowledge.candidates, (c.retain s.points).1.Stringless

theorem rankedKnown {k : KnowledgeBase} {c : Candidate} : c ∈ k.ranked ↔ c ∈ k.candidates :=
  Sorted.sortMem

theorem selectPoolVerdict (indexed : s.features.Indexed) :
    Verdict s.config.mutationProbability s.evolutions (s.selectPool.run.run s.random).1 := by
  rw [selectPool, evolutions]
  split
  · rename_i empty
    rw [empty, List.take_nil]
    exact .went nofun
  · rename_i best others ranked
    rw [ranked]
    exact (selectElitesVerdict indexed _ s.random).map

/-- A candidate is drawn with nothing in it, or it is what fits the active points of a known one,
as it is or evolved. -/
theorem selectPoolSource {pool : List Candidate} {random rest : Random}
    (ran : s.selectPool.run.run random = (.ok pool, rest)) :
    ∀ c ∈ pool, c = .empty ∨ ∃ known ∈ s.knowledge.candidates, c = (known.retain s.points).1 ∨
      ∃ before n after, (s.evolveElite known).run before = ((c, .ok n), after) := by
  rw [selectPool] at ran
  split at ran
  · cases ran
    exact fun c mem => .inl (List.eq_of_mem_replicate mem)
  · rename_i best others ranked
    obtain ⟨elites, moved, selected, ran⟩ := Gen.bindOk ran
    cases ran
    have known {c : Candidate} (mem : c ∈ best :: others) : c ∈ s.knowledge.candidates :=
      rankedKnown.mp (ranked ▸ mem)
    refine List.forall_mem_append.mpr ⟨fun c mem => ?_, List.forall_mem_singleton.mpr ?_⟩
    · obtain ⟨elite, inside, before, after, drawn⟩ := (selectElitesSource selected).2 c mem
      exact .inr ⟨elite, known (List.mem_of_mem_take inside), selectEliteSource drawn⟩
    · exact .inr ⟨best, known List.mem_cons_self, .inl rfl⟩

theorem selectPoolAll {good : Formula → Prop}
    (hereditary : Hereditary s.config.mutationProbability s.features s.config.grammar good)
    (known : ∀ c ∈ s.knowledge.candidates, (c.retain s.points).1.All good)
    {pool : List Candidate} {random rest : Random}
    (ran : s.selectPool.run.run random = (.ok pool, rest)) : ∀ c ∈ pool, c.All good := by
  intro c mem
  rcases selectPoolSource ran c mem with rfl | ⟨old, inside, rfl | ⟨before, n, after, evolved⟩⟩
  · exact List.forall_mem_nil _
  · exact known old inside
  · exact Candidate.evolveAll hereditary (known old inside) evolved

/-- While nothing is known as many candidates are drawn as the settings say, and later as many of
the known ones, as far as there are, and the best. -/
theorem selectPoolLength {pool : List Candidate} {random rest : Random}
    (ran : s.selectPool.run.run random = (.ok pool, rest)) :
    pool.length = if s.knowledge.size = 0 then s.config.candidatesNumber
      else min s.config.candidatesNumber s.knowledge.size + 1 := by
  have size : s.knowledge.ranked.length = s.knowledge.size := (Sorted.sortPerm _ _).length_eq
  rw [← size]
  rw [selectPool] at ran
  split at ran
  · rename_i none
    cases ran
    rw [none, List.length_replicate]
    rfl
  · rename_i best others ranked
    obtain ⟨elites, moved, selected, ran⟩ := Gen.bindOk ran
    cases ran
    rw [ranked, List.length_append, (selectElitesSource selected).1, List.length_take,
      List.length_singleton]
    exact (if_neg (by simp)).symm

theorem selectPoolFilled (some : s.config.candidatesNumber ≠ 0) {pool : List Candidate}
    {random rest : Random} (ran : s.selectPool.run.run random = (.ok pool, rest)) : pool ≠ [] := by
  rintro rfl
  have length := selectPoolLength ran
  rw [List.length_nil] at length
  split at length
  · exact some length.symm
  · exact Nat.succ_ne_zero _ length.symm

theorem completeRun (c : Candidate) (random : Random) :
    (s.complete c).run.run random =
      match (c.generateMissing s.features s.config.grammar s.points).run random with
      | ((filled, .ok _), rest) => (.ok filled, rest)
      | ((_, .error e), rest) => (.error e, rest) := by
  rw [complete, Gen.runDraw]
  rcases (c.generateMissing s.features s.config.grammar s.points).run random with
    ⟨⟨filled, _ | n⟩, rest⟩ <;> rfl

theorem completeYields (indexed : s.features.Indexed)
    (drawable : ∀ point ∈ s.points, point.type ≠ .string) (c : Candidate) :
    (s.complete c).Yields fun _ => True := by
  intro random
  obtain ⟨filled, n, rest, ran⟩ := Candidate.fillMissingYields indexed drawable c 0 random
  refine ⟨filled, rest, ?_, trivial⟩
  rw [completeRun, Candidate.generateMissing, ran]

theorem completeAllYields (indexed : s.features.Indexed)
    (drawable : ∀ point ∈ s.points, point.type ≠ .string) (pool : List Candidate) :
    (s.completeAll pool).Yields fun _ => True := by
  induction pool with
  | nil => exact Gen.yieldsPure trivial
  | cons c rest ih =>
    exact Gen.yieldsBind (completeYields indexed drawable c) fun first _ =>
      Gen.yieldsBind ih fun others _ => Gen.yieldsPure trivial

theorem completeSource {c filled : Candidate} {random rest : Random}
    (ran : (s.complete c).run.run random = (.ok filled, rest)) :
    ∃ n, (c.generateMissing s.features s.config.grammar s.points).run random =
      ((filled, .ok n), rest) := by
  rw [completeRun] at ran
  rcases drawn : (c.generateMissing s.features s.config.grammar s.points).run random with
    ⟨⟨made, _ | n⟩, moved⟩
  · rw [drawn] at ran
    cases ran
  · rw [drawn] at ran
    cases ran
    exact ⟨n, rfl⟩

/-- Each of the candidates is filled, and what is filled comes from one of them. -/
theorem completeAllSource {selected pool : List Candidate} {random rest : Random}
    (ran : (s.completeAll selected).run.run random = (.ok pool, rest)) :
    pool.length = selected.length ∧
      (∀ c ∈ pool, ∃ gaps ∈ selected, ∃ before after,
        (s.complete gaps).run.run before = (.ok c, after)) ∧
      ∀ gaps ∈ selected, ∃ c ∈ pool, ∃ before after,
        (s.complete gaps).run.run before = (.ok c, after) := by
  induction selected generalizing pool random with
  | nil =>
    cases ran
    exact ⟨rfl, List.forall_mem_nil _, List.forall_mem_nil _⟩
  | cons gaps others ih =>
    obtain ⟨filled, moved, first, ran⟩ := Gen.bindOk ran
    obtain ⟨more, last, second, ran⟩ := Gen.bindOk ran
    cases ran
    obtain ⟨length, source, each⟩ := ih second
    refine ⟨congrArg (· + 1) length, List.forall_mem_cons.mpr ⟨?_, fun c mem => ?_⟩,
      List.forall_mem_cons.mpr ⟨?_, fun c mem => ?_⟩⟩
    · exact ⟨gaps, List.mem_cons_self, random, moved, first⟩
    · obtain ⟨d, inside, drawn⟩ := source c mem
      exact ⟨d, List.mem_cons_of_mem _ inside, drawn⟩
    · exact ⟨filled, List.mem_cons_self, random, moved, first⟩
    · obtain ⟨d, inside, drawn⟩ := each c mem
      exact ⟨d, List.mem_cons_of_mem _ inside, drawn⟩

theorem drawPoolVerdict (indexed : s.features.Indexed)
    (drawable : ∀ point ∈ s.points, point.type ≠ .string) :
    Verdict s.config.mutationProbability s.evolutions (s.drawPool.run.run s.random).1 := by
  have yields (pool : List Candidate) : (s.completeAll pool).Yields fun _ => True :=
    completeAllYields indexed drawable pool
  rw [drawPool]
  exact (selectPoolVerdict indexed).yields yields

theorem drawPoolFilled (some : s.config.candidatesNumber ≠ 0) {pool : List Candidate}
    {rest : Random} (ran : s.drawPool.run.run s.random = (.ok pool, rest)) : pool ≠ [] := by
  obtain ⟨selected, moved, drawn, completed⟩ := Gen.bindOk ran
  rintro rfl
  have none := (completeAllSource completed).1
  exact selectPoolFilled some drawn (List.eq_nil_of_length_eq_zero none.symm)

theorem drawPoolAll {good : Formula → Prop}
    (hereditary : Hereditary s.config.mutationProbability s.features s.config.grammar good)
    (known : ∀ c ∈ s.knowledge.candidates, (c.retain s.points).1.All good)
    {pool : List Candidate} {rest : Random}
    (ran : s.drawPool.run.run s.random = (.ok pool, rest)) : ∀ c ∈ pool, c.All good := by
  obtain ⟨selected, moved, drawn, completed⟩ := Gen.bindOk ran
  intro c mem
  obtain ⟨gaps, inside, before, after, filled⟩ := (completeAllSource completed).2.1 c mem
  obtain ⟨n, filled⟩ := completeSource filled
  exact Candidate.fillMissingAll hereditary (selectPoolAll hereditary known drawn gaps inside) filled

theorem elitesEvolutionsSource {elites : List Candidate} {random : Random} :
    ∀ call ∈ s.elitesEvolutions elites random, ∃ elite ∈ elites,
      ∃ entry ∈ (elite.retain s.points).1.entries, call.1 = entry.2 := by
  induction elites generalizing random with
  | nil => exact nofun
  | cons elite rest ih =>
    intro call mem
    rw [elitesEvolutions] at mem
    rcases List.mem_append.mp mem with here | later
    · rw [eliteEvolutions] at here
      generalize Random.double.run random = drawn at here
      split at here
      · obtain ⟨entry, inside, same⟩ := Candidate.evolutionsSource call here
        exact ⟨elite, List.mem_cons_self, entry, inside, same⟩
      · contradiction
    · obtain ⟨moved, later⟩ := Gen.followingMem later
      obtain ⟨elite, inside, entry⟩ := ih call later
      exact ⟨elite, List.mem_cons_of_mem _ inside, entry⟩

theorem evolutionsSource : ∀ call ∈ s.evolutions, ∃ c ∈ s.knowledge.candidates,
    ∃ entry ∈ (c.retain s.points).1.entries, call.1 = entry.2 := by
  intro call mem
  obtain ⟨elite, inside, entry⟩ := elitesEvolutionsSource call mem
  exact ⟨elite, rankedKnown.mp (List.mem_of_mem_take inside), entry⟩

end PassTuner.Search

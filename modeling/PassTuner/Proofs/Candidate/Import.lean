import PassTuner.Proofs.Candidate.Record

/-! Which records are candidates.

A record is accepted if each of its entries is sound and no name comes twice, and is refused for the
first entry that offends against this, whatever comes behind it. As names decide the places, the
order in which the entries of a record stand is lost, and nothing else is. -/
namespace PassTuner
open Std

namespace EntryRecord

/-- Entries in the order of their names. -/
def byName (a b : EntryRecord) : Ordering := compare a.name b.name

instance : TransCmp byName := inferInstanceAs (TransCmp (compareOn EntryRecord.name))

/-- The formula can be built, and has the type of the entry. -/
def Sound (r : EntryRecord) : Prop := ∃ f, Formula.ofRecord r.formula = .ok f ∧ f.type = r.type

/-- What is wrong with an entry that stands behind entries of the names. -/
inductive Offends (names : List String) (r : EntryRecord) : RecordError → Prop
  | formula {cause : FormulaError} (refused : Formula.ofRecord r.formula = .error cause) :
      Offends names r (.formula r.name cause)
  | type {f : Formula} (built : Formula.ofRecord r.formula = .ok f) (apart : f.type ≠ r.type) :
      Offends names r (.formula r.name (.typeMismatch r.type f.type))
  | duplicate (sound : r.Sound) (taken : r.name ∈ names) :
      Offends names r (.duplicateDecision r.name)

theorem soundOrOffends (names : List String) (r : EntryRecord) :
    (r.Sound ∧ r.name ∉ names) ∨ ∃ e, r.Offends names e := by
  cases built : Formula.ofRecord r.formula with
  | error cause => exact .inr ⟨_, .formula built⟩
  | ok f =>
    by_cases same : f.type = r.type
    · by_cases taken : r.name ∈ names
      · exact .inr ⟨_, .duplicate ⟨f, built, same⟩ taken⟩
      · exact .inl ⟨⟨f, built, same⟩, taken⟩
    · exact .inr ⟨_, .type built same⟩

end EntryRecord

namespace Candidate

variable {records before others : List EntryRecord} {r : EntryRecord} {f : Formula}
variable {entries : List Entry} {e : RecordError}

structure Importable (records : List EntryRecord) : Prop where
  sound : ∀ r ∈ records, r.Sound
  distinct : (records.map EntryRecord.name).Nodup

theorem Importable.none : Importable [] := ⟨nofun, .nil⟩

theorem Importable.reordered (importable : Importable records) (same : others.Perm records) :
    Importable others :=
  ⟨fun r mem => importable.sound r (same.mem_iff.mp mem),
    (same.map EntryRecord.name).nodup_iff.mpr importable.distinct⟩

theorem Importable.appended (importable : Importable before) (sound : r.Sound)
    (fresh : r.name ∉ before.map EntryRecord.name) : Importable (before ++ [r]) := by
  refine Importable.reordered ⟨List.forall_mem_cons.mpr ⟨sound, importable.sound⟩, ?_⟩
    (List.perm_append_singleton r before)
  exact List.nodup_cons.mpr ⟨fresh, importable.distinct⟩

/-- An entry that offends behind others that do not. -/
def FirstOffence (records : List EntryRecord) (e : RecordError) : Prop :=
  ∃ before r after, records = before ++ r :: after ∧ Importable before ∧
    r.Offends (before.map EntryRecord.name) e

theorem importableOrOffence (importable : Importable before) (records : List EntryRecord) :
    Importable (before ++ records) ∨ ∃ e, FirstOffence (before ++ records) e := by
  induction records generalizing before with
  | nil => exact .inl ((List.append_nil before).symm ▸ importable)
  | cons r rest ih =>
    rcases r.soundOrOffends (before.map EntryRecord.name) with ⟨sound, fresh⟩ | ⟨e, offends⟩
    · have next := ih (importable.appended sound fresh)
      rwa [List.append_assoc] at next
    · exact .inr ⟨e, before, r, rest, rfl, importable, offends⟩

theorem entryRebuilt (built : Formula.ofRecord r.formula = .ok f) :
    entryRecord (⟨r.name, r.type⟩, f) = r := by
  rw [entryRecord, (Formula.ofRecordSource built).2]

theorem collectOffends (rest : List EntryRecord)
    (offends : r.Offends ((entries.map entryRecord).map EntryRecord.name) e) :
    collectEntries (r :: rest) entries = .error e := by
  rw [collectEntries]
  cases offends with
  | formula refused =>
    rw [entryFormula, refused]
    rfl
  | type built apart =>
    rw [entryFormula, built]
    simp only [if_neg apart]
    rfl
  | duplicate sound taken =>
    obtain ⟨f, built, same⟩ := sound
    rw [entryFormulaOk.mpr ⟨built, same⟩]
    have found : entries.any fun entry => entry.1.name == r.name := by
      simpa [entryRecord] using taken
    exact if_pos found

theorem upsertRecords (built : Formula.ofRecord r.formula = .ok f)
    (fresh : r.name ∉ (entries.map entryRecord).map EntryRecord.name) :
    ((Sorted.upsert placeOrder (⟨r.name, r.type⟩, f) entries).map entryRecord).Perm
      (r :: entries.map entryRecord) := by
  have placed : (Sorted.upsert placeOrder (⟨r.name, r.type⟩, f) entries).Perm
      ((⟨r.name, r.type⟩, f) :: entries) := Sorted.upsertFresh fun entry mem same => by
    have named : r.name = entry.1.name := sameName same
    rw [named] at fresh
    exact fresh (List.mem_map_of_mem (List.mem_map_of_mem mem))
  have kept := placed.map entryRecord
  rwa [List.map_cons, entryRebuilt built] at kept

/-- Records that give no offence are collected, and collecting goes on behind them. -/
theorem collectThrough (sound : ∀ r ∈ before, r.Sound)
    (distinct : ((entries.map entryRecord ++ before).map EntryRecord.name).Nodup) :
    ∃ collected, (collected.map entryRecord).Perm (entries.map entryRecord ++ before) ∧
      ∀ rest, collectEntries (before ++ rest) entries = collectEntries rest collected := by
  induction before generalizing entries with
  | nil => exact ⟨entries, by rw [List.append_nil], fun _ => rfl⟩
  | cons r before ih =>
    obtain ⟨⟨f, built, same⟩, others⟩ := List.forall_mem_cons.mp sound
    have fresh : r.name ∉ (entries.map entryRecord).map EntryRecord.name := fun taken => by
      rw [List.map_append, List.nodup_append] at distinct
      exact distinct.2.2 _ taken _ List.mem_cons_self rfl
    have placed := ((upsertRecords built fresh).append_right before).trans List.perm_middle.symm
    obtain ⟨collected, perm, through⟩ :=
      ih others ((placed.map EntryRecord.name).nodup_iff.mpr distinct)
    refine ⟨collected, perm.trans placed, fun rest => ?_⟩
    rw [List.cons_append, collectFresh _ built same fresh]
    exact through rest

theorem collectImportable (importable : Importable before) :
    ∃ collected, (collected.map entryRecord).Perm before ∧
      ∀ rest, collectEntries (before ++ rest) [] = collectEntries rest collected := by
  have distinct : ((List.map entryRecord [] ++ before).map EntryRecord.name).Nodup :=
    importable.distinct
  exact collectThrough importable.sound distinct

theorem Importable.accepted {r : CandidateRecord} (importable : Importable r.formulas) :
    ∃ c, ofRecord r = .ok c ∧ c.toRecord.formulas.Perm r.formulas := by
  obtain ⟨collected, perm, through⟩ := collectImportable importable
  have all := through []
  rw [List.append_nil] at all
  exact ⟨⟨collected, r.score, r.count⟩, by rw [ofRecord, all]; rfl, perm⟩

theorem FirstOffence.refused {r : CandidateRecord} (offence : FirstOffence r.formulas e) :
    ofRecord r = .error e := by
  obtain ⟨before, entry, after, split, importable, offends⟩ := offence
  obtain ⟨collected, perm, through⟩ := collectImportable importable
  have stopped : collectEntries (entry :: after) collected = .error e := by
    refine collectOffends after ?_
    cases offends with
    | formula refused => exact .formula refused
    | type built apart => exact .type built apart
    | duplicate sound taken =>
      exact .duplicate sound ((perm.map EntryRecord.name).mem_iff.mpr taken)
  rw [ofRecord, split, through, stopped]
  rfl

theorem acceptedIff (r : CandidateRecord) :
    (∃ c, ofRecord r = .ok c) ↔ Importable r.formulas := by
  refine ⟨?_, fun importable => importable.accepted.imp fun _ => And.left⟩
  rintro ⟨c, ok⟩
  refine (importableOrOffence .none r.formulas).resolve_right ?_
  rintro ⟨e, offence⟩
  cases ok.symm.trans (FirstOffence.refused offence)

theorem refusedIff (r : CandidateRecord) (e : RecordError) :
    ofRecord r = .error e ↔ FirstOffence r.formulas e := by
  refine ⟨fun refused => ?_, FirstOffence.refused⟩
  rcases importableOrOffence .none r.formulas with importable | ⟨other, offence⟩
  · rw [List.nil_append] at importable
    obtain ⟨c, ok, _⟩ := importable.accepted
    cases refused.symm.trans ok
  · rw [List.nil_append] at offence
    cases refused.symm.trans offence.refused
    exact offence

theorem WellFormed.exported {c : Candidate} (wellFormed : c.WellFormed) :
    Sorted.Ascending EntryRecord.byName c.toRecord.formulas :=
  List.pairwise_map.mpr wellFormed.ascending

theorem ofRecordSorted {r : CandidateRecord} {c : Candidate} (ok : ofRecord r = .ok c)
    {formulas : List EntryRecord} (same : formulas.Perm r.formulas) :
    c.toRecord = { r with formulas := Sorted.sort EntryRecord.byName formulas } := by
  obtain ⟨_, read, perm⟩ := Importable.accepted ((acceptedIff r).mp ⟨c, ok⟩)
  cases ok.symm.trans read
  rw [Sorted.sortUnique (ofRecordWellFormed ok).exported (perm.trans same.symm)]
  obtain ⟨entries, _, rfl⟩ := Checked.mapOk.mp ok
  rfl

/-- The order of the entries in a record does not matter. -/
theorem ofRecordReordered {r : CandidateRecord} {c : Candidate} (ok : ofRecord r = .ok c)
    {formulas : List EntryRecord} (same : formulas.Perm r.formulas) :
    ofRecord { r with formulas := formulas } = .ok c := by
  have importable := ((acceptedIff r).mp ⟨c, ok⟩).reordered same
  obtain ⟨other, read⟩ := (acceptedIff { r with formulas := formulas }).mpr importable
  have alike : other.toRecord = c.toRecord :=
    (ofRecordSorted read (.refl _)).trans (ofRecordSorted ok same).symm
  have restored := ofRecordRebuilt (ofRecordWellFormed read)
  rw [alike, ofRecordRebuilt (ofRecordWellFormed ok)] at restored
  exact read.trans restored.symm

theorem recordsImported (r : CandidateRecord) :
    ((∃ c, ofRecord r = .ok c) ↔ Importable r.formulas) ∧
      (∀ c, ofRecord r = .ok c →
        c.toRecord = { r with formulas := Sorted.sort EntryRecord.byName r.formulas } ∧
          ∀ formulas, formulas.Perm r.formulas →
            ofRecord { r with formulas := formulas } = .ok c) ∧
      (∀ e, ofRecord r = .error e ↔ FirstOffence r.formulas e) ∧
      ∀ c : Candidate, ofRecord c.toRecord = .ok c ↔ c.WellFormed :=
  ⟨acceptedIff r, fun _ ok => ⟨ofRecordSorted ok (.refl _), fun _ => ofRecordReordered ok⟩,
    refusedIff r, fun _ => ⟨ofRecordWellFormed, ofRecordRebuilt⟩⟩

/-- Three entries out of order. -/
def shuffled : CandidateRecord :=
  ⟨.two, 3, [⟨"licm", .bool, .literal .bool (.bool true)⟩,
    ⟨"~licm.0", .int, .arithmetic .int .add (.literal .int (.int 1)) (.feature .int ⟨"loops", ""⟩)⟩,
    ⟨"dce", .bool, .boolean .bool .int .lt (.literal .int (.int 1)) (.literal .int (.int 2))⟩]⟩

-- the first of the names that come twice is told, and the entry behind it of another type is not
theorem recordsImportedShuffled : ∃ c, ofRecord shuffled = .ok c ∧ c.WellFormed ∧
    c.toRecord = { shuffled with formulas := Sorted.sort EntryRecord.byName shuffled.formulas } ∧
    c.toRecord.formulas.map EntryRecord.name = ["dce", "licm", "~licm.0"] ∧
    ofRecord { shuffled with formulas := shuffled.formulas.reverse } = .ok c ∧
    FirstOffence (shuffled.formulas ++
      [⟨"dce", .bool, .literal .bool (.bool false)⟩, ⟨"gvn", .bool, .literal .int (.int 3)⟩])
        (.duplicateDecision "dce") := by
  let c : Candidate := ⟨[(⟨"dce", .bool⟩, .boolean .int .lt (.literal (.int 1)) (.literal (.int 2))),
    (⟨"licm", .bool⟩, .literal (.bool true)),
    (⟨"~licm.0", .int⟩, .arithmetic .int .add (.literal (.int 1)) (.feature .int ⟨"loops", ""⟩))],
    .two, 3⟩
  have read : ofRecord shuffled = .ok c := by decide +kernel
  obtain ⟨sorted, reordered⟩ := (recordsImported shuffled).2.1 c read
  obtain ⟨_, _, offence, restored⟩ := recordsImported { shuffled with formulas :=
    shuffled.formulas ++ [⟨"dce", .bool, .literal .bool (.bool false)⟩,
      ⟨"gvn", .bool, .literal .int (.int 3)⟩] }
  exact ⟨c, read, (restored c).mp (by decide +kernel), sorted, by decide +kernel,
    reordered _ (List.reverse_perm _), (offence _).mp (by decide +kernel)⟩

end Candidate

end PassTuner

import Mathlib.Data.List.Perm.Basic
import PassTuner.Proofs.Candidate.Completion
import PassTuner.Proofs.Catalog
import PassTuner.Proofs.Decision.Enabled

/-! The names of decision points.

An argument point is named by a mark, its optimization and its place, which can be told from the
name whatever characters the optimization has in its own. So the points of a catalog have names of
their own, unless an optimization is called what an argument is: the checks of a catalog let such a
name pass, and then one point stands for both. -/
namespace PassTuner

namespace DecisionPoint
open Std

theorem lastMark {as bs ds es : List Char} {mark : Char} (left : mark ∉ ds) (right : mark ∉ es)
    (same : as ++ mark :: ds = bs ++ mark :: es) : as = bs ∧ ds = es := by
  rcases List.append_eq_append_iff.mp same with ⟨cs, rfl, rest⟩ | ⟨cs, rfl, rest⟩
  · cases cs with
    | nil => exact ⟨(List.append_nil as).symm, (List.cons.inj rest).2⟩
    | cons c cs => exact absurd ((List.cons.inj rest).2 ▸ by simp) left
  · cases cs with
    | nil => exact ⟨List.append_nil bs, (List.cons.inj rest).2.symm⟩
    | cons c cs => exact absurd ((List.cons.inj rest).2 ▸ by simp) right

/-- The last point of a name parts the optimization from the place, as no digit is one. -/
theorem argumentNameInjective {a b : String} {i j : Nat}
    (same : argumentName a i = argumentName b j) : a = b ∧ i = j := by
  have pointless (n : Nat) : '.' ∉ Nat.toDigits 10 n := by
    intro mem
    have digit := Nat.isDigit_of_mem_toDigits (by decide) (by decide) mem
    exact absurd digit (by decide)
  have chars := congrArg String.toList same
  simp only [argumentName, String.toList_append, String.toList_singleton, List.append_assoc,
    List.cons_append, List.nil_append, List.cons.injEq, true_and,
    Nat.toString_eq_ofList_toDigits, String.toList_ofList] at chars
  obtain ⟨names, digits⟩ := lastMark (pointless i) (pointless j) chars
  refine ⟨String.toList_inj.mp names, ?_⟩
  have places := congrArg (fun ds => Nat.ofDigitChars 10 ds 0) digits
  simpa using places

theorem argumentMarked (optimization : String) (index : Nat) :
    isArgumentName (argumentName optimization index) := by
  simp [isArgumentName, argumentName]

/-- Points with names of their own are all kept. -/
theorem collectDistinct {points : List DecisionPoint} (distinct : (points.map name).Nodup) :
    (collect points).Perm points := by
  have names := namesDistinct (collectAscending points)
  refine (List.perm_ext_iff_of_nodup names.of_map distinct.of_map).mpr fun point =>
    ⟨collectMem, fun mem => ?_⟩
  obtain ⟨kept, inside, equal⟩ : ∃ kept ∈ collect points, order point kept = .eq :=
    Sorted.insertedPlace mem
  have named : point.name = kept.name := LawfulEqOrd.eq_of_compare equal
  have same : point = kept := List.inj_on_of_nodup_map distinct mem (collectMem inside) named
  exact same ▸ inside

end DecisionPoint

namespace Catalog
open DecisionPoint (argumentName isArgumentName flag argument)

variable {catalog : Catalog} {parameterized : Bool}

/-- One point per optimization, under its own name. -/
def flagPoints (catalog : Catalog) : List DecisionPoint :=
  catalog.optimizations.map fun o => flag o.name

/-- One point per argument, under the name made for it and with the type it is declared with. -/
def argumentPoints (catalog : Catalog) : List DecisionPoint :=
  catalog.optimizations.flatMap fun o =>
    o.arguments.mapIdx fun index slot => argument o.name index slot.type

def namedPoints (parameterized : Bool) (catalog : Catalog) : List DecisionPoint :=
  catalog.flagPoints ++ if parameterized then catalog.argumentPoints else []

def argumentCount (catalog : Catalog) : Nat :=
  (catalog.optimizations.flatMap Optimization.arguments).length

/-- An optimization is called what an argument is, while arguments are searched. -/
def Clashes (parameterized : Bool) (catalog : Catalog) : Prop :=
  parameterized ∧ ∃ o ∈ catalog.optimizations, ∃ other ∈ catalog.optimizations,
    ∃ index < other.arguments.length, o.name = argumentName other.name index

theorem acceptedNames {seen : List String} {optimizations : List Optimization}
    (accepted : validateFrom seen optimizations = .ok ()) :
    (optimizations.map Optimization.name).Nodup ∧ ∀ o ∈ optimizations, o.name ∉ seen := by
  induction optimizations generalizing seen with
  | nil => exact ⟨List.nodup_nil, nofun⟩
  | cons o rest ih =>
    simp only [validateFrom] at accepted
    split at accepted <;> try contradiction
    split at accepted <;> try contradiction
    split at accepted <;> try contradiction
    rename_i _ fresh _ _
    obtain ⟨distinct, apart⟩ := ih accepted
    refine ⟨List.nodup_cons.mpr ⟨fun again => ?_, distinct⟩,
      List.forall_mem_cons.mpr ⟨by simpa using fresh, fun other mem old => ?_⟩⟩
    · obtain ⟨other, mem, same⟩ := List.mem_map.mp again
      exact apart other mem (same ▸ List.mem_cons_self)
    · exact apart other mem (List.mem_cons_of_mem _ old)

theorem argumentNamesDistinct (distinct : (catalog.optimizations.map Optimization.name).Nodup) :
    (catalog.argumentPoints.map DecisionPoint.name).Nodup := by
  rw [argumentPoints, List.map_flatMap, List.nodup_flatMap]
  constructor
  · intro o _
    refine List.pairwise_iff_getElem.mpr fun i j _ _ below same => ?_
    simp only [List.getElem_map, List.getElem_mapIdx, argument] at same
    exact below.ne (DecisionPoint.argumentNameInjective same).2
  · refine (List.pairwise_map.mp distinct).imp fun {o other} apart name left right => apart ?_
    simp only [List.mem_map, List.mem_mapIdx] at left right
    obtain ⟨_, ⟨_, _, rfl⟩, rfl⟩ := left
    obtain ⟨_, ⟨_, _, rfl⟩, same⟩ := right
    exact (DecisionPoint.argumentNameInjective same).1.symm

theorem clashesNamed : catalog.Clashes parameterized ↔
    parameterized ∧ ∃ name ∈ catalog.flagPoints.map DecisionPoint.name,
      name ∈ catalog.argumentPoints.map DecisionPoint.name := by
  refine and_congr_right fun _ => ⟨?_, ?_⟩
  · rintro ⟨o, mem, other, inside, index, bound, same⟩
    refine ⟨o.name, by simpa [flagPoints, flag] using ⟨o, mem, rfl⟩, List.mem_map.mpr
      ⟨argument other.name index other.arguments[index].type, ?_, same.symm⟩⟩
    exact List.mem_flatMap.mpr ⟨other, inside, List.mem_mapIdx.mpr ⟨index, bound, rfl⟩⟩
  · rintro ⟨name, plain, marked⟩
    obtain ⟨o, mem, rfl⟩ : ∃ o ∈ catalog.optimizations, o.name = name := by
      simpa [flagPoints, flag] using plain
    obtain ⟨point, listed, same⟩ := List.mem_map.mp marked
    obtain ⟨other, inside, place⟩ := List.mem_flatMap.mp listed
    obtain ⟨index, bound, rfl⟩ := List.mem_mapIdx.mp place
    exact ⟨o, mem, other, inside, index, bound, same.symm⟩

theorem namedDistinct (distinct : (catalog.optimizations.map Optimization.name).Nodup) :
    ((catalog.namedPoints parameterized).map DecisionPoint.name).Nodup ↔
      ¬catalog.Clashes parameterized := by
  have flags : (catalog.flagPoints.map DecisionPoint.name).Nodup := by
    rw [flagPoints, List.map_map]
    exact distinct
  rw [clashesNamed, namedPoints]
  cases parameterized with
  | false => simpa using flags
  | true =>
    have arguments := argumentNamesDistinct distinct
    rw [if_pos rfl, List.map_append, List.nodup_append']
    simp only [flags, arguments, true_and, List.Disjoint, not_exists, not_and]

theorem listedNamed (parameterized : Bool) (catalog : Catalog) :
    (catalog.optimizations.flatMap (Optimization.points parameterized)).Perm
      (catalog.namedPoints parameterized) := by
  cases parameterized with
  | false =>
    have points : Optimization.points false = fun o => [flag o.name] := rfl
    simp [points, namedPoints, flagPoints, List.map_eq_flatMap]
  | true => exact (List.map_append_flatMap_perm catalog.optimizations _ _).symm

theorem namedCount (parameterized : Bool) (catalog : Catalog) :
    (catalog.namedPoints parameterized).length =
      catalog.size + if parameterized then catalog.argumentCount else 0 := by
  cases parameterized <;>
    simp [namedPoints, flagPoints, argumentPoints, argumentCount, size, List.length_flatMap]

theorem pointsNamed (accepted : catalog.validate = .ok ()) :
    (catalog.decisionPoints parameterized).Perm (catalog.namedPoints parameterized) ↔
      ¬catalog.Clashes parameterized := by
  have listed := listedNamed parameterized catalog
  rw [← namedDistinct (acceptedNames accepted).1]
  constructor
  · intro same
    exact (same.map DecisionPoint.name).nodup_iff.mp
      (DecisionPoint.namesDistinct (DecisionPoint.collectAscending _))
  · intro distinct
    have apart := (listed.map DecisionPoint.name).nodup_iff.mpr distinct
    exact (DecisionPoint.collectDistinct apart).trans listed

/-- The number of points tells whether a name was taken twice. -/
theorem pointCount (accepted : catalog.validate = .ok ()) :
    (catalog.decisionPoints parameterized).length =
        (catalog.size + if parameterized then catalog.argumentCount else 0) ↔
      ¬catalog.Clashes parameterized := by
  rw [← pointsNamed accepted, ← namedCount]
  refine ⟨fun same => ?_, List.Perm.length_eq⟩
  have distinct := DecisionPoint.namesDistinct (DecisionPoint.collectAscending
    (catalog.optimizations.flatMap (Optimization.points parameterized)))
  have inside : catalog.decisionPoints parameterized ⊆ catalog.namedPoints parameterized :=
    fun _ mem => (listedNamed parameterized catalog).mem_iff.mp (DecisionPoint.collectMem mem)
  exact (List.subperm_of_subset distinct.of_map inside).perm_of_length_le same.ge

/-- A point whose name has no mark is the flag of an optimization. -/
theorem flagNamed {point : DecisionPoint} (mem : point ∈ catalog.decisionPoints parameterized)
    (plain : ¬isArgumentName point.name) : ∃ o ∈ catalog.optimizations, o.name = point.name := by
  obtain ⟨o, listed, inside⟩ := List.mem_flatMap.mp (DecisionPoint.collectMem mem)
  rcases List.mem_cons.mp inside with rfl | marked
  · exact ⟨o, listed, rfl⟩
  · split at marked
    · obtain ⟨index, _, rfl⟩ := List.mem_mapIdx.mp marked
      exact absurd (DecisionPoint.argumentMarked o.name index) plain
    · contradiction

theorem unmarkedApart (plain : ∀ o ∈ catalog.optimizations, ¬isArgumentName o.name) :
    ¬catalog.Clashes parameterized := by
  rintro ⟨_, o, mem, other, _, index, _, same⟩
  exact plain o mem (same ▸ DecisionPoint.argumentMarked other.name index)

/-- The points of an accepted catalog are one per optimization and one per argument exactly if no
optimization is called what an argument is. The decisions of a candidate for these points list the
optimizations that are switched on, except those whose own name has the mark. -/
theorem namesApart (accepted : catalog.validate = .ok ()) (parameterized : Bool) :
    let points := catalog.decisionPoints parameterized
    (points.map DecisionPoint.name).Nodup ∧
      (points.Perm (catalog.namedPoints parameterized) ↔ ¬catalog.Clashes parameterized) ∧
      (points.length = (catalog.size + if parameterized then catalog.argumentCount else 0) ↔
        ¬catalog.Clashes parameterized) ∧
      ((∀ o ∈ catalog.optimizations, ¬isArgumentName o.name) → ¬catalog.Clashes parameterized) ∧
      ∀ (features : FeatureSource) (c : Candidate) (d : Decisions), c.Covers points →
        c.decide features = .ok d →
          Sorted.Ascending compare d.enabled ∧
            ∀ name, name ∈ d.enabled ↔
              (∃ o ∈ catalog.optimizations, o.name = name) ∧ d.isEnabled name ∧
                ¬isArgumentName name := by
  intro points
  refine ⟨DecisionPoint.namesDistinct (DecisionPoint.collectAscending _), pointsNamed accepted,
    pointCount accepted, unmarkedApart, fun features c d covers decided => ?_⟩
  have ascending := Candidate.decideAscending decided
  refine ⟨Decisions.enabledAscending ascending, fun name => ?_⟩
  rw [Decisions.enabledNames ascending]
  refine ⟨fun ⟨on, plain⟩ => ⟨?_, on, plain⟩, And.right⟩
  obtain ⟨entry, inside, rfl⟩ := (Candidate.decideNames decided name).mp (Decisions.enabledNamed on)
  have point : entry.1 ∈ points := covers.points ▸ List.mem_map_of_mem inside
  exact flagNamed point plain

def inlining : Catalog := ⟨[⟨"inline", [⟨"threshold", .int⟩]⟩, ⟨"gvn", []⟩]⟩

def inliningOff : Candidate :=
  ⟨[(flag "gvn", .literal (.bool true)), (flag "inline", .literal (.bool false)),
    (argument "inline" 0 .int, .literal (.int 225))], .zero, 0⟩

def inliningDecided : Decisions :=
  ⟨[("gvn", .bool true), ("inline", .bool false), ("~inline.0", .int 225)]⟩

theorem namesApartInlining : inlining.validate = .ok () ∧
    (inlining.decisionPoints true).Perm (inlining.namedPoints true) ∧
    (inlining.decisionPoints true).length = 3 ∧
    inliningOff.Covers (inlining.decisionPoints true) ∧
    inliningOff.decide (FeatureSet.ofList []).source = .ok inliningDecided ∧
    ∀ name, name ∈ inliningDecided.enabled ↔
      (∃ o ∈ inlining.optimizations, o.name = name) ∧ inliningDecided.isEnabled name ∧
        ¬isArgumentName name := by
  have accepted : inlining.validate = .ok () := by decide +kernel
  have covers : inliningOff.Covers (inlining.decisionPoints true) := by decide +kernel
  have decided : inliningOff.decide (FeatureSet.ofList []).source = .ok inliningDecided := by
    decide +kernel
  obtain ⟨_, named, counted, apart, listed⟩ := namesApart accepted true
  have plain : ¬inlining.Clashes true := apart (by decide +kernel)
  exact ⟨accepted, named.mpr plain, counted.mpr plain, covers, decided,
    (listed _ _ _ covers decided).2⟩

/-- The first argument of one optimization is what the other is called. -/
def inliningTwice : Catalog := ⟨[⟨"inline", [⟨"threshold", .int⟩]⟩, ⟨"~inline.0", []⟩]⟩

def marked : Catalog := ⟨[⟨"~gvn", []⟩]⟩

def markedOn : Candidate := ⟨[(flag "~gvn", .literal (.bool true))], .zero, 0⟩

theorem namesTaken :
    (¬∀ (catalog : Catalog) (parameterized : Bool), catalog.validate = .ok () →
      (catalog.decisionPoints parameterized).Perm (catalog.namedPoints parameterized)) ∧
    ¬∀ (catalog : Catalog) (parameterized : Bool) (set : FeatureSet) (c : Candidate)
      (d : Decisions), catalog.validate = .ok () → c.Covers (catalog.decisionPoints parameterized) →
        c.decide set.source = .ok d → ∀ name,
          name ∈ d.enabled ↔ (∃ o ∈ catalog.optimizations, o.name = name) ∧ d.isEnabled name := by
  constructor
  · intro named
    have same := (named inliningTwice true (by decide +kernel)).length_eq
    exact absurd same (by decide +kernel)
  · intro listed
    have on := (listed marked false (FeatureSet.ofList []) markedOn ⟨[("~gvn", .bool true)]⟩
      (by decide +kernel) (by decide +kernel) (by decide +kernel) "~gvn").mpr (by decide +kernel)
    exact absurd on (by decide +kernel)

end Catalog

end PassTuner

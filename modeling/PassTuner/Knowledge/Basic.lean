import PassTuner.Candidate.Basic

/-! The knowledge base: every candidate seen so far, once each, with its running score. -/
namespace PassTuner

/-- Candidates in structural order, no two of them equal. -/
structure KnowledgeBase where
  candidates : List Candidate
  deriving DecidableEq, Repr, Inhabited

namespace KnowledgeBase

def empty : KnowledgeBase := ⟨[]⟩

def size (k : KnowledgeBase) : Nat := k.candidates.length

/-- The stored candidate of the same content, with its score. -/
def find? (k : KnowledgeBase) (c : Candidate) : Option Candidate :=
  k.candidates.find? fun stored => c.order stored == .eq

def has (k : KnowledgeBase) (c : Candidate) : Bool := (k.find? c).isSome

/-- Store a candidate in place of one of the same content. -/
def update (k : KnowledgeBase) (c : Candidate) : KnowledgeBase :=
  ⟨Sorted.upsert Candidate.order c k.candidates⟩

def ofList (candidates : List Candidate) : KnowledgeBase := candidates.foldl update empty

def get? (k : KnowledgeBase) (index : Nat) : Option Candidate := k.candidates[index]?

/-- Take a fitness value into the stored score of a candidate, from nothing if it is new; also
score and count stored afterwards. A value that is not finite could not be stored and is ignored. -/
def record (k : KnowledgeBase) (c : Candidate) (fitness : Double) : KnowledgeBase × (Double × Nat) :=
  let known := k.find? c
  if fitness.isFinite then
    let observed := (known.getD c.unscored).observe fitness
    (k.update observed, (observed.score, observed.count))
  else
    (k, match known with
      | some stored => (stored.score, stored.count)
      | none => (.zero, 0))

/-- Higher score first, then structural order. -/
def scoreOrder (a b : Candidate) : Ordering := (b.score.totalCompare a.score).then (a.order b)

def ranked (k : KnowledgeBase) : List Candidate := Sorted.sort scoreOrder k.candidates

def best? (k : KnowledgeBase) : Option Candidate := k.ranked.head?

end KnowledgeBase

end PassTuner

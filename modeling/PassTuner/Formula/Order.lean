import PassTuner.Formula.Basic

/-! The order of formulas: kind, then type, then the payload, children before operators. -/
namespace PassTuner.Formula

def order : Formula → Formula → Ordering
  | .literal a, .literal b => a.order b
  | .arithmetic ta opa la ra, .arithmetic tb opb lb rb =>
    (ta.order tb).then <| (la.order lb).then <| (ra.order rb).then <| compare opa.rank opb.rank
  | .boolean ta opa la ra, .boolean tb opb lb rb =>
    (ta.order tb).then <| (la.order lb).then <| (ra.order rb).then <| compare opa.rank opb.rank
  | .conditional ta ca wa fa, .conditional tb cb wb fb =>
    (ta.order tb).then <| (ca.order cb).then <| (wa.order wb).then <| fa.order fb
  | .feature ta a, .feature tb b => (ta.order tb).then (a.order b)
  | a, b => compare a.kind.rank b.kind.rank

end PassTuner.Formula

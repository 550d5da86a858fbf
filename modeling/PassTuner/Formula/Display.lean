import PassTuner.Formula.Basic

/-! The text of a formula: binary nodes and conditionals in parentheses, features after a
dollar sign. -/
namespace PassTuner.Formula

def display : Formula → String
  | .literal value => value.display
  | .arithmetic _ op lhs rhs => "(" ++ lhs.display ++ " " ++ op.symbol ++ " " ++ rhs.display ++ ")"
  | .boolean _ op lhs rhs => "(" ++ lhs.display ++ " " ++ op.symbol ++ " " ++ rhs.display ++ ")"
  | .conditional _ condition whenTrue whenFalse =>
    "(if " ++ condition.display ++ " then " ++ whenTrue.display ++ " else " ++ whenFalse.display ++ ")"
  | .feature _ ref => "$" ++ ref.display

end PassTuner.Formula

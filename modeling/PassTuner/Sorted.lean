/-! Lists kept in the order of a comparison, each place held once. -/
namespace PassTuner.Sorted

variable {α : Type}

/-- Put an element in its place; one that compares equal is replaced. -/
def upsert (cmp : α → α → Ordering) (x : α) : List α → List α
  | [] => [x]
  | y :: rest =>
    match cmp x y with
    | .lt => x :: y :: rest
    | .eq => x :: rest
    | .gt => y :: upsert cmp x rest

/-- Put an element in its place, unless one that compares equal is there already. -/
def insertNew (cmp : α → α → Ordering) (x : α) : List α → List α
  | [] => [x]
  | y :: rest =>
    match cmp x y with
    | .lt => x :: y :: rest
    | .eq => y :: rest
    | .gt => y :: insertNew cmp x rest

/-- Collect elements in turn, a later one in place of an equal earlier one. -/
def collect (cmp : α → α → Ordering) (xs : List α) : List α :=
  xs.foldl (fun kept x => upsert cmp x kept) []

/-- Insert into a list that may hold equals, behind them. -/
def insertAfter (cmp : α → α → Ordering) (x : α) : List α → List α
  | [] => [x]
  | y :: rest =>
    match cmp y x with
    | .gt => x :: y :: rest
    | _ => y :: insertAfter cmp x rest

/-- Sort by a comparison; equals keep their order. -/
def sort (cmp : α → α → Ordering) (xs : List α) : List α :=
  xs.mergeSort fun x y => cmp x y != .gt

end PassTuner.Sorted

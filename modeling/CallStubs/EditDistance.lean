namespace CallStubs.EditDistance

variable {α : Type} [DecidableEq α]

def levenshtein : List α → List α → Nat
  | [], ys => ys.length
  | x :: xs, [] => (x :: xs).length
  | x :: xs, y :: ys =>
    min (min (levenshtein xs (y :: ys) + 1) (levenshtein (x :: xs) ys + 1))
      (levenshtein xs ys + if x = y then 0 else 1)
termination_by xs ys => xs.length + ys.length

/-- The cells of a row from left to right; `corner` and `left` are the neighbours of the next cell. -/
def cells (x : α) (corner left : Nat) : List α → List Nat → List Nat
  | y :: ys, up :: ups =>
    let d := min (min (up + 1) (left + 1)) (corner + if x = y then 0 else 1)
    d :: cells x up d ys ups
  | _, _ => []

def nextRow (ys : List α) (row : List Nat) (x : α) : List Nat :=
  match row with
  | [] => []
  | d :: ds => (d + 1) :: cells x d (d + 1) ys ds

def distance (xs ys : List α) : Nat :=
  (xs.foldl (nextRow ys) (List.range (ys.length + 1))).getLast?.getD 0

end CallStubs.EditDistance

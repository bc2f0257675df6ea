/-!
# Ordered runs

The pieces that sorting by runs starts from.  `firstRun` is the longest start of a list that is
already in order, or in strictly falling order and then turned round.  `insert` puts an element into
a run, behind the elements found, by halving, not to come after it.
-/

namespace VoipCalls.Sorting

variable {α : Type}

/-- The longest run from `x` on in which no element comes before its predecessor, and the rest. -/
def rising (lt : α → α → Bool) (x : α) : List α → List α × List α
  | [] => ([x], [])
  | y :: ys =>
    if lt y x then ([x], y :: ys)
    else
      let (run, rest) := rising lt y ys
      (x :: run, rest)

/-- The longest run from `x` on in which every element comes before its predecessor, and the
rest. -/
def falling (lt : α → α → Bool) (x : α) : List α → List α × List α
  | [] => ([x], [])
  | y :: ys =>
    if lt y x then
      let (run, rest) := falling lt y ys
      (x :: run, rest)
    else ([x], y :: ys)

/-- An ordered start of a list, made of its first run, and the rest. -/
def firstRun (lt : α → α → Bool) : List α → List α × List α
  | [] => ([], [])
  | [x] => ([x], [])
  | x :: y :: ys =>
    if lt y x then
      let (run, rest) := falling lt x (y :: ys)
      (run.reverse, rest)
    else rising lt x (y :: ys)

/-- The place of `x` among the elements from `low` to `high`, found by halving at most `steps`
times. -/
def place (lt : α → α → Bool) (x : α) (xs : List α) : Nat → Nat → Nat → Nat
  | 0, low, _ => low
  | steps + 1, low, high =>
    if low < high then
      let middle := low + (high - low) / 2
      match xs[middle]? with
      | none => low
      | some y =>
        if lt x y then place lt x xs steps low middle else place lt x xs steps (middle + 1) high
    else low

/-- Put an element into an ordered list, behind its equals. -/
def insert (lt : α → α → Bool) (xs : List α) (x : α) : List α :=
  let p := place lt x xs xs.length 0 xs.length
  xs.take p ++ x :: xs.drop p

/-- An ordered start of a list with at least `size` elements, if there are so many, and the rest. -/
def runOf (lt : α → α → Bool) (size : Nat) (xs : List α) : List α × List α :=
  let (run, rest) := firstRun lt xs
  let more := size - run.length
  ((rest.take more).foldl (insert lt) run, rest.drop more)

end VoipCalls.Sorting

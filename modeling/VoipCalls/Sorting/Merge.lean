/-!
# Merging two runs

`mergeRuns lt a b` merges two neighbouring runs, of which `a` stands in front.  What stands at the
outer ends in its place already is left there.  The shorter of the remaining parts, or `a` of two
equal ones, then gives the direction: from the front if it is `a`, and from the end, with both runs
turned round, if it is `b`.

A merge goes pair by pair until one run has won often enough in a row, and then gallops: it looks
for the place of one run's head in the other run by steps that double, and moves all in front of
that place at once.  How often a run has to win is the threshold, which falls while galloping pays
and rises when it ends.  For an order in which all elements are comparable these ways make no
difference.
-/

namespace VoipCalls.Sorting

variable {α : Type}

/-! ### The place of an element in a run -/

/-- Look at positions `next, 2 · next + 1, …` while their elements pass; `last` is the position of
the last element that passed.  The answer is that position and the one that ended the search. -/
def probe (passes : α → Bool) (xs : List α) : Nat → Nat → Nat → Nat × Nat
  | 0, last, _ => (last, xs.length)
  | steps + 1, last, next =>
    match xs[next]? with
    | none => (last, xs.length)
    | some x => if passes x then probe passes xs steps next (2 * next + 1) else (last, next)

/-- Halve the positions from `low` to `high`: those of elements that pass are left behind.  In a
list that is turned round the middle is counted from the other end. -/
def halve (turned : Bool) (passes : α → Bool) (xs : List α) : Nat → Nat → Nat → Nat
  | 0, low, _ => low
  | steps + 1, low, high =>
    if low < high then
      let half := (high - low) / 2
      let middle := if turned then high - 1 - half else low + half
      if (xs[middle]?).any passes then halve turned passes xs steps (middle + 1) high
      else halve turned passes xs steps low middle
    else low

/-- How many elements at the start of a run pass. -/
def boundary (turned : Bool) (passes : α → Bool) (xs : List α) : Nat :=
  if (xs.head?).any passes then
    let (last, next) := probe passes xs xs.length 0 1
    halve turned passes xs xs.length (last + 1) next
  else 0

/-! ### Merging -/

/-- A merge at work: what is merged, last element first, what is left of either run, and the
threshold. -/
structure Merge (α : Type) where
  done : List α
  first : List α
  second : List α
  threshold : Nat

/-- How two runs are compared.  `wins p q` says that the head `p` of the first run goes before the
head `q` of the second one, and `turned` that both runs are turned round. -/
structure Contest (α : Type) where
  wins : α → α → Bool
  turned : Bool

namespace Merge

/-- Whether nothing is left to compare.  The last element of the second run goes to the end. -/
def isOver (m : Merge α) : Bool :=
  m.first.isEmpty || m.second.length ≤ 1

/-- The merged list, with what is left of the runs at its end. -/
def result (m : Merge α) : List α :=
  m.done.reverse ++ m.first ++ m.second

/-- Move elements from the first run. -/
def moveFirst (k : Nat) (m : Merge α) : Merge α :=
  { m with done := (m.first.take k).reverse ++ m.done, first := m.first.drop k }

/-- Move elements from the second run. -/
def moveSecond (k : Nat) (m : Merge α) : Merge α :=
  { m with done := (m.second.take k).reverse ++ m.done, second := m.second.drop k }

/-- Merge pair by pair, until either run has won as often in a row as the threshold says. -/
def pairwise (c : Contest α) : Nat → Nat → Nat → Merge α → Merge α
  | 0, _, _, m => m
  | fuel + 1, firstWins, secondWins, m =>
    match m.first, m.second with
    | p :: _, q :: _ =>
      if c.wins p q then
        let next := m.moveFirst 1
        if next.isOver || m.threshold ≤ firstWins + 1 then next
        else pairwise c fuel (firstWins + 1) 0 next
      else
        let next := m.moveSecond 1
        if next.isOver || m.threshold ≤ secondWins + 1 then next
        else pairwise c fuel 0 (secondWins + 1) next
    | _, _ => m

/-- Move the elements of the first run that go before the head of the second one, and then that
head.  The answer is how many there were. -/
def gallopFirst (c : Contest α) (m : Merge α) : Nat × Merge α :=
  match m.second with
  | [] => (0, m)
  | q :: _ =>
    let k := boundary c.turned (fun p => c.wins p q) m.first
    let next := m.moveFirst k
    (k, if next.isOver then next else next.moveSecond 1)

/-- Move the elements of the second run that go before the head of the first one, and then that
head.  The answer is how many there were. -/
def gallopSecond (c : Contest α) (m : Merge α) : Nat × Merge α :=
  match m.first with
  | [] => (0, m)
  | p :: _ =>
    let k := boundary c.turned (fun q => !c.wins p q) m.second
    let next := m.moveSecond k
    (k, if next.isOver then next else next.moveFirst 1)

/-- A round of galloping in both runs, in the front run first. -/
def gallopBoth (c : Contest α) (m : Merge α) : Nat × Merge α :=
  let (one, other) :=
    if c.turned then (gallopFirst c, gallopSecond c) else (gallopSecond c, gallopFirst c)
  let (j, m) := one m
  if m.isOver then (j, m)
  else
    let (k, m) := other m
    (max j k, m)

/-- The number of elements in a row for which it pays to gallop. -/
def worthGalloping : Nat := 7

/-- Gallop as long as it pays. -/
def galloping (c : Contest α) : Nat → Merge α → Merge α
  | 0, m => m
  | fuel + 1, m =>
    let (k, next) := gallopBoth c { m with threshold := max 1 (m.threshold - 1) }
    if next.isOver then next
    else if worthGalloping ≤ k then galloping c fuel next
    else { next with threshold := next.threshold + 1 }

/-- Merge in both ways in turn until the merge is over. -/
def inTurn (c : Contest α) : Nat → Merge α → Merge α
  | 0, m => m
  | fuel + 1, m =>
    if m.isOver then m
    else
      let size := m.first.length + m.second.length
      let m := pairwise c size 0 0 m
      if m.isOver then m
      else inTurn c fuel (galloping c size { m with threshold := m.threshold + 1 })

end Merge

/-- Merge two runs.  The head of the first one is known to go in front.  The answer is the merged
list and the new threshold. -/
def mergeFrom (c : Contest α) (first second : List α) (threshold : Nat) : List α × Nat :=
  let m : Merge α := { done := [], first, second, threshold }
  let m := Merge.inTurn c (first.length + second.length) (m.moveFirst 1)
  (m.result, m.threshold)

/-- Merge two neighbouring runs. -/
def mergeRuns (lt : α → α → Bool) (a b : List α) (threshold : Nat) : List α × Nat :=
  let front := (b.head?.map fun y => boundary false (fun x => !lt y x) a).getD 0
  let left := a.drop front
  let back := (left.getLast?.map fun x => boundary true (fun y => !lt y x) b.reverse).getD 0
  let right := b.take (b.length - back)
  if left.isEmpty || right.isEmpty then (a ++ b, threshold)
  else
    let (middle, threshold) :=
      if left.length ≤ right.length then mergeFrom ⟨lt, false⟩ right left threshold
      else
        let (merged, threshold) :=
          mergeFrom ⟨fun p q => lt q p, true⟩ left.reverse right.reverse threshold
        (merged.reverse, threshold)
    (a.take front ++ middle ++ b.drop (b.length - back), threshold)

end VoipCalls.Sorting

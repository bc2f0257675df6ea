import VoipCalls.Sorting.Insertion
import VoipCalls.Sorting.Merge

/-!
# Sorting by runs

`runSort lt xs` cuts a list into ordered runs and merges neighbouring runs.  For an order whose ties
are transitive this is the stable sort.  For other orders, such as one in which some elements cannot
be compared, the outcome depends on which elements are compared, and this module fixes that.

Each boundary between two runs has a power: the number of binary digits that it takes to tell the
middles of the two runs apart, as fractions of the whole list.  Runs wait on a pile, and a boundary
of higher power is merged away before one of lower power comes onto the pile.
-/

namespace VoipCalls.Sorting

variable {α : Type}

/-- Halve a number until it is below 64, and add one if a half was lost. -/
def runSizeFrom : Nat → Nat → Nat → Nat
  | 0, n, lost => n + lost
  | steps + 1, n, lost => if n < 64 then n + lost else runSizeFrom steps (n / 2) (max lost (n % 2))

/-- The least size of a run, for a list of a given length. -/
def runSize (n : Nat) : Nat :=
  runSizeFrom n n 0

/-- The number of binary digits that it takes to tell the fractions `a / n` and `b / n` apart. -/
def powerFrom (n : Nat) : Nat → Nat → Nat → Nat
  | 0, _, _ => 0
  | steps + 1, a, b =>
    if n ≤ a then powerFrom n steps (2 * (a - n)) (2 * (b - n)) + 1
    else if n ≤ b then 1
    else powerFrom n steps (2 * a) (2 * b) + 1

/-- The power of the boundary between two neighbouring runs of a list of length `n`, of which the
first begins at `start`. -/
def power (n start first second : Nat) : Nat :=
  powerFrom n n (2 * start + first) (2 * start + 2 * first + second)

/-- A run on the pile, and the power of the boundary behind it. -/
structure Run (α : Type) where
  items : List α
  power : Nat

/-- The runs that wait, last run first, and the threshold of merging. -/
structure Pile (α : Type) where
  runs : List (Run α) := []
  threshold : Nat := Merge.worthGalloping

namespace Pile

/-- Merge the last run into those before it while the boundary in front of it has more than a given
power. -/
def settle (lt : α → α → Bool) (power : Nat) : List (Run α) → Nat → Pile α
  | [], threshold => ⟨[], threshold⟩
  | [x], threshold => ⟨[x], threshold⟩
  | x :: y :: rest, threshold =>
    if power < y.power then
      let (items, threshold) := mergeRuns lt y.items x.items threshold
      settle lt power (⟨items, y.power⟩ :: rest) threshold
    else ⟨x :: y :: rest, threshold⟩
termination_by runs => runs.length

/-- Put a run onto the pile; the whole list has length `n`. -/
def push (lt : α → α → Bool) (n : Nat) (p : Pile α) (run : List α) : Pile α :=
  match p.runs with
  | [] => { p with runs := [⟨run, 0⟩] }
  | x :: rest =>
    let start := rest.foldl (fun total r => total + r.items.length) 0
    let boundary := power n start x.items.length run.length
    let settled := settle lt boundary p.runs p.threshold
    match settled.runs with
    | [] => { settled with runs := [⟨run, 0⟩] }
    | y :: rest => { settled with runs := ⟨run, 0⟩ :: { y with power := boundary } :: rest }

/-- Merge all runs, from the last one on.  A run that is shorter than the second one behind it is
merged before those. -/
def collapse (lt : α → α → Bool) : List (Run α) → Nat → List α
  | [], _ => []
  | [x], _ => x.items
  | [x, y], threshold => (mergeRuns lt y.items x.items threshold).1
  | x :: y :: z :: rest, threshold =>
    if z.items.length < x.items.length then
      let (items, threshold) := mergeRuns lt z.items y.items threshold
      collapse lt (x :: ⟨items, z.power⟩ :: rest) threshold
    else
      let (items, threshold) := mergeRuns lt y.items x.items threshold
      collapse lt (⟨items, y.power⟩ :: z :: rest) threshold
termination_by runs => runs.length

/-- Cut a list into runs and put them onto a pile, at most a given number of them. -/
def fill (lt : α → α → Bool) (n : Nat) : Nat → List α → Pile α → Pile α
  | 0, _, p => p
  | count + 1, xs, p =>
    if xs.isEmpty then p
    else
      let (run, rest) := runOf lt (runSize n) xs
      fill lt n count rest (p.push lt n run)

end Pile

/-- Sort a list by merging its runs. -/
def runSort (lt : α → α → Bool) (xs : List α) : List α :=
  let p := Pile.fill lt xs.length xs.length xs {}
  Pile.collapse lt p.runs p.threshold

/-- Sort a list by merging its runs, in the opposite order and with ties in their present order. -/
def runSortDescending (lt : α → α → Bool) (xs : List α) : List α :=
  (runSort lt xs.reverse).reverse

end VoipCalls.Sorting

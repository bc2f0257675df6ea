/-!
# Stable sorting

`stableSort lt xs` is the stable sort of a list: of two elements of which neither comes before the
other, the one that is in front stays in front.  `stableSortDescending` sorts by the opposite order
and keeps ties in their present order too.
-/

namespace VoipCalls.Sorting

variable {α : Type}

/-- The stable sort of a list. -/
def stableSort (lt : α → α → Bool) (xs : List α) : List α :=
  xs.mergeSort fun a b => !lt b a

/-- The stable sort of a list by the opposite order. -/
def stableSortDescending (lt : α → α → Bool) (xs : List α) : List α :=
  xs.mergeSort fun a b => !lt a b

theorem stableSort_perm (lt : α → α → Bool) (xs : List α) : (stableSort lt xs).Perm xs :=
  List.mergeSort_perm xs _

theorem stableSortDescending_perm (lt : α → α → Bool) (xs : List α) :
    (stableSortDescending lt xs).Perm xs :=
  List.mergeSort_perm xs _

end VoipCalls.Sorting

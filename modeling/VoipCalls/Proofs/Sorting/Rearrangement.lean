import Mathlib.Data.Nat.Notation
import Mathlib.Tactic.Lemma
import VoipCalls.Sorting.Runs

/-!
# Sorting rearranges

Whatever the order is that a list is sorted by, be it one or not, sorting by runs keeps every
element and adds none (`Sorting.runSort_perm`).  It is shown along the steps of the sort: the list
is cut into runs, which are grown by insertion, and the runs are merged.  A merge moves elements
from two runs to a third list and loses none on the way, however it gallops.
-/

namespace VoipCalls.Sorting

variable {α : Type}

/-! ## Cutting off a run -/

/-- A rising run and the rest are the list. -/
lemma rising_append (lt : α → α → Bool) (x : α) (ys : List α) :
    (rising lt x ys).1 ++ (rising lt x ys).2 = x :: ys := by
  induction ys generalizing x with
  | nil => rfl
  | cons y ys ih =>
    unfold rising
    split
    · rfl
    · exact congrArg (x :: ·) (ih y)

/-- A falling run and the rest are the list. -/
lemma falling_append (lt : α → α → Bool) (x : α) (ys : List α) :
    (falling lt x ys).1 ++ (falling lt x ys).2 = x :: ys := by
  induction ys generalizing x with
  | nil => rfl
  | cons y ys ih =>
    unfold falling
    split
    · exact congrArg (x :: ·) (ih y)
    · rfl

/-- A run holds the element that it starts from. -/
lemma rising_ne_nil (lt : α → α → Bool) (x : α) (ys : List α) : (rising lt x ys).1 ≠ [] := by
  cases ys with
  | nil => exact List.cons_ne_nil _ _
  | cons y ys =>
    unfold rising
    split <;> exact List.cons_ne_nil _ _

lemma falling_ne_nil (lt : α → α → Bool) (x : α) (ys : List α) : (falling lt x ys).1 ≠ [] := by
  cases ys with
  | nil => exact List.cons_ne_nil _ _
  | cons y ys =>
    unfold falling
    split <;> exact List.cons_ne_nil _ _

/-- The first run and the rest are the elements of the list. -/
lemma firstRun_perm (lt : α → α → Bool) (xs : List α) :
    ((firstRun lt xs).1 ++ (firstRun lt xs).2).Perm xs := by
  unfold firstRun
  split
  · exact .refl _
  · exact .refl _
  · rename_i x y ys
    split
    · have hcut := falling_append lt x (y :: ys)
      calc (falling lt x (y :: ys)).1.reverse ++ (falling lt x (y :: ys)).2
          |>.Perm ((falling lt x (y :: ys)).1 ++ (falling lt x (y :: ys)).2) :=
            (List.reverse_perm _).append_right _
        _ = x :: y :: ys := hcut
    · rw [rising_append]

/-- Every list that is not empty starts with a run. -/
lemma firstRun_ne_nil (lt : α → α → Bool) {xs : List α} (h : xs ≠ []) :
    (firstRun lt xs).1 ≠ [] := by
  unfold firstRun
  split
  · exact absurd rfl h
  · exact List.cons_ne_nil _ _
  · rename_i x y ys
    split
    · exact fun hnil => falling_ne_nil lt x (y :: ys) (List.reverse_eq_nil_iff.mp hnil)
    · exact rising_ne_nil lt x (y :: ys)

/-- Inserting an element adds it. -/
lemma insert_perm (lt : α → α → Bool) (xs : List α) (x : α) : (insert lt xs x).Perm (x :: xs) := by
  unfold insert
  refine List.perm_middle.trans ?_
  rw [List.take_append_drop]

/-- Inserting some elements adds them. -/
lemma foldl_insert_perm (lt : α → α → Bool) (xs ys : List α) :
    (ys.foldl (insert lt) xs).Perm (xs ++ ys) := by
  induction ys generalizing xs with
  | nil => rw [List.append_nil]; exact .refl _
  | cons y ys ih =>
    refine (ih (insert lt xs y)).trans ?_
    exact ((insert_perm lt xs y).append_right ys).trans List.perm_middle.symm

/-- A grown run and the rest are the elements of the list. -/
lemma runOf_perm (lt : α → α → Bool) (size : ℕ) (xs : List α) :
    ((runOf lt size xs).1 ++ (runOf lt size xs).2).Perm xs := by
  have hgrown := foldl_insert_perm lt (firstRun lt xs).1
    ((firstRun lt xs).2.take (size - (firstRun lt xs).1.length))
  have hrest : (runOf lt size xs).2 =
      (firstRun lt xs).2.drop (size - (firstRun lt xs).1.length) := rfl
  refine (hgrown.append_right _).trans ?_
  rw [hrest, List.append_assoc, List.take_append_drop]
  exact firstRun_perm lt xs

/-- A grown run is not empty. -/
lemma runOf_ne_nil (lt : α → α → Bool) (size : ℕ) {xs : List α} (h : xs ≠ []) :
    (runOf lt size xs).1 ≠ [] := by
  intro hnil
  have hgrown := foldl_insert_perm lt (firstRun lt xs).1
    ((firstRun lt xs).2.take (size - (firstRun lt xs).1.length))
  change ((runOf lt size xs).1).Perm _ at hgrown
  rw [hnil] at hgrown
  exact firstRun_ne_nil lt h (List.append_eq_nil_iff.mp hgrown.nil_eq.symm).1

/-! ## Merging two runs -/

namespace Merge

variable {c : Contest α} {m : Merge α}

/-- Moving elements from the first run keeps the result, for the first run comes first in it. -/
lemma result_moveFirst (k : ℕ) (m : Merge α) : (m.moveFirst k).result = m.result := by
  simp [result, moveFirst]

/-- Moving elements from the second run rearranges the result. -/
lemma result_moveSecond (k : ℕ) (m : Merge α) : (m.moveSecond k).result.Perm m.result := by
  have hmoved : (m.moveSecond k).result =
      m.done.reverse ++ (m.second.take k ++ (m.first ++ m.second.drop k)) := by
    simp [result, moveSecond]
  have hresult : m.result =
      m.done.reverse ++ (m.first ++ (m.second.take k ++ m.second.drop k)) := by
    simp [result]
  rw [hmoved, hresult]
  refine List.Perm.append_left _ ?_
  rw [← List.append_assoc, ← List.append_assoc]
  exact List.perm_append_comm.append_right _

/-- Merging pair by pair rearranges the result. -/
lemma result_pairwise (c : Contest α) (fuel firstWins secondWins : ℕ) (m : Merge α) :
    (pairwise c fuel firstWins secondWins m).result.Perm m.result := by
  induction fuel generalizing firstWins secondWins m with
  | zero => exact .refl _
  | succ fuel ih =>
    unfold pairwise
    split
    · split
      · have hmoved := result_moveFirst 1 m
        dsimp only
        split
        · rw [hmoved]
        · rw [← hmoved]
          exact ih _ _ _
      · have hmoved := result_moveSecond 1 m
        dsimp only
        split
        · exact hmoved
        · exact (ih _ _ _).trans hmoved
    · exact .refl _

/-- A gallop in the first run rearranges the result. -/
lemma result_gallopFirst (c : Contest α) (m : Merge α) :
    (gallopFirst c m).2.result.Perm m.result := by
  unfold gallopFirst
  split
  · exact .refl _
  · dsimp only
    split
    · rw [result_moveFirst]
    · refine (result_moveSecond _ _).trans ?_
      rw [result_moveFirst]

/-- A gallop in the second run rearranges the result. -/
lemma result_gallopSecond (c : Contest α) (m : Merge α) :
    (gallopSecond c m).2.result.Perm m.result := by
  unfold gallopSecond
  split
  · exact .refl _
  · dsimp only
    split
    · exact result_moveSecond _ _
    · rw [result_moveFirst]
      exact result_moveSecond _ _

/-- A round of galloping rearranges the result. -/
lemma result_gallopBoth (c : Contest α) (m : Merge α) :
    (gallopBoth c m).2.result.Perm m.result := by
  unfold gallopBoth
  cases c.turned with
  | true =>
    simp only [if_true]
    split
    · exact result_gallopFirst c m
    · exact (result_gallopSecond c _).trans (result_gallopFirst c m)
  | false =>
    simp only [Bool.false_eq_true, if_false]
    split
    · exact result_gallopSecond c m
    · exact (result_gallopFirst c _).trans (result_gallopSecond c m)

/-- Galloping as long as it pays rearranges the result. -/
lemma result_galloping (c : Contest α) (fuel : ℕ) (m : Merge α) :
    (galloping c fuel m).result.Perm m.result := by
  induction fuel generalizing m with
  | zero => exact .refl _
  | succ fuel ih =>
    have hround := result_gallopBoth c { m with threshold := max 1 (m.threshold - 1) }
    unfold galloping
    dsimp only
    split
    · exact hround
    · split
      · exact (ih _).trans hround
      · exact hround

/-- Merging in both ways in turn rearranges the result. -/
lemma result_inTurn (c : Contest α) (fuel : ℕ) (m : Merge α) :
    (inTurn c fuel m).result.Perm m.result := by
  induction fuel generalizing m with
  | zero => exact .refl _
  | succ fuel ih =>
    have hpairs := result_pairwise c (m.first.length + m.second.length) 0 0 m
    unfold inTurn
    dsimp only
    split
    · exact .refl _
    · split
      · exact hpairs
      · exact (ih _).trans ((result_galloping c _ _).trans hpairs)

end Merge

/-- A merge keeps the elements of both runs. -/
lemma mergeFrom_perm (c : Contest α) (first second : List α) (threshold : ℕ) :
    (mergeFrom c first second threshold).1.Perm (first ++ second) := by
  refine (Merge.result_inTurn c _ _).trans ?_
  rw [Merge.result_moveFirst]
  exact .refl _

/-- Merging two neighbouring runs keeps the elements of both. -/
lemma mergeRuns_perm (lt : α → α → Bool) (a b : List α) (threshold : ℕ) :
    (mergeRuns lt a b threshold).1.Perm (a ++ b) := by
  unfold mergeRuns
  generalize (b.head?.map fun y => boundary false (fun x => !lt y x) a).getD 0 = front
  dsimp only
  generalize ((a.drop front).getLast?.map fun x =>
    boundary true (fun y => !lt y x) b.reverse).getD 0 = back
  -- what stands at the outer ends is left there, and only the middle is merged
  have houter : ∀ {middle : List α},
      middle.Perm (a.drop front ++ b.take (b.length - back)) →
      (a.take front ++ middle ++ b.drop (b.length - back)).Perm (a ++ b) := by
    intro middle hmiddle
    calc (a.take front ++ middle ++ b.drop (b.length - back))
        |>.Perm (a.take front ++ (a.drop front ++ b.take (b.length - back)) ++
            b.drop (b.length - back)) := (hmiddle.append_left _).append_right _
      _ = a ++ b := by
        rw [← List.append_assoc, List.take_append_drop, List.append_assoc, List.take_append_drop]
  split
  · exact .refl _
  · split
    · exact houter ((mergeFrom_perm _ _ _ _).trans List.perm_append_comm)
    · refine houter ((List.reverse_perm _).trans ?_)
      exact (mergeFrom_perm _ _ _ _).trans
        ((List.reverse_perm _).append (List.reverse_perm _))

/-! ## The pile of runs -/

namespace Pile

/-- The elements of the runs on a pile. -/
def elements (runs : List (Run α)) : List α :=
  (runs.map (·.items)).flatten

/-- Merging two runs of a pile keeps the elements. -/
lemma elements_merge (lt : α → α → Bool) (x y : Run α) (rest : List (Run α))
    (threshold power : ℕ) :
    (elements (⟨(mergeRuns lt y.items x.items threshold).1, power⟩ :: rest)).Perm
      (elements (x :: y :: rest)) := by
  have hmerged := (mergeRuns_perm lt y.items x.items threshold).trans List.perm_append_comm
  have hparts : elements (x :: y :: rest) = x.items ++ y.items ++ elements rest := by
    simp [elements]
  rw [hparts]
  exact hmerged.append_right _

/-- Settling keeps the elements. -/
lemma elements_settle (lt : α → α → Bool) (power : ℕ) (runs : List (Run α)) (threshold : ℕ) :
    (elements (settle lt power runs threshold).runs).Perm (elements runs) := by
  fun_induction settle lt power runs threshold with
  | case1 | case2 => exact .refl _
  | case3 x y rest threshold hpower items threshold' hmerge ih =>
    have hitems : items = (mergeRuns lt y.items x.items threshold).1 := by rw [hmerge]
    subst hitems
    exact ih.trans (elements_merge lt x y rest threshold y.power)
  | case4 => exact .refl _

/-- Putting a run onto a pile adds its elements. -/
lemma elements_push (lt : α → α → Bool) (n : ℕ) (p : Pile α) (run : List α) :
    (elements (p.push lt n run).runs).Perm (elements p.runs ++ run) := by
  unfold push
  cases hp : p.runs with
  | nil => simp [elements]
  | cons x rest =>
    dsimp only
    generalize power n _ x.items.length run.length = boundary
    have hsettled := elements_settle lt boundary (x :: rest) p.threshold
    cases hs : (settle lt boundary (x :: rest) p.threshold).runs with
    | nil =>
      rw [hs] at hsettled
      rw [← hsettled.nil_eq]
      simp [elements]
    | cons y rest' =>
      rw [hs] at hsettled
      have hrun : elements (⟨run, 0⟩ :: { y with power := boundary } :: rest') =
          run ++ elements (y :: rest') := by simp [elements]
      rw [hrun]
      exact List.perm_append_comm.trans (hsettled.append_right run)

/-- Merging all runs keeps the elements. -/
lemma collapse_perm (lt : α → α → Bool) (runs : List (Run α)) (threshold : ℕ) :
    (collapse lt runs threshold).Perm (elements runs) := by
  fun_induction collapse lt runs threshold with
  | case1 => exact .refl _
  | case2 => simp [elements]
  | case3 x y threshold =>
    simpa [elements] using (mergeRuns_perm lt y.items x.items threshold).trans List.perm_append_comm
  | case4 x y z rest threshold hshort items threshold' hmerge ih =>
    have hitems : items = (mergeRuns lt z.items y.items threshold).1 := by rw [hmerge]
    subst hitems
    have hbehind := elements_merge lt y z rest threshold z.power
    exact ih.trans (hbehind.append_left x.items)
  | case5 x y z rest threshold hshort items threshold' hmerge ih =>
    have hitems : items = (mergeRuns lt y.items x.items threshold).1 := by rw [hmerge]
    subst hitems
    exact ih.trans (elements_merge lt x y (z :: rest) threshold y.power)

/-- Cutting a list into runs keeps its elements, if there may be as many runs as elements. -/
lemma elements_fill (lt : α → α → Bool) (n count : ℕ) (xs : List α) (p : Pile α)
    (hcount : xs.length ≤ count) :
    (elements (fill lt n count xs p).runs).Perm (elements p.runs ++ xs) := by
  induction count generalizing xs p with
  | zero =>
    obtain rfl := List.length_eq_zero_iff.mp (Nat.le_zero.mp hcount)
    simp [fill]
  | succ count ih =>
    unfold fill
    split
    · rename_i hempty
      rw [List.isEmpty_iff.mp hempty, List.append_nil]
    · rename_i hne
      have hcut := runOf_perm lt (runSize n) xs
      have hrun := runOf_ne_nil lt (runSize n) fun hnil => hne (List.isEmpty_iff.mpr hnil)
      generalize runOf lt (runSize n) xs = cut at hcut hrun ⊢
      obtain ⟨run, rest⟩ := cut
      have hlength : run.length + rest.length = xs.length :=
        List.length_append.symm.trans hcut.length_eq
      have hpos : 0 < run.length := List.length_pos_iff.mpr hrun
      refine (ih rest (p.push lt n run) (by omega)).trans ?_
      refine ((elements_push lt n p run).append_right rest).trans ?_
      rw [List.append_assoc]
      exact hcut.append_left _

end Pile

/-! ## Sorting by runs -/

/-- Sorting by runs keeps every element and adds none, whatever the order. -/
theorem runSort_perm (lt : α → α → Bool) (xs : List α) : (runSort lt xs).Perm xs := by
  refine (Pile.collapse_perm lt _ _).trans ?_
  exact Pile.elements_fill lt xs.length xs.length xs {} (Nat.le_refl _)

/-- So does sorting by runs in the opposite order. -/
theorem runSortDescending_perm (lt : α → α → Bool) (xs : List α) :
    (runSortDescending lt xs).Perm xs :=
  (List.reverse_perm _).trans ((runSort_perm lt xs.reverse).trans (List.reverse_perm xs))

end VoipCalls.Sorting

import Mathlib.Data.List.Basic
import Mathlib.Tactic.Lemma
import VoipCalls.Sorting.Stable

/-!
# What a stable sort does to an order

A sort by a comparison brings the elements into its order, and a stable sort leaves those that tie
as they stand (`filter_stableSort`).  So if a list was in some order before, then behind the sort
two elements are in the order of the comparison, and where the comparison does not decide, in the
order from before (`pairwise_stableSort`).  To sort once more in the same way changes nothing
(`stableSort_stableSort`).

Nothing else has a part in the result: a list in the order of the comparison is told by the elements
that tie, as they stand in it (`eq_of_pairwise_of_ties`), so that lists in which those stand alike
are sorted alike (`stableSort_eq_of_ties`).
-/

namespace VoipCalls

/-- If two members of a list do not stand in the one order, they stand in the other. -/
lemma sublist_of_pairwise {α : Type} {R : α → α → Prop} {xs : List α} {x y : α}
    (h : xs.Pairwise R) (hx : x ∈ xs) (hy : y ∈ xs) (hne : x ≠ y) (hyx : ¬ R y x) :
    [x, y].Sublist xs := by
  induction h with
  | nil => exact absurd hx List.not_mem_nil
  | cons hhead _ ih =>
    rcases List.mem_cons.mp hx with rfl | hx'
    · have hbehind := List.mem_of_ne_of_mem (Ne.symm hne) hy
      exact (List.singleton_sublist.mpr hbehind).cons_cons x
    · rcases List.mem_cons.mp hy with rfl | hy
      · exact absurd (hhead x hx') hyx
      · exact (ih hx' hy).cons _

/-- In a list that stands in an order which is never mutual, one member stands before another
exactly if the order says so. -/
lemma sublist_iff_of_pairwise {α : Type} {R : α → α → Prop} {xs : List α} {x y : α}
    (h : xs.Pairwise R) (hx : x ∈ xs) (hy : y ∈ xs) (hasymm : R x y → ¬ R y x) :
    [x, y].Sublist xs ↔ R x y := by
  constructor
  · exact List.pairwise_iff_forall_sublist.mp h
  · intro hxy
    have hne : x ≠ y := by
      rintro rfl
      exact hasymm hxy hxy
    exact sublist_of_pairwise h hx hy hne (hasymm hxy)

/-- What is compared by a part of it is compared like the parts. -/
lemma transCmp_comap {α β : Type} (cmp : β → β → Ordering) [Std.TransCmp cmp] (part : α → β) :
    Std.TransCmp fun a b => cmp (part a) (part b) where
  eq_swap := Std.OrientedCmp.eq_swap
  isLE_trans := Std.TransCmp.isLE_trans

namespace Sorting

variable {α : Type} {xs : List α}

/-- A sort looks at nothing but the elements that it is given. -/
lemma stableSort_congr {lt lt' : α → α → Bool} (h : ∀ a ∈ xs, ∀ b ∈ xs, lt a b = lt' a b) :
    stableSort lt xs = stableSort lt' xs := by
  have hmap : (xs.mergeSort fun a b => !lt b a).map id =
      (xs.map id).mergeSort fun a b => !lt' b a := by
    apply List.map_mergeSort
    intro a ha b hb
    rw [h b hb a ha]
    rfl
  rwa [List.map_id, List.map_id] at hmap

/-- A descending sort is the sort by the opposite order. -/
lemma stableSortDescending_eq (lt : α → α → Bool) (xs : List α) :
    stableSortDescending lt xs = stableSort (fun a b => lt b a) xs :=
  rfl

section Comparison

variable (cmp : α → α → Ordering) [Std.TransCmp cmp]

/-- The order by which elements are merged is that of the comparison, ties included. -/
lemma not_lt_eq_isLE (a b : α) : (!(cmp b a == .lt)) = (cmp a b).isLE := by
  have hswap : cmp b a = (cmp a b).swap := Std.OrientedCmp.eq_swap
  rw [hswap]
  cases cmp a b <;> rfl

/-- The order by which elements are merged is transitive. -/
lemma isLE_trans (a b c : α) (hab : (!(cmp b a == .lt)) = true) (hbc : (!(cmp c b == .lt)) = true) :
    (!(cmp c a == .lt)) = true := by
  rw [not_lt_eq_isLE] at hab hbc ⊢
  exact Std.TransCmp.isLE_trans hab hbc

/-- It relates any two elements. -/
lemma isLE_total (a b : α) : ((!(cmp b a == .lt)) || !(cmp a b == .lt)) = true := by
  rw [not_lt_eq_isLE, not_lt_eq_isLE]
  have hswap : cmp b a = (cmp a b).swap := Std.OrientedCmp.eq_swap
  rw [hswap]
  cases cmp a b <;> rfl

/-- The elements that tie with an element stand in a sorted list as they stood before. -/
theorem filter_stableSort (a : α) (xs : List α) :
    (stableSort (fun b c => cmp b c == .lt) xs).filter (fun b => cmp a b == .eq) =
      xs.filter fun b => cmp a b == .eq := by
  have hties : (xs.filter fun b => cmp a b == .eq).Pairwise fun b c =>
      (!(cmp c b == .lt)) = true := by
    refine List.pairwise_of_forall_mem_list fun b hb c hc => ?_
    have hab : cmp a b = .eq := by simpa using (List.mem_filter.mp hb).2
    have hac : cmp a c = .eq := by simpa using (List.mem_filter.mp hc).2
    have hcb : cmp c b = .eq := by
      rw [← Std.TransCmp.congr_left hac]
      exact hab
    rw [hcb]
    rfl
  have hsublist : (xs.filter fun b => cmp a b == .eq).Sublist
      (stableSort (fun b c => cmp b c == .lt) xs) :=
    List.sublist_mergeSort (isLE_trans cmp) (isLE_total cmp) hties List.filter_sublist
  have hfiltered := hsublist.filter fun b => cmp a b == .eq
  rw [List.filter_filter] at hfiltered
  simp only [Bool.and_self] at hfiltered
  refine (hfiltered.eq_of_length ?_).symm
  exact (((stableSort_perm _ xs).filter _).length_eq).symm

/-- Behind a stable sort two elements stand in the order of the comparison, and if they tie, in the
order that they stood in before. -/
theorem pairwise_stableSort {earlier : α → α → Prop} (h : xs.Pairwise earlier) :
    (stableSort (fun a b => cmp a b == .lt) xs).Pairwise fun a b =>
      cmp a b = .lt ∨ (cmp a b = .eq ∧ earlier a b) := by
  have hsorted : (stableSort (fun a b => cmp a b == .lt) xs).Pairwise fun a b =>
      (!(cmp b a == .lt)) = true :=
    List.pairwise_mergeSort (isLE_trans cmp) (isLE_total cmp) xs
  rw [List.pairwise_iff_forall_sublist] at hsorted h ⊢
  intro a b hab
  have hle := hsorted hab
  rw [not_lt_eq_isLE] at hle
  cases hcmp : cmp a b with
  | lt => exact Or.inl rfl
  | gt =>
    rw [hcmp] at hle
    cases hle
  | eq =>
    refine Or.inr ⟨rfl, h ?_⟩
    have hself : cmp a a = .eq := Std.ReflCmp.compare_self
    have hties := hab.filter fun c => cmp a c == .eq
    rw [filter_stableSort] at hties
    have hboth : [a, b].filter (fun c => cmp a c == .eq) = [a, b] := by simp [hself, hcmp]
    rw [hboth] at hties
    exact hties.trans List.filter_sublist

/-- A list that was sorted stays as it is when it is sorted in the same way again. -/
theorem stableSort_stableSort (xs : List α) :
    stableSort (fun a b => cmp a b == .lt) (stableSort (fun a b => cmp a b == .lt) xs) =
      stableSort (fun a b => cmp a b == .lt) xs :=
  List.mergeSort_of_pairwise (List.pairwise_mergeSort (isLE_trans cmp) (isLE_total cmp) xs)

/-- A list in the order of a comparison is told by the elements that tie, as they stand in it. -/
theorem eq_of_pairwise_of_ties {xs ys : List α} (hxs : xs.Pairwise fun a b => (cmp a b).isLE = true)
    (hys : ys.Pairwise fun a b => (cmp a b).isLE = true)
    (hties : ∀ a, xs.filter (fun b => cmp a b == .eq) = ys.filter fun b => cmp a b == .eq) :
    xs = ys := by
  have hself : ∀ a, cmp a a = .eq := fun a => Std.ReflCmp.compare_self
  induction xs generalizing ys with
  | nil =>
    cases ys with
    | nil => rfl
    | cons b ys =>
      have hb := hties b
      simp [hself b] at hb
  | cons a xs ih =>
    cases ys with
    | nil =>
      have ha := hties a
      simp [hself a] at ha
    | cons b ys =>
      obtain ⟨hfirst, hrest⟩ := List.pairwise_cons.mp hxs
      obtain ⟨hfirst', hrest'⟩ := List.pairwise_cons.mp hys
      have hle : ∀ {c d : α} {cs : List α}, (∀ e ∈ cs, (cmp c e).isLE = true) → d ∈ c :: cs →
          (cmp c d).isLE = true := by
        intro c d cs hcs hd
        rcases List.mem_cons.mp hd with rfl | hd
        · exact Std.ReflCmp.isLE_rfl
        · exact hcs d hd
      have hmem : ∀ {c : α}, c ∈ a :: xs ↔ c ∈ b :: ys := by
        intro c
        have hc := congrArg (c ∈ ·) (hties c)
        simpa [List.mem_filter, hself c] using hc
      -- each of the two heads stands before the other, so that they tie
      have hab : cmp a b = .eq := by
        have hle₁ := hle hfirst (hmem.mpr List.mem_cons_self)
        have hle₂ := hle hfirst' (hmem.mp List.mem_cons_self)
        exact Std.OrientedCmp.isLE_antisymm hle₁ hle₂
      have hheads := hties a
      simp only [List.filter_cons, hself a, hab, beq_self_eq_true, if_true] at hheads
      obtain rfl := (List.cons.inj hheads).1
      refine congrArg (a :: ·) (ih hrest hrest' ?_)
      intro c
      have hc := hties c
      rw [List.filter_cons, List.filter_cons] at hc
      split at hc
      · exact (List.cons.inj hc).2
      · exact hc

/-- Lists in which those that tie stand alike are sorted alike. -/
theorem stableSort_eq_of_ties {xs ys : List α}
    (hties : ∀ a, xs.filter (fun b => cmp a b == .eq) = ys.filter fun b => cmp a b == .eq) :
    stableSort (fun a b => cmp a b == .lt) xs = stableSort (fun a b => cmp a b == .lt) ys := by
  have hsorted : ∀ zs : List α, (stableSort (fun a b => cmp a b == .lt) zs).Pairwise
      fun a b => (cmp a b).isLE = true := by
    intro zs
    have hpairs : (stableSort (fun a b => cmp a b == .lt) zs).Pairwise fun a b =>
        (!(cmp b a == .lt)) = true :=
      List.pairwise_mergeSort (isLE_trans cmp) (isLE_total cmp) zs
    refine hpairs.imp ?_
    intro a b hle
    rwa [not_lt_eq_isLE] at hle
  refine eq_of_pairwise_of_ties cmp (hsorted xs) (hsorted ys) ?_
  intro a
  rw [filter_stableSort, filter_stableSort]
  exact hties a

end Comparison

end Sorting

end VoipCalls

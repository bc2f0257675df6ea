import Mathlib.Data.List.Induction
import VoipCalls.Proofs.Sorting.Stability

/-!
# One sort after another

A list may be sorted by one comparison after another (`Sorting.sortAll`).  As every sort is stable,
the latest comparison that tells two elements apart decides how they stand in the end
(`Sorting.latest`), and elements that none tells apart stand as they stood in the beginning.

An element may be in a list more than once, and then it makes sense only of its places to say that
one stands before the other.  So the outcome is told by the places that its elements had in the
beginning, in `Sorting.exists_places`.
-/

namespace VoipCalls.Sorting

variable {α β : Type} {cmps : List (α → α → Ordering)} {xs : List α} {a b : α}

/-- A list sorted by one comparison after another. -/
def sortAll (cmps : List (α → α → Ordering)) (xs : List α) : List α :=
  cmps.foldl (fun xs cmp => stableSort (fun a b => cmp a b == .lt) xs) xs

/-- What is said of two elements by the latest of some comparisons that tells them apart. -/
def latest (cmps : List (α → α → Ordering)) (a b : α) : Ordering :=
  cmps.foldl (fun before cmp => (cmp a b).then before) .eq

/-! ## The latest comparison that decides -/

lemma latest_concat (cmps : List (α → α → Ordering)) (cmp : α → α → Ordering) (a b : α) :
    latest (cmps ++ [cmp]) a b = (cmp a b).then (latest cmps a b) := by
  unfold latest
  rw [List.foldl_append]
  rfl

/-- Two elements are not told apart if every comparison says that they tie. -/
lemma latest_eq_eq_iff : latest cmps a b = .eq ↔ ∀ cmp ∈ cmps, cmp a b = .eq := by
  induction cmps using List.reverseRecOn with
  | nil => exact ⟨fun _ cmp hcmp => absurd hcmp List.not_mem_nil, fun _ => rfl⟩
  | append_singleton cmps cmp ih =>
    rw [latest_concat, Ordering.then_eq_eq, ih, List.forall_mem_append, List.forall_mem_singleton,
      and_comm]

/-- One element is put before another by a comparison behind which all others say that they tie. -/
lemma latest_eq_lt_iff : latest cmps a b = .lt ↔ ∃ earlier cmp later,
    cmps = earlier ++ cmp :: later ∧ cmp a b = .lt ∧ ∀ cmp' ∈ later, cmp' a b = .eq := by
  induction cmps using List.reverseRecOn with
  | nil => simp [latest]
  | append_singleton cmps cmp ih =>
    rw [latest_concat, Ordering.then_eq_lt, ih]
    constructor
    · rintro (hlt | ⟨htie, earlier, cmp', later, rfl, hlt, hlater⟩)
      · exact ⟨cmps, cmp, [], rfl, hlt, fun _ hin => absurd hin List.not_mem_nil⟩
      · refine ⟨earlier, cmp', later ++ [cmp], by simp, hlt, ?_⟩
        exact List.forall_mem_append.mpr ⟨hlater, List.forall_mem_singleton.mpr htie⟩
    · rintro ⟨earlier, cmp', later, hcmps, hlt, hlater⟩
      -- the comparison that decides is the last one, or it stands before it
      rcases List.eq_nil_or_concat later with rfl | ⟨front, last, rfl⟩
      · obtain ⟨-, hlast⟩ := List.append_inj' hcmps rfl
        obtain rfl : cmp = cmp' := List.singleton_inj.mp hlast
        exact Or.inl hlt
      · rw [List.concat_eq_append, ← List.cons_append, ← List.append_assoc] at hcmps
        obtain ⟨rfl, hlast⟩ := List.append_inj' hcmps rfl
        obtain rfl : cmp = last := List.singleton_inj.mp hlast
        rw [List.concat_eq_append, List.forall_mem_append, List.forall_mem_singleton] at hlater
        exact Or.inr ⟨hlater.2, earlier, cmp', front, rfl, hlt, hlater.1⟩

/-- Comparisons that change their signs say of two elements the other way round what they say of
them. -/
lemma latest_swap (hcmps : ∀ cmp ∈ cmps, Std.OrientedCmp cmp) (a b : α) :
    latest cmps b a = (latest cmps a b).swap := by
  induction cmps using List.reverseRecOn with
  | nil => rfl
  | append_singleton cmps cmp ih =>
    rw [List.forall_mem_append, List.forall_mem_singleton] at hcmps
    obtain ⟨hfront, hlast⟩ := hcmps
    have hswap : cmp b a = (cmp a b).swap := Std.OrientedCmp.eq_swap
    rw [latest_concat, latest_concat, ih hfront, hswap, Ordering.swap_then]

/-! ## The sorted list -/

/-- Sorting rearranges a list, however often it is sorted. -/
lemma sortAll_perm (cmps : List (α → α → Ordering)) (xs : List α) : (sortAll cmps xs).Perm xs := by
  induction cmps generalizing xs with
  | nil => exact .refl xs
  | cons cmp cmps ih => exact (ih _).trans (stableSort_perm _ xs)

/-- Elements that are compared by a part of them are sorted like the parts. -/
lemma map_sortAll (part : β → α) (cmps : List (α → α → Ordering)) (ys : List β) :
    (sortAll (cmps.map fun cmp x y => cmp (part x) (part y)) ys).map part =
      sortAll cmps (ys.map part) := by
  induction cmps generalizing ys with
  | nil => rfl
  | cons cmp cmps ih =>
    have hfirst : (stableSort (fun x y => cmp (part x) (part y) == .lt) ys).map part =
        stableSort (fun a b => cmp a b == .lt) (ys.map part) :=
      List.map_mergeSort fun _ _ _ _ => rfl
    change (sortAll _ (stableSort _ ys)).map part = sortAll cmps (stableSort _ (ys.map part))
    rw [ih, hfirst]

/-- In the end two elements stand as the latest comparison that tells them apart says, and if none
does, as they stood in the beginning. -/
theorem pairwise_sortAll (hcmps : ∀ cmp ∈ cmps, Std.TransCmp cmp) {earlier : α → α → Prop}
    (h : xs.Pairwise earlier) :
    (sortAll cmps xs).Pairwise fun a b =>
      latest cmps a b = .lt ∨ (latest cmps a b = .eq ∧ earlier a b) := by
  induction cmps using List.reverseRecOn with
  | nil => exact h.imp fun hab => Or.inr ⟨rfl, hab⟩
  | append_singleton cmps cmp ih =>
    rw [List.forall_mem_append, List.forall_mem_singleton] at hcmps
    obtain ⟨hfront, hlast⟩ := hcmps
    have hsorted := pairwise_stableSort cmp (ih hfront)
    have hstep : sortAll (cmps ++ [cmp]) xs =
        stableSort (fun a b => cmp a b == .lt) (sortAll cmps xs) := List.foldl_append
    rw [hstep]
    refine hsorted.imp fun {a b} hab => ?_
    rw [latest_concat]
    rcases hab with hlt | ⟨htie, hbefore⟩
    · rw [hlt]
      exact Or.inl rfl
    · rw [htie]
      exact hbefore

/-! ## The places of the elements -/

/-- Whether the element at a place goes before the element at another one: the latest comparison
that tells them apart puts it there, or none tells them apart and it stood before the other in the
beginning. -/
def GoesBefore (cmps : List (α → α → Ordering)) (xs : List α) (i j : ℕ) : Prop :=
  ∃ a b, xs[i]? = some a ∧ xs[j]? = some b ∧
    (latest cmps a b = .lt ∨ (latest cmps a b = .eq ∧ i < j))

/-- Of two places at most one goes before the other. -/
lemma GoesBefore.asymm (hcmps : ∀ cmp ∈ cmps, Std.TransCmp cmp) {i j : ℕ}
    (hij : GoesBefore cmps xs i j) : ¬ GoesBefore cmps xs j i := by
  rintro ⟨b', a', hb', ha', hba⟩
  obtain ⟨a, b, ha, hb, hab⟩ := hij
  obtain rfl : a = a' := Option.some_inj.mp (ha.symm.trans ha')
  obtain rfl : b = b' := Option.some_inj.mp (hb.symm.trans hb')
  have hswap : latest cmps b a = (latest cmps a b).swap := by
    refine latest_swap (fun cmp hcmp => ?_) a b
    have htrans := hcmps cmp hcmp
    infer_instance
  rw [hswap] at hba
  rcases hab with hlt | ⟨htie, hij⟩
  · rw [hlt] at hba
    rcases hba with hgt | ⟨hgt, -⟩ <;> cases hgt
  · rw [htie] at hba
    rcases hba with heq | ⟨-, hji⟩
    · cases heq
    · exact absurd hji (Nat.lt_asymm hij)

/-- The elements may be sorted together with their places. -/
lemma pairwise_zipIdx_sortAll (hcmps : ∀ cmp ∈ cmps, Std.TransCmp cmp) (xs : List α) :
    (sortAll (cmps.map fun cmp x y => cmp x.1 y.1) xs.zipIdx).Pairwise
      fun x y => latest cmps x.1 y.1 = .lt ∨ (latest cmps x.1 y.1 = .eq ∧ x.2 < y.2) := by
  have hrising : xs.zipIdx.Pairwise fun x y : α × ℕ => x.2 < y.2 := by
    rw [← List.pairwise_map, List.zipIdx_map_snd]
    exact List.pairwise_lt_range'
  have htransitive : ∀ cmp ∈ cmps.map fun cmp (x y : α × ℕ) => cmp x.1 y.1,
      Std.TransCmp cmp := by
    intro cmp' hcmp'
    obtain ⟨cmp, hcmp, rfl⟩ := List.mem_map.mp hcmp'
    have htrans := hcmps cmp hcmp
    exact transCmp_comap cmp Prod.fst
  have hsorted := pairwise_sortAll htransitive hrising
  unfold latest at hsorted
  simp only [List.foldl_map] at hsorted
  exact hsorted

/-- After one sort behind another the elements stand at places that are told by the places from
before. -/
theorem exists_places (hcmps : ∀ cmp ∈ cmps, Std.TransCmp cmp) (xs : List α) :
    ∃ places : List ℕ, places.Perm (List.range xs.length) ∧
      sortAll cmps xs = places.filterMap (fun i => xs[i]?) ∧
      ∀ i j, [i, j].Sublist places ↔ GoesBefore cmps xs i j := by
  obtain ⟨tagged, htagged⟩ : ∃ tagged : List (α × ℕ),
      tagged = sortAll (cmps.map fun cmp x y => cmp x.1 y.1) xs.zipIdx := ⟨_, rfl⟩
  have hsorted := pairwise_zipIdx_sortAll hcmps xs
  have hperm := sortAll_perm (cmps.map fun cmp (x y : α × ℕ) => cmp x.1 y.1) xs.zipIdx
  have hresult := map_sortAll Prod.fst cmps xs.zipIdx
  rw [← htagged] at hsorted hperm hresult
  rw [List.zipIdx_map_fst] at hresult
  have hplace : ∀ p ∈ tagged, xs[p.2]? = some p.1 :=
    fun p hp => List.mem_zipIdx_iff_getElem?.mp (hperm.subset hp)
  have hplaces : (tagged.map Prod.snd).Perm (List.range xs.length) := by
    have hsnd := hperm.map Prod.snd
    rwa [List.zipIdx_map_snd, ← List.range_eq_range'] at hsnd
  have horder : (tagged.map Prod.snd).Pairwise (GoesBefore cmps xs) := by
    rw [List.pairwise_map]
    refine hsorted.imp_of_mem fun {x y} hx hy hxy => ?_
    exact ⟨x.1, y.1, hplace x hx, hplace y hy, hxy⟩
  have hmem : ∀ {k : ℕ} {c : α}, xs[k]? = some c → k ∈ tagged.map Prod.snd := by
    intro k c hc
    exact hplaces.symm.subset (List.mem_range.mpr (List.getElem?_eq_some_iff.mp hc).1)
  refine ⟨tagged.map Prod.snd, hplaces, ?_, fun i j => ⟨fun hsub => ?_, fun hij => ?_⟩⟩
  · have hfst : ∀ p ∈ tagged, some p.1 = xs[p.2]? := fun p hp => (hplace p hp).symm
    rw [← hresult, List.filterMap_map, ← List.filterMap_eq_map]
    exact List.filterMap_congr hfst
  · exact List.pairwise_iff_forall_sublist.mp horder hsub
  · have ⟨a, b, ha, hb, _⟩ := hij
    exact (sublist_iff_of_pairwise horder (hmem ha) (hmem hb) (GoesBefore.asymm hcmps)).mpr hij

end VoipCalls.Sorting

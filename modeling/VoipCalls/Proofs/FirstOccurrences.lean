import Mathlib.Data.List.Induction
import Mathlib.Tactic.Lemma

/-!
# First occurrences

What `List.eraseDups` keeps of a list: the first occurrence of each element, in the order of the
list.  All proofs take the list from its end, where a new element is either dropped or appended.
-/

namespace VoipCalls

variable {α β : Type} [BEq α] [LawfulBEq α] [BEq β] [LawfulBEq β]

/-- The first occurrences in a list with one more element. -/
lemma eraseDups_concat (l : List α) (a : α) :
    (l ++ [a]).eraseDups = if a ∈ l then l.eraseDups else l.eraseDups ++ [a] := by
  have hsingle : [a].eraseDups = [a] := by rw [List.eraseDups_cons]; rfl
  rw [List.eraseDups_append]
  by_cases ha : a ∈ l <;> simp [List.removeAll, ha, hsingle]

/-- No element is kept twice. -/
lemma nodup_eraseDups (l : List α) : l.eraseDups.Nodup := by
  induction l using List.reverseRecOn with
  | nil => exact List.nodup_nil
  | append_singleton l a ih =>
    rw [eraseDups_concat]
    split
    · exact ih
    · rename_i ha
      rw [List.nodup_append]
      refine ⟨ih, List.pairwise_singleton _ _, fun b hb c hc hbc => ha ?_⟩
      rw [← List.mem_singleton.mp hc, ← hbc]
      exact List.mem_eraseDups.mp hb

/-- The place of an element among the first occurrences is the only one where it stands. -/
lemma idxOf?_eraseDups {l : List α} {a : α} {i : ℕ} :
    l.eraseDups.idxOf? a = some i ↔ l.eraseDups[i]? = some a := by
  rw [List.idxOf?_eq_some_iff, List.getElem?_eq_some_iff]
  constructor
  · rintro ⟨hi, ha, -⟩
    exact ⟨hi, ha⟩
  · rintro ⟨hi, ha⟩
    refine ⟨hi, ha, fun j hj hja => ?_⟩
    have hsame := (List.getElem?_inj (Nat.lt_trans hj hi) (nodup_eraseDups l)).mp
      (show l.eraseDups[j]? = l.eraseDups[i]? by
        rw [List.getElem?_eq_getElem hi, List.getElem?_eq_getElem (Nat.lt_trans hj hi), hja, ha])
    omega

/-- A map that is injective on a list keeps its first occurrences. -/
lemma eraseDups_map {f : α → β} {l : List α} (hf : ∀ a ∈ l, ∀ b ∈ l, f a = f b → a = b) :
    (l.map f).eraseDups = l.eraseDups.map f := by
  induction l using List.reverseRecOn with
  | nil => rfl
  | append_singleton l a ih =>
    have hmem : f a ∈ l.map f ↔ a ∈ l := by
      refine ⟨fun h => ?_, List.mem_map_of_mem⟩
      obtain ⟨b, hb, hab⟩ := List.mem_map.mp h
      rw [← hf b (List.mem_append_left _ hb) a (List.mem_append_right _ (List.mem_singleton_self a))
        hab]
      exact hb
    rw [List.map_append, List.map_singleton, eraseDups_concat, eraseDups_concat,
      ih fun b hb c hc => hf b (List.mem_append_left _ hb) c (List.mem_append_left _ hc)]
    by_cases ha : a ∈ l
    · rw [if_pos ha, if_pos (hmem.mpr ha)]
    · rw [if_neg ha, if_neg (fun h => ha (hmem.mp h)), List.map_append, List.map_singleton]

end VoipCalls

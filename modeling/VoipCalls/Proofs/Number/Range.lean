import Mathlib.Data.Nat.Notation
import Mathlib.Tactic.Lemma
import Mathlib.Tactic.SplitIfs
import VoipCalls.Number.Double

/-!
# The range of doubles

A whole number has a nearest double unless it is too large for one.  The largest double is
`2 ^ 1024 - 2 ^ 971`, and the next number of its precision would be `2 ^ 1024`.  Halfway between the
two the even neighbour wins, and that is the one that does not exist: the numbers from
`Double.tooLarge` on, which is `2 ^ 1024 - 2 ^ 970`, have no double
(`Double.ofInt?_eq_none_iff`).
-/

namespace VoipCalls

namespace Number

lemma twoTo_add (m n : ℕ) : twoTo (m + n) = twoTo m * twoTo n :=
  Nat.pow_add 2 m n

lemma twoTo_le_twoTo {m n : ℕ} (h : m ≤ n) : twoTo m ≤ twoTo n :=
  Nat.pow_le_pow_right (by decide) h

/-- A quotient is rounded down or up. -/
lemma div_le_roundDiv (n d : ℕ) : n / d ≤ roundDiv n d := by
  unfold roundDiv
  dsimp only
  split_ifs <;> omega

lemma roundDiv_le_succ (n d : ℕ) : roundDiv n d ≤ n / d + 1 := by
  unfold roundDiv
  dsimp only
  split_ifs <;> omega

/-- A quotient is rounded to an even number or beyond it exactly from half a unit below it on. -/
lemma le_roundDiv_iff {n d t : ℕ} (hd : 0 < d) (ht : 0 < t) (heven : t % 2 = 0) :
    t ≤ roundDiv n d ↔ (2 * t - 1) * d ≤ 2 * n := by
  obtain ⟨q, hq⟩ : ∃ q, n / d = q := ⟨_, rfl⟩
  obtain ⟨r, hr⟩ : ∃ r, n % d = r := ⟨_, rfl⟩
  have hn : n = d * q + r := by rw [← hq, ← hr, Nat.div_add_mod]
  have hlt : r < d := hr ▸ Nat.mod_lt n hd
  have hround : roundDiv n d =
      if 2 * r < d then q else if d < 2 * r then q + 1 else if q % 2 = 0 then q else q + 1 := by
    unfold roundDiv
    rw [hq, hr]
  rw [hround, hn]
  have hbelow : (2 * t - 1) * d + d = 2 * (t * d) := by
    rw [← Nat.succ_mul, Nat.succ_eq_add_one, show 2 * t - 1 + 1 = 2 * t by omega, Nat.mul_assoc]
  -- the quotient lies beyond the number, right below it, or further down
  rcases Nat.lt_trichotomy (q + 1) t with hq' | hq' | hq'
  · have hmul : (q + 1) * d + d ≤ t * d := by
      rw [← Nat.succ_mul]
      exact Nat.mul_le_mul_right d hq'
    rw [Nat.succ_mul, Nat.mul_comm q d] at hmul
    constructor
    · intro h
      split_ifs at h <;> omega
    · omega
  · have hmul : d * q + d = t * d := by rw [← hq', Nat.succ_mul, Nat.mul_comm]
    have hodd : q % 2 ≠ 0 := by omega
    rw [if_neg hodd]
    split_ifs <;> omega
  · have hmul : t * d ≤ d * q := by
      rw [Nat.mul_comm d q]
      exact Nat.mul_le_mul_right d (by omega)
    constructor
    · omega
    · intro _
      split_ifs <;> omega

end Number

namespace Double

open Number

/-- The least whole number that is too large for a double, which is `2 ^ 1024 - 2 ^ 970`. -/
def tooLarge : ℕ := twoTo 1024 - twoTo 970

/-- The least number that is too large, in units of half the distance of the largest doubles. -/
lemma tooLarge_eq : tooLarge = (twoTo 54 - 1) * twoTo 970 := by
  have hpow : twoTo 1024 = twoTo 54 * twoTo 970 := twoTo_add 54 970
  rw [tooLarge, hpow, Nat.sub_mul, Nat.one_mul]

/-! ## The magnitude of the nearest double -/

/-- The largest power of two below a whole number is given by its binary logarithm. -/
lemma floorLog_one {n : ℕ} (hn : n ≠ 0) : floorLog n 1 = n.log2 := by
  have hone : Nat.log2 1 = 0 := by decide
  have hle : 1 * twoTo n.log2 ≤ n := by
    rw [Nat.one_mul]
    exact Nat.log2_self_le hn
  have hexp : ((n.log2 : Int) - (0 : ℕ)) = n.log2 := by omega
  unfold floorLog
  simp only [hone, hexp, Int.natCast_nonneg, if_true, Int.natAbs_natCast, hle]

/-- The magnitude nearest to a number of at most 52 binary digits, which is exact. -/
lemma nearestMagnitude_small {n : ℕ} (hn : n ≠ 0) (hlog : n.log2 < 52) :
    nearestMagnitude n 1 =
      min ((n.log2 + 1022) * binade + n * twoTo (52 - n.log2)) infiniteMagnitude := by
  have hscale : max ((n.log2 : Int) - 52) (-1074) = (n.log2 : Int) - 52 := by omega
  have hneg : ¬ (0 : Int) ≤ (n.log2 : Int) - 52 := by omega
  have habs : ((n.log2 : Int) - 52).natAbs = 52 - n.log2 := by omega
  have hexp : ((n.log2 : Int) - 52 + 1074).natAbs = n.log2 + 1022 := by omega
  unfold nearestMagnitude
  rw [if_neg hn, floorLog_one hn]
  simp only [hscale, if_neg hneg, habs, hexp, roundDiv_one]

/-- The magnitude nearest to a number of more binary digits, which is rounded to 53 of them. -/
lemma nearestMagnitude_large {n k : ℕ} (hn : n ≠ 0) (hlog : n.log2 = 52 + k) :
    nearestMagnitude n 1 =
      min ((k + 1074) * binade + roundDiv n (twoTo k)) infiniteMagnitude := by
  have hscale : max ((n.log2 : Int) - 52) (-1074) = k := by omega
  have hpos : (0 : Int) ≤ k := by omega
  have hexp : ((k : Int) + 1074).natAbs = k + 1074 := by omega
  unfold nearestMagnitude
  rw [if_neg hn, floorLog_one hn]
  simp only [hscale, if_pos hpos, Int.natAbs_natCast, hexp, Nat.one_mul]

/-- A number of `53 + k` binary digits is rounded to 53 digits, or to the least number of 54. -/
lemma roundDiv_bounds {n k : ℕ} (hlow : twoTo (52 + k) ≤ n) (hhigh : n < twoTo (53 + k)) :
    twoTo 52 ≤ roundDiv n (twoTo k) ∧ roundDiv n (twoTo k) ≤ twoTo 53 := by
  rw [twoTo_add] at hlow hhigh
  have hleast : twoTo 52 ≤ n / twoTo k := (Nat.le_div_iff_mul_le (twoTo_pos k)).mpr hlow
  have hmost : n / twoTo k < twoTo 53 := Nat.div_lt_of_lt_mul (by rw [Nat.mul_comm]; exact hhigh)
  constructor
  · exact Nat.le_trans hleast (div_le_roundDiv n (twoTo k))
  · exact Nat.le_trans (roundDiv_le_succ n (twoTo k)) hmost

/-- The magnitude of 53 binary digits. -/
lemma twoTo_53 : twoTo 53 = 2 * binade := by
  rw [twoTo_succ, Nat.mul_comm]
  rfl

/-- A number that is small enough for its magnitude to be exact is not too large. -/
lemma nearestMagnitude_lt_small {n : ℕ} (hn : n ≠ 0) (hlog : n.log2 < 52) :
    nearestMagnitude n 1 < infiniteMagnitude := by
  have hexp : (n.log2 + 1022) * binade ≤ 1073 * binade := Nat.mul_le_mul_right _ (by omega)
  have hdigits : n * twoTo (52 - n.log2) < twoTo 53 := by
    have hlt : n < twoTo (n.log2 + 1) := Nat.lt_log2_self
    have hsplit : twoTo 53 = twoTo (n.log2 + 1) * twoTo (52 - n.log2) := by
      rw [← twoTo_add]
      congr 1
      omega
    rw [hsplit]
    exact Nat.mul_lt_mul_of_pos_right hlt (twoTo_pos _)
  have hbinade : 0 < binade := twoTo_pos 52
  rw [nearestMagnitude_small hn hlog, infiniteMagnitude]
  rw [twoTo_53] at hdigits
  omega

/-- The magnitude nearest to a number of `53 + k` binary digits is that of a number if it is less
than that of the least number of one more digit than doubles can have. -/
lemma nearestMagnitude_lt_large {n k : ℕ} (hn : n ≠ 0) (hlog : n.log2 = 52 + k) :
    nearestMagnitude n 1 < infiniteMagnitude ↔
      k ≤ 970 ∨ (k = 971 ∧ roundDiv n (twoTo k) < twoTo 53) := by
  have hlow : twoTo (52 + k) ≤ n := hlog ▸ Nat.log2_self_le hn
  have hhigh : n < twoTo (53 + k) := by
    have hlt : n < twoTo (n.log2 + 1) := Nat.lt_log2_self
    rw [hlog] at hlt
    exact Nat.lt_of_lt_of_le hlt (twoTo_le_twoTo (by omega))
  obtain ⟨hleast, hmost⟩ := roundDiv_bounds hlow hhigh
  have hbinade : 0 < binade := twoTo_pos 52
  change binade ≤ _ at hleast
  rw [twoTo_53] at hmost ⊢
  rw [nearestMagnitude_large hn hlog, infiniteMagnitude]
  rcases Nat.lt_trichotomy k 971 with hk | rfl | hk
  · have hexp : (k + 1074) * binade ≤ 2044 * binade := Nat.mul_le_mul_right _ (by omega)
    omega
  · omega
  · have hexp : 2046 * binade ≤ (k + 1074) * binade := Nat.mul_le_mul_right _ (by omega)
    omega

/-- The nearest magnitude is that of a number exactly if the number is not too large. -/
theorem nearestMagnitude_lt_iff (n : ℕ) :
    nearestMagnitude n 1 < infiniteMagnitude ↔ n < tooLarge := by
  have hdouble : twoTo 1024 = twoTo 1023 * 2 := twoTo_succ 1023
  have hhalf : twoTo 970 ≤ twoTo 1023 := twoTo_le_twoTo (by omega)
  have hpos : 0 < twoTo 970 := twoTo_pos 970
  by_cases hn : n = 0
  · subst hn
    have hzero : nearestMagnitude 0 1 = 0 := rfl
    have hinf : 0 < infiniteMagnitude := by decide
    rw [hzero, tooLarge]
    omega
  have hself : twoTo n.log2 ≤ n := Nat.log2_self_le hn
  have hnext : n < twoTo (n.log2 + 1) := Nat.lt_log2_self
  by_cases hlog : n.log2 < 52
  · have hle : twoTo (n.log2 + 1) ≤ twoTo 1023 := twoTo_le_twoTo (by omega)
    have hfinite := nearestMagnitude_lt_small hn hlog
    rw [tooLarge]
    omega
  obtain ⟨k, hk⟩ := Nat.exists_eq_add_of_le (Nat.le_of_not_lt hlog)
  rw [nearestMagnitude_lt_large hn hk]
  rcases Nat.lt_trichotomy k 971 with hlt | rfl | hgt
  · have hle : twoTo (n.log2 + 1) ≤ twoTo 1023 := twoTo_le_twoTo (by omega)
    rw [tooLarge]
    omega
  · -- at the last exponent the number is too large if it is rounded up to the next one
    have heven : twoTo 53 % 2 = 0 := by decide
    have hround := le_roundDiv_iff (n := n) (twoTo_pos 971) (twoTo_pos 53) heven
    have hdigits : twoTo 54 = 2 * twoTo 53 := (twoTo_succ 53).trans (Nat.mul_comm _ _)
    have hunits : (2 * twoTo 53 - 1) * twoTo 971 = tooLarge * 2 := by
      rw [tooLarge_eq, hdigits, Nat.mul_assoc, ← twoTo_succ]
    rw [hunits] at hround
    omega
  · have hle : twoTo 1024 ≤ twoTo n.log2 := twoTo_le_twoTo (by omega)
    rw [tooLarge]
    omega

/-! ## Whole numbers -/

/-- A magnitude up to infinity is found again. -/
lemma magnitude_ofMagnitude (negative : Bool) {m : ℕ} (hm : m ≤ infiniteMagnitude) :
    (ofMagnitude negative m).magnitude = m := by
  have hinf : infiniteMagnitude < signWeight := by decide
  have hsize : 2 * signWeight = 2 ^ 64 := rfl
  have hbits : (ofMagnitude negative m).bits.toNat = (if negative then signWeight else 0) + m := by
    unfold ofMagnitude
    rw [UInt64.toNat_ofNat']
    apply Nat.mod_eq_of_lt
    split_ifs <;> omega
  unfold magnitude
  rw [hbits]
  split_ifs
  · rw [Nat.add_mod_left]
    exact Nat.mod_eq_of_lt (by omega)
  · rw [Nat.zero_add]
    exact Nat.mod_eq_of_lt (by omega)

/-- The nearest magnitude is at most that of infinity. -/
lemma nearestMagnitude_le (n d : ℕ) : nearestMagnitude n d ≤ infiniteMagnitude := by
  unfold nearestMagnitude
  split_ifs
  · exact Nat.zero_le _
  · exact Nat.min_le_right _ _

/-- A whole number has no double exactly if its absolute value is too large for one. -/
theorem ofInt?_eq_none_iff {n : Int} : ofInt? n = none ↔ tooLarge ≤ n.natAbs := by
  have hfinite : (nearest (n < 0) n.natAbs 1).isFinite = true ↔ n.natAbs < tooLarge := by
    unfold isFinite nearest
    rw [decide_eq_true_eq, magnitude_ofMagnitude _ (nearestMagnitude_le _ _),
      nearestMagnitude_lt_iff]
  unfold ofInt?
  dsimp only
  split
  · rename_i h
    have hlt := hfinite.mp h
    simp only [reduceCtorEq, false_iff]
    omega
  · rename_i h
    have hle : ¬ n.natAbs < tooLarge := fun hlt => h (hfinite.mpr hlt)
    simp only [true_iff]
    omega

end Double

end VoipCalls

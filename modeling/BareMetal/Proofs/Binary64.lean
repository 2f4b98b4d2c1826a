import BareMetal.Binary64
import Mathlib

/-!
Natural numbers as binary64 numbers.

* `ofRatio_one`: how a natural number is scaled and rounded;
* `map_toNat_ofRatio`: **a number of at most 53 bits is held as it is**, and `ne_zero_of_toNat`: **no
  number but zero is held as zero**.
-/

namespace BareMetal

namespace Binary64

/-! ### Scaling and rounding -/

/-- A quotient without a remainder is not rounded. -/
lemma roundDiv_mul (a : ℕ) {d : ℕ} (hd : 0 < d) : roundDiv (a * d) d = a := by
  have hrem : a * d % d = 0 := Nat.mul_mod_left a d
  simp [roundDiv, hrem, Nat.mul_div_cancel a hd, hd]

/-- A rounded quotient is not below the quotient. -/
lemma le_roundDiv (a d : ℕ) : a / d ≤ roundDiv a d := by
  rw [roundDiv]
  split
  · exact le_refl _
  · exact Nat.le_succ _

lemma pow2_of_nonneg (k : ℕ) : pow2 k = (2 ^ k, 1) := by
  rw [pow2, if_pos (Int.natCast_nonneg k), Int.toNat_natCast]
  rfl

lemma pow2_of_nonpos (k : ℕ) : pow2 (-k) = (1, 2 ^ k) := by
  cases k with
  | zero => rfl
  | succ k =>
    rw [pow2, if_neg (by omega), neg_neg, Int.toNat_natCast]
    rfl

/-- A natural number is scaled by a power of two to 53 bits, and rounded. -/
lemma ofRatio_one {n : ℕ} (hn : n ≠ 0) :
    ofRatio n 1 =
      let e : ℤ := n.log2 - 52
      let m := roundDiv (n * (pow2 e).2) (pow2 e).1
      let x := if m = 2 ^ 53 then (2 ^ 52, e + 1) else (m, e)
      if x.2 > 971 then none else some ⟨false, x.1, x.2⟩ := by
  have hone : Nat.log2 1 = 0 := by decide
  have hguess : (n.log2 : ℤ) - (0 : ℕ) - 52 + 52 = n.log2 := by omega
  have hbelow : ¬ n < 2 ^ n.log2 := not_lt.mpr (Nat.log2_self_le hn)
  have hmax : max ((n.log2 : ℤ) - (0 : ℕ) - 52) (-1074) = n.log2 - 52 := by omega
  simp only [ofRatio, if_neg hn, hone, hguess, pow2_of_nonneg, one_mul, mul_one, if_neg hbelow,
    hmax]
  rfl

/-- A number of at most 53 bits is scaled without being rounded. -/
lemma ofRatio_one_of_lt {n : ℕ} (hn : n ≠ 0) (h : n < 2 ^ 53) :
    ∃ k : ℕ, ofRatio n 1 = some ⟨false, n * 2 ^ k, -k⟩ := by
  have hlog : n.log2 < 53 := (Nat.log2_lt hn).mpr h
  obtain ⟨k, hk⟩ : ∃ k, n.log2 + k = 52 := ⟨52 - n.log2, by omega⟩
  have he : (n.log2 : ℤ) - 52 = -k := by omega
  have hm : n * 2 ^ k ≠ 2 ^ 53 := by
    have hlt : n * 2 ^ k < 2 ^ (n.log2 + 1) * 2 ^ k :=
      Nat.mul_lt_mul_of_pos_right Nat.lt_log2_self (by positivity)
    have hpow : 2 ^ (n.log2 + 1) * 2 ^ k = 2 ^ 53 := by
      rw [← pow_add]
      congr 1
      omega
    omega
  refine ⟨k, ?_⟩
  rw [ofRatio_one hn, he]
  simp only [pow2_of_nonpos]
  have hround : roundDiv (n * 2 ^ k) 1 = n * 2 ^ k := by
    simpa using roundDiv_mul (n * 2 ^ k) one_pos
  rw [hround, if_neg hm, if_neg (by omega)]

/-- A number of more bits is scaled to one of 53 bits, if that is not too large. -/
lemma ofRatio_one_of_le {n : ℕ} (h : 2 ^ 53 ≤ n) :
    ofRatio n 1 = none ∨ ∃ m k : ℕ, 0 < m ∧ ofRatio n 1 = some ⟨false, m, k⟩ := by
  have hn : n ≠ 0 := by omega
  have hlog : 53 ≤ n.log2 := (Nat.le_log2 hn).mpr h
  obtain ⟨k, hk⟩ : ∃ k, n.log2 = 52 + k := ⟨n.log2 - 52, by omega⟩
  have he : (n.log2 : ℤ) - 52 = k := by omega
  have hm : 0 < roundDiv n (2 ^ k) := by
    have hpow : 2 ^ k ≤ n := by
      calc 2 ^ k ≤ 2 ^ n.log2 := Nat.pow_le_pow_right two_pos (by omega)
        _ ≤ n := Nat.log2_self_le hn
    exact lt_of_lt_of_le (Nat.div_pos hpow (by positivity)) (le_roundDiv n _)
  rw [ofRatio_one hn, he]
  simp only [pow2_of_nonneg, mul_one]
  split_ifs
  · exact Or.inl rfl
  · exact Or.inr ⟨2 ^ 52, k + 1, by positivity, rfl⟩
  · exact Or.inl rfl
  · exact Or.inr ⟨_, k, hm, rfl⟩

/-! ### Reading numbers back -/

lemma toNat_of_nonpos (m k : ℕ) : toNat ⟨false, m, -k⟩ = roundDiv m (2 ^ k) := by
  simp only [toNat, ratio, pow2_of_nonpos, mul_one]

lemma toNat_of_nonneg (m k : ℕ) : toNat ⟨false, m, k⟩ = m * 2 ^ k := by
  simp only [toNat, ratio, pow2_of_nonneg]
  simpa using roundDiv_mul (m * 2 ^ k) one_pos

/-- **A number of at most 53 bits is held as it is.** -/
lemma map_toNat_ofRatio {n : ℕ} (h : n < 2 ^ 53) : (ofRatio n 1).map toNat = some n := by
  by_cases hn : n = 0
  · rw [hn]
    rfl
  · obtain ⟨k, hk⟩ := ofRatio_one_of_lt hn h
    rw [hk, Option.map_some, toNat_of_nonpos, roundDiv_mul n (by positivity)]

/-- **No other number is held as zero.** -/
lemma ne_zero_of_toNat {n m : ℕ} (hn : n ≠ 0) (h : (ofRatio n 1).map toNat = some m) : m ≠ 0 := by
  by_cases hlt : n < 2 ^ 53
  · rw [map_toNat_ofRatio hlt] at h
    exact Option.some.inj h ▸ hn
  · rcases ofRatio_one_of_le (not_lt.mp hlt) with hnone | ⟨m', k, hm', hsome⟩
    · rw [hnone] at h
      cases h
    · rw [hsome, Option.map_some, toNat_of_nonneg] at h
      rw [← Option.some.inj h]
      positivity

end Binary64

end BareMetal

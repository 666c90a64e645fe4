import Mathlib.Algebra.BigOperators.Ring.Finset
import Mathlib.Algebra.Order.BigOperators.Group.List
import Mathlib.Algebra.Order.Ring.Abs
import Mathlib.Algebra.Order.Ring.Int
import Mathlib.Algebra.Ring.Int.Defs
import Mathlib.Data.BitVec
import Mathlib.Data.Int.Order.Basic

/-!
# Means of words

The mean of integers, cut towards 0 as in C (`exactMean`), and what a sum in `w` bits makes of it.  The sum is right
up to a multiple of `2 ^ w`, and a quotient hides no such multiple, as long as there are not too many words
(`mod_div_eq_iff`, `bmod_tdiv_eq_iff`).  So the mean of the words is exact where the sum has `w` bits, and nowhere
else (`udiv_mean_iff`, `tdiv_mean_iff`).
-/

namespace GreeIntense.Lib.Mean

/-! ### The mean of integers -/

/-- The mean, cut towards 0. -/
def exactMean (l : List ℤ) : ℤ := l.sum.tdiv l.length

theorem exactMean_natCast (l : List ℕ) : exactMean (l.map Nat.cast) = (l.sum / l.length : ℕ) := by
  rw [exactMean, ← Nat.cast_list_sum, List.length_map, Int.ofNat_tdiv]

theorem exists_le_exactMean {l : List ℤ} (h : l ≠ []) : ∃ x ∈ l, x ≤ exactMean l := by
  by_contra! hall
  have hlen : (0 : ℤ) < l.length := by exact_mod_cast List.length_pos_iff.mpr h
  have hsum : l.length • (exactMean l + 1) ≤ l.sum := List.card_nsmul_le_sum l _ fun x hx => hall x hx
  have hlt : l.sum < (exactMean l + 1) * l.length := Int.lt_tdiv_add_one_mul_self _ hlen
  rw [nsmul_eq_mul, mul_comm] at hsum
  omega

theorem exists_exactMean_le {l : List ℤ} (h : l ≠ []) : ∃ x ∈ l, exactMean l ≤ x := by
  by_contra! hall
  have hlen : (0 : ℤ) < l.length := by exact_mod_cast List.length_pos_iff.mpr h
  have hsum : l.sum ≤ l.length • (exactMean l - 1) := List.sum_le_card_nsmul l _ fun x hx => by
    have := hall x hx
    omega
  have hmod := Int.mul_tdiv_add_tmod l.sum l.length
  have hlt := Int.lt_tmod_of_pos l.sum hlen
  rw [nsmul_eq_mul, mul_sub, mul_one] at hsum
  unfold exactMean at hsum
  omega

/-! ### Sums in words -/

variable {w : ℕ}

/-- The sum of words. -/
def wordSum (l : List (BitVec w)) : BitVec w := l.foldl (fun t x => t + x) 0

theorem foldl_add_toNat (l : List (BitVec w)) (a : BitVec w) :
    (l.foldl (fun t x => t + x) a).toNat = (a.toNat + (l.map BitVec.toNat).sum) % 2 ^ w := by
  induction l generalizing a with
  | nil => simp [Nat.mod_eq_of_lt a.isLt]
  | cons x l ih =>
    rw [List.foldl_cons, ih, BitVec.toNat_add, Nat.mod_add_mod, List.map_cons, List.sum_cons, add_assoc]

theorem foldl_add_toInt (l : List (BitVec w)) (a : BitVec w) :
    (l.foldl (fun t x => t + x) a).toInt = (a.toInt + (l.map BitVec.toInt).sum).bmod (2 ^ w) := by
  induction l generalizing a with
  | nil => simp [BitVec.toInt_bmod_cancel]
  | cons x l ih =>
    rw [List.foldl_cons, ih, BitVec.toInt_add, Int.bmod_add_bmod, List.map_cons, List.sum_cons, add_assoc]

theorem wordSum_toNat (l : List (BitVec w)) : (wordSum l).toNat = (l.map BitVec.toNat).sum % 2 ^ w := by
  simp [wordSum, foldl_add_toNat]

theorem wordSum_toInt (l : List (BitVec w)) : (wordSum l).toInt = (l.map BitVec.toInt).sum.bmod (2 ^ w) := by
  simp [wordSum, foldl_add_toInt]

/-! ### Quotients of wrapped sums -/

/-- A quotient is the same after a wrap only where nothing wraps. -/
theorem mod_div_eq_iff (x : ℕ) {m d : ℕ} (hd : 0 < d) (hdm : d ≤ m) : x % m / d = x / d ↔ x < m := by
  constructor
  · intro h
    by_contra hx
    have hle : x % m + d ≤ x := by
      have hm : m ≤ m * (x / m) := Nat.le_mul_of_pos_right m (Nat.div_pos (Nat.le_of_not_lt hx) (hd.trans_le hdm))
      have hdiv := Nat.div_add_mod x m
      omega
    have hlt : x % m / d + 1 ≤ x / d := by
      rw [← Nat.add_div_right _ hd]
      exact Nat.div_le_div_right hle
    omega
  · intro h
    rw [Nat.mod_eq_of_lt h]

/-- The same for a wrap around 0 and a quotient cut towards 0. -/
theorem bmod_tdiv_eq_iff (x : ℤ) {m d : ℕ} (hd : 0 < d) (hdm : 2 * d ≤ m) :
    (x.bmod m).tdiv d = x.tdiv d ↔ x.bmod m = x := by
  refine ⟨fun h => ?_, fun h => by rw [h]⟩
  have hd' : (0 : ℤ) < d := by exact_mod_cast hd
  -- both have the same quotient, so they differ by less than `2 * d`, and by a multiple of `m`
  have h1 := Int.mul_tdiv_add_tmod x d
  have h2 := Int.mul_tdiv_add_tmod (x.bmod m) d
  rw [h] at h2
  have hl1 := Int.lt_tmod_of_pos x hd'
  have hl2 := Int.lt_tmod_of_pos (x.bmod m) hd'
  have hu1 := Int.tmod_lt_of_pos x hd'
  have hu2 := Int.tmod_lt_of_pos (x.bmod m) hd'
  have hmul := Int.bmod_eq_self_sub_mul_bdiv x m
  have hk : x.bdiv m = 0 := by
    by_contra hk
    have hm : (m : ℤ) ≤ |m * x.bdiv m| := by
      rw [abs_mul, abs_of_nonneg (by omega : (0 : ℤ) ≤ m)]
      exact le_mul_of_one_le_right (by omega) (Int.one_le_abs hk)
    have hlt : |(m : ℤ) * x.bdiv m| < m := by
      rw [abs_lt]
      omega
    omega
  rw [hk, mul_zero, sub_zero] at hmul
  exact hmul

/-! ### The mean of words -/

theorem wordSum_udiv_toNat {l : List (BitVec w)} (hl : l.length < 2 ^ w) :
    (wordSum l / BitVec.ofNat w l.length).toNat = (l.map BitVec.toNat).sum % 2 ^ w / l.length := by
  rw [BitVec.toNat_udiv, wordSum_toNat, BitVec.toNat_ofNat, Nat.mod_eq_of_lt hl]

theorem toInt_ofInt_tdiv (hw : 0 < w) (x : BitVec w) (n : ℕ) :
    (BitVec.ofInt w (x.toInt.tdiv n)).toInt = x.toInt.tdiv n := by
  have h1 := BitVec.le_toInt x
  have h2 := BitVec.toInt_lt (x := x)
  have habs := Int.natAbs_tdiv_le_natAbs x.toInt n
  have hn : (0 : ℤ) ≤ n := Int.natCast_nonneg _
  refine BitVec.toInt_ofInt_eq_self hw ?_ ?_
  · omega
  · rcases lt_or_ge x.toInt 0 with hneg | hpos
    · have hq := Int.tdiv_nonneg (a := -x.toInt) (by omega) hn
      rw [Int.neg_tdiv] at hq
      omega
    · omega

theorem wordSum_tdiv_toInt (hw : 0 < w) (l : List (BitVec w)) :
    (BitVec.ofInt w ((wordSum l).toInt.tdiv l.length)).toInt =
      ((l.map BitVec.toInt).sum.bmod (2 ^ w)).tdiv l.length := by
  rw [toInt_ofInt_tdiv hw, wordSum_toInt]

/-- **The mean of unsigned words** is exact where their sum has `w` bits. -/
theorem udiv_mean_iff {l : List (BitVec w)} (h : l ≠ []) (hl : l.length < 2 ^ w) :
    ((wordSum l / BitVec.ofNat w l.length).toNat : ℤ) = exactMean (l.map fun x => (x.toNat : ℤ)) ↔
      (l.map BitVec.toNat).sum < 2 ^ w := by
  have hmap : (l.map fun x => (x.toNat : ℤ)) = (l.map BitVec.toNat).map Nat.cast := by simp
  have hlen : (l.map BitVec.toNat).length = l.length := List.length_map ..
  rw [hmap, exactMean_natCast, wordSum_udiv_toNat hl, hlen, Nat.cast_inj]
  exact mod_div_eq_iff _ (List.length_pos_iff.mpr h) hl.le

/-- **The mean of signed words** is exact where their sum has `w` bits with a sign. -/
theorem tdiv_mean_iff {l : List (BitVec w)} (hw : 0 < w) (h : l ≠ []) (hl : 2 * l.length ≤ 2 ^ w) :
    (BitVec.ofInt w ((wordSum l).toInt.tdiv l.length)).toInt = exactMean (l.map BitVec.toInt) ↔
      -2 ^ (w - 1) ≤ (l.map BitVec.toInt).sum ∧ (l.map BitVec.toInt).sum < 2 ^ (w - 1) := by
  have hlen : 0 < l.length := List.length_pos_iff.mpr h
  rw [wordSum_tdiv_toInt hw, exactMean, List.length_map, bmod_tdiv_eq_iff _ hlen hl, ← BitVec.toInt_ofInt]
  constructor
  · intro he
    rw [← he]
    exact ⟨BitVec.le_toInt _, BitVec.toInt_lt⟩
  · rintro ⟨h1, h2⟩
    exact BitVec.toInt_ofInt_eq_self hw h1 h2

end GreeIntense.Lib.Mean

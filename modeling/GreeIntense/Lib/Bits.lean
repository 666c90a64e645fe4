import GreeIntense.Lib.Memory
import Mathlib.Data.List.GetD

/-!
# Bits packed into bytes

Bit `k` of a bit string stands in byte `k / 8` at position `k % 8`.  `bitAt m p` reads a memory as a
bit string from the address `p` on, and `packBits` is the bytes of a list of bits, the unused bits of
the last one being zero.
-/

namespace GreeIntense.Lib.Bits

open Memory

/-- Bit `k` of the bit string that stands in `m` from `p` on. -/
def bitAt (m : Mem) (p k : ℕ) : Bool := (m (p + k / 8)).getLsbD (k % 8)

/-- The byte `j` of the bits `bs`. -/
def packByte (bs : List Bool) (j : ℕ) : BitVec 8 :=
  (BitVec.iunfoldr (fun i (_ : Unit) => ((), bs.getD (8 * j + i) false)) ()).2

/-- The first `n` bytes of the bits `bs`. -/
def packBytes (n : ℕ) (bs : List Bool) : List (BitVec 8) := (List.range n).map (packByte bs)

/-- The bytes of a list of bits. -/
def packBits (bs : List Bool) : List (BitVec 8) := packBytes ((bs.length + 7) / 8) bs

@[simp] theorem packBytes_length (n : ℕ) (bs : List Bool) : (packBytes n bs).length = n := by
  simp [packBytes]

@[simp] theorem packBits_length (bs : List Bool) : (packBits bs).length = (bs.length + 7) / 8 :=
  packBytes_length _ _

theorem getLsbD_packByte (bs : List Bool) (j : ℕ) {t : ℕ} (ht : t < 8) :
    (packByte bs j).getLsbD t = bs.getD (8 * j + t) false :=
  BitVec.iunfoldr_getLsbD (fun _ => ()) (⟨t, ht⟩ : Fin 8) (fun _ => rfl)

theorem byte_ext {a b : BitVec 8} (h : ∀ t < 8, a.getLsbD t = b.getLsbD t) : a = b :=
  BitVec.eq_of_getLsbD_eq fun t ht => h t ht

theorem packBytes_succ_append {b8 bits : List Bool} (h : b8.length = 8) (n : ℕ) :
    packBytes (n + 1) (b8 ++ bits) = packByte b8 0 :: packBytes n bits := by
  rw [packBytes, List.range_succ_eq_map, List.map_cons, List.map_map]
  congr 1
  · apply byte_ext
    intro t ht
    rw [getLsbD_packByte _ _ ht, getLsbD_packByte _ _ ht, List.getD_append _ _ _ _ (by omega)]
  · refine List.map_congr_left fun j _ => byte_ext fun t ht => ?_
    rw [Function.comp_apply, getLsbD_packByte _ _ ht, getLsbD_packByte _ _ ht,
      List.getD_append_right _ _ _ _ (by omega)]
    congr 1
    omega

/-- **Packed bits are read back bit by bit.** -/
theorem holds_packBytes_iff {m : Mem} {p n : ℕ} {bs : List Bool} :
    Holds m p (packBytes n bs) ↔ ∀ k < 8 * n, bitAt m p k = bs.getD k false := by
  constructor
  · intro h k hk
    have hj := h (k / 8) (by rw [packBytes_length]; omega)
    rw [bitAt, hj]
    simp only [packBytes, List.getElem_map, List.getElem_range]
    rw [getLsbD_packByte _ _ (by omega), Nat.div_add_mod]
  · intro h j hj
    rw [packBytes_length] at hj
    apply byte_ext
    intro t ht
    have hk := h (8 * j + t) (by omega)
    rw [bitAt, show (8 * j + t) / 8 = j by omega, show (8 * j + t) % 8 = t by omega] at hk
    rw [hk]
    simp only [packBytes, List.getElem_map, List.getElem_range]
    rw [getLsbD_packByte _ _ ht]

theorem bitAt_of_holds {m : Mem} {p : ℕ} {bs : List Bool} (h : Holds m p (packBits bs)) {k : ℕ}
    (hk : k < bs.length) : bitAt m p k = bs.getD k false :=
  holds_packBytes_iff.mp h k (by omega)

/-! ### One bit more -/

theorem getLsbD_one_shiftLeft {t : ℕ} (ht : t < 8) (i : ℕ) :
    ((1 : BitVec 8) <<< i).getLsbD t = decide (t = i) := by
  rw [BitVec.getLsbD_shiftLeft, show (1 : BitVec 8) = 1#8 from rfl, BitVec.getLsbD_one, decide_eq_true ht]
  rcases Nat.lt_trichotomy t i with h | h | h
  · simp [h, h.ne]
  · simp [h]
  · simp [show ¬ t < i by omega, show t - i ≠ 0 by omega, show t ≠ i by omega]

theorem packByte_of_le {bs : List Bool} {j : ℕ} (h : bs.length ≤ 8 * j) : packByte bs j = 0 := by
  apply byte_ext
  intro t ht
  rw [getLsbD_packByte _ _ ht, List.getD_eq_default _ _ (by omega)]
  exact BitVec.getLsbD_zero.symm

theorem packByte_concat (bs : List Bool) (v : Bool) : packByte (bs ++ [v]) (bs.length / 8) =
    if v then packByte bs (bs.length / 8) ||| ((1 : BitVec 8) <<< (bs.length % 8))
    else packByte bs (bs.length / 8) := by
  apply byte_ext
  intro t ht
  have hor : (if v then packByte bs (bs.length / 8) ||| ((1 : BitVec 8) <<< (bs.length % 8))
      else packByte bs (bs.length / 8)).getLsbD t =
        ((packByte bs (bs.length / 8)).getLsbD t || (decide (t = bs.length % 8) && v)) := by
    cases v
    · simp
    · rw [if_pos rfl, BitVec.getLsbD_or, getLsbD_one_shiftLeft ht, Bool.and_true]
  rw [hor, getLsbD_packByte _ _ ht, getLsbD_packByte _ _ ht]
  rcases Nat.lt_trichotomy t (bs.length % 8) with h | h | h
  · rw [List.getD_append _ _ _ _ (by omega)]
    simp [h.ne]
  · rw [List.getD_append_right _ _ _ _ (by omega), List.getD_eq_default bs _ (by omega)]
    rw [show 8 * (bs.length / 8) + t - bs.length = 0 by omega, decide_eq_true h]
    rfl
  · rw [List.getD_eq_default _ _ (by rw [List.length_append, List.length_singleton]; omega),
      List.getD_eq_default bs _ (by omega)]
    simp [h.ne']

/-- **Packed bits with a further bit.** -/
theorem holds_packBits_concat {m : Mem} {p : ℕ} {bs : List Bool} (h : Holds m p (packBits bs)) (v : Bool) :
    Holds (store8 m (p + bs.length / 8) (packByte (bs ++ [v]) (bs.length / 8))) p (packBits (bs ++ [v])) := by
  intro j hj
  have hj' := hj
  rw [packBits_length, List.length_append, List.length_singleton] at hj'
  have hget : (packBits (bs ++ [v]))[j] = packByte (bs ++ [v]) j := by simp [packBits, packBytes]
  rw [hget]
  by_cases hlast : j = bs.length / 8
  · rw [hlast, store8_same]
  · have hj8 : j < (packBits bs).length := by
      rw [packBits_length]
      omega
    have hold : (packBits bs)[j] = packByte bs j := by simp [packBits, packBytes]
    rw [store8_ne _ _ _ _ (by omega), h j hj8, hold]
    apply byte_ext
    intro t ht
    rw [getLsbD_packByte _ _ ht, getLsbD_packByte _ _ ht, List.getD_append _ _ _ _ (by omega)]

end GreeIntense.Lib.Bits

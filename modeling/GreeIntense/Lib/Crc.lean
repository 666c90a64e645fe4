import Mathlib.Data.BitVec
import Mathlib.Data.List.Basic
import Mathlib.Logic.Function.Iterate
import Mathlib.Tactic.Common

/-!
# Cyclic redundancy checks, low bit first

The checksum of bytes is a shift register (`crc`): a byte is added to its low end, and the register is shifted eight
times, by a step that is linear (`bitStep_xor`).

* `byteStep_table`: a byte at a time, from a table of what the register makes of every byte;
* `crc_modify_ne`: where the polynomial has its high bit, a change of one byte changes the checksum.
-/

namespace GreeIntense.Lib.Crc

variable {w : ℕ} (poly : BitVec w)

/-- One shift of the register. -/
def bitStep (crc : BitVec w) : BitVec w := if crc.getLsbD 0 then (crc >>> 1) ^^^ poly else crc >>> 1

/-- The register after a byte. -/
def byteStep (crc : BitVec w) (b : BitVec 8) : BitVec w := (bitStep poly)^[8] (crc ^^^ b.setWidth w)

/-- The checksum of the bytes `bs`, from the register `init` on. -/
def crc (init : BitVec w) (bs : List (BitVec 8)) : BitVec w := bs.foldl (byteStep poly) init

/-! ### The table -/

theorem bitStep_xor (a b : BitVec w) : bitStep poly (a ^^^ b) = bitStep poly a ^^^ bitStep poly b := by
  unfold bitStep
  rw [BitVec.getLsbD_xor, BitVec.ushiftRight_xor_distrib]
  cases a.getLsbD 0 <;> cases b.getLsbD 0
  · rfl
  · exact BitVec.xor_assoc _ _ _
  · show a >>> 1 ^^^ b >>> 1 ^^^ poly = a >>> 1 ^^^ poly ^^^ b >>> 1
    rw [BitVec.xor_assoc, BitVec.xor_assoc, BitVec.xor_comm poly]
  · show a >>> 1 ^^^ b >>> 1 = a >>> 1 ^^^ poly ^^^ (b >>> 1 ^^^ poly)
    rw [BitVec.xor_comm (b >>> 1) poly, BitVec.xor_assoc, ← BitVec.xor_assoc poly, BitVec.xor_self,
      BitVec.zero_xor]

theorem iterate_xor (n : ℕ) (a b : BitVec w) :
    (bitStep poly)^[n] (a ^^^ b) = (bitStep poly)^[n] a ^^^ (bitStep poly)^[n] b := by
  induction n generalizing a b with
  | zero => rfl
  | succ n ih => rw [Function.iterate_succ_apply, bitStep_xor, ih, ← Function.iterate_succ_apply,
      ← Function.iterate_succ_apply]

/-- Low bits that are clear are shifted out, and nothing else happens. -/
theorem iterate_of_clear {n : ℕ} {crc : BitVec w} (h : ∀ i < n, crc.getLsbD i = false) :
    (bitStep poly)^[n] crc = crc >>> n := by
  induction n generalizing crc with
  | zero => exact (BitVec.ushiftRight_zero crc).symm
  | succ n ih =>
    have hstep : bitStep poly crc = crc >>> 1 := by
      rw [bitStep, h 0 (by omega)]
      rfl
    have hclear : ∀ i < n, (crc >>> 1).getLsbD i = false := by
      intro i hi
      rw [BitVec.getLsbD_ushiftRight]
      exact h (1 + i) (by omega)
    rw [Function.iterate_succ_apply, hstep, ih hclear, ← BitVec.shiftRight_add, Nat.add_comm]

theorem xor_byte_split (crc : BitVec w) (b : BitVec 8) :
    crc ^^^ b.setWidth w = ((crc >>> 8) <<< 8) ^^^ (crc.setWidth 8 ^^^ b).setWidth w := by
  ext i hi
  simp only [BitVec.getElem_xor, BitVec.getElem_setWidth, BitVec.getElem_shiftLeft, BitVec.getLsbD_xor,
    BitVec.getLsbD_setWidth]
  by_cases hlow : i < 8
  · simp [hlow, BitVec.getLsbD_eq_getElem hi]
  · simp [hlow, BitVec.getLsbD_of_ge b i (by omega), BitVec.getElem_ushiftRight, Nat.add_sub_cancel' (not_lt.mp hlow),
      BitVec.getLsbD_eq_getElem hi]

/-- What the register makes of the byte `i`. -/
def table (i : BitVec 8) : BitVec w := (bitStep poly)^[8] (i.setWidth w)

/-- **A byte at a time**: the register moves down, and the table's word for the byte and what was low is added. -/
theorem byteStep_table (crc : BitVec w) (b : BitVec 8) :
    byteStep poly crc b = (crc >>> 8) ^^^ table poly (crc.setWidth 8 ^^^ b) := by
  have hclear : ∀ i < 8, ((crc >>> 8) <<< 8).getLsbD i = false := by
    intro i hi
    simp [hi]
  have hdown : ((crc >>> 8) <<< 8) >>> 8 = crc >>> 8 := by
    ext i hi
    simp only [BitVec.getElem_ushiftRight, BitVec.getLsbD_shiftLeft, BitVec.getLsbD_ushiftRight]
    by_cases hlen : 8 + i < w
    · simp [hlen]
    · simp [hlen, BitVec.getLsbD_of_ge crc (8 + i) (by omega)]
  rw [byteStep, xor_byte_split, iterate_xor, iterate_of_clear poly hclear, hdown, table]

/-! ### Changes of one byte -/

section Injective

variable {poly}

/-- The high bit of the register tells which bit was shifted out. -/
theorem msb_bitStep (hpoly : poly.msb = true) (crc : BitVec w) : (bitStep poly crc).msb = crc.getLsbD 0 := by
  have hmsb : (crc >>> 1).msb = false := by simp
  unfold bitStep
  cases crc.getLsbD 0
  · exact hmsb
  · show ((crc >>> 1) ^^^ poly).msb = true
    rw [BitVec.msb_xor, hmsb, hpoly]
    rfl

theorem bitStep_injective (hpoly : poly.msb = true) : Function.Injective (bitStep poly) := by
  intro a b h
  have hlow : a.getLsbD 0 = b.getLsbD 0 := by rw [← msb_bitStep hpoly a, h, msb_bitStep hpoly b]
  have hshift : a >>> 1 = b >>> 1 := by
    unfold bitStep at h
    rw [hlow] at h
    split at h
    · exact (BitVec.xor_left_inj poly).mp h
    · exact h
  apply BitVec.eq_of_getLsbD_eq
  intro i _
  cases i with
  | zero => exact hlow
  | succ i =>
    have hbit := congrArg (fun x : BitVec w => x.getLsbD i) hshift
    simpa only [BitVec.getLsbD_ushiftRight, Nat.add_comm] using hbit

theorem byteStep_injective (hpoly : poly.msb = true) (b : BitVec 8) :
    Function.Injective fun crc => byteStep poly crc b := by
  intro a c h
  exact (BitVec.xor_left_inj _).mp ((bitStep_injective hpoly).iterate 8 h)

theorem byteStep_byte_injective (hpoly : poly.msb = true) (hw : 8 ≤ w) (crc : BitVec w) :
    Function.Injective (byteStep poly crc) := by
  intro b c h
  have hword : b.setWidth w = c.setWidth w := (BitVec.xor_right_inj _).mp ((bitStep_injective hpoly).iterate 8 h)
  apply BitVec.eq_of_getLsbD_eq
  intro i hi
  have hbit := congrArg (fun x : BitVec w => x.getLsbD i) hword
  simpa [BitVec.getLsbD_setWidth, show i < w by omega] using hbit

theorem crc_injective (hpoly : poly.msb = true) (bs : List (BitVec 8)) :
    Function.Injective fun init => crc poly init bs := by
  induction bs with
  | nil => exact fun _ _ h => h
  | cons b bs ih => exact ih.comp (byteStep_injective hpoly b)

/-- **A change of one byte changes the checksum.** -/
theorem crc_modify_ne (hpoly : poly.msb = true) (hw : 8 ≤ w) (init : BitVec w) {f : BitVec 8 → BitVec 8}
    (hf : ∀ b, f b ≠ b) {bs : List (BitVec 8)} {i : ℕ} (h : i < bs.length) :
    crc poly init (bs.modify i f) ≠ crc poly init bs := by
  induction bs generalizing init i with
  | nil => exact absurd h (by simp)
  | cons b bs ih =>
    cases i with
    | zero =>
      intro heq
      exact hf b (byteStep_byte_injective hpoly hw init (crc_injective hpoly bs heq))
    | succ i => exact ih (byteStep poly init b) (by simpa using h)

end Injective

end GreeIntense.Lib.Crc

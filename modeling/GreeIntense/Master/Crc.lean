import GreeIntense.Lib.Crc
import GreeIntense.Master.Receive

/-!
# The two checksums (`mbutils.c`)

`usMBCRC16` takes a byte at a time from two tables, `MB_CRCCalc` a bit at a time.  Both are the checksum with the
polynomial `0xA001` from `0xFFFF` on (`usMBCRC16_eq`, `calc_ends`).  The counter of `MB_CRCCalc` has eight bits: with
256 bytes or more its loop does not end (`calc_agrees_iff`).
-/

namespace GreeIntense.Master

open Lib.Memory Lib

abbrev CRC_POLYNOMIAL : USHORT := 0xA001

/-! ### The table of `usMBCRC16` -/

/-- The two tables are the bytes of one. -/
theorem aucCRC_table : ∀ i : UCHAR,
    (aucCRCLo.getD i.toNat 0 ++ aucCRCHi.getD i.toNat 0 : USHORT) = Crc.table CRC_POLYNOMIAL i := by
  decide +kernel

theorem crcByte_eq (s : UCHAR × UCHAR) (b : UCHAR) :
    ((crcByte s b).1 ++ (crcByte s b).2 : USHORT) = Crc.byteStep CRC_POLYNOMIAL (s.1 ++ s.2) b := by
  have hdown : (s.1 ++ s.2 : USHORT) >>> 8 = 0#8 ++ s.1 := by
    apply BitVec.eq_of_toNat_eq
    have := s.2.isLt
    rw [BitVec.toNat_ushiftRight, toNat_append, toNat_append, BitVec.toNat_zero, Nat.shiftRight_eq_div_pow]
    omega
  rw [Crc.byteStep_table, BitVec.setWidth_append_eq_right, ← aucCRC_table, hdown, crcByte, BitVec.xor_append,
    BitVec.zero_xor]

/-- **`usMBCRC16` is the checksum** with the polynomial `0xA001`, from `0xFFFF` on. -/
theorem usMBCRC16_eq (bs : List UCHAR) : usMBCRC16 bs = Crc.crc CRC_POLYNOMIAL 0xFFFF bs := by
  have hrun : ∀ s : UCHAR × UCHAR, ((bs.foldl crcByte s).1 ++ (bs.foldl crcByte s).2 : USHORT) =
      Crc.crc CRC_POLYNOMIAL (s.1 ++ s.2) bs := by
    induction bs with
    | nil => exact fun _ => rfl
    | cons b bs ih =>
      intro s
      rw [List.foldl_cons, ih, crcByte_eq]
      rfl
  exact hrun (0xFF, 0xFF)

/-- The digits from 1 to 9. -/
example : usMBCRC16 [0x31, 0x32, 0x33, 0x34, 0x35, 0x36, 0x37, 0x38, 0x39] = 0x4B37 := by decide

/-! ### `MB_CRCCalc` -/

/-- The pass of the inner loop. -/
def MB_CRCCalc.bit (CRCCode : USHORT) : USHORT :=
  let tmp : UCHAR := (CRCCode &&& 0x0001).setWidth 8
  let CRCCode := CRCCode >>> 1
  if tmp = 1 then CRCCode ^^^ 0xA001 else CRCCode

/-- The outer loop from `j` on, for `fuel` passes at most. -/
def MB_CRCCalc.loop (Data : Mem) (DataSize : USHORT) : ℕ → UCHAR → USHORT → Option USHORT
  | 0, _, _ => none
  | fuel + 1, j, CRCCode =>
    if j.toNat < DataSize.toNat then
      loop Data DataSize fuel (j + 1) (MB_CRCCalc.bit^[8] (CRCCode ^^^ (Data j.toNat).setWidth 16))
    else some CRCCode

/-- `MB_CRCCalc`, or `none` where its loop has not ended after `fuel` passes. -/
def MB_CRCCalc (fuel : ℕ) (Data : Mem) (StartIndex : UCHAR) (DataSize : USHORT) : Option USHORT :=
  MB_CRCCalc.loop Data DataSize fuel StartIndex 0xFFFF

theorem calc_bit : MB_CRCCalc.bit = Crc.bitStep CRC_POLYNOMIAL := by
  funext c
  have htmp : ((c &&& 0x0001).setWidth 8 : UCHAR) = 1 ↔ c.getLsbD 0 = true := by
    rw [show c &&& 0x0001 = (BitVec.ofBool (c.getLsbD 0)).setWidth 16 from
      BitVec.and_one_eq_setWidth_ofBool_getLsbD]
    cases c.getLsbD 0 <;> decide
  unfold MB_CRCCalc.bit Crc.bitStep
  by_cases hlow : c.getLsbD 0 = true
  · rw [if_pos hlow, if_pos (htmp.mpr hlow)]
  · rw [if_neg hlow, if_neg (mt htmp.mp hlow)]

section Calc

variable (Data : Mem) {DataSize : USHORT}

/-- The loop takes the bytes that are left, one pass for each, where the counter can pass them all. -/
theorem loop_ends (hsize : DataSize.toNat < 256) {n : ℕ} {j : UCHAR} (hn : j.toNat + n = DataSize.toNat)
    (CRCCode : USHORT) : MB_CRCCalc.loop Data DataSize (n + 1) j CRCCode =
      some (Crc.crc CRC_POLYNOMIAL CRCCode ((List.range' j.toNat n).map Data)) := by
  induction n generalizing j CRCCode with
  | zero =>
    rw [MB_CRCCalc.loop, if_neg (by omega)]
    rfl
  | succ n ih =>
    have hj : (j + 1).toNat = j.toNat + 1 := toNat_add_one (y := 255) (show j.toNat < 255 by omega)
    rw [MB_CRCCalc.loop, if_pos (by omega), ih (by omega), hj, calc_bit, List.range'_succ]
    rfl

/-- No value of the counter ends the loop where the size has more than eight bits. -/
theorem loop_none (hsize : 256 ≤ DataSize.toNat) (fuel : ℕ) (j : UCHAR) (CRCCode : USHORT) :
    MB_CRCCalc.loop Data DataSize fuel j CRCCode = none := by
  induction fuel generalizing j CRCCode with
  | zero => rfl
  | succ fuel ih =>
    have := j.isLt
    rw [MB_CRCCalc.loop, if_pos (by omega)]
    exact ih _ _

/-- The bytes from `StartIndex` up to `DataSize`. -/
def crcBytes (StartIndex : UCHAR) (DataSize : USHORT) : List UCHAR :=
  (List.range' StartIndex.toNat (DataSize.toNat - StartIndex.toNat)).map Data

theorem calc_ends (StartIndex : UCHAR) (hsize : DataSize.toNat < 256) : ∃ fuel,
    MB_CRCCalc fuel Data StartIndex DataSize =
      some (Crc.crc CRC_POLYNOMIAL 0xFFFF (crcBytes Data StartIndex DataSize)) := by
  by_cases hstart : StartIndex.toNat ≤ DataSize.toNat
  · exact ⟨_, loop_ends Data hsize (Nat.add_sub_cancel' hstart) 0xFFFF⟩
  · refine ⟨1, ?_⟩
    rw [MB_CRCCalc, MB_CRCCalc.loop, if_neg (by omega), crcBytes, Nat.sub_eq_zero_of_le (by omega)]
    rfl

end Calc

/-- `MB_CRCCalc` ends with the checksum that `usMBCRC16` makes of the bytes, the one with the polynomial `0xA001`
and the initial value `0xFFFF`. -/
def CrcsAgree (Data : Mem) (StartIndex : UCHAR) (DataSize : USHORT) : Prop :=
  (∃ fuel, MB_CRCCalc fuel Data StartIndex DataSize = some (usMBCRC16 (crcBytes Data StartIndex DataSize))) ∧
    usMBCRC16 (crcBytes Data StartIndex DataSize) = Crc.crc 0xA001 0xFFFF (crcBytes Data StartIndex DataSize)

/-- **The two checksums agree** for every size below 256 bytes, and for no other: there the loop does not end. -/
theorem calc_agrees_iff (Data : Mem) (StartIndex : UCHAR) (DataSize : USHORT) :
    CrcsAgree Data StartIndex DataSize ↔ DataSize.toNat < 256 := by
  constructor
  · rintro ⟨⟨fuel, hend⟩, -⟩
    by_contra hsize
    rw [MB_CRCCalc, loop_none Data (by omega)] at hend
    cases hend
  · intro hsize
    refine ⟨?_, usMBCRC16_eq _⟩
    rw [usMBCRC16_eq]
    exact calc_ends Data StartIndex hsize

/-- With 256 bytes the loop never ends, whatever they are. -/
theorem calc_256_bytes : ¬ CrcsAgree (fun _ => 0) 0 256 := by
  rintro ⟨⟨fuel, hend⟩, -⟩
  rw [MB_CRCCalc, loop_none _ (by decide)] at hend
  cases hend

end GreeIntense.Master

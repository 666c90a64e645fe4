import GreeIntense.Master.Crc
import GreeIntense.Master.RtuReceiver

/-!
# Frames on a serial line (`mbrtu_m.c`)

`eMBMasterRTUSend` puts the address before the PDU in `ucRTUSndBuf` and the checksum behind it.  A receive buffer with
these bytes is accepted, and one in which a bit of them is changed is not: the register of the checksum is different
from that byte on (`flipBit_rejected`).

The memory of the model starts at `ucRTUSndBuf`.  The array has 253 bytes, so the frame of a PDU of more than 250 bytes
ends in `ucRTURcvBuf`, which stands behind it.
-/

namespace GreeIntense.Master.Rtu

open Lib Lib.Memory eMBErrorCode eMBMasterRcvState

/-- The bytes `bs` with bit `k` of byte `i` changed. -/
def flipBit (bs : List UCHAR) (i k : ℕ) : List UCHAR := bs.modify i (· ^^^ BitVec.twoPow 8 k)

/-- The frame in the send buffer: the byte that has been sent, and those that are counted. -/
def preparedFrame (s : sMBMasterInfo) : List UCHAR := (List.range (s.usSndBufferCount + 1)).map s.ucRTUSndBuf

section Flip

variable {bs : List UCHAR} {i k : ℕ}

theorem xor_twoPow_ne (hk : k < 8) (b : UCHAR) : b ^^^ BitVec.twoPow 8 k ≠ b := by
  intro h
  have hbit := congrArg (fun x : UCHAR => x.getLsbD k) h
  simp [hk] at hbit

theorem flipBit_length : (flipBit bs i k).length = bs.length := List.length_modify _ _ _

/-- **A changed bit is noticed**: a frame whose checksum is right is rejected with any one bit of it changed. -/
theorem flipBit_rejected (hcrc : usMBCRC16 bs = 0) (hi : i < bs.length) (hk : k < 8) {ucRTURcvBuf : Mem}
    (hbuf : Holds ucRTURcvBuf 0 (flipBit bs i k)) : eMBMasterRTUReceive ucRTURcvBuf bs.length = none := by
  have hwrong : usMBCRC16 (flipBit bs i k) ≠ 0 := by
    rw [← hcrc, usMBCRC16_eq, usMBCRC16_eq]
    exact Crc.crc_modify_ne (by decide) (by decide) _ (xor_twoPow_ne hk) hi
  rw [← flipBit_length (i := i) (k := k), receive_holds hbuf, if_neg fun h => hwrong h.2]

end Flip

/-- The address and the PDU of `usLength` bytes behind it. -/
def addressed (ucRTUSndBuf : Mem) (ucSlaveAddr : UCHAR) (usLength : ℕ) : List UCHAR :=
  ucSlaveAddr :: (List.range usLength).map fun j => ucRTUSndBuf (1 + j)

/-- The request `s'` for the PDU of `usLength` bytes in the buffer of `s`: the bytes of the frame, what the receiver
makes of them, and what it makes of them with a bit changed. -/
structure RoundTrip (s s' : sMBMasterInfo) (ucSlaveAddr : UCHAR) (usLength : ℕ) : Prop where
  layout : preparedFrame s' = addressed s.ucRTUSndBuf ucSlaveAddr usLength ++
    [lo (usMBCRC16 (addressed s.ucRTUSndBuf ucSlaveAddr usLength)),
      hi (usMBCRC16 (addressed s.ucRTUSndBuf ucSlaveAddr usLength))]
  fits : (preparedFrame s').length ≤ MB_SER_PDU_SIZE_MAX
  accepted : ∀ ucRTURcvBuf, Holds ucRTURcvBuf 0 (preparedFrame s') →
    eMBMasterRTUReceive ucRTURcvBuf (preparedFrame s').length = some (ucSlaveAddr, 1, usLength) ∧
      ∀ j < usLength, ucRTURcvBuf (1 + j) = s.ucRTUSndBuf (1 + j)
  rejected : ∀ i < (preparedFrame s').length, ∀ k < 8, ∀ ucRTURcvBuf,
    Holds ucRTURcvBuf 0 (flipBit (preparedFrame s') i k) →
      eMBMasterRTUReceive ucRTURcvBuf (preparedFrame s').length = none

theorem send_of_idle {s : sMBMasterInfo} {ucSlaveAddr : UCHAR} (hidle : s.eRcvState = STATE_M_RX_IDLE)
    (hmin : s.ucSlaveDevMinAddr ≤ ucSlaveAddr) (hmax : ucSlaveAddr ≤ s.ucSlaveDevMaxAddr) (usLength : ℕ) :
    (eMBMasterRTUSend ucSlaveAddr usLength s).1 = MB_ENOERR ∧
      preparedFrame (eMBMasterRTUSend ucSlaveAddr usLength s).2 =
        let frame := Master.eMBMasterRTUSend usMBCRC16 ucSlaveAddr usLength s.ucRTUSndBuf
        (List.range frame.2).map frame.1 := by
  have hrange : ¬ (ucSlaveAddr < s.ucSlaveDevMinAddr ∨ ucSlaveAddr > s.ucSlaveDevMaxAddr) := by
    rintro (h | h)
    · exact absurd hmin (BitVec.not_le.mpr h)
    · exact absurd hmax (BitVec.not_le.mpr h)
  rw [eMBMasterRTUSend, if_neg hrange, if_pos hidle]
  exact ⟨rfl, rfl⟩

/-- **What is sent is received, and a changed bit is noticed.** -/
theorem send_roundTrip (s : sMBMasterInfo) (ucSlaveAddr : UCHAR) (usLength : ℕ)
    (hidle : s.eRcvState = STATE_M_RX_IDLE) (hmin : s.ucSlaveDevMinAddr ≤ ucSlaveAddr)
    (hmax : ucSlaveAddr ≤ s.ucSlaveDevMaxAddr) (hpos : 1 ≤ usLength) (hlen : usLength ≤ 253) :
    (eMBMasterRTUSend ucSlaveAddr usLength s).1 = MB_ENOERR ∧
      RoundTrip s (eMBMasterRTUSend ucSlaveAddr usLength s).2 ucSlaveAddr usLength := by
  obtain ⟨hret, hframe⟩ := send_of_idle hidle hmin hmax usLength
  generalize eMBMasterRTUSend ucSlaveAddr usLength s = r at hret hframe ⊢
  replace hframe := hframe.trans (send_bytes ucSlaveAddr s.ucRTUSndBuf usLength)
  have hcrc : usMBCRC16 (preparedFrame r.2) = 0 := by
    rw [hframe]
    exact crc_append _
  have hcount : (preparedFrame r.2).length = usLength + 3 := by
    rw [hframe]
    simp
  refine ⟨hret, hframe, ?_, ?_, fun i hi k hk _ hbuf => flipBit_rejected hcrc hi hk hbuf⟩
  · show _ ≤ 256
    omega
  · intro ucRTURcvBuf hbuf
    have hmin4 : usLength + 3 ≥ 4 := by omega
    have hpdu : usLength + 3 - 1 - 2 = usLength := by omega
    have haddr : ucRTURcvBuf 0 = ucSlaveAddr := by
      have h0 := hbuf 0 (by omega)
      simpa [hframe] using h0
    refine ⟨?_, fun j hj => ?_⟩
    · rw [receive_holds hbuf, hcount, if_pos ⟨hmin4, hcrc⟩, haddr, hpdu]
    · have hbyte := hbuf (1 + j) (by omega)
      simpa [hframe, List.getElem_append, Nat.add_comm 1 j, hj] using hbyte

/-- A request of six bytes to the device 5. -/
theorem send_roundTrip_untouched :
    let s := untouched (fun _ => 0) (fun i => if i = 1 then 3 else 0) 1 247
    (eMBMasterRTUSend 5 6 s).1 = MB_ENOERR ∧ RoundTrip s (eMBMasterRTUSend 5 6 s).2 5 6 :=
  send_roundTrip _ 5 6 rfl (by decide) (by decide) (by decide) (by decide)

end GreeIntense.Master.Rtu

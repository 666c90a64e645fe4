import GreeIntense.Master.WriteScan
import GreeIntense.Master.ScanCoils
import GreeIntense.Slave.CoilsSpec

/-!
# What a pass of the write scans sends

The two scans of a pass over a device with ascending addresses.  What they send is right
(`writePass_sound`): every address of a request is that of an entry to be written, with the entry's value, no
address is sent twice, and the frame fits the send buffer.  But they may leave out an entry, the last one of
the table; `writePass_complete_iff` says when.
-/

namespace GreeIntense.Master

open Lib.Memory Lib.Bits Lib.Rows
open Slave (coilBytes coilBytes_eq)

/-! ### Frames (`eMBMasterRTUSend` in `mbrtu_m.c`) -/

/-- The size of `ucRTUSndBuf`. -/
abbrev MB_PDU_SIZE_MAX : ℕ := 253

/-- A request function puts the PDU behind the address in `ucRTUSndBuf`. -/
def putPDU (request : Mem → Mem) (ucRTUSndBuf : Mem) : Mem := fun i =>
  if i = 0 then ucRTUSndBuf 0 else request (fun j => ucRTUSndBuf (j + 1)) (i - 1)

/-- `eMBMasterRTUSend` for a PDU of `usLength` bytes in `ucRTUSndBuf`: the buffer with the address and the
checksum, and `usSndBufferCount`.  The checksum function is a parameter. -/
def eMBMasterRTUSend (usMBCRC16 : List UCHAR → USHORT) (ucSlaveAddr : UCHAR) (usLength : ℕ) (ucRTUSndBuf : Mem) :
    Mem × ℕ :=
  let buf := store8 ucRTUSndBuf 0 ucSlaveAddr
  let usSndBufferCount := 1 + usLength
  let usCRC16 := usMBCRC16 ((List.range usSndBufferCount).map buf)
  let buf := store8 buf usSndBufferCount (lo usCRC16)
  let buf := store8 buf (usSndBufferCount + 1) (hi usCRC16)
  (buf, usSndBufferCount + 2)

/-- The frame of a register request, from `ucRTUSndBuf` on. -/
def WriteRequest.frame (q : WriteRequest) (usMBCRC16 : List UCHAR → USHORT) (ucSlaveAddr : UCHAR)
    (ucRTUSndBuf : Mem) : Mem × ℕ :=
  eMBMasterRTUSend usMBCRC16 ucSlaveAddr (6 + 2 * q.pusDataBuffer.length)
    (putPDU (eMBMasterReqWriteMultipleHoldingRegister q.usRegAddr q.pusDataBuffer) ucRTUSndBuf)

/-- The frame of a coil request, from `ucRTUSndBuf` on. -/
def CoilRequest.frame (q : CoilRequest) (usMBCRC16 : List UCHAR → USHORT) (ucSlaveAddr : UCHAR)
    (ucRTUSndBuf : Mem) : Mem × ℕ :=
  let usNCoils : USHORT := BitVec.ofNat 16 q.usNCoils
  eMBMasterRTUSend usMBCRC16 ucSlaveAddr (6 + (coilBytes usNCoils).toNat)
    (putPDU (eMBMasterReqWriteMultipleCoils q.usCoilAddr usNCoils q.pucDataBuffer) ucRTUSndBuf)

/-- **The frame fits the send buffer**: it has at most as many bytes, and no byte behind the buffer changes. -/
structure FitsSndBuf (frame : Mem × ℕ) (ucRTUSndBuf : Mem) : Prop where
  count : frame.2 ≤ MB_PDU_SIZE_MAX
  beyond : ∀ i, MB_PDU_SIZE_MAX ≤ i → frame.1 i = ucRTUSndBuf i

variable {usMBCRC16 : List UCHAR → USHORT} {ucSlaveAddr : UCHAR} {buf : Mem}

/-- A PDU of at most 250 bytes makes a frame that fits. -/
theorem rtuSend_fits {pdu : Mem → List UCHAR} (h : (pdu fun j => buf (j + 1)).length ≤ 250) :
    FitsSndBuf (eMBMasterRTUSend usMBCRC16 ucSlaveAddr (pdu fun j => buf (j + 1)).length
      (putPDU (fun m => storeList m 0 (pdu m)) buf)) buf := by
  constructor
  · show 1 + _ + 2 ≤ 253
    omega
  · intro i hi
    change 253 ≤ i at hi
    rw [eMBMasterRTUSend]
    dsimp only
    rw [store8_ne _ _ _ _ (by omega), store8_ne _ _ _ _ (by omega), store8_ne _ _ _ _ (by omega), putPDU,
      if_neg (by omega), storeList_off (Or.inr (by omega)), Nat.sub_add_cancel (by omega)]

theorem WriteRequest.frame_fits {q : WriteRequest} (h : q.pusDataBuffer.length ≤ MB_SCAN_MAX_REG_NUM) :
    FitsSndBuf (q.frame usMBCRC16 ucSlaveAddr buf) buf := by
  have hlen : 6 + 2 * q.pusDataBuffer.length = (MB_FUNC_WRITE_MULTIPLE_REGISTERS :: hi q.usRegAddr ::
      lo q.usRegAddr :: hi (BitVec.ofNat 16 q.pusDataBuffer.length) :: lo (BitVec.ofNat 16 q.pusDataBuffer.length) ::
      lo (2 * BitVec.ofNat 16 q.pusDataBuffer.length) :: beBytes q.pusDataBuffer).length := by
    simp only [List.length_cons, beBytes_length]
    omega
  have h50 : q.pusDataBuffer.length ≤ 50 := h
  rw [WriteRequest.frame, hlen]
  exact rtuSend_fits (by rw [← hlen]; omega)

theorem CoilRequest.frame_fits {q : CoilRequest} (h : q.usNCoils ≤ MB_SCAN_MAX_BIT_NUM) :
    FitsSndBuf (q.frame usMBCRC16 ucSlaveAddr buf) buf := by
  have h400 : q.usNCoils ≤ 400 := h
  have hbytes : (coilBytes (BitVec.ofNat 16 q.usNCoils)).toNat ≤ 50 := by
    rw [coilBytes_eq, BitVec.toNat_ofNat, BitVec.toNat_ofNat]
    omega
  have hlen : 6 + (coilBytes (BitVec.ofNat 16 q.usNCoils)).toNat = (MB_FUNC_WRITE_MULTIPLE_COILS ::
      hi q.usCoilAddr :: lo q.usCoilAddr :: hi (BitVec.ofNat 16 q.usNCoils) :: lo (BitVec.ofNat 16 q.usNCoils) ::
      coilBytes (BitVec.ofNat 16 q.usNCoils) ::
      (List.range (coilBytes (BitVec.ofNat 16 q.usNCoils)).toNat).map q.pucDataBuffer).length := by
    simp only [List.length_cons, List.length_map, List.length_range]
    omega
  rw [CoilRequest.frame]
  nth_rewrite 1 [hlen]
  exact rtuSend_fits (by rw [← hlen]; omega)

/-! ### The passes -/

section Passes

variable {tab : sMBDevDataTable} {coils : sMBDevTable sMasterBitCoilData} {xCheckPreValue : Bool} {r : ℕ → RegHolds}
  {c : ℕ → Coils} {list : Mem}

/-- **A register request of a pass is right**: it has between 1 and 50 words, each the scaled value of the entry of
its address, which was selected for writing, and its frame fits the send buffer. -/
structure RegRequestSound (tab : sMBDevDataTable) (xCheckPreValue : Bool) (r : ℕ → RegHolds) (q : WriteRequest) :
    Prop where
  pos : 1 ≤ q.pusDataBuffer.length
  le : q.pusDataBuffer.length ≤ MB_SCAN_MAX_REG_NUM
  words : ∀ k w, q.pusDataBuffer[k]? = some w → ∃ i e, tab.pvDataBuf[i]? = some e ∧
    e.usAddr.toNat = q.usRegAddr.toNat + k ∧ WriteSelected xCheckPreValue i e (r i) w
  fits : ∀ usMBCRC16 ucSlaveAddr buf, FitsSndBuf (q.frame usMBCRC16 ucSlaveAddr buf) buf

/-- **A coil request of a pass is right**: it is for between 1 and 400 coils, its bits are the values of the coils
of their addresses, which were selected for writing, and its frame fits the send buffer. -/
structure CoilRequestSound (tab : sMBDevTable sMasterBitCoilData) (xCheckPreValue : Bool) (c : ℕ → Coils)
    (q : CoilRequest) : Prop where
  pos : 1 ≤ q.usNCoils
  le : q.usNCoils ≤ MB_SCAN_MAX_BIT_NUM
  bits : ∀ k < q.usNCoils, ∃ i e, tab.pvDataBuf[i]? = some e ∧ e.usAddr.toNat = q.usCoilAddr.toNat + k ∧
    CoilSelected xCheckPreValue i e (c i) (bitAt q.pucDataBuffer 0 k)
  fits : ∀ usMBCRC16 ucSlaveAddr buf, FitsSndBuf (q.frame usMBCRC16 ucSlaveAddr buf) buf

theorem regRequestSound {q : WriteRequest} (hq : q ∈ eMBMasterScanWriteRegHold tab xCheckPreValue r) :
    RegRequestSound tab xCheckPreValue r q := by
  obtain ⟨⟨hpos, hle⟩, hwords⟩ := scanWrite_sound hq
  exact ⟨hpos, hle, hwords, fun _ _ _ => WriteRequest.frame_fits hle⟩

theorem coilRequestSound {q : CoilRequest} (hq : q ∈ eMBMasterScanWriteCoils coils xCheckPreValue c list) :
    CoilRequestSound coils xCheckPreValue c q := by
  obtain ⟨⟨hpos, hle⟩, hbits⟩ := scanCoils_sound hq
  exact ⟨hpos, hle, hbits, fun _ _ _ => CoilRequest.frame_fits hle⟩

/-- **What the write scans send is right**, and they send no address twice. -/
theorem writePass_sound (hr : tab.Ascending) (hc : CoilsAscending coils) :
    ((∀ q ∈ eMBMasterScanWriteRegHold tab xCheckPreValue r, RegRequestSound tab xCheckPreValue r q) ∧
      ∀ a, (eMBMasterScanWriteRegHold tab xCheckPreValue r).countP (·.covers a) ≤ 1) ∧
    (∀ q ∈ eMBMasterScanWriteCoils coils xCheckPreValue c list, CoilRequestSound coils xCheckPreValue c q) ∧
      ∀ a, (eMBMasterScanWriteCoils coils xCheckPreValue c list).countP (·.covers a) ≤ 1 :=
  ⟨⟨fun _ hq => regRequestSound hq, scanWrite_once hr⟩, fun _ hq => coilRequestSound hq, scanCoils_once hc⟩

/-- **What the write scans leave out**: every register entry to be written is in exactly one request if and only if
the last entry is not left out, and so is every coil. -/
theorem writePass_complete_iff (hr : tab.Ascending) (hc : CoilsAscending coils) :
    ((∀ i e w, tab.pvDataBuf[i]? = some e → WriteSelected xCheckPreValue i e (r i) w →
        (eMBMasterScanWriteRegHold tab xCheckPreValue r).countP (·.covers e.usAddr.toNat) = 1) ↔
      ¬LastRegLost tab xCheckPreValue r) ∧
    ((∀ i e v, coils.pvDataBuf[i]? = some e → CoilSelected xCheckPreValue i e (c i) v →
        (eMBMasterScanWriteCoils coils xCheckPreValue c list).countP (·.covers e.usAddr.toNat) = 1) ↔
      ¬LastCoilLost coils xCheckPreValue c) :=
  ⟨scanWrite_complete_iff hr, scanCoils_complete_iff hc⟩

end Passes

/-! ### Two entries -/

/-- A table of two `uint16` registers, the second one at the address `a`. -/
def twoRegs (a : USHORT) : sMBDevDataTable :=
  ⟨[⟨1, 0, 1000, .uint16, .RW, 1, some 0⟩, ⟨a, 0, 1000, .uint16, .RW, 1, some 2⟩], 0, 20⟩

/-- A table of two coils, the second one at the address `a`. -/
def twoCoils (a : USHORT) : sMBDevTable sMasterBitCoilData := ⟨[⟨1, .RW, some 0⟩, ⟨a, .RW, some 1⟩], 0, 20⟩

/-- All registers are 257, and their previous values 0. -/
def changedRegs : RegHolds := ⟨fun _ => 1, fun _ => 0⟩

/-- All coils are 1, and their previous values 0. -/
def changedCoils : Coils := ⟨fun _ => 1, fun _ => 0⟩

theorem ascending_twoRegs {a : USHORT} (h : 1 < a.toNat) : (twoRegs a).Ascending := by
  simpa [sMBDevDataTable.Ascending, twoRegs] using h

theorem ascending_twoCoils {a : USHORT} (h : 1 < a.toNat) : CoilsAscending (twoCoils a) := by
  simpa [CoilsAscending, twoCoils] using h

/-- Two entries side by side go into one request. -/
theorem writePass_sound_two :
    (((∀ q ∈ eMBMasterScanWriteRegHold (twoRegs 2) true fun _ => changedRegs,
        RegRequestSound (twoRegs 2) true (fun _ => changedRegs) q) ∧
      ∀ a, (eMBMasterScanWriteRegHold (twoRegs 2) true fun _ => changedRegs).countP (·.covers a) ≤ 1) ∧
    (∀ q ∈ eMBMasterScanWriteCoils (twoCoils 2) true (fun _ => changedCoils) fun _ => 0,
        CoilRequestSound (twoCoils 2) true (fun _ => changedCoils) q) ∧
      ∀ a, (eMBMasterScanWriteCoils (twoCoils 2) true (fun _ => changedCoils) fun _ => 0).countP (·.covers a) ≤ 1) ∧
    (eMBMasterScanWriteRegHold (twoRegs 2) true fun _ => changedRegs).map
      (fun q => (q.usRegAddr, q.pusDataBuffer)) = [(1, [257, 257])] ∧
    (eMBMasterScanWriteCoils (twoCoils 2) true (fun _ => changedCoils) fun _ => 0).map
      (fun q => (q.usCoilAddr, q.usNCoils, q.pucDataBuffer 0)) = [(1, 2, 3)] :=
  ⟨writePass_sound (ascending_twoRegs (by decide)) (ascending_twoCoils (by decide)), by decide, by decide⟩

/-- Of two entries side by side neither is left out. -/
theorem writePass_complete_two :
    (∀ i e w, (twoRegs 2).pvDataBuf[i]? = some e → WriteSelected true i e changedRegs w →
      (eMBMasterScanWriteRegHold (twoRegs 2) true fun _ => changedRegs).countP (·.covers e.usAddr.toNat) = 1) ∧
    ∀ i e v, (twoCoils 2).pvDataBuf[i]? = some e → CoilSelected true i e changedCoils v →
      (eMBMasterScanWriteCoils (twoCoils 2) true (fun _ => changedCoils) fun _ => 0).countP
        (·.covers e.usAddr.toNat) = 1 := by
  have hregs : ¬LastRegLost (twoRegs 2) true fun _ => changedRegs := by
    have hitems : scanItems true (fun _ => changedRegs) (twoRegs 2).pvDataBuf = [(1, some 257)] ++ [(2, some 257)] := by
      decide
    rw [LastRegLost, hitems, lastLost_concat]
    decide
  have hcoils : ¬LastCoilLost (twoCoils 2) true fun _ => changedCoils := by
    have hitems : coilItems true (fun _ => changedCoils) (twoCoils 2).pvDataBuf =
        [(1, some true)] ++ [(2, some true)] := by decide
    rw [LastCoilLost, hitems, lastLost_concat]
    decide
  exact (writePass_complete_iff (ascending_twoRegs (by decide)) (ascending_twoCoils (by decide))).imp
    (fun h => h.mpr hregs) fun h => h.mpr hcoils

/-- **Of two entries with a gap between them the last one is left out.** -/
theorem writePass_loses_last :
    (¬∀ i e w, (twoRegs 10).pvDataBuf[i]? = some e → WriteSelected true i e changedRegs w →
      (eMBMasterScanWriteRegHold (twoRegs 10) true fun _ => changedRegs).countP (·.covers e.usAddr.toNat) = 1) ∧
    ¬∀ i e v, (twoCoils 10).pvDataBuf[i]? = some e → CoilSelected true i e changedCoils v →
      (eMBMasterScanWriteCoils (twoCoils 10) true (fun _ => changedCoils) fun _ => 0).countP
        (·.covers e.usAddr.toNat) = 1 := by
  constructor
  · intro h
    have hsel : WriteSelected true 1 ⟨10, 0, 1000, .uint16, .RW, 1, some 2⟩ changedRegs 257 :=
      ⟨by decide, ⟨2, rfl, rfl⟩, by decide, Or.inl (by decide)⟩
    exact absurd (h 1 _ 257 rfl hsel) (by decide)
  · intro h
    have hsel : CoilSelected true 1 ⟨10, .RW, some 1⟩ changedCoils true :=
      ⟨by decide, 1, rfl, by decide, Or.inl (by decide)⟩
    exact absurd (h 1 _ true rfl hsel) (by decide)

end GreeIntense.Master

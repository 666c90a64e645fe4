import GreeIntense.Master.Agreement
import GreeIntense.Master.ReadPass

/-!
# The synchronising pass

A device that is not synchronised is read in the run mode `STATE_SYSN_DEV`, so that the variables take the values of
the device even where the application has changed them.  But the callbacks of the registers return at once in this
mode: the pass leaves the registers as they are, and the device is taken for synchronised all the same.
`sync_loads_iff` says when the pass does what it is for.
-/

namespace GreeIntense.Master

open Lib.Memory Lib.Bits
open Slave (coilBytes)

/-! ### What a device answers -/

/-- The registers and coils of a device. -/
structure DeviceData where
  hold : USHORT → USHORT
  coils : USHORT → Bool
  ins : USHORT → USHORT

/-- The right answer to a register request: the byte count and the words. -/
def answersRegs (dev : USHORT → USHORT) (q : ReadRequest) : Reply → Prop
  | .response buf p n => n = 2 + 2 * q.usCount.toNat ∧ (buf (p + 1)).toNat = 2 * q.usCount.toNat ∧
      ∀ k < q.usCount.toNat, loadBE buf (p + 2 + 2 * k) = dev (q.usAddr + BitVec.ofNat 16 k)
  | _ => False

/-- The right answer to a coil request: the byte count and the bits. -/
def answersCoils (dev : USHORT → Bool) (q : ReadRequest) : Reply → Prop
  | .response buf p n => n = 2 + (coilBytes q.usCount).toNat ∧ buf (p + 1) = coilBytes q.usCount ∧
      ∀ k < q.usCount.toNat, bitAt buf (p + 2) k = dev (q.usAddr + BitVec.ofNat 16 k)
  | _ => False

/-- Every request of a pass is answered with the data of the device. -/
structure AllAnswered (dev : DeviceData) (cur : sMBSlaveDevTables) (replies : ℕ → Reply) : Prop where
  hold : ∀ (k : ℕ) q, (holdRequests cur)[k]? = some q → answersRegs dev.hold q (replies k)
  coils : ∀ (k : ℕ) q, (coilRequests cur)[k]? = some q →
    answersCoils dev.coils q (replies ((holdRequests cur).length + k))
  ins : ∀ (k : ℕ) q, (inputRequests cur)[k]? = some q →
    answersRegs dev.ins q (replies ((holdRequests cur).length + (coilRequests cur).length + k))

/-- The variables have the values of the device, and so have the previous values of the holding registers. -/
structure Loaded (dev : DeviceData) (cur : sMBSlaveDevTables) (s : sMBMasterInfo) : Prop where
  hold : ∀ (i : ℕ) e p, cur.hold.sMBRegHoldTable.pvDataBuf[i]? = some e → e.ucAccessMode ≠ .WO →
    e.pvValue = some p → value e.ucDataType s.regHolds.vars p = dev.hold e.usAddr ∧
      s.regHolds.usPreVal i = dev.hold e.usAddr
  ins : ∀ e ∈ cur.ins.sMBRegInTable.pvDataBuf, e.ucAccessMode ≠ .WO → ∀ p, e.pvValue = some p →
    value e.ucDataType s.regIns p = dev.ins e.usAddr

/-- **The pass synchronises the device**: when every request is answered it loads the data of the device, and only
then the device is taken for synchronised. -/
def SyncLoads (dev : DeviceData) (cur : sMBSlaveDevTables) (replies : ℕ → Reply) (s : sMBMasterInfo) : Prop :=
  let s' := vMBMasterScanReadSlaveDev replies s
  (AllAnswered dev cur replies → Loaded dev cur s') ∧
    (s'.psMBSlaveDevCur.xSynchronized = true → AllAnswered dev cur replies ∧ Loaded dev cur s')

/-! ### The registers stay as they are -/

section Registers

variable {replies : ℕ → Reply} {cur : sMBSlaveDevTables} {s s' : sMBMasterInfo}

/-- When the master synchronises, the response of the holding registers changes nothing. -/
theorem readHolding_synchronize {cur : sMBSlaveDevCommData} (b : Bool) (snd rcv : Mem) (p n : ℕ) (r : RegHolds) :
    (eMBMasterFuncReadHoldingRegister cur .STATE_SYSN_DEV b snd rcv p n r).2 = r := by
  have hcb (q : ℕ) (a c : USHORT) :
      eMBMasterRegHoldingCB cur .STATE_SYSN_DEV rcv q a c .MB_REG_READ r = (.MB_ENOERR, r) := rfl
  unfold eMBMasterFuncReadHoldingRegister
  split
  · rfl
  · split
    · dsimp only
      rw [hcb]
      split <;> rfl
    · rfl

/-- In the run mode `STATE_SYSN_DEV`, with the registers of `s`. -/
structure SameRegs (s s' : sMBMasterInfo) : Prop where
  mode : s'.eMBRunMode = .STATE_SYSN_DEV
  hold : s'.regHolds = s.regHolds
  ins : s'.regIns = s.regIns

theorem SameRegs.readRequest {put : Mem → Mem} {handler : Mem → ℕ → ℕ → sMBMasterInfo → eMBException × sMBMasterInfo}
    (h : SameRegs s s') (hh : ∀ rcv p n s', SameRegs s s' → SameRegs s (handler rcv p n s').2) :
    SameRegs s (readRequest replies put handler s').2 := by
  unfold Master.readRequest
  split
  · exact h
  · have hput : SameRegs s { s' with ucSndBuf := put s'.ucSndBuf } := ⟨h.mode, h.hold, h.ins⟩
    unfold waitReply
    cases replies s'.returned.length with
    | response rcv p n =>
      have hres := hh rcv p n _ hput
      exact ⟨hres.mode, hres.hold, hres.ins⟩
    | exception c => exact ⟨h.mode, h.hold, h.ins⟩
    | broken => exact ⟨h.mode, h.hold, h.ins⟩
    | silent => exact ⟨h.mode, h.hold, h.ins⟩

theorem SameRegs.requestHold (h : SameRegs s s') (q : ReadRequest) :
    SameRegs s (requestHold replies cur q s').2 := by
  refine h.readRequest fun rcv p n t ht => ⟨ht.mode, ?_, ht.ins⟩
  rw [← ht.hold, holdHandler, ht.mode]
  exact readHolding_synchronize ..

theorem SameRegs.requestCoils (h : SameRegs s s') (q : ReadRequest) :
    SameRegs s (requestCoils replies cur q s').2 :=
  h.readRequest fun _ _ _ _ ht => ⟨ht.mode, ht.hold, ht.ins⟩

theorem SameRegs.requestInputs (h : SameRegs s s') (q : ReadRequest) :
    SameRegs s (requestInputs replies cur q s').2 := by
  refine h.readRequest fun rcv p n t ht => ⟨ht.mode, ht.hold, ?_⟩
  rw [← ht.ins, inputHandler, ht.mode]
  exact readInput_synchronize ..

theorem SameRegs.sendAll {send : ReadRequest → sMBMasterInfo → eMBMasterReqErrCode × sMBMasterInfo}
    (hsend : ∀ q s', SameRegs s s' → SameRegs s (send q s').2) (qs : List ReadRequest)
    {st : eMBMasterReqErrCode × sMBMasterInfo} (h : SameRegs s st.2) : SameRegs s (sendAll send qs st).2 := by
  induction qs generalizing st with
  | nil => exact h
  | cons q qs ih => exact ih (hsend q st.2 h)

theorem SameRegs.timedOut (h : SameRegs s s') : SameRegs s (timedOut s') := ⟨h.mode, h.hold, h.ins⟩

/-- **The synchronising pass changes no register**, whatever the device replies. -/
theorem synchronize_sameRegs (replies : ℕ → Reply) (cur : sMBSlaveDevTables) (s : sMBMasterInfo) :
    SameRegs s (vMBMasterScanReadSlaveDevData replies cur true s) := by
  have hold {s'} (h : SameRegs s s') :
      SameRegs s (eMBMasterScanReadRegHold (Master.requestHold replies cur) cur.hold.sMBRegHoldTable s').2 := by
    rw [scanHold_eq]
    exact SameRegs.sendAll (fun q t ht => ht.requestHold q) _ h
  have coils {s'} (h : SameRegs s s') :
      SameRegs s (eMBMasterScanReadCoils (Master.requestCoils replies cur) cur.coils.sMBCoilTable s').2 := by
    rw [scanCoils_eq]
    exact SameRegs.sendAll (fun q t ht => ht.requestCoils q) _ h
  have ins {s'} (h : SameRegs s s') :
      SameRegs s (eMBMasterScanReadRegIn (Master.requestInputs replies cur) cur.ins.sMBRegInTable s').2 := by
    rw [scanInputs_eq]
    exact SameRegs.sendAll (fun q t ht => ht.requestInputs q) _ h
  have hstart : SameRegs s { s with eMBRunMode := .STATE_SYSN_DEV } := ⟨rfl, rfl, rfl⟩
  rw [vMBMasterScanReadSlaveDevData]
  simp only [if_true]
  split
  · exact (hold hstart).timedOut
  · split
    · exact (coils (hold hstart)).timedOut
    · split
      · exact (ins (coils (hold hstart))).timedOut
      · exact ins (coils (hold hstart))

theorem Loaded.of_same {dev : DeviceData} (hr : s'.regHolds = s.regHolds) (hi : s'.regIns = s.regIns) :
    Loaded dev cur s' ↔ Loaded dev cur s := by
  constructor
  · rintro ⟨hold, ins⟩
    rw [hr] at hold
    rw [hi] at ins
    exact ⟨hold, ins⟩
  · rintro ⟨hold, ins⟩
    constructor
    · rw [hr]
      exact hold
    · rw [hi]
      exact ins

end Registers

/-- **The synchronising pass does what it is for** exactly when there is nothing to do: every request is answered,
and the registers already have the data of the device. -/
theorem sync_loads_iff {replies : ℕ → Reply} {cur : sMBSlaveDevTables} {s : sMBMasterInfo} {dev : DeviceData}
    (h : ReadReady s cur) (hsync : s.psMBSlaveDevCur.xSynchronized = false) :
    SyncLoads dev cur replies s ↔ AllAnswered dev cur replies ∧ Loaded dev cur s := by
  obtain ⟨-, hold, hins⟩ := synchronize_sameRegs replies cur s
  have hpass := scanReadSlaveDev_eq replies h
  rw [if_pos hsync] at hpass
  have hload : Loaded dev cur (vMBMasterScanReadSlaveDev replies s) ↔ Loaded dev cur s := by
    rw [hpass]
    exact Loaded.of_same hold hins
  have hset : (vMBMasterScanReadSlaveDev replies s).psMBSlaveDevCur.xSynchronized = true := by rw [hpass]
  rw [SyncLoads]
  constructor
  · rintro ⟨-, hdone⟩
    exact (hdone hset).imp_right hload.mp
  · rintro ⟨hall, hsame⟩
    exact ⟨fun _ => hload.mpr hsame, fun _ => ⟨hall, hload.mpr hsame⟩⟩

/-- A holding register at the address 3 and an input register at the address 4. -/
def oneOfEach : sMBSlaveDevTables where
  hold := oneEntry
  coils := ⟨⟨[], 0, 0⟩, none⟩
  ins := ⟨⟨[⟨4, 0, 1000, .uint16, .RO, 1, some 0⟩], 0, 9⟩, some fun x => if x = 4 then some 0 else none⟩

/-- A device whose registers are all `w`. -/
def allOf (w : USHORT) : DeviceData := ⟨fun _ => w, fun _ => false, fun _ => w⟩

/-- Every reply is the word `w`. -/
def wordReply (w : USHORT) (_ : ℕ) : Reply := .response (storeList (fun _ => 0) 0 [3, 2, hi w, lo w]) 0 4

theorem allAnswered_oneOfEach (w : USHORT) : AllAnswered (allOf w) oneOfEach (wordReply w) := by
  have hans (a : USHORT) : answersRegs (fun _ => w) ⟨a, 1⟩ (wordReply w 0) := by
    refine ⟨rfl, rfl, ?_⟩
    intro k hk
    obtain rfl : k = 0 := Nat.lt_one_iff.mp hk
    exact append_hi_lo w
  constructor
  · intro k q hq
    have hone : holdRequests oneOfEach = [⟨3, 1⟩] := by decide
    rw [hone] at hq
    obtain rfl := List.mem_singleton.mp (List.mem_of_getElem? hq)
    exact hans 3
  · intro k q hq
    cases hq
  · intro k q hq
    have hone : inputRequests oneOfEach = [⟨4, 1⟩] := by decide
    rw [hone] at hq
    obtain rfl := List.mem_singleton.mp (List.mem_of_getElem? hq)
    exact hans 4

/-- The device has the data the variables have. -/
theorem sync_loads_zero : SyncLoads (allOf 0) oneOfEach (wordReply 0) (readyMaster oneOfEach false) := by
  have hload : Loaded (allOf 0) oneOfEach (readyMaster oneOfEach false) := by
    constructor
    · intro i e p he _ hp
      obtain ⟨rfl, rfl⟩ := oneEntry_get he
      cases hp
      decide
    · intro e he _ p hp
      obtain rfl := List.mem_singleton.mp he
      cases hp
      decide
  exact (sync_loads_iff (readReady_ready false) rfl).mpr ⟨allAnswered_oneOfEach 0, hload⟩

/-- **The device has 7 in its registers**: the pass does not load it, and takes the device for synchronised. -/
theorem sync_loads_fails : AllAnswered (allOf 7) oneOfEach (wordReply 7) ∧
    ¬SyncLoads (allOf 7) oneOfEach (wordReply 7) (readyMaster oneOfEach false) := by
  refine ⟨allAnswered_oneOfEach 7, ?_⟩
  intro h
  have hpre := ((h.1 (allAnswered_oneOfEach 7)).hold 0 _ 0 rfl nofun rfl).2
  exact absurd hpre (by decide)

end GreeIntense.Master

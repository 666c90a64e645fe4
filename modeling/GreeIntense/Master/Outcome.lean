import GreeIntense.Master.CoilResponse
import GreeIntense.Master.Execute
import GreeIntense.Master.HoldingSpec

/-!
# What the handlers make of a frame

Each handler either refuses a frame and leaves the master's data as they are, or takes it.  The exceptions are the
input registers, which are assigned before the range is refused, and the combined read and write, whose two ranges
are checked one after the other.

Addresses and counts are those of the send buffer, but for the acknowledgement of a coil request.
-/

namespace GreeIntense.Master

open Lib.Memory Lib.Bits
open Slave (runBits coilBytes loopBits_request)

/-! ### The callbacks -/

section Holding

variable {cur : sMBSlaveDevCommData} {mode : eMasterRunMode} {a n x : USHORT} {buf buf' : Mem} {q : ℕ} {r : RegHolds}
  {i : ℕ} {e : sMasterRegHoldData}

/-- The `n` registers from `a` on are in the range of the table, and the table is not empty. -/
structure HoldRange (cur : sMBSlaveDevCommData) (a n : USHORT) : Prop where
  entries : cur.sMBRegHoldTable.pvDataBuf ≠ []
  start : cur.sMBRegHoldTable.usStartAddr ≤ a
  stop : a.toNat + n.toNat ≤ cur.sMBRegHoldTable.usEndAddr.toNat + 1

/-- The callback takes the range: when the master does not scan it has nothing to do with it. -/
def HoldServed (cur : sMBSlaveDevCommData) (mode : eMasterRunMode) (a n : USHORT) : Prop :=
  mode = .STATE_SCAN_DEV → HoldRange cur a n

theorem regHoldingCB_refused (h : ¬HoldServed cur mode a n) (eMode : eMBRegisterMode) :
    eMBMasterRegHoldingCB cur mode buf q (a + 1) n eMode r = (.MB_ENOREG, r) := by
  simp only [HoldServed, Classical.not_imp] at h
  obtain ⟨hm, h⟩ := h
  rw [eMBMasterRegHoldingCB, if_neg (not_not_intro hm)]
  split
  · rfl
  · rename_i hne
    dsimp only
    rw [BitVec.add_sub_cancel, if_pos]
    by_contra hrange
    rw [not_or, BitVec.not_lt] at hrange
    exact h ⟨hne, hrange.1, by omega⟩

theorem regHoldingCB_scan (h : HoldRange cur a n) (eMode : eMBRegisterMode) :
    eMBMasterRegHoldingCB cur .STATE_SCAN_DEV buf q (a + 1) n eMode r =
      match eMode with
      | .MB_REG_READ => (.MB_ENOERR, regHoldReadLoop cur .STATE_SCAN_DEV buf n.toNat a q r)
      | .MB_REG_WRITE => (.MB_ENOERR, regHoldWrittenLoop cur n.toNat a r) := by
  have hrange : ¬(a < cur.sMBRegHoldTable.usStartAddr ∨
      (a.toNat + n.toNat : ℤ) - 1 > cur.sMBRegHoldTable.usEndAddr.toNat) := by
    have hstop := h.stop
    rw [not_or, BitVec.not_lt]
    exact ⟨h.start, by omega⟩
  rw [eMBMasterRegHoldingCB, if_neg (by decide), if_neg h.entries]
  dsimp only
  rw [BitVec.add_sub_cancel]
  refine (if_neg hrange).trans ?_
  cases eMode <;> rfl

theorem regHoldingCB_served (h : HoldServed cur mode a n) (eMode : eMBRegisterMode) :
    (eMBMasterRegHoldingCB cur mode buf q (a + 1) n eMode r).1 = .MB_ENOERR := by
  by_cases hm : mode = .STATE_SCAN_DEV
  · subst hm
    rw [regHoldingCB_scan (h rfl)]
    cases eMode <;> rfl
  · rw [eMBMasterRegHoldingCB, if_pos hm]

theorem regHoldReadLoop_congr {n : ℕ} (h : ∀ k < n, loadBE buf' (q + 2 * k) = loadBE buf (q + 2 * k)) :
    regHoldReadLoop cur mode buf' n a q r = regHoldReadLoop cur mode buf n a q r := by
  induction n generalizing a q r with
  | zero => rfl
  | succ n ih =>
    have h0 : loadBE buf' q = loadBE buf q := h 0 (by omega)
    rw [regHoldReadLoop, regHoldReadLoop, h0]
    apply ih
    intro k hk
    rw [show q + 2 + 2 * k = q + 2 * (k + 1) by omega]
    exact h (k + 1) (by omega)

/-- The callback of a read sees nothing but the words of the range. -/
theorem regHoldingCB_congr (h : ∀ k < n.toNat, loadBE buf' (q + 2 * k) = loadBE buf (q + 2 * k)) :
    eMBMasterRegHoldingCB cur mode buf' q x n .MB_REG_READ r =
      eMBMasterRegHoldingCB cur mode buf q x n .MB_REG_READ r := by
  unfold eMBMasterRegHoldingCB
  simp only [regHoldReadLoop_congr h]

/-- The previous values of the entries in the range are the values of their variables, as far as these are in
range. -/
def WrittenCurrent (cur : sMBSlaveDevCommData) (a : USHORT) (n : ℕ) (r : RegHolds) : Prop :=
  ∀ k < n, ∀ i e, eMBMasterRegHoldingMap cur (a + BitVec.ofNat 16 k) = some (i, e) → ackedPre i e r = r.usPreVal i

theorem regHoldWritten_of_acked (h : ackedPre i e r = r.usPreVal i) : regHoldWritten i e r = r := by
  have hpre : (regHoldWritten i e r).usPreVal = r.usPreVal := by
    funext j
    by_cases hji : j = i
    · rw [hji, regHoldWritten_same, h]
    · exact regHoldWritten_ne hji
  obtain ⟨vars, pre⟩ := r
  exact congrArg₂ RegHolds.mk regHoldWritten_vars hpre

/-- **An acknowledgement changes nothing** exactly when the previous values are current. -/
theorem regHoldWrittenLoop_eq_self {n : ℕ} : regHoldWrittenLoop cur n a r = r ↔ WrittenCurrent cur a n r := by
  constructor
  · intro h k hk i e hmap
    rw [← regHoldWrittenLoop_mapped hk hmap, h]
  · intro h
    induction n generalizing a with
    | zero => rfl
    | succ n ih =>
      have hat : writtenAt cur a r = r := by
        unfold writtenAt
        split
        · rename_i i e hmap
          exact regHoldWritten_of_acked (h 0 (by omega) i e (by rw [add_ofNat_zero]; exact hmap))
        · rfl
      rw [regHoldWrittenLoop_succ, hat]
      apply ih
      intro k hk i e hmap
      rw [add_ofNat_succ] at hmap
      exact h (k + 1) (by omega) i e hmap

end Holding

section Coils

variable {cur : sMBSlaveDevCoils} {mode : eMasterRunMode} {a n : USHORT} {buf : Mem} {q : ℕ} {r : Coils}

/-- The `n` coils from `a` on are in the range of the table, and the table is not empty. -/
structure CoilRange (cur : sMBSlaveDevCoils) (a n : USHORT) : Prop where
  entries : cur.sMBCoilTable.pvDataBuf ≠ []
  range : InCoilTable cur a n.toNat

theorem regCoilsCB_refused (h : ¬CoilRange cur a n) (eMode : Slave.eMBBitMode) :
    eMBMasterRegCoilsCB cur mode buf q (a + 1) n eMode r = (.MB_ENOREG, r) := by
  rw [eMBMasterRegCoilsCB]
  split
  · rfl
  · rename_i hne
    dsimp only
    rw [if_neg fun hrange => h ⟨hne, inCoilTable_iff.mp hrange⟩]

end Coils

section Inputs

variable {cur : sMBSlaveDevInputs} {mode : eMasterRunMode} {a n x w : USHORT} {buf vars : Mem} {q : ℕ}

/-- The callback of the input registers looks at them. -/
def InputScanned (mode : eMasterRunMode) : Prop := mode = .STATE_SCAN_DEV ∨ mode = .STATE_SCAN_DTU

/-- The `n` input registers from `a` on are in the range of the table. -/
structure InputRange (cur : sMBSlaveDevInputs) (a n : USHORT) : Prop where
  start : cur.sMBRegInTable.usStartAddr ≤ a
  stop : a.toNat + n.toNat ≤ cur.sMBRegInTable.usEndAddr.toNat + 1

/-- One pass of the loop, with the map. -/
def regInAt (cur : sMBSlaveDevInputs) (x w : USHORT) (vars : Mem) : Mem :=
  match eMBMasterRegInMap cur x with
  | some e => regInAssign e w vars
  | none => vars

/-- The passes of the loop over the words at `q`, for the addresses from `a` on. -/
def inputStores (cur : sMBSlaveDevInputs) (buf : Mem) (a : USHORT) (q k : ℕ) : Mem → Mem :=
  regInAt cur (a + BitVec.ofNat 16 k) (loadBE buf (q + 2 * k))

theorem regInLoop_eq {n : ℕ} : regInLoop cur buf n a q vars = storeRun (inputStores cur buf a q) n vars := by
  induction n generalizing a q vars with
  | zero => rfl
  | succ n ih =>
    have hshift : (fun k => inputStores cur buf a q (k + 1)) = inputStores cur buf (a + 1) (q + 2) := by
      funext k
      rw [inputStores, inputStores, add_ofNat_succ, show q + 2 * (k + 1) = q + 2 + 2 * k by omega]
    have hfirst : inputStores cur buf a q 0 vars = regInAt cur a (loadBE buf q) vars := by
      rw [inputStores, add_ofNat_zero, Nat.mul_zero, Nat.add_zero]
    rw [storeRun_cons, hshift, hfirst, regInLoop, ih]
    rfl

theorem assign_stores (t : DataType) (p : ℕ) (w : USHORT) (q : ℕ) :
    Leaves (fun vars => assign t vars p w) q ∨ ∃ b, Writes (fun vars => assign t vars p w) q b := by
  cases t with
  | uint16 => exact store16_stores p q w
  | int16 => exact store16_stores p q w
  | uint8 => exact store8_stores p q (lo w)
  | int8 => exact store8_stores p q (lo w)
  | other => exact Or.inl fun _ => rfl

theorem regInAt_stores (x w : USHORT) (q : ℕ) :
    Leaves (regInAt cur x w) q ∨ ∃ b, Writes (regInAt cur x w) q b := by
  unfold regInAt
  split
  · rename_i e _
    unfold regInAssign
    split
    · exact Or.inl fun _ => rfl
    · rename_i p _
      split
      · dsimp only
        split
        · exact assign_stores _ p _ q
        · exact Or.inl fun _ => rfl
      · exact Or.inl fun _ => rfl
  · exact Or.inl fun _ => rfl

/-- No byte of the variables gets a new value from the words at `q`: none is assigned, or the last one assigned is the
one it has. -/
def NothingNew (cur : sMBSlaveDevInputs) (buf : Mem) (a : USHORT) (n q : ℕ) (vars : Mem) : Prop :=
  ∀ b, (∃ j < n, Writes (inputStores cur buf a q j) b (vars b) ∧
      ∀ k < n, j < k → Leaves (inputStores cur buf a q k) b) ∨
    ∀ k < n, Leaves (inputStores cur buf a q k) b

/-- **The loop changes nothing** exactly when the words bring nothing new. -/
theorem regInLoop_eq_self {n : ℕ} : regInLoop cur buf n a q vars = vars ↔ NothingNew cur buf a n q vars := by
  rw [regInLoop_eq, funext_iff]
  apply forall_congr'
  intro b
  have hst : ∀ k < n, Leaves (inputStores cur buf a q k) b ∨ ∃ c, Writes (inputStores cur buf a q k) b c :=
    fun k _ => regInAt_stores _ _ b
  rw [storeRun_eq_iff hst, eq_self, and_true]

theorem regInLoop_congr {n : ℕ} {buf' : Mem} (h : ∀ k < n, loadBE buf' (q + 2 * k) = loadBE buf (q + 2 * k)) :
    regInLoop cur buf' n a q vars = regInLoop cur buf n a q vars := by
  induction n generalizing a q vars with
  | zero => rfl
  | succ n ih =>
    have h0 : loadBE buf' q = loadBE buf q := h 0 (by omega)
    rw [regInLoop, regInLoop, h0]
    apply ih
    intro k hk
    rw [show q + 2 + 2 * k = q + 2 * (k + 1) by omega]
    exact h (k + 1) (by omega)

/-- **The callback goes through its loop whether the range is right or not.** -/
theorem regInputCB_eq (hm : InputScanned mode) (hne : cur.sMBRegInTable.pvDataBuf ≠ []) :
    (eMBMasterRegInputCB cur mode buf q (a + 1) n vars).2 = regInLoop cur buf n.toNat a q vars ∧
      ((eMBMasterRegInputCB cur mode buf q (a + 1) n vars).1 = .MB_ENOERR ↔ InputRange cur a n) := by
  have hscan : ¬(mode ≠ .STATE_SCAN_DEV ∧ mode ≠ .STATE_SCAN_DTU) := by
    rw [not_and_or, not_not, not_not]
    exact hm
  rw [eMBMasterRegInputCB, if_neg hscan, if_neg (by simpa using hne)]
  dsimp only
  rw [BitVec.add_sub_cancel]
  refine ⟨rfl, ?_⟩
  by_cases hrange : a < cur.sMBRegInTable.usStartAddr ∨
      (a.toNat + n.toNat : ℤ) - 1 > cur.sMBRegInTable.usEndAddr.toNat
  · rw [if_pos hrange]
    refine iff_of_false (by decide) ?_
    intro h
    rcases hrange with hlt | hgt
    · exact absurd h.start (BitVec.not_le.mpr hlt)
    · have := h.stop
      omega
  · rw [if_neg hrange]
    rw [not_or, BitVec.not_lt] at hrange
    exact iff_of_true rfl ⟨hrange.1, by omega⟩

theorem regInputCB_idle (hm : ¬InputScanned mode) :
    eMBMasterRegInputCB cur mode buf q x n vars = (.MB_ENOERR, vars) := by
  rw [InputScanned, not_or] at hm
  rw [eMBMasterRegInputCB, if_pos hm]

theorem regInputCB_empty (hm : InputScanned mode) (h : cur.sMBRegInTable.pvDataBuf = []) :
    eMBMasterRegInputCB cur mode buf q x n vars = (.MB_ENOREG, vars) := by
  have hscan : ¬(mode ≠ .STATE_SCAN_DEV ∧ mode ≠ .STATE_SCAN_DTU) := by
    rw [not_and_or, not_not, not_not]
    exact hm
  rw [eMBMasterRegInputCB, if_neg hscan, if_pos (by rw [h]; rfl)]

end Inputs

/-! ### The handlers -/

/-- The frames have the same PDU of `usLen` bytes at `p`. -/
def SamePDU (rcv' rcv : Mem) (p usLen : ℕ) : Prop := ∀ j < usLen, rcv' (p + j) = rcv (p + j)

/-- The length and byte count the handlers of register reads look at, for `n` registers. -/
structure ReadFits (rcv : Mem) (p usLen : ℕ) (n : USHORT) : Prop where
  len : 2 ≤ usLen
  pos : n ≥ 1
  count : 2 * n.toNat = (rcv (p + 1)).toNat

/-- The length and byte count the handler of coil reads looks at, for `n` coils. -/
structure CoilsFit (rcv : Mem) (p usLen : ℕ) (n : USHORT) : Prop where
  len : 2 ≤ usLen
  pos : n ≥ 1
  count : coilBytes n = rcv (p + 1)

variable {mode : eMasterRunMode} {snd rcv rcv' : Mem} {p usLen : ℕ}

theorem SamePDU.symm (h : SamePDU rcv' rcv p usLen) : SamePDU rcv rcv' p usLen := fun j hj => (h j hj).symm

theorem SamePDU.word (h : SamePDU rcv' rcv p usLen) {j : ℕ} (hj : j + 2 ≤ usLen) :
    loadBE rcv' (p + j) = loadBE rcv (p + j) := by
  rw [loadBE, loadBE, h j (by omega), Nat.add_assoc, h (j + 1) (by omega)]

theorem SamePDU.words (h : SamePDU rcv' rcv p usLen) {n : ℕ} (hlen : 2 + 2 * n ≤ usLen) :
    ∀ k < n, loadBE rcv' (p + 2 + 2 * k) = loadBE rcv (p + 2 + 2 * k) := by
  intro k hk
  rw [Nat.add_assoc]
  exact h.word (by omega)

theorem SamePDU.readFits (h : SamePDU rcv' rcv p usLen) {n : USHORT} (hf : ReadFits rcv' p usLen n) :
    ReadFits rcv p usLen n :=
  ⟨hf.len, hf.pos, by rw [← h 1 (by have := hf.len; omega), hf.count]⟩

theorem SamePDU.coilsFit (h : SamePDU rcv' rcv p usLen) {n : USHORT} (hf : CoilsFit rcv' p usLen n) :
    CoilsFit rcv p usLen n :=
  ⟨hf.len, hf.pos, by rw [← h 1 (by have := hf.len; omega), hf.count]⟩

/-- The handler answers with an exception and leaves its data. -/
def Refuses {α : Type} (x : eMBException × α) (r : α) : Prop := x.1 ≠ .MB_EX_NONE ∧ x.2 = r

theorem refuses_value {α : Type} (r : α) : Refuses (.MB_EX_ILLEGAL_DATA_VALUE, r) r := ⟨nofun, rfl⟩

/-- A check of a handler: what does not pass is refused. -/
theorem refuses_check {α : Type} {c : Prop} [Decidable c] {x : eMBException × α} {r : α} (h : c → Refuses x r) :
    Refuses (if c then x else (.MB_EX_ILLEGAL_DATA_VALUE, r)) r := by
  split
  · rename_i hc
    exact h hc
  · exact refuses_value r

theorem refuses_noreg {α : Type} (r : α) :
    Refuses (prveMBMasterError2Exception .MB_ENOREG, r) r := ⟨nofun, rfl⟩

section HoldHandlers

variable {cur : sMBSlaveDevCommData} {r : RegHolds}

theorem readHold_refuses
    (h : ReadFits rcv p usLen (loadBE snd 3) → ¬HoldServed cur mode (loadBE snd 1) (loadBE snd 3)) :
    Refuses (eMBMasterFuncReadHoldingRegister cur mode false snd rcv p usLen r) r := by
  unfold eMBMasterFuncReadHoldingRegister
  rw [if_neg (by decide)]
  apply refuses_check
  intro hlen
  apply refuses_check
  intro hcount
  rw [regHoldingCB_refused (h ⟨hlen, hcount.1, hcount.2⟩)]
  exact refuses_noreg r

theorem readHold_takes (hf : ReadFits rcv p usLen (loadBE snd 3))
    (hs : HoldServed cur mode (loadBE snd 1) (loadBE snd 3)) :
    (eMBMasterFuncReadHoldingRegister cur mode false snd rcv p usLen r).1 = .MB_EX_NONE := by
  unfold eMBMasterFuncReadHoldingRegister
  rw [if_neg (by decide), if_pos hf.len]
  dsimp only
  rw [if_pos ⟨hf.pos, hf.count⟩, if_neg (not_not_intro (regHoldingCB_served hs _))]

theorem readHold_congr (h : SamePDU rcv' rcv p usLen) (hlen : 2 + 2 * (loadBE snd 3).toNat ≤ usLen) :
    eMBMasterFuncReadHoldingRegister cur mode false snd rcv' p usLen r =
      eMBMasterFuncReadHoldingRegister cur mode false snd rcv p usLen r := by
  unfold eMBMasterFuncReadHoldingRegister
  dsimp only
  rw [h 1 (by omega), regHoldingCB_congr (h.words hlen)]

/-- What the handler of a register acknowledgement looks at. -/
structure HoldAck (cur : sMBSlaveDevCommData) (mode : eMasterRunMode) (snd : Mem) (usLen : ℕ) : Prop where
  len : usLen = 5
  count : (snd 5).toNat = 2 * (loadBE snd 3).toNat
  served : HoldServed cur mode (loadBE snd 1) (loadBE snd 3)

theorem writeHold_refuses (h : ¬HoldAck cur mode snd usLen) :
    Refuses (eMBMasterFuncWriteMultipleHoldingRegister cur mode false snd rcv p usLen r) r := by
  unfold eMBMasterFuncWriteMultipleHoldingRegister
  apply refuses_check
  intro hlen
  have hlen : usLen = 5 := hlen.resolve_right (by decide)
  apply refuses_check
  intro hcount
  rw [regHoldingCB_refused fun hs => h ⟨hlen, hcount, hs⟩]
  exact refuses_noreg r

theorem writeHold_takes (h : HoldAck cur mode snd usLen) :
    (eMBMasterFuncWriteMultipleHoldingRegister cur mode false snd rcv p usLen r).1 = .MB_EX_NONE := by
  unfold eMBMasterFuncWriteMultipleHoldingRegister
  rw [if_pos (Or.inl h.len)]
  dsimp only
  rw [if_pos h.count, if_neg (not_not_intro (regHoldingCB_served h.served _))]

/-- The acknowledgement of registers is not read at all. -/
theorem writeHold_congr : eMBMasterFuncWriteMultipleHoldingRegister cur mode false snd rcv' p usLen r =
    eMBMasterFuncWriteMultipleHoldingRegister cur mode false snd rcv p usLen r := rfl

/-- The response to a read and write is refused, whatever is done with the part of the write before. -/
theorem readWrite_count (hlen : 2 ≤ usLen) (h : 2 * (loadBE snd 3).toNat ≠ (rcv (p + 1)).toNat) :
    Refuses (eMBMasterFuncReadWriteMultipleHoldingRegister cur mode false snd rcv p usLen r) r := by
  unfold eMBMasterFuncReadWriteMultipleHoldingRegister
  rw [if_neg (by decide), if_pos hlen]
  dsimp only
  rw [if_neg h]
  exact refuses_value r

theorem readWrite_writeRange (hlen : 2 ≤ usLen) (h : ¬HoldServed cur mode (loadBE snd 5) (loadBE snd 7)) :
    Refuses (eMBMasterFuncReadWriteMultipleHoldingRegister cur mode false snd rcv p usLen r) r := by
  unfold eMBMasterFuncReadWriteMultipleHoldingRegister
  rw [if_neg (by decide), if_pos hlen]
  apply refuses_check
  intro hc
  rw [regHoldingCB_refused h]
  exact refuses_noreg r

/-- With the range of the write in order, the one of the read decides; the write has been done. -/
theorem readWrite_readRange (hlen : 2 ≤ usLen) (hc : 2 * (loadBE snd 3).toNat = (rcv (p + 1)).toNat)
    (hw : HoldServed cur mode (loadBE snd 5) (loadBE snd 7))
    (hr : ¬HoldServed cur mode (loadBE snd 1) (loadBE snd 3)) :
    Refuses (eMBMasterFuncReadWriteMultipleHoldingRegister cur mode false snd rcv p usLen r)
      (regHoldWrittenLoop cur (loadBE snd 7).toNat (loadBE snd 5) r) := by
  obtain rfl : mode = .STATE_SCAN_DEV := by
    by_contra hm
    exact hr fun h => absurd h hm
  unfold eMBMasterFuncReadWriteMultipleHoldingRegister
  rw [if_neg (by decide), if_pos hlen]
  dsimp only
  rw [if_pos hc, regHoldingCB_scan (hw rfl)]
  dsimp only
  rw [if_pos rfl, regHoldingCB_refused hr]
  exact refuses_noreg _

theorem readWrite_takes (hc : 2 * (loadBE snd 3).toNat = (rcv (p + 1)).toNat)
    (hw : HoldServed cur mode (loadBE snd 5) (loadBE snd 7)) (hr : HoldServed cur mode (loadBE snd 1) (loadBE snd 3)) :
    (eMBMasterFuncReadWriteMultipleHoldingRegister cur mode false snd rcv p usLen r).1 = .MB_EX_NONE := by
  unfold eMBMasterFuncReadWriteMultipleHoldingRegister
  rw [if_neg (by decide)]
  split
  · dsimp only
    rw [if_pos hc, if_pos (regHoldingCB_served hw _), if_neg (not_not_intro (regHoldingCB_served hr _))]
  · rfl

/-- A response of one byte is taken as it is. -/
theorem readWrite_short (hlen : usLen < 2) :
    eMBMasterFuncReadWriteMultipleHoldingRegister cur mode false snd rcv p usLen r = (.MB_EX_NONE, r) := by
  unfold eMBMasterFuncReadWriteMultipleHoldingRegister
  rw [if_neg (by decide), if_neg (by omega)]

end HoldHandlers

section CoilHandlers

variable {cur : sMBSlaveDevCoils} {r : Coils}

theorem readCoils_refuses (h : CoilsFit rcv p usLen (loadBE snd 3) → ¬CoilRange cur (loadBE snd 1) (loadBE snd 3)) :
    Refuses (eMBMasterFuncReadCoils cur mode false snd rcv p usLen r) r := by
  unfold eMBMasterFuncReadCoils
  rw [if_neg (by decide)]
  apply refuses_check
  intro hlen
  apply refuses_check
  intro hcount
  rw [regCoilsCB_refused (h ⟨hlen, hcount.1, hcount.2⟩)]
  exact refuses_noreg r

theorem readCoils_takes (hf : CoilsFit rcv p usLen (loadBE snd 3)) (ht : CoilRange cur (loadBE snd 1) (loadBE snd 3)) :
    eMBMasterFuncReadCoils cur mode false snd rcv p usLen r =
      (.MB_EX_NONE, readRun cur mode (bitAt rcv (p + 2)) (runBits (loadBE snd 3).toNat) 0 (loadBE snd 1) r) := by
  unfold eMBMasterFuncReadCoils
  rw [if_neg (by decide), if_pos hf.len]
  dsimp only
  rw [if_pos ⟨hf.pos, hf.count⟩, regCoilsCB_read ht.entries ht.range]
  rfl

/-- What the handler of a coil acknowledgement looks at. -/
structure CoilAck (cur : sMBSlaveDevCoils) (snd rcv : Mem) (p usLen : ℕ) : Prop where
  len : usLen = 5
  pos : loadBE rcv (p + 3) ≥ 1
  count : coilBytes (loadBE rcv (p + 3)) = snd 5
  range : CoilRange cur (loadBE rcv (p + 1)) (loadBE rcv (p + 3))

theorem writeCoils_refuses (h : ¬CoilAck cur snd rcv p usLen) :
    Refuses (eMBMasterFuncWriteMultipleCoils cur mode false snd rcv p usLen r) r := by
  unfold eMBMasterFuncWriteMultipleCoils
  apply refuses_check
  intro hlen
  have hlen : usLen = 5 := hlen.resolve_right (by decide)
  apply refuses_check
  intro hcount
  rw [regCoilsCB_refused fun hs => h ⟨hlen, hcount.1, hcount.2, hs⟩]
  exact refuses_noreg r

theorem writeCoils_takes (h : CoilAck cur snd rcv p usLen) :
    (eMBMasterFuncWriteMultipleCoils cur mode false snd rcv p usLen r).1 = .MB_EX_NONE := by
  unfold eMBMasterFuncWriteMultipleCoils
  rw [if_pos (Or.inl h.len)]
  dsimp only
  rw [if_pos ⟨h.pos, h.count⟩, regCoilsCB_write h.range.entries h.range.range]
  rfl

theorem writeCoils_congr (h : SamePDU rcv' rcv p usLen) :
    eMBMasterFuncWriteMultipleCoils cur mode false snd rcv' p usLen r =
      eMBMasterFuncWriteMultipleCoils cur mode false snd rcv p usLen r := by
  unfold eMBMasterFuncWriteMultipleCoils
  by_cases hlen : usLen = 5
  · rw [h.word (by omega), h.word (by omega)]
  · rw [if_neg (by simpa using hlen), if_neg (by simpa using hlen)]

end CoilHandlers

section InputHandler

variable {cur : sMBSlaveDevInputs} {vars : Mem}

theorem readInput_value (h : ¬ReadFits rcv p usLen (loadBE snd 3)) :
    Refuses (eMBMasterFuncReadInputRegister cur mode false snd rcv p usLen vars) vars := by
  unfold eMBMasterFuncReadInputRegister
  rw [if_neg (by decide)]
  apply refuses_check
  intro hlen
  apply refuses_check
  intro hcount
  exact absurd ⟨hlen, hcount.1, hcount.2⟩ h

theorem readInput_eq (hf : ReadFits rcv p usLen (loadBE snd 3)) :
    eMBMasterFuncReadInputRegister cur mode false snd rcv p usLen vars =
      let c := eMBMasterRegInputCB cur mode rcv (p + 2) (loadBE snd 1 + 1) (loadBE snd 3) vars
      if c.1 ≠ .MB_ENOERR then (prveMBMasterError2Exception c.1, c.2) else (.MB_EX_NONE, c.2) := by
  unfold eMBMasterFuncReadInputRegister
  rw [if_neg (by decide), if_pos hf.len]
  dsimp only
  rw [if_pos ⟨hf.pos, hf.count⟩]

theorem readInput_refuses (hm : InputScanned mode) (h : cur.sMBRegInTable.pvDataBuf = []) :
    Refuses (eMBMasterFuncReadInputRegister cur mode false snd rcv p usLen vars) vars := by
  by_cases hf : ReadFits rcv p usLen (loadBE snd 3)
  · rw [readInput_eq hf, regInputCB_empty hm h]
    exact refuses_noreg vars
  · exact readInput_value hf

/-- **A range that is refused has been assigned before.** -/
theorem readInput_range (hf : ReadFits rcv p usLen (loadBE snd 3)) (hm : InputScanned mode)
    (hne : cur.sMBRegInTable.pvDataBuf ≠ []) (h : ¬InputRange cur (loadBE snd 1) (loadBE snd 3)) :
    Refuses (eMBMasterFuncReadInputRegister cur mode false snd rcv p usLen vars)
      (regInLoop cur rcv (loadBE snd 3).toNat (loadBE snd 1) (p + 2) vars) := by
  obtain ⟨hloop, hrange⟩ := @regInputCB_eq cur mode (loadBE snd 1) (loadBE snd 3) rcv vars (p + 2) hm hne
  rw [readInput_eq hf]
  dsimp only
  rw [if_pos (mt hrange.mp h), hloop]
  refine ⟨?_, rfl⟩
  rw [prveMBMasterError2Exception, Ne, error2Exception_eq_none]
  exact mt hrange.mp h

theorem readInput_takes (hf : ReadFits rcv p usLen (loadBE snd 3))
    (hs : InputScanned mode → cur.sMBRegInTable.pvDataBuf ≠ [] ∧ InputRange cur (loadBE snd 1) (loadBE snd 3)) :
    (eMBMasterFuncReadInputRegister cur mode false snd rcv p usLen vars).1 = .MB_EX_NONE := by
  rw [readInput_eq hf]
  by_cases hm : InputScanned mode
  · obtain ⟨-, hrange⟩ := @regInputCB_eq cur mode (loadBE snd 1) (loadBE snd 3) rcv vars (p + 2) hm (hs hm).1
    dsimp only
    rw [if_neg (not_not_intro (hrange.mpr (hs hm).2))]
  · rw [regInputCB_idle hm]
    rfl

theorem readInput_congr (h : SamePDU rcv' rcv p usLen) (hlen : 2 + 2 * (loadBE snd 3).toNat ≤ usLen) :
    eMBMasterFuncReadInputRegister cur mode false snd rcv' p usLen vars =
      eMBMasterFuncReadInputRegister cur mode false snd rcv p usLen vars := by
  have hcb (x : USHORT) : eMBMasterRegInputCB cur mode rcv' (p + 2) x (loadBE snd 3) vars =
      eMBMasterRegInputCB cur mode rcv (p + 2) x (loadBE snd 3) vars := by
    unfold eMBMasterRegInputCB
    dsimp only
    rw [regInLoop_congr (h.words hlen)]
  unfold eMBMasterFuncReadInputRegister
  dsimp only
  rw [h 1 (by omega), hcb]

end InputHandler

end GreeIntense.Master

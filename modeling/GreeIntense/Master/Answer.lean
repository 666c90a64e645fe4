import GreeIntense.Master.Outcome

/-!
# When only the answer to the request is applied

A request is outstanding, and a frame comes from the device it went to.  Only the answer to the request should be
applied: the frame with its function code and the length it must have.  `answer_only_iff` says for which frames that
is so.
-/

namespace GreeIntense.Master

open Lib.Memory Lib.Bits
open Slave (coilBytes)

/-! ### Requests and answers -/

/-- The requests, with what their functions put into the send buffer. -/
inductive SentRequest
  | readCoils (usCoilAddr usNCoils : USHORT)
  | readHold (usRegAddr usNRegs : USHORT)
  | readInput (usRegAddr usNRegs : USHORT)
  | writeCoils (usCoilAddr usNCoils : USHORT) (pucDataBuffer : Mem)
  | writeHold (usRegAddr : USHORT) (pusDataBuffer : List USHORT)

namespace SentRequest

def put : SentRequest → Mem → Mem
  | readCoils a n => eMBMasterReqReadCoils a n
  | readHold a n => eMBMasterReqReadHoldingRegister a n
  | readInput a n => eMBMasterReqReadInputRegister a n
  | writeCoils a n data => eMBMasterReqWriteMultipleCoils a n data
  | writeHold a ws => eMBMasterReqWriteMultipleHoldingRegister a ws

def code : SentRequest → UCHAR
  | readCoils .. => MB_FUNC_READ_COILS
  | readHold .. => MB_FUNC_READ_HOLDING_REGISTER
  | readInput .. => MB_FUNC_READ_INPUT_REGISTER
  | writeCoils .. => MB_FUNC_WRITE_MULTIPLE_COILS
  | writeHold .. => MB_FUNC_WRITE_MULTIPLE_REGISTERS

def addr : SentRequest → USHORT
  | readCoils a _ | readHold a _ | readInput a _ | writeCoils a _ _ | writeHold a _ => a

def count : SentRequest → USHORT
  | readCoils _ n | readHold _ n | readInput _ n | writeCoils _ n _ => n
  | writeHold _ ws => BitVec.ofNat 16 ws.length

/-- The number of data bytes in the answer to a read. -/
def byteCount : SentRequest → ℕ
  | readCoils _ n => (n.toNat + 7) / 8
  | readHold _ n | readInput _ n => 2 * n.toNat
  | writeCoils .. | writeHold .. => 0

/-- **The PDU of `usLen` bytes at `p` is the answer to the request.** -/
def Answer (q : SentRequest) (rcv : Mem) (p usLen : ℕ) : Prop :=
  rcv p = q.code ∧
    match q with
    | readCoils .. | readHold .. | readInput .. => usLen = 2 + q.byteCount ∧ (rcv (p + 1)).toNat = q.byteCount
    | writeCoils .. | writeHold .. => usLen = 5 ∧ loadBE rcv (p + 1) = q.addr ∧ loadBE rcv (p + 3) = q.count

theorem code_lt (q : SentRequest) : q.code < MB_FUNC_ERROR := by cases q <;> simp [code]

/-- The master with the request in the send buffer. -/
def sent (q : SentRequest) (s : sMBMasterInfo) : sMBMasterInfo := { s with ucSndBuf := q.put s.ucSndBuf }

section Lengths

variable {q : SentRequest} {rcv : Mem} {p usLen : ℕ}

theorem Answer.coils_len (h : q.Answer rcv p usLen) (hc : rcv p = MB_FUNC_READ_COILS) :
    usLen = 2 + (q.count.toNat + 7) / 8 := by
  rw [h.1] at hc
  cases q <;> simp [code] at hc
  exact h.2.1

theorem Answer.hold_len (h : q.Answer rcv p usLen) (hc : rcv p = MB_FUNC_READ_HOLDING_REGISTER) :
    usLen = 2 + 2 * q.count.toNat := by
  rw [h.1] at hc
  cases q <;> simp [code] at hc
  exact h.2.1

theorem Answer.input_len (h : q.Answer rcv p usLen) (hc : rcv p = MB_FUNC_READ_INPUT_REGISTER) :
    usLen = 2 + 2 * q.count.toNat := by
  rw [h.1] at hc
  cases q <;> simp [code] at hc
  exact h.2.1

end Lengths

theorem put_get (q : SentRequest) (snd : Mem) : loadBE (q.put snd) 1 = q.addr ∧ loadBE (q.put snd) 3 = q.count := by
  obtain ⟨rest, hput⟩ : ∃ rest, q.put snd =
      storeList snd 0 (q.code :: hi q.addr :: lo q.addr :: hi q.count :: lo q.count :: rest) := by
    cases q <;> exact ⟨_, rfl⟩
  have h : Holds (q.put snd) 0 (q.code :: hi q.addr :: lo q.addr :: hi q.count :: lo q.count :: rest) := by
    rw [hput]
    exact holds_storeList
  simp only [holds_cons, Nat.zero_add, Nat.reduceAdd] at h
  obtain ⟨-, h1, h2, h3, h4, -⟩ := h
  exact ⟨by rw [loadBE, h1, h2, append_hi_lo], by rw [loadBE, h3, h4, append_hi_lo]⟩

end SentRequest

variable (cur : sMBSlaveDevTables) (q : SentRequest) (rcv : Mem) (pos p usLen : ℕ) (s : sMBMasterInfo)

/-- **Only the answer is applied**: every other frame ends the request with an error and leaves the master's data as
they are; and no byte beyond the PDU is used. -/
structure AppliedOnly : Prop where
  answer : ¬q.Answer rcv p usLen →
    handleFrame cur rcv pos (q.sent s) = (.EV_MASTER_ERROR_EXECUTE_FUNCTION, q.sent s)
  bytes : ∀ rcv', SamePDU rcv' rcv p usLen →
    eMBMasterExecute cur rcv' p usLen (q.sent s) = eMBMasterExecute cur rcv p usLen (q.sent s)

/-- **What the code needs for that**: the function code of the frame decides which checks are made. -/
structure OnlyAnswer : Prop where
  exception : MB_FUNC_ERROR ≤ rcv p → 2 ≤ usLen ∧ rcv (p + 1) ≠ 0
  handled : rcv p < MB_FUNC_ERROR → rcv p ∈ (xMasterFuncHandlers cur).map Prod.fst
  readCoils : rcv p = MB_FUNC_READ_COILS → CoilsFit rcv p usLen q.count → CoilRange cur.coils q.addr q.count →
    q.Answer rcv p usLen ∧ SpareIdle cur.coils q.addr q.count.toNat
  readHold : rcv p = MB_FUNC_READ_HOLDING_REGISTER → ReadFits rcv p usLen q.count →
    HoldServed cur.hold s.eMBRunMode q.addr q.count → q.Answer rcv p usLen
  readInput : rcv p = MB_FUNC_READ_INPUT_REGISTER → ReadFits rcv p usLen q.count →
    (InputScanned s.eMBRunMode → cur.ins.sMBRegInTable.pvDataBuf ≠ []) →
    q.Answer rcv p usLen ∨
      InputScanned s.eMBRunMode ∧ ¬InputRange cur.ins q.addr q.count ∧
        ∀ rcv', SamePDU rcv' rcv p usLen → NothingNew cur.ins rcv' q.addr q.count.toNat (p + 2) s.regIns
  writeHold : rcv p = MB_FUNC_WRITE_MULTIPLE_REGISTERS →
    HoldAck cur.hold s.eMBRunMode (q.put s.ucSndBuf) usLen → q.Answer rcv p usLen
  writeCoils : rcv p = MB_FUNC_WRITE_MULTIPLE_COILS →
    CoilAck cur.coils (q.put s.ucSndBuf) rcv p usLen → q.Answer rcv p usLen
  readWrite : rcv p = MB_FUNC_READWRITE_MULTIPLE_REGISTERS →
    let usRegWriteAddress := loadBE (q.put s.ucSndBuf) 5
    let usRegWriteCount := loadBE (q.put s.ucSndBuf) 7
    2 ≤ usLen ∧ (2 * q.count.toNat = (rcv (p + 1)).toNat →
      HoldServed cur.hold s.eMBRunMode usRegWriteAddress usRegWriteCount →
        ¬HoldServed cur.hold s.eMBRunMode q.addr q.count ∧
          WrittenCurrent cur.hold usRegWriteAddress usRegWriteCount.toNat s.regHolds)

variable {cur q rcv pos p usLen s} {rcv' : Mem}

/-! ### The dispatch -/

theorem frameReceived_pos {ucMBDestAddr : UCHAR} (h : frameReceived rcv pos ucMBDestAddr = some (p, usLen)) :
    0 < usLen := by
  unfold frameReceived eMBMasterRTUReceive at h
  split at h
  · rename_i addr p' n hrecv
    split at hrecv
    · rename_i hpos
      have h4 : 4 ≤ pos := hpos.1
      split at h <;> cases hrecv <;> cases h
      omega
    · cases hrecv
  · cases h

theorem handleFrame_eq (h : frameReceived rcv pos s.psMBSlaveDevCur.ucDevAddr = some (p, usLen)) :
    handleFrame cur rcv pos (q.sent s) =
      (executed (eMBMasterExecute cur rcv p usLen (q.sent s)).1, (eMBMasterExecute cur rcv p usLen (q.sent s)).2) := by
  have h' : frameReceived rcv pos (q.sent s).psMBSlaveDevCur.ucDevAddr = some (p, usLen) := h
  rw [handleFrame, h']

/-- The master's data with one part set. -/
def sMBMasterInfo.setHolds (s : sMBMasterInfo) (r : RegHolds) : sMBMasterInfo := { s with regHolds := r }

def sMBMasterInfo.setCoils (s : sMBMasterInfo) (r : Coils) : sMBMasterInfo := { s with coils := r }

def sMBMasterInfo.setIns (s : sMBMasterInfo) (vars : Mem) : sMBMasterInfo := { s with regIns := vars }

/-- What the poll task makes of a handler's answer, which is for one part of the master's data. -/
def handled {α : Type} (set : α → sMBMasterInfo) (x : eMBException × α) : Bool × sMBMasterInfo :=
  (decide (x.1 ≠ .MB_EX_NONE), set x.2)

theorem handled_taken {α : Type} {set : α → sMBMasterInfo} {x : eMBException × α} (h : x.1 = .MB_EX_NONE) :
    (handled set x).1 = false := decide_eq_false (not_not_intro h)

theorem Refuses.handled {α : Type} {set : α → sMBMasterInfo} {x : eMBException × α} {r : α} (h : Refuses x r) :
    handled set x = (true, set r) := by
  rw [Master.handled, h.2, decide_eq_true h.1]

section Handlers

variable (hb : s.psMBSlaveDevCur.ucDevAddr ≠ MB_ADDRESS_BROADCAST)
include hb

theorem execute_readHold (hc : rcv p = MB_FUNC_READ_HOLDING_REGISTER) : eMBMasterExecute cur rcv p usLen s =
    handled s.setHolds
      (eMBMasterFuncReadHoldingRegister cur.hold s.eMBRunMode false s.ucSndBuf rcv p usLen s.regHolds) := by
  rw [execute_handler hc (by decide) rfl, holdHandler, decide_eq_false hb]
  rfl

theorem execute_readInput (hc : rcv p = MB_FUNC_READ_INPUT_REGISTER) : eMBMasterExecute cur rcv p usLen s =
    handled s.setIns
      (eMBMasterFuncReadInputRegister cur.ins s.eMBRunMode false s.ucSndBuf rcv p usLen s.regIns) := by
  rw [execute_handler hc (by decide) rfl, inputHandler, decide_eq_false hb]
  rfl

theorem execute_readCoils (hc : rcv p = MB_FUNC_READ_COILS) : eMBMasterExecute cur rcv p usLen s =
    handled s.setCoils
      (eMBMasterFuncReadCoils cur.coils s.eMBRunMode false s.ucSndBuf rcv p usLen s.coils) := by
  rw [execute_handler hc (by decide) rfl, coilHandler, decide_eq_false hb]
  rfl

theorem execute_writeHold (hc : rcv p = MB_FUNC_WRITE_MULTIPLE_REGISTERS) : eMBMasterExecute cur rcv p usLen s =
    handled s.setHolds
      (eMBMasterFuncWriteMultipleHoldingRegister cur.hold s.eMBRunMode false s.ucSndBuf rcv p usLen s.regHolds) := by
  rw [execute_handler hc (by decide) rfl, writeHoldHandler, decide_eq_false hb]
  rfl

theorem execute_writeCoils (hc : rcv p = MB_FUNC_WRITE_MULTIPLE_COILS) : eMBMasterExecute cur rcv p usLen s =
    handled s.setCoils
      (eMBMasterFuncWriteMultipleCoils cur.coils s.eMBRunMode false s.ucSndBuf rcv p usLen s.coils) := by
  rw [execute_handler hc (by decide) rfl, writeCoilsHandler, decide_eq_false hb]
  rfl

theorem execute_readWrite (hc : rcv p = MB_FUNC_READWRITE_MULTIPLE_REGISTERS) : eMBMasterExecute cur rcv p usLen s =
    handled s.setHolds
      (eMBMasterFuncReadWriteMultipleHoldingRegister cur.hold s.eMBRunMode false s.ucSndBuf rcv p usLen
        s.regHolds) := by
  rw [execute_handler hc (by decide) rfl, readWriteHandler, decide_eq_false hb]
  rfl

end Handlers

/-! ### Refused and taken -/

section Frame

variable (hrecv : frameReceived rcv pos s.psMBSlaveDevCur.ucDevAddr = some (p, usLen))
include hrecv

theorem applied_of_refused
    (h : ∀ rcv', SamePDU rcv' rcv p usLen → eMBMasterExecute cur rcv' p usLen (q.sent s) = (true, q.sent s)) :
    AppliedOnly cur q rcv pos p usLen s := by
  have hself := h rcv fun _ _ => rfl
  constructor
  · intro _
    rw [handleFrame_eq hrecv, hself]
    rfl
  · intro rcv' hsame
    rw [h rcv' hsame, hself]

/-- A frame that is taken must be the answer, and its PDU all that is used. -/
theorem applied_iff_of_taken (h : (eMBMasterExecute cur rcv p usLen (q.sent s)).1 = false) :
    AppliedOnly cur q rcv pos p usLen s ↔ q.Answer rcv p usLen ∧
      ∀ rcv', SamePDU rcv' rcv p usLen →
        eMBMasterExecute cur rcv' p usLen (q.sent s) = eMBMasterExecute cur rcv p usLen (q.sent s) := by
  constructor
  · intro ha
    refine ⟨?_, ha.bytes⟩
    by_contra hno
    have hfail := ha.answer hno
    rw [handleFrame_eq hrecv, h] at hfail
    have hevent : executed false = .EV_MASTER_ERROR_EXECUTE_FUNCTION := congrArg Prod.fst hfail
    exact absurd hevent (by decide)
  · rintro ⟨hans, hbytes⟩
    exact ⟨fun hno => absurd hans hno, hbytes⟩

/-- A frame that fails and is not the answer must leave everything, whatever stands behind it. -/
theorem applied_iff_of_fails {after : Mem → sMBMasterInfo} (hno : ¬q.Answer rcv p usLen)
    (h : ∀ rcv', SamePDU rcv' rcv p usLen → eMBMasterExecute cur rcv' p usLen (q.sent s) = (true, after rcv')) :
    AppliedOnly cur q rcv pos p usLen s ↔ ∀ rcv', SamePDU rcv' rcv p usLen → after rcv' = q.sent s := by
  constructor
  · intro ha rcv' hsame
    have hfail := ha.answer hno
    rw [handleFrame_eq hrecv, ← ha.bytes rcv' hsame, h rcv' hsame] at hfail
    exact congrArg Prod.snd hfail
  · intro hafter
    refine applied_of_refused hrecv ?_
    intro rcv' hsame
    rw [h rcv' hsame, hafter rcv' hsame]

/-- A handler that refuses what it does not take. -/
theorem applied_iff_of_takes {takes : Prop} (ht : takes → (eMBMasterExecute cur rcv p usLen (q.sent s)).1 = false)
    (hr : ¬takes → ∀ rcv', SamePDU rcv' rcv p usLen →
      eMBMasterExecute cur rcv' p usLen (q.sent s) = (true, q.sent s))
    (hbytes : q.Answer rcv p usLen → ∀ rcv', SamePDU rcv' rcv p usLen →
      eMBMasterExecute cur rcv' p usLen (q.sent s) = eMBMasterExecute cur rcv p usLen (q.sent s)) :
    AppliedOnly cur q rcv pos p usLen s ↔ (takes → q.Answer rcv p usLen) := by
  by_cases h : takes
  · rw [applied_iff_of_taken hrecv (ht h)]
    exact ⟨fun ha _ => ha.1, fun ha => ⟨ha h, hbytes (ha h)⟩⟩
  · exact iff_of_true (applied_of_refused hrecv (hr h)) fun ht => absurd ht h

theorem SamePDU.code (h : SamePDU rcv' rcv p usLen) : rcv' p = rcv p := h 0 (frameReceived_pos hrecv)

end Frame

/-! ### Frames no handler is for -/

section Unhandled

variable (hrecv : frameReceived rcv pos s.psMBSlaveDevCur.ucDevAddr = some (p, usLen))
include hrecv

theorem applied_exception (hc : MB_FUNC_ERROR ≤ rcv p) :
    AppliedOnly cur q rcv pos p usLen s ↔ 2 ≤ usLen ∧ rcv (p + 1) ≠ 0 := by
  have hexec (rcv' : Mem) (hsame : SamePDU rcv' rcv p usLen) : eMBMasterExecute cur rcv' p usLen (q.sent s) =
      (decide (rcv' (p + 1) ≠ 0), q.sent s) := by
    have hbit : rcv' p >>> 7 ≠ 0 := by
      rw [SamePDU.code hrecv hsame]
      intro h
      have hdiv := congrArg BitVec.toNat h
      rw [BitVec.toNat_ushiftRight, Nat.shiftRight_eq_div_pow] at hdiv
      have hle : 128 ≤ (rcv p).toNat := hc
      simp at hdiv
      omega
    rw [eMBMasterExecute]
    dsimp only
    rw [if_pos hbit]
  have hself := hexec rcv fun _ _ => rfl
  have hno : ¬q.Answer rcv p usLen := by
    rintro ⟨hcode, -⟩
    rw [hcode] at hc
    exact absurd hc (BitVec.not_le.mpr q.code_lt)
  by_cases h0 : rcv (p + 1) = 0
  · rw [applied_iff_of_taken hrecv (by rw [hself]; exact decide_eq_false (not_not_intro h0))]
    exact iff_of_false (fun h => hno h.1) fun h => h.2 h0
  · by_cases hlen : 2 ≤ usLen
    · refine iff_of_true (applied_of_refused hrecv fun rcv' hsame => ?_) ⟨hlen, h0⟩
      rw [hexec rcv' hsame, hsame 1 (by omega), decide_eq_true h0]
    · -- the exception is read behind the PDU
      refine iff_of_false (fun h => ?_) fun h => hlen h.1
      have hsame : SamePDU (store8 rcv (p + 1) 0) rcv p usLen := by
        intro j hj
        exact store8_ne _ _ _ _ (by omega)
      have hbytes := congrArg Prod.fst (h.bytes _ hsame)
      rw [hexec _ hsame, hself, store8_same] at hbytes
      exact h0 (by simpa using hbytes)

/-- A frame with an unknown function code is taken. -/
theorem not_applied_unknown (hc : rcv p < MB_FUNC_ERROR) (hno : rcv p ∉ (xMasterFuncHandlers cur).map Prod.fst) :
    ¬AppliedOnly cur q rcv pos p usLen s := by
  have hbit : rcv p >>> 7 = 0 := by
    apply BitVec.eq_of_toNat_eq
    rw [BitVec.toNat_ushiftRight, Nat.shiftRight_eq_div_pow]
    have hlt : (rcv p).toNat < 128 := hc
    simp
    omega
  have hl : (xMasterFuncHandlers cur).lookup (rcv p) = none := by
    rw [List.lookup_eq_none_iff]
    intro h hh
    rw [bne_iff_ne]
    rintro heq
    exact hno (List.mem_map.mpr ⟨h, hh, heq.symm⟩)
  have hexec : eMBMasterExecute cur rcv p usLen (q.sent s) = (false, q.sent s) := by
    rw [eMBMasterExecute]
    dsimp only
    rw [if_neg (not_not_intro hbit), hl]
  rw [applied_iff_of_taken hrecv (by rw [hexec])]
  rintro ⟨⟨hcode, -⟩, -⟩
  apply hno
  rw [hcode]
  cases q <;> simp [xMasterFuncHandlers, SentRequest.code]

end Unhandled

/-! ### One function code after the other -/

section Codes

variable (hrecv : frameReceived rcv pos s.psMBSlaveDevCur.ucDevAddr = some (p, usLen))
  (hb : s.psMBSlaveDevCur.ucDevAddr ≠ MB_ADDRESS_BROADCAST)
include hrecv hb

theorem applied_readHold (hc : rcv p = MB_FUNC_READ_HOLDING_REGISTER) :
    AppliedOnly cur q rcv pos p usLen s ↔ (ReadFits rcv p usLen q.count →
      HoldServed cur.hold s.eMBRunMode q.addr q.count → q.Answer rcv p usLen) := by
  obtain ⟨haddr, hcount⟩ := q.put_get s.ucSndBuf
  have hexec (rcv' : Mem) (hsame : SamePDU rcv' rcv p usLen) : eMBMasterExecute cur rcv' p usLen (q.sent s) =
      handled (q.sent s).setHolds (eMBMasterFuncReadHoldingRegister cur.hold s.eMBRunMode false (q.put s.ucSndBuf) rcv'
        p usLen s.regHolds) := execute_readHold hb ((SamePDU.code hrecv hsame).trans hc)
  have hself := hexec rcv fun _ _ => rfl
  rw [← and_imp]
  apply applied_iff_of_takes hrecv
  · rintro ⟨hf, hs⟩
    rw [← hcount] at hf
    rw [← haddr, ← hcount] at hs
    rw [hself]
    exact handled_taken (readHold_takes hf hs)
  · intro h rcv' hsame
    rw [← haddr, ← hcount] at h
    rw [hexec rcv' hsame]
    exact (readHold_refuses fun hf hs => h ⟨hsame.readFits hf, hs⟩).handled
  · intro hans rcv' hsame
    have hlen := hans.hold_len hc
    rw [hexec rcv' hsame, hself, readHold_congr hsame (by rw [hcount, hlen])]

theorem applied_readCoils (hc : rcv p = MB_FUNC_READ_COILS) :
    AppliedOnly cur q rcv pos p usLen s ↔ (CoilsFit rcv p usLen q.count → CoilRange cur.coils q.addr q.count →
      q.Answer rcv p usLen ∧ SpareIdle cur.coils q.addr q.count.toNat) := by
  obtain ⟨haddr, hcount⟩ := q.put_get s.ucSndBuf
  have hexec (rcv' : Mem) (hsame : SamePDU rcv' rcv p usLen) : eMBMasterExecute cur rcv' p usLen (q.sent s) =
      handled (q.sent s).setCoils (eMBMasterFuncReadCoils cur.coils s.eMBRunMode false (q.put s.ucSndBuf) rcv' p usLen
        s.coils) := execute_readCoils hb ((SamePDU.code hrecv hsame).trans hc)
  have hself := hexec rcv fun _ _ => rfl
  by_cases h : CoilsFit rcv p usLen q.count ∧ CoilRange cur.coils q.addr q.count
  · obtain ⟨hf, ht⟩ := h
    -- a response that fits is taken, with the bits that stand in it
    have htaken (rcv' : Mem) (hf' : CoilsFit rcv' p usLen q.count) :
        eMBMasterFuncReadCoils cur.coils s.eMBRunMode false (q.put s.ucSndBuf) rcv' p usLen s.coils =
          (.MB_EX_NONE, readRun cur.coils s.eMBRunMode (bitAt rcv' (p + 2)) (Slave.runBits q.count.toNat) 0 q.addr
            s.coils) := by
      have heq := @readCoils_takes s.eMBRunMode (q.put s.ucSndBuf) rcv' p usLen cur.coils s.coils
      rw [haddr, hcount] at heq
      exact heq hf' ht
    rw [applied_iff_of_taken hrecv (by rw [hself, htaken rcv hf]; rfl)]
    -- the bytes behind the data matter where a spare coil takes part
    have hspare (hans : q.Answer rcv p usLen) : (∀ rcv', SamePDU rcv' rcv p usLen →
        eMBMasterExecute cur rcv' p usLen (q.sent s) = eMBMasterExecute cur rcv p usLen (q.sent s)) ↔
          SpareIdle cur.coils q.addr q.count.toNat := by
      rw [← @readRun_spare_iff cur.coils s.eMBRunMode rcv p q.count.toNat q.addr s.coils]
      apply forall_congr'
      intro rcv'
      rw [← hans.coils_len hc]
      apply imp_congr_right
      intro hsame
      rw [hexec rcv' hsame, hself, htaken rcv hf, htaken rcv' (hsame.symm.coilsFit hf)]
      exact ⟨fun h => congrArg (fun r => r.2.coils) h, fun h => by rw [h]⟩
    exact ⟨fun h _ _ => ⟨h.1, (hspare h.1).mp h.2⟩, fun h => ⟨(h hf ht).1, (hspare (h hf ht).1).mpr (h hf ht).2⟩⟩
  · refine iff_of_true (applied_of_refused hrecv fun rcv' hsame => ?_) fun hf ht => absurd ⟨hf, ht⟩ h
    rw [← haddr, ← hcount] at h
    rw [hexec rcv' hsame]
    exact (readCoils_refuses fun hf ht => h ⟨hsame.coilsFit hf, ht⟩).handled

theorem applied_readInput (hc : rcv p = MB_FUNC_READ_INPUT_REGISTER) :
    AppliedOnly cur q rcv pos p usLen s ↔ (ReadFits rcv p usLen q.count →
      (InputScanned s.eMBRunMode → cur.ins.sMBRegInTable.pvDataBuf ≠ []) →
      q.Answer rcv p usLen ∨
        InputScanned s.eMBRunMode ∧ ¬InputRange cur.ins q.addr q.count ∧
          ∀ rcv', SamePDU rcv' rcv p usLen → NothingNew cur.ins rcv' q.addr q.count.toNat (p + 2) s.regIns) := by
  obtain ⟨haddr, hcount⟩ := q.put_get s.ucSndBuf
  have hexec (rcv' : Mem) (hsame : SamePDU rcv' rcv p usLen) : eMBMasterExecute cur rcv' p usLen (q.sent s) =
      handled (q.sent s).setIns (eMBMasterFuncReadInputRegister cur.ins s.eMBRunMode false (q.put s.ucSndBuf) rcv' p
        usLen s.regIns) := execute_readInput hb ((SamePDU.code hrecv hsame).trans hc)
  have hself := hexec rcv fun _ _ => rfl
  have hbytes (hans : q.Answer rcv p usLen) (rcv' : Mem) (hsame : SamePDU rcv' rcv p usLen) :
      eMBMasterExecute cur rcv' p usLen (q.sent s) = eMBMasterExecute cur rcv p usLen (q.sent s) := by
    rw [hexec rcv' hsame, hself, readInput_congr hsame (by rw [hcount, hans.input_len hc])]
  by_cases hf : ReadFits rcv p usLen q.count
  · by_cases htake : InputScanned s.eMBRunMode →
        cur.ins.sMBRegInTable.pvDataBuf ≠ [] ∧ InputRange cur.ins q.addr q.count
    · have htaken : (eMBMasterExecute cur rcv p usLen (q.sent s)).1 = false := by
        rw [hself]
        rw [← hcount] at hf
        rw [← haddr, ← hcount] at htake
        exact handled_taken (readInput_takes hf htake)
      rw [applied_iff_of_taken hrecv htaken]
      constructor
      · intro h _ _
        exact Or.inl h.1
      · intro h
        have hans := (h hf fun hm => (htake hm).1).resolve_right fun hno => hno.2.1 (htake hno.1).2
        exact ⟨hans, hbytes hans⟩
    · obtain ⟨hm, hno⟩ := Classical.not_imp.mp htake
      by_cases hne : cur.ins.sMBRegInTable.pvDataBuf = []
      · refine iff_of_true (applied_of_refused hrecv fun rcv' hsame => ?_) fun _ h => absurd hne (h hm)
        rw [hexec rcv' hsame]
        exact (readInput_refuses hm hne).handled
      · -- the words are assigned, and then the range is refused
        have hrange : ¬InputRange cur.ins q.addr q.count := fun h => hno ⟨hne, h⟩
        have hloop (rcv' : Mem) (hsame : SamePDU rcv' rcv p usLen) :
            eMBMasterExecute cur rcv' p usLen (q.sent s) =
              (true, (q.sent s).setIns (regInLoop cur.ins rcv' q.count.toNat q.addr (p + 2) s.regIns)) := by
          have hf' := hsame.symm.readFits hf
          rw [← hcount] at hf'
          rw [← haddr, ← hcount] at hrange
          rw [hexec rcv' hsame, (readInput_range hf' hm hne hrange).handled, haddr, hcount]
        by_cases hans : q.Answer rcv p usLen
        · exact iff_of_true ⟨fun hno => absurd hans hno, hbytes hans⟩ fun _ _ => Or.inl hans
        · rw [applied_iff_of_fails hrecv hans hloop]
          constructor
          · intro h _ _
            refine Or.inr ⟨hm, hrange, ?_⟩
            intro rcv' hsame
            exact regInLoop_eq_self.mp (congrArg sMBMasterInfo.regIns (h rcv' hsame))
          · intro h rcv' hsame
            obtain ⟨-, -, hnew⟩ := (h hf fun _ => hne).resolve_left hans
            rw [regInLoop_eq_self.mpr (hnew rcv' hsame)]
            rfl
  · refine iff_of_true (applied_of_refused hrecv fun rcv' hsame => ?_) fun h => absurd h hf
    rw [← hcount] at hf
    rw [hexec rcv' hsame]
    exact (readInput_value fun h => hf (hsame.readFits h)).handled

theorem applied_writeHold (hc : rcv p = MB_FUNC_WRITE_MULTIPLE_REGISTERS) :
    AppliedOnly cur q rcv pos p usLen s ↔
      (HoldAck cur.hold s.eMBRunMode (q.put s.ucSndBuf) usLen → q.Answer rcv p usLen) := by
  have hexec (rcv' : Mem) (hsame : SamePDU rcv' rcv p usLen) : eMBMasterExecute cur rcv' p usLen (q.sent s) =
      handled (q.sent s).setHolds (eMBMasterFuncWriteMultipleHoldingRegister cur.hold s.eMBRunMode false
        (q.put s.ucSndBuf) rcv' p usLen s.regHolds) := execute_writeHold hb ((SamePDU.code hrecv hsame).trans hc)
  have hself := hexec rcv fun _ _ => rfl
  apply applied_iff_of_takes hrecv
  · intro h
    rw [hself]
    exact handled_taken (writeHold_takes h)
  · intro h rcv' hsame
    rw [hexec rcv' hsame]
    exact (writeHold_refuses h).handled
  · intro _ rcv' hsame
    rw [hexec rcv' hsame, hself, writeHold_congr]

theorem applied_writeCoils (hc : rcv p = MB_FUNC_WRITE_MULTIPLE_COILS) :
    AppliedOnly cur q rcv pos p usLen s ↔
      (CoilAck cur.coils (q.put s.ucSndBuf) rcv p usLen → q.Answer rcv p usLen) := by
  have hexec (rcv' : Mem) (hsame : SamePDU rcv' rcv p usLen) : eMBMasterExecute cur rcv' p usLen (q.sent s) =
      handled (q.sent s).setCoils (eMBMasterFuncWriteMultipleCoils cur.coils s.eMBRunMode false (q.put s.ucSndBuf) rcv'
        p usLen s.coils) := execute_writeCoils hb ((SamePDU.code hrecv hsame).trans hc)
  have hself := hexec rcv fun _ _ => rfl
  apply applied_iff_of_takes hrecv
  · intro h
    rw [hself]
    exact handled_taken (writeCoils_takes h)
  · intro h rcv' hsame
    rw [hexec rcv' hsame, writeCoils_congr hsame]
    exact (writeCoils_refuses h).handled
  · intro _ rcv' hsame
    rw [hexec rcv' hsame, hself, writeCoils_congr hsame]

/-- A response to a read and write is never the answer: it must be refused, without the part of the write. -/
theorem applied_readWrite (hc : rcv p = MB_FUNC_READWRITE_MULTIPLE_REGISTERS) :
    let usRegWriteAddress := loadBE (q.put s.ucSndBuf) 5
    let usRegWriteCount := loadBE (q.put s.ucSndBuf) 7
    AppliedOnly cur q rcv pos p usLen s ↔ 2 ≤ usLen ∧ (2 * q.count.toNat = (rcv (p + 1)).toNat →
      HoldServed cur.hold s.eMBRunMode usRegWriteAddress usRegWriteCount →
        ¬HoldServed cur.hold s.eMBRunMode q.addr q.count ∧
          WrittenCurrent cur.hold usRegWriteAddress usRegWriteCount.toNat s.regHolds) := by
  intro usRegWriteAddress usRegWriteCount
  obtain ⟨haddr, hcount⟩ := q.put_get s.ucSndBuf
  have hexec (rcv' : Mem) (hsame : SamePDU rcv' rcv p usLen) : eMBMasterExecute cur rcv' p usLen (q.sent s) =
      handled (q.sent s).setHolds (eMBMasterFuncReadWriteMultipleHoldingRegister cur.hold s.eMBRunMode false
        (q.put s.ucSndBuf) rcv' p usLen s.regHolds) := execute_readWrite hb ((SamePDU.code hrecv hsame).trans hc)
  have hself := hexec rcv fun _ _ => rfl
  have hno : ¬q.Answer rcv p usLen := by
    rintro ⟨hcode, -⟩
    rw [hcode] at hc
    cases q <;> simp [SentRequest.code] at hc
  rw [← haddr, ← hcount]
  by_cases hlen : 2 ≤ usLen
  · by_cases hcnt : 2 * (loadBE (q.put s.ucSndBuf) 3).toNat = (rcv (p + 1)).toNat
    · by_cases hw : HoldServed cur.hold s.eMBRunMode usRegWriteAddress usRegWriteCount
      · by_cases hr : HoldServed cur.hold s.eMBRunMode (loadBE (q.put s.ucSndBuf) 1) (loadBE (q.put s.ucSndBuf) 3)
        · rw [applied_iff_of_taken hrecv (by rw [hself]; exact handled_taken (readWrite_takes hcnt hw hr))]
          exact iff_of_false (fun h => hno h.1) fun h => (h.2 hcnt hw).1 hr
        · -- the write has been done when the read is refused
          have hloop (rcv' : Mem) (hsame : SamePDU rcv' rcv p usLen) :
              eMBMasterExecute cur rcv' p usLen (q.sent s) = (true, (q.sent s).setHolds
                (regHoldWrittenLoop cur.hold usRegWriteCount.toNat usRegWriteAddress s.regHolds)) := by
            rw [hexec rcv' hsame, (readWrite_readRange hlen (by rw [hsame 1 (by omega), hcnt]) hw hr).handled]
          rw [applied_iff_of_fails hrecv hno hloop]
          constructor
          · intro h
            refine ⟨hlen, fun _ _ => ⟨hr, ?_⟩⟩
            exact regHoldWrittenLoop_eq_self.mp (congrArg sMBMasterInfo.regHolds (h rcv fun _ _ => rfl))
          · intro h rcv' hsame
            rw [regHoldWrittenLoop_eq_self.mpr (h.2 hcnt hw).2]
            rfl
      · refine iff_of_true (applied_of_refused hrecv fun rcv' hsame => ?_) ⟨hlen, fun _ h => absurd h hw⟩
        rw [hexec rcv' hsame]
        exact (readWrite_writeRange hlen hw).handled
    · refine iff_of_true (applied_of_refused hrecv fun rcv' hsame => ?_) ⟨hlen, fun h => absurd h hcnt⟩
      rw [hexec rcv' hsame]
      exact (readWrite_count hlen (by rw [hsame 1 (by omega)]; exact hcnt)).handled
  · rw [applied_iff_of_taken hrecv (by rw [hself, readWrite_short (by omega)]; rfl)]
    exact iff_of_false (fun h => hno h.1) fun h => hlen h.1

/-- **Only the answer to the request is applied if and only if the checks of the handler that the frame's own function
code selects leave nothing else.** -/
theorem answer_only_iff : AppliedOnly cur q rcv pos p usLen s ↔ OnlyAnswer cur q rcv p usLen s := by
  by_cases hexc : MB_FUNC_ERROR ≤ rcv p
  · -- an exception frame is no answer of a handler
    rw [applied_exception hrecv hexc]
    refine ⟨fun h => ⟨fun _ => h, fun hlt => absurd hexc (BitVec.not_le.mpr hlt), ?_, ?_, ?_, ?_, ?_, ?_⟩,
      fun h => h.exception hexc⟩
    all_goals
      intro hc
      rw [hc] at hexc
      exact absurd hexc (by decide)
  · have hlow : rcv p < MB_FUNC_ERROR := BitVec.not_le.mp hexc
    by_cases hmem : rcv p ∈ (xMasterFuncHandlers cur).map Prod.fst
    · have hcases := hmem
      simp only [xMasterFuncHandlers, List.map_cons, List.map_nil, List.mem_cons, List.not_mem_nil, or_false] at hcases
      -- one clause of the condition for each function code
      obtain hc | hc | hc | hc | hc | hc := hcases
      · rw [applied_readInput hrecv hb hc]
        refine ⟨fun h => ⟨?_, ?_, ?_, ?_, fun _ => h, ?_, ?_, ?_⟩, fun h => h.readInput hc⟩
        all_goals simp [hc, xMasterFuncHandlers]
      · rw [applied_readHold hrecv hb hc]
        refine ⟨fun h => ⟨?_, ?_, ?_, fun _ => h, ?_, ?_, ?_, ?_⟩, fun h => h.readHold hc⟩
        all_goals simp [hc, xMasterFuncHandlers]
      · rw [applied_writeHold hrecv hb hc]
        refine ⟨fun h => ⟨?_, ?_, ?_, ?_, ?_, fun _ => h, ?_, ?_⟩, fun h => h.writeHold hc⟩
        all_goals simp [hc, xMasterFuncHandlers]
      · refine (applied_readWrite hrecv hb hc).trans
          ⟨fun h => ⟨?_, ?_, ?_, ?_, ?_, ?_, ?_, fun _ => h⟩, fun h => h.readWrite hc⟩
        all_goals simp [hc, xMasterFuncHandlers]
      · rw [applied_readCoils hrecv hb hc]
        refine ⟨fun h => ⟨?_, ?_, fun _ => h, ?_, ?_, ?_, ?_, ?_⟩, fun h => h.readCoils hc⟩
        all_goals simp [hc, xMasterFuncHandlers]
      · rw [applied_writeCoils hrecv hb hc]
        refine ⟨fun h => ⟨?_, ?_, ?_, ?_, ?_, ?_, fun _ => h, ?_⟩, fun h => h.writeCoils hc⟩
        all_goals simp [hc, xMasterFuncHandlers]
    · exact iff_of_false (not_applied_unknown hrecv hlow hmem) fun h => hmem (h.handled hlow)

end Codes

/-! ### One register -/

/-- The answer to a read of one register is applied as it should be. -/
theorem answer_only_read :
    AppliedOnly oneRegister (.readHold 0 1) (deviceFrame [3, 2, 0, 7]).1 (deviceFrame [3, 2, 0, 7]).2 1 4
      (readyMaster oneRegister true) := by
  obtain ⟨hrecv, hbytes⟩ := deviceFrame_received (List.cons_ne_nil 3 [2, 0, 7])
  simp only [holds_cons, Nat.reduceAdd] at hbytes
  generalize deviceFrame [3, 2, 0, 7] = frame at hrecv hbytes ⊢
  have hans : (SentRequest.readHold 0 1).Answer frame.1 1 4 := ⟨hbytes.1, rfl, by rw [hbytes.2.1]; rfl⟩
  apply (answer_only_iff hrecv (by decide)).mpr
  constructor
  case readHold =>
    intro _ _ _
    exact hans
  all_goals simp [hbytes.1, xMasterFuncHandlers]

/-- **Three frames that are no answer to a read of one register**: one that ends before the register, which is then
taken from the checksum; one with a function code nobody knows; and the answer to a read of an input register. -/
theorem answer_not_only :
    ¬AppliedOnly oneRegister (.readHold 0 1) (deviceFrame [3, 2]).1 (deviceFrame [3, 2]).2 1 2
        (readyMaster oneRegister true) ∧
      ¬AppliedOnly oneRegister (.readHold 0 1) (deviceFrame [0x2B]).1 (deviceFrame [0x2B]).2 1 1
        (readyMaster oneRegister true) ∧
      ¬AppliedOnly oneRegister (.readHold 0 1) (deviceFrame [4, 2, 0, 7]).1 (deviceFrame [4, 2, 0, 7]).2 1 4
        (readyMaster oneRegister true) := by
  refine ⟨?_, ?_, ?_⟩
  · obtain ⟨hrecv, hbytes⟩ := deviceFrame_received (List.cons_ne_nil 3 [2])
    simp only [holds_cons, Nat.reduceAdd] at hbytes
    rw [applied_readHold hrecv (by decide) hbytes.1]
    intro h
    have hfits : ReadFits (deviceFrame [3, 2]).1 1 2 1 := ⟨by decide, by decide, by rw [hbytes.2.1]; rfl⟩
    have hserved : HoldServed oneRegister.hold .STATE_SCAN_DEV 0 1 := by
      intro _
      exact ⟨List.cons_ne_nil _ _, by decide, by decide⟩
    exact absurd (h hfits hserved).2.1 (by decide)
  · obtain ⟨hrecv, hbytes⟩ := deviceFrame_received (List.cons_ne_nil 0x2B [])
    simp only [holds_cons, Nat.reduceAdd] at hbytes
    exact not_applied_unknown hrecv (by rw [hbytes.1]; decide) (by rw [hbytes.1]; decide)
  · obtain ⟨hrecv, hbytes⟩ := deviceFrame_received (List.cons_ne_nil 4 [2, 0, 7])
    simp only [holds_cons, Nat.reduceAdd] at hbytes
    rw [applied_readInput hrecv (by decide) hbytes.1]
    intro h
    have hfits : ReadFits (deviceFrame [4, 2, 0, 7]).1 1 4 1 := ⟨by decide, by decide, by rw [hbytes.2.1]; rfl⟩
    rcases h hfits fun _ => List.cons_ne_nil _ _ with hans | hno
    · have hcode := hans.1
      rw [hbytes.1] at hcode
      exact absurd hcode (by decide)
    · exact hno.2.1 ⟨by decide, by decide⟩

end GreeIntense.Master

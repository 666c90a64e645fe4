import GreeIntense.Master.Port
import GreeIntense.Master.Receive

/-!
# Executing a frame (`eMBMasterPoll` in `mb_m.c`)

The poll task handles a frame in two events: `EV_MASTER_FRAME_RECEIVED` checks length, checksum and address, and
`EV_MASTER_EXECUTE` calls the handler of the function code that was received.  Whether that code is the one of the
request is not checked, and a code without a handler is executed without exception.

The request goes to one device, `psMBSlaveDevCur`; broadcasts are left out.  What a pass of the read scans does with a
reply is what the poll task does with its frame (`waitReply_polls`).
-/

namespace GreeIntense.Master

open Lib.Memory

/-! ### The handlers -/

/-- `eMBMasterFuncReadWriteMultipleHoldingRegister`: first the part of the write, then that of the read.  Both ranges
are taken from the send buffer. -/
def eMBMasterFuncReadWriteMultipleHoldingRegister (cur : sMBSlaveDevCommData) (eMBRunMode : eMasterRunMode)
    (xFrameIsBroadcast : Bool) (ucSndBuf ucRcvBuf : Mem) (pucFrame usLen : ℕ) (r : RegHolds) :
    eMBException × RegHolds :=
  if xFrameIsBroadcast then (.MB_EX_NONE, r)
  else if usLen ≥ 2 then
    let usRegReadAddress := loadBE ucSndBuf 1 + 1
    let usRegReadCount := loadBE ucSndBuf 3
    let usRegWriteAddress := loadBE ucSndBuf 5 + 1
    let usRegWriteCount := loadBE ucSndBuf 7
    if 2 * usRegReadCount.toNat = (ucRcvBuf (pucFrame + 1)).toNat then
      let c := eMBMasterRegHoldingCB cur eMBRunMode ucSndBuf 10 usRegWriteAddress usRegWriteCount .MB_REG_WRITE r
      let c :=
        if c.1 = .MB_ENOERR then
          eMBMasterRegHoldingCB cur eMBRunMode ucRcvBuf (pucFrame + 2) usRegReadAddress usRegReadCount .MB_REG_READ c.2
        else c
      if c.1 ≠ .MB_ENOERR then (prveMBMasterError2Exception c.1, c.2) else (.MB_EX_NONE, c.2)
    else (.MB_EX_ILLEGAL_DATA_VALUE, r)
  else (.MB_EX_NONE, r)

variable (cur : sMBSlaveDevTables)

/-- The other handlers on the master's data. -/
def writeHoldHandler (ucRcvBuf : Mem) (pucFrame usLen : ℕ) (s : sMBMasterInfo) : eMBException × sMBMasterInfo :=
  let r := eMBMasterFuncWriteMultipleHoldingRegister cur.hold s.eMBRunMode
    (s.psMBSlaveDevCur.ucDevAddr = MB_ADDRESS_BROADCAST) s.ucSndBuf ucRcvBuf pucFrame usLen s.regHolds
  (r.1, { s with regHolds := r.2 })

def readWriteHandler (ucRcvBuf : Mem) (pucFrame usLen : ℕ) (s : sMBMasterInfo) : eMBException × sMBMasterInfo :=
  let r := eMBMasterFuncReadWriteMultipleHoldingRegister cur.hold s.eMBRunMode
    (s.psMBSlaveDevCur.ucDevAddr = MB_ADDRESS_BROADCAST) s.ucSndBuf ucRcvBuf pucFrame usLen s.regHolds
  (r.1, { s with regHolds := r.2 })

def writeCoilsHandler (ucRcvBuf : Mem) (pucFrame usLen : ℕ) (s : sMBMasterInfo) : eMBException × sMBMasterInfo :=
  let r := eMBMasterFuncWriteMultipleCoils cur.coils s.eMBRunMode
    (s.psMBSlaveDevCur.ucDevAddr = MB_ADDRESS_BROADCAST) s.ucSndBuf ucRcvBuf pucFrame usLen s.coils
  (r.1, { s with coils := r.2 })

/-- `xMasterFuncHandlers`: the handlers that are compiled in, in the order of the table. -/
def xMasterFuncHandlers : List (UCHAR × (Mem → ℕ → ℕ → sMBMasterInfo → eMBException × sMBMasterInfo)) :=
  [(MB_FUNC_READ_INPUT_REGISTER, inputHandler cur), (MB_FUNC_READ_HOLDING_REGISTER, holdHandler cur),
    (MB_FUNC_WRITE_MULTIPLE_REGISTERS, writeHoldHandler cur),
    (MB_FUNC_READWRITE_MULTIPLE_REGISTERS, readWriteHandler cur), (MB_FUNC_READ_COILS, coilHandler cur),
    (MB_FUNC_WRITE_MULTIPLE_COILS, writeCoilsHandler cur)]

/-! ### The events of the poll task -/

/-- `EV_MASTER_EXECUTE`: whether there is an exception, and the master's data.  The exception of an error frame is its
second byte, which may be `MB_EX_NONE`. -/
def eMBMasterExecute (ucRcvBuf : Mem) (pucMBRcvFrame usLength : ℕ) (s : sMBMasterInfo) : Bool × sMBMasterInfo :=
  let ucFunctionCode := ucRcvBuf pucMBRcvFrame
  if ucFunctionCode >>> 7 ≠ 0 then (ucRcvBuf (pucMBRcvFrame + 1) ≠ 0, s)
  else
    match (xMasterFuncHandlers cur).lookup ucFunctionCode with
    | some pxHandler =>
      let r := pxHandler ucRcvBuf pucMBRcvFrame usLength s
      (r.1 ≠ .MB_EX_NONE, r.2)
    | none => (false, s)

/-- `EV_MASTER_FRAME_RECEIVED`: where the PDU is, if the frame is from the device of the request. -/
def frameReceived (ucRTURcvBuf : Mem) (usRcvBufferPos : ℕ) (ucMBDestAddr : UCHAR) : Option (ℕ × ℕ) :=
  match eMBMasterRTUReceive ucRTURcvBuf usRcvBufferPos with
  | some (ucRcvAddress, pucMBRcvFrame, usLength) =>
    if ucRcvAddress = ucMBDestAddr then some (pucMBRcvFrame, usLength) else none
  | none => none

/-- What a frame does: the event the request finishes with, and the master's data. -/
def handleFrame (ucRTURcvBuf : Mem) (usRcvBufferPos : ℕ) (s : sMBMasterInfo) : eMBMasterEventType × sMBMasterInfo :=
  match frameReceived ucRTURcvBuf usRcvBufferPos s.psMBSlaveDevCur.ucDevAddr with
  | some (pucMBRcvFrame, usLength) =>
    let r := eMBMasterExecute cur ucRTURcvBuf pucMBRcvFrame usLength s
    (executed r.1, r.2)
  | none => (.EV_MASTER_ERROR_RECEIVE_DATA, s)

/-- The outcome of the two events as the port sees it: whether the frame is taken, and whether it is an exception. -/
def frameOutcome (ucRTURcvBuf : Mem) (usRcvBufferPos : ℕ) (s : sMBMasterInfo) : Bool × Bool :=
  match frameReceived ucRTURcvBuf usRcvBufferPos s.psMBSlaveDevCur.ucDevAddr with
  | some (pucMBRcvFrame, usLength) => (true, (eMBMasterExecute cur ucRTURcvBuf pucMBRcvFrame usLength s).1)
  | none => (false, true)

/-- The reply that a frame is to a pass of the read scans. -/
def frameReply (ucRTURcvBuf : Mem) (usRcvBufferPos : ℕ) (ucMBDestAddr : UCHAR) : Reply :=
  match frameReceived ucRTURcvBuf usRcvBufferPos ucMBDestAddr with
  | some (pucMBRcvFrame, usLength) =>
    if ucRTURcvBuf pucMBRcvFrame >>> 7 ≠ 0 then .exception (ucRTURcvBuf (pucMBRcvFrame + 1))
    else .response ucRTURcvBuf pucMBRcvFrame usLength
  | none => .broken

variable {cur} {rcv : Mem} {pos p usLen : ℕ} {s : sMBMasterInfo}

theorem execute_handler {c : UCHAR} {pxHandler : Mem → ℕ → ℕ → sMBMasterInfo → eMBException × sMBMasterInfo}
    (hc : rcv p = c) (hbit : c >>> 7 = 0) (hl : (xMasterFuncHandlers cur).lookup c = some pxHandler) :
    eMBMasterExecute cur rcv p usLen s =
      (decide ((pxHandler rcv p usLen s).1 ≠ .MB_EX_NONE), (pxHandler rcv p usLen s).2) := by
  rw [eMBMasterExecute]
  dsimp only
  rw [hc, if_neg (not_not_intro hbit), hl]

/-- **The poll task finishes the request with this event**, when no other event comes between its own: it takes two
events, and a third one for an error of the execution. -/
theorem polls_handleFrame (port : Port) (eEvent : eMBMasterEventType) (hin : port.xEventInQueue = true)
    (hq : port.eQueuedEvent = .EV_MASTER_FRAME_RECEIVED) :
    ∃ k ≤ 3, let o := frameOutcome cur rcv pos s
      let port' := (eMBMasterPoll o.1 o.2 eEvent)^[k] port
      port'.xMBIsFinished = true ∧ port'.eQueuedEvent = (handleFrame cur rcv pos s).1 := by
  unfold frameOutcome handleFrame
  cases frameReceived rcv pos s.psMBSlaveDevCur.ucDevAddr with
  | none =>
    refine ⟨2, by omega, ?_⟩
    simp only [Function.iterate_succ, Function.iterate_zero, Function.comp_apply, id]
    simp [eMBMasterPoll, hin, hq, gotEvent, handleEvent, xMBMasterPortEventPost, requestFinished, errorEvent]
  | some f =>
    dsimp only
    cases (eMBMasterExecute cur rcv f.1 f.2 s).1 with
    | false =>
      refine ⟨2, by omega, ?_⟩
      simp only [Function.iterate_succ, Function.iterate_zero, Function.comp_apply, id]
      simp [eMBMasterPoll, hin, hq, gotEvent, handleEvent, xMBMasterPortEventPost, requestFinished, executed]
    | true =>
      refine ⟨3, by omega, ?_⟩
      simp only [Function.iterate_succ, Function.iterate_zero, Function.comp_apply, id]
      simp [eMBMasterPoll, hin, hq, gotEvent, handleEvent, xMBMasterPortEventPost, requestFinished, errorEvent,
        executed]

/-- A frame without the error bit has the function code of the request, and that has a handler. -/
structure OfRequest (cur : sMBSlaveDevTables) (c : UCHAR)
    (pxHandler : Mem → ℕ → ℕ → sMBMasterInfo → eMBException × sMBMasterInfo) (rcv : Mem) (pos : ℕ)
    (ucMBDestAddr : UCHAR) : Prop where
  handler : (xMasterFuncHandlers cur).lookup c = some pxHandler
  code : ∀ p n, frameReceived rcv pos ucMBDestAddr = some (p, n) → rcv p >>> 7 = 0 → rcv p = c

theorem handler_returned {f : UCHAR × (Mem → ℕ → ℕ → sMBMasterInfo → eMBException × sMBMasterInfo)}
    (h : f ∈ xMasterFuncHandlers cur) : (f.2 rcv p usLen s).2.returned = s.returned := by
  simp only [xMasterFuncHandlers, List.mem_cons, List.not_mem_nil, or_false] at h
  obtain rfl | rfl | rfl | rfl | rfl | rfl := h <;> rfl

/-- A frame is noted down by the pass alone. -/
theorem handleFrame_returned : (handleFrame cur rcv pos s).2.returned = s.returned := by
  unfold handleFrame
  cases frameReceived rcv pos s.psMBSlaveDevCur.ucDevAddr with
  | none => rfl
  | some f =>
    dsimp only
    unfold eMBMasterExecute
    dsimp only
    split
    · rfl
    · split
      · next h =>
        obtain ⟨l₁, l₂, hl, -⟩ := List.lookup_eq_some_iff.mp h
        exact handler_returned (hl ▸ List.mem_append_right l₁ List.mem_cons_self)
      · rfl

/-- The part of the poll task in a pass of the read scans is what the frame does. -/
theorem waitReply_eq {replies : ℕ → Reply} {c : UCHAR}
    {pxHandler : Mem → ℕ → ℕ → sMBMasterInfo → eMBException × sMBMasterInfo}
    (hreq : OfRequest cur c pxHandler rcv pos s.psMBSlaveDevCur.ucDevAddr)
    (hr : replies s.returned.length = frameReply rcv pos s.psMBSlaveDevCur.ucDevAddr) :
    waitReply replies pxHandler s =
      (finishCode (handleFrame cur rcv pos s).1, { (handleFrame cur rcv pos s).2 with
        returned := (handleFrame cur rcv pos s).2.returned ++ [finishCode (handleFrame cur rcv pos s).1] }) := by
  unfold waitReply handleFrame
  rw [hr, frameReply]
  cases hf : frameReceived rcv pos s.psMBSlaveDevCur.ucDevAddr with
  | none => rfl
  | some f =>
    obtain ⟨p, n⟩ := f
    dsimp only
    by_cases hbit : rcv p >>> 7 = 0
    · have hc : rcv p = c := hreq.code p n hf hbit
      rw [if_neg (not_not_intro hbit), execute_handler hc (hc ▸ hbit) hreq.handler]
    · rw [if_pos hbit, eMBMasterExecute]
      dsimp only
      rw [if_pos hbit]

/-- **A pass of the read scans does with a reply what the poll task does with its frame**, in two or three events: the
request returns the code of the event it finishes with, and the data are those of the handler. -/
theorem waitReply_polls (replies : ℕ → Reply) {c : UCHAR}
    {pxHandler : Mem → ℕ → ℕ → sMBMasterInfo → eMBException × sMBMasterInfo} (port : Port)
    (eEvent : eMBMasterEventType) (hreq : OfRequest cur c pxHandler rcv pos s.psMBSlaveDevCur.ucDevAddr)
    (hr : replies s.returned.length = frameReply rcv pos s.psMBSlaveDevCur.ucDevAddr)
    (hin : port.xEventInQueue = true) (hq : port.eQueuedEvent = .EV_MASTER_FRAME_RECEIVED) :
    ∃ k ≤ 3, let o := frameOutcome cur rcv pos s
      let port' := (eMBMasterPoll o.1 o.2 eEvent)^[k] port
      let code := finishCode port'.eQueuedEvent
      port'.xMBIsFinished = true ∧ waitReply replies pxHandler s =
        (code, { (handleFrame cur rcv pos s).2 with returned := s.returned ++ [code] }) := by
  obtain ⟨k, hk, hfinished, hevent⟩ := polls_handleFrame (s := s) port eEvent hin hq
  refine ⟨k, hk, hfinished, ?_⟩
  dsimp only
  rw [hevent, waitReply_eq hreq hr, handleFrame_returned]

/-! ### A frame of a device -/

/-- A holding register and an input register at the address 0. -/
def oneRegister : sMBSlaveDevTables where
  hold := ⟨⟨[⟨0, 0, 65535, .uint16, .RW, 1, some 0⟩], 0, 0⟩, some fun x => if x = 0 then some 0 else none⟩
  coils := ⟨⟨[], 0, 0⟩, none⟩
  ins := ⟨⟨[⟨0, 0, 65535, .uint16, .RO, 1, some 0⟩], 0, 0⟩, some fun x => if x = 0 then some 0 else none⟩

/-- A frame from the device with the address 5. -/
def deviceFrame (pdu : List UCHAR) : Mem × ℕ :=
  eMBMasterRTUSend usMBCRC16 5 pdu.length (storeList (fun _ => 0) 1 pdu)

theorem deviceFrame_received {pdu : List UCHAR} (h : pdu ≠ []) :
    frameReceived (deviceFrame pdu).1 (deviceFrame pdu).2 5 = some (1, pdu.length) ∧
      Holds (deviceFrame pdu).1 1 pdu := by
  obtain ⟨hrecv, hbytes⟩ := receive_send 5 (storeList (fun _ => 0) 1 pdu) (List.length_pos_of_ne_nil h)
  constructor
  · rw [frameReceived, deviceFrame, hrecv]
    rfl
  · intro i hi
    rw [deviceFrame, hbytes i hi]
    exact holds_storeList i hi

/-- An exception with the code 2 ends a read of holding registers. -/
theorem waitReply_polls_exception :
    ∃ k ≤ 3, let frame := deviceFrame [0x83, 2]
      let o := frameOutcome oneRegister frame.1 frame.2 (readyMaster oneRegister true)
      let port' := (eMBMasterPoll o.1 o.2 .EV_MASTER_READY)^[k]
        { xMBMasterPortEventInit with xEventInQueue := true, eQueuedEvent := .EV_MASTER_FRAME_RECEIVED }
      port'.xMBIsFinished = true ∧
        (waitReply (fun _ => .exception 2) (holdHandler oneRegister) (readyMaster oneRegister true)).1 =
          finishCode port'.eQueuedEvent := by
  obtain ⟨hrecv, hbytes⟩ := deviceFrame_received (List.cons_ne_nil 0x83 [2])
  simp only [holds_cons, Nat.reduceAdd] at hbytes
  have hbit : ¬(deviceFrame [0x83, 2]).1 1 >>> 7 = 0 := by
    rw [hbytes.1]
    decide
  have hreply : frameReply (deviceFrame [0x83, 2]).1 (deviceFrame [0x83, 2]).2 5 = .exception 2 := by
    rw [frameReply, hrecv]
    dsimp only
    rw [if_pos hbit, hbytes.2.1]
  have hreq : OfRequest oneRegister MB_FUNC_READ_HOLDING_REGISTER (holdHandler oneRegister) (deviceFrame [0x83, 2]).1
      (deviceFrame [0x83, 2]).2 5 := by
    refine ⟨rfl, fun p n h hp => ?_⟩
    rw [hrecv] at h
    cases h
    exact absurd hp hbit
  obtain ⟨k, hk, hfinished, hwait⟩ := waitReply_polls (fun _ => .exception 2) (s := readyMaster oneRegister true)
    { xMBMasterPortEventInit with xEventInQueue := true, eQueuedEvent := .EV_MASTER_FRAME_RECEIVED }
    .EV_MASTER_READY hreq hreply.symm rfl rfl
  exact ⟨k, hk, hfinished, congrArg Prod.fst hwait⟩

end GreeIntense.Master

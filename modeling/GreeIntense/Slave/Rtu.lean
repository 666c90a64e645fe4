import GreeIntense.Master.Crc
import GreeIntense.Slave.Server

/-!
# The slave on a serial line (`mbrtu.c`, `mb.c`)

The receiver and the transmitter of the slave, which interrupts drive, the timer of the frame, and the poll task over
them.  Of the registers of the port it is modelled whether bytes are received and whether the transmitter interrupts;
`line` is what has been put on the line and has not arrived yet.

A PDU stands from the second byte of `ucRcvBuf` on, and an answer of at most 253 bytes keeps to the buffer, so
`ucRcvAddress` is a field here.
-/

namespace GreeIntense.Slave.Rtu

open Lib.Memory Lib.Bits Master eMBErrorCode eMBSlaveEventType

inductive eMBSlaveRcvState
  | STATE_RX_INIT | STATE_RX_IDLE | STATE_RX_RCV | STATE_RX_ERROR
  deriving DecidableEq, Repr

inductive eMBSlaveSndState
  | STATE_TX_IDLE | STATE_TX_XMIT
  deriving DecidableEq, Repr

open eMBSlaveRcvState eMBSlaveSndState

abbrev MB_SER_PDU_SIZE_MAX : ℕ := 256

/-- `sMBSlaveInfo` and its port.  `timer` says that the timer of the frame is running. -/
structure sMBSlaveInfo where
  store : Store
  usRcvBufferPos : ℕ
  pucMBFrame : ℕ
  ucRcvAddress : UCHAR
  eQueuedEvent : Option eMBSlaveEventType
  eRcvState : eMBSlaveRcvState
  eSndState : eMBSlaveSndState
  pucSndBufferCur : ℕ
  usSndBufferCount : ℕ
  xRxEnable : Bool
  xTxEnable : Bool
  timer : Bool
  line : List UCHAR

def xMBSlavePortEventPost (s : sMBSlaveInfo) (eEvent : eMBSlaveEventType) : sMBSlaveInfo :=
  { s with eQueuedEvent := some eEvent }

def vMBSlavePortSerialEnable (xRxEnable xTxEnable : Bool) (s : sMBSlaveInfo) : sMBSlaveInfo :=
  { s with xRxEnable, xTxEnable }

def vMBSlavePortTimersEnable (s : sMBSlaveInfo) : sMBSlaveInfo := { s with timer := true }

def vMBSlaveRTUGetRequest (s : sMBSlaveInfo) : sMBSlaveInfo := vMBSlavePortSerialEnable true false s

/-- `xMBSlavePortSerialPutByte` for the byte at `pucSndBufferCur`, and the step to the next one. -/
def putByte (s : sMBSlaveInfo) : sMBSlaveInfo :=
  { s with
    line := s.line ++ [s.store.ucRcvBuf s.pucSndBufferCur]
    pucSndBufferCur := s.pucSndBufferCur + 1, usSndBufferCount := s.usSndBufferCount - 1 }

/-! ### Frames -/

def eMBSlaveRTUReceive (s : sMBSlaveInfo) : eMBErrorCode × sMBSlaveInfo :=
  if s.usRcvBufferPos ≥ MB_SER_PDU_SIZE_MIN ∧ usMBCRC16 ((List.range s.usRcvBufferPos).map s.store.ucRcvBuf) = 0 then
    (MB_ENOERR, { s with
      ucRcvAddress := s.store.ucRcvBuf 0
      store := { s.store with usLength := s.usRcvBufferPos - 1 - 2 }
      pucMBFrame := 1 })
  else ( MB_EIO, s)

/-- The answer stands from `pucMBFrame` on; its first byte is sent at once. -/
def eMBSlaveRTUSend (ucSlaveAddr : UCHAR) (s : sMBSlaveInfo) : eMBErrorCode × sMBSlaveInfo :=
  if s.eRcvState = STATE_RX_IDLE then
    let pucSndBufferCur := s.pucMBFrame - 1
    let buf := store8 s.store.ucRcvBuf pucSndBufferCur ucSlaveAddr
    let usSndBufferCount := 1 + s.store.usLength
    let usCRC16 := usMBCRC16 ((List.range usSndBufferCount).map fun i => buf (pucSndBufferCur + i))
    let buf := store8 buf usSndBufferCount (lo usCRC16)
    let buf := store8 buf (usSndBufferCount + 1) (hi usCRC16)
    let s := { s with
      store := { s.store with ucRcvBuf := buf }
      pucSndBufferCur, usSndBufferCount := usSndBufferCount + 2, eSndState := STATE_TX_XMIT }
    (MB_ENOERR, putByte (vMBSlavePortSerialEnable false true s))
  else ( MB_EIO, s)

/-! ### Interrupts and the timer -/

/-- Where a byte is received. -/
def takeByte (ucByte : UCHAR) (s : sMBSlaveInfo) : sMBSlaveInfo :=
  { s with
    store := { s.store with ucRcvBuf := store8 s.store.ucRcvBuf s.usRcvBufferPos ucByte }
    usRcvBufferPos := s.usRcvBufferPos + 1 }

def xMBSlaveRTUReceiveFSM (ucByte : UCHAR) (s : sMBSlaveInfo) : sMBSlaveInfo :=
  match s.eRcvState with
  | STATE_RX_INIT | STATE_RX_ERROR => vMBSlavePortTimersEnable s
  | STATE_RX_IDLE =>
    vMBSlavePortTimersEnable { takeByte ucByte { s with usRcvBufferPos := 0 } with eRcvState := STATE_RX_RCV }
  | STATE_RX_RCV =>
    vMBSlavePortTimersEnable
      (if s.usRcvBufferPos < MB_SER_PDU_SIZE_MAX then takeByte ucByte s else { s with eRcvState := STATE_RX_ERROR })

def xMBSlaveRTUTransmitFSM (s : sMBSlaveInfo) : sMBSlaveInfo :=
  match s.eSndState with
  | STATE_TX_IDLE => vMBSlavePortSerialEnable true false s
  | STATE_TX_XMIT =>
    if s.usSndBufferCount ≠ 0 then putByte s
    else { xMBSlavePortEventPost s EV_FRAME_SENT with eSndState := STATE_TX_IDLE }

/-- The timer runs once. -/
def xMBSlaveRTUTimerExpired (s : sMBSlaveInfo) : sMBSlaveInfo :=
  let s := { s with timer := false }
  let s := match s.eRcvState with
    | STATE_RX_INIT => xMBSlavePortEventPost s EV_READY
    | STATE_RX_RCV =>
      if s.usRcvBufferPos ≥ 8 then xMBSlavePortEventPost s EV_FRAME_RECEIVED
      else xMBSlavePortEventPost { s with usRcvBufferPos := 0 } EV_ERROR_RCV
    | _ => s
  { s with eRcvState := STATE_RX_IDLE }

/-! ### The poll task -/

section Poll

variable (cur : sMBSlaveCommData)

/-- The `EV_EXECUTE` case of `eMBSlavePoll`. -/
def eMBSlaveExecute (ucSlaveAddr : UCHAR) (usRegInValue : USHORT) (s : sMBSlaveInfo) : Option sMBSlaveInfo :=
  let ucFunctionCode := s.store.ucRcvBuf s.pucMBFrame
  (execute cur usRegInValue ucFunctionCode s.pucMBFrame s.store).map fun r =>
    let s := { s with store := r.2 }
    if s.ucRcvAddress ≠ MB_ADDRESS_BROADCAST then
      let store := if r.1 ≠ .MB_EX_NONE then errorFrame ucFunctionCode r.1 s.pucMBFrame s.store else s.store
      (eMBSlaveRTUSend ucSlaveAddr { s with store := store }).2
    else s

/-- `eMBSlavePoll` with the functions of a serial line. -/
def eMBSlavePoll (ucSlaveAddr : UCHAR) (usRegInValue : USHORT) (s : sMBSlaveInfo) : Option sMBSlaveInfo :=
  match s.eQueuedEvent with
  | none => none
  | some eEvent =>
    let s := { s with eQueuedEvent := none }
    match eEvent with
    | EV_READY | EV_FRAME_SENT | EV_ERROR_RCV => some (vMBSlaveRTUGetRequest s)
    | EV_FRAME_RECEIVED =>
      let r := eMBSlaveRTUReceive s
      if r.1 = MB_ENOERR then
        if r.2.ucRcvAddress = ucSlaveAddr ∨ r.2.ucRcvAddress = MB_ADDRESS_BROADCAST then
          some (xMBSlavePortEventPost r.2 EV_EXECUTE)
        else some r.2
      else some (xMBSlavePortEventPost r.2 EV_ERROR_RCV)
    | EV_EXECUTE => eMBSlaveExecute cur ucSlaveAddr usRegInValue s

end Poll

/-! ### What is sent and what is received -/

/-- The frame around a PDU: the address before it and the checksum behind it. -/
def rtuFrame (ucSlaveAddr : UCHAR) (pdu : List UCHAR) : List UCHAR :=
  ucSlaveAddr :: pdu ++ [lo (usMBCRC16 (ucSlaveAddr :: pdu)), hi (usMBCRC16 (ucSlaveAddr :: pdu))]

section Specs

variable {ucSlaveAddr : UCHAR} {pdu : List UCHAR} {m : Mem} {s : sMBSlaveInfo}

@[simp] theorem rtuFrame_length : (rtuFrame ucSlaveAddr pdu).length = pdu.length + 3 := by simp [rtuFrame]

theorem rtuFrame_crc : usMBCRC16 (rtuFrame ucSlaveAddr pdu) = 0 := crc_append _

theorem holds_rtuFrame (h : Holds m 0 (rtuFrame ucSlaveAddr pdu)) : m 0 = ucSlaveAddr ∧ Holds m 1 pdu := by
  have hcons : Holds m 0 ((ucSlaveAddr :: pdu) ++ _) := h
  exact holds_cons.mp (holds_append.mp hcons).1

/-- **A frame that stands in the buffer is taken**: its address, and its PDU. -/
theorem receive_frame (h : Holds s.store.ucRcvBuf 0 (rtuFrame ucSlaveAddr pdu))
    (hpos : s.usRcvBufferPos = (rtuFrame ucSlaveAddr pdu).length) (hpdu : 1 ≤ pdu.length) :
    eMBSlaveRTUReceive s = (MB_ENOERR, { s with
      ucRcvAddress := ucSlaveAddr, store := { s.store with usLength := pdu.length }, pucMBFrame := 1 }) := by
  have hlen : s.usRcvBufferPos - 1 - 2 = pdu.length := by
    rw [hpos, rtuFrame_length]
    omega
  have hcrc : usMBCRC16 ((List.range s.usRcvBufferPos).map s.store.ucRcvBuf) = 0 := by
    rw [hpos, h.map_range, rtuFrame_crc]
  have hmin : s.usRcvBufferPos ≥ MB_SER_PDU_SIZE_MIN := by
    rw [hpos, rtuFrame_length]
    show _ ≥ 4
    omega
  rw [eMBSlaveRTUReceive, if_pos ⟨hmin, hcrc⟩, hlen, (holds_rtuFrame h).1]

/-- **The frame that is sent for a PDU**: it stands in the buffer, and its first byte is on the line. -/
theorem send_frame (ucSlaveAddr : UCHAR) (hidle : s.eRcvState = STATE_RX_IDLE) (hf : s.pucMBFrame = 1)
    (h : Received s.store 1 pdu) :
    ∃ buf, Holds buf 0 (rtuFrame ucSlaveAddr pdu) ∧ eMBSlaveRTUSend ucSlaveAddr s = (MB_ENOERR, { s with
      store := { s.store with ucRcvBuf := buf }
      pucSndBufferCur := 1, usSndBufferCount := pdu.length + 2, eSndState := STATE_TX_XMIT
      xRxEnable := false, xTxEnable := true, line := s.line ++ [ucSlaveAddr] }) := by
  set buf := store8 s.store.ucRcvBuf 0 ucSlaveAddr with hbuf
  have hbody : Holds buf 0 (ucSlaveAddr :: pdu) := by
    rw [holds_cons]
    exact ⟨store8_same _ _ _, h.holds.congr fun i _ => store8_ne _ _ _ _ (by omega)⟩
  have hlen : 1 + pdu.length = 0 + (ucSlaveAddr :: pdu).length := by simp [Nat.add_comm]
  have hrange : (List.range (0 + (ucSlaveAddr :: pdu).length)).map (fun i => buf (0 + i)) = ucSlaveAddr :: pdu := by
    simpa only [Nat.zero_add] using hbody.map_range
  have hlo := hbody.snoc (lo (usMBCRC16 (ucSlaveAddr :: pdu)))
  have hhi := hlo.snoc (hi (usMBCRC16 (ucSlaveAddr :: pdu)))
  have hframe : ucSlaveAddr :: pdu ++ [lo (usMBCRC16 (ucSlaveAddr :: pdu))] ++
      [hi (usMBCRC16 (ucSlaveAddr :: pdu))] = rtuFrame ucSlaveAddr pdu := by
    rw [List.append_assoc]
    rfl
  rw [hframe, List.length_append, List.length_singleton, ← Nat.add_assoc] at hhi
  have hfirst := (holds_rtuFrame hhi).1
  have hcount : 0 + (ucSlaveAddr :: pdu).length + 2 - 1 = pdu.length + 2 := by omega
  refine ⟨_, hhi, ?_⟩
  rw [eMBSlaveRTUSend, if_pos hidle, hf]
  simp only [Nat.sub_self, ← hbuf, h.len, hlen, hrange, putByte, vMBSlavePortSerialEnable, hfirst, hcount]

/-- The slave after a request that it has served with the answer `y`: its frame stands in the buffer, and the first byte
of it is on the line. -/
structure Replies (ucSlaveAddr : UCHAR) (ucFunctionCode : UCHAR) (s : sMBSlaveInfo) (s' : sMBSlaveInfo) (y : Answer) :
    Prop where
  buf : Holds s'.store.ucRcvBuf 0 (rtuFrame ucSlaveAddr (y.pdu ucFunctionCode))
  vars : s'.store.vars = y.vars
  cur : s'.pucSndBufferCur = 1
  count : s'.usSndBufferCount = (y.pdu ucFunctionCode).length + 2
  snd : s'.eSndState = STATE_TX_XMIT
  rx : s'.xRxEnable = false
  tx : s'.xTxEnable = true
  line : s'.line = s.line ++ [ucSlaveAddr]
  rcv : s'.eRcvState = s.eRcvState
  timer : s'.timer = s.timer
  queued : s'.eQueuedEvent = s.eQueuedEvent

/-- **A request in the buffer is served and answered.** -/
theorem execute_replies (cur : sMBSlaveCommData) (v : USHORT) {r : Request} (hshort : r.pdu.length ≤ 253)
    (hr : r.Plain) (hne : ucSlaveAddr ≠ MB_ADDRESS_BROADCAST) (hidle : s.eRcvState = STATE_RX_IDLE)
    (hf : s.pucMBFrame = 1) (haddr : s.ucRcvAddress = ucSlaveAddr) (h : Received s.store 1 r.pdu) :
    Option.Rel (Replies ucSlaveAddr r.code s) (eMBSlaveExecute cur ucSlaveAddr v s) (serve cur v s.store.vars r) := by
  have hcode : s.store.ucRcvBuf 1 = r.code := by
    cases r <;> exact (holds_cons.mp h.holds).1
  have hserved := execute_request cur v hshort hr h
  rw [eMBSlaveExecute, hf, hcode]
  dsimp only
  generalize execute cur v r.code 1 s.store = x, serve cur v s.store.vars r = z at hserved
  cases hserved with
  | none => exact .none
  | some hy =>
    rename_i x y
    rw [Option.map_some, if_pos (show _ ≠ _ by rwa [haddr])]
    obtain ⟨hreply, hvars⟩ := hy.reply r.code
    generalize (if x.1 ≠ .MB_EX_NONE then errorFrame r.code x.1 1 x.2 else x.2) = t at hreply hvars
    obtain ⟨buf, hbuf, hsend⟩ := send_frame ucSlaveAddr (s := { s with store := t }) hidle hf hreply
    rw [hf] at hsend
    rw [hsend]
    exact .some ⟨hbuf, hvars, rfl, rfl, rfl, rfl, rfl, rfl, rfl, rfl, rfl⟩

end Specs

end GreeIntense.Slave.Rtu

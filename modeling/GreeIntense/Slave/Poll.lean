import GreeIntense.Slave.Input

/-!
# The slave's state machine over TCP (`mb.c`, `mbtcp.c`, `mbporttcp.c`, `mbportevent.c`)

`eMBSlavePoll` takes one event of the port's event slot and handles it.  Over TCP the receiver is armed
by `xMBSlaveTCPPortGetRequest`, which blocks in `recv`: in the model the call takes the data that arrive
(none: the connection is closed) and ends with the event it posts.

The receive buffer is followed in memory by `ucRcvAddress`, the unit identifier of the request: it is
the byte 256 of the model's buffer, where long answers reach it.
-/

namespace GreeIntense.Slave

open Lib.Memory eMBErrorCode

inductive eMBSlaveEventType
  | EV_READY | EV_FRAME_RECEIVED | EV_EXECUTE | EV_FRAME_SENT | EV_ERROR_RCV
  deriving DecidableEq, Repr

/-- `sMBSlaveInfo` and its port, the parts that change.  `eQueuedEvent` is the event slot, empty when
`xEventInQueue` is `FALSE`; `sent` is what has been handed to `send`, latest first. -/
structure sMBSlaveInfo where
  store : Store
  usRcvBufferPos : ℕ
  pucMBFrame : ℕ
  eQueuedEvent : Option eMBSlaveEventType
  xSocketConnected : Bool
  sent : List (List UCHAR)

/-- `MB_SER_PDU_SIZE_MAX`: the index of `ucRcvAddress` from `ucRcvBuf` on. -/
abbrev RCV_ADDRESS : ℕ := 256

abbrev MB_ADDRESS_BROADCAST : UCHAR := 0

namespace sMBSlaveInfo

/-- The byte after the receive buffer. -/
def ucRcvAddress (s : sMBSlaveInfo) : UCHAR := s.store.ucRcvBuf RCV_ADDRESS

end sMBSlaveInfo

/-- `xMBSlavePortEventPost`: the slot is overwritten. -/
def xMBSlavePortEventPost (s : sMBSlaveInfo) (eEvent : eMBSlaveEventType) : sMBSlaveInfo :=
  { s with eQueuedEvent := some eEvent }

/-- `xMBSlaveTCPPortGetRequest`, with the data `recv` has: at most 256 bytes are read, and no bytes are a
closed connection. -/
def xMBSlaveTCPPortGetRequest (data : List UCHAR) (s : sMBSlaveInfo) : sMBSlaveInfo :=
  let read := data.take 256
  if read.length = 0 then
    xMBSlavePortEventPost { s with usRcvBufferPos := 0, xSocketConnected := false } .EV_ERROR_RCV
  else
    let store := { s.store with ucRcvBuf := storeList s.store.ucRcvBuf 0 read }
    xMBSlavePortEventPost { s with store := store, usRcvBufferPos := read.length } .EV_FRAME_RECEIVED

/-- `eMBSlaveTCPReceive`: protocol identifier at 2, length at 4, unit identifier at 6, PDU from 7 on.
The length is the low byte less one, as a `USHORT`. -/
def eMBSlaveTCPReceive (s : sMBSlaveInfo) : eMBErrorCode × sMBSlaveInfo :=
  if loadBE s.store.ucRcvBuf 2 = 0 then
    let pusLength := ((s.store.ucRcvBuf 5).toNat + 65535) % 65536
    let store := { s.store with
      ucRcvBuf := store8 s.store.ucRcvBuf RCV_ADDRESS (s.store.ucRcvBuf 6), usLength := pusLength }
    let s' := { s with store := store, pucMBFrame := 7 }
    if (s.usRcvBufferPos : ℤ) - 7 + 1 < pusLength then ( MB_EIO, s') else (MB_ENOERR, s')
  else ( MB_EIO, s)

def eMBSlaveTCPSend (ucSlaveAddr : UCHAR) (s : sMBSlaveInfo) : sMBSlaveInfo :=
  let pucSndBufferCur := s.pucMBFrame - 7
  let buf := store8 (store8 s.store.ucRcvBuf (pucSndBufferCur + 5) (BitVec.ofNat 8 s.store.usLength + 1))
    (pucSndBufferCur + 6) ucSlaveAddr
  let frame := (List.range (s.store.usLength + 7)).map fun i => buf (pucSndBufferCur + i)
  xMBSlavePortEventPost { s with store := { s.store with ucRcvBuf := buf }, sent := frame :: s.sent }
    .EV_FRAME_SENT

variable (cur : sMBSlaveCommData)

/-- `xFuncHandlers`: the handlers that are compiled in, in the order of the table.  `usRegInValue` is the
uninitialised local of the input-register callback. -/
def xFuncHandlers (usRegInValue : USHORT) : List (UCHAR × (ℕ → Store → Option (eMBException × Store))) :=
  [(MB_FUNC_READ_INPUT_REGISTER, eMBSlaveFuncReadInputRegister cur usRegInValue),
    (MB_FUNC_READ_HOLDING_REGISTER, fun p s => some (eMBSlaveFuncReadHoldingRegister cur p s)),
    (MB_FUNC_WRITE_MULTIPLE_REGISTERS, fun p s => some (eMBSlaveFuncWriteMultipleHoldingRegister cur p s)),
    (MB_FUNC_READWRITE_MULTIPLE_REGISTERS,
      fun p s => some (eMBSlaveFuncReadWriteMultipleHoldingRegister cur p s)),
    (MB_FUNC_READ_COILS, eMBSlaveFuncReadCoils cur),
    (MB_FUNC_WRITE_MULTIPLE_COILS, eMBSlaveFuncWriteMultipleCoils cur)]

/-- The handler of a function code, called on the frame. -/
def execute (usRegInValue : USHORT) (ucFunctionCode : UCHAR) (pucFrame : ℕ) (s : Store) :
    Option (eMBException × Store) :=
  match (xFuncHandlers cur usRegInValue).lookup ucFunctionCode with
  | some pxHandler => pxHandler pucFrame s
  | none => some (.MB_EX_ILLEGAL_FUNCTION, s)

theorem execute_unhandled {cur : sMBSlaveCommData} {v : USHORT} {fc : UCHAR} {p : ℕ} {s : Store}
    (h3 : fc ≠ MB_FUNC_READ_HOLDING_REGISTER) (h4 : fc ≠ MB_FUNC_READ_INPUT_REGISTER)
    (h16 : fc ≠ MB_FUNC_WRITE_MULTIPLE_REGISTERS) (h23 : fc ≠ MB_FUNC_READWRITE_MULTIPLE_REGISTERS)
    (h1 : fc ≠ MB_FUNC_READ_COILS) (h15 : fc ≠ MB_FUNC_WRITE_MULTIPLE_COILS) :
    execute cur v fc p s = some (.MB_EX_ILLEGAL_FUNCTION, s) := by
  have hl : (xFuncHandlers cur v).lookup fc = none := by
    simp only [xFuncHandlers, List.lookup_cons, List.lookup_nil, beq_false_of_ne h3, beq_false_of_ne h4,
      beq_false_of_ne h23, beq_false_of_ne h1, beq_false_of_ne h15, beq_false_of_ne h16]
  rw [execute, hl]

def errorFrame (ucFunctionCode : UCHAR) (eException : eMBException) (pucFrame : ℕ) (s : Store) : Store :=
  { s with
    ucRcvBuf := store8 (store8 s.ucRcvBuf pucFrame (ucFunctionCode ||| MB_FUNC_ERROR)) (pucFrame + 1)
      eException.code
    usLength := 2 }

/-- The `EV_EXECUTE` case of `eMBSlavePoll`. -/
def eMBSlaveExecute (ucSlaveAddr : UCHAR) (usRegInValue : USHORT) (s : sMBSlaveInfo) : Option sMBSlaveInfo :=
  let ucFunctionCode := s.store.ucRcvBuf s.pucMBFrame
  (execute cur usRegInValue ucFunctionCode s.pucMBFrame s.store).map fun r =>
    let s := { s with store := r.2 }
    if s.ucRcvAddress ≠ MB_ADDRESS_BROADCAST then
      let store := if r.1 ≠ .MB_EX_NONE then errorFrame ucFunctionCode r.1 s.pucMBFrame s.store else s.store
      eMBSlaveTCPSend ucSlaveAddr { s with store := store }
    else s

/-- `eMBSlavePoll` of an enabled slave.  `xMBSlavePortEventGet` blocks on an empty slot: there is no
step then.  `data` is what `recv` gets when the receiver is armed. -/
def eMBSlavePoll (ucSlaveAddr : UCHAR) (usRegInValue : USHORT) (data : List UCHAR) (s : sMBSlaveInfo) :
    Option sMBSlaveInfo :=
  match s.eQueuedEvent with
  | none => none
  | some eEvent =>
    let s := { s with eQueuedEvent := none }
    match eEvent with
    | .EV_READY | .EV_FRAME_SENT | .EV_ERROR_RCV => some (xMBSlaveTCPPortGetRequest data s)
    | .EV_FRAME_RECEIVED =>
      let r := eMBSlaveTCPReceive s
      if r.1 = .MB_ENOERR then
        if r.2.ucRcvAddress = ucSlaveAddr ∨ r.2.ucRcvAddress = MB_ADDRESS_BROADCAST then
          some (xMBSlavePortEventPost r.2 .EV_EXECUTE)
        else some r.2
      else some (xMBSlavePortEventPost r.2 .EV_ERROR_RCV)
    | .EV_EXECUTE => eMBSlaveExecute cur ucSlaveAddr usRegInValue s

end GreeIntense.Slave

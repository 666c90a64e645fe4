import GreeIntense.Lib.Wire
import GreeIntense.Master.RtuFrame
import GreeIntense.Slave.Rtu

/-!
# A serial line (`mbrtu_m.c`, `mbportserial_m.c`, `mbrtu.c`)

A master and a slave at the two ends of a line.  The interrupts of both transmitters, the bytes that arrive, the timers
of the frames and the poll task of the slave come in any order.  Of time only this is kept: the timer of a frame does
not expire before the line is silent, which it is when no byte is on its way and the other end has no more to send.
The answer is in time: the timer of the response does not expire.

`Exchange` is what the line is for, one request and its answer, with the bytes counted only.
-/

namespace GreeIntense.Serial

open Lib.Memory Lib.Wire Lib.Run Master Master.Rtu Slave Slave.Rtu eMBErrorCode Master.Rtu.eMBMasterRcvState
  Master.Rtu.eMBMasterSndState Master.Rtu.eMBMasterTimerMode Slave.Rtu.eMBSlaveRcvState Slave.Rtu.eMBSlaveSndState

/-! ### The master and its port -/

/-- The master with the registers of its port; `line` is what has been put on the line and has not arrived yet. -/
structure SerialMaster where
  info : Master.Rtu.sMBMasterInfo
  pucSndBufferCur : ℕ
  xRxEnable : Bool
  xTxEnable : Bool
  line : List UCHAR

def vMBMasterPortSerialEnable (xRxEnable xTxEnable : Bool) (s : SerialMaster) : SerialMaster :=
  { s with xRxEnable, xTxEnable }

/-- `xMBMasterPortSerialPutByte` for the byte at `pucSndBufferCur`, and the step to the next one. -/
def putByte (s : SerialMaster) : SerialMaster :=
  { s with line := s.line ++ [s.info.ucRTUSndBuf s.pucSndBufferCur], pucSndBufferCur := s.pucSndBufferCur + 1 }

/-- `eMBMasterRTUSend` with its port. -/
def eMBMasterRTUSend (ucSlaveAddr : UCHAR) (usLength : ℕ) (s : SerialMaster) : eMBErrorCode × SerialMaster :=
  let r := Master.Rtu.eMBMasterRTUSend ucSlaveAddr usLength s.info
  if r.1 = MB_ENOERR then
    (MB_ENOERR, putByte (vMBMasterPortSerialEnable false true { s with info := r.2, pucSndBufferCur := 0 }))
  else (r.1, s)

/-- `xMBMasterRTUTransmitFSM` with its port. -/
def xMBMasterRTUTransmitFSM (s : SerialMaster) : SerialMaster :=
  let s' := { s with info := Master.Rtu.xMBMasterRTUTransmitFSM s.info }
  match s.info.eSndState with
  | STATE_M_TX_IDLE => vMBMasterPortSerialEnable true false s'
  | STATE_M_TX_XMIT =>
    if s.info.usSndBufferCount ≠ 0 then putByte s' else vMBMasterPortSerialEnable true false s'
  | STATE_M_TX_XFWR => s'

/-! ### Both ends -/

/-- The two ends, and what the master has posted to its poll task. -/
structure Line where
  master : SerialMaster
  slave : Slave.Rtu.sMBSlaveInfo
  posted : List eMBMasterEventType

/-- A transmitter is ready for the next byte, a byte arrives, the timer of a frame expires, the slave polls, or its
application assigns its variables. -/
inductive LineEvent
  | masterReady | slaveReady
  | masterByte | slaveByte
  | masterExpired | slaveExpired
  | slavePoll (usRegInValue : USHORT)
  | assign (vars : Mem)

def lineStep (cur : sMBSlaveCommData) (ucSlaveAddr : UCHAR) (st : Line) : LineEvent → Option Line
  | .masterReady => if st.master.xTxEnable then some { st with master := xMBMasterRTUTransmitFSM st.master } else none
  | .slaveReady => if st.slave.xTxEnable then some { st with slave := xMBSlaveRTUTransmitFSM st.slave } else none
  | .slaveByte =>
    match st.master.line with
    | [] => none
    | b :: line =>
      let st := { st with master := { st.master with line } }
      -- a byte is lost at an end that is not receiving
      some (if st.slave.xRxEnable then { st with slave := xMBSlaveRTUReceiveFSM b st.slave } else st)
  | .masterByte =>
    match st.slave.line with
    | [] => none
    | b :: line =>
      let st := { st with slave := { st.slave with line } }
      some (if st.master.xRxEnable then
          { st with master := { st.master with info := xMBMasterRTUReceiveFSM b st.master.info } }
        else st)
  | .slaveExpired =>
    if st.slave.timer ∧ st.master.line = [] ∧ st.master.info.eSndState ≠ STATE_M_TX_XMIT then
      some { st with slave := xMBSlaveRTUTimerExpired st.slave }
    else none
  | .masterExpired =>
    if st.master.info.running = some MB_TMODE_T35 ∧ st.slave.line = [] ∧ st.slave.eSndState ≠ STATE_TX_XMIT then
      let r := xMBMasterRTUTimerExpired st.master.info
      some { st with master := { st.master with info := r.1 }, posted := st.posted ++ r.2 }
    else none
  | .slavePoll usRegInValue =>
    (Slave.Rtu.eMBSlavePoll cur ucSlaveAddr usRegInValue st.slave).map fun slave => { st with slave }
  | .assign vars => some { st with slave := { st.slave with store := { st.slave.store with vars } } }

/-! ### One request and its answer -/

/-- The transmitter of the slave: it is sending, or the last byte is out; then its interrupt may still come, and its
event may still be queued. -/
inductive Sender
  | sending
  | sent (xTxEnable queued : Bool)
  deriving DecidableEq, Repr

/-- How far the exchange is: how many bytes of a frame have been put on the line and how many have arrived.  `sent`
says that the transmitter of the master is done, `heard` that the master has the answer. -/
inductive Stage
  | requesting (put got : ℕ) (sent : Bool)
  | requested
  | taken
  | replying (y : Answer) (put got : ℕ) (sender : Sender) (heard : Bool)

/-- The variables of the slave, and how far the exchange is. -/
structure Exchange where
  vars : Mem
  stage : Stage

section Exchange

variable (cur : sMBSlaveCommData) (r : Slave.Request)

/-- How many bytes the frame around an answer has. -/
def replyBytes (y : Answer) : ℕ := (y.pdu r.code).length + 3

def stageStep (vars : Mem) : Stage → LineEvent → Option Exchange
  | .requesting put got false, .masterReady =>
    some ⟨vars, if put < r.pdu.length + 3 then .requesting (put + 1) got false else .requesting put got true⟩
  | .requesting put got sent, .slaveByte => if got < put then some ⟨vars, .requesting put (got + 1) sent⟩ else none
  | .requesting put got true, .slaveExpired => if got = put then some ⟨vars, .requested⟩ else none
  | .requested, .slavePoll _ => some ⟨vars, .taken⟩
  | .taken, .slavePoll usRegInValue =>
    (serve cur usRegInValue vars r).map fun y => ⟨y.vars, .replying y 1 0 .sending false⟩
  | .replying y put got .sending heard, .slaveReady =>
    some ⟨vars, if put < replyBytes r y then .replying y (put + 1) got .sending heard
      else .replying y put got (.sent true true) heard⟩
  | .replying y put got (.sent true queued) heard, .slaveReady =>
    some ⟨vars, .replying y put got (.sent false queued) heard⟩
  | .replying y put got (.sent _ true) heard, .slavePoll _ => some ⟨vars, .replying y put got (.sent false false) heard⟩
  | .replying y put got sender heard, .masterByte =>
    if got < put then some ⟨vars, .replying y put (got + 1) sender heard⟩ else none
  | .replying y put got (.sent tx queued) false, .masterExpired =>
    if got = put then some ⟨vars, .replying y put got (.sent tx queued) true⟩ else none
  | _, _ => none

def exchangeStep (a : Exchange) : LineEvent → Option Exchange
  | .assign vars => some { a with vars }
  | e => stageStep cur r a.vars a.stage e

end Exchange

end GreeIntense.Serial

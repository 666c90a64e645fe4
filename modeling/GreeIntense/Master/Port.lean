import GreeIntense.Os.Mutex

/-!
# The master's port and its tasks (`mbportevent_m.c`, `mb_m.c`)

Two scan tasks make requests: they take the mutex `sMBIdleMutex`, post `EV_MASTER_FRAME_SENT` and wait, ten
delays at most, for `xMBIsFinished`.  The poll task takes the events of the port one at a time; when it has
processed a response or an error it sets `xMBIsFinished` and releases the mutex.

The steps are those between which the kernel can switch tasks: `xMBMasterRunResTake` is a pend and an
assignment, and the poll task sets `xMBIsFinished` in one step and releases the mutex in the next.
-/

namespace GreeIntense.Master

open Os

inductive ScanTask
  | scanRead | scanWrite
  deriving DecidableEq, Repr

inductive Task
  | scan (t : ScanTask)
  | poll
  deriving DecidableEq, Repr

inductive eMBMasterEventType
  | EV_MASTER_READY | EV_MASTER_FRAME_RECEIVED | EV_MASTER_EXECUTE | EV_MASTER_FRAME_SENT
  | EV_MASTER_ERROR_PROCESS | EV_MASTER_PROCESS_SUCCESS | EV_MASTER_ERROR_RESPOND_TIMEOUT
  | EV_MASTER_ERROR_RECEIVE_DATA | EV_MASTER_ERROR_EXECUTE_FUNCTION
  deriving DecidableEq, Repr

inductive eMBMasterErrorEventType
  | EV_ERROR_RESPOND_TIMEOUT | EV_ERROR_RECEIVE_DATA | EV_ERROR_EXECUTE_FUNCTION
  deriving DecidableEq, Repr

inductive eMBMasterReqErrCode
  | MB_MRE_NO_ERR | MB_MRE_NO_REG | MB_MRE_ILL_ARG | MB_MRE_REV_DATA | MB_MRE_TIMEDOUT | MB_MRE_MASTER_BUSY
  | MB_MRE_EXE_FUN | MB_MRE_EPORTERR | MB_MRE_ENORES | MB_MRE_EIO | MB_MRE_EILLSTATE | MB_MRE_ETIMEDOUT
  deriving DecidableEq, Repr

abbrev MB_MASTER_PORT_WAIT_TIMES : ℕ := 10

/-- Where a scan task is: outside a request, waiting for the mutex, after `OSMutexPend`, after
`xMBMasterRunResTake`, or in `eMBMasterWaitRequestFinish` after some delays. -/
inductive Phase
  | idle
  | pending
  | taken
  | ready
  | waiting (ucDlyCount : ℕ)
  deriving DecidableEq, Repr

/-- The port, the current error type, and the tasks: the phase of a scan task and what its last request
returned, and whether the poll task is about to release the mutex. -/
structure Port where
  sMBIdleMutex : OS_MUTEX Task
  sMBEventSem : ℕ
  xEventInQueue : Bool
  eQueuedEvent : eMBMasterEventType
  xWaitFinishInQueue : Bool
  xMBIsFinished : Bool
  eCurErrorType : eMBMasterErrorEventType
  phase : ScanTask → Phase
  result : ScanTask → eMBMasterReqErrCode
  releasing : Bool

variable (OS_CFG_ARG_CHK_EN : Bool)

def xMBMasterPortEventPost (eEvent : eMBMasterEventType) (s : Port) : Port :=
  { s with xEventInQueue := true, eQueuedEvent := eEvent, sMBEventSem := s.sMBEventSem + 1 }

def setPhase (s : Port) (t : ScanTask) (p : Phase) : Port := { s with phase := Function.update s.phase t p }

/-- A task that gets the mutex goes on after its `OSMutexPend`. -/
def wake (s : Port) : Option Task → Port
  | some (.scan t) => setPhase s t .taken
  | _ => s

/-- `vMBMasterRunResRelease`, called by the task. -/
def vMBMasterRunResRelease (task : Task) (s : Port) : Port :=
  let r := OSMutexPost OS_CFG_ARG_CHK_EN task OS_OPT_POST_ALL s.sMBIdleMutex
  wake { s with sMBIdleMutex := r.1 } r.2

/-- The pend of `xMBMasterRunResTake`, called by a scan task. -/
def runResTake (t : ScanTask) (s : Port) : Port :=
  let r := OSMutexPend (.scan t) s.sMBIdleMutex
  setPhase { s with sMBIdleMutex := r.1 } t (if r.2 then .taken else .pending)

/-- The callbacks `vMBMasterCBRequestSuccess`, `vMBMasterErrorCBRespondTimeout`,
`vMBMasterErrorCBReceiveData` and `vMBMasterErrorCBExecuteFunction`; then the poll task releases the
mutex. -/
def requestFinished (eEvent : eMBMasterEventType) (s : Port) : Port :=
  { s with eQueuedEvent := eEvent, xWaitFinishInQueue := true, xMBIsFinished := true, releasing := true }

/-- The event of an error in the error callbacks. -/
def errorEvent : eMBMasterErrorEventType → eMBMasterEventType
  | .EV_ERROR_RESPOND_TIMEOUT => .EV_MASTER_ERROR_RESPOND_TIMEOUT
  | .EV_ERROR_RECEIVE_DATA => .EV_MASTER_ERROR_RECEIVE_DATA
  | .EV_ERROR_EXECUTE_FUNCTION => .EV_MASTER_ERROR_EXECUTE_FUNCTION

/-- The code `eMBMasterWaitRequestFinish` returns for the event of the port. -/
def finishCode : eMBMasterEventType → eMBMasterReqErrCode
  | .EV_MASTER_ERROR_RESPOND_TIMEOUT => .MB_MRE_TIMEDOUT
  | .EV_MASTER_ERROR_RECEIVE_DATA => .MB_MRE_REV_DATA
  | .EV_MASTER_ERROR_EXECUTE_FUNCTION => .MB_MRE_EXE_FUN
  | _ => .MB_MRE_NO_ERR

/-- `eMBMasterWaitRequestFinish` at the head of its loop, after `ucDlyCount` delays: one more delay, or the
end of the request.  Only the timeout releases the mutex. -/
def waitRequestFinish (t : ScanTask) (ucDlyCount : ℕ) (s : Port) : Port :=
  if s.xMBIsFinished = false ∧ ucDlyCount < MB_MASTER_PORT_WAIT_TIMES then setPhase s t (.waiting (ucDlyCount + 1))
  else if ucDlyCount = MB_MASTER_PORT_WAIT_TIMES then
    let s := { s with
      xMBIsFinished := true, eQueuedEvent := .EV_MASTER_ERROR_RESPOND_TIMEOUT, xWaitFinishInQueue := true
      sMBEventSem := s.sMBEventSem + 1 }
    let s := vMBMasterRunResRelease OS_CFG_ARG_CHK_EN (.scan t) s
    { setPhase s t .idle with result := Function.update s.result t .MB_MRE_TIMEDOUT }
  else
    { setPhase s t .idle with
      xWaitFinishInQueue := false, result := Function.update s.result t (finishCode s.eQueuedEvent) }

/-- What the poll task does with an event, up to the release of the mutex.  `xFrameOk` is the outcome of
the receive function with the check of the address, `eException` that of the handlers. -/
def handleEvent (xFrameOk eException : Bool) (s : Port) : eMBMasterEventType → Port
  | .EV_MASTER_FRAME_RECEIVED =>
    if xFrameOk then xMBMasterPortEventPost .EV_MASTER_EXECUTE s
    else xMBMasterPortEventPost .EV_MASTER_ERROR_PROCESS { s with eCurErrorType := .EV_ERROR_RECEIVE_DATA }
  | .EV_MASTER_EXECUTE =>
    if eException then
      xMBMasterPortEventPost .EV_MASTER_ERROR_PROCESS { s with eCurErrorType := .EV_ERROR_EXECUTE_FUNCTION }
    else requestFinished .EV_MASTER_PROCESS_SUCCESS s
  | .EV_MASTER_ERROR_PROCESS => requestFinished (errorEvent s.eCurErrorType) s
  | _ => s

/-- The event `xMBMasterPortEventGet` hands over: one that is not for the poll task leaves the caller's
variable as it is. -/
def gotEvent (eEvent : eMBMasterEventType) : eMBMasterEventType → eMBMasterEventType
  | .EV_MASTER_READY => .EV_MASTER_READY
  | .EV_MASTER_FRAME_RECEIVED => .EV_MASTER_FRAME_RECEIVED
  | .EV_MASTER_EXECUTE => .EV_MASTER_EXECUTE
  | .EV_MASTER_FRAME_SENT => .EV_MASTER_FRAME_SENT
  | .EV_MASTER_ERROR_PROCESS => .EV_MASTER_ERROR_PROCESS
  | _ => eEvent

/-- `eMBMasterPoll` of an enabled master, up to the release of the mutex; `eEvent` is its uninitialised
local variable. -/
def eMBMasterPoll (xFrameOk eException : Bool) (eEvent : eMBMasterEventType) (s : Port) : Port :=
  let s := { s with sMBEventSem := 0 }
  if s.xEventInQueue then
    handleEvent xFrameOk eException { s with xEventInQueue := false } (gotEvent eEvent s.eQueuedEvent)
  else s

/-- What can happen: a scan task starts a request, goes on after the pend, posts its frame, or looks whether
its request has finished; the poll task takes an event, or releases the mutex; an interrupt of the port sets
the error type and posts an event. -/
inductive PortEvent
  | take (t : ScanTask)
  | clear (t : ScanTask)
  | send (t : ScanTask)
  | wait (t : ScanTask)
  | poll (xFrameOk eException : Bool) (eEvent : eMBMasterEventType)
  | release
  | interrupt (errorType : eMBMasterErrorEventType) (eEvent : eMBMasterEventType)

def portStep (s : Port) : PortEvent → Option Port
  | .take t => if s.phase t = .idle then some (runResTake t s) else none
  | .clear t => if s.phase t = .taken then some (setPhase { s with xMBIsFinished := false } t .ready) else none
  | .send t =>
    if s.phase t = .ready then some (setPhase (xMBMasterPortEventPost .EV_MASTER_FRAME_SENT s) t (.waiting 0))
    else none
  | .wait t =>
    match s.phase t with
    | .waiting ucDlyCount => some (waitRequestFinish OS_CFG_ARG_CHK_EN t ucDlyCount s)
    | _ => none
  | .poll xFrameOk eException eEvent =>
    if s.releasing = false ∧ s.sMBEventSem > 0 then some (eMBMasterPoll xFrameOk eException eEvent s) else none
  | .release =>
    if s.releasing then some { vMBMasterRunResRelease OS_CFG_ARG_CHK_EN .poll s with releasing := false } else none
  | .interrupt errorType eEvent => some (xMBMasterPortEventPost eEvent { s with eCurErrorType := errorType })

/-- `xMBMasterPortEventInit`, before any request. -/
def xMBMasterPortEventInit : Port where
  sMBIdleMutex := OSMutexCreate
  sMBEventSem := 0
  xEventInQueue := false
  eQueuedEvent := .EV_MASTER_READY
  xWaitFinishInQueue := false
  xMBIsFinished := false
  eCurErrorType := .EV_ERROR_RESPOND_TIMEOUT
  phase _ := .idle
  result _ := .MB_MRE_NO_ERR
  releasing := false

end GreeIntense.Master

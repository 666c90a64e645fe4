import GreeIntense.Lib.Tasks
import GreeIntense.Master.Port
import GreeIntense.MbFrame

/-!
# The scan tasks over the device records (`mbtest_m.c`, `mbscan_m.c`)

The read scan tests the devices that are off line (`vMBDevTest`), tests those on line that have a request for it
(`vMBDevCurStateTest`) and reads those on line; the write scan writes them.  Both work on the same records, and so
does the callback of the devices' timers.

A pass of a task is translated statement by statement: every test and every assignment of a field of a record is a
step of its own, and the other task may act before any of them.  The requests and the scan functions are calls with
an arbitrary answer.  The run mode of the master is not part of the records and is left out; a pass that a master
which is not initialised skips leaves the records as they are.
-/

namespace GreeIntense.Master.DevScan

open Lib.Tasks

/-! ### The records -/

inductive eMasterCmdMode
  | READ_REG_IN | READ_REG_HOLD | WRITE_REG_HOLD
  deriving DecidableEq, Repr

structure sMBTestDevCmd where
  usAddr : USHORT
  usValue : USHORT
  eCmdMode : eMasterCmdMode
  xCheckVal : Bool

/-- `sMBSlaveDevCommData`, as far as the tests use it. -/
structure sMBSlaveDevCommData where
  usProtocolID : USHORT
  sMBDevCmdTable : sMBTestDevCmd

/-- `sMBSlaveDev`, the fields that are assigned; `δ` are the pointers to data tables. -/
structure sMBSlaveDev (δ : Type*) where
  usProtocolID : USHORT
  ucOfflineTimes : UCHAR
  xDataReady : Bool
  xSynchronized : Bool
  xStateTestRequest : Bool
  xDevOnTimeout : Bool
  xOnLine : Bool
  psDevCurData : Option δ

/-- `sMBMasterDevsInfo` and what is registered with it, which no scan changes: `ι` are the pointers to devices, and
`psDevDataInfo` is the list of a device's data tables. -/
structure sMBMasterDevsInfo (ι δ : Type*) where
  psMBSlaveDevsList : List ι
  ucSlaveDevMinAddr : UCHAR
  ucSlaveDevMaxAddr : UCHAR
  ucDevAddr : ι → UCHAR
  psDevDataInfo : ι → List δ
  psDevData : δ → sMBSlaveDevCommData

/-! ### Calls -/

inductive ScanFunc
  | eMBMasterScanReadRegHold | eMBMasterScanReadCoils | eMBMasterScanReadRegIn
  | eMBMasterScanWriteRegHold (xCheckPreValue : Bool)
  | eMBMasterScanWriteCoils (xCheckPreValue : Bool)

/-- The requests of a test, and the scan functions, which work on the current data table of the device. -/
inductive Call (ι : Type*)
  | eMBMasterReqWriteHoldingRegister (ucSndAddr : UCHAR) (usRegAddr usRegData : USHORT)
  | eMBMasterReqReadHoldingRegister (ucSndAddr : UCHAR) (usRegAddr usNRegs : USHORT)
  | eMBMasterReqReadInputRegister (ucSndAddr : UCHAR) (usRegAddr usNRegs : USHORT)
  | scan (f : ScanFunc) (psMBSlaveDev : ι)

/-- What a call returns, and the value in the frame `pucMasterPDUCur` points to. -/
structure Answer where
  errorCode : eMBMasterReqErrCode
  pucMasterPDUCur : Option USHORT

/-! ### Statements -/

/-- A device is being taken on line or off line. -/
inductive Change (ι : Type*)
  | onLine (psMBSlaveDev : ι)
  | offLine (psMBSlaveDev : ι)
  deriving DecidableEq

@[simp] def Change.dev {ι : Type*} : Change ι → ι
  | .onLine i => i
  | .offLine i => i

abbrev Store (ι δ : Type*) := ι → sMBSlaveDev δ

/-- The rest of a pass of a scan task. -/
abbrev Pass (ι δ : Type*) := Prog (Store ι δ) (Change ι) (Call ι) Answer

section Statements

variable {ι δ : Type*} [DecidableEq ι]

def setDev (i : ι) (f : sMBSlaveDev δ → sMBSlaveDev δ) (s : Store ι δ) : Store ι δ :=
  Function.update s i (f (s i))

def test (i : ι) (b : sMBSlaveDev δ → Bool) (p q : Pass ι δ) : Pass ι δ :=
  .read fun s => if b (s i) then p else q

def assign (i : ι) (f : sMBSlaveDev δ → sMBSlaveDev δ) (k : Pass ι δ) : Pass ι δ := .write none (setDev i f) k

/-- An assignment in the middle of a change: the device's `xOnLine` is assigned, and this assignment or a later one
completes the change. -/
def assignMid (c : Change ι) (f : sMBSlaveDev δ → sMBSlaveDev δ) (k : Pass ι δ) : Pass ι δ :=
  .write (some c) (setDev c.dev f) k

end Statements

/-! ### Tests (`mbtest_m.c`) -/

abbrev MB_TEST_RETRY_TIMES : ℕ := 2
abbrev MB_TEST_OFFLINE_TIMES : UCHAR := 2

section Tests

variable {ι δ : Type*} [DecidableEq ι] (M : sMBMasterDevsInfo ι δ) (i : ι)

/-- The address of the device is one of the master's. -/
def inRange : Bool := M.ucSlaveDevMinAddr ≤ M.ucDevAddr i ∧ M.ucDevAddr i ≤ M.ucSlaveDevMaxAddr

/-- The timer is started.  Its callback `vMBMasterDevOfflineTimeout` may come at any time. -/
def xMBMasterDevOfflineTmrEnable (k : Pass ι δ) : Pass ι δ :=
  assign i (fun d => { d with xDevOnTimeout := true }) k

def vMBMasterDevOfflineTimeout : Store ι δ → Store ι δ := setDev i fun d => { d with xDevOnTimeout := false }

def eMBDevCmdTest (psMBDevCmd : sMBTestDevCmd) (k : Answer → Pass ι δ) : Pass ι δ :=
  match psMBDevCmd.eCmdMode with
  | .WRITE_REG_HOLD =>
    .call (.eMBMasterReqWriteHoldingRegister (M.ucDevAddr i) psMBDevCmd.usAddr psMBDevCmd.usValue) k
  | .READ_REG_HOLD => .call (.eMBMasterReqReadHoldingRegister (M.ucDevAddr i) psMBDevCmd.usAddr 1) k
  | .READ_REG_IN => .call (.eMBMasterReqReadInputRegister (M.ucDevAddr i) psMBDevCmd.usAddr 1) k

/-- The test command is sent until it does not time out, `n` times at most. -/
def retry (psMBCmd : sMBTestDevCmd) (k : Answer → Pass ι δ) : ℕ → Answer → Pass ι δ
  | 0, a => k a
  | n + 1, _ => eMBDevCmdTest M i psMBCmd fun a => if a.errorCode ≠ .MB_MRE_TIMEDOUT then k a else retry psMBCmd k n a

/-- The device has answered as it should: it is on line with the data table. -/
def takeOnLine (psMBDevData : δ) (k : Pass ι δ) : Pass ι δ :=
  assign i (fun d => { d with xOnLine := true }) <|
  assignMid (.onLine i) (fun d => { d with psDevCurData := some psMBDevData }) <|
  assignMid (.onLine i) (fun d => { d with usProtocolID := (M.psDevData psMBDevData).usProtocolID }) <|
  assign i (fun d => { d with xDataReady := true }) <|
  assign i (fun d => { d with xStateTestRequest := false }) <|
  assign i (fun d => { d with ucOfflineTimes := 0 }) k

/-- The loop of `vMBDevTest` over the data tables, and what follows it; `errorCode` is that of the last table. -/
def testTables (k : Pass ι δ) : List δ → eMBMasterReqErrCode → Pass ι δ
  | [], errorCode => if errorCode = .MB_MRE_TIMEDOUT then xMBMasterDevOfflineTmrEnable i k else k
  | psMBDevData :: ds, errorCode =>
    let psMBCmd := (M.psDevData psMBDevData).sMBDevCmdTable
    retry M i psMBCmd (fun a =>
      if a.errorCode ≠ .MB_MRE_TIMEDOUT then
        -- the loop is left, and the timer is not started
        if psMBCmd.xCheckVal ∧ a.errorCode = .MB_MRE_NO_ERR then
          match a.pucMasterPDUCur with
          | none => k
          | some usDataVal =>
            if usDataVal = psMBCmd.usValue then takeOnLine M i psMBDevData k
            else assign i (fun d => { d with xDataReady := false }) k
        else takeOnLine M i psMBDevData k
      else testTables k ds a.errorCode) MB_TEST_RETRY_TIMES ⟨errorCode, none⟩

def vMBDevTest (k : Pass ι δ) : Pass ι δ :=
  test i (·.xDevOnTimeout) k <|
    if inRange M i then
      assign i (fun d => { d with xOnLine := false }) <|
      assign i (fun d => { d with xDataReady := false }) <|
      assign i (fun d => { d with xStateTestRequest := false }) <|
      testTables M i k (M.psDevDataInfo i) .MB_MRE_NO_ERR
    else k

/-- The device has not answered in several tests: it is off line. -/
def takeOffLine (k : Pass ι δ) : Pass ι δ :=
  assign i (fun d => { d with xOnLine := false }) <|
  assignMid (.offLine i) (fun d => { d with xDataReady := false }) <|
  assignMid (.offLine i) (fun d => { d with xSynchronized := false }) <|
  assign i (fun d => { d with ucOfflineTimes := 0 }) k

/-- The last branch of `vMBDevCurStateTest`: every request has timed out. -/
def curStateTimedOut (k : Pass ι δ) : Pass ι δ :=
  assign i (fun d => { d with xDataReady := false }) <|
  test i (·.ucOfflineTimes == MB_TEST_OFFLINE_TIMES) (takeOffLine i k) <|
  .read fun s =>
    assign i (fun d => { d with ucOfflineTimes := (s i).ucOfflineTimes + 1 }) <|
    xMBMasterDevOfflineTmrEnable i k

/-- What `vMBDevCurStateTest` does after its last request. -/
def curStateTested (psMBCmd : sMBTestDevCmd) (k : Pass ι δ) (a : Answer) : Pass ι δ :=
  if a.errorCode ≠ .MB_MRE_TIMEDOUT then
    if psMBCmd.xCheckVal ∧ a.errorCode = .MB_MRE_NO_ERR then
      match a.pucMasterPDUCur with
      | none => k
      | some usDataVal =>
        if usDataVal = psMBCmd.usValue then
          assign i (fun d => { d with xOnLine := true }) <|
          assign i (fun d => { d with xDataReady := true }) <|
          assign i (fun d => { d with xStateTestRequest := false }) <|
          assign i (fun d => { d with ucOfflineTimes := 0 }) k
        else assign i (fun d => { d with xDataReady := false }) k
    else
      -- here the request for a test stays
      assign i (fun d => { d with xOnLine := true }) <|
      assign i (fun d => { d with xDataReady := true }) <|
      assign i (fun d => { d with ucOfflineTimes := 0 }) k
  else curStateTimedOut i k

/-- The command table of a device without a current data table is read through a NULL pointer. -/
def vMBDevCurStateTest (k : Pass ι δ) : Pass ι δ :=
  test i (·.xDevOnTimeout) k <|
    if inRange M i then
      .read fun s =>
        match (s i).psDevCurData with
        | none => .fault
        | some d =>
          let psMBCmd := (M.psDevData d).sMBDevCmdTable
          retry M i psMBCmd (curStateTested i psMBCmd k) MB_TEST_RETRY_TIMES ⟨.MB_MRE_EILLSTATE, none⟩
    else k

end Tests

/-! ### Scans (`mbscan_m.c`) -/

section Scans

variable {ι δ : Type*} [DecidableEq ι] (M : sMBMasterDevsInfo ι δ) (i : ι)

/-- Scan functions one after the other: the first that times out ends them, and the device is to be tested and
synchronised again. -/
def scanTables (k : Pass ι δ) : List ScanFunc → Pass ι δ
  | [] => k
  | f :: fs => .call (.scan f i) fun a =>
    if a.errorCode = .MB_MRE_TIMEDOUT then
      assign i (fun d => { d with xStateTestRequest := true }) <|
      assign i (fun d => { d with xSynchronized := false }) k
    else scanTables k fs

/-- The argument `xSynchronize` of the source chooses the run mode. -/
def vMBMasterScanReadSlaveDevData (k : Pass ι δ) : Pass ι δ :=
  scanTables i k [.eMBMasterScanReadRegHold, .eMBMasterScanReadCoils, .eMBMasterScanReadRegIn]

def vMBMasterScanWriteSlaveDevData (xCheckPreValue : Bool) (k : Pass ι δ) : Pass ι δ :=
  scanTables i k [.eMBMasterScanWriteRegHold xCheckPreValue, .eMBMasterScanWriteCoils xCheckPreValue]

def vMBMasterScanReadSlaveDev (k : Pass ι δ) : Pass ι δ :=
  test i (·.psDevCurData.isNone) k <|
  test i (·.xOnLine)
    (test i (·.xDataReady)
      (test i (·.xSynchronized)
        (vMBMasterScanReadSlaveDevData i k)
        (vMBMasterScanReadSlaveDevData i <| assign i (fun d => { d with xSynchronized := true }) k))
      k)
    k

def vMBMasterScanWriteSlaveDev (k : Pass ι δ) : Pass ι δ :=
  test i (·.psDevCurData.isNone) k <|
  test i (·.xOnLine)
    (test i (·.xDataReady)
      (test i (·.xSynchronized) (vMBMasterScanWriteSlaveDevData i true k) k)
      -- a device whose data is not ready is written and not read
      (test i (·.xSynchronized) k (vMBMasterScanWriteSlaveDevData i false k)))
    k

/-! ### Tasks -/

/-- In the first loop of the read scan a device that is off line is tested. -/
def testOffLine (k : Pass ι δ) : Pass ι δ := test i (·.xOnLine) k (vMBDevTest M i k)

/-- A device that is on line and not in a delay is read. -/
def readOnLine (k : Pass ι δ) : Pass ι δ :=
  test i (·.xOnLine) (test i (·.ucOfflineTimes == 0) (vMBMasterScanReadSlaveDev i k) k) k

/-- In the second loop a device that is on line is tested where there is a request for it, and read. -/
def testAndRead (k : Pass ι δ) : Pass ι δ :=
  test i (·.xOnLine)
    (if inRange M i then
      test i (·.xStateTestRequest) (vMBDevCurStateTest M i (readOnLine i k)) (readOnLine i k)
    else k)
    k

/-- In the loop of the write scan a device that is on line and not in a delay is written. -/
def writeOnLine (k : Pass ι δ) : Pass ι δ :=
  test i (·.xOnLine)
    (test i (·.ucOfflineTimes == 0) (if inRange M i then vMBMasterScanWriteSlaveDev i k else k) k)
    k

/-- A pass of the task. -/
def vMBMasterScanReadSlaveDevTask : Pass ι δ :=
  M.psMBSlaveDevsList.foldr (testOffLine M) (M.psMBSlaveDevsList.foldr (testAndRead M) .done)

def vMBMasterScanWriteSlaveDevTask : Pass ι δ := M.psMBSlaveDevsList.foldr (writeOnLine M) .done

def pass : ScanTask → Pass ι δ
  | .scanRead => vMBMasterScanReadSlaveDevTask M
  | .scanWrite => vMBMasterScanWriteSlaveDevTask M

/-- The two tasks and the records. -/
abbrev System (ι δ : Type*) := Lib.Tasks.System ScanTask (Store ι δ) (Change ι) (Call ι) Answer

/-- A step of either task, or the callback of a device's timer. -/
def step : System ι δ → Event ScanTask ι Answer → Option (System ι δ) :=
  Lib.Tasks.step (pass M) vMBMasterDevOfflineTimeout

end Scans

end GreeIntense.Master.DevScan

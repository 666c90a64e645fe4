import GreeIntense.Control.SystemCtrl

/-!
# Device events and the dispatch of `vSystem_EventPollTask`

The handlers of faults, of the switch between remote and local, and of the running states, and the table of
`vSystem_EventPollTask` that finds the handler of a changed variable.  The events of the room sensors are left
out.
-/

namespace GreeIntense.Control

/-! ### Running states -/

/-- To manual mode, on both sides. -/
def backToManual (s : System) : System :=
  { s with eSystemMode := .MODE_MANUAL, psBMS := { s.psBMS with eSystemMode := .MODE_MANUAL } }

/-- A closed system that finds a device running goes to manual mode. -/
def leaveClose (s : System) : System := if s.eSystemMode = .MODE_CLOSE then backToManual s else s

/-- As `leaveClose`, where the device is a unit, whose running mode is taken over. -/
def leaveCloseUnit (eRunMode : eRunningMode) (s : System) : System :=
  if s.eSystemMode = .MODE_CLOSE then
    backToManual { s with eRunningMode := eRunMode, psBMS := { s.psBMS with eRunningMode := eRunMode } }
  else s

def runningUnit (s : System) : Option (Fin MODULAR_ROOF_NUM) :=
  units.find? fun n => (s.unit n).eRunningState = .STATE_RUN

def anyFanRuns (s : System) : Bool := fans.any fun n => (s.fan n).eRunningState = .STATE_RUN

/-- The command of a fan follows its state, unless it has a fault or is local. -/
def fanFollows (n : Fin EX_AIR_FAN_NUM) (s : System) : System :=
  let f := s.fan n
  if f.xExAirFanRemote = true ∧ f.xExAirFanErr = false then
    s.setFan n { f with eCtrlCmd := if f.eRunningState = .STATE_RUN then .ON else .OFF }
  else s

/-- A closed system with a running fan goes to manual mode. -/
def fanLeavesClose (s : System) : System := if anyFanRuns s then leaveClose s else s

/-- The running mode of a unit, taken over where it is set. -/
def takeRunningMode (eRunMode : eRunningMode) (s : System) : System :=
  match eRunMode with
  | .unset => s
  | _ => { s with eRunningMode := eRunMode }

def vSystem_FanRunningState (n : Fin EX_AIR_FAN_NUM) (s : System) : System :=
  let s := fanFollows n s
  let eState : eSystemState := if anyFanRuns s then .STATE_EX_FAN else .STATE_CLOSED
  let s := fanLeavesClose s
  match runningUnit s with
  | some m =>
    let eRunMode := (s.unit m).eRunningMode
    { leaveCloseUnit eRunMode (takeRunningMode eRunMode s) with eSystemState := eRunMode.state.getD eState }
  | none => { s with eSystemState := eState }

/-- The commands of a unit follow its state. -/
def unitFollows (n : Fin MODULAR_ROOF_NUM) (s : System) : System :=
  let u := s.unit n
  let cmd : eSwitchCmd := if u.eRunningState = .STATE_RUN then .CMD_OPEN else .CMD_CLOSE
  s.setUnit n { u with eSwitchCmd := cmd, eSwitchState := cmd }

def vSystem_UnitRunningState (n : Fin MODULAR_ROOF_NUM) (xRunningState : Bool) (s : System) : System :=
  let s := if xRunningState then unitFollows n s else s
  match runningUnit s with
  | some m =>
    let eRunMode := (s.unit m).eRunningMode
    let s := takeRunningMode eRunMode s
    leaveCloseUnit eRunMode { s with eSystemState := eRunMode.state.getD s.eSystemState }
  | none =>
    if anyFanRuns s then { leaveClose s with eSystemState := .STATE_EX_FAN }
    else { s with eSystemState := .STATE_CLOSED }

def vSystem_UnitSwitchCmd (n : Fin MODULAR_ROOF_NUM) (s : System) : System :=
  s.setUnit n { s.unit n with xSwitchCmdChanged := true, eSwitchState := (s.unit n).eSwitchCmd }

def vSystem_UnitSwitchState (n : Fin MODULAR_ROOF_NUM) (s : System) : System :=
  let u := s.unit n
  if u.eSwitchCmd ≠ u.eSwitchState ∧ u.xSwitchCmdChanged = false then
    s.setUnit n { u with eSwitchCmd := u.eSwitchState }
  else s

/-! ### What the running states are does not depend on the commands -/

section Running

variable {s s' : System}

theorem anyFanRuns_congr (h : ∀ n, (s'.fan n).eRunningState = (s.fan n).eRunningState) :
    anyFanRuns s' = anyFanRuns s := by
  simp only [anyFanRuns, h]

theorem runningUnit_congr (h : ∀ n, (s'.unit n).eRunningState = (s.unit n).eRunningState) :
    runningUnit s' = runningUnit s := by
  simp only [runningUnit, h]

@[simp] theorem fanFollows_kept (n : Fin EX_AIR_FAN_NUM) (s : System) : (fanFollows n s).kept = s.kept := by
  simp [fanFollows]

@[simp] theorem fanFollows_anyFanRuns (n : Fin EX_AIR_FAN_NUM) (s : System) :
    anyFanRuns (fanFollows n s) = anyFanRuns s := by
  apply anyFanRuns_congr
  intro m
  unfold fanFollows
  dsimp only
  split
  · rw [fan_setFan]
    split
    · next h => rw [h]
    · rfl
  · rfl

@[simp] theorem fanFollows_runningUnit (n : Fin EX_AIR_FAN_NUM) (s : System) :
    runningUnit (fanFollows n s) = runningUnit s := by
  apply runningUnit_congr
  intro m
  unfold fanFollows
  dsimp only
  split <;> rfl

@[simp] theorem unitFollows_anyFanRuns (n : Fin MODULAR_ROOF_NUM) (s : System) :
    anyFanRuns (unitFollows n s) = anyFanRuns s := rfl

@[simp] theorem unitFollows_runningUnit (n : Fin MODULAR_ROOF_NUM) (s : System) :
    runningUnit (unitFollows n s) = runningUnit s := by
  apply runningUnit_congr
  intro m
  unfold unitFollows
  rw [unit_setUnit]
  split
  · next h => rw [h]
  · rfl

@[simp] theorem fanLeavesClose_runningUnit (s : System) : runningUnit (fanLeavesClose s) = runningUnit s := by
  apply runningUnit_congr
  intro m
  unfold fanLeavesClose leaveClose
  split
  · split <;> rfl
  · rfl

end Running

/-! ### Faults -/

/-- In automatic and in emergency mode the usable units are opened. -/
def openUsable (s : System) : System :=
  if s.eSystemMode = .MODE_AUTO ∨ s.eSystemMode = .MODE_EMERGENCY then
    (units.filter (unitUsable s)).foldl (fun s n => vModularRoof_SwitchOpen n s) s
  else s

@[simp] theorem openUsable_kept (s : System) : (openUsable s).kept = s.kept := by
  unfold openUsable
  split
  · exact foldl_kept System.kept (fun s n => vModularRoof_SwitchOpen_kept n s) _ s
  · rfl

/-- The fault flag of the units; automatic and emergency mode end where it is set. -/
def setUnitErrFlag (xUnitErrFlag : Bool) (s : System) : System :=
  let s := { s with xUnitErrFlag := xUnitErrFlag }
  if xUnitErrFlag = true ∧ (s.eSystemMode = .MODE_AUTO ∨ s.eSystemMode = .MODE_EMERGENCY) then backToManual s else s

def vSystem_UnitErr (l : Locals) (s : System) : System :=
  let usable := units.filter (unitUsable s)
  let s := shareFreAir (openUsable s)
  let s := if usable.length < MODULAR_ROOF_NUM then vSystem_SetAlarm s else vSystem_DelAlarmRequst s
  let s := vSystem_UnitFreAir s
  let s := vSystem_UnitCO2PPM l s
  let s := vSystem_UnitTempHumiOut s
  let s := vSystem_UnitTempHumiIn l s
  setUnitErrFlag (usable.length = 0) s

def faultless (s : System) : List (Fin EX_AIR_FAN_NUM) := fans.filter fun n => (s.fan n).xExAirFanErr = false

/-- The fault flag of the fans; automatic mode ends where it is set. -/
def setFanErrFlag (xExFanErrFlag : Bool) (s : System) : System :=
  let s := { s with xExFanErrFlag := xExFanErrFlag }
  if xExFanErrFlag = true ∧ s.eSystemMode = .MODE_AUTO then backToManual s else s

def vSystem_ExAirFanErr (s : System) : System :=
  let nFanNum := (faultless s).length
  let s := setFanErrFlag (nFanNum = 0) s
  let s := if nFanNum < EX_AIR_FAN_NUM then vSystem_SetAlarm s else vSystem_DelAlarmRequst s
  vSystem_ExAirFanCtrl s

def vSystem_ExAirFanRemoteChange (s : System) : System :=
  let s := if anyRemote s = false ∧ s.eSystemMode = .MODE_AUTO then backToManual s else s
  vSystem_ExAirFanCtrl s

/-! ### The dispatch -/

/-- The monitored variables of the `BMS`. -/
inductive BMSVar
  | eSystemMode | eRunningMode | xAlarmClean | xAlarmEnable | xExAirFanErrClean
  | usTempSet | usFreAirSet_Vol_H | usFreAirSet_Vol_L | ucExAirCoolRatio | ucExAirHeatRatio
  | usHumidityMin | usHumidityMax | usCO2AdjustThr_V | usCO2AdjustDeviat
  | usExAirFanFreq | usExAirFanMinFreq | usExAirFanMaxFreq | eExAirFanType | usExAirFanCtrlPeriod
  | usExAirFanRated_Vol_H | usExAirFanRated_Vol_L
  deriving DecidableEq, Repr

/-- The monitored variables of a unit. -/
inductive UnitVar
  | eRunningState | eRunningMode | eSwitchState | eSwitchCmd | sSupAir_T | usFreAir_Vol | xStopErrFlag | xCommErr
  | sAmbientInSelf_T | usAmbientInSelf_H | sAmbientOutSelf_T | usAmbientOutSelf_H | usCO2PPMSelf
  deriving DecidableEq, Repr

/-- The monitored variables of a fan. -/
inductive FanVar
  | xExAirFanErr | xExAirFanRemote | eRunningState
  deriving DecidableEq, Repr

/-- `pvArg` of an event message. -/
inductive Arg
  | bms (v : BMSVar)
  | unit (n : Fin MODULAR_ROOF_NUM) (v : UnitVar)
  | fan (n : Fin EX_AIR_FAN_NUM) (v : FanVar)
  deriving DecidableEq, Repr

/-- The handlers of the variables of the `BMS`. -/
def handleBMS (v : BMSVar) (s : System) : System :=
  let psBMS := s.psBMS
  match v with
  | .eSystemMode => vSystem_ChangeSystemMode psBMS.eSystemMode s
  | .eRunningMode => vSystem_SetUnitRunningMode psBMS.eRunningMode s
  | .xAlarmClean => vSystem_CleanAlarm s
  | .xAlarmEnable => vSystem_AlarmEnable psBMS.xAlarmEnable s
  | .xExAirFanErrClean => vSystem_ExAirFanErrClean s
  | .usTempSet => vSystem_SetTemp psBMS.usTempSet s
  | .usFreAirSet_Vol_H => vSystem_SetFreAir psBMS.usFreAirSet_Vol_H psBMS.usFreAirSet_Vol_L s
  | .usFreAirSet_Vol_L => vSystem_SetFreAir psBMS.usFreAirSet_Vol_H psBMS.usFreAirSet_Vol_L s
  | .ucExAirCoolRatio => vSystem_ExAirRatio psBMS.ucExAirCoolRatio psBMS.ucExAirHeatRatio s
  | .ucExAirHeatRatio => vSystem_ExAirRatio psBMS.ucExAirCoolRatio psBMS.ucExAirHeatRatio s
  | .usHumidityMin => vSystem_SetHumidity psBMS.usHumidityMin psBMS.usHumidityMax s
  | .usHumidityMax => vSystem_SetHumidity psBMS.usHumidityMin psBMS.usHumidityMax s
  | .usCO2AdjustThr_V => vSystem_SetCO2AdjustThr_V psBMS.usCO2AdjustThr_V s
  | .usCO2AdjustDeviat => vSystem_SetCO2AdjustDeviat psBMS.usCO2AdjustDeviat s
  | .usExAirFanFreq => vSystem_AdjustExAirFanFreq psBMS.usExAirFanFreq s
  | .usExAirFanMinFreq => vSystem_SetExAirFanFreqRange psBMS.usExAirFanMinFreq psBMS.usExAirFanMaxFreq s
  | .usExAirFanMaxFreq => vSystem_SetExAirFanFreqRange psBMS.usExAirFanMinFreq psBMS.usExAirFanMaxFreq s
  | .eExAirFanType => vSystem_ChangeExAirFanType psBMS.eExAirFanType s
  | .usExAirFanCtrlPeriod => vSystem_SetExAirFanCtrlPeriod psBMS.usExAirFanCtrlPeriod s
  | .usExAirFanRated_Vol_H => vSystem_SetExAirFanRated psBMS.usExAirFanRated_Vol_H psBMS.usExAirFanRated_Vol_L s
  | .usExAirFanRated_Vol_L => vSystem_SetExAirFanRated psBMS.usExAirFanRated_Vol_H psBMS.usExAirFanRated_Vol_L s

/-- The handlers of the variables of a unit. -/
def handleUnit (l : Locals) (n : Fin MODULAR_ROOF_NUM) (v : UnitVar) (s : System) : System :=
  match v with
  | .eRunningState => vSystem_UnitRunningState n true s
  | .eRunningMode => vSystem_UnitRunningState n false s
  | .eSwitchState => vSystem_UnitSwitchState n s
  | .eSwitchCmd => vSystem_UnitSwitchCmd n s
  | .sSupAir_T => vSystem_UnitSupAirTemp n s
  | .usFreAir_Vol => vSystem_UnitFreAir s
  | .xStopErrFlag => vSystem_UnitErr l s
  | .xCommErr => vSystem_UnitErr l s
  | .sAmbientInSelf_T => vSystem_UnitTempHumiIn l s
  | .usAmbientInSelf_H => vSystem_UnitTempHumiIn l s
  | .sAmbientOutSelf_T => vSystem_UnitTempHumiOut s
  | .usAmbientOutSelf_H => vSystem_UnitTempHumiOut s
  | .usCO2PPMSelf => vSystem_UnitCO2PPM l s

/-- The handlers of the variables of a fan. -/
def handleFan (n : Fin EX_AIR_FAN_NUM) (v : FanVar) (s : System) : System :=
  match v with
  | .xExAirFanErr => vSystem_ExAirFanErr s
  | .xExAirFanRemote => vSystem_ExAirFanRemoteChange s
  | .eRunningState => vSystem_FanRunningState n s

/-- `vSystem_EventPollTask`, one message. -/
def vSystem_EventPollTask (l : Locals) (pvArg : Arg) (s : System) : System :=
  match pvArg with
  | .bms v => handleBMS v s
  | .unit n v => handleUnit l n v s
  | .fan n v => handleFan n v s

end GreeIntense.Control

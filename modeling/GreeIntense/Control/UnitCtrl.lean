import GreeIntense.Control.FanCtrl

/-!
# Control of the roof units (`unitctrl.c`)

The running mode of the units, its change by the room temperature, and what is taken over from the units:
their fresh air, and, while the sensors of the plant are out of order, their own readings.

`vSystem_UnitCO2PPM` and `vSystem_UnitTempHumiIn` read locals that they have not set; their values are an
argument here (`Locals`).
-/

namespace GreeIntense.Control

open Os

abbrev MODULAR_MAX_FRE_AIR_VOL : ℕ := 65000

/-- A unit on line and without a fault that stops it. -/
def unitUsable (s : System) (n : Fin MODULAR_ROOF_NUM) : Bool :=
  (s.unit n).xStopErrFlag = false ∧ (s.unit n).xCommErr = false

/-- What the locals have that are read before they are set. -/
structure Locals where
  ucNum : UCHAR
  usTotalCO2PPM : USHORT
  usCO2PPM : USHORT
  sAmbientIn_T : USHORT
  usAmbientIn_H : USHORT

/-! ### The running mode -/

/-- The state of a system whose units run in the mode. -/
def eRunningMode.state : eRunningMode → Option eSystemState
  | .unset => none
  | .RUN_MODE_COOL => some .STATE_COOL
  | .RUN_MODE_HEAT => some .STATE_HEAT
  | .RUN_MODE_FAN => some .STATE_FAN
  | .RUN_MODE_WET => some .STATE_WET

def xSystem_UnitCompsClosed (s : System) : Bool × System :=
  if units.any fun n => (s.unit n).xCompRunning ∧ unitUsable s n then (false, { s with xCompFirstRun := false })
  else (true, s)

def setUnitTemps (usTempSet : USHORT) (s : System) : System :=
  units.foldl (fun s n => s.setUnit n { s.unit n with usCoolTempSet := usTempSet, usHeatTempSet := usTempSet }) s

def usSystem_ChangeEnergyTemp (s : System) : USHORT × System :=
  if s.eSystemMode ≠ .MODE_AUTO then (0, s)
  else if s.eRunningMode = .RUN_MODE_COOL ∨ s.eRunningMode = .RUN_MODE_WET then
    let usTempSet := if s.usTempSet < s.usEnergyTemp then s.usEnergyTemp - s.usTempDeviat else s.usTempSet
    (usTempSet, setUnitTemps usTempSet s)
  else (0, s)

/-- A unit takes a running mode; a running one also the target temperature, and the system its state. -/
def unitRunningMode (eRunMode : eRunningMode) (s : System) (n : Fin MODULAR_ROOF_NUM) : System :=
  let s := vModularRoof_SetRunningMode n eRunMode s
  if (s.unit n).eRunningState = .STATE_RUN then
    let s := s.setUnit n { s.unit n with usCoolTempSet := s.usTempSet, usHeatTempSet := s.usTempSet }
    { s with eSystemState := ((s.unit n).eRunningMode.state).getD s.eSystemState }
  else s

def vSystem_SetUnitRunningMode (eRunMode : eRunningMode) (s : System) : System :=
  let s := { s with eRunningMode := eRunMode, psBMS := { s.psBMS with eRunningMode := eRunMode } }
  let s := units.foldl (unitRunningMode eRunMode) s
  let s := if s.eSystemMode = .MODE_AUTO then vSystem_OpenUnits s else s
  let s :=
    if (s.eRunningMode = .RUN_MODE_COOL ∨ s.eRunningMode = .RUN_MODE_WET) ∧ s.eSystemMode = .MODE_AUTO then
      (usSystem_ChangeEnergyTemp s).2
    else s
  vSystem_ExAirRequest_Vol s

/-- The change timer `k`, where it does not run. -/
def changeTmrDue (k : ℕ) (s : System) : Bool := (s.sModeChangeTmr k).State ≠ .OS_TMR_STATE_RUNNING

/-- `xTimerRegist` of the change timer `k`. -/
def registModeChange (k : ℕ) (s : System) : System :=
  let tmr := xTimerRegist ((s.usModeChangeTime k).setWidth 32 * 60) 0 .OS_OPT_TMR_ONE_SHOT (s.sModeChangeTmr k)
  { s with sModeChangeTmr := Function.update s.sModeChangeTmr k tmr }

/-- The room is warmer than the temperature by more than the adjustment `k`. -/
def warmer (usTempSet : USHORT) (k : ℕ) (s : System) : Bool :=
  s.sAmbientIn_T.toInt > usTempSet.toNat + (s.usModeAdjustTemp k).toNat

/-- The room is colder than the temperature by more than the adjustment `k`. -/
def colder (usTempSet : USHORT) (k : ℕ) (s : System) : Bool :=
  s.sAmbientIn_T.toInt < usTempSet.toNat - (s.usModeAdjustTemp k).toNat

/-- The change timer `k` is set when all compressors have stopped that had run in this mode. -/
def changeOnCompsClosed (k : ℕ) (s : System) : System :=
  if s.xCompFirstRun = false then
    let r := xSystem_UnitCompsClosed s
    if r.1 ∧ changeTmrDue k r.2 then registModeChange k r.2 else r.2
  else s

def vSystem_ChangeUnitRunningMode (s : System) : System :=
  if s.eSystemMode ≠ .MODE_AUTO ∨ s.eSystemState = .STATE_CLOSED then s
  else
    match s.eRunningMode with
    | .unset => s
    | .RUN_MODE_FAN =>
      if warmer s.usTempSet 1 s ∧ changeTmrDue 1 s then registModeChange 1 s
      else if colder s.usTempSet 2 s ∧ changeTmrDue 2 s then registModeChange 2 s
      else s
    | .RUN_MODE_WET =>
      let r := usSystem_ChangeEnergyTemp s
      let s := r.2
      if warmer r.1 3 s ∧ changeTmrDue 3 s then registModeChange 3 s
      else if colder s.usTempSet 4 s ∧ changeTmrDue 4 s then registModeChange 4 s
      else s
    | .RUN_MODE_COOL =>
      let r := usSystem_ChangeEnergyTemp s
      let s := r.2
      if colder r.1 5 s ∧ changeTmrDue 5 s then registModeChange 5 s
      else changeOnCompsClosed 7 s
    | .RUN_MODE_HEAT =>
      let s := { s with xCompFirstRun := true }
      if warmer s.usTempSet 6 s ∧ changeTmrDue 6 s then registModeChange 6 s
      else changeOnCompsClosed 8 s

/-! ### What is taken over from the units -/

def vSystem_UnitSupAirTemp (n : Fin MODULAR_ROOF_NUM) (s : System) : System :=
  if (s.unit n).sSupAir_T.toInt > s.usSupAirMax_T.toNat then vSystem_SetAlarm s else vSystem_DelAlarmRequst s

def vSystem_UnitFreAir (s : System) : System :=
  let ulTotalFreAir_Vol : ULONG :=
    units.foldl (fun vol n => if unitUsable s n then vol + (s.unit n).usFreAir_Vol.setWidth 32 else vol) 0
  { s with
    ulTotalFreAir_Vol := ulTotalFreAir_Vol
    psBMS := { s.psBMS with
      usTotalFreAir_Vol_H := (ulTotalFreAir_Vol / 65535).setWidth 16
      usTotalFreAir_Vol_L := (ulTotalFreAir_Vol % 65535).setWidth 16 } }

def onLine (s : System) : List (Fin MODULAR_ROOF_NUM) := units.filter fun n => (s.unit n).xCommErr = false

/-- The sum of a reading over the units on line, in 16 bits. -/
def total (s : System) (f : ModularRoof → USHORT) : USHORT := (onLine s).foldl (fun t n => t + f (s.unit n)) 0

/-- The mean of a signed sum over `num` units. -/
def mean (t : USHORT) (num : ℕ) : USHORT := BitVec.ofInt 16 (t.toInt.tdiv num)

/-- The CO2 of the room, where it changes. -/
def setCO2PPM (usCO2PPM : USHORT) (s : System) : System :=
  let s := { s with usCO2PPM := usCO2PPM }
  let s := if s.usCO2PPM ≥ s.usCO2PPMAlarm then vSystem_SetAlarm s else vSystem_DelAlarmRequst s
  vSystem_ExAirFanCtrl s

def vSystem_UnitCO2PPM (l : Locals) (s : System) : System :=
  if s.xCO2SenErr = true then
    let ucNum := l.ucNum + BitVec.ofNat 8 (onLine s).length
    let usTotalCO2PPM := l.usTotalCO2PPM + total s ModularRoof.usCO2PPMSelf
    let usCO2PPM := if ucNum ≠ 0 then usTotalCO2PPM / ucNum.setWidth 16 else l.usCO2PPM
    if s.usCO2PPM ≠ usCO2PPM then setCO2PPM usCO2PPM s else s
  else s

def vSystem_UnitTempHumiOut (s : System) : System :=
  let ucNum := (onLine s).length
  if s.xTempSenOutErr = true ∧ ucNum ≠ 0 then
    { s with
      sAmbientOut_T := mean (total s ModularRoof.sAmbientOutSelf_T) ucNum
      usAmbientOut_H :=
        if s.xHumiSenOutErr = true then total s ModularRoof.usAmbientOutSelf_H / BitVec.ofNat 16 ucNum
        else s.usAmbientOut_H }
  else s

/-- The readings of the room, passed on to the units. -/
def setUnitAmbientIn (sAmbientIn_T usAmbientIn_H : USHORT) (s : System) : System :=
  units.foldl (fun s n => s.setUnit n { s.unit n with sAmbientIn_T := sAmbientIn_T, usAmbientIn_H := usAmbientIn_H }) s

/-- The readings of the room, where they change. -/
def setAmbientIn (sAmbientIn_T usAmbientIn_H : USHORT) (s : System) : System :=
  vSystem_ChangeUnitRunningMode { s with sAmbientIn_T := sAmbientIn_T, usAmbientIn_H := usAmbientIn_H }

def vSystem_UnitTempHumiIn (l : Locals) (s : System) : System :=
  if s.xTempSenInErr = true then
    let ucNum := (onLine s).length
    let sAmbientIn_T := if ucNum ≠ 0 then mean (total s ModularRoof.sAmbientInSelf_T) ucNum else l.sAmbientIn_T
    let usAmbientIn_H :=
      if ucNum ≠ 0 ∧ s.xHumiSenInErr = true then total s ModularRoof.usAmbientInSelf_H / BitVec.ofNat 16 ucNum
      else l.usAmbientIn_H
    let s := setUnitAmbientIn sAmbientIn_T usAmbientIn_H s
    if s.sAmbientIn_T ≠ sAmbientIn_T ∨ s.usAmbientIn_H ≠ usAmbientIn_H then
      setAmbientIn sAmbientIn_T usAmbientIn_H s
    else s
  else s

/-! ### The control of the units changes no mode and no setting -/

section Kept

variable (s : System)

@[simp] theorem xSystem_UnitCompsClosed_kept : (xSystem_UnitCompsClosed s).2.kept = s.kept := by
  unfold xSystem_UnitCompsClosed
  split <;> rfl

@[simp] theorem setUnitTemps_kept (usTempSet : USHORT) : (setUnitTemps usTempSet s).kept = s.kept :=
  foldl_kept System.kept (fun s n => setUnit_kept n _ s) units s

@[simp] theorem usSystem_ChangeEnergyTemp_kept : (usSystem_ChangeEnergyTemp s).2.kept = s.kept := by
  unfold usSystem_ChangeEnergyTemp
  split
  · rfl
  · split
    · exact setUnitTemps_kept s _
    · rfl

@[simp] theorem unitRunningMode_kept (eRunMode : eRunningMode) (n : Fin MODULAR_ROOF_NUM) :
    (unitRunningMode eRunMode s n).kept = s.kept := by
  unfold unitRunningMode
  dsimp only
  split <;> rfl

@[simp] theorem vSystem_SetUnitRunningMode_kept (eRunMode : eRunningMode) :
    (vSystem_SetUnitRunningMode eRunMode s).kept = s.kept := by
  simp only [vSystem_SetUnitRunningMode, vSystem_ExAirRequest_Vol_kept, ite_kept, usSystem_ChangeEnergyTemp_kept,
    vSystem_OpenUnits_kept, ite_self]
  exact foldl_kept System.kept (fun s n => unitRunningMode_kept s eRunMode n) units _

@[simp] theorem registModeChange_kept (k : ℕ) : (registModeChange k s).kept = s.kept := rfl

@[simp] theorem changeOnCompsClosed_kept (k : ℕ) : (changeOnCompsClosed k s).kept = s.kept := by
  simp [changeOnCompsClosed]

@[simp] theorem vSystem_ChangeUnitRunningMode_kept : (vSystem_ChangeUnitRunningMode s).kept = s.kept := by
  unfold vSystem_ChangeUnitRunningMode
  split
  · rfl
  · cases s.eRunningMode with
    | unset => rfl
    | RUN_MODE_COOL => simp
    | RUN_MODE_HEAT =>
      simp only [ite_kept, registModeChange_kept, changeOnCompsClosed_kept, ite_self]
      rfl
    | RUN_MODE_FAN => simp
    | RUN_MODE_WET => simp

@[simp] theorem vSystem_UnitFreAir_kept : (vSystem_UnitFreAir s).kept = s.kept := rfl

@[simp] theorem setCO2PPM_kept (usCO2PPM : USHORT) : (setCO2PPM usCO2PPM s).kept = s.kept := by
  simp only [setCO2PPM, vSystem_ExAirFanCtrl_kept, ite_kept, vSystem_SetAlarm_kept, vSystem_DelAlarmRequst_kept,
    ite_self]
  rfl

@[simp] theorem vSystem_UnitCO2PPM_kept (l : Locals) : (vSystem_UnitCO2PPM l s).kept = s.kept := by
  simp [vSystem_UnitCO2PPM]

@[simp] theorem vSystem_UnitTempHumiOut_kept : (vSystem_UnitTempHumiOut s).kept = s.kept := by
  unfold vSystem_UnitTempHumiOut
  dsimp only
  split <;> rfl

@[simp] theorem setUnitAmbientIn_kept (sAmbientIn_T usAmbientIn_H : USHORT) :
    (setUnitAmbientIn sAmbientIn_T usAmbientIn_H s).kept = s.kept :=
  foldl_kept System.kept (fun s n => setUnit_kept n _ s) units s

@[simp] theorem setAmbientIn_kept (sAmbientIn_T usAmbientIn_H : USHORT) :
    (setAmbientIn sAmbientIn_T usAmbientIn_H s).kept = s.kept :=
  vSystem_ChangeUnitRunningMode_kept _

@[simp] theorem vSystem_UnitTempHumiIn_kept (l : Locals) : (vSystem_UnitTempHumiIn l s).kept = s.kept := by
  simp [vSystem_UnitTempHumiIn]

end Kept

end GreeIntense.Control

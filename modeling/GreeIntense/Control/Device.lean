import GreeIntense.Control.System

/-!
# Switching the devices (`fan.c`, `modularRoof.c`) and the alarm (`systemctrl.c`)

The methods of a fan and of a unit, which set its command and its output, and the alarm output with the
conditions under which it is taken back.
-/

namespace GreeIntense.Control

/-! ### Exhaust fans -/

def vExFan_SetFreq (n : Fin EX_AIR_FAN_NUM) (usFreq : USHORT) (s : System) : System :=
  let pThis := s.fan n
  if pThis.eFanFreqType = .VARIABLE_FREQ ∧ pThis.xExAirFanErr = false then
    let usFreq := if usFreq < pThis.usMinFreq then pThis.usMinFreq else usFreq
    let usFreq := if usFreq > pThis.usMaxFreq then pThis.usMaxFreq else usFreq
    let s := s.setFan n { pThis with usSetFreq := usFreq }
    if pThis.eCtrlCmd = .ON ∧ pThis.usRunningFreq ≠ usFreq then vAnalogOutputSetRealVal pThis.sFreq_AO usFreq s else s
  else s

def vExFan_SetFreqRange (n : Fin EX_AIR_FAN_NUM) (usMinFreq usMaxFreq : USHORT) (s : System) : System :=
  if (s.fan n).eFanFreqType = .VARIABLE_FREQ then
    let s := s.setFan n { s.fan n with usMaxFreq := usMaxFreq, usMinFreq := usMinFreq }
    let s := if (s.fan n).usSetFreq < usMinFreq then vExFan_SetFreq n usMinFreq s else s
    if (s.fan n).usSetFreq > usMaxFreq then vExFan_SetFreq n usMaxFreq s else s
  else s

def vExAirFan_SwitchOpen (n : Fin EX_AIR_FAN_NUM) (s : System) : System :=
  let pThis := s.fan n
  if pThis.xExAirFanErr = false ∧ pThis.xExAirFanRemote = true then
    let s := (vDigitalOutputCtrl pThis.sSwitch_DO .ON s).setFan n { pThis with eCtrlCmd := .ON }
    if pThis.eRunningState = .STATE_STOP ∧ pThis.eFanFreqType = .VARIABLE_FREQ then
      vExFan_SetFreq n pThis.usSetFreq s
    else s
  else s

def vExAirFan_SwitchClose (n : Fin EX_AIR_FAN_NUM) (s : System) : System :=
  (vDigitalOutputCtrl (s.fan n).sSwitch_DO .OFF s).setFan n { s.fan n with eCtrlCmd := .OFF }

def vExAirFan_ChangeFreqType (n : Fin EX_AIR_FAN_NUM) (psFan : sFanInfo) (s : System) : System :=
  let pThis := { s.fan n with eFanFreqType := psFan.eFanFreqType, sSwitch_DO := psFan.ucSwitch_DO }
  s.setFan n
    (if psFan.eFanFreqType = .VARIABLE_FREQ then
      { pThis with usMaxFreq := psFan.usMaxFreq, usMinFreq := psFan.usMinFreq, sFreq_AO := psFan.ucFreq_AO }
    else pThis)

/-! ### What the control of the fans sets -/

/-- A fan without its command and its frequency. -/
def ExAirFan.uncontrolled (f : ExAirFan) : ExAirFan := { f with eCtrlCmd := .OFF, usSetFreq := 0 }

/-- The system without what the control of the fans sets in it, with the fans given. -/
def System.blank (list : Fin EX_AIR_FAN_NUM → ExAirFan) (s : System) : System :=
  { s with
    ulExAirRequest_Vol := 0
    usExAirFanFreq := 0
    ulExAirFanRequestTime := 0
    ucConstantFanRequestNum := 0
    ucConstantFanOpenNum := 0
    xVariableFanRequest := false
    sExAirFanCtrlTmr := ⟨.OS_TMR_STATE_UNUSED, 0, 0⟩
    sExAirFanRequestTimeTmr := ⟨.OS_TMR_STATE_UNUSED, 0, 0⟩
    psBMS := { s.psBMS with usExAirFanFreq := 0 }
    psExAirFanList := list
    g_ulExAirFanRequestTime := 0
    g_ucConstantFanRequestNum := 0
    digitalOutput := fun ucChannel =>
      if ∃ n, (list n).sSwitch_DO = ucChannel then .OFF else s.digitalOutput ucChannel
    analogOutput := fun _ => 0 }

/-- What the control of the fans leaves alone: all but the requests, the commands and frequencies, and the
outputs of the fans. -/
def System.uncontrolled (s : System) : System := s.blank fun n => (s.fan n).uncontrolled

theorem fanless_of_uncontrolled {s s' : System} (h : s'.uncontrolled = s.uncontrolled) : s'.fanless = s.fanless := by
  show s'.uncontrolled.fanless = s.uncontrolled.fanless
  rw [h]

theorem kept_of_uncontrolled {s s' : System} (h : s'.uncontrolled = s.uncontrolled) : s'.kept = s.kept :=
  kept_of_fanless (fanless_of_uncontrolled h)

theorem uncontrolled_fan {s s' : System} (h : s'.uncontrolled = s.uncontrolled) (n : Fin EX_AIR_FAN_NUM) :
    (s'.fan n).uncontrolled = (s.fan n).uncontrolled :=
  congrFun (congrArg System.psExAirFanList h) n

@[simp] theorem ite_uncontrolled (c : Prop) [Decidable c] (s t : System) :
    (if c then s else t).uncontrolled = if c then s.uncontrolled else t.uncontrolled :=
  apply_ite System.uncontrolled c s t

section Uncontrolled

variable (n : Fin EX_AIR_FAN_NUM) (s : System)

theorem setFan_uncontrolled (f : ExAirFan) (h : f.uncontrolled = (s.fan n).uncontrolled) :
    (s.setFan n f).uncontrolled = s.uncontrolled := by
  have hlist : (fun m => ((s.setFan n f).fan m).uncontrolled) = fun m => (s.fan m).uncontrolled := by
    funext m
    rw [fan_setFan]
    split
    · next hm => rw [hm, h]
    · rfl
  exact congrArg (fun list => s.blank list) hlist

theorem vDigitalOutputCtrl_uncontrolled (eCtrl : eCtrlEn) :
    (vDigitalOutputCtrl (s.fan n).sSwitch_DO eCtrl s).uncontrolled = s.uncontrolled := by
  unfold vDigitalOutputCtrl
  split
  · have hout (ch : ℕ) :
        (if ∃ m, (s.fan m).uncontrolled.sSwitch_DO = ch then eCtrlEn.OFF
          else Function.update s.digitalOutput (s.fan n).sSwitch_DO eCtrl ch) =
          if ∃ m, (s.fan m).uncontrolled.sSwitch_DO = ch then .OFF else s.digitalOutput ch := by
      split
      · rfl
      · next h =>
        apply Function.update_of_ne
        rintro rfl
        exact h ⟨n, rfl⟩
    exact congrArg (fun out => { s.uncontrolled with digitalOutput := out }) (funext hout)
  · rfl

@[simp] theorem vAnalogOutputSetRealVal_uncontrolled (ucChannel : ℕ) (ulRealData : USHORT) :
    (vAnalogOutputSetRealVal ucChannel ulRealData s).uncontrolled = s.uncontrolled := by
  unfold vAnalogOutputSetRealVal
  split <;> rfl

@[simp] theorem vExFan_SetFreq_uncontrolled (usFreq : USHORT) :
    (vExFan_SetFreq n usFreq s).uncontrolled = s.uncontrolled := by
  have hs (f : USHORT) : (s.setFan n { s.fan n with usSetFreq := f }).uncontrolled = s.uncontrolled :=
    setFan_uncontrolled n s _ rfl
  simp [vExFan_SetFreq, hs]

@[simp] theorem vExAirFan_SwitchOpen_uncontrolled : (vExAirFan_SwitchOpen n s).uncontrolled = s.uncontrolled := by
  have hs : ((vDigitalOutputCtrl (s.fan n).sSwitch_DO .ON s).setFan n { s.fan n with eCtrlCmd := .ON }).uncontrolled =
      s.uncontrolled := by
    refine (setFan_uncontrolled n _ _ ?_).trans (vDigitalOutputCtrl_uncontrolled n s .ON)
    exact (uncontrolled_fan (vDigitalOutputCtrl_uncontrolled n s .ON) n).symm
  simp [vExAirFan_SwitchOpen, hs]

@[simp] theorem vExAirFan_SwitchClose_uncontrolled : (vExAirFan_SwitchClose n s).uncontrolled = s.uncontrolled := by
  refine (setFan_uncontrolled n _ _ ?_).trans (vDigitalOutputCtrl_uncontrolled n s .OFF)
  exact (uncontrolled_fan (vDigitalOutputCtrl_uncontrolled n s .OFF) n).symm

@[simp] theorem vExFan_SetFreq_fanless (usFreq : USHORT) : (vExFan_SetFreq n usFreq s).fanless = s.fanless :=
  fanless_of_uncontrolled (vExFan_SetFreq_uncontrolled n s usFreq)

@[simp] theorem vExFan_SetFreqRange_fanless (usMinFreq usMaxFreq : USHORT) :
    (vExFan_SetFreqRange n usMinFreq usMaxFreq s).fanless = s.fanless := by
  simp [vExFan_SetFreqRange]

@[simp] theorem vExAirFan_ChangeFreqType_fanless (psFan : sFanInfo) :
    (vExAirFan_ChangeFreqType n psFan s).fanless = s.fanless := by
  simp [vExAirFan_ChangeFreqType]

end Uncontrolled

/-! ### Roof units -/

def vModularRoof_SwitchOpen (n : Fin MODULAR_ROOF_NUM) (s : System) : System :=
  let pThis := s.unit n
  if pThis.xOnLine = true ∧ pThis.xStopErrFlag = false then
    s.setUnit n { pThis with eSwitchCmd := .CMD_OPEN, eSwitchState := .CMD_OPEN }
  else s

def vModularRoof_SwitchClose (n : Fin MODULAR_ROOF_NUM) (s : System) : System :=
  let pThis := s.unit n
  if pThis.eRunningState = .STATE_RUN then
    s.setUnit n { pThis with eSwitchCmd := .CMD_CLOSE, eSwitchState := .CMD_CLOSE }
  else s

def vModularRoof_SetRunningMode (n : Fin MODULAR_ROOF_NUM) (eMode : eRunningMode) (s : System) : System :=
  s.setUnit n { s.unit n with eRunningMode := eMode }

@[simp] theorem vModularRoof_SwitchOpen_kept (n : Fin MODULAR_ROOF_NUM) (s : System) :
    (vModularRoof_SwitchOpen n s).kept = s.kept := by
  simp [vModularRoof_SwitchOpen]

@[simp] theorem vModularRoof_SwitchClose_kept (n : Fin MODULAR_ROOF_NUM) (s : System) :
    (vModularRoof_SwitchClose n s).kept = s.kept := by
  simp [vModularRoof_SwitchClose]

def vSystem_OpenUnits (s : System) : System := units.foldl (fun s n => vModularRoof_SwitchOpen n s) s

def vSystem_CloseUnits (s : System) : System := units.foldl (fun s n => vModularRoof_SwitchClose n s) s

@[simp] theorem vSystem_OpenUnits_kept (s : System) : (vSystem_OpenUnits s).kept = s.kept :=
  foldl_kept System.kept (fun s n => vModularRoof_SwitchOpen_kept n s) units s

@[simp] theorem vSystem_CloseUnits_kept (s : System) : (vSystem_CloseUnits s).kept = s.kept :=
  foldl_kept System.kept (fun s n => vModularRoof_SwitchClose_kept n s) units s

/-! ### The alarm -/

def vSystem_SetAlarm (s : System) : System :=
  if s.xAlarmEnable then vDigitalOutputCtrl s.sAlarm_DO .ON s else s

def vSystem_DelAlarm (s : System) : System := vDigitalOutputCtrl s.sAlarm_DO .OFF s

/-- What `vSystem_DelAlarmRequst` and `vSystem_AlarmEnable` both look at: a unit off line or stopped by a
fault or too hot, a fan fault, too much CO2, or all sensors of a kind out of order. -/
def alarming (s : System) : Bool :=
  units.any (fun n => (s.unit n).xOnLine = false ∨ (s.unit n).xStopErrFlag = true ∨
      (s.unit n).sSupAir_T.toInt > s.usSupAirMax_T.toNat) ∨
    fans.any (fun n => (s.fan n).xExAirFanErr) ∨
    s.usCO2PPM ≥ s.usCO2PPMAlarm ∨
    s.xCO2SenErr = true ∨ s.xTempHumiSenOutErr = true ∨ s.xTempHumiSenInErr = true

def vSystem_DelAlarmRequst (s : System) : System :=
  let s := if s.xAlarmEnable = false then vSystem_DelAlarm s else s
  if alarming s then s else vSystem_DelAlarm s

def vSystem_CleanAlarm (s : System) : System :=
  if s.psBMS.xAlarmClean then
    let s := vDigitalOutputCtrl s.sAlarm_DO .OFF s
    { s with psBMS := { s.psBMS with xAlarmClean := false } }
  else s

def vSystem_AlarmEnable (xAlarmEnable : Bool) (s : System) : System :=
  let s := { s with xAlarmEnable := xAlarmEnable }
  if xAlarmEnable then if alarming s then vSystem_SetAlarm s else s
  else vSystem_DelAlarm s

section Alarm

variable (s : System)

@[simp] theorem vSystem_SetAlarm_fanless : (vSystem_SetAlarm s).fanless = s.fanless := by
  simp [vSystem_SetAlarm]

@[simp] theorem vSystem_DelAlarm_fanless : (vSystem_DelAlarm s).fanless = s.fanless := by
  simp [vSystem_DelAlarm]

@[simp] theorem vSystem_DelAlarmRequst_fanless : (vSystem_DelAlarmRequst s).fanless = s.fanless := by
  simp [vSystem_DelAlarmRequst]

@[simp] theorem vSystem_SetAlarm_kept : (vSystem_SetAlarm s).kept = s.kept :=
  kept_of_fanless (vSystem_SetAlarm_fanless s)

@[simp] theorem vSystem_DelAlarmRequst_kept : (vSystem_DelAlarmRequst s).kept = s.kept :=
  kept_of_fanless (vSystem_DelAlarmRequst_fanless s)

end Alarm

end GreeIntense.Control

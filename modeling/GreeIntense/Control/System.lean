import Mathlib.Data.Fin.Basic
import Mathlib.Data.List.FinRange
import Mathlib.Logic.Function.Basic
import GreeIntense.MbFrame
import GreeIntense.Os.Tmr

/-!
# The group controller: its data (`device.h`, `fan.h`, `modularRoof.h`, `bms.h`, `system.h`)

The controller `System` runs four exhaust fans and two roof units, and has a copy of the settings of the
building management system (`BMS`), which is the interface the slave stack reads and writes.

The fields of `System` and `BMS` come in groups: the mode and the two fault flags (`Modes`), the settings
that both have (`Settings`, `BMSSettings`), and the rest.  A function that leaves a group alone has one lemma
for all of it.
-/

namespace GreeIntense.Control

open Os

abbrev EX_AIR_FAN_NUM : ℕ := 4
abbrev MODULAR_ROOF_NUM : ℕ := 2

instance : NeZero EX_AIR_FAN_NUM := ⟨by decide⟩

instance : NeZero MODULAR_ROOF_NUM := ⟨by decide⟩

inductive eFreqType
  | VARIABLE_FREQ | CONSTANT_FREQ
  deriving DecidableEq, Repr

inductive eRunningState
  | STATE_STOP | STATE_RUN
  deriving DecidableEq, Repr

inductive eExAirFanType
  | TYPE_CONSTANT | TYPE_CONSTANT_VARIABLE
  deriving DecidableEq, Repr

inductive eSystemMode
  | MODE_CLOSE | MODE_MANUAL | MODE_AUTO | MODE_EMERGENCY
  deriving DecidableEq, Repr

/-- `eRunningMode`; `unset` is the 0 a mode has before it is set. -/
inductive eRunningMode
  | unset | RUN_MODE_COOL | RUN_MODE_HEAT | RUN_MODE_FAN | RUN_MODE_WET
  deriving DecidableEq, Repr

inductive eSystemState
  | STATE_CLOSED | STATE_COOL | STATE_HEAT | STATE_FAN | STATE_WET | STATE_EX_FAN
  deriving DecidableEq, Repr

inductive eCtrlEn
  | OFF | ON
  deriving DecidableEq, Repr

inductive eSwitchCmd
  | CMD_OPEN | CMD_CLOSE
  deriving DecidableEq, Repr

/-! ### Devices -/

/-- `ExAirFan`, an exhaust fan. -/
structure ExAirFan where
  eRunningState : eRunningState
  usRunTime_H : USHORT
  usSetFreq : USHORT
  usMinFreq : USHORT
  usMaxFreq : USHORT
  usRunningFreq : USHORT
  sFreq_AO : ℕ
  sSwitch_DO : ℕ
  eFanFreqType : eFreqType
  eCtrlCmd : eCtrlEn
  xExAirFanRemote : Bool
  xExAirFanErr : Bool
  xExAirFanCtrlErr : Bool

/-- `sFanInfo`, of which the inputs are left out. -/
structure sFanInfo where
  eFanFreqType : eFreqType
  usMinFreq : USHORT
  usMaxFreq : USHORT
  ucFreq_AO : ℕ
  ucSwitch_DO : ℕ

/-- `ModularRoof`, a roof unit; `xOnLine` is the one of its `sMBSlaveDev`. -/
structure ModularRoof where
  eRunningState : eRunningState
  eRunningMode : eRunningMode
  eSwitchCmd : eSwitchCmd
  eSwitchState : Control.eSwitchCmd
  sSupAir_T : USHORT
  usFreAir_Vol : USHORT
  usCoolTempSet : USHORT
  usHeatTempSet : USHORT
  usFreAirSet_Vol : USHORT
  sAmbientIn_T : USHORT
  sAmbientInSelf_T : USHORT
  usAmbientIn_H : USHORT
  usAmbientInSelf_H : USHORT
  sAmbientOutSelf_T : USHORT
  usAmbientOutSelf_H : USHORT
  usCO2PPMSelf : USHORT
  usCO2AdjustThr_V : USHORT
  usCO2AdjustDeviat : USHORT
  usHumidityMax : USHORT
  usHumidityMin : USHORT
  xSwitchCmdChanged : Bool
  xCommErr : Bool
  xStopErrFlag : Bool
  xCompRunning : Bool
  xOnLine : Bool

/-! ### The interface to the building management system -/

/-- The settings in `BMS`; the two volumes are each in two words. -/
structure BMSSettings where
  usTempSet : USHORT
  usHumidityMax : USHORT
  usHumidityMin : USHORT
  usFreAirSet_Vol_H : USHORT
  usFreAirSet_Vol_L : USHORT
  usCO2AdjustThr_V : USHORT
  usCO2AdjustDeviat : USHORT
  ucExAirCoolRatio : UCHAR
  ucExAirHeatRatio : UCHAR
  eExAirFanType : eExAirFanType
  usExAirFanMinFreq : USHORT
  usExAirFanMaxFreq : USHORT
  usExAirFanCtrlPeriod : USHORT
  usExAirFanRated_Vol_H : USHORT
  usExAirFanRated_Vol_L : USHORT

structure BMS extends BMSSettings where
  eSystemMode : eSystemMode
  eRunningMode : eRunningMode
  usExAirFanFreq : USHORT
  usTotalFreAir_Vol_H : USHORT
  usTotalFreAir_Vol_L : USHORT
  xAlarmClean : Bool
  xAlarmEnable : Bool
  xExAirFanErrClean : Bool

/-! ### The controller -/

/-- The system mode and the fault flags of all units and of all fans. -/
structure Modes where
  eSystemMode : eSystemMode
  xUnitErrFlag : Bool
  xExFanErrFlag : Bool
  deriving DecidableEq

/-- The settings that `BMS` has too. -/
structure Settings where
  usTempSet : USHORT
  usHumidityMax : USHORT
  usHumidityMin : USHORT
  ulFreAirSet_Vol : ULONG
  usCO2AdjustThr_V : USHORT
  usCO2AdjustDeviat : USHORT
  ucExAirCoolRatio : UCHAR
  ucExAirHeatRatio : UCHAR
  eExAirFanType : eExAirFanType
  usExAirFanMinFreq : USHORT
  usExAirFanMaxFreq : USHORT
  usExAirFanCtrlPeriod : USHORT
  ulExAirFanRated_Vol : ULONG

/-- `System`, with the devices, the outputs and the two variables of `fanctrl.c` named like fields
(`g_`).  The numbered fields `usModeAdjustTemp_1` and so on are functions of the number. -/
structure System extends Modes, Settings where
  eSystemState : eSystemState
  eRunningMode : eRunningMode
  usModeChangeTime : ℕ → USHORT
  usModeAdjustTemp : ℕ → USHORT
  usEnergyTemp : USHORT
  usTempDeviat : USHORT
  usSupAirMax_T : USHORT
  usCO2PPM : USHORT
  usCO2PPMAlarm : USHORT
  ulExAirRequest_Vol : ULONG
  ulTotalFreAir_Vol : ULONG
  sAmbientIn_T : USHORT
  sAmbientOut_T : USHORT
  usAmbientIn_H : USHORT
  usAmbientOut_H : USHORT
  usExAirFanRunTimeLeast : USHORT
  usExAirFanFreq : USHORT
  ulExAirFanRequestTime : ULONG
  ucConstantFanRequestNum : UCHAR
  ucConstantFanOpenNum : UCHAR
  xVariableFanRequest : Bool
  sExAirFanCtrlTmr : OS_TMR
  sExAirFanRequestTimeTmr : OS_TMR
  sModeChangeTmr : ℕ → OS_TMR
  xCompFirstRun : Bool
  xAlarmEnable : Bool
  xCO2SenErr : Bool
  xTempHumiSenOutErr : Bool
  xTempHumiSenInErr : Bool
  xTempSenOutErr : Bool
  xTempSenInErr : Bool
  xHumiSenOutErr : Bool
  xHumiSenInErr : Bool
  sAlarm_DO : ℕ
  psBMS : BMS
  pExAirFanVariate : Option (Fin EX_AIR_FAN_NUM)
  psExAirFanList : Fin EX_AIR_FAN_NUM → ExAirFan
  psModularRoofList : Fin MODULAR_ROOF_NUM → ModularRoof
  g_ulExAirFanRequestTime : ULONG
  g_ucConstantFanRequestNum : UCHAR
  digitalOutput : ℕ → eCtrlEn
  analogOutput : ℕ → USHORT

/-- The numbers of the fans and of the units, in the order of the loops over the lists. -/
def fans : List (Fin EX_AIR_FAN_NUM) := List.finRange EX_AIR_FAN_NUM

def units : List (Fin MODULAR_ROOF_NUM) := List.finRange MODULAR_ROOF_NUM

def System.fan (s : System) (n : Fin EX_AIR_FAN_NUM) : ExAirFan := s.psExAirFanList n

def System.unit (s : System) (n : Fin MODULAR_ROOF_NUM) : ModularRoof := s.psModularRoofList n

def System.setFan (n : Fin EX_AIR_FAN_NUM) (f : ExAirFan) (s : System) : System :=
  { s with psExAirFanList := Function.update s.psExAirFanList n f }

def System.setUnit (n : Fin MODULAR_ROOF_NUM) (u : ModularRoof) (s : System) : System :=
  { s with psModularRoofList := Function.update s.psModularRoofList n u }

theorem fan_setFan (n m : Fin EX_AIR_FAN_NUM) (f : ExAirFan) (s : System) :
    (s.setFan n f).fan m = if m = n then f else s.fan m := Function.update_apply _ n f m

theorem unit_setUnit (n m : Fin MODULAR_ROOF_NUM) (u : ModularRoof) (s : System) :
    (s.setUnit n u).unit m = if m = n then u else s.unit m := Function.update_apply _ n u m

/-! ### The controller at reset -/

/-- A fan whose memory is 0. -/
def ExAirFan.zero : ExAirFan where
  eRunningState := .STATE_STOP
  usRunTime_H := 0
  usSetFreq := 0
  usMinFreq := 0
  usMaxFreq := 0
  usRunningFreq := 0
  sFreq_AO := 0
  sSwitch_DO := 0
  eFanFreqType := .VARIABLE_FREQ
  eCtrlCmd := .OFF
  xExAirFanRemote := false
  xExAirFanErr := false
  xExAirFanCtrlErr := false

/-- A unit whose memory is 0; of the two commands none is 0. -/
def ModularRoof.zero : ModularRoof where
  eRunningState := .STATE_STOP
  eRunningMode := .unset
  eSwitchCmd := .CMD_CLOSE
  eSwitchState := .CMD_CLOSE
  sSupAir_T := 0
  usFreAir_Vol := 0
  usCoolTempSet := 0
  usHeatTempSet := 0
  usFreAirSet_Vol := 0
  sAmbientIn_T := 0
  sAmbientInSelf_T := 0
  usAmbientIn_H := 0
  usAmbientInSelf_H := 0
  sAmbientOutSelf_T := 0
  usAmbientOutSelf_H := 0
  usCO2PPMSelf := 0
  usCO2AdjustThr_V := 0
  usCO2AdjustDeviat := 0
  usHumidityMax := 0
  usHumidityMin := 0
  xSwitchCmdChanged := false
  xCommErr := false
  xStopErrFlag := false
  xCompRunning := false
  xOnLine := false

def BMS.zero : BMS where
  usTempSet := 0
  usHumidityMax := 0
  usHumidityMin := 0
  usFreAirSet_Vol_H := 0
  usFreAirSet_Vol_L := 0
  usCO2AdjustThr_V := 0
  usCO2AdjustDeviat := 0
  ucExAirCoolRatio := 0
  ucExAirHeatRatio := 0
  eExAirFanType := .TYPE_CONSTANT
  usExAirFanMinFreq := 0
  usExAirFanMaxFreq := 0
  usExAirFanCtrlPeriod := 0
  usExAirFanRated_Vol_H := 0
  usExAirFanRated_Vol_L := 0
  eSystemMode := .MODE_CLOSE
  eRunningMode := .unset
  usExAirFanFreq := 0
  usTotalFreAir_Vol_H := 0
  usTotalFreAir_Vol_L := 0
  xAlarmClean := false
  xAlarmEnable := false
  xExAirFanErrClean := false

/-- The controller with its memory 0: closed, and all devices stopped. -/
def System.zero : System where
  eSystemMode := .MODE_CLOSE
  xUnitErrFlag := false
  xExFanErrFlag := false
  usTempSet := 0
  usHumidityMax := 0
  usHumidityMin := 0
  ulFreAirSet_Vol := 0
  usCO2AdjustThr_V := 0
  usCO2AdjustDeviat := 0
  ucExAirCoolRatio := 0
  ucExAirHeatRatio := 0
  eExAirFanType := .TYPE_CONSTANT
  usExAirFanMinFreq := 0
  usExAirFanMaxFreq := 0
  usExAirFanCtrlPeriod := 0
  ulExAirFanRated_Vol := 0
  eSystemState := .STATE_CLOSED
  eRunningMode := .unset
  usModeChangeTime _ := 0
  usModeAdjustTemp _ := 0
  usEnergyTemp := 0
  usTempDeviat := 0
  usSupAirMax_T := 0
  usCO2PPM := 0
  usCO2PPMAlarm := 0
  ulExAirRequest_Vol := 0
  ulTotalFreAir_Vol := 0
  sAmbientIn_T := 0
  sAmbientOut_T := 0
  usAmbientIn_H := 0
  usAmbientOut_H := 0
  usExAirFanRunTimeLeast := 0
  usExAirFanFreq := 0
  ulExAirFanRequestTime := 0
  ucConstantFanRequestNum := 0
  ucConstantFanOpenNum := 0
  xVariableFanRequest := false
  sExAirFanCtrlTmr := ⟨.OS_TMR_STATE_UNUSED, 0, 0⟩
  sExAirFanRequestTimeTmr := ⟨.OS_TMR_STATE_UNUSED, 0, 0⟩
  sModeChangeTmr _ := ⟨.OS_TMR_STATE_UNUSED, 0, 0⟩
  xCompFirstRun := false
  xAlarmEnable := false
  xCO2SenErr := false
  xTempHumiSenOutErr := false
  xTempHumiSenInErr := false
  xTempSenOutErr := false
  xTempSenInErr := false
  xHumiSenOutErr := false
  xHumiSenInErr := false
  sAlarm_DO := 0
  psBMS := BMS.zero
  pExAirFanVariate := none
  psExAirFanList _ := ExAirFan.zero
  psModularRoofList _ := ModularRoof.zero
  g_ulExAirFanRequestTime := 0
  g_ucConstantFanRequestNum := 0
  digitalOutput _ := .OFF
  analogOutput _ := 0

/-! ### What the controls leave alone -/

/-- The modes on both sides. -/
def System.modes (s : System) : Modes × Control.eSystemMode := (s.toModes, s.psBMS.eSystemMode)

/-- The settings on both sides. -/
def System.settings (s : System) : Settings × BMSSettings := (s.toSettings, s.psBMS.toBMSSettings)

/-- The modes and the settings. -/
def System.kept (s : System) : (Modes × Control.eSystemMode) × Settings × BMSSettings := (s.modes, s.settings)

/-- The units and what their running mode is changed by. -/
structure UnitSide where
  eSystemState : eSystemState
  eRunningMode : eRunningMode
  usModeChangeTime : ℕ → USHORT
  usModeAdjustTemp : ℕ → USHORT
  usEnergyTemp : USHORT
  usTempDeviat : USHORT
  sAmbientIn_T : USHORT
  sModeChangeTmr : ℕ → OS_TMR
  xCompFirstRun : Bool
  psModularRoofList : Fin MODULAR_ROOF_NUM → ModularRoof

def System.unitSide (s : System) : UnitSide :=
  ⟨s.eSystemState, s.eRunningMode, s.usModeChangeTime, s.usModeAdjustTemp, s.usEnergyTemp, s.usTempDeviat,
    s.sAmbientIn_T, s.sModeChangeTmr, s.xCompFirstRun, s.psModularRoofList⟩

/-- What the control of the fans and of the alarm leaves alone. -/
def System.fanless (s : System) : ((Modes × Control.eSystemMode) × Settings × BMSSettings) × UnitSide :=
  (s.kept, s.unitSide)

theorem modes_of_kept {s s' : System} (h : s'.kept = s.kept) : s'.modes = s.modes := congrArg Prod.fst h

theorem settings_of_kept {s s' : System} (h : s'.kept = s.kept) : s'.settings = s.settings := congrArg Prod.snd h

theorem kept_of_fanless {s s' : System} (h : s'.fanless = s.fanless) : s'.kept = s.kept := congrArg Prod.fst h

theorem unitSide_of_fanless {s s' : System} (h : s'.fanless = s.fanless) : s'.unitSide = s.unitSide :=
  congrArg Prod.snd h

@[simp] theorem setFan_kept (n : Fin EX_AIR_FAN_NUM) (f : ExAirFan) (s : System) : (s.setFan n f).kept = s.kept := rfl

@[simp] theorem setFan_fanless (n : Fin EX_AIR_FAN_NUM) (f : ExAirFan) (s : System) :
    (s.setFan n f).fanless = s.fanless := rfl

@[simp] theorem setUnit_kept (n : Fin MODULAR_ROOF_NUM) (u : ModularRoof) (s : System) :
    (s.setUnit n u).kept = s.kept := rfl

@[simp] theorem ite_kept (c : Prop) [Decidable c] (s t : System) :
    (if c then s else t).kept = if c then s.kept else t.kept := apply_ite System.kept c s t

@[simp] theorem ite_fanless (c : Prop) [Decidable c] (s t : System) :
    (if c then s else t).fanless = if c then s.fanless else t.fanless := apply_ite System.fanless c s t

theorem foldl_kept {α β : Type} (k : System → β) {f : System → α → System} (h : ∀ s a, k (f s a) = k s) (as : List α)
    (s : System) : k (as.foldl f s) = k s := by
  induction as generalizing s with
  | nil => rfl
  | cons a as ih => exact (ih (f s a)).trans (h s a)

/-! ### Outputs -/

abbrev DO_NUM : ℕ := 13
abbrev AO_NUM : ℕ := 8

def vDigitalOutputCtrl (ucChannel : ℕ) (eCtrl : eCtrlEn) (s : System) : System :=
  if 0 < ucChannel ∧ ucChannel ≤ DO_NUM then
    { s with digitalOutput := Function.update s.digitalOutput ucChannel eCtrl }
  else s

/-- `vAnalogOutputSetRealVal`, the value asked. -/
def vAnalogOutputSetRealVal (ucChannel : ℕ) (ulRealData : USHORT) (s : System) : System :=
  if 0 < ucChannel ∧ ucChannel ≤ AO_NUM then
    { s with analogOutput := Function.update s.analogOutput ucChannel ulRealData }
  else s

@[simp] theorem vDigitalOutputCtrl_fanless (ucChannel : ℕ) (eCtrl : eCtrlEn) (s : System) :
    (vDigitalOutputCtrl ucChannel eCtrl s).fanless = s.fanless := by
  unfold vDigitalOutputCtrl
  split <;> rfl

end GreeIntense.Control

import GreeIntense.Control.Handlers
import GreeIntense.Control.Sensor

/-!
# What the sensors tell the system (`sensorctrl.c`, and `vSystem_ParameterSysn` of `system.c`)

The mean of the sensors of a kind that are in no fault is the reading of the system; where all sensors of a kind
are in fault the system is told so and the readings of the units take their place (`unitctrl.c`).

The flags and the CO2 that are passed on to the units are left out.
-/

namespace GreeIntense.Control

abbrev CO2_SEN_NUM : ℕ := 3
abbrev TEMP_HUMI_SEN_OUT_NUM : ℕ := 1
abbrev TEMP_HUMI_SEN_IN_NUM : ℕ := 12

structure Sensors where
  psCO2SenList : Fin CO2_SEN_NUM → CO2Sensor
  psTempHumiSenOutList : Fin TEMP_HUMI_SEN_OUT_NUM → TempHumiSensor
  psTempHumiSenInList : Fin TEMP_HUMI_SEN_IN_NUM → TempHumiSensor

/-! ### The readings of several sensors -/

section Readings

variable {num : ℕ} (list : Fin num → Reading)

def inOrder : List (Fin num) := (List.finRange num).filter fun n => (list n).err = false

/-- The sum of their averages, in 16 bits. -/
def totalAvg : USHORT := (inOrder list).foldl (fun t n => t + (list n).avg) 0

/-- The mean of unsigned averages, 0 where there is none. -/
def meanAvg : USHORT :=
  if (inOrder list).length ≠ 0 then totalAvg list / BitVec.ofNat 16 (inOrder list).length else 0

/-- The mean of signed averages, 0 where there is none. -/
def meanTemp : USHORT := if (inOrder list).length ≠ 0 then mean (totalAvg list) (inOrder list).length else 0

def allFaulty : Bool := (inOrder list).length = 0

end Readings

namespace Sensors

variable (p : Sensors)

def co2 (n : Fin CO2_SEN_NUM) : Reading := (p.psCO2SenList n).co2
def tempOut (n : Fin TEMP_HUMI_SEN_OUT_NUM) : Reading := (p.psTempHumiSenOutList n).temp
def humiOut (n : Fin TEMP_HUMI_SEN_OUT_NUM) : Reading := (p.psTempHumiSenOutList n).humi
def tempIn (n : Fin TEMP_HUMI_SEN_IN_NUM) : Reading := (p.psTempHumiSenInList n).temp
def humiIn (n : Fin TEMP_HUMI_SEN_IN_NUM) : Reading := (p.psTempHumiSenInList n).humi

end Sensors

/-! ### The handlers -/

/-- The alarm of a class of sensors: set where all of them have a fault. -/
def classAlarm (xErr : Bool) (s : System) : System := if xErr then vSystem_SetAlarm s else vSystem_DelAlarmRequst s

def vSystem_CO2PPM (p : Sensors) (s : System) : System :=
  let usCO2PPM := meanAvg p.co2
  if s.usCO2PPM ≠ usCO2PPM ∧ s.xCO2SenErr = false then setCO2PPM usCO2PPM s else s

def vSystem_CO2SensorErr (p : Sensors) (s : System) : System :=
  let xCO2SenErr := allFaulty p.co2
  let s :=
    if s.xCO2SenErr ≠ xCO2SenErr then classAlarm xCO2SenErr { s with xCO2SenErr := xCO2SenErr } else s
  vSystem_CO2PPM p s

def vSystem_TempHumiOut (p : Sensors) (s : System) : System :=
  if s.xTempSenOutErr = true then s
  else
    let sAmbientOut_T := meanTemp p.tempOut
    let usAmbientOut_H := meanAvg p.humiOut
    if s.sAmbientOut_T ≠ sAmbientOut_T ∨ s.usAmbientOut_H ≠ usAmbientOut_H then
      { s with
        sAmbientOut_T := sAmbientOut_T
        usAmbientOut_H := if s.xHumiSenOutErr = false then usAmbientOut_H else s.usAmbientOut_H }
    else s

/-- `vSystem_TempHumiOutErr`.  One of the two kinds all in fault is a fault of the class. -/
def vSystem_TempHumiOutErr (p : Sensors) (s : System) : System :=
  let xTempSenOutErr := allFaulty p.tempOut
  let xHumiSenOutErr := allFaulty p.humiOut
  let s :=
    if s.xTempSenOutErr ≠ xTempSenOutErr ∨ s.xHumiSenOutErr ≠ xHumiSenOutErr then
      let xErr := xTempSenOutErr || xHumiSenOutErr
      classAlarm xErr
        { s with
          xTempSenOutErr := xTempSenOutErr, xHumiSenOutErr := xHumiSenOutErr, xTempHumiSenOutErr := xErr }
    else s
  vSystem_TempHumiOut p s

def vSystem_TempHumiIn (p : Sensors) (s : System) : System :=
  if s.xTempSenInErr = true then s
  else
    let sAmbientIn_T := meanTemp p.tempIn
    let usAmbientIn_H := meanAvg p.humiIn
    let s := setUnitAmbientIn sAmbientIn_T usAmbientIn_H s
    if s.sAmbientIn_T ≠ sAmbientIn_T ∨ s.usAmbientIn_H ≠ usAmbientIn_H then
      setAmbientIn sAmbientIn_T (if s.xHumiSenInErr = false then usAmbientIn_H else s.usAmbientIn_H) s
    else s

/-- `vSystem_TempHumiInErr`.  Only both kinds all in fault are a fault of the class. -/
def vSystem_TempHumiInErr (p : Sensors) (s : System) : System :=
  let xTempSenInErr := allFaulty p.tempIn
  let xHumiSenInErr := allFaulty p.humiIn
  let s :=
    if s.xTempSenInErr ≠ xTempSenInErr ∨ s.xHumiSenInErr ≠ xHumiSenInErr then
      let xErr := xTempSenInErr && xHumiSenInErr
      classAlarm xErr
        { s with xTempSenInErr := xTempSenInErr, xHumiSenInErr := xHumiSenInErr, xTempHumiSenInErr := xErr }
    else s
  vSystem_TempHumiIn p s

/-- The monitored variables of a CO2 sensor. -/
inductive CO2Var
  | usAvgCO2PPM | xCO2SenErr
  deriving DecidableEq, Repr

/-- The monitored variables of a sensor for temperature and humidity. -/
inductive TempHumiVar
  | sAvgTemp | xTempSenErr | usAvgHumi | xHumiSenErr
  deriving DecidableEq, Repr

/-- `pvArg` of an event message of a sensor. -/
inductive SensorArg
  | co2 (n : Fin CO2_SEN_NUM) (v : CO2Var)
  | tempHumiOut (n : Fin TEMP_HUMI_SEN_OUT_NUM) (v : TempHumiVar)
  | tempHumiIn (n : Fin TEMP_HUMI_SEN_IN_NUM) (v : TempHumiVar)
  deriving DecidableEq, Repr

/-- `vSystem_EventPollTask`, one message of a sensor. -/
def handleSensor (p : Sensors) (pvArg : SensorArg) (s : System) : System :=
  match pvArg with
  | .co2 _ .usAvgCO2PPM => vSystem_CO2PPM p s
  | .co2 _ .xCO2SenErr => vSystem_CO2SensorErr p s
  | .tempHumiOut _ .sAvgTemp => vSystem_TempHumiOut p s
  | .tempHumiOut _ .xTempSenErr => vSystem_TempHumiOutErr p s
  | .tempHumiOut _ .usAvgHumi => vSystem_TempHumiOut p s
  | .tempHumiOut _ .xHumiSenErr => vSystem_TempHumiOutErr p s
  | .tempHumiIn _ .sAvgTemp => vSystem_TempHumiIn p s
  | .tempHumiIn _ .xTempSenErr => vSystem_TempHumiInErr p s
  | .tempHumiIn _ .usAvgHumi => vSystem_TempHumiIn p s
  | .tempHumiIn _ .xHumiSenErr => vSystem_TempHumiInErr p s

/-! ### The poll -/

/-- A unit is given what the system has, in automatic and in emergency mode. -/
def sysnUnit (s : System) (n : Fin MODULAR_ROOF_NUM) : System :=
  let u := s.unit n
  let s := s.setUnit n { u with
    eSwitchState := u.eSwitchCmd
    eRunningMode := if s.eRunningMode ≠ .unset then s.eRunningMode else u.eRunningMode }
  let s :=
    if s.eRunningMode = .RUN_MODE_COOL ∨ s.eRunningMode = .RUN_MODE_WET then (usSystem_ChangeEnergyTemp s).2
    else s.setUnit n { s.unit n with usCoolTempSet := s.usTempSet, usHeatTempSet := s.usTempSet }
  s.setUnit n { s.unit n with
    usHumidityMin := s.usHumidityMin
    usHumidityMax := s.usHumidityMax
    usCO2AdjustThr_V := s.usCO2AdjustThr_V
    usCO2AdjustDeviat := s.usCO2AdjustDeviat
    sAmbientIn_T := s.sAmbientIn_T
    usAmbientIn_H := s.usAmbientIn_H }

/-- As `sysnUnit`, in manual and in closed mode. -/
def sysnUnitManual (s : System) (n : Fin MODULAR_ROOF_NUM) : System :=
  let u := s.unit n
  let u :=
    if u.xSwitchCmdChanged = true ∧ u.eSwitchState ≠ u.eSwitchCmd then
      { u with eSwitchState := u.eSwitchCmd, xSwitchCmdChanged := false }
    else u
  s.setUnit n { u with sAmbientIn_T := s.sAmbientIn_T, usAmbientIn_H := s.usAmbientIn_H }

/-- The units are given what the system has. -/
def sysnUnits (s : System) : System :=
  if s.eSystemMode = .MODE_AUTO ∨ s.eSystemMode = .MODE_EMERGENCY then units.foldl sysnUnit s
  else units.foldl sysnUnitManual s

/-- The readings are taken over, those of the sensors and those of the units. -/
def sysnReadings (l : Locals) (p : Sensors) (s : System) : System :=
  let s := vSystem_TempHumiIn p (vSystem_TempHumiOut p (vSystem_CO2PPM p s))
  vSystem_UnitTempHumiIn l (vSystem_UnitTempHumiOut (vSystem_UnitCO2PPM l s))

/-- `vSystem_ParameterSysn`, with `LastAmbientIn_T`. -/
def vSystem_ParameterSysn (l : Locals) (p : Sensors) (LastAmbientIn_T : USHORT) (s : System) : USHORT × System :=
  let s := sysnReadings l p (sysnUnits (vSystem_FreshFreAir s.ulFreAirSet_Vol s))
  let s :=
    if s.eSystemMode = .MODE_AUTO ∧ s.eSystemState ≠ .STATE_CLOSED ∧ LastAmbientIn_T = s.sAmbientIn_T then
      vSystem_ChangeUnitRunningMode s
    else s
  (s.sAmbientIn_T, s)

end GreeIntense.Control

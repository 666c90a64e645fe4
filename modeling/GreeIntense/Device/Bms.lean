import GreeIntense.Lib.Dictionary
import GreeIntense.Slave.Holes
import GreeIntense.Slave.Server
import Mathlib.Logic.Encodable.Basic

/-!
# The dictionary of the building management system (`bms.c`)

The registers and coils under which a client of the slave finds the variables of the unit, as `vBMS_InitBMSCommData`
enters them, and the map function `xBMS_DevDataMapIndex`.  Where the variables lie is left open (`Layout`): they have
bytes of their own, of the type they are declared with.

The map function and the tables agree (`regHold_bms`, `coil_bms`), so this is a table of the round trip
(`holdTable_bms`), and a client reads back the settings that it wrote (`bms_settings_round_trip`).
-/

namespace GreeIntense.Device

open Lib.Memory Lib.Bits Lib.Run Lib.Refine Lib.Dictionary Slave

/-! ### Variables -/

/-- The objects that are reached from the system, under the names of the lists they stand in. -/
inductive Object
  | pThis | pSystem | pUnitMeter | pExAirFanMeter
  | psModularRoofList (n : ℕ) | psSupAirFan (n : ℕ) | psModularList (n m : ℕ)
  | psCompList (n m i : ℕ) | psAmbientOutFanList (n m i : ℕ)
  | psExAirFanList (n : ℕ) | psCO2SenList (n : ℕ) | psTempHumiSenOutList (n : ℕ) | psTempHumiSenInList (n : ℕ)
  deriving DecidableEq

inductive Field
  | usUnitID | usProtocolVer | eSystemMode | eRunningMode | eSystemState | sChickenGrowDays | usTempSet
  | usFreAirSet_Vol_L | usFreAirSet_Vol_H | usEnergyTemp | usSupAirMax_T | usHumidityMax | usHumidityMin
  | usTempDeviat | usCO2AdjustThr_V | usCO2AdjustDeviat | usCO2ExAirDeviat_1 | usCO2ExAirDeviat_2
  | usCO2PPMAlarm | usExAirFanFreq | usExAirFanMinFreq | usExAirFanMaxFreq | usExAirFanRated_Vol_L
  | usExAirFanRated_Vol_H | usExAirFanCtrlPeriod | usExAirFanRunTimeLeast | eExAirFanType | ucExAirCoolRatio
  | ucExAirHeatRatio | usModeChangeTime_1 | usModeChangeTime_2 | usModeChangeTime_3 | usModeChangeTime_4
  | usModeChangeTime_5 | usModeChangeTime_6 | usModeChangeTime_7 | usModeChangeTime_8 | usModeChangePeriod_1
  | usModeChangePeriod_2 | usModeChangePeriod_3 | usModeChangePeriod_4 | usModeChangePeriod_5
  | usModeChangePeriod_6 | usModeAdjustTemp_0 | usModeAdjustTemp_1 | usModeAdjustTemp_2 | usModeAdjustTemp_3
  | usModeAdjustTemp_4 | usModeAdjustTemp_5 | usModeAdjustTemp_6 | usTotalFreAir_Vol_L | usTotalFreAir_Vol_H
  | usCO2PPM | sAmbientIn_T | sAmbientOut_T | usAmbientIn_H | usAmbientOut_H | eSwitchCmd | eFuncMode
  | usCO2PPMSelf | sRetAir_T | sSupAir_T | usRetAir_Vol | usSupAir_Vol | usFreAir_Vol | usFreAirSet_Vol
  | usFreAirDamper_Ang | usCoolTempSet | usHeatTempSet | sAmbientInSelf_T | sAmbientOutSelf_T
  | usAmbientInSelf_H | usAmbientOutSelf_H | ucModularState | usRunTime_H | usRunningFreq | usAvgCO2PPM
  | sAvgTemp | usAvgHumi | usPower | usTotalEnergy_L | usTotalEnergy_H | xAlarmEnable | xAlarmClean
  | xTempSenInErr | xHumiSenInErr | xCO2SenErr | xErrClean | eRunningState | xStopErrFlag | xErrFlag
  | xAlarmFlag | xCommErr | xSupAirDamperState | xWetMode | xRetAirSenErr | xFreAirSenErr | xCO2SenSelfErr_1
  | xCO2SenSelfErr_2 | xTempSenInSelfErr | xHumiSenInSelfErr | xTempSenOutErr | xHumiSenOutErr | xOnLine
  | xExAirFanErrClean | eCtrlCmd | xExAirFanErr | xExAirFanCtrlErr | xExAirFanRemote | xTempSenErr
  | xHumiSenErr
  deriving DecidableEq

/-- The type a field is declared with; an enumeration is a byte. -/
def Field.type : Field → DataType
  | .eSystemMode | .eRunningMode | .eSystemState | .eExAirFanType | .ucExAirCoolRatio | .ucExAirHeatRatio
  | .eSwitchCmd | .eFuncMode | .ucModularState | .xAlarmEnable | .xAlarmClean | .xTempSenInErr | .xHumiSenInErr
  | .xCO2SenErr | .xErrClean | .eRunningState | .xStopErrFlag | .xErrFlag | .xAlarmFlag | .xCommErr
  | .xSupAirDamperState | .xWetMode | .xRetAirSenErr | .xFreAirSenErr | .xCO2SenSelfErr_1 | .xCO2SenSelfErr_2
  | .xTempSenInSelfErr | .xHumiSenInSelfErr | .xTempSenOutErr | .xHumiSenOutErr | .xOnLine | .xExAirFanErrClean
  | .eCtrlCmd | .xExAirFanErr | .xExAirFanCtrlErr | .xExAirFanRemote | .xTempSenErr | .xHumiSenErr => .uint8
  | .sChickenGrowDays | .sAmbientIn_T | .sAmbientOut_T | .sRetAir_T | .sSupAir_T | .sAmbientInSelf_T
  | .sAmbientOutSelf_T | .sAvgTemp => .int16
  | _ => .uint16

structure Var where
  object : Object
  field : Field
  deriving DecidableEq

/-- Where the variables lie. -/
structure Layout where
  addr : Var → ℕ
  separate : ∀ u v, u ≠ v → Disjoint (Set.Ico (addr u) (addr u + u.field.type.size))
    (Set.Ico (addr v) (addr v + v.field.type.size))

/-! ### Tables -/

abbrev MIN_IN_TEMP : USHORT := 0
abbrev MAX_IN_TEMP : USHORT := 600
abbrev MIN_OUT_TEMP : USHORT := -200
abbrev MAX_OUT_TEMP : USHORT := 600
abbrev MIN_HUMI : USHORT := 0
abbrev MAX_HUMI : USHORT := 100
abbrev MIN_CO2_PPM : USHORT := 0
abbrev MAX_CO2_PPM : USHORT := 5000

/-- The arguments of `SLAVE_REG_HOLD_DATA`. -/
structure RegHoldRow where
  usAddr : USHORT
  ucDataType : DataType
  usMinVal : USHORT
  usMaxVal : USHORT
  ucAccessMode : AccessMode
  ucTmitMult : UCHAR
  var : Var

/-- The arguments of `SLAVE_COIL_BIT_DATA`. -/
structure CoilRow where
  usAddr : USHORT
  ucAccessMode : AccessMode
  var : Var

/-- `vMBSlaveRegDataInit`. -/
def RegHoldRow.init (L : Layout) (r : RegHoldRow) : sMBSlaveRegData :=
  ⟨r.usAddr, r.usMinVal, r.usMaxVal, r.ucTmitMult, r.ucDataType, r.ucAccessMode, some (L.addr r.var)⟩

/-- `vMBSlaveBitDataInit`. -/
def CoilRow.init (L : Layout) (r : CoilRow) : sMBSlaveBitData := ⟨r.usAddr, r.ucAccessMode, some (L.addr r.var)⟩

/-- `vMBSlaveDevDataTableInit`, on the rows entered before; what is behind them in the buffer is `rest`. -/
def vMBSlaveDevDataTableInit {Entry : Type} (rows : List Entry) (rest : Entry) (usStartAddr usEndAddr : USHORT) :
    sMBSlaveDataTable Entry :=
  ⟨some fun i => rows.getD i rest, usStartAddr, usEndAddr, rows.length⟩

def bmsRegHold : List RegHoldRow := [
  ⟨0, .uint16, 0, 65535, .RO, 1, .pSystem, .usUnitID⟩,
  ⟨1, .uint16, 0, 65535, .RO, 1, .pSystem, .usProtocolVer⟩,
  ⟨2, .uint8, 0, 3, .RW, 1, .pThis, .eSystemMode⟩,
  ⟨3, .uint8, 1, 4, .RW, 1, .pThis, .eRunningMode⟩,
  ⟨4, .uint8, 0, 7, .RO, 1, .pSystem, .eSystemState⟩,
  ⟨11, .int16, -2, 56, .RW, 1, .pSystem, .sChickenGrowDays⟩,
  ⟨12, .uint16, 160, 350, .RW, 1, .pThis, .usTempSet⟩,
  ⟨13, .uint16, 0, 65535, .RW, 1, .pThis, .usFreAirSet_Vol_L⟩,
  ⟨14, .uint16, 0, 1, .RW, 1, .pThis, .usFreAirSet_Vol_H⟩,
  ⟨15, .uint16, 0, 450, .RW, 1, .pSystem, .usEnergyTemp⟩,
  ⟨17, .uint16, 0, 550, .RW, 1, .pSystem, .usSupAirMax_T⟩,
  ⟨18, .uint16, 0, 100, .RW, 1, .pThis, .usHumidityMax⟩,
  ⟨19, .uint16, 0, 100, .RW, 1, .pThis, .usHumidityMin⟩,
  ⟨20, .uint16, 0, 100, .RW, 1, .pSystem, .usTempDeviat⟩,
  ⟨29, .uint16, 0, 3500, .RW, 1, .pThis, .usCO2AdjustThr_V⟩,
  ⟨30, .uint16, 0, 3500, .RW, 1, .pThis, .usCO2AdjustDeviat⟩,
  ⟨31, .uint16, 0, 3500, .RW, 1, .pSystem, .usCO2ExAirDeviat_1⟩,
  ⟨32, .uint16, 0, 3500, .RW, 1, .pSystem, .usCO2ExAirDeviat_2⟩,
  ⟨33, .uint16, 0, 3500, .RW, 1, .pSystem, .usCO2PPMAlarm⟩,
  ⟨37, .uint16, 0, 500, .RW, 1, .pThis, .usExAirFanFreq⟩,
  ⟨38, .uint16, 0, 500, .RW, 1, .pThis, .usExAirFanMinFreq⟩,
  ⟨39, .uint16, 0, 500, .RW, 1, .pThis, .usExAirFanMaxFreq⟩,
  ⟨40, .uint16, 0, 65535, .RW, 1, .pThis, .usExAirFanRated_Vol_L⟩,
  ⟨41, .uint16, 0, 1, .RW, 1, .pThis, .usExAirFanRated_Vol_H⟩,
  ⟨42, .uint16, 0, 7200, .RW, 1, .pThis, .usExAirFanCtrlPeriod⟩,
  ⟨43, .uint16, 0, 7200, .RW, 1, .pSystem, .usExAirFanRunTimeLeast⟩,
  ⟨44, .uint8, 0, 1, .RW, 1, .pThis, .eExAirFanType⟩,
  ⟨45, .uint8, 0, 200, .RW, 1, .pThis, .ucExAirCoolRatio⟩,
  ⟨46, .uint8, 0, 200, .RW, 1, .pThis, .ucExAirHeatRatio⟩,
  ⟨52, .uint16, 0, 7200, .RW, 1, .pSystem, .usModeChangeTime_1⟩,
  ⟨53, .uint16, 0, 7200, .RW, 1, .pSystem, .usModeChangeTime_2⟩,
  ⟨54, .uint16, 0, 7200, .RW, 1, .pSystem, .usModeChangeTime_3⟩,
  ⟨55, .uint16, 0, 7200, .RW, 1, .pSystem, .usModeChangeTime_4⟩,
  ⟨56, .uint16, 0, 7200, .RW, 1, .pSystem, .usModeChangeTime_5⟩,
  ⟨57, .uint16, 0, 7200, .RW, 1, .pSystem, .usModeChangeTime_6⟩,
  ⟨58, .uint16, 0, 7200, .RW, 1, .pSystem, .usModeChangeTime_7⟩,
  ⟨59, .uint16, 0, 7200, .RW, 1, .pSystem, .usModeChangeTime_8⟩,
  ⟨64, .uint16, 0, 7200, .RW, 1, .pSystem, .usModeChangePeriod_1⟩,
  ⟨65, .uint16, 0, 7200, .RW, 1, .pSystem, .usModeChangePeriod_2⟩,
  ⟨66, .uint16, 0, 7200, .RW, 1, .pSystem, .usModeChangePeriod_3⟩,
  ⟨67, .uint16, 0, 7200, .RW, 1, .pSystem, .usModeChangePeriod_4⟩,
  ⟨68, .uint16, 0, 7200, .RW, 1, .pSystem, .usModeChangePeriod_5⟩,
  ⟨69, .uint16, 0, 7200, .RW, 1, .pSystem, .usModeChangePeriod_6⟩,
  ⟨75, .uint16, 0, 100, .RW, 1, .pSystem, .usModeAdjustTemp_0⟩,
  ⟨76, .uint16, 0, 100, .RW, 1, .pSystem, .usModeAdjustTemp_1⟩,
  ⟨77, .uint16, 0, 100, .RW, 1, .pSystem, .usModeAdjustTemp_2⟩,
  ⟨78, .uint16, 0, 100, .RW, 1, .pSystem, .usModeAdjustTemp_3⟩,
  ⟨79, .uint16, 0, 100, .RW, 1, .pSystem, .usModeAdjustTemp_4⟩,
  ⟨80, .uint16, 0, 100, .RW, 1, .pSystem, .usModeAdjustTemp_5⟩,
  ⟨81, .uint16, 0, 100, .RW, 1, .pSystem, .usModeAdjustTemp_6⟩,
  ⟨93, .uint16, 0, 65535, .RO, 1, .pThis, .usTotalFreAir_Vol_L⟩,
  ⟨94, .uint16, 0, 1, .RO, 1, .pThis, .usTotalFreAir_Vol_H⟩,
  ⟨95, .uint16, MIN_CO2_PPM, MAX_CO2_PPM, .RO, 1, .pSystem, .usCO2PPM⟩,
  ⟨96, .int16, MIN_IN_TEMP, MAX_IN_TEMP, .RO, 1, .pSystem, .sAmbientIn_T⟩,
  ⟨97, .int16, MIN_OUT_TEMP, MAX_OUT_TEMP, .RO, 1, .pSystem, .sAmbientOut_T⟩,
  ⟨98, .uint16, MIN_HUMI, MAX_HUMI, .RO, 1, .pSystem, .usAmbientIn_H⟩,
  ⟨99, .uint16, 0, 100, .RO, 1, .pSystem, .usAmbientOut_H⟩,
  ⟨113, .uint8, 85, 170, .RW, 1, .psModularRoofList 0, .eSwitchCmd⟩,
  ⟨114, .uint8, 1, 4, .RO, 1, .psModularRoofList 0, .eRunningMode⟩,
  ⟨115, .uint8, 0, 3, .RO, 1, .psModularRoofList 0, .eFuncMode⟩,
  ⟨116, .uint16, 0, 5000, .RO, 1, .psModularRoofList 0, .usCO2PPMSelf⟩,
  ⟨117, .int16, -200, 1400, .RO, 1, .psModularRoofList 0, .sRetAir_T⟩,
  ⟨118, .int16, -200, 1400, .RO, 1, .psModularRoofList 0, .sSupAir_T⟩,
  ⟨119, .uint16, 0, 65000, .RO, 1, .psModularRoofList 0, .usRetAir_Vol⟩,
  ⟨120, .uint16, 0, 65000, .RO, 1, .psModularRoofList 0, .usSupAir_Vol⟩,
  ⟨121, .uint16, 0, 65000, .RO, 1, .psModularRoofList 0, .usFreAir_Vol⟩,
  ⟨122, .uint16, 0, 65000, .RW, 1, .psModularRoofList 0, .usFreAirSet_Vol⟩,
  ⟨124, .uint16, 0, 1000, .RO, 1, .psModularRoofList 0, .usFreAirDamper_Ang⟩,
  ⟨125, .uint16, 160, 350, .RO, 1, .psModularRoofList 0, .usCoolTempSet⟩,
  ⟨126, .uint16, 160, 350, .RO, 1, .psModularRoofList 0, .usHeatTempSet⟩,
  ⟨127, .int16, -400, 700, .RO, 1, .psModularRoofList 0, .sAmbientInSelf_T⟩,
  ⟨128, .int16, -400, 700, .RO, 1, .psModularRoofList 0, .sAmbientOutSelf_T⟩,
  ⟨129, .uint16, 0, 100, .RO, 1, .psModularRoofList 0, .usAmbientInSelf_H⟩,
  ⟨130, .uint16, 0, 100, .RO, 1, .psModularRoofList 0, .usAmbientOutSelf_H⟩,
  ⟨131, .uint8, 0, 5, .RO, 1, .psModularList 0 0, .ucModularState⟩,
  ⟨132, .uint8, 0, 5, .RO, 1, .psModularList 0 1, .ucModularState⟩,
  ⟨133, .uint8, 0, 5, .RO, 1, .psModularList 0 2, .ucModularState⟩,
  ⟨134, .uint8, 0, 5, .RO, 1, .psModularList 0 3, .ucModularState⟩,
  ⟨135, .uint16, 0, 65535, .RO, 1, .psModularRoofList 0, .usRunTime_H⟩,
  ⟨145, .uint8, 85, 170, .RW, 1, .psModularRoofList 1, .eSwitchCmd⟩,
  ⟨146, .uint8, 1, 4, .RO, 1, .psModularRoofList 1, .eRunningMode⟩,
  ⟨147, .uint8, 0, 3, .RO, 1, .psModularRoofList 1, .eFuncMode⟩,
  ⟨148, .uint16, 0, 5000, .RO, 1, .psModularRoofList 1, .usCO2PPMSelf⟩,
  ⟨149, .int16, -200, 1400, .RO, 1, .psModularRoofList 1, .sRetAir_T⟩,
  ⟨150, .int16, -200, 1400, .RO, 1, .psModularRoofList 1, .sSupAir_T⟩,
  ⟨151, .uint16, 0, 65000, .RO, 1, .psModularRoofList 1, .usRetAir_Vol⟩,
  ⟨152, .uint16, 0, 65000, .RO, 1, .psModularRoofList 1, .usSupAir_Vol⟩,
  ⟨153, .uint16, 0, 65000, .RO, 1, .psModularRoofList 1, .usFreAir_Vol⟩,
  ⟨154, .uint16, 0, 65000, .RW, 1, .psModularRoofList 1, .usFreAirSet_Vol⟩,
  ⟨156, .uint16, 0, 1000, .RO, 1, .psModularRoofList 1, .usFreAirDamper_Ang⟩,
  ⟨157, .uint16, 160, 350, .RO, 1, .psModularRoofList 1, .usCoolTempSet⟩,
  ⟨158, .uint16, 160, 350, .RO, 1, .psModularRoofList 1, .usHeatTempSet⟩,
  ⟨159, .int16, -400, 700, .RO, 1, .psModularRoofList 1, .sAmbientInSelf_T⟩,
  ⟨160, .int16, -400, 700, .RO, 1, .psModularRoofList 1, .sAmbientOutSelf_T⟩,
  ⟨161, .uint16, 0, 100, .RO, 1, .psModularRoofList 1, .usAmbientInSelf_H⟩,
  ⟨162, .uint16, 0, 100, .RO, 1, .psModularRoofList 1, .usAmbientOutSelf_H⟩,
  ⟨163, .uint8, 0, 5, .RO, 1, .psModularList 1 0, .ucModularState⟩,
  ⟨164, .uint8, 0, 5, .RO, 1, .psModularList 1 1, .ucModularState⟩,
  ⟨165, .uint8, 0, 5, .RO, 1, .psModularList 1 2, .ucModularState⟩,
  ⟨166, .uint8, 0, 5, .RO, 1, .psModularList 1 3, .ucModularState⟩,
  ⟨167, .uint16, 0, 65535, .RO, 1, .psModularRoofList 1, .usRunTime_H⟩,
  ⟨179, .uint16, 0, 500, .RO, 1, .psExAirFanList 0, .usRunningFreq⟩,
  ⟨181, .uint16, 0, 65535, .RO, 1, .psExAirFanList 0, .usRunTime_H⟩,
  ⟨191, .uint16, 0, 65535, .RO, 1, .psExAirFanList 1, .usRunTime_H⟩,
  ⟨201, .uint16, 0, 65535, .RO, 1, .psExAirFanList 2, .usRunTime_H⟩,
  ⟨211, .uint16, 0, 65535, .RO, 1, .psExAirFanList 3, .usRunTime_H⟩,
  ⟨235, .uint16, MIN_CO2_PPM, MAX_CO2_PPM, .RO, 1, .psCO2SenList 0, .usAvgCO2PPM⟩,
  ⟨236, .uint16, MIN_CO2_PPM, MAX_CO2_PPM, .RO, 1, .psCO2SenList 1, .usAvgCO2PPM⟩,
  ⟨237, .uint16, MIN_CO2_PPM, MAX_CO2_PPM, .RO, 1, .psCO2SenList 2, .usAvgCO2PPM⟩,
  ⟨241, .int16, MIN_OUT_TEMP, MAX_OUT_TEMP, .RO, 1, .psTempHumiSenOutList 0, .sAvgTemp⟩,
  ⟨242, .uint16, MIN_HUMI, MAX_HUMI, .RO, 1, .psTempHumiSenOutList 0, .usAvgHumi⟩,
  ⟨250, .int16, MIN_IN_TEMP, MAX_IN_TEMP, .RO, 1, .psTempHumiSenInList 0, .sAvgTemp⟩,
  ⟨251, .int16, MIN_IN_TEMP, MAX_IN_TEMP, .RO, 1, .psTempHumiSenInList 1, .sAvgTemp⟩,
  ⟨252, .int16, MIN_IN_TEMP, MAX_IN_TEMP, .RO, 1, .psTempHumiSenInList 2, .sAvgTemp⟩,
  ⟨253, .int16, MIN_IN_TEMP, MAX_IN_TEMP, .RO, 1, .psTempHumiSenInList 3, .sAvgTemp⟩,
  ⟨254, .int16, MIN_IN_TEMP, MAX_IN_TEMP, .RO, 1, .psTempHumiSenInList 4, .sAvgTemp⟩,
  ⟨255, .int16, MIN_IN_TEMP, MAX_IN_TEMP, .RO, 1, .psTempHumiSenInList 5, .sAvgTemp⟩,
  ⟨256, .int16, MIN_IN_TEMP, MAX_IN_TEMP, .RO, 1, .psTempHumiSenInList 6, .sAvgTemp⟩,
  ⟨257, .int16, MIN_IN_TEMP, MAX_IN_TEMP, .RO, 1, .psTempHumiSenInList 7, .sAvgTemp⟩,
  ⟨258, .int16, MIN_IN_TEMP, MAX_IN_TEMP, .RO, 1, .psTempHumiSenInList 8, .sAvgTemp⟩,
  ⟨259, .int16, MIN_IN_TEMP, MAX_IN_TEMP, .RO, 1, .psTempHumiSenInList 9, .sAvgTemp⟩,
  ⟨260, .int16, MIN_IN_TEMP, MAX_IN_TEMP, .RO, 1, .psTempHumiSenInList 10, .sAvgTemp⟩,
  ⟨261, .int16, MIN_IN_TEMP, MAX_IN_TEMP, .RO, 1, .psTempHumiSenInList 11, .sAvgTemp⟩,
  ⟨268, .uint16, MIN_HUMI, MAX_HUMI, .RO, 1, .psTempHumiSenInList 0, .usAvgHumi⟩,
  ⟨269, .uint16, MIN_HUMI, MAX_HUMI, .RO, 1, .psTempHumiSenInList 1, .usAvgHumi⟩,
  ⟨270, .uint16, MIN_HUMI, MAX_HUMI, .RO, 1, .psTempHumiSenInList 2, .usAvgHumi⟩,
  ⟨271, .uint16, MIN_HUMI, MAX_HUMI, .RO, 1, .psTempHumiSenInList 3, .usAvgHumi⟩,
  ⟨272, .uint16, MIN_HUMI, MAX_HUMI, .RO, 1, .psTempHumiSenInList 4, .usAvgHumi⟩,
  ⟨273, .uint16, MIN_HUMI, MAX_HUMI, .RO, 1, .psTempHumiSenInList 5, .usAvgHumi⟩,
  ⟨274, .uint16, MIN_HUMI, MAX_HUMI, .RO, 1, .psTempHumiSenInList 6, .usAvgHumi⟩,
  ⟨275, .uint16, MIN_HUMI, MAX_HUMI, .RO, 1, .psTempHumiSenInList 7, .usAvgHumi⟩,
  ⟨276, .uint16, MIN_HUMI, MAX_HUMI, .RO, 1, .psTempHumiSenInList 8, .usAvgHumi⟩,
  ⟨277, .uint16, MIN_HUMI, MAX_HUMI, .RO, 1, .psTempHumiSenInList 9, .usAvgHumi⟩,
  ⟨278, .uint16, MIN_HUMI, MAX_HUMI, .RO, 1, .psTempHumiSenInList 10, .usAvgHumi⟩,
  ⟨279, .uint16, MIN_HUMI, MAX_HUMI, .RO, 1, .psTempHumiSenInList 11, .usAvgHumi⟩,
  ⟨286, .uint16, 0, 65535, .RO, 1, .pUnitMeter, .usPower⟩,
  ⟨287, .uint16, 0, 65535, .RO, 1, .pUnitMeter, .usTotalEnergy_L⟩,
  ⟨288, .uint16, 0, 65535, .RO, 1, .pUnitMeter, .usTotalEnergy_H⟩,
  ⟨305, .uint16, 0, 65535, .RO, 1, .pExAirFanMeter, .usPower⟩,
  ⟨306, .uint16, 0, 65535, .RO, 1, .pExAirFanMeter, .usTotalEnergy_L⟩,
  ⟨307, .uint16, 0, 65535, .RO, 1, .pExAirFanMeter, .usTotalEnergy_H⟩]

def bmsCoils : List CoilRow := [
  ⟨4, .RW, .pThis, .xAlarmEnable⟩,
  ⟨5, .RW, .pThis, .xAlarmClean⟩,
  ⟨16, .RO, .pSystem, .xTempSenInErr⟩,
  ⟨17, .RO, .pSystem, .xHumiSenInErr⟩,
  ⟨18, .RO, .pSystem, .xCO2SenErr⟩,
  ⟨24, .RW, .psModularRoofList 0, .xErrClean⟩,
  ⟨25, .RO, .psModularRoofList 0, .eRunningState⟩,
  ⟨26, .RO, .psModularRoofList 0, .xStopErrFlag⟩,
  ⟨27, .RO, .psModularRoofList 0, .xErrFlag⟩,
  ⟨28, .RO, .psModularRoofList 0, .xAlarmFlag⟩,
  ⟨29, .RO, .psModularRoofList 0, .xCommErr⟩,
  ⟨30, .RO, .psSupAirFan 0, .eRunningState⟩,
  ⟨31, .RO, .psModularRoofList 0, .xSupAirDamperState⟩,
  ⟨32, .RO, .psModularRoofList 0, .xWetMode⟩,
  ⟨34, .RO, .psModularRoofList 0, .xRetAirSenErr⟩,
  ⟨35, .RO, .psModularRoofList 0, .xFreAirSenErr⟩,
  ⟨36, .RO, .psModularRoofList 0, .xCO2SenSelfErr_1⟩,
  ⟨37, .RO, .psModularRoofList 0, .xCO2SenSelfErr_2⟩,
  ⟨38, .RO, .psModularRoofList 0, .xTempSenInSelfErr⟩,
  ⟨39, .RO, .psModularRoofList 0, .xHumiSenInSelfErr⟩,
  ⟨48, .RO, .psCompList 0 0 0, .eRunningState⟩,
  ⟨49, .RO, .psCompList 0 0 1, .eRunningState⟩,
  ⟨50, .RO, .psAmbientOutFanList 0 0 0, .eRunningState⟩,
  ⟨51, .RO, .psAmbientOutFanList 0 0 1, .eRunningState⟩,
  ⟨52, .RO, .psModularList 0 0, .xTempSenOutErr⟩,
  ⟨53, .RO, .psModularList 0 0, .xHumiSenOutErr⟩,
  ⟨56, .RO, .psCompList 0 1 0, .eRunningState⟩,
  ⟨57, .RO, .psCompList 0 1 1, .eRunningState⟩,
  ⟨58, .RO, .psAmbientOutFanList 0 1 0, .eRunningState⟩,
  ⟨59, .RO, .psAmbientOutFanList 0 1 1, .eRunningState⟩,
  ⟨60, .RO, .psModularList 0 1, .xTempSenOutErr⟩,
  ⟨61, .RO, .psModularList 0 1, .xHumiSenOutErr⟩,
  ⟨64, .RO, .psCompList 0 2 0, .eRunningState⟩,
  ⟨65, .RO, .psCompList 0 2 1, .eRunningState⟩,
  ⟨66, .RO, .psAmbientOutFanList 0 2 0, .eRunningState⟩,
  ⟨67, .RO, .psAmbientOutFanList 0 2 1, .eRunningState⟩,
  ⟨68, .RO, .psModularList 0 2, .xTempSenOutErr⟩,
  ⟨69, .RO, .psModularList 0 2, .xHumiSenOutErr⟩,
  ⟨72, .RO, .psCompList 0 3 0, .eRunningState⟩,
  ⟨73, .RO, .psCompList 0 3 1, .eRunningState⟩,
  ⟨74, .RO, .psAmbientOutFanList 0 3 0, .eRunningState⟩,
  ⟨75, .RO, .psAmbientOutFanList 0 3 1, .eRunningState⟩,
  ⟨76, .RO, .psModularList 0 3, .xTempSenOutErr⟩,
  ⟨77, .RO, .psModularList 0 3, .xHumiSenOutErr⟩,
  ⟨88, .RW, .psModularRoofList 1, .xErrClean⟩,
  ⟨89, .RO, .psModularRoofList 1, .eRunningState⟩,
  ⟨90, .RO, .psModularRoofList 1, .xStopErrFlag⟩,
  ⟨91, .RO, .psModularRoofList 1, .xErrFlag⟩,
  ⟨92, .RO, .psModularRoofList 1, .xAlarmFlag⟩,
  ⟨93, .RO, .psModularRoofList 1, .xCommErr⟩,
  ⟨94, .RO, .psSupAirFan 1, .eRunningState⟩,
  ⟨95, .RO, .psModularRoofList 1, .xSupAirDamperState⟩,
  ⟨96, .RO, .psModularRoofList 1, .xWetMode⟩,
  ⟨98, .RO, .psModularRoofList 1, .xRetAirSenErr⟩,
  ⟨99, .RO, .psModularRoofList 1, .xFreAirSenErr⟩,
  ⟨100, .RO, .psModularRoofList 1, .xCO2SenSelfErr_1⟩,
  ⟨101, .RO, .psModularRoofList 1, .xCO2SenSelfErr_2⟩,
  ⟨102, .RO, .psModularRoofList 1, .xTempSenInSelfErr⟩,
  ⟨103, .RO, .psModularRoofList 1, .xHumiSenInSelfErr⟩,
  ⟨112, .RO, .psCompList 1 0 0, .eRunningState⟩,
  ⟨113, .RO, .psCompList 1 0 1, .eRunningState⟩,
  ⟨114, .RO, .psAmbientOutFanList 1 0 0, .eRunningState⟩,
  ⟨115, .RO, .psAmbientOutFanList 1 0 1, .eRunningState⟩,
  ⟨116, .RO, .psModularList 1 0, .xTempSenOutErr⟩,
  ⟨117, .RO, .psModularList 1 0, .xHumiSenOutErr⟩,
  ⟨120, .RO, .psCompList 1 1 0, .eRunningState⟩,
  ⟨121, .RO, .psCompList 1 1 1, .eRunningState⟩,
  ⟨122, .RO, .psAmbientOutFanList 1 1 0, .eRunningState⟩,
  ⟨123, .RO, .psAmbientOutFanList 1 1 1, .eRunningState⟩,
  ⟨124, .RO, .psModularList 1 1, .xTempSenOutErr⟩,
  ⟨125, .RO, .psModularList 1 1, .xHumiSenOutErr⟩,
  ⟨128, .RO, .psCompList 1 2 0, .eRunningState⟩,
  ⟨129, .RO, .psCompList 1 2 1, .eRunningState⟩,
  ⟨130, .RO, .psAmbientOutFanList 1 2 0, .eRunningState⟩,
  ⟨131, .RO, .psAmbientOutFanList 1 2 1, .eRunningState⟩,
  ⟨132, .RO, .psModularList 1 2, .xTempSenOutErr⟩,
  ⟨133, .RO, .psModularList 1 2, .xHumiSenOutErr⟩,
  ⟨136, .RO, .psCompList 1 3 0, .eRunningState⟩,
  ⟨137, .RO, .psCompList 1 3 1, .eRunningState⟩,
  ⟨138, .RO, .psAmbientOutFanList 1 3 0, .eRunningState⟩,
  ⟨139, .RO, .psAmbientOutFanList 1 3 1, .eRunningState⟩,
  ⟨140, .RO, .psModularList 1 3, .xTempSenOutErr⟩,
  ⟨141, .RO, .psModularList 1 3, .xHumiSenOutErr⟩,
  ⟨152, .RO, .pUnitMeter, .xOnLine⟩,
  ⟨154, .RW, .pThis, .xExAirFanErrClean⟩,
  ⟨160, .RW, .psExAirFanList 0, .eCtrlCmd⟩,
  ⟨161, .RO, .psExAirFanList 0, .xExAirFanErr⟩,
  ⟨162, .RO, .psExAirFanList 0, .eRunningState⟩,
  ⟨163, .RO, .psExAirFanList 0, .xExAirFanCtrlErr⟩,
  ⟨164, .RO, .psExAirFanList 0, .xExAirFanRemote⟩,
  ⟨168, .RW, .psExAirFanList 1, .eCtrlCmd⟩,
  ⟨169, .RO, .psExAirFanList 1, .xExAirFanErr⟩,
  ⟨170, .RO, .psExAirFanList 1, .eRunningState⟩,
  ⟨171, .RO, .psExAirFanList 1, .xExAirFanCtrlErr⟩,
  ⟨172, .RO, .psExAirFanList 1, .xExAirFanRemote⟩,
  ⟨176, .RW, .psExAirFanList 2, .eCtrlCmd⟩,
  ⟨177, .RO, .psExAirFanList 2, .xExAirFanErr⟩,
  ⟨178, .RO, .psExAirFanList 2, .eRunningState⟩,
  ⟨179, .RO, .psExAirFanList 2, .xExAirFanCtrlErr⟩,
  ⟨180, .RO, .psExAirFanList 2, .xExAirFanRemote⟩,
  ⟨184, .RW, .psExAirFanList 3, .eCtrlCmd⟩,
  ⟨185, .RO, .psExAirFanList 3, .xExAirFanErr⟩,
  ⟨186, .RO, .psExAirFanList 3, .eRunningState⟩,
  ⟨187, .RO, .psExAirFanList 3, .xExAirFanCtrlErr⟩,
  ⟨188, .RO, .psExAirFanList 3, .xExAirFanRemote⟩,
  ⟨192, .RO, .psCO2SenList 0, .xCO2SenErr⟩,
  ⟨193, .RO, .psCO2SenList 1, .xCO2SenErr⟩,
  ⟨194, .RO, .psCO2SenList 2, .xCO2SenErr⟩,
  ⟨200, .RO, .pSystem, .xTempSenOutErr⟩,
  ⟨201, .RO, .pSystem, .xHumiSenOutErr⟩,
  ⟨208, .RO, .psTempHumiSenInList 0, .xTempSenErr⟩,
  ⟨209, .RO, .psTempHumiSenInList 1, .xTempSenErr⟩,
  ⟨210, .RO, .psTempHumiSenInList 2, .xTempSenErr⟩,
  ⟨211, .RO, .psTempHumiSenInList 3, .xTempSenErr⟩,
  ⟨212, .RO, .psTempHumiSenInList 4, .xTempSenErr⟩,
  ⟨213, .RO, .psTempHumiSenInList 5, .xTempSenErr⟩,
  ⟨214, .RO, .psTempHumiSenInList 6, .xTempSenErr⟩,
  ⟨215, .RO, .psTempHumiSenInList 7, .xTempSenErr⟩,
  ⟨216, .RO, .psTempHumiSenInList 8, .xTempSenErr⟩,
  ⟨217, .RO, .psTempHumiSenInList 9, .xTempSenErr⟩,
  ⟨218, .RO, .psTempHumiSenInList 10, .xTempSenErr⟩,
  ⟨219, .RO, .psTempHumiSenInList 11, .xTempSenErr⟩,
  ⟨224, .RO, .psTempHumiSenInList 0, .xHumiSenErr⟩,
  ⟨225, .RO, .psTempHumiSenInList 1, .xHumiSenErr⟩,
  ⟨226, .RO, .psTempHumiSenInList 2, .xHumiSenErr⟩,
  ⟨227, .RO, .psTempHumiSenInList 3, .xHumiSenErr⟩,
  ⟨228, .RO, .psTempHumiSenInList 4, .xHumiSenErr⟩,
  ⟨229, .RO, .psTempHumiSenInList 5, .xHumiSenErr⟩,
  ⟨230, .RO, .psTempHumiSenInList 6, .xHumiSenErr⟩,
  ⟨231, .RO, .psTempHumiSenInList 7, .xHumiSenErr⟩,
  ⟨232, .RO, .psTempHumiSenInList 8, .xHumiSenErr⟩,
  ⟨233, .RO, .psTempHumiSenInList 9, .xHumiSenErr⟩,
  ⟨234, .RO, .psTempHumiSenInList 10, .xHumiSenErr⟩,
  ⟨235, .RO, .psTempHumiSenInList 11, .xHumiSenErr⟩]

/-- The cases of the `switch` for holding registers. -/
def bmsRegHoldIndex : List (USHORT × ℕ) := [
  (0, 0), (1, 1), (2, 2), (3, 3), (4, 4), (11, 5), (12, 6), (13, 7), (14, 8), (15, 9), (17, 10), (18, 11), (19, 12),
  (20, 13), (29, 14), (30, 15), (31, 16), (32, 17), (33, 18), (37, 19), (38, 20), (39, 21), (40, 22), (41, 23),
  (42, 24), (43, 25), (44, 26), (45, 27), (46, 28), (52, 29), (53, 30), (54, 31), (55, 32), (56, 33), (57, 34),
  (58, 35), (59, 36), (64, 37), (65, 38), (66, 39), (67, 40), (68, 41), (69, 42), (75, 43), (76, 44), (77, 45),
  (78, 46), (79, 47), (80, 48), (81, 49), (93, 50), (94, 51), (95, 52), (96, 53), (97, 54), (98, 55), (99, 56),
  (113, 57), (114, 58), (115, 59), (116, 60), (117, 61), (118, 62), (119, 63), (120, 64), (121, 65), (122, 66),
  (124, 67), (125, 68), (126, 69), (127, 70), (128, 71), (129, 72), (130, 73), (131, 74), (132, 75), (133, 76),
  (134, 77), (135, 78), (145, 79), (146, 80), (147, 81), (148, 82), (149, 83), (150, 84), (151, 85), (152, 86),
  (153, 87), (154, 88), (156, 89), (157, 90), (158, 91), (159, 92), (160, 93), (161, 94), (162, 95), (163, 96),
  (164, 97), (165, 98), (166, 99), (167, 100), (179, 101), (181, 102), (191, 103), (201, 104), (211, 105), (235, 106),
  (236, 107), (237, 108), (241, 109), (242, 110), (250, 111), (251, 112), (252, 113), (253, 114), (254, 115),
  (255, 116), (256, 117), (257, 118), (258, 119), (259, 120), (260, 121), (261, 122), (268, 123), (269, 124),
  (270, 125), (271, 126), (272, 127), (273, 128), (274, 129), (275, 130), (276, 131), (277, 132), (278, 133),
  (279, 134), (286, 135), (287, 136), (288, 137), (305, 138), (306, 139), (307, 140)]

/-- The cases of the `switch` for coils. -/
def bmsCoilIndex : List (USHORT × ℕ) := [
  (4, 0), (5, 1), (16, 2), (17, 3), (18, 4), (24, 5), (25, 6), (26, 7), (27, 8), (28, 9), (29, 10), (30, 11),
  (31, 12), (32, 13), (34, 14), (35, 15), (36, 16), (37, 17), (38, 18), (39, 19), (48, 20), (49, 21), (50, 22),
  (51, 23), (52, 24), (53, 25), (56, 26), (57, 27), (58, 28), (59, 29), (60, 30), (61, 31), (64, 32), (65, 33),
  (66, 34), (67, 35), (68, 36), (69, 37), (72, 38), (73, 39), (74, 40), (75, 41), (76, 42), (77, 43), (88, 44),
  (89, 45), (90, 46), (91, 47), (92, 48), (93, 49), (94, 50), (95, 51), (96, 52), (98, 53), (99, 54), (100, 55),
  (101, 56), (102, 57), (103, 58), (112, 59), (113, 60), (114, 61), (115, 62), (116, 63), (117, 64), (120, 65),
  (121, 66), (122, 67), (123, 68), (124, 69), (125, 70), (128, 71), (129, 72), (130, 73), (131, 74), (132, 75),
  (133, 76), (136, 77), (137, 78), (138, 79), (139, 80), (140, 81), (141, 82), (152, 83), (154, 84), (160, 85),
  (161, 86), (162, 87), (163, 88), (164, 89), (168, 90), (169, 91), (170, 92), (171, 93), (172, 94), (176, 95),
  (177, 96), (178, 97), (179, 98), (180, 99), (184, 100), (185, 101), (186, 102), (187, 103), (188, 104), (192, 105),
  (193, 106), (194, 107), (200, 108), (201, 109), (208, 110), (209, 111), (210, 112), (211, 113), (212, 114),
  (213, 115), (214, 116), (215, 117), (216, 118), (217, 119), (218, 120), (219, 121), (224, 122), (225, 123),
  (226, 124), (227, 125), (228, 126), (229, 127), (230, 128), (231, 129), (232, 130), (233, 131), (234, 132),
  (235, 133)]

/-- For the other kinds of data the index stays at 0. -/
def xBMS_DevDataMapIndex (eDataType : eDataType) (usAddr : USHORT) : Option ℕ :=
  match eDataType with
  | .RegHoldData => bmsRegHoldIndex.lookup usAddr
  | .CoilData => bmsCoilIndex.lookup usAddr
  | _ => some 0

/-- `sBMSCommData`; the table of the input registers is not initialised. -/
def vBMS_InitBMSCommData (L : Layout) : sMBSlaveCommData where
  sMBRegInTable := ⟨none, 0, 0, 0⟩
  sMBRegHoldTable :=
    vMBSlaveDevDataTableInit (bmsRegHold.map (RegHoldRow.init L)) ⟨0, 0, 0, 0, .other, .RW, none⟩ 0 307
  sMBCoilTable := vMBSlaveDevDataTableInit (bmsCoils.map (CoilRow.init L)) ⟨0, .RW, none⟩ 0 240
  pxSlaveDataMapIndex := some xBMS_DevDataMapIndex

/-! ### The map function and the tables -/

theorem bmsRegHold_agrees : Agrees (·.usAddr) bmsRegHold bmsRegHoldIndex :=
  .of_ascending BitVec.toNat (by decide +kernel) (by decide +kernel)

theorem bmsCoils_agrees : Agrees (·.usAddr) bmsCoils bmsCoilIndex :=
  .of_ascending BitVec.toNat (by decide +kernel) (by decide +kernel)

def bmsRow (x : USHORT) : Option RegHoldRow := (bmsRegHoldIndex.lookup x).bind fun i => bmsRegHold[i]?

theorem bmsRow_eq_some {x : USHORT} {r : RegHoldRow} : bmsRow x = some r ↔ r ∈ bmsRegHold ∧ r.usAddr = x := by
  constructor
  · intro h
    obtain ⟨i, hi, hr⟩ := Option.bind_eq_some_iff.mp h
    obtain ⟨r', hr', hkey⟩ := bmsRegHold_agrees.row hi
    obtain rfl := Option.some.inj (hr'.symm.trans hr)
    exact ⟨List.mem_of_getElem? hr', hkey⟩
  · rintro ⟨hr, rfl⟩
    obtain ⟨i, hi⟩ := List.mem_iff_getElem?.mp hr
    rw [bmsRow, bmsRegHold_agrees.lookup_key hi, Option.bind_some, hi]

variable (L : Layout)

/-- **A holding register is found at its address**, and no other address is mapped. -/
theorem regHold_bms (x : USHORT) : regHold (vBMS_InitBMSCommData L) x = (bmsRow x).map (RegHoldRow.init L) := by
  simp only [regHold, lookup, slaveMap, vBMS_InitBMSCommData, vMBSlaveDevDataTableInit, xBMS_DevDataMapIndex, bmsRow]
  cases hx : bmsRegHoldIndex.lookup x with
  | none => rfl
  | some i =>
    obtain ⟨r, hr, -⟩ := bmsRegHold_agrees.row hx
    simp [hr, List.getD_eq_getElem?_getD]

/-- **A coil is found at its address**, and no other address is mapped. -/
theorem coil_bms (x : USHORT) (e : sMBSlaveBitData) :
    coil (vBMS_InitBMSCommData L) x = some e ↔ ∃ r ∈ bmsCoils, r.usAddr = x ∧ r.init L = e := by
  simp only [coil, lookup, slaveMap, vBMS_InitBMSCommData, vMBSlaveDevDataTableInit, xBMS_DevDataMapIndex]
  cases hx : bmsCoilIndex.lookup x with
  | none =>
    have hno := bmsCoils_agrees.lookup_eq_none.mp hx
    constructor
    · rintro ⟨⟩
    · rintro ⟨r, hr, hkey, -⟩
      exact absurd hkey (hno r hr)
  | some i =>
    obtain ⟨r, hr, hkey⟩ := bmsCoils_agrees.row hx
    have hget : ((bmsCoils.map (CoilRow.init L))[i]?).getD ⟨0, .RW, none⟩ = r.init L := by
      simp [hr]
    dsimp only
    rw [List.getD_eq_getElem?_getD, hget, Option.some.injEq]
    constructor
    · rintro rfl
      exact ⟨r, List.mem_of_getElem? hr, hkey, rfl⟩
    · rintro ⟨r', hr', rfl, rfl⟩
      obtain ⟨j, hj⟩ := List.mem_iff_getElem?.mp hr'
      have hij := (bmsCoils_agrees.lookup_key hj).symm.trans hx
      rw [Option.some.inj hij, hr] at hj
      rw [Option.some.inj hj]

/-- What the entries have in common: the type of the variable, limits that fit it, no scaling, and a variable that no
other entry has. -/
theorem bmsRegHold_rows :
    (∀ r ∈ bmsRegHold, r.ucDataType = r.var.field.type ∧
      (r.ucDataType = .uint16 ∨ r.ucDataType = .int16 ∨ r.ucDataType = .uint8 ∧ r.usMaxVal.toNat ≤ 255) ∧
      r.ucTmitMult = 1 ∧ r.ucAccessMode ≠ .WO) ∧ (bmsRegHold.map (·.var)).Nodup := by
  decide +kernel

/-- **The holding registers round-trip.** -/
theorem holdTable_bms : HoldTable (vBMS_InitBMSCommData L) := by
  have hrow {x : USHORT} {e : sMBSlaveRegData} (h : regHold (vBMS_InitBMSCommData L) x = some e) :
      ∃ r ∈ bmsRegHold, r.usAddr = x ∧ r.init L = e := by
    rw [regHold_bms] at h
    obtain ⟨r, hr, he⟩ := Option.map_eq_some_iff.mp h
    exact ⟨r, (bmsRow_eq_some.mp hr).1, (bmsRow_eq_some.mp hr).2, he⟩
  constructor
  · intro x e h
    obtain ⟨r, -, hx, rfl⟩ := hrow h
    exact hx
  · intro x e h
    obtain ⟨r, -, -, rfl⟩ := hrow h
    exact ⟨_, rfl⟩
  · intro x e h
    obtain ⟨r, hr, -, rfl⟩ := hrow h
    exact (bmsRegHold_rows.1 r hr).2.1
  · intro x e h
    obtain ⟨r, hr, -, rfl⟩ := hrow h
    exact Or.inr (bmsRegHold_rows.1 r hr).2.2.1
  · intro x y e e' p p' h h' hne hp hp'
    obtain ⟨r, hr, -, rfl⟩ := hrow h
    obtain ⟨r', hr', -, rfl⟩ := hrow h'
    cases hp
    cases hp'
    -- two rows of different addresses have different variables
    have hvar : r.var ≠ r'.var := by
      intro heq
      exact hne (congrArg RegHoldRow.usAddr (List.inj_on_of_nodup_map bmsRegHold_rows.2 hr hr' heq))
    have hsep := L.separate r.var r'.var hvar
    rw [← (bmsRegHold_rows.1 r hr).1, ← (bmsRegHold_rows.1 r' hr').1] at hsep
    exact hsep

/-! ### Settings -/

/-- A row takes the word. -/
def RegHoldRow.Admits (r : RegHoldRow) (w : USHORT) : Prop :=
  r.ucAccessMode ≠ .RO ∧
    if r.ucDataType = .int16 then r.usMinVal.toInt ≤ w.toInt ∧ w.toInt ≤ r.usMaxVal.toInt
    else r.usMinVal.toNat ≤ w.toNat ∧ w.toNat ≤ r.usMaxVal.toNat

instance (r : RegHoldRow) (w : USHORT) : Decidable (r.Admits w) :=
  inferInstanceAs (Decidable (r.ucAccessMode ≠ .RO ∧
    if r.ucDataType = .int16 then r.usMinVal.toInt ≤ w.toInt ∧ w.toInt ≤ r.usMaxVal.toInt
    else r.usMinVal.toNat ≤ w.toNat ∧ w.toNat ≤ r.usMaxVal.toNat))

/-- Every row in the range from `a` on takes its word. -/
def Admitted (a : USHORT) (ws : List USHORT) : Prop :=
  ∀ k (hk : k < ws.length), ∀ r ∈ bmsRow (a + BitVec.ofNat 16 k), r.Admits ws[k]

instance (a : USHORT) (ws : List USHORT) : Decidable (Admitted a ws) :=
  inferInstanceAs (Decidable (∀ k (hk : k < ws.length), ∀ r ∈ bmsRow (a + BitVec.ofNat 16 k), r.Admits ws[k]))

/-- What a client is told that writes the words. -/
def verdict (a : USHORT) (ws : List USHORT) : eMBException :=
  if 1 ≤ ws.length ∧ ws.length ≤ 120 then
    if a.toNat + ws.length - 1 ≤ 307 then
      if Admitted a ws then .MB_EX_NONE else .MB_EX_ILLEGAL_DATA_VALUE
    else .MB_EX_ILLEGAL_DATA_ADDRESS
  else .MB_EX_ILLEGAL_DATA_VALUE

/-- The words as they are read back: where there is no row there is a zero. -/
def readBack (a : USHORT) (ws : List USHORT) : List USHORT :=
  ws.mapIdx fun k w => if (bmsRow (a + BitVec.ofNat 16 k)).isSome then w else 0

section Settings

variable {L : Layout} {a : USHORT} {ws : List USHORT} {vars vars' : Mem}

theorem tableCovers_bms (n : USHORT) :
    tableCovers (vBMS_InitBMSCommData L).sMBRegHoldTable a n ↔ a.toNat + n.toNat - 1 ≤ 307 := by
  have hcount : (bmsRegHold.map (RegHoldRow.init L)).length ≠ 0 := by
    rw [List.length_map]
    decide +kernel
  simp only [tableCovers, vBMS_InitBMSCommData, vMBSlaveDevDataTableInit, Option.isSome_some, ne_eq, hcount,
    not_false_eq_true, true_and, decide_eq_true_eq]
  exact ⟨fun h => h.2, fun h => ⟨Nat.zero_le a.toNat, h⟩⟩

theorem regHoldAssign_bms (hl : ws.length ≤ 65536) :
    (regHoldAssign (vBMS_InitBMSCommData L) ws a vars).1 = .MB_ENOERR ↔ Admitted a ws := by
  rw [regHoldAssign_ok_iff (holdTable_bms L) hl]
  constructor
  · intro h k hk r hr
    refine h k hk (r.init L) ?_
    rw [regHold_bms, Option.mem_def.mp hr, Option.map_some]
  · intro h k hk e he
    rw [regHold_bms] at he
    obtain ⟨r, hr, rfl⟩ := Option.map_eq_some_iff.mp he
    exact h k hk r hr

theorem varWord_bms (hl : ws.length ≤ 65536) (hok : Admitted a ws) {k : ℕ} (hk : k < ws.length) {r : RegHoldRow}
    (hr : bmsRow (a + BitVec.ofNat 16 k) = some r) :
    varWord (regHoldAssign (vBMS_InitBMSCommData L) ws a vars).2 (r.init L) (L.addr r.var) = ws[k] := by
  have he : regHold (vBMS_InitBMSCommData L) (a + BitVec.ofNat 16 k) = some (r.init L) := by
    rw [regHold_bms, hr, Option.map_some]
  exact (regHoldAssign_value (holdTable_bms L) hl ((regHoldAssign_bms hl).mpr hok) k hk _ _ he rfl).2.2

theorem regHoldWords_bms (hl : ws.length ≤ 65536) (hok : Admitted a ws) :
    regHoldWords (vBMS_InitBMSCommData L) (regHoldAssign (vBMS_InitBMSCommData L) ws a vars).2 ws.length a 0 =
      readBack a ws := by
  apply List.ext_getElem?
  intro k
  by_cases hk : k < ws.length
  · obtain ⟨v, hv⟩ := regHoldWords_get (vBMS_InitBMSCommData L)
      (regHoldAssign (vBMS_InitBMSCommData L) ws a vars).2 (i := a) (v := 0) hk
    rw [hv, readBack, List.getElem?_mapIdx, List.getElem?_eq_getElem hk, Option.map_some, regHold_bms]
    cases hr : bmsRow (a + BitVec.ofNat 16 k) with
    | none => rfl
    | some r =>
      have he : regHold (vBMS_InitBMSCommData L) (a + BitVec.ofNat 16 k) = some (r.init L) := by
        rw [regHold_bms, hr, Option.map_some]
      have hmode : (r.init L).ucAccessMode ≠ .WO := (bmsRegHold_rows.1 r (bmsRow_eq_some.mp hr).1).2.2.2
      rw [Option.map_some, regHoldRead_fst (holdTable_bms L) _ v he rfl, if_neg hmode, varWord_bms hl hok hk hr]
      rfl
  · rw [List.getElem?_eq_none (by rw [regHoldWords_length]; omega),
      List.getElem?_eq_none (by rw [readBack, List.length_mapIdx]; omega)]

theorem serve_write_bms (v : USHORT) (hl : ws.length ≤ 121) :
    ∃ y, serve (vBMS_InitBMSCommData L) v vars (.writeHolding a ws) = some y ∧ y.exception = verdict a ws ∧
      (verdict a ws = .MB_EX_NONE →
        y.body = MB_FUNC_WRITE_MULTIPLE_REGISTERS :: beBytes [a, BitVec.ofNat 16 ws.length] ∧
        y.vars = (regHoldAssign (vBMS_InitBMSCommData L) ws a vars).2) := by
  have hn : (BitVec.ofNat 16 ws.length).toNat = ws.length := by
    rw [BitVec.toNat_ofNat]
    omega
  have hcov := tableCovers_bms (L := L) (a := a) (BitVec.ofNat 16 ws.length)
  rw [hn] at hcov
  have hassign : (regHoldAssign (vBMS_InitBMSCommData L) ws a vars).1 = .MB_ENOERR ↔ Admitted a ws :=
    regHoldAssign_bms (by omega)
  simp only [serve, guarded, verdict]
  by_cases h1 : 1 ≤ ws.length ∧ ws.length ≤ 120
  · rw [if_pos h1, if_pos h1]
    by_cases h2 : a.toNat + ws.length - 1 ≤ 307
    · rw [if_pos (hcov.mpr h2), if_pos h2]
      refine ⟨_, rfl, ?_, fun _ => ⟨rfl, rfl⟩⟩
      by_cases h3 : Admitted a ws
      · rw [if_pos h3, hassign.mpr h3]
        rfl
      · rw [if_neg h3, (regHoldAssign_fst (vBMS_InitBMSCommData L) ws a vars).resolve_left (mt hassign.mp h3)]
        rfl
    · rw [if_neg (mt hcov.mp h2), if_neg h2]
      exact ⟨_, rfl, rfl, fun h => by cases h⟩
  · rw [if_neg h1, if_neg h1]
    exact ⟨_, rfl, rfl, fun h => by cases h⟩

theorem serve_read_bms (v : USHORT) (hl : 1 ≤ ws.length ∧ ws.length ≤ 120) (hcov : a.toNat + ws.length - 1 ≤ 307)
    (hok : Admitted a ws) (hvars : vars = (regHoldAssign (vBMS_InitBMSCommData L) ws a vars').2) :
    serve (vBMS_InitBMSCommData L) v vars (.readHolding a (BitVec.ofNat 16 ws.length)) =
      some ⟨.MB_EX_NONE, wordsResponse MB_FUNC_READ_HOLDING_REGISTER (readBack a ws), vars⟩ := by
  have hn : (BitVec.ofNat 16 ws.length).toNat = ws.length := by
    rw [BitVec.toNat_ofNat]
    omega
  have hc := tableCovers_bms (L := L) (a := a) (BitVec.ofNat 16 ws.length)
  rw [hn] at hc
  rw [serve, guarded, if_pos (by omega), if_pos (hc.mpr hcov), hn, hvars, regHoldWords_bms (by omega) hok]

theorem verdict_eq_none (h : verdict a ws = .MB_EX_NONE) :
    (1 ≤ ws.length ∧ ws.length ≤ 120) ∧ a.toNat + ws.length - 1 ≤ 307 ∧ Admitted a ws := by
  unfold verdict at h
  split at h
  · rename_i hlen
    split at h
    · rename_i hcov
      split at h
      · rename_i hadm
        exact ⟨hlen, hcov, hadm⟩
      · cases h
    · cases h
  · cases h

/-- The polls for the write and for the read of its range. -/
def writeRead (a : USHORT) (ws : List USHORT) (tid tid' v v' : USHORT) : List ServerEvent :=
  (Request.writeHolding a ws).polls tid v ++ (Request.readHolding a (BitVec.ofNat 16 ws.length)).polls tid' v'

theorem writeRead_ok {tid tid' v v' : USHORT} (hl : ws.length ≤ 121) : ∀ e ∈ writeRead a ws tid tid' v v', e.Ok := by
  intro e he
  simp only [writeRead, Request.polls, List.mem_append, List.mem_replicate] at he
  obtain ⟨-, rfl⟩ | ⟨-, rfl⟩ := he
  · refine ⟨?_, trivial, trivial⟩
    simp only [Request.pdu, writeRequest, List.length_cons, List.length_append, beBytes_length, List.length_nil]
    omega
  · refine ⟨by simp [Request.pdu, readRequest], trivial, ?_⟩
    have hn : (BitVec.ofNat 16 ws.length).toNat = ws.length := by
      rw [BitVec.toNat_ofNat]
      omega
    simp only [Request.Fits, hn]
    omega

theorem run_writeRead {cur : sMBSlaveCommData} {tid tid' v v' : USHORT} {y y' : Answer}
    (h : serve cur v vars (.writeHolding a ws) = some y)
    (h' : serve cur v' y.vars (.readHolding a (BitVec.ofNat 16 ws.length)) = some y') :
    run (serverStep cur) ⟨vars, .listening, []⟩ (writeRead a ws tid tid' v v') =
      some ⟨y'.vars, .listening, [(tid', y'.pdu MB_FUNC_READ_HOLDING_REGISTER),
        (tid, y.pdu MB_FUNC_WRITE_MULTIPLE_REGISTERS)]⟩ := by
  rw [writeRead, run_append, run_polls h, Option.bind_some, run_polls h']
  rfl

end Settings

def coilMapped (x : USHORT) : Prop := ∃ r ∈ bmsCoils, r.usAddr = x

instance (x : USHORT) : Decidable (coilMapped x) := inferInstanceAs (Decidable (∃ r ∈ bmsCoils, r.usAddr = x))

/-- The addresses behind the runs of consecutive coils. -/
def coilGaps : List USHORT :=
  [6, 19, 33, 40, 54, 62, 70, 78, 97, 104, 118, 126, 134, 142, 153, 155, 165, 173, 181, 189, 195, 202, 220, 236]

theorem coilGaps_unmapped : coilGaps.all (fun g => (bmsCoilIndex.lookup g).isNone) := by decide +kernel

theorem coilGaps_near : ∀ r ∈ bmsCoils,
    coilGaps.any fun g => r.usAddr.toNat ≤ g.toNat ∧ g.toNat < r.usAddr.toNat + 13 := by
  decide +kernel

theorem coil_gap (x : USHORT) : ∃ k < 13, ¬coilMapped (x + BitVec.ofNat 16 k) := by
  by_cases hx : coilMapped x
  · obtain ⟨r, hr, rfl⟩ := hx
    obtain ⟨g, hg, hnear⟩ := List.any_eq_true.mp (coilGaps_near r hr)
    obtain ⟨hle, hlt⟩ := of_decide_eq_true hnear
    refine ⟨g.toNat - r.usAddr.toNat, by omega, ?_⟩
    have hsum : r.usAddr + BitVec.ofNat 16 (g.toNat - r.usAddr.toNat) = g := by
      apply BitVec.eq_of_toNat_eq
      rw [BitVec.toNat_add, BitVec.toNat_ofNat]
      omega
    have hnone := Option.isNone_iff_eq_none.mp (List.all_eq_true.mp coilGaps_unmapped g hg)
    rw [hsum]
    rintro ⟨r', hr', hkey⟩
    exact bmsCoils_agrees.lookup_eq_none.mp hnone r' hr' hkey
  · exact ⟨0, by decide, by rwa [add_ofNat_zero]⟩

theorem coil_bms_none (L : Layout) (x : USHORT) : coil (vBMS_InitBMSCommData L) x = none ↔ ¬coilMapped x := by
  rw [Option.eq_none_iff_forall_not_mem]
  constructor
  · rintro h ⟨r, hr, hx⟩
    exact h (r.init L) ((coil_bms L x _).mpr ⟨r, hr, hx, rfl⟩)
  · rintro h e he
    obtain ⟨r, hr, hx, -⟩ := (coil_bms L x e).mp he
    exact h ⟨r, hr, hx⟩

theorem coil_bms_mode (L : Layout) {x : USHORT} {e : sMBSlaveBitData} (h : coil (vBMS_InitBMSCommData L) x = some e) :
    e.ucAccessMode ≠ .WO := by
  obtain ⟨r, hr, -, rfl⟩ := (coil_bms L x e).mp h
  have hall : ∀ r ∈ bmsCoils, r.ucAccessMode ≠ .WO := by decide +kernel
  exact hall r hr

theorem readableCoil_bms (L : Layout) (x : USHORT) :
    readableCoil (vBMS_InitBMSCommData L) x = true ↔ coilMapped x := by
  rw [readableCoil]
  cases he : coil (vBMS_InitBMSCommData L) x with
  | none => exact ⟨fun h => Bool.noConfusion h, fun h => absurd h ((coil_bms_none L x).mp he)⟩
  | some e =>
    have hx : coilMapped x := by
      obtain ⟨r, hr, hx, -⟩ := (coil_bms L x e).mp he
      exact ⟨r, hr, hx⟩
    exact ⟨fun _ => hx, fun _ => decide_eq_true (coil_bms_mode L he)⟩

/-- The loop over coils gets to its end, or to a null pointer. -/
theorem getRun_bms (L : Layout) (vars : Mem) (m : ℕ) (x : USHORT) :
    getRun (vBMS_InitBMSCommData L) vars m x =
      if ∀ k < m, coilMapped (x + BitVec.ofNat 16 k) then
        some (.MB_ENOERR, coilBits (vBMS_InitBMSCommData L) vars m x)
      else none := by
  set ok := readableCoil (vBMS_InitBMSCommData L) with hok
  have hmapped (y : USHORT) : ok y = true ↔ coilMapped y := readableCoil_bms L y
  rw [getRun_eq, ← hok]
  split
  · rename_i hm
    have hall : ∀ k < m, coilMapped (x + BitVec.ofNat 16 k) := fun k hk =>
      (hmapped _).mp ((le_leading.mp hm.ge).2 k hk)
    rw [if_pos hall]
    rfl
  · rename_i hm
    have hle : leading ok m x ≤ m := (le_leading.mp le_rfl).1
    have hstop : ¬coilMapped (x + BitVec.ofNat 16 (leading ok m x)) := by
      intro hx
      have hmore : leading ok m x + 1 ≤ leading ok m x := by
        refine le_leading.mpr ⟨by omega, fun j hj => ?_⟩
        rcases Nat.lt_succ_iff_lt_or_eq.mp hj with hj | rfl
        · exact (le_leading.mp le_rfl).2 j hj
        · exact (hmapped _).mpr hx
      omega
    rw [if_neg fun hall => hstop (hall _ (by omega)), (coil_bms_none L _).mpr hstop]
    rfl

/-- No read of a multiple of eight coils, and none of more than twelve, finds all its coils. -/
theorem readable_short {a : USHORT} {n : ℕ} (hn : 1 ≤ n)
    (h : ∀ k < runBits n, coilMapped (a + 1 + BitVec.ofNat 16 k)) : n ≤ 12 ∧ n % 8 ≠ 0 := by
  obtain ⟨k, hk, hno⟩ := coil_gap (a + 1)
  have hlt : runBits n ≤ k := not_lt.mp fun hlt => hno (h k hlt)
  have hle := (runBits_le n).1
  refine ⟨by omega, fun h8 => ?_⟩
  rw [runBits_of_dvd h8] at hlt
  omega

theorem serve_readCoils_bms (L : Layout) (vars : Mem) {a n : USHORT} (v : USHORT) (hn : 1 ≤ n.toNat)
    (hcov : (a + 1).toNat + n.toNat ≤ 241) :
    serve (vBMS_InitBMSCommData L) v vars (.readCoils a n) =
      if ∀ k < runBits n.toNat, coilMapped (a + 1 + BitVec.ofNat 16 k) then
        some ⟨.MB_EX_NONE, coilsResponse (coilBits (vBMS_InitBMSCommData L) vars n.toNat (a + 1)), vars⟩
      else none := by
  have hcovers : tableCovers (vBMS_InitBMSCommData L).sMBCoilTable (a + 1) n = true := by
    have hcount : (bmsCoils.map (CoilRow.init L)).length ≠ 0 := by
      rw [List.length_map]
      decide +kernel
    simp only [tableCovers, vBMS_InitBMSCommData, vMBSlaveDevDataTableInit, Option.isSome_some, ne_eq, hcount,
      not_false_eq_true, true_and, decide_eq_true_eq]
    exact ⟨Nat.zero_le _, show (a + 1).toNat + n.toNat - 1 ≤ 240 by omega⟩
  rw [serve, guarded, if_pos (by omega), if_pos hcovers, getRun_bms]
  split
  · rename_i hall
    have hruns : runBits n.toNat = n.toNat := if_neg (readable_short hn hall).2
    have hlen : (coilBits (vBMS_InitBMSCommData L) vars n.toNat (a + 1)).length ≤ n.toNat := by
      rw [coilBits_length]
      exact (le_leading.mp le_rfl).1
    rw [hruns, Option.map_some]
    dsimp only
    rw [List.take_of_length_le hlen]
    rfl
  · rfl

section Witness

/-- An object by the place of its list and its positions there. -/
def Object.code : Object → ℕ × ℕ × ℕ × ℕ
  | .pThis => (0, 0, 0, 0)
  | .pSystem => (1, 0, 0, 0)
  | .pUnitMeter => (2, 0, 0, 0)
  | .pExAirFanMeter => (3, 0, 0, 0)
  | .psModularRoofList n => (4, n, 0, 0)
  | .psSupAirFan n => (5, n, 0, 0)
  | .psModularList n m => (6, n, m, 0)
  | .psCompList n m i => (7, n, m, i)
  | .psAmbientOutFanList n m i => (8, n, m, i)
  | .psExAirFanList n => (9, n, 0, 0)
  | .psCO2SenList n => (10, n, 0, 0)
  | .psTempHumiSenOutList n => (11, n, 0, 0)
  | .psTempHumiSenInList n => (12, n, 0, 0)

def Object.ofCode : ℕ × ℕ × ℕ × ℕ → Object
  | (0, _) => .pThis
  | (1, _) => .pSystem
  | (2, _) => .pUnitMeter
  | (3, _) => .pExAirFanMeter
  | (4, n, _) => .psModularRoofList n
  | (5, n, _) => .psSupAirFan n
  | (6, n, m, _) => .psModularList n m
  | (7, n, m, i) => .psCompList n m i
  | (8, n, m, i) => .psAmbientOutFanList n m i
  | (9, n, _) => .psExAirFanList n
  | (10, n, _) => .psCO2SenList n
  | (11, n, _) => .psTempHumiSenOutList n
  | (_, n, _) => .psTempHumiSenInList n

theorem Object.ofCode_code (o : Object) : Object.ofCode o.code = o := by cases o <;> rfl

/-- Every variable at two bytes of its own. -/
def Var.place (v : Var) : ℕ := Encodable.encode (v.object.code, v.field.ctorIdx)

theorem Var.place_injective : Function.Injective Var.place := by
  rintro ⟨o, f⟩ ⟨o', f'⟩ h
  obtain ⟨ho, hf⟩ := Prod.mk.inj (Encodable.encode_injective h)
  congr
  · rw [← Object.ofCode_code o, ho, Object.ofCode_code]
  · rw [← Field.ofNat_ctorIdx f, hf, Field.ofNat_ctorIdx]

def wideLayout : Layout where
  addr v := 2 * v.place
  separate u v huv := by
    have hplace : u.place ≠ v.place := fun h => huv (Var.place_injective h)
    have hsize (t : DataType) : t.size ≤ 2 := by cases t <;> decide
    have hu := hsize u.field.type
    have hv := hsize v.field.type
    rw [Set.disjoint_left]
    rintro b ⟨h1, h2⟩ ⟨h3, h4⟩
    omega

end Witness

end GreeIntense.Device

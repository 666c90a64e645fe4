import GreeIntense.Control.UnitCtrl

/-!
# The system mode and the settings (`systemctrl.c`, and the settings of `fanctrl.c` and `system.c`)

The handlers of the variables the building management system writes.  Most take over the new value and
control the devices by it; `vSystem_ChangeSystemMode` and the handlers of the two volumes can refuse it, and
then write the old value back.
-/

namespace GreeIntense.Control

open Os

/-! ### The system mode -/

def vSystem_SwitchOpen (s : System) : System := vSystem_OpenUnits s

def vSystem_SwitchClose (s : System) : System := vSystem_CloseUnits (vSystem_CloseExAirFans s)

def anyRemote (s : System) : Bool := fans.any fun n => (s.fan n).xExAirFanRemote

/-- A refused request is taken back in the `BMS`. -/
def refuseMode (s : System) : System := { s with psBMS := { s.psBMS with eSystemMode := s.eSystemMode } }

/-- The running mode the units start with. -/
def startMode (s : System) : System :=
  if s.eSystemState = .STATE_CLOSED ∨ s.eSystemState = .STATE_EX_FAN then
    vSystem_SetUnitRunningMode (if warmer s.usTempSet 0 s then .RUN_MODE_FAN else .RUN_MODE_HEAT) s
  else s

@[simp] theorem vSystem_SwitchOpen_kept (s : System) : (vSystem_SwitchOpen s).kept = s.kept :=
  vSystem_OpenUnits_kept s

@[simp] theorem vSystem_SwitchClose_kept (s : System) : (vSystem_SwitchClose s).kept = s.kept :=
  (vSystem_CloseUnits_kept _).trans (vSystem_CloseExAirFans_kept s)

@[simp] theorem startMode_kept (s : System) : (startMode s).kept = s.kept := by
  simp [startMode]

def vSystem_ChangeSystemMode (eMode : eSystemMode) (s : System) : System :=
  if s.eSystemMode = eMode then s
  else
    match eMode with
    | .MODE_AUTO =>
      if anyRemote s = false ∨ s.xUnitErrFlag = true ∨ s.xExFanErrFlag = true then refuseMode s
      else vSystem_ExAirFanCtrl (startMode (vSystem_SwitchOpen { s with eSystemMode := .MODE_AUTO }))
    | .MODE_CLOSE => vSystem_SwitchClose { s with eSystemMode := .MODE_CLOSE }
    | .MODE_MANUAL => { s with eSystemMode := .MODE_MANUAL }
    | .MODE_EMERGENCY =>
      if s.xUnitErrFlag = true then refuseMode s
      else
        let s := vSystem_SwitchOpen { s with eSystemMode := .MODE_EMERGENCY }
        vSystem_ExAirFanCtrl (vSystem_SetUnitRunningMode .RUN_MODE_FAN s)

/-! ### The fresh air -/

abbrev MAX_FRE_AIR_SET_VOL : ULONG := 130000
abbrev MAX_EX_FAN_RATED_VOL : ULONG := 100000

/-- The volume in two words. -/
def volume (usVol_H usVol_L : USHORT) : ULONG := usVol_H.setWidth 32 * 65535 + usVol_L.setWidth 32

/-- The fresh air of the system, written to the `BMS`. -/
def writeFreAir (s : System) : System :=
  { s with psBMS := { s.psBMS with
      usFreAirSet_Vol_L := (s.ulFreAirSet_Vol % 65535).setWidth 16
      usFreAirSet_Vol_H := (s.ulFreAirSet_Vol / 65535).setWidth 16 } }

/-- The only unit left takes all the fresh air, up to what a unit can. -/
def oneUnitFreAir (n : Fin MODULAR_ROOF_NUM) (s : System) : System :=
  if s.ulFreAirSet_Vol > BitVec.ofNat 32 MODULAR_MAX_FRE_AIR_VOL then
    let s := s.setUnit n { s.unit n with usFreAirSet_Vol := BitVec.ofNat 16 MODULAR_MAX_FRE_AIR_VOL }
    writeFreAir { s with ulFreAirSet_Vol := BitVec.ofNat 32 MODULAR_MAX_FRE_AIR_VOL }
  else s.setUnit n { s.unit n with usFreAirSet_Vol := s.ulFreAirSet_Vol.setWidth 16 }

/-- All units take the same share of the fresh air. -/
def allUnitsFreAir (s : System) : System :=
  let usFreAirSet_Vol : USHORT := (s.ulFreAirSet_Vol / BitVec.ofNat 32 MODULAR_ROOF_NUM).setWidth 16
  units.foldl (fun s n => s.setUnit n { s.unit n with usFreAirSet_Vol := usFreAirSet_Vol }) s

/-- The fresh air is shared by the usable units; of several the last one counts as the only one. -/
def shareFreAir (s : System) : System :=
  match (units.filter (unitUsable s)).getLast? with
  | none => s
  | some n => if (units.filter (unitUsable s)).length < MODULAR_ROOF_NUM then oneUnitFreAir n s else allUnitsFreAir s

def vSystem_SetFreAir (usFreAirSet_Vol_H usFreAirSet_Vol_L : USHORT) (s : System) : System :=
  let ulFreAirSet_Vol := volume usFreAirSet_Vol_H usFreAirSet_Vol_L
  if ulFreAirSet_Vol > MAX_FRE_AIR_SET_VOL then writeFreAir s
  else if s.ulFreAirSet_Vol = ulFreAirSet_Vol then s
  else vSystem_ExAirSet_Vol (shareFreAir { s with ulFreAirSet_Vol := ulFreAirSet_Vol })

/-- `vSystem_FreshFreAir`.  The argument is what several units share; a single one takes the fresh air of the
system. -/
def vSystem_FreshFreAir (ulFreAirSet_Vol : ULONG) (s : System) : System :=
  match (units.filter (unitUsable s)).getLast? with
  | none => s
  | some n =>
    if (units.filter (unitUsable s)).length < MODULAR_ROOF_NUM then
      let usFreAirSet_Vol : USHORT :=
        if s.ulFreAirSet_Vol > BitVec.ofNat 32 MODULAR_MAX_FRE_AIR_VOL then BitVec.ofNat 16 MODULAR_MAX_FRE_AIR_VOL
        else s.ulFreAirSet_Vol.setWidth 16
      s.setUnit n { s.unit n with usFreAirSet_Vol := usFreAirSet_Vol }
    else
      let usFreAirSet_Vol : USHORT := (ulFreAirSet_Vol / BitVec.ofNat 32 MODULAR_ROOF_NUM).setWidth 16
      units.foldl (fun s n => s.setUnit n { s.unit n with usFreAirSet_Vol := usFreAirSet_Vol }) s

/-! ### The other settings -/

def vSystem_SetTemp (usTempSet : USHORT) (s : System) : System :=
  if s.usTempSet ≠ usTempSet then
    vSystem_ChangeUnitRunningMode (setUnitTemps usTempSet { s with usTempSet := usTempSet })
  else s

/-- `vSystem_ExAirRatio`.  The cool ratio is compared and set twice, the heat ratio never. -/
def vSystem_ExAirRatio (ucExAirCoolRatio _ucExAirHeatRatio : UCHAR) (s : System) : System :=
  if s.ucExAirCoolRatio ≠ ucExAirCoolRatio ∨ s.ucExAirCoolRatio ≠ ucExAirCoolRatio then
    let s := { s with ucExAirCoolRatio := ucExAirCoolRatio }
    vSystem_ExAirSet_Vol { s with ucExAirCoolRatio := ucExAirCoolRatio }
  else s

def vSystem_SetHumidity (usHumidityMin usHumidityMax : USHORT) (s : System) : System :=
  units.foldl
    (fun s n => s.setUnit n { s.unit n with usHumidityMin := usHumidityMin, usHumidityMax := usHumidityMax })
    { s with usHumidityMin := usHumidityMin, usHumidityMax := usHumidityMax }

def vSystem_SetCO2AdjustThr_V (usCO2AdjustThr_V : USHORT) (s : System) : System :=
  if s.usCO2AdjustThr_V ≠ usCO2AdjustThr_V then
    vSystem_ExAirFanCtrl
      (units.foldl (fun s n => s.setUnit n { s.unit n with usCO2AdjustThr_V := usCO2AdjustThr_V })
        { s with usCO2AdjustThr_V := usCO2AdjustThr_V })
  else s

def vSystem_SetCO2AdjustDeviat (usCO2AdjustDeviat : USHORT) (s : System) : System :=
  units.foldl (fun s n => s.setUnit n { s.unit n with usCO2AdjustDeviat := usCO2AdjustDeviat })
    { s with usCO2AdjustDeviat := usCO2AdjustDeviat }

def setFreq (usFreq : USHORT) (s : System) : System :=
  { s with usExAirFanFreq := usFreq, psBMS := { s.psBMS with usExAirFanFreq := usFreq } }

/-- The range of the variable fans. -/
def setFreqRanges (usMinFreq usMaxFreq : USHORT) (s : System) : System :=
  fans.foldl
    (fun s n =>
      if (s.fan n).eFanFreqType = .VARIABLE_FREQ then vExFan_SetFreqRange n usMinFreq usMaxFreq s else s) s

@[simp] theorem setFreqRanges_kept (usMinFreq usMaxFreq : USHORT) (s : System) :
    (setFreqRanges usMinFreq usMaxFreq s).kept = s.kept :=
  kept_of_fanless (foldl_kept System.fanless (fun s n => by simp) fans s)

def vSystem_SetExAirFanFreqRange (usMinFreq usMaxFreq : USHORT) (s : System) : System :=
  let s := { s with usExAirFanMinFreq := usMinFreq, usExAirFanMaxFreq := usMaxFreq }
  let s := if s.usExAirFanFreq < usMinFreq then setFreq usMinFreq s else s
  let s := if s.usExAirFanFreq > usMaxFreq then setFreq usMaxFreq s else s
  setFreqRanges usMinFreq usMaxFreq s

/-- `ExAirFanVariate`: the first fan as a variable one. -/
def ExAirFanVariate : sFanInfo := ⟨.VARIABLE_FREQ, 0, 500, 1, 1⟩

/-- `ExAirFanSet[0]`: the first fan as a constant one. -/
def ExAirFanSet_0 : sFanInfo := ⟨.CONSTANT_FREQ, 0, 0, 0, 1⟩

def vSystem_ChangeExAirFanType (eExAirFanType : eExAirFanType) (s : System) : System :=
  let s := { s with eExAirFanType := eExAirFanType }
  match eExAirFanType with
  | .TYPE_CONSTANT_VARIABLE => { vExAirFan_ChangeFreqType 0 ExAirFanVariate s with pExAirFanVariate := some 0 }
  | .TYPE_CONSTANT => { vExAirFan_ChangeFreqType 0 ExAirFanSet_0 s with pExAirFanVariate := none }

def vSystem_SetExAirFanCtrlPeriod (usExAirFanCtrlPeriod : USHORT) (s : System) : System :=
  if s.usExAirFanCtrlPeriod ≠ usExAirFanCtrlPeriod then
    vSystem_ExAirFanCtrl { s with usExAirFanCtrlPeriod := usExAirFanCtrlPeriod }
  else s

/-- `vSystem_SetExAirFanRated`.  A refused volume is written back with the words exchanged. -/
def vSystem_SetExAirFanRated (usExAirFanRated_Vol_H usExAirFanRated_Vol_L : USHORT) (s : System) : System :=
  let ulExAirFanRated_Vol := volume usExAirFanRated_Vol_H usExAirFanRated_Vol_L
  if ulExAirFanRated_Vol > MAX_EX_FAN_RATED_VOL then
    { s with psBMS := { s.psBMS with
        usExAirFanRated_Vol_H := (s.ulExAirFanRated_Vol % 65535).setWidth 16
        usExAirFanRated_Vol_L := (s.ulExAirFanRated_Vol / 65535).setWidth 16 } }
  else vSystem_ExAirFanCtrl { s with ulExAirFanRated_Vol := ulExAirFanRated_Vol }

/-- The faults of the fans are taken back. -/
def cleanFans (s : System) : System :=
  fans.foldl (fun s n => s.setFan n { s.fan n with xExAirFanErr := false, xExAirFanCtrlErr := false }) s

@[simp] theorem cleanFans_kept (s : System) : (cleanFans s).kept = s.kept :=
  foldl_kept System.kept (fun s n => setFan_kept n _ s) fans s

def vSystem_ExAirFanErrClean (s : System) : System :=
  if s.psBMS.xExAirFanErrClean = false then s
  else
    let s := cleanFans s
    { s with psBMS := { s.psBMS with xExAirFanErrClean := false } }

end GreeIntense.Control

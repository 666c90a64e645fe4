import GreeIntense.Control.Handlers

/-!
# After a setting event the two sides agree

The building management system writes a setting of `BMS`; the event task calls the handler, which takes the
value over into `System` or writes the old value back.  Here for each handler what it makes of the settings on
both sides, and from it the exact condition under which the two agree afterwards.

A volume is in two words in `BMS`, with the base 65535.  Three handlers can miss: `vSystem_ExAirRatio` never
takes over the heat ratio, `vSystem_SetExAirFanRated` writes a refused volume back with the words exchanged, and
`vSystem_AdjustExAirFanFreq` returns early without a variable fan and leaves the new frequency in `BMS`.
-/

namespace GreeIntense.Control

/-! ### Volumes in two words -/

/-- The volume is the one of the two words. -/
def VolumeOf (ulVol : ULONG) (usVol_H usVol_L : USHORT) : Prop := ulVol.toNat = usVol_H.toNat * 65535 + usVol_L.toNat

theorem volume_toNat (usVol_H usVol_L : USHORT) :
    (volume usVol_H usVol_L).toNat = usVol_H.toNat * 65535 + usVol_L.toNat := by
  have hH := usVol_H.isLt
  have hL := usVol_L.isLt
  rw [volume, BitVec.toNat_add, BitVec.toNat_mul, BitVec.toNat_setWidth, BitVec.toNat_setWidth,
    show (65535 : ULONG).toNat = 65535 from rfl]
  omega

theorem volumeOf_volume (usVol_H usVol_L : USHORT) : VolumeOf (volume usVol_H usVol_L) usVol_H usVol_L :=
  volume_toNat usVol_H usVol_L

theorem quotient_toNat (ulVol : ULONG) : (ulVol / 65535).toNat = ulVol.toNat / 65535 := by
  simp [BitVec.toNat_udiv]

theorem remainder_toNat (ulVol : ULONG) : (ulVol % 65535).toNat = ulVol.toNat % 65535 := by
  simp [BitVec.toNat_umod]

/-- A volume is the one of its quotient and remainder where the quotient fits a word. -/
theorem volumeOf_words (ulVol : ULONG) :
    VolumeOf ulVol ((ulVol / 65535).setWidth 16) ((ulVol % 65535).setWidth 16) ↔ ulVol / 65535 < 65536 := by
  have h := ulVol.isLt
  rw [VolumeOf, BitVec.lt_def, BitVec.toNat_setWidth, BitVec.toNat_setWidth, quotient_toNat, remainder_toNat,
    show (65536 : ULONG).toNat = 65536 from rfl]
  omega

/-- With the words exchanged it is only where the two are the same. -/
theorem volumeOf_exchanged (ulVol : ULONG) :
    VolumeOf ulVol ((ulVol % 65535).setWidth 16) ((ulVol / 65535).setWidth 16) ↔ ulVol % 65535 = ulVol / 65535 := by
  have h := ulVol.isLt
  rw [VolumeOf, ← BitVec.toNat_inj, BitVec.toNat_setWidth, BitVec.toNat_setWidth, quotient_toNat, remainder_toNat]
  -- a quotient that does not fit is larger than every remainder, and so is what is left of the volume
  have hr : ulVol.toNat % 65535 % 2 ^ 16 = ulVol.toNat % 65535 := by omega
  rw [hr]
  rcases lt_or_ge (ulVol.toNat / 65535) 65536 with hq | hq <;> omega

/-! ### What each handler makes of the settings -/

section Handlers

variable (s : System)

theorem vSystem_SetTemp_settings (usTempSet : USHORT) :
    (vSystem_SetTemp usTempSet s).settings = ({ s.toSettings with usTempSet := usTempSet }, s.psBMS.toBMSSettings) := by
  unfold vSystem_SetTemp
  by_cases h : s.usTempSet = usTempSet
  · rw [if_neg (not_not_intro h), ← h]
    rfl
  · rw [if_pos h]
    refine (settings_of_kept (vSystem_ChangeUnitRunningMode_kept _)).trans ?_
    exact (settings_of_kept (setUnitTemps_kept _ _)).trans rfl

theorem vSystem_ExAirRatio_settings (ucExAirCoolRatio ucExAirHeatRatio : UCHAR) :
    (vSystem_ExAirRatio ucExAirCoolRatio ucExAirHeatRatio s).settings =
      ({ s.toSettings with ucExAirCoolRatio := ucExAirCoolRatio }, s.psBMS.toBMSSettings) := by
  unfold vSystem_ExAirRatio
  by_cases h : s.ucExAirCoolRatio = ucExAirCoolRatio
  · rw [if_neg (by simp [h]), ← h]
    rfl
  · rw [if_pos (Or.inl h)]
    exact (settings_of_kept (vSystem_ExAirSet_Vol_kept _)).trans rfl

theorem vSystem_SetHumidity_settings (usHumidityMin usHumidityMax : USHORT) :
    (vSystem_SetHumidity usHumidityMin usHumidityMax s).settings =
      ({ s.toSettings with usHumidityMin := usHumidityMin, usHumidityMax := usHumidityMax }, s.psBMS.toBMSSettings) :=
  (foldl_kept System.settings (fun s n => settings_of_kept (setUnit_kept n _ s)) units _).trans rfl

theorem vSystem_SetCO2AdjustThr_V_settings (usCO2AdjustThr_V : USHORT) :
    (vSystem_SetCO2AdjustThr_V usCO2AdjustThr_V s).settings =
      ({ s.toSettings with usCO2AdjustThr_V := usCO2AdjustThr_V }, s.psBMS.toBMSSettings) := by
  unfold vSystem_SetCO2AdjustThr_V
  by_cases h : s.usCO2AdjustThr_V = usCO2AdjustThr_V
  · rw [if_neg (not_not_intro h), ← h]
    rfl
  · rw [if_pos h]
    refine (settings_of_kept (vSystem_ExAirFanCtrl_kept _)).trans ?_
    exact (foldl_kept System.settings (fun s n => settings_of_kept (setUnit_kept n _ s)) units _).trans rfl

theorem vSystem_SetCO2AdjustDeviat_settings (usCO2AdjustDeviat : USHORT) :
    (vSystem_SetCO2AdjustDeviat usCO2AdjustDeviat s).settings =
      ({ s.toSettings with usCO2AdjustDeviat := usCO2AdjustDeviat }, s.psBMS.toBMSSettings) :=
  (foldl_kept System.settings (fun s n => settings_of_kept (setUnit_kept n _ s)) units _).trans rfl

theorem vSystem_SetExAirFanFreqRange_settings (usMinFreq usMaxFreq : USHORT) :
    (vSystem_SetExAirFanFreqRange usMinFreq usMaxFreq s).settings =
      ({ s.toSettings with usExAirFanMinFreq := usMinFreq, usExAirFanMaxFreq := usMaxFreq },
        s.psBMS.toBMSSettings) := by
  refine (settings_of_kept (setFreqRanges_kept usMinFreq usMaxFreq _)).trans ?_
  dsimp only
  split <;> split <;> rfl

theorem vSystem_ChangeExAirFanType_settings (eExAirFanType : eExAirFanType) :
    (vSystem_ChangeExAirFanType eExAirFanType s).settings =
      ({ s.toSettings with eExAirFanType := eExAirFanType }, s.psBMS.toBMSSettings) := by
  cases eExAirFanType with
  | TYPE_CONSTANT =>
    exact (settings_of_kept (kept_of_fanless
      (vExAirFan_ChangeFreqType_fanless 0 { s with eExAirFanType := .TYPE_CONSTANT } ExAirFanSet_0)))
  | TYPE_CONSTANT_VARIABLE =>
    exact (settings_of_kept
      (kept_of_fanless
        (vExAirFan_ChangeFreqType_fanless 0 { s with eExAirFanType := .TYPE_CONSTANT_VARIABLE } ExAirFanVariate)))

theorem vSystem_SetExAirFanCtrlPeriod_settings (usExAirFanCtrlPeriod : USHORT) :
    (vSystem_SetExAirFanCtrlPeriod usExAirFanCtrlPeriod s).settings =
      ({ s.toSettings with usExAirFanCtrlPeriod := usExAirFanCtrlPeriod }, s.psBMS.toBMSSettings) := by
  unfold vSystem_SetExAirFanCtrlPeriod
  by_cases h : s.usExAirFanCtrlPeriod = usExAirFanCtrlPeriod
  · rw [if_neg (not_not_intro h), ← h]
    rfl
  · rw [if_pos h]
    exact (settings_of_kept (vSystem_ExAirFanCtrl_kept _)).trans rfl

theorem vSystem_SetExAirFanRated_settings (usVol_H usVol_L : USHORT) :
    (vSystem_SetExAirFanRated usVol_H usVol_L s).settings =
      if volume usVol_H usVol_L > MAX_EX_FAN_RATED_VOL then
        (s.toSettings, { s.psBMS.toBMSSettings with
          usExAirFanRated_Vol_H := (s.ulExAirFanRated_Vol % 65535).setWidth 16
          usExAirFanRated_Vol_L := (s.ulExAirFanRated_Vol / 65535).setWidth 16 })
      else ({ s.toSettings with ulExAirFanRated_Vol := volume usVol_H usVol_L }, s.psBMS.toBMSSettings) := by
  unfold vSystem_SetExAirFanRated
  dsimp only
  split
  · rfl
  · exact (settings_of_kept (vSystem_ExAirFanCtrl_kept _)).trans rfl

/-- Sharing the fresh air leaves the settings, or lowers the fresh air on both sides. -/
theorem shareFreAir_settings :
    (shareFreAir s).settings = s.settings ∨
      (shareFreAir s).settings =
        (writeFreAir { s with ulFreAirSet_Vol := BitVec.ofNat 32 MODULAR_MAX_FRE_AIR_VOL }).settings := by
  unfold shareFreAir
  split
  · exact Or.inl rfl
  · next n _ =>
    split
    · unfold oneUnitFreAir
      split
      · exact Or.inr rfl
      · exact Or.inl rfl
    · exact Or.inl (foldl_kept System.settings (fun s n => settings_of_kept (setUnit_kept n _ s)) units s)

end Handlers

/-! ### The settings -/

/-- The settings of the building management system; some have two variables. -/
inductive Setting
  | temp | freAir | exAirRatio | humidity | co2AdjustThr | co2AdjustDeviat
  | exAirFanFreq | exAirFanFreqRange | exAirFanType | exAirFanCtrlPeriod | exAirFanRated
  deriving DecidableEq, Repr

/-- The variables of a setting, whose changes are its events. -/
def Setting.vars : Setting → List BMSVar
  | .temp => [.usTempSet]
  | .freAir => [.usFreAirSet_Vol_H, .usFreAirSet_Vol_L]
  | .exAirRatio => [.ucExAirCoolRatio, .ucExAirHeatRatio]
  | .humidity => [.usHumidityMin, .usHumidityMax]
  | .co2AdjustThr => [.usCO2AdjustThr_V]
  | .co2AdjustDeviat => [.usCO2AdjustDeviat]
  | .exAirFanFreq => [.usExAirFanFreq]
  | .exAirFanFreqRange => [.usExAirFanMinFreq, .usExAirFanMaxFreq]
  | .exAirFanType => [.eExAirFanType]
  | .exAirFanCtrlPeriod => [.usExAirFanCtrlPeriod]
  | .exAirFanRated => [.usExAirFanRated_Vol_H, .usExAirFanRated_Vol_L]

def Setting.handle (s : System) : Setting → System
  | .temp => vSystem_SetTemp s.psBMS.usTempSet s
  | .freAir => vSystem_SetFreAir s.psBMS.usFreAirSet_Vol_H s.psBMS.usFreAirSet_Vol_L s
  | .exAirRatio => vSystem_ExAirRatio s.psBMS.ucExAirCoolRatio s.psBMS.ucExAirHeatRatio s
  | .humidity => vSystem_SetHumidity s.psBMS.usHumidityMin s.psBMS.usHumidityMax s
  | .co2AdjustThr => vSystem_SetCO2AdjustThr_V s.psBMS.usCO2AdjustThr_V s
  | .co2AdjustDeviat => vSystem_SetCO2AdjustDeviat s.psBMS.usCO2AdjustDeviat s
  | .exAirFanFreq => vSystem_AdjustExAirFanFreq s.psBMS.usExAirFanFreq s
  | .exAirFanFreqRange => vSystem_SetExAirFanFreqRange s.psBMS.usExAirFanMinFreq s.psBMS.usExAirFanMaxFreq s
  | .exAirFanType => vSystem_ChangeExAirFanType s.psBMS.eExAirFanType s
  | .exAirFanCtrlPeriod => vSystem_SetExAirFanCtrlPeriod s.psBMS.usExAirFanCtrlPeriod s
  | .exAirFanRated => vSystem_SetExAirFanRated s.psBMS.usExAirFanRated_Vol_H s.psBMS.usExAirFanRated_Vol_L s

theorem handleBMS_setting {g : Setting} {v : BMSVar} (hv : v ∈ g.vars) (s : System) : handleBMS v s = g.handle s := by
  cases g <;> simp only [Setting.vars, List.mem_cons, List.not_mem_nil, or_false] at hv <;>
    rcases hv with rfl | rfl <;> rfl

/-- Both sides have the same value of a setting. -/
def Setting.Agrees (s : System) : Setting → Prop
  | .temp => s.usTempSet = s.psBMS.usTempSet
  | .freAir => VolumeOf s.ulFreAirSet_Vol s.psBMS.usFreAirSet_Vol_H s.psBMS.usFreAirSet_Vol_L
  | .exAirRatio => s.ucExAirCoolRatio = s.psBMS.ucExAirCoolRatio ∧ s.ucExAirHeatRatio = s.psBMS.ucExAirHeatRatio
  | .humidity => s.usHumidityMin = s.psBMS.usHumidityMin ∧ s.usHumidityMax = s.psBMS.usHumidityMax
  | .co2AdjustThr => s.usCO2AdjustThr_V = s.psBMS.usCO2AdjustThr_V
  | .co2AdjustDeviat => s.usCO2AdjustDeviat = s.psBMS.usCO2AdjustDeviat
  | .exAirFanFreq => s.usExAirFanFreq = s.psBMS.usExAirFanFreq
  | .exAirFanFreqRange =>
    s.usExAirFanMinFreq = s.psBMS.usExAirFanMinFreq ∧ s.usExAirFanMaxFreq = s.psBMS.usExAirFanMaxFreq
  | .exAirFanType => s.eExAirFanType = s.psBMS.eExAirFanType
  | .exAirFanCtrlPeriod => s.usExAirFanCtrlPeriod = s.psBMS.usExAirFanCtrlPeriod
  | .exAirFanRated => VolumeOf s.ulExAirFanRated_Vol s.psBMS.usExAirFanRated_Vol_H s.psBMS.usExAirFanRated_Vol_L

/-- When the handler makes the two sides agree, on the state it is called in. -/
def Setting.Settles (s : System) : Setting → Prop
  | .freAir =>
    volume s.psBMS.usFreAirSet_Vol_H s.psBMS.usFreAirSet_Vol_L ≤ MAX_FRE_AIR_SET_VOL ∨
      s.ulFreAirSet_Vol / 65535 < 65536
  | .exAirRatio => s.ucExAirHeatRatio = s.psBMS.ucExAirHeatRatio
  | .exAirFanFreq => s.eExAirFanType = .TYPE_CONSTANT_VARIABLE ∨ s.usExAirFanFreq = s.psBMS.usExAirFanFreq
  | .exAirFanRated =>
    volume s.psBMS.usExAirFanRated_Vol_H s.psBMS.usExAirFanRated_Vol_L ≤ MAX_EX_FAN_RATED_VOL ∨
      s.ulExAirFanRated_Vol % 65535 = s.ulExAirFanRated_Vol / 65535
  | _ => True

/-- The limits of the settings in the register dictionary of `BMS`. -/
structure BMS.Admitted (b : BMS) : Prop where
  temp : 160 ≤ b.usTempSet ∧ b.usTempSet ≤ 350
  freAir : b.usFreAirSet_Vol_H ≤ 1
  coolRatio : b.ucExAirCoolRatio ≤ 200
  heatRatio : b.ucExAirHeatRatio ≤ 200
  humidityMin : b.usHumidityMin ≤ 100
  humidityMax : b.usHumidityMax ≤ 100
  co2AdjustThr : b.usCO2AdjustThr_V ≤ 3500
  co2AdjustDeviat : b.usCO2AdjustDeviat ≤ 3500
  freq : b.usExAirFanFreq ≤ 500
  minFreq : b.usExAirFanMinFreq ≤ 500
  maxFreq : b.usExAirFanMaxFreq ≤ 500
  ctrlPeriod : b.usExAirFanCtrlPeriod ≤ 7200
  rated : b.usExAirFanRated_Vol_H ≤ 1

/-! ### Agreement -/

section Agreement

variable {s s' : System}

/-- Agreement is about the settings alone, but for the frequency. -/
theorem Setting.agrees_congr (h : s'.settings = s.settings) (g : Setting) (hg : g ≠ .exAirFanFreq) :
    g.Agrees s' ↔ g.Agrees s := by
  obtain ⟨h1, h2⟩ := Prod.mk.inj h
  cases g with
  | exAirFanFreq => exact absurd rfl hg
  | _ => simp only [Setting.Agrees, h1, h2]

/-- A volume on both sides agrees where its quotient fits a word. -/
theorem freAir_agrees_writeFreAir (s : System) :
    Setting.freAir.Agrees (writeFreAir s) ↔ s.ulFreAirSet_Vol / 65535 < 65536 :=
  volumeOf_words s.ulFreAirSet_Vol

theorem maxUnitFreAir_fits : BitVec.ofNat 32 MODULAR_MAX_FRE_AIR_VOL / 65535 < 65536 := by decide

theorem freAir_agrees_shareFreAir (h : Setting.freAir.Agrees s) : Setting.freAir.Agrees (shareFreAir s) := by
  rcases shareFreAir_settings s with hs | hs
  · exact (Setting.agrees_congr hs .freAir (by decide)).mpr h
  · exact (Setting.agrees_congr hs .freAir (by decide)).mpr ((freAir_agrees_writeFreAir _).mpr maxUnitFreAir_fits)

theorem vSystem_SetFreAir_agrees (s : System) :
    Setting.freAir.Agrees (vSystem_SetFreAir s.psBMS.usFreAirSet_Vol_H s.psBMS.usFreAirSet_Vol_L s) ↔
      Setting.freAir.Settles s := by
  have hvol := volumeOf_volume s.psBMS.usFreAirSet_Vol_H s.psBMS.usFreAirSet_Vol_L
  unfold vSystem_SetFreAir
  dsimp only
  by_cases hmax : volume s.psBMS.usFreAirSet_Vol_H s.psBMS.usFreAirSet_Vol_L > MAX_FRE_AIR_SET_VOL
  · rw [if_pos hmax, freAir_agrees_writeFreAir]
    exact (or_iff_right (BitVec.not_le.mpr hmax)).symm
  · rw [if_neg hmax]
    refine iff_of_true ?_ (Or.inl (BitVec.not_lt.mp hmax))
    split
    · next h => exact (congrArg (VolumeOf · _ _) h).mpr hvol
    · refine (Setting.agrees_congr (settings_of_kept (vSystem_ExAirSet_Vol_kept _)) .freAir (by decide)).mpr ?_
      exact freAir_agrees_shareFreAir hvol

theorem vSystem_SetExAirFanRated_agrees (s : System) :
    Setting.exAirFanRated.Agrees
        (vSystem_SetExAirFanRated s.psBMS.usExAirFanRated_Vol_H s.psBMS.usExAirFanRated_Vol_L s) ↔
      Setting.exAirFanRated.Settles s := by
  have h := vSystem_SetExAirFanRated_settings s s.psBMS.usExAirFanRated_Vol_H s.psBMS.usExAirFanRated_Vol_L
  by_cases hmax : volume s.psBMS.usExAirFanRated_Vol_H s.psBMS.usExAirFanRated_Vol_L > MAX_EX_FAN_RATED_VOL
  · rw [if_pos hmax] at h
    obtain ⟨h1, h2⟩ := Prod.mk.inj h
    simp only [Setting.Agrees, h1, h2]
    exact (volumeOf_exchanged _).trans (or_iff_right (BitVec.not_le.mpr hmax)).symm
  · rw [if_neg hmax] at h
    obtain ⟨h1, h2⟩ := Prod.mk.inj h
    simp only [Setting.Agrees, h1, h2]
    exact iff_of_true (volumeOf_volume _ _) (Or.inl (BitVec.not_lt.mp hmax))

theorem vSystem_AdjustExAirFanFreq_agrees (s : System) :
    Setting.exAirFanFreq.Agrees (vSystem_AdjustExAirFanFreq s.psBMS.usExAirFanFreq s) ↔
      Setting.exAirFanFreq.Settles s := by
  unfold vSystem_AdjustExAirFanFreq
  by_cases h : s.eExAirFanType = .TYPE_CONSTANT_VARIABLE
  · rw [if_neg (not_not_intro h)]
    exact iff_of_true rfl (Or.inl h)
  · rw [if_pos h]
    exact (or_iff_right h).symm

theorem Setting.handle_agrees (g : Setting) (s : System) : g.Agrees (g.handle s) ↔ g.Settles s := by
  cases g with
  | temp =>
    obtain ⟨h1, h2⟩ := Prod.mk.inj (vSystem_SetTemp_settings s s.psBMS.usTempSet)
    simp [Setting.Agrees, Setting.Settles, Setting.handle, h1, h2]
  | freAir => exact vSystem_SetFreAir_agrees s
  | exAirRatio =>
    obtain ⟨h1, h2⟩ := Prod.mk.inj (vSystem_ExAirRatio_settings s s.psBMS.ucExAirCoolRatio s.psBMS.ucExAirHeatRatio)
    simp [Setting.Agrees, Setting.Settles, Setting.handle, h1, h2]
  | humidity =>
    obtain ⟨h1, h2⟩ := Prod.mk.inj (vSystem_SetHumidity_settings s s.psBMS.usHumidityMin s.psBMS.usHumidityMax)
    simp [Setting.Agrees, Setting.Settles, Setting.handle, h1, h2]
  | co2AdjustThr =>
    obtain ⟨h1, h2⟩ := Prod.mk.inj (vSystem_SetCO2AdjustThr_V_settings s s.psBMS.usCO2AdjustThr_V)
    simp [Setting.Agrees, Setting.Settles, Setting.handle, h1, h2]
  | co2AdjustDeviat =>
    obtain ⟨h1, h2⟩ := Prod.mk.inj (vSystem_SetCO2AdjustDeviat_settings s s.psBMS.usCO2AdjustDeviat)
    simp [Setting.Agrees, Setting.Settles, Setting.handle, h1, h2]
  | exAirFanFreq => exact vSystem_AdjustExAirFanFreq_agrees s
  | exAirFanFreqRange =>
    obtain ⟨h1, h2⟩ := Prod.mk.inj
      (vSystem_SetExAirFanFreqRange_settings s s.psBMS.usExAirFanMinFreq s.psBMS.usExAirFanMaxFreq)
    simp [Setting.Agrees, Setting.Settles, Setting.handle, h1, h2]
  | exAirFanType =>
    obtain ⟨h1, h2⟩ := Prod.mk.inj (vSystem_ChangeExAirFanType_settings s s.psBMS.eExAirFanType)
    simp [Setting.Agrees, Setting.Settles, Setting.handle, h1, h2]
  | exAirFanCtrlPeriod =>
    obtain ⟨h1, h2⟩ := Prod.mk.inj (vSystem_SetExAirFanCtrlPeriod_settings s s.psBMS.usExAirFanCtrlPeriod)
    simp [Setting.Agrees, Setting.Settles, Setting.handle, h1, h2]
  | exAirFanRated => exact vSystem_SetExAirFanRated_agrees s

end Agreement

/-- **The exact condition for agreement.**  For every setting, every one of its variables and every state, the
two sides have the same value of the setting after its event if and only if the state meets `Settles`. -/
theorem setting_agrees_iff (l : Locals) (g : Setting) (v : BMSVar) (hv : v ∈ g.vars) (s : System) :
    g.Agrees (vSystem_EventPollTask l (.bms v) s) ↔ g.Settles s := by
  show g.Agrees (handleBMS v s) ↔ g.Settles s
  rw [handleBMS_setting hv s]
  exact g.handle_agrees s

/-! ### The settings at start -/

/-- `vSystem_InitDefaultData`, the data modelled here. -/
def vSystem_InitDefaultData (s : System) : System :=
  { s with
    eSystemMode := .MODE_CLOSE
    usEnergyTemp := 250
    usTempDeviat := 5
    usSupAirMax_T := 450
    usTempSet := 260
    usHumidityMin := 55
    usHumidityMax := 65
    usCO2AdjustThr_V := 2700
    usCO2AdjustDeviat := 270
    usCO2PPMAlarm := 3000
    ulFreAirSet_Vol := 60000
    eExAirFanType := .TYPE_CONSTANT_VARIABLE
    usExAirFanFreq := 0
    usExAirFanMinFreq := 0
    usExAirFanMaxFreq := 500
    ucExAirCoolRatio := 90
    ucExAirHeatRatio := 90
    usExAirFanRunTimeLeast := 300
    usExAirFanCtrlPeriod := 1800
    ulExAirFanRated_Vol := 36000
    usModeChangeTime := fun _ => 1
    usModeAdjustTemp := fun _ => 15 }

/-- `vBMS_InitDefaultData`: the `BMS` takes over the settings of the system. -/
def vBMS_InitDefaultData (s : System) : System :=
  { s with psBMS := { s.psBMS with
      eSystemMode := s.eSystemMode
      eRunningMode := s.eRunningMode
      usHumidityMin := s.usHumidityMin
      usHumidityMax := s.usHumidityMax
      usCO2AdjustThr_V := s.usCO2AdjustThr_V
      usCO2AdjustDeviat := s.usCO2AdjustDeviat
      usTempSet := s.usTempSet
      usFreAirSet_Vol_H := (s.ulFreAirSet_Vol / 65535).setWidth 16
      usFreAirSet_Vol_L := (s.ulFreAirSet_Vol % 65535).setWidth 16
      usExAirFanRated_Vol_H := (s.ulExAirFanRated_Vol / 65535).setWidth 16
      usExAirFanRated_Vol_L := (s.ulExAirFanRated_Vol % 65535).setWidth 16
      usExAirFanFreq := s.usExAirFanFreq
      usExAirFanMinFreq := s.usExAirFanMinFreq
      usExAirFanMaxFreq := s.usExAirFanMaxFreq
      eExAirFanType := s.eExAirFanType
      usExAirFanCtrlPeriod := s.usExAirFanCtrlPeriod
      ucExAirCoolRatio := s.ucExAirCoolRatio
      ucExAirHeatRatio := s.ucExAirHeatRatio
      xAlarmEnable := s.xAlarmEnable } }

/-- The two sides agree where the two volumes fit their words. -/
theorem vBMS_InitDefaultData_agrees {s : System} (hf : s.ulFreAirSet_Vol / 65535 < 65536)
    (hr : s.ulExAirFanRated_Vol / 65535 < 65536) (g : Setting) : g.Agrees (vBMS_InitDefaultData s) := by
  cases g with
  | freAir => exact (volumeOf_words _).mpr hf
  | exAirFanRated => exact (volumeOf_words _).mpr hr
  | exAirRatio | humidity | exAirFanFreqRange => exact ⟨rfl, rfl⟩
  | temp | co2AdjustThr | co2AdjustDeviat | exAirFanFreq | exAirFanType | exAirFanCtrlPeriod => exact rfl

/-- The controller at start. -/
def started : System := vBMS_InitDefaultData (vSystem_InitDefaultData System.zero)

/-- **At start all settings agree.** -/
theorem started_agrees (g : Setting) : g.Agrees started := vBMS_InitDefaultData_agrees (by decide) (by decide) g

/-- A fresh air volume is written that is too large. -/
def freAirWritten : System :=
  { started with psBMS := { started.psBMS with usFreAirSet_Vol_H := 1, usFreAirSet_Vol_L := 65535 } }

theorem setting_agrees_freAirWritten :
    Setting.freAir.Agrees (vSystem_EventPollTask ⟨0, 0, 0, 0, 0⟩ (.bms .usFreAirSet_Vol_L) freAirWritten) :=
  (setting_agrees_iff ⟨0, 0, 0, 0, 0⟩ .freAir .usFreAirSet_Vol_L (by simp [Setting.vars]) freAirWritten).mpr
    (Or.inr (by decide))

/-! ### Where the two sides do not agree -/

/-- The heat ratio is written. -/
def heatRatioWritten : System := { started with psBMS := { started.psBMS with ucExAirHeatRatio := 80 } }

/-- A rated volume is written that is too large. -/
def ratedWritten : System :=
  { started with psBMS := { started.psBMS with usExAirFanRated_Vol_H := 1, usExAirFanRated_Vol_L := 40000 } }

/-- A frequency is written where all fans are constant ones. -/
def freqWritten : System :=
  { started with
    eExAirFanType := .TYPE_CONSTANT
    psBMS := { started.psBMS with eExAirFanType := .TYPE_CONSTANT, usExAirFanFreq := 300 } }

/-- Three admitted values that the two sides do not agree on afterwards: a heat ratio, a rated volume and a
frequency. -/
theorem settings_disagree :
    let l : Locals := ⟨0, 0, 0, 0, 0⟩
    (heatRatioWritten.psBMS.Admitted ∧
      ¬Setting.exAirRatio.Agrees (vSystem_EventPollTask l (.bms .ucExAirHeatRatio) heatRatioWritten)) ∧
    (ratedWritten.psBMS.Admitted ∧
      ¬Setting.exAirFanRated.Agrees (vSystem_EventPollTask l (.bms .usExAirFanRated_Vol_L) ratedWritten)) ∧
    (freqWritten.psBMS.Admitted ∧
      ¬Setting.exAirFanFreq.Agrees (vSystem_EventPollTask l (.bms .usExAirFanFreq) freqWritten)) := by
  refine ⟨⟨?_, ?_⟩, ⟨?_, ?_⟩, ⟨?_, ?_⟩⟩
  · constructor <;> decide
  · intro h
    have : (90 : UCHAR) = 80 := h.2
    exact absurd this (by decide)
  · constructor <;> decide
  · intro h
    have : 36000 = 36000 * 65535 + 0 := h
    exact absurd this (by decide)
  · constructor <;> decide
  · intro h
    have : (0 : USHORT) = 300 := h
    exact absurd this (by decide)

end GreeIntense.Control

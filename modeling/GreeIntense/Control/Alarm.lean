import GreeIntense.Control.SensorCtrl

/-!
# The alarm follows its conditions

The alarm output is switched by the handlers of units, fans and sensors: each sets it where its own device is in
a condition for an alarm, and else asks for it to be taken back, which `vSystem_DelAlarmRequst` does if no other
condition is left.

`AlarmSide` is what the alarm depends on, and the output.  Whoever judges one source after the conditions of that
source only have changed keeps the output exact (`AlarmSide.Exact.judge`); and every handler judges the source that
has changed (`alarm_follows`).
-/

namespace GreeIntense.Control

open Lib.Run

/-! ### What the alarm depends on -/

/-- What the alarm depends on, with the outputs of the fans and the alarm output. -/
structure AlarmSide where
  xOnLine : Fin MODULAR_ROOF_NUM → Bool
  xCommErr : Fin MODULAR_ROOF_NUM → Bool
  xStopErrFlag : Fin MODULAR_ROOF_NUM → Bool
  sSupAir_T : Fin MODULAR_ROOF_NUM → USHORT
  xExAirFanErr : Fin EX_AIR_FAN_NUM → Bool
  sSwitch_DO : Fin EX_AIR_FAN_NUM → ℕ
  usSupAirMax_T : USHORT
  usCO2PPM : USHORT
  usCO2PPMAlarm : USHORT
  xCO2SenErr : Bool
  xTempHumiSenOutErr : Bool
  xTempHumiSenInErr : Bool
  xAlarmEnable : Bool
  sAlarm_DO : ℕ
  output : eCtrlEn

def System.alarmSide (s : System) : AlarmSide where
  xOnLine n := (s.unit n).xOnLine
  xCommErr n := (s.unit n).xCommErr
  xStopErrFlag n := (s.unit n).xStopErrFlag
  sSupAir_T n := (s.unit n).sSupAir_T
  xExAirFanErr n := (s.fan n).xExAirFanErr
  sSwitch_DO n := (s.fan n).sSwitch_DO
  usSupAirMax_T := s.usSupAirMax_T
  usCO2PPM := s.usCO2PPM
  usCO2PPMAlarm := s.usCO2PPMAlarm
  xCO2SenErr := s.xCO2SenErr
  xTempHumiSenOutErr := s.xTempHumiSenOutErr
  xTempHumiSenInErr := s.xTempHumiSenInErr
  xAlarmEnable := s.xAlarmEnable
  sAlarm_DO := s.sAlarm_DO
  output := s.digitalOutput s.sAlarm_DO

namespace AlarmSide

variable (a : AlarmSide)

def TooHot (n : Fin MODULAR_ROOF_NUM) : Prop := (a.sSupAir_T n).toInt > a.usSupAirMax_T.toNat

instance (n : Fin MODULAR_ROOF_NUM) : Decidable (a.TooHot n) := inferInstanceAs (Decidable (_ > _))

def Alarming : Prop :=
  (∃ n, a.xOnLine n = false ∨ a.xStopErrFlag n = true ∨ a.TooHot n) ∨ (∃ n, a.xExAirFanErr n = true) ∨
    a.usCO2PPM ≥ a.usCO2PPMAlarm ∨ a.xCO2SenErr = true ∨ a.xTempHumiSenOutErr = true ∨ a.xTempHumiSenInErr = true

/-- **The output is exact**: it is on where a condition holds, and only there. -/
def Exact : Prop := a.output = .ON ↔ a.Alarming

/-- The alarm is enabled, it has an output of its own, and a unit that is off line is known to be. -/
structure Wired : Prop where
  enabled : a.xAlarmEnable = true
  channel : 0 < a.sAlarm_DO ∧ a.sAlarm_DO ≤ DO_NUM
  apart : ∀ n, a.sSwitch_DO n ≠ a.sAlarm_DO
  comm : ∀ n, a.xCommErr n = !a.xOnLine n

end AlarmSide

theorem alarming_iff (s : System) : alarming s = true ↔ s.alarmSide.Alarming := by
  have hu : (units.any fun n => (s.unit n).xOnLine = false ∨ (s.unit n).xStopErrFlag = true ∨
      (s.unit n).sSupAir_T.toInt > s.usSupAirMax_T.toNat) = true ↔
      ∃ n, s.alarmSide.xOnLine n = false ∨ s.alarmSide.xStopErrFlag n = true ∨ s.alarmSide.TooHot n := by
    rw [List.any_eq_true]
    constructor
    · rintro ⟨n, -, h⟩
      exact ⟨n, of_decide_eq_true h⟩
    · rintro ⟨n, h⟩
      exact ⟨n, List.mem_finRange n, decide_eq_true h⟩
  have hf : (fans.any fun n => (s.fan n).xExAirFanErr) = true ↔ ∃ n, s.alarmSide.xExAirFanErr n = true := by
    rw [List.any_eq_true]
    constructor
    · rintro ⟨n, -, h⟩
      exact ⟨n, h⟩
    · rintro ⟨n, h⟩
      exact ⟨n, List.mem_finRange n, h⟩
  unfold alarming
  rw [decide_eq_true_eq, hu, hf]
  exact Iff.rfl

/-! ### What switches the alarm, and what does not -/

section Frame

variable {s s' : System}

/-- What the control of the fans leaves alone holds all that the alarm depends on. -/
theorem alarmSide_of_uncontrolled (hw : s.alarmSide.Wired) (h : s'.uncontrolled = s.uncontrolled) :
    s'.alarmSide = s.alarmSide := by
  have hout (t : System) (ht : t.uncontrolled = s.uncontrolled) :
      t.digitalOutput s.sAlarm_DO = t.uncontrolled.digitalOutput s.sAlarm_DO := by
    have hno : ¬∃ n, (t.fan n).uncontrolled.sSwitch_DO = s.sAlarm_DO := by
      rintro ⟨n, hn⟩
      exact hw.apart n ((congrArg ExAirFan.sSwitch_DO (uncontrolled_fan ht n)).symm.trans hn)
    exact (if_neg hno).symm
  have hall : s'.uncontrolled.alarmSide = s.uncontrolled.alarmSide := by rw [h]
  have houtput : s'.digitalOutput s.sAlarm_DO = s.digitalOutput s.sAlarm_DO := by
    rw [hout s' h, hout s rfl, h]
  have hdo : s'.uncontrolled.sAlarm_DO = s.uncontrolled.sAlarm_DO := by rw [h]
  have hs (t : System) : { t.alarmSide with output := .OFF } = { t.uncontrolled.alarmSide with output := .OFF } := rfl
  have hrest := (hs s').trans ((congrArg (fun a : AlarmSide => { a with output := .OFF }) hall).trans (hs s).symm)
  have hput : s'.alarmSide.output = s.alarmSide.output := by
    exact (congrArg s'.digitalOutput hdo).trans houtput
  exact congrArg₂ (fun (a : AlarmSide) o => { a with output := o }) hrest hput

end Frame

/-- What the alarm depends on in a unit. -/
def ModularRoof.flags (u : ModularRoof) : (Bool × Bool) × Bool × USHORT :=
  ((u.xOnLine, u.xCommErr), u.xStopErrFlag, u.sSupAir_T)

section Units

variable (s : System)

theorem setUnit_alarmSide (n : Fin MODULAR_ROOF_NUM) (u : ModularRoof) (h : u.flags = (s.unit n).flags) :
    (s.setUnit n u).alarmSide = s.alarmSide := by
  have hflags : (fun m => ((s.setUnit n u).unit m).flags) = fun m => (s.unit m).flags := by
    funext m
    rw [unit_setUnit]
    split
    · next hm => rw [hm, h]
    · rfl
  exact congrArg
    (fun f : Fin MODULAR_ROOF_NUM → (Bool × Bool) × Bool × USHORT => { s.alarmSide with
      xOnLine := fun m => (f m).1.1, xCommErr := fun m => (f m).1.2
      xStopErrFlag := fun m => (f m).2.1, sSupAir_T := fun m => (f m).2.2 }) hflags

theorem setUnits_alarmSide (f : System → Fin MODULAR_ROOF_NUM → ModularRoof)
    (h : ∀ s n, (f s n).flags = (s.unit n).flags) :
    (units.foldl (fun s n => s.setUnit n (f s n)) s).alarmSide = s.alarmSide :=
  foldl_kept System.alarmSide (fun s n => setUnit_alarmSide s n (f s n) (h s n)) units s

@[simp] theorem ite_alarmSide (c : Prop) [Decidable c] (s t : System) :
    (if c then s else t).alarmSide = if c then s.alarmSide else t.alarmSide := apply_ite System.alarmSide c s t

theorem openUsable_alarmSide : (openUsable s).alarmSide = s.alarmSide := by
  have hopen (s : System) (n : Fin MODULAR_ROOF_NUM) : (vModularRoof_SwitchOpen n s).alarmSide = s.alarmSide := by
    unfold vModularRoof_SwitchOpen
    dsimp only
    split
    · exact setUnit_alarmSide s n _ rfl
    · rfl
  unfold openUsable
  split
  · exact foldl_kept System.alarmSide hopen _ s
  · rfl

theorem shareFreAir_alarmSide : (shareFreAir s).alarmSide = s.alarmSide := by
  unfold shareFreAir
  split
  · rfl
  · next n _ =>
    split
    · unfold oneUnitFreAir
      split
      · exact setUnit_alarmSide s n _ rfl
      · exact setUnit_alarmSide s n _ rfl
    · exact setUnits_alarmSide s (fun s n => { s.unit n with usFreAirSet_Vol := _ }) fun _ _ => rfl

theorem setUnitTemps_alarmSide (usTempSet : USHORT) : (setUnitTemps usTempSet s).alarmSide = s.alarmSide :=
  setUnits_alarmSide s
    (fun s n => { s.unit n with usCoolTempSet := usTempSet, usHeatTempSet := usTempSet }) fun _ _ => rfl

theorem usSystem_ChangeEnergyTemp_alarmSide : (usSystem_ChangeEnergyTemp s).2.alarmSide = s.alarmSide := by
  unfold usSystem_ChangeEnergyTemp
  split
  · rfl
  · split
    · exact setUnitTemps_alarmSide s _
    · rfl

theorem changeOnCompsClosed_alarmSide (k : ℕ) : (changeOnCompsClosed k s).alarmSide = s.alarmSide := by
  have hcomps : (xSystem_UnitCompsClosed s).2.alarmSide = s.alarmSide := by
    unfold xSystem_UnitCompsClosed
    split <;> rfl
  unfold changeOnCompsClosed
  split
  · dsimp only
    split
    · exact hcomps
    · exact hcomps
  · rfl

theorem vSystem_ChangeUnitRunningMode_alarmSide : (vSystem_ChangeUnitRunningMode s).alarmSide = s.alarmSide := by
  have hregist (k : ℕ) (s : System) : (registModeChange k s).alarmSide = s.alarmSide := rfl
  unfold vSystem_ChangeUnitRunningMode
  split
  · rfl
  · cases s.eRunningMode with
    | unset => rfl
    | RUN_MODE_FAN => simp [hregist]
    | RUN_MODE_WET => simp [hregist, usSystem_ChangeEnergyTemp_alarmSide]
    | RUN_MODE_COOL => simp [hregist, usSystem_ChangeEnergyTemp_alarmSide, changeOnCompsClosed_alarmSide]
    | RUN_MODE_HEAT =>
      simp only [ite_alarmSide, hregist, changeOnCompsClosed_alarmSide, ite_self]
      rfl

theorem setUnitAmbientIn_alarmSide (sAmbientIn_T usAmbientIn_H : USHORT) :
    (setUnitAmbientIn sAmbientIn_T usAmbientIn_H s).alarmSide = s.alarmSide :=
  setUnits_alarmSide s
    (fun s n => { s.unit n with sAmbientIn_T := sAmbientIn_T, usAmbientIn_H := usAmbientIn_H }) fun _ _ => rfl

theorem setAmbientIn_alarmSide (sAmbientIn_T usAmbientIn_H : USHORT) :
    (setAmbientIn sAmbientIn_T usAmbientIn_H s).alarmSide = s.alarmSide :=
  vSystem_ChangeUnitRunningMode_alarmSide _

theorem vSystem_UnitTempHumiOut_alarmSide : (vSystem_UnitTempHumiOut s).alarmSide = s.alarmSide := by
  unfold vSystem_UnitTempHumiOut
  dsimp only
  split <;> rfl

theorem vSystem_UnitTempHumiIn_alarmSide (l : Locals) : (vSystem_UnitTempHumiIn l s).alarmSide = s.alarmSide := by
  simp [vSystem_UnitTempHumiIn, setUnitAmbientIn_alarmSide, setAmbientIn_alarmSide]

theorem vSystem_TempHumiOut_alarmSide (p : Sensors) : (vSystem_TempHumiOut p s).alarmSide = s.alarmSide := by
  unfold vSystem_TempHumiOut
  split
  · rfl
  · dsimp only
    split <;> rfl

theorem vSystem_TempHumiIn_alarmSide (p : Sensors) : (vSystem_TempHumiIn p s).alarmSide = s.alarmSide := by
  simp [vSystem_TempHumiIn, setUnitAmbientIn_alarmSide, setAmbientIn_alarmSide]

theorem setUnitErrFlag_alarmSide (xUnitErrFlag : Bool) : (setUnitErrFlag xUnitErrFlag s).alarmSide = s.alarmSide := by
  unfold setUnitErrFlag
  dsimp only
  split <;> rfl

theorem setFanErrFlag_alarmSide (xExFanErrFlag : Bool) : (setFanErrFlag xExFanErrFlag s).alarmSide = s.alarmSide := by
  unfold setFanErrFlag
  dsimp only
  split <;> rfl

end Units

/-! ### Judging one source -/

/-- The alarm is wired and its output is exact. -/
structure AlarmSide.Ok (a : AlarmSide) : Prop where
  wired : a.Wired
  exact : a.Exact

section Judge

variable {s₀ s : System}

theorem vDigitalOutputCtrl_alarmSide (hw : s.alarmSide.Wired) (eCtrl : eCtrlEn) :
    (vDigitalOutputCtrl s.sAlarm_DO eCtrl s).alarmSide = { s.alarmSide with output := eCtrl } := by
  have hset : vDigitalOutputCtrl s.sAlarm_DO eCtrl s =
      { s with digitalOutput := Function.update s.digitalOutput s.sAlarm_DO eCtrl } := if_pos hw.channel
  have hout : Function.update s.digitalOutput s.sAlarm_DO eCtrl s.sAlarm_DO = eCtrl := Function.update_self _ _ _
  rw [hset]
  exact congrArg (fun o => { s.alarmSide with output := o }) hout

theorem vSystem_SetAlarm_alarmSide (hw : s.alarmSide.Wired) :
    (vSystem_SetAlarm s).alarmSide = { s.alarmSide with output := .ON } := by
  have henabled : s.xAlarmEnable = true := hw.enabled
  unfold vSystem_SetAlarm
  rw [if_pos henabled]
  exact vDigitalOutputCtrl_alarmSide hw .ON

theorem vSystem_DelAlarmRequst_alarmSide (hw : s.alarmSide.Wired) :
    (vSystem_DelAlarmRequst s).alarmSide =
      if alarming s then s.alarmSide else { s.alarmSide with output := .OFF } := by
  have henabled : s.xAlarmEnable = true := hw.enabled
  unfold vSystem_DelAlarmRequst
  rw [if_neg (fun h => Bool.noConfusion (henabled.symm.trans h))]
  dsimp only
  rw [ite_alarmSide]
  exact congrArg (fun a => if alarming s then s.alarmSide else a) (vDigitalOutputCtrl_alarmSide hw .OFF)

/-- **Judging one source**: the conditions of one source have changed; where it is in a condition for an alarm
the alarm is set, and where it is not there was a condition before if there is one now. -/
theorem judge_ok (c : Prop) [Decidable c] (h₀ : s₀.alarmSide.Ok) (hw : s.alarmSide.Wired)
    (hout : s.alarmSide.output = s₀.alarmSide.output) (hc : c → s.alarmSide.Alarming)
    (hn : ¬c → s.alarmSide.Alarming → s₀.alarmSide.Alarming) :
    (if c then vSystem_SetAlarm s else vSystem_DelAlarmRequst s).alarmSide.Ok := by
  split
  · next h =>
    rw [vSystem_SetAlarm_alarmSide hw]
    exact ⟨⟨hw.enabled, hw.channel, hw.apart, hw.comm⟩, iff_of_true rfl (hc h)⟩
  · next h =>
    rw [vSystem_DelAlarmRequst_alarmSide hw]
    by_cases ha : alarming s = true
    · rw [if_pos ha]
      have hal := (alarming_iff s).mp ha
      exact ⟨hw, iff_of_true (hout.trans (h₀.exact.mpr (hn h hal))) hal⟩
    · rw [if_neg ha]
      refine ⟨⟨hw.enabled, hw.channel, hw.apart, hw.comm⟩, iff_of_false ?_ ?_⟩
      · intro ho
        cases ho
      · intro hal
        exact ha ((alarming_iff s).mpr hal)

theorem setCO2PPM_ok (h : s.alarmSide.Ok) (usCO2PPM : USHORT) : (setCO2PPM usCO2PPM s).alarmSide.Ok := by
  have hj : (if usCO2PPM ≥ s.usCO2PPMAlarm then vSystem_SetAlarm { s with usCO2PPM := usCO2PPM }
      else vSystem_DelAlarmRequst { s with usCO2PPM := usCO2PPM }).alarmSide.Ok := by
    have hw : (System.alarmSide { s with usCO2PPM := usCO2PPM }).Wired :=
      ⟨h.wired.enabled, h.wired.channel, h.wired.apart, h.wired.comm⟩
    refine judge_ok _ h hw rfl (fun hc => Or.inr (Or.inr (Or.inl hc))) ?_
    rintro hc (hu | hf | hco2 | hsen)
    · exact Or.inl hu
    · exact Or.inr (Or.inl hf)
    · exact absurd hco2 hc
    · exact Or.inr (Or.inr (Or.inr hsen))
  unfold setCO2PPM
  dsimp only
  rw [alarmSide_of_uncontrolled hj.wired (vSystem_ExAirFanCtrl_uncontrolled _)]
  exact hj

theorem classAlarm_ok (xErr : Bool) (h₀ : s₀.alarmSide.Ok) (hw : s.alarmSide.Wired)
    (hout : s.alarmSide.output = s₀.alarmSide.output) (hc : xErr = true → s.alarmSide.Alarming)
    (hn : xErr = false → s.alarmSide.Alarming → s₀.alarmSide.Alarming) : (classAlarm xErr s).alarmSide.Ok :=
  judge_ok _ h₀ hw hout hc fun h => hn (Bool.eq_false_of_not_eq_true h)

end Judge

/-! ### The handlers -/

section Handlers

variable {s : System}

theorem ite_ok {c : Prop} [Decidable c] {t : System} (hs : s.alarmSide.Ok) (ht : t.alarmSide.Ok) :
    (if c then s else t).alarmSide.Ok := by
  split
  · exact hs
  · exact ht

theorem vSystem_UnitCO2PPM_ok (l : Locals) (h : s.alarmSide.Ok) : (vSystem_UnitCO2PPM l s).alarmSide.Ok :=
  ite_ok (ite_ok (setCO2PPM_ok h _) h) h

theorem vSystem_CO2PPM_ok (p : Sensors) (h : s.alarmSide.Ok) : (vSystem_CO2PPM p s).alarmSide.Ok :=
  ite_ok (setCO2PPM_ok h _) h

theorem vSystem_CO2SensorErr_ok (p : Sensors) (h : s.alarmSide.Ok) : (vSystem_CO2SensorErr p s).alarmSide.Ok := by
  unfold vSystem_CO2SensorErr
  apply vSystem_CO2PPM_ok
  split
  · refine classAlarm_ok (allFaulty p.co2) h ⟨h.wired.enabled, h.wired.channel, h.wired.apart, h.wired.comm⟩ rfl ?_ ?_
    · intro herr
      exact Or.inr (Or.inr (Or.inr (Or.inl herr)))
    · rintro herr (hu | hf | hco2 | herr' | hth)
      · exact Or.inl hu
      · exact Or.inr (Or.inl hf)
      · exact Or.inr (Or.inr (Or.inl hco2))
      · exact Bool.noConfusion (herr.symm.trans herr')
      · exact Or.inr (Or.inr (Or.inr (Or.inr hth)))
  · exact h

theorem vSystem_TempHumiOutErr_ok (p : Sensors) (h : s.alarmSide.Ok) :
    (vSystem_TempHumiOutErr p s).alarmSide.Ok := by
  unfold vSystem_TempHumiOutErr
  dsimp only
  rw [vSystem_TempHumiOut_alarmSide]
  split
  · refine classAlarm_ok _ h ⟨h.wired.enabled, h.wired.channel, h.wired.apart, h.wired.comm⟩ rfl ?_ ?_
    · intro herr
      exact Or.inr (Or.inr (Or.inr (Or.inr (Or.inl herr))))
    · rintro herr (hu | hf | hco2 | hs | herr' | hin)
      · exact Or.inl hu
      · exact Or.inr (Or.inl hf)
      · exact Or.inr (Or.inr (Or.inl hco2))
      · exact Or.inr (Or.inr (Or.inr (Or.inl hs)))
      · exact Bool.noConfusion (herr.symm.trans herr')
      · exact Or.inr (Or.inr (Or.inr (Or.inr (Or.inr hin))))
  · exact h

theorem vSystem_TempHumiInErr_ok (p : Sensors) (h : s.alarmSide.Ok) : (vSystem_TempHumiInErr p s).alarmSide.Ok := by
  unfold vSystem_TempHumiInErr
  dsimp only
  rw [vSystem_TempHumiIn_alarmSide]
  split
  · refine classAlarm_ok _ h ⟨h.wired.enabled, h.wired.channel, h.wired.apart, h.wired.comm⟩ rfl ?_ ?_
    · intro herr
      exact Or.inr (Or.inr (Or.inr (Or.inr (Or.inr herr))))
    · rintro herr (hu | hf | hco2 | hs | hout | herr')
      · exact Or.inl hu
      · exact Or.inr (Or.inl hf)
      · exact Or.inr (Or.inr (Or.inl hco2))
      · exact Or.inr (Or.inr (Or.inr (Or.inl hs)))
      · exact Or.inr (Or.inr (Or.inr (Or.inr (Or.inl hout))))
      · exact Bool.noConfusion (herr.symm.trans herr')
  · exact h

theorem handleSensor_ok (p : Sensors) (pvArg : SensorArg) (h : s.alarmSide.Ok) :
    (handleSensor p pvArg s).alarmSide.Ok := by
  have hout : (vSystem_TempHumiOut p s).alarmSide.Ok := by
    rw [vSystem_TempHumiOut_alarmSide]
    exact h
  have hin : (vSystem_TempHumiIn p s).alarmSide.Ok := by
    rw [vSystem_TempHumiIn_alarmSide]
    exact h
  cases pvArg with
  | co2 n v =>
    cases v with
    | usAvgCO2PPM => exact vSystem_CO2PPM_ok p h
    | xCO2SenErr => exact vSystem_CO2SensorErr_ok p h
  | tempHumiOut n v =>
    cases v with
    | sAvgTemp => exact hout
    | xTempSenErr => exact vSystem_TempHumiOutErr_ok p h
    | usAvgHumi => exact hout
    | xHumiSenErr => exact vSystem_TempHumiOutErr_ok p h
  | tempHumiIn n v =>
    cases v with
    | sAvgTemp => exact hin
    | xTempSenErr => exact vSystem_TempHumiInErr_ok p h
    | usAvgHumi => exact hin
    | xHumiSenErr => exact vSystem_TempHumiInErr_ok p h

theorem length_filter_finRange {num : ℕ} {q : Fin num → Bool} (h : ∀ n, q n = true) :
    num ≤ ((List.finRange num).filter q).length := by
  rw [List.filter_eq_self.mpr fun n _ => h n, List.length_finRange]

theorem of_length_filter_finRange {num : ℕ} {q : Fin num → Bool} (h : ¬((List.finRange num).filter q).length < num)
    (n : Fin num) : q n = true := by
  have hl : ((List.finRange num).filter q).length = (List.finRange num).length := by
    have hle := List.length_filter_le q (List.finRange num)
    rw [List.length_finRange] at hle ⊢
    omega
  exact List.length_filter_eq_length_iff.mp hl n (List.mem_finRange n)

/-- A unit goes on or off line, or is stopped by a fault or released: of the conditions only those of this unit
change, and `vSystem_UnitErr` judges them. -/
theorem vSystem_UnitErr_ok {s₀ : System} (l : Locals) (h₀ : s₀.alarmSide.Ok) (hw : s.alarmSide.Wired)
    (hsame : { s.alarmSide with
        xOnLine := s₀.alarmSide.xOnLine, xCommErr := s₀.alarmSide.xCommErr
        xStopErrFlag := s₀.alarmSide.xStopErrFlag } = s₀.alarmSide) :
    (vSystem_UnitErr l s).alarmSide.Ok := by
  have hside : (shareFreAir (openUsable s)).alarmSide = s.alarmSide :=
    (shareFreAir_alarmSide _).trans (openUsable_alarmSide s)
  have hj : (if (units.filter (unitUsable s)).length < MODULAR_ROOF_NUM then
      vSystem_SetAlarm (shareFreAir (openUsable s))
      else vSystem_DelAlarmRequst (shareFreAir (openUsable s))).alarmSide.Ok := by
    refine judge_ok _ h₀ (hside.symm ▸ hw) ?_ ?_ ?_
    · rw [hside, ← hsame]
    · intro hlt
      rw [hside]
      by_contra hno
      refine absurd hlt (not_lt_of_ge (length_filter_finRange fun n => ?_))
      have hoff : (s.unit n).xOnLine = true := Bool.eq_true_of_not_eq_false fun h => hno (Or.inl ⟨n, Or.inl h⟩)
      have hstop : (s.unit n).xStopErrFlag = false :=
        Bool.eq_false_of_not_eq_true fun h => hno (Or.inl ⟨n, Or.inr (Or.inl h)⟩)
      have hcomm : (s.unit n).xCommErr = false := (hw.comm n).trans (congrArg not hoff)
      exact decide_eq_true ⟨hstop, hcomm⟩
    · rw [hside, ← hsame]
      rintro hge (⟨n, hoff | hstop | hot⟩ | hrest)
      · have hcomm : (s.unit n).xCommErr = true := (hw.comm n).trans (congrArg not hoff)
        exact Bool.noConfusion (hcomm.symm.trans (of_decide_eq_true (of_length_filter_finRange hge n)).2)
      · exact Bool.noConfusion (hstop.symm.trans (of_decide_eq_true (of_length_filter_finRange hge n)).1)
      · exact Or.inl ⟨n, Or.inr (Or.inr hot)⟩
      · exact Or.inr hrest
  unfold vSystem_UnitErr
  dsimp only
  rw [setUnitErrFlag_alarmSide, vSystem_UnitTempHumiIn_alarmSide, vSystem_UnitTempHumiOut_alarmSide]
  exact vSystem_UnitCO2PPM_ok l hj

theorem vSystem_ExAirFanErr_ok {s₀ : System} (h₀ : s₀.alarmSide.Ok)
    (hsame : { s.alarmSide with xExAirFanErr := s₀.alarmSide.xExAirFanErr } = s₀.alarmSide) :
    (vSystem_ExAirFanErr s).alarmSide.Ok := by
  have hside (b : Bool) : (setFanErrFlag b s).alarmSide = s.alarmSide := setFanErrFlag_alarmSide s b
  have hw : s.alarmSide.Wired := by
    have hw₀ := h₀.wired
    rw [← hsame] at hw₀
    exact ⟨hw₀.enabled, hw₀.channel, hw₀.apart, hw₀.comm⟩
  have hj : (if (faultless s).length < EX_AIR_FAN_NUM then vSystem_SetAlarm (setFanErrFlag ((faultless s).length = 0) s)
      else vSystem_DelAlarmRequst (setFanErrFlag ((faultless s).length = 0) s)).alarmSide.Ok := by
    refine judge_ok _ h₀ ((hside _).symm ▸ hw) ?_ ?_ ?_
    · rw [hside, ← hsame]
    · intro hlt
      rw [hside]
      by_contra hno
      refine absurd hlt (not_lt_of_ge (length_filter_finRange fun n => ?_))
      exact decide_eq_true (Bool.eq_false_of_not_eq_true fun h => hno (Or.inr (Or.inl ⟨n, h⟩)))
    · rw [hside, ← hsame]
      rintro hge (hu | ⟨n, herr⟩ | hrest)
      · exact Or.inl hu
      · exact Bool.noConfusion (herr.symm.trans (of_decide_eq_true (of_length_filter_finRange hge n)))
      · exact Or.inr (Or.inr hrest)
  unfold vSystem_ExAirFanErr
  dsimp only
  rw [alarmSide_of_uncontrolled hj.wired (vSystem_ExAirFanCtrl_uncontrolled _)]
  exact hj

theorem vSystem_UnitSupAirTemp_ok {s₀ : System} (n : Fin MODULAR_ROOF_NUM) (h₀ : s₀.alarmSide.Ok)
    (hsame : { s.alarmSide with sSupAir_T := s₀.alarmSide.sSupAir_T } = s₀.alarmSide)
    (hother : ∀ m, m ≠ n → s.alarmSide.sSupAir_T m = s₀.alarmSide.sSupAir_T m) :
    (vSystem_UnitSupAirTemp n s).alarmSide.Ok := by
  have hw : s.alarmSide.Wired := by
    have hw₀ := h₀.wired
    rw [← hsame] at hw₀
    exact ⟨hw₀.enabled, hw₀.channel, hw₀.apart, hw₀.comm⟩
  have hmax : s.alarmSide.usSupAirMax_T = s₀.alarmSide.usSupAirMax_T := by rw [← hsame]
  refine judge_ok _ h₀ hw (by rw [← hsame]) ?_ ?_
  · intro hot
    exact Or.inl ⟨n, Or.inr (Or.inr hot)⟩
  · rintro hcool (⟨m, hoff | hstop | hot⟩ | hrest)
    · rw [← hsame]
      exact Or.inl ⟨m, Or.inl hoff⟩
    · rw [← hsame]
      exact Or.inl ⟨m, Or.inr (Or.inl hstop)⟩
    · have hm : m ≠ n := by
        rintro rfl
        exact hcool hot
      unfold AlarmSide.TooHot at hot
      rw [hother m hm, hmax] at hot
      exact Or.inl ⟨m, Or.inr (Or.inr hot)⟩
    · rw [← hsame]
      exact Or.inr hrest

end Handlers

/-! ### Events -/

/-- What changes: a unit goes on or off line, is stopped by a fault or released, or has another temperature; a
fault of a fan comes or goes; or a variable of a sensor is another one.  `Locals` is for the handlers that read
locals before they set them. -/
inductive AlarmEvent
  | xCommErr (l : Locals) (n : Fin MODULAR_ROOF_NUM) (xOnLine : Bool)
  | xStopErrFlag (l : Locals) (n : Fin MODULAR_ROOF_NUM) (xStopErrFlag : Bool)
  | sSupAir_T (l : Locals) (n : Fin MODULAR_ROOF_NUM) (sSupAir_T : USHORT)
  | xExAirFanErr (l : Locals) (n : Fin EX_AIR_FAN_NUM) (xExAirFanErr : Bool)
  | sensor (pvArg : SensorArg) (p : Sensors)

/-- The change, and the handler that is dispatched for it. -/
def alarmStep (q : Sensors × System) : AlarmEvent → Sensors × System
  | .xCommErr l n xOnLine =>
    (q.1, vSystem_EventPollTask l (.unit n .xCommErr)
      (q.2.setUnit n { q.2.unit n with xOnLine := xOnLine, xCommErr := !xOnLine }))
  | .xStopErrFlag l n xStopErrFlag =>
    (q.1, vSystem_EventPollTask l (.unit n .xStopErrFlag)
      (q.2.setUnit n { q.2.unit n with xStopErrFlag := xStopErrFlag }))
  | .sSupAir_T l n sSupAir_T =>
    (q.1, vSystem_EventPollTask l (.unit n .sSupAir_T) (q.2.setUnit n { q.2.unit n with sSupAir_T := sSupAir_T }))
  | .xExAirFanErr l n xExAirFanErr =>
    (q.1, vSystem_EventPollTask l (.fan n .xExAirFanErr)
      (q.2.setFan n { q.2.fan n with xExAirFanErr := xExAirFanErr }))
  | .sensor pvArg p => (p, handleSensor p pvArg q.2)

theorem setUnit_alarmSide_eq (s : System) (n : Fin MODULAR_ROOF_NUM) (u : ModularRoof) :
    (s.setUnit n u).alarmSide =
      { s.alarmSide with
        xOnLine := Function.update s.alarmSide.xOnLine n u.xOnLine
        xCommErr := Function.update s.alarmSide.xCommErr n u.xCommErr
        xStopErrFlag := Function.update s.alarmSide.xStopErrFlag n u.xStopErrFlag
        sSupAir_T := Function.update s.alarmSide.sSupAir_T n u.sSupAir_T } := by
  have hupdate {α : Type} (f : ModularRoof → α) :
      (fun m => f ((s.setUnit n u).unit m)) = Function.update (fun m => f (s.unit m)) n (f u) := by
    funext m
    rw [unit_setUnit, Function.update_apply]
    split <;> rfl
  have h1 : (s.setUnit n u).alarmSide.xOnLine = _ := hupdate ModularRoof.xOnLine
  have h2 : (s.setUnit n u).alarmSide.xCommErr = _ := hupdate ModularRoof.xCommErr
  have h3 : (s.setUnit n u).alarmSide.xStopErrFlag = _ := hupdate ModularRoof.xStopErrFlag
  have h4 : (s.setUnit n u).alarmSide.sSupAir_T = _ := hupdate ModularRoof.sSupAir_T
  have hrest : (s.setUnit n u).alarmSide = { s.alarmSide with
      xOnLine := (s.setUnit n u).alarmSide.xOnLine, xCommErr := (s.setUnit n u).alarmSide.xCommErr
      xStopErrFlag := (s.setUnit n u).alarmSide.xStopErrFlag
      sSupAir_T := (s.setUnit n u).alarmSide.sSupAir_T } := rfl
  rw [hrest, h1, h2, h3, h4]
  rfl

theorem setFan_alarmSide_eq (s : System) (n : Fin EX_AIR_FAN_NUM) (xExAirFanErr : Bool) :
    (s.setFan n { s.fan n with xExAirFanErr := xExAirFanErr }).alarmSide =
      { s.alarmSide with xExAirFanErr := Function.update s.alarmSide.xExAirFanErr n xExAirFanErr } := by
  let s' := s.setFan n { s.fan n with xExAirFanErr := xExAirFanErr }
  have hupdate : s'.alarmSide.xExAirFanErr = Function.update s.alarmSide.xExAirFanErr n xExAirFanErr := by
    funext m
    change (s'.fan m).xExAirFanErr = _
    rw [fan_setFan, Function.update_apply]
    split <;> rfl
  have hswitch : s'.alarmSide.sSwitch_DO = s.alarmSide.sSwitch_DO := by
    funext m
    change (s'.fan m).sSwitch_DO = (s.fan m).sSwitch_DO
    rw [fan_setFan]
    split
    · next hm => rw [hm]
    · rfl
  have hrest : s'.alarmSide = { s.alarmSide with
      xExAirFanErr := s'.alarmSide.xExAirFanErr, sSwitch_DO := s'.alarmSide.sSwitch_DO } := rfl
  rw [hrest, hupdate, hswitch]

theorem setUnit_temp_alarmSide (s : System) (n : Fin MODULAR_ROOF_NUM) (u : ModularRoof)
    (h : u.sSupAir_T = (s.unit n).sSupAir_T) :
    { (s.setUnit n u).alarmSide with
      xOnLine := s.alarmSide.xOnLine, xCommErr := s.alarmSide.xCommErr
      xStopErrFlag := s.alarmSide.xStopErrFlag } = s.alarmSide := by
  have hT : Function.update s.alarmSide.sSupAir_T n u.sSupAir_T = s.alarmSide.sSupAir_T := by
    rw [h]
    exact Function.update_eq_self n s.alarmSide.sSupAir_T
  rw [setUnit_alarmSide_eq, hT]

theorem setUnit_link_alarmSide (s : System) (n : Fin MODULAR_ROOF_NUM) (sSupAir_T : USHORT) :
    { (s.setUnit n { s.unit n with sSupAir_T := sSupAir_T }).alarmSide with
      sSupAir_T := s.alarmSide.sSupAir_T } = s.alarmSide := by
  have hon : Function.update s.alarmSide.xOnLine n (s.unit n).xOnLine = s.alarmSide.xOnLine :=
    Function.update_eq_self n s.alarmSide.xOnLine
  have hcomm : Function.update s.alarmSide.xCommErr n (s.unit n).xCommErr = s.alarmSide.xCommErr :=
    Function.update_eq_self n s.alarmSide.xCommErr
  have hstop : Function.update s.alarmSide.xStopErrFlag n (s.unit n).xStopErrFlag = s.alarmSide.xStopErrFlag :=
    Function.update_eq_self n s.alarmSide.xStopErrFlag
  rw [setUnit_alarmSide_eq, hon, hcomm, hstop]

theorem setUnit_wired {s : System} (hw : s.alarmSide.Wired) (n : Fin MODULAR_ROOF_NUM) (u : ModularRoof)
    (hu : u.xCommErr = !u.xOnLine) : (s.setUnit n u).alarmSide.Wired := by
  refine ⟨hw.enabled, hw.channel, hw.apart, fun m => ?_⟩
  change ((s.setUnit n u).unit m).xCommErr = !((s.setUnit n u).unit m).xOnLine
  rw [unit_setUnit]
  split
  · exact hu
  · exact hw.comm m

theorem alarmStep_ok (q : Sensors × System) (e : AlarmEvent) (h : q.2.alarmSide.Ok) :
    (alarmStep q e).2.alarmSide.Ok := by
  cases e with
  | xCommErr l n xOnLine =>
    exact vSystem_UnitErr_ok l h (setUnit_wired h.wired n _ rfl) (setUnit_temp_alarmSide q.2 n _ rfl)
  | xStopErrFlag l n xStopErrFlag =>
    exact vSystem_UnitErr_ok l h (setUnit_wired h.wired n _ (h.wired.comm n)) (setUnit_temp_alarmSide q.2 n _ rfl)
  | sSupAir_T l n sSupAir_T =>
    refine vSystem_UnitSupAirTemp_ok n h (setUnit_link_alarmSide q.2 n sSupAir_T) fun m hm => ?_
    rw [setUnit_alarmSide_eq]
    exact Function.update_of_ne hm _ _
  | xExAirFanErr l n xExAirFanErr =>
    refine vSystem_ExAirFanErr_ok h ?_
    rw [setFan_alarmSide_eq]
  | sensor pvArg p => exact handleSensor_ok p pvArg h

/-- **The alarm follows its conditions**: if the output is on where and only where a condition holds, it is so
after every event. -/
theorem alarm_follows (q : Sensors × System) (es : List AlarmEvent) (hw : q.2.alarmSide.Wired)
    (h : q.2.digitalOutput q.2.sAlarm_DO = .ON ↔ alarming q.2 = true) :
    Safe (fun q e => some (alarmStep q e)) (fun q => q.2.digitalOutput q.2.sAlarm_DO = .ON ↔ alarming q.2 = true)
      q es := by
  have hok (q : Sensors × System) (hq : q.2.alarmSide.Ok) :
      q.2.digitalOutput q.2.sAlarm_DO = .ON ↔ alarming q.2 = true := hq.exact.trans (alarming_iff q.2).symm
  have hstart : q.2.alarmSide.Ok := ⟨hw, h.trans (alarming_iff q.2)⟩
  clear hw h
  induction es generalizing q with
  | nil => exact hok q hstart
  | cons e es ih =>
    refine ⟨hok q hstart, fun q' hq' => ?_⟩
    obtain rfl := Option.some.inj hq'
    exact ih _ (alarmStep_ok q e hstart)

/-- A wired plant, all of it healthy. -/
def wiredPlant : System :=
  { System.zero with
    psModularRoofList := fun _ => { ModularRoof.zero with xOnLine := true }
    psExAirFanList := fun n => { ExAirFan.zero with sSwitch_DO := n.val + 1 }
    usCO2PPMAlarm := 1500, xAlarmEnable := true, sAlarm_DO := 13 }

def quietSensors : Sensors where
  psCO2SenList _ := ⟨true, Reading.reset MAX_CO2_PPM MIN_CO2_PPM⟩
  psTempHumiSenOutList _ := ⟨true, Reading.reset MAX_OUT_TEMP MIN_OUT_TEMP, Reading.reset MAX_HUMI MIN_HUMI⟩
  psTempHumiSenInList _ := ⟨true, Reading.reset MAX_IN_TEMP MIN_IN_TEMP, Reading.reset MAX_HUMI MIN_HUMI⟩

/-- A unit goes off line, a fan fails, and the unit comes back: the alarm stays on for the fan. -/
def linkAndFan : List AlarmEvent :=
  let l : Locals := ⟨0, 0, 0, 0, 0⟩
  [.xCommErr l 0 false, .xExAirFanErr l 1 true, .xCommErr l 0 true]

theorem wiredPlant_wired : wiredPlant.alarmSide.Wired :=
  ⟨rfl, by decide, by decide, fun _ => rfl⟩

theorem alarm_follows_wired :
    wiredPlant.alarmSide.Wired ∧
      (wiredPlant.digitalOutput wiredPlant.sAlarm_DO = .ON ↔ alarming wiredPlant = true) ∧
      Safe (fun q e => some (alarmStep q e)) (fun q => q.2.digitalOutput q.2.sAlarm_DO = .ON ↔ alarming q.2 = true)
        (quietSensors, wiredPlant) linkAndFan := by
  have hquiet : wiredPlant.digitalOutput wiredPlant.sAlarm_DO = .ON ↔ alarming wiredPlant = true := by decide
  exact ⟨wiredPlant_wired, hquiet, alarm_follows (quietSensors, wiredPlant) linkAndFan wiredPlant_wired hquiet⟩

end GreeIntense.Control

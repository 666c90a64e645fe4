import GreeIntense.Lib.Run
import GreeIntense.Control.Handlers

/-!
# The system mode

As to the mode and the fault flags the controller is a small machine (`modeStep`), whose events are a request
and what the handlers find the devices to be.  `vSystem_EventPollTask_modes` says that every handler makes a
step of this machine or none, whatever else it controls; the safety of the mode is an invariant of the
machine.
-/

namespace GreeIntense.Control

open Lib.Run

/-! ### The machine -/

/-- An event of the machine: a requested mode, with whether a fan is remote; whether a unit is usable;
whether a fan has no fault; whether a fan is remote; whether a device runs. -/
inductive ModeEvent
  | request (eMode : eSystemMode) (remote : Bool)
  | units (usable : Bool)
  | fans (faultless : Bool)
  | remote (any : Bool)
  | running (any : Bool)

/-- The mode is manual, on both sides. -/
def manual (p : Modes × eSystemMode) : Modes × eSystemMode :=
  ({ p.1 with eSystemMode := .MODE_MANUAL }, .MODE_MANUAL)

/-- Automatic mode needs a remote fan and no fault of all units or of all fans, emergency mode no fault of all
units; a request for the present mode is not refused. -/
def Refused (m : Modes) (eMode : eSystemMode) (remote : Bool) : Prop :=
  m.eSystemMode ≠ eMode ∧
    (eMode = .MODE_AUTO ∧ (remote = false ∨ m.xUnitErrFlag = true ∨ m.xExFanErrFlag = true) ∨
      eMode = .MODE_EMERGENCY ∧ m.xUnitErrFlag = true)

instance (m : Modes) (eMode : eSystemMode) (remote : Bool) : Decidable (Refused m eMode remote) :=
  inferInstanceAs (Decidable (_ ∧ _))

/-- A step of the machine: the modes of the controller and the mode in the `BMS`. -/
def modeStep (p : Modes × eSystemMode) : ModeEvent → Modes × eSystemMode
  | .request eMode remote =>
    if Refused p.1 eMode remote then (p.1, p.1.eSystemMode) else ({ p.1 with eSystemMode := eMode }, eMode)
  | .units usable =>
    let q := ({ p.1 with xUnitErrFlag := !usable }, p.2)
    if usable = false ∧ (p.1.eSystemMode = .MODE_AUTO ∨ p.1.eSystemMode = .MODE_EMERGENCY) then manual q else q
  | .fans faultless =>
    let q := ({ p.1 with xExFanErrFlag := !faultless }, p.2)
    if faultless = false ∧ p.1.eSystemMode = .MODE_AUTO then manual q else q
  | .remote any => if any = false ∧ p.1.eSystemMode = .MODE_AUTO then manual p else p
  | .running any => if any = true ∧ p.1.eSystemMode = .MODE_CLOSE then manual p else p

theorem modeStep_refused {p : Modes × eSystemMode} {eMode : eSystemMode} {remote : Bool}
    (h : Refused p.1 eMode remote) : modeStep p (.request eMode remote) = (p.1, p.1.eSystemMode) := if_pos h

theorem modeStep_taken {p : Modes × eSystemMode} {eMode : eSystemMode} {remote : Bool}
    (h : ¬Refused p.1 eMode remote) :
    modeStep p (.request eMode remote) = ({ p.1 with eSystemMode := eMode }, eMode) := if_neg h

/-- **Safe modes**: automatic mode only without a fault of all units or of all fans, emergency mode only
without a fault of all units, and the same mode on both sides. -/
structure ModeSafe (p : Modes × eSystemMode) : Prop where
  auto : p.1.eSystemMode = .MODE_AUTO → p.1.xUnitErrFlag = false ∧ p.1.xExFanErrFlag = false
  emergency : p.1.eSystemMode = .MODE_EMERGENCY → p.1.xUnitErrFlag = false
  agree : p.1.eSystemMode = p.2

theorem manual_safe (p : Modes × eSystemMode) : ModeSafe (manual p) := ⟨nofun, nofun, rfl⟩

/-- **The machine stays safe.** -/
theorem ModeSafe.step {p : Modes × eSystemMode} (h : ModeSafe p) (ev : ModeEvent) : ModeSafe (modeStep p ev) := by
  cases ev with
  | request eMode remote =>
    by_cases hr : Refused p.1 eMode remote
    · rw [modeStep_refused hr]
      exact ⟨h.auto, h.emergency, rfl⟩
    · rw [modeStep_taken hr]
      by_cases he : p.1.eSystemMode = eMode
      · -- the mode is the one already: nothing is checked
        subst he
        exact ⟨h.auto, h.emergency, rfl⟩
      · -- a new mode is taken only where nothing forbids it
        have hr' := fun hx => hr ⟨he, hx⟩
        refine ⟨fun ha => ⟨?_, ?_⟩, fun hm => ?_, rfl⟩
        · exact Bool.eq_false_iff.mpr fun hu => hr' (.inl ⟨ha, .inr (.inl hu)⟩)
        · exact Bool.eq_false_iff.mpr fun hf => hr' (.inl ⟨ha, .inr (.inr hf)⟩)
        · exact Bool.eq_false_iff.mpr fun hu => hr' (.inr ⟨hm, hu⟩)
  | units usable =>
    simp only [modeStep]
    split
    · exact manual_safe _
    · next hn =>
      cases usable with
      | true => exact ⟨fun ha => ⟨rfl, (h.auto ha).2⟩, fun _ => rfl, h.agree⟩
      | false => exact ⟨fun ha => absurd ⟨rfl, .inl ha⟩ hn, fun he => absurd ⟨rfl, .inr he⟩ hn, h.agree⟩
  | fans faultless =>
    simp only [modeStep]
    split
    · exact manual_safe _
    · next hn =>
      cases faultless with
      | true => exact ⟨fun ha => ⟨(h.auto ha).1, rfl⟩, h.emergency, h.agree⟩
      | false => exact ⟨fun ha => absurd ⟨rfl, ha⟩ hn, h.emergency, h.agree⟩
  | remote any =>
    simp only [modeStep]
    split
    · exact manual_safe p
    · exact h
  | running any =>
    simp only [modeStep]
    split
    · exact manual_safe p
    · exact h

/-! ### The handlers are steps of the machine -/

section Refinement

variable (s : System)

theorem refuseMode_modes : (refuseMode s).modes = (s.toModes, s.eSystemMode) := rfl

theorem backToManual_modes : (backToManual s).modes = manual s.modes := rfl

theorem leaveClose_modes : (leaveClose s).modes = modeStep s.modes (.running true) := by
  simp only [leaveClose, modeStep, true_and]
  by_cases h : s.eSystemMode = .MODE_CLOSE
  · rw [if_pos h, if_pos (show s.modes.1.eSystemMode = .MODE_CLOSE from h), backToManual_modes]
  · rw [if_neg h, if_neg (show ¬s.modes.1.eSystemMode = .MODE_CLOSE from h)]

theorem vSystem_ChangeSystemMode_modes (eMode : eSystemMode) (h : s.psBMS.eSystemMode = eMode) :
    (vSystem_ChangeSystemMode eMode s).modes = modeStep s.modes (.request eMode (anyRemote s)) := by
  simp only [vSystem_ChangeSystemMode]
  by_cases he : s.eSystemMode = eMode
  · rw [if_pos he, modeStep_taken fun hr => hr.1 he]
    subst he
    exact Prod.ext rfl h
  rw [if_neg he]
  -- a request that is taken sets the mode, and what it controls besides leaves the modes alone
  have taken (s' : System) (hk : s'.kept = System.kept { s with eSystemMode := eMode })
      (hr : ¬Refused s.toModes eMode (anyRemote s)) : s'.modes = modeStep s.modes (.request eMode (anyRemote s)) := by
    rw [modeStep_taken hr, modes_of_kept hk]
    exact Prod.ext rfl h
  cases eMode with
  | MODE_CLOSE =>
    refine taken _ (vSystem_SwitchClose_kept _) ?_
    intro hr
    rcases hr.2 with ⟨hx, -⟩ | ⟨hx, -⟩ <;> cases hx
  | MODE_MANUAL =>
    refine taken _ rfl ?_
    intro hr
    rcases hr.2 with ⟨hx, -⟩ | ⟨hx, -⟩ <;> cases hx
  | MODE_AUTO =>
    by_cases hr : anyRemote s = false ∨ s.xUnitErrFlag = true ∨ s.xExFanErrFlag = true
    · rw [modeStep_refused ⟨he, .inl ⟨rfl, hr⟩⟩]
      simp only [if_pos hr]
      exact refuseMode_modes s
    · simp only [if_neg hr]
      refine taken _ (by simp only [vSystem_ExAirFanCtrl_kept, startMode_kept, vSystem_SwitchOpen_kept]) ?_
      intro hx
      rcases hx.2 with ⟨-, hx⟩ | ⟨hx, -⟩
      · exact hr hx
      · cases hx
  | MODE_EMERGENCY =>
    by_cases hr : s.xUnitErrFlag = true
    · rw [modeStep_refused ⟨he, .inr ⟨rfl, hr⟩⟩]
      simp only [if_pos hr]
      exact refuseMode_modes s
    · simp only [if_neg hr]
      refine taken _ ?_ ?_
      · simp only [vSystem_ExAirFanCtrl_kept, vSystem_SetUnitRunningMode_kept, vSystem_SwitchOpen_kept]
      · intro hx
        rcases hx.2 with ⟨hx, -⟩ | ⟨-, hx⟩
        · cases hx
        · exact hr hx

def anyRuns (s : System) : Bool := anyFanRuns s || (runningUnit s).isSome

theorem running_false (p : Modes × eSystemMode) : modeStep p (.running false) = p := rfl

theorem running_running (p : Modes × eSystemMode) (b : Bool) :
    modeStep (modeStep p (.running b)) (.running true) = modeStep p (.running true) := by
  cases b with
  | false => rfl
  | true =>
    simp only [modeStep, true_and]
    split
    · exact if_neg (show ¬eSystemMode.MODE_MANUAL = .MODE_CLOSE by decide)
    · rfl

theorem fanLeavesClose_modes : (fanLeavesClose s).modes = modeStep s.modes (.running (anyFanRuns s)) := by
  unfold fanLeavesClose
  cases anyFanRuns s with
  | true => exact leaveClose_modes s
  | false => rfl

theorem takeRunningMode_modes (eRunMode : eRunningMode) : (takeRunningMode eRunMode s).modes = s.modes := by
  cases eRunMode <;> rfl

theorem leaveCloseUnit_modes (eRunMode : eRunningMode) :
    (leaveCloseUnit eRunMode s).modes = modeStep s.modes (.running true) := by
  rw [← leaveClose_modes]
  unfold leaveCloseUnit leaveClose
  split <;> rfl

theorem vSystem_FanRunningState_modes (n : Fin EX_AIR_FAN_NUM) :
    (vSystem_FanRunningState n s).modes = modeStep s.modes (.running (anyRuns s)) := by
  have hm : (fanLeavesClose (fanFollows n s)).modes = modeStep s.modes (.running (anyFanRuns s)) := by
    rw [fanLeavesClose_modes, modes_of_kept (fanFollows_kept n s), fanFollows_anyFanRuns]
  simp only [vSystem_FanRunningState, anyRuns, fanLeavesClose_runningUnit, fanFollows_runningUnit]
  cases runningUnit s with
  | none =>
    simp only [Option.isSome_none, Bool.or_false]
    exact hm
  | some m =>
    simp only [Option.isSome_some, Bool.or_true]
    refine (leaveCloseUnit_modes _ _).trans ?_
    rw [takeRunningMode_modes, hm, running_running]

theorem vSystem_UnitRunningState_modes (n : Fin MODULAR_ROOF_NUM) (xRunningState : Bool) :
    (vSystem_UnitRunningState n xRunningState s).modes = modeStep s.modes (.running (anyRuns s)) := by
  have hm : (if xRunningState = true then unitFollows n s else s).modes = s.modes := by
    split <;> rfl
  have hu : runningUnit (if xRunningState = true then unitFollows n s else s) = runningUnit s := by
    split <;> simp
  have hf : anyFanRuns (if xRunningState = true then unitFollows n s else s) = anyFanRuns s := by
    split <;> rfl
  simp only [vSystem_UnitRunningState, anyRuns, hu, hf]
  generalize (if xRunningState = true then unitFollows n s else s) = s₁ at hm ⊢
  cases runningUnit s with
  | none =>
    simp only [Option.isSome_none, Bool.or_false]
    cases anyFanRuns s with
    | true => exact (leaveClose_modes s₁).trans (by rw [hm])
    | false => exact hm
  | some m =>
    simp only [Option.isSome_some, Bool.or_true]
    refine (leaveCloseUnit_modes _ _).trans ?_
    rw [← hm, ← takeRunningMode_modes s₁]
    rfl

theorem shareFreAir_modes : (shareFreAir s).modes = s.modes := by
  unfold shareFreAir
  cases (units.filter (unitUsable s)).getLast? with
  | none => rfl
  | some n =>
    dsimp only
    split
    · unfold oneUnitFreAir
      split <;> rfl
    · exact foldl_kept System.modes (fun _ _ => rfl) units s

theorem setUnitErrFlag_modes (usable : Bool) :
    (setUnitErrFlag (!usable) s).modes = modeStep s.modes (.units usable) := by
  cases usable with
  | true => rfl
  | false =>
    simp only [setUnitErrFlag, modeStep, Bool.not_false, true_and]
    by_cases h : s.eSystemMode = .MODE_AUTO ∨ s.eSystemMode = .MODE_EMERGENCY
    · exact (congrArg System.modes (if_pos h)).trans (if_pos h).symm
    · exact (congrArg System.modes (if_neg h)).trans (if_neg h).symm

theorem setFanErrFlag_modes (faultless : Bool) :
    (setFanErrFlag (!faultless) s).modes = modeStep s.modes (.fans faultless) := by
  cases faultless with
  | true => rfl
  | false =>
    simp only [setFanErrFlag, modeStep, Bool.not_false, true_and]
    by_cases h : s.eSystemMode = .MODE_AUTO
    · exact (congrArg System.modes (if_pos h)).trans (if_pos h).symm
    · exact (congrArg System.modes (if_neg h)).trans (if_neg h).symm

theorem none_usable {α : Type} (as : List α) (p : α → Bool) : decide ((as.filter p).length = 0) = !as.any p := by
  rw [Bool.eq_iff_iff]
  simp [List.length_eq_zero_iff, List.filter_eq_nil_iff]

theorem vSystem_UnitErr_modes (l : Locals) :
    (vSystem_UnitErr l s).modes = modeStep s.modes (.units (units.any (unitUsable s))) := by
  simp only [vSystem_UnitErr, none_usable, setUnitErrFlag_modes]
  -- everything up to the flag leaves the modes alone
  congr 1
  refine (modes_of_kept (s := shareFreAir (openUsable s)) (by simp)).trans ?_
  rw [shareFreAir_modes]
  exact modes_of_kept (openUsable_kept s)

theorem vSystem_ExAirFanErr_modes :
    (vSystem_ExAirFanErr s).modes = modeStep s.modes (.fans (fans.any fun n => (s.fan n).xExAirFanErr = false)) := by
  have hn : decide ((faultless s).length = 0) = !fans.any fun n => (s.fan n).xExAirFanErr = false :=
    none_usable fans _
  simp only [vSystem_ExAirFanErr, hn]
  rw [← setFanErrFlag_modes]
  refine modes_of_kept ((vSystem_ExAirFanCtrl_kept _).trans ?_)
  rw [ite_kept, vSystem_SetAlarm_kept, vSystem_DelAlarmRequst_kept, ite_self]

theorem vSystem_ExAirFanRemoteChange_modes :
    (vSystem_ExAirFanRemoteChange s).modes = modeStep s.modes (.remote (anyRemote s)) := by
  simp only [vSystem_ExAirFanRemoteChange, modeStep]
  refine (modes_of_kept (vSystem_ExAirFanCtrl_kept _)).trans ?_
  by_cases h : anyRemote s = false ∧ s.modes.1.eSystemMode = .MODE_AUTO
  · rw [if_pos h]
    exact congrArg System.modes (if_pos h)
  · rw [if_neg h]
    exact congrArg System.modes (if_neg h)

/-! ### The settings leave the modes alone -/

theorem vSystem_CleanAlarm_modes : (vSystem_CleanAlarm s).modes = s.modes := by
  unfold vSystem_CleanAlarm
  split
  · exact modes_of_kept (kept_of_fanless (vDigitalOutputCtrl_fanless _ _ s))
  · rfl

theorem vSystem_AlarmEnable_modes (xAlarmEnable : Bool) : (vSystem_AlarmEnable xAlarmEnable s).modes = s.modes := by
  have hk : (vSystem_AlarmEnable xAlarmEnable s).fanless = System.fanless { s with xAlarmEnable := xAlarmEnable } := by
    simp [vSystem_AlarmEnable]
  exact (modes_of_kept (kept_of_fanless hk)).trans rfl

theorem vSystem_ExAirFanErrClean_modes : (vSystem_ExAirFanErrClean s).modes = s.modes := by
  unfold vSystem_ExAirFanErrClean
  split
  · rfl
  · exact modes_of_kept (cleanFans_kept s)

theorem vSystem_SetTemp_modes (usTempSet : USHORT) : (vSystem_SetTemp usTempSet s).modes = s.modes := by
  unfold vSystem_SetTemp
  split
  · exact (modes_of_kept ((vSystem_ChangeUnitRunningMode_kept _).trans (setUnitTemps_kept _ _))).trans rfl
  · rfl

-- stated for any volume: with the one of the two words the kernel multiplies it out
theorem setFreAir_modes (ulFreAirSet_Vol : ULONG) :
    System.modes { s with ulFreAirSet_Vol := ulFreAirSet_Vol } = s.modes := rfl

theorem setExAirFanRated_modes (ulExAirFanRated_Vol : ULONG) :
    System.modes { s with ulExAirFanRated_Vol := ulExAirFanRated_Vol } = s.modes := rfl

theorem vSystem_SetFreAir_modes (usFreAirSet_Vol_H usFreAirSet_Vol_L : USHORT) :
    (vSystem_SetFreAir usFreAirSet_Vol_H usFreAirSet_Vol_L s).modes = s.modes := by
  simp only [vSystem_SetFreAir]
  split
  · rfl
  · split
    · rfl
    · refine (modes_of_kept (vSystem_ExAirSet_Vol_kept _)).trans ?_
      exact (shareFreAir_modes _).trans (setFreAir_modes s _)

theorem vSystem_ExAirRatio_modes (ucExAirCoolRatio ucExAirHeatRatio : UCHAR) :
    (vSystem_ExAirRatio ucExAirCoolRatio ucExAirHeatRatio s).modes = s.modes := by
  unfold vSystem_ExAirRatio
  split
  · exact (modes_of_kept (vSystem_ExAirSet_Vol_kept _)).trans rfl
  · rfl

theorem vSystem_SetHumidity_modes (usHumidityMin usHumidityMax : USHORT) :
    (vSystem_SetHumidity usHumidityMin usHumidityMax s).modes = s.modes :=
  foldl_kept System.modes (fun _ _ => rfl) units _

theorem vSystem_SetCO2AdjustThr_V_modes (usCO2AdjustThr_V : USHORT) :
    (vSystem_SetCO2AdjustThr_V usCO2AdjustThr_V s).modes = s.modes := by
  unfold vSystem_SetCO2AdjustThr_V
  split
  · refine (modes_of_kept (vSystem_ExAirFanCtrl_kept _)).trans ?_
    exact (foldl_kept System.modes (fun s n => rfl) units _).trans rfl
  · rfl

theorem vSystem_SetCO2AdjustDeviat_modes (usCO2AdjustDeviat : USHORT) :
    (vSystem_SetCO2AdjustDeviat usCO2AdjustDeviat s).modes = s.modes :=
  foldl_kept System.modes (fun _ _ => rfl) units _

theorem vSystem_SetExAirFanFreqRange_modes (usMinFreq usMaxFreq : USHORT) :
    (vSystem_SetExAirFanFreqRange usMinFreq usMaxFreq s).modes = s.modes := by
  refine (modes_of_kept (setFreqRanges_kept _ _ _)).trans ?_
  dsimp only
  split <;> split <;> rfl

theorem vSystem_ChangeExAirFanType_modes (eExAirFanType : eExAirFanType) :
    (vSystem_ChangeExAirFanType eExAirFanType s).modes = s.modes := by
  cases eExAirFanType <;> rfl

theorem vSystem_SetExAirFanCtrlPeriod_modes (usExAirFanCtrlPeriod : USHORT) :
    (vSystem_SetExAirFanCtrlPeriod usExAirFanCtrlPeriod s).modes = s.modes := by
  unfold vSystem_SetExAirFanCtrlPeriod
  split
  · exact (modes_of_kept (vSystem_ExAirFanCtrl_kept _)).trans rfl
  · rfl

theorem vSystem_SetExAirFanRated_modes (usExAirFanRated_Vol_H usExAirFanRated_Vol_L : USHORT) :
    (vSystem_SetExAirFanRated usExAirFanRated_Vol_H usExAirFanRated_Vol_L s).modes = s.modes := by
  simp only [vSystem_SetExAirFanRated]
  split
  · rfl
  · exact (modes_of_kept (vSystem_ExAirFanCtrl_kept _)).trans (setExAirFanRated_modes s _)

theorem handleBMS_modes {v : BMSVar} (hv : v ≠ .eSystemMode) : (handleBMS v s).modes = s.modes := by
  cases v <;> simp only [handleBMS]
  case eSystemMode => exact absurd rfl hv
  case eRunningMode => exact modes_of_kept (vSystem_SetUnitRunningMode_kept _ _)
  case xAlarmClean => exact vSystem_CleanAlarm_modes s
  case xAlarmEnable => exact vSystem_AlarmEnable_modes s _
  case xExAirFanErrClean => exact vSystem_ExAirFanErrClean_modes s
  case usTempSet => exact vSystem_SetTemp_modes s _
  case usFreAirSet_Vol_H | usFreAirSet_Vol_L => exact vSystem_SetFreAir_modes s _ _
  case ucExAirCoolRatio | ucExAirHeatRatio => exact vSystem_ExAirRatio_modes s _ _
  case usHumidityMin | usHumidityMax => exact vSystem_SetHumidity_modes s _ _
  case usCO2AdjustThr_V => exact vSystem_SetCO2AdjustThr_V_modes s _
  case usCO2AdjustDeviat => exact vSystem_SetCO2AdjustDeviat_modes s _
  case usExAirFanFreq => exact modes_of_kept (vSystem_AdjustExAirFanFreq_kept _ _)
  case usExAirFanMinFreq | usExAirFanMaxFreq => exact vSystem_SetExAirFanFreqRange_modes s _ _
  case eExAirFanType => exact vSystem_ChangeExAirFanType_modes s _
  case usExAirFanCtrlPeriod => exact vSystem_SetExAirFanCtrlPeriod_modes s _
  case usExAirFanRated_Vol_H | usExAirFanRated_Vol_L => exact vSystem_SetExAirFanRated_modes s _ _

/-- What a handler finds, as far as the modes depend on it. -/
def observe (pvArg : Arg) (s : System) : Option ModeEvent :=
  match pvArg with
  | .bms v => if v = .eSystemMode then some (.request s.psBMS.eSystemMode (anyRemote s)) else none
  | .unit _ .eRunningState | .unit _ .eRunningMode => some (.running (anyRuns s))
  | .unit _ .xStopErrFlag | .unit _ .xCommErr => some (.units (units.any (unitUsable s)))
  | .unit _ _ => none
  | .fan _ .xExAirFanErr => some (.fans (fans.any fun n => (s.fan n).xExAirFanErr = false))
  | .fan _ .xExAirFanRemote => some (.remote (anyRemote s))
  | .fan _ .eRunningState => some (.running (anyRuns s))

/-- **Every handler makes a step of the machine**, or leaves the modes alone. -/
theorem vSystem_EventPollTask_modes (l : Locals) (pvArg : Arg) :
    (vSystem_EventPollTask l pvArg s).modes = ((observe pvArg s).map (modeStep s.modes)).getD s.modes := by
  cases pvArg with
  | bms v =>
    simp only [vSystem_EventPollTask, observe]
    by_cases hv : v = .eSystemMode
    · subst hv
      exact vSystem_ChangeSystemMode_modes s _ rfl
    · rw [if_neg hv]
      exact handleBMS_modes s hv
  | unit n v =>
    cases v <;> simp only [vSystem_EventPollTask, handleUnit, observe, Option.map_some, Option.map_none,
      Option.getD_some, Option.getD_none]
    case eRunningState | eRunningMode => exact vSystem_UnitRunningState_modes s n _
    case eSwitchState => exact modes_of_kept (by simp [vSystem_UnitSwitchState])
    case eSwitchCmd => rfl
    case sSupAir_T => exact modes_of_kept (by simp [vSystem_UnitSupAirTemp])
    case usFreAir_Vol => rfl
    case xStopErrFlag | xCommErr => exact vSystem_UnitErr_modes s l
    case sAmbientInSelf_T | usAmbientInSelf_H => exact modes_of_kept (vSystem_UnitTempHumiIn_kept s l)
    case sAmbientOutSelf_T | usAmbientOutSelf_H => exact modes_of_kept (vSystem_UnitTempHumiOut_kept s)
    case usCO2PPMSelf => exact modes_of_kept (vSystem_UnitCO2PPM_kept s l)
  | fan n v =>
    cases v <;> simp only [vSystem_EventPollTask, handleFan, observe, Option.map_some, Option.getD_some]
    case xExAirFanErr => exact vSystem_ExAirFanErr_modes s
    case xExAirFanRemote => exact vSystem_ExAirFanRemoteChange_modes s
    case eRunningState => exact vSystem_FanRunningState_modes s n

end Refinement

/-! ### Runs of the controller -/

/-- What happens to the controller: anything but the modes changes, the `BMS` requests a mode, or the event
task handles a changed variable. -/
inductive ControlEvent
  | environment (change : System → System)
  | request (eMode : eSystemMode) (l : Locals)
  | handle (pvArg : Arg) (l : Locals)

/-- The `BMS` writes a mode. -/
def writeMode (eMode : eSystemMode) (s : System) : System := { s with psBMS := { s.psBMS with eSystemMode := eMode } }

/-- A step of the controller.  A request is written to the `BMS` and then handled. -/
def controlStep (s : System) : ControlEvent → Option System
  | .environment change => if (change s).modes = s.modes then some (change s) else none
  | .request eMode l => some (vSystem_EventPollTask l (.bms .eSystemMode) (writeMode eMode s))
  | .handle pvArg l => some (vSystem_EventPollTask l pvArg s)

theorem ModeSafe.controlStep {s s' : System} (h : ModeSafe s.modes) {ev : ControlEvent}
    (hs : controlStep s ev = some s') : ModeSafe s'.modes := by
  cases ev with
  | environment change =>
    simp only [Control.controlStep] at hs
    split at hs
    · next hm =>
      cases hs
      rw [hm]
      exact h
    · cases hs
  | request eMode l =>
    cases hs
    rw [vSystem_EventPollTask_modes]
    exact h.step (.request eMode (anyRemote (writeMode eMode s)))
  | handle pvArg l =>
    cases hs
    rw [vSystem_EventPollTask_modes]
    cases observe pvArg s with
    | none => exact h
    | some ev => exact h.step ev

/-- **The mode is always safe.**  From a closed controller without faults, after any requests and any handlers,
in any order, while the devices and everything else but the modes take any values: automatic mode excludes
both faults, emergency mode the one of the units, and the `BMS` shows the mode of the controller. -/
theorem modes_safe {s s' : System} (h0 : s.modes = (⟨.MODE_CLOSE, false, false⟩, .MODE_CLOSE))
    {es : List ControlEvent} (hr : run controlStep s es = some s') : ModeSafe s'.modes := by
  refine run_induction (P := fun s : System => ModeSafe s.modes) ?_ (fun s ev s' h hs => h.controlStep hs) hr
  rw [h0]
  exact ⟨nofun, nofun, rfl⟩

/-- The fans are switched to remote and automatic mode is requested; then all fans have a fault. -/
def faultyRun : List ControlEvent :=
  let l : Locals := ⟨0, 0, 0, 0, 0⟩
  [.environment fun s => { s with psExAirFanList := fun n => { s.fan n with xExAirFanRemote := true } },
    .request .MODE_AUTO l,
    .environment fun s => { s with psExAirFanList := fun n => { s.fan n with xExAirFanErr := true } },
    .handle (.fan 0 .xExAirFanErr) l]

theorem modes_safe_faultyRun :
    ∃ s, run controlStep System.zero faultyRun = some s ∧ s.modes = (⟨.MODE_MANUAL, false, true⟩, .MODE_MANUAL) ∧
      ModeSafe s.modes := by
  have hrun : (run controlStep System.zero faultyRun).map (fun s => s.modes) =
      some (⟨.MODE_MANUAL, false, true⟩, .MODE_MANUAL) := by
    decide
  obtain ⟨s, hs, hv⟩ := Option.map_eq_some_iff.mp hrun
  exact ⟨s, hs, hv, modes_safe rfl hs⟩

end GreeIntense.Control

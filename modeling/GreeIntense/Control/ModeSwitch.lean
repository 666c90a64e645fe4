import GreeIntense.Control.UnitCtrl
import GreeIntense.Os.Clock

/-!
# The automatic mode switch (`unitctrl.c`)

In `MODE_AUTO` the running mode follows the room: `vSystem_ChangeUnitRunningMode` starts a change timer where the
temperature is beyond a threshold or all compressors have stopped, `vSystem_AdjustUnitRunningMode`, which is also
the callback of the change timers, takes the transition where the condition holds, its change timer does not run
and neither does the period timer of the transition.

`Auto` is the controller with these timers on the clock of the timer task, and `Auto.step` what can come: time,
the end of a timer, new readings and settings, a running mode set from outside, and the two evaluations.
`Switch` is what the two read and write; setting a running mode changes nothing of it but the mode
(`vSystem_SetUnitRunningMode_switch`).
-/

namespace GreeIntense.Control

open Os

/-- The controller with the timers of the mode switch on the clock. -/
structure Auto where
  sys : System
  OSTmrTickCtr : ℕ
  Match : ℕ → ℕ
  usModeChangePeriod : ℕ → USHORT
  sModeChangePeriodTmr : ℕ → ClockedTmr

namespace Auto

def changeTmr (k : ℕ) (a : Auto) : ClockedTmr := ⟨a.sys.sModeChangeTmr k, a.Match k⟩

/-- The period timer `k`, where it does not run. -/
def periodTmrDue (k : ℕ) (a : Auto) : Bool := (a.sModeChangePeriodTmr k).running = false

/-- `xTimerRegist` of the period timer `k`. -/
def registModePeriod (k : ℕ) (a : Auto) : Auto :=
  let tmr := (a.sModeChangePeriodTmr k).regist a.OSTmrTickCtr ((a.usModeChangePeriod k).setWidth 32 * 60)
  { a with sModeChangePeriodTmr := Function.update a.sModeChangePeriodTmr k tmr }

def setMode (eRunMode : eRunningMode) (a : Auto) : Auto :=
  { a with sys := vSystem_SetUnitRunningMode eRunMode a.sys }

/-- The compressors have not run yet in the mode, if they do not run as it is entered. -/
def setFirstRun (a : Auto) : Auto :=
  let r := xSystem_UnitCompsClosed a.sys
  { a with sys := if r.1 then { r.2 with xCompFirstRun := true } else r.2 }

def enterFan (a : Auto) : Auto := registModePeriod 1 (a.setMode .RUN_MODE_FAN)

def enterWet (a : Auto) : Auto := registModePeriod 4 (registModePeriod 3 (a.setMode .RUN_MODE_WET))

def enterCool (a : Auto) : Auto := registModePeriod 5 (a.setMode .RUN_MODE_COOL).setFirstRun

def enterHeat (a : Auto) : Auto := registModePeriod 6 (a.setMode .RUN_MODE_HEAT).setFirstRun

/-- The transition of the change timer `j` and the period timer `k` when all compressors have stopped that had run
in this mode. -/
def leaveOnCompsClosed (j k : ℕ) (enter : Auto → Auto) (a : Auto) : Auto :=
  if a.sys.xCompFirstRun = false then
    let r := xSystem_UnitCompsClosed a.sys
    let a := { a with sys := r.2 }
    if r.1 ∧ changeTmrDue j a.sys ∧ a.periodTmrDue k then enter a else a
  else a

def vSystem_AdjustUnitRunningMode (a : Auto) : Auto :=
  let s := a.sys
  if s.eSystemMode ≠ .MODE_AUTO ∨ s.eSystemState = .STATE_CLOSED then a
  else
    match s.eRunningMode with
    | .unset => a
    | .RUN_MODE_FAN =>
      if warmer s.usTempSet 1 s ∧ changeTmrDue 1 s ∧ a.periodTmrDue 1 then a.enterWet
      else if colder s.usTempSet 2 s ∧ changeTmrDue 2 s ∧ a.periodTmrDue 2 then a.enterHeat
      else a
    | .RUN_MODE_WET =>
      let r := usSystem_ChangeEnergyTemp s
      let s := r.2
      let a := { a with sys := s }
      if warmer r.1 3 s ∧ changeTmrDue 3 s ∧ a.periodTmrDue 3 then a.enterCool
      else if colder s.usTempSet 4 s ∧ changeTmrDue 4 s ∧ a.periodTmrDue 4 then a.enterFan
      else a
    | .RUN_MODE_COOL =>
      let r := usSystem_ChangeEnergyTemp s
      let s := r.2
      let a := { a with sys := s }
      if colder r.1 5 s ∧ changeTmrDue 5 s ∧ a.periodTmrDue 5 then a.enterWet
      else a.leaveOnCompsClosed 7 5 enterWet
    | .RUN_MODE_HEAT =>
      if warmer s.usTempSet 6 s ∧ changeTmrDue 6 s ∧ a.periodTmrDue 6 then a.enterFan
      else a.leaveOnCompsClosed 8 6 enterFan

/-- `vSystem_ChangeUnitRunningMode`; a timer that is started gets its end. -/
def changeUnitRunningMode (a : Auto) : Auto :=
  let s := vSystem_ChangeUnitRunningMode a.sys
  { a with
    sys := s
    Match := fun k =>
      if changeTmrDue k a.sys = true ∧ changeTmrDue k s = false then a.OSTmrTickCtr + (s.sModeChangeTmr k).Dly.toNat
      else a.Match k }

end Auto

/-! ### Steps -/

inductive AutoEvent
  | pass (ticks : ℕ)
  | endChangeTmr (k : ℕ)
  | endPeriodTmr (k : ℕ)
  | world (w : System)
  | setPeriods (usModeChangePeriod : ℕ → USHORT)
  | setRunningMode (eRunMode : eRunningMode)
  | change
  | adjust

/-- Everything else in the controller can change: readings, settings, the units and the state. -/
def System.world (s w : System) : System :=
  { w with
    eSystemMode := s.eSystemMode, eRunningMode := s.eRunningMode, sModeChangeTmr := s.sModeChangeTmr
    xCompFirstRun := s.xCompFirstRun }

def Auto.step (a : Auto) : AutoEvent → Auto
  | .pass ticks => { a with OSTmrTickCtr := a.OSTmrTickCtr + ticks }
  | .endChangeTmr k =>
    let tmr := ((a.changeTmr k).expire a.OSTmrTickCtr).tmr
    { a with sys := { a.sys with sModeChangeTmr := Function.update a.sys.sModeChangeTmr k tmr } }
  | .endPeriodTmr k =>
    let tmr := (a.sModeChangePeriodTmr k).expire a.OSTmrTickCtr
    { a with sModeChangePeriodTmr := Function.update a.sModeChangePeriodTmr k tmr }
  | .world w => { a with sys := a.sys.world w }
  | .setPeriods usModeChangePeriod => { a with usModeChangePeriod := usModeChangePeriod }
  | .setRunningMode eRunMode => a.setMode eRunMode
  | .change => a.changeUnitRunningMode
  | .adjust => a.vSystem_AdjustUnitRunningMode

/-! ### What the mode switch works on -/

/-- What the evaluations read and write. -/
structure Switch where
  eSystemMode : eSystemMode
  eRunningMode : eRunningMode
  usModeChangeTime : ℕ → USHORT
  usModeAdjustTemp : ℕ → USHORT
  usTempSet : USHORT
  usEnergyTemp : USHORT
  usTempDeviat : USHORT
  sAmbientIn_T : USHORT
  sModeChangeTmr : ℕ → OS_TMR
  xCompFirstRun : Bool
  comps : Fin MODULAR_ROOF_NUM → Bool × Bool × Bool

/-- Whether the compressors of a unit run, and its two faults. -/
def ModularRoof.comps (u : ModularRoof) : Bool × Bool × Bool := (u.xCompRunning, u.xStopErrFlag, u.xCommErr)

def System.switch (s : System) : Switch :=
  ⟨s.eSystemMode, s.eRunningMode, s.usModeChangeTime, s.usModeAdjustTemp, s.usTempSet, s.usEnergyTemp,
    s.usTempDeviat, s.sAmbientIn_T, s.sModeChangeTmr, s.xCompFirstRun, fun n => (s.unit n).comps⟩

theorem switch_mode (s : System) : s.switch.eRunningMode = s.eRunningMode := rfl

theorem switch_time (s : System) : s.switch.usModeChangeTime = s.usModeChangeTime := rfl

theorem switch_firstRun (s : System) : s.switch.xCompFirstRun = s.xCompFirstRun := rfl

def compsClosed (s : System) : Bool := (xSystem_UnitCompsClosed s).1

section Frame

variable (s : System)

theorem setUnit_switch (n : Fin MODULAR_ROOF_NUM) (u : ModularRoof) (h : u.comps = (s.unit n).comps) :
    (s.setUnit n u).switch = s.switch := by
  have hc : (fun m => ((s.setUnit n u).unit m).comps) = fun m => (s.unit m).comps := by
    funext m
    rw [unit_setUnit]
    split
    next hm => rw [hm, h]
    · rfl
  unfold System.switch
  rw [hc]
  rfl

theorem switch_of_fanless {s s' : System} (h : s'.fanless = s.fanless) : s'.switch = s.switch := by
  have hm : s'.eSystemMode = s.eSystemMode :=
    congrArg (fun k => k.1.1.eSystemMode) (kept_of_fanless h)
  have ht : s'.usTempSet = s.usTempSet := congrArg (fun k => k.2.1.usTempSet) (kept_of_fanless h)
  have hu := unitSide_of_fanless h
  unfold System.unitSide at hu
  injection hu with _ h1 h2 h3 h4 h5 h6 h7 h8 h9
  simp only [System.switch, System.unit, hm, ht, h1, h2, h3, h4, h5, h6, h7, h8, h9]

@[simp] theorem setUnitTemps_switch (usTempSet : USHORT) : (setUnitTemps usTempSet s).switch = s.switch :=
  foldl_kept System.switch
    (fun s n => setUnit_switch s n { s.unit n with usCoolTempSet := usTempSet, usHeatTempSet := usTempSet } rfl) units s

@[simp] theorem usSystem_ChangeEnergyTemp_switch : (usSystem_ChangeEnergyTemp s).2.switch = s.switch := by
  unfold usSystem_ChangeEnergyTemp
  split
  · rfl
  · split
    · exact setUnitTemps_switch s _
    · rfl

@[simp] theorem vSystem_OpenUnits_switch : (vSystem_OpenUnits s).switch = s.switch := by
  refine foldl_kept System.switch (fun s n => ?_) units s
  unfold vModularRoof_SwitchOpen
  dsimp only
  split
  · exact setUnit_switch s n _ rfl
  · rfl

theorem unitRunningMode_switch (eRunMode : eRunningMode) (n : Fin MODULAR_ROOF_NUM) :
    (unitRunningMode eRunMode s n).switch = s.switch := by
  have hm : (vModularRoof_SetRunningMode n eRunMode s).switch = s.switch := setUnit_switch s n _ rfl
  unfold unitRunningMode
  dsimp only
  split
  · refine Eq.trans ?_ hm
    exact setUnit_switch (vModularRoof_SetRunningMode n eRunMode s) n _ rfl
  · exact hm

theorem vSystem_SetUnitRunningMode_switch (eRunMode : eRunningMode) :
    (vSystem_SetUnitRunningMode eRunMode s).switch = { s.switch with eRunningMode := eRunMode } := by
  have hunits (s : System) : (units.foldl (unitRunningMode eRunMode) s).switch = s.switch :=
    foldl_kept System.switch (fun s n => unitRunningMode_switch s eRunMode n) units s
  have hite (c : Prop) [Decidable c] (s t : System) (h : t.switch = s.switch) :
      (if c then t else s).switch = s.switch := by
    split
    · exact h
    · rfl
  unfold vSystem_SetUnitRunningMode
  dsimp only
  rw [switch_of_fanless (vSystem_ExAirRequest_Vol_fanless _), hite _ _ _ (usSystem_ChangeEnergyTemp_switch _),
    hite _ _ _ (vSystem_OpenUnits_switch _), hunits]
  rfl

end Frame

end GreeIntense.Control

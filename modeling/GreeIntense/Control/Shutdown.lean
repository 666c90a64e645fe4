import GreeIntense.Control.Modes

/-!
# Shutting down

`vSystem_ChangeSystemMode(MODE_CLOSE)` closes all devices, and each reports when it has stopped.  The handler
of a report looks at every device, and takes one that has not stopped yet for one that has been started by
hand: it puts the system into manual mode.  So the system stays closed only if no report is handled before the
last device has stopped (`shutdown_stable_iff`).
-/

namespace GreeIntense.Control

open Lib.Run

/-! ### Reports -/

/-- A report of a stopped device, with the devices that have stopped since the last one. -/
structure Report where
  fans : Fin EX_AIR_FAN_NUM → Bool
  units : Fin MODULAR_ROOF_NUM → Bool
  device : Fin EX_AIR_FAN_NUM ⊕ Fin MODULAR_ROOF_NUM
  l : Locals

/-- The devices stop, among them the one that reports. -/
def Report.stop (r : Report) (s : System) : System :=
  { s with
    psExAirFanList := fun n =>
      if r.fans n ∨ r.device = .inl n then { s.fan n with eRunningState := .STATE_STOP } else s.fan n
    psModularRoofList := fun n =>
      if r.units n ∨ r.device = .inr n then { s.unit n with eRunningState := .STATE_STOP } else s.unit n }

def Report.arg (r : Report) : Arg :=
  match r.device with
  | .inl n => .fan n .eRunningState
  | .inr n => .unit n .eRunningState

def reportStep (s : System) (r : Report) : Option System := some (vSystem_EventPollTask r.l r.arg (r.stop s))

/-- The request to close, written to the `BMS` and handled. -/
def closeRequest (l : Locals) (s : System) : System :=
  vSystem_EventPollTask l (.bms .eSystemMode) (writeMode .MODE_CLOSE s)

/-- The mode is closed on both sides. -/
def Closed (s : System) : Prop := s.eSystemMode = .MODE_CLOSE ∧ s.psBMS.eSystemMode = .MODE_CLOSE

/-- **What the handling of a report is to lead to**: the mode is closed on both sides, and the state too if
all devices have stopped. -/
def ShutDown (s : System) : Prop := Closed s ∧ (anyRuns s = false → s.eSystemState = .STATE_CLOSED)

/-! ### One report -/

section Step

variable (s : System)

theorem stop_modes (r : Report) : (r.stop s).modes = s.modes := rfl

theorem closeRequest_closed (l : Locals) : Closed (closeRequest l s) := by
  have hm : (closeRequest l s).modes = modeStep (writeMode .MODE_CLOSE s).modes (.request .MODE_CLOSE (anyRemote s)) :=
    vSystem_EventPollTask_modes _ l (.bms .eSystemMode)
  rw [modeStep_taken fun hr => by rcases hr.2 with ⟨hx, -⟩ | ⟨hx, -⟩ <;> cases hx] at hm
  exact ⟨congrArg (fun p => p.1.eSystemMode) hm, congrArg Prod.snd hm⟩

/-- With no device running, the handler of a fan closes the state. -/
theorem vSystem_FanRunningState_state (n : Fin EX_AIR_FAN_NUM) (h : anyRuns s = false) :
    (vSystem_FanRunningState n s).eSystemState = .STATE_CLOSED := by
  obtain ⟨hf, hu⟩ := Bool.or_eq_false_iff.mp h
  have hu : runningUnit s = none := by simpa using hu
  simp [vSystem_FanRunningState, hf, hu]

theorem vSystem_UnitRunningState_state (n : Fin MODULAR_ROOF_NUM) (h : anyRuns s = false) :
    (vSystem_UnitRunningState n true s).eSystemState = .STATE_CLOSED := by
  obtain ⟨hf, hu⟩ := Bool.or_eq_false_iff.mp h
  have hu : runningUnit s = none := by simpa using hu
  simp [vSystem_UnitRunningState, hf, hu]

theorem report_modes (r : Report) :
    (vSystem_EventPollTask r.l r.arg (r.stop s)).modes = modeStep s.modes (.running (anyRuns (r.stop s))) := by
  rw [vSystem_EventPollTask_modes, stop_modes]
  unfold Report.arg
  cases r.device <;> rfl

theorem report_state (r : Report) (h : anyRuns (r.stop s) = false) :
    (vSystem_EventPollTask r.l r.arg (r.stop s)).eSystemState = .STATE_CLOSED := by
  unfold Report.arg
  cases r.device with
  | inl n => exact vSystem_FanRunningState_state _ n h
  | inr n => exact vSystem_UnitRunningState_state _ n h

theorem closed_iff : Closed s ↔ s.modes.1.eSystemMode = .MODE_CLOSE ∧ s.modes.2 = .MODE_CLOSE := Iff.rfl

/-- A report handled in a closed system leaves it closed just if no device runs any more. -/
theorem report_shutDown_iff (r : Report) (hs : Closed s) :
    ShutDown (vSystem_EventPollTask r.l r.arg (r.stop s)) ↔ anyRuns (r.stop s) = false := by
  constructor
  · rintro ⟨hc, -⟩
    rw [closed_iff, report_modes] at hc
    by_contra h
    rw [Bool.not_eq_false] at h
    rw [h, modeStep, if_pos ⟨rfl, hs.1⟩] at hc
    cases hc.2
  · intro h
    refine ⟨?_, fun _ => report_state s r h⟩
    rw [closed_iff, report_modes, h, running_false]
    exact hs

end Step

/-! ### Every order of reports -/

/-- **A shutdown is stable exactly if every report is handled after the last device has stopped.**  After a
request to close, whatever runs then, and for any reports in any order, with any devices stopping between
them: each report handled leaves the system shut down if and only if at each report handled no device runs. -/
theorem shutdown_stable_iff (s : System) (l : Locals) (rs : List Report) :
    Meets reportStep (fun s r => ∀ s', reportStep s r = some s' → ShutDown s') (closeRequest l s) rs ↔
      Meets reportStep (fun s r => anyRuns (r.stop s) = false) (closeRequest l s) rs := by
  refine meets_congr (I := Closed) (fun s r s' _ h hs => (h s' hs).1) (fun s r hc => ?_) (closeRequest_closed s l)
  rw [← report_shutDown_iff s r hc]
  exact ⟨fun h => h _ rfl, fun h s' hs => Option.some.inj hs ▸ h⟩

/-- Two fans run in manual mode. -/
def twoFansRun : System :=
  { System.zero with
    eSystemMode := .MODE_MANUAL
    psExAirFanList := fun n => { ExAirFan.zero with eRunningState := if n.val < 2 then .STATE_RUN else .STATE_STOP } }

/-- The first fan has stopped and reports; the second is still running down. -/
def firstReport : Report := ⟨fun _ => false, fun _ => false, .inl 0, ⟨0, 0, 0, 0, 0⟩⟩

/-- After the first report the system is in manual mode. -/
theorem shutdown_undone :
    (run reportStep (closeRequest firstReport.l twoFansRun) [firstReport]).map System.modes =
        some (⟨.MODE_MANUAL, false, false⟩, .MODE_MANUAL) ∧
      ¬Meets reportStep (fun s r => ∀ s', reportStep s r = some s' → ShutDown s')
        (closeRequest firstReport.l twoFansRun) [firstReport] := by
  have hrun : (run reportStep (closeRequest firstReport.l twoFansRun) [firstReport]).map System.modes =
      some (⟨.MODE_MANUAL, false, false⟩, .MODE_MANUAL) := by
    decide
  refine ⟨hrun, ?_⟩
  intro hm
  obtain ⟨s', hs, hv⟩ := Option.map_eq_some_iff.mp hrun
  have hsd := hm.1 s' (by simpa [run] using hs)
  have := (closed_iff s').mp hsd.1
  rw [hv] at this
  cases this.2

end GreeIntense.Control

import GreeIntense.Control.Handlers

/-!
# The two handlers of the running states

`vSystem_FanRunningState` and `vSystem_UnitRunningState` both find the state and the running mode of the
system from what its devices do.  The first looks at the fans and then at the units, the second at the units
and, where none runs, at the fans.

They agree, except that of a closed system with a running fan the first has left the closed mode when it comes
to the units, and no longer writes their running mode to the `BMS` (`runningStates_agree_iff`).
-/

namespace GreeIntense.Control

/-! ### The handlers with and without a device -/

/-- `vSystem_FanRunningState`, where `none` is the fan `NULL`. -/
def fanRunningState (pmExAirFan : Option (Fin EX_AIR_FAN_NUM)) (s : System) : System :=
  let s := pmExAirFan.elim s fun n => fanFollows n s
  let eState : eSystemState := if anyFanRuns s then .STATE_EX_FAN else .STATE_CLOSED
  let s := fanLeavesClose s
  match runningUnit s with
  | some m =>
    let eRunMode := (s.unit m).eRunningMode
    { leaveCloseUnit eRunMode (takeRunningMode eRunMode s) with eSystemState := eRunMode.state.getD eState }
  | none => { s with eSystemState := eState }

/-- `vSystem_UnitRunningState`, where `none` is the unit `NULL`. -/
def unitRunningState (pmModularRoof : Option (Fin MODULAR_ROOF_NUM)) (xRunningState : Bool) (s : System) : System :=
  let s := pmModularRoof.elim s fun n => if xRunningState then unitFollows n s else s
  match runningUnit s with
  | some m =>
    let eRunMode := (s.unit m).eRunningMode
    let s := takeRunningMode eRunMode s
    leaveCloseUnit eRunMode { s with eSystemState := eRunMode.state.getD s.eSystemState }
  | none =>
    if anyFanRuns s then { leaveClose s with eSystemState := .STATE_EX_FAN }
    else { s with eSystemState := .STATE_CLOSED }

/-! ### What they find -/

/-- What the devices together make of the system and of its copy in the `BMS`. -/
@[ext] structure Aggregate where
  eSystemState : eSystemState
  eRunningMode : eRunningMode
  eSystemMode : eSystemMode
  psBMS_eSystemMode : Control.eSystemMode
  psBMS_eRunningMode : Control.eRunningMode
  deriving DecidableEq

def System.aggregate (s : System) : Aggregate :=
  ⟨s.eSystemState, s.eRunningMode, s.eSystemMode, s.psBMS.eSystemMode, s.psBMS.eRunningMode⟩

section Agreement

variable {s : System}

theorem fanLeavesClose_unit (n : Fin MODULAR_ROOF_NUM) : (fanLeavesClose s).unit n = s.unit n := by
  unfold fanLeavesClose leaveClose
  split
  · split <;> rfl
  · rfl

/-- Where no unit runs, both handlers find what the fans do. -/
theorem agree_of_no_unit (h : runningUnit s = none) (xRunningState : Bool) :
    (fanRunningState none s).aggregate = (unitRunningState none xRunningState s).aggregate := by
  have hf : runningUnit (fanLeavesClose s) = none := (fanLeavesClose_runningUnit s).trans h
  simp only [fanRunningState, unitRunningState, Option.elim_none, hf, h]
  unfold fanLeavesClose
  by_cases ha : anyFanRuns s = true
  · simp only [ha, if_true]
  · simp only [ha]
    rfl

/-- Where a unit runs in a mode, both find that mode; the handler of the units writes it to the `BMS` of a
closed system, the handler of the fans only where no fan runs. -/
theorem agree_of_unit {m : Fin MODULAR_ROOF_NUM} (h : runningUnit s = some m) (hm : (s.unit m).eRunningMode ≠ .unset)
    (xRunningState : Bool) :
    (fanRunningState none s).aggregate = (unitRunningState none xRunningState s).aggregate ↔
      ¬(s.eSystemMode = .MODE_CLOSE ∧ anyFanRuns s = true ∧ s.psBMS.eRunningMode ≠ (s.unit m).eRunningMode) := by
  have hf : runningUnit (fanLeavesClose s) = some m := (fanLeavesClose_runningUnit s).trans h
  simp only [fanRunningState, unitRunningState, Option.elim_none, hf, h, fanLeavesClose_unit]
  unfold fanLeavesClose leaveClose
  generalize (s.unit m).eRunningMode = mode at hm
  cases mode with
  | unset => exact absurd rfl hm
  | _ =>
    by_cases hc : s.eSystemMode = .MODE_CLOSE
    · by_cases ha : anyFanRuns s = true
      · simp [takeRunningMode, leaveCloseUnit, backToManual, System.aggregate, hc, ha, eRunningMode.state]
      · simp [takeRunningMode, leaveCloseUnit, backToManual, System.aggregate, hc, ha, eRunningMode.state]
    · simp [takeRunningMode, leaveCloseUnit, System.aggregate, hc, eRunningMode.state]

end Agreement

/-- **The two handlers find the same**, unless the system is closed, a fan and a unit run, and the `BMS` does not
have the running mode of that unit yet. -/
theorem runningStates_agree_iff (s : System) (xRunningState : Bool) (h : ∀ n, (s.unit n).eRunningMode ≠ .unset) :
    (fanRunningState none s).aggregate = (unitRunningState none xRunningState s).aggregate ↔
      ¬(s.eSystemMode = .MODE_CLOSE ∧ anyFanRuns s = true ∧
        ∃ m, runningUnit s = some m ∧ s.psBMS.eRunningMode ≠ (s.unit m).eRunningMode) := by
  cases hu : runningUnit s with
  | none =>
    refine iff_of_true (agree_of_no_unit hu xRunningState) ?_
    rintro ⟨-, -, m, hm, -⟩
    cases hm
  | some m =>
    refine (agree_of_unit hu (h m) xRunningState).trans (not_congr ?_)
    constructor
    · rintro ⟨hc, ha, hne⟩
      exact ⟨hc, ha, m, rfl, hne⟩
    · rintro ⟨hc, ha, m', hm', hne⟩
      obtain rfl := Option.some.inj hm'
      exact ⟨hc, ha, hne⟩

/-- A closed plant, its units in cooling mode: the first unit and the first fan run. -/
def closedRunning : System :=
  { System.zero with
    psModularRoofList := fun n =>
      { ModularRoof.zero with
        eRunningMode := .RUN_MODE_COOL, eRunningState := if n = 0 then .STATE_RUN else .STATE_STOP }
    psExAirFanList := fun n =>
      { ExAirFan.zero with eRunningState := if n = 0 then .STATE_RUN else .STATE_STOP } }

theorem closedRunning_modes (n : Fin MODULAR_ROOF_NUM) : (closedRunning.unit n).eRunningMode ≠ .unset := by
  intro h
  cases h

theorem runningStates_agree_closed :
    (∀ n, (closedRunning.unit n).eRunningMode ≠ .unset) ∧
      ((fanRunningState none closedRunning).aggregate = (unitRunningState none true closedRunning).aggregate ↔
        ¬(closedRunning.eSystemMode = .MODE_CLOSE ∧ anyFanRuns closedRunning = true ∧
          ∃ m, runningUnit closedRunning = some m ∧
            closedRunning.psBMS.eRunningMode ≠ (closedRunning.unit m).eRunningMode)) :=
  ⟨closedRunning_modes, runningStates_agree_iff closedRunning true closedRunning_modes⟩

/-- There the handler of the fans leaves the running mode of the `BMS` as it is, the one of the units writes it. -/
theorem closedRunning_disagree :
    closedRunning.eSystemMode = closedRunning.psBMS.eSystemMode ∧ (∀ n, (closedRunning.unit n).eRunningMode ≠ .unset) ∧
      (fanRunningState none closedRunning).aggregate ≠ (unitRunningState none true closedRunning).aggregate :=
  ⟨rfl, closedRunning_modes, by decide⟩

end GreeIntense.Control

import Mathlib.Data.Fintype.Basic
import GreeIntense.Control.FanCtrl

/-!
# The control of the fans on the clock (`fanctrl.c`, `os_tmr.c`)

The request timer ends the time of the fan that runs for a part of the control period, and the control timer starts it
again.  The functions of `FanCtrl` that start a timer are here with the ticks that are left of it; on the system they
are those functions (`Exhaust.vSystem_ExAirFanCtrl_sys`).
-/

namespace GreeIntense.Control

open Os

/-! ### The end of the request time -/

/-- `psSystem_LongestExAirFan`: of the running constant fans the first one that has run most. -/
def psSystem_LongestExAirFan (s : System) : Option (Fin EX_AIR_FAN_NUM) :=
  match fans.filter fun n => (s.fan n).eFanFreqType = .CONSTANT_FREQ ∧ (s.fan n).eRunningState = .STATE_RUN with
  | [] => none
  | f :: list => some (list.foldl (fun a b => if (s.fan a).usRunTime_H < (s.fan b).usRunTime_H then b else a) f)

def vSystem_ExAirFanRequestTimeTmrCallback (s : System) : System :=
  if s.eSystemMode = .MODE_AUTO ∨ s.eSystemMode = .MODE_EMERGENCY then
    let pExAirFan := if constantOnly s then psSystem_LongestExAirFan s else variateUsable s
    let s := if (variateUsable s).isSome then { s with xVariableFanRequest := false } else s
    match pExAirFan with
    | some f => vExAirFan_SwitchClose f s
    | none => s
  else s

/-! ### The clock -/

/-- The controller with the ticks that are left of its two timers (`Remain`), and the ticks of all fans that ran. -/
structure Exhaust where
  sys : System
  requestRemain : ℕ
  ctrlRemain : ℕ
  fanTicks : ℕ

def System.runningFans (s : System) : Finset (Fin EX_AIR_FAN_NUM) :=
  Finset.univ.filter fun n => (s.fan n).eRunningState = .STATE_RUN

/-- The fans follow their commands. -/
def System.follow (s : System) : System :=
  { s with psExAirFanList := fun n =>
      { s.fan n with eRunningState := if (s.fan n).eCtrlCmd = .ON then .STATE_RUN else .STATE_STOP } }

namespace Exhaust

def on (f : System → System) (x : Exhaust) : Exhaust := { x with sys := f x.sys }

/-- A timer that is started has its delay before it, or its period. -/
def registRequestTime (x : Exhaust) : Exhaust :=
  let x := x.on Control.registRequestTime
  let tmr := x.sys.sExAirFanRequestTimeTmr
  if tmr.State = .OS_TMR_STATE_RUNNING then { x with requestRemain := tmr.Dly.toNat } else x

def requestVariate (x : Exhaust) : Exhaust :=
  match variateUsable x.sys with
  | some v =>
    if x.sys.ulExAirFanRequestTime ≥ x.sys.usExAirFanRunTimeLeast.setWidth 32 then
      let x := x.on fun s => vExAirFan_SwitchOpen v { s with xVariableFanRequest := true }
      let x := x.on fun s => vSystem_AdjustExAirFanFreq s.usExAirFanMinFreq s
      if requestTimeDue x.sys then
        (x.on fun s => { s with g_ulExAirFanRequestTime := s.ulExAirFanRequestTime }).registRequestTime
      else x
    else x.on fun s => vExAirFan_SwitchClose v { s with xVariableFanRequest := false }
  | none => x

def requestConstant (x : Exhaust) : Exhaust :=
  if constantOnly x.sys ∧ x.sys.ulExAirFanRequestTime ≥ x.sys.usExAirFanRunTimeLeast.setWidth 32 ∧
      requestTimeDue x.sys then
    (x.on fun s => vSystem_ExAirFanConstantSwitch
      { s with g_ulExAirFanRequestTime := s.ulExAirFanRequestTime }).registRequestTime
  else x

def vSystem_ExAirFanCtrlTmrCallback (x : Exhaust) : Exhaust :=
  if x.sys.eSystemMode = .MODE_MANUAL ∨ x.sys.eSystemMode = .MODE_CLOSE then x
  else (x.on vSystem_ExAirRequest_Vol).requestVariate.requestConstant

def registCtrl (usExAirFanCtrlPeriod : USHORT) (x : Exhaust) : Exhaust :=
  let r := xTimerRegist_create 0 (usExAirFanCtrlPeriod.setWidth 32) .OS_OPT_TMR_PERIODIC x.sys.sExAirFanCtrlTmr
  let x := x.on fun s => { s with sExAirFanCtrlTmr := r.1 }
  if r.2 then
    let x := x.vSystem_ExAirFanCtrlTmrCallback
    { x.on fun s => { s with sExAirFanCtrlTmr := OSTmrStart s.sExAirFanCtrlTmr } with
      ctrlRemain := if r.1.Dly = 0 then r.1.Period.toNat else r.1.Dly.toNat }
  else x

def pollRequest (usExAirFanCtrlPeriod : USHORT) (x : Exhaust) : Exhaust :=
  let x :=
    if x.sys.sExAirFanRequestTimeTmr.State = .OS_TMR_STATE_RUNNING then x.on vSystem_ExAirFanConstantSwitch else x
  if x.sys.sExAirFanCtrlTmr.State ≠ .OS_TMR_STATE_RUNNING ∨
      x.sys.g_ucConstantFanRequestNum ≠ x.sys.ucConstantFanRequestNum then
    x.registCtrl usExAirFanCtrlPeriod
  else x

def vSystem_ExAirFanConstantCtrl (x : Exhaust) : Exhaust :=
  if x.sys.eSystemMode = .MODE_MANUAL ∨ x.sys.eSystemMode = .MODE_CLOSE then x
  else if constantOnly x.sys then
    let x := x.on vSystem_ExAirFanConstantAlwaysOpen
    x.pollRequest x.sys.usExAirFanCtrlPeriod
  else x

def vSystem_ExAirFanBothCtrl (x : Exhaust) : Exhaust :=
  match x.sys.pExAirFanVariate with
  | none => x
  | some v =>
    let s := x.sys
    let ulExAirFanRated_Vol := (s.ulExAirFanRated_Vol.setWidth 16).setWidth 32
    let rest := s.ulExAirRequest_Vol - ulExAirFanRated_Vol * s.ucConstantFanOpenNum.setWidth 32
    let least := (s.usExAirFanMinFreq.setWidth 32 * ulExAirFanRated_Vol).sdiv 500
    let usExAirFanCtrlPeriod := s.usExAirFanCtrlPeriod
    if s.eExAirFanType ≠ .TYPE_CONSTANT_VARIABLE ∨ ulExAirFanRated_Vol = 0 then x
    else
      let x := x.on vSystem_ExAirFanConstantAlwaysOpen
      if rest ≥ least then
        x.on fun s => stopTmrs (openVariateAt v ((rest * 500 / ulExAirFanRated_Vol).setWidth 16) s)
      else x.pollRequest usExAirFanCtrlPeriod

/-- `vSystem_ExAirFanCtrl`, the poll. -/
def vSystem_ExAirFanCtrl (x : Exhaust) : Exhaust :=
  let x := if x.sys.eSystemMode = .MODE_MANUAL then x.on fun s => fans.foldl manualFan s else x
  if x.sys.eSystemMode = .MODE_AUTO ∨ x.sys.eSystemMode = .MODE_EMERGENCY then
    let x :=
      if x.sys.usCO2PPM.toNat > x.sys.usCO2AdjustThr_V.toNat + x.sys.usCO2AdjustDeviat.toNat then x.on openAllFans
      else x
    if (x.sys.usCO2PPM.toNat : ℤ) < x.sys.usCO2AdjustThr_V.toNat - x.sys.usCO2AdjustDeviat.toNat then
      let x := x.on vSystem_ExAirRequest_Vol
      let x := if (variateUsable x.sys).isSome then x.vSystem_ExAirFanBothCtrl else x
      if constantOnly x.sys then x.vSystem_ExAirFanConstantCtrl else x
    else x
  else x

/-- The request timer in a tick: it is completed before its callback. -/
def requestTick (x : Exhaust) : Exhaust :=
  if x.sys.sExAirFanRequestTimeTmr.State = .OS_TMR_STATE_RUNNING then
    let x := { x with requestRemain := x.requestRemain - 1 }
    if x.requestRemain = 0 then
      x.on fun s => vSystem_ExAirFanRequestTimeTmrCallback
        { s with sExAirFanRequestTimeTmr := { s.sExAirFanRequestTimeTmr with State := .OS_TMR_STATE_COMPLETED } }
    else x
  else x

/-- The control timer in a tick: it is loaded again before its callback. -/
def ctrlTick (x : Exhaust) : Exhaust :=
  if x.sys.sExAirFanCtrlTmr.State = .OS_TMR_STATE_RUNNING then
    let x := { x with ctrlRemain := x.ctrlRemain - 1 }
    if x.ctrlRemain = 0 then
      { x with ctrlRemain := x.sys.sExAirFanCtrlTmr.Period.toNat }.vSystem_ExAirFanCtrlTmrCallback
    else x
  else x

/-- A tick of the timer task, with the two timers in either order in its list.  A timer that a callback starts goes to
the head of the list, and has its first tick in the next round. -/
def tick (ctrlFirst : Bool) (x : Exhaust) : Exhaust :=
  let x := { x with fanTicks := x.fanTicks + x.sys.runningFans.card }
  if ctrlFirst then
    if x.sys.sExAirFanRequestTimeTmr.State = .OS_TMR_STATE_RUNNING then x.ctrlTick.requestTick else x.ctrlTick
  else x.requestTick.ctrlTick

end Exhaust

/-- A tick; a poll; other times that the fans have run. -/
inductive ExhaustEvent
  | tick (ctrlFirst : Bool)
  | poll
  | runTime (usRunTime_H : Fin EX_AIR_FAN_NUM → USHORT)

def ExhaustEvent.isTick : ExhaustEvent → Bool
  | .tick _ => true
  | _ => false

/-- The fans follow before the next event. -/
def exhaustStep (x : Exhaust) : ExhaustEvent → Exhaust
  | .tick ctrlFirst => (x.tick ctrlFirst).on System.follow
  | .poll => x.vSystem_ExAirFanCtrl.on System.follow
  | .runTime usRunTime_H =>
    x.on fun s => { s with psExAirFanList := fun n => { s.fan n with usRunTime_H := usRunTime_H n } }

/-! ### The clock changes nothing else -/

namespace Exhaust

variable (x : Exhaust)

@[simp] theorem on_sys (f : System → System) : (x.on f).sys = f x.sys := rfl

theorem registRequestTime_sys : x.registRequestTime.sys = Control.registRequestTime x.sys := by
  unfold registRequestTime
  dsimp only
  split <;> rfl

theorem requestVariate_sys : x.requestVariate.sys = Control.requestVariate x.sys := by
  unfold requestVariate Control.requestVariate
  cases variateUsable x.sys with
  | none => rfl
  | some v =>
    refine (apply_ite Exhaust.sys _ _ _).trans (if_congr Iff.rfl ?_ rfl)
    exact (apply_ite Exhaust.sys _ _ _).trans (if_congr Iff.rfl (registRequestTime_sys _) rfl)

theorem requestConstant_sys : x.requestConstant.sys = Control.requestConstant x.sys := by
  unfold requestConstant Control.requestConstant
  split_ifs
  · exact registRequestTime_sys _
  · rfl

theorem vSystem_ExAirFanCtrlTmrCallback_sys :
    x.vSystem_ExAirFanCtrlTmrCallback.sys = Control.vSystem_ExAirFanCtrlTmrCallback x.sys := by
  unfold vSystem_ExAirFanCtrlTmrCallback Control.vSystem_ExAirFanCtrlTmrCallback
  split_ifs
  · rfl
  · rw [requestConstant_sys, requestVariate_sys, on_sys]

theorem registCtrl_sys (usExAirFanCtrlPeriod : USHORT) :
    (x.registCtrl usExAirFanCtrlPeriod).sys = Control.registCtrl usExAirFanCtrlPeriod x.sys := by
  refine (apply_ite Exhaust.sys _ _ _).trans (if_congr Iff.rfl ?_ rfl)
  exact congrArg (fun s => { s with sExAirFanCtrlTmr := OSTmrStart s.sExAirFanCtrlTmr })
    (vSystem_ExAirFanCtrlTmrCallback_sys _)

theorem pollRequest_sys (usExAirFanCtrlPeriod : USHORT) :
    (x.pollRequest usExAirFanCtrlPeriod).sys = Control.pollRequest usExAirFanCtrlPeriod x.sys := by
  unfold pollRequest Control.pollRequest
  dsimp only
  rw [apply_ite Exhaust.sys, registCtrl_sys, apply_ite Exhaust.sys, on_sys]

theorem vSystem_ExAirFanConstantCtrl_sys :
    x.vSystem_ExAirFanConstantCtrl.sys = Control.vSystem_ExAirFanConstantCtrl x.sys := by
  unfold vSystem_ExAirFanConstantCtrl Control.vSystem_ExAirFanConstantCtrl
  split_ifs
  · rfl
  · exact pollRequest_sys _ _
  · rfl

theorem vSystem_ExAirFanBothCtrl_sys : x.vSystem_ExAirFanBothCtrl.sys = Control.vSystem_ExAirFanBothCtrl x.sys := by
  unfold vSystem_ExAirFanBothCtrl Control.vSystem_ExAirFanBothCtrl
  cases x.sys.pExAirFanVariate with
  | none => rfl
  | some v =>
    dsimp only
    split_ifs
    · rfl
    · rfl
    · exact pollRequest_sys _ _

/-- **The poll on the clock is the poll of the controller.** -/
theorem vSystem_ExAirFanCtrl_sys : x.vSystem_ExAirFanCtrl.sys = Control.vSystem_ExAirFanCtrl x.sys := by
  unfold vSystem_ExAirFanCtrl Control.vSystem_ExAirFanCtrl
  dsimp only
  simp only [apply_ite Exhaust.sys, vSystem_ExAirFanConstantCtrl_sys, vSystem_ExAirFanBothCtrl_sys, on_sys]

end Exhaust

end GreeIntense.Control

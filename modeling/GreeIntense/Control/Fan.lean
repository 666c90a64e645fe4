import GreeIntense.Control.Device
import GreeIntense.Lib.Run

/-!
# The tick of a fan (`fan.c`)

Every two seconds `vExAirFan_TimeoutInd` gives a fan its command again where the feedback differs, counts how long it
differs, takes ten seconds for a control error, and takes the command back where the fan has a fault, is local or has a
control error.

What the tick depends on and changes, but for the frequencies, is `TickSide`; the tick goes over to it (`tick_side`).
Two laws of its runs are exact on steps:

* `ctrlErr_iff`: the time that is counted is that of the ticks in a row at which command and feedback differed, unless a
  fault or a local period has stopped the count and left the time standing;
* `relay_iff`: the relay follows the command, unless the command is taken back from a fan whose feedback says it stands.
-/

namespace GreeIntense.Control

open Lib.Run

abbrev EX_AIR_FAN_TIME_OUT_S : UCHAR := 2
abbrev EX_AIR_FAN_CTRL_ERR_TIME_DELAY_S : UCHAR := 10

/-! ### The tick -/

/-- The system, and beside it `ucTimeCount` and `xExAirFanCtrl` of a fan. -/
structure Ticking where
  sys : System
  ucTimeCount : UCHAR
  xExAirFanCtrl : Bool

section Tick

variable (n : Fin EX_AIR_FAN_NUM)

/-- The command is given again where the feedback differs. -/
def commandAgain (x : Ticking) : Ticking :=
  let pThis := x.sys.fan n
  let x :=
    if pThis.eCtrlCmd = .ON ∧ pThis.eRunningState = .STATE_STOP ∧ pThis.xExAirFanErr = false ∧
        pThis.xExAirFanRemote = true then
      { x with xExAirFanCtrl := true, sys := vExAirFan_SwitchOpen n x.sys }
    else x
  let pThis := x.sys.fan n
  if pThis.eCtrlCmd = .OFF ∧ pThis.eRunningState = .STATE_RUN then
    { x with xExAirFanCtrl := true, sys := vExAirFan_SwitchClose n x.sys }
  else x

/-- The time is counted while command and feedback differ. -/
def countTime (x : Ticking) : Ticking :=
  let pThis := x.sys.fan n
  if x.xExAirFanCtrl = true ∧ pThis.xExAirFanRemote = true then
    let x :=
      if pThis.eCtrlCmd = .OFF ∧ pThis.eRunningState = .STATE_RUN ∨
          pThis.eCtrlCmd = .ON ∧ pThis.eRunningState = .STATE_STOP then
        { x with ucTimeCount := x.ucTimeCount + EX_AIR_FAN_TIME_OUT_S }
      else x
    if pThis.eCtrlCmd = .OFF ∧ pThis.eRunningState = .STATE_STOP ∨
        pThis.eCtrlCmd = .ON ∧ pThis.eRunningState = .STATE_RUN then
      { x with xExAirFanCtrl := false, ucTimeCount := 0 }
    else x
  else x

/-- After ten seconds the fan has a control error. -/
def latchCtrlErr (x : Ticking) : Ticking :=
  let pThis := x.sys.fan n
  if x.ucTimeCount ≥ EX_AIR_FAN_CTRL_ERR_TIME_DELAY_S ∧ x.xExAirFanCtrl = true ∧ pThis.xExAirFanRemote = true then
    ⟨x.sys.setFan n { pThis with xExAirFanCtrlErr := true }, 0, false⟩
  else x

/-- The command is taken back from a fan that has a fault, is local or has a control error. -/
def takeBack (x : Ticking) : Ticking :=
  let pThis := x.sys.fan n
  if pThis.xExAirFanErr = true ∨ pThis.xExAirFanRemote = false ∨ pThis.xExAirFanCtrlErr = true then
    let x := { x with sys := x.sys.setFan n { pThis with eCtrlCmd := .OFF }, xExAirFanCtrl := false }
    let pThis := x.sys.fan n
    if pThis.eCtrlCmd = .OFF ∧ pThis.eRunningState = .STATE_RUN then
      { x with sys := vExAirFan_SwitchClose n x.sys }
    else x
  else x

/-- The frequency of a running fan is set again where it differs by more than 10. -/
def frequencyAgain (x : Ticking) : Ticking :=
  let pThis := x.sys.fan n
  if pThis.eFanFreqType = .VARIABLE_FREQ ∧ pThis.xExAirFanErr = false ∧ pThis.eCtrlCmd = .ON ∧
      pThis.eRunningState = .STATE_RUN then
    if pThis.usSetFreq > pThis.usRunningFreq ∧ pThis.usSetFreq - pThis.usRunningFreq > 10 ∨
        pThis.usSetFreq < pThis.usRunningFreq ∧ pThis.usRunningFreq - pThis.usSetFreq > 10 then
      { x with sys := vExFan_SetFreq n pThis.usSetFreq x.sys }
    else x
  else x

def vExAirFan_TimeoutInd (x : Ticking) : Ticking :=
  frequencyAgain n (takeBack n (latchCtrlErr n (countTime n (commandAgain n x))))

end Tick

/-! ### What the tick is about -/

/-- The command of a fan, what it reads, and its relay, where it has one. -/
structure FanSide where
  eCtrlCmd : eCtrlEn
  eRunningState : eRunningState
  xExAirFanErr : Bool
  xExAirFanRemote : Bool
  xExAirFanCtrlErr : Bool
  relay : Option eCtrlEn

def System.fanSide (n : Fin EX_AIR_FAN_NUM) (s : System) : FanSide where
  eCtrlCmd := (s.fan n).eCtrlCmd
  eRunningState := (s.fan n).eRunningState
  xExAirFanErr := (s.fan n).xExAirFanErr
  xExAirFanRemote := (s.fan n).xExAirFanRemote
  xExAirFanCtrlErr := (s.fan n).xExAirFanCtrlErr
  relay :=
    if 0 < (s.fan n).sSwitch_DO ∧ (s.fan n).sSwitch_DO ≤ DO_NUM then some (s.digitalOutput (s.fan n).sSwitch_DO)
    else none

namespace FanSide

/-- The fan is given a command, and its relay with it. -/
def command (eCtrl : eCtrlEn) (f : FanSide) : FanSide :=
  { f with eCtrlCmd := eCtrl, relay := f.relay.map fun _ => eCtrl }

/-- It is opened where it has no fault and is remote. -/
def switchOpen (f : FanSide) : FanSide :=
  if f.xExAirFanErr = false ∧ f.xExAirFanRemote = true then f.command .ON else f

theorem switchOpen_ctrlErr (f : FanSide) : f.switchOpen.xExAirFanCtrlErr = f.xExAirFanCtrlErr := by
  unfold switchOpen
  split <;> rfl

end FanSide

section Side

variable (n : Fin EX_AIR_FAN_NUM) (s : System)

theorem fan_setFan_self (f : ExAirFan) : (s.setFan n f).fan n = f := Function.update_self ..

theorem setFan_fanSide (f : ExAirFan) (h : f.sSwitch_DO = (s.fan n).sSwitch_DO) :
    (s.setFan n f).fanSide n =
      ⟨f.eCtrlCmd, f.eRunningState, f.xExAirFanErr, f.xExAirFanRemote, f.xExAirFanCtrlErr, (s.fanSide n).relay⟩ := by
  unfold System.fanSide
  rw [fan_setFan_self, h]
  rfl

theorem vDigitalOutputCtrl_fan (m : Fin EX_AIR_FAN_NUM) (ucChannel : ℕ) (eCtrl : eCtrlEn) :
    (vDigitalOutputCtrl ucChannel eCtrl s).fan m = s.fan m := by
  unfold vDigitalOutputCtrl
  split <;> rfl

theorem vDigitalOutputCtrl_fanSide (eCtrl : eCtrlEn) :
    (vDigitalOutputCtrl (s.fan n).sSwitch_DO eCtrl s).fanSide n =
      { s.fanSide n with relay := (s.fanSide n).relay.map fun _ => eCtrl } := by
  unfold System.fanSide
  rw [vDigitalOutputCtrl_fan]
  by_cases h : 0 < (s.fan n).sSwitch_DO ∧ (s.fan n).sSwitch_DO ≤ DO_NUM
  · have hout : (vDigitalOutputCtrl (s.fan n).sSwitch_DO eCtrl s).digitalOutput (s.fan n).sSwitch_DO = eCtrl := by
      unfold vDigitalOutputCtrl
      rw [if_pos h]
      exact Function.update_self ..
    rw [hout, if_pos h, if_pos h]
    rfl
  · rw [if_neg h, if_neg h]
    rfl

theorem vExFan_SetFreq_fanSide (usFreq : USHORT) : (vExFan_SetFreq n usFreq s).fanSide n = s.fanSide n := by
  have hset (usSetFreq : USHORT) :
      (s.setFan n { s.fan n with usSetFreq := usSetFreq }).fanSide n = s.fanSide n := setFan_fanSide n s _ rfl
  have hout (ucChannel : ℕ) (v : USHORT) (s : System) :
      (vAnalogOutputSetRealVal ucChannel v s).fanSide n = s.fanSide n := by
    unfold vAnalogOutputSetRealVal
    split <;> rfl
  unfold vExFan_SetFreq
  dsimp only
  rw [apply_ite (System.fanSide n), apply_ite (System.fanSide n), hout, hset, ite_self, ite_self]

theorem vExAirFan_SwitchOpen_fanSide : (vExAirFan_SwitchOpen n s).fanSide n = (s.fanSide n).switchOpen := by
  have hopen : ((vDigitalOutputCtrl (s.fan n).sSwitch_DO .ON s).setFan n { s.fan n with eCtrlCmd := .ON }).fanSide n =
      (s.fanSide n).command .ON := by
    rw [setFan_fanSide n _ _ (by rw [vDigitalOutputCtrl_fan]), vDigitalOutputCtrl_fanSide]
    rfl
  have hswitch : (s.fanSide n).switchOpen =
      if (s.fan n).xExAirFanErr = false ∧ (s.fan n).xExAirFanRemote = true then (s.fanSide n).command .ON
      else s.fanSide n := rfl
  rw [hswitch]
  unfold vExAirFan_SwitchOpen
  dsimp only
  split
  · split
    · rw [vExFan_SetFreq_fanSide, hopen]
    · exact hopen
  · rfl

theorem vExAirFan_SwitchClose_fanSide : (vExAirFan_SwitchClose n s).fanSide n = (s.fanSide n).command .OFF := by
  unfold vExAirFan_SwitchClose
  rw [setFan_fanSide n _ _ (by rw [vDigitalOutputCtrl_fan]), vDigitalOutputCtrl_fanSide]
  rfl

end Side

/-- What the tick depends on and changes. -/
structure TickSide extends FanSide where
  ucTimeCount : UCHAR
  xExAirFanCtrl : Bool

def Ticking.side (n : Fin EX_AIR_FAN_NUM) (x : Ticking) : TickSide := ⟨x.sys.fanSide n, x.ucTimeCount, x.xExAirFanCtrl⟩

namespace TickSide

/-- The same fan with another command, and the count going on or stopped. -/
def withFan (f : TickSide) (fan : FanSide) (xExAirFanCtrl : Bool) : TickSide := ⟨fan, f.ucTimeCount, xExAirFanCtrl⟩

/-- Command and feedback differ. -/
def Differs (f : TickSide) : Prop :=
  f.eCtrlCmd = .OFF ∧ f.eRunningState = .STATE_RUN ∨ f.eCtrlCmd = .ON ∧ f.eRunningState = .STATE_STOP

instance (f : TickSide) : Decidable f.Differs := inferInstanceAs (Decidable (_ ∨ _))

def openAgain (f : TickSide) : TickSide :=
  if f.eCtrlCmd = .ON ∧ f.eRunningState = .STATE_STOP ∧ f.xExAirFanErr = false ∧ f.xExAirFanRemote = true then
    f.withFan f.switchOpen true
  else f

def closeAgain (f : TickSide) : TickSide :=
  if f.eCtrlCmd = .OFF ∧ f.eRunningState = .STATE_RUN then f.withFan (f.command .OFF) true else f

def countTime (f : TickSide) : TickSide :=
  if f.xExAirFanCtrl = true ∧ f.xExAirFanRemote = true then
    if f.Differs then { f with ucTimeCount := f.ucTimeCount + EX_AIR_FAN_TIME_OUT_S }
    else { f with xExAirFanCtrl := false, ucTimeCount := 0 }
  else f

def latchCtrlErr (f : TickSide) : TickSide :=
  if f.ucTimeCount ≥ EX_AIR_FAN_CTRL_ERR_TIME_DELAY_S ∧ f.xExAirFanCtrl = true ∧ f.xExAirFanRemote = true then
    { f with xExAirFanCtrlErr := true, ucTimeCount := 0, xExAirFanCtrl := false }
  else f

/-- The relay opens only where the feedback says that the fan runs. -/
def takeBack (f : TickSide) : TickSide :=
  if f.xExAirFanErr = true ∨ f.xExAirFanRemote = false ∨ f.xExAirFanCtrlErr = true then
    if f.eRunningState = .STATE_RUN then f.withFan (f.command .OFF) false
    else { f with eCtrlCmd := .OFF, xExAirFanCtrl := false }
  else f

def tick (f : TickSide) : TickSide := f.openAgain.closeAgain.countTime.latchCtrlErr.takeBack

end TickSide

section TickSide

variable (n : Fin EX_AIR_FAN_NUM) (x : Ticking)

theorem ite_side (c : Prop) [Decidable c] (x y : Ticking) :
    (if c then x else y).side n = if c then x.side n else y.side n := apply_ite (Ticking.side n) c x y

theorem side_of_fanSide {s : System} {f : FanSide} (h : s.fanSide n = f) (ucTimeCount : UCHAR) (xExAirFanCtrl : Bool) :
    (⟨s, ucTimeCount, xExAirFanCtrl⟩ : Ticking).side n = ⟨f, ucTimeCount, xExAirFanCtrl⟩ := by
  rw [← h]
  rfl

theorem commandAgain_side : (commandAgain n x).side n = (x.side n).openAgain.closeAgain := by
  have hopen := side_of_fanSide n (vExAirFan_SwitchOpen_fanSide n x.sys) x.ucTimeCount true
  have hclose (x : Ticking) := side_of_fanSide n (vExAirFan_SwitchClose_fanSide n x.sys) x.ucTimeCount true
  have h1 : (if (x.sys.fan n).eCtrlCmd = .ON ∧ (x.sys.fan n).eRunningState = .STATE_STOP ∧
      (x.sys.fan n).xExAirFanErr = false ∧ (x.sys.fan n).xExAirFanRemote = true then
      { x with xExAirFanCtrl := true, sys := vExAirFan_SwitchOpen n x.sys } else x).side n =
      (x.side n).openAgain := by
    rw [ite_side, hopen]
    rfl
  unfold commandAgain
  dsimp only
  rw [ite_side, hclose, ← h1]
  rfl

theorem countTime_side : (countTime n x).side n = (x.side n).countTime := by
  have habs : (x.side n).countTime =
      if x.xExAirFanCtrl = true ∧ (x.sys.fan n).xExAirFanRemote = true then
        if (x.sys.fan n).eCtrlCmd = .OFF ∧ (x.sys.fan n).eRunningState = .STATE_RUN ∨
            (x.sys.fan n).eCtrlCmd = .ON ∧ (x.sys.fan n).eRunningState = .STATE_STOP then
          { x.side n with ucTimeCount := x.ucTimeCount + EX_AIR_FAN_TIME_OUT_S }
        else { x.side n with xExAirFanCtrl := false, ucTimeCount := 0 }
      else x.side n := rfl
  rw [habs]
  unfold countTime
  dsimp only
  split
  · cases (x.sys.fan n).eCtrlCmd with
    | OFF => cases (x.sys.fan n).eRunningState with
      | STATE_STOP => rfl
      | STATE_RUN => rfl
    | ON => cases (x.sys.fan n).eRunningState with
      | STATE_STOP => rfl
      | STATE_RUN => rfl
  · rfl

theorem latchCtrlErr_side : (latchCtrlErr n x).side n = (x.side n).latchCtrlErr := by
  have hset := side_of_fanSide n (setFan_fanSide n x.sys { x.sys.fan n with xExAirFanCtrlErr := true } rfl) 0 false
  unfold latchCtrlErr
  dsimp only
  rw [ite_side, hset]
  rfl

theorem closeRunning_side (s : System) {f : FanSide} (h : s.fanSide n = f) (hoff : f.eCtrlCmd = .OFF)
    (ucTimeCount : UCHAR) :
    (if (s.fan n).eCtrlCmd = .OFF ∧ (s.fan n).eRunningState = .STATE_RUN then
      (⟨vExAirFan_SwitchClose n s, ucTimeCount, false⟩ : Ticking) else ⟨s, ucTimeCount, false⟩).side n =
      if f.eRunningState = .STATE_RUN then ⟨f.command .OFF, ucTimeCount, false⟩ else ⟨f, ucTimeCount, false⟩ := by
  subst h
  rw [ite_side, side_of_fanSide n (vExAirFan_SwitchClose_fanSide n s)]
  exact if_congr (and_iff_right hoff) rfl rfl

theorem takeBack_side : (takeBack n x).side n = (x.side n).takeBack := by
  have hset := setFan_fanSide n x.sys { x.sys.fan n with eCtrlCmd := .OFF } rfl
  unfold takeBack
  dsimp only
  rw [ite_side]
  exact if_congr Iff.rfl (closeRunning_side n _ hset rfl x.ucTimeCount) rfl

theorem frequencyAgain_side : (frequencyAgain n x).side n = x.side n := by
  have hset := side_of_fanSide n (vExFan_SetFreq_fanSide n x.sys (x.sys.fan n).usSetFreq) x.ucTimeCount x.xExAirFanCtrl
  unfold frequencyAgain
  dsimp only
  rw [ite_side, ite_side, hset]
  exact (ite_congr rfl (fun _ => ite_self _) fun _ => rfl).trans (ite_self _)

theorem tick_side : (vExAirFan_TimeoutInd n x).side n = (x.side n).tick := by
  unfold vExAirFan_TimeoutInd
  rw [frequencyAgain_side, takeBack_side, latchCtrlErr_side, countTime_side, commandAgain_side]
  rfl

end TickSide

/-! ### What a tick does -/

namespace TickSide

variable (f : TickSide)

/-- The command is given again to a fan whose feedback differs, but a fan that takes none is not opened. -/
theorem commandAgain_eq : f.openAgain.closeAgain =
    if f.Differs ∧ (f.eCtrlCmd = .ON → f.xExAirFanErr = false ∧ f.xExAirFanRemote = true) then
      f.withFan (f.command f.eCtrlCmd) true
    else f := by
  obtain ⟨⟨c, r, e, m, k, relay⟩, t, a⟩ := f
  unfold openAgain closeAgain Differs FanSide.switchOpen withFan FanSide.command
  cases c with
  | OFF => cases r <;> simp
  | ON =>
    cases r with
    | STATE_STOP =>
      by_cases h : e = false ∧ m = true
      · simp [h]
      · simp [h]
    | STATE_RUN => simp

/-- The time, whether it is counted on, and the control error. -/
def time (f : TickSide) : UCHAR × Bool × Bool := (f.ucTimeCount, f.xExAirFanCtrl, f.xExAirFanCtrlErr)

theorem takeBack_time : f.takeBack.time =
    (f.ucTimeCount, f.xExAirFanCtrl && !(f.xExAirFanErr || !f.xExAirFanRemote || f.xExAirFanCtrlErr),
      f.xExAirFanCtrlErr) := by
  obtain ⟨⟨c, r, e, m, k, relay⟩, t, a⟩ := f
  unfold takeBack time withFan FanSide.command
  cases e <;> cases m <;> cases k <;> cases r <;> simp

/-- A local fan: the time stands. -/
theorem tick_local (hm : f.xExAirFanRemote = false) :
    f.tick.time = (f.ucTimeCount, false, f.xExAirFanCtrlErr) := by
  obtain ⟨⟨c, r, e, m, k, relay⟩, t, a⟩ := f
  obtain rfl : m = false := hm
  unfold tick
  rw [commandAgain_eq, takeBack_time]
  unfold countTime latchCtrlErr withFan FanSide.command
  split <;> simp

/-- Command and feedback agree: a count is over, a time that is not counted stands. -/
theorem tick_agrees (hm : f.xExAirFanRemote = true) (hd : ¬f.Differs) :
    f.tick.time = (if f.xExAirFanCtrl then 0 else f.ucTimeCount, false, f.xExAirFanCtrlErr) := by
  unfold tick
  rw [commandAgain_eq, if_neg (fun h => hd h.1), takeBack_time]
  unfold countTime latchCtrlErr
  cases ha : f.xExAirFanCtrl <;> simp [ha, hm, hd]

/-- They differ, and the time is counted. -/
theorem tick_differs (hm : f.xExAirFanRemote = true) (hd : f.Differs)
    (ha : f.xExAirFanCtrl = true ∨ f.eCtrlCmd = .OFF ∨ f.xExAirFanErr = false) :
    f.tick.time =
      if f.ucTimeCount + EX_AIR_FAN_TIME_OUT_S ≥ EX_AIR_FAN_CTRL_ERR_TIME_DELAY_S then (0, false, true)
      else (f.ucTimeCount + EX_AIR_FAN_TIME_OUT_S, !(f.xExAirFanErr || f.xExAirFanCtrlErr), f.xExAirFanCtrlErr) := by
  -- the fan is given its command again, or was before
  have hagain : ∃ relay, f.openAgain.closeAgain =
      ⟨{ f.toFanSide with relay := relay }, f.ucTimeCount, true⟩ := by
    rw [commandAgain_eq]
    split
    · exact ⟨_, rfl⟩
    · next h =>
      have hctrl : f.xExAirFanCtrl = true := by
        rcases ha with ha | hoff | he
        · exact ha
        · exact absurd ⟨hd, fun hon => absurd (hoff.symm.trans hon) (by decide)⟩ h
        · exact absurd ⟨hd, fun _ => ⟨he, hm⟩⟩ h
      exact ⟨f.relay, by rw [← hctrl]⟩
  obtain ⟨relay, hagain⟩ := hagain
  have hcount : countTime ⟨{ f.toFanSide with relay := relay }, f.ucTimeCount, true⟩ =
      ⟨{ f.toFanSide with relay := relay }, f.ucTimeCount + EX_AIR_FAN_TIME_OUT_S, true⟩ :=
    (if_pos ⟨rfl, hm⟩).trans (if_pos hd)
  unfold tick
  rw [hagain, hcount]
  unfold latchCtrlErr
  by_cases hten : f.ucTimeCount + EX_AIR_FAN_TIME_OUT_S ≥ EX_AIR_FAN_CTRL_ERR_TIME_DELAY_S
  · rw [if_pos ⟨hten, rfl, hm⟩, if_pos hten, takeBack_time]
    rfl
  · rw [if_neg fun h => hten h.1, if_neg hten, takeBack_time]
    simp [hm]

/-- A fan with a fault that is to run and is not counted: it is not opened again. -/
theorem tick_faulty (he : f.xExAirFanErr = true) (ha : f.xExAirFanCtrl = false) (hc : f.eCtrlCmd = .ON) :
    f.tick.time = (f.ucTimeCount, false, f.xExAirFanCtrlErr) := by
  have hno : ¬(f.Differs ∧ (f.eCtrlCmd = .ON → f.xExAirFanErr = false ∧ f.xExAirFanRemote = true)) := by
    rintro ⟨-, h⟩
    exact absurd (he.symm.trans (h hc).1) (by decide)
  unfold tick
  rw [commandAgain_eq, if_neg hno, takeBack_time]
  unfold countTime latchCtrlErr
  simp [ha]

theorem tick_cases :
    (f.xExAirFanRemote = false ∧ f.tick.time = (f.ucTimeCount, false, f.xExAirFanCtrlErr)) ∨
      (f.xExAirFanRemote = true ∧ ¬f.Differs ∧
        f.tick.time = (if f.xExAirFanCtrl then 0 else f.ucTimeCount, false, f.xExAirFanCtrlErr)) ∨
      (f.xExAirFanRemote = true ∧ f.Differs ∧
        (f.xExAirFanCtrl = true ∨ f.eCtrlCmd = .OFF ∨ f.xExAirFanErr = false) ∧
        f.tick.time =
          if f.ucTimeCount + EX_AIR_FAN_TIME_OUT_S ≥ EX_AIR_FAN_CTRL_ERR_TIME_DELAY_S then (0, false, true)
          else
            (f.ucTimeCount + EX_AIR_FAN_TIME_OUT_S, !(f.xExAirFanErr || f.xExAirFanCtrlErr), f.xExAirFanCtrlErr)) ∨
      (f.xExAirFanRemote = true ∧ f.Differs ∧ f.xExAirFanErr = true ∧ f.xExAirFanCtrl = false ∧ f.eCtrlCmd = .ON ∧
        f.tick.time = (f.ucTimeCount, false, f.xExAirFanCtrlErr)) := by
  cases hm : f.xExAirFanRemote with
  | false => exact Or.inl ⟨rfl, f.tick_local hm⟩
  | true =>
    by_cases hd : f.Differs
    · by_cases ha : f.xExAirFanCtrl = true ∨ f.eCtrlCmd = .OFF ∨ f.xExAirFanErr = false
      · exact Or.inr (Or.inr (Or.inl ⟨rfl, hd, ha, f.tick_differs hm hd ha⟩))
      · rw [not_or, not_or, Bool.not_eq_true, Bool.not_eq_false] at ha
        have hon : f.eCtrlCmd = .ON := by
          cases hc : f.eCtrlCmd with
          | OFF => exact absurd hc ha.2.1
          | ON => rfl
        exact Or.inr (Or.inr (Or.inr ⟨rfl, hd, ha.2.2, ha.1, hon, f.tick_faulty ha.2.2 ha.1 hon⟩))
    · exact Or.inr (Or.inl ⟨rfl, hd, f.tick_agrees hm hd⟩)

/-! ### The control error -/

/-- How many ticks in a row, this one the last, command and feedback have differed of a remote fan without a fault. -/
def disagreed (f : TickSide) (ticks : ℕ) : ℕ :=
  if f.Differs ∧ f.xExAirFanRemote = true ∧ f.xExAirFanErr = false then ticks + 1 else 0

/-- A tick counts right: a control error takes five of these ticks, and else the time is that of them. -/
def CountsRight (f : TickSide) (ticks : ℕ) : Prop :=
  (f.xExAirFanCtrlErr = false → f.tick.xExAirFanCtrlErr = true → 5 ≤ f.disagreed ticks) ∧
    (f.tick.xExAirFanCtrlErr = false → f.tick.ucTimeCount.toNat = 2 * f.disagreed ticks)

/-- No time stands where the fan is local, nor where it has a fault and command and feedback differ; and with a fault
nothing is counted. -/
def NoStaleTime (f : TickSide) : Prop :=
  f.xExAirFanCtrlErr = false →
    (f.xExAirFanRemote = false → f.ucTimeCount = 0) ∧
      (f.xExAirFanRemote = true → f.xExAirFanErr = true → f.Differs → f.eCtrlCmd = .ON ∧ f.ucTimeCount = 0)

/-- Before the control error the time is that of the ticks, and it is being counted unless it is 0. -/
def Counting (f : TickSide) (ticks : ℕ) : Prop :=
  f.xExAirFanCtrlErr = false →
    (f.xExAirFanCtrl = true ↔ f.ucTimeCount ≠ 0) ∧ f.ucTimeCount.toNat = 2 * ticks ∧ ticks ≤ 4

variable {f} {ticks : ℕ}

theorem time_eq_iff (t : UCHAR) (a k : Bool) :
    f.time = (t, a, k) ↔ f.ucTimeCount = t ∧ f.xExAirFanCtrl = a ∧ f.xExAirFanCtrlErr = k := by
  simp [time]

theorem tick_ctrlErr (hk : f.xExAirFanCtrlErr = true) : f.tick.xExAirFanCtrlErr = true := by
  rcases f.tick_cases with ⟨-, h⟩ | ⟨-, -, h⟩ | ⟨-, -, -, h⟩ | ⟨-, -, -, -, -, h⟩
  · rw [time_eq_iff] at h
    exact h.2.2.trans hk
  · rw [time_eq_iff] at h
    exact h.2.2.trans hk
  · split at h
    · rw [time_eq_iff] at h
      exact h.2.2
    · rw [time_eq_iff] at h
      exact h.2.2.trans hk
  · rw [time_eq_iff] at h
    exact h.2.2.trans hk

theorem time_add (h : f.ucTimeCount.toNat = 2 * ticks) (hle : ticks ≤ 4) :
    (f.ucTimeCount + EX_AIR_FAN_TIME_OUT_S).toNat = 2 * (ticks + 1) := by
  have h2 : (EX_AIR_FAN_TIME_OUT_S).toNat = 2 := rfl
  rw [BitVec.toNat_add_of_lt (by omega), h, h2]
  omega

theorem disagreed_eq_zero (h : ¬(f.Differs ∧ f.xExAirFanRemote = true ∧ f.xExAirFanErr = false)) :
    f.disagreed ticks = 0 := if_neg h

section Differs

variable (hk : f.xExAirFanCtrlErr = false) (htime : f.ucTimeCount.toNat = 2 * ticks) (hle : ticks ≤ 4)

include hk htime hle

theorem countsRight_differs (hm : f.xExAirFanRemote = true) (hd : f.Differs) (he : f.xExAirFanErr = false)
    (h : f.tick.time =
      if f.ucTimeCount + EX_AIR_FAN_TIME_OUT_S ≥ EX_AIR_FAN_CTRL_ERR_TIME_DELAY_S then (0, false, true)
      else (f.ucTimeCount + EX_AIR_FAN_TIME_OUT_S, !(f.xExAirFanErr || f.xExAirFanCtrlErr), f.xExAirFanCtrlErr)) :
    f.CountsRight ticks := by
  have h1 : f.disagreed ticks = ticks + 1 := if_pos ⟨hd, hm, he⟩
  have hadd := time_add htime hle
  split at h
  · next hten =>
    obtain ⟨-, -, hk'⟩ := (time_eq_iff ..).mp h
    rw [ge_iff_le, BitVec.le_def, hadd] at hten
    have hten : 10 ≤ 2 * (ticks + 1) := hten
    exact ⟨fun _ _ => by omega, fun h => absurd (hk'.symm.trans h) (by decide)⟩
  · obtain ⟨ht, -, hk'⟩ := (time_eq_iff ..).mp h
    exact ⟨fun _ h => absurd (h.symm.trans (hk'.trans hk)) (by decide), fun _ => by rw [ht, h1, hadd]⟩

/-- They differ of a fan with a fault, and still it is counted. -/
theorem not_countsRight_fault (he : f.xExAirFanErr = true)
    (h : f.tick.time =
      if f.ucTimeCount + EX_AIR_FAN_TIME_OUT_S ≥ EX_AIR_FAN_CTRL_ERR_TIME_DELAY_S then (0, false, true)
      else (f.ucTimeCount + EX_AIR_FAN_TIME_OUT_S, !(f.xExAirFanErr || f.xExAirFanCtrlErr), f.xExAirFanCtrlErr)) :
    ¬f.CountsRight ticks := by
  have h0 : f.disagreed ticks = 0 := disagreed_eq_zero (by simp [he])
  have hadd := time_add htime hle
  rintro ⟨hfive, htwo⟩
  split at h
  · obtain ⟨-, -, hk'⟩ := (time_eq_iff ..).mp h
    have hfive := hfive hk hk'
    omega
  · obtain ⟨ht, -, hk'⟩ := (time_eq_iff ..).mp h
    have htwo := htwo (hk'.trans hk)
    rw [ht, hadd] at htwo
    omega

end Differs

theorem countsRight_iff (hI : f.Counting ticks) : f.CountsRight ticks ↔ f.NoStaleTime := by
  cases hk : f.xExAirFanCtrlErr with
  | true =>
    have hk' := tick_ctrlErr hk
    refine iff_of_true ⟨fun h => ?_, fun h => ?_⟩ fun h => ?_
    · exact absurd (hk.symm.trans h) (by decide)
    · exact absurd (hk'.symm.trans h) (by decide)
    · exact absurd (hk.symm.trans h) (by decide)
  | false =>
    obtain ⟨hctrl, htime, hle⟩ := hI hk
    have hzero (ha : f.xExAirFanCtrl = false) : f.ucTimeCount = 0 := by
      by_contra hne
      exact absurd (ha.symm.trans (hctrl.mpr hne)) (by decide)
    rcases f.tick_cases with ⟨hm, h⟩ | ⟨hm, hd, h⟩ | ⟨hm, hd, ha, h⟩ | ⟨hm, hd, he, ha, hc, h⟩
    · -- a local fan: the time stands
      obtain ⟨ht, -, hk'⟩ := (time_eq_iff ..).mp h
      have h0 : f.disagreed ticks = 0 := disagreed_eq_zero (by simp [hm])
      simp [CountsRight, NoStaleTime, hk, hk', hm, h0, ht, ← BitVec.toNat_inj]
    · -- the two agree: there is no time
      obtain ⟨ht, -, hk'⟩ := (time_eq_iff ..).mp h
      have h0 : f.disagreed ticks = 0 := disagreed_eq_zero (by simp [hd])
      have ht0 : f.tick.ucTimeCount = 0 := by
        rw [ht]
        split
        · rfl
        · next ha => exact hzero (Bool.not_eq_true _ ▸ ha)
      refine iff_of_true ⟨fun _ h => absurd (h.symm.trans (hk'.trans hk)) (by decide), fun _ => ?_⟩
        fun _ => ⟨fun h => absurd (hm.symm.trans h) (by decide), fun _ _ h => absurd h hd⟩
      rw [ht0, h0]
      rfl
    · cases he : f.xExAirFanErr with
      | false =>
        exact iff_of_true (countsRight_differs hk htime hle hm hd he h) fun _ =>
          ⟨fun h => absurd (hm.symm.trans h) (by decide), fun _ h => absurd (he.symm.trans h) (by decide)⟩
      | true =>
        refine iff_of_false (not_countsRight_fault hk htime hle he h) ?_
        intro hstale
        obtain ⟨hon, ht0⟩ := (hstale hk).2 hm he hd
        rcases ha with ha | hoff | he'
        · exact hctrl.mp ha ht0
        · exact absurd (hoff.symm.trans hon) (by decide)
        · exact absurd (he.symm.trans he') (by decide)
    · -- a fan with a fault that is not opened again: there is no time
      obtain ⟨ht, -, hk'⟩ := (time_eq_iff ..).mp h
      have h0 : f.disagreed ticks = 0 := disagreed_eq_zero (by simp [he])
      refine iff_of_true ⟨fun _ h => absurd (h.symm.trans (hk'.trans hk)) (by decide), fun _ => ?_⟩
        fun _ => ⟨fun h => absurd (hm.symm.trans h) (by decide), fun _ _ _ => ⟨hc, hzero ha⟩⟩
      rw [ht, h0, hzero ha]
      rfl

theorem counting_tick (hI : f.Counting ticks) (h : f.CountsRight ticks) : f.tick.Counting (f.disagreed ticks) := by
  intro hk'
  have hk : f.xExAirFanCtrlErr = false := by
    by_contra hk
    exact absurd (hk'.symm.trans (tick_ctrlErr (Bool.not_eq_false _ ▸ hk))) (by decide)
  obtain ⟨-, htime, hle⟩ := hI hk
  have ht := h.2 hk'
  have hne : f.tick.ucTimeCount ≠ 0 ↔ f.disagreed ticks ≠ 0 := by
    rw [ne_eq, ← BitVec.toNat_inj, ht]
    simp
  suffices hd : (f.tick.xExAirFanCtrl = true ↔ f.disagreed ticks ≠ 0) ∧ f.disagreed ticks ≤ 4 from
    ⟨hd.1.trans hne.symm, ht, hd.2⟩
  -- where nothing is counted the count starts again
  have hzero (ha : f.tick.xExAirFanCtrl = false)
      (hno : ¬(f.Differs ∧ f.xExAirFanRemote = true ∧ f.xExAirFanErr = false)) :
      (f.tick.xExAirFanCtrl = true ↔ f.disagreed ticks ≠ 0) ∧ f.disagreed ticks ≤ 4 := by
    rw [disagreed_eq_zero hno, ha]
    simp
  rcases f.tick_cases with ⟨hm, h⟩ | ⟨-, hd, h⟩ | ⟨hm, hd, -, h⟩ | ⟨-, -, he, -, -, h⟩
  · exact hzero ((time_eq_iff ..).mp h).2.1 (by simp [hm])
  · exact hzero ((time_eq_iff ..).mp h).2.1 (by simp [hd])
  · split at h
    · exact absurd (hk'.symm.trans ((time_eq_iff ..).mp h).2.2) (by decide)
    · next hten =>
      obtain ⟨-, ha, -⟩ := (time_eq_iff ..).mp h
      rw [ge_iff_le, BitVec.le_def, time_add htime hle] at hten
      have hten : ¬10 ≤ 2 * (ticks + 1) := hten
      cases he : f.xExAirFanErr with
      | false =>
        -- one more tick of a disagreement that has not lasted ten seconds
        have h1 : f.disagreed ticks = ticks + 1 := if_pos ⟨hd, hm, he⟩
        rw [h1, ha, he, hk]
        exact ⟨by simp, by omega⟩
      | true => exact hzero (by rw [ha, he]; rfl) (by simp [he])
  · exact hzero ((time_eq_iff ..).mp h).2.1 (by simp [he])

/-! ### The relay -/

/-- The fan is to run and stands, and the command is taken back from it. -/
def LeavesClosed (f : TickSide) : Prop :=
  f.eCtrlCmd = .ON ∧ f.eRunningState = .STATE_STOP ∧
    (f.xExAirFanErr = true ∨ f.xExAirFanRemote = false ∨ f.xExAirFanCtrlErr = true ∨
      f.ucTimeCount + EX_AIR_FAN_TIME_OUT_S ≥ EX_AIR_FAN_CTRL_ERR_TIME_DELAY_S)

theorem commandAgain_fan (h : f.relay = some f.eCtrlCmd) : f.openAgain.closeAgain.toFanSide = f.toFanSide := by
  rw [commandAgain_eq]
  split
  · show f.command f.eCtrlCmd = f.toFanSide
    unfold FanSide.command
    rw [h]
    exact congrArg (fun relay => { f.toFanSide with relay := relay }) h.symm
  · rfl

theorem countTime_fan : f.countTime.toFanSide = f.toFanSide := by
  unfold countTime
  split
  · split <;> rfl
  · rfl

theorem latchCtrlErr_fan :
    f.latchCtrlErr.toFanSide = { f.toFanSide with xExAirFanCtrlErr := f.latchCtrlErr.xExAirFanCtrlErr } := by
  unfold latchCtrlErr
  split <;> rfl

/-- The command is taken back from a relay that has it: it opens, unless the fan stands. -/
theorem takeBack_relay_iff (h : f.relay = some f.eCtrlCmd) :
    f.takeBack.relay = some f.takeBack.eCtrlCmd ↔
      ¬(f.eCtrlCmd = .ON ∧ f.eRunningState = .STATE_STOP ∧
        (f.xExAirFanErr = true ∨ f.xExAirFanRemote = false ∨ f.xExAirFanCtrlErr = true)) := by
  unfold takeBack
  split
  · next hback =>
    cases hr : f.eRunningState with
    | STATE_STOP => cases hc : f.eCtrlCmd <;> simp [h, hc, hback]
    | STATE_RUN => simp [withFan, FanSide.command, h]
  · next hback => simp [h, hback]

theorem latched_fan (h : f.relay = some f.eCtrlCmd) :
    f.openAgain.closeAgain.countTime.latchCtrlErr.toFanSide =
      { f.toFanSide with xExAirFanCtrlErr := f.tick.xExAirFanCtrlErr } := by
  have hk : f.openAgain.closeAgain.countTime.latchCtrlErr.xExAirFanCtrlErr = f.tick.xExAirFanCtrlErr :=
    (congrArg (fun p : UCHAR × Bool × Bool => p.2.2) (takeBack_time _)).symm
  rw [latchCtrlErr_fan, hk, countTime_fan, commandAgain_fan h]

/-- **The relay keeps to the command over a tick** unless it is left closed. -/
theorem relay_tick_iff (h : f.relay = some f.eCtrlCmd) :
    f.tick.relay = some f.tick.eCtrlCmd ↔ ¬f.LeavesClosed := by
  have hfan := latched_fan h
  have hk := congrArg FanSide.xExAirFanCtrlErr hfan
  have hcmd := congrArg FanSide.eCtrlCmd hfan
  have hrun := congrArg FanSide.eRunningState hfan
  have herr := congrArg FanSide.xExAirFanErr hfan
  have hremote := congrArg FanSide.xExAirFanRemote hfan
  have hrelay := congrArg FanSide.relay hfan
  dsimp only at hk hcmd hrun herr hremote hrelay
  unfold tick
  rw [takeBack_relay_iff (by rw [hrelay, hcmd, h]), hcmd, hrun, herr, hremote, hk, LeavesClosed, not_iff_not]
  refine and_congr_right fun hon => and_congr_right fun hstop => or_congr_right' fun he => or_congr_right' fun hm => ?_
  rw [Bool.not_eq_true] at he
  rw [Bool.not_eq_false] at hm
  have h := f.tick_differs hm (Or.inr ⟨hon, hstop⟩) (Or.inr (Or.inr he))
  split at h
  · next hten => exact iff_of_true ((time_eq_iff ..).mp h).2.2 (Or.inr hten)
  · next hten => rw [((time_eq_iff ..).mp h).2.2, or_iff_left hten]

theorem tick_relay_some (h : f.relay = some f.eCtrlCmd) : ∃ eCtrl, f.tick.relay = some eCtrl := by
  have hrelay := congrArg FanSide.relay (latched_fan h)
  dsimp only at hrelay
  rw [h] at hrelay
  unfold tick takeBack
  split
  · split
    · exact ⟨.OFF, by simp [withFan, FanSide.command, hrelay]⟩
    · exact ⟨_, hrelay⟩
  · exact ⟨_, hrelay⟩

/-- The fan is not to take commands. -/
def Blocked (f : FanSide) : Prop :=
  f.xExAirFanErr = true ∨ f.xExAirFanRemote = false ∨ f.xExAirFanCtrlErr = true

instance (f : FanSide) : Decidable (Blocked f) := inferInstanceAs (Decidable (_ ∨ _))

theorem tick_command_off (h : Blocked f.tick.toFanSide) : f.tick.eCtrlCmd = .OFF := by
  unfold tick takeBack at h ⊢
  split
  · split <;> rfl
  · next hback =>
    rw [if_neg hback] at h
    exact absurd h hback

end TickSide

/-! ### Runs -/

inductive FanEvent
  | vExAirFan_SwitchOpen
  | vExAirFan_SwitchClose
  | vExAirFan_TimeoutInd
  | inputs (eRunningState : eRunningState) (xExAirFanErr xExAirFanRemote : Bool) (usRunningFreq : USHORT)
  deriving DecidableEq

def FanEvent.step (n : Fin EX_AIR_FAN_NUM) (x : Ticking) : FanEvent → Ticking
  | .vExAirFan_SwitchOpen => { x with sys := Control.vExAirFan_SwitchOpen n x.sys }
  | .vExAirFan_SwitchClose => { x with sys := Control.vExAirFan_SwitchClose n x.sys }
  | .vExAirFan_TimeoutInd => Control.vExAirFan_TimeoutInd n x
  | .inputs eRunningState xExAirFanErr xExAirFanRemote usRunningFreq =>
    { x with sys := x.sys.setFan n { x.sys.fan n with
        eRunningState := eRunningState, xExAirFanErr := xExAirFanErr, xExAirFanRemote := xExAirFanRemote
        usRunningFreq := usRunningFreq } }

/-- One event, of what the tick depends on. -/
def FanEvent.stepSide (f : TickSide) : FanEvent → TickSide
  | .vExAirFan_SwitchOpen => ⟨f.switchOpen, f.ucTimeCount, f.xExAirFanCtrl⟩
  | .vExAirFan_SwitchClose => ⟨f.command .OFF, f.ucTimeCount, f.xExAirFanCtrl⟩
  | .vExAirFan_TimeoutInd => f.tick
  | .inputs eRunningState xExAirFanErr xExAirFanRemote _ =>
    { f with
      eRunningState := eRunningState, xExAirFanErr := xExAirFanErr, xExAirFanRemote := xExAirFanRemote }

theorem FanEvent.step_side (n : Fin EX_AIR_FAN_NUM) (x : Ticking) (e : FanEvent) :
    (e.step n x).side n = e.stepSide (x.side n) := by
  cases e with
  | vExAirFan_SwitchOpen => exact side_of_fanSide n (vExAirFan_SwitchOpen_fanSide n x.sys) _ _
  | vExAirFan_SwitchClose => exact side_of_fanSide n (vExAirFan_SwitchClose_fanSide n x.sys) _ _
  | vExAirFan_TimeoutInd => exact tick_side n x
  | inputs r e m q =>
    exact side_of_fanSide n (setFan_fanSide n x.sys { x.sys.fan n with
      eRunningState := r, xExAirFanErr := e, xExAirFanRemote := m, usRunningFreq := q } rfl) _ _

/-- A fan under watch: how many ticks in a row its command and feedback have differed, remote and without a fault. -/
structure Watching where
  x : Ticking
  ticks : ℕ

def Ticking.ctrlErr (n : Fin EX_AIR_FAN_NUM) (x : Ticking) : Bool := (x.sys.fan n).xExAirFanCtrlErr

namespace Watching

variable (n : Fin EX_AIR_FAN_NUM)

def next (w : Watching) (e : FanEvent) : Watching :=
  ⟨e.step n w.x, if e matches .vExAirFan_TimeoutInd then (w.x.side n).disagreed w.ticks else w.ticks⟩

def step (w : Watching) (e : FanEvent) : Option Watching := some (w.next n e)

/-- A tick raises the control error only if at it and at the four ticks before command and feedback differed of a remote
fan without a fault; and the time it leaves is that of such ticks in a row. -/
def CtrlErrRight (w : Watching) (e : FanEvent) : Prop :=
  match e with
  | .vExAirFan_TimeoutInd =>
    (w.x.ctrlErr n = false → (w.next n e).x.ctrlErr n = true → 5 ≤ (w.next n e).ticks) ∧
      ((w.next n e).x.ctrlErr n = false → (w.next n e).x.ucTimeCount.toNat = 2 * (w.next n e).ticks)
  | _ => True

/-- No tick finds time standing. -/
def NoStaleTime (w : Watching) (e : FanEvent) : Prop :=
  match e with
  | .vExAirFan_TimeoutInd => (w.x.side n).NoStaleTime
  | _ => True

variable {n} {w : Watching}

theorem ctrlErrRight_iff (hI : (w.x.side n).Counting w.ticks) (e : FanEvent) :
    w.CtrlErrRight n e ↔ w.NoStaleTime n e := by
  cases e with
  | vExAirFan_TimeoutInd =>
    have hright : w.CtrlErrRight n .vExAirFan_TimeoutInd ↔ (w.x.side n).CountsRight w.ticks := by
      unfold TickSide.CountsRight
      rw [← tick_side]
      exact Iff.rfl
    exact hright.trans (TickSide.countsRight_iff hI)
  | vExAirFan_SwitchOpen => exact Iff.rfl
  | vExAirFan_SwitchClose => exact Iff.rfl
  | inputs => exact Iff.rfl

theorem stepSide_time (f : TickSide) {e : FanEvent} (h : e ≠ .vExAirFan_TimeoutInd) : (e.stepSide f).time = f.time := by
  cases e with
  | vExAirFan_TimeoutInd => exact absurd rfl h
  | vExAirFan_SwitchOpen =>
    exact congrArg (fun k => (f.ucTimeCount, f.xExAirFanCtrl, k)) (FanSide.switchOpen_ctrlErr f.toFanSide)
  | vExAirFan_SwitchClose => rfl
  | inputs => rfl

theorem counting_of_time {f g : TickSide} {ticks : ℕ} (h : g.time = f.time) (hI : f.Counting ticks) :
    g.Counting ticks := by
  obtain ⟨ht, ha, hk⟩ := (TickSide.time_eq_iff ..).mp h
  unfold TickSide.Counting
  rw [ht, ha, hk]
  exact hI

theorem counting_next (hI : (w.x.side n).Counting w.ticks) (e : FanEvent) (h : w.CtrlErrRight n e) :
    ((w.next n e).x.side n).Counting (w.next n e).ticks := by
  have hside := e.step_side n w.x
  by_cases he : e = .vExAirFan_TimeoutInd
  · subst he
    have hright : (w.x.side n).CountsRight w.ticks := by
      unfold TickSide.CountsRight
      rw [← tick_side]
      exact h
    have hnext := TickSide.counting_tick hI hright
    rw [← tick_side] at hnext
    exact hnext
  · have hticks : (w.next n e).ticks = w.ticks := by
      cases e with
      | vExAirFan_TimeoutInd => exact absurd rfl he
      | vExAirFan_SwitchOpen => rfl
      | vExAirFan_SwitchClose => rfl
      | inputs => rfl
    rw [hticks]
    refine counting_of_time ?_ hI
    rw [← stepSide_time (w.x.side n) he, ← hside]
    rfl

def start (s : System) : Watching := ⟨⟨s, 0, false⟩, 0⟩

/-- **The control error takes ten seconds exactly in the runs in which no tick finds time standing** over a fault or a
local period. -/
theorem ctrlErr_iff (s : System) (es : List FanEvent) :
    Meets (step n) (CtrlErrRight n) (start s) es ↔ Meets (step n) (NoStaleTime n) (start s) es := by
  refine meets_congr (I := fun w => (w.x.side n).Counting w.ticks) ?_ (fun w e hI => ctrlErrRight_iff hI e) ?_
  · intro w e w' hI h hw
    obtain rfl := Option.some.inj hw
    exact counting_next hI e h
  · intro _
    exact ⟨by simp [start, Ticking.side], rfl, Nat.zero_le 4⟩

/-- A fan from reset: it has an output, takes commands and stands. -/
def standing : System :=
  { System.zero with psExAirFanList := fun _ => { ExAirFan.zero with sSwitch_DO := 1, xExAirFanRemote := true } }

instance (w : Watching) (e : FanEvent) : Decidable (w.CtrlErrRight n e) := by
  unfold CtrlErrRight
  split <;> infer_instance

/-- The fan is opened and does not start; after three ticks it is local for one tick, then it is opened again: it has a
control error after two more ticks. -/
theorem standing_early : ¬Meets (step 0) (CtrlErrRight 0) (start standing)
    [.vExAirFan_SwitchOpen, .vExAirFan_TimeoutInd, .vExAirFan_TimeoutInd, .vExAirFan_TimeoutInd,
      .inputs .STATE_STOP false false 0, .vExAirFan_TimeoutInd, .inputs .STATE_STOP false true 0,
      .vExAirFan_SwitchOpen, .vExAirFan_TimeoutInd, .vExAirFan_TimeoutInd] := by
  decide

end Watching

/-! ### The relay in runs -/

section Relay

variable (n : Fin EX_AIR_FAN_NUM)

def Ticking.relay (x : Ticking) : eCtrlEn := x.sys.digitalOutput (x.sys.fan n).sSwitch_DO

/-- After an event the relay is on exactly where the command is; after a tick of a blocked fan it is off. -/
def RelayRight (x : Ticking) (e : FanEvent) : Prop :=
  ((e.step n x).relay n = .ON ↔ ((e.step n x).sys.fan n).eCtrlCmd = .ON) ∧
    (e = .vExAirFan_TimeoutInd → TickSide.Blocked ((e.step n x).sys.fanSide n) → (e.step n x).relay n = .OFF)

/-- No tick takes the command back from a fan that is to run and stands. -/
def NotLeftClosed (x : Ticking) (e : FanEvent) : Prop := e = .vExAirFan_TimeoutInd → ¬(x.side n).LeavesClosed

variable {n} {x : Ticking}

theorem eq_of_on_iff {a b : eCtrlEn} (h : a = .ON ↔ b = .ON) : a = b := by
  cases a <;> cases b <;> simp_all

theorem side_relay {eCtrl : eCtrlEn} (h : (x.side n).relay = some eCtrl) : x.relay n = eCtrl := by
  unfold Ticking.side System.fanSide at h
  dsimp only at h
  split at h
  · exact Option.some.inj h
  · cases h

theorem stepSide_relay_some {f : TickSide} (h : f.relay = some f.eCtrlCmd) (e : FanEvent) :
    ∃ eCtrl, (e.stepSide f).relay = some eCtrl := by
  cases e with
  | vExAirFan_TimeoutInd => exact TickSide.tick_relay_some h
  | vExAirFan_SwitchOpen =>
    unfold FanEvent.stepSide FanSide.switchOpen
    dsimp only
    split
    · exact ⟨.ON, by simp [FanSide.command, h]⟩
    · exact ⟨_, h⟩
  | vExAirFan_SwitchClose => exact ⟨.OFF, by simp [FanEvent.stepSide, FanSide.command, h]⟩
  | inputs => exact ⟨_, h⟩

theorem stepSide_relay {f : TickSide} (h : f.relay = some f.eCtrlCmd) {e : FanEvent}
    (he : e ≠ .vExAirFan_TimeoutInd) : (e.stepSide f).relay = some (e.stepSide f).eCtrlCmd := by
  cases e with
  | vExAirFan_TimeoutInd => exact absurd rfl he
  | vExAirFan_SwitchOpen =>
    unfold FanEvent.stepSide FanSide.switchOpen
    dsimp only
    split
    · simp [FanSide.command, h]
    · exact h
  | vExAirFan_SwitchClose => simp [FanEvent.stepSide, FanSide.command, h]
  | inputs => exact h

theorem relayRight_iff (hI : (x.side n).relay = some (x.side n).eCtrlCmd) (e : FanEvent) :
    RelayRight n x e ↔ ((e.step n x).side n).relay = some ((e.step n x).side n).eCtrlCmd := by
  have hside := e.step_side n x
  obtain ⟨eCtrl, hsome⟩ := stepSide_relay_some hI e
  rw [← hside] at hsome
  have hrelay := side_relay hsome
  rw [hsome, Option.some.injEq]
  constructor
  · rintro ⟨h, -⟩
    rw [hrelay] at h
    exact eq_of_on_iff h
  · rintro rfl
    refine ⟨by rw [hrelay]; exact Iff.rfl, ?_⟩
    rintro rfl hblocked
    rw [hrelay, hside]
    refine TickSide.tick_command_off ?_
    have htick : (FanEvent.stepSide (x.side n) .vExAirFan_TimeoutInd).toFanSide = (x.side n).tick.toFanSide := rfl
    rw [← htick, ← hside]
    exact hblocked

theorem relay_step_iff (hI : (x.side n).relay = some (x.side n).eCtrlCmd) (e : FanEvent) :
    RelayRight n x e ↔ NotLeftClosed n x e := by
  rw [relayRight_iff hI, e.step_side n x]
  by_cases he : e = .vExAirFan_TimeoutInd
  · subst he
    exact (TickSide.relay_tick_iff hI).trans (by simp [NotLeftClosed])
  · exact iff_of_true (stepSide_relay hI he) fun h => absurd h he

/-- **The relay follows the command exactly in the runs in which no tick takes the command back from a fan that
stands.** -/
theorem relay_iff (hch : 0 < (x.sys.fan n).sSwitch_DO ∧ (x.sys.fan n).sSwitch_DO ≤ DO_NUM)
    (hrelay : x.relay n = .OFF) (hcmd : (x.sys.fan n).eCtrlCmd = .OFF) (es : List FanEvent) :
    Meets (fun x e => some (e.step n x)) (RelayRight n) x es ↔
      Meets (fun x e => some (e.step n x)) (NotLeftClosed n) x es := by
  refine meets_congr (I := fun x => (x.side n).relay = some (x.side n).eCtrlCmd) ?_
    (fun x e hI => relay_step_iff hI e) ?_
  · intro x e x' hI h hx
    obtain rfl := Option.some.inj hx
    exact (relayRight_iff hI e).mp h
  · have hsome : (x.side n).relay = some (x.relay n) := if_pos hch
    rw [hsome, hrelay]
    exact congrArg some hcmd.symm

instance (x : Ticking) (e : FanEvent) : Decidable (RelayRight n x e) := inferInstanceAs (Decidable (_ ∧ _))

instance (f : TickSide) : Decidable f.LeavesClosed := inferInstanceAs (Decidable (_ ∧ _))

instance (x : Ticking) (e : FanEvent) : Decidable (NotLeftClosed n x e) := inferInstanceAs (Decidable (_ → _))

/-- A fan is opened, runs, and has a fault while it runs. -/
theorem relay_runs :
    Meets (fun x e => some (e.step 0 x)) (RelayRight 0) ⟨Watching.standing, 0, false⟩
      [.vExAirFan_SwitchOpen, .vExAirFan_TimeoutInd, .inputs .STATE_RUN false true 0, .vExAirFan_TimeoutInd,
        .inputs .STATE_RUN true true 0, .vExAirFan_TimeoutInd] :=
  (relay_iff (x := ⟨Watching.standing, 0, false⟩) (by decide) rfl rfl _).mpr (by decide)

/-- It has the fault before it runs: the relay is left closed. -/
theorem relay_left_closed :
    ¬Meets (fun x e => some (e.step 0 x)) (RelayRight 0) ⟨Watching.standing, 0, false⟩
      [.vExAirFan_SwitchOpen, .inputs .STATE_STOP true true 0, .vExAirFan_TimeoutInd] := by
  decide

end Relay

end GreeIntense.Control

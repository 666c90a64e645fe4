import Mathlib.Data.BitVec

/-!
# Timers of the kernel (`os_tmr.c`) and their registration (`md_timer.c`)

A timer is unused, stopped, running or completed, and has a delay and a period in ticks.  `xTimerRegist`
creates an unused timer, stops a running one, and deletes and creates one whose times are other than asked;
then it runs the callback, if asked, and starts the timer.  It is split here in front of the callback, which
works on more than the timer.
-/

namespace GreeIntense.Os

inductive OS_STATE
  | OS_TMR_STATE_UNUSED | OS_TMR_STATE_STOPPED | OS_TMR_STATE_RUNNING | OS_TMR_STATE_COMPLETED
  deriving DecidableEq, Repr

inductive OS_OPT_TMR
  | OS_OPT_TMR_ONE_SHOT | OS_OPT_TMR_PERIODIC
  deriving DecidableEq, Repr

structure OS_TMR where
  State : OS_STATE
  Dly : BitVec 32
  Period : BitVec 32
  deriving DecidableEq

abbrev TMR_TICK_PER_SECOND : BitVec 32 := 1000

/-- `OSTmrCreate`, and whether it reports `OS_ERR_NONE`. -/
def OSTmrCreate (dly period : BitVec 32) (opt : OS_OPT_TMR) (p_tmr : OS_TMR) : OS_TMR × Bool :=
  match opt with
  | .OS_OPT_TMR_PERIODIC => if period = 0 then (p_tmr, false) else (⟨.OS_TMR_STATE_STOPPED, dly, period⟩, true)
  | .OS_OPT_TMR_ONE_SHOT => if dly = 0 then (p_tmr, false) else (⟨.OS_TMR_STATE_STOPPED, dly, period⟩, true)

def OSTmrDel (p_tmr : OS_TMR) : OS_TMR :=
  match p_tmr.State with
  | .OS_TMR_STATE_UNUSED => p_tmr
  | _ => ⟨.OS_TMR_STATE_UNUSED, 0, 0⟩

/-- `OSTmrStop` with `OS_OPT_TMR_NONE`. -/
def OSTmrStop (p_tmr : OS_TMR) : OS_TMR :=
  match p_tmr.State with
  | .OS_TMR_STATE_RUNNING => { p_tmr with State := .OS_TMR_STATE_STOPPED }
  | _ => p_tmr

def OSTmrStart (p_tmr : OS_TMR) : OS_TMR :=
  match p_tmr.State with
  | .OS_TMR_STATE_UNUSED => p_tmr
  | _ => { p_tmr with State := .OS_TMR_STATE_RUNNING }

/-- `xTimerRegist` up to the callback: the timer, and whether `err` is `OS_ERR_NONE`. -/
def xTimerRegist_create (ulDlyTime_s ulPeriod_s : BitVec 32) (opt : OS_OPT_TMR) (p_tmr : OS_TMR) : OS_TMR × Bool :=
  let dly := ulDlyTime_s * TMR_TICK_PER_SECOND
  let period := ulPeriod_s * TMR_TICK_PER_SECOND
  let r :=
    match p_tmr.State with
    | .OS_TMR_STATE_UNUSED => OSTmrCreate dly period opt p_tmr
    | .OS_TMR_STATE_RUNNING => (OSTmrStop p_tmr, true)
    | _ => (p_tmr, true)
  if r.1.Dly ≠ dly ∨ r.1.Period ≠ period then OSTmrCreate dly period opt (OSTmrDel r.1) else r

/-- `xTimerRegist` with `xExcuteCallback` false. -/
def xTimerRegist (ulDlyTime_s ulPeriod_s : BitVec 32) (opt : OS_OPT_TMR) (p_tmr : OS_TMR) : OS_TMR :=
  let r := xTimerRegist_create ulDlyTime_s ulPeriod_s opt p_tmr
  if r.2 then OSTmrStart r.1 else r.1

def xTmrStop (p_tmr : OS_TMR) : OS_TMR := OSTmrStop p_tmr

theorem OSTmrCreate_times {dly period : BitVec 32} {opt : OS_OPT_TMR} {p_tmr : OS_TMR}
    (h : (OSTmrCreate dly period opt p_tmr).2 = true) :
    (OSTmrCreate dly period opt p_tmr).1.Dly = dly ∧ (OSTmrCreate dly period opt p_tmr).1.Period = period := by
  unfold OSTmrCreate at h ⊢
  cases opt <;> dsimp only at h ⊢ <;> split at h
  · cases h
  · next hd =>
    rw [if_neg hd]
    exact ⟨rfl, rfl⟩
  · cases h
  · next hd =>
    rw [if_neg hd]
    exact ⟨rfl, rfl⟩

/-- A timer that `xTimerRegist` starts has the times asked, whatever it had before. -/
theorem xTimerRegist_create_times {ulDlyTime_s ulPeriod_s : BitVec 32} {opt : OS_OPT_TMR} {p_tmr : OS_TMR}
    (h : (xTimerRegist_create ulDlyTime_s ulPeriod_s opt p_tmr).2 = true) :
    (xTimerRegist_create ulDlyTime_s ulPeriod_s opt p_tmr).1.Dly = ulDlyTime_s * TMR_TICK_PER_SECOND ∧
      (xTimerRegist_create ulDlyTime_s ulPeriod_s opt p_tmr).1.Period = ulPeriod_s * TMR_TICK_PER_SECOND := by
  unfold xTimerRegist_create at h ⊢
  dsimp only at h ⊢
  generalize (match p_tmr.State with
    | .OS_TMR_STATE_UNUSED =>
      OSTmrCreate (ulDlyTime_s * TMR_TICK_PER_SECOND) (ulPeriod_s * TMR_TICK_PER_SECOND) opt p_tmr
    | .OS_TMR_STATE_RUNNING => (OSTmrStop p_tmr, true)
    | _ => (p_tmr, true)) = r at h ⊢
  by_cases hne : r.1.Dly ≠ ulDlyTime_s * TMR_TICK_PER_SECOND ∨ r.1.Period ≠ ulPeriod_s * TMR_TICK_PER_SECOND
  · rw [if_pos hne] at h ⊢
    exact OSTmrCreate_times h
  · rw [if_neg hne]
    push Not at hne
    exact hne

end GreeIntense.Os

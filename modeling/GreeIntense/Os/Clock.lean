import GreeIntense.Os.Tmr

/-!
# One-shot timers on the clock of the timer task (`os_tmr.c`)

The timer task counts its ticks (`OSTmrTickCtr`).  A timer that is started gets the tick at which it ends
(`Match`); from that tick on the timer task can complete it, and it is not completed before.

`Runs now due t` says what a timer is good for: while it runs it does not end before `due`, and when it does not
run `due` has passed.  Registering the timer makes it so, for the delay asked (`regist_runs`), and neither the
passing of time nor the timer task spoils it.
-/

namespace GreeIntense.Os

/-- A timer with the tick at which it ends. -/
structure ClockedTmr where
  tmr : OS_TMR
  Match : ℕ

namespace ClockedTmr

/-- `usGetTmrState(p_tmr) == OS_TMR_STATE_RUNNING`. -/
def running (t : ClockedTmr) : Bool := t.tmr.State = .OS_TMR_STATE_RUNNING

/-- `xTimerRegist` of a one-shot timer, at the tick `now`. -/
def regist (now : ℕ) (ulDlyTime_s : BitVec 32) (t : ClockedTmr) : ClockedTmr :=
  let r := xTimerRegist_create ulDlyTime_s 0 .OS_OPT_TMR_ONE_SHOT t.tmr
  if r.2 then ⟨OSTmrStart r.1, now + r.1.Dly.toNat⟩ else ⟨r.1, t.Match⟩

/-- The timer task completes a timer whose end has come. -/
def expire (now : ℕ) (t : ClockedTmr) : ClockedTmr :=
  if t.running ∧ t.Match ≤ now then { t with tmr := { t.tmr with State := .OS_TMR_STATE_COMPLETED } } else t

/-- The timer does not end before the tick `due`; if it does not run, the tick has come. -/
structure Runs (now due : ℕ) (t : ClockedTmr) : Prop where
  running : t.running = true → due ≤ t.Match
  ended : t.running = false → due ≤ now

theorem Runs.pass {now now' due : ℕ} {t : ClockedTmr} (h : t.Runs now due) (hn : now ≤ now') : t.Runs now' due :=
  ⟨h.running, fun he => (h.ended he).trans hn⟩

theorem Runs.expire {now due : ℕ} {t : ClockedTmr} (h : t.Runs now due) : (t.expire now).Runs now due := by
  unfold ClockedTmr.expire
  split
  next hd => exact ⟨fun hr => absurd hr (by simp [ClockedTmr.running]), fun _ => (h.running hd.1).trans hd.2⟩
  · exact h

theorem expire_match (now : ℕ) (t : ClockedTmr) : (t.expire now).Match = t.Match := by
  unfold ClockedTmr.expire
  split <;> rfl

end ClockedTmr

/-! ### What a registration does -/

section Regist

variable {dly period : BitVec 32} {t : OS_TMR}

/-- The timer of a registration can be started; without one the delay asked was 0. -/
structure Startable (dly : BitVec 32) (r : OS_TMR × Bool) : Prop where
  created : r.2 = true → r.1.State ≠ .OS_TMR_STATE_UNUSED
  refused : r.2 = false → r.1.State = .OS_TMR_STATE_UNUSED ∧ dly = 0

theorem OSTmrCreate_startable (h : t.State = .OS_TMR_STATE_UNUSED) :
    Startable dly (OSTmrCreate dly period .OS_OPT_TMR_ONE_SHOT t) := by
  unfold OSTmrCreate
  dsimp only
  split
  next hd =>
    constructor
    · intro hc
      cases hc
    · intro _
      exact ⟨h, hd⟩
  · constructor
    · intro _ hs
      cases hs
    · intro hc
      cases hc

theorem OSTmrDel_unused : (OSTmrDel t).State = .OS_TMR_STATE_UNUSED := by
  unfold OSTmrDel
  split
  next h => exact h
  · rfl

theorem startable_of_state (h : t.State ≠ .OS_TMR_STATE_UNUSED) : Startable dly (t, true) := by
  constructor
  · intro _
    exact h
  · intro hc
    cases hc

theorem Startable.again {r : OS_TMR × Bool} (h : Startable dly r) (c : Prop) [Decidable c] :
    Startable dly (if c then OSTmrCreate dly period .OS_OPT_TMR_ONE_SHOT (OSTmrDel r.1) else r) := by
  split
  · exact OSTmrCreate_startable OSTmrDel_unused
  · exact h

theorem xTimerRegist_create_startable (ulDlyTime_s : BitVec 32) (t : OS_TMR) :
    Startable (ulDlyTime_s * TMR_TICK_PER_SECOND) (xTimerRegist_create ulDlyTime_s 0 .OS_OPT_TMR_ONE_SHOT t) := by
  unfold xTimerRegist_create
  dsimp only
  apply Startable.again
  split
  next hs => exact OSTmrCreate_startable hs
  next hs => exact startable_of_state (by simp [OSTmrStop, hs])
  next hs _ => exact startable_of_state hs

/-- The timer is there and can be started. -/
def Created (r : OS_TMR × Bool) : Prop := r.2 = true ∧ r.1.State ≠ .OS_TMR_STATE_UNUSED

theorem OSTmrCreate_created (h : period ≠ 0) : Created (OSTmrCreate dly period .OS_OPT_TMR_PERIODIC t) := by
  have hcreate : OSTmrCreate dly period .OS_OPT_TMR_PERIODIC t = (⟨.OS_TMR_STATE_STOPPED, dly, period⟩, true) :=
    if_neg h
  rw [hcreate]
  exact ⟨rfl, fun hs => by cases hs⟩

/-- A periodic timer is created, whatever it was. -/
theorem xTimerRegist_create_periodic {ulPeriod_s : BitVec 32} (h : ulPeriod_s * TMR_TICK_PER_SECOND ≠ 0)
    (t : OS_TMR) : Created (xTimerRegist_create 0 ulPeriod_s .OS_OPT_TMR_PERIODIC t) := by
  have hagain (r : OS_TMR × Bool) (hr : Created r) (c : Prop) [Decidable c] :
      Created (if c then OSTmrCreate (0 * TMR_TICK_PER_SECOND) (ulPeriod_s * TMR_TICK_PER_SECOND)
        .OS_OPT_TMR_PERIODIC (OSTmrDel r.1) else r) := by
    split
    · exact OSTmrCreate_created h
    · exact hr
  unfold xTimerRegist_create
  dsimp only
  apply hagain
  split
  next => exact OSTmrCreate_created h
  next hs => exact ⟨rfl, by simp [OSTmrStop, hs]⟩
  next hs _ => exact ⟨rfl, hs⟩

theorem OSTmrStart_running (h : t.State ≠ .OS_TMR_STATE_UNUSED) :
    (OSTmrStart t).State = .OS_TMR_STATE_RUNNING := by
  unfold OSTmrStart
  split
  next hs => exact absurd hs h
  · rfl

end Regist

namespace ClockedTmr

theorem running_of_state {t : ClockedTmr} (h : t.tmr.State = .OS_TMR_STATE_RUNNING) : t.running = true :=
  decide_eq_true h

theorem not_running_of_unused {t : ClockedTmr} (h : t.tmr.State = .OS_TMR_STATE_UNUSED) : t.running = false := by
  rw [running, h]
  rfl

theorem regist_started (now : ℕ) {d : BitVec 32} {t : ClockedTmr}
    (h : (xTimerRegist_create d 0 .OS_OPT_TMR_ONE_SHOT t.tmr).2 = true) :
    (t.regist now d).tmr.State = .OS_TMR_STATE_RUNNING ∧ (t.regist now d).tmr.Dly = d * TMR_TICK_PER_SECOND ∧
      (t.regist now d).Match = now + (d * TMR_TICK_PER_SECOND).toNat := by
  have hrun := OSTmrStart_running ((xTimerRegist_create_startable d t.tmr).created h)
  have hdly := (xTimerRegist_create_times h).1
  unfold regist
  rw [if_pos h, hdly]
  refine ⟨hrun, ?_, rfl⟩
  rw [← hdly]
  unfold OSTmrStart
  split <;> rfl

theorem regist_refused (now : ℕ) {d : BitVec 32} {t : ClockedTmr}
    (h : (xTimerRegist_create d 0 .OS_OPT_TMR_ONE_SHOT t.tmr).2 = false) :
    (t.regist now d).tmr.State = .OS_TMR_STATE_UNUSED ∧ d * TMR_TICK_PER_SECOND = 0 ∧
      (t.regist now d).Match = t.Match := by
  obtain ⟨hs, hdly⟩ := (xTimerRegist_create_startable d t.tmr).refused h
  unfold regist
  rw [if_neg (by rw [h]; decide)]
  exact ⟨hs, hdly, rfl⟩

/-- **A registered timer runs for the delay asked.** -/
theorem regist_runs (now : ℕ) (d : BitVec 32) (t : ClockedTmr) :
    (t.regist now d).Runs now (now + (d * TMR_TICK_PER_SECOND).toNat) := by
  cases hr : (xTimerRegist_create d 0 .OS_OPT_TMR_ONE_SHOT t.tmr).2 with
  | true =>
    obtain ⟨hs, -, hend⟩ := regist_started now hr
    refine ⟨fun _ => le_of_eq hend.symm, ?_⟩
    intro he
    rw [running_of_state hs] at he
    cases he
  | false =>
    -- nothing is started, and no time is asked
    obtain ⟨hs, hdly, -⟩ := regist_refused now hr
    constructor
    · intro he
      rw [not_running_of_unused hs] at he
      cases he
    · intro _
      rw [hdly]
      exact le_of_eq rfl

theorem regist_tmr (now : ℕ) (d : BitVec 32) (t : ClockedTmr) :
    (t.regist now d).tmr = xTimerRegist d 0 .OS_OPT_TMR_ONE_SHOT t.tmr := by
  unfold regist xTimerRegist
  dsimp only
  split <;> rfl

/-- It has a new end if it runs. -/
theorem regist_match (now : ℕ) (d : BitVec 32) (t : ClockedTmr) :
    (t.regist now d).Match =
      if (t.regist now d).running = true then now + (t.regist now d).tmr.Dly.toNat else t.Match := by
  cases hr : (xTimerRegist_create d 0 .OS_OPT_TMR_ONE_SHOT t.tmr).2 with
  | true =>
    obtain ⟨hs, hdly, hend⟩ := regist_started now hr
    rw [if_pos (running_of_state hs), hdly, hend]
  | false =>
    obtain ⟨hs, -, hend⟩ := regist_refused now hr
    rw [hend, not_running_of_unused hs, if_neg (by decide)]

end ClockedTmr

end GreeIntense.Os

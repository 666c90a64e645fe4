import GreeIntense.Lib.Run
import GreeIntense.Control.ModeChange

/-!
# The times of the mode switch

`Stay` is the history of the stay in the present running mode.  Two times should be kept: a transition is taken
when its condition has held for the change time of the mode switch (`TransitionsSustained`), and not before the
period of the transition has passed since the mode was entered (`PeriodsKept`).

A change timer is not stopped when its condition ends, and a transition does not ask whether its timer was ever
started: the first holds where each transition has its own timer behind it (`transitions_sustained`).  Entering the
fan mode does not start the period timer of the transition to the heating mode: all other transitions keep the
second (`periods_kept_iff`).
-/

namespace GreeIntense.Control

open Os Lib.Run

/-! ### The history of a stay -/

/-- An evaluation, by `vSystem_ChangeUnitRunningMode` or by `vSystem_AdjustUnitRunningMode`, with its tick and the
controller it finds. -/
structure Evaluation where
  change : Bool
  tick : ℕ
  sys : System

/-- The stay in the present running mode: since when it lasts; how it was entered, if by a transition: the
controller then, and the periods; the evaluations in it, the last one first; and the change timers that have been
started in it and whose condition no evaluation has missed since, nor has their time been set anew. -/
structure Stay where
  since : ℕ
  entry : Option (System × (ℕ → USHORT))
  log : List Evaluation
  started : ℕ → Bool

def Stay.begin (OSTmrTickCtr : ℕ) (entry : Option (System × (ℕ → USHORT))) : Stay :=
  ⟨OSTmrTickCtr, entry, [], fun _ => false⟩

/-- The history after a step. -/
def Stay.next (h : Stay) (a : Auto) : AutoEvent → Stay
  | .world w => { h with started := fun j => h.started j ∧ w.usModeChangeTime j = a.sys.usModeChangeTime j }
  | .setRunningMode eRunMode => if eRunMode = a.sys.eRunningMode then h else Stay.begin a.OSTmrTickCtr none
  | .change =>
    { h with
      log := ⟨true, a.OSTmrTickCtr, a.sys⟩ :: h.log
      started := fun j => modeCondition j a.sys ∧ (h.started j ∨ changeStarts a.sys = some j) }
  | .adjust =>
    if (adjustTakes a).isSome then Stay.begin a.OSTmrTickCtr (some (a.sys, a.usModeChangePeriod))
    else
      { h with
        log := ⟨false, a.OSTmrTickCtr, a.sys⟩ :: h.log
        started := fun j => modeCondition j a.sys ∧ h.started j }
  | _ => h

structure Watched where
  auto : Auto
  stay : Stay

def Watched.step (w : Watched) (e : AutoEvent) : Option Watched := some ⟨w.auto.step e, w.stay.next w.auto e⟩

/-- A run begins with a stay. -/
def Watched.start (a : Auto) : Watched := ⟨a, Stay.begin a.OSTmrTickCtr none⟩

/-! ### What is asked of the transitions -/

/-- The condition `j` has held for its time in this mode: the stay is as long, and no evaluation in that time has
missed it. -/
structure Sustained (w : Watched) (j : ℕ) : Prop where
  long : w.stay.since + minutes (w.auto.sys.usModeChangeTime j) ≤ w.auto.OSTmrTickCtr
  held : ∀ e ∈ w.stay.log, w.auto.OSTmrTickCtr < e.tick + minutes (w.auto.sys.usModeChangeTime j) →
    modeCondition j e.sys = true
  holds : modeCondition j w.auto.sys = true

/-- A transition is taken only when its condition has held for its time. -/
def TransitionsSustained (w : Watched) : AutoEvent → Prop
  | .adjust => ∀ j ∈ adjustTakes w.auto, Sustained w j
  | _ => True

/-- A transition is taken only when its change timer has been started for it, or no time is asked. -/
def TransitionsTimed (w : Watched) : AutoEvent → Prop
  | .adjust => ∀ j ∈ adjustTakes w.auto, w.stay.started j = true ∨ w.auto.sys.usModeChangeTime j = 0
  | _ => True

/-- A mode that was entered by a transition is not left before the period of the next one has passed. -/
def PeriodsKept (w : Watched) : AutoEvent → Prop
  | .adjust => ∀ j ∈ adjustTakes w.auto, ∀ m ∈ w.stay.entry,
      w.stay.since + minutes (m.2 (periodOf j)) ≤ w.auto.OSTmrTickCtr
  | _ => True

/-- The transition from the fan mode to the heating mode is not taken before its period has passed. -/
def FanPeriodKept (w : Watched) : AutoEvent → Prop
  | .adjust => adjustTakes w.auto = some 2 → ∀ m ∈ w.stay.entry,
      w.stay.since + minutes (m.2 2) ≤ w.auto.OSTmrTickCtr
  | _ => True

section Decide

variable (w : Watched)

instance (j : ℕ) : Decidable (Sustained w j) :=
  decidable_of_iff
    (w.stay.since + minutes (w.auto.sys.usModeChangeTime j) ≤ w.auto.OSTmrTickCtr ∧
      (∀ e ∈ w.stay.log, w.auto.OSTmrTickCtr < e.tick + minutes (w.auto.sys.usModeChangeTime j) →
        modeCondition j e.sys = true) ∧ modeCondition j w.auto.sys = true)
    ⟨fun h => ⟨h.1, h.2.1, h.2.2⟩, fun h => ⟨h.1, h.2, h.3⟩⟩

instance : ∀ e, Decidable (TransitionsSustained w e)
  | .adjust => inferInstanceAs (Decidable (∀ j ∈ adjustTakes w.auto, Sustained w j))
  | .pass _ | .endChangeTmr _ | .endPeriodTmr _ | .world _ | .setPeriods _ | .setRunningMode _ | .change =>
    isTrue trivial

instance : ∀ e, Decidable (TransitionsTimed w e)
  | .adjust =>
    inferInstanceAs (Decidable (∀ j ∈ adjustTakes w.auto, w.stay.started j = true ∨ w.auto.sys.usModeChangeTime j = 0))
  | .pass _ | .endChangeTmr _ | .endPeriodTmr _ | .world _ | .setPeriods _ | .setRunningMode _ | .change =>
    isTrue trivial

instance : ∀ e, Decidable (PeriodsKept w e)
  | .adjust =>
    inferInstanceAs (Decidable (∀ j ∈ adjustTakes w.auto, ∀ m ∈ w.stay.entry,
      w.stay.since + minutes (m.2 (periodOf j)) ≤ w.auto.OSTmrTickCtr))
  | .pass _ | .endChangeTmr _ | .endPeriodTmr _ | .world _ | .setPeriods _ | .setRunningMode _ | .change =>
    isTrue trivial

end Decide

/-- A controller in automatic mode, with a target of 25 degrees, thresholds of 1.5 degrees and 5 minutes. -/
def room (eRunMode : eRunningMode) (sAmbientIn_T : USHORT) : System :=
  { System.zero with
    eSystemMode := .MODE_AUTO
    eSystemState := .STATE_FAN
    eRunningMode := eRunMode
    usTempSet := 250
    usModeAdjustTemp := fun _ => 15
    usModeChangeTime := fun _ => 5
    sAmbientIn_T := sAmbientIn_T }

/-- The same with its timers, and periods of 10 minutes. -/
def plant (eRunMode : eRunningMode) (sAmbientIn_T : USHORT) : Auto where
  sys := room eRunMode sAmbientIn_T
  OSTmrTickCtr := 0
  Match _ := 0
  usModeChangePeriod _ := 10
  sModeChangePeriodTmr _ := ⟨⟨.OS_TMR_STATE_UNUSED, 0, 0⟩, 0⟩

/-! ### Change timers -/

/-- The change timer `j` was started at the tick `start`, and runs or has run its time; no evaluation since then has
missed the condition. -/
structure TimedFrom (w : Watched) (j start : ℕ) : Prop where
  since : w.stay.since ≤ start
  held : ∀ e ∈ w.stay.log, modeCondition j e.sys = true ∨ e.tick ≤ start
  runs : (w.auto.changeTmr j).Runs w.auto.OSTmrTickCtr (start + minutes (w.auto.sys.usModeChangeTime j))

/-- The timers that have been started in the stay measure their conditions. -/
structure TimersGood (w : Watched) : Prop where
  since : w.stay.since ≤ w.auto.OSTmrTickCtr
  ticks : ∀ e ∈ w.stay.log, e.tick ≤ w.auto.OSTmrTickCtr
  timed : ∀ j, w.stay.started j = true → ∃ start, TimedFrom w j start

section Timers

variable {w : Watched} {a : Auto} {h' : Stay}

theorem timersGood_begin (a : Auto) (entry : Option (System × (ℕ → USHORT))) :
    TimersGood ⟨a, Stay.begin a.OSTmrTickCtr entry⟩ := by
  refine ⟨le_refl _, ?_, ?_⟩
  · intro e he
    cases he
  · intro j hj
    cases hj

/-- What keeps a started timer timed: a step that adds to the log only evaluations that find the condition, and
after which the timer runs for what it ran for. -/
theorem TimedFrom.next {j start : ℕ} (h : TimedFrom w j start) (hst : h'.since = w.stay.since)
    (hlog : ∀ e ∈ h'.log, e ∈ w.stay.log ∨ modeCondition j e.sys = true)
    (htime : a.sys.usModeChangeTime j = w.auto.sys.usModeChangeTime j)
    (hruns : ∀ due, (w.auto.changeTmr j).Runs w.auto.OSTmrTickCtr due →
      (a.changeTmr j).Runs a.OSTmrTickCtr due) : TimedFrom ⟨a, h'⟩ j start := by
  refine ⟨?_, ?_, ?_⟩
  · rw [hst]
    exact h.since
  · intro e he
    rcases hlog e he with he | hc
    · exact h.held e he
    · exact Or.inl hc
  · rw [htime]
    exact hruns _ h.runs

theorem TimersGood.quiet (h : TimersGood w) (hst : h'.since = w.stay.since) (hlog : h'.log = w.stay.log)
    (htick : w.auto.OSTmrTickCtr ≤ a.OSTmrTickCtr)
    (hstarted : ∀ j, h'.started j = true → w.stay.started j = true ∧
      a.sys.usModeChangeTime j = w.auto.sys.usModeChangeTime j)
    (hruns : ∀ j due, (w.auto.changeTmr j).Runs w.auto.OSTmrTickCtr due →
      (a.changeTmr j).Runs a.OSTmrTickCtr due) : TimersGood ⟨a, h'⟩ := by
  refine ⟨?_, ?_, ?_⟩
  · rw [hst]
    exact h.since.trans htick
  · intro e he
    rw [hlog] at he
    exact (h.ticks e he).trans htick
  · intro j hj
    obtain ⟨hj, htime⟩ := hstarted j hj
    obtain ⟨start, ht⟩ := h.timed j hj
    exact ⟨start, ht.next hst (fun e he => Or.inl (hlog ▸ he)) htime (hruns j)⟩

theorem TimersGood.pass (h : TimersGood w) (ticks : ℕ) :
    TimersGood ⟨w.auto.step (.pass ticks), w.stay.next w.auto (.pass ticks)⟩ :=
  h.quiet rfl rfl (Nat.le_add_right _ _) (fun _ hj => ⟨hj, rfl⟩) fun _ _ hr => hr.pass (Nat.le_add_right _ _)

theorem endChangeTmr_tmr (a : Auto) (k j : ℕ) :
    (a.step (.endChangeTmr k)).changeTmr j =
      if j = k then (a.changeTmr j).expire a.OSTmrTickCtr else a.changeTmr j := by
  unfold Auto.step Auto.changeTmr
  dsimp only
  rw [Function.update_apply]
  split
  next hj =>
    subst hj
    have hend : (ClockedTmr.expire a.OSTmrTickCtr ⟨a.sys.sModeChangeTmr j, a.Match j⟩).Match = a.Match j :=
      ClockedTmr.expire_match _ _
    generalize ClockedTmr.expire a.OSTmrTickCtr ⟨a.sys.sModeChangeTmr j, a.Match j⟩ = t at hend ⊢
    rw [← hend]
  · rfl

theorem TimersGood.endChangeTmr (h : TimersGood w) (k : ℕ) :
    TimersGood ⟨w.auto.step (.endChangeTmr k), w.stay.next w.auto (.endChangeTmr k)⟩ := by
  have htick : (w.auto.step (.endChangeTmr k)).OSTmrTickCtr = w.auto.OSTmrTickCtr := by
    rw [Auto.step]
  have htime (j : ℕ) : (w.auto.step (.endChangeTmr k)).sys.usModeChangeTime j = w.auto.sys.usModeChangeTime j := by
    rw [Auto.step]
  refine h.quiet rfl rfl (le_of_eq htick.symm) (fun j hj => ⟨hj, htime j⟩) ?_
  intro j due hr
  rw [endChangeTmr_tmr]
  split
  · exact hr.expire
  · exact hr

theorem TimersGood.world (h : TimersGood w) (x : System) :
    TimersGood ⟨w.auto.step (.world x), w.stay.next w.auto (.world x)⟩ :=
  h.quiet rfl rfl (le_refl _) (fun _ hj => of_decide_eq_true hj) fun _ _ hr => hr

theorem TimersGood.setRunningMode (h : TimersGood w) (m : eRunningMode) :
    TimersGood ⟨w.auto.step (.setRunningMode m), w.stay.next w.auto (.setRunningMode m)⟩ := by
  have hm := setMode_becomes w.auto m
  have htime : (w.auto.setMode m).sys.usModeChangeTime = w.auto.sys.usModeChangeTime := by
    rw [← switch_time, hm.switch, switch_time]
  have htmr (j : ℕ) : (w.auto.setMode m).changeTmr j = w.auto.changeTmr j := hm.changeTmr rfl j
  rw [Auto.step, Stay.next]
  split
  · refine h.quiet rfl rfl (le_of_eq hm.tick.symm) (fun j hj => ⟨hj, congrFun htime j⟩) ?_
    intro j due hr
    rw [htmr, hm.tick]
    exact hr
  · rw [← hm.tick]
    exact timersGood_begin _ _

/-- **An evaluation enters the history**: a timer that counts as started then was so before and runs for what it ran
for, or runs from now on; and the evaluation finds its condition. -/
theorem TimersGood.logged {e : Evaluation} (h : TimersGood w) (he : e.tick = w.auto.OSTmrTickCtr)
    (hst : h'.since = w.stay.since) (hlog : h'.log = e :: w.stay.log) (htick : a.OSTmrTickCtr = w.auto.OSTmrTickCtr)
    (htime : a.sys.usModeChangeTime = w.auto.sys.usModeChangeTime)
    (hstarted : ∀ j, h'.started j = true → modeCondition j e.sys = true ∧
      (w.stay.started j = true ∧ a.changeTmr j = w.auto.changeTmr j ∨
        (a.changeTmr j).Runs a.OSTmrTickCtr (a.OSTmrTickCtr + minutes (a.sys.usModeChangeTime j)))) :
    TimersGood ⟨a, h'⟩ := by
  refine ⟨?_, ?_, ?_⟩
  · rw [hst, htick]
    exact h.since
  · intro e' he'
    rw [htick]
    rw [hlog] at he'
    rcases List.mem_cons.1 he' with rfl | he'
    · exact le_of_eq he
    · exact h.ticks e' he'
  · intro j hj
    obtain ⟨hc, ⟨hj, htmr⟩ | hruns⟩ := hstarted j hj
    · obtain ⟨start, ht⟩ := h.timed j hj
      refine ⟨start, ht.next hst ?_ (congrFun htime j) ?_⟩
      · intro e' he'
        rw [hlog] at he'
        rcases List.mem_cons.1 he' with rfl | he'
        · exact Or.inr hc
        · exact Or.inl he'
      · intro due hr
        rw [htmr, htick]
        exact hr
    · -- the evaluations before are not later than now
      refine ⟨a.OSTmrTickCtr, ?_, ?_, hruns⟩
      · rw [hst, htick]
        exact h.since
      · intro e' he'
        rw [hlog] at he'
        rcases List.mem_cons.1 he' with rfl | he'
        · exact Or.inl hc
        · rw [htick]
          exact Or.inr (h.ticks e' he')

/-- A change evaluation: a timer that it starts runs from now on. -/
theorem TimersGood.change (h : TimersGood w) :
    TimersGood ⟨w.auto.step .change, w.stay.next w.auto .change⟩ := by
  have htick := changeUnitRunningMode_tick w.auto
  have htime := changeUnitRunningMode_time w.auto
  have htmr := changeUnitRunningMode_tmr w.auto
  rw [Auto.step, Stay.next]
  generalize w.auto.changeUnitRunningMode = a at htick htime htmr ⊢
  refine @TimersGood.logged w a _ _ h rfl rfl rfl htick htime ?_
  intro j hj
  obtain ⟨hc, hj⟩ := of_decide_eq_true hj
  refine ⟨hc, ?_⟩
  by_cases hs : changeStarts w.auto.sys = some j
  · right
    rw [htmr, if_pos hs, htick, htime, ← minutes_toNat]
    exact ClockedTmr.regist_runs _ _ _
  · left
    exact ⟨hj.resolve_right hs, by rw [htmr, if_neg hs]⟩

theorem TimersGood.adjust (h : TimersGood w) :
    TimersGood ⟨w.auto.step .adjust, w.stay.next w.auto .adjust⟩ := by
  rw [Auto.step, Stay.next]
  cases hj : adjustTakes w.auto with
  | some j =>
    have htick := (adjust_taken hj).tick
    rw [if_pos (by rfl), ← htick]
    exact timersGood_begin _ _
  | none =>
    have hsame := adjust_stayed hj
    rw [if_neg (by decide)]
    refine @TimersGood.logged w _ _ _ h rfl rfl rfl hsame.tick hsame.time ?_
    intro j hj
    obtain ⟨hc, hj⟩ := of_decide_eq_true hj
    exact ⟨hc, Or.inl ⟨hj, hsame.changeTmr rfl j⟩⟩

/-- **Every step keeps the started timers timed.** -/
theorem TimersGood.step (h : TimersGood w) (e : AutoEvent) : TimersGood ⟨w.auto.step e, w.stay.next w.auto e⟩ := by
  cases e with
  | pass ticks => exact h.pass ticks
  | endChangeTmr k => exact h.endChangeTmr k
  | endPeriodTmr k => exact h.quiet rfl rfl (le_refl _) (fun _ hj => ⟨hj, rfl⟩) fun _ _ hr => hr
  | world x => exact h.world x
  | setPeriods p => exact h.quiet rfl rfl (le_refl _) (fun _ hj => ⟨hj, rfl⟩) fun _ _ hr => hr
  | setRunningMode m => exact h.setRunningMode m
  | change => exact h.change
  | adjust => exact h.adjust

/-- A transition whose timer has been started for it has had its condition for its time. -/
theorem TimersGood.sustained (h : TimersGood w) {j : ℕ} (hj : adjustTakes w.auto = some j)
    (ht : w.stay.started j = true ∨ w.auto.sys.usModeChangeTime j = 0) : Sustained w j := by
  obtain ⟨-, hg, -⟩ := adjustTakes_some hj
  obtain ⟨hc, hdue, -⟩ := (guards_iff j w.auto).1 hg
  have hidle : (w.auto.changeTmr j).running = false := decide_eq_false (of_decide_eq_true hdue)
  rcases ht with ht | h0
  · obtain ⟨start, hs, hheld, hruns⟩ := h.timed j ht
    have hend := hruns.ended hidle
    refine ⟨(Nat.add_le_add_right hs _).trans hend, ?_, hc⟩
    intro e he hlate
    rcases hheld e he with hce | hearly
    · exact hce
    · omega
  · have hzero : minutes (w.auto.sys.usModeChangeTime j) = 0 := by
      rw [h0]
      rfl
    refine ⟨by rw [hzero]; exact h.since, ?_, hc⟩
    intro e he hlate
    have htick := h.ticks e he
    omega

end Timers

/-- **A transition is taken only when its condition has held for its time, if each is taken on its own timer.** -/
theorem transitions_sustained (a : Auto) (es : List AutoEvent)
    (h : Meets Watched.step TransitionsTimed (Watched.start a) es) :
    Meets Watched.step TransitionsSustained (Watched.start a) es := by
  refine Meets.imp (fun w e w' hg _ _ hw => ?_) (fun w e hg _ ht => ?_) meets_true (timersGood_begin a none) h
  · cases hw
    exact hg.step e
  · cases e with
    | adjust => exact fun j hj => hg.sustained hj (ht j hj)
    | _ => trivial

theorem transitions_sustained_hot :
    Meets Watched.step TransitionsSustained (Watched.start (plant .RUN_MODE_FAN 300))
      [.change, .pass 300000, .endChangeTmr 1, .adjust] :=
  transitions_sustained (plant .RUN_MODE_FAN 300) [.change, .pass 300000, .endChangeTmr 1, .adjust] (by decide)

/-- The room is hot, after a minute an evaluation finds it mild, and it is hot again when the timer ends: the mode is
left. -/
theorem transition_not_sustained :
    ¬Meets Watched.step TransitionsSustained (Watched.start (plant .RUN_MODE_FAN 300))
      [.change, .world (room .RUN_MODE_FAN 250), .pass 60000, .change, .world (room .RUN_MODE_FAN 300), .pass 240000,
        .endChangeTmr 1, .adjust] := by
  decide

/-! ### Period timers -/

/-- In a mode that was entered by a transition the period timers of the mode run for their periods. -/
def PeriodsGood (w : Watched) : Prop :=
  ∀ m ∈ w.stay.entry, ∀ k ∈ periodsOf w.auto.sys.eRunningMode,
    (w.auto.sModeChangePeriodTmr k).Runs w.auto.OSTmrTickCtr (w.stay.since + minutes (m.2 k))

section Periods

variable {w : Watched} {a : Auto} {h' : Stay}

theorem PeriodsGood.quiet (h : PeriodsGood w) (hst : h'.since = w.stay.since) (hentry : h'.entry = w.stay.entry)
    (hmode : a.sys.eRunningMode = w.auto.sys.eRunningMode)
    (hruns : ∀ k due, (w.auto.sModeChangePeriodTmr k).Runs w.auto.OSTmrTickCtr due →
      (a.sModeChangePeriodTmr k).Runs a.OSTmrTickCtr due) : PeriodsGood ⟨a, h'⟩ := by
  intro m hm k hk
  dsimp only at hm hk ⊢
  rw [hentry] at hm
  rw [hmode] at hk
  rw [hst]
  exact hruns k _ (h m hm k hk)

theorem periodsGood_outside (a : Auto) (OSTmrTickCtr : ℕ) : PeriodsGood ⟨a, Stay.begin OSTmrTickCtr none⟩ := by
  intro m hm
  cases hm

theorem periodsGood_entered {a b : Auto} {eRunMode : eRunningMode} (s : System) (h : a.Entered eRunMode b) :
    PeriodsGood ⟨b, Stay.begin a.OSTmrTickCtr (some (s, a.usModeChangePeriod))⟩ := by
  intro m hm k hk
  cases hm
  have hmode : b.sys.eRunningMode = eRunMode := h.mode
  dsimp only at hk ⊢
  rw [hmode] at hk
  rw [h.tmrs k, if_pos hk, h.tick, Auto.periodRegisted, ← minutes_toNat]
  exact ClockedTmr.regist_runs _ _ _

theorem PeriodsGood.endPeriodTmr (h : PeriodsGood w) (k : ℕ) :
    PeriodsGood ⟨w.auto.step (.endPeriodTmr k), w.stay.next w.auto (.endPeriodTmr k)⟩ := by
  refine h.quiet rfl rfl rfl ?_
  intro m due hr
  rw [Auto.step]
  dsimp only
  rw [Function.update_apply]
  split
  next hm =>
    rw [← hm]
    exact hr.expire
  · exact hr

theorem PeriodsGood.setRunningMode (h : PeriodsGood w) (m : eRunningMode) :
    PeriodsGood ⟨w.auto.step (.setRunningMode m), w.stay.next w.auto (.setRunningMode m)⟩ := by
  have hb := setMode_becomes w.auto m
  rw [Auto.step, Stay.next]
  split
  next hm =>
    have hmode : (w.auto.setMode m).sys.eRunningMode = w.auto.sys.eRunningMode := (setMode_mode _ m).trans hm
    refine h.quiet rfl rfl hmode ?_
    intro k due hr
    rw [hb.tmrs, hb.tick]
    exact hr
  · exact periodsGood_outside _ _

theorem PeriodsGood.adjust (h : PeriodsGood w) :
    PeriodsGood ⟨w.auto.step .adjust, w.stay.next w.auto .adjust⟩ := by
  rw [Auto.step, Stay.next]
  cases hj : adjustTakes w.auto with
  | some j =>
    rw [if_pos (by rfl)]
    exact periodsGood_entered w.auto.sys (adjust_taken hj)
  | none =>
    have hsame := adjust_stayed hj
    rw [if_neg (by decide)]
    refine h.quiet rfl rfl hsame.mode ?_
    intro k due hr
    rw [hsame.tmrs, hsame.tick]
    exact hr

/-- **Every step keeps the period timers of the mode.** -/
theorem PeriodsGood.step (h : PeriodsGood w) (e : AutoEvent) :
    PeriodsGood ⟨w.auto.step e, w.stay.next w.auto e⟩ := by
  cases e with
  | pass ticks => exact h.quiet rfl rfl rfl fun _ _ hr => hr.pass (Nat.le_add_right _ _)
  | endChangeTmr k => exact h.quiet rfl rfl rfl fun _ _ hr => hr
  | endPeriodTmr k => exact h.endPeriodTmr k
  | world x => exact h.quiet rfl rfl rfl fun _ _ hr => hr
  | setPeriods p => exact h.quiet rfl rfl rfl fun _ _ hr => hr
  | setRunningMode m => exact h.setRunningMode m
  | change => exact h.quiet rfl rfl (changeUnitRunningMode_mode w.auto) fun _ _ hr => hr
  | adjust => exact h.adjust

/-- The transitions wait for period timers that their mode has started, but for the one from the fan mode to the
heating mode. -/
theorem periodOf_mem : ∀ {j : ℕ}, targetOf j ≠ .unset → j ≠ 2 → periodOf j ∈ periodsOf (sourceOf j)
  | 0, h, _ => absurd rfl h
  | 1, _, _ => by decide
  | 2, _, h2 => absurd rfl h2
  | 3, _, _ => by decide
  | 4, _, _ => by decide
  | 5, _, _ => by decide
  | 6, _, _ => by decide
  | 7, _, _ => by decide
  | 8, _, _ => by decide
  | _ + 9, h, _ => absurd rfl h

theorem PeriodsGood.kept_iff (h : PeriodsGood w) (e : AutoEvent) : PeriodsKept w e ↔ FanPeriodKept w e := by
  cases e with
  | adjust =>
    constructor
    · intro hk hj
      exact hk 2 hj
    · intro hf j hj m hm
      by_cases h2 : j = 2
      · subst h2
        exact hf hj m hm
      · obtain ⟨hmode, hg, -, htarget⟩ := adjustTakes_some hj
        have hdue := ((guards_iff j w.auto).1 hg).2.2
        have hmem : periodOf j ∈ periodsOf w.auto.sys.eRunningMode := by
          rw [hmode]
          exact periodOf_mem htarget h2
        exact (h m hm (periodOf j) hmem).ended (of_decide_eq_true hdue)
  | _ => exact Iff.rfl

end Periods

/-- **No mode is left before its period has passed, but for the fan mode to the heating mode**: that holds where it
holds of this transition. -/
theorem periods_kept_iff (a : Auto) (es : List AutoEvent) :
    Meets Watched.step PeriodsKept (Watched.start a) es ↔ Meets Watched.step FanPeriodKept (Watched.start a) es := by
  refine meets_congr (fun w e w' hg _ hw => ?_) (fun w e hg => hg.kept_iff e) (periodsGood_outside a _)
  cases hw
  exact hg.step e

/-- The fan mode is entered from the heating mode, and left for it after 5 minutes. -/
theorem period_not_kept :
    ¬Meets Watched.step PeriodsKept (Watched.start (plant .RUN_MODE_HEAT 300))
      [.adjust, .world (room .RUN_MODE_FAN 200), .change, .pass 300000, .endChangeTmr 2, .adjust] := by
  decide

end GreeIntense.Control

import GreeIntense.Control.ModeTimes

/-!
# The mark of the first run

`xCompFirstRun` is to keep the idle compressors of a mode just entered from ending it: it is set as the mode is
entered, and should be cleared as soon as compressors are seen running.  Both evaluations clear it in the query
`xSystem_UnitCompsClosed`, which they call only where it is cleared already, and in the heating mode
`vSystem_ChangeUnitRunningMode` sets it at every call.  So it is clear only where compressors ran as the mode was
entered, and in the heating mode only before the first change evaluation (`firstRun_cleared_iff`).
-/

namespace GreeIntense.Control

open Os Lib.Run

/-- What an evaluation finds in the mark when it asks for it. -/
def firstRunFound (change : Bool) (s : System) : Bool :=
  if change = true ∧ evaluates s = true ∧ s.eRunningMode = .RUN_MODE_HEAT then true else s.xCompFirstRun

/-- A mode that compressors work in, entered by a transition, in which an evaluation has seen them running. -/
def CompsSeen (w : Watched) : Prop :=
  (w.auto.sys.eRunningMode = .RUN_MODE_COOL ∨ w.auto.sys.eRunningMode = .RUN_MODE_HEAT) ∧
    w.stay.entry.isSome = true ∧ ∃ e ∈ w.stay.log, compsClosed e.sys = false

/-- An evaluation after compressors have been seen running finds the mark cleared. -/
def FirstRunCleared (w : Watched) : AutoEvent → Prop
  | .change => CompsSeen w → firstRunFound true w.auto.sys = false
  | .adjust => CompsSeen w → firstRunFound false w.auto.sys = false
  | _ => True

instance (w : Watched) : Decidable (CompsSeen w) :=
  inferInstanceAs (Decidable ((w.auto.sys.eRunningMode = .RUN_MODE_COOL ∨ w.auto.sys.eRunningMode = .RUN_MODE_HEAT) ∧
    w.stay.entry.isSome = true ∧ ∃ e ∈ w.stay.log, compsClosed e.sys = false))

instance (w : Watched) : ∀ e, Decidable (FirstRunCleared w e)
  | .change => inferInstanceAs (Decidable (CompsSeen w → firstRunFound true w.auto.sys = false))
  | .adjust => inferInstanceAs (Decidable (CompsSeen w → firstRunFound false w.auto.sys = false))
  | .pass _ | .endChangeTmr _ | .endPeriodTmr _ | .world _ | .setPeriods _ | .setRunningMode _ => isTrue trivial

/-- In the heating mode a change evaluation has set the mark. -/
def markedAgain (w : Watched) : Bool :=
  w.auto.sys.eRunningMode = .RUN_MODE_HEAT ∧ ∃ e ∈ w.stay.log, e.change = true ∧ evaluates e.sys = true

/-- Compressors ran as the mode was entered, and in the heating mode no change evaluation has come since. -/
def EnteredRunning (w : Watched) (change : Bool) : Prop :=
  (∀ m ∈ w.stay.entry, compsClosed m.1 = false) ∧ markedAgain w = false ∧
    ¬(change = true ∧ evaluates w.auto.sys = true ∧ w.auto.sys.eRunningMode = .RUN_MODE_HEAT)

/-- Evaluations after compressors have been seen running come only where they ran as the mode was entered. -/
def SeenEnteredRunning (w : Watched) : AutoEvent → Prop
  | .change => CompsSeen w → EnteredRunning w true
  | .adjust => CompsSeen w → EnteredRunning w false
  | _ => True

/-- The mark is the one of the entry, or set again. -/
def FirstRunGood (w : Watched) : Prop :=
  (w.auto.sys.eRunningMode = .RUN_MODE_COOL ∨ w.auto.sys.eRunningMode = .RUN_MODE_HEAT) →
    ∀ m ∈ w.stay.entry, w.auto.sys.xCompFirstRun = (compsClosed m.1 || markedAgain w)

section Steps

variable {w : Watched} {a : Auto} {h' : Stay}

theorem FirstRunGood.quiet (h : FirstRunGood w) (hentry : h'.entry = w.stay.entry)
    (hmode : a.sys.eRunningMode = w.auto.sys.eRunningMode) (hflag : a.sys.xCompFirstRun = w.auto.sys.xCompFirstRun)
    (hlog : markedAgain ⟨a, h'⟩ = markedAgain w) : FirstRunGood ⟨a, h'⟩ := by
  intro hm m hin
  dsimp only at hm hin ⊢
  rw [hmode] at hm
  rw [hentry] at hin
  rw [hflag, hlog]
  exact h hm m hin

theorem markedAgain_congr (hmode : a.sys.eRunningMode = w.auto.sys.eRunningMode) (hlog : h'.log = w.stay.log) :
    markedAgain ⟨a, h'⟩ = markedAgain w := by
  unfold markedAgain
  dsimp only
  rw [hmode, hlog]

theorem firstRunGood_outside (a : Auto) (OSTmrTickCtr : ℕ) : FirstRunGood ⟨a, Stay.begin OSTmrTickCtr none⟩ := by
  intro _ m hm
  cases hm

theorem firstRunGood_entered {a b : Auto} {eRunMode : eRunningMode} (p : ℕ → USHORT) (h : a.Entered eRunMode b) :
    FirstRunGood ⟨b, Stay.begin a.OSTmrTickCtr (some (a.sys, p))⟩ := by
  have hmode : b.sys.eRunningMode = eRunMode := h.mode
  have hflag : b.sys.xCompFirstRun = firstRunAt eRunMode a.sys := h.firstRun
  intro hm m hin
  cases hin
  dsimp only at hm ⊢
  rw [hmode] at hm
  have hmark : markedAgain ⟨b, Stay.begin a.OSTmrTickCtr (some (a.sys, p))⟩ = false := by
    apply decide_eq_false
    rintro ⟨-, e, he, -⟩
    cases he
  rw [hflag, hmark, Bool.or_false]
  rcases hm with rfl | rfl
  · rfl
  · rfl

theorem FirstRunGood.setRunningMode (h : FirstRunGood w) (m : eRunningMode) :
    FirstRunGood ⟨w.auto.step (.setRunningMode m), w.stay.next w.auto (.setRunningMode m)⟩ := by
  have hb := setMode_becomes w.auto m
  rw [Auto.step, Stay.next]
  split
  next hm =>
    have hmode : (w.auto.setMode m).sys.eRunningMode = w.auto.sys.eRunningMode := (setMode_mode _ m).trans hm
    exact h.quiet rfl hmode hb.firstRun (markedAgain_congr hmode rfl)
  · exact firstRunGood_outside _ _

theorem markedAgain_cons (e : Evaluation) (hmode : a.sys.eRunningMode = w.auto.sys.eRunningMode)
    (hlog : h'.log = e :: w.stay.log) :
    markedAgain ⟨a, h'⟩ =
      if w.auto.sys.eRunningMode = .RUN_MODE_HEAT ∧ e.change = true ∧ evaluates e.sys = true then true
      else markedAgain w := by
  unfold markedAgain
  dsimp only
  rw [hmode, hlog]
  split
  next h => exact decide_eq_true ⟨h.1, e, List.mem_cons_self, h.2⟩
  next h =>
    apply decide_eq_decide.2
    constructor
    · rintro ⟨hm, e', he, hce⟩
      rcases List.mem_cons.1 he with rfl | he
      · exact absurd ⟨hm, hce⟩ h
      · exact ⟨hm, e', he, hce⟩
    · rintro ⟨hm, e', he, hce⟩
      exact ⟨hm, e', List.mem_cons_of_mem e he, hce⟩

/-- A change evaluation sets the mark in the heating mode. -/
theorem FirstRunGood.change (h : FirstRunGood w) :
    FirstRunGood ⟨w.auto.step .change, w.stay.next w.auto .change⟩ := by
  have hmode := changeUnitRunningMode_mode w.auto
  have hflag := changeUnitRunningMode_firstRun w.auto
  rw [Auto.step, Stay.next]
  generalize w.auto.changeUnitRunningMode = a at hmode hflag ⊢
  intro hm m hin
  rw [markedAgain_cons ⟨true, w.auto.OSTmrTickCtr, w.auto.sys⟩ hmode rfl]
  dsimp only at hm hin ⊢
  rw [hmode] at hm
  rw [hflag, h hm m hin]
  by_cases hset : evaluates w.auto.sys = true ∧ w.auto.sys.eRunningMode = .RUN_MODE_HEAT
  · rw [if_pos hset, if_pos ⟨hset.2, rfl, hset.1⟩, Bool.or_true]
  · rw [if_neg hset, if_neg (fun hn => hset ⟨hn.2.2, hn.1⟩)]

theorem FirstRunGood.adjust (h : FirstRunGood w) :
    FirstRunGood ⟨w.auto.step .adjust, w.stay.next w.auto .adjust⟩ := by
  rw [Auto.step, Stay.next]
  cases hj : adjustTakes w.auto with
  | some j =>
    rw [if_pos (by rfl)]
    exact firstRunGood_entered _ (adjust_taken hj)
  | none =>
    have hsame := adjust_stayed hj
    rw [if_neg (by decide)]
    refine h.quiet rfl hsame.mode hsame.firstRun ?_
    rw [markedAgain_cons ⟨false, w.auto.OSTmrTickCtr, w.auto.sys⟩ hsame.mode rfl, if_neg]
    rintro ⟨-, hc, -⟩
    cases hc

/-- **Every step keeps the mark.** -/
theorem FirstRunGood.step (h : FirstRunGood w) (e : AutoEvent) :
    FirstRunGood ⟨w.auto.step e, w.stay.next w.auto e⟩ := by
  cases e with
  | pass ticks => exact h
  | endChangeTmr k => exact h
  | endPeriodTmr k => exact h
  | world x => exact h
  | setPeriods p => exact h
  | setRunningMode m => exact h.setRunningMode m
  | change => exact h.change
  | adjust => exact h.adjust

theorem FirstRunGood.found_iff (h : FirstRunGood w) (hs : CompsSeen w) (change : Bool) :
    firstRunFound change w.auto.sys = false ↔ EnteredRunning w change := by
  obtain ⟨m, hm⟩ := Option.isSome_iff_exists.1 hs.2.1
  have hflag := h hs.1 m hm
  unfold firstRunFound EnteredRunning
  rw [hm]
  split
  next hset =>
    constructor
    · intro hc
      cases hc
    · rintro ⟨-, -, hn⟩
      exact absurd hset hn
  next hset =>
    rw [hflag, Bool.or_eq_false_iff]
    constructor
    · rintro ⟨hc, hn⟩
      refine ⟨?_, hn, hset⟩
      rintro m' hm'
      cases hm'
      exact hc
    · rintro ⟨hc, hn, -⟩
      exact ⟨hc m rfl, hn⟩

theorem FirstRunGood.cleared_iff (h : FirstRunGood w) (e : AutoEvent) :
    FirstRunCleared w e ↔ SeenEnteredRunning w e := by
  cases e with
  | change => exact forall_congr' fun hs => h.found_iff hs true
  | adjust => exact forall_congr' fun hs => h.found_iff hs false
  | _ => exact Iff.rfl

end Steps

/-- **The mark is cleared when compressors have been seen running where they ran as the mode was entered**, in the
heating mode before the first change evaluation, **and only there**. -/
theorem firstRun_cleared_iff (a : Auto) (es : List AutoEvent) :
    Meets Watched.step FirstRunCleared (Watched.start a) es ↔
      Meets Watched.step SeenEnteredRunning (Watched.start a) es := by
  refine meets_congr (fun w e w' hg _ hw => ?_) (fun w e hg => hg.cleared_iff e) (firstRunGood_outside a _)
  cases hw
  exact hg.step e

/-- A room in which the compressors run. -/
def compsRoom (s : System) : System :=
  { s with psModularRoofList := fun _ => { ModularRoof.zero with xCompRunning := true } }

/-- The cooling mode is entered with idle compressors, which then run; the second evaluation still finds the mark. -/
theorem firstRun_not_cleared :
    ¬Meets Watched.step FirstRunCleared (Watched.start (plant .RUN_MODE_WET 300))
      [.adjust, .world (compsRoom (room .RUN_MODE_COOL 250)), .change, .change] := by
  decide

end GreeIntense.Control

import GreeIntense.Control.ModeSwitch

/-!
# What `vSystem_AdjustUnitRunningMode` does

Each running mode has two transitions, or a transition and one on idle compressors; each is guarded by a condition,
a change timer and a period timer.  `adjustTakes` is the transition that is taken (`adjust_eq`), and `Auto.Entered`
what entering a mode changes: the mode, the mark of the first run, and the period timers of the mode.
-/

namespace GreeIntense.Control

open Os

/-! ### Conditions and transitions -/

/-- The condition that the change timer `j` is for. -/
def modeCondition (j : ℕ) (s : System) : Bool :=
  match j with
  | 1 => warmer s.usTempSet 1 s
  | 2 => colder s.usTempSet 2 s
  | 3 => warmer (usSystem_ChangeEnergyTemp s).1 3 s
  | 4 => colder s.usTempSet 4 s
  | 5 => colder (usSystem_ChangeEnergyTemp s).1 5 s
  | 6 => warmer s.usTempSet 6 s
  | 7 => compsClosed s
  | 8 => compsClosed s
  | _ => false

/-- The evaluations do something. -/
def evaluates (s : System) : Bool := s.eSystemMode = .MODE_AUTO ∧ s.eSystemState ≠ .STATE_CLOSED

/-- The period timer that the transition guarded by the change timer `j` waits for. -/
def periodOf (j : ℕ) : ℕ :=
  match j with
  | 7 => 5
  | 8 => 6
  | j => j

/-- The mode it leads to. -/
def targetOf (j : ℕ) : eRunningMode :=
  match j with
  | 1 => .RUN_MODE_WET
  | 2 => .RUN_MODE_HEAT
  | 3 => .RUN_MODE_COOL
  | 4 => .RUN_MODE_FAN
  | 5 => .RUN_MODE_WET
  | 6 => .RUN_MODE_FAN
  | 7 => .RUN_MODE_WET
  | 8 => .RUN_MODE_FAN
  | _ => .unset

/-- The guard of the transition of the change timer `j`. -/
def guards (j : ℕ) (a : Auto) : Bool :=
  modeCondition j a.sys ∧ changeTmrDue j a.sys ∧ a.periodTmrDue (periodOf j)

/-- The transition that `vSystem_AdjustUnitRunningMode` takes. -/
def adjustTakes (a : Auto) : Option ℕ :=
  if evaluates a.sys then
    match a.sys.eRunningMode with
    | .unset => none
    | .RUN_MODE_FAN => if guards 1 a then some 1 else if guards 2 a then some 2 else none
    | .RUN_MODE_WET => if guards 3 a then some 3 else if guards 4 a then some 4 else none
    | .RUN_MODE_COOL => if guards 5 a then some 5 else if a.sys.xCompFirstRun = false ∧ guards 7 a then some 7 else none
    | .RUN_MODE_HEAT => if guards 6 a then some 6 else if a.sys.xCompFirstRun = false ∧ guards 8 a then some 8 else none
  else none

/-- The mode it leaves. -/
def sourceOf (j : ℕ) : eRunningMode :=
  match j with
  | 1 => .RUN_MODE_FAN
  | 2 => .RUN_MODE_FAN
  | 3 => .RUN_MODE_WET
  | 4 => .RUN_MODE_WET
  | 5 => .RUN_MODE_COOL
  | 6 => .RUN_MODE_HEAT
  | 7 => .RUN_MODE_COOL
  | 8 => .RUN_MODE_HEAT
  | _ => .unset

/-- The period timers that are started as a mode is entered. -/
def periodsOf (eRunMode : eRunningMode) : List ℕ :=
  match eRunMode with
  | .unset => []
  | .RUN_MODE_FAN => [1]
  | .RUN_MODE_WET => [3, 4]
  | .RUN_MODE_COOL => [5]
  | .RUN_MODE_HEAT => [6]

def Auto.enter (eRunMode : eRunningMode) (a : Auto) : Auto :=
  match eRunMode with
  | .unset => a
  | .RUN_MODE_FAN => a.enterFan
  | .RUN_MODE_WET => a.enterWet
  | .RUN_MODE_COOL => a.enterCool
  | .RUN_MODE_HEAT => a.enterHeat

/-- A transition is taken, or none. -/
def Auto.take (a : Auto) : Option ℕ → Auto
  | some j => a.enter (targetOf j)
  | none => a

section Adjust

variable {s s' : System}

theorem warmer_congr (h : s'.switch = s.switch) (t : USHORT) (k : ℕ) : warmer t k s' = warmer t k s := by
  have h1 : s'.sAmbientIn_T = s.sAmbientIn_T := congrArg Switch.sAmbientIn_T h
  have h2 : s'.usModeAdjustTemp = s.usModeAdjustTemp := congrArg Switch.usModeAdjustTemp h
  unfold warmer
  rw [h1, h2]

theorem colder_congr (h : s'.switch = s.switch) (t : USHORT) (k : ℕ) : colder t k s' = colder t k s := by
  have h1 : s'.sAmbientIn_T = s.sAmbientIn_T := congrArg Switch.sAmbientIn_T h
  have h2 : s'.usModeAdjustTemp = s.usModeAdjustTemp := congrArg Switch.usModeAdjustTemp h
  unfold colder
  rw [h1, h2]

theorem changeTmrDue_congr (h : s'.switch = s.switch) (k : ℕ) : changeTmrDue k s' = changeTmrDue k s := by
  unfold changeTmrDue
  rw [show s'.sModeChangeTmr = s.sModeChangeTmr from congrArg Switch.sModeChangeTmr h]

theorem compsClosed_eq (s : System) :
    compsClosed s = !(units.any fun n => (s.unit n).xCompRunning ∧ unitUsable s n) := by
  unfold compsClosed xSystem_UnitCompsClosed
  split
  next h => rw [h]; rfl
  next h => rw [Bool.not_eq_true] at h; rw [h]; rfl

theorem compsClosed_congr (h : s'.switch.comps = s.switch.comps) : compsClosed s' = compsClosed s := by
  have hn (n : Fin MODULAR_ROOF_NUM) : (s'.unit n).comps = (s.unit n).comps := congrFun h n
  have h1 (n : Fin MODULAR_ROOF_NUM) : (s'.unit n).xCompRunning = (s.unit n).xCompRunning := congrArg Prod.fst (hn n)
  have h2 (n : Fin MODULAR_ROOF_NUM) : (s'.unit n).xStopErrFlag = (s.unit n).xStopErrFlag :=
    congrArg (fun c => c.2.1) (hn n)
  have h3 (n : Fin MODULAR_ROOF_NUM) : (s'.unit n).xCommErr = (s.unit n).xCommErr :=
    congrArg (fun c => c.2.2) (hn n)
  have hu (n : Fin MODULAR_ROOF_NUM) : unitUsable s' n = unitUsable s n := by
    unfold unitUsable
    exact decide_eq_decide.2 (by rw [h2, h3])
  rw [compsClosed_eq, compsClosed_eq]
  refine congrArg Bool.not (congrArg units.any (funext fun n => ?_))
  exact decide_eq_decide.2 (by rw [h1, hu])

/-- Where all compressors are idle the query changes nothing; otherwise they have run. -/
theorem xSystem_UnitCompsClosed_eq (s : System) :
    (xSystem_UnitCompsClosed s).2 = if compsClosed s then s else { s with xCompFirstRun := false } := by
  unfold compsClosed xSystem_UnitCompsClosed
  split <;> rfl

theorem xSystem_UnitCompsClosed_self (h : s.xCompFirstRun = false) : (xSystem_UnitCompsClosed s).2 = s := by
  rw [xSystem_UnitCompsClosed_eq]
  split
  · rfl
  · rw [← h]

theorem leaveOnCompsClosed_eq (j k : ℕ) (enter : Auto → Auto) (a : Auto) :
    a.leaveOnCompsClosed j k enter =
      if a.sys.xCompFirstRun = false ∧ compsClosed a.sys = true ∧ changeTmrDue j a.sys = true ∧
          a.periodTmrDue k = true then enter a else a := by
  unfold Auto.leaveOnCompsClosed
  by_cases hf : a.sys.xCompFirstRun = false
  · rw [if_pos hf]
    dsimp only
    rw [xSystem_UnitCompsClosed_self hf]
    simp only [hf, true_and]
    rfl
  · rw [if_neg hf, if_neg (fun h => hf h.1)]

/-- The target temperature of the mode, which the units take too. -/
def withEnergyTemp (a : Auto) : Auto :=
  if a.sys.eRunningMode = .RUN_MODE_WET ∨ a.sys.eRunningMode = .RUN_MODE_COOL then
    { a with sys := (usSystem_ChangeEnergyTemp a.sys).2 } else a

theorem take_first (a : Auto) (j k : ℕ) (c d : Prop) [Decidable c] [Decidable d] :
    a.take (if c then some j else if d then some k else none) =
      if c then a.enter (targetOf j) else if d then a.enter (targetOf k) else a := by
  split
  · rfl
  · split <;> rfl

theorem guards_iff (j : ℕ) (a : Auto) :
    guards j a = true ↔
      modeCondition j a.sys = true ∧ changeTmrDue j a.sys = true ∧ a.periodTmrDue (periodOf j) = true :=
  decide_eq_true_iff

/-- The conditions are the same with the target temperature of the mode. -/
theorem energyTemp_conditions (s : System) (t : USHORT) (k : ℕ) :
    warmer t k (usSystem_ChangeEnergyTemp s).2 = warmer t k s ∧
      colder t k (usSystem_ChangeEnergyTemp s).2 = colder t k s ∧
      changeTmrDue k (usSystem_ChangeEnergyTemp s).2 = changeTmrDue k s ∧
      (usSystem_ChangeEnergyTemp s).2.usTempSet = s.usTempSet ∧
      (usSystem_ChangeEnergyTemp s).2.xCompFirstRun = s.xCompFirstRun ∧
      compsClosed (usSystem_ChangeEnergyTemp s).2 = compsClosed s := by
  have h := usSystem_ChangeEnergyTemp_switch s
  exact ⟨warmer_congr h t k, colder_congr h t k, changeTmrDue_congr h k, congrArg Switch.usTempSet h,
    congrArg Switch.xCompFirstRun h, compsClosed_congr (congrArg Switch.comps h)⟩

/-- **What `vSystem_AdjustUnitRunningMode` does**: it takes one transition, or none. -/
theorem adjust_eq (a : Auto) (h : evaluates a.sys = true) :
    a.vSystem_AdjustUnitRunningMode = (withEnergyTemp a).take (adjustTakes a) := by
  have hact : ¬(a.sys.eSystemMode ≠ .MODE_AUTO ∨ a.sys.eSystemState = .STATE_CLOSED) := by
    have h' := of_decide_eq_true h
    exact not_or.2 ⟨not_not.2 h'.1, h'.2⟩
  unfold Auto.vSystem_AdjustUnitRunningMode adjustTakes
  dsimp only
  rw [if_neg hact, if_pos h]
  cases hm : a.sys.eRunningMode with
  | unset =>
    rw [withEnergyTemp, hm]
    rfl
  | RUN_MODE_FAN =>
    have hw : withEnergyTemp a = a := by
      rw [withEnergyTemp, hm]
      rfl
    dsimp only
    rw [hw, take_first]
    simp only [guards_iff]
    rfl
  | RUN_MODE_WET =>
    -- the energy temperature is computed before the first test
    have hw : withEnergyTemp a = { a with sys := (usSystem_ChangeEnergyTemp a.sys).2 } := by
      rw [withEnergyTemp, hm]
      rfl
    obtain ⟨h3, -, h3', -⟩ := energyTemp_conditions a.sys (usSystem_ChangeEnergyTemp a.sys).1 3
    obtain ⟨-, h4, h4', ht, -⟩ := energyTemp_conditions a.sys a.sys.usTempSet 4
    dsimp only
    rw [hw, take_first, h3, h3', ht, h4, h4']
    simp only [guards_iff]
    rfl
  | RUN_MODE_COOL =>
    have hw : withEnergyTemp a = { a with sys := (usSystem_ChangeEnergyTemp a.sys).2 } := by
      rw [withEnergyTemp, hm]
      rfl
    obtain ⟨-, h5, h5', -⟩ := energyTemp_conditions a.sys (usSystem_ChangeEnergyTemp a.sys).1 5
    obtain ⟨-, -, h7, -, hf, hcomps⟩ := energyTemp_conditions a.sys a.sys.usTempSet 7
    dsimp only
    rw [hw, take_first, leaveOnCompsClosed_eq, h5, h5', hf, hcomps, h7]
    simp only [guards_iff]
    rfl
  | RUN_MODE_HEAT =>
    have hw : withEnergyTemp a = a := by
      rw [withEnergyTemp, hm]
      rfl
    dsimp only
    rw [hw, take_first, leaveOnCompsClosed_eq]
    simp only [guards_iff]
    rfl

theorem first_some {i j k : ℕ} {c d : Prop} [Decidable c] [Decidable d]
    (h : (if c then some i else if d then some k else none) = some j) : c ∧ i = j ∨ d ∧ k = j := by
  split at h
  next hc => exact Or.inl ⟨hc, Option.some.inj h⟩
  · split at h
    next hd => exact Or.inr ⟨hd, Option.some.inj h⟩
    · cases h

/-- A transition that is taken leaves the present mode, and its guard holds. -/
theorem adjustTakes_some {a : Auto} {j : ℕ} (h : adjustTakes a = some j) :
    a.sys.eRunningMode = sourceOf j ∧ guards j a = true ∧ targetOf j ≠ sourceOf j ∧ targetOf j ≠ .unset := by
  unfold adjustTakes at h
  split at h
  · cases hm : a.sys.eRunningMode <;> rw [hm] at h <;> dsimp only at h
    case unset => cases h
    case RUN_MODE_FAN =>
      rcases first_some h with ⟨hg, rfl⟩ | ⟨hg, rfl⟩
      · exact ⟨rfl, hg, by decide, by decide⟩
      · exact ⟨rfl, hg, by decide, by decide⟩
    case RUN_MODE_WET =>
      rcases first_some h with ⟨hg, rfl⟩ | ⟨hg, rfl⟩
      · exact ⟨rfl, hg, by decide, by decide⟩
      · exact ⟨rfl, hg, by decide, by decide⟩
    case RUN_MODE_COOL =>
      rcases first_some h with ⟨hg, rfl⟩ | ⟨hg, rfl⟩
      · exact ⟨rfl, hg, by decide, by decide⟩
      · exact ⟨rfl, hg.2, by decide, by decide⟩
    case RUN_MODE_HEAT =>
      rcases first_some h with ⟨hg, rfl⟩ | ⟨hg, rfl⟩
      · exact ⟨rfl, hg, by decide, by decide⟩
      · exact ⟨rfl, hg.2, by decide, by decide⟩
  · cases h

end Adjust

/-! ### What a transition changes -/

/-- The flag as a mode is entered. -/
def firstRunAt (eRunMode : eRunningMode) (s : System) : Bool :=
  match eRunMode with
  | .RUN_MODE_COOL => compsClosed s
  | .RUN_MODE_HEAT => compsClosed s
  | _ => s.xCompFirstRun

def Auto.periodRegisted (k : ℕ) (a : Auto) : ClockedTmr :=
  (a.sModeChangePeriodTmr k).regist a.OSTmrTickCtr ((a.usModeChangePeriod k).setWidth 32 * 60)

/-- The mode switch is as before, but for the controller's fields `w` and the period timers `tmrs`. -/
structure Auto.Becomes (w : Switch) (tmrs : ℕ → ClockedTmr) (a a' : Auto) : Prop where
  switch : a'.sys.switch = w
  tick : a'.OSTmrTickCtr = a.OSTmrTickCtr
  ends : a'.Match = a.Match
  periods : a'.usModeChangePeriod = a.usModeChangePeriod
  tmrs : ∀ k, a'.sModeChangePeriodTmr k = tmrs k

/-- `a'` is `a` after a mode has been entered. -/
def Auto.Entered (eRunMode : eRunningMode) (a a' : Auto) : Prop :=
  a.Becomes { a.sys.switch with eRunningMode := eRunMode, xCompFirstRun := firstRunAt eRunMode a.sys }
    (fun k => if k ∈ periodsOf eRunMode then a.periodRegisted k else a.sModeChangePeriodTmr k) a'

section Enter

variable {a b : Auto}

section Becomes

variable {w : Switch} {tmrs : ℕ → ClockedTmr}

theorem Auto.Becomes.mode (h : a.Becomes w tmrs b) : b.sys.eRunningMode = w.eRunningMode :=
  congrArg Switch.eRunningMode h.switch

theorem Auto.Becomes.time (h : a.Becomes w tmrs b) : b.sys.usModeChangeTime = w.usModeChangeTime :=
  congrArg Switch.usModeChangeTime h.switch

theorem Auto.Becomes.firstRun (h : a.Becomes w tmrs b) : b.sys.xCompFirstRun = w.xCompFirstRun :=
  congrArg Switch.xCompFirstRun h.switch

end Becomes

theorem Auto.Becomes.changeTmr {w : Switch} {tmrs : ℕ → ClockedTmr} (h : a.Becomes w tmrs b)
    (hw : w.sModeChangeTmr = a.sys.sModeChangeTmr) (k : ℕ) : b.changeTmr k = a.changeTmr k := by
  have hs : b.sys.sModeChangeTmr = a.sys.sModeChangeTmr := (congrArg Switch.sModeChangeTmr h.switch).trans hw
  rw [Auto.changeTmr, Auto.changeTmr, hs, h.ends]

theorem setMode_switch (a : Auto) (eRunMode : eRunningMode) :
    (a.setMode eRunMode).sys.switch = { a.sys.switch with eRunningMode := eRunMode } := by
  rw [Auto.setMode, vSystem_SetUnitRunningMode_switch]

theorem setFirstRun_switch (a : Auto) :
    a.setFirstRun.sys.switch = { a.sys.switch with xCompFirstRun := compsClosed a.sys } := by
  unfold Auto.setFirstRun
  dsimp only
  rw [xSystem_UnitCompsClosed_eq]
  cases hc : compsClosed a.sys with
  | true =>
    have hr : (xSystem_UnitCompsClosed a.sys).1 = true := hc
    rw [hr]
    rfl
  | false =>
    have hr : (xSystem_UnitCompsClosed a.sys).1 = false := hc
    rw [hr]
    rfl

theorem setMode_becomes (a : Auto) (eRunMode : eRunningMode) :
    a.Becomes { a.sys.switch with eRunningMode := eRunMode } a.sModeChangePeriodTmr (a.setMode eRunMode) := by
  refine ⟨setMode_switch a eRunMode, ?_, ?_, ?_, ?_⟩
  · rw [Auto.setMode]
  · rw [Auto.setMode]
  · rw [Auto.setMode]
  · intro k
    rw [Auto.setMode]

theorem setMode_mode (a : Auto) (eRunMode : eRunningMode) : (a.setMode eRunMode).sys.eRunningMode = eRunMode :=
  (setMode_becomes a eRunMode).mode

theorem setFirstRun_becomes {w : Switch} {tmrs : ℕ → ClockedTmr} (h : a.Becomes w tmrs b) :
    a.Becomes { w with xCompFirstRun := compsClosed b.sys } tmrs b.setFirstRun := by
  have hs : b.setFirstRun.sys.switch = { w with xCompFirstRun := compsClosed b.sys } := by
    rw [setFirstRun_switch, h.switch]
  refine ⟨hs, ?_, ?_, ?_, ?_⟩
  · rw [← h.tick, Auto.setFirstRun]
  · rw [← h.ends, Auto.setFirstRun]
  · rw [← h.periods, Auto.setFirstRun]
  · intro k
    rw [← h.tmrs, Auto.setFirstRun]

theorem setMode_setFirstRun_becomes (a : Auto) (eRunMode : eRunningMode) :
    a.Becomes { a.sys.switch with eRunningMode := eRunMode, xCompFirstRun := compsClosed a.sys }
      a.sModeChangePeriodTmr (a.setMode eRunMode).setFirstRun := by
  have hclosed : compsClosed (a.setMode eRunMode).sys = compsClosed a.sys :=
    compsClosed_congr (by rw [setMode_switch])
  have h := setFirstRun_becomes (setMode_becomes a eRunMode)
  rw [hclosed] at h
  exact h

theorem registModePeriod_becomes {w : Switch} {tmrs : ℕ → ClockedTmr} (h : a.Becomes w tmrs b) (k : ℕ)
    (hk : tmrs k = a.sModeChangePeriodTmr k) :
    a.Becomes w (fun m => if m = k then a.periodRegisted m else tmrs m) (b.registModePeriod k) := by
  refine ⟨h.switch, h.tick, h.ends, h.periods, ?_⟩
  intro m
  unfold Auto.registModePeriod Auto.periodRegisted
  dsimp only
  rw [Function.update_apply, h.tick, h.periods]
  split
  next hm => rw [hm, h.tmrs, hk]
  · exact h.tmrs m

/-- **Entering a mode** sets it, marks a first run of the compressors, and starts the period timers of the mode. -/
theorem enter_entered {eRunMode : eRunningMode} (h : eRunMode ≠ .unset) : a.Entered eRunMode (a.enter eRunMode) := by
  unfold Auto.Entered Auto.enter
  cases eRunMode with
  | unset => exact absurd rfl h
  | RUN_MODE_FAN =>
    have h1 := registModePeriod_becomes (setMode_becomes a .RUN_MODE_FAN) 1 rfl
    simp only [periodsOf, List.mem_singleton]
    exact h1
  | RUN_MODE_WET =>
    have h3 := registModePeriod_becomes (setMode_becomes a .RUN_MODE_WET) 3 rfl
    have h4 := registModePeriod_becomes h3 4 rfl
    refine ⟨h4.switch, h4.tick, h4.ends, h4.periods, ?_⟩
    intro m
    refine (h4.tmrs m).trans ?_
    simp only [periodsOf, List.mem_cons, List.not_mem_nil, or_false]
    by_cases hm : m = 4
    · rw [if_pos hm, if_pos (Or.inr hm)]
    · rw [if_neg hm]
      simp only [hm, or_false]
  | RUN_MODE_COOL =>
    have h5 := registModePeriod_becomes (setMode_setFirstRun_becomes a .RUN_MODE_COOL) 5 rfl
    simp only [periodsOf, List.mem_singleton]
    exact h5
  | RUN_MODE_HEAT =>
    have h6 := registModePeriod_becomes (setMode_setFirstRun_becomes a .RUN_MODE_HEAT) 6 rfl
    simp only [periodsOf, List.mem_singleton]
    exact h6

/-- Nothing is changed of what the mode switch works on. -/
def Auto.Same (a a' : Auto) : Prop := a.Becomes a.sys.switch a.sModeChangePeriodTmr a'

theorem withEnergyTemp_same (a : Auto) : a.Same (withEnergyTemp a) := by
  unfold withEnergyTemp
  split
  · exact ⟨usSystem_ChangeEnergyTemp_switch a.sys, rfl, rfl, rfl, fun _ => rfl⟩
  · exact ⟨rfl, rfl, rfl, rfl, fun _ => rfl⟩

theorem firstRunAt_congr {s s' : System} (h : s'.switch = s.switch) (eRunMode : eRunningMode) :
    firstRunAt eRunMode s' = firstRunAt eRunMode s := by
  have hc := compsClosed_congr (congrArg Switch.comps h)
  have hf : s'.xCompFirstRun = s.xCompFirstRun := congrArg Switch.xCompFirstRun h
  cases eRunMode with
  | unset => exact hf
  | RUN_MODE_COOL => exact hc
  | RUN_MODE_HEAT => exact hc
  | RUN_MODE_FAN => exact hf
  | RUN_MODE_WET => exact hf

theorem Auto.Entered.of_same {eRunMode : eRunningMode} {a' : Auto} (h : b.Entered eRunMode a') (hs : a.Same b) :
    a.Entered eRunMode a' := by
  have htmrs : b.sModeChangePeriodTmr = a.sModeChangePeriodTmr := funext hs.tmrs
  have hreg (k : ℕ) : b.periodRegisted k = a.periodRegisted k := by
    rw [Auto.periodRegisted, Auto.periodRegisted, htmrs, hs.tick, hs.periods]
  unfold Auto.Entered at h ⊢
  rw [hs.switch, firstRunAt_congr hs.switch, htmrs] at h
  simp only [hreg] at h
  exact ⟨h.switch, h.tick.trans hs.tick, h.ends.trans hs.ends, h.periods.trans hs.periods, h.tmrs⟩

theorem adjust_taken {j : ℕ} (h : adjustTakes a = some j) : a.Entered (targetOf j) a.vSystem_AdjustUnitRunningMode := by
  have hev : evaluates a.sys = true := by
    by_contra he
    rw [adjustTakes, if_neg he] at h
    cases h
  rw [adjust_eq a hev, h]
  exact (enter_entered (adjustTakes_some h).2.2.2).of_same (withEnergyTemp_same a)

theorem adjust_stayed (h : adjustTakes a = none) : a.Same a.vSystem_AdjustUnitRunningMode := by
  cases hev : evaluates a.sys with
  | true =>
    rw [adjust_eq a hev, h]
    exact withEnergyTemp_same a
  | false =>
    have hout : a.sys.eSystemMode ≠ .MODE_AUTO ∨ a.sys.eSystemState = .STATE_CLOSED := by
      have h' := of_decide_eq_false hev
      by_contra hn
      exact h' ⟨not_not.1 (not_or.1 hn).1, (not_or.1 hn).2⟩
    unfold Auto.vSystem_AdjustUnitRunningMode
    dsimp only
    rw [if_pos hout]
    exact ⟨rfl, rfl, rfl, rfl, fun _ => rfl⟩

end Enter

end GreeIntense.Control

import GreeIntense.Control.ModeAdjust

/-!
# What `vSystem_ChangeUnitRunningMode` does

It starts the change timer `changeStarts`, if any, and in the heating mode it marks a first run of the compressors
at every call (`vSystem_ChangeUnitRunningMode_switch`).
-/

namespace GreeIntense.Control

open Os

/-- The change timer that `vSystem_ChangeUnitRunningMode` starts. -/
def changeStarts (s : System) : Option ℕ :=
  let starts (j : ℕ) : Bool := modeCondition j s ∧ changeTmrDue j s
  if evaluates s then
    match s.eRunningMode with
    | .unset => none
    | .RUN_MODE_FAN => if starts 1 then some 1 else if starts 2 then some 2 else none
    | .RUN_MODE_WET => if starts 3 then some 3 else if starts 4 then some 4 else none
    | .RUN_MODE_COOL => if starts 5 then some 5 else if s.xCompFirstRun = false ∧ starts 7 then some 7 else none
    | .RUN_MODE_HEAT => if starts 6 then some 6 else none
  else none

section Change

variable {s : System}

/-- The controller as its condition is tested: the units have the target temperature of the mode, and in the
heating mode the compressors have not run. -/
def prepared (s : System) : System :=
  match s.eRunningMode with
  | .RUN_MODE_WET => (usSystem_ChangeEnergyTemp s).2
  | .RUN_MODE_COOL => (usSystem_ChangeEnergyTemp s).2
  | .RUN_MODE_HEAT => { s with xCompFirstRun := true }
  | _ => s

/-- A change timer is started, or none. -/
def System.start (s : System) : Option ℕ → System
  | some j => registModeChange j s
  | none => s

theorem start_first (s : System) (j k : ℕ) (c d : Prop) [Decidable c] [Decidable d] :
    s.start (if c then some j else if d then some k else none) =
      if c then registModeChange j s else if d then registModeChange k s else s := by
  split
  · rfl
  · split <;> rfl

theorem changeOnCompsClosed_eq (k : ℕ) (s : System) :
    changeOnCompsClosed k s =
      if s.xCompFirstRun = false ∧ compsClosed s = true ∧ changeTmrDue k s = true then registModeChange k s else s := by
  unfold changeOnCompsClosed
  by_cases hf : s.xCompFirstRun = false
  · rw [if_pos hf]
    dsimp only
    rw [xSystem_UnitCompsClosed_self hf]
    simp only [hf, true_and]
    rfl
  · rw [if_neg hf, if_neg (fun h => hf h.1)]

theorem changeOnCompsClosed_self (k : ℕ) (h : s.xCompFirstRun = true) : changeOnCompsClosed k s = s := by
  rw [changeOnCompsClosed_eq, if_neg]
  intro hf
  rw [h] at hf
  cases hf.1

/-- **What `vSystem_ChangeUnitRunningMode` does**: it starts one change timer, or none. -/
theorem change_eq (h : evaluates s = true) : vSystem_ChangeUnitRunningMode s = (prepared s).start (changeStarts s) := by
  have hact : ¬(s.eSystemMode ≠ .MODE_AUTO ∨ s.eSystemState = .STATE_CLOSED) := by
    have h' := of_decide_eq_true h
    exact not_or.2 ⟨not_not.2 h'.1, h'.2⟩
  unfold vSystem_ChangeUnitRunningMode changeStarts
  dsimp only
  rw [if_neg hact, if_pos h]
  cases hm : s.eRunningMode with
  | unset =>
    rw [prepared, hm]
    rfl
  | RUN_MODE_FAN =>
    have hp : prepared s = s := by
      rw [prepared, hm]
    dsimp only
    rw [hp, start_first]
    simp only [decide_eq_true_eq]
    rfl
  | RUN_MODE_WET =>
    have hp : prepared s = (usSystem_ChangeEnergyTemp s).2 := by
      rw [prepared, hm]
    obtain ⟨h3, -, h3', -⟩ := energyTemp_conditions s (usSystem_ChangeEnergyTemp s).1 3
    obtain ⟨-, h4, h4', ht, -⟩ := energyTemp_conditions s s.usTempSet 4
    dsimp only
    rw [hp, start_first, h3, h3', ht, h4, h4']
    simp only [decide_eq_true_eq]
    rfl
  | RUN_MODE_COOL =>
    have hp : prepared s = (usSystem_ChangeEnergyTemp s).2 := by
      rw [prepared, hm]
    obtain ⟨-, h5, h5', -⟩ := energyTemp_conditions s (usSystem_ChangeEnergyTemp s).1 5
    obtain ⟨-, -, h7, -, hf, hcomps⟩ := energyTemp_conditions s s.usTempSet 7
    dsimp only
    rw [hp, start_first, changeOnCompsClosed_eq, h5, h5', hf, hcomps, h7]
    simp only [decide_eq_true_eq]
    rfl
  | RUN_MODE_HEAT =>
    have hp : prepared s = { s with xCompFirstRun := true } := by
      rw [prepared, hm]
    dsimp only
    -- the structure has the mode by its name again
    rw [← hm, hp, changeOnCompsClosed_self 8 rfl, apply_ite (System.start { s with xCompFirstRun := true })]
    simp only [decide_eq_true_eq]
    rfl

theorem prepared_switch (s : System) :
    (prepared s).switch =
      { s.switch with
        xCompFirstRun := if s.eRunningMode = .RUN_MODE_HEAT then true else s.xCompFirstRun } := by
  unfold prepared
  split
  next hm =>
    rw [usSystem_ChangeEnergyTemp_switch, if_neg (by rw [hm]; decide)]
    rfl
  next hm =>
    rw [usSystem_ChangeEnergyTemp_switch, if_neg (by rw [hm]; decide)]
    rfl
  next hm =>
    rw [if_pos hm]
    rfl
  next hm =>
    rw [if_neg hm]
    rfl

def changeRegisted (k : ℕ) (s : System) : OS_TMR :=
  xTimerRegist ((s.usModeChangeTime k).setWidth 32 * 60) 0 .OS_OPT_TMR_ONE_SHOT (s.sModeChangeTmr k)

theorem start_switch (s : System) (o : Option ℕ) :
    (s.start o).switch =
      { s.switch with
        sModeChangeTmr := fun k => if o = some k then changeRegisted k s else s.sModeChangeTmr k } := by
  cases o with
  | none => rfl
  | some j =>
    have htmr : (registModeChange j s).sModeChangeTmr =
        fun k => if some j = some k then changeRegisted k s else s.sModeChangeTmr k := by
      funext k
      unfold registModeChange
      dsimp only
      rw [Function.update_apply]
      by_cases hk : k = j
      · rw [if_pos hk, if_pos (by rw [hk]), hk]
        rfl
      · rw [if_neg hk, if_neg (fun h => hk (Option.some.inj h).symm)]
    rw [← htmr]
    rfl

theorem changeStarts_some {j : ℕ} (h : changeStarts s = some j) :
    evaluates s = true ∧ modeCondition j s = true ∧ changeTmrDue j s = true := by
  unfold changeStarts at h
  dsimp only at h
  split at h
  next he =>
    refine ⟨he, ?_⟩
    cases hm : s.eRunningMode <;> rw [hm] at h <;> dsimp only at h
    case unset => cases h
    case RUN_MODE_FAN =>
      rcases first_some h with ⟨hg, rfl⟩ | ⟨hg, rfl⟩ <;> exact of_decide_eq_true hg
    case RUN_MODE_WET =>
      rcases first_some h with ⟨hg, rfl⟩ | ⟨hg, rfl⟩ <;> exact of_decide_eq_true hg
    case RUN_MODE_COOL =>
      rcases first_some h with ⟨hg, rfl⟩ | ⟨hg, rfl⟩
      · exact of_decide_eq_true hg
      · exact of_decide_eq_true hg.2
    case RUN_MODE_HEAT =>
      split at h
      next hg =>
        cases h
        exact of_decide_eq_true hg
      · cases h
  · cases h

/-- **A change evaluation** starts the change timer it starts, and in the heating mode it marks a first run of the
compressors. -/
theorem vSystem_ChangeUnitRunningMode_switch (s : System) :
    (vSystem_ChangeUnitRunningMode s).switch =
      { s.switch with
        xCompFirstRun := if evaluates s = true ∧ s.eRunningMode = .RUN_MODE_HEAT then true else s.xCompFirstRun
        sModeChangeTmr := fun k => if changeStarts s = some k then changeRegisted k s else s.sModeChangeTmr k } := by
  cases hev : evaluates s with
  | true =>
    have hp := prepared_switch s
    have htmr : (prepared s).sModeChangeTmr = s.sModeChangeTmr := congrArg Switch.sModeChangeTmr hp
    have htime : (prepared s).usModeChangeTime = s.usModeChangeTime := congrArg Switch.usModeChangeTime hp
    rw [change_eq hev, start_switch, hp]
    simp only [changeRegisted, htmr, htime, true_and]
  | false =>
    have hout : s.eSystemMode ≠ .MODE_AUTO ∨ s.eSystemState = .STATE_CLOSED := by
      have h' := of_decide_eq_false hev
      by_contra hn
      exact h' ⟨not_not.1 (not_or.1 hn).1, (not_or.1 hn).2⟩
    have hnone (k : ℕ) : changeStarts s ≠ some k := by
      intro h
      rw [(changeStarts_some h).1] at hev
      cases hev
    unfold vSystem_ChangeUnitRunningMode
    rw [if_pos hout]
    simp only [hnone, if_false, Bool.false_eq_true, false_and]
    rfl

theorem changeUnitRunningMode_tmr (a : Auto) (k : ℕ) :
    a.changeUnitRunningMode.changeTmr k =
      if changeStarts a.sys = some k then
        (a.changeTmr k).regist a.OSTmrTickCtr ((a.sys.usModeChangeTime k).setWidth 32 * 60)
      else a.changeTmr k := by
  have hs : (vSystem_ChangeUnitRunningMode a.sys).sModeChangeTmr k =
      if changeStarts a.sys = some k then changeRegisted k a.sys else a.sys.sModeChangeTmr k :=
    congrFun (congrArg Switch.sModeChangeTmr (vSystem_ChangeUnitRunningMode_switch a.sys)) k
  unfold Auto.changeTmr Auto.changeUnitRunningMode
  dsimp only
  by_cases hk : changeStarts a.sys = some k
  · have hdue := (changeStarts_some hk).2.2
    rw [if_pos hk] at hs ⊢
    generalize ht : (⟨a.sys.sModeChangeTmr k, a.Match k⟩ : ClockedTmr).regist a.OSTmrTickCtr
      ((a.sys.usModeChangeTime k).setWidth 32 * 60) = t
    have htmr : t.tmr = (vSystem_ChangeUnitRunningMode a.sys).sModeChangeTmr k := by
      rw [← ht, ClockedTmr.regist_tmr, hs]
      rfl
    have hend : t.Match = if t.running = true then a.OSTmrTickCtr + t.tmr.Dly.toNat else a.Match k := by
      rw [← ht, ClockedTmr.regist_match]
    have hnew : changeTmrDue k (vSystem_ChangeUnitRunningMode a.sys) = !t.running := by
      rw [changeTmrDue, ← htmr]
      exact decide_not
    simp only [hnew, hdue, ← htmr, Bool.not_eq_false', true_and]
    rw [← hend]
  · rw [if_neg hk] at hs ⊢
    have hnew : changeTmrDue k (vSystem_ChangeUnitRunningMode a.sys) = changeTmrDue k a.sys := by
      rw [changeTmrDue, hs, changeTmrDue]
    rw [hs, hnew, if_neg]
    rintro ⟨h1, h2⟩
    rw [h1] at h2
    cases h2

theorem changeUnitRunningMode_tick (a : Auto) : a.changeUnitRunningMode.OSTmrTickCtr = a.OSTmrTickCtr := by
  rw [Auto.changeUnitRunningMode]

theorem changeUnitRunningMode_switch (a : Auto) :
    a.changeUnitRunningMode.sys.switch = (vSystem_ChangeUnitRunningMode a.sys).switch := by
  rw [Auto.changeUnitRunningMode]

theorem changeUnitRunningMode_mode (a : Auto) : a.changeUnitRunningMode.sys.eRunningMode = a.sys.eRunningMode := by
  rw [← switch_mode, changeUnitRunningMode_switch, vSystem_ChangeUnitRunningMode_switch, switch_mode]

theorem changeUnitRunningMode_firstRun (a : Auto) :
    a.changeUnitRunningMode.sys.xCompFirstRun =
      if evaluates a.sys = true ∧ a.sys.eRunningMode = .RUN_MODE_HEAT then true else a.sys.xCompFirstRun := by
  rw [← switch_firstRun, changeUnitRunningMode_switch, vSystem_ChangeUnitRunningMode_switch]

theorem changeUnitRunningMode_time (a : Auto) :
    a.changeUnitRunningMode.sys.usModeChangeTime = a.sys.usModeChangeTime := by
  rw [← switch_time, changeUnitRunningMode_switch, vSystem_ChangeUnitRunningMode_switch, switch_time]

/-- A time in minutes, in ticks. -/
def minutes (usTime : USHORT) : ℕ := usTime.toNat * 60 * 1000

theorem minutes_toNat (usTime : USHORT) : (usTime.setWidth 32 * 60 * TMR_TICK_PER_SECOND).toNat = minutes usTime := by
  have hlt := usTime.isLt
  have hw : (usTime.setWidth 32).toNat = usTime.toNat := BitVec.toNat_setWidth_of_le (by decide)
  have h60 : (usTime.setWidth 32 * 60).toNat = usTime.toNat * 60 := by
    rw [BitVec.toNat_mul_of_lt (by rw [hw]; simp; omega), hw]
    rfl
  rw [BitVec.toNat_mul_of_lt (by rw [h60]; simp; omega), h60]
  rfl

end Change

end GreeIntense.Control

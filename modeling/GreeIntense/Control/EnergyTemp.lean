import GreeIntense.Control.SensorCtrl
import GreeIntense.Lib.Run

/-!
# The energy saving

In automatic mode a cooling system takes `usSystem_ChangeEnergyTemp` for two things: the temperature its running
mode is switched by, and the target of its units.  Below the energy temperature both are the energy temperature
less the deviation, while the units are to be held at the energy temperature itself.

`EnergySide` is what the helper reads and what it writes; each operation leaves it alone or saves it.  So the
units are held at the floor exactly after the steps of `EnergyOk` (`energyFloor_iff`).
-/

namespace GreeIntense.Control

open Lib.Run

/-- A system in one of these modes cools. -/
def eRunningMode.Cools (m : eRunningMode) : Prop := m = .RUN_MODE_COOL ∨ m = .RUN_MODE_WET

instance (m : eRunningMode) : Decidable m.Cools := inferInstanceAs (Decidable (_ ∨ _))

/-! ### What the energy saving reads and writes -/

/-- What `usSystem_ChangeEnergyTemp` reads, and the targets of the units. -/
structure EnergySide where
  eSystemMode : eSystemMode
  eRunningMode : eRunningMode
  usTempSet : USHORT
  usEnergyTemp : USHORT
  usTempDeviat : USHORT
  usCoolTempSet : Fin MODULAR_ROOF_NUM → USHORT

def System.energySide (s : System) : EnergySide where
  eSystemMode := s.eSystemMode
  eRunningMode := s.eRunningMode
  usTempSet := s.usTempSet
  usEnergyTemp := s.usEnergyTemp
  usTempDeviat := s.usTempDeviat
  usCoolTempSet n := (s.unit n).usCoolTempSet

namespace EnergySide

variable (a : EnergySide)

/-- The temperature that is switched by. -/
def T : USHORT := if a.usTempSet < a.usEnergyTemp then a.usEnergyTemp - a.usTempDeviat else a.usTempSet

/-- The units have a target. -/
def withCool (usTempSet : USHORT) : EnergySide := { a with usCoolTempSet := fun _ => usTempSet }

/-- The units have the temperature that is switched by. -/
def saved : EnergySide := a.withCool a.T

/-- The system is in automatic mode and cools. -/
def Saves : Prop := a.eSystemMode = .MODE_AUTO ∧ a.eRunningMode.Cools

instance : Decidable a.Saves := inferInstanceAs (Decidable (_ ∧ _))

/-- The units are held at the target, and at no less than the energy temperature. -/
def AtFloor : Prop := ∀ n, (a.usCoolTempSet n).toNat = max a.usTempSet.toNat a.usEnergyTemp.toNat

/-- The target is not below the energy temperature, or the deviation is none. -/
def NoneBelow : Prop := a.usEnergyTemp ≤ a.usTempSet ∨ a.usTempDeviat = 0

variable {a}

theorem toNat_T (h : a.usTempDeviat ≤ a.usEnergyTemp) :
    a.T.toNat =
      if a.usEnergyTemp ≤ a.usTempSet then a.usTempSet.toNat else a.usEnergyTemp.toNat - a.usTempDeviat.toNat := by
  unfold T
  by_cases hlt : a.usTempSet < a.usEnergyTemp
  · rw [if_pos hlt, if_neg (BitVec.not_le.mpr hlt), BitVec.toNat_sub_of_le h]
  · rw [if_neg hlt, if_pos (BitVec.not_lt.mp hlt)]

/-- Saved units are at the floor where the target is not below it, or the deviation is none. -/
theorem saved_atFloor_iff (h : a.usTempDeviat ≤ a.usEnergyTemp) : a.saved.AtFloor ↔ a.NoneBelow := by
  have hcool (n : Fin MODULAR_ROOF_NUM) : (a.saved.usCoolTempSet n).toNat = a.T.toNat := rfl
  have hT : a.T.toNat = max a.usTempSet.toNat a.usEnergyTemp.toNat ↔ a.NoneBelow := by
    rw [BitVec.le_def] at h
    have h0 : a.usTempDeviat = 0 ↔ a.usTempDeviat.toNat = 0 := BitVec.toNat_eq
    rw [toNat_T h, NoneBelow, h0]
    simp only [BitVec.le_def]
    split <;> omega
  exact ⟨fun hf => hT.mp (hf 0), fun hn n => hT.mpr hn⟩

theorem withCool_atFloor_iff (usTempSet : USHORT) (h : a.usTempSet = usTempSet) :
    (a.withCool usTempSet).AtFloor ↔ a.usEnergyTemp ≤ usTempSet := by
  subst h
  rw [BitVec.le_def]
  exact ⟨fun hf => max_eq_left_iff.mp (hf 0).symm, fun hle _ => (max_eq_left hle).symm⟩

theorem saves_of_saved {b : EnergySide} (h : b.saved = a.saved) : b.Saves ↔ a.Saves := by
  have hs (c : EnergySide) : c.Saves ↔ c.saved.Saves := Iff.rfl
  rw [hs b, h, ← hs a]

/-- The targets of the units stay, or the units are saved. -/
def Held (a b : EnergySide) : Prop := b = a ∨ b = a.saved

theorem Held.of_eq {b : EnergySide} (h : b = a) : Held a b := Or.inl h

theorem Held.saved_eq {b : EnergySide} (h : Held a b) : b.saved = a.saved := by
  rcases h with rfl | rfl
  · rfl
  · rfl

theorem Held.trans {b c : EnergySide} (h1 : Held a b) (h2 : Held b c) : Held a c := by
  rcases h2 with rfl | rfl
  · exact h1
  · exact Or.inr h1.saved_eq

theorem Held.of_saved {b : EnergySide} (h : Held a.saved b) : b = a.saved := by
  rcases h with rfl | rfl
  · rfl
  · rfl

end EnergySide

/-! ### What each operation does to it -/

theorem energySide_of_fanless {s s' : System} (h : s'.fanless = s.fanless) : s'.energySide = s.energySide := by
  have hside (t : System) : t.energySide =
      ⟨t.fanless.1.1.1.eSystemMode, t.fanless.2.eRunningMode, t.fanless.1.2.1.usTempSet, t.fanless.2.usEnergyTemp,
        t.fanless.2.usTempDeviat, fun n => (t.fanless.2.psModularRoofList n).usCoolTempSet⟩ := rfl
  rw [hside s', h, hside s]

@[simp] theorem ite_energySide (c : Prop) [Decidable c] (s t : System) :
    (if c then s else t).energySide = if c then s.energySide else t.energySide := apply_ite System.energySide c s t

theorem held_ite {a : EnergySide} {c : Prop} [Decidable c] {s t : System} (hs : EnergySide.Held a s.energySide)
    (ht : EnergySide.Held a t.energySide) : EnergySide.Held a (if c then s else t).energySide := by
  split
  · exact hs
  · exact ht

section Operations

variable (s : System)

theorem setUnit_energySide (n : Fin MODULAR_ROOF_NUM) (u : ModularRoof) :
    (s.setUnit n u).energySide =
      { s.energySide with usCoolTempSet := Function.update s.energySide.usCoolTempSet n u.usCoolTempSet } := by
  have hcool : (s.setUnit n u).energySide.usCoolTempSet =
      Function.update s.energySide.usCoolTempSet n u.usCoolTempSet := by
    funext m
    show ((s.setUnit n u).unit m).usCoolTempSet = _
    rw [unit_setUnit, Function.update_apply]
    split <;> rfl
  rw [← hcool]
  rfl

theorem setUnit_energySide_same (n : Fin MODULAR_ROOF_NUM) (u : ModularRoof)
    (h : u.usCoolTempSet = (s.unit n).usCoolTempSet) : (s.setUnit n u).energySide = s.energySide := by
  have hsame : Function.update s.energySide.usCoolTempSet n u.usCoolTempSet = s.energySide.usCoolTempSet := by
    rw [h]
    exact Function.update_eq_self n s.energySide.usCoolTempSet
  rw [setUnit_energySide, hsame]

theorem setUnits_energySide (f : System → Fin MODULAR_ROOF_NUM → ModularRoof)
    (h : ∀ s n, (f s n).usCoolTempSet = (s.unit n).usCoolTempSet) :
    (units.foldl (fun s n => s.setUnit n (f s n)) s).energySide = s.energySide :=
  foldl_kept System.energySide (fun s n => setUnit_energySide_same s n (f s n) (h s n)) units s

theorem foldl_temps (usTempSet : USHORT) (list : List (Fin MODULAR_ROOF_NUM)) :
    (list.foldl (fun s n =>
      s.setUnit n { s.unit n with usCoolTempSet := usTempSet, usHeatTempSet := usTempSet }) s).energySide =
      { s.energySide with
        usCoolTempSet := fun n => if n ∈ list then usTempSet else s.energySide.usCoolTempSet n } := by
  induction list generalizing s with
  | nil => rfl
  | cons m list ih =>
    rw [List.foldl_cons, ih, setUnit_energySide]
    refine congrArg (fun cool => { s.energySide with usCoolTempSet := cool }) (funext fun n => ?_)
    by_cases hn : n ∈ list
    · simp [hn]
    · by_cases hm : n = m
      · simp [hm]
      · simp [hn, hm]

theorem setUnitTemps_energySide (usTempSet : USHORT) :
    (setUnitTemps usTempSet s).energySide = s.energySide.withCool usTempSet := by
  have hall (n : Fin MODULAR_ROOF_NUM) : n ∈ units := List.mem_finRange n
  unfold setUnitTemps
  rw [foldl_temps]
  simp only [hall, if_true]
  rfl

/-- A system that saves has its temperature switched by, and its units get it. -/
theorem usSystem_ChangeEnergyTemp_saves (h : s.energySide.Saves) :
    usSystem_ChangeEnergyTemp s = (s.energySide.T, setUnitTemps s.energySide.T s) := by
  have hauto : ¬s.eSystemMode ≠ .MODE_AUTO := fun hne => hne h.1
  have hcools : s.eRunningMode = .RUN_MODE_COOL ∨ s.eRunningMode = .RUN_MODE_WET := h.2
  unfold usSystem_ChangeEnergyTemp
  rw [if_neg hauto, if_pos hcools]
  rfl

theorem usSystem_ChangeEnergyTemp_energySide (h : s.energySide.Saves) :
    (usSystem_ChangeEnergyTemp s).2.energySide = s.energySide.saved := by
  rw [usSystem_ChangeEnergyTemp_saves s h]
  exact setUnitTemps_energySide s _

@[simp] theorem changeOnCompsClosed_energySide (k : ℕ) : (changeOnCompsClosed k s).energySide = s.energySide := by
  have hcomps : (xSystem_UnitCompsClosed s).2.energySide = s.energySide := by
    unfold xSystem_UnitCompsClosed
    split <;> rfl
  have hregist (t : System) : (registModeChange k t).energySide = t.energySide := rfl
  unfold changeOnCompsClosed
  simp only [ite_energySide, hregist, hcomps, ite_self]

/-- A system that saves and is not closed has its units saved by the change of the running mode. -/
theorem vSystem_ChangeUnitRunningMode_energySide :
    (vSystem_ChangeUnitRunningMode s).energySide =
      if s.energySide.Saves ∧ s.eSystemState ≠ .STATE_CLOSED then s.energySide.saved else s.energySide := by
  have hregist (k : ℕ) (t : System) : (registModeChange k t).energySide = t.energySide := rfl
  unfold vSystem_ChangeUnitRunningMode
  by_cases hrun : s.eSystemMode ≠ .MODE_AUTO ∨ s.eSystemState = .STATE_CLOSED
  · have hno : ¬(s.energySide.Saves ∧ s.eSystemState ≠ .STATE_CLOSED) := by
      rintro ⟨hs, hopen⟩
      exact hrun.elim (fun hne => hne hs.1) hopen
    rw [if_pos hrun, if_neg hno]
  · have hauto : s.eSystemMode = .MODE_AUTO := by
      by_contra hne
      exact hrun (Or.inl hne)
    have hopen : s.eSystemState ≠ .STATE_CLOSED := fun hc => hrun (Or.inr hc)
    rw [if_neg hrun]
    cases hm : s.eRunningMode with
    | unset =>
      have hno : ¬s.energySide.Saves := by simp [EnergySide.Saves, System.energySide, hm, eRunningMode.Cools]
      simp [hno]
    | RUN_MODE_FAN =>
      -- the modes that do not cool do not save
      have hno : ¬s.energySide.Saves := by simp [EnergySide.Saves, System.energySide, hm, eRunningMode.Cools]
      simp [hno, hregist]
    | RUN_MODE_HEAT =>
      have hno : ¬s.energySide.Saves := by simp [EnergySide.Saves, System.energySide, hm, eRunningMode.Cools]
      simp only [ite_energySide, hregist, changeOnCompsClosed_energySide, ite_self, hno, false_and, if_false]
      exact congrArg (fun m => { s.energySide with eRunningMode := m }) hm.symm
    | RUN_MODE_WET =>
      -- the target that is switched by is computed, and given to the units
      have hs : s.energySide.Saves := ⟨hauto, Or.inr hm⟩
      simp only [ite_energySide, hregist, usSystem_ChangeEnergyTemp_energySide s hs, ite_self]
      rw [if_pos ⟨hs, hopen⟩]
    | RUN_MODE_COOL =>
      have hs : s.energySide.Saves := ⟨hauto, Or.inl hm⟩
      simp only [ite_energySide, hregist, changeOnCompsClosed_energySide, usSystem_ChangeEnergyTemp_energySide s hs,
        ite_self]
      rw [if_pos ⟨hs, hopen⟩]

theorem vSystem_ChangeUnitRunningMode_held :
    EnergySide.Held s.energySide (vSystem_ChangeUnitRunningMode s).energySide := by
  rw [vSystem_ChangeUnitRunningMode_energySide]
  split
  · exact Or.inr rfl
  · exact Or.inl rfl

/-! #### The setting of the running mode -/

theorem vSystem_OpenUnits_energySide : (vSystem_OpenUnits s).energySide = s.energySide := by
  have hopen (s : System) (n : Fin MODULAR_ROOF_NUM) : (vModularRoof_SwitchOpen n s).energySide = s.energySide := by
    unfold vModularRoof_SwitchOpen
    dsimp only
    split
    · exact setUnit_energySide_same s n _ rfl
    · rfl
  exact foldl_kept System.energySide hopen _ s

theorem unitRunningMode_saved (eRunMode : eRunningMode) (n : Fin MODULAR_ROOF_NUM) :
    (unitRunningMode eRunMode s n).energySide.saved = s.energySide.saved := by
  unfold unitRunningMode
  dsimp only
  split
  · rfl
  · rfl

/-- In automatic mode the units are saved where the system cools in the mode. -/
theorem vSystem_SetUnitRunningMode_energySide (eRunMode : eRunningMode) (h : s.eSystemMode = .MODE_AUTO) :
    (vSystem_SetUnitRunningMode eRunMode s).energySide.saved = { s.energySide with eRunningMode := eRunMode }.saved ∧
      (eRunMode.Cools → (vSystem_SetUnitRunningMode eRunMode s).energySide =
        { s.energySide with eRunningMode := eRunMode }.saved) := by
  have hunits : (units.foldl (unitRunningMode eRunMode)
      { s with eRunningMode := eRunMode, psBMS := { s.psBMS with eRunningMode := eRunMode } }).energySide.saved =
      { s.energySide with eRunningMode := eRunMode }.saved :=
    foldl_kept (fun s => s.energySide.saved) (fun s n => unitRunningMode_saved s eRunMode n) units _
  unfold vSystem_SetUnitRunningMode
  dsimp only
  generalize units.foldl (unitRunningMode eRunMode) _ = t at hunits
  have hopen : (if t.eSystemMode = .MODE_AUTO then vSystem_OpenUnits t else t).energySide = t.energySide := by
    rw [ite_energySide, vSystem_OpenUnits_energySide, ite_self]
  generalize (if t.eSystemMode = .MODE_AUTO then vSystem_OpenUnits t else t) = t' at hopen
  rw [← hopen] at hunits
  have hmode : t'.eRunningMode = eRunMode := congrArg EnergySide.eRunningMode hunits
  have hauto : t'.eSystemMode = .MODE_AUTO := (congrArg EnergySide.eSystemMode hunits).trans h
  rw [energySide_of_fanless (vSystem_ExAirRequest_Vol_fanless _)]
  by_cases hc : eRunMode.Cools
  · have hcool : t'.eRunningMode.Cools := by
      rw [hmode]
      exact hc
    have hs : t'.energySide.Saves := ⟨hauto, hcool⟩
    have hcools : (t'.eRunningMode = .RUN_MODE_COOL ∨ t'.eRunningMode = .RUN_MODE_WET) ∧ t'.eSystemMode = .MODE_AUTO :=
      ⟨hs.2, hs.1⟩
    rw [if_pos hcools, usSystem_ChangeEnergyTemp_energySide t' hs]
    exact ⟨hunits, fun _ => hunits⟩
  · have hno : ¬((t'.eRunningMode = .RUN_MODE_COOL ∨ t'.eRunningMode = .RUN_MODE_WET) ∧
        t'.eSystemMode = .MODE_AUTO) := fun hcools => hc (hmode ▸ hcools.1)
    rw [if_neg hno]
    exact ⟨hunits, fun hcools => absurd hcools hc⟩

/-! #### The poll -/

theorem vSystem_FreshFreAir_energySide (ulFreAirSet_Vol : ULONG) :
    (vSystem_FreshFreAir ulFreAirSet_Vol s).energySide = s.energySide := by
  unfold vSystem_FreshFreAir
  split
  · rfl
  · next n _ =>
    split
    · exact setUnit_energySide_same s n _ rfl
    · exact setUnits_energySide s (fun s n => { s.unit n with usFreAirSet_Vol := _ }) fun _ _ => rfl

theorem setCO2PPM_energySide (usCO2PPM : USHORT) : (setCO2PPM usCO2PPM s).energySide = s.energySide := by
  have hset (t : System) : (vSystem_SetAlarm t).energySide = t.energySide :=
    energySide_of_fanless (vSystem_SetAlarm_fanless t)
  have hdel (t : System) : (vSystem_DelAlarmRequst t).energySide = t.energySide :=
    energySide_of_fanless (vSystem_DelAlarmRequst_fanless t)
  unfold setCO2PPM
  dsimp only
  rw [energySide_of_fanless (vSystem_ExAirFanCtrl_fanless _), ite_energySide, hset, hdel, ite_self]
  rfl

theorem setUnitAmbientIn_energySide (sAmbientIn_T usAmbientIn_H : USHORT) :
    (setUnitAmbientIn sAmbientIn_T usAmbientIn_H s).energySide = s.energySide :=
  setUnits_energySide s
    (fun s n => { s.unit n with sAmbientIn_T := sAmbientIn_T, usAmbientIn_H := usAmbientIn_H }) fun _ _ => rfl

/-- New readings of the room are passed on to the units, and then the running mode may change. -/
theorem setAmbientIn_held (sAmbientIn_T usAmbientIn_H sAmbientIn_T' usAmbientIn_H' : USHORT) :
    EnergySide.Held s.energySide
      (setAmbientIn sAmbientIn_T' usAmbientIn_H' (setUnitAmbientIn sAmbientIn_T usAmbientIn_H s)).energySide := by
  have h := vSystem_ChangeUnitRunningMode_held { setUnitAmbientIn sAmbientIn_T usAmbientIn_H s with
    sAmbientIn_T := sAmbientIn_T', usAmbientIn_H := usAmbientIn_H' }
  exact (EnergySide.Held.of_eq (setUnitAmbientIn_energySide s sAmbientIn_T usAmbientIn_H)).trans h

theorem vSystem_TempHumiIn_held (p : Sensors) : EnergySide.Held s.energySide (vSystem_TempHumiIn p s).energySide := by
  unfold vSystem_TempHumiIn
  split
  · exact Or.inl rfl
  · dsimp only
    exact held_ite (setAmbientIn_held s _ _ _ _) (Or.inl (setUnitAmbientIn_energySide s _ _))

theorem vSystem_UnitTempHumiIn_held (l : Locals) :
    EnergySide.Held s.energySide (vSystem_UnitTempHumiIn l s).energySide := by
  unfold vSystem_UnitTempHumiIn
  split
  · dsimp only
    exact held_ite (setAmbientIn_held s _ _ _ _) (Or.inl (setUnitAmbientIn_energySide s _ _))
  · exact Or.inl rfl

theorem sysnReadings_held (l : Locals) (p : Sensors) :
    EnergySide.Held s.energySide (sysnReadings l p s).energySide := by
  have hco2 (t : System) : (vSystem_CO2PPM p t).energySide = t.energySide := by
    simp [vSystem_CO2PPM, setCO2PPM_energySide]
  have hunitCO2 (t : System) : (vSystem_UnitCO2PPM l t).energySide = t.energySide := by
    simp [vSystem_UnitCO2PPM, setCO2PPM_energySide]
  have hout (t : System) : (vSystem_TempHumiOut p t).energySide = t.energySide := by
    unfold vSystem_TempHumiOut
    split
    · rfl
    · dsimp only
      split <;> rfl
  have hunitOut (t : System) : (vSystem_UnitTempHumiOut t).energySide = t.energySide := by
    unfold vSystem_UnitTempHumiOut
    dsimp only
    split <;> rfl
  unfold sysnReadings
  generalize hs1 : vSystem_TempHumiIn p (vSystem_TempHumiOut p (vSystem_CO2PPM p s)) = s1
  have h1 := vSystem_TempHumiIn_held (vSystem_TempHumiOut p (vSystem_CO2PPM p s)) p
  rw [hout, hco2, hs1] at h1
  refine h1.trans ?_
  have h2 := vSystem_UnitTempHumiIn_held (vSystem_UnitTempHumiOut (vSystem_UnitCO2PPM l s1)) l
  rw [hunitOut, hunitCO2] at h2
  exact h2

/-- A unit is given the target of a system that does not cool; in automatic mode the units of one that cools are
saved. -/
theorem sysnUnit_energySide (n : Fin MODULAR_ROOF_NUM) :
    (sysnUnit s n).energySide.saved = s.energySide.saved ∧
      (s.energySide.Saves → (sysnUnit s n).energySide = s.energySide.saved) := by
  unfold sysnUnit
  dsimp only
  have hfirst (u : ModularRoof) (hu : u.usCoolTempSet = (s.unit n).usCoolTempSet) :
      (s.setUnit n u).energySide = s.energySide := setUnit_energySide_same s n u hu
  generalize hs1 : s.setUnit n _ = s1
  have h1 : s1.energySide = s.energySide := by
    rw [← hs1]
    exact hfirst _ rfl
  rw [← h1]
  rw [setUnit_energySide_same]
  · by_cases hc : s1.eRunningMode = .RUN_MODE_COOL ∨ s1.eRunningMode = .RUN_MODE_WET
    · rw [if_pos hc]
      refine ⟨?_, usSystem_ChangeEnergyTemp_energySide s1⟩
      unfold usSystem_ChangeEnergyTemp
      by_cases hne : s1.eSystemMode ≠ .MODE_AUTO
      · rw [if_pos hne]
      · rw [if_neg hne, if_pos hc]
        dsimp only
        rw [setUnitTemps_energySide]
        rfl
    · rw [if_neg hc]
      exact ⟨rfl, fun hs => absurd hs.2 hc⟩
  · rfl

theorem foldl_sysnUnit (list : List (Fin MODULAR_ROOF_NUM)) :
    (list.foldl sysnUnit s).energySide.saved = s.energySide.saved ∧
      (s.energySide.Saves → list ≠ [] → (list.foldl sysnUnit s).energySide = s.energySide.saved) := by
  induction list generalizing s with
  | nil => exact ⟨rfl, fun _ hne => absurd rfl hne⟩
  | cons n list ih =>
    obtain ⟨hsaved, hcool⟩ := sysnUnit_energySide s n
    rw [List.foldl_cons]
    refine ⟨(ih _).1.trans hsaved, fun hs _ => ?_⟩
    cases list with
    | nil => exact hcool hs
    | cons m list =>
      have hs' := (EnergySide.saves_of_saved hsaved).mpr hs
      exact ((ih _).2 hs' (List.cons_ne_nil m list)).trans hsaved

theorem sysnUnits_energySide (h : s.eSystemMode = .MODE_AUTO) :
    (sysnUnits s).energySide.saved = s.energySide.saved ∧
      (s.energySide.Saves → (sysnUnits s).energySide = s.energySide.saved) := by
  unfold sysnUnits
  rw [if_pos (Or.inl h)]
  have hunits : units ≠ [] := List.ne_nil_of_mem (List.mem_finRange 0)
  obtain ⟨hsaved, hcool⟩ := foldl_sysnUnit s units
  exact ⟨hsaved, fun hs => hcool hs hunits⟩

theorem vSystem_ParameterSysn_energySide (l : Locals) (p : Sensors) (LastAmbientIn_T : USHORT)
    (h : s.eSystemMode = .MODE_AUTO) :
    (vSystem_ParameterSysn l p LastAmbientIn_T s).2.energySide.saved = s.energySide.saved ∧
      (s.energySide.Saves → (vSystem_ParameterSysn l p LastAmbientIn_T s).2.energySide = s.energySide.saved) := by
  have hfresh := vSystem_FreshFreAir_energySide s s.ulFreAirSet_Vol
  have hauto : (vSystem_FreshFreAir s.ulFreAirSet_Vol s).eSystemMode = .MODE_AUTO :=
    (congrArg EnergySide.eSystemMode hfresh).trans h
  obtain ⟨hsaved, hcool⟩ := sysnUnits_energySide _ hauto
  rw [hfresh] at hsaved hcool
  unfold vSystem_ParameterSysn
  dsimp only
  generalize sysnUnits (vSystem_FreshFreAir s.ulFreAirSet_Vol s) = t at hsaved hcool
  have hrest : EnergySide.Held t.energySide (if (sysnReadings l p t).eSystemMode = .MODE_AUTO ∧
      (sysnReadings l p t).eSystemState ≠ .STATE_CLOSED ∧ LastAmbientIn_T = (sysnReadings l p t).sAmbientIn_T then
      vSystem_ChangeUnitRunningMode (sysnReadings l p t) else sysnReadings l p t).energySide := by
    have hread := sysnReadings_held t l p
    exact held_ite (hread.trans (vSystem_ChangeUnitRunningMode_held _)) hread
  refine ⟨hrest.saved_eq.trans hsaved, fun hs => ?_⟩
  rw [hcool hs] at hrest
  exact hrest.of_saved

end Operations

/-! ### Runs -/

/-- A target is set, a running mode is set, the running mode is changed by the room temperature, or the poll runs. -/
inductive TempEvent
  | setTemp (usTempSet : USHORT)
  | setMode (eRunMode : eRunningMode)
  | change
  | sysn (l : Locals) (p : Sensors) (LastAmbientIn_T : USHORT)

def tempStep (s : System) : TempEvent → System
  | .setTemp usTempSet => vSystem_SetTemp usTempSet s
  | .setMode eRunMode => vSystem_SetUnitRunningMode eRunMode s
  | .change => vSystem_ChangeUnitRunningMode s
  | .sysn l p LastAmbientIn_T => (vSystem_ParameterSysn l p LastAmbientIn_T s).2

/-- After the step a system that cools has its units at the floor, and the temperature that its running mode is
switched by is the target, or below the energy temperature that one less the deviation. -/
def EnergyFloor (s : System) (e : TempEvent) : Prop :=
  let s := tempStep s e
  s.eRunningMode.Cools →
    s.energySide.AtFloor ∧
      (usSystem_ChangeEnergyTemp s).1.toNat =
        if s.usEnergyTemp ≤ s.usTempSet then s.usTempSet.toNat else s.usEnergyTemp.toNat - s.usTempDeviat.toNat

/-- A step that saves the units is taken with a target that is not below the energy temperature, or without a
deviation; one that gives them the target itself (the system is closed then), with a target that is not below;
and one that leaves them alone, with units at the floor. -/
def EnergyOk (s : System) : TempEvent → Prop
  | .setTemp usTempSet =>
    s.eRunningMode.Cools →
      if s.usTempSet = usTempSet then s.energySide.AtFloor
      else s.usEnergyTemp ≤ usTempSet ∨ s.eSystemState ≠ .STATE_CLOSED ∧ s.usTempDeviat = 0
  | .setMode eRunMode => eRunMode.Cools → s.energySide.NoneBelow
  | .change =>
    s.eRunningMode.Cools → if s.eSystemState = .STATE_CLOSED then s.energySide.AtFloor else s.energySide.NoneBelow
  | .sysn _ _ _ => s.eRunningMode.Cools → s.energySide.NoneBelow

/-- A system in automatic mode whose deviation is not more than its energy temperature. -/
structure Saving (a : EnergySide) : Prop where
  auto : a.eSystemMode = .MODE_AUTO
  deviat_le : a.usTempDeviat ≤ a.usEnergyTemp

theorem Saving.of_saved {a b : EnergySide} (h : Saving a) (hs : b.saved = a.saved) : Saving b := by
  have hauto : b.saved.eSystemMode = a.saved.eSystemMode := by rw [hs]
  have hdev : b.saved.usTempDeviat = a.saved.usTempDeviat := by rw [hs]
  have henergy : b.saved.usEnergyTemp = a.saved.usEnergyTemp := by rw [hs]
  refine ⟨hauto.trans h.auto, ?_⟩
  show b.saved.usTempDeviat ≤ b.saved.usEnergyTemp
  rw [hdev, henergy]
  exact h.deviat_le

theorem mode_of_saved {a : EnergySide} {s : System} (h : s.energySide.saved = a.saved) :
    s.eRunningMode = a.eRunningMode := by
  have hmode : s.energySide.saved.eRunningMode = a.saved.eRunningMode := by rw [h]
  exact hmode

theorem vSystem_SetTemp_energySide (s : System) (usTempSet : USHORT) (hne : s.usTempSet ≠ usTempSet) :
    (vSystem_SetTemp usTempSet s).energySide =
      if s.energySide.Saves ∧ s.eSystemState ≠ .STATE_CLOSED then
        { s.energySide with usTempSet := usTempSet }.saved
      else { s.energySide with usTempSet := usTempSet }.withCool usTempSet := by
  have hset := setUnitTemps_energySide { s with usTempSet := usTempSet } usTempSet
  have hstate : (setUnitTemps usTempSet { s with usTempSet := usTempSet }).eSystemState = s.eSystemState :=
    foldl_kept System.eSystemState (fun _ _ => rfl) units _
  unfold vSystem_SetTemp
  rw [if_pos hne, vSystem_ChangeUnitRunningMode_energySide]
  simp only [hset, hstate]
  rfl

section Steps

variable {s : System} (h : Saving s.energySide)

include h

theorem Saving.step (e : TempEvent) : Saving (tempStep s e).energySide := by
  cases e with
  | setTemp usTempSet =>
    have hset : Saving { s.energySide with usTempSet := usTempSet } := ⟨h.auto, h.deviat_le⟩
    show Saving (vSystem_SetTemp usTempSet s).energySide
    by_cases heq : s.usTempSet = usTempSet
    · unfold vSystem_SetTemp
      rw [if_neg (fun hne => hne heq)]
      exact h
    · rw [vSystem_SetTemp_energySide s usTempSet heq]
      split
      · exact hset.of_saved rfl
      · exact hset.of_saved rfl
  | setMode eRunMode =>
    have hmode : Saving { s.energySide with eRunningMode := eRunMode } := ⟨h.auto, h.deviat_le⟩
    exact hmode.of_saved (vSystem_SetUnitRunningMode_energySide s eRunMode h.auto).1
  | change => exact h.of_saved (vSystem_ChangeUnitRunningMode_held s).saved_eq
  | sysn l p LastAmbientIn_T => exact h.of_saved (vSystem_ParameterSysn_energySide s l p LastAmbientIn_T h.auto).1

/-- The temperature that is switched by is right in any case. -/
theorem Saving.floor_iff_atFloor (e : TempEvent) :
    EnergyFloor s e ↔ ((tempStep s e).eRunningMode.Cools → (tempStep s e).energySide.AtFloor) := by
  have hnext := h.step e
  unfold EnergyFloor
  dsimp only
  refine forall_congr' fun hc => and_iff_left ?_
  have hs : (tempStep s e).energySide.Saves := ⟨hnext.auto, hc⟩
  rw [usSystem_ChangeEnergyTemp_saves _ hs]
  exact EnergySide.toNat_T hnext.deviat_le

theorem Saving.floor_iff (e : TempEvent) : EnergyFloor s e ↔ EnergyOk s e := by
  refine (h.floor_iff_atFloor e).trans ?_
  cases e with
  | setTemp usTempSet =>
    unfold EnergyOk tempStep
    dsimp only
    by_cases heq : s.usTempSet = usTempSet
    · -- the same target: nothing is done
      have hsame : vSystem_SetTemp usTempSet s = s := if_neg fun hne => hne heq
      rw [hsame, if_pos heq]
    · -- a new target: the units get the one that is switched by, if the system saves
      have hside := vSystem_SetTemp_energySide s usTempSet heq
      have hmode : (vSystem_SetTemp usTempSet s).eRunningMode = s.eRunningMode := by
        have hm := congrArg EnergySide.eRunningMode hside
        rw [apply_ite EnergySide.eRunningMode] at hm
        exact hm.trans (ite_self _)
      rw [hmode, hside, if_neg heq]
      refine forall_congr' fun hc => ?_
      by_cases hopen : s.eSystemState = .STATE_CLOSED
      · rw [if_neg (fun hs => hs.2 hopen), EnergySide.withCool_atFloor_iff usTempSet rfl]
        exact (or_iff_left fun hd => hd.1 hopen).symm
      · rw [if_pos ⟨⟨h.auto, hc⟩, hopen⟩]
        have hset : Saving { s.energySide with usTempSet := usTempSet } := ⟨h.auto, h.deviat_le⟩
        refine (EnergySide.saved_atFloor_iff hset.deviat_le).trans (or_congr Iff.rfl ?_)
        exact (and_iff_right hopen).symm
  | setMode eRunMode =>
    obtain ⟨hsaved, hcool⟩ := vSystem_SetUnitRunningMode_energySide s eRunMode h.auto
    have hmode : (vSystem_SetUnitRunningMode eRunMode s).eRunningMode = eRunMode := mode_of_saved hsaved
    unfold EnergyOk tempStep
    dsimp only
    rw [hmode]
    refine forall_congr' fun hc => ?_
    rw [hcool hc]
    exact EnergySide.saved_atFloor_iff h.deviat_le
  | change =>
    have hsaved := (vSystem_ChangeUnitRunningMode_held s).saved_eq
    have hmode : (vSystem_ChangeUnitRunningMode s).eRunningMode = s.eRunningMode := mode_of_saved hsaved
    unfold EnergyOk tempStep
    dsimp only
    rw [hmode, vSystem_ChangeUnitRunningMode_energySide]
    refine forall_congr' fun hc => ?_
    by_cases hopen : s.eSystemState = .STATE_CLOSED
    · rw [if_neg (fun hs => hs.2 hopen), if_pos hopen]
    · rw [if_pos ⟨⟨h.auto, hc⟩, hopen⟩, if_neg hopen]
      exact EnergySide.saved_atFloor_iff h.deviat_le
  | sysn l p LastAmbientIn_T =>
    obtain ⟨hsaved, hcool⟩ := vSystem_ParameterSysn_energySide s l p LastAmbientIn_T h.auto
    have hmode : (vSystem_ParameterSysn l p LastAmbientIn_T s).2.eRunningMode = s.eRunningMode := mode_of_saved hsaved
    unfold EnergyOk tempStep
    dsimp only
    rw [hmode]
    refine forall_congr' fun hc => ?_
    rw [hcool ⟨h.auto, hc⟩]
    exact EnergySide.saved_atFloor_iff h.deviat_le

end Steps

/-- **The energy saving holds the units at the floor exactly after the steps of `EnergyOk`**, in every run. -/
theorem energyFloor_iff (s : System) (es : List TempEvent) (hauto : s.eSystemMode = .MODE_AUTO)
    (hdev : s.usTempDeviat ≤ s.usEnergyTemp) :
    Meets (fun s e => some (tempStep s e)) EnergyFloor s es ↔ Meets (fun s e => some (tempStep s e)) EnergyOk s es := by
  refine meets_congr (I := fun s => Saving s.energySide) ?_ ?_ ⟨hauto, hdev⟩
  · rintro s e s' h - hs
    exact Option.some.inj hs ▸ h.step e
  · intro s e h
    exact h.floor_iff e

/-- A plant that cools: energy temperature 25 degrees, deviation half a degree, target 26. -/
def savingPlant : System :=
  { System.zero with
    eSystemMode := .MODE_AUTO, eSystemState := .STATE_COOL, eRunningMode := .RUN_MODE_COOL
    usTempSet := 260, usEnergyTemp := 250, usTempDeviat := 5 }

theorem energyFloor_savingPlant :
    savingPlant.eSystemMode = .MODE_AUTO ∧ savingPlant.usTempDeviat ≤ savingPlant.usEnergyTemp ∧
      (Meets (fun s e => some (tempStep s e)) EnergyFloor savingPlant [.change, .setMode .RUN_MODE_WET] ↔
        Meets (fun s e => some (tempStep s e)) EnergyOk savingPlant [.change, .setMode .RUN_MODE_WET]) :=
  ⟨rfl, by decide, energyFloor_iff savingPlant _ rfl (by decide)⟩

/-- The target is lowered to 24 degrees: the units get 24.5 and not 25. -/
theorem savingPlant_below :
    ((vSystem_SetTemp 240 savingPlant).unit 0).usCoolTempSet = 245 ∧
      ¬Meets (fun s e => some (tempStep s e)) EnergyFloor savingPlant [.setTemp 240] := by
  refine ⟨by decide, fun h => ?_⟩
  have hfloor := (h.1 (Or.inl (by decide))).1 0
  revert hfloor
  decide

end GreeIntense.Control

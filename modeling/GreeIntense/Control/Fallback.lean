import GreeIntense.Control.SensorCtrl
import GreeIntense.Lib.Mean

/-!
# The readings of the units in place of the sensors

Where all sensors of a kind are in fault, the readings of the units on line take their place: `vSystem_UnitCO2PPM`,
`vSystem_UnitTempHumiOut` and `vSystem_UnitTempHumiIn` publish their mean (`Follows`).

`fallback_iff` says of which states this is true, whatever the locals hold that are not set: never for the CO2 (two
locals are not set), and for the humidity only together with the temperature, since the flag of the temperature guards
both.
-/

namespace GreeIntense.Control

open Lib.Mean

/-! ### What is published -/

/-- The readings of the room and of the air outside: those of the system, and the copies in the units. -/
structure Published where
  usCO2PPM : USHORT
  sAmbientOut_T : USHORT
  usAmbientOut_H : USHORT
  sAmbientIn_T : USHORT
  usAmbientIn_H : USHORT
  unitAmbientIn_T : Fin MODULAR_ROOF_NUM → USHORT
  unitAmbientIn_H : Fin MODULAR_ROOF_NUM → USHORT

def System.published (s : System) : Published where
  usCO2PPM := s.usCO2PPM
  sAmbientOut_T := s.sAmbientOut_T
  usAmbientOut_H := s.usAmbientOut_H
  sAmbientIn_T := s.sAmbientIn_T
  usAmbientIn_H := s.usAmbientIn_H
  unitAmbientIn_T n := (s.unit n).sAmbientIn_T
  unitAmbientIn_H n := (s.unit n).usAmbientIn_H

section Frame

variable (s : System)

theorem published_of_uncontrolled {s s' : System} (h : s'.uncontrolled = s.uncontrolled) :
    s'.published = s.published := by
  show s'.uncontrolled.published = s.uncontrolled.published
  rw [h]

@[simp] theorem ite_published (c : Prop) [Decidable c] (s t : System) :
    (if c then s else t).published = if c then s.published else t.published := apply_ite System.published c s t

theorem setUnit_published (n : Fin MODULAR_ROOF_NUM) (u : ModularRoof) :
    (s.setUnit n u).published = { s.published with
      unitAmbientIn_T := Function.update s.published.unitAmbientIn_T n u.sAmbientIn_T
      unitAmbientIn_H := Function.update s.published.unitAmbientIn_H n u.usAmbientIn_H } := by
  have hT : (fun m => ((s.setUnit n u).unit m).sAmbientIn_T) =
      Function.update s.published.unitAmbientIn_T n u.sAmbientIn_T := by
    funext m
    rw [unit_setUnit, Function.update_apply, apply_ite ModularRoof.sAmbientIn_T]
    rfl
  have hH : (fun m => ((s.setUnit n u).unit m).usAmbientIn_H) =
      Function.update s.published.unitAmbientIn_H n u.usAmbientIn_H := by
    funext m
    rw [unit_setUnit, Function.update_apply, apply_ite ModularRoof.usAmbientIn_H]
    rfl
  exact congrArg₂ (fun T H => { s.published with unitAmbientIn_T := T, unitAmbientIn_H := H }) hT hH

theorem setUnit_published_same (n : Fin MODULAR_ROOF_NUM) (u : ModularRoof)
    (hT : u.sAmbientIn_T = (s.unit n).sAmbientIn_T) (hH : u.usAmbientIn_H = (s.unit n).usAmbientIn_H) :
    (s.setUnit n u).published = s.published := by
  rw [setUnit_published, hT, hH]
  exact congrArg₂ (fun T H => { s.published with unitAmbientIn_T := T, unitAmbientIn_H := H })
    (Function.update_eq_self n _) (Function.update_eq_self n _)

@[simp] theorem vDigitalOutputCtrl_published (ucChannel : ℕ) (eCtrl : eCtrlEn) :
    (vDigitalOutputCtrl ucChannel eCtrl s).published = s.published := by
  unfold vDigitalOutputCtrl
  split <;> rfl

@[simp] theorem vSystem_SetAlarm_published : (vSystem_SetAlarm s).published = s.published := by
  simp [vSystem_SetAlarm]

@[simp] theorem vSystem_DelAlarmRequst_published : (vSystem_DelAlarmRequst s).published = s.published := by
  have hdel (s : System) : (vSystem_DelAlarm s).published = s.published := vDigitalOutputCtrl_published s _ _
  simp [vSystem_DelAlarmRequst, hdel]

theorem setUnitTemps_published (usTempSet : USHORT) : (setUnitTemps usTempSet s).published = s.published :=
  foldl_kept System.published
    (fun s n => setUnit_published_same s n
      { s.unit n with usCoolTempSet := usTempSet, usHeatTempSet := usTempSet } rfl rfl) units s

@[simp] theorem usSystem_ChangeEnergyTemp_published : (usSystem_ChangeEnergyTemp s).2.published = s.published := by
  unfold usSystem_ChangeEnergyTemp
  split
  · rfl
  · split
    · exact setUnitTemps_published s _
    · rfl

@[simp] theorem registModeChange_published (k : ℕ) : (registModeChange k s).published = s.published := rfl

@[simp] theorem changeOnCompsClosed_published (k : ℕ) : (changeOnCompsClosed k s).published = s.published := by
  have hcomps : (xSystem_UnitCompsClosed s).2.published = s.published := by
    unfold xSystem_UnitCompsClosed
    split <;> rfl
  simp [changeOnCompsClosed, hcomps]

@[simp] theorem vSystem_ChangeUnitRunningMode_published :
    (vSystem_ChangeUnitRunningMode s).published = s.published := by
  unfold vSystem_ChangeUnitRunningMode
  split
  · rfl
  · cases s.eRunningMode with
    | unset => rfl
    | RUN_MODE_FAN => simp
    | RUN_MODE_WET => simp
    | RUN_MODE_COOL => simp
    | RUN_MODE_HEAT =>
      simp only [ite_published, registModeChange_published, changeOnCompsClosed_published, ite_self]
      rfl

theorem setCO2PPM_published (usCO2PPM : USHORT) :
    (setCO2PPM usCO2PPM s).published = { s.published with usCO2PPM := usCO2PPM } := by
  unfold setCO2PPM
  rw [published_of_uncontrolled (vSystem_ExAirFanCtrl_uncontrolled _)]
  simp only [ite_published, vSystem_SetAlarm_published, vSystem_DelAlarmRequst_published, ite_self]
  rfl

theorem setUnitAmbientIn_published (sAmbientIn_T usAmbientIn_H : USHORT) :
    (setUnitAmbientIn sAmbientIn_T usAmbientIn_H s).published =
      { s.published with
        unitAmbientIn_T := fun _ => sAmbientIn_T, unitAmbientIn_H := fun _ => usAmbientIn_H } := by
  have hset (list : List (Fin MODULAR_ROOF_NUM)) (s : System) :
      (list.foldl (fun s n => s.setUnit n
        { s.unit n with sAmbientIn_T := sAmbientIn_T, usAmbientIn_H := usAmbientIn_H }) s).published =
      { s.published with
        unitAmbientIn_T := fun n => if n ∈ list then sAmbientIn_T else s.published.unitAmbientIn_T n
        unitAmbientIn_H := fun n => if n ∈ list then usAmbientIn_H else s.published.unitAmbientIn_H n } := by
    induction list generalizing s with
    | nil => simp
    | cons m list ih =>
      rw [List.foldl_cons, ih, setUnit_published]
      refine congrArg₂ (fun T H => { s.published with unitAmbientIn_T := T, unitAmbientIn_H := H }) ?_ ?_ <;>
      · funext n
        by_cases hn : n ∈ list
        · simp [hn]
        · by_cases hm : n = m
          · simp [hm]
          · simp [hn, hm]
  have hall (n : Fin MODULAR_ROOF_NUM) : n ∈ units := List.mem_finRange n
  unfold setUnitAmbientIn
  rw [hset]
  simp only [hall, if_true]

theorem setAmbientIn_published (sAmbientIn_T usAmbientIn_H : USHORT) :
    (setAmbientIn sAmbientIn_T usAmbientIn_H s).published =
      { s.published with sAmbientIn_T := sAmbientIn_T, usAmbientIn_H := usAmbientIn_H } := by
  rw [setAmbientIn, vSystem_ChangeUnitRunningMode_published]
  rfl

end Frame

/-! ### The mean of the units on line -/

/-- What the units on line read. -/
def readings (s : System) (f : ModularRoof → USHORT) : List USHORT := (onLine s).map fun n => f (s.unit n)

def unsigned (l : List USHORT) : List ℤ := l.map fun x => (x.toNat : ℤ)

def signed (l : List USHORT) : List ℤ := l.map BitVec.toInt

/-- The sum has 16 bits. -/
def SumFits (l : List USHORT) : Prop := (l.map BitVec.toNat).sum < 2 ^ 16

/-- The sum has 16 bits with a sign. -/
def SignedSumFits (l : List USHORT) : Prop := -2 ^ 15 ≤ (signed l).sum ∧ (signed l).sum < 2 ^ 15

section Mean

variable (s : System) (f : ModularRoof → USHORT)

theorem total_eq : total s f = wordSum (readings s f) := by
  rw [wordSum, readings, List.foldl_map]
  rfl

theorem readings_length : (readings s f).length = (onLine s).length := List.length_map ..

theorem onLine_length_le : (onLine s).length ≤ 2 :=
  (List.length_filter_le ..).trans (List.length_finRange ..).le

theorem readings_ne_nil (h : onLine s ≠ []) : readings s f ≠ [] := by
  simpa [readings] using h

theorem udiv_readings_iff (h : onLine s ≠ []) :
    ((total s f / BitVec.ofNat 16 (onLine s).length).toNat : ℤ) = exactMean (unsigned (readings s f)) ↔
      SumFits (readings s f) := by
  have hlen := onLine_length_le s
  rw [total_eq, ← readings_length s f]
  refine udiv_mean_iff (readings_ne_nil s f h) ?_
  rw [readings_length]
  omega

theorem mean_readings_iff (h : onLine s ≠ []) :
    (mean (total s f) (onLine s).length).toInt = exactMean (signed (readings s f)) ↔
      SignedSumFits (readings s f) := by
  have hlen := onLine_length_le s
  rw [total_eq, ← readings_length s f]
  refine tdiv_mean_iff (by decide) (readings_ne_nil s f h) ?_
  rw [readings_length]
  omega

end Mean

/-! ### Following the units -/

/-- A published reading follows the units: it is their mean where the sensors of its kind are all in fault and a unit
is on line, and else what it was. -/
def Follows (xErr : Bool) (l : List ℤ) (old new : ℤ) : Prop :=
  new = if xErr = true ∧ l ≠ [] then exactMean l else old

/-- `vSystem_UnitCO2PPM` as it is to be. -/
def CO2Fallback (s s' : System) : Prop :=
  Follows s.xCO2SenErr (unsigned (readings s ModularRoof.usCO2PPMSelf)) s.usCO2PPM.toNat s'.usCO2PPM.toNat

/-- `vSystem_UnitTempHumiOut` as it is to be. -/
structure OutFallback (s s' : System) : Prop where
  temp : Follows s.xTempSenOutErr (signed (readings s ModularRoof.sAmbientOutSelf_T))
    s.sAmbientOut_T.toInt s'.sAmbientOut_T.toInt
  humi : Follows s.xHumiSenOutErr (unsigned (readings s ModularRoof.usAmbientOutSelf_H))
    s.usAmbientOut_H.toNat s'.usAmbientOut_H.toNat

/-- `vSystem_UnitTempHumiIn` as it is to be. -/
structure InFallback (s s' : System) : Prop where
  temp : Follows s.xTempSenInErr (signed (readings s ModularRoof.sAmbientInSelf_T))
    s.sAmbientIn_T.toInt s'.sAmbientIn_T.toInt
  unitTemp : ∀ n, Follows s.xTempSenInErr (signed (readings s ModularRoof.sAmbientInSelf_T))
    (s.unit n).sAmbientIn_T.toInt (s'.unit n).sAmbientIn_T.toInt
  humi : Follows s.xHumiSenInErr (unsigned (readings s ModularRoof.usAmbientInSelf_H))
    s.usAmbientIn_H.toNat s'.usAmbientIn_H.toNat
  unitHumi : ∀ n, Follows s.xHumiSenInErr (unsigned (readings s ModularRoof.usAmbientInSelf_H))
    (s.unit n).usAmbientIn_H.toNat (s'.unit n).usAmbientIn_H.toNat

/-- Where `vSystem_UnitTempHumiOut` is right: with the temperature in fault the sums that are used have 16 bits;
without, the humidity is not looked at, and is the mean already where it should be. -/
structure OutExact (s : System) : Prop where
  faulty : s.xTempSenOutErr = true → onLine s ≠ [] →
    SignedSumFits (readings s ModularRoof.sAmbientOutSelf_T) ∧
      (s.xHumiSenOutErr = true → SumFits (readings s ModularRoof.usAmbientOutSelf_H))
  healthy : s.xTempSenOutErr = false → s.xHumiSenOutErr = true → onLine s ≠ [] →
    s.usAmbientOut_H.toNat = exactMean (unsigned (readings s ModularRoof.usAmbientOutSelf_H))

/-- Where `vSystem_UnitTempHumiIn` is right: with the temperature in fault a unit is on line, the humidity is in fault
too and both sums have 16 bits; without, the humidity is the mean already where it should be. -/
structure InExact (s : System) : Prop where
  faulty : s.xTempSenInErr = true → onLine s ≠ [] ∧ s.xHumiSenInErr = true ∧
    SignedSumFits (readings s ModularRoof.sAmbientInSelf_T) ∧ SumFits (readings s ModularRoof.usAmbientInSelf_H)
  healthy : s.xTempSenInErr = false → s.xHumiSenInErr = true → onLine s ≠ [] →
    s.usAmbientIn_H.toNat = exactMean (unsigned (readings s ModularRoof.usAmbientInSelf_H)) ∧
      ∀ n, (s.unit n).usAmbientIn_H.toNat = exactMean (unsigned (readings s ModularRoof.usAmbientInSelf_H))

section Fallback

variable (s : System)

theorem follows_false (l : List ℤ) (old new : ℤ) : Follows false l old new ↔ new = old := by
  simp [Follows]

theorem follows_true {l : List ℤ} (h : l ≠ []) (old new : ℤ) : Follows true l old new ↔ new = exactMean l := by
  simp [Follows, h]

theorem follows_nil (xErr : Bool) (old new : ℤ) : Follows xErr [] old new ↔ new = old := by
  simp [Follows]

/-- A reading that is not changed follows the units where it is their mean already. -/
theorem follows_old (xErr : Bool) (l : List ℤ) (old : ℤ) :
    Follows xErr l old old ↔ (xErr = true → l ≠ [] → old = exactMean l) := by
  unfold Follows
  split
  · next h => simp [h]
  · next h =>
    rw [not_and] at h
    exact iff_of_true rfl fun herr hl => absurd hl (h herr)

theorem not_any_word {a : ℤ} (h : ∀ x : USHORT, (x.toNat : ℤ) = a) : False :=
  absurd ((h 0).trans (h 1).symm) (by decide)

theorem unitCO2PPM_value (l : Locals) (h : s.xCO2SenErr = true) :
    (vSystem_UnitCO2PPM l s).usCO2PPM =
      if l.ucNum + BitVec.ofNat 8 (onLine s).length ≠ 0 then
        (l.usTotalCO2PPM + total s ModularRoof.usCO2PPMSelf) /
          (l.ucNum + BitVec.ofNat 8 (onLine s).length).setWidth 16
      else l.usCO2PPM := by
  have hset (x : USHORT) : (if s.usCO2PPM ≠ x then setCO2PPM x s else s).usCO2PPM = x := by
    split
    · exact congrArg Published.usCO2PPM (setCO2PPM_published s x)
    · next hx => exact not_not.mp hx
  unfold vSystem_UnitCO2PPM
  rw [if_pos h]
  exact hset _

/-- The CO2 is right only where it is not looked at: two locals can hold anything. -/
theorem co2Fallback_iff : (∀ l, CO2Fallback s (vSystem_UnitCO2PPM l s)) ↔ s.xCO2SenErr = false := by
  constructor
  · intro hall
    by_contra herr
    rw [Bool.not_eq_false] at herr
    -- a count that wraps to 0 publishes the third local, whatever it holds
    have hany (x : USHORT) : (x.toNat : ℤ) =
        if s.xCO2SenErr = true ∧ unsigned (readings s ModularRoof.usCO2PPMSelf) ≠ [] then
          exactMean (unsigned (readings s ModularRoof.usCO2PPMSelf)) else s.usCO2PPM.toNat := by
      have hx := hall ⟨-BitVec.ofNat 8 (onLine s).length, 0, x, 0, 0⟩
      rw [CO2Fallback, Follows, unitCO2PPM_value s _ herr, if_neg (by simp)] at hx
      exact hx
    exact not_any_word hany
  · intro herr l
    have hs : vSystem_UnitCO2PPM l s = s := by
      unfold vSystem_UnitCO2PPM
      rw [if_neg (by simp [herr])]
    rw [CO2Fallback, hs, herr, follows_false]

theorem unsigned_readings_ne_nil (f : ModularRoof → USHORT) : unsigned (readings s f) ≠ [] ↔ onLine s ≠ [] := by
  simp [unsigned, readings]

theorem signed_readings_ne_nil (f : ModularRoof → USHORT) : signed (readings s f) ≠ [] ↔ onLine s ≠ [] := by
  simp [signed, readings]

theorem readings_nil (f : ModularRoof → USHORT) (h : onLine s = []) : readings s f = [] := by
  simp [readings, h]

theorem outFallback_iff : OutFallback s (vSystem_UnitTempHumiOut s) ↔ OutExact s := by
  cases hterr : s.xTempSenOutErr with
  | false =>
    have hs : vSystem_UnitTempHumiOut s = s := by simp [vSystem_UnitTempHumiOut, hterr]
    rw [hs]
    constructor
    · rintro ⟨-, hh⟩
      rw [follows_old, unsigned_readings_ne_nil] at hh
      exact ⟨fun h => absurd (hterr.symm.trans h) (by decide), fun _ => hh⟩
    · rintro ⟨-, hh⟩
      refine ⟨by rw [hterr, follows_false], ?_⟩
      rw [follows_old, unsigned_readings_ne_nil]
      exact hh hterr
  | true =>
    by_cases hon : onLine s = []
    · -- no unit is on line: nothing is published, and nothing is to be
      have hs : vSystem_UnitTempHumiOut s = s := by simp [vSystem_UnitTempHumiOut, hon]
      rw [hs]
      refine iff_of_true ⟨?_, ?_⟩ ⟨fun _ h => absurd hon h, fun _ _ h => absurd hon h⟩
      · rw [follows_old, signed_readings_ne_nil]
        exact fun _ h => absurd hon h
      · rw [follows_old, unsigned_readings_ne_nil]
        exact fun _ h => absurd hon h
    · have hnum : (onLine s).length ≠ 0 := fun h => hon (List.length_eq_zero_iff.mp h)
      have htemp : (vSystem_UnitTempHumiOut s).sAmbientOut_T =
          mean (total s ModularRoof.sAmbientOutSelf_T) (onLine s).length :=
        congrArg System.sAmbientOut_T (if_pos ⟨hterr, hnum⟩)
      have hhumi : (vSystem_UnitTempHumiOut s).usAmbientOut_H =
          if s.xHumiSenOutErr = true then
            total s ModularRoof.usAmbientOutSelf_H / BitVec.ofNat 16 (onLine s).length
          else s.usAmbientOut_H := congrArg System.usAmbientOut_H (if_pos ⟨hterr, hnum⟩)
      -- the mean of the temperatures is right where their sum does not wrap
      have hT : Follows s.xTempSenOutErr (signed (readings s ModularRoof.sAmbientOutSelf_T)) s.sAmbientOut_T.toInt
          (vSystem_UnitTempHumiOut s).sAmbientOut_T.toInt ↔
          SignedSumFits (readings s ModularRoof.sAmbientOutSelf_T) := by
        rw [hterr, follows_true ((signed_readings_ne_nil s _).mpr hon), htemp, mean_readings_iff s _ hon]
      have hH : Follows s.xHumiSenOutErr (unsigned (readings s ModularRoof.usAmbientOutSelf_H))
          s.usAmbientOut_H.toNat (vSystem_UnitTempHumiOut s).usAmbientOut_H.toNat ↔
          (s.xHumiSenOutErr = true → SumFits (readings s ModularRoof.usAmbientOutSelf_H)) := by
        rw [hhumi]
        cases hherr : s.xHumiSenOutErr with
        | false => simp [follows_false]
        | true =>
          rw [follows_true ((unsigned_readings_ne_nil s _).mpr hon), if_pos rfl, udiv_readings_iff s _ hon]
          simp
      constructor
      · rintro ⟨ht, hh⟩
        exact ⟨fun _ _ => ⟨hT.mp ht, hH.mp hh⟩, fun h => absurd (hterr.symm.trans h) (by decide)⟩
      · rintro ⟨h, -⟩
        obtain ⟨ht, hh⟩ := h hterr hon
        exact ⟨hT.mpr ht, hH.mpr hh⟩

theorem unitTempHumiIn_published (l : Locals) (h : s.xTempSenInErr = true) (sAmbientIn_T usAmbientIn_H : USHORT)
    (hT : sAmbientIn_T = if (onLine s).length ≠ 0 then
      mean (total s ModularRoof.sAmbientInSelf_T) (onLine s).length else l.sAmbientIn_T)
    (hH : usAmbientIn_H = if (onLine s).length ≠ 0 ∧ s.xHumiSenInErr = true then
      total s ModularRoof.usAmbientInSelf_H / BitVec.ofNat 16 (onLine s).length else l.usAmbientIn_H) :
    (vSystem_UnitTempHumiIn l s).published = { s.published with
      sAmbientIn_T := sAmbientIn_T
      usAmbientIn_H := usAmbientIn_H
      unitAmbientIn_T := fun _ => sAmbientIn_T
      unitAmbientIn_H := fun _ => usAmbientIn_H } := by
  have hunits := setUnitAmbientIn_published s sAmbientIn_T usAmbientIn_H
  unfold vSystem_UnitTempHumiIn
  rw [if_pos h]
  dsimp only
  rw [← hT, ← hH, ite_published, setAmbientIn_published, hunits]
  split
  · rfl
  · next hne =>
    rw [not_or, not_not, not_not] at hne
    have hsT := congrArg Published.sAmbientIn_T hunits
    have hsH := congrArg Published.usAmbientIn_H hunits
    refine (congrArg₂ (fun T H => { s.published with
      sAmbientIn_T := T, usAmbientIn_H := H
      unitAmbientIn_T := fun _ => sAmbientIn_T, unitAmbientIn_H := fun _ => usAmbientIn_H }) ?_ ?_)
    · exact hsT.symm.trans hne.1
    · exact hsH.symm.trans hne.2

/-- The sensors of the temperature work: only the humidity is in question. -/
theorem inFallback_of_working (hterr : s.xTempSenInErr = false) :
    (∀ l, InFallback s (vSystem_UnitTempHumiIn l s)) ↔ InExact s := by
  have hs (l : Locals) : vSystem_UnitTempHumiIn l s = s := by simp [vSystem_UnitTempHumiIn, hterr]
  simp only [hs]
  constructor
  · intro hall
    obtain ⟨-, -, hh, hu⟩ := hall ⟨0, 0, 0, 0, 0⟩
    simp only [follows_old, unsigned_readings_ne_nil] at hh hu
    exact ⟨fun h => absurd (hterr.symm.trans h) (by decide),
      fun _ hherr hon => ⟨hh hherr hon, fun n => hu n hherr hon⟩⟩
  · rintro ⟨-, hh⟩ -
    refine ⟨by rw [hterr, follows_false], fun n => by rw [hterr, follows_false], ?_, fun n => ?_⟩
    · rw [follows_old, unsigned_readings_ne_nil]
      exact fun hherr hon => (hh hterr hherr hon).1
    · rw [follows_old, unsigned_readings_ne_nil]
      exact fun hherr hon => (hh hterr hherr hon).2 n

section InFault

variable (hterr : s.xTempSenInErr = true)

include hterr

/-- Without a unit on line the local of the temperature is not set, and published whatever it holds. -/
theorem onLine_of_inFallback (hall : ∀ l, InFallback s (vSystem_UnitTempHumiIn l s)) : onLine s ≠ [] := by
  intro hon
  have hnum : ¬(onLine s).length ≠ 0 := by simp [hon]
  have hany (x : USHORT) : x.toInt = s.sAmbientIn_T.toInt := by
    have hp := unitTempHumiIn_published s ⟨0, 0, 0, x, 0⟩ hterr x 0 (if_neg hnum).symm
      (if_neg fun h => hnum h.1).symm
    have ht := (hall ⟨0, 0, 0, x, 0⟩).temp
    rw [readings_nil s _ hon] at ht
    exact (congrArg (fun p : Published => p.sAmbientIn_T.toInt) hp).symm.trans ((follows_nil _ _ _).mp ht)
  exact absurd ((hany 0).trans (hany 1).symm) (by decide)

/-- Where the sensors of the humidity work, its local is not set. -/
theorem humiErr_of_inFallback (hnum : (onLine s).length ≠ 0)
    (hall : ∀ l, InFallback s (vSystem_UnitTempHumiIn l s)) : s.xHumiSenInErr = true := by
  by_contra hherr
  rw [Bool.not_eq_true] at hherr
  have hany (x : USHORT) : (x.toNat : ℤ) = s.usAmbientIn_H.toNat := by
    have hp := unitTempHumiIn_published s ⟨0, 0, 0, 0, x⟩ hterr _ x (if_pos hnum).symm
      (if_neg (by simp [hherr])).symm
    have hh := (hall ⟨0, 0, 0, 0, x⟩).humi
    rw [hherr, follows_false] at hh
    exact (congrArg (fun p : Published => (p.usAmbientIn_H.toNat : ℤ)) hp).symm.trans hh
  exact not_any_word hany

theorem inExact_of_inFallback (hall : ∀ l, InFallback s (vSystem_UnitTempHumiIn l s)) : InExact s := by
  have hon := onLine_of_inFallback s hterr hall
  have hnum : (onLine s).length ≠ 0 := fun h => hon (List.length_eq_zero_iff.mp h)
  have hherr := humiErr_of_inFallback s hterr hnum hall
  have hT := signed_readings_ne_nil s ModularRoof.sAmbientInSelf_T
  have hH := unsigned_readings_ne_nil s ModularRoof.usAmbientInSelf_H
  have hp := unitTempHumiIn_published s ⟨0, 0, 0, 0, 0⟩ hterr _ _ (if_pos hnum).symm (if_pos ⟨hnum, hherr⟩).symm
  obtain ⟨ht, -, hh, -⟩ := hall ⟨0, 0, 0, 0, 0⟩
  rw [hterr, follows_true (hT.mpr hon)] at ht
  rw [hherr, follows_true (hH.mpr hon)] at hh
  have hmT := (congrArg (fun p : Published => p.sAmbientIn_T.toInt) hp).symm.trans ht
  have hmH := (congrArg (fun p : Published => (p.usAmbientIn_H.toNat : ℤ)) hp).symm.trans hh
  exact ⟨fun _ => ⟨hon, hherr, (mean_readings_iff s _ hon).mp hmT, (udiv_readings_iff s _ hon).mp hmH⟩,
    fun h => absurd (hterr.symm.trans h) (by decide)⟩

theorem inFallback_of_inExact (h : InExact s) (l : Locals) : InFallback s (vSystem_UnitTempHumiIn l s) := by
  obtain ⟨hon, hherr, hfT, hfH⟩ := h.1 hterr
  have hnum : (onLine s).length ≠ 0 := fun h => hon (List.length_eq_zero_iff.mp h)
  have hp := unitTempHumiIn_published s l hterr _ _ (if_pos hnum).symm (if_pos ⟨hnum, hherr⟩).symm
  have hmT := (mean_readings_iff s _ hon).mpr hfT
  have hmH := (udiv_readings_iff s _ hon).mpr hfH
  have hT := signed_readings_ne_nil s ModularRoof.sAmbientInSelf_T
  have hH := unsigned_readings_ne_nil s ModularRoof.usAmbientInSelf_H
  refine ⟨?_, fun n => ?_, ?_, fun n => ?_⟩
  · rw [hterr, follows_true (hT.mpr hon), ← hmT]
    exact congrArg (fun p : Published => p.sAmbientIn_T.toInt) hp
  · rw [hterr, follows_true (hT.mpr hon), ← hmT]
    exact congrArg (fun p : Published => (p.unitAmbientIn_T n).toInt) hp
  · rw [hherr, follows_true (hH.mpr hon), ← hmH]
    exact congrArg (fun p : Published => (p.usAmbientIn_H.toNat : ℤ)) hp
  · rw [hherr, follows_true (hH.mpr hon), ← hmH]
    exact congrArg (fun p : Published => ((p.unitAmbientIn_H n).toNat : ℤ)) hp

end InFault

theorem inFallback_iff : (∀ l, InFallback s (vSystem_UnitTempHumiIn l s)) ↔ InExact s := by
  cases hterr : s.xTempSenInErr with
  | false => exact inFallback_of_working s hterr
  | true => exact ⟨inExact_of_inFallback s hterr, fun h l => inFallback_of_inExact s hterr h l⟩

/-- **The readings of the units take the place of the sensors' exactly where this is so**, whatever the locals hold
that are not set. -/
theorem fallback_iff :
    ((∀ l, CO2Fallback s (vSystem_UnitCO2PPM l s)) ↔ s.xCO2SenErr = false) ∧
      (OutFallback s (vSystem_UnitTempHumiOut s) ↔ OutExact s) ∧
      ((∀ l, InFallback s (vSystem_UnitTempHumiIn l s)) ↔ InExact s) :=
  ⟨co2Fallback_iff s, outFallback_iff s, inFallback_iff s⟩

end Fallback

/-- Both units on line, with 400 ppm and 50 percent, and all sensors of the CO2 and of the humidity outside in fault. -/
def twoUnits : System :=
  { System.zero with
    xCO2SenErr := true
    xHumiSenOutErr := true
    usCO2PPM := 400
    psModularRoofList := fun _ => { ModularRoof.zero with usCO2PPMSelf := 400, usAmbientOutSelf_H := 500 } }

/-- With a 1 left in the count the CO2 is taken for 266 ppm; the humidity outside is not taken over. -/
theorem twoUnits_not_followed :
    ¬CO2Fallback twoUnits (vSystem_UnitCO2PPM ⟨1, 0, 0, 0, 0⟩ twoUnits) ∧
      ¬OutFallback twoUnits (vSystem_UnitTempHumiOut twoUnits) := by
  have hco2 : (vSystem_UnitCO2PPM ⟨1, 0, 0, 0, 0⟩ twoUnits).usCO2PPM = 266 := by
    rw [unitCO2PPM_value twoUnits _ rfl]
    decide
  constructor
  · rw [CO2Fallback, hco2]
    unfold Follows
    decide
  · rintro ⟨-, h⟩
    unfold Follows at h
    exact absurd h (by decide)

end GreeIntense.Control

import GreeIntense.Control.Fallback
import GreeIntense.Lib.Run

/-!
# The averages of the sensors

`vSystem_CO2PPM`, `vSystem_TempHumiOut` and `vSystem_TempHumiIn` publish the mean of the sensors that are in no fault
(`Averaged`).

They look at the fault flags of the sensors, and at the fault flag of the whole kind, which another handler sets, later
or earlier.  Where no sensor is left and the flag of the kind is not set yet they publish 0, and so they do with the
humidity in the units; and the sums have 16 bits (`averages_iff`).
-/

namespace GreeIntense.Control

open Lib.Mean Lib.Run

/-! ### The mean of the sensors without a fault -/

/-- A published value follows the averages `l` of the sensors: a new value is their mean, and so it lies between two of
them. -/
def Averaged (l : List ℤ) (old new : ℤ) : Prop :=
  new ≠ old → l ≠ [] ∧ new = exactMean l ∧ (∃ x ∈ l, x ≤ new) ∧ ∃ x ∈ l, new ≤ x

/-- The mean with a sum of 16 bits, 0 of nothing. -/
def wrappedMean (l : List USHORT) : ℤ := ((l.map BitVec.toNat).sum % 2 ^ 16 / l.length : ℕ)

/-- The same with signs. -/
def wrappedTemp (l : List USHORT) : ℤ := ((signed l).sum.bmod (2 ^ 16)).tdiv l.length

/-- A new value is right: there is a sensor, and the sum has 16 bits; or the value is no new one. -/
def MeanOk (l : List USHORT) (old : USHORT) : Prop := (l ≠ [] ∧ SumFits l) ∨ (old.toNat : ℤ) = wrappedMean l

def TempOk (l : List USHORT) (old : USHORT) : Prop := (l ≠ [] ∧ SignedSumFits l) ∨ old.toInt = wrappedTemp l

section Mean

variable {num : ℕ} (list : Fin num → Reading)

/-- The averages of the sensors without a fault. -/
def averages : List USHORT := (inOrder list).map fun n => (list n).avg

theorem totalAvg_eq : totalAvg list = wordSum (averages list) := by
  rw [wordSum, averages, List.foldl_map]
  rfl

theorem averages_length : (averages list).length = (inOrder list).length := List.length_map ..

theorem averages_length_le : (averages list).length ≤ num := by
  rw [averages_length]
  exact (List.length_filter_le ..).trans (List.length_finRange ..).le

/-- Where the mean is exact under a condition, a value follows the averages under it, or where it is no new one. -/
theorem averaged_iff {l : List ℤ} {old new : ℤ} {ok : Prop} (h : l ≠ [] → (new = exactMean l ↔ ok)) :
    Averaged l old new ↔ (l ≠ [] ∧ ok) ∨ old = new := by
  constructor
  · intro ha
    by_cases hne : new = old
    · exact Or.inr hne.symm
    · obtain ⟨hl, hm, -⟩ := ha hne
      exact Or.inl ⟨hl, (h hl).mp hm⟩
  · rintro (⟨hl, hok⟩ | rfl)
    · obtain rfl := (h hl).mpr hok
      exact fun _ => ⟨hl, rfl, exists_le_exactMean hl, exists_exactMean_le hl⟩
    · exact fun hne => absurd rfl hne

theorem averaged_ite_iff {l : List ℤ} {old new : ℤ} {ok : Prop} (c : Prop) [Decidable c]
    (h : Averaged l old new ↔ ok) : Averaged l old (if c then new else old) ↔ (c → ok) := by
  split
  · next hc => simp [hc, h]
  · next hc => exact iff_of_true (fun hne => absurd rfl hne) fun h => absurd h hc

theorem meanTemp_toInt : (meanTemp list).toInt = wrappedTemp (averages list) := by
  unfold meanTemp mean
  rw [← averages_length]
  split
  · rw [totalAvg_eq, wordSum_tdiv_toInt (by decide)]
    rfl
  · next h =>
    rw [not_not, List.length_eq_zero_iff] at h
    simp [h, wrappedTemp, signed]

variable (hnum : num < 2 ^ 15)

include hnum

theorem meanAvg_toNat : ((meanAvg list).toNat : ℤ) = wrappedMean (averages list) := by
  have hlen := averages_length_le list
  unfold meanAvg
  rw [← averages_length]
  split
  · rw [totalAvg_eq, wordSum_udiv_toNat (by omega)]
    rfl
  · next h =>
    rw [not_not, List.length_eq_zero_iff] at h
    simp [h, wrappedMean]

theorem meanAvg_averaged_iff (old : USHORT) :
    Averaged (unsigned (averages list)) old.toNat (meanAvg list).toNat ↔ MeanOk (averages list) old := by
  have hlen := averages_length_le list
  have hmean (h : averages list ≠ []) :
      ((meanAvg list).toNat : ℤ) = exactMean (unsigned (averages list)) ↔ SumFits (averages list) := by
    unfold meanAvg
    rw [← averages_length, if_pos (fun h0 => h (List.length_eq_zero_iff.mp h0)), totalAvg_eq]
    exact udiv_mean_iff h (by omega)
  have hsome : unsigned (averages list) ≠ [] ↔ averages list ≠ [] := by simp [unsigned]
  rw [MeanOk, ← meanAvg_toNat list hnum, averaged_iff fun h => hmean (hsome.mp h), hsome]

theorem meanTemp_averaged_iff (old : USHORT) :
    Averaged (signed (averages list)) old.toInt (meanTemp list).toInt ↔ TempOk (averages list) old := by
  have hlen := averages_length_le list
  have hmean (h : averages list ≠ []) :
      (meanTemp list).toInt = exactMean (signed (averages list)) ↔ SignedSumFits (averages list) := by
    unfold meanTemp mean
    rw [← averages_length, if_pos (fun h0 => h (List.length_eq_zero_iff.mp h0)), totalAvg_eq]
    exact tdiv_mean_iff (by decide) h (by omega)
  have hsome : signed (averages list) ≠ [] ↔ averages list ≠ [] := by simp [signed]
  rw [TempOk, ← meanTemp_toInt list, averaged_iff fun h => hmean (hsome.mp h), hsome]

theorem setMean_averaged_iff {old new : USHORT} (c : Prop) [Decidable c]
    (h : new = if c then meanAvg list else old) :
    Averaged (unsigned (averages list)) old.toNat new.toNat ↔ (c → MeanOk (averages list) old) := by
  rw [h, apply_ite BitVec.toNat, Nat.cast_ite]
  exact averaged_ite_iff c (meanAvg_averaged_iff list hnum old)

theorem setTemp_averaged_iff {old new : USHORT} (c : Prop) [Decidable c]
    (h : new = if c then meanTemp list else old) :
    Averaged (signed (averages list)) old.toInt new.toInt ↔ (c → TempOk (averages list) old) := by
  rw [h, apply_ite BitVec.toInt]
  exact averaged_ite_iff c (meanTemp_averaged_iff list hnum old)

end Mean

/-! ### What the calls publish -/

section Published

variable (p : Sensors) (s : System)

theorem vSystem_CO2PPM_published :
    (vSystem_CO2PPM p s).published = { s.published with
      usCO2PPM := if s.xCO2SenErr = false then meanAvg p.co2 else s.usCO2PPM } := by
  unfold vSystem_CO2PPM
  dsimp only
  rw [ite_published, setCO2PPM_published]
  split
  · next h => rw [if_pos h.2]
  · next h =>
    split
    · next herr =>
      have hsame : s.usCO2PPM = meanAvg p.co2 := not_not.mp fun hne => h ⟨hne, herr⟩
      rw [← hsame]
      rfl
    · rfl

theorem vSystem_TempHumiOut_published :
    (vSystem_TempHumiOut p s).published = { s.published with
      sAmbientOut_T := if s.xTempSenOutErr = false then meanTemp p.tempOut else s.sAmbientOut_T
      usAmbientOut_H :=
        if s.xTempSenOutErr = false ∧ s.xHumiSenOutErr = false then meanAvg p.humiOut else s.usAmbientOut_H } := by
  cases hterr : s.xTempSenOutErr with
  | true =>
    have hs : vSystem_TempHumiOut p s = s := if_pos hterr
    rw [hs]
    simp
    rfl
  | false =>
    by_cases hne : s.sAmbientOut_T ≠ meanTemp p.tempOut ∨ s.usAmbientOut_H ≠ meanAvg p.humiOut
    · simp [vSystem_TempHumiOut, hterr, hne]
      rfl
    · have hs : vSystem_TempHumiOut p s = s := by simp [vSystem_TempHumiOut, hterr, hne]
      rw [not_or, not_not, not_not] at hne
      rw [hs, ← hne.1, ← hne.2]
      simp
      rfl

theorem vSystem_TempHumiIn_published :
    (vSystem_TempHumiIn p s).published = { s.published with
      sAmbientIn_T := if s.xTempSenInErr = false then meanTemp p.tempIn else s.sAmbientIn_T
      usAmbientIn_H :=
        if s.xTempSenInErr = false ∧ s.xHumiSenInErr = false then meanAvg p.humiIn else s.usAmbientIn_H
      unitAmbientIn_T := fun n =>
        if s.xTempSenInErr = false then meanTemp p.tempIn else (s.unit n).sAmbientIn_T
      unitAmbientIn_H := fun n =>
        if s.xTempSenInErr = false then meanAvg p.humiIn else (s.unit n).usAmbientIn_H } := by
  cases hterr : s.xTempSenInErr with
  | true =>
    have hs : vSystem_TempHumiIn p s = s := if_pos hterr
    rw [hs]
    simp
    rfl
  | false =>
    have hunits := setUnitAmbientIn_published s (meanTemp p.tempIn) (meanAvg p.humiIn)
    have hsT : (setUnitAmbientIn (meanTemp p.tempIn) (meanAvg p.humiIn) s).sAmbientIn_T = s.sAmbientIn_T :=
      congrArg Published.sAmbientIn_T hunits
    have hsH : (setUnitAmbientIn (meanTemp p.tempIn) (meanAvg p.humiIn) s).usAmbientIn_H = s.usAmbientIn_H :=
      congrArg Published.usAmbientIn_H hunits
    have hherr : (setUnitAmbientIn (meanTemp p.tempIn) (meanAvg p.humiIn) s).xHumiSenInErr = s.xHumiSenInErr :=
      foldl_kept System.xHumiSenInErr (fun _ _ => rfl) units s
    unfold vSystem_TempHumiIn
    rw [if_neg (by simp [hterr])]
    dsimp only
    rw [hsT, hsH, hherr, ite_published, setAmbientIn_published, hunits]
    simp only [true_and, if_true]
    split
    · rfl
    · next hne =>
      rw [not_or, not_not, not_not] at hne
      rw [← hne.1, ← hne.2]
      simp
      exact ⟨rfl, rfl⟩

end Published

/-! ### The calls -/

/-- The system, and beside it the copies of the CO2 in the units. -/
structure Plant where
  sys : System
  unitCO2PPM : Fin MODULAR_ROOF_NUM → USHORT

inductive Call
  | vSystem_CO2PPM | vSystem_TempHumiOut | vSystem_TempHumiIn
  deriving DecidableEq, Repr

/-- A call; the units are given the CO2 where that of the system changes. -/
def Call.run (p : Sensors) (x : Plant) : Call → Plant
  | .vSystem_CO2PPM =>
    { sys := Control.vSystem_CO2PPM p x.sys
      unitCO2PPM :=
        if x.sys.usCO2PPM ≠ meanAvg p.co2 ∧ x.sys.xCO2SenErr = false then fun _ => meanAvg p.co2
        else x.unitCO2PPM }
  | .vSystem_TempHumiOut => { x with sys := Control.vSystem_TempHumiOut p x.sys }
  | .vSystem_TempHumiIn => { x with sys := Control.vSystem_TempHumiIn p x.sys }

structure AllAveraged (p : Sensors) (x x' : Plant) : Prop where
  co2 : Averaged (unsigned (averages p.co2)) x.sys.usCO2PPM.toNat x'.sys.usCO2PPM.toNat
  unitCO2 : ∀ n, Averaged (unsigned (averages p.co2)) (x.unitCO2PPM n).toNat (x'.unitCO2PPM n).toNat
  tempOut : Averaged (signed (averages p.tempOut)) x.sys.sAmbientOut_T.toInt x'.sys.sAmbientOut_T.toInt
  humiOut : Averaged (unsigned (averages p.humiOut)) x.sys.usAmbientOut_H.toNat x'.sys.usAmbientOut_H.toNat
  tempIn : Averaged (signed (averages p.tempIn)) x.sys.sAmbientIn_T.toInt x'.sys.sAmbientIn_T.toInt
  humiIn : Averaged (unsigned (averages p.humiIn)) x.sys.usAmbientIn_H.toNat x'.sys.usAmbientIn_H.toNat
  unitTempIn : ∀ n, Averaged (signed (averages p.tempIn))
    (x.sys.unit n).sAmbientIn_T.toInt (x'.sys.unit n).sAmbientIn_T.toInt
  unitHumiIn : ∀ n, Averaged (unsigned (averages p.humiIn))
    (x.sys.unit n).usAmbientIn_H.toNat (x'.sys.unit n).usAmbientIn_H.toNat

def CO2Ok (p : Sensors) (s : System) : Prop := s.xCO2SenErr = false → MeanOk (averages p.co2) s.usCO2PPM

def OutOk (p : Sensors) (s : System) : Prop :=
  s.xTempSenOutErr = false → TempOk (averages p.tempOut) s.sAmbientOut_T ∧
    (s.xHumiSenOutErr = false → MeanOk (averages p.humiOut) s.usAmbientOut_H)

/-- Where `vSystem_TempHumiIn` is right: the units are given the humidity whatever its flag says. -/
def InOk (p : Sensors) (s : System) : Prop :=
  s.xTempSenInErr = false → TempOk (averages p.tempIn) s.sAmbientIn_T ∧
    (∀ n, TempOk (averages p.tempIn) (s.unit n).sAmbientIn_T) ∧
    (s.xHumiSenInErr = false → MeanOk (averages p.humiIn) s.usAmbientIn_H) ∧
    ∀ n, MeanOk (averages p.humiIn) (s.unit n).usAmbientIn_H

def Call.Ok (p : Sensors) (x : Plant) : Call → Prop
  | .vSystem_CO2PPM => CO2Ok p x.sys
  | .vSystem_TempHumiOut => OutOk p x.sys
  | .vSystem_TempHumiIn => InOk p x.sys

section Calls

variable (p : Sensors) (x : Plant)

theorem Averaged.of_eq {l : List ℤ} {old new : ℤ} (h : new = old) : Averaged l old new := fun hne => absurd h hne

theorem co2_averaged_iff : AllAveraged p x (Call.vSystem_CO2PPM.run p x) ↔ CO2Ok p x.sys := by
  have hp := vSystem_CO2PPM_published p x.sys
  have hco2 := setMean_averaged_iff p.co2 (by decide) _ (congrArg Published.usCO2PPM hp)
  constructor
  · intro h
    exact hco2.mp h.co2
  · intro h
    refine ⟨hco2.mpr h, fun n => ?_, ?_, ?_, ?_, ?_, fun n => ?_, fun n => ?_⟩
    · have hcopy : (Call.vSystem_CO2PPM.run p x).unitCO2PPM n =
          if x.sys.usCO2PPM ≠ meanAvg p.co2 ∧ x.sys.xCO2SenErr = false then meanAvg p.co2 else x.unitCO2PPM n :=
        apply_ite (fun f : Fin MODULAR_ROOF_NUM → USHORT => f n) ..
      refine (setMean_averaged_iff p.co2 (by decide) _ hcopy).mpr ?_
      rintro ⟨hne, herr⟩
      -- the copies are set where the value of the system is a new one, so there it is the mean
      refine Or.inl ((h herr).resolve_right fun hold => hne ?_)
      rw [← meanAvg_toNat p.co2 (by decide), Nat.cast_inj] at hold
      exact BitVec.eq_of_toNat_eq hold
    · exact Averaged.of_eq (congrArg (fun p : Published => p.sAmbientOut_T.toInt) hp)
    · exact Averaged.of_eq (congrArg (fun p : Published => (p.usAmbientOut_H.toNat : ℤ)) hp)
    · exact Averaged.of_eq (congrArg (fun p : Published => p.sAmbientIn_T.toInt) hp)
    · exact Averaged.of_eq (congrArg (fun p : Published => (p.usAmbientIn_H.toNat : ℤ)) hp)
    · exact Averaged.of_eq (congrArg (fun p : Published => (p.unitAmbientIn_T n).toInt) hp)
    · exact Averaged.of_eq (congrArg (fun p : Published => ((p.unitAmbientIn_H n).toNat : ℤ)) hp)

theorem out_averaged_iff : AllAveraged p x (Call.vSystem_TempHumiOut.run p x) ↔ OutOk p x.sys := by
  have hp := vSystem_TempHumiOut_published p x.sys
  have hT := setTemp_averaged_iff p.tempOut (by decide) _ (congrArg Published.sAmbientOut_T hp)
  have hH := setMean_averaged_iff p.humiOut (by decide) _ (congrArg Published.usAmbientOut_H hp)
  constructor
  · intro h herr
    exact ⟨hT.mp h.tempOut herr, fun hherr => hH.mp h.humiOut ⟨herr, hherr⟩⟩
  · intro h
    refine ⟨?_, fun n => Averaged.of_eq rfl, hT.mpr fun herr => (h herr).1, hH.mpr fun herr => (h herr.1).2 herr.2,
      ?_, ?_, fun n => ?_, fun n => ?_⟩
    · exact Averaged.of_eq (congrArg (fun p : Published => (p.usCO2PPM.toNat : ℤ)) hp)
    · exact Averaged.of_eq (congrArg (fun p : Published => p.sAmbientIn_T.toInt) hp)
    · exact Averaged.of_eq (congrArg (fun p : Published => (p.usAmbientIn_H.toNat : ℤ)) hp)
    · exact Averaged.of_eq (congrArg (fun p : Published => (p.unitAmbientIn_T n).toInt) hp)
    · exact Averaged.of_eq (congrArg (fun p : Published => ((p.unitAmbientIn_H n).toNat : ℤ)) hp)

theorem in_averaged_iff : AllAveraged p x (Call.vSystem_TempHumiIn.run p x) ↔ InOk p x.sys := by
  have hp := vSystem_TempHumiIn_published p x.sys
  have hT := setTemp_averaged_iff p.tempIn (by decide) _ (congrArg Published.sAmbientIn_T hp)
  have hH := setMean_averaged_iff p.humiIn (by decide) _ (congrArg Published.usAmbientIn_H hp)
  have huT (n : Fin MODULAR_ROOF_NUM) := setTemp_averaged_iff p.tempIn (by decide) _
    (congrArg (fun p : Published => p.unitAmbientIn_T n) hp)
  have huH (n : Fin MODULAR_ROOF_NUM) := setMean_averaged_iff p.humiIn (by decide) _
    (congrArg (fun p : Published => p.unitAmbientIn_H n) hp)
  constructor
  · intro h herr
    exact ⟨hT.mp h.tempIn herr, fun n => (huT n).mp (h.unitTempIn n) herr,
      fun hherr => hH.mp h.humiIn ⟨herr, hherr⟩, fun n => (huH n).mp (h.unitHumiIn n) herr⟩
  · intro h
    refine ⟨?_, fun n => Averaged.of_eq rfl, ?_, ?_, hT.mpr fun herr => (h herr).1,
      hH.mpr fun herr => (h herr.1).2.2.1 herr.2, fun n => (huT n).mpr fun herr => (h herr).2.1 n,
      fun n => (huH n).mpr fun herr => (h herr).2.2.2 n⟩
    · exact Averaged.of_eq (congrArg (fun p : Published => (p.usCO2PPM.toNat : ℤ)) hp)
    · exact Averaged.of_eq (congrArg (fun p : Published => p.sAmbientOut_T.toInt) hp)
    · exact Averaged.of_eq (congrArg (fun p : Published => (p.usAmbientOut_H.toNat : ℤ)) hp)

theorem call_averaged_iff (c : Call) : AllAveraged p x (c.run p x) ↔ c.Ok p x := by
  cases c with
  | vSystem_CO2PPM => exact co2_averaged_iff p x
  | vSystem_TempHumiOut => exact out_averaged_iff p x
  | vSystem_TempHumiIn => exact in_averaged_iff p x

end Calls

/-! ### Runs -/

/-- What a message of a sensor does before it makes its call: a fault message sets the flags of its kind. -/
def setFlags (p : Sensors) (pvArg : SensorArg) (s : System) : System :=
  match pvArg with
  | .co2 _ .xCO2SenErr =>
    if s.xCO2SenErr ≠ allFaulty p.co2 then classAlarm (allFaulty p.co2) { s with xCO2SenErr := allFaulty p.co2 }
    else s
  | .tempHumiOut _ .xTempSenErr | .tempHumiOut _ .xHumiSenErr =>
    if s.xTempSenOutErr ≠ allFaulty p.tempOut ∨ s.xHumiSenOutErr ≠ allFaulty p.humiOut then
      classAlarm (allFaulty p.tempOut || allFaulty p.humiOut)
        { s with
          xTempSenOutErr := allFaulty p.tempOut
          xHumiSenOutErr := allFaulty p.humiOut
          xTempHumiSenOutErr := allFaulty p.tempOut || allFaulty p.humiOut }
    else s
  | .tempHumiIn _ .xTempSenErr | .tempHumiIn _ .xHumiSenErr =>
    if s.xTempSenInErr ≠ allFaulty p.tempIn ∨ s.xHumiSenInErr ≠ allFaulty p.humiIn then
      classAlarm (allFaulty p.tempIn && allFaulty p.humiIn)
        { s with
          xTempSenInErr := allFaulty p.tempIn
          xHumiSenInErr := allFaulty p.humiIn
          xTempHumiSenInErr := allFaulty p.tempIn && allFaulty p.humiIn }
    else s
  | _ => s

/-- The call a message makes. -/
def SensorArg.call : SensorArg → Call
  | .co2 _ _ => .vSystem_CO2PPM
  | .tempHumiOut _ _ => .vSystem_TempHumiOut
  | .tempHumiIn _ _ => .vSystem_TempHumiIn

/-- On the system, the flags and the call are what `handleSensor` does. -/
theorem handleSensor_eq (p : Sensors) (pvArg : SensorArg) (x : Plant) :
    (pvArg.call.run p { x with sys := setFlags p pvArg x.sys }).sys = handleSensor p pvArg x.sys := by
  cases pvArg with
  | co2 n v => cases v <;> rfl
  | tempHumiOut n v => cases v <;> rfl
  | tempHumiIn n v => cases v <;> rfl

/-- What happens: a message of a sensor, a poll, or anything else.  The sensors read what they do. -/
inductive SensorEvent
  | message (p : Sensors) (pvArg : SensorArg)
  | poll (p : Sensors)
  | other (x : Plant)

/-- A call, as it is made. -/
structure Made where
  call : Call
  sensors : Sensors
  plant : Plant

/-- The state a call leaves. -/
def Made.after (m : Made) : Plant := m.call.run m.sensors m.plant

def SensorEvent.calls (x : Plant) : SensorEvent → List Made
  | .message p pvArg => [⟨pvArg.call, p, { x with sys := setFlags p pvArg x.sys }⟩]
  | .poll p =>
    let co2 : Made := ⟨.vSystem_CO2PPM, p, x⟩
    let out : Made := ⟨.vSystem_TempHumiOut, p, co2.after⟩
    [co2, out, ⟨.vSystem_TempHumiIn, p, out.after⟩]
  | .other _ => []

/-- One event: the state its last call leaves. -/
def SensorEvent.step (x : Plant) (e : SensorEvent) : Option Plant :=
  match e with
  | .other x => some x
  | e => ((e.calls x).getLast?).map Made.after

/-- The calls of an event publish nothing but means. -/
def SensorEvent.Averaged (x : Plant) (e : SensorEvent) : Prop :=
  ∀ m ∈ e.calls x, AllAveraged m.sensors m.plant m.after

/-- The calls of an event are made where they are right. -/
def SensorEvent.Ok (x : Plant) (e : SensorEvent) : Prop := ∀ m ∈ e.calls x, m.call.Ok m.sensors m.plant

/-- **Only means are published exactly where every call is made where it is right**, in every run. -/
theorem averages_iff (x : Plant) (es : List SensorEvent) :
    Meets SensorEvent.step SensorEvent.Averaged x es ↔ Meets SensorEvent.step SensorEvent.Ok x es := by
  refine meets_congr (I := fun _ => True) (fun _ _ _ _ _ _ => trivial) ?_ trivial
  intro x e _
  exact forall₂_congr fun m _ => call_averaged_iff m.sensors m.plant m.call

/-- All sensors from reset, but for the CO2 sensors: they have gone off line and ticked, and 400 ppm was their
average. -/
def lostSensors : Sensors where
  psCO2SenList _ :=
    vCO2Sensor_TimeoutInd 400 ⟨false, { Reading.reset MAX_CO2_PPM MIN_CO2_PPM with value := 400, avg := 400 }⟩
  psTempHumiSenOutList _ := ⟨true, Reading.reset MAX_OUT_TEMP MIN_OUT_TEMP, Reading.reset MAX_HUMI MIN_HUMI⟩
  psTempHumiSenInList _ := ⟨true, Reading.reset MAX_IN_TEMP MIN_IN_TEMP, Reading.reset MAX_HUMI MIN_HUMI⟩

/-- The 400 ppm are published. -/
def publishing : Plant := ⟨{ System.zero with usCO2PPM := 400 }, fun _ => 400⟩

/-- The message of the average is handled before the one of the fault: 0 ppm is published, of no sensor. -/
theorem lostSensors_published :
    ¬Meets SensorEvent.step SensorEvent.Averaged publishing [.message lostSensors (.co2 0 .usAvgCO2PPM)] := by
  rintro ⟨h, -⟩
  have hnil : averages lostSensors.co2 = [] := by decide
  have hok : MeanOk (averages lostSensors.co2) 400 :=
    (co2_averaged_iff lostSensors publishing).mp (h _ (List.mem_singleton_self _)) rfl
  rw [hnil] at hok
  rcases hok with ⟨hne, -⟩ | hold
  · exact hne rfl
  · exact absurd hold (by decide)

end GreeIntense.Control

import Mathlib.Algebra.Order.BigOperators.Group.Finset
import GreeIntense.Control.Sensor
import GreeIntense.Lib.Mean

/-!
# The windows of samples (`sensor.c`)

A reading keeps five samples and their sum: a new sample is stored over the oldest one, which is subtracted from the
sum first.  The sum is kept in 32 bits, where five samples have room with a sign and without (`sum_number`), so
nothing wraps (`Window.replaced`), and the average that is taken of it is the mean of the samples.

* `Sums.tick`: a tick keeps the sum of the samples;
* `windows_right`: so do all histories of ticks and of going on and off line, and every tick that takes an average
  takes that of the samples that stand.
-/

namespace GreeIntense.Control

open Lib.Run Lib.Mean

/-- A 32-bit sum as a number. -/
def Kind.number (k : Kind) (total : ULONG) : ℤ := if k.signed then total.toInt else total.toNat

/-- The samples as numbers. -/
def Reading.window (k : Kind) (r : Reading) : List ℤ := List.ofFn fun j => k.num (r.sample j)

/-- The number of the next sample is in its range, and the sum is that of the samples up to a multiple of `2 ^ 32`. -/
structure Sums (k : Kind) (r : Reading) : Prop where
  index_le : r.index.toNat ≤ SENSOR_SAMPLE_NUM
  total : r.total = BitVec.ofInt 32 (∑ j, k.num (r.sample j))

/-- **The window of a reading**: the sum of the samples is exact, and stays so where one of them is taken out. -/
structure Window (k : Kind) (r : Reading) : Prop where
  index_le : r.index.toNat ≤ SENSOR_SAMPLE_NUM
  total : k.number r.total = (r.window k).sum
  replaced : ∀ j, k.number (r.total - k.wide (r.sample j)) = (r.window k).sum - k.num (r.sample j)

/-- What a tick makes of the average of `r`, which is `r'` after it: with five samples taken it is their mean, and
so neither below all of them nor above all of them; otherwise it is what the fault has left of it. -/
def AverageRight (k : Kind) (xOnLine : Bool) (r r' : Reading) : Prop :=
  if r.index.toNat = SENSOR_SAMPLE_NUM then
    r'.sample = r.sample ∧ k.num r'.avg = exactMean (r.window k) ∧
      (∃ x ∈ r.window k, x ≤ k.num r'.avg) ∧ ∃ x ∈ r.window k, k.num r'.avg ≤ x
  else r'.avg = if r.faulty k xOnLine then 0 else r.avg

section Window

variable {k : Kind} {r : Reading} {xOnLine : Bool}

theorem window_sum : (r.window k).sum = ∑ j, k.num (r.sample j) := List.sum_ofFn

theorem window_mean : exactMean (r.window k) = (∑ j, k.num (r.sample j)).tdiv SENSOR_SAMPLE_NUM := by
  rw [exactMean, window_sum, Reading.window, List.length_ofFn]

theorem window_ne_nil : r.window k ≠ [] := by
  rw [← List.length_pos_iff, Reading.window, List.length_ofFn]
  decide

/-- The sum of five samples has room in 32 bits, and so has that of four. -/
theorem sum_number (k : Kind) (x : Fin SENSOR_SAMPLE_NUM → USHORT) (i : Fin SENSOR_SAMPLE_NUM) :
    k.number (BitVec.ofInt 32 (∑ j, k.num (x j))) = ∑ j, k.num (x j) ∧
      k.number (BitVec.ofInt 32 (∑ j, k.num (x j) - k.num (x i))) = ∑ j, k.num (x j) - k.num (x i) := by
  have hrest : ∑ j, k.num (x j) = k.num (x i) + ∑ j ∈ Finset.univ.erase i, k.num (x j) :=
    (Finset.add_sum_erase _ _ (Finset.mem_univ i)).symm
  have hcard : (Finset.univ.erase i).card = 4 := by
    rw [Finset.card_erase_of_mem (Finset.mem_univ i)]
    rfl
  have hlow := Finset.card_nsmul_le_sum (Finset.univ.erase i) (fun j => k.num (x j)) _ fun j _ => (k.num_mem (x j)).1
  have hhigh := Finset.sum_le_card_nsmul (Finset.univ.erase i) (fun j => k.num (x j)) _ fun j _ => (k.num_mem (x j)).2
  rw [hcard, nsmul_eq_mul] at hlow hhigh
  have hi := k.num_mem (x i)
  unfold Kind.number
  cases hs : k.signed with
  | true =>
    simp only [hs, if_true, BitVec.toInt_ofInt] at hlow hhigh hi ⊢
    push_cast at hlow hhigh
    constructor <;> exact Int.bmod_eq_of_le (by omega) (by omega)
  | false =>
    simp only [hs, Bool.false_eq_true, if_false, BitVec.toNat_ofInt] at hlow hhigh hi ⊢
    push_cast at hlow hhigh
    constructor <;> omega

theorem Sums.window (h : Sums k r) : Window k r := by
  refine ⟨h.index_le, ?_, fun j => ?_⟩
  · rw [window_sum, h.total]
    exact (sum_number k r.sample 0).1
  · rw [window_sum, h.total, Kind.wide, ← ofInt_sub]
    exact (sum_number k r.sample j).2

/-! ### A tick -/

theorem Sums.judge (h : Sums k r) (value : USHORT) :
    Sums k (({ r with value := value } : Reading).judge k xOnLine) := by
  unfold Reading.judge
  split <;> exact ⟨h.index_le, h.total⟩

theorem Sums.take (h : Sums k r) : Sums k (r.take k) := by
  unfold Reading.take
  split
  · next hi =>
    split
    · refine ⟨?_, total_update k r.sample _ r.value h.total⟩
      rw [index_add_one hi]
      exact hi
    · exact h
  · split
    · exact ⟨Nat.zero_le _, h.total⟩
    · exact h

/-- **A tick keeps the sum.** -/
theorem Sums.tick (h : Sums k r) (value : USHORT) : Sums k (r.tick k xOnLine value) := (h.judge value).take

theorem judge_kept (k : Kind) (xOnLine : Bool) (r : Reading) : (r.judge k xOnLine).index = r.index ∧
    (r.judge k xOnLine).sample = r.sample ∧
      (r.judge k xOnLine).avg = if r.faulty k xOnLine then 0 else r.avg := by
  unfold Reading.judge
  split <;> exact ⟨rfl, rfl, rfl⟩

/-- Before the fifth sample a tick takes no average. -/
theorem take_avg (h : r.index.toNat < SENSOR_SAMPLE_NUM) : (r.take k).avg = r.avg := by
  unfold Reading.take
  rw [dif_pos h]
  split <;> rfl

theorem Sums.average (h : Sums k r) (hi : r.index.toNat = SENSOR_SAMPLE_NUM) :
    (r.take k).sample = r.sample ∧ k.num (r.take k).avg = exactMean (r.window k) := by
  have hlast : ¬r.index.toNat < SENSOR_SAMPLE_NUM := by omega
  rw [Reading.take, dif_neg hlast, if_pos ((Watch.index_eq_iff h.index_le).mpr hlast)]
  exact ⟨rfl, (k.mean_sum r.sample h.total).trans window_mean.symm⟩

theorem Sums.averageRight (h : Sums k r) (value : USHORT) : AverageRight k xOnLine r (r.tick k xOnLine value) := by
  have hj : Sums k (({ r with value := value } : Reading).judge k xOnLine) := h.judge value
  obtain ⟨hindex, hsample, havg⟩ := judge_kept k xOnLine { r with value := value }
  have hwindow : (({ r with value := value } : Reading).judge k xOnLine).window k = r.window k := by
    rw [Reading.window, hsample]
    rfl
  unfold AverageRight
  split
  · next hi =>
    obtain ⟨hs, hm⟩ := hj.average (by rw [hindex]; exact hi)
    rw [hwindow] at hm
    refine ⟨hs.trans hsample, hm, ?_, ?_⟩ <;> rw [Reading.tick, hm]
    · exact exists_le_exactMean window_ne_nil
    · exact exists_exactMean_le window_ne_nil
  · next hi =>
    have hlt : r.index.toNat < SENSOR_SAMPLE_NUM := lt_of_le_of_ne h.index_le hi
    rw [Reading.tick, take_avg (by rw [hindex]; exact hlt), havg]
    rfl

theorem sums_reset (k : Kind) (max min : USHORT) : Sums k (Reading.reset max min) := by
  exact ⟨Nat.zero_le _, total_zero k⟩

end Window

/-! ### Histories -/

def co2After (p : CO2Sensor) : CO2Event → Option CO2Sensor
  | .onLine xOnLine => some { p with xOnLine := xOnLine }
  | .tick usCO2PPM => some (vCO2Sensor_TimeoutInd usCO2PPM p)

def tempHumiAfter (p : TempHumiSensor) : TempHumiEvent → Option TempHumiSensor
  | .onLine xOnLine => some { p with xOnLine := xOnLine }
  | .tick sTemp usHumi => some (vTempHumiSensor_TimeoutInd sTemp usHumi p)

/-- A tick makes the average right. -/
def CO2AverageRight (p : CO2Sensor) : CO2Event → Prop
  | .onLine _ => True
  | .tick usCO2PPM => AverageRight co2Kind p.xOnLine p.co2 (vCO2Sensor_TimeoutInd usCO2PPM p).co2

/-- A tick makes both averages right. -/
def TempHumiAverageRight (p : TempHumiSensor) : TempHumiEvent → Prop
  | .onLine _ => True
  | .tick sTemp usHumi =>
    AverageRight tempKind p.xOnLine p.temp (vTempHumiSensor_TimeoutInd sTemp usHumi p).temp ∧
      AverageRight humiKind p.xOnLine p.humi (vTempHumiSensor_TimeoutInd sTemp usHumi p).humi

theorem co2_window (max min : USHORT) (es : List CO2Event) :
    Stays co2After (fun p => Window co2Kind p.co2) ⟨false, Reading.reset max min⟩ es ∧
      Meets co2After CO2AverageRight ⟨false, Reading.reset max min⟩ es := by
  have hstep (p : CO2Sensor) (e : CO2Event) (h : Sums co2Kind p.co2) :
      CO2AverageRight p e ∧ ∃ p', co2After p e = some p' ∧ Sums co2Kind p'.co2 := by
    cases e with
    | onLine xOnLine => exact ⟨trivial, _, rfl, h⟩
    | tick usCO2PPM => exact ⟨h.averageRight usCO2PPM, _, rfl, h.tick usCO2PPM⟩
  exact stays_meets (I := fun p => Sums co2Kind p.co2) hstep (fun _ h => h.window) (sums_reset co2Kind max min)

theorem tempHumi_window (max min maxHumi minHumi : USHORT) (es : List TempHumiEvent) :
    Stays tempHumiAfter (fun p => Window tempKind p.temp ∧ Window humiKind p.humi)
        ⟨false, Reading.reset max min, Reading.reset maxHumi minHumi⟩ es ∧
      Meets tempHumiAfter TempHumiAverageRight ⟨false, Reading.reset max min, Reading.reset maxHumi minHumi⟩ es := by
  have hstep (p : TempHumiSensor) (e : TempHumiEvent) (h : Sums tempKind p.temp ∧ Sums humiKind p.humi) :
      TempHumiAverageRight p e ∧
        ∃ p', tempHumiAfter p e = some p' ∧ Sums tempKind p'.temp ∧ Sums humiKind p'.humi := by
    cases e with
    | onLine xOnLine => exact ⟨trivial, _, rfl, h⟩
    | tick sTemp usHumi =>
      exact ⟨⟨h.1.averageRight sTemp, h.2.averageRight usHumi⟩, _, rfl, h.1.tick sTemp, h.2.tick usHumi⟩
  exact stays_meets (I := fun p => Sums tempKind p.temp ∧ Sums humiKind p.humi) hstep
    (fun _ h => ⟨h.1.window, h.2.window⟩) ⟨sums_reset tempKind max min, sums_reset humiKind maxHumi minHumi⟩

/-- **The windows of both sensors** in every history from zero on, whatever their limits: the sums are those of the
samples and do not wrap, and every average that is taken is the mean of the samples, and so among them. -/
theorem windows_right (max min : USHORT) (es : List CO2Event) (maxTemp minTemp maxHumi minHumi : USHORT)
    (es' : List TempHumiEvent) :
    (Stays co2After (fun p => Window co2Kind p.co2) ⟨false, Reading.reset max min⟩ es ∧
        Meets co2After CO2AverageRight ⟨false, Reading.reset max min⟩ es) ∧
      Stays tempHumiAfter (fun p => Window tempKind p.temp ∧ Window humiKind p.humi)
          ⟨false, Reading.reset maxTemp minTemp, Reading.reset maxHumi minHumi⟩ es' ∧
        Meets tempHumiAfter TempHumiAverageRight
          ⟨false, Reading.reset maxTemp minTemp, Reading.reset maxHumi minHumi⟩ es' :=
  ⟨co2_window max min es, tempHumi_window maxTemp minTemp maxHumi minHumi es'⟩

end GreeIntense.Control

import Mathlib.Algebra.BigOperators.Fin
import Mathlib.Algebra.BigOperators.Group.Finset.Basic
import Mathlib.Algebra.Order.BigOperators.Group.Finset
import Mathlib.Data.BitVec
import GreeIntense.Control.System
import GreeIntense.Lib.Run

/-!
# The sensors (`sensor.c`)

A sensor for CO2 publishes one average, a sensor for temperature and humidity two.  All three are made the same
way (`Reading`): at every tick of the timer the fault flag is decided, by the average that stands and by whether
the sensor is on line, and then a sample is taken, or, where five have been taken, their average.

The sensor goes on and off line between the ticks.  `Watch` adds to a reading what the average that stands was
made of.  A sensor that comes on line has an average of 0 and is in no fault, with no sample taken; and the round
of samples begun before goes on.  `sensors_healthy_iff` says at which ticks the average of a sensor without a fault
is one of samples taken since the sensor came on line, by the state before the tick (`TickOk`), and, where a sensor has
found only values that it samples since then, by their number (`ticksNeeded`).
-/

namespace GreeIntense.Control

open Lib.Run

abbrev SENSOR_SAMPLE_NUM : ℕ := 5

abbrev MAX_IN_TEMP : USHORT := 600
abbrev MIN_IN_TEMP : USHORT := 0
abbrev MAX_OUT_TEMP : USHORT := 600
abbrev MIN_OUT_TEMP : USHORT := BitVec.ofInt 16 (-200)
abbrev MAX_HUMI : USHORT := 100
abbrev MIN_HUMI : USHORT := 0
abbrev MAX_CO2_PPM : USHORT := 5000
abbrev MIN_CO2_PPM : USHORT := 0

/-! ### One reading -/

/-- A reading of a sensor: its limits, its last value, the average that is published, the fault flag, and the
samples with their sum and the number of the next one. -/
structure Reading where
  max : USHORT
  min : USHORT
  value : USHORT
  avg : USHORT
  total : ULONG
  err : Bool
  index : UCHAR
  sample : Fin SENSOR_SAMPLE_NUM → USHORT

/-- Of which kind a reading is: its values have a sign, and only values between the limits are sampled. -/
structure Kind where
  signed : Bool
  checked : Bool

namespace Kind

variable (k : Kind)

/-- A value as a number. -/
def num (x : USHORT) : ℤ := if k.signed then x.toInt else x.toNat

/-- A value in the 32 bits of the sum. -/
def wide (x : USHORT) : ULONG := BitVec.ofInt 32 (k.num x)

/-- A fifth of the sum, in 16 bits. -/
def mean (total : ULONG) : USHORT :=
  if k.signed then BitVec.ofInt 16 (total.toInt.tdiv SENSOR_SAMPLE_NUM)
  else (total / BitVec.ofNat 32 SENSOR_SAMPLE_NUM).setWidth 16

end Kind

namespace Reading

variable (k : Kind) (xOnLine : Bool) (r : Reading)

/-- The average is outside the limits, or the sensor is off line. -/
def faulty : Bool := k.num r.avg < k.num r.min ∨ k.num r.avg > k.num r.max ∨ xOnLine = false

/-- The fault flag is decided; a fault resets the value and the average. -/
def judge : Reading :=
  if r.faulty k xOnLine then { r with err := true, value := 0, avg := 0 } else { r with err := false }

/-- A value that is sampled. -/
def sampled : Bool := k.checked = false ∨ k.num r.min < k.num r.value ∧ k.num r.value < k.num r.max

/-- A sample is taken, or the average. -/
def take : Reading :=
  if h : r.index.toNat < SENSOR_SAMPLE_NUM then
    if r.sampled k then
      { r with
        total := r.total - k.wide (r.sample ⟨r.index.toNat, h⟩) + k.wide r.value
        sample := Function.update r.sample ⟨r.index.toNat, h⟩ r.value
        index := r.index + 1 }
    else r
  else if r.index = BitVec.ofNat 8 SENSOR_SAMPLE_NUM then { r with avg := k.mean r.total, index := 0 }
  else r

/-- One tick, with the value that the sensor has then. -/
def tick (value : USHORT) : Reading := ((({ r with value := value } : Reading).judge k xOnLine)).take k

def reset (max min : USHORT) : Reading := ⟨max, min, 0, 0, 0, false, 0, fun _ => 0⟩

end Reading

/-! ### The sensors -/

/-- `CO2Sensor`: `usCO2PPM`, `usAvgCO2PPM`, `ulTotalCO2PPM`, `xCO2SenErr`, `ucSampleIndex`, `usSampleCO2PPM`. -/
structure CO2Sensor where
  xOnLine : Bool
  co2 : Reading

/-- `TempHumiSensor`: `sTemp`, `sAvgTemp`, `lTotalTemp`, `xTempSenErr`, `ucSampleIndex`, `sSampleTemp`, and
`usHumi`, `usAvgHumi`, `ulTotalHumi`, `xHumiSenErr`, `ucSampleIndex_2`, `usSampleHumi`. -/
structure TempHumiSensor where
  xOnLine : Bool
  temp : Reading
  humi : Reading

def co2Kind : Kind := ⟨false, true⟩
def tempKind : Kind := ⟨true, true⟩
def humiKind : Kind := ⟨false, false⟩

def vCO2Sensor_TimeoutInd (usCO2PPM : USHORT) (p : CO2Sensor) : CO2Sensor :=
  { p with co2 := p.co2.tick co2Kind p.xOnLine usCO2PPM }

def vTempHumiSensor_TimeoutInd (sTemp usHumi : USHORT) (p : TempHumiSensor) : TempHumiSensor :=
  { p with temp := p.temp.tick tempKind p.xOnLine sTemp, humi := p.humi.tick humiKind p.xOnLine usHumi }

/-! ### Sum and average -/

section Mean

variable (k : Kind)

theorem Kind.num_mem (x : USHORT) :
    (if k.signed then -32768 else 0) ≤ k.num x ∧ k.num x ≤ if k.signed then 32767 else 65535 := by
  unfold num
  cases k.signed with
  | true =>
    have h1 := BitVec.le_toInt x
    have h2 := BitVec.toInt_lt (x := x)
    simp only [if_true]
    omega
  | false =>
    have h := x.isLt
    simp only [Bool.false_eq_true, if_false]
    omega

theorem ofInt_sub (a b : ℤ) : BitVec.ofInt 32 (a - b) = BitVec.ofInt 32 a - BitVec.ofInt 32 b :=
  eq_sub_of_add_eq (by rw [← BitVec.ofInt_add, sub_add_cancel])

/-- The average is the mean of the samples: the sum does not leave its 32 bits, nor the mean its 16. -/
theorem Kind.mean_sum (x : Fin SENSOR_SAMPLE_NUM → USHORT) {total : ULONG}
    (h : total = BitVec.ofInt 32 (∑ j, k.num (x j))) :
    k.num (k.mean total) = (∑ j, k.num (x j)).tdiv SENSOR_SAMPLE_NUM := by
  have h0 := k.num_mem (x 0)
  have h1 := k.num_mem (x 1)
  have h2 := k.num_mem (x 2)
  have h3 := k.num_mem (x 3)
  have h4 := k.num_mem (x 4)
  rw [Fin.sum_univ_five] at h ⊢
  -- five values of a kind stay within the 32 bits
  have hsum : 5 * (if k.signed then -32768 else 0) ≤
        k.num (x 0) + k.num (x 1) + k.num (x 2) + k.num (x 3) + k.num (x 4) ∧
      k.num (x 0) + k.num (x 1) + k.num (x 2) + k.num (x 3) + k.num (x 4) ≤
        5 * if k.signed then 32767 else 65535 := by omega
  clear h0 h1 h2 h3 h4
  generalize k.num (x 0) + k.num (x 1) + k.num (x 2) + k.num (x 3) + k.num (x 4) = sum at *
  subst h
  unfold num mean
  cases hs : k.signed with
  | true =>
    simp only [hs, if_true] at hsum ⊢
    have htotal : (BitVec.ofInt 32 sum).toInt = sum := by
      rw [BitVec.toInt_ofInt]
      exact Int.bmod_eq_of_le (by omega) (by omega)
    have hdiv : (sum.tdiv SENSOR_SAMPLE_NUM).natAbs = sum.natAbs / 5 := Int.natAbs_tdiv sum 5
    have hneg : sum ≤ 0 → sum.tdiv SENSOR_SAMPLE_NUM ≤ 0 := by
      intro h
      have hpos : 0 ≤ (-sum).tdiv SENSOR_SAMPLE_NUM := Int.tdiv_nonneg (by omega) (by decide)
      rw [Int.neg_tdiv] at hpos
      omega
    rw [htotal, BitVec.toInt_ofInt]
    exact Int.bmod_eq_of_le (by omega) (by omega)
  | false =>
    simp only [hs, Bool.false_eq_true, if_false] at hsum ⊢
    have htotal : (BitVec.ofInt 32 sum).toNat = sum.toNat := by
      rw [BitVec.toNat_ofInt]
      omega
    have hdiv : sum.tdiv SENSOR_SAMPLE_NUM = sum / 5 := Int.tdiv_eq_ediv_of_nonneg (by omega)
    have hlt : sum.toNat / 5 % 2 ^ 16 = sum.toNat / 5 := Nat.mod_eq_of_lt (by omega)
    rw [BitVec.toNat_setWidth, BitVec.toNat_udiv, htotal, hdiv]
    show ((sum.toNat / 5 % 2 ^ 16 : ℕ) : ℤ) = sum / 5
    rw [hlt]
    omega

theorem total_update (x : Fin SENSOR_SAMPLE_NUM → USHORT) (i : Fin SENSOR_SAMPLE_NUM) (v : USHORT) {total : ULONG}
    (h : total = BitVec.ofInt 32 (∑ j, k.num (x j))) :
    total - k.wide (x i) + k.wide v = BitVec.ofInt 32 (∑ j, k.num (Function.update x i v j)) := by
  have hsum : ∑ j, k.num (Function.update x i v j) = ∑ j, k.num (x j) - k.num (x i) + k.num v := by
    have hu (j : Fin SENSOR_SAMPLE_NUM) :
        k.num (Function.update x i v j) = Function.update (fun j => k.num (x j)) i (k.num v) j :=
      Function.apply_update (fun _ => k.num) x i v j
    simp only [hu]
    rw [Finset.sum_update_of_mem (Finset.mem_univ i), ← Finset.add_sum_erase _ _ (Finset.mem_univ i),
      Finset.sdiff_singleton_eq_erase]
    omega
  rw [hsum, h, Kind.wide, Kind.wide, BitVec.ofInt_add, ofInt_sub]

@[simp] theorem Kind.num_zero : k.num 0 = 0 := by
  unfold num
  cases k.signed <;> rfl

theorem total_zero : 0 = BitVec.ofInt 32 (∑ _j : Fin SENSOR_SAMPLE_NUM, k.num 0) := by
  rw [k.num_zero, Finset.sum_const_zero]
  rfl

theorem mean_between {a b : ℤ} {x : Fin SENSOR_SAMPLE_NUM → ℤ} (h : ∀ j, a ≤ x j ∧ x j ≤ b) :
    a ≤ (∑ j, x j).tdiv SENSOR_SAMPLE_NUM ∧ (∑ j, x j).tdiv SENSOR_SAMPLE_NUM ≤ b := by
  have hlo : ∑ _j : Fin SENSOR_SAMPLE_NUM, a ≤ ∑ j, x j := Finset.sum_le_sum fun j _ => (h j).1
  have hhi : ∑ j, x j ≤ ∑ _j : Fin SENSOR_SAMPLE_NUM, b := Finset.sum_le_sum fun j _ => (h j).2
  have hmul (c : ℤ) : (∑ _j : Fin SENSOR_SAMPLE_NUM, c).tdiv SENSOR_SAMPLE_NUM = c := by
    rw [Finset.sum_const, Finset.card_univ, Fintype.card_fin, nsmul_eq_mul]
    exact Int.mul_tdiv_cancel_left c (by decide)
  constructor
  · have := Int.tdiv_le_tdiv (c := SENSOR_SAMPLE_NUM) (by decide) hlo
    rwa [hmul] at this
  · have := Int.tdiv_le_tdiv (c := SENSOR_SAMPLE_NUM) (by decide) hhi
    rwa [hmul] at this

end Mean

theorem index_add_one {index : UCHAR} (h : index.toNat < SENSOR_SAMPLE_NUM) : (index + 1).toNat = index.toNat + 1 :=
  Lib.Memory.toNat_add_one (y := BitVec.ofNat 8 SENSOR_SAMPLE_NUM) h

/-! ### What the average was made of -/

/-- A record beside a reading: whether a round of samples had begun when the sensor came on line, how many averages
were taken since, whether the last one of them stands, which samples were taken since, and the samples of the
average that stands, where all of them were. -/
structure Watch where
  mid : Bool
  rounds : ℕ
  stands : Bool
  fresh : Fin SENSOR_SAMPLE_NUM → Bool
  source : Option (Fin SENSOR_SAMPLE_NUM → USHORT)

namespace Watch

variable (k : Kind) (xOnLine : Bool) (r : Reading) (t : Watch)

def comesOnLine : Watch := ⟨r.index ≠ 0, 0, false, fun _ => false, none⟩

/-- The record after the reset of a fault. -/
def judge : Watch := if r.faulty k xOnLine then { t with stands := false, source := none } else t

/-- The record after the sample or the average. -/
def take : Watch :=
  if h : r.index.toNat < SENSOR_SAMPLE_NUM then
    if r.sampled k then { t with fresh := Function.update t.fresh ⟨r.index.toNat, h⟩ true } else t
  else if r.index = BitVec.ofNat 8 SENSOR_SAMPLE_NUM then
    { t with
      rounds := t.rounds + 1, stands := true, source := if ∀ j, t.fresh j = true then some r.sample else none }
  else t

/-- The record after a tick. -/
def tick (value : USHORT) : Watch :=
  let r : Reading := { r with value := value }
  (t.judge k xOnLine r).take k (r.judge k xOnLine)

/-- How many averages must be taken until one has no sample from before. -/
def need : ℕ := if t.mid then 2 else 1

/-- **A healthy reading is fresh**: without a fault, the average is the mean of samples that were all taken since
the sensor came on line. -/
def Healthy : Prop :=
  r.err = false → ∃ x, t.source = some x ∧ k.num r.avg = (∑ j, k.num (x j)).tdiv SENSOR_SAMPLE_NUM

/-- A tick finds a fault, or an average that stands and was taken late enough, or takes it. -/
def TickOk : Prop :=
  r.faulty k xOnLine = true ∨
    if r.index = BitVec.ofNat 8 SENSOR_SAMPLE_NUM then t.need ≤ t.rounds + 1
    else t.stands = true ∧ t.need ≤ t.rounds

instance : Decidable (TickOk k xOnLine r t) := inferInstanceAs (Decidable (_ ∨ _))

/-- What holds of a reading and its record at all times. -/
structure Good : Prop where
  index_le : r.index.toNat ≤ SENSOR_SAMPLE_NUM
  total : r.total = BitVec.ofInt 32 (∑ j, k.num (r.sample j))
  fresh : t.mid = false ∨ t.rounds ≠ 0 → ∀ j : Fin SENSOR_SAMPLE_NUM, j.val < r.index.toNat → t.fresh j = true
  stale : t.mid = true → t.rounds = 0 → 0 < r.index.toNat ∧ t.fresh 0 = false
  mean : ∀ x, t.source = some x → k.num r.avg = (∑ j, k.num (x j)).tdiv SENSOR_SAMPLE_NUM
  isSome : t.source.isSome ↔ t.stands = true ∧ t.need ≤ t.rounds

variable {k xOnLine r t}

theorem Good.judge (h : Good k r t) (value : USHORT) :
    Good k (({ r with value := value } : Reading).judge k xOnLine)
      (t.judge k xOnLine { r with value := value }) := by
  unfold Reading.judge Watch.judge
  split
  · refine ⟨h.index_le, h.total, h.fresh, h.stale, ?_, ?_⟩
    · intro x hx
      cases hx
    · exact iff_of_false (fun hx => by cases hx) (fun hx => by cases hx.1)
  · exact ⟨h.index_le, h.total, h.fresh, h.stale, h.mean, h.isSome⟩

theorem Good.sample (h : Good k r t) (hi : r.index.toNat < SENSOR_SAMPLE_NUM) :
    Good k
      { r with
        total := r.total - k.wide (r.sample ⟨r.index.toNat, hi⟩) + k.wide r.value
        sample := Function.update r.sample ⟨r.index.toNat, hi⟩ r.value
        index := r.index + 1 }
      { t with fresh := Function.update t.fresh ⟨r.index.toNat, hi⟩ true } := by
  have hnext := index_add_one hi
  refine ⟨?_, total_update k r.sample _ r.value h.total, ?_, ?_, h.mean, h.isSome⟩
  · show (r.index + 1).toNat ≤ SENSOR_SAMPLE_NUM
    omega
  · -- the places of the round up to this one are fresh
    intro hf j hj
    by_cases hij : j = ⟨r.index.toNat, hi⟩
    · rw [hij]
      exact Function.update_self _ true t.fresh
    · have hne : j.val ≠ r.index.toNat := fun hv => hij (Fin.ext hv)
      refine (Function.update_of_ne hij true t.fresh).trans (h.fresh hf j ?_)
      have hlt : j.val < (r.index + 1).toNat := hj
      omega
  · -- the first sample is still the one from before
    intro hm hr
    obtain ⟨hpos, h0⟩ := h.stale hm hr
    refine ⟨?_, ?_⟩
    · show 0 < (r.index + 1).toNat
      omega
    · refine (Function.update_of_ne ?_ true t.fresh).trans h0
      intro h0i
      have hv : 0 = r.index.toNat := congrArg Fin.val h0i
      omega

theorem need_le (t : Watch) : t.need ≤ t.rounds + 1 ↔ t.mid = false ∨ t.rounds ≠ 0 := by
  unfold need
  cases t.mid with
  | false => exact iff_of_true (Nat.le_add_left 1 _) (Or.inl rfl)
  | true =>
    simp only [if_true]
    constructor
    · intro h
      right
      omega
    · rintro (h | h)
      · cases h
      · omega

/-- With all five samples of the round taken, all of them are fresh exactly from the second round on, or from the
first one where it began since the sensor came on line. -/
theorem Good.all_fresh (h : Good k r t) (hi : r.index.toNat = SENSOR_SAMPLE_NUM) :
    (∀ j, t.fresh j = true) ↔ t.need ≤ t.rounds + 1 := by
  rw [need_le]
  constructor
  · intro hf
    by_contra hc
    obtain ⟨hm, hr⟩ := not_or.mp hc
    have h0 := (h.stale (Bool.eq_true_of_not_eq_false hm) (not_not.mp hr)).2
    rw [hf 0] at h0
    cases h0
  · intro hf j
    exact h.fresh hf j (by rw [hi]; exact j.isLt)

theorem Good.average (h : Good k r t) (hi : r.index.toNat = SENSOR_SAMPLE_NUM) :
    Good k { r with avg := k.mean r.total, index := 0 }
      { t with
        rounds := t.rounds + 1, stands := true
        source := if ∀ j, t.fresh j = true then some r.sample else none } := by
  refine ⟨Nat.zero_le _, h.total, fun _ j hj => absurd hj (Nat.not_lt_zero _), ?_, ?_, ?_⟩
  · intro _ hr
    cases hr
  · intro x hx
    by_cases hf : ∀ j, t.fresh j = true
    · rw [if_pos hf] at hx
      cases hx
      exact k.mean_sum r.sample h.total
    · rw [if_neg hf] at hx
      cases hx
  · have hall := h.all_fresh hi
    by_cases hf : ∀ j, t.fresh j = true
    · rw [if_pos hf]
      exact iff_of_true rfl ⟨rfl, hall.mp hf⟩
    · rw [if_neg hf]
      exact iff_of_false (fun hx => by cases hx) (fun hx => hf (hall.mpr hx.2))

theorem index_eq_iff (hi : r.index.toNat ≤ SENSOR_SAMPLE_NUM) :
    r.index = BitVec.ofNat 8 SENSOR_SAMPLE_NUM ↔ ¬r.index.toNat < SENSOR_SAMPLE_NUM := by
  rw [BitVec.toNat_eq]
  show r.index.toNat = SENSOR_SAMPLE_NUM ↔ _
  omega

theorem Good.take (h : Good k r t) : Good k (r.take k) (t.take k r) := by
  unfold Reading.take Watch.take
  split
  · next hi =>
    split
    · exact h.sample hi
    · exact h
  · next hi =>
    rw [if_pos ((index_eq_iff h.index_le).mpr hi), if_pos ((index_eq_iff h.index_le).mpr hi)]
    exact h.average (Nat.le_antisymm h.index_le (Nat.le_of_not_lt hi))

theorem Good.tick (h : Good k r t) (value : USHORT) :
    Good k (r.tick k xOnLine value) (t.tick k xOnLine r value) :=
  (h.judge value).take

theorem Good.comesOnLine (h : Good k r t) : Good k r (comesOnLine r) := by
  refine ⟨h.index_le, h.total, ?_, ?_, ?_, ?_⟩
  · rintro (hm | hr) j hj
    · have hz : r.index = 0 := by simpa [Watch.comesOnLine] using hm
      rw [hz] at hj
      exact absurd hj (Nat.not_lt_zero _)
    · exact absurd rfl hr
  · intro hm _
    have hz : r.index ≠ 0 := by simpa [Watch.comesOnLine] using hm
    exact ⟨Nat.pos_of_ne_zero (fun h0 => hz (BitVec.eq_of_toNat_eq h0)), rfl⟩
  · intro x hx
    cases hx
  · exact iff_of_false (fun hx => by cases hx) (fun hx => by cases hx.1)

@[simp] theorem take_err (r : Reading) : (r.take k).err = r.err := by
  unfold Reading.take
  split
  · split <;> rfl
  · split <;> rfl

/-- Whether the average stands after a tick that finds no fault. -/
theorem stands_tick (hi : r.index.toNat ≤ SENSOR_SAMPLE_NUM) (value : USHORT) (hf : r.faulty k xOnLine = false) :
    ((t.tick k xOnLine r value).stands = true ∧ (t.tick k xOnLine r value).need ≤ (t.tick k xOnLine r value).rounds) ↔
      if r.index = BitVec.ofNat 8 SENSOR_SAMPLE_NUM then t.need ≤ t.rounds + 1
      else t.stands = true ∧ t.need ≤ t.rounds := by
  have hr : ({ r with value := value } : Reading).judge k xOnLine = { r with value := value, err := false } := by
    unfold Reading.judge
    exact if_neg (Bool.eq_false_iff.mp hf)
  have ht : t.judge k xOnLine { r with value := value } = t := by
    unfold Watch.judge
    exact if_neg (Bool.eq_false_iff.mp hf)
  unfold Watch.tick
  dsimp only
  rw [hr, ht]
  unfold Watch.take
  by_cases h5 : r.index.toNat < SENSOR_SAMPLE_NUM
  · rw [dif_pos h5, if_neg (fun he => (index_eq_iff hi).mp he h5)]
    split <;> rfl
  · have he := (index_eq_iff hi).mpr h5
    rw [dif_neg h5, if_pos he, if_pos he]
    exact and_iff_right rfl

theorem Good.healthy_iff (h : Good k r t) (value : USHORT) :
    Healthy k (r.tick k xOnLine value) (t.tick k xOnLine r value) ↔ TickOk k xOnLine r t := by
  have hg : Good k (r.tick k xOnLine value) (t.tick k xOnLine r value) := h.tick value
  have herr : (r.tick k xOnLine value).err = r.faulty k xOnLine := by
    unfold Reading.tick Reading.judge
    rw [take_err]
    have hv : ({ r with value := value } : Reading).faulty k xOnLine = r.faulty k xOnLine := rfl
    rw [hv]
    cases r.faulty k xOnLine <;> rfl
  unfold Healthy TickOk
  rw [herr]
  cases hf : r.faulty k xOnLine with
  | true => exact iff_of_true (fun he => by cases he) (Or.inl rfl)
  | false =>
    rw [← stands_tick h.index_le value hf, ← hg.isSome]
    constructor
    · intro hh
      obtain ⟨x, hx, -⟩ := hh rfl
      right
      rw [hx]
      rfl
    · rintro (hc | hs) -
      · cases hc
      · obtain ⟨x, hx⟩ := Option.isSome_iff_exists.mp hs
        exact ⟨x, hx, hg.mean x hx⟩

theorem good_reset (k : Kind) (max min : USHORT) :
    Good k (Reading.reset max min) ⟨false, 0, false, fun _ => false, none⟩ := by
  refine ⟨Nat.zero_le _, total_zero k, ?_, ?_, ?_, ?_⟩
  · intro _ j hj
    exact absurd hj (Nat.not_lt_zero _)
  · intro hm
    cases hm
  · intro x hx
    cases hx
  · exact iff_of_false (fun hx => by cases hx) (fun hx => by cases hx.1)

end Watch

/-! ### Ticks since the sensor came on line -/

section Counting

variable {k : Kind} {xOnLine : Bool} {r : Reading} {t : Watch} {j n : ℕ}

/-- The samples and the average are within the limits, and so is the value of a reset. -/
structure Bounded (k : Kind) (r : Reading) : Prop where
  zero : k.num r.min ≤ 0 ∧ 0 ≤ k.num r.max
  samples : ∀ i, k.num r.min ≤ k.num (r.sample i) ∧ k.num (r.sample i) ≤ k.num r.max
  avg : k.num r.min ≤ k.num r.avg ∧ k.num r.avg ≤ k.num r.max

theorem Bounded.not_faulty (h : Bounded k r) : r.faulty k true = false :=
  decide_eq_false fun hf => hf.elim h.avg.1.not_gt fun hf => hf.elim h.avg.2.not_gt fun hc => by cases hc

theorem Bounded.judge (h : Bounded k r) (value : USHORT) :
    Bounded k (({ r with value := value } : Reading).judge k xOnLine) := by
  unfold Reading.judge
  split
  · refine ⟨h.zero, h.samples, ?_⟩
    rw [k.num_zero]
    exact h.zero
  · exact ⟨h.zero, h.samples, h.avg⟩

theorem Bounded.take (hk : k.checked = true) (hg : Watch.Good k r t) (h : Bounded k r) : Bounded k (r.take k) := by
  unfold Reading.take
  split
  · next hi =>
    split
    · next hs =>
      have hv : k.num r.min < k.num r.value ∧ k.num r.value < k.num r.max :=
        (of_decide_eq_true hs).resolve_left (by rw [hk]; exact Bool.noConfusion)
      refine ⟨h.zero, fun i => ?_, h.avg⟩
      by_cases hij : i = ⟨r.index.toNat, hi⟩
      · simp only [hij, Function.update_self]
        exact ⟨hv.1.le, hv.2.le⟩
      · simp only [Function.update_of_ne hij]
        exact h.samples i
    · exact h
  · split
    · refine ⟨h.zero, h.samples, ?_⟩
      show k.num r.min ≤ k.num (k.mean r.total) ∧ k.num (k.mean r.total) ≤ k.num r.max
      rw [k.mean_sum r.sample hg.total]
      exact mean_between h.samples
    · exact h

theorem Bounded.tick (hk : k.checked = true) (hg : Watch.Good k r t) (h : Bounded k r) (value : USHORT) :
    Bounded k (r.tick k xOnLine value) :=
  (h.judge value).take hk (hg.judge value)

theorem bounded_reset {max min : USHORT} (h : k.num min ≤ 0 ∧ 0 ≤ k.num max) : Bounded k (Reading.reset max min) := by
  have hzero : k.num min ≤ k.num 0 ∧ k.num 0 ≤ k.num max := by rwa [k.num_zero]
  exact ⟨h, fun _ => hzero, hzero⟩

theorem tick_limits (r : Reading) (value : USHORT) :
    (r.tick k xOnLine value).min = r.min ∧ (r.tick k xOnLine value).max = r.max := by
  unfold Reading.tick Reading.judge Reading.take
  constructor
  · split_ifs <;> rfl
  · split_ifs <;> rfl

/-- A value that the sensor samples. -/
def Inside (k : Kind) (r : Reading) (value : USHORT) : Prop :=
  k.num r.min < k.num value ∧ k.num value < k.num r.max

instance (k : Kind) (r : Reading) (value : USHORT) : Decidable (Inside k r value) := inferInstanceAs (Decidable (_ ∧ _))

/-- The sensor came on line with `j` samples of a round taken, and its timer has ticked `n` times since, every time with
a value that is sampled. -/
structure Counting (k : Kind) (r : Reading) (t : Watch) (j n : ℕ) : Prop where
  good : Watch.Good k r t
  bounded : Bounded k r
  mid : t.mid = true ↔ j ≠ 0
  place : (SENSOR_SAMPLE_NUM + 1) * t.rounds + r.index.toNat = j + n
  stands : t.stands = true ↔ t.rounds ≠ 0

theorem Counting.comesOnLine (hg : Watch.Good k r t) (h : Bounded k r) :
    Counting k r (Watch.comesOnLine r) r.index.toNat 0 where
  good := hg.comesOnLine
  bounded := h
  mid := by
    show decide (r.index ≠ 0) = true ↔ _
    rw [decide_eq_true_eq, Ne, BitVec.toNat_eq]
    exact Iff.rfl
  place := by
    show (SENSOR_SAMPLE_NUM + 1) * 0 + r.index.toNat = r.index.toNat + 0
    omega
  stands := iff_of_false Bool.noConfusion fun h => h rfl

theorem Counting.tick (hk : k.checked = true) (h : Counting k r t j n) {value : USHORT} (hv : Inside k r value) :
    Counting k (r.tick k true value) (t.tick k true r value) j (n + 1) := by
  have hf : ({ r with value := value } : Reading).faulty k true = false := h.bounded.not_faulty
  have hr : r.tick k true value = ({ r with value := value, err := false } : Reading).take k := by
    unfold Reading.tick Reading.judge
    rw [if_neg (Bool.eq_false_iff.mp hf)]
  have ht : t.tick k true r value = t.take k { r with value := value, err := false } := by
    unfold Watch.tick Watch.judge Reading.judge
    dsimp only
    rw [if_neg (Bool.eq_false_iff.mp hf), if_neg (Bool.eq_false_iff.mp hf)]
  have hs : ({ r with value := value, err := false } : Reading).sampled k = true := decide_eq_true (Or.inr hv)
  have hgood : Watch.Good k (r.tick k true value) (t.tick k true r value) := h.good.tick value
  have hbounded : Bounded k (r.tick k true value) := h.bounded.tick hk h.good value
  have hplace := h.place
  rw [hr] at hbounded
  rw [hr, ht] at hgood ⊢
  unfold Reading.take Watch.take at *
  by_cases hi : r.index.toNat < SENSOR_SAMPLE_NUM
  · -- a sample
    have hnext := index_add_one hi
    simp only [hi, hs, dite_true, if_true] at hgood hbounded ⊢
    refine ⟨hgood, hbounded, h.mid, ?_, h.stands⟩
    show (SENSOR_SAMPLE_NUM + 1) * t.rounds + (r.index + 1).toNat = j + (n + 1)
    omega
  · -- the average
    have hlast := h.good.index_le
    have hsucc : (SENSOR_SAMPLE_NUM + 1) * (t.rounds + 1) =
        (SENSOR_SAMPLE_NUM + 1) * t.rounds + (SENSOR_SAMPLE_NUM + 1) := Nat.mul_succ _ _
    simp only [hi, dite_false, if_pos ((Watch.index_eq_iff hlast).mpr hi)] at hgood hbounded ⊢
    refine ⟨hgood, hbounded, h.mid, ?_, iff_of_true rfl (Nat.succ_ne_zero _)⟩
    show (SENSOR_SAMPLE_NUM + 1) * (t.rounds + 1) + 0 = j + (n + 1)
    omega

/-- How many such ticks go before the first one with a fresh average: the samples of a round, or the rest of the round
that had begun, its average and the samples of the next. -/
def ticksNeeded (j : ℕ) : ℕ := if j = 0 then SENSOR_SAMPLE_NUM else 2 * SENSOR_SAMPLE_NUM + 1 - j

theorem Counting.tickOk_iff (h : Counting k r t j n) : Watch.TickOk k true r t ↔ ticksNeeded j ≤ n := by
  have hplace := h.place
  have hle := h.good.index_le
  have hfaulty : r.faulty k true = false := h.bounded.not_faulty
  unfold Watch.TickOk ticksNeeded Watch.need
  simp only [hfaulty, Bool.false_eq_true, false_or, Watch.index_eq_iff hle, h.stands, h.mid, SENSOR_SAMPLE_NUM] at *
  by_cases hj : j = 0
  · simp only [hj, ne_eq, not_true, if_true, if_false]
    split <;> omega
  · simp only [hj, ne_eq, not_false_eq_true, if_true, if_false]
    split <;> omega

/-- The timer of an on-line sensor ticks with the values. -/
def ticks (k : Kind) (s : Reading × Watch) (values : List USHORT) : Reading × Watch :=
  values.foldl (fun s value => (s.1.tick k true value, s.2.tick k true s.1 value)) s

theorem tick_inside (r : Reading) (value v : USHORT) : Inside k (r.tick k xOnLine value) v ↔ Inside k r v := by
  obtain ⟨hmin, hmax⟩ : (r.tick k xOnLine value).min = r.min ∧ (r.tick k xOnLine value).max = r.max :=
    tick_limits r value
  rw [Inside, hmin, hmax, Inside]

theorem Counting.ticks (hk : k.checked = true) (h : Counting k r t j n) {values : List USHORT}
    (hv : ∀ v ∈ values, Inside k r v) :
    Counting k (ticks k (r, t) values).1 (ticks k (r, t) values).2 j (n + values.length) := by
  induction values generalizing r t n with
  | nil => exact h
  | cons v values ih =>
    obtain ⟨hv, hvs⟩ := List.forall_mem_cons.mp hv
    have hlen : n + (values.length + 1) = n + 1 + values.length := by omega
    rw [List.length_cons, hlen]
    exact ih (h.tick hk hv) fun v' hv' => (tick_inside r v v').mpr (hvs v' hv')

end Counting

/-! ### Histories -/

/-- A sensor that goes on line is watched from then on. -/
def Watch.onLine (was xOnLine : Bool) (r : Reading) (t : Watch) : Watch :=
  if xOnLine = true ∧ was = false then comesOnLine r else t

theorem Watch.Good.onLine {k : Kind} {r : Reading} {t : Watch} (h : Good k r t) (was xOnLine : Bool) :
    Good k r (t.onLine was xOnLine r) := by
  unfold Watch.onLine
  split
  · exact h.comesOnLine
  · exact h

/-- A CO2 sensor goes on or off line, or its timer ticks while it has a value. -/
inductive CO2Event
  | onLine (xOnLine : Bool)
  | tick (usCO2PPM : USHORT)

def co2Step (s : CO2Sensor × Watch) : CO2Event → Option (CO2Sensor × Watch)
  | .onLine xOnLine => some ({ s.1 with xOnLine := xOnLine }, s.2.onLine s.1.xOnLine xOnLine s.1.co2)
  | .tick usCO2PPM =>
    some (vCO2Sensor_TimeoutInd usCO2PPM s.1, s.2.tick co2Kind s.1.xOnLine s.1.co2 usCO2PPM)

/-- After a tick the sensor is healthy only with a fresh average. -/
def CO2Healthy (s : CO2Sensor × Watch) : CO2Event → Prop
  | .onLine _ => True
  | .tick usCO2PPM => Watch.Healthy co2Kind (vCO2Sensor_TimeoutInd usCO2PPM s.1).co2
      (s.2.tick co2Kind s.1.xOnLine s.1.co2 usCO2PPM)

def CO2TickOk (s : CO2Sensor × Watch) : CO2Event → Prop
  | .onLine _ => True
  | .tick _ => Watch.TickOk co2Kind s.1.xOnLine s.1.co2 s.2

/-- A CO2 sensor at reset. -/
def co2Reset : CO2Sensor × Watch :=
  (⟨false, Reading.reset MAX_CO2_PPM MIN_CO2_PPM⟩, ⟨false, 0, false, fun _ => false, none⟩)

/-- A sensor for temperature and humidity goes on or off line, or its timer ticks while it has two values. -/
inductive TempHumiEvent
  | onLine (xOnLine : Bool)
  | tick (sTemp usHumi : USHORT)

def tempHumiStep (s : TempHumiSensor × Watch × Watch) : TempHumiEvent → Option (TempHumiSensor × Watch × Watch)
  | .onLine xOnLine =>
    some ({ s.1 with xOnLine := xOnLine }, s.2.1.onLine s.1.xOnLine xOnLine s.1.temp,
      s.2.2.onLine s.1.xOnLine xOnLine s.1.humi)
  | .tick sTemp usHumi =>
    some (vTempHumiSensor_TimeoutInd sTemp usHumi s.1, s.2.1.tick tempKind s.1.xOnLine s.1.temp sTemp,
      s.2.2.tick humiKind s.1.xOnLine s.1.humi usHumi)

def TempHealthy (s : TempHumiSensor × Watch × Watch) : TempHumiEvent → Prop
  | .onLine _ => True
  | .tick sTemp usHumi => Watch.Healthy tempKind (vTempHumiSensor_TimeoutInd sTemp usHumi s.1).temp
      (s.2.1.tick tempKind s.1.xOnLine s.1.temp sTemp)

def HumiHealthy (s : TempHumiSensor × Watch × Watch) : TempHumiEvent → Prop
  | .onLine _ => True
  | .tick sTemp usHumi => Watch.Healthy humiKind (vTempHumiSensor_TimeoutInd sTemp usHumi s.1).humi
      (s.2.2.tick humiKind s.1.xOnLine s.1.humi usHumi)

def TempTickOk (s : TempHumiSensor × Watch × Watch) : TempHumiEvent → Prop
  | .onLine _ => True
  | .tick _ _ => Watch.TickOk tempKind s.1.xOnLine s.1.temp s.2.1

def HumiTickOk (s : TempHumiSensor × Watch × Watch) : TempHumiEvent → Prop
  | .onLine _ => True
  | .tick _ _ => Watch.TickOk humiKind s.1.xOnLine s.1.humi s.2.2

/-- `eSensorType`, where it is one of temperature and humidity. -/
inductive eTempHumiType
  | TYPE_TEMP_HUMI_IN | TYPE_TEMP_HUMI_OUT
  deriving DecidableEq, Repr

/-- A sensor for temperature and humidity at reset. -/
def tempHumiReset (eSensorType : eTempHumiType) : TempHumiSensor × Watch × Watch :=
  let temp :=
    match eSensorType with
    | .TYPE_TEMP_HUMI_IN => Reading.reset MAX_IN_TEMP MIN_IN_TEMP
    | .TYPE_TEMP_HUMI_OUT => Reading.reset MAX_OUT_TEMP MIN_OUT_TEMP
  (⟨false, temp, Reading.reset MAX_HUMI MIN_HUMI⟩, ⟨false, 0, false, fun _ => false, none⟩,
    ⟨false, 0, false, fun _ => false, none⟩)

/-! ### The sensors along a history -/

theorem co2_good {es : List CO2Event} {s : CO2Sensor × Watch} (h : run co2Step co2Reset es = some s) :
    Watch.Good co2Kind s.1.co2 s.2 ∧ Bounded co2Kind s.1.co2 := by
  refine run_induction (P := fun s : CO2Sensor × Watch => Watch.Good co2Kind s.1.co2 s.2 ∧ Bounded co2Kind s.1.co2)
    ⟨Watch.good_reset _ _ _, bounded_reset (by decide)⟩ ?_ h
  rintro s (xOnLine | usCO2PPM) s' ⟨hg, hb⟩ hs
  · cases hs
    exact ⟨hg.onLine _ _, hb⟩
  · cases hs
    exact ⟨hg.tick usCO2PPM, hb.tick rfl hg usCO2PPM⟩

theorem tempHumi_good {eSensorType : eTempHumiType} {es : List TempHumiEvent} {s : TempHumiSensor × Watch × Watch}
    (h : run tempHumiStep (tempHumiReset eSensorType) es = some s) :
    (Watch.Good tempKind s.1.temp s.2.1 ∧ Bounded tempKind s.1.temp) ∧ Watch.Good humiKind s.1.humi s.2.2 := by
  refine run_induction (P := fun s : TempHumiSensor × Watch × Watch =>
    (Watch.Good tempKind s.1.temp s.2.1 ∧ Bounded tempKind s.1.temp) ∧ Watch.Good humiKind s.1.humi s.2.2) ?_ ?_ h
  · cases eSensorType with
    | TYPE_TEMP_HUMI_IN =>
      exact ⟨⟨Watch.good_reset _ _ _, bounded_reset (by decide)⟩, Watch.good_reset _ _ _⟩
    | TYPE_TEMP_HUMI_OUT =>
      exact ⟨⟨Watch.good_reset _ _ _, bounded_reset (by decide)⟩, Watch.good_reset _ _ _⟩
  · rintro s (xOnLine | ⟨sTemp, usHumi⟩) s' ⟨⟨hg, hb⟩, hh⟩ hs
    · cases hs
      exact ⟨⟨hg.onLine _ _, hb⟩, hh.onLine _ _⟩
    · cases hs
      exact ⟨⟨hg.tick sTemp, hb.tick rfl hg sTemp⟩, hh.tick usHumi⟩

theorem co2_ticks (values : List USHORT) {s s' : CO2Sensor × Watch} (hon : s.1.xOnLine = true)
    (h : run co2Step s (values.map .tick) = some s') :
    s'.1.xOnLine = true ∧ (s'.1.co2, s'.2) = ticks co2Kind (s.1.co2, s.2) values := by
  induction values generalizing s with
  | nil =>
    cases h
    exact ⟨hon, rfl⟩
  | cons v values ih =>
    obtain ⟨hon', hticks⟩ := ih (s := (vCO2Sensor_TimeoutInd v s.1, s.2.tick co2Kind s.1.xOnLine s.1.co2 v)) hon h
    refine ⟨hon', hticks.trans ?_⟩
    rw [ticks, ticks, List.foldl_cons, vCO2Sensor_TimeoutInd, hon]

theorem temp_ticks (values : List (USHORT × USHORT)) {s s' : TempHumiSensor × Watch × Watch} (hon : s.1.xOnLine = true)
    (h : run tempHumiStep s (values.map fun v => .tick v.1 v.2) = some s') :
    s'.1.xOnLine = true ∧ (s'.1.temp, s'.2.1) = ticks tempKind (s.1.temp, s.2.1) (values.map Prod.fst) := by
  induction values generalizing s with
  | nil =>
    cases h
    exact ⟨hon, rfl⟩
  | cons v values ih =>
    obtain ⟨hon', hticks⟩ := ih (s := (vTempHumiSensor_TimeoutInd v.1 v.2 s.1,
      s.2.1.tick tempKind s.1.xOnLine s.1.temp v.1, s.2.2.tick humiKind s.1.xOnLine s.1.humi v.2)) hon h
    refine ⟨hon', hticks.trans ?_⟩
    rw [ticks, ticks, List.map_cons, List.foldl_cons, vTempHumiSensor_TimeoutInd, hon]

/-- Once the sensor comes on line and finds values that it samples, the first healthy tick is that after the ticks
needed. -/
def CO2Counted (s : CO2Sensor × Watch) : Prop :=
  s.1.xOnLine = false → ∀ values : List USHORT, (∀ v ∈ values, Inside co2Kind s.1.co2 v) →
    ∀ s', run co2Step s (.onLine true :: values.map .tick) = some s' → ∀ usCO2PPM,
      CO2Healthy s' (.tick usCO2PPM) ↔ ticksNeeded s.1.co2.index.toNat ≤ values.length

def TempCounted (s : TempHumiSensor × Watch × Watch) : Prop :=
  s.1.xOnLine = false → ∀ values : List (USHORT × USHORT), (∀ v ∈ values, Inside tempKind s.1.temp v.1) →
    ∀ s', run tempHumiStep s (.onLine true :: values.map fun v => .tick v.1 v.2) = some s' → ∀ sTemp usHumi,
      TempHealthy s' (.tick sTemp usHumi) ↔ ticksNeeded s.1.temp.index.toNat ≤ values.length

theorem co2_counted {s : CO2Sensor × Watch} (hg : Watch.Good co2Kind s.1.co2 s.2) (hb : Bounded co2Kind s.1.co2) :
    CO2Counted s := by
  intro hoff values hv s' hs usCO2PPM
  obtain ⟨hon, hticks⟩ := co2_ticks values (s := (⟨true, s.1.co2⟩, s.2.onLine s.1.xOnLine true s.1.co2)) rfl hs
  have hwatch : s.2.onLine s.1.xOnLine true s.1.co2 = Watch.comesOnLine s.1.co2 := if_pos ⟨rfl, hoff⟩
  have hcount := (Counting.comesOnLine hg hb).ticks rfl hv
  rw [hwatch] at hticks
  rw [← hticks, Nat.zero_add] at hcount
  rw [← hcount.tickOk_iff, ← hon]
  exact hcount.good.healthy_iff usCO2PPM

theorem temp_counted {s : TempHumiSensor × Watch × Watch} (hg : Watch.Good tempKind s.1.temp s.2.1)
    (hb : Bounded tempKind s.1.temp) : TempCounted s := by
  intro hoff values hv s' hs sTemp usHumi
  obtain ⟨hon, hticks⟩ := temp_ticks values (s := (⟨true, s.1.temp, s.1.humi⟩,
    s.2.1.onLine s.1.xOnLine true s.1.temp, s.2.2.onLine s.1.xOnLine true s.1.humi)) rfl hs
  have hwatch : s.2.1.onLine s.1.xOnLine true s.1.temp = Watch.comesOnLine s.1.temp := if_pos ⟨rfl, hoff⟩
  have hcount := (Counting.comesOnLine hg hb).ticks rfl (List.forall_mem_map.mpr hv)
  rw [hwatch] at hticks
  rw [← hticks, Nat.zero_add, List.length_map] at hcount
  rw [← hcount.tickOk_iff, ← hon]
  exact hcount.good.healthy_iff sTemp

/-- **A sensor without a fault publishes a fresh average exactly at the ticks that find or take one**, in every
state of every history of every sensor; and those of a sensor that comes on line and samples its values are all but the
first five to ten. -/
theorem sensors_healthy_iff (es : List CO2Event) (eSensorType : eTempHumiType) (es' : List TempHumiEvent) :
    (∀ s, run co2Step co2Reset es = some s → (∀ e, CO2Healthy s e ↔ CO2TickOk s e) ∧ CO2Counted s) ∧
      ∀ s, run tempHumiStep (tempHumiReset eSensorType) es' = some s →
        (∀ e, TempHealthy s e ↔ TempTickOk s e) ∧ (∀ e, HumiHealthy s e ↔ HumiTickOk s e) ∧ TempCounted s := by
  constructor
  · intro s hs
    obtain ⟨hg, hb⟩ := co2_good hs
    refine ⟨?_, co2_counted hg hb⟩
    rintro (xOnLine | usCO2PPM)
    · exact Iff.rfl
    · exact hg.healthy_iff usCO2PPM
  · intro s hs
    obtain ⟨⟨hg, hb⟩, hh⟩ := tempHumi_good hs
    refine ⟨?_, ?_, temp_counted hg hb⟩
    · rintro (xOnLine | ⟨sTemp, usHumi⟩)
      · exact Iff.rfl
      · exact hg.healthy_iff sTemp
    · rintro (xOnLine | ⟨sTemp, usHumi⟩)
      · exact Iff.rfl
      · exact hh.healthy_iff usHumi

/-- The sixth tick after a sensor has come on line for the first time. -/
theorem sensors_healthy_iff_sixTicks :
    ∃ s, run co2Step co2Reset (.onLine true :: (List.replicate 5 800).map .tick) = some s ∧
      CO2Healthy s (.tick 800) := by
  obtain ⟨s, hs⟩ : ∃ s, run co2Step co2Reset (.onLine true :: (List.replicate 5 800).map .tick) = some s := ⟨_, rfl⟩
  have hcounted : CO2Counted co2Reset := ((sensors_healthy_iff [] .TYPE_TEMP_HUMI_IN []).1 co2Reset rfl).2
  have hinside : ∀ v ∈ List.replicate 5 (800 : USHORT), Inside co2Kind co2Reset.1.co2 v := by
    intro v hv
    rw [List.eq_of_mem_replicate hv]
    decide
  exact ⟨s, hs, (hcounted rfl _ hinside s hs 800).mpr le_rfl⟩

/-- The first tick after a sensor has come on line: no fault, and an average of no sample. -/
theorem comesOnLine_healthy :
    (vCO2Sensor_TimeoutInd 800 { co2Reset.1 with xOnLine := true }).co2.err = false ∧
      (vCO2Sensor_TimeoutInd 800 { co2Reset.1 with xOnLine := true }).co2.avg = 0 ∧
      ¬Meets co2Step CO2Healthy co2Reset [.onLine true, .tick 800] := by
  refine ⟨by decide, by decide, fun h => ?_⟩
  obtain ⟨x, hx, -⟩ := (h.2 _ rfl).1 (by decide)
  cases hx

end GreeIntense.Control

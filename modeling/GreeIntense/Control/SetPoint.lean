import GreeIntense.Control.SystemCtrl
import GreeIntense.Lib.Run

/-!
# The set point of the frequency

The frequency of the variable fan stands in the system, in the `BMS` and in the fan.
`vSystem_AdjustExAirFanFreq` and `vSystem_SetExAirFanFreqRange` write all three, each limited to a range where it
is written.  A fan with a fault does not take a frequency, while the system and the `BMS` do; so the three agree
along a run exactly where every step of it meets `TakesFreq` (`oneSetPoint_iff`).
-/

namespace GreeIntense.Control

open Lib.Run

/-! ### Limits -/

/-- A frequency is raised to the least and then lowered to the highest one. -/
def limit (usMinFreq usMaxFreq usFreq : USHORT) : USHORT :=
  let usFreq := if usFreq < usMinFreq then usMinFreq else usFreq
  if usFreq > usMaxFreq then usMaxFreq else usFreq

section Limits

variable {lo hi f : USHORT}

theorem limit_toNat : (limit lo hi f).toNat = min (max lo.toNat f.toNat) hi.toNat := by
  simp only [limit, gt_iff_lt, BitVec.lt_def]
  split
  · split <;> omega
  · split <;> omega

theorem le_limit (h : lo ≤ hi) : lo ≤ limit lo hi f := by
  rw [BitVec.le_def, limit_toNat]
  exact le_min (le_max_left _ _) h

theorem limit_le : limit lo hi f ≤ hi := by
  rw [BitVec.le_def, limit_toNat]
  exact min_le_right _ _

/-- A frequency is within the limits, unless it is the highest one and the least one is higher still. -/
theorem limit_eq_self_iff : limit lo hi f = f ↔ lo ≤ f ∧ f ≤ hi ∨ f = hi := by
  rw [BitVec.toNat_eq, limit_toNat, BitVec.toNat_eq, BitVec.le_def, BitVec.le_def]
  omega

theorem limit_of_mem (h1 : lo ≤ f) (h2 : f ≤ hi) : limit lo hi f = f := limit_eq_self_iff.mpr (Or.inl ⟨h1, h2⟩)

theorem limit_of_lt (h : lo ≤ hi) (hf : f < lo) : limit lo hi f = lo := by
  unfold limit
  rw [if_pos hf]
  exact if_neg (BitVec.not_lt.mpr h)

theorem limit_of_gt (hf : hi < f) : limit lo hi f = hi := by
  rw [BitVec.toNat_eq, limit_toNat]
  rw [BitVec.lt_def] at hf
  omega

end Limits

/-! ### One set point -/

/-- **One set point**: the system, the `BMS` and the variable fan have the same frequency, which is in the range. -/
structure OneSetPoint (s : System) : Prop where
  bms : s.psBMS.usExAirFanFreq = s.usExAirFanFreq
  fan : (s.fan 0).usSetFreq = s.usExAirFanFreq
  min_le : s.usExAirFanMinFreq ≤ s.usExAirFanFreq
  le_max : s.usExAirFanFreq ≤ s.usExAirFanMaxFreq

structure HasVariate (s : System) : Prop where
  type : s.eExAirFanType = .TYPE_CONSTANT_VARIABLE
  fan : (s.fan 0).eFanFreqType = .VARIABLE_FREQ

/-- A frequency is asked, a range is set, or the fault of the variable fan comes or goes. -/
inductive FreqEvent
  | adjust (usFreq : USHORT)
  | range (usMinFreq usMaxFreq : USHORT) (h : usMinFreq ≤ usMaxFreq)
  | fault (xExAirFanErr : Bool)

def freqStep (s : System) : FreqEvent → System
  | .adjust usFreq => vSystem_AdjustExAirFanFreq usFreq s
  | .range usMinFreq usMaxFreq _ => vSystem_SetExAirFanFreqRange usMinFreq usMaxFreq s
  | .fault xExAirFanErr => s.setFan 0 { s.fan 0 with xExAirFanErr := xExAirFanErr }

/-- The variable fan takes what the system takes: with a fault, where that is the frequency it has; without one,
where its own limits allow it. -/
def TakesFreq (s : System) : FreqEvent → Prop
  | .adjust usFreq =>
    let usFreq := limit s.usExAirFanMinFreq s.usExAirFanMaxFreq usFreq
    if (s.fan 0).xExAirFanErr = true then usFreq = s.usExAirFanFreq
    else (s.fan 0).usMinFreq ≤ usFreq ∧ usFreq ≤ (s.fan 0).usMaxFreq ∨ usFreq = (s.fan 0).usMaxFreq
  | .range usMinFreq usMaxFreq _ =>
    (s.fan 0).xExAirFanErr = true → usMinFreq ≤ s.usExAirFanFreq ∧ s.usExAirFanFreq ≤ usMaxFreq
  | .fault _ => True

/-! ### What the fan takes -/

section Fan

variable (n m : Fin EX_AIR_FAN_NUM) (s : System)

/-- The set points outside the fan, with its limits. -/
def System.setPoints (s : System) : (USHORT × USHORT) × USHORT × USHORT :=
  ((s.usExAirFanFreq, s.psBMS.usExAirFanFreq), s.usExAirFanMinFreq, s.usExAirFanMaxFreq)

theorem vAnalogOutputSetRealVal_fan (ch : ℕ) (ulRealData : USHORT) :
    (vAnalogOutputSetRealVal ch ulRealData s).fan m = s.fan m := by
  unfold vAnalogOutputSetRealVal
  split <;> rfl

theorem vExFan_SetFreq_eq (usFreq : USHORT) :
    vExFan_SetFreq n usFreq s =
      if (s.fan n).eFanFreqType = .VARIABLE_FREQ ∧ (s.fan n).xExAirFanErr = false then
        let usFreq := limit (s.fan n).usMinFreq (s.fan n).usMaxFreq usFreq
        if (s.fan n).eCtrlCmd = .ON ∧ (s.fan n).usRunningFreq ≠ usFreq then
          vAnalogOutputSetRealVal (s.fan n).sFreq_AO usFreq (s.setFan n { s.fan n with usSetFreq := usFreq })
        else s.setFan n { s.fan n with usSetFreq := usFreq }
      else s := rfl

theorem vExFan_SetFreq_fan (usFreq : USHORT) :
    (vExFan_SetFreq n usFreq s).fan m =
      if m = n ∧ (s.fan n).eFanFreqType = .VARIABLE_FREQ ∧ (s.fan n).xExAirFanErr = false then
        { s.fan n with usSetFreq := limit (s.fan n).usMinFreq (s.fan n).usMaxFreq usFreq }
      else s.fan m := by
  rw [vExFan_SetFreq_eq]
  by_cases h : (s.fan n).eFanFreqType = .VARIABLE_FREQ ∧ (s.fan n).xExAirFanErr = false
  · rw [if_pos h]
    simp only [and_iff_left h]
    split
    · exact (vAnalogOutputSetRealVal_fan m _ _ _).trans (fan_setFan n m _ s)
    · exact fan_setFan n m _ s
  · rw [if_neg h, if_neg (fun hm => h hm.2)]

@[simp] theorem ite_setPoints (c : Prop) [Decidable c] (s t : System) :
    (if c then s else t).setPoints = if c then s.setPoints else t.setPoints := apply_ite System.setPoints c s t

@[simp] theorem setFan_setPoints (f : ExAirFan) : (s.setFan n f).setPoints = s.setPoints := rfl

@[simp] theorem vAnalogOutputSetRealVal_setPoints (ch : ℕ) (ulRealData : USHORT) :
    (vAnalogOutputSetRealVal ch ulRealData s).setPoints = s.setPoints := by
  unfold vAnalogOutputSetRealVal
  split <;> rfl

@[simp] theorem vExFan_SetFreq_setPoints (usFreq : USHORT) : (vExFan_SetFreq n usFreq s).setPoints = s.setPoints := by
  simp [vExFan_SetFreq]

@[simp] theorem vExFan_SetFreqRange_setPoints (lo hi : USHORT) :
    (vExFan_SetFreqRange n lo hi s).setPoints = s.setPoints := by
  simp [vExFan_SetFreqRange]

theorem vExFan_SetFreqRange_fan_ne (h : m ≠ n) (lo hi : USHORT) :
    (vExFan_SetFreqRange n lo hi s).fan m = s.fan m := by
  have hf (usFreq : USHORT) (s : System) : (vExFan_SetFreq n usFreq s).fan m = s.fan m := by
    rw [vExFan_SetFreq_fan, if_neg (fun hm => h hm.1)]
  have hs (f : ExAirFan) : (s.setFan n f).fan m = s.fan m := by rw [fan_setFan, if_neg h]
  unfold vExFan_SetFreqRange
  simp only [apply_ite (fun s : System => s.fan m), hf, hs, ite_self]

theorem vExFan_SetFreq_usSetFreq (usFreq : USHORT) (hn : (s.fan n).eFanFreqType = .VARIABLE_FREQ) :
    (vExFan_SetFreq n usFreq s).fan n =
      { s.fan n with usSetFreq :=
          if (s.fan n).xExAirFanErr = false then limit (s.fan n).usMinFreq (s.fan n).usMaxFreq usFreq
          else (s.fan n).usSetFreq } := by
  rw [vExFan_SetFreq_fan]
  by_cases he : (s.fan n).xExAirFanErr = false
  · rw [if_pos ⟨rfl, hn, he⟩, if_pos he]
  · rw [if_neg (fun h => he h.2.2), if_neg he]

/-- A range set to a variable fan: its frequency is brought into the range, unless the fan has a fault. -/
theorem vExFan_SetFreqRange_fan {lo hi : USHORT} (h : lo ≤ hi) (hn : (s.fan n).eFanFreqType = .VARIABLE_FREQ) :
    (vExFan_SetFreqRange n lo hi s).fan n =
      { s.fan n with
        usMinFreq := lo, usMaxFreq := hi
        usSetFreq := if (s.fan n).xExAirFanErr = false then limit lo hi (s.fan n).usSetFreq
          else (s.fan n).usSetFreq } := by
  unfold vExFan_SetFreqRange
  rw [if_pos hn]
  dsimp only
  -- a frequency asked after the range was set
  have ask (t : System) (x usFreq : USHORT)
      (ht : t.fan n = { s.fan n with usMinFreq := lo, usMaxFreq := hi, usSetFreq := x }) :
      (vExFan_SetFreq n usFreq t).fan n =
        { s.fan n with
          usMinFreq := lo, usMaxFreq := hi
          usSetFreq := if (s.fan n).xExAirFanErr = false then limit lo hi usFreq else x } := by
    rw [vExFan_SetFreq_usSetFreq n t usFreq (by rw [ht]; exact hn), ht]
  have h0 : (s.setFan n { s.fan n with usMaxFreq := hi, usMinFreq := lo }).fan n =
      { s.fan n with usMinFreq := lo, usMaxFreq := hi, usSetFreq := (s.fan n).usSetFreq } := by
    rw [fan_setFan, if_pos rfl]
  generalize s.setFan n { s.fan n with usMaxFreq := hi, usMinFreq := lo } = t at h0
  have hlo : limit lo hi lo = lo := limit_of_mem (BitVec.le_refl lo) h
  have hhi : limit lo hi hi = hi := limit_of_mem h (BitVec.le_refl hi)
  rw [h0]
  dsimp only
  by_cases hlt : (s.fan n).usSetFreq < lo
  · have hle : ¬(if (s.fan n).xExAirFanErr = false then lo else (s.fan n).usSetFreq) > hi := by
      apply BitVec.not_lt.mpr
      split
      · exact h
      · exact BitVec.le_trans (BitVec.le_of_lt hlt) h
    rw [if_pos hlt, ask t _ lo h0, hlo, limit_of_lt h hlt, if_neg hle, ask t _ lo h0, hlo]
  · rw [if_neg hlt, h0]
    dsimp only
    by_cases hgt : (s.fan n).usSetFreq > hi
    · rw [if_pos hgt, ask t _ hi h0, hhi, limit_of_gt hgt]
    · rw [if_neg hgt, h0, limit_of_mem (BitVec.not_lt.mp hlt) (BitVec.not_lt.mp hgt), ite_self]

end Fan

/-! ### One step -/

section Step

variable {s : System}

theorem setFreqRanges_fan (lo hi : USHORT) (h : (s.fan 0).eFanFreqType = .VARIABLE_FREQ) :
    (setFreqRanges lo hi s).fan 0 = (vExFan_SetFreqRange 0 lo hi s).fan 0 := by
  have other (n : Fin EX_AIR_FAN_NUM) (hn : 0 ≠ n) (t : System) :
      (if (t.fan n).eFanFreqType = .VARIABLE_FREQ then vExFan_SetFreqRange n lo hi t else t).fan 0 = t.fan 0 := by
    split
    · exact vExFan_SetFreqRange_fan_ne n 0 t hn lo hi
    · rfl
  show (([0, 1, 2, 3] : List (Fin EX_AIR_FAN_NUM)).foldl _ s).fan 0 = _
  simp only [List.foldl_cons, List.foldl_nil]
  rw [other 3 (by decide), other 2 (by decide), other 1 (by decide), if_pos h]

theorem setFreqRanges_setPoints (lo hi : USHORT) : (setFreqRanges lo hi s).setPoints = s.setPoints :=
  foldl_kept System.setPoints (fun s n => by simp) fans s

/-- One set point, where the system and the `BMS` have just been given the frequency. -/
theorem setFreq_iff {f : USHORT} (hmin : s.usExAirFanMinFreq ≤ f) (hmax : f ≤ s.usExAirFanMaxFreq) :
    OneSetPoint (setFreq f s) ↔ (s.fan 0).usSetFreq = f :=
  ⟨fun h => h.fan, fun h => ⟨rfl, h, hmin, hmax⟩⟩

/-- A frequency is asked: the three agree if the fan takes what it is limited to. -/
theorem adjust_iff (hv : HasVariate s) (hs : OneSetPoint s) (usFreq : USHORT) :
    OneSetPoint (vSystem_AdjustExAirFanFreq usFreq s) ↔ TakesFreq s (.adjust usFreq) := by
  have heq : vSystem_AdjustExAirFanFreq usFreq s =
      setFreq (limit s.usExAirFanMinFreq s.usExAirFanMaxFreq usFreq)
        (vExFan_SetFreq 0 (limit s.usExAirFanMinFreq s.usExAirFanMaxFreq usFreq) s) :=
    if_neg (not_not.mpr hv.type)
  have hmin : s.usExAirFanMinFreq ≤ limit s.usExAirFanMinFreq s.usExAirFanMaxFreq usFreq :=
    le_limit (BitVec.le_trans hs.min_le hs.le_max)
  have hmax : limit s.usExAirFanMinFreq s.usExAirFanMaxFreq usFreq ≤ s.usExAirFanMaxFreq := limit_le
  rw [heq]
  simp only [TakesFreq]
  generalize limit s.usExAirFanMinFreq s.usExAirFanMaxFreq usFreq = f at hmin hmax ⊢
  have hp := vExFan_SetFreq_setPoints 0 s f
  have hpmin : (vExFan_SetFreq 0 f s).usExAirFanMinFreq = s.usExAirFanMinFreq := congrArg (fun p => p.2.1) hp
  have hpmax : (vExFan_SetFreq 0 f s).usExAirFanMaxFreq = s.usExAirFanMaxFreq := congrArg (fun p => p.2.2) hp
  rw [setFreq_iff (hpmin ▸ hmin) (hpmax ▸ hmax), vExFan_SetFreq_usSetFreq 0 s f hv.fan]
  dsimp only
  rw [hs.fan]
  cases (s.fan 0).xExAirFanErr with
  | true => exact eq_comm
  | false => exact limit_eq_self_iff

/-- The range of the system, with the frequency brought into it. -/
def rangeFreq (lo hi : USHORT) (s : System) : System :=
  let s := { s with usExAirFanMinFreq := lo, usExAirFanMaxFreq := hi }
  let s := if s.usExAirFanFreq < lo then setFreq lo s else s
  if s.usExAirFanFreq > hi then setFreq hi s else s

theorem ite_setFreq_setPoints {t : System} {f g lo hi : USHORT} (c : USHORT → Prop) [DecidablePred c]
    (ht : t.setPoints = ((f, f), lo, hi)) :
    (if c t.usExAirFanFreq then setFreq g t else t).setPoints =
      ((if c f then g else f, if c f then g else f), lo, hi) := by
  obtain rfl : t.usExAirFanFreq = f := congrArg (fun p => p.1.1) ht
  by_cases h : c t.usExAirFanFreq
  · rw [if_pos h, if_pos h]
    have hr : (t.usExAirFanMinFreq, t.usExAirFanMaxFreq) = (lo, hi) := congrArg Prod.snd ht
    exact congrArg (Prod.mk (g, g)) hr
  · rw [if_neg h, if_neg h]
    exact ht

theorem rangeFreq_setPoints (hs : OneSetPoint s) (lo hi : USHORT) :
    (rangeFreq lo hi s).setPoints = ((limit lo hi s.usExAirFanFreq, limit lo hi s.usExAirFanFreq), lo, hi) := by
  have h0 : System.setPoints { s with usExAirFanMinFreq := lo, usExAirFanMaxFreq := hi } =
      ((s.usExAirFanFreq, s.usExAirFanFreq), lo, hi) :=
    congrArg (fun f => ((s.usExAirFanFreq, f), lo, hi)) hs.bms
  exact ite_setFreq_setPoints (· > hi) (ite_setFreq_setPoints (· < lo) h0)

theorem rangeFreq_fan (lo hi : USHORT) (n : Fin EX_AIR_FAN_NUM) : (rangeFreq lo hi s).fan n = s.fan n := by
  have hset (f : USHORT) (t : System) : (setFreq f t).fan n = t.fan n := rfl
  unfold rangeFreq
  simp only [apply_ite (fun s : System => s.fan n), hset, ite_self]
  rfl

theorem rangeFreq_type (lo hi : USHORT) : (rangeFreq lo hi s).eExAirFanType = s.eExAirFanType := by
  have hset (f : USHORT) (t : System) : (setFreq f t).eExAirFanType = t.eExAirFanType := rfl
  unfold rangeFreq
  simp only [apply_ite (fun s : System => s.eExAirFanType), hset, ite_self]

/-- A range is set: the three agree if the fan has no fault, or if nothing was to be brought into the range. -/
theorem range_iff (hv : HasVariate s) (hs : OneSetPoint s) {lo hi : USHORT} (h : lo ≤ hi) :
    OneSetPoint (vSystem_SetExAirFanFreqRange lo hi s) ↔ TakesFreq s (.range lo hi h) := by
  change OneSetPoint (setFreqRanges lo hi (rangeFreq lo hi s)) ↔ _
  have hp := (setFreqRanges_setPoints lo hi).trans (rangeFreq_setPoints hs lo hi)
  have hn : ((rangeFreq lo hi s).fan 0).eFanFreqType = .VARIABLE_FREQ := by rw [rangeFreq_fan]; exact hv.fan
  have hf := setFreqRanges_fan lo hi hn
  rw [vExFan_SetFreqRange_fan 0 _ h hn, rangeFreq_fan] at hf
  generalize setFreqRanges lo hi (rangeFreq lo hi s) = t at hp hf
  have hfreq : t.usExAirFanFreq = limit lo hi s.usExAirFanFreq := congrArg (fun p => p.1.1) hp
  have hbms : t.psBMS.usExAirFanFreq = limit lo hi s.usExAirFanFreq := congrArg (fun p => p.1.2) hp
  have hlo : t.usExAirFanMinFreq = lo := congrArg (fun p => p.2.1) hp
  have hhi : t.usExAirFanMaxFreq = hi := congrArg (fun p => p.2.2) hp
  have hset : (t.fan 0).usSetFreq =
      if (s.fan 0).xExAirFanErr = false then limit lo hi s.usExAirFanFreq else s.usExAirFanFreq := by
    rw [hf, ← hs.fan]
  -- the system and the `BMS` have the frequency in the range; what is left is the fan
  have hone : OneSetPoint t ↔ (t.fan 0).usSetFreq = limit lo hi s.usExAirFanFreq := by
    constructor
    · intro ht
      exact ht.fan.trans hfreq
    · intro ht
      refine ⟨hbms.trans hfreq.symm, ht.trans hfreq.symm, ?_, ?_⟩
      · rw [hlo, hfreq]
        exact le_limit h
      · rw [hhi, hfreq]
        exact limit_le
  rw [hone, hset, TakesFreq]
  cases (s.fan 0).xExAirFanErr with
  | false => exact iff_of_true rfl (fun he => by cases he)
  | true =>
    refine ⟨fun he _ => ?_, fun he => (limit_of_mem (he rfl).1 (he rfl).2).symm⟩
    have hmem : s.usExAirFanFreq = limit lo hi s.usExAirFanFreq := he
    rw [hmem]
    exact ⟨le_limit h, limit_le⟩

theorem type_of_kept {s s' : System} (h : s'.kept = s.kept) : s'.eExAirFanType = s.eExAirFanType :=
  congrArg (fun k => k.2.1.eExAirFanType) h

theorem HasVariate.step (hv : HasVariate s) (e : FreqEvent) : HasVariate (freqStep s e) := by
  cases e with
  | adjust usFreq =>
    change HasVariate (vSystem_AdjustExAirFanFreq usFreq s)
    refine ⟨(type_of_kept (vSystem_AdjustExAirFanFreq_kept s usFreq)).trans hv.type, ?_⟩
    unfold vSystem_AdjustExAirFanFreq
    rw [if_neg (not_not.mpr hv.type)]
    exact (congrArg ExAirFan.eFanFreqType (vExFan_SetFreq_usSetFreq 0 s _ hv.fan)).trans hv.fan
  | range lo hi h =>
    have hn : ((rangeFreq lo hi s).fan 0).eFanFreqType = .VARIABLE_FREQ := by
      rw [rangeFreq_fan]
      exact hv.fan
    have htype := type_of_kept (setFreqRanges_kept lo hi (rangeFreq lo hi s))
    have hfan := (setFreqRanges_fan lo hi hn).trans (vExFan_SetFreqRange_fan 0 (rangeFreq lo hi s) h hn)
    change HasVariate (setFreqRanges lo hi (rangeFreq lo hi s))
    constructor
    · exact htype.trans ((rangeFreq_type lo hi).trans hv.type)
    · rw [hfan]
      exact hn
  | fault xExAirFanErr => exact ⟨hv.type, hv.fan⟩

theorem freqStep_iff (hv : HasVariate s) (hs : OneSetPoint s) (e : FreqEvent) :
    TakesFreq s e ↔ OneSetPoint (freqStep s e) := by
  cases e with
  | adjust usFreq => exact (adjust_iff hv hs usFreq).symm
  | range lo hi h => exact (range_iff hv hs h).symm
  | fault xExAirFanErr => exact ⟨fun _ => ⟨hs.bms, hs.fan, hs.min_le, hs.le_max⟩, fun _ => trivial⟩

end Step

/-- **The three agree along a run exactly where the variable fan takes each frequency that the system takes.** -/
theorem oneSetPoint_iff (s : System) (es : List FreqEvent) (hv : HasVariate s) (hs : OneSetPoint s) :
    Safe (fun s e => some (freqStep s e)) OneSetPoint s es ↔ Meets (fun s e => some (freqStep s e)) TakesFreq s es := by
  refine safe_iff_meets (I := HasVariate) (A := fun _ _ => True) ?_ ?_ meets_true hv hs
  · rintro s e s' hv - - h
    exact Option.some.inj h ▸ hv.step e
  · intro s e hv _ hs
    refine (freqStep_iff hv hs e).trans ⟨fun h s' hs' => Option.some.inj hs' ▸ h, fun h => h _ rfl⟩

/-- A plant with a variable fan, all at 30 Hz. -/
def steady : System :=
  { System.zero with
    eExAirFanType := .TYPE_CONSTANT_VARIABLE
    usExAirFanMaxFreq := 500
    usExAirFanFreq := 300
    psBMS := { BMS.zero with usExAirFanFreq := 300 }
    pExAirFanVariate := some 0
    psExAirFanList := fun _ => { ExAirFan.zero with usSetFreq := 300, usMaxFreq := 500 } }

theorem steady_hasVariate : HasVariate steady := ⟨rfl, rfl⟩

theorem steady_oneSetPoint : OneSetPoint steady := ⟨rfl, rfl, by decide, by decide⟩

theorem oneSetPoint_steady :
    Safe (fun s e => some (freqStep s e)) OneSetPoint steady [.adjust 400, .range 100 350 (by decide)] ↔
      Meets (fun s e => some (freqStep s e)) TakesFreq steady [.adjust 400, .range 100 350 (by decide)] :=
  oneSetPoint_iff steady _ steady_hasVariate steady_oneSetPoint

/-- The variable fan has a fault; 40 Hz is asked; the system has it, the fan does not. -/
theorem steady_fault_adjust :
    HasVariate steady ∧ OneSetPoint steady ∧
      ¬Safe (fun s e => some (freqStep s e)) OneSetPoint steady [.fault true, .adjust 400] := by
  refine ⟨steady_hasVariate, steady_oneSetPoint, fun h => ?_⟩
  have hfan := ((h.2 _ rfl).2 _ rfl).head.fan
  revert hfan
  decide

end GreeIntense.Control

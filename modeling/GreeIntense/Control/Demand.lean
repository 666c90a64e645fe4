import Mathlib.Tactic.Ring
import GreeIntense.Control.FanCtrl
import GreeIntense.Lib.Mean

/-!
# The arithmetic of the exhaust demand

`vSystem_ExAirRequest_Vol` computes the exhaust air requested, the fans kept open for it and the request time;
`vSystem_ExAirFanBothCtrl` takes these and computes a frequency.  Both work in words of 16 and 32 bits.  The
same formulas are here over the integers (`Demand`), and `demand_exact_iff` says when the two are the same: the
request time has one product that can wrap and one divisor that can be 0, and the local copy of the rated volume
and the frequency are cut to 16 bits.
-/

namespace GreeIntense.Control

open Lib.Mean

/-! ### The formulas over the integers -/

namespace Demand

/-- How many fans are kept open. -/
def openNum (ulExAirRequest_Vol ulExAirFanRated_Vol ucConstantFanOpenNum : ℤ) : ℤ :=
  let num := if ulExAirRequest_Vol < ulExAirFanRated_Vol then 0 else ucConstantFanOpenNum
  let num := if ulExAirFanRated_Vol ≤ ulExAirRequest_Vol ∧ ulExAirRequest_Vol < ulExAirFanRated_Vol * 2 then 1 else num
  let num :=
    if ulExAirFanRated_Vol * 2 ≤ ulExAirRequest_Vol ∧ ulExAirRequest_Vol < ulExAirFanRated_Vol * 3 then 2 else num
  if ulExAirFanRated_Vol * 3 ≤ ulExAirRequest_Vol then 3 else num

/-- What `vSystem_ExAirFanBothCtrl` computes: its copy of the rated volume, the rest of the request, the least
rest that the variable fan meets, and the frequency it meets it with. -/
@[ext] structure Frequency where
  ulExAirFanRated_Vol : ℤ
  rest : ℤ
  least : ℤ
  usFreq : Option ℤ

end Demand

/-- The ratio of the running mode. -/
def exAirRatio (s : System) : UCHAR :=
  if s.eRunningMode = .RUN_MODE_HEAT then s.ucExAirHeatRatio else s.ucExAirCoolRatio

/-- `ulExAirRequest_Vol`. -/
def demandVol (s : System) : ℤ := s.ulFreAirSet_Vol.toNat * (exAirRatio s).toNat / 100

/-- `ucConstantFanOpenNum`. -/
def demandOpenNum (s : System) : ℤ :=
  Demand.openNum (demandVol s) s.ulExAirFanRated_Vol.toNat s.ucConstantFanOpenNum.toNat

/-- The request without what the open fans meet. -/
def demandRest (s : System) : ℤ := demandVol s - s.ulExAirFanRated_Vol.toNat * demandOpenNum s

/-- `ulExAirFanRequestTime`. -/
def demandTime (s : System) : ℤ :=
  let time : ℤ :=
    if (variateUsable s).isSome ∧ s.ulExAirFanRated_Vol ≠ 0 then
      demandRest s * 500 / s.usExAirFanMinFreq.toNat * s.usExAirFanCtrlPeriod.toNat / s.ulExAirFanRated_Vol.toNat
    else s.ulExAirFanRequestTime.toNat
  if constantOnly s ∧ s.ulExAirFanRated_Vol ≠ 0 then
    demandRest s * s.usExAirFanCtrlPeriod.toNat / s.ulExAirFanRated_Vol.toNat
  else time

/-- What `vSystem_ExAirFanBothCtrl` computes, where it does not return at once. -/
def demandFreq (s : System) : Option Demand.Frequency :=
  if s.eExAirFanType ≠ .TYPE_CONSTANT_VARIABLE ∨ s.pExAirFanVariate = none ∨ s.ulExAirFanRated_Vol = 0 then none
  else
    let least : ℤ := s.usExAirFanMinFreq.toNat * s.ulExAirFanRated_Vol.toNat / 500
    some ⟨s.ulExAirFanRated_Vol.toNat, demandRest s, least,
      if demandRest s ≥ least then some (demandRest s * 500 / s.ulExAirFanRated_Vol.toNat) else none⟩

/-! ### The words -/

/-- The words of `vSystem_ExAirFanBothCtrl`. -/
structure FrequencyWords where
  ulExAirFanRated_Vol : ULONG
  rest : ULONG
  least : ULONG
  usFreq : Option USHORT

/-- Their values. -/
def FrequencyWords.values (w : FrequencyWords) : Demand.Frequency :=
  ⟨w.ulExAirFanRated_Vol.toNat, w.rest.toNat, w.least.toInt, w.usFreq.map fun f => (f.toNat : ℤ)⟩

/-- The local copy of the rated volume in `vSystem_ExAirFanBothCtrl`, of 16 bits. -/
def ratedCopy (s : System) : ULONG := (s.ulExAirFanRated_Vol.setWidth 16).setWidth 32

/-- The words `vSystem_ExAirFanBothCtrl` computes, where it does not return at once. -/
def frequencyWords (s : System) : Option FrequencyWords :=
  if s.eExAirFanType ≠ .TYPE_CONSTANT_VARIABLE ∨ s.pExAirFanVariate = none ∨ ratedCopy s = 0 then none
  else
    let rest := s.ulExAirRequest_Vol - ratedCopy s * s.ucConstantFanOpenNum.setWidth 32
    let least := (s.usExAirFanMinFreq.setWidth 32 * ratedCopy s).sdiv 500
    some ⟨ratedCopy s, rest, least, if rest ≥ least then some ((rest * 500 / ratedCopy s).setWidth 16) else none⟩

/-- The control of the variable fan is the one with these words. -/
theorem vSystem_ExAirFanBothCtrl_eq (s : System) (v : Fin EX_AIR_FAN_NUM) (hv : s.pExAirFanVariate = some v) :
    vSystem_ExAirFanBothCtrl s =
      match frequencyWords s with
      | none => s
      | some ⟨_, _, _, some usFreq⟩ => stopTmrs (openVariateAt v usFreq (vSystem_ExAirFanConstantAlwaysOpen s))
      | some ⟨_, _, _, none⟩ => pollRequest s.usExAirFanCtrlPeriod (vSystem_ExAirFanConstantAlwaysOpen s) := by
  unfold vSystem_ExAirFanBothCtrl frequencyWords ratedCopy
  rw [hv]
  dsimp only
  by_cases h : s.eExAirFanType ≠ .TYPE_CONSTANT_VARIABLE ∨ (s.ulExAirFanRated_Vol.setWidth 16).setWidth 32 = (0 : ULONG)
  · have h' : s.eExAirFanType ≠ .TYPE_CONSTANT_VARIABLE ∨ some v = none ∨
        (s.ulExAirFanRated_Vol.setWidth 16).setWidth 32 = (0 : ULONG) := h.imp_right Or.inr
    rw [if_pos h, if_pos h']
  · have h' : ¬(s.eExAirFanType ≠ .TYPE_CONSTANT_VARIABLE ∨ some v = none ∨
        (s.ulExAirFanRated_Vol.setWidth 16).setWidth 32 = (0 : ULONG)) := by
      simpa using h
    rw [if_neg h, if_neg h']
    by_cases hl : s.ulExAirRequest_Vol -
          (s.ulExAirFanRated_Vol.setWidth 16).setWidth 32 * s.ucConstantFanOpenNum.setWidth 32 ≥
        (s.usExAirFanMinFreq.setWidth 32 * (s.ulExAirFanRated_Vol.setWidth 16).setWidth 32).sdiv 500
    · simp only [if_pos hl]
    · simp only [if_neg hl]

/-- What `vSystem_ExAirRequest_Vol` divides by. -/
def requestDivisors (s : System) : List ULONG :=
  [100] ++
    (if (variateUsable s).isSome ∧ s.ulExAirFanRated_Vol ≠ 0 then
      [s.usExAirFanMinFreq.setWidth 32, s.ulExAirFanRated_Vol] else []) ++
    (if constantOnly s ∧ s.ulExAirFanRated_Vol ≠ 0 then [s.ulExAirFanRated_Vol] else [])

/-- What `vSystem_ExAirFanBothCtrl` divides by. -/
def frequencyDivisors (s : System) : List ULONG :=
  match frequencyWords s with
  | none => []
  | some w => [500] ++ if w.usFreq.isSome then [w.ulExAirFanRated_Vol] else []

/-! ### When they are the same -/

/-- The settings are ones that the limits of the registers and the handlers admit. -/
structure System.Admitted (s : System) : Prop where
  freAir : s.ulFreAirSet_Vol.toNat ≤ 130000
  coolRatio : s.ucExAirCoolRatio.toNat ≤ 200
  heatRatio : s.ucExAirHeatRatio.toNat ≤ 200
  rated : s.ulExAirFanRated_Vol.toNat ≤ 100000
  minFreq : s.usExAirFanMinFreq.toNat ≤ 500
  maxFreq : s.usExAirFanMaxFreq.toNat ≤ 500
  ctrlPeriod : s.usExAirFanCtrlPeriod.toNat ≤ 7200

/-- The two functions, the second after the first, compute what the formulas say, and divide by nothing that
is 0. -/
structure DemandExact (s : System) : Prop where
  divisors : ∀ d ∈ requestDivisors s ++ frequencyDivisors (vSystem_ExAirRequest_Vol s), d ≠ 0
  vol : ((vSystem_ExAirRequest_Vol s).ulExAirRequest_Vol.toNat : ℤ) = demandVol s
  openNum : ((vSystem_ExAirRequest_Vol s).ucConstantFanOpenNum.toNat : ℤ) = demandOpenNum s
  time : ((vSystem_ExAirRequest_Vol s).ulExAirFanRequestTime.toNat : ℤ) = demandTime s
  freq : (frequencyWords (vSystem_ExAirRequest_Vol s)).map FrequencyWords.values = demandFreq s

/-- The volume that the settings request. -/
def requestedVol (s : System) : ℕ := s.ulFreAirSet_Vol.toNat * (exAirRatio s).toNat / 100

/-- What is left of it for one more fan. -/
def requestedRest (s : System) : ℕ :=
  requestedVol s - s.ulExAirFanRated_Vol.toNat * min 3 (requestedVol s / s.ulExAirFanRated_Vol.toNat)

/-- The settings for which the words suffice: with a usable variable fan the lowest frequency is not 0 and the
product of the request time is below `2 ^ 32`; and with a variable fan the rated volume has 16 bits and is more
than the 134th part of the request. -/
structure DemandFits (s : System) : Prop where
  time : (variateUsable s).isSome → s.ulExAirFanRated_Vol ≠ 0 →
    s.usExAirFanMinFreq ≠ 0 ∧
      requestedRest s * 500 / s.usExAirFanMinFreq.toNat * s.usExAirFanCtrlPeriod.toNat < 2 ^ 32
  freq : s.eExAirFanType = .TYPE_CONSTANT_VARIABLE → s.pExAirFanVariate ≠ none → s.ulExAirFanRated_Vol ≠ 0 →
    s.ulExAirFanRated_Vol.toNat < 65536 ∧ requestedVol s * 500 < s.ulExAirFanRated_Vol.toNat * 67036

/-! ### The words of the request -/

section Words

variable {s : System}

theorem constantFanOpenNum_toNat (vol rated : ULONG) (n : UCHAR) (h : rated.toNat ≤ 100000) :
    ((constantFanOpenNum vol rated n).toNat : ℤ) = Demand.openNum vol.toNat rated.toNat n.toNat := by
  have h2 : (rated * 2).toNat = rated.toNat * 2 := BitVec.toNat_mul_of_lt (by simp; omega)
  have h3 : (rated * 3).toNat = rated.toNat * 3 := BitVec.toNat_mul_of_lt (by simp; omega)
  unfold constantFanOpenNum Demand.openNum
  simp only [BitVec.lt_def, BitVec.le_def, h2, h3]
  norm_cast
  split_ifs <;> rfl

theorem openNum_eq (vol rated n : ℕ) (h : 0 < rated) :
    Demand.openNum vol rated n = (min 3 (vol / rated) : ℕ) := by
  have hq : vol / rated * rated ≤ vol := Nat.div_mul_le_self vol rated
  have hq' : vol < (vol / rated + 1) * rated := by
    rw [Nat.mul_comm]
    exact Nat.lt_mul_div_succ vol h
  generalize vol / rated = q at hq hq' ⊢
  unfold Demand.openNum
  dsimp only
  norm_cast
  obtain _ | _ | _ | q := q
  · split_ifs <;> omega
  · split_ifs <;> omega
  · split_ifs <;> omega
  · have h3 : 3 * rated ≤ (q + 1 + 1 + 1) * rated := Nat.mul_le_mul_right rated (by omega)
    rw [if_pos (by omega)]
    omega

theorem openNum_bounds (vol rated n : ℕ) :
    ∃ k : ℕ, Demand.openNum vol rated n = k ∧ k ≤ 3 ∧ rated * k ≤ vol := by
  rcases Nat.eq_zero_or_pos rated with rfl | h
  · refine ⟨3, ?_, le_refl 3, ?_⟩
    · unfold Demand.openNum
      rw [if_pos (by omega)]
      rfl
    · omega
  · refine ⟨min 3 (vol / rated), openNum_eq vol rated n h, Nat.min_le_left 3 _, ?_⟩
    calc rated * min 3 (vol / rated) ≤ rated * (vol / rated) := Nat.mul_le_mul_left rated (Nat.min_le_right 3 _)
      _ ≤ vol := Nat.mul_div_le vol rated

theorem demandVol_eq (s : System) : demandVol s = requestedVol s := by
  unfold demandVol requestedVol
  push_cast
  rfl

theorem System.Admitted.ratio (h : s.Admitted) : (exAirRatio s).toNat ≤ 200 := by
  unfold exAirRatio
  split
  · exact h.heatRatio
  · exact h.coolRatio

theorem System.Admitted.product (h : s.Admitted) : s.ulFreAirSet_Vol.toNat * (exAirRatio s).toNat ≤ 26000000 :=
  Nat.mul_le_mul h.freAir h.ratio

theorem System.Admitted.requestedVol (h : s.Admitted) : requestedVol s ≤ 260000 := by
  have hp := h.product
  unfold Control.requestedVol
  omega

/-- The end of `vSystem_ExAirRequest_Vol`, from the volume and the number on. -/
def setRequestTimes (vol : ULONG) (num : UCHAR) (s : System) : System :=
  let rest := vol - s.ulExAirFanRated_Vol * num.setWidth 32
  let s := setRequest vol num s
  let s := if (variateUsable s).isSome then variateRequestTime rest s else s
  if constantOnly s then constantRequestTime rest s else s

theorem request_eq (s : System) :
    vSystem_ExAirRequest_Vol s =
      setRequestTimes (s.ulFreAirSet_Vol * (exAirRatio s).setWidth 32 / 100)
        (constantFanOpenNum (s.ulFreAirSet_Vol * (exAirRatio s).setWidth 32 / 100) s.ulExAirFanRated_Vol
          s.ucConstantFanOpenNum) s := rfl

theorem setRequestTimes_kept {α : Type} (f : System → α) (hv : ∀ rest s, f (variateRequestTime rest s) = f s)
    (hc : ∀ rest s, f (constantRequestTime rest s) = f s) (vol : ULONG) (num : UCHAR) (s : System) :
    f (setRequestTimes vol num s) = f (setRequest vol num s) := by
  unfold setRequestTimes
  dsimp only
  rw [apply_ite f, hc, ite_self, apply_ite f, hv, ite_self]

theorem setRequestTimes_time (vol : ULONG) (num : UCHAR) (s : System) :
    (setRequestTimes vol num s).ulExAirFanRequestTime =
      if constantOnly s ∧ s.ulExAirFanRated_Vol ≠ 0 then
        (vol - s.ulExAirFanRated_Vol * num.setWidth 32) * s.usExAirFanCtrlPeriod.setWidth 32 / s.ulExAirFanRated_Vol
      else if (variateUsable s).isSome ∧ s.ulExAirFanRated_Vol ≠ 0 then
        (vol - s.ulExAirFanRated_Vol * num.setWidth 32) * 500 / s.usExAirFanMinFreq.setWidth 32 *
          s.usExAirFanCtrlPeriod.setWidth 32 / s.ulExAirFanRated_Vol
      else s.ulExAirFanRequestTime := by
  have hv : variateUsable (setRequest vol num s) = variateUsable s := rfl
  have hc : constantOnly (setRequest vol num s) = constantOnly s := rfl
  have hc' (rest : ULONG) : constantOnly (variateRequestTime rest (setRequest vol num s)) = constantOnly s := rfl
  rw [ite_and, ite_and]
  unfold setRequestTimes
  dsimp only
  rw [hv]
  by_cases hu : (variateUsable s).isSome = true
  · rw [if_pos hu, if_pos hu, hc']
    split <;> rfl
  · rw [if_neg hu, if_neg hu, hc]
    split <;> rfl

theorem request_vol (s : System) :
    (vSystem_ExAirRequest_Vol s).ulExAirRequest_Vol = s.ulFreAirSet_Vol * (exAirRatio s).setWidth 32 / 100 := by
  rw [request_eq]
  exact setRequestTimes_kept System.ulExAirRequest_Vol (fun _ _ => rfl) (fun _ _ => rfl) _ _ s

theorem request_vol_toNat (h : s.Admitted) :
    (vSystem_ExAirRequest_Vol s).ulExAirRequest_Vol.toNat = requestedVol s := by
  have hp := h.product
  have hw : ((exAirRatio s).setWidth 32).toNat = (exAirRatio s).toNat := BitVec.toNat_setWidth_of_le (by decide)
  rw [request_vol, BitVec.toNat_udiv, BitVec.toNat_mul_of_lt (by rw [hw]; omega), hw]
  rfl

theorem request_openNum (s : System) :
    (vSystem_ExAirRequest_Vol s).ucConstantFanOpenNum =
      constantFanOpenNum (vSystem_ExAirRequest_Vol s).ulExAirRequest_Vol s.ulExAirFanRated_Vol
        s.ucConstantFanOpenNum := by
  rw [request_vol, request_eq]
  exact setRequestTimes_kept System.ucConstantFanOpenNum (fun _ _ => rfl) (fun _ _ => rfl) _ _ s

/-- The rest of the request. -/
def requestRest (s : System) : ULONG :=
  (vSystem_ExAirRequest_Vol s).ulExAirRequest_Vol -
    s.ulExAirFanRated_Vol * (vSystem_ExAirRequest_Vol s).ucConstantFanOpenNum.setWidth 32

theorem request_time (s : System) :
    (vSystem_ExAirRequest_Vol s).ulExAirFanRequestTime =
      if constantOnly s ∧ s.ulExAirFanRated_Vol ≠ 0 then
        requestRest s * s.usExAirFanCtrlPeriod.setWidth 32 / s.ulExAirFanRated_Vol
      else if (variateUsable s).isSome ∧ s.ulExAirFanRated_Vol ≠ 0 then
        requestRest s * 500 / s.usExAirFanMinFreq.setWidth 32 * s.usExAirFanCtrlPeriod.setWidth 32 /
          s.ulExAirFanRated_Vol
      else s.ulExAirFanRequestTime := by
  rw [requestRest, request_openNum, request_vol, request_eq, setRequestTimes_time]

theorem request_kept (s : System) :
    (vSystem_ExAirRequest_Vol s).toSettings = s.toSettings ∧
      (vSystem_ExAirRequest_Vol s).pExAirFanVariate = s.pExAirFanVariate := by
  rw [request_eq]
  exact ⟨setRequestTimes_kept System.toSettings (fun _ _ => rfl) (fun _ _ => rfl) _ _ s,
    setRequestTimes_kept System.pExAirFanVariate (fun _ _ => rfl) (fun _ _ => rfl) _ _ s⟩

theorem requestRest_toNat (h : s.Admitted) :
    ((requestRest s).toNat : ℤ) = demandRest s ∧ (requestRest s).toNat ≤ requestedVol s := by
  have hv := request_vol_toNat h
  have hn := constantFanOpenNum_toNat (vSystem_ExAirRequest_Vol s).ulExAirRequest_Vol s.ulExAirFanRated_Vol
    s.ucConstantFanOpenNum h.rated
  have hV := h.requestedVol
  obtain ⟨k, hk, hk3, hkV⟩ := openNum_bounds (requestedVol s) s.ulExAirFanRated_Vol.toNat s.ucConstantFanOpenNum.toNat
  rw [← request_openNum, hv, hk, Nat.cast_inj] at hn
  have hw : ((vSystem_ExAirRequest_Vol s).ucConstantFanOpenNum.setWidth 32).toNat = k := by
    rw [BitVec.toNat_setWidth_of_le (by decide), hn]
  have hp : (s.ulExAirFanRated_Vol * (vSystem_ExAirRequest_Vol s).ucConstantFanOpenNum.setWidth 32).toNat =
      s.ulExAirFanRated_Vol.toNat * k := by
    rw [BitVec.toNat_mul_of_lt (by rw [hw]; omega), hw]
  have hr : (requestRest s).toNat = requestedVol s - s.ulExAirFanRated_Vol.toNat * k := by
    rw [requestRest, BitVec.toNat_sub_of_le (by rw [BitVec.le_def, hp, hv]; exact hkV), hp, hv]
  refine ⟨?_, by rw [hr]; exact Nat.sub_le _ _⟩
  rw [hr, demandRest, demandOpenNum, demandVol_eq, hk, Nat.cast_sub hkV]
  push_cast
  rfl

theorem requestRest_eq (h : s.Admitted) (hR : s.ulExAirFanRated_Vol ≠ 0) :
    (requestRest s).toNat = requestedRest s := by
  have hpos : 0 < s.ulExAirFanRated_Vol.toNat := Nat.pos_of_ne_zero fun h0 => hR (BitVec.eq_of_toNat_eq h0)
  have hr := (requestRest_toNat h).1
  have hle : s.ulExAirFanRated_Vol.toNat * min 3 (requestedVol s / s.ulExAirFanRated_Vol.toNat) ≤ requestedVol s :=
    (Nat.mul_le_mul_left _ (Nat.min_le_right 3 _)).trans (Nat.mul_div_le _ _)
  rw [demandRest, demandOpenNum, demandVol_eq, openNum_eq _ _ _ hpos] at hr
  rw [requestedRest, ← Nat.cast_inj (R := ℤ), Nat.cast_sub hle, Nat.cast_mul]
  exact hr

theorem variateUsable_of_constantOnly (h : constantOnly s = true) : variateUsable s = none := by
  unfold constantOnly at h
  unfold variateUsable
  cases hv : s.pExAirFanVariate with
  | none => rfl
  | some v =>
    rw [hv] at h
    rw [Option.filter_eq_none_iff]
    intro w hw hu
    cases hw
    simp only [Option.any_some, decide_eq_true_eq] at h hu
    obtain ⟨htype, herr, hremote⟩ := hu
    simp [htype, herr, hremote] at h

/-- The request time is exact where its product does not wrap. -/
theorem time_exact_iff (h : s.Admitted) :
    ((vSystem_ExAirRequest_Vol s).ulExAirFanRequestTime.toNat : ℤ) = demandTime s ↔
      ((variateUsable s).isSome → s.ulExAirFanRated_Vol ≠ 0 →
        requestedRest s * 500 / s.usExAirFanMinFreq.toNat * s.usExAirFanCtrlPeriod.toNat < 2 ^ 32) := by
  obtain ⟨hrest, hle⟩ := requestRest_toNat h
  have hV := h.requestedVol
  have hmin : (s.usExAirFanMinFreq.setWidth 32).toNat = s.usExAirFanMinFreq.toNat :=
    BitVec.toNat_setWidth_of_le (by decide)
  have hper : (s.usExAirFanCtrlPeriod.setWidth 32).toNat = s.usExAirFanCtrlPeriod.toNat :=
    BitVec.toNat_setWidth_of_le (by decide)
  rw [request_time, demandTime, ← hrest]
  by_cases hR : s.ulExAirFanRated_Vol = 0
  · simp [hR]
  · have hpos : 0 < s.ulExAirFanRated_Vol.toNat := Nat.pos_of_ne_zero fun h0 => hR (BitVec.eq_of_toNat_eq h0)
    simp only [hR, ne_eq, not_false_eq_true, and_true, forall_true_left]
    by_cases hc : constantOnly s = true
    · -- one more constant fan: the product is at most 260000 * 7200
      have hp : (requestRest s).toNat * s.usExAirFanCtrlPeriod.toNat ≤ 260000 * 7200 :=
        Nat.mul_le_mul (hle.trans hV) h.ctrlPeriod
      have hnone : ¬(variateUsable s).isSome = true := by simp [variateUsable_of_constantOnly hc]
      rw [if_pos hc, if_pos hc, BitVec.toNat_udiv, BitVec.toNat_mul_of_lt (by rw [hper]; omega), hper]
      simp [hnone]
    · rw [if_neg hc, if_neg hc]
      by_cases hu : (variateUsable s).isSome = true
      · have hq : (requestRest s * 500).toNat = (requestRest s).toNat * 500 :=
          BitVec.toNat_mul_of_lt (by simp; omega)
        rw [if_pos hu, if_pos hu, BitVec.toNat_udiv, BitVec.toNat_mul, BitVec.toNat_udiv, hq, hmin, hper]
        norm_cast
        rw [mod_div_eq_iff _ hpos (h.rated.trans (by decide)), requestRest_eq h hR]
        simp [hu]
      · rw [if_neg hu, if_neg hu]
        simp [hu]

theorem ratedCopy_toNat (s : System) : (ratedCopy s).toNat = s.ulExAirFanRated_Vol.toNat % 65536 := by
  rw [ratedCopy, BitVec.toNat_setWidth_of_le (by decide), BitVec.toNat_setWidth]

/-- A signed quotient of words that are not negative is the unsigned one. -/
theorem sdiv_500 (x : ULONG) (h : x.toNat < 2 ^ 31) : x.sdiv 500 = x / 500 := by
  have hx : x.msb = false := BitVec.msb_eq_false_iff_two_mul_lt.2 (by omega)
  have h500 : (500 : ULONG).msb = false := by decide
  rw [BitVec.sdiv_eq, hx, h500]
  rfl

theorem least_toNat (h : s.Admitted) (hR : s.ulExAirFanRated_Vol.toNat < 65536) :
    ((s.usExAirFanMinFreq.setWidth 32 * s.ulExAirFanRated_Vol).sdiv 500).toNat =
      s.usExAirFanMinFreq.toNat * s.ulExAirFanRated_Vol.toNat / 500 := by
  have hmin : (s.usExAirFanMinFreq.setWidth 32).toNat = s.usExAirFanMinFreq.toNat :=
    BitVec.toNat_setWidth_of_le (by decide)
  have hle : s.usExAirFanMinFreq.toNat * s.ulExAirFanRated_Vol.toNat ≤ 500 * 65535 :=
    Nat.mul_le_mul h.minFreq (by omega)
  have hp : (s.usExAirFanMinFreq.setWidth 32 * s.ulExAirFanRated_Vol).toNat =
      s.usExAirFanMinFreq.toNat * s.ulExAirFanRated_Vol.toNat := by
    rw [BitVec.toNat_mul_of_lt (by rw [hmin]; omega), hmin]
  rw [sdiv_500 _ (by rw [hp]; omega), BitVec.toNat_udiv, hp]
  rfl

theorem least_toInt (h : s.Admitted) (hR : s.ulExAirFanRated_Vol.toNat < 65536) :
    ((s.usExAirFanMinFreq.setWidth 32 * s.ulExAirFanRated_Vol).sdiv 500).toInt =
      (s.usExAirFanMinFreq.toNat : ℤ) * s.ulExAirFanRated_Vol.toNat / 500 := by
  have hl := least_toNat h hR
  have hle : s.usExAirFanMinFreq.toNat * s.ulExAirFanRated_Vol.toNat ≤ 500 * 65535 :=
    Nat.mul_le_mul h.minFreq (by omega)
  rw [BitVec.toInt_eq_toNat_of_lt (by rw [hl]; omega), hl]
  push_cast
  rfl

/-- The frequency of a rest fits where the request is less than 134 times the rated volume. -/
theorem freq_lt_iff (s : System) (hR : s.ulExAirFanRated_Vol ≠ 0) :
    requestedRest s * 500 / s.ulExAirFanRated_Vol.toNat < 65536 ↔
      requestedVol s * 500 < s.ulExAirFanRated_Vol.toNat * 67036 := by
  have hpos : 0 < s.ulExAirFanRated_Vol.toNat := Nat.pos_of_ne_zero fun h0 => hR (BitVec.eq_of_toNat_eq h0)
  rw [Nat.div_lt_iff_lt_mul hpos, requestedRest]
  have hq : requestedVol s / s.ulExAirFanRated_Vol.toNat * s.ulExAirFanRated_Vol.toNat ≤ requestedVol s :=
    Nat.div_mul_le_self _ _
  have hq' : requestedVol s < s.ulExAirFanRated_Vol.toNat * (requestedVol s / s.ulExAirFanRated_Vol.toNat + 1) :=
    Nat.lt_mul_div_succ _ hpos
  generalize requestedVol s / s.ulExAirFanRated_Vol.toNat = q at hq hq' ⊢
  generalize s.ulExAirFanRated_Vol.toNat = rated at hpos hq hq' ⊢
  generalize requestedVol s = vol at hq hq' ⊢
  rcases Nat.lt_or_ge q 3 with h | h
  · -- less than one fan is left
    obtain rfl | rfl | rfl : q = 0 ∨ q = 1 ∨ q = 2 := by omega
    · omega
    · omega
    · omega
  · have h3 : 3 * rated ≤ q * rated := Nat.mul_le_mul_right rated h
    rw [Nat.min_eq_left h]
    omega

theorem ratedCopy_request (s : System) : ratedCopy (vSystem_ExAirRequest_Vol s) = ratedCopy s := by
  rw [ratedCopy, ratedCopy, congrArg Settings.ulExAirFanRated_Vol (request_kept s).1]

theorem frequencyWords_rated {w : FrequencyWords} (h : frequencyWords s = some w) :
    w.ulExAirFanRated_Vol = ratedCopy s := by
  unfold frequencyWords at h
  split at h
  · cases h
  · cases h
    rfl

theorem frequencyWords_request (htype : s.eExAirFanType = .TYPE_CONSTANT_VARIABLE)
    (hptr : s.pExAirFanVariate ≠ none) (hR : s.ulExAirFanRated_Vol ≠ 0) (hc : ratedCopy s = s.ulExAirFanRated_Vol) :
    frequencyWords (vSystem_ExAirRequest_Vol s) =
      some ⟨s.ulExAirFanRated_Vol, requestRest s, (s.usExAirFanMinFreq.setWidth 32 * s.ulExAirFanRated_Vol).sdiv 500,
        if requestRest s ≥ (s.usExAirFanMinFreq.setWidth 32 * s.ulExAirFanRated_Vol).sdiv 500 then
          some ((requestRest s * 500 / s.ulExAirFanRated_Vol).setWidth 16) else none⟩ := by
  have hset := (request_kept s).1
  have htype' : (vSystem_ExAirRequest_Vol s).eExAirFanType = s.eExAirFanType := congrArg Settings.eExAirFanType hset
  have hmin : (vSystem_ExAirRequest_Vol s).usExAirFanMinFreq = s.usExAirFanMinFreq :=
    congrArg Settings.usExAirFanMinFreq hset
  rw [frequencyWords, htype', (request_kept s).2, ratedCopy_request, hc, hmin,
    if_neg (not_or.2 ⟨not_not.2 htype, not_or.2 ⟨hptr, hR⟩⟩)]
  rfl

/-- The words of the control are exact where neither the rated volume nor the frequency is cut. -/
theorem freq_exact_iff (h : s.Admitted) :
    (frequencyWords (vSystem_ExAirRequest_Vol s)).map FrequencyWords.values = demandFreq s ↔
      (s.eExAirFanType = .TYPE_CONSTANT_VARIABLE → s.pExAirFanVariate ≠ none → s.ulExAirFanRated_Vol ≠ 0 →
        s.ulExAirFanRated_Vol.toNat < 65536 ∧ requestedVol s * 500 < s.ulExAirFanRated_Vol.toNat * 67036) := by
  have hset := (request_kept s).1
  have htype' : (vSystem_ExAirRequest_Vol s).eExAirFanType = s.eExAirFanType := congrArg Settings.eExAirFanType hset
  by_cases hret : s.eExAirFanType ≠ .TYPE_CONSTANT_VARIABLE ∨ s.pExAirFanVariate = none ∨ s.ulExAirFanRated_Vol = 0
  · -- nothing is computed
    have hcopy : s.ulExAirFanRated_Vol = 0 → ratedCopy s = 0 := by
      intro h0
      rw [ratedCopy, h0]
      rfl
    rw [demandFreq, if_pos hret, frequencyWords, htype', (request_kept s).2, ratedCopy_request,
      if_pos (hret.imp_right (Or.imp_right hcopy))]
    simp only [Option.map_none, true_iff]
    intro h1 h2 h3
    exact absurd hret (not_or.2 ⟨not_not.2 h1, not_or.2 ⟨h2, h3⟩⟩)
  · obtain ⟨htype, hptr, hR⟩ : s.eExAirFanType = .TYPE_CONSTANT_VARIABLE ∧ s.pExAirFanVariate ≠ none ∧
        s.ulExAirFanRated_Vol ≠ 0 := by simpa using hret
    rw [demandFreq, if_neg hret]
    simp only [htype, hptr, hR, ne_eq, not_false_eq_true, forall_true_left]
    rcases Nat.lt_or_ge s.ulExAirFanRated_Vol.toNat 65536 with hlt | hge
    · have hc : ratedCopy s = s.ulExAirFanRated_Vol := by
        apply BitVec.eq_of_toNat_eq
        rw [ratedCopy_toNat, Nat.mod_eq_of_lt hlt]
      have hrest := (requestRest_toNat h).1
      have hlow : requestRest s ≥ (s.usExAirFanMinFreq.setWidth 32 * s.ulExAirFanRated_Vol).sdiv 500 ↔
          demandRest s ≥ (s.usExAirFanMinFreq.toNat : ℤ) * s.ulExAirFanRated_Vol.toNat / 500 := by
        rw [ge_iff_le, BitVec.le_def, least_toNat h hlt, ← hrest]
        norm_cast
      rw [frequencyWords_request htype hptr hR hc, ← freq_lt_iff s hR, ← requestRest_eq h hR]
      simp only [hlt, true_and, Option.map_some, FrequencyWords.values, least_toInt h hlt, hrest, Option.some.injEq,
        Demand.Frequency.mk.injEq]
      by_cases hge : requestRest s ≥ (s.usExAirFanMinFreq.setWidth 32 * s.ulExAirFanRated_Vol).sdiv 500
      · have h500 : (requestRest s * 500).toNat = (requestRest s).toNat * 500 := by
          have hV := h.requestedVol
          have hle := (requestRest_toNat h).2
          exact BitVec.toNat_mul_of_lt (by simp; omega)
        rw [if_pos hge, if_pos (hlow.1 hge), Option.map_some, BitVec.toNat_setWidth, BitVec.toNat_udiv, h500, ← hrest]
        norm_cast
        rw [Option.some.injEq, Nat.cast_inj, Nat.mod_eq_iff_lt (by decide)]
      · -- the rest is below the lowest frequency
        have hlt' : (requestRest s).toNat < s.usExAirFanMinFreq.toNat * s.ulExAirFanRated_Vol.toNat / 500 := by
          rw [ge_iff_le, BitVec.le_def, least_toNat h hlt] at hge
          exact Nat.lt_of_not_le hge
        have hmin : s.usExAirFanMinFreq.toNat * s.ulExAirFanRated_Vol.toNat ≤ 500 * s.ulExAirFanRated_Vol.toNat :=
          Nat.mul_le_mul_right _ h.minFreq
        rw [if_neg hge, if_neg (mt hlow.2 hge)]
        simp only [Option.map_none, true_iff]
        rw [Nat.div_lt_iff_lt_mul (by omega)]
        omega
    · -- another volume is copied
      have hne : (ratedCopy s).toNat ≠ s.ulExAirFanRated_Vol.toNat := by
        rw [ratedCopy_toNat]
        omega
      constructor
      · intro heq
        obtain ⟨w, hw, hv⟩ := Option.map_eq_some_iff.1 heq
        have hval : (w.ulExAirFanRated_Vol.toNat : ℤ) = s.ulExAirFanRated_Vol.toNat :=
          congrArg Demand.Frequency.ulExAirFanRated_Vol hv
        rw [frequencyWords_rated hw, ratedCopy_request, Nat.cast_inj] at hval
        exact absurd hval hne
      · intro hfit
        exact absurd hfit.1 (Nat.not_lt.2 hge)

/-- The control of the variable fan never divides by 0. -/
theorem frequencyDivisors_ne (s : System) : ∀ d ∈ frequencyDivisors s, d ≠ 0 := by
  unfold frequencyDivisors
  cases hw : frequencyWords s with
  | none => simp
  | some w =>
    have hcopy : ratedCopy s ≠ 0 := by
      intro h0
      rw [frequencyWords, if_pos (Or.inr (Or.inr h0))] at hw
      cases hw
    intro d hd
    rcases List.mem_append.1 hd with h | h
    · rw [List.mem_singleton.1 h]
      decide
    · split at h
      · rw [List.mem_singleton.1 h, frequencyWords_rated hw]
        exact hcopy
      · cases h

theorem divisors_iff (s : System) :
    (∀ d ∈ requestDivisors s ++ frequencyDivisors (vSystem_ExAirRequest_Vol s), d ≠ 0) ↔
      ((variateUsable s).isSome → s.ulExAirFanRated_Vol ≠ 0 → s.usExAirFanMinFreq ≠ 0) := by
  have hmin : s.usExAirFanMinFreq.setWidth 32 = 0 ↔ s.usExAirFanMinFreq = 0 := by
    rw [← BitVec.toNat_inj, ← BitVec.toNat_inj, BitVec.toNat_setWidth_of_le (by decide)]
    rfl
  constructor
  · intro h hu hR h0
    refine h (s.usExAirFanMinFreq.setWidth 32) (List.mem_append_left _ ?_) (hmin.2 h0)
    rw [requestDivisors, if_pos ⟨hu, hR⟩]
    simp
  · intro h d hd
    rcases List.mem_append.1 hd with h' | h'
    · rw [requestDivisors] at h'
      rcases List.mem_append.1 h' with h' | h'
      · rcases List.mem_append.1 h' with h' | h'
        · rw [List.mem_singleton.1 h']
          decide
        · split at h'
          next hu =>
            rcases List.mem_pair.1 h' with rfl | rfl
            · exact mt hmin.1 (h hu.1 hu.2)
            · exact hu.2
          · cases h'
      · split at h'
        next hu =>
          rw [List.mem_singleton.1 h']
          exact hu.2
        · cases h'
    · exact frequencyDivisors_ne _ d h'

end Words

/-- **The arithmetic of the exhaust demand is exact where the settings fit the words**, and only there. -/
theorem demand_exact_iff (s : System) (h : s.Admitted) : DemandExact s ↔ DemandFits s := by
  constructor
  · intro he
    refine ⟨fun hu hR => ⟨(divisors_iff s).1 he.divisors hu hR, (time_exact_iff h).1 he.time hu hR⟩, ?_⟩
    exact (freq_exact_iff h).1 he.freq
  · intro hf
    refine ⟨(divisors_iff s).2 fun hu hR => (hf.time hu hR).1, ?_, ?_,
      (time_exact_iff h).2 fun hu hR => (hf.time hu hR).2, (freq_exact_iff h).2 hf.freq⟩
    · rw [request_vol_toNat h, demandVol_eq]
    · rw [request_openNum, constantFanOpenNum_toNat _ _ _ h.rated, request_vol_toNat h, demandOpenNum, demandVol_eq]

/-- A plant with a variable fan, with the fresh air and the rated volume given. -/
def variablePlant (ulFreAirSet_Vol ulExAirFanRated_Vol : ULONG) (usExAirFanMinFreq : USHORT) : System :=
  { System.zero with
    eExAirFanType := .TYPE_CONSTANT_VARIABLE
    pExAirFanVariate := some 0
    psExAirFanList := fun _ => { ExAirFan.zero with xExAirFanRemote := true }
    ulFreAirSet_Vol := ulFreAirSet_Vol
    ucExAirCoolRatio := 90
    ulExAirFanRated_Vol := ulExAirFanRated_Vol
    usExAirFanMinFreq := usExAirFanMinFreq
    usExAirFanMaxFreq := 500
    usExAirFanCtrlPeriod := 1800 }

/-- With the settings of the delivery all is exact. -/
theorem demand_exact_default : DemandExact (variablePlant 60000 36000 200) := by
  have h : (variablePlant 60000 36000 200).Admitted := by
    constructor <;> decide
  apply (demand_exact_iff (variablePlant 60000 36000 200) h).2
  constructor
  · intro _ _
    decide
  · intro _ _ _
    decide

/-- With a lowest frequency of 0 there is a division by 0, with one of 1 the product of the request time wraps;
and a rated volume of 65536 is copied as 0, so that the variable fan is not controlled. -/
theorem demand_not_exact :
    ((variablePlant 60000 36000 0).Admitted ∧ ¬DemandExact (variablePlant 60000 36000 0)) ∧
      ((variablePlant 60000 36000 1).Admitted ∧ ¬DemandExact (variablePlant 60000 36000 1)) ∧
      ((variablePlant 60000 65536 200).Admitted ∧ ¬DemandExact (variablePlant 60000 65536 200)) := by
  have h0 : (variablePlant 60000 36000 0).Admitted := by
    constructor <;> decide
  have h1 : (variablePlant 60000 36000 1).Admitted := by
    constructor <;> decide
  have h2 : (variablePlant 60000 65536 200).Admitted := by
    constructor <;> decide
  refine ⟨⟨h0, ?_⟩, ⟨h1, ?_⟩, ⟨h2, ?_⟩⟩
  · intro he
    have hmin := (divisors_iff _).1 he.divisors (by decide) (by decide)
    exact hmin rfl
  · intro he
    have hwrap := (time_exact_iff h1).1 he.time (by decide) (by decide)
    exact absurd hwrap (by decide)
  · intro he
    have hR := (freq_exact_iff h2).1 he.freq rfl (by decide) (by decide)
    exact absurd hR.1 (by decide)

/-! ### How the demand is split -/

section Split

variable {s : System}

theorem openNum_toNat (hq : 0 < s.ulExAirFanRated_Vol.toNat) (hle : s.ulExAirFanRated_Vol.toNat ≤ 100000) :
    (vSystem_ExAirRequest_Vol s).ucConstantFanOpenNum.toNat =
      min 3 ((vSystem_ExAirRequest_Vol s).ulExAirRequest_Vol.toNat / s.ulExAirFanRated_Vol.toNat) := by
  have h := constantFanOpenNum_toNat (vSystem_ExAirRequest_Vol s).ulExAirRequest_Vol s.ulExAirFanRated_Vol
    s.ucConstantFanOpenNum hle
  rw [← request_openNum, openNum_eq _ _ _ hq] at h
  exact_mod_cast h

theorem openNum_covered (hq : 0 < s.ulExAirFanRated_Vol.toNat) (hle : s.ulExAirFanRated_Vol.toNat ≤ 100000) :
    s.ulExAirFanRated_Vol.toNat * (vSystem_ExAirRequest_Vol s).ucConstantFanOpenNum.toNat ≤
      (vSystem_ExAirRequest_Vol s).ulExAirRequest_Vol.toNat := by
  rw [openNum_toNat hq hle]
  exact (Nat.mul_le_mul_left _ (Nat.min_le_right 3 _)).trans (Nat.mul_div_le _ _)

theorem rest_toNat (hq : 0 < s.ulExAirFanRated_Vol.toNat) (hle : s.ulExAirFanRated_Vol.toNat ≤ 100000) :
    (requestRest s).toNat = (vSystem_ExAirRequest_Vol s).ulExAirRequest_Vol.toNat -
      s.ulExAirFanRated_Vol.toNat * (vSystem_ExAirRequest_Vol s).ucConstantFanOpenNum.toNat := by
  have hw : ((vSystem_ExAirRequest_Vol s).ucConstantFanOpenNum.setWidth 32).toNat =
      (vSystem_ExAirRequest_Vol s).ucConstantFanOpenNum.toNat := BitVec.toNat_setWidth_of_le (by decide)
  have hcov := openNum_covered hq hle
  have hlt := (vSystem_ExAirRequest_Vol s).ulExAirRequest_Vol.isLt
  have hp : (s.ulExAirFanRated_Vol * (vSystem_ExAirRequest_Vol s).ucConstantFanOpenNum.setWidth 32).toNat =
      s.ulExAirFanRated_Vol.toNat * (vSystem_ExAirRequest_Vol s).ucConstantFanOpenNum.toNat := by
    rw [BitVec.toNat_mul_of_lt (by rw [hw]; omega), hw]
  rw [requestRest, BitVec.toNat_sub_of_le (by rw [BitVec.le_def, hp]; exact hcov), hp]

/-- Unless three fans are open, less than what one fan moves is left. -/
theorem rest_lt (hq : 0 < s.ulExAirFanRated_Vol.toNat) (hle : s.ulExAirFanRated_Vol.toNat ≤ 100000)
    (h3 : (vSystem_ExAirRequest_Vol s).ucConstantFanOpenNum.toNat ≠ 3) :
    (requestRest s).toNat < s.ulExAirFanRated_Vol.toNat := by
  have hn := openNum_toNat hq hle
  have hk : (vSystem_ExAirRequest_Vol s).ucConstantFanOpenNum.toNat =
      (vSystem_ExAirRequest_Vol s).ulExAirRequest_Vol.toNat / s.ulExAirFanRated_Vol.toNat := by omega
  rw [rest_toNat hq hle, hk]
  have hmod := Nat.mod_lt (vSystem_ExAirRequest_Vol s).ulExAirRequest_Vol.toNat hq
  have hdiv := Nat.div_add_mod (vSystem_ExAirRequest_Vol s).ulExAirRequest_Vol.toNat s.ulExAirFanRated_Vol.toNat
  omega

/-- Where there are constant fans only, one more of them is asked for if the time is long enough for it. -/
theorem request_num (hc : constantOnly s = true) :
    (vSystem_ExAirRequest_Vol s).ucConstantFanRequestNum =
      if (vSystem_ExAirRequest_Vol s).ulExAirFanRequestTime ≥ s.usExAirFanRunTimeLeast.setWidth 32 then
        (vSystem_ExAirRequest_Vol s).ucConstantFanOpenNum + 1
      else (vSystem_ExAirRequest_Vol s).ucConstantFanOpenNum := by
  have hnone : ¬(variateUsable s).isSome = true := by simp [variateUsable_of_constantOnly hc]
  have heq (vol : ULONG) (num : UCHAR) : setRequestTimes vol num s =
      constantRequestTime (vol - s.ulExAirFanRated_Vol * num.setWidth 32) (setRequest vol num s) := by
    have hv : ¬(variateUsable (setRequest vol num s)).isSome = true := hnone
    have hc' : constantOnly (setRequest vol num s) = true := hc
    unfold setRequestTimes
    dsimp only
    rw [if_neg hv, if_pos hc']
  rw [request_eq, heq]
  rfl

/-- The demand is split into fans that are always open and a time for one more: with constant fans only the time is
the exact quotient, and the fan is asked for where it is long enough. -/
structure DemandSplit (s : System) : Prop where
  openNum : (vSystem_ExAirRequest_Vol s).ucConstantFanOpenNum.toNat =
    min 3 ((vSystem_ExAirRequest_Vol s).ulExAirRequest_Vol.toNat / s.ulExAirFanRated_Vol.toNat)
  covered : s.ulExAirFanRated_Vol.toNat * (vSystem_ExAirRequest_Vol s).ucConstantFanOpenNum.toNat ≤
    (vSystem_ExAirRequest_Vol s).ulExAirRequest_Vol.toNat
  rest : (requestRest s).toNat = (vSystem_ExAirRequest_Vol s).ulExAirRequest_Vol.toNat -
    s.ulExAirFanRated_Vol.toNat * (vSystem_ExAirRequest_Vol s).ucConstantFanOpenNum.toNat
  rest_lt : (vSystem_ExAirRequest_Vol s).ucConstantFanOpenNum.toNat ≠ 3 →
    (requestRest s).toNat < s.ulExAirFanRated_Vol.toNat
  time : constantOnly s = true → (vSystem_ExAirRequest_Vol s).ulExAirFanRequestTime.toNat =
    (requestRest s).toNat * s.usExAirFanCtrlPeriod.toNat / s.ulExAirFanRated_Vol.toNat
  time_lt : constantOnly s = true → (vSystem_ExAirRequest_Vol s).ucConstantFanOpenNum.toNat < 3 →
    0 < s.usExAirFanCtrlPeriod.toNat →
    (vSystem_ExAirRequest_Vol s).ulExAirFanRequestTime.toNat < s.usExAirFanCtrlPeriod.toNat
  num : constantOnly s = true → (vSystem_ExAirRequest_Vol s).ucConstantFanRequestNum.toNat =
    if s.usExAirFanRunTimeLeast.toNat ≤ (vSystem_ExAirRequest_Vol s).ulExAirFanRequestTime.toNat then
      (vSystem_ExAirRequest_Vol s).ucConstantFanOpenNum.toNat + 1
    else (vSystem_ExAirRequest_Vol s).ucConstantFanOpenNum.toNat
  monotone : ∀ t : System, t.ulExAirFanRated_Vol = s.ulExAirFanRated_Vol →
    (vSystem_ExAirRequest_Vol s).ulExAirRequest_Vol ≤ (vSystem_ExAirRequest_Vol t).ulExAirRequest_Vol →
    (vSystem_ExAirRequest_Vol s).ucConstantFanOpenNum ≤ (vSystem_ExAirRequest_Vol t).ucConstantFanOpenNum

/-- **The split of the demand**, for every demand and rated volume, where the product of the time has 32 bits. -/
theorem demand_split (s : System) (hq : 1 ≤ s.ulExAirFanRated_Vol.toNat) (hle : s.ulExAirFanRated_Vol.toNat ≤ 100000)
    (hp : (vSystem_ExAirRequest_Vol s).ulExAirRequest_Vol.toNat * s.usExAirFanCtrlPeriod.toNat < 2 ^ 32) :
    DemandSplit s := by
  have hR : s.ulExAirFanRated_Vol ≠ 0 := by
    rintro h0
    simp [h0] at hq
  have hper : (s.usExAirFanCtrlPeriod.setWidth 32).toNat = s.usExAirFanCtrlPeriod.toNat :=
    BitVec.toNat_setWidth_of_le (by decide)
  have hleast : (s.usExAirFanRunTimeLeast.setWidth 32).toNat = s.usExAirFanRunTimeLeast.toNat :=
    BitVec.toNat_setWidth_of_le (by decide)
  have hprod : (requestRest s).toNat * s.usExAirFanCtrlPeriod.toNat < 2 ^ 32 := by
    refine lt_of_le_of_lt (Nat.mul_le_mul_right _ ?_) hp
    rw [rest_toNat hq hle]
    exact Nat.sub_le _ _
  -- the product fits 32 bits, as that of the whole request does
  have htime (hc : constantOnly s = true) : (vSystem_ExAirRequest_Vol s).ulExAirFanRequestTime.toNat =
      (requestRest s).toNat * s.usExAirFanCtrlPeriod.toNat / s.ulExAirFanRated_Vol.toNat := by
    rw [request_time, if_pos ⟨hc, hR⟩, BitVec.toNat_udiv, BitVec.toNat_mul_of_lt (by rw [hper]; exact hprod), hper]
  refine ⟨openNum_toNat hq hle, openNum_covered hq hle, rest_toNat hq hle, rest_lt hq hle, htime, ?_, ?_, ?_⟩
  · intro hc h3 hpos
    rw [htime hc, Nat.div_lt_iff_lt_mul hq, Nat.mul_comm]
    exact Nat.mul_lt_mul_of_pos_left (rest_lt hq hle (by omega)) hpos
  · intro hc
    have hn := openNum_toNat hq hle
    have hge : (vSystem_ExAirRequest_Vol s).ulExAirFanRequestTime ≥ s.usExAirFanRunTimeLeast.setWidth 32 ↔
        s.usExAirFanRunTimeLeast.toNat ≤ (vSystem_ExAirRequest_Vol s).ulExAirFanRequestTime.toNat := by
      rw [ge_iff_le, BitVec.le_def, hleast]
    rw [request_num hc, if_congr hge rfl rfl, apply_ite BitVec.toNat]
    split
    · rw [BitVec.toNat_add_of_lt (by simp; omega)]
      rfl
    · rfl
  · intro t ht hD
    rw [BitVec.le_def, openNum_toNat hq hle, openNum_toNat (by rw [ht]; exact hq) (by rw [ht]; exact hle), ht]
    exact min_le_min_left 3 (Nat.div_le_div_right hD)

/-- With constant fans only and the settings of the delivery. -/
theorem demand_split_default : DemandSplit { variablePlant 60000 36000 200 with eExAirFanType := .TYPE_CONSTANT } :=
  demand_split _ (by decide) (by decide) (by decide)

end Split

end GreeIntense.Control

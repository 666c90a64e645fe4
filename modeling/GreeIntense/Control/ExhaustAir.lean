import GreeIntense.Control.Exhaust
import GreeIntense.Control.Ventilation
import GreeIntense.Lib.Duty
import GreeIntense.Os.Clock

/-!
# The exhaust air that is delivered

What the control of the fans is for, with constant fans only that follow their commands: polls and changes of the times
the fans have run come at any moment, and the settings stay.

* `exhaust_delivered`: the fan ticks after any number of ticks.  Where less than four fans meet the demand and the part
  of the last one is not too short, every control period has what is asked; where it takes four or more, the fourth
  stands at the end of each of its cycles.
-/

namespace GreeIntense.Control

open Os Lib.Duty

/-! ### The plant -/

/-- A fan without what the control sets and what changes while it runs. -/
def ExAirFan.installed (f : ExAirFan) : ExAirFan :=
  { f.uncontrolled with eRunningState := .STATE_STOP, usRunTime_H := 0 }

/-- The system without what the control of the fans sets and what the fans report: settings and installation. -/
def System.plant (s : System) : System := s.blank fun n => (s.fan n).installed

/-- The settings ask for exhaust air, by constant fans that all take commands. -/
structure System.Exhausts (s : System) : Prop where
  mode : s.eSystemMode = .MODE_AUTO ∨ s.eSystemMode = .MODE_EMERGENCY
  type : s.eExAirFanType = .TYPE_CONSTANT
  co2 : (s.usCO2PPM.toNat : ℤ) < s.usCO2AdjustThr_V.toNat - s.usCO2AdjustDeviat.toNat
  admitted : s.Admitted
  rated : 0 < s.ulExAirFanRated_Vol.toNat
  period : 0 < s.usExAirFanCtrlPeriod.toNat
  fans : ∀ n, (s.fan n).eFanFreqType = .CONSTANT_FREQ ∧ s.takes n

/-- How many fans run all the time. -/
def openFansNum (s : System) : ℕ := min 3 (requestedVol s / s.ulExAirFanRated_Vol.toNat)

/-- How many seconds one more runs in a control period. -/
def requestSeconds (s : System) : ℕ :=
  requestedRest s * s.usExAirFanCtrlPeriod.toNat / s.ulExAirFanRated_Vol.toNat

/-- The time is long enough for one more fan. -/
def OneMore (s : System) : Prop := s.usExAirFanRunTimeLeast.toNat ≤ requestSeconds s

instance (s : System) : Decidable (OneMore s) := inferInstanceAs (Decidable (_ ≤ _))

/-- How many fans run while the request timer runs. -/
def requestFansNum (s : System) : ℕ := if OneMore s then openFansNum s + 1 else openFansNum s

section Plant

variable {s t : System}

theorem plant_uncontrolled (s : System) : s.uncontrolled.plant = s.plant := by
  have hout (ch : ℕ) : (if ∃ n, (s.fan n).sSwitch_DO = ch then eCtrlEn.OFF
      else if ∃ n, (s.fan n).sSwitch_DO = ch then .OFF else s.digitalOutput ch) =
        if ∃ n, (s.fan n).sSwitch_DO = ch then .OFF else s.digitalOutput ch := by
    split <;> rfl
  exact congrArg (fun out => { s.plant with digitalOutput := out }) (funext hout)

theorem plant_of_uncontrolled (h : t.uncontrolled = s.uncontrolled) : t.plant = s.plant := by
  rw [← plant_uncontrolled t, h, plant_uncontrolled s]

/-- What holds of the settings and the installation holds of both. -/
theorem plant_transfer {P : System → Prop} (hP : ∀ s, P s ↔ P s.plant) (h : t.plant = s.plant) (hs : P s) : P t :=
  (hP t).mpr (h ▸ (hP s).mp hs)

theorem System.Exhausts.of_plant (h : t.plant = s.plant) (hs : s.Exhausts) : t.Exhausts := by
  refine plant_transfer (fun s => ⟨fun h => ?_, fun h => ?_⟩) h hs
  · exact ⟨h.mode, h.type, h.co2, ⟨h.admitted.1, h.admitted.2, h.admitted.3, h.admitted.4, h.admitted.5, h.admitted.6,
      h.admitted.7⟩, h.rated, h.period, h.fans⟩
  · exact ⟨h.mode, h.type, h.co2, ⟨h.admitted.1, h.admitted.2, h.admitted.3, h.admitted.4, h.admitted.5, h.admitted.6,
      h.admitted.7⟩, h.rated, h.period, h.fans⟩

theorem numbers_of_plant (h : t.plant = s.plant) :
    openFansNum t = openFansNum s ∧ requestSeconds t = requestSeconds s ∧ requestFansNum t = requestFansNum s ∧
      t.usExAirFanCtrlPeriod = s.usExAirFanCtrlPeriod ∧ (OneMore t ↔ OneMore s) := by
  have h1 (s : System) : openFansNum s = openFansNum s.plant := rfl
  have h2 (s : System) : requestSeconds s = requestSeconds s.plant := rfl
  have h3 (s : System) : requestFansNum s = requestFansNum s.plant := rfl
  have h4 (s : System) : s.usExAirFanCtrlPeriod = s.plant.usExAirFanCtrlPeriod := rfl
  have h5 (s : System) : OneMore s ↔ OneMore s.plant := Iff.rfl
  rw [h1 t, h2 t, h3 t, h4 t, h5 t, h]
  exact ⟨rfl, rfl, rfl, rfl, Iff.rfl⟩

theorem System.Exhausts.constantOnly (h : s.Exhausts) : constantOnly s = true := by
  simp [Control.constantOnly, h.type]

theorem System.Exhausts.not_variate (h : s.Exhausts) : variateUsable s = none :=
  variateUsable_of_constantOnly h.constantOnly

theorem System.Exhausts.not_manual (h : s.Exhausts) : ¬(s.eSystemMode = .MODE_MANUAL ∨ s.eSystemMode = .MODE_CLOSE) :=
  Control.not_manual h.mode

end Plant

/-! ### The request -/

/-- The numbers of the request are those of the plant. -/
structure System.Asked (s : System) : Prop where
  openNum : s.ucConstantFanOpenNum.toNat = openFansNum s
  requestNum : s.ucConstantFanRequestNum.toNat = requestFansNum s
  time : s.ulExAirFanRequestTime.toNat = requestSeconds s

section Request

variable {s t : System}

theorem openFansNum_le (s : System) : openFansNum s ≤ 3 := Nat.min_le_left ..

theorem requestFansNum_le (s : System) : requestFansNum s ≤ 4 := by
  have h := openFansNum_le s
  unfold requestFansNum
  split <;> omega

theorem requestSeconds_lt (h : s.Exhausts) : requestedRest s * s.usExAirFanCtrlPeriod.toNat < 2 ^ 32 := by
  have hvol := h.admitted.requestedVol
  have hper := h.admitted.ctrlPeriod
  have hrest : requestedRest s ≤ 260000 := (Nat.sub_le _ _).trans hvol
  calc requestedRest s * s.usExAirFanCtrlPeriod.toNat ≤ 260000 * 7200 := Nat.mul_le_mul hrest hper
    _ < 2 ^ 32 := by decide

/-- **The request computes the numbers.** -/
theorem System.Exhausts.asked (h : s.Exhausts) : (vSystem_ExAirRequest_Vol s).Asked := by
  have hplant : (vSystem_ExAirRequest_Vol s).plant = s.plant :=
    plant_of_uncontrolled (vSystem_ExAirRequest_Vol_uncontrolled s)
  obtain ⟨h1, h2, h3, -, -⟩ := numbers_of_plant hplant
  have hle := h.admitted.rated
  have hvol := request_vol_toNat h.admitted
  have hopen : (vSystem_ExAirRequest_Vol s).ucConstantFanOpenNum.toNat = openFansNum s := by
    rw [openNum_toNat h.rated hle, hvol]
    rfl
  have hR : s.ulExAirFanRated_Vol ≠ 0 := fun h0 => by
    have hpos := h.rated
    rw [h0] at hpos
    exact absurd hpos (by decide)
  have hper : (s.usExAirFanCtrlPeriod.setWidth 32).toNat = s.usExAirFanCtrlPeriod.toNat :=
    BitVec.toNat_setWidth_of_le (by decide)
  have hleast : (s.usExAirFanRunTimeLeast.setWidth 32).toNat = s.usExAirFanRunTimeLeast.toNat :=
    BitVec.toNat_setWidth_of_le (by decide)
  have hrest : (requestRest s).toNat = requestedRest s := by
    rw [rest_toNat h.rated hle, hvol, hopen]
    rfl
  -- the rest is that of the request, and its product with the period does not wrap
  have htime : (vSystem_ExAirRequest_Vol s).ulExAirFanRequestTime.toNat = requestSeconds s := by
    rw [request_time, if_pos ⟨h.constantOnly, hR⟩, BitVec.toNat_udiv, BitVec.toNat_mul_of_lt, hper, hrest]
    · rfl
    · rw [hper, hrest]
      exact requestSeconds_lt h
  refine ⟨hopen.trans h1.symm, ?_, htime.trans h2.symm⟩
  have hge : (vSystem_ExAirRequest_Vol s).ulExAirFanRequestTime ≥ s.usExAirFanRunTimeLeast.setWidth 32 ↔ OneMore s := by
    rw [ge_iff_le, BitVec.le_def, hleast, htime]
    rfl
  have hsmall := openFansNum_le s
  rw [h3, request_num h.constantOnly, if_congr hge rfl rfl, apply_ite BitVec.toNat, requestFansNum]
  split
  · rw [BitVec.toNat_add_of_lt (by rw [hopen]; simp; omega), hopen]
    rfl
  · exact hopen

end Request

/-! ### The fans that are on -/

def System.onFans (s : System) : Finset (Fin EX_AIR_FAN_NUM) := Finset.univ.filter fun n => (s.fan n).eCtrlCmd = .ON

/-- The fans that run are those commanded to. -/
def System.Follows (s : System) : Prop := s.runningFans = s.onFans

instance (s : System) : Decidable s.Follows := inferInstanceAs (Decidable (_ = _))

section Fans

variable {s t : System}

theorem follow_runningFans : s.follow.runningFans = s.onFans := by
  ext n
  have hfan : (s.follow.fan n).eRunningState = if (s.fan n).eCtrlCmd = .ON then .STATE_RUN else .STATE_STOP := rfl
  simp only [System.runningFans, System.onFans, Finset.mem_filter, Finset.mem_univ, true_and, hfan]
  split
  · next hon => exact iff_of_true rfl hon
  · next hoff => exact iff_of_false (by decide) hoff

theorem follow_follows : s.follow.Follows := follow_runningFans

theorem runningFans_of_uncontrolled (h : t.uncontrolled = s.uncontrolled) : t.runningFans = s.runningFans := by
  ext n
  simp only [System.runningFans, Finset.mem_filter, fan_eRunningState h n]

theorem System.Exhausts.usable (h : s.Exhausts) : s.staging.usable = Finset.univ := by
  ext n
  have hn := h.fans n
  simp only [Staging.usable, Finset.mem_filter, Finset.mem_univ, true_and, iff_true]
  exact decide_eq_true ⟨hn.1, hn.2.1, hn.2.2⟩

theorem System.Exhausts.running (h : s.Exhausts) : s.staging.running = s.runningFans := by
  ext n
  rw [Staging.running, h.usable, System.runningFans, Finset.mem_filter, Finset.mem_filter]
  exact and_congr_right fun _ => decide_eq_true_iff

theorem System.Exhausts.calls (h : s.Exhausts) (ucNum : UCHAR) (least : ℕ) :
    s.staging.switchConstantFans ucNum least =
      (s.staging.closed (s.runningFans.card - ucNum.toNat - least)).map .switchClose ++
        (s.staging.opened (ucNum.toNat - s.runningFans.card)).map .switchOpen := by
  have hopen : s.staging.openVariate ucNum = [] := by
    unfold Staging.openVariate
    cases hp : s.staging.pExAirFanVariate with
    | none => rfl
    | some v => exact if_neg fun hc => by have htype := h.type.symm.trans hc.2.1; cases htype
  have hclose : s.staging.closeVariate ucNum = [] := by
    unfold Staging.closeVariate
    cases hp : s.staging.pExAirFanVariate with
    | none => rfl
    | some v => exact if_neg fun hc => by have htype := h.type.symm.trans hc.2.2.1; cases htype
  rw [Staging.switchConstantFans_picked _ (by decide), hopen, hclose, ← Staging.card_running, h.running]
  rfl

theorem System.Exhausts.calls_onFans (h : s.Exhausts) (ht : t.uncontrolled = s.uncontrolled) (ucNum : UCHAR)
    (least : ℕ) :
    ((s.staging.switchConstantFans ucNum least).foldl makeCall t).onFans =
      t.onFans \ (s.staging.closed (s.runningFans.card - ucNum.toNat - least)).toFinset ∪
        (s.staging.opened (ucNum.toNat - s.runningFans.card)).toFinset := by
  set calls := s.staging.switchConstantFans ucNum least with hcalls
  rw [h.calls] at hcalls
  have hopen (n : Fin EX_AIR_FAN_NUM) : FanCall.switchOpen n ∈ calls ↔
      n ∈ s.staging.opened (ucNum.toNat - s.runningFans.card) := by simp [hcalls]
  have hclose (n : Fin EX_AIR_FAN_NUM) : FanCall.switchClose n ∈ calls ↔
      n ∈ s.staging.closed (s.runningFans.card - ucNum.toNat - least) := by simp [hcalls]
  have hcmd (n : Fin EX_AIR_FAN_NUM) : ((calls.foldl makeCall t).fan n).eCtrlCmd =
      (calls.foldl (Commands.call s) t.commands).eCtrlCmd n :=
    congrFun (congrArg Commands.eCtrlCmd (makeCalls_commands ht calls)) n
  ext n
  simp only [System.onFans, Finset.mem_union, Finset.mem_sdiff, Finset.mem_filter, Finset.mem_univ, true_and,
    List.mem_toFinset, hcmd, ← hopen, ← hclose]
  by_cases hc : FanCall.switchClose n ∈ calls
  · -- a running fan that is closed is not opened too
    have ho : FanCall.switchOpen n ∉ calls := fun ho => by
      have hstop := (Staging.mem_opened ((hopen n).mp ho)).2
      rw [(Staging.mem_closed ((hclose n).mp hc)).2] at hstop
      cases hstop
    rw [calls_closed t.commands ho hc]
    simp [hc, ho]
  · rw [calls_on_iff t.commands (h.fans n).2 hc, or_comm, and_iff_left hc]
    rfl

/-- The fans that are closed and opened depend on nothing that the control sets. -/
theorem picked_of_uncontrolled (h : t.uncontrolled = s.uncontrolled) (k : ℕ) :
    t.staging.closed k = s.staging.closed k ∧ t.staging.opened k = s.staging.opened k := by
  have hclosed (u : System) :
      u.staging.closed k = { s.staging with fan := fun n => (u.fan n).uncontrolled }.closed k := rfl
  have hopened (u : System) :
      u.staging.opened k = { s.staging with fan := fun n => (u.fan n).uncontrolled }.opened k := rfl
  have hfans : (fun n => (t.fan n).uncontrolled) = fun n => (s.fan n).uncontrolled :=
    funext fun n => uncontrolled_fan h n
  rw [hclosed t, hopened t, hfans, ← hclosed s, ← hopened s]
  exact ⟨rfl, rfl⟩

/-- The fans that are on where `k` are to run and `i` have been opened already. -/
def System.staged (s : System) (i k : ℕ) : Finset (Fin EX_AIR_FAN_NUM) :=
  s.runningFans \ (s.staging.closed (s.runningFans.card - k)).toFinset ∪
    (s.staging.opened (i - s.runningFans.card)).toFinset

theorem System.Exhausts.staged_card (h : s.Exhausts) {k : ℕ} (hk : k ≤ 4) : (s.staged k k).card = k := by
  have hv : s.staging.eExAirFanType = .TYPE_CONSTANT_VARIABLE → ∀ v, s.staging.pExAirFanVariate = some v →
      (s.staging.fan v).eFanFreqType = .VARIABLE_FREQ := fun hc => by
    have htype := h.type.symm.trans hc
    cases htype
  have hnat : (BitVec.ofNat 8 k).toNat = k := by
    rw [BitVec.toNat_ofNat]
    omega
  have hcard := Staging.card_onAfter_eq (by decide) hv (BitVec.ofNat 8 k) 0
  have hle := Finset.card_le_univ s.runningFans
  rw [Staging.onAfter_eq (by decide) hv, hnat, Nat.sub_zero, h.running, h.usable] at hcard
  rw [Finset.card_univ, Fintype.card_fin] at hcard
  rw [Fintype.card_fin] at hle
  refine hcard.trans ?_
  have h4 : EX_AIR_FAN_NUM = 4 := rfl
  omega

/-- Nothing is closed or opened while the number is right. -/
theorem System.staged_eq {i k : ℕ} (hi : i ≤ s.runningFans.card) (hk : s.runningFans.card ≤ k) :
    s.staged i k = s.runningFans := by
  rw [System.staged, Nat.sub_eq_zero_of_le hi, Nat.sub_eq_zero_of_le hk]
  simp [Staging.closed, Staging.opened]

theorem Staging.opened_subset {num : ℕ} (p : Staging num) {i k : ℕ} (h : i ≤ k) :
    (p.opened i).toFinset ⊆ (p.opened k).toFinset := by
  intro n hn
  rw [List.mem_toFinset] at hn ⊢
  exact (List.take_sublist_take_left h).subset hn

/-- **The fans that are always open.** -/
theorem System.Exhausts.alwaysOpen_onFans (h : s.Exhausts) (ha : s.Asked) (hf : s.Follows) :
    (vSystem_ExAirFanConstantAlwaysOpen s).onFans = s.staged (openFansNum s) (requestFansNum s) := by
  have hle : openFansNum s ≤ requestFansNum s := by
    unfold requestFansNum
    split <;> omega
  have hcalls : s.staging.vSystem_ExAirFanConstantAlwaysOpen =
      s.staging.switchConstantFans s.ucConstantFanOpenNum ((requestFansNum s - openFansNum s : ℕ) : ℤ) := by
    refine (if_neg h.not_manual).trans ?_
    have hleast : ((s.ucConstantFanRequestNum.toNat : ℤ) - s.ucConstantFanOpenNum.toNat) =
        ((requestFansNum s - openFansNum s : ℕ) : ℤ) := by
      rw [ha.openNum, ha.requestNum, Nat.cast_sub hle]
    exact congrArg (s.staging.switchConstantFans s.ucConstantFanOpenNum) hleast
  rw [vSystem_ExAirFanConstantAlwaysOpen_eq, hcalls, h.calls_onFans rfl, ha.openNum, ← hf, Nat.sub_sub,
    Nat.add_sub_cancel' hle]
  rfl

/-- **The fans that are switched**, some of which have been opened already. -/
theorem System.Exhausts.switch_onFans (h : s.Exhausts) (ht : t.uncontrolled = s.uncontrolled) {i : ℕ}
    (hi : i ≤ t.ucConstantFanRequestNum.toNat) (hon : t.onFans = s.staged i t.ucConstantFanRequestNum.toNat) :
    (vSystem_ExAirFanConstantSwitch t).onFans =
      s.staged t.ucConstantFanRequestNum.toNat t.ucConstantFanRequestNum.toNat := by
  have hex := h.of_plant (plant_of_uncontrolled ht)
  set k := t.ucConstantFanRequestNum.toNat with hk
  have hcalls : t.staging.vSystem_ExAirFanConstantSwitch =
      t.staging.switchConstantFans t.ucConstantFanRequestNum ((0 : ℕ) : ℤ) := if_neg hex.not_manual
  have honly (u : System) (g : UCHAR) : System.onFans { u with g_ucConstantFanRequestNum := g } = u.onFans := rfl
  rw [vSystem_ExAirFanConstantSwitch_eq t hex.not_manual, honly, hcalls, hex.calls_onFans rfl,
    runningFans_of_uncontrolled ht, (picked_of_uncontrolled ht _).1, (picked_of_uncontrolled ht _).2, Nat.sub_zero, hon,
    ← hk]
  have hsub := s.staging.opened_subset (Nat.sub_le_sub_right hi s.runningFans.card)
  unfold System.staged
  ext n
  simp only [Finset.mem_union, Finset.mem_sdiff]
  constructor
  · rintro (⟨hl | ho, hc⟩ | ho)
    · exact Or.inl hl
    · exact Or.inr (hsub ho)
    · exact Or.inr ho
  · rintro (hl | ho)
    · exact Or.inl ⟨Or.inl hl, hl.2⟩
    · exact Or.inr ho

end Fans

/-! ### The numbers and the timers -/

/-- The numbers of the request, with the time that was registered last, and the timers. -/
structure Dials where
  ucConstantFanOpenNum : UCHAR
  ucConstantFanRequestNum : UCHAR
  ulExAirFanRequestTime : ULONG
  sExAirFanRequestTimeTmr : OS_TMR
  sExAirFanCtrlTmr : OS_TMR
  g_ulExAirFanRequestTime : ULONG
  g_ucConstantFanRequestNum : UCHAR

def System.dials (s : System) : Dials where
  ucConstantFanOpenNum := s.ucConstantFanOpenNum
  ucConstantFanRequestNum := s.ucConstantFanRequestNum
  ulExAirFanRequestTime := s.ulExAirFanRequestTime
  sExAirFanRequestTimeTmr := s.sExAirFanRequestTimeTmr
  sExAirFanCtrlTmr := s.sExAirFanCtrlTmr
  g_ulExAirFanRequestTime := s.g_ulExAirFanRequestTime
  g_ucConstantFanRequestNum := s.g_ucConstantFanRequestNum

section Dials

variable {s t : System}

theorem Driven.dials (h : Driven s t) : t.dials = s.dials := by
  obtain ⟨list, usFreq, usBMSFreq, out, ana, rfl⟩ := h
  rfl

theorem alwaysOpen_dials (s : System) : (vSystem_ExAirFanConstantAlwaysOpen s).dials = s.dials := by
  rw [vSystem_ExAirFanConstantAlwaysOpen_eq]
  exact (Driven.makeCalls _).dials

theorem switch_dials (h : s.Exhausts) :
    (vSystem_ExAirFanConstantSwitch s).dials = { s.dials with
      g_ucConstantFanRequestNum := s.ucConstantFanRequestNum } := by
  have hcalls := (Driven.makeCalls (s := s) s.staging.vSystem_ExAirFanConstantSwitch).dials
  rw [vSystem_ExAirFanConstantSwitch_eq s h.not_manual]
  exact congrArg (fun d : Dials => { d with g_ucConstantFanRequestNum := d.ucConstantFanRequestNum }) hcalls

theorem System.Asked.of_numbers (ha : s.Asked) (hp : t.plant = s.plant)
    (hopen : t.ucConstantFanOpenNum = s.ucConstantFanOpenNum)
    (hrequest : t.ucConstantFanRequestNum = s.ucConstantFanRequestNum)
    (htime : t.ulExAirFanRequestTime = s.ulExAirFanRequestTime) : t.Asked := by
  obtain ⟨h1, h2, h3, -, -⟩ := numbers_of_plant hp
  exact ⟨by rw [hopen, h1, ha.openNum], by rw [hrequest, h3, ha.requestNum], by rw [htime, h2, ha.time]⟩

theorem System.Asked.of_dials (ha : s.Asked) (hp : t.plant = s.plant) (hd : t.dials = s.dials) : t.Asked :=
  ha.of_numbers hp (congrArg Dials.ucConstantFanOpenNum hd) (congrArg Dials.ucConstantFanRequestNum hd)
    (congrArg Dials.ulExAirFanRequestTime hd)

/-- What the request leaves alone: the fans, the timers and what was registered. -/
theorem request_rest (s : System) :
    (vSystem_ExAirRequest_Vol s).psExAirFanList = s.psExAirFanList ∧
      (vSystem_ExAirRequest_Vol s).dials = { s.dials with
        ucConstantFanOpenNum := (vSystem_ExAirRequest_Vol s).ucConstantFanOpenNum
        ucConstantFanRequestNum := (vSystem_ExAirRequest_Vol s).ucConstantFanRequestNum
        ulExAirFanRequestTime := (vSystem_ExAirRequest_Vol s).ulExAirFanRequestTime } := by
  have hrest := setRequestTimes_kept
    (fun s => (s.psExAirFanList, s.sExAirFanRequestTimeTmr, s.sExAirFanCtrlTmr, s.g_ulExAirFanRequestTime,
      s.g_ucConstantFanRequestNum)) (fun _ _ => rfl) (fun _ _ => rfl)
    (s.ulFreAirSet_Vol * (exAirRatio s).setWidth 32 / 100)
    (constantFanOpenNum (s.ulFreAirSet_Vol * (exAirRatio s).setWidth 32 / 100) s.ulExAirFanRated_Vol
      s.ucConstantFanOpenNum) s
  rw [← request_eq] at hrest
  obtain ⟨hlist, hreq, hctrl, htime, hnum⟩ := Prod.ext_iff.mp hrest |>.imp_right fun h =>
    Prod.ext_iff.mp h |>.imp_right fun h => Prod.ext_iff.mp h |>.imp_right fun h => Prod.ext_iff.mp h
  refine ⟨hlist, ?_⟩
  dsimp only [setRequest] at hreq hctrl htime hnum
  simp only [System.dials, hreq, hctrl, htime, hnum]

theorem onFans_of_list (h : t.psExAirFanList = s.psExAirFanList) :
    t.onFans = s.onFans ∧ t.runningFans = s.runningFans := by
  unfold System.onFans System.runningFans System.fan
  rw [h]
  exact ⟨rfl, rfl⟩

theorem System.Exhausts.request_same (h : s.Exhausts) (ha : s.Asked) :
    (vSystem_ExAirRequest_Vol s).dials = s.dials := by
  obtain ⟨h1, h2, h3, -, -⟩ := numbers_of_plant (plant_of_uncontrolled (vSystem_ExAirRequest_Vol_uncontrolled s))
  have hasked := h.asked
  have hopen : (vSystem_ExAirRequest_Vol s).ucConstantFanOpenNum = s.ucConstantFanOpenNum :=
    BitVec.eq_of_toNat_eq (by rw [hasked.openNum, ha.openNum, h1])
  have hnum : (vSystem_ExAirRequest_Vol s).ucConstantFanRequestNum = s.ucConstantFanRequestNum :=
    BitVec.eq_of_toNat_eq (by rw [hasked.requestNum, ha.requestNum, h3])
  have htime : (vSystem_ExAirRequest_Vol s).ulExAirFanRequestTime = s.ulExAirFanRequestTime :=
    BitVec.eq_of_toNat_eq (by rw [hasked.time, ha.time, h2])
  rw [(request_rest s).2, hopen, hnum, htime]
  rfl

end Dials

/-! ### Callbacks and polls -/

/-- Nothing has changed of what the delivery depends on. -/
structure Exhaust.Kept (x y : Exhaust) : Prop where
  plant : y.sys.plant = x.sys.plant
  dials : y.sys.dials = x.sys.dials
  onFans : y.sys.onFans = x.sys.onFans
  requestRemain : y.requestRemain = x.requestRemain
  ctrlRemain : y.ctrlRemain = x.ctrlRemain
  fanTicks : y.fanTicks = x.fanTicks

section Steps

variable {x y z : Exhaust} {s : System}

theorem Exhaust.Kept.refl (x : Exhaust) : x.Kept x := ⟨rfl, rfl, rfl, rfl, rfl, rfl⟩

theorem Exhaust.Kept.trans (h : x.Kept y) (h' : y.Kept z) : x.Kept z :=
  ⟨h'.plant.trans h.plant, h'.dials.trans h.dials, h'.onFans.trans h.onFans, h'.requestRemain.trans h.requestRemain,
    h'.ctrlRemain.trans h.ctrlRemain, h'.fanTicks.trans h.fanTicks⟩

theorem Exhaust.Kept.follow (h : x.Kept y) : x.Kept (y.on System.follow) :=
  ⟨h.plant, h.dials, h.onFans, h.requestRemain, h.ctrlRemain, h.fanTicks⟩

theorem Exhaust.requestVariate_none (h : variateUsable x.sys = none) : x.requestVariate = x := by
  unfold Exhaust.requestVariate
  rw [h]

theorem request_exhausts (h : s.Exhausts) : (vSystem_ExAirRequest_Vol s).Exhausts :=
  h.of_plant (plant_of_uncontrolled (vSystem_ExAirRequest_Vol_uncontrolled s))

theorem System.Asked.oneMore_iff (ha : s.Asked) :
    s.ulExAirFanRequestTime ≥ s.usExAirFanRunTimeLeast.setWidth 32 ↔ OneMore s := by
  have hleast : (s.usExAirFanRunTimeLeast.setWidth 32).toNat = s.usExAirFanRunTimeLeast.toNat :=
    BitVec.toNat_setWidth_of_le (by decide)
  rw [ge_iff_le, BitVec.le_def, hleast, ha.time]
  rfl

/-- The fan that runs for a part of the period is switched on, and its time is registered. -/
def Exhaust.beginRequest (x : Exhaust) : Exhaust :=
  (x.on fun s => vSystem_ExAirFanConstantSwitch
    { s with g_ulExAirFanRequestTime := s.ulExAirFanRequestTime }).registRequestTime

/-- **The callback of the control timer.** -/
theorem Exhaust.callback_eq (h : x.sys.Exhausts) :
    x.vSystem_ExAirFanCtrlTmrCallback =
      if OneMore x.sys ∧ requestTimeDue (vSystem_ExAirRequest_Vol x.sys) then
        (x.on vSystem_ExAirRequest_Vol).beginRequest
      else x.on vSystem_ExAirRequest_Vol := by
  have hr := request_exhausts h
  have hmore : OneMore (vSystem_ExAirRequest_Vol x.sys) ↔ OneMore x.sys :=
    (numbers_of_plant (plant_of_uncontrolled (vSystem_ExAirRequest_Vol_uncontrolled x.sys))).2.2.2.2
  rw [vSystem_ExAirFanCtrlTmrCallback, if_neg h.not_manual, requestVariate_none (x := x.on vSystem_ExAirRequest_Vol)
    hr.not_variate, requestConstant]
  refine if_congr ?_ rfl rfl
  rw [on_sys, h.asked.oneMore_iff, hmore, and_iff_right hr.constantOnly]

/-- With nothing to begin it computes the numbers again. -/
theorem Exhaust.callback_request (h : x.sys.Exhausts)
    (hno : ¬(OneMore x.sys ∧ requestTimeDue (vSystem_ExAirRequest_Vol x.sys) = true)) :
    x.vSystem_ExAirFanCtrlTmrCallback = x.on vSystem_ExAirRequest_Vol := by
  rw [callback_eq h, if_neg hno]

theorem Exhaust.request_kept (h : x.sys.Exhausts) (ha : x.sys.Asked) : x.Kept (x.on vSystem_ExAirRequest_Vol) :=
  ⟨plant_of_uncontrolled (vSystem_ExAirRequest_Vol_uncontrolled x.sys), h.request_same ha,
    (onFans_of_list (request_rest x.sys).1).1, rfl, rfl, rfl⟩

theorem request_follows (h : s.Follows) : (vSystem_ExAirRequest_Vol s).Follows := by
  obtain ⟨hon, hrun⟩ := onFans_of_list (request_rest s).1
  exact hrun.trans (h.trans hon.symm)

theorem System.Exhausts.due_iff (h : s.Exhausts) (ha : s.Asked)
    (htime : s.g_ulExAirFanRequestTime = s.ulExAirFanRequestTime) :
    requestTimeDue (vSystem_ExAirRequest_Vol s) = true ↔
      s.sExAirFanRequestTimeTmr.State ≠ .OS_TMR_STATE_RUNNING := by
  have hdials := h.request_same ha
  have hreq := congrArg Dials.sExAirFanRequestTimeTmr hdials
  have hg := congrArg Dials.g_ulExAirFanRequestTime hdials
  have ht := congrArg Dials.ulExAirFanRequestTime hdials
  dsimp only [System.dials] at hreq hg ht
  simp [requestTimeDue, hreq, hg, ht, htime]

theorem Exhaust.registRequestTime_spec (x : Exhaust) (htime : x.sys.ulExAirFanRequestTime * TMR_TICK_PER_SECOND ≠ 0) :
    x.registRequestTime = { x.on Control.registRequestTime with
      requestRemain := (x.sys.ulExAirFanRequestTime * TMR_TICK_PER_SECOND).toNat } ∧
    x.registRequestTime.sys.sExAirFanRequestTimeTmr.State = .OS_TMR_STATE_RUNNING := by
  set r := xTimerRegist_create x.sys.ulExAirFanRequestTime 0 .OS_OPT_TMR_ONE_SHOT x.sys.sExAirFanRequestTimeTmr with hr
  have hstart := xTimerRegist_create_startable x.sys.ulExAirFanRequestTime x.sys.sExAirFanRequestTimeTmr
  rw [← hr] at hstart
  have hcreated : r.2 = true := by
    by_contra hno
    exact htime (hstart.refused (by simpa using hno)).2
  have hrun := OSTmrStart_running (hstart.created hcreated)
  have hdly : (OSTmrStart r.1).Dly = x.sys.ulExAirFanRequestTime * TMR_TICK_PER_SECOND := by
    rw [← (xTimerRegist_create_times hcreated).1, ← hr]
    unfold OSTmrStart
    split <;> rfl
  have htmr : (Control.registRequestTime x.sys).sExAirFanRequestTimeTmr = OSTmrStart r.1 := by
    show xTimerRegist _ _ _ _ = _
    rw [xTimerRegist, ← hr]
    exact if_pos hcreated
  have hspec : x.registRequestTime = { x.on Control.registRequestTime with
      requestRemain := (x.sys.ulExAirFanRequestTime * TMR_TICK_PER_SECOND).toNat } := by
    rw [registRequestTime]
    simp only [on_sys, htmr, hrun, hdly, if_true]
  exact ⟨hspec, by rw [registRequestTime_sys, htmr]; exact hrun⟩

/-- One more fan has been switched on, and its time registered. -/
structure Exhaust.Begun (x y : Exhaust) : Prop where
  plant : y.sys.plant = x.sys.plant
  dials : y.sys.dials = { x.sys.dials with
    sExAirFanRequestTimeTmr := y.sys.sExAirFanRequestTimeTmr
    g_ulExAirFanRequestTime := x.sys.ulExAirFanRequestTime
    g_ucConstantFanRequestNum := x.sys.ucConstantFanRequestNum }
  running : y.sys.sExAirFanRequestTimeTmr.State = .OS_TMR_STATE_RUNNING
  requestRemain : y.requestRemain = requestSeconds x.sys * 1000
  onFans : y.sys.onFans.card = requestFansNum x.sys
  ctrlRemain : y.ctrlRemain = x.ctrlRemain
  fanTicks : y.fanTicks = x.fanTicks

theorem Exhaust.beginRequest_spec (h : s.Exhausts) (hx : x.sys.uncontrolled = s.uncontrolled) (ha : x.sys.Asked)
    (hpos : 0 < requestSeconds s) (hfit : requestSeconds s * 1000 < 2 ^ 32) {i : ℕ} (hi : i ≤ requestFansNum s)
    (hon : x.sys.onFans = s.staged i (requestFansNum s)) : x.Begun x.beginRequest := by
  have hplant := plant_of_uncontrolled hx
  have hex := h.of_plant hplant
  obtain ⟨-, hsec, hnum, -, -⟩ := numbers_of_plant hplant
  set t : System := { x.sys with g_ulExAirFanRequestTime := x.sys.ulExAirFanRequestTime } with ht
  have htex : t.Exhausts := System.Exhausts.of_plant (s := x.sys) rfl hex
  have hreq : t.ucConstantFanRequestNum.toNat = requestFansNum s := ha.requestNum.trans hnum
  set y := x.on fun _ => vSystem_ExAirFanConstantSwitch t with hy
  have hyu : y.sys.uncontrolled = x.sys.uncontrolled := vSystem_ExAirFanConstantSwitch_uncontrolled t
  have hyd : y.sys.dials = { t.dials with g_ucConstantFanRequestNum := x.sys.ucConstantFanRequestNum } :=
    switch_dials htex
  -- the switch makes the fans that run those of the request
  have hyon : y.sys.onFans = s.staged (requestFansNum s) (requestFansNum s) := by
    have hswitch := h.switch_onFans (t := t) hx (i := i) (by rw [hreq]; exact hi) (by rw [hreq]; exact hon)
    rwa [hreq] at hswitch
  -- the product of the time and the ticks does not wrap
  have htime : (y.sys.ulExAirFanRequestTime * TMR_TICK_PER_SECOND).toNat = requestSeconds s * 1000 := by
    have hsame : y.sys.ulExAirFanRequestTime = x.sys.ulExAirFanRequestTime :=
      congrArg Dials.ulExAirFanRequestTime hyd
    rw [hsame, BitVec.toNat_mul_of_lt (by rw [ha.time, hsec]; exact hfit), ha.time, hsec]
    rfl
  have hne : y.sys.ulExAirFanRequestTime * TMR_TICK_PER_SECOND ≠ 0 := fun h0 => by
    rw [h0] at htime
    simp at htime
    omega
  obtain ⟨hspec, hrun⟩ := y.registRequestTime_spec hne
  have hbegin : x.beginRequest = y.registRequestTime := rfl
  rw [hbegin]
  refine ⟨?_, ?_, hrun, ?_, ?_, by rw [hspec]; rfl, by rw [hspec]; rfl⟩
  · rw [registRequestTime_sys]
    exact plant_of_uncontrolled (s := x.sys) hyu
  · rw [registRequestTime_sys]
    exact congrArg (fun d : Dials => { d with
      sExAirFanRequestTimeTmr := (Control.registRequestTime y.sys).sExAirFanRequestTimeTmr }) hyd
  · rw [hspec, hsec]
    exact htime
  · rw [registRequestTime_sys, hnum]
    show y.sys.onFans.card = _
    rw [hyon, h.staged_card (requestFansNum_le s)]

theorem foldl_pick {α : Type*} (p : α → α → Prop) [DecidableRel p] (list : List α) (a : α) :
    list.foldl (fun a b => if p a b then b else a) a ∈ a :: list := by
  induction list generalizing a with
  | nil => exact List.mem_singleton.mpr rfl
  | cons b list ih =>
    rw [List.foldl_cons]
    split
    · exact List.mem_cons_of_mem a (ih b)
    · exact List.mem_cons.mpr ((List.mem_cons.mp (ih a)).imp_right (List.mem_cons_of_mem b))

/-- **The callback of the request timer** closes one of the fans that run. -/
theorem System.Exhausts.requestEnd (h : s.Exhausts) (hne : s.runningFans.Nonempty) :
    ∃ f ∈ s.runningFans, vSystem_ExAirFanRequestTimeTmrCallback s = vExAirFan_SwitchClose f s := by
  have hmem (n : Fin EX_AIR_FAN_NUM) : n ∈ (Control.fans.filter fun n => (s.fan n).eFanFreqType = .CONSTANT_FREQ ∧
      (s.fan n).eRunningState = .STATE_RUN) ↔ n ∈ s.runningFans := by
    simp [Control.fans, System.runningFans, (h.fans n).1]
  obtain ⟨f, hf, hlong⟩ : ∃ f ∈ s.runningFans, psSystem_LongestExAirFan s = some f := by
    unfold psSystem_LongestExAirFan
    split
    · next hnil =>
      obtain ⟨n, hn⟩ := hne
      rw [← hmem, hnil] at hn
      cases hn
    · next f list hlist =>
      refine ⟨_, ?_, rfl⟩
      rw [← hmem, hlist]
      exact foldl_pick (fun a b => (s.fan a).usRunTime_H < (s.fan b).usRunTime_H) list f
  refine ⟨f, hf, ?_⟩
  rw [vSystem_ExAirFanRequestTimeTmrCallback, if_pos h.mode]
  simp [h.constantOnly, h.not_variate, hlong]

theorem close_onFans (f : Fin EX_AIR_FAN_NUM) (s : System) :
    (vExAirFan_SwitchClose f s).onFans = s.onFans.erase f := by
  ext n
  have hcmd : ((vExAirFan_SwitchClose f s).fan n).eCtrlCmd = if n = f then .OFF else (s.fan n).eCtrlCmd := by
    have hcall := congrFun (congrArg Commands.eCtrlCmd (makeCall_commands s (.switchClose f))) n
    exact hcall.trans (Function.update_apply _ _ _ _)
  simp only [System.onFans, Finset.mem_erase, Finset.mem_filter, Finset.mem_univ, true_and, hcmd]
  split
  · next hn => exact iff_of_false (by decide) fun hc => hc.1 hn
  · next hn => exact (and_iff_right hn).symm

/-- **The poll** keeps the fans open that are always open, and switches the others. -/
theorem Exhaust.poll_eq (h : x.sys.Exhausts) :
    x.vSystem_ExAirFanCtrl =
      (x.on fun s => vSystem_ExAirFanConstantAlwaysOpen (vSystem_ExAirRequest_Vol s)).pollRequest
        x.sys.usExAirFanCtrlPeriod := by
  have hr := request_exhausts h
  have hper : (vSystem_ExAirFanConstantAlwaysOpen (vSystem_ExAirRequest_Vol x.sys)).usExAirFanCtrlPeriod =
      x.sys.usExAirFanCtrlPeriod := by
    have hu := (vSystem_ExAirFanConstantAlwaysOpen_uncontrolled (vSystem_ExAirRequest_Vol x.sys)).trans
      (vSystem_ExAirRequest_Vol_uncontrolled x.sys)
    exact (numbers_of_plant (plant_of_uncontrolled hu)).2.2.2.1
  have hmanual : x.sys.eSystemMode ≠ .MODE_MANUAL := fun hm => h.not_manual (Or.inl hm)
  have hco2 := h.co2
  have hhigh : ¬x.sys.usCO2PPM.toNat > x.sys.usCO2AdjustThr_V.toNat + x.sys.usCO2AdjustDeviat.toNat := by omega
  have hvar : ¬(variateUsable (x.on vSystem_ExAirRequest_Vol).sys).isSome = true := by
    rw [on_sys, hr.not_variate]
    exact Bool.noConfusion
  unfold vSystem_ExAirFanCtrl
  dsimp only
  rw [if_neg hmanual, if_pos h.mode, if_neg hhigh, if_pos hco2, if_neg hvar, on_sys, if_pos hr.constantOnly,
    vSystem_ExAirFanConstantCtrl, on_sys, if_neg hr.not_manual, if_pos hr.constantOnly]
  dsimp only [on_sys, on]
  rw [hper]

/-- Where the numbers are the plant's and the right fans run, a poll keeps them. -/
theorem Exhaust.poll_open (h : x.sys.Exhausts) (ha : x.sys.Asked) (hf : x.sys.Follows)
    (hle : openFansNum x.sys ≤ x.sys.onFans.card) (hge : x.sys.onFans.card ≤ requestFansNum x.sys) :
    x.Kept (x.on fun s => vSystem_ExAirFanConstantAlwaysOpen (vSystem_ExAirRequest_Vol s)) := by
  set t := vSystem_ExAirRequest_Vol x.sys with ht
  have hlist := onFans_of_list (request_rest x.sys).1
  rw [← ht] at hlist
  have htu : t.uncontrolled = x.sys.uncontrolled := vSystem_ExAirRequest_Vol_uncontrolled x.sys
  obtain ⟨h1, -, h3, -, -⟩ := numbers_of_plant (plant_of_uncontrolled htu)
  have hrun : t.runningFans.card = x.sys.onFans.card := by rw [hlist.2, hf]
  have hopen := (request_exhausts h).alwaysOpen_onFans h.asked (hlist.2.trans (hf.trans hlist.1.symm))
  rw [System.staged_eq (by rw [hrun, h1]; exact hle) (by rw [hrun, h3]; exact hge)] at hopen
  refine ⟨?_, (alwaysOpen_dials t).trans (h.request_same ha), hopen.trans (hlist.2.trans hf), rfl, rfl, rfl⟩
  exact plant_of_uncontrolled ((vSystem_ExAirFanConstantAlwaysOpen_uncontrolled t).trans htu)

/-- **A poll within a cycle** keeps everything. -/
theorem Exhaust.poll_kept (h : x.sys.Exhausts) (ha : x.sys.Asked) (hf : x.sys.Follows)
    (hle : openFansNum x.sys ≤ x.sys.onFans.card) (hge : x.sys.onFans.card ≤ requestFansNum x.sys)
    (hreq : x.sys.sExAirFanRequestTimeTmr.State = .OS_TMR_STATE_RUNNING → x.sys.onFans.card = requestFansNum x.sys)
    (hctrl : x.sys.sExAirFanCtrlTmr.State = .OS_TMR_STATE_RUNNING)
    (hnum : x.sys.g_ucConstantFanRequestNum = x.sys.ucConstantFanRequestNum) : x.Kept x.vSystem_ExAirFanCtrl := by
  have hopen := poll_open h ha hf hle hge
  set y := x.on fun s => vSystem_ExAirFanConstantAlwaysOpen (vSystem_ExAirRequest_Vol s) with hy
  have hyd := hopen.dials
  have hyx := h.of_plant hopen.plant
  have hya := ha.of_dials hopen.plant hopen.dials
  have hyu : y.sys.uncontrolled = x.sys.uncontrolled :=
    (vSystem_ExAirFanConstantAlwaysOpen_uncontrolled _).trans (vSystem_ExAirRequest_Vol_uncontrolled x.sys)
  obtain ⟨h1, -, h3, -, -⟩ := numbers_of_plant hopen.plant
  -- while one more fan runs, the switch finds as many fans running as it is asked for
  have hswitch : y.Kept (if y.sys.sExAirFanRequestTimeTmr.State = .OS_TMR_STATE_RUNNING
      then y.on vSystem_ExAirFanConstantSwitch else y) := by
    split
    · next hr =>
      have htmr : y.sys.sExAirFanRequestTimeTmr = x.sys.sExAirFanRequestTimeTmr :=
        congrArg Dials.sExAirFanRequestTimeTmr hyd
      have hcard := hreq (htmr ▸ hr)
      have hk : y.sys.ucConstantFanRequestNum.toNat = requestFansNum x.sys := hya.requestNum.trans h3
      have hrun : x.sys.runningFans.card = requestFansNum x.sys := (congrArg Finset.card hf).trans hcard
      have hstaged : x.sys.staged (requestFansNum x.sys) (requestFansNum x.sys) = x.sys.runningFans :=
        System.staged_eq hrun.ge hrun.le
      have hon := h.switch_onFans (t := y.sys) hyu (i := requestFansNum x.sys) (by rw [hk])
        (by rw [hk, hstaged, hopen.onFans, hf])
      rw [hk, hstaged, hf, ← hopen.onFans] at hon
      refine ⟨plant_of_uncontrolled (vSystem_ExAirFanConstantSwitch_uncontrolled y.sys), ?_, hon, rfl, rfl, rfl⟩
      have hsame : y.sys.ucConstantFanRequestNum = y.sys.g_ucConstantFanRequestNum := by
        have hg := congrArg Dials.g_ucConstantFanRequestNum hyd
        have hn := congrArg Dials.ucConstantFanRequestNum hyd
        exact hn.trans (hnum.symm.trans hg.symm)
      refine (switch_dials hyx).trans ?_
      rw [hsame]
      rfl
    · exact Kept.refl y
  have hall := hopen.trans hswitch
  -- the control timer runs and the number is the same: the control is not carried out
  rw [poll_eq h, pollRequest, ← hy, if_neg]
  · exact hall
  · have hc := congrArg Dials.sExAirFanCtrlTmr hall.dials
    have hg := congrArg Dials.g_ucConstantFanRequestNum hall.dials
    have hn := congrArg Dials.ucConstantFanRequestNum hall.dials
    dsimp only [System.dials] at hc hg hn
    rw [hc, hg, hn, hctrl, hnum]
    simp

/-! ### Ticks -/

theorem Exhaust.requestTick_idle (h : x.sys.sExAirFanRequestTimeTmr.State ≠ .OS_TMR_STATE_RUNNING) :
    x.requestTick = x := if_neg h

theorem Exhaust.ctrlTick_wait (h : x.sys.sExAirFanCtrlTmr.State = .OS_TMR_STATE_RUNNING) (hne : x.ctrlRemain - 1 ≠ 0) :
    x.ctrlTick = { x with ctrlRemain := x.ctrlRemain - 1 } := by
  rw [ctrlTick, if_pos h]
  exact if_neg hne

theorem Exhaust.ctrlTick_due (h : x.sys.sExAirFanCtrlTmr.State = .OS_TMR_STATE_RUNNING) (heq : x.ctrlRemain - 1 = 0) :
    x.ctrlTick = { x with ctrlRemain := x.sys.sExAirFanCtrlTmr.Period.toNat }.vSystem_ExAirFanCtrlTmrCallback := by
  rw [ctrlTick, if_pos h]
  exact if_pos heq

/-- What is left of the control timer after a tick. -/
def Exhaust.ctrlNext (x : Exhaust) : ℕ :=
  if x.ctrlRemain - 1 = 0 then x.sys.sExAirFanCtrlTmr.Period.toNat else x.ctrlRemain - 1

/-- While the request timer runs, a tick of the control timer changes nothing else. -/
theorem Exhaust.ctrlTick_kept (h : x.sys.Exhausts) (ha : x.sys.Asked)
    (hctrl : x.sys.sExAirFanCtrlTmr.State = .OS_TMR_STATE_RUNNING)
    (hreq : x.sys.sExAirFanRequestTimeTmr.State = .OS_TMR_STATE_RUNNING)
    (htime : x.sys.g_ulExAirFanRequestTime = x.sys.ulExAirFanRequestTime) :
    { x with ctrlRemain := x.ctrlNext }.Kept x.ctrlTick ∧ (x.sys.Follows → x.ctrlTick.sys.Follows) := by
  by_cases hdue : x.ctrlRemain - 1 = 0
  · have hnot : ¬(OneMore x.sys ∧ requestTimeDue (vSystem_ExAirRequest_Vol x.sys) = true) :=
      fun hc => (h.due_iff ha htime).mp hc.2 hreq
    rw [ctrlTick_due hctrl hdue, ctrlNext, if_pos hdue,
      callback_request (x := { x with ctrlRemain := x.sys.sExAirFanCtrlTmr.Period.toNat }) h hnot]
    exact ⟨request_kept (x := { x with ctrlRemain := _ }) h ha, fun hf => request_follows hf⟩
  · rw [ctrlTick_wait hctrl hdue, ctrlNext, if_neg hdue]
    exact ⟨Kept.refl _, id⟩

/-- A tick of the request timer: at its end one fan less is on. -/
structure Exhaust.RequestTicked (x y : Exhaust) : Prop where
  plant : y.sys.plant = x.sys.plant
  dials : y.sys.dials = { x.sys.dials with sExAirFanRequestTimeTmr := y.sys.sExAirFanRequestTimeTmr }
  running : y.sys.sExAirFanRequestTimeTmr.State = .OS_TMR_STATE_RUNNING ↔ x.requestRemain ≠ 1
  requestRemain : y.requestRemain = x.requestRemain - 1
  onFans : y.sys.onFans.card = if x.requestRemain = 1 then x.sys.onFans.card - 1 else x.sys.onFans.card
  ctrlRemain : y.ctrlRemain = x.ctrlRemain
  fanTicks : y.fanTicks = x.fanTicks

theorem Exhaust.requestTick_spec (h : x.sys.Exhausts) (hf : x.sys.Follows) (hne : x.sys.onFans.Nonempty)
    (hrun : x.sys.sExAirFanRequestTimeTmr.State = .OS_TMR_STATE_RUNNING) (hpos : 0 < x.requestRemain) :
    x.RequestTicked x.requestTick := by
  by_cases hdue : x.requestRemain = 1
  · -- the time is over: the callback closes a fan that runs
    set t : System := { x.sys with
      sExAirFanRequestTimeTmr := { x.sys.sExAirFanRequestTimeTmr with State := .OS_TMR_STATE_COMPLETED } } with ht
    have hend := System.Exhausts.requestEnd (s := t) (System.Exhausts.of_plant (s := x.sys) rfl h)
      (show x.sys.runningFans.Nonempty from hf ▸ hne)
    obtain ⟨f, hmem, hclose⟩ := hend
    have htick : x.requestTick = { x with requestRemain := x.requestRemain - 1, sys := vExAirFan_SwitchClose f t } := by
      rw [requestTick, if_pos hrun, ← hclose]
      exact if_pos (by rw [hdue])
    have hdriven : Driven t (vExAirFan_SwitchClose f t) := Driven.makeCalls [.switchClose f]
    have hdials := hdriven.dials
    have hon : f ∈ x.sys.onFans := by
      rw [← hf]
      exact hmem
    have htmr : (vExAirFan_SwitchClose f t).sExAirFanRequestTimeTmr = t.sExAirFanRequestTimeTmr :=
      congrArg Dials.sExAirFanRequestTimeTmr hdials
    rw [htick]
    refine ⟨?_, ?_, ?_, rfl, ?_, rfl, rfl⟩
    · exact plant_of_uncontrolled (s := x.sys) (vExAirFan_SwitchClose_uncontrolled f t)
    · show (vExAirFan_SwitchClose f t).dials = { x.sys.dials with
        sExAirFanRequestTimeTmr := (vExAirFan_SwitchClose f t).sExAirFanRequestTimeTmr }
      rw [hdials, htmr]
      rfl
    · refine iff_of_false ?_ (not_not_intro hdue)
      show (vExAirFan_SwitchClose f t).sExAirFanRequestTimeTmr.State ≠ _
      rw [htmr]
      exact fun hc => by cases hc
    · rw [if_pos hdue]
      show (vExAirFan_SwitchClose f t).onFans.card = _
      rw [close_onFans]
      exact Finset.card_erase_of_mem hon
  · have htick : x.requestTick = { x with requestRemain := x.requestRemain - 1 } := by
      rw [requestTick, if_pos hrun]
      exact if_neg (by show ¬x.requestRemain - 1 = 0; omega)
    rw [htick]
    exact ⟨rfl, rfl, iff_of_true hrun hdue, rfl, (if_neg hdue).symm, rfl, rfl⟩

/-- A tick of both timers, while the request timer runs. -/
structure Exhaust.Ticked (x y : Exhaust) : Prop where
  plant : y.sys.plant = x.sys.plant
  dials : y.sys.dials = { x.sys.dials with sExAirFanRequestTimeTmr := y.sys.sExAirFanRequestTimeTmr }
  running : y.sys.sExAirFanRequestTimeTmr.State = .OS_TMR_STATE_RUNNING ↔ x.requestRemain ≠ 1
  requestRemain : y.requestRemain = x.requestRemain - 1
  onFans : y.sys.onFans.card = if x.requestRemain = 1 then x.sys.onFans.card - 1 else x.sys.onFans.card
  ctrlRemain : y.ctrlRemain = x.ctrlNext
  fanTicks : y.fanTicks = x.fanTicks + x.sys.onFans.card

/-- **The two timers tick in either order**, unless both end in one tick. -/
theorem Exhaust.tick_requesting (ctrlFirst : Bool) (h : x.sys.Exhausts) (ha : x.sys.Asked) (hf : x.sys.Follows)
    (hne : x.sys.onFans.Nonempty) (hctrl : x.sys.sExAirFanCtrlTmr.State = .OS_TMR_STATE_RUNNING)
    (hreq : x.sys.sExAirFanRequestTimeTmr.State = .OS_TMR_STATE_RUNNING)
    (htime : x.sys.g_ulExAirFanRequestTime = x.sys.ulExAirFanRequestTime) (hpos : 0 < x.requestRemain)
    (hone : x.requestRemain = 1 → x.ctrlRemain - 1 ≠ 0) : x.Ticked (x.tick ctrlFirst) := by
  set w : Exhaust := { x with fanTicks := x.fanTicks + x.sys.runningFans.card } with hw
  have hticks : w.fanTicks = x.fanTicks + x.sys.onFans.card := by rw [hw, ← hf]
  have htick : x.tick ctrlFirst = if ctrlFirst then w.ctrlTick.requestTick else w.requestTick.ctrlTick := by
    cases ctrlFirst with
    | true => exact if_pos hreq
    | false => rfl
  rw [htick]
  cases ctrlFirst with
  | true =>
    obtain ⟨hkept, hfollows⟩ := ctrlTick_kept (x := w) h ha hctrl hreq htime
    have hkeptReq : w.ctrlTick.sys.sExAirFanRequestTimeTmr = x.sys.sExAirFanRequestTimeTmr :=
      congrArg Dials.sExAirFanRequestTimeTmr hkept.dials
    have hspec := requestTick_spec (x := w.ctrlTick) (h.of_plant hkept.plant) (hfollows hf)
      (hkept.onFans.symm ▸ hne) (hkeptReq ▸ hreq) (hkept.requestRemain.symm ▸ hpos)
    have hremain : w.ctrlTick.requestRemain = x.requestRemain := hkept.requestRemain
    have hon : w.ctrlTick.sys.onFans = x.sys.onFans := hkept.onFans
    refine ⟨hspec.plant.trans hkept.plant, ?_, hremain ▸ hspec.running, hremain ▸ hspec.requestRemain, ?_,
      hspec.ctrlRemain.trans hkept.ctrlRemain, hspec.fanTicks.trans (hkept.fanTicks.trans hticks)⟩
    · exact hspec.dials.trans (congrArg (fun d : Dials => { d with
        sExAirFanRequestTimeTmr := w.ctrlTick.requestTick.sys.sExAirFanRequestTimeTmr }) hkept.dials)
    · rw [if_pos rfl, ← hremain, ← hon]
      exact hspec.onFans
  | false =>
    have hspec := requestTick_spec (x := w) h hf hne hreq hpos
    have hctrlTmr : w.requestTick.sys.sExAirFanCtrlTmr = x.sys.sExAirFanCtrlTmr :=
      congrArg Dials.sExAirFanCtrlTmr hspec.dials
    have hkept : { w.requestTick with ctrlRemain := x.ctrlNext }.Kept w.requestTick.ctrlTick := by
      have hremain : w.requestTick.ctrlRemain = x.ctrlRemain := hspec.ctrlRemain
      have hnext : w.requestTick.ctrlNext = x.ctrlNext := by rw [ctrlNext, ctrlNext, hremain, hctrlTmr]
      by_cases hend : x.requestRemain = 1
      · -- the request timer has ended, so the control timer does not
        rw [ctrlTick_wait (hctrlTmr ▸ hctrl) (hremain.symm ▸ hone hend), ctrlNext, if_neg (hone hend), hremain]
        exact Kept.refl _
      · rw [← hnext]
        refine (ctrlTick_kept (h.of_plant hspec.plant) ?_ (hctrlTmr ▸ hctrl) (hspec.running.mpr hend) ?_).1
        · exact ha.of_numbers hspec.plant (congrArg Dials.ucConstantFanOpenNum hspec.dials)
            (congrArg Dials.ucConstantFanRequestNum hspec.dials) (congrArg Dials.ulExAirFanRequestTime hspec.dials)
        · exact (congrArg Dials.g_ulExAirFanRequestTime hspec.dials).trans
            (htime.trans (congrArg Dials.ulExAirFanRequestTime hspec.dials).symm)
    have hreqTmr : w.requestTick.ctrlTick.sys.sExAirFanRequestTimeTmr = w.requestTick.sys.sExAirFanRequestTimeTmr :=
      congrArg Dials.sExAirFanRequestTimeTmr hkept.dials
    refine ⟨hkept.plant.trans hspec.plant, ?_, ?_, hkept.requestRemain.trans hspec.requestRemain,
      (congrArg Finset.card hkept.onFans).trans hspec.onFans, hkept.ctrlRemain,
      hkept.fanTicks.trans (hspec.fanTicks.trans hticks)⟩
    · refine hkept.dials.trans (hspec.dials.trans ?_)
      rw [if_neg Bool.false_ne_true, hreqTmr]
    · rw [if_neg Bool.false_ne_true, hreqTmr]
      exact hspec.running

end Steps

/-! ### The cycle -/

def periodTicks (s : System) : ℕ := s.usExAirFanCtrlPeriod.toNat * 1000

def requestTicks (s : System) : ℕ := requestSeconds s * 1000

/-- How many control periods pass until the fan can be switched on again. -/
def cyclePeriods (s : System) : ℕ := requestSeconds s / s.usExAirFanCtrlPeriod.toNat + 1

def cycleTicks (s : System) : ℕ := cyclePeriods s * periodTicks s

/-- The timers end at different moments, and the request time fits its timer. -/
structure Timely (s : System) : Prop where
  apart : ¬s.usExAirFanCtrlPeriod.toNat ∣ requestSeconds s
  fits : requestTicks s < 2 ^ 32

/-- The time of the fan that runs for a part of the cycle, `r` ticks after its beginning. -/
structure Exhaust.Requesting (s : System) (r : ℕ) (x : Exhaust) : Prop where
  running : x.sys.sExAirFanRequestTimeTmr.State = .OS_TMR_STATE_RUNNING
  remains : 0 < x.requestRemain
  remain : r + x.requestRemain = requestTicks s
  onFans : x.sys.onFans.card = openFansNum s + 1

/-- After it. -/
structure Exhaust.Waiting (s : System) (r : ℕ) (x : Exhaust) : Prop where
  stopped : x.sys.sExAirFanRequestTimeTmr.State ≠ .OS_TMR_STATE_RUNNING
  passed : requestTicks s ≤ r
  onFans : x.sys.onFans.card = openFansNum s

/-- **The controller in its cycle `j`**, `r` ticks after the beginning. -/
structure Exhaust.Cycling (s : System) (j r : ℕ) (x : Exhaust) : Prop where
  plant : x.sys.plant = s.plant
  asked : x.sys.Asked
  ctrl : x.sys.sExAirFanCtrlTmr.State = .OS_TMR_STATE_RUNNING
  period : x.sys.sExAirFanCtrlTmr.Period.toNat = periodTicks s
  remains : 0 < x.ctrlRemain
  remain : ∃ m ≤ cyclePeriods s, r + x.ctrlRemain = m * periodTicks s
  num : x.sys.g_ucConstantFanRequestNum = x.sys.ucConstantFanRequestNum
  time : x.sys.g_ulExAirFanRequestTime = x.sys.ulExAirFanRequestTime
  phase : x.Requesting s r ∨ x.Waiting s r
  fanTicks : x.fanTicks = openFansNum s * (cycleTicks s * j + r) + (j * requestTicks s + min r (requestTicks s))

section Cycle

variable {s : System} {x y : Exhaust} {j r : ℕ}

theorem Exhaust.Cycling.of_kept (h : x.Cycling s j r) (hk : x.Kept y) : y.Cycling s j r := by
  have hd := hk.dials
  have hctrl : y.sys.sExAirFanCtrlTmr = x.sys.sExAirFanCtrlTmr := congrArg Dials.sExAirFanCtrlTmr hd
  have hreq : y.sys.sExAirFanRequestTimeTmr = x.sys.sExAirFanRequestTimeTmr :=
    congrArg Dials.sExAirFanRequestTimeTmr hd
  have hnum : y.sys.g_ucConstantFanRequestNum = y.sys.ucConstantFanRequestNum :=
    (congrArg Dials.g_ucConstantFanRequestNum hd).trans
      (h.num.trans (congrArg Dials.ucConstantFanRequestNum hd).symm)
  have htime : y.sys.g_ulExAirFanRequestTime = y.sys.ulExAirFanRequestTime :=
    (congrArg Dials.g_ulExAirFanRequestTime hd).trans (h.time.trans (congrArg Dials.ulExAirFanRequestTime hd).symm)
  refine ⟨hk.plant.trans h.plant, h.asked.of_dials hk.plant hd, hctrl ▸ h.ctrl, hctrl ▸ h.period,
    hk.ctrlRemain ▸ h.remains, hk.ctrlRemain ▸ h.remain, hnum, htime, ?_, hk.fanTicks.trans h.fanTicks⟩
  refine h.phase.imp (fun hp => ?_) fun hp => ?_
  · exact ⟨hreq ▸ hp.running, hk.requestRemain ▸ hp.remains, hk.requestRemain ▸ hp.remain, hk.onFans ▸ hp.onFans⟩
  · exact ⟨hreq ▸ hp.stopped, hp.passed, hk.onFans ▸ hp.onFans⟩

theorem periods_le_iff (hpos : 0 < s.usExAirFanCtrlPeriod.toNat) (m : ℕ) :
    m * periodTicks s ≤ requestTicks s ↔ m < cyclePeriods s := by
  rw [periodTicks, requestTicks, ← mul_assoc, cyclePeriods, Nat.lt_succ_iff, Nat.le_div_iff_mul_le hpos]
  exact Nat.mul_le_mul_right_iff (by decide)

theorem Timely.ne (h : Timely s) (m : ℕ) : m * periodTicks s ≠ requestTicks s := by
  intro heq
  rw [periodTicks, requestTicks, ← mul_assoc] at heq
  exact h.apart ⟨m, by rw [mul_comm]; exact (Nat.eq_of_mul_eq_mul_right (by decide) heq).symm⟩

theorem Timely.requestSeconds_pos (h : Timely s) : 0 < requestSeconds s :=
  Nat.pos_of_ne_zero fun h0 => h.apart (h0 ▸ dvd_zero _)

theorem requestTicks_lt (hpos : 0 < s.usExAirFanCtrlPeriod.toNat) : requestTicks s < cycleTicks s :=
  not_le.mp fun hle => lt_irrefl _ ((periods_le_iff hpos (cyclePeriods s)).mp hle)

theorem Exhaust.Cycling.lt_cycleTicks (h : x.Cycling s j r) : r < cycleTicks s := by
  obtain ⟨m, hm, hr⟩ := h.remain
  have hpos := h.remains
  calc r < r + x.ctrlRemain := Nat.lt_add_of_pos_right hpos
    _ = m * periodTicks s := hr
    _ ≤ cycleTicks s := Nat.mul_le_mul_right _ hm

theorem Exhaust.Cycling.onFans (hone : OneMore s) (h : x.Cycling s j r) :
    openFansNum x.sys ≤ x.sys.onFans.card ∧ x.sys.onFans.card ≤ requestFansNum x.sys ∧
      (x.sys.sExAirFanRequestTimeTmr.State = .OS_TMR_STATE_RUNNING → x.sys.onFans.card = requestFansNum x.sys) := by
  obtain ⟨h1, -, h3, -, -⟩ := numbers_of_plant h.plant
  have hnum : requestFansNum s = openFansNum s + 1 := if_pos hone
  rw [h1, h3, hnum]
  rcases h.phase with hp | hp
  · rw [hp.onFans]
    exact ⟨Nat.le_succ _, le_refl _, fun _ => rfl⟩
  · rw [hp.onFans]
    exact ⟨le_refl _, Nat.le_succ _, fun hr => absurd hr hp.stopped⟩

theorem Exhaust.Cycling.poll (hs : s.Exhausts) (hone : OneMore s) (hf : x.sys.Follows) (h : x.Cycling s j r) :
    x.vSystem_ExAirFanCtrl.Cycling s j r := by
  obtain ⟨hle, hge, hreq⟩ := h.onFans hone
  exact h.of_kept (poll_kept (hs.of_plant h.plant) h.asked hf hle hge hreq h.ctrl h.num)

theorem Exhaust.Begun.cycling (hs : s.Exhausts) (hone : OneMore s) (ht : Timely s) (hb : x.Begun y)
    (hplant : x.sys.plant = s.plant) (ha : x.sys.Asked)
    (hctrl : x.sys.sExAirFanCtrlTmr.State = .OS_TMR_STATE_RUNNING)
    (hperiod : x.sys.sExAirFanCtrlTmr.Period.toNat = periodTicks s) (hremain : x.ctrlRemain = periodTicks s)
    (hticks : x.fanTicks = openFansNum s * (cycleTicks s * j) + j * requestTicks s) : y.Cycling s j 0 := by
  have hd := hb.dials
  obtain ⟨-, hsec, hnum, -, -⟩ := numbers_of_plant hplant
  have hctrlTmr : y.sys.sExAirFanCtrlTmr = x.sys.sExAirFanCtrlTmr := congrArg Dials.sExAirFanCtrlTmr hd
  have hrequest : y.sys.ucConstantFanRequestNum = x.sys.ucConstantFanRequestNum :=
    congrArg Dials.ucConstantFanRequestNum hd
  have htime : y.sys.ulExAirFanRequestTime = x.sys.ulExAirFanRequestTime := congrArg Dials.ulExAirFanRequestTime hd
  have hpos : 0 < periodTicks s := Nat.mul_pos hs.period (by decide)
  have hreqRemain : y.requestRemain = requestTicks s := by rw [hb.requestRemain, hsec, requestTicks]
  refine ⟨hb.plant.trans hplant, ha.of_numbers hb.plant (congrArg Dials.ucConstantFanOpenNum hd) hrequest htime,
    hctrlTmr ▸ hctrl, hctrlTmr ▸ hperiod, ?_, ⟨1, Nat.succ_pos _, ?_⟩,
    (congrArg Dials.g_ucConstantFanRequestNum hd).trans hrequest.symm,
    (congrArg Dials.g_ulExAirFanRequestTime hd).trans htime.symm, Or.inl ⟨hb.running, ?_, ?_, ?_⟩, ?_⟩
  · rw [hb.ctrlRemain, hremain]
    exact hpos
  · rw [hb.ctrlRemain, hremain, Nat.zero_add, Nat.one_mul]
  · rw [hreqRemain]
    exact Nat.mul_pos ht.requestSeconds_pos (by decide)
  · rw [hreqRemain, Nat.zero_add]
  · rw [hb.onFans, hnum]
    exact if_pos hone
  · rw [hb.fanTicks, hticks, Nat.zero_min, Nat.add_zero, Nat.add_zero]

/-- **A cycle begins** when the control timer ends and no time runs. -/
theorem Exhaust.Cycling.begins (hs : s.Exhausts) (hone : OneMore s) (ht : Timely s) (hplant : x.sys.plant = s.plant)
    (ha : x.sys.Asked) (hf : x.sys.Follows) (hon : x.sys.onFans.card = openFansNum s)
    (hstop : x.sys.sExAirFanRequestTimeTmr.State ≠ .OS_TMR_STATE_RUNNING)
    (hctrl : x.sys.sExAirFanCtrlTmr.State = .OS_TMR_STATE_RUNNING)
    (hperiod : x.sys.sExAirFanCtrlTmr.Period.toNat = periodTicks s) (hremain : x.ctrlRemain = periodTicks s)
    (htime : x.sys.g_ulExAirFanRequestTime = x.sys.ulExAirFanRequestTime)
    (hticks : x.fanTicks = openFansNum s * (cycleTicks s * j) + j * requestTicks s) :
    x.vSystem_ExAirFanCtrlTmrCallback.Cycling s j 0 := by
  have hx := hs.of_plant hplant
  obtain ⟨h1, h2, h3, -, h5⟩ := numbers_of_plant hplant
  have hk := Exhaust.request_kept hx ha
  set w := x.on vSystem_ExAirRequest_Vol with hw
  have hnum : requestFansNum s = openFansNum s + 1 := if_pos hone
  have hrun : x.sys.runningFans.card = openFansNum s := by rw [hf, hon]
  have hstaged : w.sys.onFans = x.sys.staged (openFansNum s) (requestFansNum x.sys) := by
    rw [System.staged_eq hrun.ge (by rw [hrun, h3, hnum]; exact Nat.le_succ _), hk.onFans, hf]
  have hb := Exhaust.beginRequest_spec hx (x := w) (vSystem_ExAirRequest_Vol_uncontrolled x.sys)
    (ha.of_dials hk.plant hk.dials) (by rw [h2]; exact ht.requestSeconds_pos) (by rw [h2]; exact ht.fits)
    (by rw [h3, hnum]; exact Nat.le_succ _) hstaged
  have hctrlTmr : w.sys.sExAirFanCtrlTmr = x.sys.sExAirFanCtrlTmr := congrArg Dials.sExAirFanCtrlTmr hk.dials
  rw [Exhaust.callback_eq hx, if_pos ⟨h5.mpr hone, (hx.due_iff ha htime).mpr hstop⟩]
  exact hb.cycling hs hone ht (hk.plant.trans hplant) (ha.of_dials hk.plant hk.dials) (hctrlTmr ▸ hctrl)
    (hctrlTmr ▸ hperiod) hremain hticks

theorem Exhaust.Cycling.tick_requesting (ctrlFirst : Bool) (hs : s.Exhausts) (ht : Timely s) (hf : x.sys.Follows)
    (h : x.Cycling s j r) (hp : x.Requesting s r) : (x.tick ctrlFirst).Cycling s j (r + 1) := by
  obtain ⟨m, hm, hr⟩ := h.remain
  have hcpos := h.remains
  have hrpos := hp.remains
  have hsum := hp.remain
  have hend : x.requestRemain = 1 → x.ctrlRemain - 1 ≠ 0 := fun h1 h0 => ht.ne m (by omega)
  have htick := Exhaust.tick_requesting ctrlFirst (hs.of_plant h.plant) h.asked hf
    (Finset.card_pos.mp (by rw [hp.onFans]; exact Nat.succ_pos _)) h.ctrl hp.running h.time hrpos hend
  set y := x.tick ctrlFirst with hy
  have hd := htick.dials
  have hctrl : y.sys.sExAirFanCtrlTmr = x.sys.sExAirFanCtrlTmr := congrArg Dials.sExAirFanCtrlTmr hd
  have hasked : y.sys.Asked := h.asked.of_numbers htick.plant (congrArg Dials.ucConstantFanOpenNum hd)
    (congrArg Dials.ucConstantFanRequestNum hd) (congrArg Dials.ulExAirFanRequestTime hd)
  have hnum : y.sys.g_ucConstantFanRequestNum = y.sys.ucConstantFanRequestNum :=
    (congrArg Dials.g_ucConstantFanRequestNum hd).trans
      (h.num.trans (congrArg Dials.ucConstantFanRequestNum hd).symm)
  have htime : y.sys.g_ulExAirFanRequestTime = y.sys.ulExAirFanRequestTime :=
    (congrArg Dials.g_ulExAirFanRequestTime hd).trans (h.time.trans (congrArg Dials.ulExAirFanRequestTime hd).symm)
  have hperiod : 0 < periodTicks s := Nat.mul_pos hs.period (by decide)
  have hnext : 0 < y.ctrlRemain ∧ ∃ m ≤ cyclePeriods s, r + 1 + y.ctrlRemain = m * periodTicks s := by
    rw [htick.ctrlRemain, Exhaust.ctrlNext]
    split
    · -- another period begins within the request time
      rw [h.period]
      have hlt := (periods_le_iff hs.period m).mp (by omega)
      exact ⟨hperiod, m + 1, hlt, by rw [add_mul, one_mul]; omega⟩
    · exact ⟨by omega, m, hm, by omega⟩
  refine ⟨htick.plant.trans h.plant, hasked, hctrl ▸ h.ctrl, hctrl ▸ h.period, hnext.1, hnext.2, hnum, htime, ?_, ?_⟩
  · by_cases h1 : x.requestRemain = 1
    · refine Or.inr ⟨fun hc => htick.running.mp hc h1, by omega, ?_⟩
      rw [htick.onFans, if_pos h1, hp.onFans, Nat.add_sub_cancel]
    · refine Or.inl ⟨htick.running.mpr h1, ?_, ?_, ?_⟩
      · rw [htick.requestRemain]
        omega
      · rw [htick.requestRemain]
        omega
      · rw [htick.onFans, if_neg h1, hp.onFans]
  · have hmin : min (r + 1) (requestTicks s) = min r (requestTicks s) + 1 := by omega
    rw [htick.fanTicks, h.fanTicks, hp.onFans, hmin]
    ring

theorem Exhaust.Cycling.tick_waiting (ctrlFirst : Bool) (hs : s.Exhausts) (hone : OneMore s) (ht : Timely s)
    (hf : x.sys.Follows) (h : x.Cycling s j r) (hp : x.Waiting s r) :
    (x.tick ctrlFirst).Cycling s j (r + 1) ∨
      r + 1 = cycleTicks s ∧ (x.tick ctrlFirst).Cycling s (j + 1) 0 := by
  obtain ⟨m, hm, hr⟩ := h.remain
  have hcpos := h.remains
  have hover := hp.passed
  set w : Exhaust := { x with fanTicks := x.fanTicks + x.sys.runningFans.card } with hw
  have hwticks : w.fanTicks = x.fanTicks + openFansNum s := by
    rw [hw, ← hp.onFans, ← hf]
  have htick : x.tick ctrlFirst = w.ctrlTick := by
    cases ctrlFirst with
    | true => exact if_neg hp.stopped
    | false => exact congrArg Exhaust.ctrlTick (Exhaust.requestTick_idle (x := w) hp.stopped)
  rw [htick]
  by_cases hdue : x.ctrlRemain - 1 = 0
  · right
    -- the first period that ends after the request time ends the cycle
    have hm' : m = cyclePeriods s :=
      le_antisymm hm (not_lt.mp fun hlt => by have hle := (periods_le_iff hs.period m).mpr hlt; omega)
    have hcycle : r + 1 = cycleTicks s := by rw [cycleTicks, ← hm', ← hr]; omega
    refine ⟨hcycle, ?_⟩
    rw [Exhaust.ctrlTick_due (x := w) h.ctrl hdue]
    refine Exhaust.Cycling.begins hs hone ht h.plant h.asked hf hp.onFans hp.stopped h.ctrl h.period h.period h.time ?_
    show w.fanTicks = _
    rw [hwticks, h.fanTicks, Nat.min_eq_right hover, ← hcycle]
    ring
  · left
    rw [Exhaust.ctrlTick_wait (x := w) h.ctrl hdue]
    refine ⟨h.plant, h.asked, h.ctrl, h.period, by show 0 < x.ctrlRemain - 1; omega, ⟨m, hm, ?_⟩, h.num, h.time,
      Or.inr ⟨hp.stopped, by omega, hp.onFans⟩, ?_⟩
    · show r + 1 + (x.ctrlRemain - 1) = _
      omega
    · have hmin : min (r + 1) (requestTicks s) = min r (requestTicks s) := by omega
      show w.fanTicks = _
      rw [hwticks, h.fanTicks, hmin]
      ring

theorem Exhaust.Cycling.tick (ctrlFirst : Bool) (hs : s.Exhausts) (hone : OneMore s) (ht : Timely s)
    (hf : x.sys.Follows) (h : x.Cycling s j r) :
    (x.tick ctrlFirst).Cycling s j (r + 1) ∨
      r + 1 = cycleTicks s ∧ (x.tick ctrlFirst).Cycling s (j + 1) 0 := by
  rcases h.phase with hp | hp
  · exact Or.inl (h.tick_requesting ctrlFirst hs ht hf hp)
  · exact h.tick_waiting ctrlFirst hs hone ht hf hp

theorem Exhaust.Cycling.delivered (hs : s.Exhausts) (h : x.Cycling s j r) :
    x.fanTicks = openFansNum s * (cycleTicks s * j + r) +
      onTicks (cycleTicks s) (requestTicks s) (cycleTicks s * j + r) := by
  have hlt := requestTicks_lt hs.period
  rw [h.fanTicks, onTicks_le j ((Nat.zero_le _).trans_lt hlt) hlt.le h.lt_cycleTicks.le]

end Cycle

/-! ### No part of a period -/

/-- The time is too short for one more fan: nothing changes but the control timer. -/
structure Exhaust.Resting (s : System) (e : ℕ) (x : Exhaust) : Prop where
  plant : x.sys.plant = s.plant
  asked : x.sys.Asked
  stopped : x.sys.sExAirFanRequestTimeTmr.State ≠ .OS_TMR_STATE_RUNNING
  onFans : x.sys.onFans.card = openFansNum s
  fanTicks : x.fanTicks = openFansNum s * e

section Rest

variable {s : System} {x y : Exhaust} {e : ℕ}

theorem Exhaust.Resting.of_kept (h : x.Resting s e) (hk : x.Kept y) : y.Resting s e := by
  have hreq : y.sys.sExAirFanRequestTimeTmr = x.sys.sExAirFanRequestTimeTmr :=
    congrArg Dials.sExAirFanRequestTimeTmr hk.dials
  exact ⟨hk.plant.trans h.plant, h.asked.of_dials hk.plant hk.dials, hreq ▸ h.stopped,
    (congrArg Finset.card hk.onFans).trans h.onFans, hk.fanTicks.trans h.fanTicks⟩

/-- The control timer is not looked at. -/
theorem Exhaust.Resting.ctrl (h : x.Resting s e) (tmr : OS_TMR) (ctrlRemain : ℕ) :
    Exhaust.Resting s e { x.on fun s => { s with sExAirFanCtrlTmr := tmr } with ctrlRemain } :=
  ⟨h.plant, h.asked.of_numbers rfl rfl rfl rfl, h.stopped, h.onFans, h.fanTicks⟩

theorem Exhaust.Resting.callback (hs : s.Exhausts) (hno : ¬OneMore s) (h : x.Resting s e) :
    x.vSystem_ExAirFanCtrlTmrCallback.Resting s e := by
  have hx := hs.of_plant h.plant
  have hno' : ¬OneMore x.sys := fun hc => hno ((numbers_of_plant h.plant).2.2.2.2.mp hc)
  rw [Exhaust.callback_request hx fun hc => hno' hc.1]
  exact h.of_kept (Exhaust.request_kept hx h.asked)

theorem Exhaust.Resting.pollRequest (hs : s.Exhausts) (hno : ¬OneMore s) (h : x.Resting s e)
    (usExAirFanCtrlPeriod : USHORT) : (x.pollRequest usExAirFanCtrlPeriod).Resting s e := by
  unfold Exhaust.pollRequest
  rw [if_neg h.stopped]
  dsimp only
  split
  · unfold Exhaust.registCtrl
    dsimp only
    split
    · exact Exhaust.Resting.ctrl (Exhaust.Resting.callback hs hno (h.ctrl _ x.ctrlRemain)) _ _
    · exact h.ctrl _ x.ctrlRemain
  · exact h

theorem Exhaust.Resting.poll (hs : s.Exhausts) (hno : ¬OneMore s) (hf : x.sys.Follows) (h : x.Resting s e) :
    x.vSystem_ExAirFanCtrl.Resting s e := by
  have hx := hs.of_plant h.plant
  obtain ⟨h1, -, h3, -, -⟩ := numbers_of_plant h.plant
  have hnum : requestFansNum s = openFansNum s := if_neg hno
  rw [Exhaust.poll_eq hx]
  refine Exhaust.Resting.pollRequest hs hno (h.of_kept (Exhaust.poll_open hx h.asked hf ?_ ?_)) _
  · rw [h1, h.onFans]
  · rw [h3, hnum, h.onFans]

theorem Exhaust.Resting.tick (ctrlFirst : Bool) (hs : s.Exhausts) (hno : ¬OneMore s) (hf : x.sys.Follows)
    (h : x.Resting s e) : (x.tick ctrlFirst).Resting s (e + 1) := by
  set w : Exhaust := { x with fanTicks := x.fanTicks + x.sys.runningFans.card } with hw
  have hrest : w.Resting s (e + 1) := by
    refine ⟨h.plant, h.asked, h.stopped, h.onFans, ?_⟩
    rw [hw, hf]
    show x.fanTicks + x.sys.onFans.card = _
    rw [h.fanTicks, h.onFans, Nat.mul_succ]
  have htick : x.tick ctrlFirst = w.ctrlTick := by
    cases ctrlFirst with
    | true => exact if_neg h.stopped
    | false => exact congrArg Exhaust.ctrlTick (Exhaust.requestTick_idle (x := w) h.stopped)
  rw [htick]
  unfold Exhaust.ctrlTick
  dsimp only
  split
  · split
    · exact Exhaust.Resting.callback hs hno (hrest.ctrl w.sys.sExAirFanCtrlTmr _)
    · exact hrest.ctrl w.sys.sExAirFanCtrlTmr _
  · exact hrest

end Rest

/-! ### The delivery -/

/-- Where the controller is after `e` ticks. -/
structure Exhaust.Delivering (s : System) (e : ℕ) (x : Exhaust) : Prop where
  follows : x.sys.Follows
  cycling : OneMore s → ∃ j r, e = cycleTicks s * j + r ∧ x.Cycling s j r
  resting : ¬OneMore s → x.Resting s e

section Delivery

variable {s : System} {x : Exhaust} {e : ℕ}

theorem due_of_stopped (h : s.sExAirFanRequestTimeTmr.State ≠ .OS_TMR_STATE_RUNNING) :
    requestTimeDue (vSystem_ExAirRequest_Vol s) = true := by
  have hreq : (vSystem_ExAirRequest_Vol s).sExAirFanRequestTimeTmr = s.sExAirFanRequestTimeTmr :=
    congrArg Dials.sExAirFanRequestTimeTmr (request_rest s).2
  simp [requestTimeDue, hreq, h]

theorem System.Exhausts.ctrl_started (h : s.Exhausts) (tmr : OS_TMR) :
    let r := xTimerRegist_create 0 (s.usExAirFanCtrlPeriod.setWidth 32) .OS_OPT_TMR_PERIODIC tmr
    r.2 = true ∧ (OSTmrStart r.1).State = .OS_TMR_STATE_RUNNING ∧
      (OSTmrStart r.1).Period.toNat = periodTicks s ∧
        (if r.1.Dly = 0 then r.1.Period.toNat else r.1.Dly.toNat) = periodTicks s := by
  intro r
  have hle := h.admitted.ctrlPeriod
  have hwide : (s.usExAirFanCtrlPeriod.setWidth 32).toNat = s.usExAirFanCtrlPeriod.toNat :=
    BitVec.toNat_setWidth_of_le (by decide)
  -- at most two hours: the ticks fit 32 bits
  have hticks : (s.usExAirFanCtrlPeriod.setWidth 32 * TMR_TICK_PER_SECOND).toNat = periodTicks s := by
    have hfit : (s.usExAirFanCtrlPeriod.setWidth 32).toNat * TMR_TICK_PER_SECOND.toNat < 2 ^ 32 := by
      rw [hwide]
      calc s.usExAirFanCtrlPeriod.toNat * 1000 ≤ 7200 * 1000 := Nat.mul_le_mul_right _ hle
        _ < 2 ^ 32 := by decide
    rw [BitVec.toNat_mul_of_lt hfit, hwide]
    rfl
  have hne : s.usExAirFanCtrlPeriod.setWidth 32 * TMR_TICK_PER_SECOND ≠ 0 := fun h0 => by
    have hpos := Nat.mul_pos h.period (show 0 < 1000 by decide)
    rw [h0] at hticks
    exact hpos.ne hticks
  obtain ⟨hcreated, hstate⟩ := xTimerRegist_create_periodic hne tmr
  obtain ⟨hdly, hperiod⟩ := xTimerRegist_create_times hcreated
  have hstart : (OSTmrStart r.1).Period = r.1.Period := by
    unfold OSTmrStart
    split <;> rfl
  refine ⟨hcreated, OSTmrStart_running hstate, ?_, ?_⟩
  · rw [hstart, hperiod, hticks]
  · rw [if_pos (hdly.trans (by decide)), hperiod, hticks]

theorem Exhaust.Begun.ctrl {y : Exhaust} (h : x.Begun y) (tmr : OS_TMR) (ctrlRemain : ℕ) :
    Exhaust.Begun { x.on fun s => { s with sExAirFanCtrlTmr := tmr } with ctrlRemain }
      { y.on fun s => { s with sExAirFanCtrlTmr := tmr } with ctrlRemain } :=
  ⟨h.plant, congrArg (fun d : Dials => { d with sExAirFanCtrlTmr := tmr }) h.dials, h.running, h.requestRemain,
    h.onFans, rfl, h.fanTicks⟩

theorem Exhaust.start_eq {tmr : OS_TMR} (h : x.sys.sExAirFanCtrlTmr = tmr) (ctrlRemain : ℕ) :
    { x.on fun s => { s with sExAirFanCtrlTmr := OSTmrStart s.sExAirFanCtrlTmr } with ctrlRemain } =
      { x.on fun s => { s with sExAirFanCtrlTmr := OSTmrStart tmr } with ctrlRemain } := by
  subst h
  rfl

/-- The control timer is registered, which starts the time of one more fan. -/
theorem Exhaust.registCtrl_cycling {t : System} (hs : s.Exhausts) (hone : OneMore s) (ht : Timely s)
    (htx : t.Exhausts) (hplant : x.sys.plant = s.plant) (hu : x.sys.uncontrolled = t.uncontrolled)
    (hon : x.sys.onFans = t.staged (openFansNum t) (requestFansNum t))
    (hreq : x.sys.sExAirFanRequestTimeTmr.State ≠ .OS_TMR_STATE_RUNNING) (h0 : x.fanTicks = 0) :
    (x.registCtrl s.usExAirFanCtrlPeriod).Cycling s 0 0 := by
  obtain ⟨-, h2, -, -, h5⟩ := numbers_of_plant ((plant_of_uncontrolled hu).symm.trans hplant)
  have hnum : requestFansNum t = openFansNum t + 1 := if_pos (h5.mpr hone)
  obtain ⟨hcreated, hrunning, hperiod, hremain⟩ := hs.ctrl_started x.sys.sExAirFanCtrlTmr
  set r := xTimerRegist_create 0 (s.usExAirFanCtrlPeriod.setWidth 32) .OS_OPT_TMR_PERIODIC
    x.sys.sExAirFanCtrlTmr with hr
  set y := x.on fun s => { s with sExAirFanCtrlTmr := r.1 } with hy
  have hyx : y.sys.Exhausts := hs.of_plant hplant
  have hyone : OneMore y.sys := (numbers_of_plant (t := y.sys) hplant).2.2.2.2.mpr hone
  set w := y.on vSystem_ExAirRequest_Vol with hw
  have hwu : w.sys.uncontrolled = y.sys.uncontrolled := vSystem_ExAirRequest_Vol_uncontrolled y.sys
  have hwasked : w.sys.Asked := hyx.asked
  have hwon : w.sys.onFans = x.sys.onFans := (onFans_of_list (request_rest y.sys).1).1
  have hb := Exhaust.beginRequest_spec htx (x := w) (hwu.trans hu) hwasked (by rw [h2]; exact ht.requestSeconds_pos)
    (by rw [h2]; exact ht.fits) (by rw [hnum]; exact Nat.le_succ _) (hwon.trans hon)
  have hcallback : y.vSystem_ExAirFanCtrlTmrCallback = w.beginRequest := by
    rw [Exhaust.callback_eq hyx, if_pos ⟨hyone, due_of_stopped hreq⟩]
  have hwctrl : w.beginRequest.sys.sExAirFanCtrlTmr = r.1 :=
    (congrArg Dials.sExAirFanCtrlTmr hb.dials).trans (congrArg Dials.sExAirFanCtrlTmr (request_rest y.sys).2)
  have hstarted : x.registCtrl s.usExAirFanCtrlPeriod =
      { w.beginRequest.on fun s => { s with sExAirFanCtrlTmr := OSTmrStart r.1 } with
        ctrlRemain := periodTicks s } := by
    rw [Exhaust.registCtrl, ← hr, if_pos hcreated, hremain, ← hy, hcallback]
    exact Exhaust.start_eq hwctrl _
  have hwplant : w.sys.plant = s.plant := (plant_of_uncontrolled hwu).trans hplant
  have hwticks : w.fanTicks = 0 := h0
  have hz := hb.ctrl (OSTmrStart r.1) (periodTicks s)
  clear_value w y r
  rw [hstarted]
  refine hz.cycling hs hone ht hwplant (hwasked.of_numbers rfl rfl rfl rfl) hrunning hperiod rfl ?_
  rw [Nat.mul_zero, Nat.mul_zero, Nat.zero_mul]
  exact hwticks

/-- **The first poll**: the fans that are always open, and what the control timer starts. -/
theorem Exhaust.delivering_first (hs : x.sys.Exhausts) (hf : x.sys.Follows)
    (hreq : x.sys.sExAirFanRequestTimeTmr.State ≠ .OS_TMR_STATE_RUNNING)
    (hctrl : x.sys.sExAirFanCtrlTmr.State ≠ .OS_TMR_STATE_RUNNING) (h0 : x.fanTicks = 0)
    (ht : OneMore x.sys → Timely x.sys) : (exhaustStep x .poll).Delivering x.sys 0 := by
  set t := vSystem_ExAirRequest_Vol x.sys with htdef
  have htu : t.uncontrolled = x.sys.uncontrolled := vSystem_ExAirRequest_Vol_uncontrolled x.sys
  obtain ⟨h1, -, h3, -, -⟩ := numbers_of_plant (plant_of_uncontrolled htu)
  have htx : t.Exhausts := request_exhausts hs
  have hon := htx.alwaysOpen_onFans hs.asked (request_follows hf)
  set y := x.on fun s => vSystem_ExAirFanConstantAlwaysOpen (vSystem_ExAirRequest_Vol s) with hy
  have hyu : y.sys.uncontrolled = t.uncontrolled := vSystem_ExAirFanConstantAlwaysOpen_uncontrolled t
  have hyplant : y.sys.plant = x.sys.plant := plant_of_uncontrolled (hyu.trans htu)
  have hya : y.sys.Asked := hs.asked.of_dials (plant_of_uncontrolled hyu) (alwaysOpen_dials t)
  have hyd : y.sys.dials = t.dials := alwaysOpen_dials t
  have hyreq : y.sys.sExAirFanRequestTimeTmr = x.sys.sExAirFanRequestTimeTmr :=
    congrArg Dials.sExAirFanRequestTimeTmr (hyd.trans (request_rest x.sys).2)
  have hyctrl : y.sys.sExAirFanCtrlTmr = x.sys.sExAirFanCtrlTmr :=
    congrArg Dials.sExAirFanCtrlTmr (hyd.trans (request_rest x.sys).2)
  have hyon : y.sys.onFans = t.staged (openFansNum t) (requestFansNum t) := hon
  have hyticks : y.fanTicks = 0 := h0
  have hfollow {z : Exhaust} : z.Kept (z.on System.follow) := (Exhaust.Kept.refl z).follow
  -- the poll stages the fans, and then has the control timer registered
  have hpoll : exhaustStep x .poll = (y.pollRequest x.sys.usExAirFanCtrlPeriod).on System.follow :=
    congrArg (Exhaust.on System.follow) (Exhaust.poll_eq hs)
  clear_value y t
  rw [← hyreq] at hreq
  rw [← hyctrl] at hctrl
  rw [hpoll]
  refine ⟨follow_follows, fun hone => ⟨0, 0, rfl, Exhaust.Cycling.of_kept ?_ hfollow⟩, fun hno =>
    Exhaust.Resting.of_kept (Exhaust.Resting.pollRequest hs hno ?_ _) hfollow⟩
  · rw [Exhaust.pollRequest, if_neg hreq, if_pos (Or.inl hctrl)]
    exact Exhaust.registCtrl_cycling hs hone (ht hone) htx hyplant hyu hyon hreq hyticks
  · have hnum : requestFansNum x.sys = openFansNum x.sys := if_neg hno
    refine ⟨hyplant, hya, hreq, ?_, hyticks⟩
    rw [hyon, h3, hnum, h1]
    exact htx.staged_card ((openFansNum_le _).trans (by decide))

/-- **One event**: a tick more, or none. -/
theorem Exhaust.Delivering.step (hs : s.Exhausts) (ht : OneMore s → Timely s) (h : x.Delivering s e)
    (event : ExhaustEvent) : (exhaustStep x event).Delivering s (e + if event.isTick then 1 else 0) := by
  have hfollow {y : Exhaust} : y.Kept (y.on System.follow) := (Exhaust.Kept.refl y).follow
  cases event with
  | tick ctrlFirst =>
    refine ⟨follow_follows, fun hone => ?_, fun hno => ?_⟩
    · obtain ⟨j, r, he, hc⟩ := h.cycling hone
      rcases hc.tick ctrlFirst hs hone (ht hone) h.follows with hr | ⟨hr, hj⟩
      · exact ⟨j, r + 1, congrArg (· + 1) he, hr.of_kept hfollow⟩
      · refine ⟨j + 1, 0, ?_, hj.of_kept hfollow⟩
        show e + 1 = _
        rw [he, Nat.add_assoc, hr, Nat.mul_succ, Nat.add_zero]
    · exact ((h.resting hno).tick ctrlFirst hs hno h.follows).of_kept hfollow
  | poll =>
    refine ⟨follow_follows, fun hone => ?_, fun hno => ?_⟩
    · obtain ⟨j, r, he, hc⟩ := h.cycling hone
      exact ⟨j, r, he, (hc.poll hs hone h.follows).of_kept hfollow⟩
    · exact ((h.resting hno).poll hs hno h.follows).of_kept hfollow
  | runTime usRunTime_H =>
    have hk : x.Kept (exhaustStep x (.runTime usRunTime_H)) := ⟨rfl, rfl, rfl, rfl, rfl, rfl⟩
    refine ⟨h.follows, fun hone => ?_, fun hno => (h.resting hno).of_kept hk⟩
    obtain ⟨j, r, he, hc⟩ := h.cycling hone
    exact ⟨j, r, he, hc.of_kept hk⟩

theorem Exhaust.Delivering.run (hs : s.Exhausts) (ht : OneMore s → Timely s) (events : List ExhaustEvent)
    (h : x.Delivering s e) : (events.foldl exhaustStep x).Delivering s (e + events.countP ExhaustEvent.isTick) := by
  induction events generalizing x e with
  | nil => exact h
  | cons event events ih =>
    have hrun := ih (h.step hs ht event)
    rwa [Nat.add_assoc, Nat.add_comm (if event.isTick then 1 else 0), ← List.countP_cons] at hrun

theorem Exhaust.Delivering.fanTicks (hs : s.Exhausts) (h : x.Delivering s e) :
    x.fanTicks = openFansNum s * e + if OneMore s then onTicks (cycleTicks s) (requestTicks s) e else 0 := by
  split
  · next hone =>
    obtain ⟨j, r, he, hc⟩ := h.cycling hone
    rw [hc.delivered hs, he]
  · next hno => exact (h.resting hno).fanTicks

/-- Below four fans the fans that are open and the time of one more are the volume of a control period. -/
theorem System.Exhausts.request_meets (hs : s.Exhausts) (hvol : requestedVol s < 4 * s.ulExAirFanRated_Vol.toNat) :
    requestSeconds s < s.usExAirFanCtrlPeriod.toNat ∧
      openFansNum s * s.usExAirFanCtrlPeriod.toNat + requestSeconds s =
        requestedVol s * s.usExAirFanCtrlPeriod.toNat / s.ulExAirFanRated_Vol.toNat := by
  have hR := hs.rated
  have hopen : openFansNum s = requestedVol s / s.ulExAirFanRated_Vol.toNat :=
    Nat.min_eq_right (Nat.lt_succ_iff.mp ((Nat.div_lt_iff_lt_mul hR).mpr hvol))
  have hrest : requestedRest s = requestedVol s % s.ulExAirFanRated_Vol.toNat := by
    have hmin : min 3 (requestedVol s / s.ulExAirFanRated_Vol.toNat) =
        requestedVol s / s.ulExAirFanRated_Vol.toNat := hopen
    rw [requestedRest, hmin, Nat.mod_eq_sub]
  rw [requestSeconds, hrest, hopen]
  constructor
  · rw [Nat.div_lt_iff_lt_mul hR, mul_comm s.usExAirFanCtrlPeriod.toNat]
    exact Nat.mul_lt_mul_of_pos_right (Nat.mod_lt _ hR) hs.period
  · have hsplit : requestedVol s * s.usExAirFanCtrlPeriod.toNat =
        s.ulExAirFanRated_Vol.toNat *
          (requestedVol s / s.ulExAirFanRated_Vol.toNat * s.usExAirFanCtrlPeriod.toNat) +
          requestedVol s % s.ulExAirFanRated_Vol.toNat * s.usExAirFanCtrlPeriod.toNat := by
      conv_lhs => rw [← Nat.div_add_mod (requestedVol s) s.ulExAirFanRated_Vol.toNat]
      ring
    rw [hsplit, Nat.mul_add_div hR]

/-- **The exhaust air that is delivered.**  After the first poll the ticks of the fans are exact, whatever polls and run
times come in between.  Below four fans every control period has the volume asked, to the second; from four fans on the
last one does not run all the time. -/
theorem exhaust_delivered (x : Exhaust) (events : List ExhaustEvent) (hs : x.sys.Exhausts) (hf : x.sys.Follows)
    (hreq : x.sys.sExAirFanRequestTimeTmr.State ≠ .OS_TMR_STATE_RUNNING)
    (hctrl : x.sys.sExAirFanCtrlTmr.State ≠ .OS_TMR_STATE_RUNNING) (h0 : x.fanTicks = 0)
    (ht : OneMore x.sys → Timely x.sys) :
    let s := x.sys
    let e := events.countP ExhaustEvent.isTick
    let y := events.foldl exhaustStep (exhaustStep x .poll)
    y.fanTicks = openFansNum s * e + (if OneMore s then onTicks (cycleTicks s) (requestTicks s) e else 0) ∧
      (OneMore s → requestedVol s < 4 * s.ulExAirFanRated_Vol.toNat → ∀ j, e = j * periodTicks s →
        y.fanTicks =
          j * (requestedVol s * s.usExAirFanCtrlPeriod.toNat / s.ulExAirFanRated_Vol.toNat * 1000)) ∧
      (4 * s.ulExAirFanRated_Vol.toNat ≤ requestedVol s → ∀ j, 0 < j → e = j * cycleTicks s →
        y.fanTicks < 4 * e) := by
  intro s e y
  have hdelivering : y.Delivering s (0 + e) := (Exhaust.delivering_first hs hf hreq hctrl h0 ht).run hs ht events
  have hticks : y.fanTicks = openFansNum s * e +
      if OneMore s then onTicks (cycleTicks s) (requestTicks s) e else 0 := by
    have h := hdelivering.fanTicks hs
    rwa [Nat.zero_add] at h
  have hR : 0 < s.ulExAirFanRated_Vol.toNat := hs.rated
  have hlt : requestTicks s < cycleTicks s := requestTicks_lt hs.period
  refine ⟨hticks, fun hone hvol j he => ?_, fun hvol j hj he => ?_⟩
  · -- the request time is within one period
    obtain ⟨hsec, hmeets⟩ := hs.request_meets hvol
    have hcycle : cycleTicks s = periodTicks s := by
      rw [cycleTicks, cyclePeriods, Nat.div_eq_of_lt hsec, Nat.zero_add, Nat.one_mul]
    rw [hticks, if_pos hone, he, ← hcycle, mul_comm j, onTicks_cycle j ((Nat.zero_le _).trans_lt hlt), hcycle,
      ← hmeets, periodTicks, requestTicks]
    ring
  · have hopen : openFansNum s = 3 := Nat.min_eq_left ((Nat.le_div_iff_mul_le hR).mpr (by omega))
    have hpart : (if OneMore s then onTicks (cycleTicks s) (requestTicks s) e else 0) < e := by
      have hpos : 0 < cycleTicks s := (Nat.zero_le _).trans_lt hlt
      split
      · rw [he, mul_comm j, onTicks_cycle j hpos, mul_comm (cycleTicks s)]
        exact Nat.mul_lt_mul_of_pos_left hlt hj
      · rw [he]
        exact Nat.mul_pos hj hpos
    rw [hticks, hopen]
    omega

/-- Four constant fans, one and a half of which meet the demand. -/
def constantPlant : System :=
  { System.zero with
    eSystemMode := .MODE_AUTO, eRunningMode := .RUN_MODE_COOL
    usCO2PPM := 2000, usCO2AdjustThr_V := 2700, usCO2AdjustDeviat := 270
    eExAirFanType := .TYPE_CONSTANT
    ulFreAirSet_Vol := 60000, ucExAirCoolRatio := 90, ucExAirHeatRatio := 90
    ulExAirFanRated_Vol := 36000, usExAirFanCtrlPeriod := 1800, usExAirFanRunTimeLeast := 600
    psExAirFanList := fun _ =>
      { ExAirFan.zero with
        eFanFreqType := .CONSTANT_FREQ, sSwitch_DO := 1, eRunningState := .STATE_STOP, xExAirFanRemote := true } }

theorem constantPlant_exhausts : constantPlant.Exhausts where
  mode := Or.inl rfl
  type := rfl
  co2 := by decide
  admitted := ⟨by decide, by decide, by decide, by decide, by decide, by decide, by decide⟩
  rated := by decide
  period := by decide
  fans := by decide

/-- One fan runs all the time and one for half of every half hour, after an hour and with a poll in between. -/
theorem exhaust_delivered_constantPlant :
    let x : Exhaust := ⟨constantPlant, 0, 0, 0⟩
    let events := List.replicate 1800000 (ExhaustEvent.tick true) ++ .poll :: List.replicate 1800000 (.tick false)
    (events.foldl exhaustStep (exhaustStep x .poll)).fanTicks = 2 * 2700000 := by
  intro x events
  have hone : OneMore constantPlant := by decide
  have hcount : events.countP ExhaustEvent.isTick = 2 * periodTicks constantPlant := by
    simp only [events, List.countP_append, List.countP_cons, List.countP_replicate]
    decide
  have hall := exhaust_delivered x events constantPlant_exhausts (by decide) (by decide) (by decide) rfl
    fun _ => ⟨by decide, by decide⟩
  exact (hall.2.1 hone (by decide) 2 hcount).trans (by decide)

end Delivery

end GreeIntense.Control

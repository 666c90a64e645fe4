import GreeIntense.Control.Commands

/-!
# Too much CO2

Too much CO2 opens all fans, with the variable one at its highest frequency.  The constant fans are switched by
`vSystem_ExAirFanConstantSwitch` with as many fans as there can be; it opens all that stand, and leaves the running
ones as they are commanded.  So all fans are opened exactly where no running fan is commanded off
(`highCO2_opens_iff`).
-/

namespace GreeIntense.Control

/-! ### As many fans as there are -/

namespace Staging

variable {num : ℕ} {p : Staging num} (hnum : num < 256)
  (hv : p.eExAirFanType = .TYPE_CONSTANT_VARIABLE → ∀ v, p.pExAirFanVariate = some v →
    (p.fan v).eFanFreqType = .VARIABLE_FREQ)
  {ucNum : UCHAR} (hall : p.usable.card ≤ ucNum.toNat)

include hnum hv hall

theorem mem_switchOpen_all {n : Fin num} (hn : (p.fan n).eFanFreqType = .CONSTANT_FREQ) :
    .switchOpen n ∈ p.switchConstantFans ucNum 0 ↔ n ∈ p.usable ∧ p.runs n = false := by
  refine (mem_switchOpen_constant hnum hv ucNum 0 hn).trans ?_
  have htake : p.opened (ucNum.toNat - p.running.card) = p.byRunTime.filter p.stands := by
    apply List.take_of_length_le
    rw [p.length_filter_stands]
    omega
  rw [htake, List.mem_filter, mem_byRunTime]
  exact and_congr_right fun hu => p.stands_iff hu

theorem notMem_switchClose_all {n : Fin num} (hn : (p.fan n).eFanFreqType = .CONSTANT_FREQ) :
    .switchClose n ∉ p.switchConstantFans ucNum 0 := by
  have hnone : p.running.card - ucNum.toNat - 0 = 0 := by
    have hle := p.running_card_le
    omega
  intro h
  have hclosed := (mem_switchClose_constant hnum hv ucNum 0 hn).mp h
  rw [hnone] at hclosed
  cases hclosed

omit hv hall in
theorem notMem_of_variable {n : Fin num} (hn : (p.fan n).eFanFreqType = .VARIABLE_FREQ)
    (hp : p.eExAirFanType = .TYPE_CONSTANT_VARIABLE → p.pExAirFanVariate ≠ some n) (least : ℕ) :
    .switchOpen n ∉ p.switchConstantFans ucNum least ∧ .switchClose n ∉ p.switchConstantFans ucNum least := by
  have hu : n ∉ p.usable := by
    intro h
    have hc := constant_of_usable h
    rw [hn] at hc
    cases hc
  constructor
  · intro h
    rcases (mem_switchOpen hnum ucNum least n).mp h with hvar | ho
    · obtain ⟨hpn, htype, -⟩ := of_mem_openVariate hvar
      exact hp htype hpn
    · exact hu (mem_opened ho).1
  · intro h
    rcases (mem_switchClose hnum ucNum least n).mp h with hvar | hc
    · obtain ⟨hpn, htype⟩ := of_mem_closeVariate hvar
      exact hp htype hpn
    · exact hu (mem_closed hc).1

end Staging

/-! ### The set frequencies -/

/-- A fan that is not called keeps its set frequency; `vSystem_AdjustExAirFanFreq` sets the one of the first fan. -/
theorem makeCall_usSetFreq (s : System) {n : Fin EX_AIR_FAN_NUM} {c : FanCall EX_AIR_FAN_NUM}
    (ho : c ≠ .switchOpen n) (hf : s.eExAirFanType = .TYPE_CONSTANT_VARIABLE → n ≠ 0) :
    ((makeCall s c).fan n).usSetFreq = (s.fan n).usSetFreq := by
  have hout (ch : ℕ) (eCtrl : eCtrlEn) : (vDigitalOutputCtrl ch eCtrl s).fan n = s.fan n := by
    unfold vDigitalOutputCtrl
    split <;> rfl
  cases c with
  | switchOpen m =>
    -- another fan is opened; a variable one gets its frequency again
    have hne : n ≠ m := fun h => ho (h ▸ rfl)
    have hset : ((vDigitalOutputCtrl (s.fan m).sSwitch_DO .ON s).setFan m
        { s.fan m with eCtrlCmd := .ON }).fan n = s.fan n := by
      rw [fan_setFan, if_neg hne, hout]
    show ((vExAirFan_SwitchOpen m s).fan n).usSetFreq = _
    unfold vExAirFan_SwitchOpen
    dsimp only
    split
    · split
      · rw [vExFan_SetFreq_fan, if_neg (fun h => hne h.1), hset]
      · rw [hset]
    · rfl
  | switchClose m =>
    show ((vExAirFan_SwitchClose m s).fan n).usSetFreq = _
    unfold vExAirFan_SwitchClose
    rw [fan_setFan]
    split
    · next h => rw [h]
    · rw [hout]
  | adjustFreq usFreq =>
    -- only the variable fan of the plant is set
    show ((vSystem_AdjustExAirFanFreq usFreq s).fan n).usSetFreq = _
    by_cases htype : s.eExAirFanType = .TYPE_CONSTANT_VARIABLE
    · have hfan : (vSystem_AdjustExAirFanFreq usFreq s).fan n =
          (vExFan_SetFreq 0 (limit s.usExAirFanMinFreq s.usExAirFanMaxFreq usFreq) s).fan n := by
        unfold vSystem_AdjustExAirFanFreq
        rw [if_neg (fun hne => hne htype)]
        rfl
      rw [hfan, vExFan_SetFreq_fan, if_neg (fun h => hf htype h.1)]
    · unfold vSystem_AdjustExAirFanFreq
      rw [if_pos htype]

theorem makeCalls_usSetFreq {n : Fin EX_AIR_FAN_NUM} {calls : List (FanCall EX_AIR_FAN_NUM)} (s : System)
    (ho : .switchOpen n ∉ calls) (hf : s.eExAirFanType = .TYPE_CONSTANT_VARIABLE → n ≠ 0) :
    ((calls.foldl makeCall s).fan n).usSetFreq = (s.fan n).usSetFreq := by
  induction calls generalizing s with
  | nil => rfl
  | cons c calls ih =>
    rw [List.mem_cons, not_or] at ho
    have htype : (makeCall s c).eExAirFanType = s.eExAirFanType := by
      show (makeCall s c).uncontrolled.eExAirFanType = s.uncontrolled.eExAirFanType
      rw [makeCall_uncontrolled]
    rw [List.foldl_cons, ih (makeCall s c) ho.2 (htype ▸ hf), makeCall_usSetFreq s (Ne.symm ho.1) hf]

/-! ### All fans are opened -/

/-- Another number of constant fans is requested. -/
def System.request (ucNum : UCHAR) (s : System) : System := { s with ucConstantFanRequestNum := ucNum }

/-- The calls that switch `ucNum` constant fans on. -/
def System.switchCalls (s : System) (ucNum : UCHAR) : List (FanCall EX_AIR_FAN_NUM) :=
  s.staging.switchConstantFans ucNum (0 : ℕ)

section Switch

variable {s : System} (hmode : s.eSystemMode = .MODE_AUTO ∨ s.eSystemMode = .MODE_EMERGENCY) (ucNum : UCHAR)

include hmode

theorem switch_eq :
    ∃ g, vSystem_ExAirFanConstantSwitch (s.request ucNum) =
      { (s.switchCalls ucNum).foldl makeCall (s.request ucNum) with
        g_ucConstantFanRequestNum := g } := by
  have hno : ¬(s.eSystemMode = .MODE_MANUAL ∨ s.eSystemMode = .MODE_CLOSE) := by
    rcases hmode with h | h <;> simp [h]
  have hcalls : (s.request ucNum).staging.vSystem_ExAirFanConstantSwitch = s.switchCalls ucNum := by
    have hsame : (s.request ucNum).staging.switchConstantFans ucNum (0 : ℕ) = s.switchCalls ucNum := by
      unfold System.switchCalls
      rw [Staging.switchConstantFans_picked _ (by decide), Staging.switchConstantFans_picked _ (by decide)]
      rfl
    exact (if_neg hno).trans hsame
  have heq := vSystem_ExAirFanConstantSwitch_eq (s.request ucNum) hno
  rw [hcalls] at heq
  exact ⟨_, heq⟩

theorem switch_commands :
    (vSystem_ExAirFanConstantSwitch (s.request ucNum)).commands =
      (s.switchCalls ucNum).foldl (Commands.call s) s.commands := by
  obtain ⟨g, heq⟩ := switch_eq hmode ucNum
  rw [heq]
  have hs : (s.request ucNum).uncontrolled = s.uncontrolled := rfl
  exact makeCalls_commands hs (s.switchCalls ucNum)

theorem switch_usSetFreq {n : Fin EX_AIR_FAN_NUM} (ho : .switchOpen n ∉ s.switchCalls ucNum)
    (hf : s.eExAirFanType = .TYPE_CONSTANT_VARIABLE → n ≠ 0) :
    ((vSystem_ExAirFanConstantSwitch (s.request ucNum)).fan n).usSetFreq =
      (s.fan n).usSetFreq := by
  obtain ⟨g, heq⟩ := switch_eq hmode ucNum
  rw [heq]
  exact makeCalls_usSetFreq (s.request ucNum) ho hf

end Switch

/-- All fans that take commands are on, and the variable ones of them at the highest frequency. -/
def AllOpen (s s' : System) : Prop :=
  ∀ n, s.takes n → (s'.fan n).eCtrlCmd = .ON ∧
    ((s.fan n).eFanFreqType = .VARIABLE_FREQ → (s'.fan n).usSetFreq = s.usExAirFanMaxFreq)

/-- Of the fans that take commands, the variable fan of the plant apart, each is on or is a constant one that
stands; and another variable one has the highest frequency. -/
def Openable (s : System) : Prop :=
  ∀ n, s.takes n → ¬(s.eExAirFanType = .TYPE_CONSTANT_VARIABLE ∧ n = 0) →
    ((s.fan n).eCtrlCmd = .ON ∨ (s.fan n).eFanFreqType = .CONSTANT_FREQ ∧ (s.fan n).eRunningState = .STATE_STOP) ∧
      ((s.fan n).eFanFreqType = .VARIABLE_FREQ → (s.fan n).usSetFreq = s.usExAirFanMaxFreq)

section Open

variable {s : System} (hmode : s.eSystemMode = .MODE_AUTO ∨ s.eSystemMode = .MODE_EMERGENCY) (hv : s.VariateSet)
  {ucNum : UCHAR} (hall : s.staging.usable.card ≤ ucNum.toNat) {n : Fin EX_AIR_FAN_NUM} (ht : s.takes n)
  (hn : ¬(s.eExAirFanType = .TYPE_CONSTANT_VARIABLE ∧ n = 0))

include hmode hv hall ht hn

/-- With as many constant fans as there are, a fan that is not the variable one is on where it was on or stood. -/
theorem switchAll_on_iff :
    ((vSystem_ExAirFanConstantSwitch (s.request ucNum)).fan n).eCtrlCmd = .ON ↔
      (s.fan n).eCtrlCmd = .ON ∨ (s.fan n).eFanFreqType = .CONSTANT_FREQ ∧ (s.fan n).eRunningState = .STATE_STOP := by
  have hcmd := congrArg (fun k => Commands.eCtrlCmd k n) (switch_commands hmode ucNum)
  rw [show ((vSystem_ExAirFanConstantSwitch (s.request ucNum)).fan n).eCtrlCmd = _ from hcmd]
  cases htype : (s.fan n).eFanFreqType with
  | CONSTANT_FREQ =>
    have hclose := Staging.notMem_switchClose_all (by decide) hv.staging hall htype
    have hopen := Staging.mem_switchOpen_all (by decide) hv.staging hall htype
    refine (calls_on_iff s.commands ht hclose).trans ?_
    have hu : n ∈ s.staging.usable := Finset.mem_filter.mpr ⟨Finset.mem_univ n, decide_eq_true ⟨htype, ht⟩⟩
    have hruns : s.staging.runs n = false ↔ (s.fan n).eRunningState = .STATE_STOP := by
      unfold Staging.runs
      rw [decide_eq_false_iff_not]
      show ¬(s.fan n).eRunningState = .STATE_RUN ↔ _
      cases (s.fan n).eRunningState <;> simp
    rw [hopen, hruns, and_iff_right hu, and_iff_right rfl, or_comm]
    rfl
  | VARIABLE_FREQ =>
    have hp : s.staging.eExAirFanType = .TYPE_CONSTANT_VARIABLE → s.staging.pExAirFanVariate ≠ some n := by
      intro h hp
      exact hn ⟨h, Option.some.inj (hp.symm.trans (hv h).1)⟩
    obtain ⟨ho, hc⟩ : .switchOpen n ∉ s.switchCalls ucNum ∧ .switchClose n ∉ s.switchCalls ucNum :=
      Staging.notMem_of_variable (by decide) htype hp 0
    refine (calls_on_iff s.commands ht hc).trans ?_
    rw [or_iff_right ho]
    exact (or_iff_left fun h => by cases h.1).symm

end Open

/-! ### The control -/

section Control

variable {s : System}

theorem constantOnly_of_uncontrolled {s' : System} (h : s'.uncontrolled = s.uncontrolled) :
    constantOnly s' = constantOnly s := by
  show constantOnly s'.uncontrolled = constantOnly s.uncontrolled
  rw [h]

theorem vSystem_ExAirFanCtrl_high (hmode : s.eSystemMode = .MODE_AUTO ∨ s.eSystemMode = .MODE_EMERGENCY)
    (hhigh : s.usCO2PPM.toNat > s.usCO2AdjustThr_V.toNat + s.usCO2AdjustDeviat.toNat) :
    vSystem_ExAirFanCtrl s = openAllFans s := by
  have hmanual : ¬s.eSystemMode = .MODE_MANUAL := by
    rcases hmode with h | h <;> simp [h]
  have hs : (openAllFans s).uncontrolled = s.uncontrolled := openAllFans_uncontrolled s
  have hlow : ¬((openAllFans s).usCO2PPM.toNat : ℤ) <
      (openAllFans s).usCO2AdjustThr_V.toNat - (openAllFans s).usCO2AdjustDeviat.toNat := by
    show ¬((openAllFans s).uncontrolled.usCO2PPM.toNat : ℤ) <
      (openAllFans s).uncontrolled.usCO2AdjustThr_V.toNat - (openAllFans s).uncontrolled.usCO2AdjustDeviat.toNat
    rw [hs]
    show ¬(s.usCO2PPM.toNat : ℤ) < s.usCO2AdjustThr_V.toNat - s.usCO2AdjustDeviat.toNat
    omega
  unfold vSystem_ExAirFanCtrl
  dsimp only
  rw [if_neg hmanual, if_pos hmode, if_pos hhigh, if_neg hlow]

/-- A plant whose variable fan takes commands: three constant fans are switched, and the variable one is opened. -/
theorem openAllFans_variate (htype : s.eExAirFanType = .TYPE_CONSTANT_VARIABLE) (hp : s.pExAirFanVariate = some 0)
    (ht : s.takes 0) :
    openAllFans s = stopTmrs
      ([.switchOpen 0, .adjustFreq s.usExAirFanMaxFreq].foldl makeCall
        { vSystem_ExAirFanConstantSwitch (s.request 3) with xVariableFanRequest := true }) := by
  have hvar : variateUsable s = some 0 := by
    unfold variateUsable
    rw [hp, Option.filter_some, if_pos (decide_eq_true ⟨htype, ht⟩)]
  have hopen : openVariateMax s = [.switchOpen 0, .adjustFreq s.usExAirFanMaxFreq].foldl makeCall
      { vSystem_ExAirFanConstantSwitch (s.request 3) with xVariableFanRequest := true } := by
    have hs : (vExAirFan_SwitchOpen 0
        { vSystem_ExAirFanConstantSwitch (s.request 3) with xVariableFanRequest := true }).uncontrolled =
        s.uncontrolled :=
      (vExAirFan_SwitchOpen_uncontrolled 0 _).trans (vSystem_ExAirFanConstantSwitch_uncontrolled (s.request 3))
    have hmax : (vExAirFan_SwitchOpen 0 { vSystem_ExAirFanConstantSwitch (s.request 3) with
        xVariableFanRequest := true }).usExAirFanMaxFreq = s.usExAirFanMaxFreq := by
      show (System.uncontrolled _).usExAirFanMaxFreq = s.uncontrolled.usExAirFanMaxFreq
      rw [hs]
    unfold openVariateMax
    rw [hvar]
    exact congrArg (fun f => vSystem_AdjustExAirFanFreq f (vExAirFan_SwitchOpen 0
      { vSystem_ExAirFanConstantSwitch (s.request 3) with xVariableFanRequest := true })) hmax
  have honly : constantOnly (openVariateMax s) = false := by
    rw [constantOnly_of_uncontrolled (openVariateMax_uncontrolled s)]
    unfold constantOnly
    have ht' : (s.fan 0).xExAirFanErr = false ∧ (s.fan 0).xExAirFanRemote = true := ht
    simp [htype, hp, ht'.1, ht'.2]
  unfold openAllFans
  dsimp only
  rw [honly, hopen]
  rfl

/-- Any other plant: four constant fans are switched. -/
theorem openAllFans_constant
    (h : s.eExAirFanType = .TYPE_CONSTANT_VARIABLE → s.pExAirFanVariate = some 0 ∧ ¬s.takes 0) :
    openAllFans s = stopTmrs (vSystem_ExAirFanConstantSwitch (s.request 4)) := by
  have hvar : variateUsable s = none := by
    unfold variateUsable
    rw [Option.filter_eq_none_iff]
    rintro v hv hc
    obtain ⟨htype, ht⟩ := of_decide_eq_true hc
    obtain ⟨hp, hno⟩ := h htype
    obtain rfl : 0 = v := Option.some.inj (hp.symm.trans hv)
    exact hno ht
  have honly : constantOnly s = true := by
    unfold constantOnly
    rw [decide_eq_true_eq]
    cases htype : s.eExAirFanType with
    | TYPE_CONSTANT => exact Or.inl rfl
    | TYPE_CONSTANT_VARIABLE =>
      obtain ⟨hp, hno⟩ := h htype
      refine Or.inr ⟨rfl, ?_⟩
      rw [hp]
      by_contra hnone
      simp only [Option.any_some, decide_eq_true_eq, not_or, Bool.not_eq_true, Bool.not_eq_false] at hnone
      exact hno hnone
  have hopen : openVariateMax s = s := by
    unfold openVariateMax
    rw [hvar]
  unfold openAllFans
  dsimp only
  rw [hopen, if_pos honly]
  rfl

theorem card_usable_le (hv : s.VariateSet) (htype : s.eExAirFanType = .TYPE_CONSTANT_VARIABLE) :
    s.staging.usable.card ≤ 3 := by
  have hsub : s.staging.usable ⊆ Finset.univ.erase 0 := by
    intro n hn
    refine Finset.mem_erase.mpr ⟨?_, Finset.mem_univ n⟩
    rintro rfl
    have hc : (s.fan 0).eFanFreqType = .CONSTANT_FREQ := Staging.constant_of_usable hn
    rw [(hv htype).2] at hc
    cases hc
  exact Finset.card_le_card hsub

/-- The variable fan takes the highest frequency, where its own limit is that of the system. -/
theorem adjust_max_usSetFreq {t : System} (hv : s.VariateSet) (ht : s.takes 0)
    (htype : s.eExAirFanType = .TYPE_CONSTANT_VARIABLE) (hmax : (s.fan 0).usMaxFreq = s.usExAirFanMaxFreq)
    (hs : t.uncontrolled = s.uncontrolled) :
    ((vSystem_AdjustExAirFanFreq s.usExAirFanMaxFreq t).fan 0).usSetFreq = s.usExAirFanMaxFreq := by
  have htype' : t.eExAirFanType = .TYPE_CONSTANT_VARIABLE := by
    show t.uncontrolled.eExAirFanType = _
    rw [hs]
    exact htype
  have hsys : t.usExAirFanMaxFreq = s.usExAirFanMaxFreq := by
    show t.uncontrolled.usExAirFanMaxFreq = s.uncontrolled.usExAirFanMaxFreq
    rw [hs]
  have hfan := uncontrolled_fan hs 0
  have hvar : (t.fan 0).eFanFreqType = .VARIABLE_FREQ := by
    show (t.fan 0).uncontrolled.eFanFreqType = _
    rw [hfan]
    exact (hv htype).2
  have herr : (t.fan 0).xExAirFanErr = false := by
    show (t.fan 0).uncontrolled.xExAirFanErr = _
    rw [hfan]
    exact ht.1
  have hown : (t.fan 0).usMaxFreq = s.usExAirFanMaxFreq := by
    show (t.fan 0).uncontrolled.usMaxFreq = _
    rw [hfan]
    exact hmax
  -- the highest frequency passes both limits
  have hlimit (lo hi : USHORT) : limit lo hi hi = hi := limit_eq_self_iff.mpr (Or.inr rfl)
  have hadjust : (vSystem_AdjustExAirFanFreq s.usExAirFanMaxFreq t).fan 0 =
      (vExFan_SetFreq 0 (limit t.usExAirFanMinFreq t.usExAirFanMaxFreq s.usExAirFanMaxFreq) t).fan 0 := by
    unfold vSystem_AdjustExAirFanFreq
    rw [if_neg (fun hne => hne htype')]
    rfl
  rw [hadjust, vExFan_SetFreq_usSetFreq 0 t _ hvar, herr, if_pos rfl, hsys, hlimit, hown, hlimit]

theorem openAllFans_fan_zero (hv : s.VariateSet) (ht : s.takes 0) (htype : s.eExAirFanType = .TYPE_CONSTANT_VARIABLE)
    (hmax : (s.fan 0).usMaxFreq = s.usExAirFanMaxFreq) :
    ((openAllFans s).fan 0).eCtrlCmd = .ON ∧ ((openAllFans s).fan 0).usSetFreq = s.usExAirFanMaxFreq := by
  rw [openAllFans_variate htype (hv htype).1 ht]
  have hs : System.uncontrolled { vSystem_ExAirFanConstantSwitch (s.request 3) with xVariableFanRequest := true } =
      s.uncontrolled := vSystem_ExAirFanConstantSwitch_uncontrolled (s.request 3)
  generalize ({ vSystem_ExAirFanConstantSwitch (s.request 3) with xVariableFanRequest := true } : System) = t at hs
  constructor
  · have hcmd := congrArg (fun k => Commands.eCtrlCmd k 0)
      (makeCalls_commands hs [.switchOpen 0, .adjustFreq s.usExAirFanMaxFreq])
    exact hcmd.trans (calls_opened t.commands ht (by simp) (by simp))
  · have hw : (vExAirFan_SwitchOpen 0 t).uncontrolled = s.uncontrolled :=
      (vExAirFan_SwitchOpen_uncontrolled 0 t).trans hs
    exact adjust_max_usSetFreq hv ht htype hmax hw

variable (hmode : s.eSystemMode = .MODE_AUTO ∨ s.eSystemMode = .MODE_EMERGENCY)

include hmode

/-- The fans after all have been opened, but for the variable one of the plant. -/
theorem openAllFans_fan (hv : s.VariateSet) {n : Fin EX_AIR_FAN_NUM} (ht : s.takes n)
    (hn : ¬(s.eExAirFanType = .TYPE_CONSTANT_VARIABLE ∧ n = 0)) :
    (((openAllFans s).fan n).eCtrlCmd = .ON ↔ (s.fan n).eCtrlCmd = .ON ∨
      (s.fan n).eFanFreqType = .CONSTANT_FREQ ∧ (s.fan n).eRunningState = .STATE_STOP) ∧
      ((s.fan n).eFanFreqType = .VARIABLE_FREQ → ((openAllFans s).fan n).usSetFreq = (s.fan n).usSetFreq) := by
  have hf : s.eExAirFanType = .TYPE_CONSTANT_VARIABLE → n ≠ 0 := fun htype h0 => hn ⟨htype, h0⟩
  have hopen (ucNum : UCHAR) (hvar : (s.fan n).eFanFreqType = .VARIABLE_FREQ) :
      .switchOpen n ∉ s.switchCalls ucNum :=
    (Staging.notMem_of_variable (by decide) hvar
      (fun htype hp => hf htype (Option.some.inj (hp.symm.trans (hv htype).1))) _).1
  by_cases h : s.eExAirFanType = .TYPE_CONSTANT_VARIABLE ∧ s.takes 0
  · obtain ⟨htype, h0⟩ := h
    have hcard : s.staging.usable.card ≤ (3 : UCHAR).toNat := card_usable_le hv htype
    have hn0 : n ≠ 0 := hf htype
    have ho : .switchOpen n ∉ [FanCall.switchOpen 0, .adjustFreq s.usExAirFanMaxFreq] := by simp [hn0]
    have hc : .switchClose n ∉ [FanCall.switchOpen 0, .adjustFreq s.usExAirFanMaxFreq] := by simp
    have hon := switchAll_on_iff hmode hv hcard ht hn
    have hfreq := fun hvar => switch_usSetFreq hmode 3 (hopen 3 hvar) hf
    have hs := vSystem_ExAirFanConstantSwitch_uncontrolled (s.request 3)
    rw [openAllFans_variate htype (hv htype).1 h0]
    generalize vSystem_ExAirFanConstantSwitch (s.request 3) = t at hon hfreq hs
    constructor
    · have hcmd := congrArg (fun k => Commands.eCtrlCmd k n)
        (makeCalls_commands (s := { t with xVariableFanRequest := true }) hs
          [.switchOpen 0, .adjustFreq s.usExAirFanMaxFreq])
      rw [calls_other _ ho hc] at hcmd
      exact (iff_of_eq (congrArg (· = eCtrlEn.ON) hcmd)).trans hon
    · intro hvar
      exact (makeCalls_usSetFreq { t with xVariableFanRequest := true } ho fun _ => hn0).trans (hfreq hvar)
  · have hcard : s.staging.usable.card ≤ (4 : UCHAR).toNat :=
      (Finset.card_le_univ _).trans (le_of_eq (Fintype.card_fin _))
    have hno (htype : s.eExAirFanType = .TYPE_CONSTANT_VARIABLE) : s.pExAirFanVariate = some 0 ∧ ¬s.takes 0 :=
      ⟨(hv htype).1, fun h0 => h ⟨htype, h0⟩⟩
    rw [openAllFans_constant hno]
    exact ⟨switchAll_on_iff hmode hv hcard ht hn, fun hvar => switch_usSetFreq hmode 4 (hopen 4 hvar) hf⟩

end Control

/-- **Too much CO2 opens all fans exactly where they are openable**: none that runs, and no other variable one, is
commanded off. -/
theorem highCO2_opens_iff (s : System) (hmode : s.eSystemMode = .MODE_AUTO ∨ s.eSystemMode = .MODE_EMERGENCY)
    (hhigh : s.usCO2PPM.toNat > s.usCO2AdjustThr_V.toNat + s.usCO2AdjustDeviat.toNat) (hv : s.VariateSet)
    (hlimits : s.eExAirFanType = .TYPE_CONSTANT_VARIABLE → (s.fan 0).usMaxFreq = s.usExAirFanMaxFreq) :
    AllOpen s (vSystem_ExAirFanCtrl s) ↔ Openable s := by
  rw [vSystem_ExAirFanCtrl_high hmode hhigh]
  constructor
  · intro h n ht hn
    obtain ⟨hcmd, hfreq⟩ := openAllFans_fan hmode hv ht hn
    obtain ⟨hon, hset⟩ := h n ht
    exact ⟨hcmd.mp hon, fun hvar => (hfreq hvar).symm.trans (hset hvar)⟩
  · intro h n ht
    by_cases hn : s.eExAirFanType = .TYPE_CONSTANT_VARIABLE ∧ n = 0
    · obtain ⟨htype, rfl⟩ := hn
      obtain ⟨hon, hset⟩ := openAllFans_fan_zero hv ht htype (hlimits htype)
      exact ⟨hon, fun _ => hset⟩
    · obtain ⟨hcmd, hfreq⟩ := openAllFans_fan hmode hv ht hn
      obtain ⟨hon, hset⟩ := h n ht hn
      exact ⟨hcmd.mpr hon, fun hvar => (hfreq hvar).trans (hset hvar)⟩

/-- A plant of four remote constant fans with too much CO2, as all were closed; the first one still runs. -/
def stillRunning : System :=
  { System.zero with
    eSystemMode := .MODE_AUTO
    usCO2PPM := 3000, usCO2AdjustThr_V := 2700, usCO2AdjustDeviat := 270
    psExAirFanList := fun n =>
      { ExAirFan.zero with
        eFanFreqType := .CONSTANT_FREQ, xExAirFanRemote := true
        eRunningState := if n = 0 then .STATE_RUN else .STATE_STOP } }

theorem stillRunning_variateSet : stillRunning.VariateSet := by
  intro h
  cases h

theorem highCO2_opens_stillRunning :
    AllOpen stillRunning (vSystem_ExAirFanCtrl stillRunning) ↔ Openable stillRunning := by
  refine highCO2_opens_iff stillRunning (Or.inl rfl) (by decide) stillRunning_variateSet fun h => ?_
  cases h

/-- The first fan stays commanded off. -/
theorem stillRunning_not_open :
    stillRunning.eSystemMode = .MODE_AUTO ∧
      stillRunning.usCO2PPM.toNat > stillRunning.usCO2AdjustThr_V.toNat + stillRunning.usCO2AdjustDeviat.toNat ∧
      stillRunning.takes 0 ∧ ((vSystem_ExAirFanCtrl stillRunning).fan 0).eCtrlCmd = .OFF ∧
      ¬AllOpen stillRunning (vSystem_ExAirFanCtrl stillRunning) := by
  have hoff : ((vSystem_ExAirFanCtrl stillRunning).fan 0).eCtrlCmd = .OFF := by decide
  refine ⟨rfl, by decide, by decide, hoff, fun h => ?_⟩
  have hon := (h 0 (by decide)).1
  rw [hoff] at hon
  cases hon

end GreeIntense.Control

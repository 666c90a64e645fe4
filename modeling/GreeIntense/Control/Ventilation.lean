import GreeIntense.Control.Demand
import GreeIntense.Control.HighCO2

/-!
# Ventilation settings

With little CO2 the control of the fans meets the demand for exhaust air: it stages the constant fans, and sets the
variable one (`vSystem_ExAirFanBothCtrl_commands`).  A new fresh air or ratio changes the demand, and
`vSystem_ExAirSet_Vol` runs the control only where the number of constant fans requested is another one than the last
switching set.  So the fans get the commands of the new demand exactly where the control runs or they have them already
(`System.Suits`, `ventilation_agrees_iff`).
-/

namespace GreeIntense.Control

open Os

/-! ### The request -/

theorem constantFanOpenNum_idem (vol rated : ULONG) (num : UCHAR) :
    constantFanOpenNum vol rated (constantFanOpenNum vol rated num) = constantFanOpenNum vol rated num := by
  simp only [constantFanOpenNum]
  split_ifs <;> rfl

/-- The system that is to meet the demand by its variable fan. -/
structure System.Variate (s : System) : Prop where
  type : s.eExAirFanType = .TYPE_CONSTANT_VARIABLE
  fan : s.pExAirFanVariate = some 0
  takes : s.takes 0

section Request

variable {s : System} (h : s.Variate)

include h

theorem System.Variate.usable : variateUsable s = some 0 := by
  unfold variateUsable
  rw [h.fan, Option.filter_some, if_pos (decide_eq_true ⟨h.type, h.takes⟩)]

theorem System.Variate.not_constantOnly : constantOnly s = false := by
  cases hc : constantOnly s with
  | false => rfl
  | true =>
    have hnone := variateUsable_of_constantOnly hc
    rw [h.usable] at hnone
    cases hnone

theorem System.Variate.of_uncontrolled {s' : System} (hs : s'.uncontrolled = s.uncontrolled) : s'.Variate := by
  have hiff (t : System) : t.Variate ↔ t.uncontrolled.Variate := ⟨fun h => ⟨h.type, h.fan, h.takes⟩,
    fun h => ⟨h.type, h.fan, h.takes⟩⟩
  rw [hiff, hs, ← hiff]
  exact h

theorem System.Variate.request_eq :
    vSystem_ExAirRequest_Vol s =
      let vol := s.ulFreAirSet_Vol * (exAirRatio s).setWidth 32 / 100
      let num := constantFanOpenNum vol s.ulExAirFanRated_Vol s.ucConstantFanOpenNum
      variateRequestTime (vol - s.ulExAirFanRated_Vol * num.setWidth 32) (setRequest vol num s) := by
  rw [Control.request_eq]
  unfold setRequestTimes
  dsimp only
  have hu (vol : ULONG) (num : UCHAR) : (variateUsable (setRequest vol num s)).isSome = true := by
    show (variateUsable s).isSome = true
    rw [h.usable]
    rfl
  have hc (rest vol : ULONG) (num : UCHAR) :
      ¬constantOnly (variateRequestTime rest (setRequest vol num s)) = true := by
    show ¬constantOnly s = true
    rw [h.not_constantOnly]
    exact Bool.false_ne_true
  rw [if_pos (hu _ _), if_neg (hc _ _ _)]

theorem System.Variate.request_idem :
    vSystem_ExAirRequest_Vol (vSystem_ExAirRequest_Vol s) = vSystem_ExAirRequest_Vol s := by
  have h' : (vSystem_ExAirRequest_Vol s).Variate := h.of_uncontrolled (vSystem_ExAirRequest_Vol_uncontrolled s)
  rw [h'.request_eq, h.request_eq]
  let vol := s.ulFreAirSet_Vol * (exAirRatio s).setWidth 32 / 100
  let num := constantFanOpenNum vol s.ulExAirFanRated_Vol s.ucConstantFanOpenNum
  let rest := vol - s.ulExAirFanRated_Vol * num.setWidth 32
  have hnum : constantFanOpenNum vol s.ulExAirFanRated_Vol num = num := constantFanOpenNum_idem vol _ _
  show variateRequestTime (vol - s.ulExAirFanRated_Vol * (constantFanOpenNum vol s.ulExAirFanRated_Vol num).setWidth 32)
    (setRequest vol (constantFanOpenNum vol s.ulExAirFanRated_Vol num)
      (variateRequestTime rest (setRequest vol num s))) = variateRequestTime rest (setRequest vol num s)
  rw [hnum]
  have htime : (if s.ulExAirFanRated_Vol ≠ 0 then
      rest * 500 / s.usExAirFanMinFreq.setWidth 32 * s.usExAirFanCtrlPeriod.setWidth 32 / s.ulExAirFanRated_Vol
      else (variateRequestTime rest (setRequest vol num s)).ulExAirFanRequestTime) =
      (variateRequestTime rest (setRequest vol num s)).ulExAirFanRequestTime := by
    unfold variateRequestTime
    split
    · next hr => exact (if_pos hr).symm
    · rfl
  exact congrArg
    (fun time => { variateRequestTime rest (setRequest vol num s) with ulExAirFanRequestTime := time }) htime

end Request

/-! ### The calls that stage the fans -/

/-- What of the staging the calls do not change. -/
def Staging.uncontrolled {num : ℕ} (p : Staging num) : Staging num := { p with fan := fun n => (p.fan n).uncontrolled }

theorem Staging.switchConstantFans_of_uncontrolled {p p' : Staging EX_AIR_FAN_NUM}
    (h : p'.uncontrolled = p.uncontrolled) (ucNum : UCHAR) (least : ℕ) :
    p'.switchConstantFans ucNum least = p.switchConstantFans ucNum least := by
  have hsame (q : Staging EX_AIR_FAN_NUM) :
      q.uncontrolled.switchConstantFans ucNum least = q.switchConstantFans ucNum least := by
    rw [Staging.switchConstantFans_picked _ (by decide), Staging.switchConstantFans_picked _ (by decide)]
    rfl
  rw [← hsame p', h, hsame p]

theorem switchCalls_of_driven {s s' : System} (h : Driven s s') (hs : s'.uncontrolled = s.uncontrolled)
    (ucNum : UCHAR) : s'.switchCalls ucNum = s.switchCalls ucNum := by
  refine Staging.switchConstantFans_of_uncontrolled ?_ ucNum 0
  have hfans : (fun n => (s'.fan n).uncontrolled) = fun n => (s.fan n).uncontrolled :=
    funext fun n => uncontrolled_fan hs n
  obtain ⟨list, usFreq, usBMSFreq, out, ana, rfl⟩ := h
  exact congrArg (fun fans => { s.staging with fan := fans }) hfans

/-- The commands after the constant fans have been staged for those the request keeps open. -/
def System.stage (s : System) (k : Commands) : Commands :=
  (s.switchCalls s.ucConstantFanOpenNum).foldl (Commands.call s) k

/-- What is commanded of the variable fan. -/
def Commands.variate (k : Commands) : eCtrlEn × USHORT := (k.eCtrlCmd 0, k.usExAirFanFreq)

/-- The same commands, but for the variable fan. -/
def Commands.setVariate (k : Commands) (c : eCtrlEn × USHORT) : Commands := ⟨Function.update k.eCtrlCmd 0 c.1, c.2⟩

/-- What the staging makes of the command of the variable fan. -/
def System.stageVariate (s : System) (c : eCtrlEn × USHORT) : eCtrlEn × USHORT :=
  if s.ucConstantFanOpenNum > s.staging.ucConstantNum then (.ON, s.usExAirFanMaxFreq)
  else if s.xVariableFanRequest = false ∧ (s.fan 0).eRunningState = .STATE_RUN then (.OFF, c.2)
  else c

theorem Commands.ext_variate {k k' : Commands} (hother : ∀ n, n ≠ 0 → k.eCtrlCmd n = k'.eCtrlCmd n)
    (hvariate : k.variate = k'.variate) : k = k' := by
  obtain ⟨cmd, freq⟩ := k
  obtain ⟨cmd', freq'⟩ := k'
  obtain ⟨h0, hfreq⟩ := Prod.mk.inj hvariate
  have hcmd : cmd = cmd' := by
    funext n
    by_cases hn : n = 0
    · rw [hn]
      exact h0
    · exact hother n hn
  rw [hcmd, show freq = freq' from hfreq]

theorem Commands.setVariate_variate (k : Commands) (c : eCtrlEn × USHORT) : (k.setVariate c).variate = c := by
  have hself : Function.update k.eCtrlCmd 0 c.1 0 = c.1 := Function.update_self _ _ _
  exact Prod.ext hself rfl

theorem Commands.setVariate_setVariate (k : Commands) (c c' : eCtrlEn × USHORT) :
    (k.setVariate c).setVariate c' = k.setVariate c' := by
  have hidem : Function.update (Function.update k.eCtrlCmd 0 c.1) 0 c'.1 = Function.update k.eCtrlCmd 0 c'.1 :=
    Function.update_idem _ _ _
  exact congrArg (fun cmd => (⟨cmd, c'.2⟩ : Commands)) hidem

theorem Commands.setVariate_self (k : Commands) : k.setVariate k.variate = k :=
  congrArg (fun cmd => (⟨cmd, k.usExAirFanFreq⟩ : Commands)) (Function.update_eq_self 0 k.eCtrlCmd)

theorem Commands.setVariate_other (k : Commands) (c : eCtrlEn × USHORT) {n : Fin EX_AIR_FAN_NUM} (hn : n ≠ 0) :
    (k.setVariate c).eCtrlCmd n = k.eCtrlCmd n := Function.update_of_ne hn _ _

section Stage

variable {s : System}

theorem calls_variate {calls : List (FanCall EX_AIR_FAN_NUM)} (k : Commands)
    (hcalls : ∀ c ∈ calls, ∃ n, n ≠ 0 ∧ (c = .switchOpen n ∨ c = .switchClose n)) :
    (calls.foldl (Commands.call s) k).variate = k.variate := by
  induction calls generalizing k with
  | nil => rfl
  | cons c calls ih =>
    rw [List.foldl_cons, ih _ fun c hc => hcalls c (List.mem_cons_of_mem _ hc)]
    obtain ⟨n, hn, rfl | rfl⟩ := hcalls c List.mem_cons_self
    · unfold Commands.call
      dsimp only
      split
      · exact Prod.ext (Function.update_of_ne hn.symm _ _) rfl
      · rfl
    · exact Prod.ext (Function.update_of_ne hn.symm _ _) rfl

variable (h : s.Variate) (hv : s.VariateSet) (k : Commands)

include h

theorem openVariate_variate (ucNum : UCHAR) :
    ((s.staging.openVariate ucNum).foldl (Commands.call s) k).variate =
      if ucNum > s.staging.ucConstantNum then (.ON, s.usExAirFanMaxFreq) else k.variate := by
  have hfan : s.staging.pExAirFanVariate = some 0 := h.fan
  have hmax : limit s.usExAirFanMinFreq s.usExAirFanMaxFreq s.usExAirFanMaxFreq = s.usExAirFanMaxFreq :=
    limit_eq_self_iff.mpr (Or.inr rfl)
  unfold Staging.openVariate
  rw [hfan]
  dsimp only
  by_cases hn : ucNum > s.staging.ucConstantNum
  · rw [if_pos hn, if_pos ⟨hn, h.type, h.takes⟩, List.foldl_cons, List.foldl_cons, List.foldl_nil]
    have hself : Function.update k.eCtrlCmd 0 eCtrlEn.ON 0 = .ON := Function.update_self _ _ _
    unfold Commands.call
    dsimp only
    rw [if_pos h.takes, if_pos h.type]
    exact Prod.ext hself hmax
  · rw [if_neg hn, if_neg fun hc => hn hc.1, List.foldl_nil]

theorem closeVariate_variate (ucNum : UCHAR) :
    ((s.staging.closeVariate ucNum).foldl (Commands.call s) k).variate =
      if ucNum ≤ s.staging.ucConstantNum ∧ s.xVariableFanRequest = false ∧ (s.fan 0).eRunningState = .STATE_RUN then
        (.OFF, k.usExAirFanFreq)
      else k.variate := by
  have hfan : s.staging.pExAirFanVariate = some 0 := h.fan
  unfold Staging.closeVariate
  rw [hfan]
  dsimp only
  by_cases hc : ucNum ≤ s.staging.ucConstantNum ∧ s.xVariableFanRequest = false ∧ (s.fan 0).eRunningState = .STATE_RUN
  · rw [if_pos hc, if_pos ⟨hc.1, hc.2.1, h.type, hc.2.2⟩]
    have hself : Function.update k.eCtrlCmd 0 eCtrlEn.OFF 0 = .OFF := Function.update_self _ _ _
    exact Prod.ext hself rfl
  · rw [if_neg hc, if_neg fun hc' => hc ⟨hc'.1, hc'.2.1, hc'.2.2.2⟩, List.foldl_nil]

include hv

theorem constant_ne_zero {n : Fin EX_AIR_FAN_NUM} (hn : n ∈ s.staging.usable) : n ≠ 0 := by
  rintro rfl
  have hc : (s.fan 0).eFanFreqType = .CONSTANT_FREQ := Staging.constant_of_usable hn
  rw [(hv h.type).2] at hc
  cases hc

theorem stage_variate : (s.stage k).variate = s.stageVariate k.variate := by
  unfold System.stage System.switchCalls
  rw [Staging.switchConstantFans_picked _ (by decide), List.append_assoc, List.foldl_append,
    calls_variate, List.foldl_append, closeVariate_variate h, openVariate_variate h]
  · unfold System.stageVariate
    by_cases hn : s.ucConstantFanOpenNum > s.staging.ucConstantNum
    · rw [if_pos hn, if_pos hn, if_neg fun hc => BitVec.not_le.mpr hn hc.1]
    · have hle : s.ucConstantFanOpenNum ≤ s.staging.ucConstantNum := BitVec.not_lt.mp hn
      have hfreq := congrArg Prod.snd (openVariate_variate h k s.ucConstantFanOpenNum)
      rw [if_neg hn] at hfreq
      rw [if_neg hn, if_neg hn]
      exact if_congr (and_iff_right hle) (Prod.ext rfl hfreq) rfl
  · intro c hc
    rcases List.mem_append.mp hc with hc | hc
    · obtain ⟨n, hn, rfl⟩ := List.mem_map.mp hc
      exact ⟨n, constant_ne_zero h hv (Staging.mem_closed hn).1, Or.inr rfl⟩
    · obtain ⟨n, hn, rfl⟩ := List.mem_map.mp hc
      exact ⟨n, constant_ne_zero h hv (Staging.mem_opened hn).1, Or.inl rfl⟩

/-- The fans that are opened for the request, and those that are closed for it. -/
def System.toOpen (s : System) : List (Fin EX_AIR_FAN_NUM) :=
  s.staging.opened (s.ucConstantFanOpenNum.toNat - s.staging.running.card)

def System.toClose (s : System) : List (Fin EX_AIR_FAN_NUM) :=
  s.staging.closed (s.staging.running.card - s.ucConstantFanOpenNum.toNat)

omit hv in
theorem stage_other {n : Fin EX_AIR_FAN_NUM} (hn : n ≠ 0) :
    (s.stage k).eCtrlCmd n = if n ∈ s.toOpen then .ON else if n ∈ s.toClose then .OFF else k.eCtrlCmd n := by
  have hvar (c : s.staging.pExAirFanVariate = some n) : False := hn (Option.some.inj (c.symm.trans h.fan))
  have ho : .switchOpen n ∈ s.switchCalls s.ucConstantFanOpenNum ↔ n ∈ s.toOpen :=
    (Staging.mem_switchOpen (by decide) _ 0 n).trans (or_iff_right fun hc => hvar (Staging.of_mem_openVariate hc).1)
  have hc : .switchClose n ∈ s.switchCalls s.ucConstantFanOpenNum ↔ n ∈ s.toClose :=
    (Staging.mem_switchClose (by decide) _ 0 n).trans (or_iff_right fun hc => hvar (Staging.of_mem_closeVariate hc).1)
  unfold System.stage
  by_cases hopen : n ∈ s.toOpen
  · obtain ⟨hu, hr⟩ := Staging.mem_opened hopen
    have htakes : s.takes n := (of_decide_eq_true (Finset.mem_filter.mp hu).2).2
    have hclose : n ∉ s.toClose := fun h => by
      rw [(Staging.mem_closed h).2] at hr
      cases hr
    rw [if_pos hopen, calls_opened k htakes (ho.mpr hopen) (mt hc.mp hclose)]
  · rw [if_neg hopen]
    by_cases hclose : n ∈ s.toClose
    · rw [if_pos hclose, calls_closed k (mt ho.mp hopen) (hc.mpr hclose)]
    · rw [if_neg hclose, calls_other k (mt ho.mp hopen) (mt hc.mp hclose)]

theorem stage_idem : s.stage (s.stage k) = s.stage k := by
  refine Commands.ext_variate (fun n hn => ?_) ?_
  · rw [stage_other h (s.stage k) hn, stage_other h k hn]
    split_ifs <;> rfl
  · rw [stage_variate h hv, stage_variate h hv]
    unfold System.stageVariate
    split_ifs <;> rfl

end Stage

/-! ### The control of the variable fan -/

/-- The state after the control has requested: the constant fans to switch are those kept open, and another request
is the same. -/
structure System.Requested (s : System) : Prop extends s.Variate where
  set : s.VariateSet
  mode : s.eSystemMode = .MODE_AUTO ∨ s.eSystemMode = .MODE_EMERGENCY
  num : s.ucConstantFanRequestNum = s.ucConstantFanOpenNum
  again : vSystem_ExAirRequest_Vol s = s

/-- `pollRequest` runs the callback of the control timer. -/
def System.PollDue (s : System) : Prop :=
  (s.sExAirFanCtrlTmr.State ≠ .OS_TMR_STATE_RUNNING ∨
    s.sExAirFanRequestTimeTmr.State ≠ .OS_TMR_STATE_RUNNING ∧ s.g_ucConstantFanRequestNum ≠ s.ucConstantFanRequestNum) ∧
  (xTimerRegist_create 0 (s.usExAirFanCtrlPeriod.setWidth 32) .OS_OPT_TMR_PERIODIC s.sExAirFanCtrlTmr).2 = true

instance (s : System) : Decidable s.PollDue := inferInstanceAs (Decidable (_ ∧ _))

/-- What the callback makes of the command of the variable fan: at the lowest frequency for the request time, where
that is long enough. -/
def System.pollVariate (s : System) (c : eCtrlEn × USHORT) : eCtrlEn × USHORT :=
  if s.ulExAirFanRequestTime ≥ s.usExAirFanRunTimeLeast.setWidth 32 then
    (.ON, limit s.usExAirFanMinFreq s.usExAirFanMaxFreq s.usExAirFanMinFreq)
  else (.OFF, c.2)

/-- What `openVariateAt` makes of it. -/
def System.openVariate (s : System) (usFreq : USHORT) (c : eCtrlEn × USHORT) : eCtrlEn × USHORT :=
  (if usFreq ≥ s.usExAirFanMinFreq then .ON else c.1,
    if usFreq > s.usExAirFanMaxFreq then s.usExAirFanMaxFreq
    else if usFreq ≥ s.usExAirFanMinFreq then usFreq else c.2)

theorem close_commands (t : System) :
    (vExAirFan_SwitchClose 0 t).commands = t.commands.setVariate (.OFF, t.usExAirFanFreq) :=
  makeCall_commands t (.switchClose 0)

/-- What the control demands of the variable fan. -/
def System.demandVariate (s : System) (usFreq : Option USHORT) (c : eCtrlEn × USHORT) : eCtrlEn × USHORT :=
  match usFreq with
  | some usFreq => s.openVariate usFreq c
  | none => if s.PollDue then s.pollVariate c else c

/-- The commands that the control leaves. -/
def System.demanded (s : System) : Commands :=
  match frequencyWords s with
  | none => s.commands
  | some w => (s.stage s.commands).setVariate (s.demandVariate w.usFreq (s.stage s.commands).variate)

/-- The fans are commanded what is demanded: those to open are commanded on, those to close off, and the variable one
what it is to be. -/
def System.Suits (s : System) : Prop :=
  match frequencyWords s with
  | none => True
  | some w =>
    (∀ n ∈ s.toOpen, (s.fan n).eCtrlCmd = .ON) ∧ (∀ n ∈ s.toClose, (s.fan n).eCtrlCmd = .OFF) ∧
      s.demandVariate w.usFreq (s.stageVariate s.commands.variate) = s.commands.variate

/-- The state in which `pollRequest` looks at the control timer: the fans are staged, and the request is the same. -/
structure System.Switched (s t : System) : Prop where
  uncontrolled : t.uncontrolled = s.uncontrolled
  commands : t.commands = s.stage s.commands
  ctrlTmr : t.sExAirFanCtrlTmr = s.sExAirFanCtrlTmr
  openNum : t.ucConstantFanOpenNum = s.ucConstantFanOpenNum
  time : t.ulExAirFanRequestTime = s.ulExAirFanRequestTime
  other : t.g_ucConstantFanRequestNum ≠ t.ucConstantFanRequestNum ↔
    s.sExAirFanRequestTimeTmr.State ≠ .OS_TMR_STATE_RUNNING ∧ s.g_ucConstantFanRequestNum ≠ s.ucConstantFanRequestNum

section Both

theorem not_manual {s : System} (h : s.eSystemMode = .MODE_AUTO ∨ s.eSystemMode = .MODE_EMERGENCY) :
    ¬(s.eSystemMode = .MODE_MANUAL ∨ s.eSystemMode = .MODE_CLOSE) := by
  rcases h with h | h <;> simp [h]

theorem eSystemMode_of_uncontrolled {s t : System} (hs : t.uncontrolled = s.uncontrolled) :
    t.eSystemMode = s.eSystemMode := by
  show t.uncontrolled.eSystemMode = s.uncontrolled.eSystemMode
  rw [hs]

variable {s t : System} (h : s.Requested) (hs : t.uncontrolled = s.uncontrolled)

include h hs

theorem open_commands : (vExAirFan_SwitchOpen 0 t).commands = t.commands.setVariate (.ON, t.usExAirFanFreq) := by
  have hc := makeCall_commands t (.switchOpen 0)
  rw [call_of_uncontrolled hs] at hc
  refine hc.trans (if_pos h.takes)

theorem adjust_commands (usFreq : USHORT) :
    (vSystem_AdjustExAirFanFreq usFreq t).commands =
      t.commands.setVariate ((t.fan 0).eCtrlCmd, limit s.usExAirFanMinFreq s.usExAirFanMaxFreq usFreq) := by
  have hc := makeCall_commands t (.adjustFreq usFreq)
  rw [call_of_uncontrolled hs] at hc
  refine (hc.trans (if_pos h.type)).trans ?_
  exact Commands.ext_variate (fun n hn => (Commands.setVariate_other _ _ hn).symm)
    (Commands.setVariate_variate _ _).symm

omit h in
theorem range_of_uncontrolled :
    t.usExAirFanMinFreq = s.usExAirFanMinFreq ∧ t.usExAirFanMaxFreq = s.usExAirFanMaxFreq := by
  constructor
  · show t.uncontrolled.usExAirFanMinFreq = s.uncontrolled.usExAirFanMinFreq
    rw [hs]
  · show t.uncontrolled.usExAirFanMaxFreq = s.uncontrolled.usExAirFanMaxFreq
    rw [hs]

theorem openVariateAt_commands (usFreq : USHORT) :
    (openVariateAt 0 usFreq t).commands = t.commands.setVariate (s.openVariate usFreq t.commands.variate) := by
  -- from its lowest frequency on the fan is opened
  have hopen : ∃ t₁ : System, t₁.uncontrolled = s.uncontrolled ∧
      t₁.commands = t.commands.setVariate
        (if usFreq ≥ s.usExAirFanMinFreq then .ON else t.commands.variate.1, t.commands.variate.2) ∧
      (if usFreq ≥ t.usExAirFanMinFreq then { vExAirFan_SwitchOpen 0 t with xVariableFanRequest := true } else t) =
        t₁ := by
    rw [(range_of_uncontrolled hs).1]
    refine ⟨_, ?_, ?_, rfl⟩
    · split
      · exact (vExAirFan_SwitchOpen_uncontrolled 0 t).trans hs
      · exact hs
    · split
      · exact open_commands h hs
      · exact (Commands.setVariate_self t.commands).symm
  -- within its range the frequency is set
  have hadjust (t₁ : System) (hs₁ : t₁.uncontrolled = s.uncontrolled) : ∃ t₂ : System,
      t₂.uncontrolled = s.uncontrolled ∧ t₂.commands = t₁.commands.setVariate
        (t₁.commands.variate.1, if usFreq ≥ s.usExAirFanMinFreq ∧ usFreq ≤ s.usExAirFanMaxFreq then usFreq
          else t₁.commands.variate.2) ∧
      (if usFreq ≥ t₁.usExAirFanMinFreq ∧ usFreq ≤ t₁.usExAirFanMaxFreq then vSystem_AdjustExAirFanFreq usFreq t₁
        else t₁) = t₂ := by
    rw [(range_of_uncontrolled hs₁).1, (range_of_uncontrolled hs₁).2]
    refine ⟨_, ?_, ?_, rfl⟩
    · split
      · exact (vSystem_AdjustExAirFanFreq_uncontrolled t₁ usFreq).trans hs₁
      · exact hs₁
    · split
      · next hc =>
        rw [adjust_commands h hs₁, limit_of_mem hc.1 hc.2]
        rfl
      · exact (Commands.setVariate_self t₁.commands).symm
  obtain ⟨t₁, hs₁, hk₁, hopen⟩ := hopen
  obtain ⟨t₂, hs₂, hk₂, hadjust⟩ := hadjust t₁ hs₁
  unfold openVariateAt System.openVariate
  dsimp only
  rw [hopen, hadjust, (range_of_uncontrolled hs₂).2]
  have hk : t₂.commands = t.commands.setVariate (if usFreq ≥ s.usExAirFanMinFreq then .ON else t.commands.variate.1,
      if usFreq ≥ s.usExAirFanMinFreq ∧ usFreq ≤ s.usExAirFanMaxFreq then usFreq else t.commands.variate.2) := by
    rw [hk₂, hk₁, Commands.setVariate_setVariate, Commands.setVariate_variate]
  by_cases hhigh : usFreq > s.usExAirFanMaxFreq
  · -- above the range it takes the highest frequency
    rw [if_pos hhigh, if_pos hhigh, adjust_commands h hs₂, limit_eq_self_iff.mpr (Or.inr rfl), hk,
      Commands.setVariate_setVariate]
    have hcmd := congrArg Prod.fst (congrArg Commands.variate hk)
    rw [Commands.setVariate_variate] at hcmd
    exact congrArg (fun c => t.commands.setVariate (c, s.usExAirFanMaxFreq)) hcmd
  · rw [if_neg hhigh, if_neg hhigh, hk]
    simp only [BitVec.not_lt.mp hhigh, and_true]

theorem request_time_of (hnum : t.ucConstantFanOpenNum = s.ucConstantFanOpenNum)
    (htime : t.ulExAirFanRequestTime = s.ulExAirFanRequestTime) :
    (vSystem_ExAirRequest_Vol t).ulExAirFanRequestTime = s.ulExAirFanRequestTime := by
  have hread (u : System) : (vSystem_ExAirRequest_Vol u).ulExAirFanRequestTime =
      (vSystem_ExAirRequest_Vol { u.uncontrolled with
        ucConstantFanOpenNum := u.ucConstantFanOpenNum
        ulExAirFanRequestTime := u.ulExAirFanRequestTime }).ulExAirFanRequestTime := by
    rw [request_time, request_time]
    unfold requestRest
    rw [request_openNum, request_openNum, request_vol, request_vol]
    rfl
  rw [hread, hs, hnum, htime, ← hread s, h.again]

theorem requestVariate_commands (htime : t.ulExAirFanRequestTime = s.ulExAirFanRequestTime) :
    (requestVariate t).commands = t.commands.setVariate (s.pollVariate t.commands.variate) := by
  have husable : variateUsable t = some 0 := (h.toVariate.of_uncontrolled hs).usable
  have hleast : t.usExAirFanRunTimeLeast = s.usExAirFanRunTimeLeast := by
    show t.uncontrolled.usExAirFanRunTimeLeast = s.uncontrolled.usExAirFanRunTimeLeast
    rw [hs]
  have hlong : t.ulExAirFanRequestTime ≥ t.usExAirFanRunTimeLeast.setWidth 32 ↔
      s.ulExAirFanRequestTime ≥ s.usExAirFanRunTimeLeast.setWidth 32 := by rw [htime, hleast]
  unfold requestVariate System.pollVariate
  rw [husable]
  dsimp only
  by_cases hl : s.ulExAirFanRequestTime ≥ s.usExAirFanRunTimeLeast.setWidth 32
  · rw [if_pos (hlong.mpr hl), if_pos hl]
    have hopen : System.commands (vExAirFan_SwitchOpen 0 { t with xVariableFanRequest := true }) =
        t.commands.setVariate (.ON, t.usExAirFanFreq) :=
      open_commands (t := { t with xVariableFanRequest := true }) h hs
    have hopen_s : System.uncontrolled (vExAirFan_SwitchOpen 0 { t with xVariableFanRequest := true }) =
        s.uncontrolled := (vExAirFan_SwitchOpen_uncontrolled 0 _).trans hs
    generalize vExAirFan_SwitchOpen 0 { t with xVariableFanRequest := true } = t₁ at hopen hopen_s
    rw [(range_of_uncontrolled hopen_s).1]
    have hcmd := congrArg Prod.fst (congrArg Commands.variate hopen)
    rw [Commands.setVariate_variate] at hcmd
    have hadjust := adjust_commands h hopen_s s.usExAirFanMinFreq
    rw [hopen, Commands.setVariate_setVariate] at hadjust
    have hgoal : (vSystem_AdjustExAirFanFreq s.usExAirFanMinFreq t₁).commands = t.commands.setVariate
        (.ON, limit s.usExAirFanMinFreq s.usExAirFanMaxFreq s.usExAirFanMinFreq) :=
      hadjust.trans (congrArg (fun c => t.commands.setVariate (c, _)) hcmd)
    split
    · exact hgoal
    · exact hgoal
  · rw [if_neg (mt hlong.mp hl), if_neg hl]
    exact close_commands { t with xVariableFanRequest := false }

theorem callback_commands (hnum : t.ucConstantFanOpenNum = s.ucConstantFanOpenNum)
    (htime : t.ulExAirFanRequestTime = s.ulExAirFanRequestTime) :
    (vSystem_ExAirFanCtrlTmrCallback t).commands = t.commands.setVariate (s.pollVariate t.commands.variate) := by
  have hmode : ¬(t.eSystemMode = .MODE_MANUAL ∨ t.eSystemMode = .MODE_CLOSE) := by
    rw [eSystemMode_of_uncontrolled hs]
    exact not_manual h.mode
  have hreq : (vSystem_ExAirRequest_Vol t).commands = t.commands := by
    rw [request_eq]
    exact setRequestTimes_kept System.commands (fun _ _ => rfl) (fun _ _ => rfl) _ _ t
  have hreq_s : (vSystem_ExAirRequest_Vol t).uncontrolled = s.uncontrolled :=
    (vSystem_ExAirRequest_Vol_uncontrolled t).trans hs
  have hreq_time := request_time_of h hs hnum htime
  unfold vSystem_ExAirFanCtrlTmrCallback
  rw [if_neg hmode, ← hreq]
  generalize vSystem_ExAirRequest_Vol t = t₁ at hreq_s hreq_time
  have honly : ¬constantOnly (requestVariate t₁) = true := by
    rw [(h.toVariate.of_uncontrolled ((requestVariate_uncontrolled t₁).trans hreq_s)).not_constantOnly]
    exact Bool.false_ne_true
  unfold requestConstant
  rw [if_neg fun hc => honly hc.1]
  exact requestVariate_commands h hreq_s hreq_time

theorem switchAgain_commands (hd : Driven s t) (hk : t.commands = s.stage s.commands) :
    (vSystem_ExAirFanConstantSwitch t).commands = s.stage s.commands := by
  have hmode : t.eSystemMode = .MODE_AUTO ∨ t.eSystemMode = .MODE_EMERGENCY := by
    rw [eSystemMode_of_uncontrolled hs]
    exact h.mode
  have hnum : t.ucConstantFanRequestNum = s.ucConstantFanOpenNum := by
    have hsame : t.ucConstantFanRequestNum = s.ucConstantFanRequestNum := by
      obtain ⟨_, _, _, _, _, rfl⟩ := hd
      rfl
    rw [hsame, h.num]
  have hswitch := switch_commands hmode t.ucConstantFanRequestNum
  have hcall : Commands.call t = Commands.call s := funext fun k => call_of_uncontrolled hs k
  rw [switchCalls_of_driven hd hs, hcall, hk, hnum] at hswitch
  have hrequest : t.request s.ucConstantFanOpenNum = t := by
    rw [← hnum]
    rfl
  rw [hrequest] at hswitch
  exact hswitch.trans (stage_idem h.toVariate h.set s.commands)

/-- The first step of `pollRequest`: while the request timer runs the fans are staged again. -/
theorem pollRequest_switch (hd : Driven s t) (hk : t.commands = s.stage s.commands) :
    s.Switched (if t.sExAirFanRequestTimeTmr.State = .OS_TMR_STATE_RUNNING then vSystem_ExAirFanConstantSwitch t
      else t) := by
  have htmr : t.sExAirFanRequestTimeTmr = s.sExAirFanRequestTimeTmr := by
    obtain ⟨_, _, _, _, _, rfl⟩ := hd
    rfl
  rw [htmr]
  by_cases hrun : s.sExAirFanRequestTimeTmr.State = .OS_TMR_STATE_RUNNING
  · have hmode : ¬(t.eSystemMode = .MODE_MANUAL ∨ t.eSystemMode = .MODE_CLOSE) := by
      rw [eSystemMode_of_uncontrolled hs]
      exact not_manual h.mode
    have hagain := switchAgain_commands h hs hd hk
    have hdrive : Driven s (t.staging.vSystem_ExAirFanConstantSwitch.foldl makeCall t) := hd.trans (Driven.makeCalls _)
    have hu := (makeCalls_uncontrolled t.staging.vSystem_ExAirFanConstantSwitch t).trans hs
    have heq := vSystem_ExAirFanConstantSwitch_eq t hmode
    rw [if_pos hrun, heq]
    rw [heq] at hagain
    generalize t.staging.vSystem_ExAirFanConstantSwitch.foldl makeCall t = u at hagain hdrive hu
    obtain ⟨_, _, _, _, _, rfl⟩ := hdrive
    exact ⟨hu, hagain, rfl, rfl, rfl, iff_of_false (fun hne => hne rfl) (fun hc => hc.1 hrun)⟩
  · rw [if_neg hrun]
    obtain ⟨_, _, _, _, _, rfl⟩ := hd
    exact ⟨hs, hk, rfl, rfl, rfl, (and_iff_right hrun).symm⟩

theorem registCtrl_commands (hnum : t.ucConstantFanOpenNum = s.ucConstantFanOpenNum)
    (htime : t.ulExAirFanRequestTime = s.ulExAirFanRequestTime) (usPeriod : USHORT) :
    (registCtrl usPeriod t).commands =
      if (xTimerRegist_create 0 (usPeriod.setWidth 32) .OS_OPT_TMR_PERIODIC t.sExAirFanCtrlTmr).2 = true then
        t.commands.setVariate (s.pollVariate t.commands.variate)
      else t.commands := by
  unfold registCtrl
  dsimp only
  generalize xTimerRegist_create 0 (usPeriod.setWidth 32) .OS_OPT_TMR_PERIODIC t.sExAirFanCtrlTmr = r
  split
  · exact callback_commands (t := { t with sExAirFanCtrlTmr := r.1 }) h hs hnum htime
  · rfl

omit hs in
theorem pollRequest_commands (hd : Driven s t) (hs : t.uncontrolled = s.uncontrolled)
    (hk : t.commands = s.stage s.commands) :
    (pollRequest s.usExAirFanCtrlPeriod t).commands =
      if s.PollDue then (s.stage s.commands).setVariate (s.pollVariate (s.stage s.commands).variate)
      else s.stage s.commands := by
  have hswitch := pollRequest_switch h hs hd hk
  unfold pollRequest
  dsimp only
  generalize (if t.sExAirFanRequestTimeTmr.State = .OS_TMR_STATE_RUNNING then vSystem_ExAirFanConstantSwitch t
    else t) = w at hswitch
  have hcond : (w.sExAirFanCtrlTmr.State ≠ .OS_TMR_STATE_RUNNING ∨
      w.g_ucConstantFanRequestNum ≠ w.ucConstantFanRequestNum) ↔
      (s.sExAirFanCtrlTmr.State ≠ .OS_TMR_STATE_RUNNING ∨
        s.sExAirFanRequestTimeTmr.State ≠ .OS_TMR_STATE_RUNNING ∧
          s.g_ucConstantFanRequestNum ≠ s.ucConstantFanRequestNum) := by
    rw [hswitch.ctrlTmr, hswitch.other]
  by_cases hdue : w.sExAirFanCtrlTmr.State ≠ .OS_TMR_STATE_RUNNING ∨
      w.g_ucConstantFanRequestNum ≠ w.ucConstantFanRequestNum
  · rw [if_pos hdue, registCtrl_commands h hswitch.uncontrolled hswitch.openNum hswitch.time, hswitch.ctrlTmr,
      hswitch.commands]
    exact if_congr (and_iff_right (hcond.mp hdue)).symm rfl rfl
  · rw [if_neg hdue, if_neg fun hc => hdue (hcond.mpr hc.1), hswitch.commands]

omit hs in
/-- **The control of the variable fan commands what is demanded.** -/
theorem vSystem_ExAirFanBothCtrl_commands : (vSystem_ExAirFanBothCtrl s).commands = s.demanded := by
  have hmode := not_manual h.mode
  -- as many fans are kept open as are requested, so the switch is the staging
  have hcalls : s.staging.vSystem_ExAirFanConstantAlwaysOpen = s.switchCalls s.ucConstantFanOpenNum := by
    have hleast : (s.ucConstantFanRequestNum.toNat : ℤ) - s.ucConstantFanOpenNum.toNat = (0 : ℕ) := by
      rw [h.num, sub_self]
      rfl
    exact (if_neg hmode).trans (congrArg (s.staging.switchConstantFans s.ucConstantFanOpenNum) hleast)
  have hstage : (vSystem_ExAirFanConstantAlwaysOpen s).commands = s.stage s.commands := by
    rw [vSystem_ExAirFanConstantAlwaysOpen_eq, hcalls]
    exact makeCalls_commands rfl _
  have hs := vSystem_ExAirFanConstantAlwaysOpen_uncontrolled s
  have hd : Driven s (vSystem_ExAirFanConstantAlwaysOpen s) := by
    rw [vSystem_ExAirFanConstantAlwaysOpen_eq]
    exact Driven.makeCalls _
  rw [vSystem_ExAirFanBothCtrl_eq s 0 h.fan]
  unfold System.demanded
  cases frequencyWords s with
  | none => rfl
  | some w =>
    obtain ⟨rated, rest, least, usFreq⟩ := w
    cases usFreq with
    | none =>
      -- without a frequency the request is left to the timers
      have hpoll := pollRequest_commands h hd hs hstage
      dsimp only
      unfold System.demandVariate
      dsimp only
      rw [hpoll]
      split
      · rfl
      · exact (Commands.setVariate_self _).symm
    | some usFreq =>
      have hopen := openVariateAt_commands h hs usFreq
      rw [hstage] at hopen
      exact hopen

omit hs in
/-- What is demanded is what is commanded exactly where the request suits the commands. -/
theorem demanded_iff : s.demanded = s.commands ↔ s.Suits := by
  unfold System.demanded System.Suits
  cases frequencyWords s with
  | none => exact iff_of_true rfl trivial
  | some w =>
    dsimp only
    rw [stage_variate h.toVariate h.set]
    have hother {n : Fin EX_AIR_FAN_NUM} (hn : n ≠ 0) (c : eCtrlEn × USHORT) :
        ((s.stage s.commands).setVariate c).eCtrlCmd n =
          if n ∈ s.toOpen then .ON else if n ∈ s.toClose then .OFF else (s.fan n).eCtrlCmd := by
      rw [Commands.setVariate_other _ _ hn, stage_other h.toVariate _ hn]
      rfl
    constructor
    · intro heq
      have hcmd {n : Fin EX_AIR_FAN_NUM} (hn : n ≠ 0) :=
        (hother hn (s.demandVariate w.usFreq (s.stageVariate s.commands.variate))).symm.trans
          (congrArg (fun k => Commands.eCtrlCmd k n) heq)
      refine ⟨fun n ho => ?_, fun n hc => ?_, ?_⟩
      · -- a fan to be opened is commanded on already
        have hon := hcmd (constant_ne_zero h.toVariate h.set (Staging.mem_opened ho).1)
        rw [if_pos ho] at hon
        exact hon.symm
      · -- a fan to be closed runs, so it is not one to be opened
        obtain ⟨hu, hr⟩ := Staging.mem_closed hc
        have hno : n ∉ s.toOpen := fun ho => by
          rw [(Staging.mem_opened ho).2] at hr
          cases hr
        have hoff := hcmd (constant_ne_zero h.toVariate h.set hu)
        rw [if_neg hno, if_pos hc] at hoff
        exact hoff.symm
      · have hv := congrArg Commands.variate heq
        rwa [Commands.setVariate_variate] at hv
    · rintro ⟨hon, hoff, hv⟩
      refine Commands.ext_variate (fun n hn => ?_) ?_
      · rw [hother hn]
        split
        · next ho => exact (hon n ho).symm
        · split
          · next hc => exact (hoff n hc).symm
          · rfl
      · rw [Commands.setVariate_variate]
        exact hv

end Both

/-! ### The control with little CO2 -/

theorem Driven.vol {s s' : System} (h : Driven s s') : s'.ulExAirRequest_Vol = s.ulExAirRequest_Vol := by
  obtain ⟨_, _, _, _, _, rfl⟩ := h
  rfl

section Vol

variable (s : System)

theorem switch_vol : (vSystem_ExAirFanConstantSwitch s).ulExAirRequest_Vol = s.ulExAirRequest_Vol := by
  unfold vSystem_ExAirFanConstantSwitch
  split
  · rfl
  · have hd : Driven s (switchConstantFans s.ucConstantFanRequestNum 0 s) := by
      rw [switchConstantFans_eq]
      exact Driven.makeCalls _
    exact hd.vol

theorem requestVariate_vol : (requestVariate s).ulExAirRequest_Vol = s.ulExAirRequest_Vol := by
  unfold requestVariate
  cases variateUsable s with
  | none => rfl
  | some v =>
    dsimp only
    have hopen : Driven { s with xVariableFanRequest := true }
        (vExAirFan_SwitchOpen v { s with xVariableFanRequest := true }) := Driven.makeCall (.switchOpen v)
    generalize vExAirFan_SwitchOpen v { s with xVariableFanRequest := true } = t at hopen
    have hadjust : Driven t (vSystem_AdjustExAirFanFreq t.usExAirFanMinFreq t) :=
      Driven.makeCall (.adjustFreq t.usExAirFanMinFreq)
    split
    · split
      · exact (hopen.trans hadjust).vol
      · exact (hopen.trans hadjust).vol
    · have hclose : Driven { s with xVariableFanRequest := false }
          (vExAirFan_SwitchClose v { s with xVariableFanRequest := false }) := Driven.makeCall (.switchClose v)
      exact hclose.vol

theorem requestConstant_vol : (requestConstant s).ulExAirRequest_Vol = s.ulExAirRequest_Vol := by
  unfold requestConstant
  split
  · exact switch_vol { s with g_ulExAirFanRequestTime := s.ulExAirFanRequestTime }
  · rfl

theorem openVariateAt_vol (v : Fin EX_AIR_FAN_NUM) (usFreq : USHORT) :
    (openVariateAt v usFreq s).ulExAirRequest_Vol = s.ulExAirRequest_Vol := by
  have hopen (c : Prop) [Decidable c] : System.ulExAirRequest_Vol
      (if c then { vExAirFan_SwitchOpen v s with xVariableFanRequest := true } else s) = s.ulExAirRequest_Vol := by
    split
    · exact (Driven.makeCall (s := s) (.switchOpen v)).vol
    · rfl
  have hadjust (c : Prop) [Decidable c] (f : USHORT) (t : System) :
      (if c then vSystem_AdjustExAirFanFreq f t else t).ulExAirRequest_Vol = t.ulExAirRequest_Vol := by
    split
    · exact (Driven.makeCall (s := t) (.adjustFreq f)).vol
    · rfl
  unfold openVariateAt
  dsimp only
  rw [hadjust, hadjust, hopen]

theorem request_vol_of {s s' : System} (hs : s'.uncontrolled = s.uncontrolled) :
    (vSystem_ExAirRequest_Vol s').ulExAirRequest_Vol = (vSystem_ExAirRequest_Vol s).ulExAirRequest_Vol := by
  have hread (t : System) : (vSystem_ExAirRequest_Vol t).ulExAirRequest_Vol =
      t.uncontrolled.ulFreAirSet_Vol * (exAirRatio t.uncontrolled).setWidth 32 / 100 := request_vol t
  rw [hread, hs, ← hread]

theorem pollRequest_vol {t : System} (hs : t.uncontrolled = s.uncontrolled)
    (hvol : t.ulExAirRequest_Vol = (vSystem_ExAirRequest_Vol s).ulExAirRequest_Vol) (usExAirFanCtrlPeriod : USHORT) :
    (pollRequest usExAirFanCtrlPeriod t).ulExAirRequest_Vol = (vSystem_ExAirRequest_Vol s).ulExAirRequest_Vol := by
  have hswitch : (if t.sExAirFanRequestTimeTmr.State = .OS_TMR_STATE_RUNNING then vSystem_ExAirFanConstantSwitch t
      else t).ulExAirRequest_Vol = t.ulExAirRequest_Vol := by
    split
    · exact switch_vol t
    · rfl
  have hswitch_s : (if t.sExAirFanRequestTimeTmr.State = .OS_TMR_STATE_RUNNING then vSystem_ExAirFanConstantSwitch t
      else t).uncontrolled = t.uncontrolled := by
    split
    · exact vSystem_ExAirFanConstantSwitch_uncontrolled t
    · rfl
  unfold pollRequest
  dsimp only
  generalize (if t.sExAirFanRequestTimeTmr.State = .OS_TMR_STATE_RUNNING then vSystem_ExAirFanConstantSwitch t
    else t) = w at hswitch hswitch_s
  have hw := hswitch.trans hvol
  -- the callback computes the volume again, from the same settings
  have hcallback (r : OS_TMR) : (vSystem_ExAirFanCtrlTmrCallback { w with sExAirFanCtrlTmr := r }).ulExAirRequest_Vol =
      (vSystem_ExAirRequest_Vol s).ulExAirRequest_Vol := by
    unfold vSystem_ExAirFanCtrlTmrCallback
    split
    · exact hw
    · rw [requestConstant_vol, requestVariate_vol]
      exact request_vol_of (hswitch_s.trans hs)
  split
  · unfold registCtrl
    dsimp only
    split
    · exact hcallback _
    · exact hw
  · exact hw

end Vol

/-- A plant that the demand controls: with little CO2, in automatic or emergency mode, with a usable variable fan. -/
structure System.Ventilated (s : System) : Prop extends s.Variate where
  set : s.VariateSet
  mode : s.eSystemMode = .MODE_AUTO ∨ s.eSystemMode = .MODE_EMERGENCY
  low : (s.usCO2PPM.toNat : ℤ) < s.usCO2AdjustThr_V.toNat - s.usCO2AdjustDeviat.toNat

section Control

variable {s : System} (h : s.Ventilated)

include h

theorem System.Ventilated.of_uncontrolled {s' : System} (hs : s'.uncontrolled = s.uncontrolled) : s'.Ventilated := by
  have hiff (t : System) : t.Ventilated ↔ t.uncontrolled.Ventilated :=
    ⟨fun h => ⟨⟨h.type, h.fan, h.takes⟩, h.set, h.mode, h.low⟩,
      fun h => ⟨⟨h.type, h.fan, h.takes⟩, h.set, h.mode, h.low⟩⟩
  rw [hiff, hs, ← hiff]
  exact h

theorem System.Ventilated.requested : (vSystem_ExAirRequest_Vol s).Requested := by
  have h' := h.of_uncontrolled (vSystem_ExAirRequest_Vol_uncontrolled s)
  refine ⟨h'.toVariate, h'.set, h'.mode, ?_, h.toVariate.request_idem⟩
  rw [h.toVariate.request_eq]
  rfl

theorem vSystem_ExAirFanCtrl_low : vSystem_ExAirFanCtrl s = vSystem_ExAirFanBothCtrl (vSystem_ExAirRequest_Vol s) := by
  have hmanual : ¬s.eSystemMode = .MODE_MANUAL := fun hm => not_manual h.mode (Or.inl hm)
  have hhigh : ¬s.usCO2PPM.toNat > s.usCO2AdjustThr_V.toNat + s.usCO2AdjustDeviat.toNat := by
    have hlow := h.low
    omega
  have husable : (variateUsable (vSystem_ExAirRequest_Vol s)).isSome = true := by
    rw [h.requested.toVariate.usable]
    rfl
  have hboth := (vSystem_ExAirFanBothCtrl_uncontrolled (vSystem_ExAirRequest_Vol s)).trans
    (vSystem_ExAirRequest_Vol_uncontrolled s)
  have honly : ¬constantOnly (vSystem_ExAirFanBothCtrl (vSystem_ExAirRequest_Vol s)) = true := by
    rw [(h.toVariate.of_uncontrolled hboth).not_constantOnly]
    exact Bool.false_ne_true
  unfold vSystem_ExAirFanCtrl
  dsimp only
  rw [if_neg hmanual, if_pos h.mode, if_neg hhigh, if_pos h.low, if_pos husable, if_neg honly]

omit h in
theorem request_commands (s : System) : (vSystem_ExAirRequest_Vol s).commands = s.commands := by
  rw [request_eq]
  exact setRequestTimes_kept System.commands (fun _ _ => rfl) (fun _ _ => rfl) _ _ s

theorem vSystem_ExAirFanCtrl_commands : (vSystem_ExAirFanCtrl s).commands = (vSystem_ExAirRequest_Vol s).demanded := by
  rw [vSystem_ExAirFanCtrl_low h]
  exact vSystem_ExAirFanBothCtrl_commands h.requested

/-- The control leaves the commands exactly where the request suits them. -/
theorem ctrl_kept_iff : (vSystem_ExAirFanCtrl s).commands = s.commands ↔ (vSystem_ExAirRequest_Vol s).Suits := by
  rw [vSystem_ExAirFanCtrl_commands h, ← request_commands s]
  exact demanded_iff h.requested

theorem vSystem_ExAirFanCtrl_vol :
    (vSystem_ExAirFanCtrl s).ulExAirRequest_Vol = (vSystem_ExAirRequest_Vol s).ulExAirRequest_Vol := by
  rw [vSystem_ExAirFanCtrl_low h, vSystem_ExAirFanBothCtrl_eq _ 0 h.requested.fan]
  have halways : Driven (vSystem_ExAirRequest_Vol s)
      (vSystem_ExAirFanConstantAlwaysOpen (vSystem_ExAirRequest_Vol s)) := by
    rw [vSystem_ExAirFanConstantAlwaysOpen_eq]
    exact Driven.makeCalls _
  have hs := (vSystem_ExAirFanConstantAlwaysOpen_uncontrolled _).trans (vSystem_ExAirRequest_Vol_uncontrolled s)
  split
  · rfl
  · exact (openVariateAt_vol _ 0 _).trans halways.vol
  · exact pollRequest_vol s hs halways.vol _

end Control

/-! ### The handlers of the settings -/

/-- A new fresh air, or new ratios. -/
inductive VentSetting
  | freAir (usFreAirSet_Vol_H usFreAirSet_Vol_L : USHORT)
  | ratio (ucExAirCoolRatio ucExAirHeatRatio : UCHAR)

namespace VentSetting

def handle : VentSetting → System → System
  | freAir usVol_H usVol_L => vSystem_SetFreAir usVol_H usVol_L
  | ratio ucCool ucHeat => vSystem_ExAirRatio ucCool ucHeat

/-- The setting is taken over, and no fan is controlled. -/
def apply : VentSetting → System → System
  | freAir usVol_H usVol_L, s =>
    if volume usVol_H usVol_L > MAX_FRE_AIR_SET_VOL then writeFreAir s
    else if s.ulFreAirSet_Vol = volume usVol_H usVol_L then s
    else shareFreAir { s with ulFreAirSet_Vol := volume usVol_H usVol_L }
  | ratio ucCool ucHeat, s => { s with ucExAirCoolRatio := ucCool, ucExAirHeatRatio := ucHeat }

/-- The setting counts: the handler of the ratios sets that of heating never. -/
def Counts : VentSetting → System → Prop
  | freAir _ _, _ => True
  | ratio _ _, s => s.eRunningMode ≠ .RUN_MODE_HEAT

instance (e : VentSetting) (s : System) : Decidable (e.Counts s) :=
  match e with
  | freAir _ _ => isTrue trivial
  | ratio _ _ => inferInstanceAs (Decidable (_ ≠ _))

/-- The handler runs the control: another volume is requested, and another number of constant fans than the last one
switched. -/
def Runs (e : VentSetting) (s : System) : Prop :=
  e.Counts s ∧ (vSystem_ExAirRequest_Vol (e.apply s)).ulExAirRequest_Vol ≠ s.ulExAirRequest_Vol ∧
    s.g_ucConstantFanRequestNum ≠ (vSystem_ExAirRequest_Vol (e.apply s)).ucConstantFanOpenNum

instance (e : VentSetting) (s : System) : Decidable (e.Runs s) := inferInstanceAs (Decidable (_ ∧ _))

end VentSetting

/-- The system with other settings of the ventilation, and other units. -/
def System.retune (list : Fin MODULAR_ROOF_NUM → ModularRoof) (ulVol : ULONG) (ucCool ucHeat : UCHAR) (psBMS : BMS)
    (s : System) : System :=
  { s with
    ulFreAirSet_Vol := ulVol, ucExAirCoolRatio := ucCool, ucExAirHeatRatio := ucHeat
    psBMS := psBMS, psModularRoofList := list }

/-- The second system is the first one but for these settings. -/
def Retuned (s s' : System) : Prop := ∃ list ulVol ucCool ucHeat psBMS, s' = s.retune list ulVol ucCool ucHeat psBMS

namespace Retuned

variable {s s' s'' : System}

theorem refl (s : System) : Retuned s s := ⟨_, _, _, _, _, rfl⟩

theorem trans (h : Retuned s s') (h' : Retuned s' s'') : Retuned s s'' := by
  obtain ⟨_, _, _, _, _, rfl⟩ := h
  obtain ⟨_, _, _, _, _, rfl⟩ := h'
  exact ⟨_, _, _, _, _, rfl⟩

theorem setUnit (n : Fin MODULAR_ROOF_NUM) (u : ModularRoof) : Retuned s (s.setUnit n u) := ⟨_, _, _, _, _, rfl⟩

theorem allUnits (usVol : USHORT) (list : List (Fin MODULAR_ROOF_NUM)) :
    Retuned s (list.foldl (fun s n => s.setUnit n { s.unit n with usFreAirSet_Vol := usVol }) s) := by
  induction list generalizing s with
  | nil => exact refl s
  | cons n list ih => exact (setUnit n _).trans ih

theorem shareFreAir : Retuned s (Control.shareFreAir s) := by
  unfold Control.shareFreAir
  split
  · exact refl s
  · split
    · unfold oneUnitFreAir
      split
      · exact ⟨_, _, _, _, _, rfl⟩
      · exact setUnit _ _
    · exact allUnits _ _

theorem apply (e : VentSetting) : Retuned s (e.apply s) := by
  cases e with
  | freAir usVol_H usVol_L =>
    unfold VentSetting.apply
    dsimp only
    split
    · exact ⟨_, _, _, _, _, rfl⟩
    · split
      · exact refl s
      · have hvol : Retuned s { s with ulFreAirSet_Vol := volume usVol_H usVol_L } := ⟨_, _, _, _, _, rfl⟩
        exact hvol.trans shareFreAir
  | ratio ucCool ucHeat => exact ⟨_, _, _, _, _, rfl⟩

theorem ventilated (h : Retuned s s') (hs : s.Ventilated) : s'.Ventilated := by
  obtain ⟨_, _, _, _, _, rfl⟩ := h
  exact ⟨⟨hs.type, hs.fan, hs.takes⟩, hs.set, hs.mode, hs.low⟩

theorem commands (h : Retuned s s') : s'.commands = s.commands := by
  obtain ⟨_, _, _, _, _, rfl⟩ := h
  rfl

end Retuned

section Settings

variable {s : System} (h : s.Ventilated)

include h

theorem vSystem_ExAirSet_Vol_commands :
    (vSystem_ExAirSet_Vol s).commands =
      if (vSystem_ExAirRequest_Vol s).ulExAirRequest_Vol ≠ s.ulExAirRequest_Vol ∧
          s.g_ucConstantFanRequestNum ≠ (vSystem_ExAirRequest_Vol s).ucConstantFanOpenNum then
        (vSystem_ExAirFanCtrl s).commands
      else s.commands := by
  have hidem := h.toVariate.request_idem
  have hctrl : vSystem_ExAirFanCtrl (vSystem_ExAirRequest_Vol s) = vSystem_ExAirFanCtrl s := by
    rw [vSystem_ExAirFanCtrl_low h,
      vSystem_ExAirFanCtrl_low (h.of_uncontrolled (vSystem_ExAirRequest_Vol_uncontrolled s)), hidem]
  have hg : (vSystem_ExAirRequest_Vol s).g_ucConstantFanRequestNum = s.g_ucConstantFanRequestNum := by
    rw [h.toVariate.request_eq]
    rfl
  unfold vSystem_ExAirSet_Vol
  dsimp only
  rw [hidem, hg, h.requested.num, hctrl, ite_and]
  split
  · split
    · rfl
    · exact request_commands s
  · exact request_commands s

theorem ctrl_heatRatio (hmode : s.eRunningMode ≠ .RUN_MODE_HEAT) (ucHeat : UCHAR) :
    (vSystem_ExAirFanCtrl { s with ucExAirHeatRatio := ucHeat }).commands = (vSystem_ExAirFanCtrl s).commands := by
  have hr : Retuned s { s with ucExAirHeatRatio := ucHeat } := ⟨_, _, _, _, _, rfl⟩
  have h' := hr.ventilated h
  have hreq : vSystem_ExAirRequest_Vol { s with ucExAirHeatRatio := ucHeat } =
      { vSystem_ExAirRequest_Vol s with ucExAirHeatRatio := ucHeat } := by
    have hratio : exAirRatio { s with ucExAirHeatRatio := ucHeat } = exAirRatio s :=
      (if_neg hmode).trans (if_neg hmode).symm
    rw [h'.toVariate.request_eq, h.toVariate.request_eq, hratio]
    rfl
  rw [vSystem_ExAirFanCtrl_commands h', vSystem_ExAirFanCtrl_commands h, hreq]
  rfl

variable (hfix : vSystem_ExAirFanCtrl s = s)

include hfix

theorem request_vol_fix {s' : System} (hvol : s'.ulFreAirSet_Vol = s.ulFreAirSet_Vol)
    (hratio : exAirRatio s' = exAirRatio s) :
    (vSystem_ExAirRequest_Vol s').ulExAirRequest_Vol = s.ulExAirRequest_Vol := by
  have hfixed := vSystem_ExAirFanCtrl_vol h
  rw [hfix] at hfixed
  rw [hfixed, request_vol, request_vol, hvol, hratio]

theorem not_runs {e : VentSetting} (hvol : (e.apply s).ulFreAirSet_Vol = s.ulFreAirSet_Vol)
    (hratio : exAirRatio (e.apply s) = exAirRatio s) : ¬e.Runs s :=
  fun hruns => hruns.2.1 (request_vol_fix h hfix hvol hratio)

theorem vSystem_SetFreAir_commands (usVol_H usVol_L : USHORT) :
    (vSystem_SetFreAir usVol_H usVol_L s).commands =
      if VentSetting.Runs (.freAir usVol_H usVol_L) s then
        (vSystem_ExAirFanCtrl (VentSetting.apply (.freAir usVol_H usVol_L) s)).commands
      else s.commands := by
  unfold vSystem_SetFreAir
  dsimp only
  by_cases hrefused : volume usVol_H usVol_L > MAX_FRE_AIR_SET_VOL
  · have happly : VentSetting.apply (.freAir usVol_H usVol_L) s = writeFreAir s := if_pos hrefused
    have hno : ¬VentSetting.Runs (.freAir usVol_H usVol_L) s := by
      apply not_runs h hfix
      · rw [happly]
        rfl
      · rw [happly]
        rfl
    rw [if_pos hrefused, if_neg hno]
    rfl
  · by_cases hsame : s.ulFreAirSet_Vol = volume usVol_H usVol_L
    · have happly : VentSetting.apply (.freAir usVol_H usVol_L) s = s := (if_neg hrefused).trans (if_pos hsame)
      have hno : ¬VentSetting.Runs (.freAir usVol_H usVol_L) s := by
        apply not_runs h hfix
        · rw [happly]
        · rw [happly]
      rw [if_neg hrefused, if_pos hsame, if_neg hno]
    · have happly : VentSetting.apply (.freAir usVol_H usVol_L) s =
          shareFreAir { s with ulFreAirSet_Vol := volume usVol_H usVol_L } :=
        (if_neg hrefused).trans (if_neg hsame)
      have hr := Retuned.apply (s := s) (.freAir usVol_H usVol_L)
      rw [if_neg hrefused, if_neg hsame, ← happly, vSystem_ExAirSet_Vol_commands (hr.ventilated h)]
      refine if_congr ?_ rfl hr.commands
      unfold VentSetting.Runs
      obtain ⟨_, _, _, _, _, heq⟩ := hr
      rw [heq]
      exact (and_iff_right trivial).symm

theorem vSystem_ExAirRatio_commands (ucCool ucHeat : UCHAR) :
    (vSystem_ExAirRatio ucCool ucHeat s).commands =
      if VentSetting.Runs (.ratio ucCool ucHeat) s then
        (vSystem_ExAirFanCtrl (VentSetting.apply (.ratio ucCool ucHeat) s)).commands
      else s.commands := by
  have hr : Retuned s { s with ucExAirCoolRatio := ucCool } := ⟨_, _, _, _, _, rfl⟩
  have h' := hr.ventilated h
  have hhandle : vSystem_ExAirRatio ucCool ucHeat s =
      if s.ucExAirCoolRatio ≠ ucCool then vSystem_ExAirSet_Vol { s with ucExAirCoolRatio := ucCool } else s :=
    if_congr or_self_iff rfl rfl
  rw [hhandle]
  by_cases hheat : s.eRunningMode = .RUN_MODE_HEAT
  · have hno : ¬VentSetting.Runs (.ratio ucCool ucHeat) s := fun hruns => hruns.1 hheat
    have hvol : (vSystem_ExAirRequest_Vol { s with ucExAirCoolRatio := ucCool }).ulExAirRequest_Vol =
        s.ulExAirRequest_Vol :=
      request_vol_fix h hfix rfl ((if_pos hheat).trans (if_pos hheat).symm)
    rw [if_neg hno]
    split
    · exact (vSystem_ExAirSet_Vol_commands h').trans (if_neg fun hc => hc.1 hvol)
    · rfl
  · have hratio : exAirRatio (VentSetting.apply (.ratio ucCool ucHeat) s) = ucCool := if_neg hheat
    by_cases hcool : s.ucExAirCoolRatio = ucCool
    · have hno : ¬VentSetting.Runs (.ratio ucCool ucHeat) s := by
        refine not_runs h hfix rfl (hratio.trans ?_)
        rw [← hcool]
        exact (if_neg hheat).symm
      rw [if_neg (not_not_intro hcool), if_neg hno]
    · rw [if_pos hcool]
      refine (vSystem_ExAirSet_Vol_commands h').trans (if_congr ?_ (ctrl_heatRatio h' hheat ucHeat).symm rfl)
      have hvol : (vSystem_ExAirRequest_Vol (VentSetting.apply (.ratio ucCool ucHeat) s)).ulExAirRequest_Vol =
          (vSystem_ExAirRequest_Vol { s with ucExAirCoolRatio := ucCool }).ulExAirRequest_Vol := by
        have hratio' : exAirRatio { s with ucExAirCoolRatio := ucCool } = ucCool := if_neg hheat
        rw [request_vol, request_vol, hratio, hratio']
        rfl
      unfold VentSetting.Runs
      rw [request_openNum, request_openNum, hvol]
      exact (and_iff_right hheat).symm

theorem handle_commands (e : VentSetting) :
    (e.handle s).commands = if e.Runs s then (vSystem_ExAirFanCtrl (e.apply s)).commands else s.commands := by
  cases e with
  | freAir usVol_H usVol_L => exact vSystem_SetFreAir_commands h hfix usVol_H usVol_L
  | ratio ucCool ucHeat => exact vSystem_ExAirRatio_commands h hfix ucCool ucHeat

end Settings

/-- **A new setting reaches the fans exactly where the handler runs the control, or the fans are commanded already
what the new demand asks for.** -/
theorem ventilation_agrees_iff (s : System) (h : s.Ventilated) (hfix : vSystem_ExAirFanCtrl s = s) (e : VentSetting) :
    (e.handle s).commands = (vSystem_ExAirFanCtrl (e.apply s)).commands ↔
      e.Runs s ∨ (vSystem_ExAirRequest_Vol (e.apply s)).Suits := by
  have hr := Retuned.apply (s := s) e
  have hsuits := ctrl_kept_iff (hr.ventilated h)
  rw [hr.commands] at hsuits
  rw [handle_commands h hfix e, ← hsuits]
  by_cases hruns : e.Runs s
  · rw [if_pos hruns]
    exact iff_of_true rfl (Or.inl hruns)
  · rw [if_neg hruns, or_iff_right hruns]
    exact eq_comm

/-- A plant whose variable fan meets the rest of the demand at 250, besides one constant fan. -/
def steadyFans : System :=
  { System.zero with
    eSystemMode := .MODE_AUTO, eRunningMode := .RUN_MODE_COOL
    usCO2PPM := 2000, usCO2AdjustThr_V := 2700, usCO2AdjustDeviat := 270
    eExAirFanType := .TYPE_CONSTANT_VARIABLE, pExAirFanVariate := some 0
    ulFreAirSet_Vol := 60000, ucExAirCoolRatio := 90, ucExAirHeatRatio := 90
    ulExAirFanRated_Vol := 36000, usExAirFanMinFreq := 200, usExAirFanMaxFreq := 500, usExAirFanCtrlPeriod := 1800
    ulExAirRequest_Vol := 54000, ucConstantFanOpenNum := 1, ucConstantFanRequestNum := 1
    g_ucConstantFanRequestNum := 1, ulExAirFanRequestTime := 2250, usExAirFanRunTimeLeast := 600
    xVariableFanRequest := true, usExAirFanFreq := 250
    psBMS := { System.zero.psBMS with usExAirFanFreq := 250 }
    psExAirFanList := fun n =>
      { ExAirFan.zero with
        eFanFreqType := if n = 0 then .VARIABLE_FREQ else .CONSTANT_FREQ
        usMinFreq := 0, usMaxFreq := 500, usSetFreq := 250, usRunningFreq := 250, sSwitch_DO := 1
        eCtrlCmd := if n = 0 ∨ n = 1 then .ON else .OFF
        eRunningState := if n = 0 ∨ n = 1 then .STATE_RUN else .STATE_STOP
        xExAirFanRemote := true }
    digitalOutput := fun _ => .ON }

theorem steadyFans_ventilated : steadyFans.Ventilated where
  type := rfl
  fan := rfl
  takes := by decide
  set := fun _ => ⟨rfl, rfl⟩
  mode := Or.inl rfl
  low := by decide

/-- The control leaves it. -/
theorem steadyFans_fix : vSystem_ExAirFanCtrl steadyFans = steadyFans := by
  have hreq : vSystem_ExAirRequest_Vol steadyFans = steadyFans := rfl
  have hwords : frequencyWords steadyFans = some ⟨36000, 18000, 14400, some 250⟩ := rfl
  have halways : vSystem_ExAirFanConstantAlwaysOpen steadyFans = steadyFans := rfl
  have hout : Function.update steadyFans.digitalOutput 1 .ON = steadyFans.digitalOutput := Function.update_eq_self 1 _
  have hlist : Function.update steadyFans.psExAirFanList 0 (steadyFans.fan 0) = steadyFans.psExAirFanList :=
    Function.update_eq_self 0 _
  -- what is set is what the fan has already
  have hopen : { vExAirFan_SwitchOpen 0 steadyFans with xVariableFanRequest := true } = steadyFans := by
    show { steadyFans with
      digitalOutput := Function.update steadyFans.digitalOutput 1 .ON
      psExAirFanList := Function.update steadyFans.psExAirFanList 0 (steadyFans.fan 0) } = steadyFans
    rw [hout, hlist]
  have hadjust : vSystem_AdjustExAirFanFreq 250 steadyFans = steadyFans := by
    show { steadyFans with psExAirFanList := Function.update steadyFans.psExAirFanList 0 (steadyFans.fan 0) } =
      steadyFans
    rw [hlist]
  rw [vSystem_ExAirFanCtrl_low steadyFans_ventilated, hreq, vSystem_ExAirFanBothCtrl_eq steadyFans 0 rfl, hwords]
  dsimp only
  have hmin : (if (250 : USHORT) ≥ steadyFans.usExAirFanMinFreq then
      { vExAirFan_SwitchOpen 0 steadyFans with xVariableFanRequest := true } else steadyFans) = steadyFans :=
    (if_pos (by decide)).trans hopen
  have hrange : (if (250 : USHORT) ≥ steadyFans.usExAirFanMinFreq ∧ (250 : USHORT) ≤ steadyFans.usExAirFanMaxFreq then
      vSystem_AdjustExAirFanFreq 250 steadyFans else steadyFans) = steadyFans :=
    (if_pos (by decide)).trans hadjust
  rw [halways]
  unfold openVariateAt
  dsimp only
  rw [hmin, hrange, if_neg (by decide)]
  rfl

/-- More fresh air asks for another fan, so the handler runs the control. -/
theorem ventilation_agrees_steadyFans :
    (VentSetting.handle (.freAir 1 14465) steadyFans).commands =
        (vSystem_ExAirFanCtrl (VentSetting.apply (.freAir 1 14465) steadyFans)).commands ↔
      VentSetting.Runs (.freAir 1 14465) steadyFans ∨
        (vSystem_ExAirRequest_Vol (VentSetting.apply (.freAir 1 14465) steadyFans)).Suits :=
  ventilation_agrees_iff steadyFans steadyFans_ventilated steadyFans_fix (.freAir 1 14465)

/-- A little less fresh air asks for the same fans and a lower frequency: the variable fan keeps the one it has. -/
theorem steadyFans_keep_freq :
    steadyFans.Ventilated ∧ vSystem_ExAirFanCtrl steadyFans = steadyFans ∧
      (VentSetting.handle (.freAir 0 58000) steadyFans).usExAirFanFreq = 250 ∧
      (vSystem_ExAirFanCtrl (VentSetting.apply (.freAir 0 58000) steadyFans)).usExAirFanFreq = 225 ∧
      (VentSetting.handle (.freAir 0 58000) steadyFans).commands ≠
        (vSystem_ExAirFanCtrl (VentSetting.apply (.freAir 0 58000) steadyFans)).commands := by
  have hhandle : (VentSetting.handle (.freAir 0 58000) steadyFans).usExAirFanFreq = 250 := by decide
  have hctrl : (vSystem_ExAirFanCtrl (VentSetting.apply (.freAir 0 58000) steadyFans)).usExAirFanFreq = 225 := by decide
  refine ⟨steadyFans_ventilated, steadyFans_fix, hhandle, hctrl, fun heq => ?_⟩
  have hfreq := congrArg Commands.usExAirFanFreq heq
  have h250 : (250 : USHORT) = 225 := hhandle.symm.trans (hfreq.trans hctrl)
  exact absurd h250 (by decide)

end GreeIntense.Control

import GreeIntense.Control.SetPoint
import GreeIntense.Control.Staging

/-!
# The commands of the fans

`Commands` are what the control of the fans is for: which fans are to run, and the frequency of the variable one.
Calls act on them alone (`makeCalls_commands`), so what a list of calls does is read off the list.
-/

namespace GreeIntense.Control

/-- The commands of the fans, and the frequency. -/
structure Commands where
  eCtrlCmd : Fin EX_AIR_FAN_NUM → eCtrlEn
  usExAirFanFreq : USHORT

def System.commands (s : System) : Commands := ⟨fun n => (s.fan n).eCtrlCmd, s.usExAirFanFreq⟩

/-- A fan that takes commands: without a fault, and remote. -/
def System.takes (s : System) (n : Fin EX_AIR_FAN_NUM) : Prop :=
  (s.fan n).xExAirFanErr = false ∧ (s.fan n).xExAirFanRemote = true

instance (s : System) (n : Fin EX_AIR_FAN_NUM) : Decidable (s.takes n) := inferInstanceAs (Decidable (_ ∧ _))

/-- What a call does to the commands. -/
def Commands.call (s : System) (k : Commands) : FanCall EX_AIR_FAN_NUM → Commands
  | .switchOpen n => if s.takes n then { k with eCtrlCmd := Function.update k.eCtrlCmd n .ON } else k
  | .switchClose n => { k with eCtrlCmd := Function.update k.eCtrlCmd n .OFF }
  | .adjustFreq usFreq =>
    if s.eExAirFanType = .TYPE_CONSTANT_VARIABLE then
      { k with usExAirFanFreq := limit s.usExAirFanMinFreq s.usExAirFanMaxFreq usFreq }
    else k

section Calls

variable (s : System)

theorem setFan_commands (n : Fin EX_AIR_FAN_NUM) (f : ExAirFan) :
    (s.setFan n f).commands = { s.commands with eCtrlCmd := Function.update s.commands.eCtrlCmd n f.eCtrlCmd } := by
  have hcmd : (fun m => ((s.setFan n f).fan m).eCtrlCmd) = Function.update s.commands.eCtrlCmd n f.eCtrlCmd := by
    funext m
    rw [fan_setFan, Function.update_apply]
    split <;> rfl
  exact congrArg (fun cmd => (⟨cmd, s.usExAirFanFreq⟩ : Commands)) hcmd

theorem setFan_commands_same (n : Fin EX_AIR_FAN_NUM) (f : ExAirFan) (h : f.eCtrlCmd = (s.fan n).eCtrlCmd) :
    (s.setFan n f).commands = s.commands := by
  have hsame : Function.update s.commands.eCtrlCmd n f.eCtrlCmd = s.commands.eCtrlCmd := by
    rw [h]
    exact Function.update_eq_self n s.commands.eCtrlCmd
  rw [setFan_commands, hsame]

@[simp] theorem vDigitalOutputCtrl_commands (ucChannel : ℕ) (eCtrl : eCtrlEn) :
    (vDigitalOutputCtrl ucChannel eCtrl s).commands = s.commands := by
  unfold vDigitalOutputCtrl
  split <;> rfl

@[simp] theorem vAnalogOutputSetRealVal_commands (ucChannel : ℕ) (ulRealData : USHORT) :
    (vAnalogOutputSetRealVal ucChannel ulRealData s).commands = s.commands := by
  unfold vAnalogOutputSetRealVal
  split <;> rfl

theorem vExFan_SetFreq_commands (n : Fin EX_AIR_FAN_NUM) (usFreq : USHORT) :
    (vExFan_SetFreq n usFreq s).commands = s.commands := by
  rw [vExFan_SetFreq_eq]
  dsimp only
  split
  · split
    · exact (vAnalogOutputSetRealVal_commands _ _ _).trans (setFan_commands_same s n _ rfl)
    · exact setFan_commands_same s n _ rfl
  · rfl

theorem makeCall_commands (c : FanCall EX_AIR_FAN_NUM) : (makeCall s c).commands = s.commands.call s c := by
  cases c with
  | switchOpen n =>
    show (vExAirFan_SwitchOpen n s).commands = _
    have hset : ((vDigitalOutputCtrl (s.fan n).sSwitch_DO .ON s).setFan n
        { s.fan n with eCtrlCmd := .ON }).commands =
        { s.commands with eCtrlCmd := Function.update s.commands.eCtrlCmd n .ON } := by
      rw [setFan_commands, vDigitalOutputCtrl_commands]
    unfold vExAirFan_SwitchOpen Commands.call
    by_cases ht : s.takes n
    · have ht' : (s.fan n).xExAirFanErr = false ∧ (s.fan n).xExAirFanRemote = true := ht
      dsimp only
      rw [if_pos ht, if_pos ht']
      split
      · exact (vExFan_SetFreq_commands _ n _).trans hset
      · exact hset
    · have ht' : ¬((s.fan n).xExAirFanErr = false ∧ (s.fan n).xExAirFanRemote = true) := ht
      dsimp only
      rw [if_neg ht, if_neg ht']
  | switchClose n =>
    show (vExAirFan_SwitchClose n s).commands = _
    unfold vExAirFan_SwitchClose
    rw [setFan_commands, vDigitalOutputCtrl_commands]
    rfl
  | adjustFreq usFreq =>
    show (vSystem_AdjustExAirFanFreq usFreq s).commands = _
    unfold vSystem_AdjustExAirFanFreq
    by_cases htype : s.eExAirFanType = .TYPE_CONSTANT_VARIABLE
    · have hk : s.commands.call s (.adjustFreq usFreq) =
          { s.commands with usExAirFanFreq := limit s.usExAirFanMinFreq s.usExAirFanMaxFreq usFreq } := if_pos htype
      rw [if_neg (fun hne => hne htype), hk]
      have hcmd := congrArg Commands.eCtrlCmd
        (vExFan_SetFreq_commands s 0 (limit s.usExAirFanMinFreq s.usExAirFanMaxFreq usFreq))
      exact congrArg (fun cmd => (⟨cmd, limit s.usExAirFanMinFreq s.usExAirFanMaxFreq usFreq⟩ : Commands)) hcmd
    · have hk : s.commands.call s (.adjustFreq usFreq) = s.commands := if_neg htype
      rw [if_pos htype, hk]

end Calls

/-- What the calls do depends on nothing that they change. -/
theorem call_of_uncontrolled {s s' : System} (h : s'.uncontrolled = s.uncontrolled) (k : Commands) :
    k.call s' = k.call s := by
  have htakes (n : Fin EX_AIR_FAN_NUM) : s'.takes n ↔ s.takes n := by
    show s'.uncontrolled.takes n ↔ s.uncontrolled.takes n
    rw [h]
  have htype : s'.eExAirFanType = s.eExAirFanType := by
    show s'.uncontrolled.eExAirFanType = s.uncontrolled.eExAirFanType
    rw [h]
  have hmin : s'.usExAirFanMinFreq = s.usExAirFanMinFreq := by
    show s'.uncontrolled.usExAirFanMinFreq = s.uncontrolled.usExAirFanMinFreq
    rw [h]
  have hmax : s'.usExAirFanMaxFreq = s.usExAirFanMaxFreq := by
    show s'.uncontrolled.usExAirFanMaxFreq = s.uncontrolled.usExAirFanMaxFreq
    rw [h]
  funext c
  unfold Commands.call
  simp only [htakes, htype, hmin, hmax]

theorem makeCalls_commands {s₀ s : System} (hs : s.uncontrolled = s₀.uncontrolled)
    (calls : List (FanCall EX_AIR_FAN_NUM)) :
    (calls.foldl makeCall s).commands = calls.foldl (Commands.call s₀) s.commands := by
  induction calls generalizing s with
  | nil => rfl
  | cons c calls ih =>
    rw [List.foldl_cons, List.foldl_cons, ih ((makeCall_uncontrolled s c).trans hs), makeCall_commands,
      call_of_uncontrolled hs]

/-! ### What a list of calls leaves commanded -/

section Lists

variable {s : System} {n : Fin EX_AIR_FAN_NUM} {calls : List (FanCall EX_AIR_FAN_NUM)} (k : Commands)

theorem call_other {c : FanCall EX_AIR_FAN_NUM} (ho : c ≠ .switchOpen n) (hc : c ≠ .switchClose n) :
    (k.call s c).eCtrlCmd n = k.eCtrlCmd n := by
  cases c with
  | switchOpen m =>
    have hne : n ≠ m := fun h => ho (h ▸ rfl)
    unfold Commands.call
    dsimp only
    split
    · exact Function.update_of_ne hne _ _
    · rfl
  | switchClose m =>
    have hne : n ≠ m := fun h => hc (h ▸ rfl)
    exact Function.update_of_ne hne _ _
  | adjustFreq usFreq =>
    unfold Commands.call
    dsimp only
    split <;> rfl

theorem calls_other (ho : .switchOpen n ∉ calls) (hc : .switchClose n ∉ calls) :
    (calls.foldl (Commands.call s) k).eCtrlCmd n = k.eCtrlCmd n := by
  induction calls generalizing k with
  | nil => rfl
  | cons c calls ih =>
    rw [List.mem_cons, not_or] at ho hc
    rw [List.foldl_cons, ih (k.call s c) ho.2 hc.2]
    exact call_other k (Ne.symm ho.1) (Ne.symm hc.1)

theorem calls_opened (ht : s.takes n) (ho : .switchOpen n ∈ calls) (hc : .switchClose n ∉ calls) :
    (calls.foldl (Commands.call s) k).eCtrlCmd n = .ON := by
  induction calls generalizing k with
  | nil => cases ho
  | cons c calls ih =>
    rw [List.mem_cons, not_or] at hc
    rw [List.foldl_cons]
    by_cases hrest : .switchOpen n ∈ calls
    · exact ih (k.call s c) hrest hc.2
    · obtain rfl : .switchOpen n = c := (List.mem_cons.mp ho).resolve_right hrest
      have hset : (k.call s (.switchOpen n)).eCtrlCmd = Function.update k.eCtrlCmd n .ON :=
        congrArg Commands.eCtrlCmd (if_pos ht)
      rw [calls_other _ hrest hc.2, hset, Function.update_self]

theorem calls_closed (ho : .switchOpen n ∉ calls) (hc : .switchClose n ∈ calls) :
    (calls.foldl (Commands.call s) k).eCtrlCmd n = .OFF := by
  induction calls generalizing k with
  | nil => cases hc
  | cons c calls ih =>
    rw [List.mem_cons, not_or] at ho
    rw [List.foldl_cons]
    by_cases hrest : .switchClose n ∈ calls
    · exact ih (k.call s c) ho.2 hrest
    · obtain rfl : .switchClose n = c := (List.mem_cons.mp hc).resolve_right hrest
      rw [calls_other _ ho.2 hrest]
      exact Function.update_self _ _ _

theorem calls_on_iff (ht : s.takes n) (hc : .switchClose n ∉ calls) :
    (calls.foldl (Commands.call s) k).eCtrlCmd n = .ON ↔ .switchOpen n ∈ calls ∨ k.eCtrlCmd n = .ON := by
  by_cases ho : .switchOpen n ∈ calls
  · exact iff_of_true (calls_opened k ht ho hc) (Or.inl ho)
  · rw [calls_other k ho hc]
    exact (or_iff_right ho).symm

end Lists

/-! ### The plant -/

/-- The variable fan of the plant: the first one, which is a variable one then; as `vSystem_ChangeExAirFanType`
leaves them. -/
def System.VariateSet (s : System) : Prop :=
  s.eExAirFanType = .TYPE_CONSTANT_VARIABLE →
    s.pExAirFanVariate = some 0 ∧ (s.fan 0).eFanFreqType = .VARIABLE_FREQ

theorem variateSet_change (eExAirFanType : eExAirFanType) (s : System) :
    (vSystem_ChangeExAirFanType eExAirFanType s).VariateSet := by
  cases eExAirFanType with
  | TYPE_CONSTANT =>
    intro h
    cases h
  | TYPE_CONSTANT_VARIABLE => exact fun _ => ⟨rfl, rfl⟩

theorem System.VariateSet.of_uncontrolled {s s' : System} (hv : s.VariateSet) (h : s'.uncontrolled = s.uncontrolled) :
    s'.VariateSet := by
  have hs (t : System) : t.VariateSet ↔ t.uncontrolled.VariateSet := Iff.rfl
  rw [hs, h]
  exact hv

theorem System.VariateSet.ctrl {s : System} (hv : s.VariateSet) : (vSystem_ExAirFanCtrl s).VariateSet :=
  hv.of_uncontrolled (vSystem_ExAirFanCtrl_uncontrolled s)

theorem System.VariateSet.staging {s : System} (hv : s.VariateSet) :
    s.staging.eExAirFanType = .TYPE_CONSTANT_VARIABLE → ∀ v, s.staging.pExAirFanVariate = some v →
      (s.staging.fan v).eFanFreqType = .VARIABLE_FREQ := by
  intro htype v hp
  obtain ⟨h0, hfan⟩ := hv htype
  obtain rfl : 0 = v := Option.some.inj (h0.symm.trans hp)
  exact hfan

end GreeIntense.Control

import GreeIntense.Control.FanCtrl
import GreeIntense.Lib.BubbleSort

/-!
# The staging of the fans

`vSystem_ExAirFanConstantAlwaysOpen` and `vSystem_ExAirFanConstantSwitch` for any number of fans, as the calls
they make to the fans: what they decide by (`Staging`) is not changed by these calls, so the list of the calls is
all they do (`switchConstantFans_eq`).

Both sort the usable constant fans by their run time, close running ones from the end of the list and open
stopped ones from its front; `fans_staged` says how many of them run then, and that those were the right ones.
-/

namespace GreeIntense.Control

open Lib

/-! ### The calls -/

/-- A call to a fan, or of `vSystem_AdjustExAirFanFreq`. -/
inductive FanCall (num : ℕ)
  | switchOpen (n : Fin num)
  | switchClose (n : Fin num)
  | adjustFreq (usFreq : USHORT)
  deriving DecidableEq

/-- What the staging of the fans reads. -/
structure Staging (num : ℕ) where
  eSystemMode : eSystemMode
  eExAirFanType : eExAirFanType
  pExAirFanVariate : Option (Fin num)
  xVariableFanRequest : Bool
  usExAirFanMaxFreq : USHORT
  ucConstantFanRequestNum : UCHAR
  ucConstantFanOpenNum : UCHAR
  fan : Fin num → ExAirFan

namespace Staging

section Calls

variable {num : ℕ} (p : Staging num)

def runs (n : Fin num) : Bool := (p.fan n).eRunningState = .STATE_RUN

/-- A stopped fan without a fault. -/
def stands (n : Fin num) : Bool := (p.fan n).eRunningState = .STATE_STOP ∧ (p.fan n).xExAirFanErr = false

/-- A constant fan without a fault that is remote. -/
def isUsable (n : Fin num) : Bool :=
  (p.fan n).eFanFreqType = .CONSTANT_FREQ ∧ (p.fan n).xExAirFanErr = false ∧ (p.fan n).xExAirFanRemote = true

/-- `pFanByRunTimeList`: the usable fans by the time they have run, the least first. -/
def byRunTime : List (Fin num) :=
  BubbleSort.sort (fun n => (p.fan n).usRunTime_H.toNat) ((List.finRange num).filter p.isUsable)

def ucConstantNum : UCHAR := BitVec.ofNat 8 p.byRunTime.length

def ucRunningNum : UCHAR := BitVec.ofNat 8 (p.byRunTime.countP p.runs)

/-- Of more fans than there are constant ones the variable one takes its part, at the highest frequency. -/
def openVariate (ucNum : UCHAR) : List (FanCall num) :=
  match p.pExAirFanVariate with
  | some v =>
    if ucNum > p.ucConstantNum ∧ p.eExAirFanType = .TYPE_CONSTANT_VARIABLE ∧ (p.fan v).xExAirFanErr = false ∧
        (p.fan v).xExAirFanRemote = true then [.switchOpen v, .adjustFreq p.usExAirFanMaxFreq]
    else []
  | none => []

/-- The variable fan is closed where the constant ones suffice and it is not requested. -/
def closeVariate (ucNum : UCHAR) : List (FanCall num) :=
  match p.pExAirFanVariate with
  | some v =>
    if ucNum ≤ p.ucConstantNum ∧ p.xVariableFanRequest = false ∧ p.eExAirFanType = .TYPE_CONSTANT_VARIABLE ∧
        (p.fan v).eRunningState = .STATE_RUN then [.switchClose v]
    else []
  | none => []

/-- Close running fans of the list while `n > least`. -/
def closeFans (least : ℤ) : List (Fin num) → UCHAR → List (FanCall num)
  | [], _ => []
  | f :: list, n =>
    if (n.toNat : ℤ) > least then
      if p.runs f then .switchClose f :: closeFans least list (n - 1) else closeFans least list n
    else []

/-- Open stopped fans of the list while `n > 0`. -/
def openFans : List (Fin num) → UCHAR → List (FanCall num)
  | [], _ => []
  | f :: list, n =>
    if n > 0 then
      if p.stands f then .switchOpen f :: openFans list (n - 1) else openFans list n
    else []

/-- The body the two functions share: `ucNum` fans are to run. -/
def switchConstantFans (ucNum : UCHAR) (least : ℤ) : List (FanCall num) :=
  p.openVariate ucNum ++ p.closeVariate ucNum ++
    (if ucNum < p.ucRunningNum then p.closeFans least p.byRunTime.reverse (p.ucRunningNum - ucNum) else []) ++
    if ucNum > p.ucRunningNum then p.openFans p.byRunTime (ucNum - p.ucRunningNum) else []

def vSystem_ExAirFanConstantAlwaysOpen : List (FanCall num) :=
  if p.eSystemMode = .MODE_MANUAL ∨ p.eSystemMode = .MODE_CLOSE then []
  else
    p.switchConstantFans p.ucConstantFanOpenNum
      ((p.ucConstantFanRequestNum.toNat : ℤ) - p.ucConstantFanOpenNum.toNat)

def vSystem_ExAirFanConstantSwitch : List (FanCall num) :=
  if p.eSystemMode = .MODE_MANUAL ∨ p.eSystemMode = .MODE_CLOSE then []
  else p.switchConstantFans p.ucConstantFanRequestNum 0

end Calls

end Staging

/-! ### The calls are all the two functions do -/

/-- What the staging reads of the system. -/
def System.staging (s : System) : Staging EX_AIR_FAN_NUM where
  eSystemMode := s.eSystemMode
  eExAirFanType := s.eExAirFanType
  pExAirFanVariate := s.pExAirFanVariate
  xVariableFanRequest := s.xVariableFanRequest
  usExAirFanMaxFreq := s.usExAirFanMaxFreq
  ucConstantFanRequestNum := s.ucConstantFanRequestNum
  ucConstantFanOpenNum := s.ucConstantFanOpenNum
  fan := s.fan

def makeCall (s : System) : FanCall EX_AIR_FAN_NUM → System
  | .switchOpen n => vExAirFan_SwitchOpen n s
  | .switchClose n => vExAirFan_SwitchClose n s
  | .adjustFreq usFreq => vSystem_AdjustExAirFanFreq usFreq s

/-- The system with other fans, frequencies and outputs. -/
def System.drive (list : Fin EX_AIR_FAN_NUM → ExAirFan) (usFreq usBMSFreq : USHORT) (digitalOutput : ℕ → eCtrlEn)
    (analogOutput : ℕ → USHORT) (s : System) : System :=
  { s with
    usExAirFanFreq := usFreq
    psBMS := { s.psBMS with usExAirFanFreq := usBMSFreq }
    psExAirFanList := list
    digitalOutput := digitalOutput
    analogOutput := analogOutput }

/-- The second system is the first one but for the fans, their frequency and the outputs. -/
def Driven (s s' : System) : Prop :=
  ∃ list usFreq usBMSFreq out ana, s' = s.drive list usFreq usBMSFreq out ana

namespace Driven

variable {s s' s'' : System}

theorem refl (s : System) : Driven s s := ⟨_, _, _, _, _, rfl⟩

theorem trans (h : Driven s s') (h' : Driven s' s'') : Driven s s'' := by
  obtain ⟨_, _, _, _, _, rfl⟩ := h
  obtain ⟨_, _, _, _, _, rfl⟩ := h'
  exact ⟨_, _, _, _, _, rfl⟩

theorem ite {c : Prop} [Decidable c] (h : Driven s s') (h' : Driven s s'') : Driven s (if c then s' else s'') := by
  split
  · exact h
  · exact h'

theorem setFan (n : Fin EX_AIR_FAN_NUM) (f : ExAirFan) : Driven s (s.setFan n f) := ⟨_, _, _, _, _, rfl⟩

theorem digital (ucChannel : ℕ) (eCtrl : eCtrlEn) : Driven s (vDigitalOutputCtrl ucChannel eCtrl s) :=
  ite ⟨_, _, _, _, _, rfl⟩ (refl s)

theorem analog (ucChannel : ℕ) (ulRealData : USHORT) : Driven s (vAnalogOutputSetRealVal ucChannel ulRealData s) :=
  ite ⟨_, _, _, _, _, rfl⟩ (refl s)

theorem setFreq (n : Fin EX_AIR_FAN_NUM) (usFreq : USHORT) : Driven s (vExFan_SetFreq n usFreq s) :=
  ite (ite ((setFan n _).trans (analog _ _)) (setFan n _)) (refl s)

theorem makeCall (c : FanCall EX_AIR_FAN_NUM) : Driven s (Control.makeCall s c) := by
  cases c with
  | switchOpen n =>
    have hset : Driven s ((vDigitalOutputCtrl (s.fan n).sSwitch_DO .ON s).setFan n { s.fan n with eCtrlCmd := .ON }) :=
      (digital _ _).trans (setFan n _)
    exact ite (ite (hset.trans (setFreq n _)) hset) (refl s)
  | switchClose n => exact (digital _ _).trans (setFan n _)
  | adjustFreq usFreq => exact ite (refl s) ((setFreq 0 _).trans ⟨_, _, _, _, _, rfl⟩)

theorem makeCalls (calls : List (FanCall EX_AIR_FAN_NUM)) : Driven s (calls.foldl Control.makeCall s) := by
  induction calls generalizing s with
  | nil => exact refl s
  | cons c calls ih => exact (makeCall c).trans ih

end Driven

section Calls

theorem makeCall_uncontrolled (s : System) (c : FanCall EX_AIR_FAN_NUM) :
    (makeCall s c).uncontrolled = s.uncontrolled := by
  cases c with
  | switchOpen n => exact vExAirFan_SwitchOpen_uncontrolled n s
  | switchClose n => exact vExAirFan_SwitchClose_uncontrolled n s
  | adjustFreq usFreq => exact vSystem_AdjustExAirFanFreq_uncontrolled s usFreq

theorem makeCalls_uncontrolled (calls : List (FanCall EX_AIR_FAN_NUM)) (s : System) :
    (calls.foldl makeCall s).uncontrolled = s.uncontrolled :=
  foldl_kept System.uncontrolled makeCall_uncontrolled calls s

theorem bubble_eq (s : System) (k : ℕ) (list : List (Fin EX_AIR_FAN_NUM)) :
    bubble s k list = BubbleSort.pass (fun n => (s.fan n).usRunTime_H.toNat) k list := by
  induction k generalizing list with
  | zero => rfl
  | succ k ih =>
    match list with
    | [] => rfl
    | [_] => rfl
    | a :: b :: list => simp only [bubble, BubbleSort.pass, ih, gt_iff_lt, BitVec.lt_def]

theorem byRunTime_eq (s : System) : sortByRunTime s (constantFans s) = s.staging.byRunTime := by
  have hpass : bubble s = BubbleSort.pass (fun n => (s.fan n).usRunTime_H.toNat) :=
    funext fun k => funext fun list => bubble_eq s k list
  unfold sortByRunTime
  rw [hpass]
  rfl

variable {s₀ s : System} (hs : s.uncontrolled = s₀.uncontrolled)

include hs

theorem fan_eRunningState (f : Fin EX_AIR_FAN_NUM) : (s.fan f).eRunningState = (s₀.fan f).eRunningState := by
  show (s.fan f).uncontrolled.eRunningState = (s₀.fan f).uncontrolled.eRunningState
  rw [uncontrolled_fan hs f]

theorem fan_xExAirFanErr (f : Fin EX_AIR_FAN_NUM) : (s.fan f).xExAirFanErr = (s₀.fan f).xExAirFanErr := by
  show (s.fan f).uncontrolled.xExAirFanErr = (s₀.fan f).uncontrolled.xExAirFanErr
  rw [uncontrolled_fan hs f]

theorem closeFans_eq (least : ℤ) (list : List (Fin EX_AIR_FAN_NUM)) (n : UCHAR) :
    closeFans least list n s = (s₀.staging.closeFans least list n).foldl makeCall s := by
  induction list generalizing n s with
  | nil => rfl
  | cons f list ih =>
    have hrun : (s.fan f).eRunningState = (s₀.fan f).eRunningState := fan_eRunningState hs f
    unfold closeFans Staging.closeFans
    by_cases hn : (n.toNat : ℤ) > least
    · rw [if_pos hn, if_pos hn, hrun]
      by_cases hr : (s₀.fan f).eRunningState = .STATE_RUN
      · have hruns : s₀.staging.runs f = true := decide_eq_true hr
        rw [if_pos hr, if_pos hruns]
        exact ih ((vExAirFan_SwitchClose_uncontrolled f s).trans hs) (n - 1)
      · have hruns : ¬s₀.staging.runs f = true := fun h => hr (of_decide_eq_true h)
        rw [if_neg hr, if_neg hruns]
        exact ih hs n
    · rw [if_neg hn, if_neg hn]
      rfl

theorem openFans_eq (list : List (Fin EX_AIR_FAN_NUM)) (n : UCHAR) :
    openFans list n s = (s₀.staging.openFans list n).foldl makeCall s := by
  induction list generalizing n s with
  | nil => rfl
  | cons f list ih =>
    have hrun : (s.fan f).eRunningState = (s₀.fan f).eRunningState := fan_eRunningState hs f
    have herr : (s.fan f).xExAirFanErr = (s₀.fan f).xExAirFanErr := fan_xExAirFanErr hs f
    unfold openFans Staging.openFans
    by_cases hn : n > 0
    · rw [if_pos hn, if_pos hn, hrun, herr]
      by_cases hr : (s₀.fan f).eRunningState = .STATE_STOP ∧ (s₀.fan f).xExAirFanErr = false
      · have hstands : s₀.staging.stands f = true := decide_eq_true hr
        rw [if_pos hr, if_pos hstands]
        exact ih ((vExAirFan_SwitchOpen_uncontrolled f s).trans hs) (n - 1)
      · have hstands : ¬s₀.staging.stands f = true := fun h => hr (of_decide_eq_true h)
        rw [if_neg hr, if_neg hstands]
        exact ih hs n
    · rw [if_neg hn, if_neg hn]
      rfl

end Calls

namespace Staging

variable {num : ℕ} (p : Staging num)

theorem byRunTime_perm : p.byRunTime.Perm ((List.finRange num).filter p.isUsable) := BubbleSort.sort_perm _ _

theorem byRunTime_length_le : p.byRunTime.length ≤ num := by
  have h := List.length_filter_le p.isUsable (List.finRange num)
  rw [← p.byRunTime_perm.length_eq, List.length_finRange] at h
  exact h

theorem toNat_ucConstantNum (h : num < 256) : p.ucConstantNum.toNat = p.byRunTime.length := by
  have hle := p.byRunTime_length_le
  unfold ucConstantNum
  rw [BitVec.toNat_ofNat]
  exact Nat.mod_eq_of_lt (lt_of_le_of_lt hle h)

theorem toNat_ucRunningNum (h : num < 256) : p.ucRunningNum.toNat = p.byRunTime.countP p.runs := by
  have hle := p.byRunTime_length_le
  have hcount := List.countP_le_length (l := p.byRunTime) (p := p.runs)
  unfold ucRunningNum
  rw [BitVec.toNat_ofNat]
  exact Nat.mod_eq_of_lt (lt_of_le_of_lt (hcount.trans hle) h)

end Staging

section Calls

variable (s : System) (ucNum : UCHAR)

theorem openVariate_eq :
    openVariate ucNum s.staging.byRunTime.length s = (s.staging.openVariate ucNum).foldl makeCall s := by
  have hnum : s.staging.ucConstantNum.toNat = s.staging.byRunTime.length :=
    s.staging.toNat_ucConstantNum (by decide)
  unfold openVariate variateUsable Staging.openVariate
  cases hp : s.pExAirFanVariate with
  | none =>
    have hp' : s.staging.pExAirFanVariate = none := hp
    rw [hp']
    rfl
  | some v =>
    have hp' : s.staging.pExAirFanVariate = some v := hp
    rw [hp', Option.filter_some]
    by_cases hv : s.eExAirFanType = .TYPE_CONSTANT_VARIABLE ∧ (s.fan v).xExAirFanErr = false ∧
        (s.fan v).xExAirFanRemote = true
    · rw [if_pos (decide_eq_true hv)]
      by_cases hn : ucNum > s.staging.ucConstantNum
      · have hn' : ucNum.toNat > s.staging.byRunTime.length := hnum ▸ hn
        dsimp only
        rw [if_pos hn', if_pos ⟨hn, hv⟩]
        rfl
      · have hn' : ¬ucNum.toNat > s.staging.byRunTime.length := hnum ▸ hn
        dsimp only
        rw [if_neg hn', if_neg (fun h => hn h.1)]
        rfl
    · have hv' : ¬decide (s.eExAirFanType = .TYPE_CONSTANT_VARIABLE ∧ (s.fan v).xExAirFanErr = false ∧
          (s.fan v).xExAirFanRemote = true) = true := fun h => hv (of_decide_eq_true h)
      rw [if_neg hv']
      dsimp only
      rw [if_neg (fun h => hv h.2)]
      rfl

theorem closeVariate_eq {s₀ : System} (hs : s.uncontrolled = s₀.uncontrolled)
    (hreq : s.xVariableFanRequest = s₀.xVariableFanRequest) :
    closeVariate ucNum s₀.staging.byRunTime.length s = (s₀.staging.closeVariate ucNum).foldl makeCall s := by
  have hnum : s₀.staging.ucConstantNum.toNat = s₀.staging.byRunTime.length :=
    s₀.staging.toNat_ucConstantNum (by decide)
  have htype : s.eExAirFanType = s₀.eExAirFanType := by
    show s.uncontrolled.eExAirFanType = s₀.uncontrolled.eExAirFanType
    rw [hs]
  have hvar : s.pExAirFanVariate = s₀.staging.pExAirFanVariate := by
    show s.uncontrolled.pExAirFanVariate = s₀.uncontrolled.pExAirFanVariate
    rw [hs]
  unfold closeVariate Staging.closeVariate
  rw [hvar]
  cases s₀.staging.pExAirFanVariate with
  | none => rfl
  | some v =>
    dsimp only
    rw [← hnum, hreq, htype, fan_eRunningState hs v]
    by_cases hc : ucNum.toNat ≤ s₀.staging.ucConstantNum.toNat ∧ s₀.xVariableFanRequest = false ∧
        s₀.eExAirFanType = .TYPE_CONSTANT_VARIABLE ∧ (s₀.fan v).eRunningState = .STATE_RUN
    · have hc' : ucNum ≤ s₀.staging.ucConstantNum ∧ s₀.staging.xVariableFanRequest = false ∧
          s₀.staging.eExAirFanType = .TYPE_CONSTANT_VARIABLE ∧ (s₀.staging.fan v).eRunningState = .STATE_RUN := hc
      rw [if_pos hc, if_pos hc']
      rfl
    · have hc' : ¬(ucNum ≤ s₀.staging.ucConstantNum ∧ s₀.staging.xVariableFanRequest = false ∧
          s₀.staging.eExAirFanType = .TYPE_CONSTANT_VARIABLE ∧ (s₀.staging.fan v).eRunningState = .STATE_RUN) := hc
      rw [if_neg hc, if_neg hc']
      rfl

/-- **The calls are all that the switching does.** -/
theorem switchConstantFans_eq (least : ℤ) :
    switchConstantFans ucNum least s = (s.staging.switchConstantFans ucNum least).foldl makeCall s := by
  have hrun : s.staging.ucRunningNum.toNat = s.staging.byRunTime.countP s.staging.runs :=
    s.staging.toNat_ucRunningNum (by decide)
  have hreq (calls : List (FanCall EX_AIR_FAN_NUM)) :
      (calls.foldl makeCall s).xVariableFanRequest = s.xVariableFanRequest := by
    obtain ⟨_, _, _, _, _, h⟩ := Driven.makeCalls (s := s) calls
    rw [h]
    rfl
  unfold switchConstantFans Staging.switchConstantFans
  simp only [List.foldl_append]
  rw [byRunTime_eq, openVariate_eq, closeVariate_eq _ _ (makeCalls_uncontrolled _ _) (hreq _)]
  rw [← List.foldl_append]
  generalize s.staging.openVariate ucNum ++ s.staging.closeVariate ucNum = calls
  have hcalls : (calls.foldl makeCall s).uncontrolled = s.uncontrolled := makeCalls_uncontrolled calls s
  -- the calls change commands only, so the same fans run
  have hcount : (s.staging.byRunTime.countP fun n => (s.fan n).eRunningState = .STATE_RUN) =
      s.staging.ucRunningNum.toNat := hrun.symm
  have hword : BitVec.ofNat 8 s.staging.ucRunningNum.toNat = s.staging.ucRunningNum := by
    rw [BitVec.ofNat_toNat, BitVec.setWidth_eq]
  rw [hcount, hword]
  by_cases hlt : ucNum < s.staging.ucRunningNum
  · have hgt : ¬ucNum > s.staging.ucRunningNum := BitVec.lt_asymm hlt
    rw [if_pos hlt, if_neg hgt, if_pos (BitVec.lt_def.mp hlt), if_neg (fun h => hgt (BitVec.lt_def.mpr h))]
    exact closeFans_eq hcalls least _ _
  · rw [if_neg hlt, if_neg (fun h => hlt (BitVec.lt_def.mpr h))]
    by_cases hgt : ucNum > s.staging.ucRunningNum
    · rw [if_pos hgt, if_pos (BitVec.lt_def.mp hgt)]
      exact openFans_eq hcalls _ _
    · rw [if_neg hgt, if_neg (fun h => hgt (BitVec.lt_def.mpr h))]
      rfl

theorem vSystem_ExAirFanConstantAlwaysOpen_eq :
    vSystem_ExAirFanConstantAlwaysOpen s = s.staging.vSystem_ExAirFanConstantAlwaysOpen.foldl makeCall s := by
  unfold vSystem_ExAirFanConstantAlwaysOpen
  by_cases h : s.eSystemMode = .MODE_MANUAL ∨ s.eSystemMode = .MODE_CLOSE
  · have hcalls : s.staging.vSystem_ExAirFanConstantAlwaysOpen = [] := if_pos h
    rw [if_pos h, hcalls]
    rfl
  · have hcalls : s.staging.vSystem_ExAirFanConstantAlwaysOpen = s.staging.switchConstantFans s.ucConstantFanOpenNum
        ((s.ucConstantFanRequestNum.toNat : ℤ) - s.ucConstantFanOpenNum.toNat) := if_neg h
    rw [if_neg h, hcalls, switchConstantFans_eq]

theorem vSystem_ExAirFanConstantSwitch_eq (h : ¬(s.eSystemMode = .MODE_MANUAL ∨ s.eSystemMode = .MODE_CLOSE)) :
    vSystem_ExAirFanConstantSwitch s =
      { s.staging.vSystem_ExAirFanConstantSwitch.foldl makeCall s with
        g_ucConstantFanRequestNum :=
          (s.staging.vSystem_ExAirFanConstantSwitch.foldl makeCall s).ucConstantFanRequestNum } := by
  have hcalls : s.staging.vSystem_ExAirFanConstantSwitch =
      s.staging.switchConstantFans s.ucConstantFanRequestNum 0 := if_neg h
  unfold vSystem_ExAirFanConstantSwitch
  rw [if_neg h, hcalls, switchConstantFans_eq]

end Calls

/-! ### Which fans are called -/

namespace Staging

section Picked

variable {num : ℕ} (p : Staging num)

/-- The running fans that are closed for `k` fewer: those that have run most. -/
def closed (k : ℕ) : List (Fin num) := (p.byRunTime.reverse.filter p.runs).take k

/-- The stopped fans that are opened for `k` more: those that have run least. -/
def opened (k : ℕ) : List (Fin num) := (p.byRunTime.filter p.stands).take k

theorem closeFans_eq_map (least : ℕ) (list : List (Fin num)) (n : UCHAR) :
    p.closeFans least list n = ((list.filter p.runs).take (n.toNat - least)).map .switchClose := by
  induction list generalizing n with
  | nil => simp [closeFans]
  | cons f list ih =>
    unfold closeFans
    by_cases hn : (n.toNat : ℤ) > least
    · have hpred : (n - 1).toNat = n.toNat - 1 := by
        have h1 : (1 : UCHAR) ≤ n := by
          rw [BitVec.le_def]
          show 1 ≤ n.toNat
          omega
        exact BitVec.toNat_sub_of_le h1
      have hsucc : n.toNat - least = n.toNat - 1 - least + 1 := by omega
      rw [if_pos hn]
      by_cases hr : p.runs f = true
      · rw [if_pos hr, ih, hpred, List.filter_cons_of_pos hr, hsucc, List.take_succ_cons, List.map_cons]
      · rw [if_neg hr, ih, List.filter_cons_of_neg hr]
    · have hzero : n.toNat - least = 0 := by omega
      rw [if_neg hn, hzero, List.take_zero, List.map_nil]

theorem openFans_eq_map (list : List (Fin num)) (n : UCHAR) :
    p.openFans list n = ((list.filter p.stands).take n.toNat).map .switchOpen := by
  induction list generalizing n with
  | nil => simp [openFans]
  | cons f list ih =>
    unfold openFans
    by_cases hn : n > 0
    · have h0 : 0 < n.toNat := BitVec.lt_def.mp hn
      have hpred : (n - 1).toNat = n.toNat - 1 := by
        have h1 : (1 : UCHAR) ≤ n := by
          rw [BitVec.le_def]
          exact h0
        exact BitVec.toNat_sub_of_le h1
      have hsucc : n.toNat = n.toNat - 1 + 1 := by omega
      rw [if_pos hn]
      by_cases hr : p.stands f = true
      · rw [if_pos hr, ih, hpred, List.filter_cons_of_pos hr, hsucc, List.take_succ_cons, List.map_cons,
          Nat.add_sub_cancel]
      · rw [if_neg hr, ih, List.filter_cons_of_neg hr]
    · have hzero : n.toNat = 0 := by
        rw [gt_iff_lt, BitVec.lt_def] at hn
        exact Nat.eq_zero_of_not_pos hn
      rw [if_neg hn, hzero, List.take_zero, List.map_nil]

theorem switchConstantFans_picked (hnum : num < 256) (ucNum : UCHAR) (least : ℕ) :
    p.switchConstantFans ucNum least = p.openVariate ucNum ++ p.closeVariate ucNum ++
      (p.closed (p.byRunTime.countP p.runs - ucNum.toNat - least)).map .switchClose ++
      (p.opened (ucNum.toNat - p.byRunTime.countP p.runs)).map .switchOpen := by
  have hrun := p.toNat_ucRunningNum hnum
  have hclose : (if ucNum < p.ucRunningNum then
      p.closeFans least p.byRunTime.reverse (p.ucRunningNum - ucNum) else []) =
      (p.closed (p.byRunTime.countP p.runs - ucNum.toNat - least)).map .switchClose := by
    by_cases h : ucNum < p.ucRunningNum
    · rw [if_pos h, closeFans_eq_map, BitVec.toNat_sub_of_le (BitVec.le_of_lt h), hrun]
      rfl
    · have hzero : p.byRunTime.countP p.runs - ucNum.toNat - least = 0 := by
        rw [BitVec.lt_def, hrun] at h
        omega
      rw [if_neg h, hzero]
      rfl
  have hopen : (if ucNum > p.ucRunningNum then p.openFans p.byRunTime (ucNum - p.ucRunningNum) else []) =
      (p.opened (ucNum.toNat - p.byRunTime.countP p.runs)).map .switchOpen := by
    by_cases h : ucNum > p.ucRunningNum
    · rw [if_pos h, openFans_eq_map, BitVec.toNat_sub_of_le (BitVec.le_of_lt h), hrun]
      rfl
    · have hzero : ucNum.toNat - p.byRunTime.countP p.runs = 0 := by
        rw [gt_iff_lt, BitVec.lt_def, hrun] at h
        omega
      rw [if_neg h, hzero]
      rfl
  unfold switchConstantFans
  rw [hclose, hopen]

/-! ### The usable fans -/

/-- The constant fans without a fault that are remote. -/
def usable : Finset (Fin num) := Finset.univ.filter fun n => p.isUsable n = true

/-- Those of them that run. -/
def running : Finset (Fin num) := p.usable.filter fun n => p.runs n = true

theorem mem_byRunTime {n : Fin num} : n ∈ p.byRunTime ↔ n ∈ p.usable := by
  rw [p.byRunTime_perm.mem_iff]
  simp [usable]

theorem byRunTime_nodup : p.byRunTime.Nodup :=
  p.byRunTime_perm.nodup_iff.mpr ((List.nodup_finRange num).filter _)

theorem card_usable : p.usable.card = p.byRunTime.length := by
  rw [← List.toFinset_card_of_nodup p.byRunTime_nodup]
  congr 1
  ext n
  rw [List.mem_toFinset, mem_byRunTime]

theorem card_running : p.running.card = p.byRunTime.countP p.runs := by
  rw [List.countP_eq_length_filter, ← List.toFinset_card_of_nodup (p.byRunTime_nodup.filter _)]
  congr 1
  ext n
  rw [List.mem_toFinset, List.mem_filter, mem_byRunTime]
  exact Finset.mem_filter

theorem stands_iff {n : Fin num} (h : n ∈ p.usable) : p.stands n = true ↔ p.runs n = false := by
  have herr : (p.fan n).xExAirFanErr = false := (of_decide_eq_true (Finset.mem_filter.mp h).2).2.1
  unfold stands runs
  rw [decide_eq_true_eq, decide_eq_false_iff_not, herr]
  cases (p.fan n).eRunningState <;> simp

theorem length_filter_stands : (p.byRunTime.filter p.stands).length = p.usable.card - p.running.card := by
  have hstands : p.byRunTime.countP p.stands = p.byRunTime.countP fun n => decide ¬p.runs n = true := by
    refine List.countP_congr fun n hn => ?_
    rw [p.stands_iff (p.mem_byRunTime.mp hn)]
    simp
  have hsum := List.length_eq_countP_add_countP p.runs (l := p.byRunTime)
  rw [← List.countP_eq_length_filter, hstands, card_usable, card_running]
  omega

theorem length_opened (k : ℕ) : (p.opened k).length = min k (p.usable.card - p.running.card) := by
  unfold opened
  rw [List.length_take, length_filter_stands]

theorem length_closed (k : ℕ) : (p.closed k).length = min k p.running.card := by
  unfold closed
  rw [List.length_take, List.filter_reverse, List.length_reverse, ← List.countP_eq_length_filter, card_running]

theorem opened_nodup (k : ℕ) : (p.opened k).Nodup := (p.byRunTime_nodup.filter _).sublist (List.take_sublist _ _)

theorem closed_nodup (k : ℕ) : (p.closed k).Nodup :=
  ((List.nodup_reverse.mpr p.byRunTime_nodup).filter _).sublist (List.take_sublist _ _)

end Picked

/-! ### The staging -/

/-- The usable fans that run after the calls: the running ones that are not closed, the stopped ones that are
opened. -/
def onAfter {num : ℕ} (p : Staging num) (calls : List (FanCall num)) : Finset (Fin num) :=
  p.usable.filter fun n =>
    p.runs n = true ∧ .switchClose n ∉ calls ∨ p.runs n = false ∧ .switchOpen n ∈ calls

/-- **The calls stage the fans**: `k` usable ones run after them; none that was opened has run longer than a
stopped one that was left alone, none that was closed less than a running one that was left alone; and no other
constant fan is called. -/
structure Staged {num : ℕ} (p : Staging num) (calls : List (FanCall num)) (k : ℕ) : Prop where
  card_onAfter : (p.onAfter calls).card = k
  opened_le : ∀ n, .switchOpen n ∈ calls → ∀ m ∈ p.usable, p.runs m = false → .switchOpen m ∉ calls →
    (p.fan n).usRunTime_H ≤ (p.fan m).usRunTime_H
  closed_ge : ∀ n, (p.fan n).eFanFreqType = .CONSTANT_FREQ → .switchClose n ∈ calls →
    ∀ m ∈ p.usable, p.runs m = true → .switchClose m ∉ calls → (p.fan m).usRunTime_H ≤ (p.fan n).usRunTime_H
  frame : ∀ n, (p.fan n).eFanFreqType = .CONSTANT_FREQ → n ∉ p.usable →
    .switchOpen n ∉ calls ∧ .switchClose n ∉ calls

section Staged

variable {num : ℕ} {p : Staging num} (hnum : num < 256)
  (hv : p.eExAirFanType = .TYPE_CONSTANT_VARIABLE → ∀ v, p.pExAirFanVariate = some v →
    (p.fan v).eFanFreqType = .VARIABLE_FREQ)

theorem constant_of_usable {n : Fin num} (h : n ∈ p.usable) : (p.fan n).eFanFreqType = .CONSTANT_FREQ :=
  (of_decide_eq_true (Finset.mem_filter.mp h).2).1

/-- The fan that `openVariate` opens is the variable one, and it is opened where more than the usable fans are to
run. -/
theorem of_mem_openVariate {ucNum : UCHAR} {n : Fin num} (h : .switchOpen n ∈ p.openVariate ucNum) :
    p.pExAirFanVariate = some n ∧ p.eExAirFanType = .TYPE_CONSTANT_VARIABLE ∧ ucNum > p.ucConstantNum := by
  unfold openVariate at h
  cases hp : p.pExAirFanVariate with
  | none => simp [hp] at h
  | some v =>
    simp only [hp] at h
    split at h
    · next hc =>
      simp only [List.mem_cons, FanCall.switchOpen.injEq, reduceCtorEq, List.not_mem_nil, or_false] at h
      exact ⟨congrArg some h.symm, hc.2.1, hc.1⟩
    · simp at h

theorem of_mem_closeVariate {ucNum : UCHAR} {n : Fin num} (h : .switchClose n ∈ p.closeVariate ucNum) :
    p.pExAirFanVariate = some n ∧ p.eExAirFanType = .TYPE_CONSTANT_VARIABLE := by
  unfold closeVariate at h
  cases hp : p.pExAirFanVariate with
  | none => simp [hp] at h
  | some v =>
    simp only [hp] at h
    split at h
    · next hc =>
      simp only [List.mem_cons, FanCall.switchClose.injEq, List.not_mem_nil, or_false] at h
      exact ⟨congrArg some h.symm, hc.2.2.1⟩
    · simp at h

theorem switchClose_notMem_openVariate (ucNum : UCHAR) (n : Fin num) : .switchClose n ∉ p.openVariate ucNum := by
  unfold openVariate
  split
  · split <;> simp
  · simp

theorem switchOpen_notMem_closeVariate (ucNum : UCHAR) (n : Fin num) : .switchOpen n ∉ p.closeVariate ucNum := by
  unfold closeVariate
  split
  · split <;> simp
  · simp

include hnum

theorem mem_switchOpen (ucNum : UCHAR) (least : ℕ) (n : Fin num) :
    .switchOpen n ∈ p.switchConstantFans ucNum least ↔
      .switchOpen n ∈ p.openVariate ucNum ∨ n ∈ p.opened (ucNum.toNat - p.running.card) := by
  rw [p.switchConstantFans_picked hnum, ← p.card_running]
  simp [switchOpen_notMem_closeVariate]

theorem mem_switchClose (ucNum : UCHAR) (least : ℕ) (n : Fin num) :
    .switchClose n ∈ p.switchConstantFans ucNum least ↔
      .switchClose n ∈ p.closeVariate ucNum ∨ n ∈ p.closed (p.running.card - ucNum.toNat - least) := by
  rw [p.switchConstantFans_picked hnum, ← p.card_running]
  simp [switchClose_notMem_openVariate]

omit hnum in
theorem mem_opened {k : ℕ} {n : Fin num} (h : n ∈ p.opened k) : n ∈ p.usable ∧ p.runs n = false := by
  obtain ⟨hn, hs⟩ := List.mem_filter.mp (List.mem_of_mem_take h)
  have hu := p.mem_byRunTime.mp hn
  exact ⟨hu, (p.stands_iff hu).mp hs⟩

omit hnum in
theorem mem_closed {k : ℕ} {n : Fin num} (h : n ∈ p.closed k) : n ∈ p.usable ∧ p.runs n = true := by
  obtain ⟨hn, hr⟩ := List.mem_filter.mp (List.mem_of_mem_take h)
  exact ⟨p.mem_byRunTime.mp (List.mem_reverse.mp hn), hr⟩

include hv

theorem mem_switchOpen_constant (ucNum : UCHAR) (least : ℕ) {n : Fin num}
    (hn : (p.fan n).eFanFreqType = .CONSTANT_FREQ) :
    .switchOpen n ∈ p.switchConstantFans ucNum least ↔ n ∈ p.opened (ucNum.toNat - p.running.card) := by
  refine (mem_switchOpen hnum ucNum least n).trans (or_iff_right fun h => ?_)
  obtain ⟨hp, htype, -⟩ := of_mem_openVariate h
  have hvar := hv htype n hp
  rw [hn] at hvar
  cases hvar

theorem mem_switchClose_constant (ucNum : UCHAR) (least : ℕ) {n : Fin num}
    (hn : (p.fan n).eFanFreqType = .CONSTANT_FREQ) :
    .switchClose n ∈ p.switchConstantFans ucNum least ↔ n ∈ p.closed (p.running.card - ucNum.toNat - least) := by
  refine (mem_switchClose hnum ucNum least n).trans (or_iff_right fun h => ?_)
  obtain ⟨hp, htype⟩ := of_mem_closeVariate h
  have hvar := hv htype n hp
  rw [hn] at hvar
  cases hvar

theorem onAfter_eq (ucNum : UCHAR) (least : ℕ) :
    p.onAfter (p.switchConstantFans ucNum least) =
      p.running \ (p.closed (p.running.card - ucNum.toNat - least)).toFinset ∪
        (p.opened (ucNum.toNat - p.running.card)).toFinset := by
  ext n
  simp only [onAfter, running, Finset.mem_filter, Finset.mem_union, Finset.mem_sdiff, List.mem_toFinset]
  constructor
  · rintro ⟨hu, ⟨hr, hc⟩ | ⟨hr, ho⟩⟩
    · rw [mem_switchClose_constant hnum hv ucNum least (constant_of_usable hu)] at hc
      exact Or.inl ⟨⟨hu, hr⟩, hc⟩
    · exact Or.inr ((mem_switchOpen_constant hnum hv ucNum least (constant_of_usable hu)).mp ho)
  · rintro (⟨⟨hu, hr⟩, hc⟩ | ho)
    · refine ⟨hu, Or.inl ⟨hr, ?_⟩⟩
      rw [mem_switchClose_constant hnum hv ucNum least (constant_of_usable hu)]
      exact hc
    · obtain ⟨hu, hr⟩ := mem_opened ho
      exact ⟨hu, Or.inr ⟨hr, (mem_switchOpen_constant hnum hv ucNum least (constant_of_usable hu)).mpr ho⟩⟩

theorem card_onAfter_eq (ucNum : UCHAR) (least : ℕ) :
    (p.onAfter (p.switchConstantFans ucNum least)).card =
      p.running.card - (p.running.card - ucNum.toNat - least) +
        min (ucNum.toNat - p.running.card) (p.usable.card - p.running.card) := by
  have hclosed : (p.closed (p.running.card - ucNum.toNat - least)).toFinset ⊆ p.running := by
    intro n hn
    obtain ⟨hu, hr⟩ := mem_closed (List.mem_toFinset.mp hn)
    exact Finset.mem_filter.mpr ⟨hu, hr⟩
  have hdisjoint : Disjoint (p.running \ (p.closed (p.running.card - ucNum.toNat - least)).toFinset)
      (p.opened (ucNum.toNat - p.running.card)).toFinset := by
    rw [Finset.disjoint_left]
    intro n hn ho
    have hr := (Finset.mem_filter.mp (Finset.mem_sdiff.mp hn).1).2
    exact Bool.noConfusion (hr.symm.trans (mem_opened (List.mem_toFinset.mp ho)).2)
  rw [onAfter_eq hnum hv, Finset.card_union_of_disjoint hdisjoint, Finset.card_sdiff_of_subset hclosed,
    List.toFinset_card_of_nodup (p.closed_nodup _), List.toFinset_card_of_nodup (p.opened_nodup _),
    length_closed, length_opened]
  omega

theorem switchConstantFans_staged (ucNum : UCHAR) (least : ℕ) :
    p.Staged (p.switchConstantFans ucNum least)
      (p.running.card - (p.running.card - ucNum.toNat - least) +
        min (ucNum.toNat - p.running.card) (p.usable.card - p.running.card)) := by
  have hsorted : p.byRunTime.Pairwise fun a b => (p.fan a).usRunTime_H.toNat ≤ (p.fan b).usRunTime_H.toNat :=
    BubbleSort.sort_pairwise _ _
  refine ⟨card_onAfter_eq hnum hv ucNum least, ?_, ?_, ?_⟩
  · intro n hn m hm hr hno
    have hstands := (p.stands_iff hm).mpr hr
    rw [mem_switchOpen_constant hnum hv ucNum least (constant_of_usable hm)] at hno
    rcases (mem_switchOpen hnum ucNum least n).mp hn with hvar | hopened
    · -- more than the usable fans are to run: no stopped one is left alone
      have hmore := BitVec.lt_def.mp (of_mem_openVariate hvar).2.2
      rw [p.toNat_ucConstantNum hnum, ← p.card_usable] at hmore
      have hall : p.opened (ucNum.toNat - p.running.card) = p.byRunTime.filter p.stands := by
        apply List.take_of_length_le
        rw [p.length_filter_stands]
        omega
      rw [hall] at hno
      exact absurd (List.mem_filter.mpr ⟨p.mem_byRunTime.mpr hm, hstands⟩) hno
    · exact BubbleSort.pick_rel hsorted p.stands _ hopened (p.mem_byRunTime.mpr hm) hstands hno
  · intro n hn hclose m hm hr hno
    rw [mem_switchClose_constant hnum hv ucNum least (constant_of_usable hm)] at hno
    rw [mem_switchClose_constant hnum hv ucNum least hn] at hclose
    have hm' : m ∈ p.byRunTime.reverse := List.mem_reverse.mpr (p.mem_byRunTime.mpr hm)
    exact BubbleSort.pick_rel (List.pairwise_reverse.mpr hsorted) p.runs _ hclose hm' hr hno
  · intro n hn hu
    rw [mem_switchOpen_constant hnum hv ucNum least hn, mem_switchClose_constant hnum hv ucNum least hn]
    exact ⟨fun h => hu (mem_opened h).1, fun h => hu (mem_closed h).1⟩

end Staged

theorem running_card_le {num : ℕ} (p : Staging num) : p.running.card ≤ p.usable.card :=
  Finset.card_le_card (Finset.filter_subset _ _)

/-- **Fan staging**: after `vSystem_ExAirFanConstantSwitch` as many usable fans run as are requested, or all; after
`vSystem_ExAirFanConstantAlwaysOpen` at least those that are always open, and at most those that are requested. -/
theorem fans_staged {num : ℕ} (hnum : num < 256) (p : Staging num)
    (hmode : p.eSystemMode = .MODE_AUTO ∨ p.eSystemMode = .MODE_EMERGENCY)
    (hv : p.eExAirFanType = .TYPE_CONSTANT_VARIABLE → ∀ v, p.pExAirFanVariate = some v →
      (p.fan v).eFanFreqType = .VARIABLE_FREQ) :
    p.Staged p.vSystem_ExAirFanConstantSwitch (min p.ucConstantFanRequestNum.toNat p.usable.card) ∧
      (p.ucConstantFanOpenNum ≤ p.ucConstantFanRequestNum →
        p.Staged p.vSystem_ExAirFanConstantAlwaysOpen
          (if p.running.card < p.ucConstantFanOpenNum.toNat then min p.ucConstantFanOpenNum.toNat p.usable.card
          else if p.running.card ≤ p.ucConstantFanRequestNum.toNat then p.running.card
          else p.ucConstantFanRequestNum.toNat)) := by
  have hrun := p.running_card_le
  -- in these modes the control is not left to the operator
  have hno : ¬(p.eSystemMode = .MODE_MANUAL ∨ p.eSystemMode = .MODE_CLOSE) := by
    rcases hmode with h | h <;> simp [h]
  constructor
  · have hcalls : p.vSystem_ExAirFanConstantSwitch = p.switchConstantFans p.ucConstantFanRequestNum (0 : ℕ) :=
      if_neg hno
    have hstaged := switchConstantFans_staged hnum hv p.ucConstantFanRequestNum 0
    rw [hcalls]
    convert hstaged using 1
    omega
  · intro hle
    rw [BitVec.le_def] at hle
    have hleast : (p.ucConstantFanRequestNum.toNat : ℤ) - p.ucConstantFanOpenNum.toNat =
        ((p.ucConstantFanRequestNum.toNat - p.ucConstantFanOpenNum.toNat : ℕ) : ℤ) := by omega
    have hcalls : p.vSystem_ExAirFanConstantAlwaysOpen = p.switchConstantFans p.ucConstantFanOpenNum
        ((p.ucConstantFanRequestNum.toNat - p.ucConstantFanOpenNum.toNat : ℕ) : ℤ) :=
      (if_neg hno).trans (by rw [hleast])
    have hstaged := switchConstantFans_staged hnum hv p.ucConstantFanOpenNum
      (p.ucConstantFanRequestNum.toNat - p.ucConstantFanOpenNum.toNat)
    rw [hcalls]
    convert hstaged using 1
    split
    · omega
    · split <;> omega

/-- Four fans, the first a variable one; of the three constant ones one runs, and two are requested. -/
def fourFans : Staging 4 where
  eSystemMode := .MODE_AUTO
  eExAirFanType := .TYPE_CONSTANT_VARIABLE
  pExAirFanVariate := some 0
  xVariableFanRequest := false
  usExAirFanMaxFreq := 500
  ucConstantFanRequestNum := 2
  ucConstantFanOpenNum := 1
  fan n := { ExAirFan.zero with
    eFanFreqType := if n = 0 then .VARIABLE_FREQ else .CONSTANT_FREQ
    eRunningState := if n = 1 then .STATE_RUN else .STATE_STOP
    usRunTime_H := BitVec.ofNat 16 (10 - n.val)
    xExAirFanRemote := true }

theorem fourFans_variate (_ : fourFans.eExAirFanType = .TYPE_CONSTANT_VARIABLE) (v : Fin 4)
    (hp : fourFans.pExAirFanVariate = some v) : (fourFans.fan v).eFanFreqType = .VARIABLE_FREQ := by
  obtain rfl : (0 : Fin 4) = v := Option.some.inj hp
  rfl

theorem fans_staged_fourFans :
    fourFans.Staged fourFans.vSystem_ExAirFanConstantSwitch
        (min fourFans.ucConstantFanRequestNum.toNat fourFans.usable.card) ∧
      (fourFans.ucConstantFanOpenNum ≤ fourFans.ucConstantFanRequestNum →
        fourFans.Staged fourFans.vSystem_ExAirFanConstantAlwaysOpen
          (if fourFans.running.card < fourFans.ucConstantFanOpenNum.toNat then
            min fourFans.ucConstantFanOpenNum.toNat fourFans.usable.card
          else if fourFans.running.card ≤ fourFans.ucConstantFanRequestNum.toNat then fourFans.running.card
          else fourFans.ucConstantFanRequestNum.toNat)) :=
  fans_staged (by decide) fourFans (Or.inl rfl) fourFans_variate

/-- Two running fans, the first of them the one that `pExAirFanVariate` points to; one is requested. -/
def twoFans (eFanFreqType : eFreqType) : Staging 2 where
  eSystemMode := .MODE_AUTO
  eExAirFanType := .TYPE_CONSTANT_VARIABLE
  pExAirFanVariate := some 0
  xVariableFanRequest := false
  usExAirFanMaxFreq := 500
  ucConstantFanRequestNum := 1
  ucConstantFanOpenNum := 1
  fan n := { ExAirFan.zero with
    eFanFreqType := if n = 0 then eFanFreqType else .CONSTANT_FREQ
    eRunningState := .STATE_RUN
    usRunTime_H := if n = 0 then 1 else 10
    xExAirFanRemote := true }

/-- The variable fan is closed while a constant one that has run longer is left alone; and where it is a constant one,
it is closed beside the fans of the list. -/
theorem variateFan_unstaged :
    (¬∀ n, .switchClose n ∈ (twoFans .VARIABLE_FREQ).vSystem_ExAirFanConstantSwitch →
      ∀ m ∈ (twoFans .VARIABLE_FREQ).usable, (twoFans .VARIABLE_FREQ).runs m = true →
        .switchClose m ∉ (twoFans .VARIABLE_FREQ).vSystem_ExAirFanConstantSwitch →
          ((twoFans .VARIABLE_FREQ).fan m).usRunTime_H ≤ ((twoFans .VARIABLE_FREQ).fan n).usRunTime_H) ∧
    ((twoFans .CONSTANT_FREQ).onAfter (twoFans .CONSTANT_FREQ).vSystem_ExAirFanConstantSwitch).card ≠
      min (twoFans .CONSTANT_FREQ).ucConstantFanRequestNum.toNat (twoFans .CONSTANT_FREQ).usable.card := by
  constructor
  · intro h
    exact absurd (h 0 (by decide) 1 (by decide) (by decide) (by decide)) (by decide)
  · decide

/-- Of the two stopped fans the one that has run least is opened. -/
example : fourFans.vSystem_ExAirFanConstantSwitch = [.switchOpen 3] := by decide

end Staging

end GreeIntense.Control

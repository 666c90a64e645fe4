import GreeIntense.Control.Device

/-!
# Control of the exhaust fans (`fanctrl.c`)

The request for exhaust air follows from the fresh air and a ratio; it is met by fans of a constant frequency,
of which the one that has run least goes on first and the one that has run most goes off first, and by the
fan of a variable frequency, where the type of the plant has one.

What the control functions set is told by what they leave alone (`vSystem_ExAirFanCtrl_uncontrolled`); they change no
mode and no setting.
-/

namespace GreeIntense.Control

open Os

/-! ### Which fans there are -/

/-- The variable fan, with the plant type that has one, without a fault and remote. -/
def variateUsable (s : System) : Option (Fin EX_AIR_FAN_NUM) :=
  s.pExAirFanVariate.filter fun v =>
    s.eExAirFanType = .TYPE_CONSTANT_VARIABLE ∧ (s.fan v).xExAirFanErr = false ∧ (s.fan v).xExAirFanRemote = true

/-- There are constant fans only, or the variable fan has a fault or is local. -/
def constantOnly (s : System) : Bool :=
  s.eExAirFanType = .TYPE_CONSTANT ∨
    s.eExAirFanType = .TYPE_CONSTANT_VARIABLE ∧
      s.pExAirFanVariate.any fun v => (s.fan v).xExAirFanErr = true ∨ (s.fan v).xExAirFanRemote = false

/-- The constant fans without a fault that are remote. -/
def constantFans (s : System) : List (Fin EX_AIR_FAN_NUM) :=
  fans.filter fun n => (s.fan n).eFanFreqType = .CONSTANT_FREQ ∧ (s.fan n).xExAirFanErr = false ∧
    (s.fan n).xExAirFanRemote = true

/-- The first `k` comparisons of a pass of the sort. -/
def bubble (s : System) : ℕ → List (Fin EX_AIR_FAN_NUM) → List (Fin EX_AIR_FAN_NUM)
  | k + 1, a :: b :: list =>
    if (s.fan a).usRunTime_H > (s.fan b).usRunTime_H then b :: bubble s k (a :: list) else a :: bubble s k (b :: list)
  | _, list => list

/-- The fans by the time they have run, the least first. -/
def sortByRunTime (s : System) (list : List (Fin EX_AIR_FAN_NUM)) : List (Fin EX_AIR_FAN_NUM) :=
  (List.range (list.length - 1)).foldl (fun list n => bubble s (list.length - n - 1) list) list

/-! ### Switching -/

/-- Both timers are stopped. -/
def stopTmrs (s : System) : System :=
  { s with
    sExAirFanRequestTimeTmr := xTmrStop s.sExAirFanRequestTimeTmr, sExAirFanCtrlTmr := xTmrStop s.sExAirFanCtrlTmr }

def vSystem_CloseExAirFans (s : System) : System :=
  stopTmrs (fans.foldl (fun s n => vExAirFan_SwitchClose n s) s)

def vSystem_AdjustExAirFanFreq (usFreq : USHORT) (s : System) : System :=
  if s.eExAirFanType ≠ .TYPE_CONSTANT_VARIABLE then s
  else
    let usFreq := if usFreq < s.usExAirFanMinFreq then s.usExAirFanMinFreq else usFreq
    let usFreq := if usFreq > s.usExAirFanMaxFreq then s.usExAirFanMaxFreq else usFreq
    let s := vExFan_SetFreq 0 usFreq s
    { s with usExAirFanFreq := usFreq, psBMS := { s.psBMS with usExAirFanFreq := usFreq } }

/-- Close running fans of the list while `n > least`. -/
def closeFans (least : ℤ) : List (Fin EX_AIR_FAN_NUM) → UCHAR → System → System
  | [], _, s => s
  | f :: list, n, s =>
    if (n.toNat : ℤ) > least then
      if (s.fan f).eRunningState = .STATE_RUN then closeFans least list (n - 1) (vExAirFan_SwitchClose f s)
      else closeFans least list n s
    else s

/-- Open stopped fans of the list while `n > 0`. -/
def openFans : List (Fin EX_AIR_FAN_NUM) → UCHAR → System → System
  | [], _, s => s
  | f :: list, n, s =>
    if n > 0 then
      if (s.fan f).eRunningState = .STATE_STOP ∧ (s.fan f).xExAirFanErr = false then
        openFans list (n - 1) (vExAirFan_SwitchOpen f s)
      else openFans list n s
    else s

/-- Of more fans than there are constant ones the variable one takes its part, at the highest frequency. -/
def openVariate (num : UCHAR) (ucConstantNum : ℕ) (s : System) : System :=
  match variateUsable s with
  | some v =>
    if num.toNat > ucConstantNum then vSystem_AdjustExAirFanFreq s.usExAirFanMaxFreq (vExAirFan_SwitchOpen v s) else s
  | none => s

/-- The variable fan is closed where the constant ones suffice and it is not requested. -/
def closeVariate (num : UCHAR) (ucConstantNum : ℕ) (s : System) : System :=
  match s.pExAirFanVariate with
  | some v =>
    if num.toNat ≤ ucConstantNum ∧ s.xVariableFanRequest = false ∧ s.eExAirFanType = .TYPE_CONSTANT_VARIABLE ∧
        (s.fan v).eRunningState = .STATE_RUN then vExAirFan_SwitchClose v s
    else s
  | none => s

/-- The body `vSystem_ExAirFanConstantAlwaysOpen` and `vSystem_ExAirFanConstantSwitch` share: `num` fans are
to run. -/
def switchConstantFans (num : UCHAR) (least : ℤ) (s : System) : System :=
  let list := sortByRunTime s (constantFans s)
  let ucRunningNum := list.countP fun n => (s.fan n).eRunningState = .STATE_RUN
  let s := openVariate num list.length s
  let s := closeVariate num list.length s
  let s :=
    if num.toNat < ucRunningNum then closeFans least list.reverse (BitVec.ofNat 8 ucRunningNum - num) s else s
  if num.toNat > ucRunningNum then openFans list (num - BitVec.ofNat 8 ucRunningNum) s else s

def vSystem_ExAirFanConstantAlwaysOpen (s : System) : System :=
  if s.eSystemMode = .MODE_MANUAL ∨ s.eSystemMode = .MODE_CLOSE then s
  else
    switchConstantFans s.ucConstantFanOpenNum
      ((s.ucConstantFanRequestNum.toNat : ℤ) - s.ucConstantFanOpenNum.toNat) s

def vSystem_ExAirFanConstantSwitch (s : System) : System :=
  if s.eSystemMode = .MODE_MANUAL ∨ s.eSystemMode = .MODE_CLOSE then s
  else
    let s := switchConstantFans s.ucConstantFanRequestNum 0 s
    { s with g_ucConstantFanRequestNum := s.ucConstantFanRequestNum }

/-! ### The request -/

/-- How many constant fans the request keeps open. -/
def constantFanOpenNum (ulExAirRequest_Vol ulExAirFanRated_Vol : ULONG) (ucConstantFanOpenNum : UCHAR) : UCHAR :=
  let num := if ulExAirRequest_Vol < ulExAirFanRated_Vol then 0 else ucConstantFanOpenNum
  let num := if ulExAirFanRated_Vol ≤ ulExAirRequest_Vol ∧ ulExAirRequest_Vol < ulExAirFanRated_Vol * 2 then 1 else num
  let num :=
    if ulExAirFanRated_Vol * 2 ≤ ulExAirRequest_Vol ∧ ulExAirRequest_Vol < ulExAirFanRated_Vol * 3 then 2 else num
  if ulExAirFanRated_Vol * 3 ≤ ulExAirRequest_Vol then 3 else num

/-- The volume requested, and the fans that are always open for it. -/
def setRequest (ulExAirRequest_Vol : ULONG) (ucConstantFanOpenNum : UCHAR) (s : System) : System :=
  { s with ulExAirRequest_Vol := ulExAirRequest_Vol, ucConstantFanOpenNum := ucConstantFanOpenNum }

/-- The request time where the variable fan meets the rest of the request.  A division by 0 gives 0, as on
the processor. -/
def variateRequestTime (rest : ULONG) (s : System) : System :=
  { s with
    ucConstantFanRequestNum := s.ucConstantFanOpenNum
    ulExAirFanRequestTime :=
      if s.ulExAirFanRated_Vol ≠ 0 then
        rest * 500 / s.usExAirFanMinFreq.setWidth 32 * s.usExAirFanCtrlPeriod.setWidth 32 / s.ulExAirFanRated_Vol
      else s.ulExAirFanRequestTime }

/-- The request time where one more constant fan meets it, if the time is long enough. -/
def constantRequestTime (rest : ULONG) (s : System) : System :=
  let time :=
    if s.ulExAirFanRated_Vol ≠ 0 then rest * s.usExAirFanCtrlPeriod.setWidth 32 / s.ulExAirFanRated_Vol
    else s.ulExAirFanRequestTime
  { s with
    ulExAirFanRequestTime := time
    ucConstantFanRequestNum :=
      if time ≥ s.usExAirFanRunTimeLeast.setWidth 32 then s.ucConstantFanOpenNum + 1 else s.ucConstantFanOpenNum }

def vSystem_ExAirRequest_Vol (s : System) : System :=
  let ratio := if s.eRunningMode = .RUN_MODE_HEAT then s.ucExAirHeatRatio else s.ucExAirCoolRatio
  let vol := s.ulFreAirSet_Vol * ratio.setWidth 32 / 100
  let num := constantFanOpenNum vol s.ulExAirFanRated_Vol s.ucConstantFanOpenNum
  let rest := vol - s.ulExAirFanRated_Vol * num.setWidth 32
  let s := setRequest vol num s
  let s := if (variateUsable s).isSome then variateRequestTime rest s else s
  if constantOnly s then constantRequestTime rest s else s

/-! ### The control -/

/-- The request timer, where it does not run or the request time is another than the last one. -/
def requestTimeDue (s : System) : Bool :=
  s.sExAirFanRequestTimeTmr.State ≠ .OS_TMR_STATE_RUNNING ∨ s.g_ulExAirFanRequestTime ≠ s.ulExAirFanRequestTime

/-- `xTimerRegist` of the request timer. -/
def registRequestTime (s : System) : System :=
  { s with sExAirFanRequestTimeTmr :=
      xTimerRegist s.ulExAirFanRequestTime 0 .OS_OPT_TMR_ONE_SHOT s.sExAirFanRequestTimeTmr }

/-- The request is met by the variable fan, at the lowest frequency, for the request time. -/
def requestVariate (s : System) : System :=
  match variateUsable s with
  | some v =>
    if s.ulExAirFanRequestTime ≥ s.usExAirFanRunTimeLeast.setWidth 32 then
      let s := vExAirFan_SwitchOpen v { s with xVariableFanRequest := true }
      let s := vSystem_AdjustExAirFanFreq s.usExAirFanMinFreq s
      if requestTimeDue s then registRequestTime { s with g_ulExAirFanRequestTime := s.ulExAirFanRequestTime } else s
    else vExAirFan_SwitchClose v { s with xVariableFanRequest := false }
  | none => s

/-- The request is met by a constant fan. -/
def requestConstant (s : System) : System :=
  if constantOnly s ∧ s.ulExAirFanRequestTime ≥ s.usExAirFanRunTimeLeast.setWidth 32 ∧ requestTimeDue s then
    registRequestTime (vSystem_ExAirFanConstantSwitch { s with g_ulExAirFanRequestTime := s.ulExAirFanRequestTime })
  else s

def vSystem_ExAirFanCtrlTmrCallback (s : System) : System :=
  if s.eSystemMode = .MODE_MANUAL ∨ s.eSystemMode = .MODE_CLOSE then s
  else requestConstant (requestVariate (vSystem_ExAirRequest_Vol s))

/-- `xTimerRegist` of the control timer, which runs its callback first. -/
def registCtrl (usExAirFanCtrlPeriod : USHORT) (s : System) : System :=
  let r := xTimerRegist_create 0 (usExAirFanCtrlPeriod.setWidth 32) .OS_OPT_TMR_PERIODIC s.sExAirFanCtrlTmr
  let s := { s with sExAirFanCtrlTmr := r.1 }
  if r.2 then
    let s := vSystem_ExAirFanCtrlTmrCallback s
    { s with sExAirFanCtrlTmr := OSTmrStart s.sExAirFanCtrlTmr }
  else s

/-- While the request timer runs the constant fans are switched again; and the control timer is set where it
does not run or another number of fans is requested. -/
def pollRequest (usExAirFanCtrlPeriod : USHORT) (s : System) : System :=
  let s :=
    if s.sExAirFanRequestTimeTmr.State = .OS_TMR_STATE_RUNNING then vSystem_ExAirFanConstantSwitch s else s
  if s.sExAirFanCtrlTmr.State ≠ .OS_TMR_STATE_RUNNING ∨ s.g_ucConstantFanRequestNum ≠ s.ucConstantFanRequestNum then
    registCtrl usExAirFanCtrlPeriod s
  else s

def vSystem_ExAirFanConstantCtrl (s : System) : System :=
  if s.eSystemMode = .MODE_MANUAL ∨ s.eSystemMode = .MODE_CLOSE then s
  else if constantOnly s then
    let s := vSystem_ExAirFanConstantAlwaysOpen s
    pollRequest s.usExAirFanCtrlPeriod s
  else s

/-- The variable fan meets the request, at the frequency asked. -/
def openVariateAt (v : Fin EX_AIR_FAN_NUM) (usFreq : USHORT) (s : System) : System :=
  let s := if usFreq ≥ s.usExAirFanMinFreq then { vExAirFan_SwitchOpen v s with xVariableFanRequest := true } else s
  let s :=
    if usFreq ≥ s.usExAirFanMinFreq ∧ usFreq ≤ s.usExAirFanMaxFreq then vSystem_AdjustExAirFanFreq usFreq s else s
  if usFreq > s.usExAirFanMaxFreq then vSystem_AdjustExAirFanFreq s.usExAirFanMaxFreq s else s

/-- `vSystem_ExAirFanBothCtrl`.  Its local copy of the rated volume has 16 bits. -/
def vSystem_ExAirFanBothCtrl (s : System) : System :=
  match s.pExAirFanVariate with
  | none => s
  | some v =>
    let ulExAirFanRated_Vol := (s.ulExAirFanRated_Vol.setWidth 16).setWidth 32
    let rest := s.ulExAirRequest_Vol - ulExAirFanRated_Vol * s.ucConstantFanOpenNum.setWidth 32
    let least := (s.usExAirFanMinFreq.setWidth 32 * ulExAirFanRated_Vol).sdiv 500
    let usExAirFanCtrlPeriod := s.usExAirFanCtrlPeriod
    if s.eExAirFanType ≠ .TYPE_CONSTANT_VARIABLE ∨ ulExAirFanRated_Vol = 0 then s
    else
      let s := vSystem_ExAirFanConstantAlwaysOpen s
      if rest ≥ least then stopTmrs (openVariateAt v ((rest * 500 / ulExAirFanRated_Vol).setWidth 16) s)
      else pollRequest usExAirFanCtrlPeriod s

/-- In manual mode a fan follows its command. -/
def manualFan (s : System) (n : Fin EX_AIR_FAN_NUM) : System :=
  let pExAirFan := s.fan n
  let s :=
    if pExAirFan.eCtrlCmd = .ON ∧ pExAirFan.xExAirFanErr = false ∧ pExAirFan.xExAirFanRemote = true then
      vExAirFan_SwitchOpen n s
    else s
  if (s.fan n).eCtrlCmd = .OFF then vExAirFan_SwitchClose n s else s

/-- The variable fan runs at its highest frequency, with three constant ones. -/
def openVariateMax (s : System) : System :=
  match variateUsable s with
  | some v =>
    let s := vSystem_ExAirFanConstantSwitch { s with ucConstantFanRequestNum := 3 }
    let s := vExAirFan_SwitchOpen v { s with xVariableFanRequest := true }
    vSystem_AdjustExAirFanFreq s.usExAirFanMaxFreq s
  | none => s

/-- Too much CO2: all fans are to run. -/
def openAllFans (s : System) : System :=
  let s := openVariateMax s
  stopTmrs (if constantOnly s then vSystem_ExAirFanConstantSwitch { s with ucConstantFanRequestNum := 4 } else s)

def vSystem_ExAirFanCtrl (s : System) : System :=
  let s := if s.eSystemMode = .MODE_MANUAL then fans.foldl manualFan s else s
  if s.eSystemMode = .MODE_AUTO ∨ s.eSystemMode = .MODE_EMERGENCY then
    let s := if s.usCO2PPM.toNat > s.usCO2AdjustThr_V.toNat + s.usCO2AdjustDeviat.toNat then openAllFans s else s
    if (s.usCO2PPM.toNat : ℤ) < s.usCO2AdjustThr_V.toNat - s.usCO2AdjustDeviat.toNat then
      let s := vSystem_ExAirRequest_Vol s
      let s := if (variateUsable s).isSome then vSystem_ExAirFanBothCtrl s else s
      if constantOnly s then vSystem_ExAirFanConstantCtrl s else s
    else s
  else s

def vSystem_ExAirSet_Vol (s : System) : System :=
  let ulExAirRequest_Vol := s.ulExAirRequest_Vol
  let s := vSystem_ExAirRequest_Vol s
  if s.ulExAirRequest_Vol ≠ ulExAirRequest_Vol then
    let s := vSystem_ExAirRequest_Vol s
    if s.g_ucConstantFanRequestNum ≠ s.ucConstantFanRequestNum then vSystem_ExAirFanCtrl s else s
  else s

/-! ### What the control leaves alone -/

section Uncontrolled

variable (s : System)

@[simp] theorem stopTmrs_uncontrolled : (stopTmrs s).uncontrolled = s.uncontrolled := rfl

@[simp] theorem vSystem_CloseExAirFans_uncontrolled : (vSystem_CloseExAirFans s).uncontrolled = s.uncontrolled := by
  rw [vSystem_CloseExAirFans, stopTmrs_uncontrolled]
  exact foldl_kept System.uncontrolled (fun s n => vExAirFan_SwitchClose_uncontrolled n s) fans s

@[simp] theorem vSystem_AdjustExAirFanFreq_uncontrolled (usFreq : USHORT) :
    (vSystem_AdjustExAirFanFreq usFreq s).uncontrolled = s.uncontrolled := by
  unfold vSystem_AdjustExAirFanFreq
  split
  · rfl
  · exact vExFan_SetFreq_uncontrolled 0 s _

@[simp] theorem closeFans_uncontrolled (least : ℤ) (list : List (Fin EX_AIR_FAN_NUM)) (n : UCHAR) :
    (closeFans least list n s).uncontrolled = s.uncontrolled := by
  induction list generalizing n s with
  | nil => rfl
  | cons f list ih => simp [closeFans, ih]

@[simp] theorem openFans_uncontrolled (list : List (Fin EX_AIR_FAN_NUM)) (n : UCHAR) :
    (openFans list n s).uncontrolled = s.uncontrolled := by
  induction list generalizing n s with
  | nil => rfl
  | cons f list ih => simp [openFans, ih]

@[simp] theorem openVariate_uncontrolled (num : UCHAR) (ucConstantNum : ℕ) :
    (openVariate num ucConstantNum s).uncontrolled = s.uncontrolled := by
  unfold openVariate
  cases variateUsable s <;> simp

@[simp] theorem closeVariate_uncontrolled (num : UCHAR) (ucConstantNum : ℕ) :
    (closeVariate num ucConstantNum s).uncontrolled = s.uncontrolled := by
  unfold closeVariate
  cases s.pExAirFanVariate <;> simp

@[simp] theorem switchConstantFans_uncontrolled (num : UCHAR) (least : ℤ) :
    (switchConstantFans num least s).uncontrolled = s.uncontrolled := by
  simp [switchConstantFans]

@[simp] theorem vSystem_ExAirFanConstantAlwaysOpen_uncontrolled :
    (vSystem_ExAirFanConstantAlwaysOpen s).uncontrolled = s.uncontrolled := by
  simp [vSystem_ExAirFanConstantAlwaysOpen]

@[simp] theorem vSystem_ExAirFanConstantSwitch_uncontrolled :
    (vSystem_ExAirFanConstantSwitch s).uncontrolled = s.uncontrolled := by
  unfold vSystem_ExAirFanConstantSwitch
  split
  · rfl
  · exact switchConstantFans_uncontrolled s _ _

@[simp] theorem vSystem_ExAirRequest_Vol_uncontrolled : (vSystem_ExAirRequest_Vol s).uncontrolled = s.uncontrolled := by
  have hs (vol : ULONG) (num : UCHAR) (s : System) : (setRequest vol num s).uncontrolled = s.uncontrolled := rfl
  have hv (rest : ULONG) (s : System) : (variateRequestTime rest s).uncontrolled = s.uncontrolled := rfl
  have hc (rest : ULONG) (s : System) : (constantRequestTime rest s).uncontrolled = s.uncontrolled := rfl
  simp [vSystem_ExAirRequest_Vol, hs, hv, hc]

@[simp] theorem requestVariate_uncontrolled : (requestVariate s).uncontrolled = s.uncontrolled := by
  unfold requestVariate
  cases variateUsable s with
  | none => rfl
  | some v =>
    dsimp only
    split
    · split
      · exact (vSystem_AdjustExAirFanFreq_uncontrolled _ _).trans (vExAirFan_SwitchOpen_uncontrolled v _)
      · exact (vSystem_AdjustExAirFanFreq_uncontrolled _ _).trans (vExAirFan_SwitchOpen_uncontrolled v _)
    · exact vExAirFan_SwitchClose_uncontrolled v _

@[simp] theorem requestConstant_uncontrolled : (requestConstant s).uncontrolled = s.uncontrolled := by
  unfold requestConstant
  split
  · exact vSystem_ExAirFanConstantSwitch_uncontrolled _
  · rfl

@[simp] theorem vSystem_ExAirFanCtrlTmrCallback_uncontrolled :
    (vSystem_ExAirFanCtrlTmrCallback s).uncontrolled = s.uncontrolled := by
  simp [vSystem_ExAirFanCtrlTmrCallback]

@[simp] theorem registCtrl_uncontrolled (usExAirFanCtrlPeriod : USHORT) :
    (registCtrl usExAirFanCtrlPeriod s).uncontrolled = s.uncontrolled := by
  unfold registCtrl
  dsimp only
  split
  · exact vSystem_ExAirFanCtrlTmrCallback_uncontrolled _
  · rfl

@[simp] theorem pollRequest_uncontrolled (usExAirFanCtrlPeriod : USHORT) :
    (pollRequest usExAirFanCtrlPeriod s).uncontrolled = s.uncontrolled := by
  simp [pollRequest]

@[simp] theorem vSystem_ExAirFanConstantCtrl_uncontrolled :
    (vSystem_ExAirFanConstantCtrl s).uncontrolled = s.uncontrolled := by
  simp [vSystem_ExAirFanConstantCtrl]

@[simp] theorem openVariateAt_uncontrolled (v : Fin EX_AIR_FAN_NUM) (usFreq : USHORT) :
    (openVariateAt v usFreq s).uncontrolled = s.uncontrolled := by
  unfold openVariateAt
  simp only [ite_uncontrolled, vSystem_AdjustExAirFanFreq_uncontrolled, ite_self]
  split
  · exact vExAirFan_SwitchOpen_uncontrolled v s
  · rfl

@[simp] theorem vSystem_ExAirFanBothCtrl_uncontrolled : (vSystem_ExAirFanBothCtrl s).uncontrolled = s.uncontrolled := by
  unfold vSystem_ExAirFanBothCtrl
  cases s.pExAirFanVariate <;> simp

@[simp] theorem manualFan_uncontrolled (n : Fin EX_AIR_FAN_NUM) : (manualFan s n).uncontrolled = s.uncontrolled := by
  simp [manualFan]

@[simp] theorem openVariateMax_uncontrolled : (openVariateMax s).uncontrolled = s.uncontrolled := by
  unfold openVariateMax
  cases variateUsable s with
  | none => rfl
  | some v =>
    refine (vSystem_AdjustExAirFanFreq_uncontrolled _ _).trans ((vExAirFan_SwitchOpen_uncontrolled v _).trans ?_)
    exact vSystem_ExAirFanConstantSwitch_uncontrolled _

@[simp] theorem openAllFans_uncontrolled : (openAllFans s).uncontrolled = s.uncontrolled := by
  unfold openAllFans
  simp only [stopTmrs_uncontrolled]
  split
  · exact (vSystem_ExAirFanConstantSwitch_uncontrolled _).trans (openVariateMax_uncontrolled s)
  · exact openVariateMax_uncontrolled s

@[simp] theorem vSystem_ExAirFanCtrl_uncontrolled : (vSystem_ExAirFanCtrl s).uncontrolled = s.uncontrolled := by
  have hm : (fans.foldl manualFan s).uncontrolled = s.uncontrolled :=
    foldl_kept System.uncontrolled manualFan_uncontrolled fans s
  simp [vSystem_ExAirFanCtrl, hm]

@[simp] theorem vSystem_ExAirSet_Vol_uncontrolled : (vSystem_ExAirSet_Vol s).uncontrolled = s.uncontrolled := by
  simp [vSystem_ExAirSet_Vol]

@[simp] theorem vSystem_ExAirRequest_Vol_fanless : (vSystem_ExAirRequest_Vol s).fanless = s.fanless :=
  fanless_of_uncontrolled (vSystem_ExAirRequest_Vol_uncontrolled s)

@[simp] theorem vSystem_ExAirFanCtrl_fanless : (vSystem_ExAirFanCtrl s).fanless = s.fanless :=
  fanless_of_uncontrolled (vSystem_ExAirFanCtrl_uncontrolled s)

@[simp] theorem vSystem_ExAirSet_Vol_fanless : (vSystem_ExAirSet_Vol s).fanless = s.fanless :=
  fanless_of_uncontrolled (vSystem_ExAirSet_Vol_uncontrolled s)

@[simp] theorem vSystem_CloseExAirFans_kept : (vSystem_CloseExAirFans s).kept = s.kept :=
  kept_of_uncontrolled (vSystem_CloseExAirFans_uncontrolled s)

@[simp] theorem vSystem_ExAirRequest_Vol_kept : (vSystem_ExAirRequest_Vol s).kept = s.kept :=
  kept_of_uncontrolled (vSystem_ExAirRequest_Vol_uncontrolled s)

@[simp] theorem vSystem_ExAirFanCtrl_kept : (vSystem_ExAirFanCtrl s).kept = s.kept :=
  kept_of_uncontrolled (vSystem_ExAirFanCtrl_uncontrolled s)

@[simp] theorem vSystem_ExAirSet_Vol_kept : (vSystem_ExAirSet_Vol s).kept = s.kept :=
  kept_of_uncontrolled (vSystem_ExAirSet_Vol_uncontrolled s)

@[simp] theorem vSystem_AdjustExAirFanFreq_kept (usFreq : USHORT) :
    (vSystem_AdjustExAirFanFreq usFreq s).kept = s.kept :=
  kept_of_uncontrolled (vSystem_AdjustExAirFanFreq_uncontrolled s usFreq)

end Uncontrolled

end GreeIntense.Control

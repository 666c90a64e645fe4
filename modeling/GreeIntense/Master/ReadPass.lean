import GreeIntense.Master.ReadScan

/-!
# A pass of the read scans over a device (`vMBMasterScanReadSlaveDev` in `mbscan_m.c`)

A pass reads the holding registers, the coils and the input registers of a device, one request after the other; it
returns early when the last request of a table has timed out.  A device that is not synchronised is read in the run
mode `STATE_SYSN_DEV` and is synchronised afterwards.

How the requests end is given by `replies`, in the order they are made; `returned` keeps what they have returned.
The requests are made one at a time, so the poll task's part of a request is one function here (`waitReply`).
`timeout_kept_iff` says which timeouts the device still shows after a pass.
-/

namespace GreeIntense.Master

open Lib.Memory

/-! ### The device and the master -/

/-- `sMBSlaveDevCommData`, the tables that are read. -/
structure sMBSlaveDevTables where
  hold : sMBSlaveDevCommData
  coils : sMBSlaveDevCoils
  ins : sMBSlaveDevInputs

/-- `sMBSlaveDev`, as far as the read scan uses it. -/
structure sMBSlaveDev where
  ucDevAddr : UCHAR
  xDataReady : Bool
  xSynchronized : Bool
  xStateTestRequest : Bool
  xOnLine : Bool
  psDevCurData : Option sMBSlaveDevTables

/-- `sMBMasterInfo` in a pass over the device `psMBSlaveDevCur`, with the variables and previous values of its
tables, and what the requests of the pass have returned. -/
structure sMBMasterInfo where
  psMBSlaveDevCur : sMBSlaveDev
  ucSlaveDevMinAddr : UCHAR
  ucSlaveDevMaxAddr : UCHAR
  eMBRunMode : eMasterRunMode
  ucSndBuf : Mem
  regHolds : RegHolds
  coils : Coils
  regIns : Mem
  returned : List eMBMasterReqErrCode

/-! ### Requests -/

/-- How a request ends: with a response of its function code, with an exception, with a frame that is not received
right, or with none. -/
inductive Reply
  | response (ucRcvBuf : Mem) (pucFrame usLen : ℕ)
  | exception (ucCode : UCHAR)
  | broken
  | silent

/-- The event of a request that is executed. -/
def executed (eException : Bool) : eMBMasterEventType :=
  if eException then .EV_MASTER_ERROR_EXECUTE_FUNCTION else .EV_MASTER_PROCESS_SUCCESS

/-- The poll task processes the reply to the next request, and `eMBMasterWaitRequestFinish` returns. -/
def waitReply (replies : ℕ → Reply) (handler : Mem → ℕ → ℕ → sMBMasterInfo → eMBException × sMBMasterInfo)
    (s : sMBMasterInfo) : eMBMasterReqErrCode × sMBMasterInfo :=
  let r : eMBMasterEventType × sMBMasterInfo :=
    match replies s.returned.length with
    | .response ucRcvBuf pucFrame usLen =>
      let r := handler ucRcvBuf pucFrame usLen s
      (executed (r.1 ≠ .MB_EX_NONE), r.2)
    | .exception ucCode => (executed (ucCode ≠ 0), s)
    | .broken => (.EV_MASTER_ERROR_RECEIVE_DATA, s)
    | .silent => (.EV_MASTER_ERROR_RESPOND_TIMEOUT, s)
  (finishCode r.1, { r.2 with returned := r.2.returned ++ [finishCode r.1] })

/-- A read request: nothing is sent to an address out of range. -/
def readRequest (replies : ℕ → Reply) (put : Mem → Mem)
    (handler : Mem → ℕ → ℕ → sMBMasterInfo → eMBException × sMBMasterInfo) (s : sMBMasterInfo) :
    eMBMasterReqErrCode × sMBMasterInfo :=
  if s.psMBSlaveDevCur.ucDevAddr < s.ucSlaveDevMinAddr ∨ s.psMBSlaveDevCur.ucDevAddr > s.ucSlaveDevMaxAddr then
    (.MB_MRE_ILL_ARG, s)
  else waitReply replies handler { s with ucSndBuf := put s.ucSndBuf }

variable (replies : ℕ → Reply) (cur : sMBSlaveDevTables)

/-- The address a broadcast frame has. -/
abbrev MB_ADDRESS_BROADCAST : UCHAR := 0

/-- The handlers of the three responses on the master's data. -/
def holdHandler (ucRcvBuf : Mem) (pucFrame usLen : ℕ) (s : sMBMasterInfo) : eMBException × sMBMasterInfo :=
  let r := eMBMasterFuncReadHoldingRegister cur.hold s.eMBRunMode (s.psMBSlaveDevCur.ucDevAddr = MB_ADDRESS_BROADCAST)
    s.ucSndBuf ucRcvBuf pucFrame usLen s.regHolds
  (r.1, { s with regHolds := r.2 })

def coilHandler (ucRcvBuf : Mem) (pucFrame usLen : ℕ) (s : sMBMasterInfo) : eMBException × sMBMasterInfo :=
  let r := eMBMasterFuncReadCoils cur.coils s.eMBRunMode (s.psMBSlaveDevCur.ucDevAddr = MB_ADDRESS_BROADCAST)
    s.ucSndBuf ucRcvBuf pucFrame usLen s.coils
  (r.1, { s with coils := r.2 })

def inputHandler (ucRcvBuf : Mem) (pucFrame usLen : ℕ) (s : sMBMasterInfo) : eMBException × sMBMasterInfo :=
  let r := eMBMasterFuncReadInputRegister cur.ins s.eMBRunMode (s.psMBSlaveDevCur.ucDevAddr = MB_ADDRESS_BROADCAST)
    s.ucSndBuf ucRcvBuf pucFrame usLen s.regIns
  (r.1, { s with regIns := r.2 })

/-- `eMBMasterReqReadHoldingRegister`, `eMBMasterReqReadCoils` and `eMBMasterReqReadInputRegister` up to their
return. -/
def requestHold (q : ReadRequest) : sMBMasterInfo → eMBMasterReqErrCode × sMBMasterInfo :=
  readRequest replies (eMBMasterReqReadHoldingRegister q.usAddr q.usCount) (holdHandler cur)

def requestCoils (q : ReadRequest) : sMBMasterInfo → eMBMasterReqErrCode × sMBMasterInfo :=
  readRequest replies (eMBMasterReqReadCoils q.usAddr q.usCount) (coilHandler cur)

def requestInputs (q : ReadRequest) : sMBMasterInfo → eMBMasterReqErrCode × sMBMasterInfo :=
  readRequest replies (eMBMasterReqReadInputRegister q.usAddr q.usCount) (inputHandler cur)

/-! ### The pass -/

/-- The device is to be tested, and synchronised again. -/
def timedOut (s : sMBMasterInfo) : sMBMasterInfo :=
  { s with psMBSlaveDevCur := { s.psMBSlaveDevCur with xStateTestRequest := true, xSynchronized := false } }

def vMBMasterScanReadSlaveDevData (xSynchronize : Bool) (s : sMBMasterInfo) : sMBMasterInfo :=
  let s := { s with eMBRunMode := if xSynchronize then .STATE_SYSN_DEV else .STATE_SCAN_DEV }
  let r := eMBMasterScanReadRegHold (requestHold replies cur) cur.hold.sMBRegHoldTable s
  if r.1 = .MB_MRE_TIMEDOUT then timedOut r.2
  else
    let r := eMBMasterScanReadCoils (requestCoils replies cur) cur.coils.sMBCoilTable r.2
    if r.1 = .MB_MRE_TIMEDOUT then timedOut r.2
    else
      let r := eMBMasterScanReadRegIn (requestInputs replies cur) cur.ins.sMBRegInTable r.2
      if r.1 = .MB_MRE_TIMEDOUT then timedOut r.2 else r.2

def vMBMasterScanReadSlaveDev (s : sMBMasterInfo) : sMBMasterInfo :=
  match s.psMBSlaveDevCur.psDevCurData with
  | none => s
  | some cur =>
    if s.psMBSlaveDevCur.xOnLine then
      if s.psMBSlaveDevCur.xDataReady then
        if s.psMBSlaveDevCur.xSynchronized = false then
          let s := vMBMasterScanReadSlaveDevData replies cur true s
          { s with psMBSlaveDevCur := { s.psMBSlaveDevCur with xSynchronized := true } }
        else vMBMasterScanReadSlaveDevData replies cur false s
      else s
    else s

/-! ### The requests of a pass -/

/-- The requests for the three tables, in the order of a pass. -/
def holdRequests : List ReadRequest := readRequests scanReadRegEntry (holdReads cur.hold.sMBRegHoldTable) .start

def coilRequests : List ReadRequest := readRequests scanReadCoilEntry (coilReads cur.coils.sMBCoilTable) .start

def inputRequests : List ReadRequest := readRequests scanReadRegEntry (inputReads cur.ins.sMBRegInTable) .start

/-- The address of the device is in range, and its requests are sent. -/
def Addressed (s : sMBMasterInfo) : Prop :=
  ¬(s.psMBSlaveDevCur.ucDevAddr < s.ucSlaveDevMinAddr ∨ s.psMBSlaveDevCur.ucDevAddr > s.ucSlaveDevMaxAddr)

def Reply.isSilent : Reply → Bool
  | .silent => true
  | _ => false

/-- The device and the range of addresses are the same. -/
structure SameDev (s s' : sMBMasterInfo) : Prop where
  dev : s'.psMBSlaveDevCur = s.psMBSlaveDevCur
  minAddr : s'.ucSlaveDevMinAddr = s.ucSlaveDevMinAddr
  maxAddr : s'.ucSlaveDevMaxAddr = s.ucSlaveDevMaxAddr

/-- What a handler leaves as it is. -/
structure Kept (s s' : sMBMasterInfo) : Prop where
  same : SameDev s s'
  returned : s'.returned = s.returned

variable {replies} {cur} {s s' s'' : sMBMasterInfo}

theorem SameDev.trans (h : SameDev s s') (h' : SameDev s' s'') : SameDev s s'' :=
  ⟨h'.dev.trans h.dev, h'.minAddr.trans h.minAddr, h'.maxAddr.trans h.maxAddr⟩

theorem SameDev.addressed (h : SameDev s s') (ha : Addressed s) : Addressed s' := by
  rw [Addressed, h.dev, h.minAddr, h.maxAddr]
  exact ha

/-- **A request that is sent**: what it returns is noted down, and it is a timeout when there is no reply. -/
structure Sent (replies : ℕ → Reply) (s : sMBMasterInfo) (r : eMBMasterReqErrCode × sMBMasterInfo) : Prop where
  same : SameDev s r.2
  returned : r.2.returned = s.returned ++ [r.1]
  timeout : r.1 = .MB_MRE_TIMEDOUT ↔ (replies s.returned.length).isSilent = true

theorem finishCode_ne (e : eMBMasterEventType) : finishCode e ≠ .MB_MRE_ETIMEDOUT := by cases e <;> decide

theorem executed_ne (b : Bool) : finishCode (executed b) ≠ .MB_MRE_TIMEDOUT := by cases b <;> decide

theorem waitReply_sent {handler : Mem → ℕ → ℕ → sMBMasterInfo → eMBException × sMBMasterInfo}
    (h : ∀ rcv p n, Kept s (handler rcv p n s).2) : Sent replies s (waitReply replies handler s) := by
  unfold waitReply
  cases hr : replies s.returned.length with
  | response rcv p n =>
    obtain ⟨⟨hdev, hmin, hmax⟩, hret⟩ := h rcv p n
    exact ⟨⟨hdev, hmin, hmax⟩, congrArg (· ++ _) hret, by simp [hr, Reply.isSilent, executed_ne]⟩
  | exception c => exact ⟨⟨rfl, rfl, rfl⟩, rfl, by simp [hr, Reply.isSilent, executed_ne]⟩
  | broken => exact ⟨⟨rfl, rfl, rfl⟩, rfl, by simp [hr, Reply.isSilent, finishCode]⟩
  | silent => exact ⟨⟨rfl, rfl, rfl⟩, rfl, by simp [hr, Reply.isSilent, finishCode]⟩

/-- **A request function**: it sends to an address in range, and returns no `MB_MRE_ETIMEDOUT`. -/
structure Sends (replies : ℕ → Reply) (send : sMBMasterInfo → eMBMasterReqErrCode × sMBMasterInfo) : Prop where
  sent : ∀ s, Addressed s → Sent replies s (send s)
  unsent : ∀ s, ¬Addressed s → send s = (.MB_MRE_ILL_ARG, s)
  never : ∀ s, (send s).1 ≠ .MB_MRE_ETIMEDOUT

theorem readRequest_sends {put : Mem → Mem}
    {handler : Mem → ℕ → ℕ → sMBMasterInfo → eMBException × sMBMasterInfo}
    (h : ∀ rcv p n s, Kept s (handler rcv p n s).2) : Sends replies (readRequest replies put handler) := by
  constructor
  · intro s ha
    rw [readRequest, if_neg ha]
    have hput : Sent replies { s with ucSndBuf := put s.ucSndBuf }
        (waitReply replies handler { s with ucSndBuf := put s.ucSndBuf }) := waitReply_sent fun rcv p n => h rcv p n _
    obtain ⟨⟨hdev, hmin, hmax⟩, hret, htime⟩ := hput
    exact ⟨⟨hdev, hmin, hmax⟩, hret, htime⟩
  · intro s ha
    rw [readRequest, if_pos (not_not.mp ha)]
  · intro s
    unfold readRequest
    split
    · nofun
    · exact finishCode_ne _

variable (replies cur)

theorem requestHold_sends (q : ReadRequest) : Sends replies (requestHold replies cur q) :=
  readRequest_sends fun _ _ _ _ => ⟨⟨rfl, rfl, rfl⟩, rfl⟩

theorem requestCoils_sends (q : ReadRequest) : Sends replies (requestCoils replies cur q) :=
  readRequest_sends fun _ _ _ _ => ⟨⟨rfl, rfl, rfl⟩, rfl⟩

theorem requestInputs_sends (q : ReadRequest) : Sends replies (requestInputs replies cur q) :=
  readRequest_sends fun _ _ _ _ => ⟨⟨rfl, rfl, rfl⟩, rfl⟩

variable {replies cur}

/-- **Requests one after the other**: a timeout is one of a request without a reply, and what is returned in the
end is a timeout when the last request has no reply. -/
structure AllSent (replies : ℕ → Reply) (n : ℕ) (st r : eMBMasterReqErrCode × sMBMasterInfo) : Prop where
  same : SameDev st.2 r.2
  count : r.2.returned.length = st.2.returned.length + n
  any : .MB_MRE_TIMEDOUT ∈ r.2.returned ↔
    .MB_MRE_TIMEDOUT ∈ st.2.returned ∨ ∃ k < n, (replies (st.2.returned.length + k)).isSilent = true
  last : r.1 = .MB_MRE_TIMEDOUT ↔
    if n = 0 then st.1 = .MB_MRE_TIMEDOUT else (replies (st.2.returned.length + n - 1)).isSilent = true

section All

variable {send : ReadRequest → sMBMasterInfo → eMBMasterReqErrCode × sMBMasterInfo}
  {st : eMBMasterReqErrCode × sMBMasterInfo}

theorem sendAll_sent (hsend : ∀ q, Sends replies (send q)) (qs : List ReadRequest)
    (st : eMBMasterReqErrCode × sMBMasterInfo) (ha : Addressed st.2) :
    AllSent replies qs.length st (sendAll send qs st) := by
  induction qs generalizing st with
  | nil => exact ⟨⟨rfl, rfl, rfl⟩, rfl, by simp [sendAll], Iff.rfl⟩
  | cons q qs ih =>
    obtain ⟨hsame, hret, htime⟩ := (hsend q).sent st.2 ha
    obtain ⟨hsame', hcount, hany, hlast⟩ := ih (send q st.2) (hsame.addressed ha)
    have hlen : (send q st.2).2.returned.length = st.2.returned.length + 1 := by
      rw [hret, List.length_append, List.length_singleton]
    have hfirst : .MB_MRE_TIMEDOUT ∈ (send q st.2).2.returned ↔
        .MB_MRE_TIMEDOUT ∈ st.2.returned ∨ (replies st.2.returned.length).isSilent = true := by
      rw [hret, List.mem_append, List.mem_singleton, eq_comm, htime]
    have hcons : sendAll send (q :: qs) st = sendAll send qs (send q st.2) := rfl
    rw [hcons]
    refine ⟨hsame.trans hsame', ?_, ?_, ?_⟩
    · rw [hcount, hlen, List.length_cons]
      omega
    · rw [hany, hfirst, hlen, List.length_cons, Nat.exists_lt_succ_left, or_assoc]
      simp only [Nat.add_zero, Nat.add_assoc, Nat.add_comm 1]
    · rw [hlast, hlen, List.length_cons, if_neg (Nat.succ_ne_zero _)]
      by_cases h0 : qs.length = 0
      · rw [if_pos h0, h0, htime]
        rfl
      · have hidx : st.2.returned.length + 1 + qs.length - 1 = st.2.returned.length + (qs.length + 1) - 1 := by omega
        rw [if_neg h0, hidx]

theorem sendAll_unsent (hsend : ∀ q, Sends replies (send q)) (qs : List ReadRequest)
    (st : eMBMasterReqErrCode × sMBMasterInfo) (ha : ¬Addressed st.2) (h0 : st.1 ≠ .MB_MRE_TIMEDOUT) :
    (sendAll send qs st).1 ≠ .MB_MRE_TIMEDOUT ∧ (sendAll send qs st).2 = st.2 := by
  induction qs generalizing st with
  | nil => exact ⟨h0, rfl⟩
  | cons q qs ih =>
    have hq := (hsend q).unsent st.2 ha
    have hcons : sendAll send (q :: qs) st = sendAll send qs (.MB_MRE_ILL_ARG, st.2) := by
      rw [← hq]
      rfl
    rw [hcons]
    exact ih (.MB_MRE_ILL_ARG, st.2) ha nofun

/-- The last one of `n` requests, from the one of number `m` on, has no reply. -/
def LastSilent (replies : ℕ → Reply) (m n : ℕ) : Prop := 0 < n ∧ (replies (m + n - 1)).isSilent = true

theorem AllSent.last_iff {n : ℕ} {r : eMBMasterReqErrCode × sMBMasterInfo} (h : AllSent replies n st r)
    (h0 : st.1 ≠ .MB_MRE_TIMEDOUT) : r.1 = .MB_MRE_TIMEDOUT ↔ LastSilent replies st.2.returned.length n := by
  rw [h.last, LastSilent]
  rcases Nat.eq_zero_or_pos n with hn | hn
  · rw [if_pos hn]
    exact ⟨fun h => absurd h h0, fun h => absurd h.1 (by omega)⟩
  · rw [if_neg (by omega)]
    exact (and_iff_right hn).symm

theorem LastSilent.exists {m n : ℕ} (h : LastSilent replies m n) :
    ∃ k < n, (replies (m + k)).isSilent = true :=
  ⟨n - 1, Nat.sub_lt h.1 Nat.one_pos, by rw [← Nat.add_sub_assoc h.1]; exact h.2⟩

end All

/-! ### The three scans of a pass -/

theorem scanHold_eq (s : sMBMasterInfo) :
    eMBMasterScanReadRegHold (requestHold replies cur) cur.hold.sMBRegHoldTable s =
      sendAll (requestHold replies cur) (holdRequests cur) (.MB_MRE_NO_ERR, s) := scanReadRegs_eq ..

theorem scanCoils_eq (s : sMBMasterInfo) :
    eMBMasterScanReadCoils (requestCoils replies cur) cur.coils.sMBCoilTable s =
      sendAll (requestCoils replies cur) (coilRequests cur) (.MB_MRE_NO_ERR, s) :=
  scanReadCoils_eq _ (fun q s => (requestCoils_sends replies cur q).never s) _ _ _

theorem scanInputs_eq (s : sMBMasterInfo) :
    eMBMasterScanReadRegIn (requestInputs replies cur) cur.ins.sMBRegInTable s =
      sendAll (requestInputs replies cur) (inputRequests cur) (.MB_MRE_NO_ERR, s) := scanReadRegs_eq ..

/-- The last request for one of the tables has no reply. -/
def TimeoutSeen (replies : ℕ → Reply) (cur : sMBSlaveDevTables) : Prop :=
  LastSilent replies 0 (holdRequests cur).length ∨
    LastSilent replies (holdRequests cur).length (coilRequests cur).length ∨
      LastSilent replies ((holdRequests cur).length + (coilRequests cur).length) (inputRequests cur).length

/-- The number of requests of a pass that is not left early. -/
def passRequests (cur : sMBSlaveDevTables) : ℕ :=
  (holdRequests cur).length + (coilRequests cur).length + (inputRequests cur).length

/-- **What a pass returns and what it does to the device**: it meets a timeout when a request has no reply, and the
device changes when it is that of the last request for a table. -/
structure PassEnd (replies : ℕ → Reply) (cur : sMBSlaveDevTables) (s s' : sMBMasterInfo) : Prop where
  any : .MB_MRE_TIMEDOUT ∈ s'.returned ↔ ∃ k < passRequests cur, (replies k).isSilent = true
  seen : TimeoutSeen replies cur →
    s'.psMBSlaveDevCur = { s.psMBSlaveDevCur with xStateTestRequest := true, xSynchronized := false }
  unseen : ¬TimeoutSeen replies cur → s'.psMBSlaveDevCur = s.psMBSlaveDevCur

theorem exists_lt_add {p : ℕ → Prop} {m n : ℕ} : (∃ k < m + n, p k) ↔ (∃ k < m, p k) ∨ ∃ k < n, p (m + k) := by
  constructor
  · rintro ⟨k, hk, hp⟩
    rcases Nat.lt_or_ge k m with h | h
    · exact Or.inl ⟨k, h, hp⟩
    · exact Or.inr ⟨k - m, by omega, by rwa [Nat.add_sub_cancel' h]⟩
  · rintro (⟨k, hk, hp⟩ | ⟨k, hk, hp⟩)
    · exact ⟨k, by omega, hp⟩
    · exact ⟨m + k, by omega, hp⟩

/-- In a pass, after `n` requests: the device is as before, and a timeout is one of a request without a reply. -/
structure After (replies : ℕ → Reply) (s : sMBMasterInfo) (n : ℕ) (s' : sMBMasterInfo) : Prop where
  same : SameDev s s'
  count : s'.returned.length = n
  any : .MB_MRE_TIMEDOUT ∈ s'.returned ↔ ∃ k < n, (replies k).isSilent = true

theorem After.scan {send : ReadRequest → sMBMasterInfo → eMBMasterReqErrCode × sMBMasterInfo} {n : ℕ}
    (h : After replies s n s') (ha : Addressed s) (hsend : ∀ q, Sends replies (send q)) (qs : List ReadRequest) :
    After replies s (n + qs.length) (sendAll send qs (.MB_MRE_NO_ERR, s')).2 ∧
      ((sendAll send qs (.MB_MRE_NO_ERR, s')).1 = .MB_MRE_TIMEDOUT ↔ LastSilent replies n qs.length) := by
  have hall := sendAll_sent hsend qs (.MB_MRE_NO_ERR, s') (h.same.addressed ha)
  have hlast := hall.last_iff nofun
  rw [h.count] at hlast
  refine ⟨⟨h.same.trans hall.same, ?_, ?_⟩, hlast⟩
  · rw [hall.count, h.count]
  · rw [hall.any, h.any, h.count, exists_lt_add]

theorem After.left {n : ℕ} (h : After replies s n s') (hseen : TimeoutSeen replies cur)
    (hsilent : ∃ k < n, (replies k).isSilent = true) (hn : n ≤ passRequests cur) :
    PassEnd replies cur s (timedOut s') := by
  refine ⟨iff_of_true (h.any.mpr hsilent) ?_, fun _ => ?_, fun hno => absurd hseen hno⟩
  · obtain ⟨k, hk, hs⟩ := hsilent
    exact ⟨k, by omega, hs⟩
  · rw [timedOut, h.same.dev]

variable (replies cur) in
theorem scanReadSlaveDevData_end (xSynchronize : Bool) (ha : Addressed s) (h0 : s.returned = []) :
    PassEnd replies cur s (vMBMasterScanReadSlaveDevData replies cur xSynchronize s) := by
  have hstart : After replies s 0
      { s with eMBRunMode := if xSynchronize then .STATE_SYSN_DEV else .STATE_SCAN_DEV } := by
    refine ⟨⟨rfl, rfl, rfl⟩, by rw [h0]; rfl, ?_⟩
    simp [h0]
  obtain ⟨hhold, hlast1⟩ := hstart.scan ha (requestHold_sends replies cur) (holdRequests cur)
  obtain ⟨hcoils, hlast2⟩ := hhold.scan ha (requestCoils_sends replies cur) (coilRequests cur)
  obtain ⟨hins, hlast3⟩ := hcoils.scan ha (requestInputs_sends replies cur) (inputRequests cur)
  rw [Nat.zero_add] at hhold hcoils hins hlast2 hlast3
  simp only [vMBMasterScanReadSlaveDevData, scanHold_eq, scanCoils_eq, scanInputs_eq]
  -- after each table the pass is left if its last request has timed out
  by_cases hl1 : LastSilent replies 0 (holdRequests cur).length
  · rw [if_pos (hlast1.mpr hl1)]
    refine hhold.left (Or.inl hl1) ?_ (by unfold passRequests; omega)
    simpa using hl1.exists
  · rw [if_neg fun h => hl1 (hlast1.mp h)]
    by_cases hl2 : LastSilent replies (holdRequests cur).length (coilRequests cur).length
    · rw [if_pos (hlast2.mpr hl2)]
      exact hcoils.left (Or.inr (Or.inl hl2)) (exists_lt_add.mpr (Or.inr hl2.exists)) (by unfold passRequests; omega)
    · rw [if_neg fun h => hl2 (hlast2.mp h)]
      by_cases hl3 : LastSilent replies ((holdRequests cur).length + (coilRequests cur).length)
          (inputRequests cur).length
      · rw [if_pos (hlast3.mpr hl3)]
        exact hins.left (Or.inr (Or.inr hl3)) (exists_lt_add.mpr (Or.inr hl3.exists)) (Nat.le_refl _)
      · rw [if_neg fun h => hl3 (hlast3.mp h)]
        have hno : ¬TimeoutSeen replies cur := by
          rintro (h | h | h)
          · exact hl1 h
          · exact hl2 h
          · exact hl3 h
        exact ⟨hins.any, fun h => absurd h hno, fun _ => hins.same.dev⟩

variable (replies cur) in
/-- No request is sent to an address out of range. -/
theorem scanReadSlaveDevData_unsent (xSynchronize : Bool) (ha : ¬Addressed s) :
    (vMBMasterScanReadSlaveDevData replies cur xSynchronize s).returned = s.returned := by
  have hscan {send : ReadRequest → sMBMasterInfo → eMBMasterReqErrCode × sMBMasterInfo}
      (hsend : ∀ q, Sends replies (send q)) (qs : List ReadRequest) {s' : sMBMasterInfo} (ha : ¬Addressed s') :=
    sendAll_unsent hsend qs (.MB_MRE_NO_ERR, s') ha nofun
  simp only [vMBMasterScanReadSlaveDevData, scanHold_eq, scanCoils_eq, scanInputs_eq]
  set s0 : sMBMasterInfo := { s with eMBRunMode := if xSynchronize then .STATE_SYSN_DEV else .STATE_SCAN_DEV }
  have ha0 : ¬Addressed s0 := ha
  obtain ⟨h1, hs1⟩ := hscan (requestHold_sends replies cur) (holdRequests cur) ha0
  obtain ⟨h2, hs2⟩ := hscan (requestCoils_sends replies cur) (coilRequests cur) ha0
  obtain ⟨h3, hs3⟩ := hscan (requestInputs_sends replies cur) (inputRequests cur) ha0
  rw [if_neg h1, hs1, if_neg h2, hs2, if_neg h3, hs3]

/-! ### Timeouts -/

/-- The device is read: it has tables, and it is on line and ready. -/
structure ReadReady (s : sMBMasterInfo) (cur : sMBSlaveDevTables) : Prop where
  tables : s.psMBSlaveDevCur.psDevCurData = some cur
  onLine : s.psMBSlaveDevCur.xOnLine = true
  ready : s.psMBSlaveDevCur.xDataReady = true

/-- A timeout in a pass is not lost: the device is to be tested and synchronised again. -/
def TimeoutKept (replies : ℕ → Reply) (s : sMBMasterInfo) : Prop :=
  .MB_MRE_TIMEDOUT ∈ (vMBMasterScanReadSlaveDev replies s).returned →
    (vMBMasterScanReadSlaveDev replies s).psMBSlaveDevCur.xStateTestRequest = true ∧
      (vMBMasterScanReadSlaveDev replies s).psMBSlaveDevCur.xSynchronized = false

variable (replies) in
theorem scanReadSlaveDev_eq (h : ReadReady s cur) :
    vMBMasterScanReadSlaveDev replies s =
      if s.psMBSlaveDevCur.xSynchronized = false then
        let s := vMBMasterScanReadSlaveDevData replies cur true s
        { s with psMBSlaveDevCur := { s.psMBSlaveDevCur with xSynchronized := true } }
      else vMBMasterScanReadSlaveDevData replies cur false s := by
  obtain ⟨htab, hon, hready⟩ := h
  simp only [vMBMasterScanReadSlaveDev, htab, hon, hready, if_true]

/-- **A timeout is kept** exactly when there is none, or the device was synchronised and the last request for one
of its tables is one that times out. -/
theorem timeout_kept_iff (h : ReadReady s cur) (h0 : s.returned = []) :
    TimeoutKept replies s ↔
      (Addressed s → (∀ k < passRequests cur, (replies k).isSilent = false) ∨
        s.psMBSlaveDevCur.xSynchronized = true ∧ TimeoutSeen replies cur) := by
  rw [TimeoutKept, scanReadSlaveDev_eq replies h]
  by_cases ha : Addressed s
  · rw [forall_prop_of_true ha]
    have hnone : (∀ k < passRequests cur, (replies k).isSilent = false) ↔
        ¬∃ k < passRequests cur, (replies k).isSilent = true := by simp
    by_cases hsync : s.psMBSlaveDevCur.xSynchronized = false
    · have hend := scanReadSlaveDevData_end replies cur true ha h0
      rw [if_pos hsync, hnone, ← hend.any]
      simp [hsync]
    · have hend := scanReadSlaveDevData_end replies cur false ha h0
      rw [if_neg hsync, hnone, ← hend.any]
      by_cases hseen : TimeoutSeen replies cur
      · simp [hend.seen hseen, hseen, hsync]
      · simp [hend.unseen hseen, hseen, hsync]
  · -- to an address out of range nothing is sent, and no timeout comes back
    have hunsent (b : Bool) := scanReadSlaveDevData_unsent replies cur b ha
    have hnone : .MB_MRE_TIMEDOUT ∉ s.returned := by
      rw [h0]
      exact List.not_mem_nil
    refine iff_of_true (fun h => absurd h ?_) fun h => absurd h ha
    split
    · change .MB_MRE_TIMEDOUT ∉ (vMBMasterScanReadSlaveDevData replies cur true s).returned
      rw [hunsent]
      exact hnone
    · rw [hunsent]
      exact hnone

/-- Two holding registers that are read by two requests. -/
def farRegs : sMBSlaveDevTables where
  hold := ⟨⟨[⟨1, 0, 9, .uint16, .RW, 1, some 0⟩, ⟨100, 0, 9, .uint16, .RW, 1, some 2⟩], 0, 200⟩, none⟩
  coils := ⟨⟨[], 0, 0⟩, none⟩
  ins := ⟨⟨[], 0, 0⟩, none⟩

/-- The device is on line and ready. -/
def readyMaster (cur : sMBSlaveDevTables) (xSynchronized : Bool) : sMBMasterInfo where
  psMBSlaveDevCur := ⟨5, true, xSynchronized, false, true, some cur⟩
  ucSlaveDevMinAddr := 1
  ucSlaveDevMaxAddr := 9
  eMBRunMode := .STATE_SCAN_DEV
  ucSndBuf _ := 0
  regHolds := ⟨fun _ => 0, fun _ => 0⟩
  coils := ⟨fun _ => 0, fun _ => 0⟩
  regIns _ := 0
  returned := []

theorem readReady_ready (xSynchronized : Bool) : ReadReady (readyMaster cur xSynchronized) cur := ⟨rfl, rfl, rfl⟩

/-- The request of the number `n` has no reply, the others meet an error. -/
def silentAt (n : ℕ) (k : ℕ) : Reply := if k = n then .silent else .broken

/-- The last request of the holding registers times out, and the device was synchronised. -/
theorem timeout_kept_last : TimeoutKept (silentAt 1) (readyMaster farRegs true) :=
  (timeout_kept_iff (readReady_ready true) rfl).mpr fun _ => Or.inr ⟨rfl, Or.inl ⟨by decide, by decide⟩⟩

/-- **The first of two requests times out, and the second does not**: nothing shows it.  **The second times out in
the first pass**: the device is taken for synchronised. -/
theorem timeout_lost :
    ¬TimeoutKept (silentAt 0) (readyMaster farRegs true) ∧ ¬TimeoutKept (silentAt 1) (readyMaster farRegs false) := by
  unfold TimeoutKept
  decide

end GreeIntense.Master

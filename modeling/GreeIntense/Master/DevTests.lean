import GreeIntense.Master.DevRecords

/-!
# What the tests of a device find out (`mbtest_m.c`)

`vMBDevTest` sends the test commands of a device's data tables one after the other and takes the device on line with the
table that is answered; `vMBDevCurStateTest` counts the tests of a device on line that time out and takes it off line at
the third.

* `probing_iff`: the device is on line with a table that was answered as it should be, and with the first such one,
  exactly where the first table that does not time out is answered without an error and a different value does not stand
  before the right one.
-/

namespace GreeIntense.Master.DevScan

open Lib.Tasks Lib.Run

variable {ι δ : Type*}

/-! ### Passes alone -/

section Exec

variable [DecidableEq ι] (M : sMBMasterDevsInfo ι δ) (i : ι) {k p q : Pass ι δ} {ws : Stream' Answer} {s : Store ι δ}

omit [DecidableEq ι] in
@[simp] theorem exec_done : (.done : Pass ι δ).exec ws s = some s := rfl

omit [DecidableEq ι] in
@[simp] theorem exec_test {b : sMBSlaveDev δ → Bool} :
    (test i b p q).exec ws s = if b (s i) then p.exec ws s else q.exec ws s :=
  apply_ite (fun r : Pass ι δ => r.exec ws s) ..

@[simp] theorem exec_assign {f : sMBSlaveDev δ → sMBSlaveDev δ} : (assign i f k).exec ws s = k.exec ws (setDev i f s) :=
  rfl

@[simp] theorem exec_assignMid (c : Change ι) {f : sMBSlaveDev δ → sMBSlaveDev δ} :
    (assignMid c f k).exec ws s = k.exec ws (setDev c.dev f s) := rfl

@[simp] theorem setDev_self (f : sMBSlaveDev δ → sMBSlaveDev δ) : setDev i f s i = f (s i) := Function.update_self ..

@[simp] theorem setDev_setDev (f g : sMBSlaveDev δ → sMBSlaveDev δ) :
    setDev i f (setDev i g s) = setDev i (f ∘ g) s := by
  simp [setDev]

omit [DecidableEq ι] in
theorem exec_eMBDevCmdTest (psMBDevCmd : sMBTestDevCmd) (k : Answer → Pass ι δ) :
    (eMBDevCmdTest M i psMBDevCmd k).exec ws s = (k ws.head).exec ws.tail s := by
  unfold eMBDevCmdTest
  cases psMBDevCmd.eCmdMode <;> rfl

/-- The last answer to a command that is sent until it does not time out, twice at most. -/
def lastAnswer (first second : Answer) : Answer := if first.errorCode ≠ .MB_MRE_TIMEDOUT then first else second

omit [DecidableEq ι] in
theorem exec_retry (psMBCmd : sMBTestDevCmd) (k : Answer → Pass ι δ) (a : Answer) :
    (retry M i psMBCmd k MB_TEST_RETRY_TIMES a).exec ws s =
      if ws.head.errorCode ≠ .MB_MRE_TIMEDOUT then (k ws.head).exec ws.tail s
      else (k ws.tail.head).exec ws.tail.tail s := by
  have h0 (n : ℕ) (a : Answer) (ws : Stream' Answer) (s : Store ι δ) :
      (retry M i psMBCmd k (n + 1) a).exec ws s =
        if ws.head.errorCode ≠ .MB_MRE_TIMEDOUT then (k ws.head).exec ws.tail s
        else (retry M i psMBCmd k n ws.head).exec ws.tail s := by
    rw [retry, exec_eMBDevCmdTest]
    exact apply_ite (fun r : Pass ι δ => r.exec ws.tail s) ..
  rw [h0, h0]
  have h2 : (retry M i psMBCmd k 0 ws.tail.head).exec ws.tail.tail s = (k ws.tail.head).exec ws.tail.tail s := rfl
  rw [h2, ite_self]

end Exec

/-! ### The tables of a device -/

section Probe

variable (M : sMBMasterDevsInfo ι δ)

/-- The answers to the first and to the second request of a table's test. -/
structure Outcomes (δ : Type*) where
  first : δ → Answer
  second : δ → Answer

namespace Outcomes

variable (out : Outcomes δ)

/-- The answer to the test of a table. -/
def answer (D : δ) : Answer := lastAnswer (out.first D) (out.second D)

/-- The answers in the order in which the requests are made. -/
def requests (ds : List δ) : List Answer :=
  ds.flatMap fun D =>
    if (out.first D).errorCode ≠ .MB_MRE_TIMEDOUT then [out.first D] else [out.first D, out.second D]

/-- The test of a table timed out. -/
def TimedOut (D : δ) : Prop := (out.answer D).errorCode = .MB_MRE_TIMEDOUT

instance (D : δ) : Decidable (out.TimedOut D) := inferInstanceAs (Decidable (_ = _))

/-- It was answered without an error with the value that is expected. -/
def Matches (D : δ) : Prop :=
  (out.answer D).errorCode = .MB_MRE_NO_ERR ∧
    (out.answer D).pucMasterPDUCur = some (M.psDevData D).sMBDevCmdTable.usValue

instance (D : δ) : Decidable (out.Matches M D) := inferInstanceAs (Decidable (_ ∧ _))

/-- It was answered without an error with a different value. -/
def Differs (D : δ) : Prop :=
  (out.answer D).errorCode = .MB_MRE_NO_ERR ∧
    ∃ usDataVal, (out.answer D).pucMasterPDUCur = some usDataVal ∧
      usDataVal ≠ (M.psDevData D).sMBDevCmdTable.usValue

instance (D : δ) : Decidable (out.Differs M D) :=
  decidable_of_iff ((out.answer D).errorCode = .MB_MRE_NO_ERR ∧
    (out.answer D).pucMasterPDUCur.any (· ≠ (M.psDevData D).sMBDevCmdTable.usValue) = true) (by
      simp [Differs, Option.any_eq_true])

/-- The first table that does not time out. -/
def answered (ds : List δ) : Option δ := ds.find? fun D => ¬out.TimedOut D

/-- The first table that neither times out nor is answered with a different value. -/
def settled (ds : List δ) : Option δ := ds.find? fun D => ¬out.TimedOut D ∧ ¬out.Differs M D

theorem Matches.not_timedOut {D : δ} (h : out.Matches M D) : ¬out.TimedOut D := by
  intro ht
  rw [TimedOut, h.1] at ht
  cases ht

theorem Matches.not_differs {D : δ} (h : out.Matches M D) : ¬out.Differs M D := by
  rintro ⟨-, usDataVal, hv, hne⟩
  exact hne (Option.some.inj (hv.symm.trans h.2))

theorem settled_iff {ds : List δ} {D : δ} (h : out.Matches M D) :
    out.settled M ds = some D ↔
      ∃ before after, ds = before ++ D :: after ∧ ∀ E ∈ before, out.Differs M E ∨ out.TimedOut E := by
  have hbefore (E : δ) : (!decide (¬out.TimedOut E ∧ ¬out.Differs M E)) = true ↔ out.Differs M E ∨ out.TimedOut E := by
    simp [or_comm]
  simp only [settled, List.find?_eq_some_iff_append, hbefore, decide_eq_true_eq]
  exact and_iff_right ⟨h.not_timedOut, h.not_differs⟩

end Outcomes

/-- The record of a device that is taken on line. -/
def onLineWith (D : δ) (d : sMBSlaveDev δ) : sMBSlaveDev δ :=
  { d with
    xOnLine := true, psDevCurData := some D, usProtocolID := (M.psDevData D).usProtocolID, xDataReady := true
    xStateTestRequest := false, ucOfflineTimes := 0 }

/-- What is done about the table that is answered first. -/
def taken (D : δ) (a : Answer) (d : sMBSlaveDev δ) : sMBSlaveDev δ :=
  if (M.psDevData D).sMBDevCmdTable.xCheckVal ∧ a.errorCode = .MB_MRE_NO_ERR then
    match a.pucMasterPDUCur with
    | none => d
    | some usDataVal =>
      if usDataVal = (M.psDevData D).sMBDevCmdTable.usValue then onLineWith M D d else { d with xDataReady := false }
  else onLineWith M D d

/-- The code of the last test, where all time out. -/
def lastCode (errorCode : eMBMasterReqErrCode) : List δ → eMBMasterReqErrCode
  | [] => errorCode
  | _ :: _ => .MB_MRE_TIMEDOUT

/-- What the loop over the tables makes of the record. -/
def probed (out : Outcomes δ) (ds : List δ) (errorCode : eMBMasterReqErrCode) (d : sMBSlaveDev δ) : sMBSlaveDev δ :=
  match out.answered ds with
  | some D => taken M D (out.answer D) d
  | none => if lastCode errorCode ds = .MB_MRE_TIMEDOUT then { d with xDevOnTimeout := true } else d

theorem probed_onLine_iff (out : Outcomes δ) {ds : List δ}
    (hcheck : ∀ D ∈ ds, (M.psDevData D).sMBDevCmdTable.xCheckVal = true) (errorCode : eMBMasterReqErrCode)
    {d : sMBSlaveDev δ} (hoff : d.xOnLine = false) (D : δ) :
    (probed M out ds errorCode d).xOnLine = true ∧ (probed M out ds errorCode d).psDevCurData = some D ↔
      out.answered ds = some D ∧ ((out.answer D).errorCode ≠ .MB_MRE_NO_ERR ∨ out.Matches M D) := by
  unfold probed
  cases hans : out.answered ds with
  | none =>
    have hstays : (if lastCode errorCode ds = .MB_MRE_TIMEDOUT then { d with xDevOnTimeout := true } else d).xOnLine =
        false := by split <;> exact hoff
    simp [hstays]
  | some E =>
    have htaken : (taken M E (out.answer E) d).xOnLine = true ∧ (taken M E (out.answer E) d).psDevCurData = some D ↔
        E = D ∧ ((out.answer E).errorCode ≠ .MB_MRE_NO_ERR ∨ out.Matches M E) := by
      have hE := hcheck E (List.mem_of_find?_eq_some hans)
      unfold taken Outcomes.Matches
      by_cases herr : (out.answer E).errorCode = .MB_MRE_NO_ERR
      · cases hv : (out.answer E).pucMasterPDUCur with
        | none => simp [hE, herr, hoff]
        | some usDataVal =>
          by_cases heq : usDataVal = (M.psDevData E).sMBDevCmdTable.usValue
          · simp [hE, herr, heq, onLineWith]
          · simp [hE, herr, heq, hoff]
      · simp [herr, onLineWith]
    refine htaken.trans ⟨?_, ?_⟩
    · rintro ⟨rfl, h⟩
      exact ⟨rfl, h⟩
    · rintro ⟨hED, h⟩
      cases hED
      exact ⟨rfl, h⟩

/-- A device is on line only with a table that was answered as it should be, and it is on line with the first of those
before which no table is answered with anything but a different value. -/
structure ProbedRight (out : Outcomes δ) (ds : List δ) (d : sMBSlaveDev δ) : Prop where
  sound : ∀ D, d.xOnLine = true → d.psDevCurData = some D → D ∈ ds ∧ out.Matches M D
  found : ∀ before D after, ds = before ++ D :: after → (∀ E ∈ before, out.Differs M E ∨ out.TimedOut E) →
    out.Matches M D → d.xOnLine = true ∧ d.psDevCurData = some D

/-- The first table that does not time out is answered without an error; and no different value comes before the right
one. -/
structure ProbingOk (out : Outcomes δ) (ds : List δ) : Prop where
  noErr : ∀ D, out.answered ds = some D → (out.answer D).errorCode = .MB_MRE_NO_ERR
  first : ∀ D, out.settled M ds = some D → out.Matches M D → out.answered ds = some D

theorem probed_right_iff (out : Outcomes δ) {ds : List δ}
    (hcheck : ∀ D ∈ ds, (M.psDevData D).sMBDevCmdTable.xCheckVal = true) (errorCode : eMBMasterReqErrCode)
    {d : sMBSlaveDev δ} (hoff : d.xOnLine = false) :
    ProbedRight M out ds (probed M out ds errorCode d) ↔ ProbingOk M out ds := by
  have hon (D : δ) := probed_onLine_iff M out hcheck errorCode hoff D
  constructor
  · intro h
    constructor
    · intro D hD
      by_contra herr
      obtain ⟨ho, hc⟩ := (hon D).mpr ⟨hD, .inl herr⟩
      exact herr (h.sound D ho hc).2.1
    · intro D hD hmatch
      obtain ⟨before, after, hds, hbefore⟩ := ((out.settled_iff M hmatch).mp hD)
      exact ((hon D).mp (h.found before D after hds hbefore hmatch)).1
  · intro h
    constructor
    · intro D ho hc
      obtain ⟨hD, hgood⟩ := (hon D).mp ⟨ho, hc⟩
      exact ⟨List.mem_of_find?_eq_some hD, hgood.resolve_left (not_not.mpr (h.noErr D hD))⟩
    · intro before D after hds hbefore hmatch
      have hD := h.first D ((out.settled_iff M hmatch).mpr ⟨before, after, hds, hbefore⟩) hmatch
      exact (hon D).mpr ⟨hD, .inr hmatch⟩

variable [DecidableEq ι] (i : ι) {k : Pass ι δ} {ws : Stream' Answer} {s : Store ι δ}

theorem exec_takeOnLine (D : δ) : (takeOnLine M i D k).exec ws s = k.exec ws (setDev i (onLineWith M D) s) := by
  simp [takeOnLine]
  rfl

/-- What follows the test of a table that does not time out. -/
theorem exec_taken (D : δ) (a : Answer) :
    (if (M.psDevData D).sMBDevCmdTable.xCheckVal ∧ a.errorCode = .MB_MRE_NO_ERR then
      match a.pucMasterPDUCur with
      | none => (.done : Pass ι δ)
      | some usDataVal =>
        if usDataVal = (M.psDevData D).sMBDevCmdTable.usValue then takeOnLine M i D .done
        else assign i (fun d => { d with xDataReady := false }) .done
    else takeOnLine M i D .done).exec ws s = some (setDev i (taken M D a) s) := by
  unfold taken
  by_cases hcheck : (M.psDevData D).sMBDevCmdTable.xCheckVal ∧ a.errorCode = .MB_MRE_NO_ERR
  · simp only [if_pos hcheck]
    cases hv : a.pucMasterPDUCur with
    | none => simp [setDev]
    | some usDataVal =>
      by_cases heq : usDataVal = (M.psDevData D).sMBDevCmdTable.usValue
      · simp [heq, exec_takeOnLine]
      · simp [heq]
  · simp only [if_neg hcheck, exec_takeOnLine, exec_done]

theorem exec_testTables (out : Outcomes δ) (ds : List δ) (errorCode : eMBMasterReqErrCode) :
    (testTables M i .done ds errorCode).exec (out.requests ds ++ₛ ws) s =
      some (setDev i (probed M out ds errorCode) s) := by
  induction ds generalizing errorCode with
  | nil =>
    unfold testTables probed xMBMasterDevOfflineTmrEnable
    by_cases h : errorCode = .MB_MRE_TIMEDOUT
    · simp [h, Outcomes.answered, lastCode]
    · simp [h, Outcomes.answered, lastCode, setDev]
  | cons D ds ih =>
    rw [testTables, exec_retry]
    by_cases h1 : (out.first D).errorCode = .MB_MRE_TIMEDOUT
    · -- the first test of the table times out, so it is made again
      have hans : out.answer D = out.second D := if_neg (not_not.mpr h1)
      have hreq : out.requests (D :: ds) = out.first D :: out.second D :: out.requests ds := by
        simp [Outcomes.requests, h1]
      rw [hreq, Stream'.cons_append_stream, Stream'.cons_append_stream, Stream'.head_cons, if_neg (not_not.mpr h1),
        Stream'.tail_cons, Stream'.head_cons, Stream'.tail_cons]
      by_cases h2 : (out.second D).errorCode = .MB_MRE_TIMEDOUT
      · have hskip : probed M out (D :: ds) errorCode = probed M out ds .MB_MRE_TIMEDOUT := by
          have hfind : out.answered (D :: ds) = out.answered ds := by
            simp [Outcomes.answered, Outcomes.TimedOut, hans, h2]
          have hcode : lastCode .MB_MRE_TIMEDOUT ds = .MB_MRE_TIMEDOUT := by cases ds <;> rfl
          funext d
          unfold probed
          rw [hfind, hcode]
          rfl
        rw [if_neg (not_not.mpr h2), hskip, h2]
        exact ih _
      · have htake : probed M out (D :: ds) errorCode = taken M D (out.second D) := by
          have hfind : out.answered (D :: ds) = some D := by
            simp [Outcomes.answered, Outcomes.TimedOut, hans, h2]
          funext d
          unfold probed
          rw [hfind, ← hans]
        rw [if_pos h2, htake]
        exact exec_taken M i D _
    · -- the first test decides
      have hans : out.answer D = out.first D := if_pos h1
      have hreq : out.requests (D :: ds) = out.first D :: out.requests ds := by
        simp [Outcomes.requests, h1]
      have htake : probed M out (D :: ds) errorCode = taken M D (out.first D) := by
        have hfind : out.answered (D :: ds) = some D := by
          simp [Outcomes.answered, Outcomes.TimedOut, hans, h1]
        funext d
        unfold probed
        rw [hfind, ← hans]
      rw [hreq, Stream'.cons_append_stream, Stream'.head_cons, if_pos h1, Stream'.tail_cons, if_pos h1, htake]
      exact exec_taken M i D _

theorem exec_vMBDevTest (out : Outcomes δ) (hdue : (s i).xDevOnTimeout = false) (hrange : inRange M i = true) :
    (vMBDevTest M i .done).exec (out.requests (M.psDevDataInfo i) ++ₛ ws) s =
      some (setDev i (probed M out (M.psDevDataInfo i) .MB_MRE_NO_ERR ∘
        fun d => { d with xOnLine := false, xDataReady := false, xStateTestRequest := false }) s) := by
  unfold vMBDevTest
  rw [exec_test, hdue, if_neg Bool.false_ne_true, if_pos hrange, exec_assign, exec_assign, exec_assign,
    exec_testTables, setDev_setDev, setDev_setDev, setDev_setDev]
  rfl

/-- A device of two tables, whose identities are 5 and 6 in the register 0. -/
def twoTables : sMBMasterDevsInfo Unit Bool where
  psMBSlaveDevsList := [()]
  ucSlaveDevMinAddr := 1
  ucSlaveDevMaxAddr := 247
  ucDevAddr _ := 1
  psDevDataInfo _ := [false, true]
  psDevData D := ⟨7, 0, bif D then 6 else 5, .READ_REG_IN, true⟩

/-- Its record when the tasks are started. -/
def untested : Store Unit Bool := fun _ => ⟨0, 0, false, false, false, false, false, none⟩

/-- Every request is answered in the same way. -/
def always (a : Answer) : Outcomes Bool := ⟨fun _ => a, fun _ => a⟩

end Probe

end GreeIntense.Master.DevScan

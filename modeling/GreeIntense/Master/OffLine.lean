import GreeIntense.Lib.Run
import GreeIntense.Master.DevTests

/-!
# When a device is taken off line (`mbtest_m.c`, `mbscan_m.c`)

`vMBDevCurStateTest` counts in `ucOfflineTimes` how often the test of a device on line has timed out.  The count is
compared with that of the timeouts since the device last answered a test (`Tracked.lost`), along every run of the
visits of the read scan to the device, with any answers and any changes by the write scan and the timer in between.

* `Sound.step`: a step of the device, and exactly when it does what it should (`stepRight_iff`);
* `offLine_iff`: the device is taken off line at the third such timeout, and the counts agree, exactly where neither an
  answer that is not the expected one nor an error without an answer comes while the count is running.
-/

namespace GreeIntense.Master.DevScan

open Lib.Tasks Lib.Run

variable {ι δ : Type*}

/-! ### What a visit does -/

/-- What the state test makes of the record, by the last answer to its command. -/
def tested (psMBCmd : sMBTestDevCmd) (a : Answer) (d : sMBSlaveDev δ) : sMBSlaveDev δ :=
  if a.errorCode ≠ .MB_MRE_TIMEDOUT then
    if psMBCmd.xCheckVal ∧ a.errorCode = .MB_MRE_NO_ERR then
      match a.pucMasterPDUCur with
      | none => d
      | some usDataVal =>
        if usDataVal = psMBCmd.usValue then
          { d with xOnLine := true, xDataReady := true, xStateTestRequest := false, ucOfflineTimes := 0 }
        else { d with xDataReady := false }
    else { d with xOnLine := true, xDataReady := true, ucOfflineTimes := 0 }
  else if d.ucOfflineTimes = MB_TEST_OFFLINE_TIMES then
    { d with xDataReady := false, xOnLine := false, xSynchronized := false, ucOfflineTimes := 0 }
  else { d with xDataReady := false, ucOfflineTimes := d.ucOfflineTimes + 1, xDevOnTimeout := true }

/-- What the count of a record rests on; the other tasks do not change it. -/
abbrev counting (d : sMBSlaveDev δ) : Bool × UCHAR × Option δ := (d.xOnLine, d.ucOfflineTimes, d.psDevCurData)

def outcome (ws : Stream' Answer) : Answer := lastAnswer ws.head ws.tail.head

section Visit

variable (M : sMBMasterDevsInfo ι δ) (i : ι)

/-- The device is tested in a visit of the read scan. -/
def Tested (d : sMBSlaveDev δ) : Prop :=
  d.xOnLine = true ∧ inRange M i = true ∧ d.xStateTestRequest = true ∧ d.xDevOnTimeout = false

instance (d : sMBSlaveDev δ) : Decidable (Tested M i d) := inferInstanceAs (Decidable (_ ∧ _))

variable [DecidableEq ι] {k : Pass ι δ} {ws : Stream' Answer} {s : Store ι δ}

theorem exec_curStateTested (psMBCmd : sMBTestDevCmd) (a : Answer) :
    (curStateTested i psMBCmd k a).exec ws s = k.exec ws (setDev i (tested psMBCmd a) s) := by
  unfold curStateTested tested
  by_cases hlost : a.errorCode = .MB_MRE_TIMEDOUT
  · simp only [hlost, ne_eq, not_true_eq_false, if_false]
    by_cases htimes : (s i).ucOfflineTimes = 2#8
    · simp [curStateTimedOut, takeOffLine, htimes, setDev]
    · simp [curStateTimedOut, xMBMasterDevOfflineTmrEnable, htimes, setDev, Prog.exec, assign]
  · simp only [hlost, ne_eq, not_false_eq_true, if_true]
    by_cases hcheck : psMBCmd.xCheckVal ∧ a.errorCode = .MB_MRE_NO_ERR
    · simp only [if_pos hcheck]
      cases hv : a.pucMasterPDUCur with
      | none => simp [setDev]
      | some usDataVal =>
        by_cases heq : usDataVal = psMBCmd.usValue
        · simp [heq, setDev]
        · simp [heq]
    · simp [hcheck, setDev]

theorem counting_setDev {f : sMBSlaveDev δ → sMBSlaveDev δ} (hf : ∀ d, counting (f d) = counting d) (s : Store ι δ) :
    counting (setDev i f s i) = counting (s i) := by
  rw [setDev_self, hf]

theorem scanTables_keeps (hk : k.Keeps fun s => counting (s i)) (fs : List ScanFunc) :
    (scanTables i k fs).Keeps fun s => counting (s i) := by
  induction fs with
  | nil => exact hk
  | cons f fs ih =>
    intro a
    show Prog.Keeps _ (if a.errorCode = .MB_MRE_TIMEDOUT then _ else _)
    split
    · exact ⟨counting_setDev i fun _ => rfl, counting_setDev i fun _ => rfl, hk⟩
    · exact ih

omit [DecidableEq ι] in
theorem test_keeps {β : Type*} {view : Store ι δ → β} {b : sMBSlaveDev δ → Bool} {p q : Pass ι δ} (hp : p.Keeps view)
    (hq : q.Keeps view) : (test i b p q).Keeps view := by
  intro s
  show Prog.Keeps view (if b (s i) then p else q)
  split
  · exact hp
  · exact hq

theorem readOnLine_keeps : (readOnLine i (.done : Pass ι δ)).Keeps fun s => counting (s i) := by
  have hdone : (.done : Pass ι δ).Keeps fun s => counting (s i) := trivial
  have hsync : (assign i (fun d => { d with xSynchronized := true }) (.done : Pass ι δ)).Keeps
      fun s => counting (s i) :=
    ⟨counting_setDev i fun _ => rfl, hdone⟩
  refine test_keeps i (test_keeps i (test_keeps i hdone (test_keeps i (test_keeps i (test_keeps i ?_ ?_) hdone) hdone))
    hdone) hdone
  · exact scanTables_keeps i hdone _
  · exact scanTables_keeps i hsync _

theorem visit_tested {D : δ} (ht : Tested M i (s i)) (hD : (s i).psDevCurData = some D) (ws : Stream' Answer) :
    ∃ s', (testAndRead M i .done).exec ws s = some s' ∧
      counting (s' i) = counting (tested (M.psDevData D).sMBDevCmdTable (outcome ws) (s i)) := by
  obtain ⟨hon, hrange, hreq, hdue⟩ := ht
  have hexec : (testAndRead M i .done).exec ws s =
      (retry M i (M.psDevData D).sMBDevCmdTable
        (curStateTested i (M.psDevData D).sMBDevCmdTable (readOnLine i .done)) MB_TEST_RETRY_TIMES
          ⟨.MB_MRE_EILLSTATE, none⟩).exec ws s := by
    unfold testAndRead vMBDevCurStateTest
    rw [exec_test, if_pos hon, if_pos hrange, exec_test, if_pos hreq, exec_test, hdue, if_neg Bool.false_ne_true,
      if_pos hrange, Prog.exec, hD]
  have hread (ws : Stream' Answer) (s : Store ι δ) := (readOnLine_keeps i).exec ws s
  rw [hexec, exec_retry]
  unfold outcome lastAnswer
  by_cases hfirst : ws.head.errorCode ≠ .MB_MRE_TIMEDOUT
  · simp only [if_pos hfirst, exec_curStateTested]
    obtain ⟨s', hs, hv⟩ := hread ws.tail (setDev i (tested (M.psDevData D).sMBDevCmdTable ws.head) s)
    exact ⟨s', hs, hv.trans (by rw [setDev_self])⟩
  · simp only [if_neg hfirst, exec_curStateTested]
    obtain ⟨s', hs, hv⟩ := hread ws.tail.tail (setDev i (tested (M.psDevData D).sMBDevCmdTable ws.tail.head) s)
    exact ⟨s', hs, hv.trans (by rw [setDev_self])⟩

theorem visit_untested (ht : ¬Tested M i (s i)) (ws : Stream' Answer) :
    ∃ s', (testAndRead M i .done).exec ws s = some s' ∧ counting (s' i) = counting (s i) := by
  have hread := (readOnLine_keeps i).exec ws s
  unfold testAndRead vMBDevCurStateTest
  rw [exec_test]
  by_cases hon : (s i).xOnLine = true
  · by_cases hrange : inRange M i = true
    · rw [if_pos hon, if_pos hrange, exec_test]
      by_cases hreq : (s i).xStateTestRequest = true
      · have hdue : (s i).xDevOnTimeout = true := by
          by_contra h
          exact ht ⟨hon, hrange, hreq, Bool.not_eq_true _ ▸ h⟩
        rw [if_pos hreq, exec_test, if_pos hdue]
        exact hread
      · rw [if_neg hreq]
        exact hread
    · rw [if_pos hon, if_neg hrange]
      exact ⟨s, rfl, rfl⟩
  · rw [if_neg hon]
    exact ⟨s, rfl, rfl⟩

/-! ### What a test of a device off line does -/

/-- The device has a data table if it is on line, and no test of it has timed out. -/
def Fresh (d : sMBSlaveDev δ) : Prop := d.ucOfflineTimes = 0 ∧ (d.xOnLine = true → d.psDevCurData.isSome)

omit [DecidableEq ι] in
theorem taken_fresh (D : δ) (a : Answer) {d : sMBSlaveDev δ} (h : Fresh d) : Fresh (taken M D a d) := by
  have hon : Fresh (onLineWith M D d) := ⟨rfl, fun _ => rfl⟩
  unfold taken
  split
  · split
    · exact h
    · split
      · exact hon
      · exact h
  · exact hon

theorem setDev_fresh {f : sMBSlaveDev δ → sMBSlaveDev δ} (hf : ∀ d, Fresh d → Fresh (f d)) (h : Fresh (s i)) :
    Fresh (setDev i f s i) := by
  rw [setDev_self]
  exact hf _ h

theorem testTables_fresh (ds : List δ) (errorCode : eMBMasterReqErrCode) (ws : Stream' Answer) (h : Fresh (s i)) :
    ∃ s', (testTables M i .done ds errorCode).exec ws s = some s' ∧ Fresh (s' i) := by
  induction ds generalizing errorCode ws with
  | nil =>
    unfold testTables xMBMasterDevOfflineTmrEnable
    split
    · exact ⟨_, rfl, setDev_fresh i (fun _ h => h) h⟩
    · exact ⟨s, rfl, h⟩
  | cons D ds ih =>
    have htaken (a : Answer) : Fresh (setDev i (taken M D a) s i) := setDev_fresh i (fun _ => taken_fresh M D a) h
    rw [testTables, exec_retry]
    by_cases hfirst : ws.head.errorCode ≠ .MB_MRE_TIMEDOUT
    · rw [if_pos hfirst, if_pos hfirst]
      exact ⟨_, exec_taken M i D _, htaken _⟩
    · rw [if_neg hfirst]
      by_cases hsecond : ws.tail.head.errorCode ≠ .MB_MRE_TIMEDOUT
      · rw [if_pos hsecond]
        exact ⟨_, exec_taken M i D _, htaken _⟩
      · rw [if_neg hsecond]
        exact ih _ _

theorem probe_onLine (hon : (s i).xOnLine = true) (ws : Stream' Answer) :
    (testOffLine M i .done).exec ws s = some s := by
  rw [testOffLine, exec_test, if_pos hon, exec_done]

theorem probe_offLine (hoff : (s i).xOnLine = false) (h : Fresh (s i)) (ws : Stream' Answer) :
    ∃ s', (testOffLine M i .done).exec ws s = some s' ∧ Fresh (s' i) := by
  rw [testOffLine, exec_test, hoff, if_neg Bool.false_ne_true]
  unfold vMBDevTest
  rw [exec_test]
  split
  · exact ⟨s, rfl, h⟩
  · split
    · rw [exec_assign, exec_assign, exec_assign, setDev_setDev, setDev_setDev]
      exact testTables_fresh M i _ _ ws (setDev_fresh i (fun _ h => ⟨h.1, by simp⟩) h)
    · exact ⟨s, rfl, h⟩

end Visit

/-! ### The count along a run -/

section Runs

variable [DecidableEq ι] (M : sMBMasterDevsInfo ι δ) (i : ι)

/-- What happens to a device: the first or the second loop of the read scan comes to it, with the answers to the
requests that are made; the write scan and the timer change what they may of its record.  A visit reads each field
that they change once at most, so their changes may as well come before or after it. -/
inductive DevEvent
  | probe (ws : Stream' Answer)
  | visit (ws : Stream' Answer)
  | others (xSynchronized xStateTestRequest xDevOnTimeout : Bool)

/-- The device answered, be it with an exception. -/
def Answered (a : Answer) : Prop := a.errorCode = .MB_MRE_NO_ERR ∨ a.errorCode = .MB_MRE_EXE_FUN

instance (a : Answer) : Decidable (Answered a) := inferInstanceAs (Decidable (_ ∨ _))

/-- The records, and how often the state test of the device has timed out since it last answered one or came on
line. -/
structure Tracked (ι δ : Type*) where
  store : Store ι δ
  lost : ℕ

/-- That number after a state test: the third timeout takes the device off line. -/
def lostAfter (lost : ℕ) (a : Answer) : ℕ :=
  if a.errorCode = .MB_MRE_TIMEDOUT then if lost = 2 then 0 else lost + 1
  else if Answered a then 0
  else lost

def devStep (x : Tracked ι δ) : DevEvent → Option (Tracked ι δ)
  | .probe ws => ((testOffLine M i .done).exec ws x.store).map fun s => ⟨s, x.lost⟩
  | .visit ws => ((testAndRead M i .done).exec ws x.store).map fun s =>
    ⟨s, if Tested M i (x.store i) then lostAfter x.lost (outcome ws) else x.lost⟩
  | .others xSynchronized xStateTestRequest xDevOnTimeout =>
    some ⟨setDev i (fun d => { d with xSynchronized, xStateTestRequest, xDevOnTimeout }) x.store, x.lost⟩

/-- The event is the third state test that times out. -/
def ThirdLost (x : Tracked ι δ) : DevEvent → Prop
  | .visit ws => Tested M i (x.store i) ∧ (outcome ws).errorCode = .MB_MRE_TIMEDOUT ∧ x.lost = 2
  | _ => False

/-- A device on line goes off line exactly at the third timeout, and its count is that of the timeouts. -/
structure DevRight (x : Tracked ι δ) (e : DevEvent) (x' : Tracked ι δ) : Prop where
  offLine : (x.store i).xOnLine = true → ((x'.store i).xOnLine = false ↔ ThirdLost M i x e)
  count : (x'.store i).ucOfflineTimes.toNat = x'.lost

/-- The step is carried out, and right. -/
def DevStepRight (x : Tracked ι δ) (e : DevEvent) : Prop := ∃ x', devStep M i x e = some x' ∧ DevRight M i x e x'

/-- The answer is without an error and not the one that is expected. -/
def WrongAnswer (d : sMBSlaveDev δ) (a : Answer) : Prop :=
  a.errorCode = .MB_MRE_NO_ERR ∧ ∃ D, d.psDevCurData = some D ∧ (M.psDevData D).sMBDevCmdTable.xCheckVal = true ∧
    a.pucMasterPDUCur ≠ some (M.psDevData D).sMBDevCmdTable.usValue

/-- An error that is neither a timeout nor an exception of the device. -/
def NoAnswer (a : Answer) : Prop := a.errorCode ≠ .MB_MRE_TIMEDOUT ∧ ¬Answered a

/-- While the count is running, a state test ends neither with another answer than the expected one nor without one in
an error. -/
def CountKept (x : Tracked ι δ) : DevEvent → Prop
  | .visit ws => Tested M i (x.store i) → WrongAnswer M (x.store i) (outcome ws) ∨ NoAnswer (outcome ws) →
    (x.store i).ucOfflineTimes = 0
  | _ => True

instance (x : Tracked ι δ) : ∀ e, Decidable (ThirdLost M i x e)
  | .visit _ => inferInstanceAs (Decidable (_ ∧ _))
  | .probe _ | .others .. => inferInstanceAs (Decidable False)

instance (d : sMBSlaveDev δ) (a : Answer) : Decidable (WrongAnswer M d a) :=
  decidable_of_iff (a.errorCode = .MB_MRE_NO_ERR ∧ d.psDevCurData.any (fun D =>
    (M.psDevData D).sMBDevCmdTable.xCheckVal ∧
      a.pucMasterPDUCur ≠ some (M.psDevData D).sMBDevCmdTable.usValue) = true) (by
      simp [WrongAnswer, Option.any_eq_true])

instance (a : Answer) : Decidable (NoAnswer a) := inferInstanceAs (Decidable (_ ∧ _))

instance (x : Tracked ι δ) : ∀ e, Decidable (CountKept M i x e)
  | .visit _ => inferInstanceAs (Decidable (_ → _ → _))
  | .probe _ | .others .. => inferInstanceAs (Decidable True)

/-- The count of the record is that of the timeouts, and it is running only on line. -/
structure Sound (x : Tracked ι δ) : Prop where
  count : (x.store i).ucOfflineTimes.toNat = x.lost
  le : x.lost ≤ 2
  table : (x.store i).xOnLine = true → (x.store i).psDevCurData.isSome
  offLine : (x.store i).xOnLine = false → x.lost = 0

section Steps

variable {M i} {x : Tracked ι δ} {d : sMBSlaveDev δ} {lost : ℕ}

omit [DecidableEq ι] in
theorem lostAfter_le (h : lost ≤ 2) (a : Answer) : lostAfter lost a ≤ 2 := by
  unfold lostAfter
  split_ifs <;> omega

omit [DecidableEq ι] in
theorem tested_table (psMBCmd : sMBTestDevCmd) (a : Answer) (d : sMBSlaveDev δ) :
    (tested psMBCmd a d).psDevCurData = d.psDevCurData := by
  unfold tested
  repeat' split
  all_goals rfl

omit [DecidableEq ι] in
theorem times_eq_two (hcount : d.ucOfflineTimes.toNat = lost) :
    d.ucOfflineTimes = MB_TEST_OFFLINE_TIMES ↔ lost = 2 := by
  rw [← hcount]
  exact BitVec.toNat_inj.symm

omit [DecidableEq ι] in
/-- A state test takes the device off line only when it times out and the count is full. -/
theorem tested_offLine_iff (psMBCmd : sMBTestDevCmd) (a : Answer) (hon : d.xOnLine = true)
    (hcount : d.ucOfflineTimes.toNat = lost) :
    (tested psMBCmd a d).xOnLine = false ↔ a.errorCode = .MB_MRE_TIMEDOUT ∧ lost = 2 := by
  unfold tested
  by_cases hlost : a.errorCode = .MB_MRE_TIMEDOUT
  · by_cases htimes : d.ucOfflineTimes = 2#8
    · simp [hlost, htimes, ← times_eq_two hcount]
    · simp [hlost, htimes, hon, ← times_eq_two hcount]
  · simp only [hlost, ne_eq, not_false_eq_true, if_true, false_and, iff_false]
    repeat' split
    all_goals simp [hon]

omit [DecidableEq ι] in
/-- **The count after a state test** is that of the timeouts, but where it should have been started again. -/
theorem tested_count_iff {D : δ} (hD : d.psDevCurData = some D) (a : Answer) (hcount : d.ucOfflineTimes.toNat = lost)
    (hle : lost ≤ 2) :
    (tested (M.psDevData D).sMBDevCmdTable a d).ucOfflineTimes.toNat = lostAfter lost a ↔
      (WrongAnswer M d a ∨ NoAnswer a → d.ucOfflineTimes = 0) := by
  have hzero : d.ucOfflineTimes = 0 ↔ lost = 0 := by
    rw [← hcount]
    exact BitVec.toNat_inj.symm
  unfold tested lostAfter
  by_cases hlost : a.errorCode = .MB_MRE_TIMEDOUT
  · -- a timeout is counted, and is neither a wrong answer nor none at all
    have hexcused : ¬(WrongAnswer M d a ∨ NoAnswer a) := by simp [WrongAnswer, NoAnswer, hlost]
    simp only [hlost, ne_eq, not_true_eq_false, if_false, if_true, hexcused, false_imp_iff, iff_true]
    by_cases htimes : d.ucOfflineTimes = MB_TEST_OFFLINE_TIMES
    · simp [htimes, (times_eq_two hcount).mp htimes]
    · have hne : lost ≠ 2 := fun h => htimes ((times_eq_two hcount).mpr h)
      simp only [if_neg htimes, if_neg hne]
      rw [Lib.Memory.toNat_add_one (y := 255) (show d.ucOfflineTimes.toNat < 255 by omega), hcount]
  · simp only [hlost, ne_eq, not_false_eq_true, if_true, if_false]
    by_cases hans : Answered a
    · have hno : ¬NoAnswer a := fun h => h.2 hans
      by_cases hwrong : WrongAnswer M d a
      · obtain ⟨herr, E, hE, hcheck, hne⟩ := id hwrong
        obtain rfl : D = E := Option.some.inj (hD.symm.trans hE)
        -- an answer with another value leaves the count
        have hstays : (match a.pucMasterPDUCur with
            | none => d
            | some usDataVal =>
              if usDataVal = (M.psDevData D).sMBDevCmdTable.usValue then
                { d with xOnLine := true, xDataReady := true, xStateTestRequest := false, ucOfflineTimes := 0 }
              else { d with xDataReady := false }).ucOfflineTimes = d.ucOfflineTimes := by
          cases hv : a.pucMasterPDUCur with
          | none => rfl
          | some usDataVal =>
            have hne' : usDataVal ≠ (M.psDevData D).sMBDevCmdTable.usValue := fun h => hne (hv.trans (congrArg some h))
            simp [hne']
        rw [if_pos ⟨hcheck, herr⟩, hstays, hcount, if_pos hans, ← hzero]
        exact ⟨fun h _ => h, fun h => h (.inl hwrong)⟩
      · simp only [hans, if_true, hwrong, hno, or_self, false_imp_iff, iff_true]
        split
        · rename_i hcheck
          have hv : a.pucMasterPDUCur = some (M.psDevData D).sMBDevCmdTable.usValue := by
            by_contra hne
            exact hwrong ⟨hcheck.2, D, hD, hcheck.1, hne⟩
          simp [hv]
        · rfl
    · have hcheck : ¬((M.psDevData D).sMBDevCmdTable.xCheckVal = true ∧ a.errorCode = .MB_MRE_NO_ERR) :=
        fun h => hans (.inl h.2)
      -- another error leaves the count as well
      rw [if_neg hcheck, if_neg hans, hzero]
      exact ⟨fun h _ => h.symm, fun h => (h (.inr ⟨hlost, hans⟩)).symm⟩

omit [DecidableEq ι] in
theorem Sound.kept (h : Sound i x) {e : DevEvent} {s : Store ι δ} (hs : counting (s i) = counting (x.store i))
    (he : ¬ThirdLost M i x e) : DevRight M i x e ⟨s, x.lost⟩ ∧ Sound i ⟨s, x.lost⟩ := by
  obtain ⟨hon, htimes, htable⟩ : (s i).xOnLine = (x.store i).xOnLine ∧
      (s i).ucOfflineTimes = (x.store i).ucOfflineTimes ∧ (s i).psDevCurData = (x.store i).psDevCurData := by
    simpa [counting] using hs
  have hcount : (s i).ucOfflineTimes.toNat = x.lost := by rw [htimes, h.count]
  refine ⟨⟨fun ho => ?_, hcount⟩, ⟨hcount, h.le, ?_, ?_⟩⟩
  · simp [hon, ho, he]
  · simpa only [hon, htable] using h.table
  · simpa only [hon] using h.offLine

/-- **A step of the device**: it is carried out, it is right exactly where the count is kept, and then the counts
still agree. -/
theorem Sound.step (h : Sound i x) (e : DevEvent) :
    ∃ x', devStep M i x e = some x' ∧ (DevRight M i x e x' ↔ CountKept M i x e) ∧
      (DevRight M i x e x' → Sound i x') := by
  have kept {s : Store ι δ} (hs : counting (s i) = counting (x.store i)) (he : ¬ThirdLost M i x e)
      (hk : CountKept M i x e) :
      (DevRight M i x e ⟨s, x.lost⟩ ↔ CountKept M i x e) ∧ (DevRight M i x e ⟨s, x.lost⟩ → Sound i ⟨s, x.lost⟩) :=
    ⟨iff_of_true (h.kept hs he).1 hk, fun _ => (h.kept hs he).2⟩
  cases e with
  | others xSynchronized xStateTestRequest xDevOnTimeout =>
    have hs : counting (setDev i (fun d => { d with xSynchronized, xStateTestRequest, xDevOnTimeout }) x.store i) =
        counting (x.store i) := by rw [setDev_self]
    exact ⟨_, rfl, kept hs id trivial⟩
  | probe ws =>
    cases hon : (x.store i).xOnLine with
    | true => exact ⟨x, by simp [devStep, probe_onLine M i hon], kept rfl id trivial⟩
    | false =>
      -- it is probed, and if it is found its count starts at 0
      have hlost := h.offLine hon
      have hzero : (x.store i).ucOfflineTimes = 0 := BitVec.toNat_inj.mp (h.count.trans hlost)
      obtain ⟨s, hs, hfresh⟩ := probe_offLine M i hon ⟨hzero, by simp [hon]⟩ ws
      have hcount : (s i).ucOfflineTimes.toNat = x.lost := by rw [hfresh.1, hlost]; rfl
      have hright : DevRight M i x (.probe ws) ⟨s, x.lost⟩ := ⟨by simp [hon], hcount⟩
      exact ⟨⟨s, x.lost⟩, by simp [devStep, hs], iff_of_true hright trivial,
        fun _ => ⟨hcount, h.le, hfresh.2, fun _ => hlost⟩⟩
  | visit ws =>
    by_cases ht : Tested M i (x.store i)
    · obtain ⟨D, hD⟩ := Option.isSome_iff_exists.mp (h.table ht.1)
      obtain ⟨s, hs, hv⟩ := visit_tested M i ht hD ws
      obtain ⟨hon, htimes, htable⟩ := Prod.mk.inj hv |>.imp id Prod.mk.inj
      have hoff := tested_offLine_iff (M.psDevData D).sMBDevCmdTable (outcome ws) ht.1 h.count
      -- it goes off line just if this is the third loss
      have hthird : (s i).xOnLine = false ↔ ThirdLost M i x (.visit ws) := by
        rw [hon, hoff]
        exact ⟨fun hl => ⟨ht, hl⟩, fun hl => hl.2⟩
      have hcount := tested_count_iff (M := M) hD (outcome ws) h.count h.le
      refine ⟨⟨s, lostAfter x.lost (outcome ws)⟩, by simp [devStep, hs, ht], ?_, ?_⟩
      · refine Iff.trans ⟨fun hr => ?_, fun hc => ?_⟩ (hcount.trans ⟨fun hc _ => hc, fun hc => hc ht⟩)
        · rw [← htimes]
          exact hr.count
        · exact ⟨fun _ => hthird, htimes ▸ hc⟩
      · intro hr
        refine ⟨hr.count, lostAfter_le h.le _, fun _ => ?_, fun ho => ?_⟩
        · rw [htable, tested_table, hD]
          rfl
        · obtain ⟨-, hlost, htwo⟩ := hthird.mp ho
          simp [lostAfter, hlost, htwo]
    · obtain ⟨s, hs, hv⟩ := visit_untested M i ht ws
      exact ⟨⟨s, x.lost⟩, by simp [devStep, hs, ht], kept hv (fun hl => ht hl.1) fun hl => absurd hl ht⟩

end Steps

/-- **A device goes off line at the third lost test exactly where** the count is kept: from a start off line, along
every run. -/
theorem offLine_iff {s : Store ι δ} (h0 : OffLine M i (s i)) (es : List DevEvent) :
    Meets (devStep M i) (DevStepRight M i) ⟨s, 0⟩ es ↔ Meets (devStep M i) (CountKept M i) ⟨s, 0⟩ es := by
  refine meets_congr (I := Sound i) (fun x e x' h hr hs => ?_) (fun x e h => ?_) ?_
  · obtain ⟨x₁, hx₁, hright⟩ := hr
    obtain ⟨x₂, hx₂, -, hsound⟩ := h.step (M := M) e
    obtain rfl : x₁ = x' := Option.some.inj (hx₁.symm.trans hs)
    obtain rfl : x₁ = x₂ := Option.some.inj (hx₁.symm.trans hx₂)
    exact hsound hright
  · obtain ⟨x₂, hx₂, hiff, -⟩ := h.step (M := M) e
    refine Iff.trans ⟨?_, fun hr => ⟨x₂, hx₂, hr⟩⟩ hiff
    rintro ⟨x₁, hx₁, hright⟩
    obtain rfl : x₁ = x₂ := Option.some.inj (hx₁.symm.trans hx₂)
    exact hright
  · exact ⟨by simp [h0.offlineTimes], Nat.zero_le 2, by simp [h0.onLine], fun _ => rfl⟩

end Runs

theorem untested_offLine : OffLine twoTables () (untested ()) :=
  ⟨fun _ h => absurd h (by simp [untested]), rfl, rfl, rfl, rfl⟩

/-- The device is visited with a request for a test, after its delay. -/
def visited (a : Answer) : List DevEvent := [.others false true false, .visit (Stream'.const a)]

/-- The device of identity 5 is found. -/
def found : List DevEvent := [.probe (Stream'.const ⟨.MB_MRE_NO_ERR, some 5⟩)]

def silent (n : ℕ) : List DevEvent := (List.replicate n (visited ⟨.MB_MRE_TIMEDOUT, none⟩)).flatten

theorem offLine_third :
    Meets (devStep twoTables ()) (DevStepRight twoTables ()) ⟨untested, 0⟩
      (found ++ silent 2 ++ visited ⟨.MB_MRE_EXE_FUN, none⟩ ++ silent 3) :=
  (offLine_iff twoTables () untested_offLine _).mpr (by decide)

/-- Two timeouts, an answer that is not the expected one, and the next timeout takes the device off line. -/
theorem offLine_early :
    ¬Meets (devStep twoTables ())
      (fun x e => ∀ x' ∈ devStep twoTables () x e, (x.store ()).xOnLine = true →
        ((x'.store ()).xOnLine = false ↔ ThirdLost twoTables () x e))
      ⟨untested, 0⟩ (found ++ silent 2 ++ visited ⟨.MB_MRE_NO_ERR, some 9⟩ ++ silent 1) := by
  decide

end GreeIntense.Master.DevScan

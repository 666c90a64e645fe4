import GreeIntense.Master.DevScan

/-!
# Consistency of the device records under the scan tasks

The read scan alone takes devices on line and off line; the write scan only asks for a test and for a new
synchronisation, and the callback of a timer only ends a delay.  So the read scan may rely on most of a record
(`Kept`), and the write scan on the current data table of a device staying one of its tables (`TableKept`).

`DevOk` is what holds of a record.  Between the assignments that take a device on line the clause about its data
table and protocol may fail for this one device, and between those that take it off line the clause about its
synchronisation.

* `readTask_ok`, `writeTask_ok`: a pass of either task keeps its contract;
* `contracts_run`: so the contracts hold in every interleaving;
* `consistent_at_calls`: no clause fails while the read scan is waiting for an answer or between its passes;
* `records_consistent`: the records in every state, for every device.
-/

namespace GreeIntense.Master.DevScan

open Lib.Tasks

variable {ι δ : Type*} (M : sMBMasterDevsInfo ι δ)

/-! ### The invariant -/

/-- The current data table of the device `i`, if there is one, is one of its tables. -/
def TableOk (i : ι) (d : sMBSlaveDev δ) : Prop := ∀ t, d.psDevCurData = some t → t ∈ M.psDevDataInfo i

/-- A record is in order; `on` and `off` say that the device is being taken on line and off line. -/
structure DevOk (i : ι) (on off : Prop) (d : sMBSlaveDev δ) : Prop where
  table : TableOk M i d
  ready : d.xDataReady = true → d.xOnLine = true
  offlineTimes : d.ucOfflineTimes ≤ MB_TEST_OFFLINE_TIMES
  onLine : ¬on → d.xOnLine = true →
    ∃ t, d.psDevCurData = some t ∧ d.usProtocolID = (M.psDevData t).usProtocolID
  sync : ¬off → d.xSynchronized = true → d.xOnLine = true

/-- The record of `i` is in order as far as the change `mid` lets it. -/
abbrev Judged (mid : Option (Change ι)) (i : ι) : sMBSlaveDev δ → Prop :=
  DevOk M i (mid = some (.onLine i)) (mid = some (.offLine i))

def Consistent (mid : Option (Change ι)) (s : Store ι δ) : Prop := ∀ i, Judged M mid i (s i)

/-- The device is off line and no test of it has failed; a data table that is current is one of its own. -/
structure OffLine (i : ι) (d : sMBSlaveDev δ) : Prop where
  table : TableOk M i d
  onLine : d.xOnLine = false
  ready : d.xDataReady = false
  sync : d.xSynchronized = false
  offlineTimes : d.ucOfflineTimes = 0

variable {M} in
theorem OffLine.ok {i : ι} {d : sMBSlaveDev δ} (h : OffLine M i d) (on off : Prop) : DevOk M i on off d where
  table := h.table
  ready := by simp [h.ready]
  offlineTimes := by simp [h.offlineTimes]
  onLine := by simp [h.onLine]
  sync := by simp [h.sync]

/-! ### What the tasks may rely on -/

/-- What the write scan and the timers leave of a record. -/
structure Kept (d d' : sMBSlaveDev δ) : Prop where
  onLine : d'.xOnLine = d.xOnLine
  ready : d'.xDataReady = d.xDataReady
  table : d'.psDevCurData = d.psDevCurData
  protocol : d'.usProtocolID = d.usProtocolID
  offlineTimes : d'.ucOfflineTimes = d.ucOfflineTimes
  sync : d'.xSynchronized = true → d.xSynchronized = true

/-- What the read scan and the timers leave of a record. -/
structure TableKept (i : ι) (d d' : sMBSlaveDev δ) : Prop where
  isSome : d.psDevCurData.isSome → d'.psDevCurData.isSome
  table : TableOk M i d → TableOk M i d'

/-- A scan function works on one of the tables of its device. -/
def ScanEntry (s : Store ι δ) : Call ι → Prop
  | .scan _ i => ∃ t ∈ M.psDevDataInfo i, (s i).psDevCurData = some t
  | _ => True

def readContract : Contract (Store ι δ) (Change ι) (Call ι) where
  inv := Consistent M
  entry c s := ScanEntry M s c
  rely s s' := ∀ i, Kept (s i) (s' i)
  guar s s' := ∀ i, TableKept M i (s i) (s' i)
  rely_refl _ _ := ⟨rfl, rfl, rfl, rfl, rfl, id⟩
  rely_trans h h' i :=
    ⟨(h' i).onLine.trans (h i).onLine, (h' i).ready.trans (h i).ready, (h' i).table.trans (h i).table,
      (h' i).protocol.trans (h i).protocol, (h' i).offlineTimes.trans (h i).offlineTimes, (h i).sync ∘ (h' i).sync⟩
  guar_refl _ _ := ⟨id, id⟩

def writeContract : Contract (Store ι δ) (Change ι) (Call ι) where
  inv _ s := ∀ i, TableOk M i (s i)
  entry c s := ScanEntry M s c
  rely s s' := ∀ i, TableKept M i (s i) (s' i)
  guar s s' := ∀ i, Kept (s i) (s' i)
  rely_refl _ _ := ⟨id, id⟩
  rely_trans h h' i := ⟨(h' i).isSome ∘ (h i).isSome, (h' i).table ∘ (h i).table⟩
  guar_refl _ _ := ⟨rfl, rfl, rfl, rfl, rfl, id⟩

def contract : ScanTask → Contract (Store ι δ) (Change ι) (Call ι)
  | .scanRead => readContract M
  | .scanWrite => writeContract M

variable {M} {i : ι} {s s' : Store ι δ} {d d' : sMBSlaveDev δ}

theorem DevOk.kept {on off : Prop} (h : DevOk M i on off d) (hk : Kept d d') : DevOk M i on off d' := by
  refine ⟨?_, ?_, ?_, ?_, ?_⟩
  · simpa only [TableOk, hk.table] using h.table
  · simpa only [hk.ready, hk.onLine] using h.ready
  · simpa only [hk.offlineTimes] using h.offlineTimes
  · simpa only [hk.onLine, hk.table, hk.protocol] using h.onLine
  · intro hb hs
    rw [hk.onLine]
    exact h.sync hb (hk.sync hs)

theorem Consistent.table (h : Consistent M none s) (ho : (s i).xOnLine = true) :
    ∃ t, (s i).psDevCurData = some t := by
  obtain ⟨t, ht, -⟩ := (h i).onLine (by simp) ho
  exact ⟨t, ht⟩

theorem scanEntry_of_table {f : ScanFunc} (h : TableOk M i (s i)) (hs : (s i).psDevCurData.isSome) :
    ScanEntry M s (.scan f i) := by
  obtain ⟨t, ht⟩ := Option.isSome_iff_exists.mp hs
  exact ⟨t, h t ht, ht⟩

theorem dev_none (c : Change ι) (h : none = some c) : c.dev = i := by cases h

theorem dev_onLine (c : Change ι) (h : some (.onLine i) = some c) : c.dev = i := by
  cases h
  rfl

theorem dev_offLine (c : Change ι) (h : some (.offLine i) = some c) : c.dev = i := by
  cases h
  rfl

variable [DecidableEq ι]

theorem setDev_rel {r : ι → sMBSlaveDev δ → sMBSlaveDev δ → Prop} (hr : ∀ j d, r j d d)
    {f : sMBSlaveDev δ → sMBSlaveDev δ} (h : r i (s i) (f (s i))) : ∀ j, r j (s j) (setDev i f s j) := by
  intro j
  rcases eq_or_ne j i with rfl | hj
  · simpa [setDev] using h
  · simpa [setDev, Function.update_of_ne hj] using hr j (s j)

theorem Consistent.setDev {m n : Option (Change ι)} {f : sMBSlaveDev δ → sMBSlaveDev δ}
    (hm : ∀ c, m = some c → c.dev = i) (h : Consistent M m s) (hi : Judged M n i (f (s i))) :
    Consistent M n (setDev i f s) := by
  intro j
  rcases eq_or_ne j i with rfl | hj
  · simpa [DevScan.setDev] using hi
  · have hon : m ≠ some (.onLine j) := fun he => hj (hm _ he)
    have hoff : m ≠ some (.offLine j) := fun he => hj (hm _ he)
    have hj' := h j
    simp only [DevScan.setDev, Function.update_of_ne hj]
    exact ⟨hj'.table, hj'.ready, hj'.offlineTimes, fun _ => hj'.onLine hon, fun _ => hj'.sync hoff⟩

/-! ### Tests and scans, in either task -/

section Scans

variable {T : Contract (Store ι δ) (Change ι) (Call ι)} {P : Store ι δ → Prop} {k p q : Pass ι δ}

omit [DecidableEq ι] in
theorem test_ok {b : sMBSlaveDev δ → Bool} (hst : T.Stable P) (hinv : ∀ s, P s → T.inv none s)
    (hp : ∀ s, P s → b (s i) = true → T.Ok p s) (hq : ∀ s, P s → b (s i) = false → T.Ok q s) (h : P s) :
    T.Ok (test i b p q) s := by
  refine Contract.ok_read hst hinv (fun s h => ?_) h
  cases hb : b (s i) with
  | true => simpa [hb] using hp s h hb
  | false => simpa [hb] using hq s h hb

/-- **The scan functions of a device**, in either task: where they may be entered as long as `P` holds, and the two
assignments after a timeout keep `P`. -/
theorem scanTables_ok (hst : T.Stable P) (hinv : ∀ s, P s → T.inv none s)
    (he : ∀ f s, P s → T.entry (.scan f i) s)
    (hreq : ∀ s, P s → T.guar s (setDev i (fun d => { d with xStateTestRequest := true }) s) ∧
      P (setDev i (fun d => { d with xStateTestRequest := true }) s))
    (hsync : ∀ s, P s → T.guar s (setDev i (fun d => { d with xSynchronized := false }) s) ∧
      P (setDev i (fun d => { d with xSynchronized := false }) s))
    (hk : ∀ s, P s → T.Ok k s) (fs : List ScanFunc) (h : P s) : T.Ok (scanTables i k fs) s := by
  induction fs generalizing s with
  | nil => exact hk s h
  | cons f fs ih =>
    refine Contract.ok_call hst hinv (he f) (fun a s h => ?_) h
    split
    · refine Contract.ok_write hst hinv (fun s h => (hreq s h).1) (fun s h => ?_) h
      refine Contract.ok_write hst hinv (fun s h => (hsync s h).1) (fun s h => ?_) (hreq s h).2
      exact hk _ (hsync s h).2
    · exact ih h

end Scans

/-! ### The read scan -/

section ReadTask

variable {A B : sMBSlaveDev δ → Prop} {k p q : Pass ι δ} {m n : Option (Change ι)}
  {b : sMBSlaveDev δ → Bool} {f : sMBSlaveDev δ → sMBSlaveDev δ}

/-- The records are consistent, and that of `i` satisfies `A`. -/
def At (M : sMBMasterDevsInfo ι δ) (m : Option (Change ι)) (i : ι) (A : sMBSlaveDev δ → Prop) (s : Store ι δ) : Prop :=
  Consistent M m s ∧ A (s i)

/-- From such records the rest of the pass keeps the contract. -/
abbrev Follows (M : sMBMasterDevsInfo ι δ) (m : Option (Change ι)) (i : ι) (A : sMBSlaveDev δ → Prop)
    (k : Pass ι δ) : Prop := ∀ s, At M m i A s → (readContract M).Ok k s

/-- The rest of the pass needs no more than consistent records. -/
abbrev Goes (M : sMBMasterDevsInfo ι δ) (k : Pass ι δ) : Prop := ∀ s, Consistent M none s → (readContract M).Ok k s

/-- The write scan and the timers keep the assertion. -/
def KeptBy (A : sMBSlaveDev δ → Prop) : Prop := ∀ d d', Kept d d' → A d → A d'

omit [DecidableEq ι] in
theorem At.stable (hA : KeptBy A) : (readContract M).Stable (At M m i A) :=
  fun _ _ hr h => ⟨fun j => (h.1 j).kept (hr j), hA _ _ (hr i) h.2⟩

omit [DecidableEq ι] in
theorem Goes.follows (hk : Goes M k) : Follows M none i A k := fun s h => hk s h.1

omit [DecidableEq ι] in
theorem Follows.goes (hk : Follows M none i (fun _ => True) k) : Goes M k := fun s h => hk s ⟨h, trivial⟩

omit [DecidableEq ι] in
/-- A pass is told less than holds. -/
theorem Follows.mono (hk : Follows M m i B k) (hAB : ∀ d, A d → B d) : Follows M m i A k :=
  fun s h => hk s ⟨h.1, hAB _ h.2⟩

omit [DecidableEq ι] in
theorem read_test (hA : KeptBy A) (hp : Follows M none i (fun d => A d ∧ b d = true) p)
    (hq : Follows M none i (fun d => A d ∧ b d = false) q) : Follows M none i A (test i b p q) := by
  intro s h
  refine test_ok (At.stable hA) (fun s h => h.1) ?_ ?_ h
  · exact fun s h hb => hp s ⟨h.1, h.2, hb⟩
  · exact fun s h hb => hq s ⟨h.1, h.2, hb⟩

theorem read_write (hA : KeptBy A) (hm : ∀ c, m = some c → c.dev = i)
    (hf : ∀ d, Judged M m i d → A d → Judged M n i (f d) ∧ TableKept M i d (f d) ∧ B (f d))
    (hk : Follows M n i B k) : Follows M m i A (.write m (setDev i f) k) := by
  intro s h
  refine Contract.ok_write (At.stable hA) (fun s h => h.1) ?_ ?_ h
  · exact fun s h => setDev_rel (fun _ _ => ⟨id, id⟩) (hf _ (h.1 i) h.2).2.1
  · intro s h
    obtain ⟨hd, -, hB⟩ := hf _ (h.1 i) h.2
    exact hk _ ⟨h.1.setDev hm hd, by simpa [setDev] using hB⟩

theorem keptBy_true : KeptBy fun _ : sMBSlaveDev δ => True := fun _ _ _ _ => trivial

theorem keptBy_onLine {x : Bool} : KeptBy fun d : sMBSlaveDev δ => d.xOnLine = x :=
  fun _ _ hk h => hk.onLine.trans h

theorem keptBy_ready {x : Bool} : KeptBy fun d : sMBSlaveDev δ => d.xDataReady = x :=
  fun _ _ hk h => hk.ready.trans h

theorem KeptBy.and {A B : sMBSlaveDev δ → Prop} (hA : KeptBy A) (hB : KeptBy B) : KeptBy fun d => A d ∧ B d :=
  fun d d' hk h => ⟨hA d d' hk h.1, hB d d' hk h.2⟩

/-- An assignment that keeps the record in order whatever it is, and its data table. -/
theorem assign_ok (hf : ∀ d, Judged M none i d → Judged M none i (f d))
    (ht : ∀ d, (f d).psDevCurData = d.psDevCurData) (hk : Goes M k) : Goes M (assign i f k) := by
  refine Follows.goes (i := i)
    (read_write keptBy_true dev_none (fun d h _ => ?_) (Goes.follows (A := fun _ => True) hk))
  have htab : TableKept M i d (f d) := ⟨by simp [ht d], by simp [TableOk, ht d]⟩
  exact ⟨hf d h, htab, trivial⟩

omit [DecidableEq ι] in
theorem consistent_stable : (readContract M).Stable (Consistent M none) :=
  fun _ _ hr h j => (h j).kept (hr j)

omit [DecidableEq ι] in
theorem goes_test (hp : Goes M p) (hq : Goes M q) : Goes M (test i b p q) :=
  Follows.goes (i := i) (read_test keptBy_true hp.follows hq.follows)

omit [DecidableEq ι] in
theorem goes_onLine (hp : Follows M none i (fun d => d.xOnLine = true) p)
    (hq : Follows M none i (fun d => d.xOnLine = false) q) : Goes M (test i (·.xOnLine) p q) :=
  Follows.goes (i := i) (read_test keptBy_true (hp.mono fun _ h => h.2) (hq.mono fun _ h => h.2))

theorem timerEnable_ok (hk : Goes M k) : Goes M (xMBMasterDevOfflineTmrEnable i k) :=
  assign_ok (fun _ h => ⟨h.table, h.ready, h.offlineTimes, h.onLine, h.sync⟩) (fun _ => rfl) hk

theorem notReady_ok (hk : Goes M k) : Goes M (assign i (fun d => { d with xDataReady := false }) k) :=
  assign_ok (fun _ h => ⟨h.table, by simp, h.offlineTimes, h.onLine, h.sync⟩) (fun _ => rfl) hk

theorem resetTimes_ok (hk : Goes M k) : Goes M (assign i (fun d => { d with ucOfflineTimes := 0 }) k) :=
  assign_ok (fun _ h => ⟨h.table, h.ready, by simp, h.onLine, h.sync⟩) (fun _ => rfl) hk

theorem noRequest_ok (hk : Goes M k) : Goes M (assign i (fun d => { d with xStateTestRequest := false }) k) :=
  assign_ok (fun _ h => ⟨h.table, h.ready, h.offlineTimes, h.onLine, h.sync⟩) (fun _ => rfl) hk

theorem ready_ok (hk : Goes M k) :
    Follows M none i (fun d => d.xOnLine = true) (assign i (fun d => { d with xDataReady := true }) k) := by
  refine read_write (B := fun _ => True) keptBy_onLine dev_none ?_ hk.follows
  exact fun d h ho => ⟨⟨h.table, fun _ => ho, h.offlineTimes, h.onLine, h.sync⟩, ⟨id, id⟩, trivial⟩

/-- The device comes on line; its record is in order again once the protocol is assigned. -/
theorem takeOnLine_ok {t : δ} (ht : t ∈ M.psDevDataInfo i) (hk : Goes M k) : Goes M (takeOnLine M i t k) := by
  have protocol {k : Pass ι δ} (hk : Follows M none i (fun d => d.xOnLine = true) k) :
      Follows M (some (.onLine i)) i (fun d => d.xOnLine = true ∧ d.psDevCurData = some t)
        (assignMid (.onLine i) (fun d => { d with usProtocolID := (M.psDevData t).usProtocolID }) k) := by
    refine read_write (keptBy_onLine.and fun _ _ hk h => hk.table.trans h) dev_onLine ?_ hk
    rintro d h ⟨ho, hd⟩
    exact ⟨⟨h.table, h.ready, h.offlineTimes, fun _ _ => ⟨t, hd, rfl⟩, fun _ _ => ho⟩, ⟨id, id⟩, ho⟩
  have table {k : Pass ι δ}
      (hk : Follows M (some (.onLine i)) i (fun d => d.xOnLine = true ∧ d.psDevCurData = some t) k) :
      Follows M (some (.onLine i)) i (fun d => d.xOnLine = true)
        (assignMid (.onLine i) (fun d => { d with psDevCurData := some t }) k) := by
    refine read_write keptBy_onLine dev_onLine ?_ hk
    intro d h ho
    have htab : TableOk M i { d with psDevCurData := some t } := by
      rintro t' ⟨⟩
      exact ht
    exact ⟨⟨htab, h.ready, h.offlineTimes, by simp, fun _ _ => ho⟩, ⟨fun _ => rfl, fun _ => htab⟩, ho, rfl⟩
  refine Follows.goes (i := i) (read_write keptBy_true dev_none (fun d h _ => ?_)
    (table (protocol (ready_ok (noRequest_ok (resetTimes_ok hk))))))
  exact ⟨⟨h.table, fun _ => rfl, h.offlineTimes, by simp, fun _ _ => rfl⟩, ⟨id, id⟩, rfl⟩

omit [DecidableEq ι] in
/-- A request is made wherever the records are consistent, and its answer may be any. -/
theorem eMBDevCmdTest_ok {psMBCmd : sMBTestDevCmd} {k : Answer → Pass ι δ} (hA : KeptBy A)
    (hk : ∀ a, Follows M none i A (k a)) : Follows M none i A (eMBDevCmdTest M i psMBCmd k) := by
  intro s h
  unfold eMBDevCmdTest
  split <;> exact Contract.ok_call (At.stable hA) (fun s h => h.1) (fun s _ => trivial) (fun a => hk a) h

omit [DecidableEq ι] in
theorem retry_ok {psMBCmd : sMBTestDevCmd} {k : Answer → Pass ι δ} (hA : KeptBy A)
    (hk : ∀ a, Follows M none i A (k a)) (n : ℕ) (a : Answer) : Follows M none i A (retry M i psMBCmd k n a) := by
  induction n generalizing a with
  | zero => exact hk a
  | succ n ih =>
    refine eMBDevCmdTest_ok hA fun a s h => ?_
    split
    · exact hk a s h
    · exact ih a s h

theorem testTables_ok (hk : Goes M k) {ts : List δ} (hts : ∀ t ∈ ts, t ∈ M.psDevDataInfo i)
    (e : eMBMasterReqErrCode) : Goes M (testTables M i k ts e) := by
  induction ts generalizing e with
  | nil =>
    intro s h
    unfold testTables
    split
    · exact timerEnable_ok hk s h
    · exact hk s h
  | cons t ts ih =>
    have ht : t ∈ M.psDevDataInfo i := hts t (List.mem_cons_self ..)
    have ih := ih fun t ht => hts t (List.mem_cons_of_mem _ ht)
    refine Follows.goes (i := i) (retry_ok keptBy_true (fun a s h => ?_) _ _)
    split
    · split
      · cases a.pucMasterPDUCur with
        | none => exact hk s h.1
        | some usDataVal =>
          dsimp only
          split
          · exact takeOnLine_ok ht hk s h.1
          · exact notReady_ok hk s h.1
      · exact takeOnLine_ok ht hk s h.1
    · exact ih _ s h.1

theorem vMBDevTest_ok (hk : Goes M k) : Follows M none i (fun d => d.xOnLine = false) (vMBDevTest M i k) := by
  refine read_test keptBy_onLine hk.follows fun s h => ?_
  split
  · have tables : Goes M (testTables M i k (M.psDevDataInfo i) .MB_MRE_NO_ERR) := testTables_ok hk (fun _ ht => ht) _
    refine read_write (A := fun d => d.xOnLine = false) (B := fun _ => True) keptBy_onLine dev_none ?_
      (notReady_ok (noRequest_ok tables)).follows s ⟨h.1, h.2.1⟩
    -- nothing changes: the device is off line already
    refine fun d h ho => ⟨⟨h.table, fun hr => ?_, h.offlineTimes, fun _ => by simp, fun hb hs => ?_⟩, ⟨id, id⟩, trivial⟩
    · exact absurd (h.ready hr) (by simp [ho])
    · exact absurd (h.sync hb hs) (by simp [ho])
  · exact hk s h.1

/-- The device goes off line; its record is in order again once it is no longer synchronised. -/
theorem takeOffLine_ok (hk : Goes M k) : Follows M none i (fun d => d.xDataReady = false) (takeOffLine i k) := by
  have sync {k : Pass ι δ} (hk : Goes M k) :
      Follows M (some (.offLine i)) i (fun d => d.xOnLine = false)
        (assignMid (.offLine i) (fun d => { d with xSynchronized := false }) k) := by
    refine read_write (B := fun _ => True) keptBy_onLine dev_offLine ?_ hk.follows
    exact fun d h ho => ⟨⟨h.table, h.ready, h.offlineTimes, by simp [ho], by simp⟩, ⟨id, id⟩, trivial⟩
  have ready {k : Pass ι δ} (hk : Follows M (some (.offLine i)) i (fun d => d.xOnLine = false) k) :
      Follows M (some (.offLine i)) i (fun d => d.xOnLine = false)
        (assignMid (.offLine i) (fun d => { d with xDataReady := false }) k) := by
    refine read_write keptBy_onLine dev_offLine ?_ hk
    exact fun d h ho => ⟨⟨h.table, by simp, h.offlineTimes, by simp [ho], by simp⟩, ⟨id, id⟩, ho⟩
  refine read_write keptBy_ready dev_none ?_ (ready (sync (resetTimes_ok hk)))
  exact fun d h hr => ⟨⟨h.table, by simp [hr], h.offlineTimes, by simp, by simp⟩, ⟨id, id⟩, rfl⟩

theorem succ_offlineTimes {n : UCHAR} (h : n ≤ MB_TEST_OFFLINE_TIMES) (hn : n ≠ MB_TEST_OFFLINE_TIMES) :
    n + 1 ≤ MB_TEST_OFFLINE_TIMES := by
  bv_omega

/-- Every request has timed out: at the third such test the device goes off line. -/
theorem curStateTimedOut_ok (hk : Goes M k) : Goes M (curStateTimedOut i k) := by
  have count : Follows M none i (fun d => d.ucOfflineTimes ≠ MB_TEST_OFFLINE_TIMES) (.read fun s =>
      assign i (fun d => { d with ucOfflineTimes := (s i).ucOfflineTimes + 1 }) <|
      xMBMasterDevOfflineTmrEnable i k) := by
    intro s h
    refine Contract.ok_read (At.stable fun _ _ hk h => hk.offlineTimes ▸ h) (fun s h => h.1) (fun s h => ?_) h
    have hn := succ_offlineTimes (h.1 i).offlineTimes h.2
    have counted : Goes M (assign i (fun d => { d with ucOfflineTimes := (s i).ucOfflineTimes + 1 }) <|
        xMBMasterDevOfflineTmrEnable i k) :=
      assign_ok (fun _ h => ⟨h.table, h.ready, hn, h.onLine, h.sync⟩) (fun _ => rfl) (timerEnable_ok hk)
    exact counted s h.1
  refine Follows.goes (i := i) (read_write (B := fun d => d.xDataReady = false) keptBy_true dev_none (fun d h _ => ?_)
    (read_test keptBy_ready ((takeOffLine_ok hk).mono fun _ h => h.1) (count.mono fun _ h => by simpa using h.2)))
  exact ⟨⟨h.table, by simp, h.offlineTimes, h.onLine, h.sync⟩, ⟨id, id⟩, rfl⟩

theorem curStateTested_ok (psMBCmd : sMBTestDevCmd) (hk : Goes M k) (a : Answer) :
    Follows M none i (fun d => d.xOnLine = true) (curStateTested i psMBCmd k a) := by
  have stays {k : Pass ι δ} (hk : Follows M none i (fun d => d.xOnLine = true) k) :
      Follows M none i (fun d => d.xOnLine = true) (assign i (fun d => { d with xOnLine := true }) k) := by
    refine read_write keptBy_onLine dev_none ?_ hk
    intro d h ho
    exact ⟨⟨h.table, fun _ => rfl, h.offlineTimes, fun hb _ => h.onLine hb ho, fun _ _ => rfl⟩, ⟨id, id⟩, rfl⟩
  intro s h
  unfold curStateTested
  split
  · split
    · cases a.pucMasterPDUCur with
      | none => exact hk s h.1
      | some usDataVal =>
        dsimp only
        split
        · exact stays (ready_ok (noRequest_ok (resetTimes_ok hk))) s h
        · exact notReady_ok hk s h.1
    · exact stays (ready_ok (resetTimes_ok hk)) s h
  · exact curStateTimedOut_ok hk s h.1

theorem vMBDevCurStateTest_ok (hk : Goes M k) :
    Follows M none i (fun d => d.xOnLine = true) (vMBDevCurStateTest M i k) := by
  refine read_test keptBy_onLine hk.follows fun s h => ?_
  split
  · refine Contract.ok_read (P := At M none i fun d => d.xOnLine = true) (At.stable keptBy_onLine) (fun s h => h.1)
      (fun s h => ?_) ⟨h.1, h.2.1⟩
    obtain ⟨t, ht⟩ := h.1.table h.2
    rw [ht]
    exact retry_ok keptBy_onLine (fun a => curStateTested_ok _ hk a) _ _ s h
  · exact hk s h.1

/-- A scan of the read task: the device is on line throughout, and has a data table. -/
theorem vMBMasterScanReadSlaveDevData_ok (hk : Follows M none i (fun d => d.xOnLine = true) k) :
    Follows M none i (fun d => d.xOnLine = true) (vMBMasterScanReadSlaveDevData i k) := by
  have assigned {f : sMBSlaveDev δ → sMBSlaveDev δ} (hf : ∀ d, Judged M none i d → Judged M none i (f d))
      (ho : ∀ d, (f d).xOnLine = d.xOnLine) (ht : ∀ d, TableKept M i d (f d)) (s)
      (h : At M none i (fun d => d.xOnLine = true) s) :
      (readContract M).guar s (setDev i f s) ∧ At M none i (fun d => d.xOnLine = true) (setDev i f s) :=
    ⟨setDev_rel (fun _ _ => ⟨id, id⟩) (ht _), h.1.setDev dev_none (hf _ (h.1 i)), by simpa [setDev, ho] using h.2⟩
  intro s h
  refine scanTables_ok (At.stable keptBy_onLine) (fun s h => h.1) (fun f s h => ?_) ?_ ?_ hk _ h
  · obtain ⟨t, ht⟩ := h.1.table h.2
    exact scanEntry_of_table (f := f) (h.1 i).table (by simp [ht])
  · exact assigned (fun _ h => ⟨h.table, h.ready, h.offlineTimes, h.onLine, h.sync⟩) (fun _ => rfl) fun _ => ⟨id, id⟩
  · exact assigned (fun _ h => ⟨h.table, h.ready, h.offlineTimes, h.onLine, by simp⟩) (fun _ => rfl) fun _ => ⟨id, id⟩

theorem vMBMasterScanReadSlaveDev_ok (hk : Goes M k) : Goes M (vMBMasterScanReadSlaveDev i k) := by
  have synchronize : Follows M none i (fun d => d.xOnLine = true)
      (assign i (fun d => { d with xSynchronized := true }) k) := by
    refine read_write (B := fun _ => True) keptBy_onLine dev_none ?_ hk.follows
    exact fun d h ho => ⟨⟨h.table, h.ready, h.offlineTimes, h.onLine, fun _ _ => ho⟩, ⟨id, id⟩, trivial⟩
  have data {k : Pass ι δ} (hk : Follows M none i (fun d => d.xOnLine = true) k) {B : sMBSlaveDev δ → Prop} :
      Follows M none i (fun d => d.xOnLine = true ∧ B d) (vMBMasterScanReadSlaveDevData i k) :=
    (vMBMasterScanReadSlaveDevData_ok hk).mono fun _ h => h.1
  have scan : Follows M none i (fun d => d.xOnLine = true) (test i (·.xSynchronized)
      (vMBMasterScanReadSlaveDevData i k)
      (vMBMasterScanReadSlaveDevData i <| assign i (fun d => { d with xSynchronized := true }) k)) :=
    read_test keptBy_onLine (data hk.follows) (data synchronize)
  exact goes_test hk (goes_onLine (read_test keptBy_onLine (scan.mono fun _ h => h.1) hk.follows) hk.follows)

theorem testOffLine_ok (hk : Goes M k) : Goes M (testOffLine M i k) :=
  goes_onLine hk.follows (vMBDevTest_ok hk)

theorem readOnLine_ok (hk : Goes M k) : Goes M (readOnLine i k) :=
  goes_test (goes_test (vMBMasterScanReadSlaveDev_ok hk) hk) hk

theorem testAndRead_ok (hk : Goes M k) : Goes M (testAndRead M i k) := by
  refine goes_onLine (fun s h => ?_) hk.follows
  split
  · refine read_test keptBy_onLine ?_ (readOnLine_ok hk).follows s h
    exact (vMBDevCurStateTest_ok (readOnLine_ok hk)).mono fun _ h => h.1
  · exact hk s h.1

omit [DecidableEq ι] in
theorem goes_foldr {body : ι → Pass ι δ → Pass ι δ} (hb : ∀ i k, Goes M k → Goes M (body i k)) (hk : Goes M k)
    (is : List ι) : Goes M (is.foldr body k) := by
  induction is with
  | nil => exact hk
  | cons i is ih => exact hb i _ ih

/-- **A pass of the read scan keeps its contract.** -/
theorem readTask_ok : Goes M (vMBMasterScanReadSlaveDevTask M) := by
  have done : Goes M .done := fun s h => Contract.ok_done consistent_stable (fun _ h => h) h
  exact goes_foldr (fun _ _ => testOffLine_ok) (goes_foldr (fun _ _ => testAndRead_ok) done _) _

end ReadTask

/-! ### The write scan -/

section WriteTask

variable {k p q : Pass ι δ} {b : sMBSlaveDev δ → Bool}

/-- The current data tables are tables of their devices. -/
def TablesOk (M : sMBMasterDevsInfo ι δ) (s : Store ι δ) : Prop := ∀ i, TableOk M i (s i)

/-- Moreover the device `i` has one. -/
def HasTable (M : sMBMasterDevsInfo ι δ) (i : ι) (s : Store ι δ) : Prop := TablesOk M s ∧ (s i).psDevCurData.isSome

omit [DecidableEq ι] in
theorem tablesOk_stable : (writeContract M).Stable (TablesOk M) := fun _ _ hr h i => (hr i).table (h i)

omit [DecidableEq ι] in
theorem hasTable_stable : (writeContract M).Stable (HasTable M i) :=
  fun _ _ hr h => ⟨tablesOk_stable _ _ hr h.1, (hr i).isSome h.2⟩

theorem hasTable_setDev {f : sMBSlaveDev δ → sMBSlaveDev δ} (hf : ∀ d, Kept d (f d)) (h : HasTable M i s) :
    (writeContract M).guar s (setDev i f s) ∧ HasTable M i (setDev i f s) := by
  have hd : ∀ j, Kept (s j) (setDev i f s j) :=
    setDev_rel (fun _ _ => ⟨rfl, rfl, rfl, rfl, rfl, id⟩) (hf (s i))
  refine ⟨hd, fun j => ?_, ?_⟩
  · simpa only [TableOk, (hd j).table] using h.1 j
  · simpa only [(hd i).table] using h.2

theorem vMBMasterScanWriteSlaveDevData_ok {x : Bool} (hk : ∀ s, TablesOk M s → (writeContract M).Ok k s)
    (h : HasTable M i s) : (writeContract M).Ok (vMBMasterScanWriteSlaveDevData i x k) s := by
  refine scanTables_ok hasTable_stable (fun s h => h.1) (fun f s h => scanEntry_of_table (f := f) (h.1 i) h.2)
    (fun s h => hasTable_setDev (fun d => ?_) h) (fun s h => hasTable_setDev (fun d => ?_) h) (fun s h => hk s h.1) _ h
  · exact ⟨rfl, rfl, rfl, rfl, rfl, id⟩
  · exact ⟨rfl, rfl, rfl, rfl, rfl, by simp⟩

theorem vMBMasterScanWriteSlaveDev_ok (hk : ∀ s, TablesOk M s → (writeContract M).Ok k s) (h : TablesOk M s) :
    (writeContract M).Ok (vMBMasterScanWriteSlaveDev i k) s := by
  -- once the device has been seen to have a data table, every test keeps to that
  have test {b : sMBSlaveDev δ → Bool} {p q : Pass ι δ} (hp : ∀ s, HasTable M i s → (writeContract M).Ok p s)
      (hq : ∀ s, HasTable M i s → (writeContract M).Ok q s) (s) (h : HasTable M i s) :
      (writeContract M).Ok (test i b p q) s :=
    test_ok hasTable_stable (fun s h => h.1) (fun s h _ => hp s h) (fun s h _ => hq s h) h
  have ends (s) (h : HasTable M i s) : (writeContract M).Ok k s := hk s h.1
  refine test_ok tablesOk_stable (fun s h => h) (fun s h _ => hk s h) (fun s h hn => ?_) h
  have hs : HasTable M i s := ⟨h, by simpa using hn⟩
  exact test (test (test (fun s => vMBMasterScanWriteSlaveDevData_ok hk) ends)
    (test ends fun s => vMBMasterScanWriteSlaveDevData_ok hk)) ends s hs

theorem writeOnLine_ok (hk : ∀ s, TablesOk M s → (writeContract M).Ok k s) (h : TablesOk M s) :
    (writeContract M).Ok (writeOnLine M i k) s := by
  have test {b : sMBSlaveDev δ → Bool} {p : Pass ι δ} (hp : ∀ s, TablesOk M s → (writeContract M).Ok p s) (s)
      (h : TablesOk M s) : (writeContract M).Ok (test i b p k) s :=
    test_ok tablesOk_stable (fun s h => h) (fun s h _ => hp s h) (fun s h _ => hk s h) h
  refine test (test fun s h => ?_) s h
  split
  · exact vMBMasterScanWriteSlaveDev_ok hk h
  · exact hk s h

/-- **A pass of the write scan keeps its contract.** -/
theorem writeTask_ok (h : TablesOk M s) : (writeContract M).Ok (vMBMasterScanWriteSlaveDevTask M) s := by
  unfold vMBMasterScanWriteSlaveDevTask
  induction M.psMBSlaveDevsList generalizing s with
  | nil => exact Contract.ok_done tablesOk_stable (fun _ h => h) h
  | cons i is ih => exact writeOnLine_ok (fun s h => ih h) h

end WriteTask

/-! ### Runs -/

/-- **The contracts hold in every interleaving** of the tasks and the timers. -/
theorem contracts_run {as : List (Event ScanTask ι Answer)} {x : System ι δ} (h0 : ∀ i, OffLine M i (s i))
    (hr : Lib.Run.run (step M) (start s) as = some x) (t : ScanTask) : (contract M t).Ok (x.prog t) x.store := by
  refine Contract.run_ok (T := contract M) (fun t s h => ?_) (fun t t' ht s s' hg => ?_) (fun t i s => ?_) ?_ hr t
  · cases t with
    | scanRead => exact readTask_ok s h
    | scanWrite => exact writeTask_ok h
  · cases t <;> cases t' <;> first | exact absurd rfl ht | exact hg
  · cases t with
    | scanRead => exact setDev_rel (fun _ _ => ⟨rfl, rfl, rfl, rfl, rfl, id⟩) ⟨rfl, rfl, rfl, rfl, rfl, id⟩
    | scanWrite => exact setDev_rel (fun _ _ => ⟨id, id⟩) ⟨id, id⟩
  · refine Contract.start_ok (fun t => ?_) fun t => ?_
    · cases t with
      | scanRead => exact fun i => (h0 i).ok _ _
      | scanWrite => exact fun i => (h0 i).table
    · cases t with
      | scanRead => exact consistent_stable
      | scanWrite => exact tablesOk_stable

/-- While the read scan waits for an answer or is between its passes, every record is consistent. -/
theorem consistent_at_calls {s : Store ι δ} (h0 : ∀ i, OffLine M i (s i)) {as : List (Event ScanTask ι Answer)}
    {x : System ι δ} (hr : Lib.Run.run (step M) (start s) as = some x)
    (hw : x.prog .scanRead = .done ∨ ∃ c k, x.prog .scanRead = .call c k) : Consistent M none x.store := by
  have hm : (x.prog .scanRead).mid = none := by
    obtain h | ⟨c, k, h⟩ := hw <;> rw [h] <;> rfl
  have h := (contracts_run h0 hr .scanRead).inv
  rwa [hm] at h

/-- **The device records are consistent** in every state of every interleaving, whatever the calls return: a device
whose data is ready is on line; one on line has a data table of its own and the protocol of that, unless the read scan
stands between the assignments that take it on line; one that is synchronised is on line, unless it stands between
those that take it off line; and no count of failed tests exceeds two.  A scan function is only ever under way on a
device with a data table of its own, and no task reads through a NULL table. -/
theorem records_consistent {s : Store ι δ} (h0 : ∀ i, OffLine M i (s i)) {as : List (Event ScanTask ι Answer)}
    {x : System ι δ} (hr : Lib.Run.run (step M) (start s) as = some x) (i : ι) :
    ((x.store i).xDataReady = true → (x.store i).xOnLine = true) ∧
    ((x.prog .scanRead).mid ≠ some (.onLine i) → (x.store i).xOnLine = true → ∃ t ∈ M.psDevDataInfo i,
      (x.store i).psDevCurData = some t ∧ (x.store i).usProtocolID = (M.psDevData t).usProtocolID) ∧
    ((x.prog .scanRead).mid ≠ some (.offLine i) → (x.store i).xSynchronized = true → (x.store i).xOnLine = true) ∧
    (x.store i).ucOfflineTimes ≤ 2 ∧
    (∀ t f k, x.prog t = .call (.scan f i) k → ∃ T ∈ M.psDevDataInfo i, (x.store i).psDevCurData = some T) ∧
    ∀ t, x.prog t ≠ .fault := by
  have hok := contracts_run h0 hr
  have hd : Judged M (x.prog .scanRead).mid i (x.store i) := (hok .scanRead).inv i
  refine ⟨hd.ready, fun hm ho => ?_, hd.sync, hd.offlineTimes, fun t f k ht => ?_, fun t => (hok t).not_fault⟩
  · obtain ⟨t, ht, hp⟩ := hd.onLine hm ho
    exact ⟨t, hd.table t ht, ht, hp⟩
  · have he := hok t
    rw [ht] at he
    cases t with
    | scanRead => exact he.entry
    | scanWrite => exact he.entry

/-! ### One device -/

/-- One device with one data table, tested by reading an input register. -/
def oneDev : sMBMasterDevsInfo Unit Unit where
  psMBSlaveDevsList := [()]
  ucSlaveDevMinAddr := 1
  ucSlaveDevMaxAddr := 247
  ucDevAddr _ := 1
  psDevDataInfo _ := [()]
  psDevData _ := ⟨7, 0, 0, .READ_REG_IN, false⟩

/-- Its record when the tasks are started. -/
def fresh : Store Unit Unit := fun _ => ⟨0, 0, false, false, false, false, false, none⟩

theorem fresh_offLine (i : Unit) : OffLine oneDev i (fresh i) :=
  ⟨fun _ h => absurd h (by simp [fresh]), rfl, rfl, rfl, rfl⟩

/-- Steps of the read scan; a call among them returns the code. -/
def reads (n : ℕ) (errorCode : eMBMasterReqErrCode) : List (Event ScanTask Unit Answer) :=
  List.replicate n (.go .scanRead ⟨errorCode, none⟩)

/-- The device answers its test and then no more. -/
def lost (n : ℕ) : List (Event ScanTask Unit Answer) :=
  reads 7 .MB_MRE_NO_ERR ++ reads 40 .MB_MRE_TIMEDOUT ++ [.env ()] ++ reads 40 .MB_MRE_TIMEDOUT ++ [.env ()] ++
    reads n .MB_MRE_TIMEDOUT

theorem records_consistent_answered :
    ∃ x, Lib.Run.run (step oneDev) (start fresh) (reads 20 .MB_MRE_NO_ERR) = some x ∧ (x.store ()).xOnLine = true ∧
      ∃ t ∈ oneDev.psDevDataInfo (),
        (x.store ()).psDevCurData = some t ∧ (x.store ()).usProtocolID = (oneDev.psDevData t).usProtocolID := by
  have h : (Lib.Run.run (step oneDev) (start fresh) (reads 20 .MB_MRE_NO_ERR)).map
      (fun x => ((x.store ()).xOnLine, (x.prog .scanRead).mid)) = some (true, none) := by decide
  obtain ⟨x, hx, hv⟩ := Option.map_eq_some_iff.mp h
  obtain ⟨ho, hm⟩ := Prod.mk.inj hv
  obtain ⟨-, hc, -⟩ := records_consistent fresh_offLine hx ()
  exact ⟨x, hx, ho, hc (by simp [hm]) ho⟩

/-- Between two assignments of the read scan the device is on line without a data table, and synchronised while it is
off line. -/
theorem records_midway :
    (∀ i, OffLine oneDev i (fresh i)) ∧
    (Lib.Run.run (step oneDev) (start fresh) (reads 8 .MB_MRE_NO_ERR)).map
      (fun x => ((x.store ()).xOnLine, (x.store ()).psDevCurData)) = some (true, none) ∧
    (Lib.Run.run (step oneDev) (start fresh) (lost 7)).map
      (fun x => ((x.store ()).xOnLine, (x.store ()).xSynchronized)) = some (false, true) :=
  ⟨fresh_offLine, by decide, by decide⟩

end GreeIntense.Master.DevScan

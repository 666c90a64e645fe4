import GreeIntense.Slave.Length

/-!
# Unmapped addresses (`mbbits.c`, `mbfuncinput.c`, `mbmap.c`)

The map functions hand out a null pointer for an unmapped address.  The loop of the holding registers
tests it; the two bit loops and the loop of the input registers read `ucAccessMode` through it first.
`holes_harmless_iff` tells the requests of the function codes 1, 15 and 4 that no unmapped address harms.
-/

namespace GreeIntense.Slave

open Lib.Memory Lib.Bits

/-! ### The loops in closed form -/

section Runs

variable {cur : sMBSlaveCommData}

/-- **The reading coil loop in closed form**: it ends with an error at a write-only coil, and with a null
pointer at an unmapped one. -/
theorem getRun_eq (vars : Mem) (m : ℕ) (x : USHORT) :
    getRun cur vars m x =
      (if leading (readableCoil cur) m x = m then some .MB_ENOERR
        else (coil cur (x + BitVec.ofNat 16 (leading (readableCoil cur) m x))).map fun _ => .MB_ENOREG).map
          fun st => (st, coilBits cur vars m x) := by
  induction m generalizing x with
  | zero => rfl
  | succ m ih =>
    cases he : coil cur x with
    | none =>
      have hw : readableCoil cur x = false := by rw [readableCoil, he]
      simp [getRun, leading, he, hw]
    | some e =>
      by_cases hwo : e.ucAccessMode = .WO
      · have hw : readableCoil cur x = false := by simp [readableCoil, he, hwo]
        simp [getRun, coilBits, leading, he, hw, hwo]
      · have hw : readableCoil cur x = true := by simp [readableCoil, he, hwo]
        simp only [getRun, coilBits, leading, he, hw, hwo, if_false, if_true, ih, add_ofNat_succ,
          Nat.add_right_cancel_iff, Option.map_map]
        rfl

/-- **The loop of the input registers in closed form.** -/
theorem regInRun_eq (vars : Mem) (n : ℕ) (i v : USHORT) :
    regInRun cur vars n i v =
      (if leading (readableIn cur) n i = n then some .MB_ENOERR
        else (regIn cur (i + BitVec.ofNat 16 (leading (readableIn cur) n i))).map fun _ => .MB_ENOREG).map
          fun st => (st, regInWords cur vars n i v) := by
  induction n generalizing i v with
  | zero => rfl
  | succ n ih =>
    cases he : regIn cur i with
    | none =>
      have hw : readableIn cur i = false := by rw [readableIn, he]
      simp [regInRun, leading, he, hw]
    | some e =>
      by_cases hwo : e.ucAccessMode = .WO
      · have hw : readableIn cur i = false := by simp [readableIn, he, hwo]
        simp [regInRun, regInWords, leading, he, hw, hwo]
      · have hw : readableIn cur i = true := by simp [readableIn, he, hwo]
        simp only [regInRun, regInWords, leading, he, hw, hwo, if_false, if_true, ih, add_ofNat_succ,
          Nat.add_right_cancel_iff, Option.map_map]
        rfl

theorem setRun_congr_mapped {f g : ℕ → Bool} {m k : ℕ} {x : USHORT} {vars : Mem}
    (h : ∀ j, coil cur (x + BitVec.ofNat 16 j) ≠ none → f (k + j) = g (k + j)) :
    setRun cur f m k x vars = setRun cur g m k x vars := by
  rw [setRun_eq, setRun_eq]
  have hc : lastCoilByte cur f (leading (writableCoil cur) m x) k x =
      lastCoilByte cur g (leading (writableCoil cur) m x) k x := by
    refine lastCoilByte_congr fun j _ hb => h j fun hn => hb ?_
    rw [coilVar, hn]
    rfl
  rw [hc]

theorem setRun_changes {f : ℕ → Bool} {m k : ℕ} {x : USHORT} {vars : Mem} {r : eMBErrorCode × Mem}
    (h : setRun cur f m k x vars = some r) {b : ℕ} (hb : r.2 b ≠ vars b) : ∃ y, coilVar cur y = some b := by
  rw [setRun_eq] at h
  obtain ⟨st, -, rfl⟩ := Option.map_eq_some_iff.mp h
  by_contra hno
  apply hb
  dsimp only
  rw [lastCoilByte_none fun i _ hi => hno ⟨_, hi⟩]
  rfl

end Runs

/-! ### The law and its condition -/

/-- The handlers that read through the pointer before they test it. -/
inductive HoleFunc
  | readCoils | writeCoils | readInput
  deriving DecidableEq

section Requests

variable (f : HoleFunc) (p : ℕ) (s : Store)

def askedAddress : USHORT := loadBE s.ucRcvBuf (p + 1)

def askedCount : ℕ := (loadBE s.ucRcvBuf (p + 3)).toNat

/-- The first address the loop visits: function code 1 increments the address. -/
def firstVisited : USHORT :=
  match f with
  | .readCoils => askedAddress p s + 1
  | .writeCoils | .readInput => askedAddress p s

/-- The number of addresses it visits if nothing stops it. -/
def visits : ℕ :=
  match f with
  | .readCoils | .writeCoils => runBits (askedCount p s)
  | .readInput => askedCount p s

variable (cur : sMBSlaveCommData) (v : USHORT)

def HoleFunc.handler : Option (eMBException × Store) :=
  match f with
  | .readCoils => eMBSlaveFuncReadCoils cur p s
  | .writeCoils => eMBSlaveFuncWriteMultipleCoils cur p s
  | .readInput => eMBSlaveFuncReadInputRegister cur v p s

/-- The map function hands out no entry for the address. -/
def HoleFunc.unmapped (x : USHORT) : Prop :=
  match f with
  | .readCoils | .writeCoils => coil cur x = none
  | .readInput => regIn cur x = none

/-- The loop goes on after the address. -/
def HoleFunc.goesOn (x : USHORT) : Bool :=
  match f with
  | .readCoils => readableCoil cur x
  | .writeCoils => writableCoil cur x
  | .readInput => readableIn cur x

/-- The request passes the checks made before the loop. -/
def LoopEntered : Prop :=
  match f with
  | .readCoils =>
    s.usLength = 5 ∧ (1 ≤ askedCount p s ∧ askedCount p s < 0x07D0) ∧
      tableCovers cur.sMBCoilTable (askedAddress p s + 1) (loadBE s.ucRcvBuf (p + 3))
  | .writeCoils => passes .coils p s cur
  | .readInput =>
    s.usLength = 5 ∧ (1 ≤ askedCount p s ∧ askedCount p s < 0x7D) ∧
      tableCovers cur.sMBRegInTable (askedAddress p s) (loadBE s.ucRcvBuf (p + 3))

/-- The addresses the loop gets over. -/
def passed : ℕ := leading (f.goesOn cur) (visits f p s) (firstVisited f p s)

/-- **The loop comes to an unmapped address**: one of the range, or one of the eight coils that the bit loops
visit after a range whose length is a multiple of eight, with no entry before it that stops the loop. -/
def ReachesHole : Prop :=
  LoopEntered f p s cur ∧ passed f p s cur ≠ visits f p s ∧
    f.unmapped cur (firstVisited f p s + BitVec.ofNat 16 (passed f p s cur))

/-- Function code 1 reads all its coils, the one at the address asked for is unmapped, and the one after it,
which is read in its place, is set. -/
def ReadsNeighbour : Prop :=
  f = .readCoils ∧ LoopEntered f p s cur ∧ passed f p s cur = visits f p s ∧
    coil cur (askedAddress p s) = none ∧
    ∃ e, coil cur (askedAddress p s + 1) = some e ∧ coilBit s.vars e = true

/-- The entry `j` of the answer is 0. -/
def answersZero (t : Store) (j : ℕ) : Prop :=
  match f with
  | .readCoils => bitAt t.ucRcvBuf (p + 2) j = false
  | .writeCoils => True
  | .readInput => loadBE t.ucRcvBuf (p + 2 + 2 * j) = 0

/-- The request `t` is the request `s` but for the bits sent to unmapped coils. -/
structure SameForMapped (t : Store) : Prop where
  usLength : t.usLength = s.usLength
  vars : t.vars = s.vars
  header : ∀ i < 6, t.ucRcvBuf (p + i) = s.ucRcvBuf (p + i)
  bits : ∀ k, coil cur (askedAddress p s + BitVec.ofNat 16 k) ≠ none →
    bitAt t.ucRcvBuf (p + 6) k = bitAt s.ucRcvBuf (p + 6) k

/-- **Unmapped addresses are harmless** to a request: the handler goes through no null pointer, unmapped
addresses of the range read as 0, and what is sent to unmapped coils is ignored. -/
structure HolesHarmless : Prop where
  returns : f.handler p s cur v ≠ none
  reads : ∀ r, f.handler p s cur v = some r → r.1 = .MB_EX_NONE → ∀ j < askedCount p s,
    f.unmapped cur (askedAddress p s + BitVec.ofNat 16 j) → answersZero f p r.2 j
  ignored : f = .writeCoils → ∀ r, f.handler p s cur v = some r →
    (∀ b, r.2.vars b ≠ s.vars b → ∃ y, coilVar cur y = some b) ∧
      ∀ t, SameForMapped p s cur t → ∃ r', f.handler p t cur v = some r' ∧ r'.1 = r.1 ∧ r'.2.vars = r.2.vars

end Requests

/-! ### The handlers -/

section Handlers

variable {cur : sMBSlaveCommData} {v : USHORT} {p : ℕ} {s : Store} {r : eMBException × Store}

/-- A loop in closed form ends at a null pointer exactly when it comes to an unmapped address. -/
theorem closedLoop_none {α β : Type} {ok : USHORT → Bool} {entry : USHORT → Option α} {m : ℕ} {x : USHORT}
    {g : eMBErrorCode → β} :
    (if leading ok m x = m then some eMBErrorCode.MB_ENOERR
      else (entry (x + BitVec.ofNat 16 (leading ok m x))).map fun _ => .MB_ENOREG).map g = none ↔
      leading ok m x ≠ m ∧ entry (x + BitVec.ofNat 16 (leading ok m x)) = none := by
  rw [Option.map_eq_none_iff]
  split
  · rename_i h
    exact ⟨nofun, fun hn => absurd h hn.1⟩
  · rename_i h
    rw [Option.map_eq_none_iff]
    exact ⟨fun hn => ⟨h, hn⟩, fun hn => hn.2⟩

theorem closedLoop_ok {α β : Type} {ok : USHORT → Bool} {entry : USHORT → Option α} {m : ℕ} {x : USHORT}
    {g : eMBErrorCode → β} {y : β}
    (h : (if leading ok m x = m then some eMBErrorCode.MB_ENOERR
      else (entry (x + BitVec.ofNat 16 (leading ok m x))).map fun _ => .MB_ENOREG).map g = some y) :
    leading ok m x = m ∧ y = g .MB_ENOERR ∨ leading ok m x ≠ m ∧ y = g .MB_ENOREG := by
  obtain ⟨st, hst, rfl⟩ := Option.map_eq_some_iff.mp h
  split at hst
  · rename_i hm
    cases hst
    exact Or.inl ⟨hm, rfl⟩
  · rename_i hm
    obtain ⟨e, -, rfl⟩ := Option.map_eq_some_iff.mp hst
    exact Or.inr ⟨hm, rfl⟩

theorem passed_mapped {f : HoleFunc} {j : ℕ} (hj : j < passed f p s cur) :
    ¬f.unmapped cur (firstVisited f p s + BitVec.ofNat 16 j) := by
  have hok : f.goesOn cur (firstVisited f p s + BitVec.ofNat 16 j) = true :=
    (le_leading.mp (Nat.succ_le_of_lt hj)).2 j (Nat.lt_succ_self j)
  intro hun
  cases f with
  | readCoils => simp [HoleFunc.goesOn, readableCoil, show coil cur _ = none from hun] at hok
  | writeCoils => simp [HoleFunc.goesOn, writableCoil, show coil cur _ = none from hun] at hok
  | readInput => simp [HoleFunc.goesOn, readableIn, show regIn cur _ = none from hun] at hok

theorem not_entered {f : HoleFunc} (h : ¬LoopEntered f p s cur) :
    ∃ e t, f.handler p s cur v = some (e, t) ∧ e ≠ .MB_EX_NONE ∧ t.vars = s.vars := by
  cases f with
  | readCoils =>
    by_cases hlen : s.usLength = 5
    · by_cases hn : 1 ≤ askedCount p s ∧ askedCount p s < 0x07D0
      · have hcov : ¬tableCovers cur.sMBCoilTable (askedAddress p s + 1) (loadBE s.ucRcvBuf (p + 3)) = true :=
          fun hc => h ⟨hlen, hn, hc⟩
        rw [HoleFunc.handler, readCoils_parse hlen rfl rfl hn]
        exact ⟨_, _, if_neg hcov, by decide, rfl⟩
      · exact ⟨_, _, readCoils_refused hlen hn, by decide, rfl⟩
    · rw [HoleFunc.handler, eMBSlaveFuncReadCoils, if_neg hlen]
      exact ⟨_, _, rfl, by decide, rfl⟩
  | writeCoils =>
    by_cases hlen : s.usLength > 5
    · by_cases hn : (1 ≤ askedCount p s ∧ askedCount p s ≤ 0x07B0) ∧
          coilBytes (loadBE s.ucRcvBuf (p + 3)) = s.ucRcvBuf (p + 5)
      · have hcov : ¬tableCovers cur.sMBCoilTable (askedAddress p s) (loadBE s.ucRcvBuf (p + 3)) = true :=
          fun hc => h ⟨⟨hlen, hn⟩, hc⟩
        rw [HoleFunc.handler, writeMultipleCoils_parse hlen rfl rfl hn]
        exact ⟨_, _, if_neg hcov, by decide, rfl⟩
      · exact ⟨_, _, writeMultipleCoils_refused hlen hn, by decide, rfl⟩
    · rw [HoleFunc.handler, eMBSlaveFuncWriteMultipleCoils, if_neg hlen]
      exact ⟨_, _, rfl, by decide, rfl⟩
  | readInput =>
    by_cases hlen : s.usLength = 5
    · rw [HoleFunc.handler, readInput_eq hlen rfl rfl]
      by_cases hn : 1 ≤ askedCount p s ∧ askedCount p s < 0x7D
      · have hcov : ¬tableCovers cur.sMBRegInTable (askedAddress p s) (loadBE s.ucRcvBuf (p + 3)) = true :=
          fun hc => h ⟨hlen, hn, hc⟩
        refine ⟨_, _, (if_pos hn).trans (if_neg hcov), by decide, rfl⟩
      · exact ⟨_, _, if_neg hn, by decide, rfl⟩
    · rw [HoleFunc.handler, eMBSlaveFuncReadInputRegister, if_neg hlen]
      exact ⟨_, _, rfl, by decide, rfl⟩

theorem readCoils_entered (h : LoopEntered .readCoils p s cur) :
    eMBSlaveFuncReadCoils cur p s =
      (getRun cur s.vars (visits .readCoils p s) (firstVisited .readCoils p s)).map fun r =>
        (prveMBSlaveError2Exception r.1,
          { s with
            ucRcvBuf := storeList s.ucRcvBuf p (MB_FUNC_READ_COILS :: BitVec.ofNat 8 ((askedCount p s + 7) / 8) ::
              packBytes (startedBytes (askedCount p s / 8 + 1) r.1 r.2) r.2)
            usLength := if r.1 = .MB_ENOERR then 2 + (askedCount p s + 7) / 8 else 2 }) := by
  obtain ⟨hlen, hn, hc⟩ := h
  rw [readCoils_parse hlen rfl rfl hn]
  exact if_pos hc

theorem readInput_entered (h : LoopEntered .readInput p s cur) :
    eMBSlaveFuncReadInputRegister cur v p s =
      (regInRun cur s.vars (visits .readInput p s) (firstVisited .readInput p s) v).map fun r =>
        (prveMBSlaveError2Exception r.1,
          { s with
            ucRcvBuf := storeList s.ucRcvBuf p
              (MB_FUNC_READ_INPUT_REGISTER :: BitVec.ofNat 8 (2 * askedCount p s) :: beBytes r.2)
            usLength := if r.1 = .MB_ENOERR then 2 + 2 * askedCount p s else 2 }) := by
  obtain ⟨hlen, hn, hc⟩ := h
  rw [readInput_eq hlen rfl rfl]
  exact (if_pos hn).trans (if_pos hc)

theorem writeCoils_entered (h : LoopEntered .writeCoils p s cur) :
    eMBSlaveFuncWriteMultipleCoils cur p s =
      (setRun cur (bitAt s.ucRcvBuf (p + 6)) (visits .writeCoils p s) 0 (firstVisited .writeCoils p s) s.vars).map
        fun r => (prveMBSlaveError2Exception r.1,
          { s with usLength := if r.1 = .MB_ENOERR then 5 else s.usLength, vars := r.2 }) := by
  obtain ⟨⟨hlen, hn⟩, hc⟩ := h
  rw [writeMultipleCoils_parse hlen rfl rfl hn]
  exact if_pos hc

/-- **The handler goes through a null pointer exactly when its loop comes to an unmapped address.** -/
theorem handler_none_iff {f : HoleFunc} : f.handler p s cur v = none ↔ ReachesHole f p s cur := by
  by_cases h : LoopEntered f p s cur
  · rw [ReachesHole, and_iff_right h]
    cases f with
    | readCoils =>
      rw [HoleFunc.handler, readCoils_entered h, getRun_eq, Option.map_map]
      exact closedLoop_none
    | writeCoils =>
      rw [HoleFunc.handler, writeCoils_entered h, setRun_eq, Option.map_map]
      exact closedLoop_none
    | readInput =>
      rw [HoleFunc.handler, readInput_entered h, regInRun_eq, Option.map_map]
      exact closedLoop_none
  · obtain ⟨e, t, ht, -, -⟩ := not_entered (v := v) h
    rw [ht]
    exact ⟨nofun, fun hr => absurd hr.1 h⟩

/-- Function code 1: it is answered without an exception when every coil is read, and the first bit of the
answer is then that of the first coil visited. -/
theorem readCoils_answered (h : LoopEntered .readCoils p s cur) (hr : eMBSlaveFuncReadCoils cur p s = some r) :
    (r.1 = .MB_EX_NONE ↔ passed .readCoils p s cur = visits .readCoils p s) ∧
      (passed .readCoils p s cur = visits .readCoils p s → ∃ e, coil cur (askedAddress p s + 1) = some e ∧
        bitAt r.2.ucRcvBuf (p + 2) 0 = coilBit s.vars e) := by
  have hpos : 1 ≤ visits .readCoils p s := by
    have hn := h.2.1.1
    unfold visits runBits
    dsimp only
    split <;> omega
  rw [readCoils_entered h, getRun_eq, Option.map_map] at hr
  rcases closedLoop_ok hr with ⟨hm, rfl⟩ | ⟨hm, rfl⟩
  · -- the loop gets to its end: the first bit is that of the coil one address higher
    refine ⟨iff_of_true rfl hm, ?_⟩
    intro _
    set answer := MB_FUNC_READ_COILS :: BitVec.ofNat 8 ((askedCount p s + 7) / 8) ::
      packBytes (askedCount p s / 8 + 1) (coilBits cur s.vars (visits .readCoils p s) (askedAddress p s + 1)) with ha
    have hbytes : Holds (storeList s.ucRcvBuf p answer) p answer := holds_storeList
    have hbits := (holds_cons.mp (holds_cons.mp hbytes).2).2
    have hfirst := holds_packBytes_iff.mp hbits 0 (by omega)
    obtain ⟨m, hv⟩ : ∃ m, visits .readCoils p s = m + 1 := ⟨visits .readCoils p s - 1, by omega⟩
    have hread : readableCoil cur (askedAddress p s + 1) = true := by
      have hle : 1 ≤ leading (readableCoil cur) (visits .readCoils p s) (askedAddress p s + 1) := hpos.trans hm.ge
      simpa using (le_leading.mp hle).2 0 (by omega)
    cases he : coil cur (askedAddress p s + 1) with
    | none =>
      rw [readableCoil, he] at hread
      cases hread
    | some e =>
      rw [readableCoil, he] at hread
      have hwo : e.ucAccessMode ≠ .WO := by simpa using hread
      refine ⟨e, rfl, hfirst.trans ?_⟩
      rw [hv, coilBits, he]
      dsimp only
      rw [if_neg hwo]
      rfl
  · exact ⟨iff_of_false (show prveMBSlaveError2Exception .MB_ENOREG ≠ .MB_EX_NONE by decide) hm,
      fun hall => absurd hall hm⟩

theorem readInput_answered (h : LoopEntered .readInput p s cur)
    (hr : eMBSlaveFuncReadInputRegister cur v p s = some r) (h0 : r.1 = .MB_EX_NONE) :
    passed .readInput p s cur = visits .readInput p s := by
  rw [readInput_entered h, regInRun_eq, Option.map_map] at hr
  rcases closedLoop_ok hr with ⟨hm, -⟩ | ⟨-, rfl⟩
  · exact hm
  · exact absurd (show prveMBSlaveError2Exception .MB_ENOREG = .MB_EX_NONE from h0) (by decide)

theorem writeCoils_refused (h : ¬LoopEntered .writeCoils p s cur) :
    eMBSlaveFuncWriteMultipleCoils cur p s =
      some (if headerOk .coils p s then .MB_EX_ILLEGAL_DATA_ADDRESS else .MB_EX_ILLEGAL_DATA_VALUE, s) := by
  by_cases hok : headerOk .coils p s
  · have hcov : ¬tableCovers cur.sMBCoilTable (askedAddress p s) (loadBE s.ucRcvBuf (p + 3)) = true :=
      fun hc => h ⟨hok, hc⟩
    rw [if_pos hok, writeMultipleCoils_parse hok.1 rfl rfl hok.2]
    exact if_neg hcov
  · rw [if_neg hok]
    by_cases hlen : s.usLength > 5
    · exact writeMultipleCoils_refused hlen fun hn => hok ⟨hlen, hn⟩
    · rw [eMBSlaveFuncWriteMultipleCoils, if_neg hlen]

section Same

variable {t : Store}

theorem SameForMapped.word (h : SameForMapped p s cur t) {k : ℕ} (hk : k < 5) :
    loadBE t.ucRcvBuf (p + k) = loadBE s.ucRcvBuf (p + k) := by
  rw [loadBE, loadBE, h.header k (by omega), Nat.add_assoc, h.header (k + 1) (by omega)]

theorem SameForMapped.headerOk_iff (h : SameForMapped p s cur t) : headerOk .coils p t ↔ headerOk .coils p s := by
  have hn : writeCount .coils p t = writeCount .coils p s := h.word (k := 3) (by omega)
  have hb : t.ucRcvBuf (p + 5) = s.ucRcvBuf (p + 5) := h.header 5 (by omega)
  unfold headerOk
  simp only [hn, h.usLength, WriteFunc.byteCountAt, hb]

theorem SameForMapped.entered_iff (h : SameForMapped p s cur t) :
    LoopEntered .writeCoils p t cur ↔ LoopEntered .writeCoils p s cur := by
  have ha : writeAddress .coils p t = writeAddress .coils p s := h.word (k := 1) (by omega)
  have hn : writeCount .coils p t = writeCount .coils p s := h.word (k := 3) (by omega)
  refine and_congr h.headerOk_iff ?_
  rw [writeCovered, writeCovered, ha, hn]

theorem SameForMapped.run_eq (h : SameForMapped p s cur t) :
    setRun cur (bitAt t.ucRcvBuf (p + 6)) (visits .writeCoils p t) 0 (firstVisited .writeCoils p t) t.vars =
      setRun cur (bitAt s.ucRcvBuf (p + 6)) (visits .writeCoils p s) 0 (firstVisited .writeCoils p s) s.vars := by
  have ha : firstVisited .writeCoils p t = firstVisited .writeCoils p s := h.word (k := 1) (by omega)
  have hn : visits .writeCoils p t = visits .writeCoils p s := by
    rw [visits, visits, askedCount, askedCount, h.word (k := 3) (by omega)]
  rw [ha, hn, h.vars]
  apply setRun_congr_mapped
  intro j hj
  rw [Nat.zero_add]
  exact h.bits j hj

end Same

/-- **What is sent to unmapped coils is ignored.** -/
theorem writeCoils_ignores (hr : eMBSlaveFuncWriteMultipleCoils cur p s = some r) :
    (∀ b, r.2.vars b ≠ s.vars b → ∃ y, coilVar cur y = some b) ∧
      ∀ t, SameForMapped p s cur t →
        ∃ r', eMBSlaveFuncWriteMultipleCoils cur p t = some r' ∧ r'.1 = r.1 ∧ r'.2.vars = r.2.vars := by
  by_cases h : LoopEntered .writeCoils p s cur
  · rw [writeCoils_entered h] at hr
    obtain ⟨w, hw, rfl⟩ := Option.map_eq_some_iff.mp hr
    refine ⟨fun b hb => setRun_changes hw hb, ?_⟩
    intro t ht
    rw [writeCoils_entered (ht.entered_iff.mpr h), ht.run_eq, hw]
    exact ⟨_, rfl, rfl, rfl⟩
  · rw [writeCoils_refused h] at hr
    cases hr
    refine ⟨fun b hb => absurd rfl hb, ?_⟩
    intro t ht
    rw [writeCoils_refused (mt ht.entered_iff.mp h)]
    exact ⟨_, rfl, if_congr ht.headerOk_iff rfl rfl, ht.vars⟩

end Handlers

/-- **Unmapped addresses are harmless unless the loop comes to one**, or function code 1 reads the neighbour
of an unmapped coil in its place: for every table, every map function and every request. -/
theorem holes_harmless_iff (cur : sMBSlaveCommData) (v : USHORT) (f : HoleFunc) (p : ℕ) (s : Store) :
    HolesHarmless f p s cur v ↔ ¬ReachesHole f p s cur ∧ ¬ReadsNeighbour f p s cur := by
  constructor
  · intro hh
    have hnone : ¬ReachesHole f p s cur := fun hr => hh.returns (handler_none_iff.mpr hr)
    refine ⟨hnone, ?_⟩
    rintro ⟨rfl, hent, hall, hun, e, he, hbit⟩
    obtain ⟨r, hr⟩ := Option.ne_none_iff_exists'.mp hh.returns
    obtain ⟨hst, hbits⟩ := readCoils_answered hent hr
    obtain ⟨e', he', hfirst⟩ := hbits hall
    cases he.symm.trans he'
    have hun₀ : HoleFunc.readCoils.unmapped cur (askedAddress p s + BitVec.ofNat 16 0) := by
      rw [add_ofNat_zero]
      exact hun
    have hzero := hh.reads r hr (hst.mpr hall) 0 hent.2.1.1 hun₀
    rw [answersZero, hfirst, hbit] at hzero
    cases hzero
  · rintro ⟨hnone, hnb⟩
    constructor
    · exact fun hr => hnone (handler_none_iff.mp hr)
    · intro r hr h0 j hj hun
      have hent : LoopEntered f p s cur := by
        by_contra hent
        obtain ⟨e, t, ht, he, -⟩ := not_entered (v := v) hent
        rw [ht] at hr
        cases hr
        exact he h0
      cases f with
      | readCoils =>
        obtain ⟨hst, hbits⟩ := readCoils_answered hent hr
        have hall := hst.mp h0
        have hle : askedCount p s ≤ visits .readCoils p s := by
          unfold visits runBits
          dsimp only
          split <;> omega
        cases j with
        | zero =>
          obtain ⟨e, he, hfirst⟩ := hbits hall
          rw [add_ofNat_zero] at hun
          have hbit : coilBit s.vars e ≠ true := fun hbit => hnb ⟨rfl, hent, hall, hun, e, he, hbit⟩
          exact hfirst.trans (Bool.eq_false_iff.mpr hbit)
        | succ j =>
          -- the coil is among those visited, one place before
          rw [← add_ofNat_succ] at hun
          exact absurd hun (passed_mapped (f := .readCoils) (hall.symm ▸ (by omega)))
      | writeCoils => trivial
      | readInput =>
        have hall := readInput_answered hent hr h0
        exact absurd hun (passed_mapped (f := .readInput) (hall.symm ▸ hj))
    · rintro rfl r hr
      exact writeCoils_ignores hr

/-- A table of input registers for the addresses 0 and 1, of which only 0 is mapped. -/
def tableWithHole : sMBSlaveCommData where
  sMBRegInTable := ⟨some fun _ => ⟨0, 0, 0xFFFF, 1, .uint16, .RO, some 0⟩, 0, 1, 1⟩
  sMBRegHoldTable := ⟨none, 0, 0, 0⟩
  sMBCoilTable := ⟨none, 0, 0, 0⟩
  pxSlaveDataMapIndex := some fun _ usAddress => if usAddress = 0 then some 0 else none

/-- Function code 4 for both addresses. -/
def readAcrossHole : Store := storeOf 7 [MB_FUNC_READ_INPUT_REGISTER, 0, 0, 0, 2] fun _ => 0

/-- The loop goes through the null pointer of the address 1. -/
theorem hole_not_harmless :
    tableCovers tableWithHole.sMBRegInTable (askedAddress 7 readAcrossHole) 2 ∧
      ¬HolesHarmless .readInput 7 readAcrossHole tableWithHole 0 :=
  ⟨by decide, fun h => h.returns rfl⟩

end GreeIntense.Slave

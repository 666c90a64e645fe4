import GreeIntense.Slave.CoilsRoundTrip
import GreeIntense.Slave.Poll

/-!
# What a write request leaves

The function codes 15, 16 and 23 check a request in two stages.  First come the checks of length, counts
and address range (`passes`).  The loop that follows checks each entry as it reaches it, and has assigned
the entries before one that refuses its value.

`write_exception` is the state an exception leaves: that of the entries before the first refused one,
exactly.  `write_not_atomic` is a request that is answered with an exception and has changed a variable.
-/

namespace GreeIntense.Slave

open Lib.Memory Lib.Bits

/-- The functions that write. -/
inductive WriteFunc
  | registers | coils | readWrite
  deriving DecidableEq, Repr

def WriteFunc.code : WriteFunc → UCHAR
  | .registers => MB_FUNC_WRITE_MULTIPLE_REGISTERS
  | .coils => MB_FUNC_WRITE_MULTIPLE_COILS
  | .readWrite => MB_FUNC_READWRITE_MULTIPLE_REGISTERS

section Requests

variable (f : WriteFunc) (p : ℕ) (s : Store)

/-- The offset of the byte count in the PDU. -/
def WriteFunc.byteCountAt : WriteFunc → ℕ
  | .registers | .coils => 5
  | .readWrite => 9

/-- The address the values go to. -/
def writeAddress : USHORT :=
  match f with
  | .registers | .coils => loadBE s.ucRcvBuf (p + 1)
  | .readWrite => loadBE s.ucRcvBuf (p + 5) + 1

/-- The count of a write request. -/
def writeCount : USHORT :=
  match f with
  | .registers | .coils => loadBE s.ucRcvBuf (p + 3)
  | .readWrite => loadBE s.ucRcvBuf (p + 7)

/-- The entries the loop goes over. -/
def loopEntries : ℕ :=
  match f with
  | .registers | .readWrite => (writeCount f p s).toNat
  | .coils => runBits (writeCount f p s).toNat

/-- The header of the request is in order: long enough, counts in their limits, and the byte count that of
the count. -/
def headerOk : Prop :=
  let n := (writeCount f p s).toNat
  let ucByteCount := s.ucRcvBuf (p + f.byteCountAt)
  match f with
  | .registers => s.usLength ≥ 6 ∧ (1 ≤ n ∧ n ≤ 0x78) ∧ ucByteCount = lo (2 * writeCount f p s)
  | .coils => s.usLength > 5 ∧ (1 ≤ n ∧ n ≤ 0x07B0) ∧ coilBytes (writeCount f p s) = ucByteCount
  | .readWrite =>
    let rn := (loadBE s.ucRcvBuf (p + 3)).toNat
    s.usLength ≥ 10 ∧ (1 ≤ rn ∧ rn ≤ 0x7D) ∧ (1 ≤ n ∧ n ≤ 0x79) ∧ 2 * n = ucByteCount.toNat

variable (cur : sMBSlaveCommData)

/-- The table of the function covers the range written. -/
def writeCovered : Prop :=
  match f with
  | .registers | .readWrite => tableCovers cur.sMBRegHoldTable (writeAddress f p s) (writeCount f p s)
  | .coils => tableCovers cur.sMBCoilTable (writeAddress f p s) (writeCount f p s)

/-- The request passes the checks made before the loop. -/
def passes : Prop := headerOk f p s ∧ writeCovered f p s cur

instance : Decidable (headerOk f p s) := by
  cases f <;> unfold headerOk <;> infer_instance

instance : Decidable (writeCovered f p s cur) := by
  cases f <;> unfold writeCovered <;> infer_instance

instance : Decidable (passes f p s cur) := inferInstanceAs (Decidable (_ ∧ _))

/-- The loop over the first `k` entries: the status and the variables. -/
def assignFirst (k : ℕ) : Option (eMBErrorCode × Mem) :=
  match f with
  | .registers | .readWrite =>
    some (regHoldAssign cur (wordsAt s.ucRcvBuf (p + f.byteCountAt + 1) k) (writeAddress f p s) s.vars)
  | .coils => setRun cur (bitAt s.ucRcvBuf (p + f.byteCountAt + 1)) k 0 (writeAddress f p s) s.vars

/-- The entry `k` of the request refuses its value. -/
def refusedAt (k : ℕ) : Prop :=
  match f with
  | .registers | .readWrite =>
    refuses (regHold cur (writeAddress f p s + BitVec.ofNat 16 k))
      (loadBE s.ucRcvBuf (p + f.byteCountAt + 1 + 2 * k))
  | .coils => ∃ e, coil cur (writeAddress f p s + BitVec.ofNat 16 k) = some e ∧ e.ucAccessMode = .RO

/-- The byte is one of the variable of the entry `k`. -/
def entryByte (k b : ℕ) : Prop :=
  match f with
  | .registers | .readWrite =>
    ∃ e q, regHold cur (writeAddress f p s + BitVec.ofNat 16 k) = some e ∧ e.pvValue = some q ∧ b ∈ varBytes e q
  | .coils => ∃ e, coil cur (writeAddress f p s + BitVec.ofNat 16 k) = some e ∧ e.pvValue = some b

/-- The range read by function code 23 is in the table; the other two functions read nothing. -/
def readCovered : Prop :=
  f = .readWrite → tableCovers cur.sMBRegHoldTable (loadBE s.ucRcvBuf (p + 1)) (loadBE s.ucRcvBuf (p + 3))

instance : Decidable (readCovered f p s cur) := by unfold readCovered; infer_instance

/-- The answer to a request that passes, from the status of its loop. -/
def loopAnswer (status : eMBErrorCode) : eMBException :=
  if status = .MB_ENOERR ∧ ¬readCovered f p s cur then .MB_EX_ILLEGAL_DATA_ADDRESS
  else prveMBSlaveError2Exception status

end Requests

/-! ### A loop that stops -/

section Loops

variable {cur : sMBSlaveCommData}

theorem wordsAt_take (m : Mem) (p : ℕ) {k n : ℕ} (h : k ≤ n) : (wordsAt m p n).take k = wordsAt m p k := by
  rw [wordsAt, wordsAt, ← List.map_take, List.take_range, Nat.min_eq_left h]

variable (cur) in
/-- The writing loop either takes every word or stops at one that is refused, with the words before it
assigned. -/
theorem regHoldAssign_stop (ws : List USHORT) (i : USHORT) (vars : Mem) :
    (regHoldAssign cur ws i vars).1 = .MB_ENOERR ∨
      ∃ k, ∃ h : k < ws.length, refuses (regHold cur (i + BitVec.ofNat 16 k)) ws[k] ∧
        regHoldAssign cur (ws.take k) i vars = (.MB_ENOERR, (regHoldAssign cur ws i vars).2) := by
  induction ws generalizing i vars with
  | nil => exact Or.inl rfl
  | cons w ws ih =>
    by_cases hr : refuses (regHold cur i) w
    · refine Or.inr ⟨0, by simp, by simpa using hr, ?_⟩
      simp only [List.take_zero, regHoldAssign, regHoldWrite_eq, hr, if_true]
    · have hstep (us : List USHORT) : regHoldAssign cur (w :: us) i vars =
          regHoldAssign cur us (i + 1) fun b => (assignedByte (regHold cur i) w b).getD (vars b) := by
        simp only [regHoldAssign, regHoldWrite_eq, hr, if_false, Bool.false_eq_true]
      rw [hstep]
      rcases ih (i + 1) fun b => (assignedByte (regHold cur i) w b).getD (vars b) with hok | ⟨k, hk, href, hpre⟩
      · exact Or.inl hok
      · refine Or.inr ⟨k + 1, by simpa using hk, ?_, ?_⟩
        · rw [← add_ofNat_succ]
          simpa using href
        · rw [List.take_succ_cons, hstep]
          exact hpre

variable (cur) in
/-- The coil loop either takes every bit or stops at a read-only coil, with the bits before it assigned. -/
theorem setRun_stop (f : ℕ → Bool) (m k : ℕ) (x : USHORT) (vars : Mem) {r : eMBErrorCode × Mem}
    (h : setRun cur f m k x vars = some r) :
    r.1 = .MB_ENOERR ∨ r.1 = .MB_ENOREG ∧
      ∃ j < m, (∃ e, coil cur (x + BitVec.ofNat 16 j) = some e ∧ e.ucAccessMode = .RO) ∧
        setRun cur f j k x vars = some (.MB_ENOERR, r.2) := by
  induction m generalizing k x vars with
  | zero =>
    cases h
    exact Or.inl rfl
  | succ m ih =>
    rw [setRun] at h
    cases he : coil cur x with
    | none => simp [he] at h
    | some e =>
      simp only [he] at h
      by_cases hro : e.ucAccessMode = .RO
      · rw [if_pos hro] at h
        cases h
        exact Or.inr ⟨rfl, 0, by omega, ⟨e, by simpa using he, hro⟩, rfl⟩
      · rw [if_neg hro] at h
        rcases ih _ _ _ h with hok | ⟨hst, j, hj, href, hpre⟩
        · exact Or.inl hok
        · refine Or.inr ⟨hst, j + 1, by omega, ?_, ?_⟩
          · rw [← add_ofNat_succ]
            exact href
          · rw [setRun, he]
            dsimp only
            rw [if_neg hro]
            exact hpre

end Loops

/-! ### The handlers -/

section Handlers

variable {cur : sMBSlaveCommData} {f : WriteFunc} {p : ℕ} {s : Store} {v : USHORT}

/-- A request that fails the checks changes no variable.  It is answered with an exception, except for a
function-code-23 request shorter than its header. -/
theorem execute_not_passes (h : ¬passes f p s cur) :
    ∃ e s', execute cur v f.code p s = some (e, s') ∧ s'.vars = s.vars ∧
      (e = .MB_EX_NONE ↔ f = .readWrite ∧ s.usLength < 10) := by
  cases f with
  | registers =>
    change ∃ e s', some (eMBSlaveFuncWriteMultipleHoldingRegister cur p s) = some (e, s') ∧ _
    by_cases hlen : s.usLength ≥ 6
    · rw [writeMultipleHolding_parse hlen rfl rfl]
      split
      · rename_i hn
        split
        · rename_i hc
          exact absurd ⟨⟨hlen, hn⟩, hc⟩ h
        · exact ⟨_, _, rfl, rfl, by simp⟩
      · exact ⟨_, _, rfl, rfl, by simp⟩
    · rw [eMBSlaveFuncWriteMultipleHoldingRegister, if_neg hlen]
      exact ⟨_, _, rfl, rfl, by simp⟩
  | coils =>
    change ∃ e s', eMBSlaveFuncWriteMultipleCoils cur p s = some (e, s') ∧ _
    by_cases hlen : s.usLength > 5
    · by_cases hn : (1 ≤ (loadBE s.ucRcvBuf (p + 3)).toNat ∧ (loadBE s.ucRcvBuf (p + 3)).toNat ≤ 0x07B0) ∧
          coilBytes (loadBE s.ucRcvBuf (p + 3)) = s.ucRcvBuf (p + 5)
      · rw [writeMultipleCoils_parse hlen rfl rfl hn]
        split
        · rename_i hc
          exact absurd ⟨⟨hlen, hn⟩, hc⟩ h
        · exact ⟨_, _, rfl, rfl, by simp⟩
      · rw [writeMultipleCoils_refused hlen hn]
        exact ⟨_, _, rfl, rfl, by simp⟩
    · rw [eMBSlaveFuncWriteMultipleCoils, if_neg hlen]
      exact ⟨_, _, rfl, rfl, by simp⟩
  | readWrite =>
    change ∃ e s', some (eMBSlaveFuncReadWriteMultipleHoldingRegister cur p s) = some (e, s') ∧ _
    by_cases hlen : s.usLength ≥ 10
    · rw [readWriteMultipleHolding_parse hlen rfl rfl rfl rfl]
      split
      · rename_i hn
        split
        · rename_i hc
          exact absurd ⟨⟨hlen, hn⟩, hc⟩ h
        · exact ⟨_, _, rfl, rfl, by simp [show ¬s.usLength < 10 by omega]⟩
      · exact ⟨_, _, rfl, rfl, by simp [show ¬s.usLength < 10 by omega]⟩
    · -- too short for a header: this handler has no branch for it, and answers without an exception
      rw [eMBSlaveFuncReadWriteMultipleHoldingRegister, if_neg hlen]
      exact ⟨_, _, rfl, rfl, by simp [show s.usLength < 10 by omega]⟩

theorem loopAnswer_of_ne (hf : f ≠ .readWrite) (status : eMBErrorCode) :
    loopAnswer f p s cur status = prveMBSlaveError2Exception status := by
  have hr : readCovered f p s cur := fun h => absurd h hf
  rw [loopAnswer, if_neg fun h => h.2 hr]

/-- **A request that passes**: the answer and the variables are those of the loop. -/
theorem execute_passes (h : passes f p s cur) :
    (execute cur v f.code p s).map (fun r => (r.1, r.2.vars)) =
      (assignFirst f p s cur (loopEntries f p s)).map fun r => (loopAnswer f p s cur r.1, r.2) := by
  obtain ⟨hh, hc⟩ := h
  cases f with
  | registers =>
    obtain ⟨hlen, hn⟩ := hh
    have hc' : tableCovers cur.sMBRegHoldTable (loadBE s.ucRcvBuf (p + 1)) (loadBE s.ucRcvBuf (p + 3)) := hc
    have hn' : (1 ≤ (loadBE s.ucRcvBuf (p + 3)).toNat ∧ (loadBE s.ucRcvBuf (p + 3)).toNat ≤ 0x78) ∧
      s.ucRcvBuf (p + 5) = lo (2 * loadBE s.ucRcvBuf (p + 3)) := hn
    change (some (eMBSlaveFuncWriteMultipleHoldingRegister cur p s)).map _ = _
    rw [writeMultipleHolding_parse hlen rfl rfl, if_pos hn', if_pos hc']
    simp only [loopAnswer_of_ne (show WriteFunc.registers ≠ .readWrite by decide)]
    rfl
  | coils =>
    obtain ⟨hlen, hn⟩ := hh
    have hc' : tableCovers cur.sMBCoilTable (loadBE s.ucRcvBuf (p + 1)) (loadBE s.ucRcvBuf (p + 3)) := hc
    change (eMBSlaveFuncWriteMultipleCoils cur p s).map _ = _
    rw [writeMultipleCoils_parse hlen rfl rfl hn, if_pos hc', Option.map_map]
    simp only [loopAnswer_of_ne (show WriteFunc.coils ≠ .readWrite by decide)]
    rfl
  | readWrite =>
    obtain ⟨hlen, hn⟩ := hh
    have hc' : tableCovers cur.sMBRegHoldTable (loadBE s.ucRcvBuf (p + 5) + 1) (loadBE s.ucRcvBuf (p + 7)) := hc
    have hn' : (1 ≤ (loadBE s.ucRcvBuf (p + 3)).toNat ∧ (loadBE s.ucRcvBuf (p + 3)).toNat ≤ 0x7D) ∧
        (1 ≤ (loadBE s.ucRcvBuf (p + 7)).toNat ∧ (loadBE s.ucRcvBuf (p + 7)).toNat ≤ 0x79) ∧
        2 * (loadBE s.ucRcvBuf (p + 7)).toNat = (s.ucRcvBuf (p + 9)).toNat := hn
    change (some (eMBSlaveFuncReadWriteMultipleHoldingRegister cur p s)).map _ = _
    rw [readWriteMultipleHolding_parse hlen rfl rfl rfl rfl, if_pos hn', if_pos hc', Option.map_some]
    change _ = some (loopAnswer .readWrite p s cur (regHoldAssign cur
      (wordsAt s.ucRcvBuf (p + 10) (loadBE s.ucRcvBuf (p + 7)).toNat) (loadBE s.ucRcvBuf (p + 5) + 1) s.vars).1, _)
    dsimp only
    -- the read is made only if the write is not refused
    by_cases hok : (regHoldAssign cur (wordsAt s.ucRcvBuf (p + 10) (loadBE s.ucRcvBuf (p + 7)).toNat)
        (loadBE s.ucRcvBuf (p + 5) + 1) s.vars).1 = .MB_ENOERR
    · by_cases hr : tableCovers cur.sMBRegHoldTable (loadBE s.ucRcvBuf (p + 1)) (loadBE s.ucRcvBuf (p + 3)) = true
      · have hrc : readCovered .readWrite p s cur := fun _ => hr
        rw [if_pos hok, if_pos hr, loopAnswer, if_neg fun h => h.2 hrc, hok]
        rfl
      · have hrc : ¬readCovered .readWrite p s cur := fun h => hr (h rfl)
        rw [if_pos hok, if_neg hr, loopAnswer, if_pos ⟨hok, hrc⟩]
        rfl
    · rw [if_neg hok, loopAnswer, if_neg fun h => hok h.1]
      rfl

end Handlers

/-! ### Exceptions -/

section Exceptions

variable {cur : sMBSlaveCommData} {f : WriteFunc} {p : ℕ} {s s' : Store} {v : USHORT} {e : eMBException}

/-- **A loop that goes through, or stops at a refused entry.** -/
theorem assignFirst_stop {r : eMBErrorCode × Mem} (h : assignFirst f p s cur (loopEntries f p s) = some r) :
    r.1 = .MB_ENOERR ∨ ∃ k < loopEntries f p s, refusedAt f p s cur k ∧
      assignFirst f p s cur k = some (.MB_ENOERR, r.2) := by
  -- both register functions run one loop
  have hwords (hf : f ≠ .coils) : r.1 = .MB_ENOERR ∨ ∃ k < (writeCount f p s).toNat,
      refuses (regHold cur (writeAddress f p s + BitVec.ofNat 16 k))
        (loadBE s.ucRcvBuf (p + f.byteCountAt + 1 + 2 * k)) ∧
      regHoldAssign cur (wordsAt s.ucRcvBuf (p + f.byteCountAt + 1) k) (writeAddress f p s) s.vars =
        (.MB_ENOERR, r.2) := by
    have hr : regHoldAssign cur (wordsAt s.ucRcvBuf (p + f.byteCountAt + 1) (writeCount f p s).toNat)
        (writeAddress f p s) s.vars = r := by
      cases f with
      | registers => exact Option.some.inj h
      | readWrite => exact Option.some.inj h
      | coils => exact absurd rfl hf
    rw [← hr]
    rcases regHoldAssign_stop cur (wordsAt s.ucRcvBuf (p + f.byteCountAt + 1) (writeCount f p s).toNat)
      (writeAddress f p s) s.vars with hok | ⟨k, hk, href, hpre⟩
    · exact Or.inl hok
    · rw [wordsAt_length] at hk
      rw [wordsAt_take _ _ hk.le] at hpre
      refine Or.inr ⟨k, hk, ?_, hpre⟩
      simpa [wordsAt] using href
  cases f with
  | registers =>
    rcases hwords (by decide) with hok | ⟨k, hk, href, hpre⟩
    · exact Or.inl hok
    · exact Or.inr ⟨k, hk, href, congrArg some hpre⟩
  | readWrite =>
    rcases hwords (by decide) with hok | ⟨k, hk, href, hpre⟩
    · exact Or.inl hok
    · exact Or.inr ⟨k, hk, href, congrArg some hpre⟩
  | coils =>
    rcases setRun_stop cur _ _ _ _ _ h with hok | ⟨-, k, hk, href, hpre⟩
    · exact Or.inl hok
    · exact Or.inr ⟨k, hk, href, hpre⟩

/-- The loop over the first `k` entries leaves the other variables. -/
theorem assignFirst_frame {k b : ℕ} {r : eMBErrorCode × Mem} (h : assignFirst f p s cur k = some r)
    (hb : ∀ j < k, ¬entryByte f p s cur j b) : r.2 b = s.vars b := by
  have hwords (hf : f ≠ .coils) (hr : regHoldAssign cur (wordsAt s.ucRcvBuf (p + f.byteCountAt + 1) k)
      (writeAddress f p s) s.vars = r) : r.2 b = s.vars b := by
    rw [← hr]
    refine regHoldAssign_frame fun j hj e q he hq hin => hb j (by rwa [wordsAt_length] at hj) ?_
    cases f with
    | registers => exact ⟨e, q, he, hq, hin⟩
    | readWrite => exact ⟨e, q, he, hq, hin⟩
    | coils => exact absurd rfl hf
  cases f with
  | registers => exact hwords (by decide) (Option.some.inj h)
  | readWrite => exact hwords (by decide) (Option.some.inj h)
  | coils => exact setRun_frame h fun j hj e he hq => hb j hj ⟨e, he, hq⟩

/-- **What an exception leaves.**  A request that fails the checks before the loop changes no variable.
Otherwise the variables are those the loop leaves after the first `k` entries, all of them taken, and the others are
as they were: entry `k` is the one that is refused, or every entry is taken and the range function code 23 reads is
not in the table. -/
theorem write_exception (h : execute cur v f.code p s = some (e, s')) (he : e ≠ .MB_EX_NONE) :
    ¬passes f p s cur ∧ s'.vars = s.vars ∨
      passes f p s cur ∧ ∃ k, assignFirst f p s cur k = some (.MB_ENOERR, s'.vars) ∧
        (k < loopEntries f p s ∧ refusedAt f p s cur k ∨ k = loopEntries f p s ∧ ¬readCovered f p s cur) ∧
        ∀ b, (∀ j < k, ¬entryByte f p s cur j b) → s'.vars b = s.vars b := by
  by_cases hp : passes f p s cur
  · have hx := execute_passes (v := v) hp
    rw [h, Option.map_some] at hx
    obtain ⟨r, hr, hans⟩ := Option.map_eq_some_iff.mp hx.symm
    obtain ⟨h1, h2⟩ := Prod.mk.inj hans
    refine Or.inr ⟨hp, ?_⟩
    by_cases hok : r.1 = .MB_ENOERR
    · have hall : assignFirst f p s cur (loopEntries f p s) = some (.MB_ENOERR, s'.vars) := by rw [hr, ← h2, ← hok]
      refine ⟨loopEntries f p s, hall, Or.inr ⟨rfl, fun hrc => ?_⟩, fun b hb => assignFirst_frame hall hb⟩
      rw [loopAnswer, if_neg fun h => h.2 hrc, hok] at h1
      exact he h1.symm
    · rcases assignFirst_stop hr with hok' | ⟨k, hk, href, hpre⟩
      · exact absurd hok' hok
      · have hfirst : assignFirst f p s cur k = some (.MB_ENOERR, s'.vars) := by rw [hpre, ← h2]
        exact ⟨k, hfirst, Or.inl ⟨hk, href⟩, fun b hb => assignFirst_frame hfirst hb⟩
  · obtain ⟨e', s'', hx, hv, -⟩ := execute_not_passes (v := v) hp
    rw [h] at hx
    cases hx
    exact Or.inl ⟨hp, hv⟩

end Exceptions

/-! ### A request for a writable and a read-only register -/

/-- Every bound variable keeps its value when the request is answered with an exception. -/
def WriteAtomic (cur : sMBSlaveCommData) (f : WriteFunc) (v : USHORT) (p : ℕ) (s : Store) : Prop :=
  ∀ e s', execute cur v f.code p s = some (e, s') → e ≠ .MB_EX_NONE →
    (∀ x r q, regHold cur x = some r → r.pvValue = some q → ∀ b ∈ varBytes r q, s'.vars b = s.vars b) ∧
      ∀ x c q, coil cur x = some c → c.pvValue = some q → s'.vars q = s.vars q

/-- A table of two registers: a writable one at 0 and a read-only one at 1. -/
def twoRegisters : sMBSlaveCommData where
  sMBRegInTable := ⟨none, 0, 0, 0⟩
  sMBRegHoldTable := ⟨some fun i => if i = 0 then ⟨0, 0, 1000, 1, .uint16, .RW, some 0⟩
    else ⟨1, 0, 1000, 1, .uint16, .RO, some 2⟩, 0, 9, 2⟩
  sMBCoilTable := ⟨none, 0, 0, 0⟩
  pxSlaveDataMapIndex := some fun _ x => if x = 0 then some 0 else if x = 1 then some 1 else none

/-- Function code 16 with 500 and 77 for both: the read-only register refuses, and the first variable is 500. -/
theorem write_not_atomic :
    ¬WriteAtomic twoRegisters .registers 0 7 (storeOf 7 (writeRequest 0 [500, 77]) fun _ => 0) := by
  intro h
  have hx : (execute twoRegisters 0 WriteFunc.registers.code 7 (storeOf 7 (writeRequest 0 [500, 77])
      fun _ => 0)).map (fun r => (r.1, r.2.vars 0)) = some (.MB_EX_ILLEGAL_DATA_VALUE, 244) := by decide
  obtain ⟨⟨e, s'⟩, hr, he⟩ := Option.map_eq_some_iff.mp hx
  obtain ⟨h1, h2⟩ := Prod.mk.inj he
  have hv := (h e s' hr (by rw [show e = _ from h1]; decide)).1 0 _ 0 rfl rfl 0 ⟨le_rfl, by decide⟩
  rw [show s'.vars 0 = 244 from h2] at hv
  exact absurd hv (by decide)

/-- The state it leaves is that of its first entries. -/
theorem write_exception_twoRegisters :
    ∃ s' k, execute twoRegisters 0 WriteFunc.registers.code 7 (storeOf 7 (writeRequest 0 [500, 77]) fun _ => 0) =
        some (.MB_EX_ILLEGAL_DATA_VALUE, s') ∧
      assignFirst .registers 7 (storeOf 7 (writeRequest 0 [500, 77]) fun _ => 0) twoRegisters k =
        some (.MB_ENOERR, s'.vars) ∧ k < 2 := by
  set s := storeOf 7 (writeRequest 0 [500, 77]) fun _ => 0
  have hx : (execute twoRegisters 0 WriteFunc.registers.code 7 s).map (·.1) = some .MB_EX_ILLEGAL_DATA_VALUE := by
    decide
  obtain ⟨⟨e, s'⟩, hr, rfl⟩ := Option.map_eq_some_iff.mp hx
  have hp : passes .registers 7 s twoRegisters := by decide
  obtain ⟨hn, -⟩ | ⟨-, k, hk, ⟨hlt, -⟩ | ⟨-, hc⟩, -⟩ := write_exception hr nofun
  · exact absurd hp hn
  · have hn : loopEntries .registers 7 s = 2 := by decide
    exact ⟨s', k, hr, hk, by omega⟩
  · exact absurd (by decide) hc

end GreeIntense.Slave

import GreeIntense.Slave.CoilsSpec
import GreeIntense.Slave.ReadWrite

/-!
# When coils round-trip

A write of `n` bits from `a` on (function code 15) followed by a read of `n` coils at `a` (function
code 1).  Two things stand in the way: the read handler takes the address after `a`, and the passes
over a multiple of eight coils take eight coils more, with the bits of the byte after the payload.
`CoilsFit` is what makes up for both, and `coils_round_trip_iff` says that nothing less does.
-/

namespace GreeIntense.Slave

open Lib.Memory Lib.Bits

variable {cur : sMBSlaveCommData}

/-! ### Passes over coils that are mapped -/

theorem setRun_ok_iff {f : ℕ → Bool} {m k : ℕ} {x : USHORT} {vars : Mem} :
    (∃ v, setRun cur f m k x vars = some (.MB_ENOERR, v)) ↔
      ∀ i < m, ∃ e, coil cur (x + BitVec.ofNat 16 i) = some e ∧ e.ucAccessMode ≠ .RO := by
  induction m generalizing k x vars with
  | zero => simp [setRun]
  | succ m ih =>
    rw [setRun]
    constructor
    · intro h i hi
      cases he : coil cur x with
      | none => simp [he] at h
      | some e =>
        simp only [he] at h
        by_cases hro : e.ucAccessMode = .RO
        · simp [hro] at h
        · rw [if_neg hro, ih] at h
          cases i with
          | zero => exact ⟨e, by rw [add_ofNat_zero]; exact he, hro⟩
          | succ i =>
            rw [← add_ofNat_succ]
            exact h i (by omega)
    · intro h
      obtain ⟨e, he, hro⟩ := h 0 (by omega)
      rw [add_ofNat_zero] at he
      simp only [he, if_neg hro]
      apply ih.mpr
      intro i hi
      rw [add_ofNat_succ]
      exact h (i + 1) (by omega)

theorem setCoil_ne {vars : Mem} {e : sMBSlaveBitData} {q : ℕ} (h : e.pvValue ≠ some q) (b : UCHAR) :
    setCoil vars e b q = vars q := by
  unfold setCoil
  cases hp : e.pvValue with
  | none => rfl
  | some p => exact store8_ne _ _ _ _ fun hqp => h (by rw [hp, hqp])

theorem setRun_frame {f : ℕ → Bool} {m k : ℕ} {x : USHORT} {vars v : Mem} {st : eMBErrorCode} {q : ℕ}
    (h : setRun cur f m k x vars = some (st, v))
    (hq : ∀ i < m, ∀ e, coil cur (x + BitVec.ofNat 16 i) = some e → e.pvValue ≠ some q) : v q = vars q := by
  induction m generalizing k x vars with
  | zero =>
    cases h
    rfl
  | succ m ih =>
    rw [setRun] at h
    split at h
    · exact absurd h (by simp)
    · rename_i e he
      split at h
      · cases h
        rfl
      · have h0 := hq 0 (by omega) e (by rw [add_ofNat_zero]; exact he)
        rw [ih h fun i hi => by rw [add_ofNat_succ]; exact hq (i + 1) (by omega)]
        exact setCoil_ne h0 _

/-- No two addresses are mapped to one variable. -/
def DistinctCoils (cur : sMBSlaveCommData) : Prop :=
  ∀ x y e e' q, coil cur x = some e → coil cur y = some e' → e.pvValue = some q → e'.pvValue = some q → x = y

theorem setRun_value (hd : DistinctCoils cur) {f : ℕ → Bool} {m k : ℕ} {x : USHORT} {vars v : Mem}
    (hm : m ≤ 65536) (h : setRun cur f m k x vars = some (.MB_ENOERR, v)) {i : ℕ} (hi : i < m)
    {e : sMBSlaveBitData} {q : ℕ} (he : coil cur (x + BitVec.ofNat 16 i) = some e) (hq : e.pvValue = some q) :
    v q = bitByte (f (k + i)) := by
  induction m generalizing k x vars i with
  | zero => omega
  | succ m ih =>
    rw [setRun] at h
    split at h
    · exact absurd h (by simp)
    · rename_i e0 he0
      split at h
      · exact absurd h (by simp)
      · cases i with
        | succ i =>
          rw [← add_ofNat_succ] at he
          rw [ih (by omega) h (by omega) he, show k + 1 + i = k + (i + 1) by omega]
        | zero =>
          rw [add_ofNat_zero, he0] at he
          obtain rfl := Option.some.inj he
          rw [setRun_frame h, setCoil, hq]
          · exact store8_same _ _ _
          · -- the later coils of the pass have other variables
            intro j hj e' he' hq'
            rw [add_ofNat_succ] at he'
            exact add_ofNat_ne (by omega) (by omega) (hd _ _ _ _ _ he0 he' hq hq')

theorem getRun_ok_iff {m : ℕ} {x : USHORT} {vars : Mem} :
    (∃ bits, getRun cur vars m x = some (.MB_ENOERR, bits)) ↔
      ∀ i < m, ∃ e, coil cur (x + BitVec.ofNat 16 i) = some e ∧ e.ucAccessMode ≠ .WO := by
  induction m generalizing x with
  | zero => simp [getRun]
  | succ m ih =>
    rw [getRun]
    constructor
    · intro h i hi
      cases he : coil cur x with
      | none => simp [he] at h
      | some e =>
        simp only [he] at h
        by_cases hwo : e.ucAccessMode = .WO
        · simp [hwo] at h
        · have h' : ∃ bits, getRun cur vars m (x + 1) = some (.MB_ENOERR, bits) := by
            obtain ⟨bits, hb⟩ := h
            rw [if_neg hwo] at hb
            obtain ⟨⟨st, bs⟩, hr, hr'⟩ := Option.map_eq_some_iff.mp hb
            cases hr'
            exact ⟨bs, hr⟩
          cases i with
          | zero => exact ⟨e, by rw [add_ofNat_zero]; exact he, hwo⟩
          | succ i =>
            rw [← add_ofNat_succ]
            exact ih.mp h' i (by omega)
    · intro h
      obtain ⟨e, he, hwo⟩ := h 0 (by omega)
      rw [add_ofNat_zero] at he
      obtain ⟨bits, hb⟩ := ih.mpr fun i hi => by
        rw [add_ofNat_succ]
        exact h (i + 1) (by omega)
      exact ⟨coilBit vars e :: bits, by rw [he]; dsimp only; rw [if_neg hwo, hb]; rfl⟩

theorem getRun_get {m : ℕ} {x : USHORT} {vars : Mem} {bits : List Bool}
    (h : getRun cur vars m x = some (.MB_ENOERR, bits)) {i : ℕ} (hi : i < m) {e : sMBSlaveBitData}
    (he : coil cur (x + BitVec.ofNat 16 i) = some e) : bits.getD i false = coilBit vars e := by
  induction m generalizing x bits i with
  | zero => omega
  | succ m ih =>
    rw [getRun] at h
    split at h
    · exact absurd h (by simp)
    · rename_i e0 he0
      split at h
      · exact absurd h (by simp)
      · obtain ⟨⟨st, bs⟩, hr, hr'⟩ := Option.map_eq_some_iff.mp h
        cases hr'
        cases i with
        | zero =>
          rw [add_ofNat_zero, he0] at he
          obtain rfl := Option.some.inj he
          rfl
        | succ i =>
          rw [← add_ofNat_succ] at he
          exact ih hr (by omega) he

/-! ### The round trip -/

/-- **A table of the round trip**: every address from `usStartAddr` to `usEndAddr` is mapped to a `RW`
coil bound to a variable, and no two addresses share one. -/
structure CoilTable (cur : sMBSlaveCommData) : Prop where
  table : cur.sMBCoilTable.pvDataBuf.isSome ∧ cur.sMBCoilTable.usDataCount ≠ 0
  mapped : ∀ x, cur.sMBCoilTable.usStartAddr ≤ x → x ≤ cur.sMBCoilTable.usEndAddr →
    ∃ e q, coil cur x = some e ∧ e.ucAccessMode = .RW ∧ e.pvValue = some q
  distinct : DistinctCoils cur

/-- **The coils round-trip**: the write is answered without exception and changes no coil outside the
range, and a read of the range is then answered with the bits written. -/
def CoilsRoundTrip (cur : sMBSlaveCommData) (s : Store) (p : ℕ) (a : USHORT) (bits : List Bool) : Prop :=
  ∃ s', eMBSlaveFuncWriteMultipleCoils cur p s = some (.MB_EX_NONE, s') ∧
    (∀ x e q, coil cur x = some e → e.pvValue = some q → (∀ i < bits.length, x ≠ a + BitVec.ofNat 16 i) →
      s'.vars q = s.vars q) ∧
    ∀ t p', Received t p' (readCoilsRequest a (BitVec.ofNat 16 bits.length)) → t.vars = s'.vars →
      ∃ t', eMBSlaveFuncReadCoils cur p' t = some (.MB_EX_NONE, t') ∧ Received t' p' (coilsResponse bits)

/-- **What the round trip needs**: the range one address higher is in the table too; the bits are all
the same, and the coil after the range has that value already; and for a multiple of eight coils the
eight coils after the range can be written and hold the bits of the byte after the payload, and the
one after these can be read. -/
structure CoilsFit (cur : sMBSlaveCommData) (s : Store) (p : ℕ) (a : USHORT) (bits : List Bool) : Prop where
  covers : tableCovers cur.sMBCoilTable (a + 1) (BitVec.ofNat 16 bits.length)
  same : ∃ b, bits = List.replicate bits.length b ∧
    ∀ e, coil cur (a + BitVec.ofNat 16 bits.length) = some e → coilBit s.vars e = b
  spare : bits.length % 8 = 0 → ∀ j < 8, ∃ e, coil cur (a + BitVec.ofNat 16 (bits.length + j)) = some e ∧
    e.ucAccessMode = .RW ∧ ∀ q, e.pvValue = some q →
      s.vars q = bitByte ((s.ucRcvBuf (p + 6 + bits.length / 8)).getLsbD j)
  next : bits.length % 8 = 0 → ∃ e, coil cur (a + BitVec.ofNat 16 (bits.length + 8)) = some e ∧
    e.ucAccessMode ≠ .WO

theorem coilBit_of_bitByte {vars : Mem} {e : sMBSlaveBitData} {q : ℕ} {b : Bool} (hq : e.pvValue = some q)
    (h : vars q = bitByte b) : coilBit vars e = b := by
  simp only [coilBit, hq, h]
  cases b <;> rfl

theorem bitAt_response (buf : Mem) (p N : ℕ) (x y : UCHAR) (bs : List Bool) :
    Holds (storeList buf p (x :: y :: packBytes N bs)) p [x, y] ∧
      ∀ k < 8 * N, bitAt (storeList buf p (x :: y :: packBytes N bs)) (p + 2) k = bs.getD k false := by
  have h : Holds (storeList buf p ([x, y] ++ packBytes N bs)) p ([x, y] ++ packBytes N bs) := holds_storeList
  obtain ⟨h1, h2⟩ := holds_append.mp h
  exact ⟨h1, holds_packBytes_iff.mp h2⟩

section RoundTrip

variable {s : Store} {p : ℕ} {a : USHORT} {bits : List Bool}

theorem mapped_of_covers (T : CoilTable cur) {x : USHORT} {n : ℕ} (hn : n < 65536)
    (h : tableCovers cur.sMBCoilTable x (BitVec.ofNat 16 n)) {i : ℕ} (hi : i < n) :
    ∃ e q, coil cur (x + BitVec.ofNat 16 i) = some e ∧ e.ucAccessMode = .RW ∧ e.pvValue = some q := by
  have h' : cur.sMBCoilTable.usStartAddr.toNat ≤ x.toNat ∧
      x.toNat + (BitVec.ofNat 16 n).toNat - 1 ≤ cur.sMBCoilTable.usEndAddr.toNat := by
    simp only [tableCovers, decide_eq_true_eq] at h
    exact ⟨h.2.2.1, h.2.2.2⟩
  rw [BitVec.toNat_ofNat, Nat.mod_eq_of_lt hn] at h'
  have hx : (x + BitVec.ofNat 16 i).toNat = x.toNat + i := by
    rw [BitVec.toNat_add, BitVec.toNat_ofNat]
    have := cur.sMBCoilTable.usEndAddr.isLt
    omega
  refine T.mapped _ ?_ ?_ <;> rw [BitVec.le_def, hx] <;> omega

theorem bitAt_spare (buf : Mem) (q : ℕ) {n j : ℕ} (hn : n % 8 = 0) (hj : j < 8) :
    bitAt buf q (n + j) = (buf (q + n / 8)).getLsbD j := by
  rw [bitAt, show (n + j) / 8 = n / 8 by omega, show (n + j) % 8 = j by omega]

theorem eq_replicate_of_shift {b : Bool} (hs : ∀ k, k + 1 < bits.length → bits.getD k false = bits.getD (k + 1) false)
    (hb : ∀ k, k + 1 = bits.length → bits.getD k false = b) : bits = List.replicate bits.length b := by
  have hall : ∀ d k, k + 1 + d = bits.length → bits.getD k false = b := by
    intro d
    induction d with
    | zero => exact fun k hk => hb k hk
    | succ d ih => exact fun k hk => (hs k (by omega)).trans (ih (k + 1) (by omega))
  refine List.eq_replicate_iff.mpr ⟨rfl, fun c hc => ?_⟩
  obtain ⟨k, hk, rfl⟩ := List.mem_iff_getElem.mp hc
  rw [← hall (bits.length - k - 1) k (by omega), List.getD_eq_getElem _ _ hk]

theorem CoilTable.covers (T : CoilTable cur) {n : ℕ} (hn : n < 65536)
    (h : cur.sMBCoilTable.usStartAddr ≤ a ∧ a.toNat + n ≤ cur.sMBCoilTable.usEndAddr.toNat + 1) :
    tableCovers cur.sMBCoilTable a (BitVec.ofNat 16 n) := by
  simp only [tableCovers, BitVec.toNat_ofNat, decide_eq_true_eq, Nat.mod_eq_of_lt hn]
  exact ⟨T.table.1, T.table.2, h.1, by omega⟩

/-- The coil after the range, and what of it an unchanged variable tells. -/
theorem coilBit_congr {vars vars' : Mem} {e : sMBSlaveBitData} (h : ∀ q, e.pvValue = some q → vars' q = vars q) :
    coilBit vars' e = coilBit vars e := by
  unfold coilBit
  cases hq : e.pvValue with
  | none => rfl
  | some q => simp only [h q hq]

theorem runBits_le (n : ℕ) : n ≤ runBits n ∧ runBits n ≤ n + 8 := by
  unfold runBits
  split <;> omega

theorem runBits_of_dvd {n : ℕ} (h : n % 8 = 0) : runBits n = n + 8 := if_pos h

theorem dvd_of_lt_runBits {n i : ℕ} (hi : i < runBits n) (hn : ¬ i < n) : n % 8 = 0 := by
  by_contra h8
  rw [runBits, if_neg h8] at hi
  omega

theorem coilsFit_of_roundTrip (T : CoilTable cur) (h : Received s p (writeCoilsRequest a bits))
    (hn : 1 ≤ bits.length ∧ bits.length ≤ 0x07B0)
    (hcov : tableCovers cur.sMBCoilTable a (BitVec.ofNat 16 bits.length))
    (hrt : CoilsRoundTrip cur s p a bits) : CoilsFit cur s p a bits := by
  obtain ⟨s', h15, hkeep, h01⟩ := hrt
  rw [writeMultipleCoils_eq h hn, if_pos hcov] at h15
  obtain ⟨⟨st, v⟩, hset, hr⟩ := Option.map_eq_some_iff.mp h15
  obtain rfl : st = .MB_ENOERR := error2Exception_eq_none.mp (congrArg Prod.fst hr)
  obtain rfl : s'.vars = v := (congrArg (fun r => r.2.vars) hr).symm
  have hn16 : (BitVec.ofNat 16 bits.length).toNat = bits.length := by
    rw [BitVec.toNat_ofNat, Nat.mod_eq_of_lt (by omega)]
  have hrun := runBits_le bits.length
  -- the read of the same range, in a store that holds the request
  obtain ⟨t, hread, htv⟩ : ∃ t, Received t 7 (readCoilsRequest a (BitVec.ofNat 16 bits.length)) ∧
      t.vars = s'.vars := ⟨_, received_storeOf _ _ _, rfl⟩
  obtain ⟨t', ht', hresp⟩ := h01 t 7 hread htv
  rw [readCoils_parse hread.readCoils.1 hread.readCoils.2.1 hread.readCoils.2.2 (by omega), hn16, htv] at ht'
  have hcov1 : tableCovers cur.sMBCoilTable (a + 1) (BitVec.ofNat 16 bits.length) := by
    by_contra hno
    rw [if_neg hno] at ht'
    exact absurd ht' (by simp)
  rw [if_pos hcov1] at ht'
  obtain ⟨⟨st, out⟩, hget, hr'⟩ := Option.map_eq_some_iff.mp ht'
  obtain rfl : st = .MB_ENOERR := error2Exception_eq_none.mp (congrArg Prod.fst hr')
  have hset_ok := setRun_ok_iff.mp ⟨_, hset⟩
  have hget_ok := getRun_ok_iff.mp ⟨_, hget⟩
  -- the bits answered are the bits read one address higher
  have hout : ∀ k < bits.length, out.getD k false = bits.getD k false := by
    intro k hk
    have hb : Holds t'.ucRcvBuf (7 + 2) (packBits bits) := (holds_cons.mp (holds_cons.mp hresp.holds).2).2
    rw [← bitAt_of_holds hb hk, ← congrArg (fun r => r.2.ucRcvBuf) hr']
    exact ((bitAt_response _ _ _ _ _ _).2 k (by simp only [startedBytes, if_true]; omega)).symm
  have hval : ∀ k < bits.length, ∀ e q, coil cur (a + BitVec.ofNat 16 k) = some e → e.pvValue = some q →
      s'.vars q = bitByte (bits.getD k false) := by
    intro k hk e q he hq
    rw [setRun_value T.distinct (by omega) hset (by omega) he hq, Nat.zero_add,
      bitAt_of_holds h.writeCoils.2.2.2.2 hk]
  have hafter : ∀ d, bits.length ≤ d → d < 65536 → ∀ e q, coil cur (a + BitVec.ofNat 16 d) = some e →
      e.pvValue = some q → s'.vars q = s.vars q := by
    intro d hd hd' e q he hq
    exact hkeep _ e q he hq fun i hi => (add_ofNat_ne_add (by omega) hd').symm
  refine ⟨hcov1, ⟨bits.getD (bits.length - 1) false, ?_, ?_⟩, fun h8 j hj => ?_, fun h8 => ?_⟩
  · refine eq_replicate_of_shift (fun k hk => ?_) fun k hk => by rw [← hk, Nat.add_sub_cancel]
    obtain ⟨e, q, he, -, hq⟩ := mapped_of_covers T (by omega) hcov (i := k + 1) (by omega)
    rw [← hout k (by omega), getRun_get hget (by omega) (by rw [add_ofNat_succ]; exact he),
      coilBit_of_bitByte hq (hval (k + 1) hk e q he hq)]
  · intro e he
    rw [← hout _ (by omega), getRun_get hget (by omega) (e := e)
      (by rw [add_ofNat_succ, show bits.length - 1 + 1 = bits.length by omega]; exact he)]
    exact (coilBit_congr fun q hq => hafter _ le_rfl (by omega) e q he hq).symm
  · rw [runBits_of_dvd h8] at hset_ok hget_ok hset
    obtain ⟨e, he, hro⟩ := hset_ok (bits.length + j) (by omega)
    have hwo : e.ucAccessMode ≠ .WO := by
      obtain ⟨e', he', hwo⟩ := hget_ok (bits.length + j - 1) (by omega)
      rw [add_ofNat_succ, show bits.length + j - 1 + 1 = bits.length + j by omega, he] at he'
      rwa [← Option.some.inj he'] at hwo
    refine ⟨e, he, by cases hm : e.ucAccessMode <;> simp_all, ?_⟩
    intro q hq
    rw [← hafter _ (by omega) (by omega) e q he hq,
      setRun_value T.distinct (by omega) hset (i := bits.length + j) (by omega) he hq, Nat.zero_add,
      bitAt_spare _ _ h8 hj]
  · rw [runBits_of_dvd h8] at hget_ok
    obtain ⟨e, he, hwo⟩ := hget_ok (bits.length + 7) (by omega)
    rw [add_ofNat_succ] at he
    exact ⟨e, he, hwo⟩

/-! `CoilsFit` is enough for a round trip: the write assigns every coil of the run, the spare ones their own values, and
the read, one address higher, finds the bits written. -/

theorem CoilsFit.writes (F : CoilsFit cur s p a bits) (T : CoilTable cur) (hn : bits.length ≤ 0x07B0)
    (hcov : tableCovers cur.sMBCoilTable a (BitVec.ofNat 16 bits.length)) :
    ∃ v, setRun cur (bitAt s.ucRcvBuf (p + 6)) (runBits bits.length) 0 a s.vars = some (.MB_ENOERR, v) := by
  apply setRun_ok_iff.mpr
  intro i hi
  by_cases hin : i < bits.length
  · obtain ⟨e, q, he, hrw, -⟩ := mapped_of_covers T (by omega) hcov hin
    exact ⟨e, he, by simp [hrw]⟩
  · have h8 := dvd_of_lt_runBits hi hin
    rw [runBits_of_dvd h8] at hi
    obtain ⟨e, he, hrw, -⟩ := F.spare h8 (i - bits.length) (by omega)
    rw [show bits.length + (i - bits.length) = i by omega] at he
    exact ⟨e, he, by simp [hrw]⟩

section Written

variable {v : Mem}

/-- A coil outside the range is assigned its own value, or is not assigned. -/
theorem CoilsFit.keeps (F : CoilsFit cur s p a bits) (T : CoilTable cur) (hn : bits.length ≤ 0x07B0)
    (hset : setRun cur (bitAt s.ucRcvBuf (p + 6)) (runBits bits.length) 0 a s.vars = some (.MB_ENOERR, v))
    {x : USHORT} {e : sMBSlaveBitData} {q : ℕ} (he : coil cur x = some e) (hq : e.pvValue = some q)
    (hx : ∀ i < bits.length, x ≠ a + BitVec.ofNat 16 i) : v q = s.vars q := by
  have hrun := runBits_le bits.length
  by_cases hxi : ∃ i < runBits bits.length, x = a + BitVec.ofNat 16 i
  · -- one of the spare coils
    obtain ⟨i, hi, rfl⟩ := hxi
    have hin : ¬ i < bits.length := fun hin => hx i hin rfl
    have h8 := dvd_of_lt_runBits hi hin
    have hi8 := hi
    rw [runBits_of_dvd h8] at hi8
    obtain ⟨e', he', -, hval⟩ := F.spare h8 (i - bits.length) (by omega)
    rw [show bits.length + (i - bits.length) = i by omega, he] at he'
    obtain rfl := Option.some.inj he'
    rw [setRun_value T.distinct (by omega) hset hi he hq, hval q hq, Nat.zero_add,
      ← bitAt_spare _ _ h8 (by omega), show bits.length + (i - bits.length) = i by omega]
  · refine setRun_frame hset fun i hi e' he' hq' => hxi ⟨i, hi, ?_⟩
    exact T.distinct _ _ _ _ _ he he' hq hq'

/-- Every coil answered is one that was written, or the one after them. -/
theorem CoilsFit.answered (F : CoilsFit cur s p a bits) (T : CoilTable cur) (hn : bits.length ≤ 0x07B0)
    (hbuf : Holds s.ucRcvBuf (p + 6) (packBits bits))
    (hset : setRun cur (bitAt s.ucRcvBuf (p + 6)) (runBits bits.length) 0 a s.vars = some (.MB_ENOERR, v)) {k : ℕ}
    (hk : k < bits.length) : ∃ e, coil cur (a + 1 + BitVec.ofNat 16 k) = some e ∧
      e.ucAccessMode = .RW ∧ coilBit v e = bits.getD k false := by
  have hrun := runBits_le bits.length
  obtain ⟨b, hbits, hlast⟩ := F.same
  have hb : ∀ k < bits.length, bits.getD k false = b := by
    intro k hk
    rw [List.getD_eq_getElem _ _ hk]
    exact (List.eq_replicate_iff.mp hbits).2 _ (List.getElem_mem hk)
  obtain ⟨e, q, he, hrw, hq⟩ := mapped_of_covers T (by omega) F.covers hk
  refine ⟨e, he, hrw, ?_⟩
  rw [add_ofNat_succ] at he
  rw [hb k hk]
  by_cases hk1 : k + 1 < bits.length
  · refine coilBit_of_bitByte hq ?_
    rw [setRun_value T.distinct (by omega) hset (by omega) he hq, Nat.zero_add, bitAt_of_holds hbuf hk1, hb _ hk1]
  · rw [show k + 1 = bits.length by omega] at he
    rw [← hlast e he]
    exact coilBit_congr fun q hq => F.keeps T hn hset he hq fun i hi => (add_ofNat_ne_add hi (by omega)).symm

theorem CoilsFit.reads (F : CoilsFit cur s p a bits)
    (hcoil : ∀ k < bits.length, ∃ e, coil cur (a + 1 + BitVec.ofNat 16 k) = some e ∧
      e.ucAccessMode = .RW ∧ coilBit v e = bits.getD k false) :
    ∃ out, getRun cur v (runBits bits.length) (a + 1) = some (.MB_ENOERR, out) := by
  apply getRun_ok_iff.mpr
  intro i hi
  by_cases hin : i < bits.length
  · obtain ⟨e, he, hrw, -⟩ := hcoil i hin
    exact ⟨e, he, by simp [hrw]⟩
  · have h8 := dvd_of_lt_runBits hi hin
    rw [runBits_of_dvd h8] at hi
    rw [add_ofNat_succ]
    by_cases hi7 : i + 1 < bits.length + 8
    · obtain ⟨e, he, hrw, -⟩ := F.spare h8 (i + 1 - bits.length) (by omega)
      rw [show bits.length + (i + 1 - bits.length) = i + 1 by omega] at he
      exact ⟨e, he, by simp [hrw]⟩
    · rw [show i + 1 = bits.length + 8 by omega]
      exact F.next h8

/-- The bits answered, as far as the bytes of the response reach. -/
theorem answered_bits {out : List Bool}
    (hcoil : ∀ k < bits.length, ∃ e, coil cur (a + 1 + BitVec.ofNat 16 k) = some e ∧
      e.ucAccessMode = .RW ∧ coilBit v e = bits.getD k false)
    (hget : getRun cur v (runBits bits.length) (a + 1) = some (.MB_ENOERR, out)) :
    ∀ k < 8 * ((bits.length + 7) / 8), out.getD k false = bits.getD k false := by
  intro k hk
  have hrun := runBits_le bits.length
  by_cases hkn : k < bits.length
  · obtain ⟨e, he, -, hbit⟩ := hcoil k hkn
    rw [← hbit, getRun_get hget (by omega) he]
  · -- past the bits the last byte is padded, on both sides
    have h8 : bits.length % 8 ≠ 0 := fun h8 => by omega
    have hlen := getRun_length hget
    rw [runBits, if_neg h8] at hlen
    rw [List.getD_eq_default _ _ (by omega), List.getD_eq_default _ _ (by omega)]

end Written

theorem roundTrip_of_coilsFit (T : CoilTable cur) (h : Received s p (writeCoilsRequest a bits))
    (hn : 1 ≤ bits.length ∧ bits.length ≤ 0x07B0)
    (hcov : tableCovers cur.sMBCoilTable a (BitVec.ofNat 16 bits.length))
    (F : CoilsFit cur s p a bits) : CoilsRoundTrip cur s p a bits := by
  have hn16 : (BitVec.ofNat 16 bits.length).toNat = bits.length := by
    rw [BitVec.toNat_ofNat, Nat.mod_eq_of_lt (by omega)]
  obtain ⟨v, hset⟩ := F.writes T hn.2 hcov
  have hkeep : ∀ x e q, coil cur x = some e → e.pvValue = some q →
      (∀ i < bits.length, x ≠ a + BitVec.ofNat 16 i) → v q = s.vars q :=
    fun _ _ _ he hq hx => F.keeps T hn.2 hset he hq hx
  refine ⟨{ s with usLength := 5, vars := v }, ?_, hkeep, fun t p' hread htv => ?_⟩
  · rw [writeMultipleCoils_eq h hn, if_pos hcov, hset]
    rfl
  have hcoil := fun k hk => F.answered T hn.2 h.writeCoils.2.2.2.2 hset (k := k) hk
  obtain ⟨out, hget⟩ := F.reads hcoil
  have hout := answered_bits hcoil hget
  rw [readCoils_parse hread.readCoils.1 hread.readCoils.2.1 hread.readCoils.2.2 (by omega), hn16, if_pos F.covers, htv,
    hget]
  refine ⟨_, rfl, ?_, ?_⟩
  · obtain ⟨hhead, hbody⟩ := bitAt_response t.ucRcvBuf p' (bits.length / 8 + 1) MB_FUNC_READ_COILS
      (BitVec.ofNat 8 ((bits.length + 7) / 8)) out
    have hbits : Holds _ (p' + 2) (packBytes ((bits.length + 7) / 8) bits) :=
      holds_packBytes_iff.mpr fun k hk => (hbody k (by omega)).trans (hout k hk)
    exact holds_append.mpr ⟨hhead, hbits⟩
  · simp only [if_true, coilsResponse, List.length_cons, packBits_length]
    omega

/-- **Coils round-trip exactly when the table, the bits and the coils after the range make up for the
address after `a` and for the eight coils too many.** -/
theorem coils_round_trip_iff (T : CoilTable cur) (h : Received s p (writeCoilsRequest a bits))
    (hn : 1 ≤ bits.length ∧ bits.length ≤ 1968)
    (hin : cur.sMBCoilTable.usStartAddr ≤ a ∧ a.toNat + bits.length ≤ cur.sMBCoilTable.usEndAddr.toNat + 1) :
    CoilsRoundTrip cur s p a bits ↔ CoilsFit cur s p a bits :=
  ⟨coilsFit_of_roundTrip T h hn (T.covers (by omega) hin), roundTrip_of_coilsFit T h hn (T.covers (by omega) hin)⟩

end RoundTrip

/-! ### A table of sixteen coils -/

/-- The coils 0 to 15, at the addresses of their variables. -/
def sixteenCoils : sMBSlaveCommData where
  sMBRegInTable := ⟨none, 0, 0, 0⟩
  sMBRegHoldTable := ⟨none, 0, 0, 0⟩
  sMBCoilTable := ⟨some fun i => ⟨BitVec.ofNat 16 i, .RW, some i⟩, 0, 15, 16⟩
  pxSlaveDataMapIndex := some fun _ x => if x ≤ 15 then some x.toNat else none

theorem coil_sixteenCoils {x : USHORT} {e : sMBSlaveBitData} (h : coil sixteenCoils x = some e) :
    x ≤ 15 ∧ e = ⟨BitVec.ofNat 16 x.toNat, .RW, some x.toNat⟩ := by
  by_cases hx : x ≤ 15
  · simp only [coil, lookup, slaveMap, sixteenCoils, if_pos hx] at h
    exact ⟨hx, (Option.some.inj h).symm⟩
  · simp only [coil, lookup, slaveMap, sixteenCoils, if_neg hx] at h
    exact absurd h (by simp)

theorem coilTable_sixteenCoils : CoilTable sixteenCoils where
  table := ⟨rfl, by decide⟩
  mapped x _ hx := by
    refine ⟨⟨BitVec.ofNat 16 x.toNat, .RW, some x.toNat⟩, x.toNat, ?_, rfl, rfl⟩
    simp only [coil, lookup, slaveMap, sixteenCoils, if_pos (show x ≤ 15 from hx)]
  distinct x y e e' q h h' hq hq' := by
    obtain ⟨-, rfl⟩ := coil_sixteenCoils h
    obtain ⟨-, rfl⟩ := coil_sixteenCoils h'
    exact BitVec.eq_of_toNat_eq (Option.some.inj (hq.trans hq'.symm))

/-- Three equal bits, before a coil that has their value. -/
theorem coils_round_trip_three :
    CoilsRoundTrip sixteenCoils (storeOf 7 (writeCoilsRequest 2 [true, true, true]) fun _ => 1) 7 2
      [true, true, true] := by
  refine (coils_round_trip_iff coilTable_sixteenCoils (received_storeOf _ _ _) (by decide) (by decide)).mpr
    ⟨by decide, ⟨true, rfl, fun e he => ?_⟩, fun h => absurd h (by decide), fun h => absurd h (by decide)⟩
  obtain ⟨-, rfl⟩ := coil_sixteenCoils he
  rfl

/-- **The bits 1, 0 at the address 2 are not answered**: the read starts at the coil 3. -/
theorem coils_round_trip_fails :
    ¬ CoilsRoundTrip sixteenCoils (storeOf 7 (writeCoilsRequest 2 [true, false]) fun _ => 0) 7 2 [true, false] := by
  intro h
  obtain ⟨b, hb, -⟩ := (coilsFit_of_roundTrip coilTable_sixteenCoils (received_storeOf _ _ _) (by decide)
    (by decide) h).same
  cases b <;> exact absurd hb (by decide)

end GreeIntense.Slave

import GreeIntense.Master.CoilsSpec

/-!
# When a coil response touches exactly the requested coils

The loop of a read response makes `n / 8 + 1` passes of eight coils, the last one shortened when `n` is not a
multiple of eight: otherwise it goes over eight coils more than were requested (`runBits`).  The loop of an
acknowledgement makes as many passes, but of one coil each.  `coil_responses_iff` says when a response does
all the same what it should.
-/

namespace GreeIntense.Master

open Lib.Memory Lib.Bits
open Slave (bitByte loopBits_request runBits coilBytes coilBytes_eq)

variable {cur : sMBSlaveDevCoils} {mode : eMasterRunMode} {snd rcv data : Mem} {p usLen n : ℕ}
  {a : USHORT} {r : Coils}

/-! ### The responses -/

/-- The `n` coils from `a` on are in the range of the table. -/
structure InCoilTable (cur : sMBSlaveDevCoils) (a : USHORT) (n : ℕ) : Prop where
  start : cur.sMBCoilTable.usStartAddr ≤ a
  stop : a.toNat + n ≤ cur.sMBCoilTable.usEndAddr.toNat + 1

/-- The response at `p` has the data bytes of `n` coils. -/
structure ReadResponse (rcv : Mem) (p usLen n : ℕ) : Prop where
  len : usLen = 2 + (n + 7) / 8
  count : (rcv (p + 1)).toNat = (n + 7) / 8

/-- The response at `p` acknowledges the write of `n` coils from `a` on. -/
structure WriteResponse (rcv : Mem) (p : ℕ) (a : USHORT) (n : ℕ) : Prop where
  addr : loadBE rcv (p + 1) = a
  count : (loadBE rcv (p + 3)).toNat = n

/-- What the response to a read of `n` coils from `a` on leaves. -/
def afterRead (cur : sMBSlaveDevCoils) (mode : eMasterRunMode) (snd rcv : Mem) (p usLen : ℕ) (a : USHORT) (n : ℕ)
    (r : Coils) : Coils :=
  (eMBMasterFuncReadCoils cur mode false (eMBMasterReqReadCoils a (BitVec.ofNat 16 n) snd) rcv p usLen r).2

/-- What the response to a write of `n` coils from `a` on leaves. -/
def afterWrite (cur : sMBSlaveDevCoils) (mode : eMasterRunMode) (snd rcv : Mem) (p : ℕ) (a : USHORT) (n : ℕ)
    (data : Mem) (r : Coils) : Coils :=
  (eMBMasterFuncWriteMultipleCoils cur mode false (eMBMasterReqWriteMultipleCoils a (BitVec.ofNat 16 n) data snd) rcv
    p 5 r).2

theorem readCoilsRequest_get (a x : USHORT) (snd : Mem) :
    let buf' := eMBMasterReqReadCoils a x snd
    loadBE buf' 1 = a ∧ loadBE buf' 3 = x := by
  have h : Holds (eMBMasterReqReadCoils a x snd) 0 _ := holds_storeList
  simp only [holds_cons, Nat.zero_add, Nat.reduceAdd] at h
  obtain ⟨-, h1, h2, h3, h4, -⟩ := h
  exact ⟨by rw [loadBE, h1, h2, append_hi_lo], by rw [loadBE, h3, h4, append_hi_lo]⟩

theorem writeCoilsRequest_get {x : USHORT} : eMBMasterReqWriteMultipleCoils a x data snd 5 = coilBytes x := by
  have h : Holds (eMBMasterReqWriteMultipleCoils a x data snd) 0 _ := holds_storeList
  simp only [holds_cons, Nat.zero_add, Nat.reduceAdd] at h
  obtain ⟨-, -, -, -, -, h5, -⟩ := h
  exact h5

theorem coilBytes_ofNat (hn : n ≤ 478) : (coilBytes (BitVec.ofNat 16 n)).toNat = (n + 7) / 8 := by
  rw [coilBytes_eq, BitVec.toNat_ofNat, BitVec.toNat_ofNat]
  omega

theorem coilAt_nil (h : cur.sMBCoilTable.pvDataBuf = []) (x : USHORT) : coilAt cur x = none := by
  cases hx : coilAt cur x with
  | none => rfl
  | some q =>
    have := mem_of_coilAt hx
    rw [h] at this
    cases this

theorem inCoilTable_iff {n : USHORT} :
    (a + 1 - 1 ≥ cur.sMBCoilTable.usStartAddr ∧
      ((a + 1 - 1).toNat + n.toNat : ℤ) - 1 ≤ cur.sMBCoilTable.usEndAddr.toNat) ↔ InCoilTable cur a n.toNat := by
  rw [BitVec.add_sub_cancel]
  constructor
  · rintro ⟨h1, h2⟩
    exact ⟨h1, by omega⟩
  · rintro ⟨h1, h2⟩
    exact ⟨h1, by omega⟩

/-- **The callback of a read** is one pass over `runBits n` coils. -/
theorem regCoilsCB_read {n : USHORT} (hne : cur.sMBCoilTable.pvDataBuf ≠ []) (ht : InCoilTable cur a n.toNat)
    (q : ℕ) : eMBMasterRegCoilsCB cur mode rcv q (a + 1) n .MB_BIT_READ r =
      (.MB_ENOERR, readRun cur mode (bitAt rcv q) (runBits n.toNat) 0 a r) := by
  rw [eMBMasterRegCoilsCB, if_neg hne]
  dsimp only
  rw [if_pos (inCoilTable_iff.mpr ht), eMBMasterUtilSetBits]
  rw [setBitsLoop_eq (by omega), loopBits_request, BitVec.add_sub_cancel]

/-- **The callback of a write** is a pass over `n / 8 + 1` coils. -/
theorem regCoilsCB_write {n : USHORT} (hne : cur.sMBCoilTable.pvDataBuf ≠ []) (ht : InCoilTable cur a n.toNat)
    (q : ℕ) : eMBMasterRegCoilsCB cur mode rcv q (a + 1) n .MB_BIT_WRITE r =
      (.MB_ENOERR, writtenRun cur (n.toNat / 8 + 1) a r) := by
  have hstart : ∀ i e, (none : Option (ℕ × sMasterBitCoilData)) = some (i, e) → coilWritten i e r = r := nofun
  rw [eMBMasterRegCoilsCB, if_neg hne]
  dsimp only
  rw [if_pos (inCoilTable_iff.mpr ht), eMBMasterUtilSetBits]
  rw [writtenBitsLoop_eq hstart, BitVec.add_sub_cancel]

/-- **The response to a read** is one pass over `runBits n` coils. -/
theorem afterRead_eq (hn : 1 ≤ n) (hn' : n ≤ 478) (ht : InCoilTable cur a n) (hr : ReadResponse rcv p usLen n) :
    afterRead cur mode snd rcv p usLen a n r = readRun cur mode (bitAt rcv (p + 2)) (runBits n) 0 a r := by
  have h16 : (BitVec.ofNat 16 n).toNat = n := by
    rw [BitVec.toNat_ofNat]
    omega
  obtain ⟨h1, h3⟩ := readCoilsRequest_get a (BitVec.ofNat 16 n) snd
  have hcount : BitVec.ofNat 16 n ≥ 1 ∧ coilBytes (BitVec.ofNat 16 n) = rcv (p + 1) := by
    refine ⟨BitVec.le_def.mpr (by rw [h16]; exact hn), BitVec.eq_of_toNat_eq ?_⟩
    rw [coilBytes_ofNat hn', hr.count]
  have hcb : (eMBMasterRegCoilsCB cur mode rcv (p + 2) (a + 1) (BitVec.ofNat 16 n) .MB_BIT_READ r).2 =
      readRun cur mode (bitAt rcv (p + 2)) (runBits n) 0 a r := by
    by_cases hnil : cur.sMBCoilTable.pvDataBuf = []
    · rw [eMBMasterRegCoilsCB, if_pos hnil, readRun_of_not fun t _ i e q h => by rw [coilAt_nil hnil] at h; cases h]
    · rw [regCoilsCB_read hnil (by rw [h16]; exact ht), h16]
  rw [afterRead, eMBMasterFuncReadCoils, if_neg (by decide), if_pos (by have := hr.len; omega)]
  simp only [h1, h3, if_pos hcount, apply_ite Prod.snd, ite_self]
  exact hcb

/-- **The acknowledgement of a write** is a pass over `n / 8 + 1` coils. -/
theorem afterWrite_eq (hn : 1 ≤ n) (hn' : n ≤ 478) (ht : InCoilTable cur a n) (hr : WriteResponse rcv p a n) :
    afterWrite cur mode snd rcv p a n data r = writtenRun cur (n / 8 + 1) a r := by
  have h16 : (BitVec.ofNat 16 n).toNat = n := by
    rw [BitVec.toNat_ofNat]
    omega
  have h3 : loadBE rcv (p + 3) = BitVec.ofNat 16 n := by
    apply BitVec.eq_of_toNat_eq
    rw [hr.count, h16]
  have hcount : BitVec.ofNat 16 n ≥ 1 ∧ coilBytes (BitVec.ofNat 16 n) =
      eMBMasterReqWriteMultipleCoils a (BitVec.ofNat 16 n) data snd 5 :=
    ⟨BitVec.le_def.mpr (by rw [h16]; exact hn), writeCoilsRequest_get.symm⟩
  have hcb (buf : Mem) : (eMBMasterRegCoilsCB cur mode buf 6 (a + 1) (BitVec.ofNat 16 n) .MB_BIT_WRITE r).2 =
      writtenRun cur (n / 8 + 1) a r := by
    by_cases hnil : cur.sMBCoilTable.pvDataBuf = []
    · rw [eMBMasterRegCoilsCB, if_pos hnil, writtenRun_of_not fun t _ i e q h => by rw [coilAt_nil hnil] at h; cases h]
    · rw [regCoilsCB_write hnil (by rw [h16]; exact ht), h16]
  rw [afterWrite, eMBMasterFuncWriteMultipleCoils, if_pos (Or.inl rfl)]
  simp only [hr.addr, h3, if_pos hcount, apply_ite Prod.snd, ite_self]
  exact hcb _

/-! ### What a response should do -/

/-- **A read response touches exactly the requested coils**: a coil in the range gets its bit as previous value,
and as value when it has no pending change; the coils outside keep both; and bytes beyond the data do not
matter. -/
structure ReadExact (cur : sMBSlaveDevCoils) (mode : eMasterRunMode) (snd rcv : Mem) (p usLen : ℕ) (a : USHORT)
    (n : ℕ) (r : Coils) : Prop where
  on : ∀ k < n, ∀ i e q, coilAt cur (a + BitVec.ofNat 16 k) = some (i, e) → Readable e q →
    (afterRead cur mode snd rcv p usLen a n r).ucPreVal i = bitByte (bitAt rcv (p + 2) k) ∧
      (¬Pending mode i e q r → (afterRead cur mode snd rcv p usLen a n r).vars q = bitByte (bitAt rcv (p + 2) k))
  off : ∀ i e, cur.sMBCoilTable.pvDataBuf[i]? = some e → (∀ k < n, e.usAddr ≠ a + BitVec.ofNat 16 k) →
    (afterRead cur mode snd rcv p usLen a n r).ucPreVal i = r.ucPreVal i ∧
      ∀ q, e.pvValue = some q → (afterRead cur mode snd rcv p usLen a n r).vars q = r.vars q
  bytes : ∀ rcv', (∀ j < 2 + (n + 7) / 8, rcv' (p + j) = rcv (p + j)) →
    afterRead cur mode snd rcv' p usLen a n r = afterRead cur mode snd rcv p usLen a n r

/-- **An acknowledgement touches exactly the coils written**: a coil of the range that is not read-only gets the
value of its variable as previous value, and nothing else changes. -/
structure WriteExact (cur : sMBSlaveDevCoils) (mode : eMasterRunMode) (snd rcv : Mem) (p : ℕ) (a : USHORT) (n : ℕ)
    (data : Mem) (r : Coils) : Prop where
  on : ∀ k < n, ∀ i e q, coilAt cur (a + BitVec.ofNat 16 k) = some (i, e) → Writable e q →
    (afterWrite cur mode snd rcv p a n data r).ucPreVal i = r.vars q
  off : ∀ i, (∀ k < n, ∀ e q, coilAt cur (a + BitVec.ofNat 16 k) = some (i, e) → ¬Writable e q) →
    (afterWrite cur mode snd rcv p a n data r).ucPreVal i = r.ucPreVal i
  vars : (afterWrite cur mode snd rcv p a n data r).vars = r.vars

/-- Where `n` is a multiple of eight, none of the eight coils after the range takes part in reads. -/
def SpareIdle (cur : sMBSlaveDevCoils) (a : USHORT) (n : ℕ) : Prop :=
  n % 8 = 0 → ∀ t < 8, ∀ i e q, coilAt cur (a + BitVec.ofNat 16 (n + t)) = some (i, e) → ¬Readable e q

/-- The coils after the first `n / 8 + 1` of the range have the values of their variables as previous values. -/
def RestCurrent (cur : sMBSlaveDevCoils) (a : USHORT) (n : ℕ) (r : Coils) : Prop :=
  ∀ k < n, n / 8 < k → ∀ i e q, coilAt cur (a + BitVec.ofNat 16 k) = some (i, e) → Writable e q →
    r.ucPreVal i = r.vars q

/-! ### When it does -/

theorem le_runBits (n : ℕ) : n ≤ runBits n := by
  unfold runBits
  split <;> omega

/-- What a pass over `runBits n` coils finds beyond the range. -/
theorem spare_of_le (hs : SpareIdle cur a n) {t : ℕ} (ht : t < runBits n) (hn : n ≤ t) {i q : ℕ}
    {e : sMasterBitCoilData} (he : coilAt cur (a + BitVec.ofNat 16 t) = some (i, e)) : ¬Readable e q := by
  unfold runBits at ht
  split at ht
  · rename_i h8
    refine hs h8 (t - n) (by omega) i e q ?_
    rw [show n + (t - n) = t by omega]
    exact he
  · omega

theorem runBits_le_max (hn : n ≤ 478) : runBits n ≤ 65536 := by
  unfold runBits
  split <;> omega

/-- **The byte after the data does not matter** exactly when no spare coil takes part in reads. -/
theorem readRun_spare_iff :
    (∀ rcv', (∀ j < 2 + (n + 7) / 8, rcv' (p + j) = rcv (p + j)) →
      readRun cur mode (bitAt rcv' (p + 2)) (runBits n) 0 a r =
        readRun cur mode (bitAt rcv (p + 2)) (runBits n) 0 a r) ↔ SpareIdle cur a n := by
  constructor
  · intro h h8
    have hrun : runBits n = n + 8 := if_pos h8
    -- from the last spare coil down: the coils after it take no part
    have hlast : ∀ d t, t < 8 → 8 - t = d → ∀ i e q, coilAt cur (a + BitVec.ofNat 16 (n + t)) = some (i, e) →
        ¬Readable e q := by
      intro d
      induction d using Nat.strong_induction_on with
      | _ d ih =>
        intro t ht hd i e q he hq
        have hafter : ∀ t' < runBits n, n + t < t' → ∀ e q, coilAt cur (a + BitVec.ofNat 16 t') = some (i, e) →
            ¬Readable e q := by
          intro t' ht' hlt e' q' he'
          refine ih (8 - (t' - n)) (by omega) (t' - n) (by omega) rfl i e' q' ?_
          rw [show n + (t' - n) = t' by omega]
          exact he'
        -- the byte after the data decides the bit of the coil
        let rcv' := store8 rcv (p + 2 + n / 8) (~~~(rcv (p + 2 + n / 8)))
        have hsame : ∀ j < 2 + (n + 7) / 8, rcv' (p + j) = rcv (p + j) := by
          intro j hj
          exact store8_ne _ _ _ _ (by omega)
        have hpre := congrArg (fun r => r.ucPreVal i) (h rcv' hsame)
        rw [readRun_pre_last he (by omega) hq hafter, readRun_pre_last he (by omega) hq hafter] at hpre
        have hbit : bitAt rcv' (p + 2) (0 + (n + t)) = !bitAt rcv (p + 2) (0 + (n + t)) := by
          rw [bitAt, bitAt, show (0 + (n + t)) / 8 = n / 8 by omega, show (0 + (n + t)) % 8 = t by omega]
          rw [show rcv' (p + 2 + n / 8) = ~~~(rcv (p + 2 + n / 8)) from store8_same _ _ _, BitVec.getLsbD_not]
          simp [ht]
        rw [hbit] at hpre
        cases hb : bitAt rcv (p + 2) (0 + (n + t)) <;> rw [hb] at hpre <;> exact absurd hpre (by decide)
    intro t ht
    exact hlast (8 - t) t ht rfl
  · intro hs rcv' hsame
    apply readRun_congr
    intro t ht
    rcases Nat.lt_or_ge t n with hlt | hge
    · left
      rw [bitAt, bitAt, Nat.zero_add, Nat.add_assoc, hsame (2 + t / 8) (by omega)]
    · right
      intro i e q he
      exact spare_of_le hs ht hge he

/-- A spare coil that takes part in reads depends on the byte after the data. -/
theorem ReadExact.spareIdle (h : ReadExact cur mode snd rcv p usLen a n r) (hn : 1 ≤ n) (hn' : n ≤ 478)
    (ht : InCoilTable cur a n) (hr : ReadResponse rcv p usLen n) : SpareIdle cur a n := by
  refine (@readRun_spare_iff cur mode rcv p n a r).mp ?_
  intro rcv' hsame
  have hr' : ReadResponse rcv' p usLen n := ⟨hr.len, by rw [hsame 1 (by omega), hr.count]⟩
  have hbytes := h.bytes rcv' hsame
  rw [afterRead_eq hn hn' ht hr, afterRead_eq hn hn' ht hr'] at hbytes
  exact hbytes

theorem SpareIdle.readExact (hs : SpareIdle cur a n) (hm : MapsCoils cur) (hd : DistinctVars cur) (hn : 1 ≤ n)
    (hn' : n ≤ 478) (ht : InCoilTable cur a n) (hr : ReadResponse rcv p usLen n) :
    ReadExact cur mode snd rcv p usLen a n r := by
  have hle := le_runBits n
  have hmax := runBits_le_max hn'
  refine ⟨?_, ?_, ?_⟩
  · intro k hk i e q he hq
    rw [afterRead_eq hn hn' ht hr]
    have hbit : bitAt rcv (p + 2) k = bitAt rcv (p + 2) (0 + k) := by rw [Nat.zero_add]
    rw [hbit]
    exact readRun_on hm hd he (by omega) hmax hq 0
  · intro i e he hoff
    rw [afterRead_eq hn hn' ht hr]
    constructor
    · apply readRun_pre_off
      intro t ht' e' q he' hq
      rcases Nat.lt_or_ge t n with hlt | hge
      · have hsame := mem_of_coilAt he'
        rw [he] at hsame
        cases hsame
        exact hoff t hlt (hm.addr _ _ _ he')
      · -- a spare coil does not take part
        exact spare_of_le hs ht' hge he' hq
    · intro q hq
      apply readRun_vars_off
      intro t ht' j e' he' hq'
      rcases Nat.lt_or_ge t n with hlt | hge
      · have hij := hd i j e e' q he (mem_of_coilAt he') hq hq'.bound
        subst hij
        have hsame := mem_of_coilAt he'
        rw [he] at hsame
        cases hsame
        exact hoff t hlt (hm.addr _ _ _ he')
      · exact spare_of_le hs ht' hge he' hq'
  · intro rcv' hsame
    have hr' : ReadResponse rcv' p usLen n := ⟨hr.len, by rw [hsame 1 (by omega), hr.count]⟩
    rw [afterRead_eq hn hn' ht hr, afterRead_eq hn hn' ht hr']
    exact readRun_spare_iff.mpr hs rcv' hsame

theorem readExact_iff (hm : MapsCoils cur) (hd : DistinctVars cur) (hn : 1 ≤ n) (hn' : n ≤ 478)
    (ht : InCoilTable cur a n) (hr : ReadResponse rcv p usLen n) :
    ReadExact cur mode snd rcv p usLen a n r ↔ SpareIdle cur a n :=
  ⟨fun h => h.spareIdle hn hn' ht hr, fun h => h.readExact hm hd hn hn' ht hr⟩

theorem writeExact_iff (hm : MapsCoils cur) (hn : 1 ≤ n) (hn' : n ≤ 478) (ht : InCoilTable cur a n)
    (hr : WriteResponse rcv p a n) :
    WriteExact cur mode snd rcv p a n data r ↔ RestCurrent cur a n r := by
  constructor
  · intro h k hk hpass i e q he hq
    rw [← h.on k hk i e q he hq, afterWrite_eq hn hn' ht hr]
    symm
    apply writtenRun_off
    intro t ht' e' q' he'
    have hne : a + BitVec.ofNat 16 t ≠ a + BitVec.ofNat 16 k := add_ofNat_ne_add (by omega) (by omega)
    exact absurd he' (coilAt_ne hm he hne e')
  · intro hc
    refine ⟨?_, ?_, ?_⟩
    · intro k hk i e q he hq
      rw [afterWrite_eq hn hn' ht hr]
      by_cases hpass : k < n / 8 + 1
      · exact writtenRun_on he hpass hq
      · rw [writtenRun_off, hc k hk (by omega) i e q he hq]
        intro t ht' e' q' he'
        have hne : a + BitVec.ofNat 16 t ≠ a + BitVec.ofNat 16 k := add_ofNat_ne_add (by omega) (by omega)
        exact absurd he' (coilAt_ne hm he hne e')
    · intro i hoff
      rw [afterWrite_eq hn hn' ht hr]
      apply writtenRun_off
      intro t ht'
      exact hoff t (by omega)
    · rw [afterWrite_eq hn hn' ht hr, writtenRun_vars]

/-- **A read response touches exactly the requested coils if and only if the eight coils after a multiple of eight
take no part in reads, and an acknowledgement exactly the coils written if and only if all of them after the first
`n / 8 + 1` are up to date anyway.** -/
theorem coil_responses_iff {p' : ℕ} {rcv' snd' : Mem} {r' : Coils} (hm : MapsCoils cur) (hd : DistinctVars cur)
    (hn : 1 ≤ n) (hn' : n ≤ 478) (ht : InCoilTable cur a n) (hr : ReadResponse rcv p usLen n)
    (hw : WriteResponse rcv' p' a n) :
    (ReadExact cur mode snd rcv p usLen a n r ↔ SpareIdle cur a n) ∧
      (WriteExact cur mode snd' rcv' p' a n data r' ↔ RestCurrent cur a n r') :=
  ⟨readExact_iff hm hd hn hn' ht hr, writeExact_iff hm hn hn' ht hw⟩

/-! ### Three coils -/

/-- A table of three coils, at the addresses 0, 1 and 8. -/
def threeCoils : sMBSlaveDevCoils where
  sMBCoilTable := ⟨[⟨0, .RW, some 0⟩, ⟨1, .RW, some 1⟩, ⟨8, .RW, some 2⟩], 0, 15⟩
  pxDevDataMapIndex := some fun x => if x = 0 then some 0 else if x = 1 then some 1 else if x = 8 then some 2 else none

theorem threeCoils_get {i : ℕ} {e : sMasterBitCoilData} (h : threeCoils.sMBCoilTable.pvDataBuf[i]? = some e) :
    i = 0 ∧ e = ⟨0, .RW, some 0⟩ ∨ i = 1 ∧ e = ⟨1, .RW, some 1⟩ ∨ i = 2 ∧ e = ⟨8, .RW, some 2⟩ := by
  match i with
  | 0 => exact Or.inl ⟨rfl, (Option.some.inj h).symm⟩
  | 1 => exact Or.inr (Or.inl ⟨rfl, (Option.some.inj h).symm⟩)
  | 2 => exact Or.inr (Or.inr ⟨rfl, (Option.some.inj h).symm⟩)
  | i + 3 => cases h

theorem mapsCoils_three : MapsCoils threeCoils where
  map i e h := by obtain ⟨rfl, rfl⟩ | ⟨rfl, rfl⟩ | ⟨rfl, rfl⟩ := threeCoils_get h <;> rfl
  addr x i e h := by
    unfold coilAt eMBMasterCoilMap threeCoils at h
    dsimp only at h
    by_cases h0 : x = 0
    · subst h0
      cases h
      rfl
    · by_cases h1 : x = 1
      · subst h1
        cases h
        rfl
      · by_cases h8 : x = 8
        · subst h8
          cases h
          rfl
        · rw [if_neg h0, if_neg h1, if_neg h8] at h
          cases h

theorem distinctVars_three : DistinctVars threeCoils := by
  intro i j e e' q he he' hq hq'
  obtain ⟨rfl, rfl⟩ | ⟨rfl, rfl⟩ | ⟨rfl, rfl⟩ := threeCoils_get he <;>
    obtain ⟨rfl, rfl⟩ | ⟨rfl, rfl⟩ | ⟨rfl, rfl⟩ := threeCoils_get he' <;> cases hq <;> cases hq' <;> rfl

theorem inCoilTable_three {n : ℕ} (hn : n ≤ 16) : InCoilTable threeCoils 0 n :=
  ⟨BitVec.le_def.mpr (Nat.zero_le _), by simpa [threeCoils] using hn⟩

/-- All coils and previous values are 0. -/
def zeroCoils : Coils := ⟨fun _ => 0, fun _ => 0⟩

/-- A read response with one data byte. -/
def oneByte : Mem := storeList (fun _ => 0) 0 [1, 1, 5]

/-- The acknowledgement of a write of `n` coils from the address 0 on. -/
def ackFor (n : UCHAR) : Mem := storeList (fun _ => 0) 0 [15, 0, 0, 0, n]

theorem readResponse_oneByte {n : ℕ} (hn : (n + 7) / 8 = 1) : ReadResponse oneByte 0 3 n :=
  ⟨by rw [hn], by rw [hn]; rfl⟩

/-- Three coils are read and acknowledged as they should be. -/
theorem coil_responses_three :
    ReadExact threeCoils .STATE_SCAN_DEV (fun _ => 0) oneByte 0 3 0 3 zeroCoils ∧
      WriteExact threeCoils .STATE_SCAN_DEV (fun _ => 0) (ackFor 3) 0 0 3 (fun _ => 5) zeroCoils := by
  have hspare : SpareIdle threeCoils 0 3 := fun h8 => absurd h8 (by decide)
  have hrest : RestCurrent threeCoils 0 3 zeroCoils := fun _ _ _ _ _ _ _ _ => rfl
  have hack : WriteResponse (ackFor 3) 0 0 3 := ⟨rfl, rfl⟩
  exact (coil_responses_iff mapsCoils_three distinctVars_three (by decide) (by decide)
    (inCoilTable_three (by decide)) (readResponse_oneByte rfl) hack).imp (fun h => h.mpr hspare) fun h => h.mpr hrest

/-- **Eight coils are read, and the ninth is touched too; two coils are written, and only the first one is
acknowledged.** -/
theorem coil_responses_not_exact :
    ¬ReadExact threeCoils .STATE_SCAN_DEV (fun _ => 0) oneByte 0 3 0 8 zeroCoils ∧
      ¬WriteExact threeCoils .STATE_SCAN_DEV (fun _ => 0) (ackFor 2) 0 0 2 (fun _ => 3) ⟨fun _ => 1, fun _ => 0⟩ := by
  constructor
  · intro h
    have hspare := (readExact_iff mapsCoils_three distinctVars_three (by decide) (by decide)
      (inCoilTable_three (by decide)) (readResponse_oneByte rfl)).mp h
    exact hspare rfl 0 (by decide) 2 ⟨8, .RW, some 2⟩ 2 rfl ⟨rfl, by decide⟩
  · intro h
    have hack : WriteResponse (ackFor 2) 0 0 2 := ⟨rfl, rfl⟩
    have hrest := (writeExact_iff mapsCoils_three (by decide) (by decide) (inCoilTable_three (by decide)) hack).mp h
    exact absurd (hrest 1 (by decide) (by decide) 1 ⟨1, .RW, some 1⟩ 1 rfl ⟨rfl, by decide⟩) (by decide)

end GreeIntense.Master

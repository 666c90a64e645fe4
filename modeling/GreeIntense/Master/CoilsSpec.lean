import GreeIntense.Slave.CoilsSpec
import GreeIntense.Master.Coils

/-!
# What the coil loops of the master do, coil by coil

The nested loops of a read response are one pass over consecutive coils (`readRun`), and so is the loop of an
acknowledgement (`writtenRun`).
-/

namespace GreeIntense.Master

open Lib.Memory Lib.Bits
open Slave (bitByte ucBit_eq passBits passBits_le passBits_of_pos loopBits)

variable (cur : sMBSlaveDevCoils)

/-! ### The entries of the addresses -/

/-- The entry of an address, with its index. -/
def coilAt (x : USHORT) : Option (ℕ × sMasterBitCoilData) := eMBMasterCoilMap cur x none

/-- The map function sends the address of an entry to the entry, and other addresses nowhere. -/
structure MapsCoils : Prop where
  map : ∀ i e, cur.sMBCoilTable.pvDataBuf[i]? = some e → coilAt cur e.usAddr = some (i, e)
  addr : ∀ x i e, coilAt cur x = some (i, e) → e.usAddr = x

/-- No two entries share a variable. -/
def DistinctVars : Prop :=
  ∀ (i j : ℕ) (e e' : sMasterBitCoilData) (q : ℕ), cur.sMBCoilTable.pvDataBuf[i]? = some e →
    cur.sMBCoilTable.pvDataBuf[j]? = some e' → e.pvValue = some q → e'.pvValue = some q → i = j

variable {cur} {r : Coils} {mode : eMasterRunMode} {e : sMasterBitCoilData} {i j q k m n : ℕ} {a x : USHORT}
  {b : UCHAR} {f : ℕ → Bool} {buf : Mem}

theorem coilMap_eq (x : USHORT) (pv : Option (ℕ × sMasterBitCoilData)) :
    eMBMasterCoilMap cur x pv = (coilAt cur x).or pv := by
  unfold coilAt eMBMasterCoilMap
  split
  · rfl
  · split
    · rfl
    · split <;> rfl

theorem mem_of_coilAt (h : coilAt cur x = some (i, e)) : cur.sMBCoilTable.pvDataBuf[i]? = some e := by
  unfold coilAt eMBMasterCoilMap at h
  split at h
  · cases h
  · split at h
    · cases h
    · split at h
      · cases h
      · rename_i he
        cases h
        exact he

theorem coilAt_ne (hm : MapsCoils cur) (h : coilAt cur x = some (i, e)) {y : USHORT} (hy : y ≠ x) :
    ∀ e', coilAt cur y ≠ some (i, e') := by
  intro e' h'
  have he := mem_of_coilAt h
  rw [mem_of_coilAt h'] at he
  cases he
  exact hy ((hm.addr y i _ h').symm.trans (hm.addr x i _ h))

/-! ### One coil of a read response -/

/-- A coil that takes part in a read, with its variable. -/
structure Readable (e : sMasterBitCoilData) (q : ℕ) : Prop where
  bound : e.pvValue = some q
  mode : e.ucAccessMode ≠ .WO

/-- The coil has a change of the application that has not been written yet. -/
def Pending (mode : eMasterRunMode) (i : ℕ) (e : sMasterBitCoilData) (q : ℕ) (r : Coils) : Prop :=
  e.ucAccessMode = .RW ∧ r.vars q ≠ r.ucPreVal i ∧ mode = .STATE_SCAN_DEV

theorem coilRead_of_not (h : ∀ q, ¬Readable e q) : coilRead mode i e b r = r := by
  unfold coilRead
  split
  · rfl
  · rename_i p hp
    split
    · rename_i hwo
      exact absurd ⟨hp, hwo⟩ (h p)
    · rfl

theorem coilRead_pre_ne (h : j ≠ i) : (coilRead mode i e b r).ucPreVal j = r.ucPreVal j := by
  unfold coilRead
  split
  · rfl
  · split
    · split <;> exact Coils.setPre_ne _ _ h
    · rfl

theorem coilRead_vars_ne (h : ¬Readable e q) : (coilRead mode i e b r).vars q = r.vars q := by
  unfold coilRead
  split
  · rfl
  · rename_i p hp
    split
    · rename_i hwo
      split
      · rfl
      · apply store8_ne
        rintro rfl
        exact h ⟨hp, hwo⟩
    · rfl

theorem coilRead_same (h : Readable e q) : (coilRead mode i e b r).ucPreVal i = b ∧
    (¬Pending mode i e q r → (coilRead mode i e b r).vars q = b) := by
  unfold coilRead
  rw [h.bound]
  dsimp only
  rw [if_pos h.mode]
  split
  · rename_i hp
    exact ⟨Coils.setPre_same _ _ _, fun hno => absurd hp hno⟩
  · exact ⟨Coils.setPre_same _ _ _, fun _ => store8_same _ _ _⟩

/-! ### The loops of a read response -/

/-- One coil of a read response, with the map. -/
def readCoilAt (cur : sMBSlaveDevCoils) (mode : eMasterRunMode) (x : USHORT) (b : Bool) (r : Coils) : Coils :=
  match coilAt cur x with
  | some (i, e) => coilRead mode i e (bitByte b) r
  | none => r

/-- The bits `f k`, `f (k + 1)`, … for `m` coils from `x` on. -/
def readRun (cur : sMBSlaveDevCoils) (mode : eMasterRunMode) (f : ℕ → Bool) : ℕ → ℕ → USHORT → Coils → Coils
  | 0, _, _, r => r
  | m + 1, k, x, r => readRun cur mode f m (k + 1) (x + 1) (readCoilAt cur mode x (f k) r)

theorem readCoilAt_of_not (h : ∀ i e q, coilAt cur x = some (i, e) → ¬Readable e q) (b : Bool) :
    readCoilAt cur mode x b r = r := by
  unfold readCoilAt
  split
  · rename_i i e he
    exact coilRead_of_not fun q => h i e q he
  · rfl

/-- The bits matter only where a coil takes part. -/
theorem readRun_congr {g : ℕ → Bool} {l : ℕ} (h : ∀ t < m, f (k + t) = g (l + t) ∨
      ∀ i e q, coilAt cur (x + BitVec.ofNat 16 t) = some (i, e) → ¬Readable e q) :
    readRun cur mode f m k x r = readRun cur mode g m l x r := by
  induction m generalizing k l x r with
  | zero => rfl
  | succ m ih =>
    have hat : readCoilAt cur mode x (f k) r = readCoilAt cur mode x (g l) r := by
      rcases h 0 (by omega) with h0 | h0
      · rw [show f k = g l from h0]
      · rw [add_ofNat_zero] at h0
        rw [readCoilAt_of_not h0, readCoilAt_of_not h0]
    rw [readRun, readRun, hat]
    apply ih
    intro t ht
    rw [add_ofNat_succ, show k + 1 + t = k + (t + 1) by omega, show l + 1 + t = l + (t + 1) by omega]
    exact h (t + 1) (by omega)

theorem readRun_of_not
    (h : ∀ t < m, ∀ i e q, coilAt cur (x + BitVec.ofNat 16 t) = some (i, e) → ¬Readable e q) :
    readRun cur mode f m k x r = r := by
  induction m generalizing k x with
  | zero => rfl
  | succ m ih =>
    have h0 := h 0 (by omega)
    rw [add_ofNat_zero] at h0
    rw [readRun, readCoilAt_of_not h0]
    apply ih
    intro t ht
    rw [add_ofNat_succ]
    exact h (t + 1) (by omega)

theorem readRun_add (m₁ m₂ : ℕ) : readRun cur mode f (m₁ + m₂) k x r =
    readRun cur mode f m₂ (k + m₁) (x + BitVec.ofNat 16 m₁) (readRun cur mode f m₁ k x r) := by
  induction m₁ generalizing k x r with
  | zero => simp [readRun]
  | succ m₁ ih =>
    rw [Nat.add_right_comm, readRun, ih, readRun, add_ofNat_succ, show k + 1 + m₁ = k + (m₁ + 1) by omega]

theorem setByteLoop_eq (ucByte : UCHAR) (h : i + m ≤ 8) : setByteLoop cur mode ucByte m i x r =
    (x + BitVec.ofNat 16 m, readRun cur mode ucByte.getLsbD m i x r) := by
  induction m generalizing i x r with
  | zero => simp [setByteLoop, readRun]
  | succ m ih =>
    rw [setByteLoop, readRun, ih (by omega), add_ofNat_succ, ucBit_eq _ (by omega)]
    rfl

/-- **The loops of a read response are one pass over consecutive coils.** -/
theorem setBitsLoop_eq {usNPreBits : ℕ} (hpre : usNPreBits < 8) (iNReg : ℕ) :
    setBitsLoop cur mode buf usNPreBits iNReg q x r =
      readRun cur mode (bitAt buf q) (loopBits usNPreBits iNReg) 0 x r := by
  induction iNReg generalizing q x r with
  | zero => rfl
  | succ iNReg ih =>
    have hle := passBits_le (iNReg + 1) hpre
    have hbyte : readRun cur mode (buf q).getLsbD (passBits (iNReg + 1) usNPreBits) 0 x r =
        readRun cur mode (bitAt buf q) (passBits (iNReg + 1) usNPreBits) 0 x r := by
      apply readRun_congr
      intro t ht
      left
      rw [Nat.zero_add, bitAt, Nat.div_eq_of_lt (by omega), Nat.mod_eq_of_lt (by omega), Nat.add_zero]
    rw [setBitsLoop, setByteLoop_eq _ (by omega), ih, hbyte, loopBits, readRun_add]
    rcases Nat.eq_zero_or_pos iNReg with rfl | hpos
    · rfl
    · apply readRun_congr
      intro t _
      left
      rw [passBits_of_pos hpos, bitAt, bitAt, show q + 1 + (0 + t) / 8 = q + (0 + 8 + t) / 8 by omega,
        show (0 + t) % 8 = (0 + 8 + t) % 8 by omega]

theorem readCoilAt_pre_off (h : ∀ e q, coilAt cur x = some (i, e) → ¬Readable e q) (b : Bool) :
    (readCoilAt cur mode x b r).ucPreVal i = r.ucPreVal i := by
  unfold readCoilAt
  split
  · rename_i j e he
    by_cases hij : i = j
    · subst hij
      rw [coilRead_of_not fun q => h e q he]
    · exact coilRead_pre_ne hij
  · rfl

theorem readCoilAt_vars_off (h : ∀ i e, coilAt cur x = some (i, e) → ¬Readable e q) (b : Bool) :
    (readCoilAt cur mode x b r).vars q = r.vars q := by
  unfold readCoilAt
  split
  · rename_i i e he
    exact coilRead_vars_ne (h i e he)
  · rfl

theorem readRun_pre_off (h : ∀ t < m, ∀ e q, coilAt cur (x + BitVec.ofNat 16 t) = some (i, e) → ¬Readable e q) :
    (readRun cur mode f m k x r).ucPreVal i = r.ucPreVal i := by
  induction m generalizing k x r with
  | zero => rfl
  | succ m ih =>
    have h0 := h 0 (by omega)
    rw [add_ofNat_zero] at h0
    rw [readRun, ih, readCoilAt_pre_off h0]
    intro t ht
    rw [add_ofNat_succ]
    exact h (t + 1) (by omega)

theorem readRun_vars_off (h : ∀ t < m, ∀ i e, coilAt cur (x + BitVec.ofNat 16 t) = some (i, e) → ¬Readable e q) :
    (readRun cur mode f m k x r).vars q = r.vars q := by
  induction m generalizing k x r with
  | zero => rfl
  | succ m ih =>
    have h0 := h 0 (by omega)
    rw [add_ofNat_zero] at h0
    rw [readRun, ih, readCoilAt_vars_off h0]
    intro t ht
    rw [add_ofNat_succ]
    exact h (t + 1) (by omega)

/-- The last coil of an entry that takes part decides its previous value. -/
theorem readRun_pre_last (hmap : coilAt cur (x + BitVec.ofNat 16 k) = some (i, e)) (hk : k < m) (hq : Readable e q)
    (hlast : ∀ t < m, k < t → ∀ e q, coilAt cur (x + BitVec.ofNat 16 t) = some (i, e) → ¬Readable e q) (l : ℕ) :
    (readRun cur mode f m l x r).ucPreVal i = bitByte (f (l + k)) := by
  obtain ⟨m', rfl⟩ : ∃ m', m = k + (m' + 1) := ⟨m - k - 1, by omega⟩
  rw [readRun_add, readRun, readRun_pre_off, readCoilAt, hmap]
  · exact (coilRead_same hq).1
  · intro t ht
    rw [add_ofNat_succ, BitVec.add_assoc, ← BitVec.ofNat_add]
    exact hlast (k + (t + 1)) (by omega) (by omega)

/-- **A coil that takes part** gets its bit. -/
theorem readRun_on (hm : MapsCoils cur) (hd : DistinctVars cur)
    (hmap : coilAt cur (x + BitVec.ofNat 16 k) = some (i, e)) (hk : k < m) (hm' : m ≤ 65536) (hq : Readable e q)
    (l : ℕ) :
    (readRun cur mode f m l x r).ucPreVal i = bitByte (f (l + k)) ∧
      (¬Pending mode i e q r → (readRun cur mode f m l x r).vars q = bitByte (f (l + k))) := by
  have hown : ∀ t < m, t ≠ k → ∀ j e', coilAt cur (x + BitVec.ofNat 16 t) = some (j, e') → j ≠ i ∧ ¬Readable e' q := by
    intro t ht htk j e' he'
    have hne : x + BitVec.ofNat 16 t ≠ x + BitVec.ofNat 16 k := by
      rcases Nat.lt_or_gt_of_ne htk with hlt | hlt
      · exact add_ofNat_ne_add hlt (by omega)
      · exact (add_ofNat_ne_add hlt (by omega)).symm
    have hji : j ≠ i := by
      rintro rfl
      exact coilAt_ne hm hmap hne e' he'
    refine ⟨hji, fun hq' => hji ?_⟩
    exact hd j i e' e q (mem_of_coilAt he') (mem_of_coilAt hmap) hq'.bound hq.bound
  induction m generalizing k l x r with
  | zero => omega
  | succ m ih =>
    rw [readRun]
    cases k with
    | zero =>
      -- the first coil; the others leave it alone
      rw [add_ofNat_zero] at hmap
      have hrest : ∀ t < m, ∀ j e', coilAt cur (x + 1 + BitVec.ofNat 16 t) = some (j, e') →
          j ≠ i ∧ ¬Readable e' q := by
        intro t ht
        rw [add_ofNat_succ]
        exact hown (t + 1) (by omega) (by omega)
      have hat : readCoilAt cur mode x (f l) r = coilRead mode i e (bitByte (f l)) r := by
        rw [readCoilAt, hmap]
      rw [readRun_pre_off fun t ht e' _ he' => absurd rfl (hrest t ht i e' he').1,
        readRun_vars_off fun t ht j e' he' => (hrest t ht j e' he').2, hat]
      exact coilRead_same hq
    | succ k =>
      have hfirst := hown 0 (by omega) (by omega)
      rw [add_ofNat_zero] at hfirst
      have hpre : (readCoilAt cur mode x (f l) r).ucPreVal i = r.ucPreVal i :=
        readCoilAt_pre_off (fun e' _ he' => absurd rfl (hfirst i e' he').1) _
      have hvar : (readCoilAt cur mode x (f l) r).vars q = r.vars q :=
        readCoilAt_vars_off (fun j e' he' => (hfirst j e' he').2) _
      have hpend : Pending mode i e q (readCoilAt cur mode x (f l) r) ↔ Pending mode i e q r := by
        rw [Pending, Pending, hpre, hvar]
      rw [← hpend, show l + (k + 1) = l + 1 + k by omega]
      refine ih (by rw [add_ofNat_succ]; exact hmap) (by omega) (by omega) (l + 1) ?_
      intro t ht htk
      rw [add_ofNat_succ]
      exact hown (t + 1) (by omega) (by omega)

/-! ### The loop of an acknowledgement -/

/-- A coil that takes part in a write, with its variable. -/
structure Writable (e : sMasterBitCoilData) (q : ℕ) : Prop where
  bound : e.pvValue = some q
  mode : e.ucAccessMode ≠ .RO

theorem coilWritten_of_not (h : ∀ q, ¬Writable e q) : coilWritten i e r = r := by
  unfold coilWritten
  split
  · rfl
  · rename_i p hp
    split
    · rename_i hro
      exact absurd ⟨hp, hro⟩ (h p)
    · rfl

theorem coilWritten_eq (h : Writable e q) : coilWritten i e r = r.setPre i (r.vars q) := by
  unfold coilWritten
  rw [h.bound]
  dsimp only
  rw [if_pos h.mode]

@[simp] theorem coilWritten_vars : (coilWritten i e r).vars = r.vars := by
  unfold coilWritten
  split
  · rfl
  · split <;> rfl

theorem coilWritten_ne (h : j ≠ i) : (coilWritten i e r).ucPreVal j = r.ucPreVal j := by
  unfold coilWritten
  split
  · rfl
  · split
    · exact Coils.setPre_ne _ _ h
    · rfl

theorem coilWritten_twice : coilWritten i e (coilWritten i e r) = coilWritten i e r := by
  by_cases h : ∃ q, Writable e q
  · obtain ⟨q, h⟩ := h
    rw [coilWritten_eq h, coilWritten_eq h, Coils.setPre_vars, Coils.setPre, Coils.setPre, Function.update_idem]
  · have hno : ∀ q, ¬Writable e q := fun q hq => h ⟨q, hq⟩
    rw [coilWritten_of_not hno, coilWritten_of_not hno]

/-- One coil of an acknowledgement, with the map. -/
def writtenCoilAt (cur : sMBSlaveDevCoils) (x : USHORT) (r : Coils) : Coils :=
  match coilAt cur x with
  | some (i, e) => coilWritten i e r
  | none => r

/-- The acknowledgement of `m` coils from `x` on. -/
def writtenRun (cur : sMBSlaveDevCoils) : ℕ → USHORT → Coils → Coils
  | 0, _, r => r
  | m + 1, x, r => writtenRun cur m (x + 1) (writtenCoilAt cur x r)

/-- **The loop of an acknowledgement**: a pointer that was not reset does no harm, its coil is up to date. -/
theorem writtenBitsLoop_eq {pv : Option (ℕ × sMasterBitCoilData)}
    (hpv : ∀ i e, pv = some (i, e) → coilWritten i e r = r) :
    writtenBitsLoop cur m x pv r = writtenRun cur m x r := by
  induction m generalizing x pv r with
  | zero => rfl
  | succ m ih =>
    rw [writtenBitsLoop, writtenRun, writtenCoilAt, coilMap_eq]
    cases hx : coilAt cur x with
    | some p =>
      apply ih
      intro i e h
      cases h
      exact coilWritten_twice
    | none =>
      cases pv with
      | none => exact ih nofun
      | some p =>
        have hp : coilWritten p.1 p.2 r = r := hpv p.1 p.2 rfl
        simp only [Option.none_or, hp]
        exact ih hpv

theorem writtenCoilAt_of_not (h : ∀ i e q, coilAt cur x = some (i, e) → ¬Writable e q) :
    writtenCoilAt cur x r = r := by
  unfold writtenCoilAt
  split
  · rename_i i e he
    exact coilWritten_of_not fun q => h i e q he
  · rfl

theorem writtenRun_of_not
    (h : ∀ t < m, ∀ i e q, coilAt cur (x + BitVec.ofNat 16 t) = some (i, e) → ¬Writable e q) :
    writtenRun cur m x r = r := by
  induction m generalizing x with
  | zero => rfl
  | succ m ih =>
    have h0 := h 0 (by omega)
    rw [add_ofNat_zero] at h0
    rw [writtenRun, writtenCoilAt_of_not h0]
    apply ih
    intro t ht
    rw [add_ofNat_succ]
    exact h (t + 1) (by omega)

@[simp] theorem writtenCoilAt_vars : (writtenCoilAt cur x r).vars = r.vars := by
  unfold writtenCoilAt
  split <;> simp

@[simp] theorem writtenRun_vars : (writtenRun cur m x r).vars = r.vars := by
  induction m generalizing x r with
  | zero => rfl
  | succ m ih => rw [writtenRun, ih, writtenCoilAt_vars]

theorem writtenRun_off (h : ∀ t < m, ∀ e q, coilAt cur (x + BitVec.ofNat 16 t) = some (i, e) → ¬Writable e q) :
    (writtenRun cur m x r).ucPreVal i = r.ucPreVal i := by
  induction m generalizing x r with
  | zero => rfl
  | succ m ih =>
    have h0 := h 0 (by omega)
    rw [add_ofNat_zero] at h0
    have hat : (writtenCoilAt cur x r).ucPreVal i = r.ucPreVal i := by
      unfold writtenCoilAt
      split
      · rename_i j e he
        by_cases hij : i = j
        · subst hij
          rw [coilWritten_of_not fun q => h0 e q he]
        · exact coilWritten_ne hij
      · rfl
    rw [writtenRun, ih, hat]
    intro t ht
    rw [add_ofNat_succ]
    exact h (t + 1) (by omega)

/-- **A coil that takes part** has the value of its variable as previous value. -/
theorem writtenRun_on (hmap : coilAt cur (x + BitVec.ofNat 16 k) = some (i, e)) (hk : k < m) (hq : Writable e q) :
    (writtenRun cur m x r).ucPreVal i = r.vars q := by
  induction m generalizing k x r with
  | zero => omega
  | succ m ih =>
    rw [writtenRun]
    by_cases hlater : ∃ t < m, ∃ e', coilAt cur (x + 1 + BitVec.ofNat 16 t) = some (i, e')
    · obtain ⟨t, ht, e', he'⟩ := hlater
      have he := mem_of_coilAt hmap
      rw [mem_of_coilAt he'] at he
      cases he
      rw [ih he' ht, writtenCoilAt_vars]
    · -- the coil is that of the first address
      have hk0 : k = 0 := by
        by_contra hne
        obtain ⟨t, rfl⟩ : ∃ t, k = t + 1 := ⟨k - 1, by omega⟩
        exact hlater ⟨t, by omega, e, by rw [add_ofNat_succ]; exact hmap⟩
      subst hk0
      rw [add_ofNat_zero] at hmap
      rw [writtenRun_off fun t ht e' _ he' => absurd ⟨t, ht, e', he'⟩ hlater, writtenCoilAt, hmap]
      dsimp only
      rw [coilWritten_eq hq, Coils.setPre_same]

end GreeIntense.Master

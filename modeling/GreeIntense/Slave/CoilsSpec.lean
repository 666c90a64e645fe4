import GreeIntense.Slave.Coils
import GreeIntense.Slave.HoldingSpec

/-!
# What the coil loops do, coil by coil

The nested loops are brought to one pass over consecutive coils: `setRun` assigns a bit string,
`getRun` reads one.  A request of `n` coils makes a pass over `runBits n` of them, which is eight more
than `n` when `n` is a multiple of eight: the outer loops make `n / 8 + 1` passes and only a non-zero
remainder shortens the last one.
-/

namespace GreeIntense.Slave

open Lib.Memory Lib.Bits

variable (cur : sMBSlaveCommData)

/-! ### One pass over consecutive coils -/

def coilBit (vars : Mem) (e : sMBSlaveBitData) : Bool :=
  match e.pvValue with
  | some p => vars p > 0
  | none => false

/-- The byte a bit is assigned as. -/
def bitByte (b : Bool) : UCHAR := if b then 1 else 0

/-- Assign the bits `f k`, `f (k + 1)`, … to `m` coils from `x` on. -/
def setRun (f : ℕ → Bool) : ℕ → ℕ → USHORT → Mem → Option (eMBErrorCode × Mem)
  | 0, _, _, vars => some (.MB_ENOERR, vars)
  | m + 1, k, x, vars =>
    match coil cur x with
    | none => none
    | some e =>
      if e.ucAccessMode = .RO then some (.MB_ENOREG, vars)
      else setRun f m (k + 1) (x + 1) (setCoil vars e (bitByte (f k)))

/-- Read `m` coils from `x` on: the status, and the bits read up to a stop. -/
def getRun (vars : Mem) : ℕ → USHORT → Option (eMBErrorCode × List Bool)
  | 0, _ => some (.MB_ENOERR, [])
  | m + 1, x =>
    match coil cur x with
    | none => none
    | some e =>
      if e.ucAccessMode = .WO then some (.MB_ENOREG, [])
      else (getRun vars m (x + 1)).map fun r => (r.1, coilBit vars e :: r.2)

/-- The bits of `iNReg` passes of the outer loops. -/
def loopBits (usNPreBits : ℕ) : ℕ → ℕ
  | 0 => 0
  | iNReg + 1 => passBits (iNReg + 1) usNPreBits + loopBits usNPreBits iNReg

/-- The coils a request for `n` coils makes a pass over. -/
def runBits (n : ℕ) : ℕ := if n % 8 = 0 then n + 8 else n

variable {cur}

theorem coilsMap_snd {pv : Option sMBSlaveBitData} (hpv : pv = none ∨ ∃ y, pv = coil cur y)
    (x : USHORT) : (eMBSlaveCoilsMap cur x pv).2 = coil cur x := slaveMap_snd hpv x

theorem loopBits_succ (usNPreBits iNReg : ℕ) :
    loopBits usNPreBits (iNReg + 1) = 8 * iNReg + passBits 1 usNPreBits := by
  induction iNReg with
  | zero => simp [loopBits]
  | succ iNReg ih =>
    rw [loopBits, ih, passBits, if_neg (by omega)]
    omega

theorem loopBits_request (n : ℕ) : loopBits (n % 8) (n / 8 + 1) = runBits n := by
  rw [loopBits_succ, passBits, runBits]
  split <;> split <;> omega

/-- Only the last pass is shorter than eight bits. -/
theorem passBits_of_pos {iNReg usNPreBits : ℕ} (h : 0 < iNReg) : passBits (iNReg + 1) usNPreBits = 8 := by
  rw [passBits, if_neg (by omega)]

theorem passBits_le (iNReg : ℕ) {usNPreBits : ℕ} (hpre : usNPreBits < 8) :
    passBits iNReg usNPreBits ≤ 8 := by
  unfold passBits
  split <;> omega

theorem setRun_congr {f g : ℕ → Bool} {m k l : ℕ} {x : USHORT} {vars : Mem}
    (h : ∀ i < m, f (k + i) = g (l + i)) : setRun cur f m k x vars = setRun cur g m l x vars := by
  induction m generalizing k l x vars with
  | zero => rfl
  | succ m ih =>
    have ht : ∀ i < m, f (k + 1 + i) = g (l + 1 + i) := fun i hi => by
      have := h (i + 1) (by omega)
      rwa [show k + (i + 1) = k + 1 + i by omega, show l + (i + 1) = l + 1 + i by omega] at this
    have h0 : f k = g l := h 0 (by omega)
    simp only [setRun, h0]
    cases coil cur x with
    | none => rfl
    | some e => simp only [ih ht]

theorem setRun_add (f : ℕ → Bool) (m₁ m₂ k : ℕ) (x : USHORT) (vars : Mem) :
    setRun cur f (m₁ + m₂) k x vars =
      match setRun cur f m₁ k x vars with
      | none => none
      | some r => if r.1 = .MB_ENOERR then setRun cur f m₂ (k + m₁) (x + BitVec.ofNat 16 m₁) r.2 else some r := by
  induction m₁ generalizing k x vars with
  | zero => simp [setRun]
  | succ m₁ ih =>
    rw [Nat.add_right_comm]
    simp only [setRun]
    cases coil cur x with
    | none => rfl
    | some e =>
      simp only
      split
      · simp
      · rw [ih, add_ofNat_succ, show k + 1 + m₁ = k + (m₁ + 1) by omega]

theorem getRun_add (vars : Mem) (m₁ m₂ : ℕ) (x : USHORT) :
    getRun cur vars (m₁ + m₂) x =
      match getRun cur vars m₁ x with
      | none => none
      | some r =>
        if r.1 = .MB_ENOERR then
          (getRun cur vars m₂ (x + BitVec.ofNat 16 m₁)).map fun r' => (r'.1, r.2 ++ r'.2)
        else some r := by
  induction m₁ generalizing x with
  | zero => simp [getRun]
  | succ m₁ ih =>
    rw [Nat.add_right_comm]
    simp only [getRun]
    cases coil cur x with
    | none => rfl
    | some e =>
      simp only
      split
      · simp
      · rw [ih, add_ofNat_succ]
        cases getRun cur vars m₁ (x + 1) with
        | none => rfl
        | some r =>
          simp only [Option.map_some]
          split
          · rw [Option.map_map]
            rfl
          · rfl

theorem getRun_length {vars : Mem} {m : ℕ} {x : USHORT} {bits : List Bool}
    (h : getRun cur vars m x = some (.MB_ENOERR, bits)) : bits.length = m := by
  induction m generalizing x bits with
  | zero =>
    cases h
    rfl
  | succ m ih =>
    rw [getRun] at h
    split at h
    · exact absurd h (by simp)
    · split at h
      · exact absurd h (by simp)
      · obtain ⟨⟨st, bs⟩, hr, he⟩ := Option.map_eq_some_iff.mp h
        cases he
        rw [List.length_cons, ih hr]

/-! ### The loops of the source -/

theorem ucBit_eq (b : UCHAR) {i : ℕ} (hi : i < 8) : (b &&& ((1 : UCHAR) <<< i)) >>> i = bitByte (b.getLsbD i) := by
  have h : ∀ i : Fin 8, ∀ b : UCHAR, (b &&& ((1 : UCHAR) <<< (i : ℕ))) >>> (i : ℕ) = bitByte (b.getLsbD i) := by
    decide +kernel
  exact h ⟨i, hi⟩ b

theorem setByteLoop_eq (ucByte : UCHAR) (m i : ℕ) (x : USHORT) (pv : Option sMBSlaveBitData) (vars : Mem)
    (hi : i + m ≤ 8) (hpv : pv = none ∨ ∃ y, pv = coil cur y) :
    (setByteLoop cur ucByte m i x pv vars).map (fun r => (r.status, r.mem)) =
        setRun cur ucByte.getLsbD m i x vars ∧
      ∀ r, setByteLoop cur ucByte m i x pv vars = some r → r.status = .MB_ENOERR →
        r.usAddress = x + BitVec.ofNat 16 m ∧ (r.pucBitData = none ∨ ∃ y, r.pucBitData = coil cur y) := by
  induction m generalizing i x pv vars with
  | zero =>
    refine ⟨rfl, ?_⟩
    intro r hr _
    cases hr
    exact ⟨(add_ofNat_zero x).symm, hpv⟩
  | succ m ih =>
    simp only [setByteLoop, setRun, coilsMap_snd hpv]
    cases he : coil cur x with
    | none => exact ⟨rfl, fun r hr => absurd hr (by simp)⟩
    | some e =>
      dsimp only
      split
      · refine ⟨rfl, ?_⟩
        intro r hr hst
        cases hr
        exact absurd hst (by simp)
      · rw [ucBit_eq _ (by omega), ← add_ofNat_succ]
        exact ih (i + 1) (x + 1) (some e) _ (by omega) (Or.inr ⟨x, he.symm⟩)

/-- **`eMBSlaveUtilSetBits` is one pass over the coils.** -/
theorem setBitsLoop_eq (buf : Mem) {usNPreBits : ℕ} (hpre : usNPreBits < 8) (iNReg q : ℕ) (x : USHORT)
    (pv : Option sMBSlaveBitData) (vars : Mem) (hpv : pv = none ∨ ∃ y, pv = coil cur y) :
    setBitsLoop cur buf usNPreBits iNReg q x pv vars =
      setRun cur (bitAt buf q) (loopBits usNPreBits iNReg) 0 x vars := by
  induction iNReg generalizing q x pv vars with
  | zero => rfl
  | succ iNReg ih =>
    obtain ⟨hrun, hnext⟩ := setByteLoop_eq (buf q) (passBits (iNReg + 1) usNPreBits) 0 x pv vars
      (by have := passBits_le (iNReg + 1) hpre; omega) hpv
    have hbyte : setRun cur (bitAt buf q) (passBits (iNReg + 1) usNPreBits) 0 x vars =
        setRun cur (buf q).getLsbD (passBits (iNReg + 1) usNPreBits) 0 x vars :=
      setRun_congr fun i hi => by
        have := passBits_le (iNReg + 1) hpre
        rw [Nat.zero_add, bitAt, Nat.div_eq_of_lt (by omega), Nat.mod_eq_of_lt (by omega), Nat.add_zero]
    rw [loopBits, setRun_add, hbyte, ← hrun, setBitsLoop]
    cases hr : setByteLoop cur (buf q) (passBits (iNReg + 1) usNPreBits) 0 x pv vars with
    | none => rfl
    | some r =>
      simp only [Option.map_some]
      split
      · rename_i hst
        obtain ⟨haddr, hpv'⟩ := hnext r hr hst
        rw [ih _ _ _ _ hpv', haddr]
        rcases Nat.eq_zero_or_pos iNReg with rfl | hpos
        · rfl
        · apply setRun_congr
          intro i _
          rw [passBits_of_pos hpos, bitAt, bitAt, show q + 1 + (0 + i) / 8 = q + (0 + 8 + i) / 8 by omega,
            show (0 + i) % 8 = (0 + 8 + i) % 8 by omega]
      · rfl

theorem orCoil_eq (vars : Mem) (e : sMBSlaveBitData) (i : ℕ) (b : UCHAR) :
    orCoil vars e i b = if coilBit vars e then b ||| ((1 : UCHAR) <<< i) else b := by
  unfold orCoil coilBit
  cases e.pvValue with
  | none => simp
  | some p => simp

/-- The byte `b` with the bits `bits` or-ed in from position `i` on. -/
def orBits (b : UCHAR) (i : ℕ) : List Bool → UCHAR
  | [] => b
  | c :: cs => orBits (if c then b ||| ((1 : UCHAR) <<< i) else b) (i + 1) cs

theorem getLsbD_orBits (b : UCHAR) (i : ℕ) (bits : List Bool) {t : ℕ} (ht : t < 8) :
    (orBits b i bits).getLsbD t = (b.getLsbD t || (decide (i ≤ t) && bits.getD (t - i) false)) := by
  induction bits generalizing b i with
  | nil => simp [orBits]
  | cons c cs ih =>
    rw [orBits, ih]
    have hbit : (if c then b ||| ((1 : UCHAR) <<< i) else b).getLsbD t = (b.getLsbD t || (decide (t = i) && c)) := by
      cases c
      · simp
      · simp only [if_true, BitVec.getLsbD_or, getLsbD_one_shiftLeft ht, Bool.and_true]
    rw [hbit]
    rcases Nat.lt_trichotomy t i with h | h | h
    · simp [show ¬ i ≤ t by omega, show ¬ i + 1 ≤ t by omega, show t ≠ i by omega]
    · subst h
      simp
    · obtain ⟨d, rfl⟩ : ∃ d, t = i + 1 + d := ⟨t - i - 1, by omega⟩
      simp [show i + 1 + d - i = d + 1 by omega, show i ≤ i + 1 + d by omega, show i + 1 + d ≠ i by omega]

variable (cur) in
theorem getByteLoop_eq (vars : Mem) (q m i : ℕ) (x : USHORT) (pv : Option sMBSlaveBitData) (buf : Mem)
    (hpv : pv = none ∨ ∃ y, pv = coil cur y) :
    (getByteLoop cur vars q m i x pv buf).map (fun r => (r.status, r.mem)) =
        (getRun cur vars m x).map (fun r => (r.1, store8 buf q (orBits (buf q) i r.2))) ∧
      ∀ r, getByteLoop cur vars q m i x pv buf = some r → r.status = .MB_ENOERR →
        r.usAddress = x + BitVec.ofNat 16 m ∧ (r.pucBitData = none ∨ ∃ y, r.pucBitData = coil cur y) := by
  induction m generalizing i x pv buf with
  | zero =>
    refine ⟨by simp [getByteLoop, getRun, orBits], ?_⟩
    intro r hr _
    cases hr
    exact ⟨(add_ofNat_zero x).symm, hpv⟩
  | succ m ih =>
    simp only [getByteLoop, getRun, coilsMap_snd hpv]
    cases he : coil cur x with
    | none => exact ⟨rfl, fun r hr => absurd hr (by simp)⟩
    | some e =>
      dsimp only
      split
      · refine ⟨by simp [orBits], ?_⟩
        intro r hr hst
        cases hr
        exact absurd hst (by simp)
      · rw [orCoil_eq, ← add_ofNat_succ]
        obtain ⟨h1, h2⟩ := ih (i + 1) (x + 1) (some e)
          (store8 buf q (if coilBit vars e then buf q ||| ((1 : UCHAR) <<< i) else buf q)) (Or.inr ⟨x, he.symm⟩)
        refine ⟨?_, h2⟩
        rw [h1, Option.map_map]
        congr 1
        funext r
        simp [orBits, store8, Function.update_idem]

/-- The bytes a reading pass has started when it stops with the bits `bits`. -/
def startedBytes (iNReg : ℕ) (status : eMBErrorCode) (bits : List Bool) : ℕ :=
  if status = .MB_ENOERR then iNReg else bits.length / 8 + 1

theorem orBits_zero {bits : List Bool} : orBits 0 0 bits = packByte bits 0 := by
  apply byte_ext
  intro t ht
  rw [getLsbD_orBits _ _ _ ht, getLsbD_packByte _ _ ht]
  simp

theorem getRun_length_lt {vars : Mem} {m : ℕ} {x : USHORT} {r : eMBErrorCode × List Bool}
    (h : getRun cur vars m x = some r) (hst : r.1 ≠ .MB_ENOERR) : r.2.length < m := by
  induction m generalizing x r with
  | zero =>
    cases h
    exact absurd rfl hst
  | succ m ih =>
    rw [getRun] at h
    split at h
    · exact absurd h (by simp)
    · split at h
      · cases h
        simp
      · obtain ⟨r', hr, rfl⟩ := Option.map_eq_some_iff.mp h
        have := ih hr hst
        simpa using this

/-- **`eMBSlaveUtilGetBits` is one pass over the coils**, and packs the bits it reads. -/
theorem getBitsLoop_eq (vars : Mem) {usNPreBits : ℕ} (hpre : usNPreBits < 8) (iNReg q : ℕ) (x : USHORT)
    (pv : Option sMBSlaveBitData) (buf : Mem) (hpv : pv = none ∨ ∃ y, pv = coil cur y) :
    getBitsLoop cur vars usNPreBits iNReg q x pv buf =
      (getRun cur vars (loopBits usNPreBits iNReg) x).map fun r =>
        (r.1, storeList buf q (packBytes (startedBytes iNReg r.1 r.2) r.2)) := by
  induction iNReg generalizing q x pv buf with
  | zero => rfl
  | succ iNReg ih =>
    obtain ⟨hrun, hnext⟩ := getByteLoop_eq cur vars q (passBits (iNReg + 1) usNPreBits) 0 x pv
      (store8 buf q 0) hpv
    rw [loopBits, getRun_add, getBitsLoop]
    cases hg : getRun cur vars (passBits (iNReg + 1) usNPreBits) x with
    | none =>
      rw [hg] at hrun
      rw [Option.map_eq_none_iff.mp hrun]
      rfl
    | some g =>
      rw [hg] at hrun
      obtain ⟨r, hr, hrg⟩ := Option.map_eq_some_iff.mp hrun
      have hmem : r.mem = store8 buf q (packByte g.2 0) := by
        rw [(Prod.mk.inj hrg).2, store8_same, orBits_zero]
        simp [store8]
      have hst : r.status = g.1 := (Prod.mk.inj hrg).1
      rw [hr]
      dsimp only
      by_cases hok : g.1 = .MB_ENOERR
      · obtain ⟨haddr, hpv'⟩ := hnext r hr (hst.trans hok)
        have hlen : g.2.length = passBits (iNReg + 1) usNPreBits :=
          getRun_length (by rw [hg, ← hok])
        rw [if_pos (hst.trans hok), if_pos hok, ih _ _ _ _ hpv', haddr, hmem, Option.map_map]
        rcases Nat.eq_zero_or_pos iNReg with rfl | hpos
        · -- the last pass: nothing is left to read
          simp [loopBits, getRun, startedBytes, packBytes, storeList]
        · rw [passBits_of_pos hpos] at hlen ⊢
          congr 1
          funext r'
          simp only [Function.comp_apply, startedBytes, List.length_append, hlen]
          split
          · rw [packBytes_succ_append hlen, storeList]
          · rw [show (8 + r'.2.length) / 8 + 1 = (r'.2.length / 8 + 1) + 1 by omega,
              packBytes_succ_append hlen, storeList]
      · have hlt := getRun_length_lt hg hok
        have := passBits_le (iNReg + 1) hpre
        rw [if_neg (by rw [hst]; exact hok), if_neg hok, hst, hmem, Option.map_some, startedBytes,
          if_neg hok, Nat.div_eq_of_lt (by omega)]
        rfl

/-! ### Requests -/

/-- The PDU of a function-code-15 request for the bits `bits`. -/
def writeCoilsRequest (a : USHORT) (bits : List Bool) : List UCHAR :=
  MB_FUNC_WRITE_MULTIPLE_COILS :: (beBytes [a, BitVec.ofNat 16 bits.length] ++
    BitVec.ofNat 8 ((bits.length + 7) / 8) :: packBits bits)

/-- The PDU of a function-code-1 request. -/
def readCoilsRequest (a n : USHORT) : List UCHAR := MB_FUNC_READ_COILS :: beBytes [a, n]

/-- The PDU of a function-code-1 response. -/
def coilsResponse (bits : List Bool) : List UCHAR :=
  MB_FUNC_READ_COILS :: BitVec.ofNat 8 ((bits.length + 7) / 8) :: packBits bits

section Handlers

variable {s : Store} {p : ℕ} {a n : USHORT} {bits : List Bool}

theorem coilBytes_eq (n : USHORT) : coilBytes n = BitVec.ofNat 8 ((n.toNat + 7) / 8) := by
  have h7 : (n &&& 7).toNat = n.toNat % 8 := by
    rw [BitVec.toNat_and, show (7 : USHORT).toNat = 2 ^ 3 - 1 from rfl, Nat.and_two_pow_sub_one_eq_mod]
  have h0 : n &&& 7 ≠ 0 ↔ n.toNat % 8 ≠ 0 := by
    rw [← h7, ne_eq, ne_eq, ← BitVec.toNat_inj]
    rfl
  have h8 : (n / 8).toNat = n.toNat / 8 := BitVec.toNat_udiv
  have := n.isLt
  unfold coilBytes
  apply BitVec.eq_of_toNat_eq
  split <;> rename_i h <;> rw [h0] at h <;>
    simp only [lo, BitVec.extractLsb'_toNat, Nat.shiftRight_zero, BitVec.toNat_ofNat, BitVec.toNat_add, h8,
      show (1 : USHORT).toNat = 1 from rfl] <;> omega

theorem Received.writeCoils (h : Received s p (writeCoilsRequest a bits)) :
    s.usLength = 6 + (bits.length + 7) / 8 ∧ loadBE s.ucRcvBuf (p + 1) = a ∧
      loadBE s.ucRcvBuf (p + 3) = BitVec.ofNat 16 bits.length ∧
      s.ucRcvBuf (p + 5) = BitVec.ofNat 8 ((bits.length + 7) / 8) ∧
      Holds s.ucRcvBuf (p + 6) (packBits bits) := by
  obtain ⟨hlen, hrest⟩ := Received.counted h
  rw [packBits_length] at hlen
  exact ⟨hlen, hrest⟩

theorem Received.readCoils (h : Received s p (readCoilsRequest a n)) :
    s.usLength = 5 ∧ loadBE s.ucRcvBuf (p + 1) = a ∧ loadBE s.ucRcvBuf (p + 3) = n :=
  Received.twoWords h

/-- **Function code 15 on the bytes in the buffer**: a pass over `runBits n` coils, with the bits that
stand in the buffer. -/
theorem writeMultipleCoils_parse (hlen : s.usLength > 5) (h1 : loadBE s.ucRcvBuf (p + 1) = a)
    (h3 : loadBE s.ucRcvBuf (p + 3) = n)
    (hn : (1 ≤ n.toNat ∧ n.toNat ≤ 0x07B0) ∧ coilBytes n = s.ucRcvBuf (p + 5)) :
    eMBSlaveFuncWriteMultipleCoils cur p s =
      if tableCovers cur.sMBCoilTable a n then
        (setRun cur (bitAt s.ucRcvBuf (p + 6)) (runBits n.toNat) 0 a s.vars).map fun r =>
          (prveMBSlaveError2Exception r.1,
            { s with usLength := if r.1 = .MB_ENOERR then 5 else s.usLength, vars := r.2 })
      else some (.MB_EX_ILLEGAL_DATA_ADDRESS, s) := by
  unfold eMBSlaveFuncWriteMultipleCoils
  simp only [h1, h3]
  rw [if_pos hlen, if_pos (show n ≥ (1 : USHORT) ∧ n ≤ (0x07B0 : USHORT) ∧ _ from ⟨hn.1.1, hn.1.2, hn.2⟩),
    eMBSlaveRegCoilsCB]
  split
  · simp only [eMBSlaveUtilSetBits, setBitsLoop_eq _ (Nat.mod_lt _ (by decide : 8 > 0)) _ _ _ _ _ (Or.inl rfl),
      loopBits_request, Option.map_map]
    congr 1
    funext r
    by_cases hr : r.1 = .MB_ENOERR <;> simp [hr, prveMBSlaveError2Exception]
  · rfl

theorem writeMultipleCoils_refused (hlen : s.usLength > 5)
    (hn : ¬((1 ≤ (loadBE s.ucRcvBuf (p + 3)).toNat ∧ (loadBE s.ucRcvBuf (p + 3)).toNat ≤ 0x07B0) ∧
      coilBytes (loadBE s.ucRcvBuf (p + 3)) = s.ucRcvBuf (p + 5))) :
    eMBSlaveFuncWriteMultipleCoils cur p s = some (.MB_EX_ILLEGAL_DATA_VALUE, s) := by
  have hn' : ¬(loadBE s.ucRcvBuf (p + 3) ≥ (1 : USHORT) ∧ loadBE s.ucRcvBuf (p + 3) ≤ (0x07B0 : USHORT) ∧
      coilBytes (loadBE s.ucRcvBuf (p + 3)) = s.ucRcvBuf (p + 5)) := fun h => hn ⟨⟨h.1, h.2.1⟩, h.2.2⟩
  rw [eMBSlaveFuncWriteMultipleCoils, if_pos hlen]
  dsimp only
  rw [if_neg hn']

/-- Function code 15 puts nothing over the request, and leaves its length or makes it 5. -/
theorem writeMultipleCoils_frame {r : eMBException × Store} (h : eMBSlaveFuncWriteMultipleCoils cur p s = some r) :
    r.2.ucRcvBuf = s.ucRcvBuf ∧ (r.2.usLength = s.usLength ∨ r.2.usLength = 5) := by
  by_cases hlen : s.usLength > 5
  · by_cases hn : (1 ≤ (loadBE s.ucRcvBuf (p + 3)).toNat ∧ (loadBE s.ucRcvBuf (p + 3)).toNat ≤ 0x07B0) ∧
        coilBytes (loadBE s.ucRcvBuf (p + 3)) = s.ucRcvBuf (p + 5)
    · rw [writeMultipleCoils_parse hlen rfl rfl hn] at h
      split at h
      · obtain ⟨w, -, rfl⟩ := Option.map_eq_some_iff.mp h
        refine ⟨rfl, ?_⟩
        dsimp only
        split
        · exact Or.inr rfl
        · exact Or.inl rfl
      · cases h
        exact ⟨rfl, Or.inl rfl⟩
    · rw [writeMultipleCoils_refused hlen hn] at h
      cases h
      exact ⟨rfl, Or.inl rfl⟩
  · rw [eMBSlaveFuncWriteMultipleCoils, if_neg hlen] at h
    cases h
    exact ⟨rfl, Or.inl rfl⟩

/-- **Function code 15 on a request for the bits `bits`.** -/
theorem writeMultipleCoils_eq (h : Received s p (writeCoilsRequest a bits))
    (hn : 1 ≤ bits.length ∧ bits.length ≤ 0x07B0) :
    eMBSlaveFuncWriteMultipleCoils cur p s =
      if tableCovers cur.sMBCoilTable a (BitVec.ofNat 16 bits.length) then
        (setRun cur (bitAt s.ucRcvBuf (p + 6)) (runBits bits.length) 0 a s.vars).map fun r =>
          (prveMBSlaveError2Exception r.1,
            { s with usLength := if r.1 = .MB_ENOERR then 5 else s.usLength, vars := r.2 })
      else some (.MB_EX_ILLEGAL_DATA_ADDRESS, s) := by
  obtain ⟨hlen, h1, h3, h5, -⟩ := h.writeCoils
  have hn16 : (BitVec.ofNat 16 bits.length).toNat = bits.length := by
    rw [BitVec.toNat_ofNat, Nat.mod_eq_of_lt (by omega)]
  rw [writeMultipleCoils_parse (by omega) h1 h3 ⟨by omega, by rw [coilBytes_eq, h5, hn16]⟩, hn16]

theorem readCoils_refused (hlen : s.usLength = 5)
    (hn : ¬(1 ≤ (loadBE s.ucRcvBuf (p + 3)).toNat ∧ (loadBE s.ucRcvBuf (p + 3)).toNat < 0x07D0)) :
    eMBSlaveFuncReadCoils cur p s = some (.MB_EX_ILLEGAL_DATA_VALUE, s) := by
  have hn' : ¬(loadBE s.ucRcvBuf (p + 3) ≥ (1 : USHORT) ∧ loadBE s.ucRcvBuf (p + 3) < (0x07D0 : USHORT)) := hn
  rw [eMBSlaveFuncReadCoils, if_pos hlen]
  dsimp only
  rw [if_neg hn']

/-- **Function code 1 on the bytes in the buffer**: a pass over `runBits n` coils from the address
after `a` on. -/
theorem readCoils_parse (hlen : s.usLength = 5) (h1 : loadBE s.ucRcvBuf (p + 1) = a)
    (h3 : loadBE s.ucRcvBuf (p + 3) = n) (hn : 1 ≤ n.toNat ∧ n.toNat < 0x07D0) :
    eMBSlaveFuncReadCoils cur p s =
      if tableCovers cur.sMBCoilTable (a + 1) n then
        (getRun cur s.vars (runBits n.toNat) (a + 1)).map fun r =>
          (prveMBSlaveError2Exception r.1,
            { s with
              ucRcvBuf := storeList s.ucRcvBuf p (MB_FUNC_READ_COILS :: BitVec.ofNat 8 ((n.toNat + 7) / 8) ::
                packBytes (startedBytes (n.toNat / 8 + 1) r.1 r.2) r.2)
              usLength := if r.1 = .MB_ENOERR then 2 + (n.toNat + 7) / 8 else 2 })
      else some (.MB_EX_ILLEGAL_DATA_ADDRESS,
        putHeader s p MB_FUNC_READ_COILS (BitVec.ofNat 8 ((n.toNat + 7) / 8))) := by
  unfold eMBSlaveFuncReadCoils
  simp only [h1, h3, coilBytes_eq]
  have hb : (BitVec.ofNat 8 ((n.toNat + 7) / 8)).toNat = (n.toNat + 7) / 8 := by
    rw [BitVec.toNat_ofNat, Nat.mod_eq_of_lt (by omega)]
  rw [if_pos hlen, if_pos (show n ≥ (1 : USHORT) ∧ n < (0x07D0 : USHORT) from hn), eMBSlaveRegCoilsCB]
  split
  · simp only [eMBSlaveUtilGetBits, getBitsLoop_eq _ (Nat.mod_lt _ (by decide : 8 > 0)) _ _ _ _ _ (Or.inl rfl),
      loopBits_request, Option.map_map, hb]
    congr 1
    funext r
    by_cases hr : r.1 = .MB_ENOERR <;> simp [hr, prveMBSlaveError2Exception, putHeader, storeList]
  · rfl

end Handlers

end GreeIntense.Slave

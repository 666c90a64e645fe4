import GreeIntense.Slave.Holding

/-!
# What the holding-register handlers do, on lists of words

The buffer loops are brought to two functions on lists: `regHoldAssign` assigns a list of words to
consecutive addresses, and `regHoldWords` is the list of words read from consecutive addresses.  On
a request whose bytes are known each handler is then an expression in these two.
-/

namespace GreeIntense.Slave

open Lib.Memory

variable (cur : sMBSlaveCommData)

/-! ### The loops on lists of words -/

/-- Assign the words to the addresses from `i` on, up to the first refusal. -/
def regHoldAssign : List USHORT → USHORT → Mem → eMBErrorCode × Mem
  | [], _, vars => (.MB_ENOERR, vars)
  | w :: ws, i, vars =>
    match regHoldWrite vars (regHold cur i) w with
    | none => (.MB_EINVAL, vars)
    | some vars => regHoldAssign ws (i + 1) vars

/-- The words read from `n` addresses from `i` on. -/
def regHoldWords (vars : Mem) : ℕ → USHORT → USHORT → List USHORT
  | 0, _, _ => []
  | n + 1, i, v =>
    let r := regHoldRead vars (regHold cur i) v
    r.1 :: regHoldWords vars n (i + 1) r.2

variable {cur}

@[simp] theorem regHoldWords_length (vars : Mem) (n : ℕ) (i v : USHORT) :
    (regHoldWords cur vars n i v).length = n := by
  induction n generalizing i v with
  | zero => rfl
  | succ n ih => simp [regHoldWords, ih]

theorem regHoldMap_snd {pv : Option sMBSlaveRegData} (hpv : pv = none ∨ ∃ y, pv = regHold cur y)
    (x : USHORT) : (eMBSlaveRegHoldMap cur x pv).2 = regHold cur x := slaveMap_snd hpv x

/-- **The reading loop stores the words read.** -/
theorem regHoldReadLoop_eq (vars : Mem) (n : ℕ) (i : USHORT) (pv : Option sMBSlaveRegData) (v : USHORT)
    (p : ℕ) (buf : Mem) (hpv : pv = none ∨ ∃ y, pv = regHold cur y) :
    regHoldReadLoop cur vars n i pv v p buf = storeList buf p (beBytes (regHoldWords cur vars n i v)) := by
  induction n generalizing i pv v p buf with
  | zero => rfl
  | succ n ih =>
    simp only [regHoldReadLoop, regHoldWords, regHoldMap_snd hpv, beBytes_cons, storeList]
    rw [ih _ _ _ _ _ (Or.inr ⟨i, rfl⟩)]
    rfl

variable (cur) in
/-- **The writing loop assigns the words of the request.** -/
theorem regHoldWriteLoop_eq {buf : Mem} {ws : List USHORT} (i : USHORT) (pv : Option sMBSlaveRegData)
    (p : ℕ) (vars : Mem) (hbuf : Holds buf p (beBytes ws)) (hpv : pv = none ∨ ∃ y, pv = regHold cur y) :
    regHoldWriteLoop cur buf ws.length i pv p vars = regHoldAssign cur ws i vars := by
  induction ws generalizing i pv p vars with
  | nil => rfl
  | cons w ws ih =>
    obtain ⟨h0, h⟩ := holds_beBytes_cons.mp hbuf
    simp only [List.length_cons, regHoldWriteLoop, regHoldAssign, regHoldMap_snd hpv, h0]
    cases regHoldWrite vars (regHold cur i) w with
    | none => rfl
    | some vars' => exact ih _ _ _ _ h (Or.inr ⟨i, rfl⟩)

variable (cur) in
theorem regHoldAssign_fst (ws : List USHORT) (i : USHORT) (vars : Mem) :
    (regHoldAssign cur ws i vars).1 = .MB_ENOERR ∨ (regHoldAssign cur ws i vars).1 = .MB_EINVAL := by
  induction ws generalizing i vars with
  | nil => exact Or.inl rfl
  | cons w ws ih =>
    rw [regHoldAssign]
    split
    · exact Or.inr rfl
    · exact ih _ _

/-! ### Requests -/

/-- The PDU `pdu` stands in the receive buffer from `p` on, with its length. -/
structure Received (s : Store) (p : ℕ) (pdu : List UCHAR) : Prop where
  holds : Holds s.ucRcvBuf p pdu
  len : s.usLength = pdu.length

/-- The PDU of a function-code-3 request. -/
def readRequest (a n : USHORT) : List UCHAR := MB_FUNC_READ_HOLDING_REGISTER :: beBytes [a, n]

/-- The PDU of a function-code-16 request for the words `ws`. -/
def writeRequest (a : USHORT) (ws : List USHORT) : List UCHAR :=
  MB_FUNC_WRITE_MULTIPLE_REGISTERS :: (beBytes [a, BitVec.ofNat 16 ws.length] ++
    BitVec.ofNat 8 (2 * ws.length) :: beBytes ws)

/-- The PDU of a function-code-23 request. -/
def readWriteRequest (ra rn wa : USHORT) (ws : List USHORT) : List UCHAR :=
  MB_FUNC_READWRITE_MULTIPLE_REGISTERS :: (beBytes [ra, rn, wa, BitVec.ofNat 16 ws.length] ++
    BitVec.ofNat 8 (2 * ws.length) :: beBytes ws)

/-- The PDU of a register response: function code, byte count and words. -/
def wordsResponse (ucFunc : UCHAR) (ws : List USHORT) : List UCHAR :=
  ucFunc :: BitVec.ofNat 8 (2 * ws.length) :: beBytes ws

/-- The store after a response has been put over the request. -/
def Store.respond (s : Store) (p : ℕ) (pdu : List UCHAR) : Store :=
  { s with ucRcvBuf := storeList s.ucRcvBuf p pdu, usLength := pdu.length }

theorem Store.received_respond (s : Store) (p : ℕ) (pdu : List UCHAR) : Received (s.respond p pdu) p pdu :=
  ⟨holds_storeList, rfl⟩

theorem lo_two_mul (n : ℕ) : lo (2 * BitVec.ofNat 16 n) = BitVec.ofNat 8 (2 * n) := by
  apply BitVec.eq_of_toNat_eq
  simp only [lo, BitVec.extractLsb'_toNat, Nat.shiftRight_zero, BitVec.toNat_mul, BitVec.toNat_ofNat,
    show (2 : BitVec 16).toNat = 2 from rfl]
  omega

theorem lo_mul_two (n : USHORT) : lo (n * 2) = BitVec.ofNat 8 (2 * n.toNat) := by
  rw [BitVec.mul_comm, ← lo_two_mul, BitVec.ofNat_toNat, BitVec.setWidth_eq]

theorem Received.twoWords {s : Store} {p : ℕ} {fc : UCHAR} {a n : USHORT} (h : Received s p (fc :: beBytes [a, n])) :
    s.usLength = 5 ∧ loadBE s.ucRcvBuf (p + 1) = a ∧ loadBE s.ucRcvBuf (p + 3) = n := by
  obtain ⟨hh, hl⟩ := h
  obtain ⟨-, hh⟩ := holds_cons.mp hh
  obtain ⟨h1, hh⟩ := holds_beBytes_cons.mp hh
  exact ⟨hl, h1, (holds_beBytes_cons.mp hh).1⟩

/-- A request of two words, a byte and the bytes it counts, as those that write are. -/
theorem Received.counted {s : Store} {p : ℕ} {fc c : UCHAR} {a n : USHORT} {bs : List UCHAR}
    (h : Received s p (fc :: (beBytes [a, n] ++ c :: bs))) :
    s.usLength = 6 + bs.length ∧ loadBE s.ucRcvBuf (p + 1) = a ∧ loadBE s.ucRcvBuf (p + 3) = n ∧
      s.ucRcvBuf (p + 5) = c ∧ Holds s.ucRcvBuf (p + 6) bs := by
  obtain ⟨hh, hl⟩ := h
  obtain ⟨-, hh⟩ := holds_cons.mp hh
  obtain ⟨h1, hh⟩ := holds_append.mp hh
  obtain ⟨h1, h2⟩ := holds_beBytes_cons.mp h1
  obtain ⟨h3, h4⟩ := holds_cons.mp hh
  refine ⟨?_, h1, (holds_beBytes_cons.mp h2).1, h3, h4⟩
  simp only [hl, List.length_cons, List.length_append, beBytes_length, List.length_nil]
  omega

theorem Received.read {s : Store} {p : ℕ} {a n : USHORT} (h : Received s p (readRequest a n)) :
    s.usLength = 5 ∧ loadBE s.ucRcvBuf (p + 1) = a ∧ loadBE s.ucRcvBuf (p + 3) = n :=
  Received.twoWords h

theorem Received.write {s : Store} {p : ℕ} {a : USHORT} {ws : List USHORT}
    (h : Received s p (writeRequest a ws)) :
    s.usLength = 6 + 2 * ws.length ∧ loadBE s.ucRcvBuf (p + 1) = a ∧
      loadBE s.ucRcvBuf (p + 3) = BitVec.ofNat 16 ws.length ∧
      s.ucRcvBuf (p + 5) = BitVec.ofNat 8 (2 * ws.length) ∧ Holds s.ucRcvBuf (p + 6) (beBytes ws) := by
  obtain ⟨hlen, hrest⟩ := Received.counted h
  rw [beBytes_length] at hlen
  exact ⟨hlen, hrest⟩

theorem Received.readWrite {s : Store} {p : ℕ} {ra rn wa : USHORT} {ws : List USHORT}
    (h : Received s p (readWriteRequest ra rn wa ws)) :
    s.usLength = 10 + 2 * ws.length ∧ loadBE s.ucRcvBuf (p + 1) = ra ∧ loadBE s.ucRcvBuf (p + 3) = rn ∧
      loadBE s.ucRcvBuf (p + 5) = wa ∧ loadBE s.ucRcvBuf (p + 7) = BitVec.ofNat 16 ws.length ∧
      s.ucRcvBuf (p + 9) = BitVec.ofNat 8 (2 * ws.length) ∧ Holds s.ucRcvBuf (p + 10) (beBytes ws) := by
  obtain ⟨hh, hl⟩ := h
  obtain ⟨-, hh⟩ := holds_cons.mp hh
  obtain ⟨h1, hh⟩ := holds_append.mp hh
  obtain ⟨h1, h2⟩ := holds_beBytes_cons.mp h1
  obtain ⟨h2, h3⟩ := holds_beBytes_cons.mp h2
  obtain ⟨h3, h4⟩ := holds_beBytes_cons.mp h3
  obtain ⟨h5, h6⟩ := holds_cons.mp hh
  refine ⟨?_, h1, h2, h3, (holds_beBytes_cons.mp h4).1, h5, h6⟩
  simp only [hl, readWriteRequest, List.length_cons, List.length_append, beBytes_length, List.length_nil]
  omega

/-! ### The callback and the handlers on requests -/

section Handlers

variable {s : Store} {p : ℕ} {a n : USHORT} {ws : List USHORT}

theorem regHoldingCB_read (h : tableCovers cur.sMBRegHoldTable a n) :
    eMBSlaveRegHoldingCB cur s p a n .MB_REG_READ =
      (.MB_ENOERR, { s with ucRcvBuf := storeList s.ucRcvBuf p (beBytes (regHoldWords cur s.vars n.toNat a 0)) }) := by
  unfold eMBSlaveRegHoldingCB
  rw [if_pos h]
  simp only [regHoldReadLoop_eq _ _ _ _ _ _ _ (Or.inl rfl)]

theorem regHoldingCB_write (h : tableCovers cur.sMBRegHoldTable a n) :
    eMBSlaveRegHoldingCB cur s p a n .MB_REG_WRITE =
      ((regHoldAssign cur (wordsAt s.ucRcvBuf p n.toNat) a s.vars).1,
        { s with vars := (regHoldAssign cur (wordsAt s.ucRcvBuf p n.toNat) a s.vars).2 }) := by
  have hloop := regHoldWriteLoop_eq cur a none p s.vars (holds_wordsAt s.ucRcvBuf p n.toNat)
    (Or.inl rfl)
  rw [wordsAt_length] at hloop
  unfold eMBSlaveRegHoldingCB
  rw [if_pos h]
  simp only [hloop]

theorem regHoldingCB_uncovered (h : ¬ tableCovers cur.sMBRegHoldTable a n) (m : eMBRegisterMode) :
    eMBSlaveRegHoldingCB cur s p a n m = (.MB_ENOREG, s) := by
  unfold eMBSlaveRegHoldingCB
  rw [if_neg h]

/-- **Function code 16 on the bytes in the buffer.** -/
theorem writeMultipleHolding_parse (hlen : s.usLength ≥ 6) (h1 : loadBE s.ucRcvBuf (p + 1) = a)
    (h3 : loadBE s.ucRcvBuf (p + 3) = n) :
    eMBSlaveFuncWriteMultipleHoldingRegister cur p s =
      if (1 ≤ n.toNat ∧ n.toNat ≤ 0x78) ∧ s.ucRcvBuf (p + 5) = lo (2 * n) then
        if tableCovers cur.sMBRegHoldTable a n then
          let r := regHoldAssign cur (wordsAt s.ucRcvBuf (p + 6) n.toNat) a s.vars
          (prveMBSlaveError2Exception r.1,
            { s with usLength := if r.1 = .MB_ENOERR then 5 else s.usLength, vars := r.2 })
        else (.MB_EX_ILLEGAL_DATA_ADDRESS, s)
      else (.MB_EX_ILLEGAL_DATA_VALUE, s) := by
  unfold eMBSlaveFuncWriteMultipleHoldingRegister
  simp only [h1, h3]
  have hc : (n ≥ (1 : USHORT) ∧ n ≤ (0x78 : USHORT) ∧ s.ucRcvBuf (p + 5) = lo (2 * n)) ↔
      (1 ≤ n.toNat ∧ n.toNat ≤ 0x78) ∧ s.ucRcvBuf (p + 5) = lo (2 * n) := by
    simp only [ge_iff_le, BitVec.le_def, and_assoc]
    exact Iff.rfl
  rw [if_pos hlen, if_congr hc rfl rfl]
  split
  · by_cases hcov : tableCovers cur.sMBRegHoldTable a n = true
    · rw [regHoldingCB_write hcov, if_pos hcov]
      rcases regHoldAssign_fst cur (wordsAt s.ucRcvBuf (p + 6) n.toNat) a s.vars with e | e <;>
        simp [e, prveMBSlaveError2Exception]
    · rw [regHoldingCB_uncovered hcov, if_neg hcov]
      simp [prveMBSlaveError2Exception]
  · rfl

/-- **Function code 16 on a request for the words `ws`.** -/
theorem writeMultipleHolding_eq (h : Received s p (writeRequest a ws)) (hl : ws.length < 65536) :
    eMBSlaveFuncWriteMultipleHoldingRegister cur p s =
      if 1 ≤ ws.length ∧ ws.length ≤ 0x78 then
        if tableCovers cur.sMBRegHoldTable a (BitVec.ofNat 16 ws.length) then
          let r := regHoldAssign cur ws a s.vars
          (prveMBSlaveError2Exception r.1,
            { s with usLength := if r.1 = .MB_ENOERR then 5 else s.usLength, vars := r.2 })
        else (.MB_EX_ILLEGAL_DATA_ADDRESS, s)
      else (.MB_EX_ILLEGAL_DATA_VALUE, s) := by
  obtain ⟨hlen, h1, h3, h5, h6⟩ := h.write
  have hn : (BitVec.ofNat 16 ws.length).toNat = ws.length := by
    rw [BitVec.toNat_ofNat, Nat.mod_eq_of_lt (by omega)]
  have hb : s.ucRcvBuf (p + 5) = lo (2 * BitVec.ofNat 16 ws.length) := by rw [h5, lo_two_mul]
  rw [writeMultipleHolding_parse (by omega) h1 h3, hn, wordsAt_eq h6, if_congr (and_iff_left hb) rfl rfl]

theorem writeMultipleHolding_buf (p : ℕ) (s : Store) :
    (eMBSlaveFuncWriteMultipleHoldingRegister cur p s).2.ucRcvBuf = s.ucRcvBuf := by
  have hcb (q : ℕ) (a n : USHORT) :
      (eMBSlaveRegHoldingCB cur s q a n .MB_REG_WRITE).2.ucRcvBuf = s.ucRcvBuf := by
    unfold eMBSlaveRegHoldingCB
    split <;> rfl
  unfold eMBSlaveFuncWriteMultipleHoldingRegister
  split
  · dsimp only
    split
    · split <;> exact hcb _ _ _
    · rfl
  · rfl

/-- **Function code 3 on the bytes in the buffer.** -/
theorem readHolding_parse (hlen : s.usLength = 5) (h1 : loadBE s.ucRcvBuf (p + 1) = a)
    (h3 : loadBE s.ucRcvBuf (p + 3) = n) :
    eMBSlaveFuncReadHoldingRegister cur p s =
      if 1 ≤ n.toNat ∧ n.toNat ≤ 0x7D then
        if tableCovers cur.sMBRegHoldTable a n then
          (.MB_EX_NONE, s.respond p
            (wordsResponse MB_FUNC_READ_HOLDING_REGISTER (regHoldWords cur s.vars n.toNat a 0)))
        else (.MB_EX_ILLEGAL_DATA_ADDRESS, putHeader s p MB_FUNC_READ_HOLDING_REGISTER (lo (n * 2)))
      else (.MB_EX_ILLEGAL_DATA_VALUE, s) := by
  unfold eMBSlaveFuncReadHoldingRegister
  simp only [h1, h3]
  have hc : (n ≥ (1 : USHORT) ∧ n ≤ (0x7D : USHORT)) ↔ 1 ≤ n.toNat ∧ n.toNat ≤ 0x7D := Iff.rfl
  rw [if_pos hlen, if_congr hc rfl rfl]
  split
  · by_cases hcov : tableCovers cur.sMBRegHoldTable a n = true
    · rw [regHoldingCB_read hcov, if_pos hcov]
      simp only [putHeader, Store.respond, wordsResponse, storeList, lo_mul_two, regHoldWords_length,
        List.length_cons, beBytes_length, ne_eq, not_true_eq_false, if_false]
      rw [show 2 + n.toNat * 2 = 2 * n.toNat + 1 + 1 by omega]
    · rw [regHoldingCB_uncovered hcov, if_neg hcov]
      simp [prveMBSlaveError2Exception]
  · rfl

/-- **Function code 3 on a request for `n` registers.** -/
theorem readHolding_eq (h : Received s p (readRequest a n)) :
    eMBSlaveFuncReadHoldingRegister cur p s =
      if 1 ≤ n.toNat ∧ n.toNat ≤ 0x7D then
        if tableCovers cur.sMBRegHoldTable a n then
          (.MB_EX_NONE, s.respond p
            (wordsResponse MB_FUNC_READ_HOLDING_REGISTER (regHoldWords cur s.vars n.toNat a 0)))
        else (.MB_EX_ILLEGAL_DATA_ADDRESS, putHeader s p MB_FUNC_READ_HOLDING_REGISTER (lo (n * 2)))
      else (.MB_EX_ILLEGAL_DATA_VALUE, s) :=
  readHolding_parse h.read.1 h.read.2.1 h.read.2.2

/-- **Function code 23 on the bytes in the buffer.**  The words go to the addresses from `wa + 1` on. -/
theorem readWriteMultipleHolding_parse {ra rn wa wn : USHORT} (hlen : s.usLength ≥ 10)
    (h1 : loadBE s.ucRcvBuf (p + 1) = ra) (h3 : loadBE s.ucRcvBuf (p + 3) = rn)
    (h5 : loadBE s.ucRcvBuf (p + 5) = wa) (h7 : loadBE s.ucRcvBuf (p + 7) = wn) :
    eMBSlaveFuncReadWriteMultipleHoldingRegister cur p s =
      if (1 ≤ rn.toNat ∧ rn.toNat ≤ 0x7D) ∧ (1 ≤ wn.toNat ∧ wn.toNat ≤ 0x79) ∧
          2 * wn.toNat = (s.ucRcvBuf (p + 9)).toNat then
        if tableCovers cur.sMBRegHoldTable (wa + 1) wn then
          let r := regHoldAssign cur (wordsAt s.ucRcvBuf (p + 10) wn.toNat) (wa + 1) s.vars
          if r.1 = .MB_ENOERR then
            if tableCovers cur.sMBRegHoldTable ra rn then
              (.MB_EX_NONE, { s with vars := r.2 }.respond p
                (wordsResponse MB_FUNC_READWRITE_MULTIPLE_REGISTERS (regHoldWords cur r.2 rn.toNat ra 0)))
            else (.MB_EX_ILLEGAL_DATA_ADDRESS,
              putHeader { s with vars := r.2 } p MB_FUNC_READWRITE_MULTIPLE_REGISTERS (lo (rn * 2)))
          else (prveMBSlaveError2Exception r.1, { s with vars := r.2 })
        else (.MB_EX_ILLEGAL_DATA_ADDRESS, s)
      else (.MB_EX_ILLEGAL_DATA_VALUE, s) := by
  unfold eMBSlaveFuncReadWriteMultipleHoldingRegister
  simp only [h1, h3, h5, h7]
  -- the bounds as numbers
  have hc : (rn ≥ (1 : USHORT) ∧ rn ≤ (0x7D : USHORT) ∧ wn ≥ (1 : USHORT) ∧ wn ≤ (0x79 : USHORT) ∧
      2 * wn.toNat = (s.ucRcvBuf (p + 9)).toNat) ↔ (1 ≤ rn.toNat ∧ rn.toNat ≤ 0x7D) ∧
      (1 ≤ wn.toNat ∧ wn.toNat ≤ 0x79) ∧ 2 * wn.toNat = (s.ucRcvBuf (p + 9)).toNat := by
    simp only [ge_iff_le, BitVec.le_def, and_assoc]
    exact Iff.rfl
  rw [if_pos hlen, if_congr hc rfl rfl]
  split
  · by_cases hcov : tableCovers cur.sMBRegHoldTable (wa + 1) wn = true
    · rw [regHoldingCB_write hcov, if_pos hcov]
      dsimp only
      split
      · by_cases hcov' : tableCovers cur.sMBRegHoldTable ra rn = true
        · rw [regHoldingCB_read hcov', if_pos hcov']
          simp only [putHeader, Store.respond, wordsResponse, storeList, lo_mul_two, regHoldWords_length,
            List.length_cons, beBytes_length, if_true]
          rw [show 2 + 2 * rn.toNat = 2 * rn.toNat + 1 + 1 by omega]
        · rw [regHoldingCB_uncovered hcov', if_neg hcov']
          simp [prveMBSlaveError2Exception]
      · rfl
    · rw [regHoldingCB_uncovered hcov, if_neg hcov]
      simp [prveMBSlaveError2Exception]
  · rfl

/-- **Function code 23 on a request for the words `ws`.** -/
theorem readWriteMultipleHolding_eq {ra rn wa : USHORT} (h : Received s p (readWriteRequest ra rn wa ws))
    (hl : ws.length < 128) :
    eMBSlaveFuncReadWriteMultipleHoldingRegister cur p s =
      if (1 ≤ rn.toNat ∧ rn.toNat ≤ 0x7D) ∧ 1 ≤ ws.length ∧ ws.length ≤ 0x79 then
        if tableCovers cur.sMBRegHoldTable (wa + 1) (BitVec.ofNat 16 ws.length) then
          let r := regHoldAssign cur ws (wa + 1) s.vars
          if r.1 = .MB_ENOERR then
            if tableCovers cur.sMBRegHoldTable ra rn then
              (.MB_EX_NONE, { s with vars := r.2 }.respond p
                (wordsResponse MB_FUNC_READWRITE_MULTIPLE_REGISTERS (regHoldWords cur r.2 rn.toNat ra 0)))
            else (.MB_EX_ILLEGAL_DATA_ADDRESS,
              putHeader { s with vars := r.2 } p MB_FUNC_READWRITE_MULTIPLE_REGISTERS (lo (rn * 2)))
          else (prveMBSlaveError2Exception r.1, { s with vars := r.2 })
        else (.MB_EX_ILLEGAL_DATA_ADDRESS, s)
      else (.MB_EX_ILLEGAL_DATA_VALUE, s) := by
  obtain ⟨hlen, h1, h3, h5, h7, h9, h10⟩ := h.readWrite
  have hn : (BitVec.ofNat 16 ws.length).toNat = ws.length := by
    rw [BitVec.toNat_ofNat, Nat.mod_eq_of_lt (by omega)]
  have hb : 2 * ws.length = (BitVec.ofNat 8 (2 * ws.length)).toNat := by
    rw [BitVec.toNat_ofNat, Nat.mod_eq_of_lt (by omega)]
  rw [readWriteMultipleHolding_parse (by omega) h1 h3 h5 h7, h9, hn, wordsAt_eq h10]
  simp only [← hb, and_true]

end Handlers

end GreeIntense.Slave

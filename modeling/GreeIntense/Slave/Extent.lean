import GreeIntense.Slave.WriteEffect

/-!
# How far an answer reaches

The answer is put over the request: it starts at the index 7 of the receive buffer, which has 256 bytes,
and the handlers limit the counts by what the protocol allows, not by what the buffer holds.  `stored` is
the list of bytes a handler stores from the frame on, `execute_stored` says so, and `response_fits_iff`
tells the requests whose answer stays inside the buffer.
-/

namespace GreeIntense.Slave

open Lib.Memory Lib.Bits

/-! ### Reads up to a stop -/

variable (cur : sMBSlaveCommData)

/-- The input register is mapped and may be read. -/
def readableIn (x : USHORT) : Bool :=
  match regIn cur x with
  | some e => e.ucAccessMode ≠ .WO
  | none => false

/-- The coil is mapped and may be read. -/
def readableCoil (x : USHORT) : Bool :=
  match coil cur x with
  | some e => e.ucAccessMode ≠ .WO
  | none => false

/-- The words function code 4 reads, up to a stop or a null pointer. -/
def regInWords (vars : Mem) : ℕ → USHORT → USHORT → List USHORT
  | 0, _, _ => []
  | n + 1, i, v =>
    match regIn cur i with
    | none => []
    | some e =>
      if e.ucAccessMode = .WO then []
      else
        let r := regInRead vars e v
        r.1 :: regInWords vars n (i + 1) r.2

/-- The bits function code 1 reads, up to a stop or a null pointer. -/
def coilBits (vars : Mem) : ℕ → USHORT → List Bool
  | 0, _ => []
  | m + 1, x =>
    match coil cur x with
    | none => []
    | some e => if e.ucAccessMode = .WO then [] else coilBit vars e :: coilBits vars m (x + 1)

variable {cur}

theorem regInWords_length (vars : Mem) (n : ℕ) (i v : USHORT) :
    (regInWords cur vars n i v).length = leading (readableIn cur) n i := by
  induction n generalizing i v with
  | zero => rfl
  | succ n ih =>
    rw [regInWords, leading, readableIn]
    cases regIn cur i with
    | none => rfl
    | some e =>
      by_cases hwo : e.ucAccessMode = .WO
      · simp [hwo]
      · simp [hwo, ih]

theorem coilBits_length (vars : Mem) (m : ℕ) (x : USHORT) :
    (coilBits cur vars m x).length = leading (readableCoil cur) m x := by
  induction m generalizing x with
  | zero => rfl
  | succ m ih =>
    rw [coilBits, leading, readableCoil]
    cases coil cur x with
    | none => rfl
    | some e =>
      by_cases hwo : e.ucAccessMode = .WO
      · simp [hwo]
      · simp [hwo, ih]

theorem regInRun_words {vars : Mem} {n : ℕ} {i v : USHORT} {r : eMBErrorCode × List USHORT}
    (h : regInRun cur vars n i v = some r) : r.2 = regInWords cur vars n i v := by
  induction n generalizing i v r with
  | zero =>
    cases h
    rfl
  | succ n ih =>
    rw [regInRun] at h
    rw [regInWords]
    cases he : regIn cur i with
    | none => simp [he] at h
    | some e =>
      simp only [he] at h
      by_cases hwo : e.ucAccessMode = .WO
      · rw [if_pos hwo] at h
        cases h
        simp [hwo]
      · rw [if_neg hwo] at h
        obtain ⟨r', hr, rfl⟩ := Option.map_eq_some_iff.mp h
        simp [hwo, ih hr]

theorem getRun_bits {vars : Mem} {m : ℕ} {x : USHORT} {r : eMBErrorCode × List Bool}
    (h : getRun cur vars m x = some r) : r.2 = coilBits cur vars m x := by
  induction m generalizing x r with
  | zero =>
    cases h
    rfl
  | succ m ih =>
    rw [getRun] at h
    rw [coilBits]
    cases he : coil cur x with
    | none => simp [he] at h
    | some e =>
      simp only [he] at h
      by_cases hwo : e.ucAccessMode = .WO
      · rw [if_pos hwo] at h
        cases h
        simp [hwo]
      · rw [if_neg hwo] at h
        obtain ⟨r', hr, rfl⟩ := Option.map_eq_some_iff.mp h
        simp [hwo, ih hr]

/-! ### The bytes stored -/

section Stored

variable (cur) (usRegInValue : USHORT) (p : ℕ) (s : Store)

/-- The bytes of coils that a request for `n` of them has started when `m` bits have been read. -/
def startedCoilBytes (n m : ℕ) : ℕ := if m = runBits n then n / 8 + 1 else m / 8 + 1

/-- The bytes the handler of a function code stores, from the frame on: function code and byte count once
the request is in order, then what the read loop stores. -/
def stored (ucFunctionCode : UCHAR) : List UCHAR :=
  let a := loadBE s.ucRcvBuf (p + 1)
  let n := loadBE s.ucRcvBuf (p + 3)
  if ucFunctionCode = MB_FUNC_READ_HOLDING_REGISTER then
    if s.usLength = 5 ∧ 1 ≤ n.toNat ∧ n.toNat ≤ 0x7D then
      MB_FUNC_READ_HOLDING_REGISTER :: BitVec.ofNat 8 (2 * n.toNat) ::
        if tableCovers cur.sMBRegHoldTable a n then beBytes (regHoldWords cur s.vars n.toNat a 0) else []
    else []
  else if ucFunctionCode = MB_FUNC_READ_INPUT_REGISTER then
    if s.usLength = 5 ∧ 1 ≤ n.toNat ∧ n.toNat < 0x7D then
      MB_FUNC_READ_INPUT_REGISTER :: BitVec.ofNat 8 (2 * n.toNat) ::
        if tableCovers cur.sMBRegInTable a n then beBytes (regInWords cur s.vars n.toNat a usRegInValue) else []
    else []
  else if ucFunctionCode = MB_FUNC_READWRITE_MULTIPLE_REGISTERS then
    let ws := wordsAt s.ucRcvBuf (p + 10) (loadBE s.ucRcvBuf (p + 7)).toNat
    let wa := loadBE s.ucRcvBuf (p + 5) + 1
    if passes .readWrite p s cur ∧ takesAll cur ws wa then
      MB_FUNC_READWRITE_MULTIPLE_REGISTERS :: BitVec.ofNat 8 (2 * n.toNat) ::
        if tableCovers cur.sMBRegHoldTable a n then
          beBytes (regHoldWords cur (regHoldAssign cur ws wa s.vars).2 n.toNat a 0)
        else []
    else []
  else if ucFunctionCode = MB_FUNC_READ_COILS then
    if s.usLength = 5 ∧ 1 ≤ n.toNat ∧ n.toNat < 0x07D0 then
      MB_FUNC_READ_COILS :: BitVec.ofNat 8 ((n.toNat + 7) / 8) ::
        if tableCovers cur.sMBCoilTable (a + 1) n then
          let bits := coilBits cur s.vars (runBits n.toNat) (a + 1)
          packBytes (startedCoilBytes n.toNat bits.length) bits
        else []
    else []
  else []

end Stored

section Execute

variable {v : USHORT} {p : ℕ} {s : Store} {r : eMBException × Store}

theorem putHeader_buf (s : Store) (p : ℕ) (n : USHORT) (ucFunc : UCHAR) :
    (putHeader s p ucFunc (lo (n * 2))).ucRcvBuf = storeList s.ucRcvBuf p [ucFunc, BitVec.ofNat 8 (2 * n.toNat)] := by
  rw [lo_mul_two]
  rfl

theorem respond_words_buf (s : Store) (p : ℕ) (ucFunc : UCHAR) (vars : Mem) (n a : USHORT) :
    (s.respond p (wordsResponse ucFunc (regHoldWords cur vars n.toNat a 0))).ucRcvBuf =
      storeList s.ucRcvBuf p
        (ucFunc :: BitVec.ofNat 8 (2 * n.toNat) :: beBytes (regHoldWords cur vars n.toNat a 0)) := by
  rw [Store.respond, wordsResponse, regHoldWords_length]

theorem readHolding_stored :
    (eMBSlaveFuncReadHoldingRegister cur p s).2.ucRcvBuf =
      storeList s.ucRcvBuf p (stored cur v p s MB_FUNC_READ_HOLDING_REGISTER) := by
  rw [stored, if_pos rfl]
  by_cases hlen : s.usLength = 5
  · rw [readHolding_parse hlen rfl rfl]
    by_cases hn : 1 ≤ (loadBE s.ucRcvBuf (p + 3)).toNat ∧ (loadBE s.ucRcvBuf (p + 3)).toNat ≤ 0x7D
    · have hh := And.intro hlen hn
      rw [if_pos hn, if_pos hh]
      by_cases hc : tableCovers cur.sMBRegHoldTable (loadBE s.ucRcvBuf (p + 1)) (loadBE s.ucRcvBuf (p + 3)) = true
      · rw [if_pos hc, if_pos hc]
        exact respond_words_buf _ _ _ _ _ _
      · rw [if_neg hc, if_neg hc]
        exact putHeader_buf _ _ _ _
    · rw [if_neg hn, if_neg fun h => hn h.2]
      rfl
  · rw [if_neg fun h => hlen h.1, eMBSlaveFuncReadHoldingRegister, if_neg hlen]
    rfl

theorem readInput_stored (h : eMBSlaveFuncReadInputRegister cur v p s = some r) :
    r.2.ucRcvBuf = storeList s.ucRcvBuf p (stored cur v p s MB_FUNC_READ_INPUT_REGISTER) := by
  rw [stored, if_neg (by decide), if_pos rfl]
  by_cases hlen : s.usLength = 5
  · rw [readInput_eq hlen rfl rfl] at h
    by_cases hn : 1 ≤ (loadBE s.ucRcvBuf (p + 3)).toNat ∧ (loadBE s.ucRcvBuf (p + 3)).toNat < 0x7D
    · rw [if_pos hn] at h
      rw [if_pos ⟨hlen, hn⟩]
      split at h
      · obtain ⟨w, hw, rfl⟩ := Option.map_eq_some_iff.mp h
        rename_i hc
        rw [if_pos hc, ← regInRun_words hw]
      · cases h
        rename_i hc
        rw [if_neg hc]
        rfl
    · rw [if_neg hn] at h
      cases h
      rw [if_neg fun h => hn h.2]
      rfl
  · rw [eMBSlaveFuncReadInputRegister, if_neg hlen] at h
    cases h
    rw [if_neg fun h => hlen h.1]
    rfl

theorem readWrite_stored :
    (eMBSlaveFuncReadWriteMultipleHoldingRegister cur p s).2.ucRcvBuf =
      storeList s.ucRcvBuf p (stored cur v p s MB_FUNC_READWRITE_MULTIPLE_REGISTERS) := by
  rw [stored, if_neg (by decide), if_neg (by decide), if_pos rfl]
  by_cases hlen : s.usLength ≥ 10
  · rw [readWriteMultipleHolding_parse hlen rfl rfl rfl rfl]
    dsimp only
    generalize hws : wordsAt s.ucRcvBuf (p + 10) (loadBE s.ucRcvBuf (p + 7)).toNat = ws
    generalize hwa : loadBE s.ucRcvBuf (p + 5) + 1 = wa
    have hok := (regHoldAssign_eq cur ws wa s.vars).1
    split
    · rename_i hn
      by_cases hc : tableCovers cur.sMBRegHoldTable wa (loadBE s.ucRcvBuf (p + 7)) = true
      · have hc' : tableCovers cur.sMBRegHoldTable (loadBE s.ucRcvBuf (p + 5) + 1) (loadBE s.ucRcvBuf (p + 7)) := by
          rw [hwa]
          exact hc
        have hp : passes .readWrite p s cur := ⟨⟨hlen, hn⟩, hc'⟩
        rw [if_pos hc]
        by_cases ht : takesAll cur ws wa = true
        · have hh := And.intro hp ht
          have hok' := hok.mpr ht
          by_cases hr : tableCovers cur.sMBRegHoldTable (loadBE s.ucRcvBuf (p + 1)) (loadBE s.ucRcvBuf (p + 3)) = true
          · rw [if_pos hr, if_pos hh, if_pos hr, if_pos hok']
            exact respond_words_buf _ _ _ _ _ _
          · -- the read is refused, and its header stays in the buffer
            rw [if_neg hr, if_pos hh, if_neg hr, if_pos hok']
            exact putHeader_buf _ _ _ _
        · have hst := mt hok.mp ht
          rw [if_neg hst, if_neg fun h => ht h.2]
          rfl
      · rw [if_neg hc, if_neg fun h => hc (by rw [← hwa]; exact h.1.2)]
        rfl
    · rename_i hn
      rw [if_neg fun h => hn h.1.1.2]
      rfl
  · rw [if_neg fun h => hlen h.1.1.1, eMBSlaveFuncReadWriteMultipleHoldingRegister, if_neg hlen]
    rfl

theorem startedBytes_eq {vars : Mem} {n : ℕ} {x : USHORT} {r : eMBErrorCode × List Bool}
    (h : getRun cur vars (runBits n) x = some r) :
    startedBytes (n / 8 + 1) r.1 r.2 = startedCoilBytes n r.2.length := by
  rw [startedBytes, startedCoilBytes]
  by_cases hst : r.1 = .MB_ENOERR
  · have hl : r.2.length = runBits n := getRun_length (by rw [h, ← hst])
    rw [if_pos hst, if_pos hl]
  · have hl := getRun_length_lt h hst
    rw [if_neg hst, if_neg (by omega)]

theorem readCoils_stored (h : eMBSlaveFuncReadCoils cur p s = some r) :
    r.2.ucRcvBuf = storeList s.ucRcvBuf p (stored cur v p s MB_FUNC_READ_COILS) := by
  rw [stored, if_neg (by decide), if_neg (by decide), if_neg (by decide), if_pos rfl]
  by_cases hlen : s.usLength = 5
  · by_cases hn : 1 ≤ (loadBE s.ucRcvBuf (p + 3)).toNat ∧ (loadBE s.ucRcvBuf (p + 3)).toNat < 0x07D0
    · rw [readCoils_parse hlen rfl rfl hn] at h
      rw [if_pos ⟨hlen, hn⟩]
      split at h
      · obtain ⟨w, hw, rfl⟩ := Option.map_eq_some_iff.mp h
        rename_i hc
        rw [if_pos hc, ← getRun_bits hw, startedBytes_eq hw]
      · cases h
        rename_i hc
        rw [if_neg hc]
        rfl
    · rw [readCoils_refused hlen hn] at h
      cases h
      rw [if_neg fun h => hn h.2]
      rfl
  · rw [eMBSlaveFuncReadCoils, if_neg hlen] at h
    cases h
    rw [if_neg fun h => hlen h.1]
    rfl

theorem execute_keeps_buf {fc : UCHAR} (h3 : fc ≠ MB_FUNC_READ_HOLDING_REGISTER)
    (h4 : fc ≠ MB_FUNC_READ_INPUT_REGISTER) (h23 : fc ≠ MB_FUNC_READWRITE_MULTIPLE_REGISTERS)
    (h1 : fc ≠ MB_FUNC_READ_COILS) (h : execute cur v fc p s = some r) : r.2.ucRcvBuf = s.ucRcvBuf := by
  by_cases h16 : fc = MB_FUNC_WRITE_MULTIPLE_REGISTERS
  · subst h16
    have hr : r = eMBSlaveFuncWriteMultipleHoldingRegister cur p s := (Option.some.inj h).symm
    rw [hr]
    exact writeMultipleHolding_buf p s
  by_cases h15 : fc = MB_FUNC_WRITE_MULTIPLE_COILS
  · subst h15
    exact (writeMultipleCoils_frame h).1
  · rw [execute_unhandled h3 h4 h16 h23 h1 h15] at h
    cases h
    rfl

/-- **The bytes a handler stores**: the buffer afterwards, for every function code and every request the
handler returns from. -/
theorem execute_stored {fc : UCHAR} (h : execute cur v fc p s = some r) :
    r.2.ucRcvBuf = storeList s.ucRcvBuf p (stored cur v p s fc) := by
  by_cases h3 : fc = MB_FUNC_READ_HOLDING_REGISTER
  · subst h3
    rw [← readHolding_stored, Option.some.inj h]
  by_cases h4 : fc = MB_FUNC_READ_INPUT_REGISTER
  · subst h4
    exact readInput_stored h
  by_cases h23 : fc = MB_FUNC_READWRITE_MULTIPLE_REGISTERS
  · subst h23
    rw [← readWrite_stored, Option.some.inj h]
  by_cases h1 : fc = MB_FUNC_READ_COILS
  · subst h1
    exact readCoils_stored h
  · rw [execute_keeps_buf h3 h4 h23 h1 h, stored, if_neg h3, if_neg h4, if_neg h23, if_neg h1]
    rfl

end Execute

/-! ### The exact condition -/

/-- `MB_TCP_FUNC`: the PDU starts at this index of the receive buffer. -/
abbrev MB_TCP_FUNC : ℕ := 7

/-- `MB_SER_PDU_SIZE_MAX`: the bytes of the receive buffer. -/
abbrev MB_SER_PDU_SIZE_MAX : ℕ := 256

/-- Every byte the handler stores has an index inside the receive buffer, and what stands after the buffer is
left as it is. -/
structure FitsFrame (cur : sMBSlaveCommData) (v : USHORT) (ucFunctionCode : UCHAR) (s : Store) : Prop where
  inside : ∀ k < (stored cur v MB_TCP_FUNC s ucFunctionCode).length, MB_TCP_FUNC + k < MB_SER_PDU_SIZE_MAX
  after : ∀ r, execute cur v ucFunctionCode MB_TCP_FUNC s = some r →
    ∀ i ≥ MB_SER_PDU_SIZE_MAX, r.2.ucRcvBuf i = s.ucRcvBuf i

/-- The requests whose answer is too long: 124 or 125 registers, or at least 1976 coils, that are in the
table and all read as far as the end of the buffer. -/
def AnswerTooLong (cur : sMBSlaveCommData) (ucFunctionCode : UCHAR) (s : Store) : Prop :=
  let a := loadBE s.ucRcvBuf (MB_TCP_FUNC + 1)
  let n := loadBE s.ucRcvBuf (MB_TCP_FUNC + 3)
  ucFunctionCode = MB_FUNC_READ_HOLDING_REGISTER ∧ s.usLength = 5 ∧ (124 ≤ n.toNat ∧ n.toNat ≤ 125) ∧
      tableCovers cur.sMBRegHoldTable a n ∨
    ucFunctionCode = MB_FUNC_READ_INPUT_REGISTER ∧ s.usLength = 5 ∧ n.toNat = 124 ∧
      tableCovers cur.sMBRegInTable a n ∧ (∀ j < 124, readableIn cur (a + BitVec.ofNat 16 j)) ∨
    ucFunctionCode = MB_FUNC_READWRITE_MULTIPLE_REGISTERS ∧ passes .readWrite MB_TCP_FUNC s cur ∧ 124 ≤ n.toNat ∧
      takesAll cur (wordsAt s.ucRcvBuf (MB_TCP_FUNC + 10) (loadBE s.ucRcvBuf (MB_TCP_FUNC + 7)).toNat)
        (loadBE s.ucRcvBuf (MB_TCP_FUNC + 5) + 1) ∧ tableCovers cur.sMBRegHoldTable a n ∨
    ucFunctionCode = MB_FUNC_READ_COILS ∧ s.usLength = 5 ∧ (1976 ≤ n.toNat ∧ n.toNat < 2000) ∧
      tableCovers cur.sMBCoilTable (a + 1) n ∧ ∀ j < 1976, readableCoil cur (a + 1 + BitVec.ofNat 16 j)

section Fits

variable {v : USHORT} {fc : UCHAR} {s : Store}

/-- What is stored inside the buffer leaves the rest alone. -/
theorem fitsFrame_iff : FitsFrame cur v fc s ↔ (stored cur v MB_TCP_FUNC s fc).length ≤ 249 := by
  constructor
  · intro h
    by_contra hl
    have hlt : 7 + 249 < 256 := h.inside 249 (by omega)
    omega
  · intro hl
    constructor
    · intro k hk
      show 7 + k < 256
      omega
    · intro r hr i hi
      have hi' : 256 ≤ i := hi
      rw [execute_stored hr, storeList_off (show i < 7 ∨ 7 + _ ≤ i by omega)]

/-- The bytes of an answer of words: the header and two bytes for each word read from a covered range. -/
theorem words_le {x y : UCHAR} {c : Prop} [Decidable c] {ws : List USHORT} :
    (x :: y :: if c then beBytes ws else []).length ≤ 249 ↔ ¬(c ∧ 124 ≤ ws.length) := by
  split
  · rename_i hc
    rw [List.length_cons, List.length_cons, beBytes_length]
    constructor
    · intro h h'
      omega
    · intro h
      have h124 : ¬124 ≤ ws.length := fun h' => h ⟨hc, h'⟩
      omega
  · rename_i hc
    exact ⟨fun _ h => hc h.1, fun _ => by simp⟩

theorem ite_nil_le {c : Prop} [Decidable c] {bs : List UCHAR} {n : ℕ} :
    (if c then bs else []).length ≤ n ↔ (c → bs.length ≤ n) := by
  split
  · rename_i hc
    exact ⟨fun h _ => h, fun h => h hc⟩
  · rename_i hc
    exact ⟨fun _ h => absurd h hc, fun _ => by simp⟩

variable (cur v s) in
/-- **Function code 3**: too long from 124 registers on. -/
theorem stored_readHolding :
    (stored cur v MB_TCP_FUNC s MB_FUNC_READ_HOLDING_REGISTER).length ≤ 249 ↔
      ¬AnswerTooLong cur MB_FUNC_READ_HOLDING_REGISTER s := by
  rw [stored, if_pos rfl, ite_nil_le, words_le, regHoldWords_length]
  constructor
  · rintro h (⟨-, hlen, hn, hc⟩ | ⟨hf, -⟩ | ⟨hf, -⟩ | ⟨hf, -⟩)
    · exact h ⟨hlen, by omega⟩ ⟨hc, hn.1⟩
    · exact absurd hf (by decide)
    · exact absurd hf (by decide)
    · exact absurd hf (by decide)
  · rintro h ⟨hlen, hn⟩ ⟨hc, hn'⟩
    exact h (Or.inl ⟨rfl, hlen, ⟨hn', hn.2⟩, hc⟩)

variable (cur v s) in
/-- **Function code 4**: too long for 124 registers that can all be read. -/
theorem stored_readInput :
    (stored cur v MB_TCP_FUNC s MB_FUNC_READ_INPUT_REGISTER).length ≤ 249 ↔
      ¬AnswerTooLong cur MB_FUNC_READ_INPUT_REGISTER s := by
  rw [stored, if_neg (by decide), if_pos rfl, ite_nil_le, words_le, regInWords_length, le_leading]
  constructor
  · rintro h (⟨hf, -⟩ | ⟨-, hlen, hn, hc, hr⟩ | ⟨hf, -⟩ | ⟨hf, -⟩)
    · exact absurd hf (by decide)
    · exact h ⟨hlen, by omega⟩ ⟨hc, by omega, hr⟩
    · exact absurd hf (by decide)
    · exact absurd hf (by decide)
  · rintro h ⟨hlen, hn⟩ ⟨hc, hn', hr⟩
    exact h (Or.inr (Or.inl ⟨rfl, hlen, by omega, hc, hr⟩))

variable (cur v s) in
/-- **Function code 23**: too long from 124 registers on, once the write has been made. -/
theorem stored_readWrite :
    (stored cur v MB_TCP_FUNC s MB_FUNC_READWRITE_MULTIPLE_REGISTERS).length ≤ 249 ↔
      ¬AnswerTooLong cur MB_FUNC_READWRITE_MULTIPLE_REGISTERS s := by
  rw [stored, if_neg (by decide), if_neg (by decide), if_pos rfl, ite_nil_le, words_le, regHoldWords_length]
  constructor
  · rintro h (⟨hf, -⟩ | ⟨hf, -⟩ | ⟨-, hp, hn, ht, hc⟩ | ⟨hf, -⟩)
    · exact absurd hf (by decide)
    · exact absurd hf (by decide)
    · exact h ⟨hp, ht⟩ ⟨hc, hn⟩
    · exact absurd hf (by decide)
  · rintro h ⟨hp, ht⟩ ⟨hc, hn⟩
    exact h (Or.inr (Or.inr (Or.inl ⟨rfl, hp, hn, ht, hc⟩)))

/-- The bytes started of `n` coils, `m` of them read. -/
theorem startedCoilBytes_le {n m : ℕ} (hn : n < 2000) (hm : m ≤ runBits n) :
    startedCoilBytes n m ≤ 247 ↔ ¬(1976 ≤ n ∧ 1976 ≤ m) := by
  have hr : runBits n = n ∧ n % 8 ≠ 0 ∨ runBits n = n + 8 ∧ n % 8 = 0 := by
    unfold runBits
    split
    · exact Or.inr ⟨rfl, by assumption⟩
    · exact Or.inl ⟨rfl, by assumption⟩
  unfold startedCoilBytes
  split
  · omega
  · omega

variable (cur v s) in
/-- **Function code 1**: too long from 1976 coils on, if so many can be read. -/
theorem stored_readCoils :
    (stored cur v MB_TCP_FUNC s MB_FUNC_READ_COILS).length ≤ 249 ↔ ¬AnswerTooLong cur MB_FUNC_READ_COILS s := by
  set n := (loadBE s.ucRcvBuf (MB_TCP_FUNC + 3)).toNat with hnn
  set x := loadBE s.ucRcvBuf (MB_TCP_FUNC + 1) + 1 with hx
  have hm : leading (readableCoil cur) (runBits n) x ≤ runBits n := (le_leading.mp le_rfl).1
  have hr : n ≤ runBits n := by
    unfold runBits
    split <;> omega
  have hlead : 1976 ≤ n → (1976 ≤ leading (readableCoil cur) (runBits n) x ↔
      ∀ j < 1976, readableCoil cur (x + BitVec.ofNat 16 j)) := fun h =>
    le_leading.trans (and_iff_right (by omega))
  rw [stored, if_neg (by decide), if_neg (by decide), if_neg (by decide), if_pos rfl, ite_nil_le, ← hnn, ← hx,
    List.length_cons, List.length_cons]
  have hbytes : n < 2000 → ((if tableCovers cur.sMBCoilTable x (loadBE s.ucRcvBuf (MB_TCP_FUNC + 3)) then
      packBytes (startedCoilBytes n (coilBits cur s.vars (runBits n) x).length) (coilBits cur s.vars (runBits n) x)
      else []).length + 1 + 1 ≤ 249 ↔
      (tableCovers cur.sMBCoilTable x (loadBE s.ucRcvBuf (MB_TCP_FUNC + 3)) →
        ¬(1976 ≤ n ∧ 1976 ≤ leading (readableCoil cur) (runBits n) x))) := by
    intro hlt
    rw [← startedCoilBytes_le hlt hm, Nat.add_assoc, ← Nat.le_sub_iff_add_le (by decide), ite_nil_le,
      packBytes_length, coilBits_length]
  constructor
  · rintro h (⟨hf, -⟩ | ⟨hf, -⟩ | ⟨hf, -⟩ | ⟨-, hlen, hn, hc, hread⟩)
    · exact absurd hf (by decide)
    · exact absurd hf (by decide)
    · exact absurd hf (by decide)
    · have hle := h ⟨hlen, by omega⟩
      exact (hbytes hn.2).mp hle hc ⟨hn.1, (hlead hn.1).mpr hread⟩
  · rintro h ⟨hlen, hn⟩
    refine (hbytes hn.2).mpr ?_
    intro hc hbig
    exact h (Or.inr (Or.inr (Or.inr ⟨rfl, hlen, ⟨hbig.1, hn.2⟩, hc, (hlead hbig.1).mp hbig.2⟩)))

/-- **An answer fits the buffer exactly when it is not too long**: for every table, every function code and
every request. -/
theorem response_fits_iff (cur : sMBSlaveCommData) (v : USHORT) (fc : UCHAR) (s : Store) :
    FitsFrame cur v fc s ↔ ¬AnswerTooLong cur fc s := by
  rw [fitsFrame_iff]
  by_cases h3 : fc = MB_FUNC_READ_HOLDING_REGISTER
  · subst h3
    exact stored_readHolding cur v s
  by_cases h4 : fc = MB_FUNC_READ_INPUT_REGISTER
  · subst h4
    exact stored_readInput cur v s
  by_cases h23 : fc = MB_FUNC_READWRITE_MULTIPLE_REGISTERS
  · subst h23
    exact stored_readWrite cur v s
  by_cases h1 : fc = MB_FUNC_READ_COILS
  · subst h1
    exact stored_readCoils cur v s
  · rw [stored, if_neg h3, if_neg h4, if_neg h23, if_neg h1]
    refine iff_of_true (by simp) ?_
    rintro (⟨hf, -⟩ | ⟨hf, -⟩ | ⟨hf, -⟩ | ⟨hf, -⟩)
    · exact h3 hf
    · exact h4 hf
    · exact h23 hf
    · exact h1 hf

/-- A table that covers the addresses up to 199. -/
def wideTable : sMBSlaveCommData := { oneRegister with
  sMBRegHoldTable := { oneRegister.sMBRegHoldTable with usEndAddr := 199 } }

/-- Function code 3 for 124 registers: the last byte is stored at the index 256. -/
theorem response_does_not_fit :
    ¬FitsFrame wideTable 0 MB_FUNC_READ_HOLDING_REGISTER (storeOf 7 (readRequest 0 124) fun _ => 0) := by
  intro h
  have hlen : (stored wideTable 0 MB_TCP_FUNC (storeOf 7 (readRequest 0 124) fun _ => 0)
      MB_FUNC_READ_HOLDING_REGISTER).length = 250 := by
    rw [stored, if_pos rfl, if_pos (by decide), if_pos (by decide), List.length_cons, List.length_cons,
      beBytes_length, regHoldWords_length]
    decide
  have hlt : 7 + 249 < 256 := h.inside 249 (by omega)
  omega

end Fits

end GreeIntense.Slave

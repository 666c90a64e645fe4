import GreeIntense.Lib.Refine
import GreeIntense.Slave.CoilsRoundTrip
import GreeIntense.Slave.Tcp

/-!
# The slave is a server (`mb.c`, `mbtcp.c` and the handlers)

What the poll loop is for: requests are taken one after the other, each is served on the variables as they are then,
and each gets one reply, with its own transaction identifier.  `Server` says so without frames, buffers and events;
`slave_is_server` says that the slave follows it, along every run in which the application assigns variables at any
time.

The requests are whole and fit the receive buffer, and so do their answers (`Request.Ok`).  A multiple of eight coils is
not written: the last pass of the loop takes eight coils more, with bits that stand behind the request.
-/

namespace GreeIntense.Slave

open Lib.Memory Lib.Bits Lib.Run Lib.Refine eMBErrorCode

/-! ### The server -/

/-- A request: one of those there is a handler for, or another function code with what follows it. -/
inductive Request
  | readHolding (a n : USHORT)
  | writeHolding (a : USHORT) (ws : List USHORT)
  | readWriteHolding (ra rn wa : USHORT) (ws : List USHORT)
  | readInput (a n : USHORT)
  | readCoils (a n : USHORT)
  | writeCoils (a : USHORT) (bits : List Bool)
  | unhandled (ucFunctionCode : UCHAR) (rest : List UCHAR)

def Request.code : Request → UCHAR
  | .readHolding _ _ => MB_FUNC_READ_HOLDING_REGISTER
  | .writeHolding _ _ => MB_FUNC_WRITE_MULTIPLE_REGISTERS
  | .readWriteHolding _ _ _ _ => MB_FUNC_READWRITE_MULTIPLE_REGISTERS
  | .readInput _ _ => MB_FUNC_READ_INPUT_REGISTER
  | .readCoils _ _ => MB_FUNC_READ_COILS
  | .writeCoils _ _ => MB_FUNC_WRITE_MULTIPLE_COILS
  | .unhandled ucFunctionCode _ => ucFunctionCode

def Request.pdu : Request → List UCHAR
  | .readHolding a n => readRequest a n
  | .writeHolding a ws => writeRequest a ws
  | .readWriteHolding ra rn wa ws => readWriteRequest ra rn wa ws
  | .readInput a n => MB_FUNC_READ_INPUT_REGISTER :: beBytes [a, n]
  | .readCoils a n => readCoilsRequest a n
  | .writeCoils a bits => writeCoilsRequest a bits
  | .unhandled ucFunctionCode rest => ucFunctionCode :: rest

/-- What the server makes of a request: the exception, the answer where there is none, and the variables. -/
structure Answer where
  exception : eMBException
  body : List UCHAR
  vars : Mem

/-- A count that is out of order and a range outside the table are refused. -/
def guarded (inOrder : Prop) [Decidable inOrder] (covered : Bool) (vars : Mem) (answer : Option Answer) :
    Option Answer :=
  if inOrder then
    if covered then answer else some ⟨.MB_EX_ILLEGAL_DATA_ADDRESS, [], vars⟩
  else some ⟨.MB_EX_ILLEGAL_DATA_VALUE, [], vars⟩

/-- **The server**: registers and coils are read and written as lists.  A result `none` is a request that runs into an
unmapped address (function codes 1, 4 and 15). -/
def serve (cur : sMBSlaveCommData) (usRegInValue : USHORT) (vars : Mem) : Request → Option Answer
  | .readHolding a n =>
    guarded (1 ≤ n.toNat ∧ n.toNat ≤ 0x7D) (tableCovers cur.sMBRegHoldTable a n) vars
      (some ⟨.MB_EX_NONE, wordsResponse MB_FUNC_READ_HOLDING_REGISTER (regHoldWords cur vars n.toNat a 0), vars⟩)
  | .writeHolding a ws =>
    let n := BitVec.ofNat 16 ws.length
    guarded (1 ≤ ws.length ∧ ws.length ≤ 0x78) (tableCovers cur.sMBRegHoldTable a n) vars
      (let r := regHoldAssign cur ws a vars
      some ⟨prveMBSlaveError2Exception r.1, MB_FUNC_WRITE_MULTIPLE_REGISTERS :: beBytes [a, n], r.2⟩)
  | .readWriteHolding ra rn wa ws =>
    guarded ((1 ≤ rn.toNat ∧ rn.toNat ≤ 0x7D) ∧ 1 ≤ ws.length ∧ ws.length ≤ 0x79)
      (tableCovers cur.sMBRegHoldTable (wa + 1) (BitVec.ofNat 16 ws.length)) vars
      (let r := regHoldAssign cur ws (wa + 1) vars
      if r.1 = MB_ENOERR then
        guarded True (tableCovers cur.sMBRegHoldTable ra rn) r.2
          (some ⟨.MB_EX_NONE,
            wordsResponse MB_FUNC_READWRITE_MULTIPLE_REGISTERS (regHoldWords cur r.2 rn.toNat ra 0), r.2⟩)
      else some ⟨prveMBSlaveError2Exception r.1, [], r.2⟩)
  | .readInput a n =>
    guarded (1 ≤ n.toNat ∧ n.toNat < 0x7D) (tableCovers cur.sMBRegInTable a n) vars
      ((regInRun cur vars n.toNat a usRegInValue).map fun r =>
        ⟨prveMBSlaveError2Exception r.1, wordsResponse MB_FUNC_READ_INPUT_REGISTER r.2, vars⟩)
  | .readCoils a n =>
    guarded (1 ≤ n.toNat ∧ n.toNat < 0x07D0) (tableCovers cur.sMBCoilTable (a + 1) n) vars
      ((getRun cur vars (runBits n.toNat) (a + 1)).map fun r =>
        ⟨prveMBSlaveError2Exception r.1, coilsResponse (r.2.take n.toNat), vars⟩)
  | .writeCoils a bits =>
    let n := BitVec.ofNat 16 bits.length
    guarded (1 ≤ bits.length ∧ bits.length ≤ 0x07B0) (tableCovers cur.sMBCoilTable a n) vars
      ((setRun cur (fun k => bits.getD k false) bits.length 0 a vars).map fun r =>
        ⟨prveMBSlaveError2Exception r.1, MB_FUNC_WRITE_MULTIPLE_COILS :: beBytes [a, n], r.2⟩)
  | .unhandled _ _ => some ⟨.MB_EX_ILLEGAL_FUNCTION, [], vars⟩

/-- The PDU of the reply: the answer or the error frame. -/
def Answer.pdu (y : Answer) (ucFunctionCode : UCHAR) : List UCHAR :=
  if y.exception ≠ .MB_EX_NONE then [ucFunctionCode ||| MB_FUNC_ERROR, y.exception.code] else y.body

/-- Where the server is with a request that has come in: the slave polls once to take it and once to serve it. -/
inductive Phase
  | listening
  | received (tid : USHORT) (r : Request)
  | taken (tid : USHORT) (r : Request)

/-- The variables, the request in hand, and the replies with their transaction identifiers, the latest first. -/
structure Server where
  vars : Mem
  phase : Phase
  replies : List (USHORT × List UCHAR)

/-- A poll, with the request that comes in if the server listens; the application assigning its variables; a
connection. -/
inductive ServerEvent
  | poll (tid : USHORT) (r : Request) (usRegInValue : USHORT)
  | assign (vars : Mem)
  | connect

def serverStep (cur : sMBSlaveCommData) (a : Server) : ServerEvent → Option Server
  | .assign vars => some { a with vars := vars }
  | .connect => some a
  | .poll tid r usRegInValue =>
    match a.phase with
    | .listening => some { a with phase := .received tid r }
    | .received tid r => some { a with phase := .taken tid r }
    | .taken tid r => (serve cur usRegInValue a.vars r).map fun y =>
      { vars := y.vars, phase := .listening, replies := (tid, y.pdu r.code) :: a.replies }

def mbapFrame (tid : USHORT) (ucSlaveAddr : UCHAR) (pdu : List UCHAR) : List UCHAR :=
  hi tid :: lo tid :: 0 :: 0 :: 0 :: BitVec.ofNat 8 (pdu.length + 1) :: ucSlaveAddr :: pdu

def ServerEvent.toSlave (ucSlaveAddr : UCHAR) : ServerEvent → SlaveEvent
  | .poll tid r usRegInValue => .poll usRegInValue (mbapFrame tid ucSlaveAddr r.pdu)
  | .assign vars => .assign vars
  | .connect => .connect

/-- A write of coils ends within a byte, and a function code without a handler is none of the others. -/
def Request.Plain : Request → Prop
  | .writeCoils _ bits => bits.length % 8 ≠ 0
  | .unhandled fc _ => fc ∉ [MB_FUNC_READ_HOLDING_REGISTER, MB_FUNC_READ_INPUT_REGISTER,
      MB_FUNC_WRITE_MULTIPLE_REGISTERS, MB_FUNC_READWRITE_MULTIPLE_REGISTERS, MB_FUNC_READ_COILS,
      MB_FUNC_WRITE_MULTIPLE_COILS]
  | _ => True

/-- The answer does not reach the end of the receive buffer. -/
def Request.Fits : Request → Prop
  | .readHolding _ n => ¬(124 ≤ n.toNat ∧ n.toNat ≤ 125)
  | .readWriteHolding _ rn _ _ => ¬(124 ≤ rn.toNat ∧ rn.toNat ≤ 125)
  | .readInput _ n => n.toNat ≠ 124
  | .readCoils _ n => ¬(1976 ≤ n.toNat ∧ n.toNat < 2000)
  | _ => True

/-- A request that can be received at once. -/
structure Request.Ok (r : Request) : Prop where
  short : r.pdu.length ≤ 249
  plain : r.Plain
  fits : r.Fits

/-! ### The handlers -/

/-- What a handler returns is what the server answers. -/
structure Served (p : ℕ) (x : eMBException × Store) (y : Answer) : Prop where
  exception : x.1 = y.exception
  vars : x.2.vars = y.vars
  body : y.exception = .MB_EX_NONE → Received x.2 p y.body

section Handlers

variable {cur : sMBSlaveCommData} {v : USHORT} {p : ℕ} {s : Store}

theorem Served.refused {e : eMBException} (he : e ≠ .MB_EX_NONE) {x : Store} {vars : Mem} (h : x.vars = vars) :
    Served p (e, x) ⟨e, [], vars⟩ :=
  ⟨rfl, h, fun h' => absurd h' he⟩

/-- **The reply that is sent** for what a handler returns. -/
theorem Served.reply {x : eMBException × Store} {y : Answer} (h : Served p x y) (ucFunctionCode : UCHAR) :
    let t := if x.1 ≠ .MB_EX_NONE then errorFrame ucFunctionCode x.1 p x.2 else x.2
    Received t p (y.pdu ucFunctionCode) ∧ t.vars = y.vars := by
  dsimp only
  rw [Answer.pdu, ← h.exception]
  split
  · refine ⟨⟨?_, rfl⟩, h.vars⟩
    simp only [errorFrame, holds_cons, holds_nil, and_true]
    rw [store8_ne _ _ _ _ (Nat.ne_of_lt (Nat.lt_succ_self p)), store8_same]
    exact ⟨rfl, store8_same _ _ _⟩
  · rename_i hex
    exact ⟨h.body (h.exception ▸ not_not.mp hex), h.vars⟩

theorem Received.head {fc c : UCHAR} {a n : USHORT} {bs : List UCHAR}
    (h : Received s p (fc :: (beBytes [a, n] ++ c :: bs))) : Holds s.ucRcvBuf p (fc :: beBytes [a, n]) := by
  have hcons : fc :: (beBytes [a, n] ++ c :: bs) = (fc :: beBytes [a, n]) ++ c :: bs := rfl
  exact (holds_append.mp (hcons ▸ h.holds)).1

theorem readHolding_serves {a n : USHORT} (h : Received s p (readRequest a n)) :
    Option.Rel (Served p) (some (eMBSlaveFuncReadHoldingRegister cur p s))
      (serve cur v s.vars (.readHolding a n)) := by
  rw [readHolding_eq h, serve, guarded]
  split
  · split
    · exact .some ⟨rfl, rfl, fun _ => s.received_respond _ _⟩
    · exact .some (.refused (by decide) rfl)
  · exact .some (.refused (by decide) rfl)

theorem writeHolding_serves {a : USHORT} {ws : List USHORT} (h : Received s p (writeRequest a ws))
    (hl : ws.length < 65536) :
    Option.Rel (Served p) (some (eMBSlaveFuncWriteMultipleHoldingRegister cur p s))
      (serve cur v s.vars (.writeHolding a ws)) := by
  rw [writeMultipleHolding_eq h hl, serve, guarded]
  split
  · split
    · refine .some ⟨rfl, rfl, fun hok => ⟨h.head, ?_⟩⟩
      have hst := error2Exception_eq_none.mp hok
      simp only [if_pos hst]
      rfl
    · exact .some (.refused (by decide) rfl)
  · exact .some (.refused (by decide) rfl)

theorem readWriteHolding_serves {ra rn wa : USHORT} {ws : List USHORT}
    (h : Received s p (readWriteRequest ra rn wa ws)) (hl : ws.length < 128) :
    Option.Rel (Served p) (some (eMBSlaveFuncReadWriteMultipleHoldingRegister cur p s))
      (serve cur v s.vars (.readWriteHolding ra rn wa ws)) := by
  rw [readWriteMultipleHolding_eq h hl, serve, guarded]
  split
  · split
    · dsimp only
      split
      · rw [guarded, if_pos trivial]
        split
        · exact .some ⟨rfl, rfl, fun _ => Store.received_respond _ _ _⟩
        · exact .some (.refused (by decide) rfl)
      · rename_i hst
        exact .some (.refused (fun h => hst (error2Exception_eq_none.mp h)) rfl)
    · exact .some (.refused (by decide) rfl)
  · exact .some (.refused (by decide) rfl)

theorem regInRun_length {vars : Mem} {n : ℕ} {i v : USHORT} {r : eMBErrorCode × List USHORT}
    (h : regInRun cur vars n i v = some r) (hok : r.1 = MB_ENOERR) : r.2.length = n := by
  induction n generalizing i v r with
  | zero =>
    cases h
    rfl
  | succ n ih =>
    rw [regInRun] at h
    split at h
    · cases h
    · split at h
      · cases h
        cases hok
      · obtain ⟨w, hw, rfl⟩ := Option.map_eq_some_iff.mp h
        simpa using ih hw hok

theorem readInput_serves {a n : USHORT} (h : Received s p (MB_FUNC_READ_INPUT_REGISTER :: beBytes [a, n])) :
    Option.Rel (Served p) (eMBSlaveFuncReadInputRegister cur v p s) (serve cur v s.vars (.readInput a n)) := by
  obtain ⟨hlen, h1, h3⟩ := h.twoWords
  rw [readInput_eq hlen h1 h3, serve, guarded]
  split
  · split
    · cases hrun : regInRun cur s.vars n.toNat a v with
      | none => exact .none
      | some r =>
        refine .some ⟨rfl, rfl, fun hok => ?_⟩
        have hst := error2Exception_eq_none.mp hok
        have hwords := regInRun_length hrun hst
        constructor
        · simp only [wordsResponse, hwords]
          exact holds_storeList
        · simp only [if_pos hst, wordsResponse, List.length_cons, beBytes_length, hwords]
          omega
    · exact .some (.refused (by decide) rfl)
  · exact .some (.refused (by decide) rfl)

theorem holds_packBits_take {m : Mem} {q n k : ℕ} {bits : List Bool} (h : Holds m q (packBytes k bits))
    (hk : (n + 7) / 8 ≤ k) (hn : n ≤ bits.length) (hbits : n % 8 = 0 ∨ bits.length = n) :
    Holds m q (packBits (bits.take n)) := by
  have hlen : (bits.take n).length = n := List.length_take_of_le hn
  rw [packBits, hlen, holds_packBytes_iff]
  intro i hi
  rw [holds_packBytes_iff.mp h i (by omega)]
  by_cases hin : i < n
  · rw [List.getD_eq_getElem _ _ (by omega), List.getD_eq_getElem _ _ (by omega), List.getElem_take]
  · rw [List.getD_eq_default _ _ (by omega), List.getD_eq_default _ _ (by omega)]

theorem readCoils_serves {a n : USHORT} (h : Received s p (readCoilsRequest a n)) :
    Option.Rel (Served p) (eMBSlaveFuncReadCoils cur p s) (serve cur v s.vars (.readCoils a n)) := by
  obtain ⟨hlen, h1, h3⟩ := h.twoWords
  rw [serve, guarded]
  by_cases hn : 1 ≤ n.toNat ∧ n.toNat < 0x07D0
  · rw [readCoils_parse hlen h1 h3 hn, if_pos hn]
    split
    · cases hrun : getRun cur s.vars (runBits n.toNat) (a + 1) with
      | none => exact .none
      | some r =>
        refine .some ⟨rfl, rfl, fun hok => ?_⟩
        have hst := error2Exception_eq_none.mp hok
        have hbits : r.2.length = runBits n.toNat := getRun_length (by rw [hrun, ← hst])
        have hle := runBits_le n.toNat
        have htake : (r.2.take n.toNat).length = n.toNat := List.length_take_of_le (by omega)
        have hmul : n.toNat % 8 = 0 ∨ r.2.length = n.toNat := by
          rw [hbits, runBits]
          split
          · exact Or.inl (by assumption)
          · exact Or.inr rfl
        constructor
        · simp only [startedBytes, if_pos hst, coilsResponse, htake]
          rw [holds_cons, holds_cons]
          have hall : Holds (storeList s.ucRcvBuf p _) p (MB_FUNC_READ_COILS ::
            BitVec.ofNat 8 ((n.toNat + 7) / 8) :: packBytes (n.toNat / 8 + 1) r.2) := holds_storeList
          rw [holds_cons, holds_cons] at hall
          exact ⟨hall.1, hall.2.1, holds_packBits_take hall.2.2 (by omega) (by omega) hmul⟩
        · simp only [if_pos hst, coilsResponse, List.length_cons, packBits_length, htake]
          omega
    · exact .some (.refused (by decide) rfl)
  · rw [readCoils_refused hlen (by rw [h3]; exact hn), if_neg hn]
    exact .some (.refused (by decide) rfl)

theorem writeCoils_serves {a : USHORT} {bits : List Bool} (h : Received s p (writeCoilsRequest a bits))
    (hl : bits.length < 65536) (hmul : bits.length % 8 ≠ 0) :
    Option.Rel (Served p) (eMBSlaveFuncWriteMultipleCoils cur p s) (serve cur v s.vars (.writeCoils a bits)) := by
  have hrun : setRun cur (bitAt s.ucRcvBuf (p + 6)) (runBits bits.length) 0 a s.vars =
      setRun cur (fun k => bits.getD k false) bits.length 0 a s.vars := by
    rw [runBits, if_neg hmul]
    apply setRun_congr
    intro i hi
    exact bitAt_of_holds h.writeCoils.2.2.2.2 (by omega)
  rw [serve, guarded]
  by_cases hn : 1 ≤ bits.length ∧ bits.length ≤ 0x07B0
  · rw [writeMultipleCoils_eq h hn, hrun, if_pos hn]
    split
    · cases setRun cur (fun k => bits.getD k false) bits.length 0 a s.vars with
      | none => exact .none
      | some r =>
        refine .some ⟨rfl, rfl, fun hok => ⟨h.head, ?_⟩⟩
        have hst := error2Exception_eq_none.mp hok
        simp only [if_pos hst]
        rfl
    · exact .some (.refused (by decide) rfl)
  · obtain ⟨hlen, -, h3, -⟩ := h.writeCoils
    have hcount : (BitVec.ofNat 16 bits.length).toNat = bits.length := Nat.mod_eq_of_lt hl
    rw [if_neg hn, writeMultipleCoils_refused (by omega) (fun hc => hn (by rw [h3, hcount] at hc; exact hc.1))]
    exact .some (.refused (by decide) rfl)

/-- **Every request is served**: the handler of its function code, on a frame that holds it. -/
theorem execute_request (cur : sMBSlaveCommData) (v : USHORT) {r : Request} (hshort : r.pdu.length ≤ 253)
    (hr : r.Plain) (h : Received s p r.pdu) :
    Option.Rel (Served p) (execute cur v r.code p s) (serve cur v s.vars r) := by
  cases r with
  | readHolding a n => exact readHolding_serves h
  | writeHolding a ws =>
    simp only [Request.pdu, writeRequest, List.length_cons, List.length_append, beBytes_length] at hshort
    exact writeHolding_serves h (by omega)
  | readWriteHolding ra rn wa ws =>
    simp only [Request.pdu, readWriteRequest, List.length_cons, List.length_append, beBytes_length] at hshort
    exact readWriteHolding_serves h (by omega)
  | readInput a n => exact readInput_serves h
  | readCoils a n => exact readCoils_serves h
  | writeCoils a bits =>
    simp only [Request.pdu, writeCoilsRequest, List.length_cons, List.length_append, beBytes_length, packBits_length,
      List.length_nil] at hshort
    exact writeCoils_serves h (by omega) hr
  | unhandled fc rest =>
    have hfc : fc ∉ _ := hr
    simp only [List.mem_cons, List.not_mem_nil, or_false, not_or] at hfc
    obtain ⟨h3, h4, h16, h23, h1, h15⟩ := hfc
    rw [Request.code, execute_unhandled h3 h4 h16 h23 h1 h15]
    exact .some (.refused (by decide) rfl)

theorem guarded_cases {inOrder : Prop} [Decidable inOrder] {covered : Bool} {vars : Mem} {x : Option Answer}
    {y : Answer}
    (h : guarded inOrder covered vars x = some y) : y.exception ≠ .MB_EX_NONE ∨ (inOrder ∧ x = some y) := by
  rw [guarded] at h
  split at h
  case isTrue hin =>
    split at h
    · exact Or.inr ⟨hin, h⟩
    · cases h
      exact Or.inl eMBException.noConfusion
  case isFalse =>
    cases h
    exact Or.inl eMBException.noConfusion

/-- An answer that is not an exception has a body of at most 252 bytes. -/
theorem serve_body {vars : Mem} {r : Request} {y : Answer} (h : serve cur v vars r = some y)
    (hok : y.exception = .MB_EX_NONE) : 1 ≤ y.body.length ∧ y.body.length ≤ 252 := by
  have hwords (fc : UCHAR) (ws : List USHORT) (hn : ws.length ≤ 125) :
      1 ≤ (wordsResponse fc ws).length ∧ (wordsResponse fc ws).length ≤ 252 := by
    simp only [wordsResponse, List.length_cons, beBytes_length]
    omega
  have hwrite (fc : UCHAR) (a n : USHORT) :
      1 ≤ (fc :: beBytes [a, n]).length ∧ (fc :: beBytes [a, n]).length ≤ 252 := by
    simp
  cases r with
  | readHolding a n =>
    obtain hex | ⟨hn, hy⟩ := guarded_cases h
    · exact absurd hok hex
    · cases hy
      exact hwords _ _ (by rw [regHoldWords_length]; exact hn.2)
  | writeHolding a ws =>
    obtain hex | ⟨-, hy⟩ := guarded_cases h
    · exact absurd hok hex
    · cases hy
      exact hwrite _ _ _
  | readWriteHolding ra rn wa ws =>
    obtain hex | ⟨hn, hy⟩ := guarded_cases h
    · exact absurd hok hex
    · dsimp only at hy
      split at hy
      · obtain hex | ⟨-, hy'⟩ := guarded_cases hy
        · exact absurd hok hex
        · cases hy'
          exact hwords _ _ (by rw [regHoldWords_length]; exact hn.1.2)
      case isFalse hst =>
        cases hy
        exact absurd (error2Exception_eq_none.mp hok) hst
  | readInput a n =>
    obtain hex | ⟨hn, hy⟩ := guarded_cases h
    · exact absurd hok hex
    · obtain ⟨w, hrun, rfl⟩ := Option.map_eq_some_iff.mp hy
      exact hwords _ _ (by rw [regInRun_length hrun (error2Exception_eq_none.mp hok)]; omega)
  | readCoils a n =>
    obtain hex | ⟨hn, hy⟩ := guarded_cases h
    · exact absurd hok hex
    · obtain ⟨w, -, rfl⟩ := Option.map_eq_some_iff.mp hy
      have hle : (w.2.take n.toNat).length ≤ n.toNat := List.length_take_le _ _
      simp only [coilsResponse, List.length_cons, packBits_length]
      omega
  | writeCoils a bits =>
    obtain hex | ⟨-, hy⟩ := guarded_cases h
    · exact absurd hok hex
    · obtain ⟨w, -, rfl⟩ := Option.map_eq_some_iff.mp hy
      exact hwrite _ _ _
  | unhandled fc rest =>
    cases h
    cases hok

/-- **A reply fits a frame.** -/
theorem serve_pdu_length {vars : Mem} {r : Request} {y : Answer} (h : serve cur v vars r = some y) :
    1 ≤ (y.pdu r.code).length ∧ (y.pdu r.code).length ≤ 252 := by
  rw [Answer.pdu]
  split
  case isTrue => simp
  case isFalse hex => exact serve_body h (not_not.mp hex)

end Handlers

/-! ### Frames -/

section Frames

variable {tid : USHORT} {ucSlaveAddr : UCHAR} {pdu : List UCHAR} {m : Mem}

theorem mbapFrame_length : (mbapFrame tid ucSlaveAddr pdu).length = pdu.length + 7 := rfl

theorem holds_mbapFrame : Holds m 0 (mbapFrame tid ucSlaveAddr pdu) ↔
    (m 0 = hi tid ∧ m 1 = lo tid ∧ m 2 = 0 ∧ m 3 = 0 ∧ m 4 = 0) ∧ m 5 = BitVec.ofNat 8 (pdu.length + 1) ∧
      m 6 = ucSlaveAddr ∧ Holds m 7 pdu := by
  simp only [mbapFrame, holds_cons, and_assoc]

/-- **What is sent for an answer** that stands behind the header of the request. -/
theorem sentFrame_eq {t : Store}
    (hhead : t.ucRcvBuf 0 = hi tid ∧ t.ucRcvBuf 1 = lo tid ∧ t.ucRcvBuf 2 = 0 ∧ t.ucRcvBuf 3 = 0 ∧ t.ucRcvBuf 4 = 0)
    (h : Received t 7 pdu) : sentFrame ucSlaveAddr t = mbapFrame tid ucSlaveAddr pdu := by
  have hlen : BitVec.ofNat 8 t.usLength + 1 = BitVec.ofNat 8 (pdu.length + 1) := by
    rw [h.len]
    apply BitVec.eq_of_toNat_eq
    simp only [BitVec.toNat_add, BitVec.toNat_ofNat, show (1 : UCHAR).toNat = 1 from rfl]
    omega
  set m := store8 (store8 t.ucRcvBuf 5 (BitVec.ofNat 8 t.usLength + 1)) 6 ucSlaveAddr with hm
  have hoff (i : ℕ) (h5 : i ≠ 5) (h6 : i ≠ 6) : m i = t.ucRcvBuf i := by
    rw [hm, store8_ne _ _ _ _ h6, store8_ne _ _ _ _ h5]
  have hframe : Holds m 0 (mbapFrame tid ucSlaveAddr pdu) := by
    rw [holds_mbapFrame, hoff 0 (by decide) (by decide), hoff 1 (by decide) (by decide), hoff 2 (by decide) (by decide),
      hoff 3 (by decide) (by decide), hoff 4 (by decide) (by decide)]
    refine ⟨hhead, ?_, ?_, h.holds.congr fun i _ => hoff _ (by omega) (by omega)⟩
    · rw [hm, store8_ne _ _ _ _ (by decide), store8_same, hlen]
    · rw [hm, store8_same]
  have hrange := hframe.map_range
  rw [mbapFrame_length, ← h.len] at hrange
  exact hrange

end Frames

/-! ### The slave follows the server -/

/-- The slave is where the server is; `sent` is what was sent before. -/
structure Tracks (ucSlaveAddr : UCHAR) (sent : List (List UCHAR)) (s : sMBSlaveInfo) (a : Server) : Prop where
  vars : s.store.vars = a.vars
  sent : s.sent = a.replies.map (fun x => mbapFrame x.1 ucSlaveAddr x.2) ++ sent
  phase : match a.phase with
    | .listening => s.eQueuedEvent = some .EV_READY ∨ s.eQueuedEvent = some .EV_FRAME_SENT ∨
        s.eQueuedEvent = some .EV_ERROR_RCV
    | .received tid r => s.eQueuedEvent = some .EV_FRAME_RECEIVED ∧ r.Ok ∧
        Holds s.store.ucRcvBuf 0 (mbapFrame tid ucSlaveAddr r.pdu) ∧ s.usRcvBufferPos = r.pdu.length + 7
    | .taken tid r => s.eQueuedEvent = some .EV_EXECUTE ∧ r.Ok ∧
        Holds s.store.ucRcvBuf 0 (mbapFrame tid ucSlaveAddr r.pdu) ∧ s.pucMBFrame = 7 ∧
          s.store.usLength = r.pdu.length ∧ s.ucRcvAddress = ucSlaveAddr

/-- The event is a poll with a request that can be received, or another one. -/
def ServerEvent.Ok : ServerEvent → Prop
  | .poll _ r _ => r.Ok
  | _ => True

section Steps

variable {cur : sMBSlaveCommData} {ucSlaveAddr : UCHAR} {sent : List (List UCHAR)} {s : sMBSlaveInfo} {a : Server}
  {tid : USHORT} {r : Request} {v : USHORT}

/-- The answer to a request that fits leaves the byte behind the buffer alone. -/
theorem not_tooLong {t : Store} (hr : r.Ok) (h : Received t 7 r.pdu) : ¬AnswerTooLong cur r.code t := by
  have hfits := hr.fits
  cases r with
  | readHolding a n =>
    show ¬AnswerTooLong cur MB_FUNC_READ_HOLDING_REGISTER t
    obtain ⟨-, -, h3⟩ := h.twoWords
    rintro (⟨-, -, hn, -⟩ | ⟨hf, -⟩ | ⟨hf, -⟩ | ⟨hf, -⟩)
    · exact hfits (by rwa [h3] at hn)
    · exact absurd hf (by decide)
    · exact absurd hf (by decide)
    · exact absurd hf (by decide)
  | readWriteHolding ra rn wa ws =>
    show ¬AnswerTooLong cur MB_FUNC_READWRITE_MULTIPLE_REGISTERS t
    obtain ⟨-, -, h3, -⟩ := h.readWrite
    rintro (⟨hf, -⟩ | ⟨hf, -⟩ | ⟨-, hp, hn, -⟩ | ⟨hf, -⟩)
    · exact absurd hf (by decide)
    · exact absurd hf (by decide)
    · have hmax := hp.1.2.1.2
      rw [h3] at hn hmax
      exact hfits ⟨hn, hmax⟩
    · exact absurd hf (by decide)
  | readInput a n =>
    show ¬AnswerTooLong cur MB_FUNC_READ_INPUT_REGISTER t
    obtain ⟨-, -, h3⟩ := h.twoWords
    rintro (⟨hf, -⟩ | ⟨-, -, hn, -⟩ | ⟨hf, -⟩ | ⟨hf, -⟩)
    · exact absurd hf (by decide)
    · exact hfits (by rwa [h3] at hn)
    · exact absurd hf (by decide)
    · exact absurd hf (by decide)
  | readCoils a n =>
    show ¬AnswerTooLong cur MB_FUNC_READ_COILS t
    obtain ⟨-, -, h3⟩ := h.twoWords
    rintro (⟨hf, -⟩ | ⟨hf, -⟩ | ⟨hf, -⟩ | ⟨-, -, hn, -⟩)
    · exact absurd hf (by decide)
    · exact absurd hf (by decide)
    · exact absurd hf (by decide)
    · exact hfits (by rwa [h3] at hn)
  | writeHolding a ws =>
    -- an answer of five bytes, whatever is written
    show ¬AnswerTooLong cur MB_FUNC_WRITE_MULTIPLE_REGISTERS t
    rintro (⟨hf, -⟩ | ⟨hf, -⟩ | ⟨hf, -⟩ | ⟨hf, -⟩) <;> exact absurd hf (by decide)
  | writeCoils a bits =>
    show ¬AnswerTooLong cur MB_FUNC_WRITE_MULTIPLE_COILS t
    rintro (⟨hf, -⟩ | ⟨hf, -⟩ | ⟨hf, -⟩ | ⟨hf, -⟩) <;> exact absurd hf (by decide)
  | unhandled fc rest =>
    have hfc : fc ∉ _ := hr.plain
    simp only [List.mem_cons, List.not_mem_nil, or_false, not_or] at hfc
    rintro (⟨hf, -⟩ | ⟨hf, -⟩ | ⟨hf, -⟩ | ⟨hf, -⟩)
    · exact hfc.1 hf
    · exact hfc.2.1 hf
    · exact hfc.2.2.2.1 hf
    · exact hfc.2.2.2.2.1 hf

theorem listening_step (h : Tracks ucSlaveAddr sent s a) (ha : a.phase = .listening) (hr : r.Ok) :
    Option.Rel (Tracks ucSlaveAddr sent) (eMBSlavePoll cur ucSlaveAddr v (mbapFrame tid ucSlaveAddr r.pdu) s)
      (some { a with phase := .received tid r }) := by
  have hphase := h.phase
  rw [ha] at hphase
  have hshort := hr.short
  have hb : 1 ≤ (mbapFrame tid ucSlaveAddr r.pdu).length ∧ (mbapFrame tid ucSlaveAddr r.pdu).length ≤ 256 := by
    rw [mbapFrame_length]
    omega
  have hpoll : eMBSlavePoll cur ucSlaveAddr v (mbapFrame tid ucSlaveAddr r.pdu) s =
      some (xMBSlaveTCPPortGetRequest (mbapFrame tid ucSlaveAddr r.pdu) { s with eQueuedEvent := none }) := by
    rcases hphase with hq | hq | hq <;> rw [eMBSlavePoll, hq]
  rw [hpoll, getRequest_eq hb]
  exact .some ⟨h.vars, h.sent, rfl, hr, holds_storeList, rfl⟩

theorem received_step {data : List UCHAR} (h : Tracks ucSlaveAddr sent s a) (ha : a.phase = .received tid r) :
    Option.Rel (Tracks ucSlaveAddr sent) (eMBSlavePoll cur ucSlaveAddr v data s)
      (some { a with phase := .taken tid r }) := by
  have hphase := h.phase
  rw [ha] at hphase
  obtain ⟨hq, hr, hbuf, hpos⟩ := hphase
  have hshort := hr.short
  obtain ⟨⟨-, -, h2, h3, -⟩, h5, h6, hpdu⟩ := holds_mbapFrame.mp hbuf
  have hpid : loadBE s.store.ucRcvBuf 2 = 0 := by
    rw [loadBE, h2, h3]
    rfl
  -- the length field counts the unit identifier as well
  have hlen : ((s.store.ucRcvBuf 5).toNat + 65535) % 65536 = r.pdu.length := by
    rw [h5, BitVec.toNat_ofNat]
    omega
  have hreceive : eMBSlaveTCPReceive { s with eQueuedEvent := none } = (MB_ENOERR,
      { s with
        eQueuedEvent := none
        store := { s.store with
          ucRcvBuf := store8 s.store.ucRcvBuf RCV_ADDRESS ucSlaveAddr, usLength := r.pdu.length }
        pucMBFrame := 7 }) := by
    rw [eMBSlaveTCPReceive, if_pos hpid]
    dsimp only
    rw [hlen, h6, if_neg (by omega)]
  have haddr : (eMBSlaveTCPReceive { s with eQueuedEvent := none }).2.ucRcvAddress = ucSlaveAddr := by
    rw [hreceive]
    exact store8_same s.store.ucRcvBuf RCV_ADDRESS ucSlaveAddr
  rw [eMBSlavePoll, hq]
  dsimp only
  rw [if_pos (by rw [hreceive]), if_pos (Or.inl haddr), hreceive]
  refine .some ⟨h.vars, h.sent, rfl, hr, ?_, rfl, rfl, store8_same s.store.ucRcvBuf RCV_ADDRESS ucSlaveAddr⟩
  apply hbuf.congr
  intro i hi
  rw [mbapFrame_length] at hi
  exact store8_ne _ _ _ _ (show 0 + i ≠ 256 by omega)

/-- **The poll that executes the request serves it.** -/
theorem taken_step {data : List UCHAR} (hne : ucSlaveAddr ≠ MB_ADDRESS_BROADCAST) (h : Tracks ucSlaveAddr sent s a)
    (ha : a.phase = .taken tid r) :
    Option.Rel (Tracks ucSlaveAddr sent) (eMBSlavePoll cur ucSlaveAddr v data s)
      ((serve cur v a.vars r).map fun y =>
        { vars := y.vars, phase := .listening, replies := (tid, y.pdu r.code) :: a.replies }) := by
  have hphase := h.phase
  rw [ha] at hphase
  obtain ⟨hq, hr, hbuf, hf, hlen, haddr⟩ := hphase
  obtain ⟨⟨h0, h1, h2, h3, h4⟩, -, -, hpdu⟩ := holds_mbapFrame.mp hbuf
  have hin : Received s.store 7 r.pdu := ⟨hpdu, hlen⟩
  -- the handler is found by the code that stands in the buffer
  have hcode : s.store.ucRcvBuf 7 = r.code := by
    cases r <;> exact (holds_cons.mp hpdu).1
  have hafter := ((response_fits_iff cur v r.code s.store).mpr (not_tooLong hr hin)).after
  have hserved := execute_request cur v (by have := hr.short; omega) hr.plain hin
  rw [eMBSlavePoll, hq]
  dsimp only [eMBSlaveExecute]
  rw [hf, hcode, ← h.vars]
  cases hx : execute cur v r.code 7 s.store with
  | none =>
    rw [hx] at hserved
    generalize serve cur v s.store.vars r = y at hserved
    cases hserved
    exact .none
  | some x =>
    rw [hx] at hserved
    generalize serve cur v s.store.vars r = y at hserved
    cases hserved with
    | some hy =>
      rename_i y
      -- the answer stays short of the byte behind the buffer, which holds the address
      have hkept : x.2.ucRcvBuf 256 = s.store.ucRcvBuf 256 := hafter x hx 256 le_rfl
      have hnot : ({ s with eQueuedEvent := none, store := x.2, pucMBFrame := 7 } : sMBSlaveInfo).ucRcvAddress ≠
          MB_ADDRESS_BROADCAST := by
        have hto : s.store.ucRcvBuf 256 = ucSlaveAddr := haddr
        show x.2.ucRcvBuf 256 ≠ MB_ADDRESS_BROADCAST
        rwa [hkept, hto]
      -- the MBAP header in front of the PDU is the request's
      have hhead (i : ℕ) (hi : i < 7) : x.2.ucRcvBuf i = s.store.ucRcvBuf i := by
        rw [execute_stored hx, storeList_off (Or.inl hi)]
      simp only [Option.map_some]
      rw [if_pos hnot]
      obtain ⟨hreply, hvars⟩ := hy.reply r.code
      refine .some ⟨hvars, ?_, Or.inr (Or.inl rfl)⟩
      simp only [eMBSlaveTCPSend, xMBSlavePortEventPost, Nat.sub_self, Nat.zero_add, List.map_cons,
        List.cons_append, h.sent, List.cons.injEq, and_true]
      refine sentFrame_eq ?_ hreply
      split
      · simp only [errorFrame]
        refine ⟨?_, ?_, ?_, ?_, ?_⟩
        all_goals rw [store8_ne _ _ _ _ (by decide), store8_ne _ _ _ _ (by decide), hhead _ (by decide)]
        all_goals assumption
      · refine ⟨?_, ?_, ?_, ?_, ?_⟩
        all_goals rw [hhead _ (by decide)]
        all_goals assumption

/-- **Every event of the slave is one of the server.** -/
theorem tracks_step (cur : sMBSlaveCommData) (hne : ucSlaveAddr ≠ MB_ADDRESS_BROADCAST) (sent : List (List UCHAR)) :
    Bisim (slaveStep cur ucSlaveAddr) (serverStep cur) (ServerEvent.toSlave ucSlaveAddr) ServerEvent.Ok
      (Tracks ucSlaveAddr sent) := by
  intro s a e h hok
  cases e with
  | assign vars => exact .some ⟨rfl, h.sent, h.phase⟩
  | connect => exact .some ⟨h.vars, h.sent, h.phase⟩
  | poll tid r v =>
    rw [ServerEvent.toSlave, slaveStep, serverStep]
    cases ha : a.phase with
    | listening => exact listening_step h ha hok
    | received tid' r' => exact received_step h ha
    | taken tid' r' => exact taken_step hne h ha

theorem Tracks.start (hq : s.eQueuedEvent = some .EV_READY) :
    Tracks ucSlaveAddr s.sent s ⟨s.store.vars, .listening, []⟩ :=
  ⟨rfl, rfl, Or.inl hq⟩

/-- **Runs of the slave are runs of the server.** -/
theorem tracks_run (cur : sMBSlaveCommData) (hne : ucSlaveAddr ≠ MB_ADDRESS_BROADCAST)
    (hq : s.eQueuedEvent = some .EV_READY)
    {es : List ServerEvent} (hok : ∀ e ∈ es, e.Ok) :
    Option.Rel (Tracks ucSlaveAddr s.sent)
      (run (slaveStep cur ucSlaveAddr) s (es.map (ServerEvent.toSlave ucSlaveAddr)))
      (run (serverStep cur) ⟨s.store.vars, .listening, []⟩ es) :=
  (tracks_step cur hne s.sent).run (Tracks.start hq) hok

end Steps

/-- The polls for a request. -/
def Request.polls (r : Request) (tid : USHORT) (usRegInValue : USHORT) : List ServerEvent :=
  List.replicate 3 (.poll tid r usRegInValue)

/-- A request that is answered, from a poll that listens to the next one. -/
theorem run_polls {cur : sMBSlaveCommData} {vars : Mem} {replies : List (USHORT × List UCHAR)} {tid v : USHORT}
    {r : Request} {y : Answer} (h : serve cur v vars r = some y) :
    run (serverStep cur) ⟨vars, .listening, replies⟩ (r.polls tid v) =
      some ⟨y.vars, .listening, (tid, y.pdu r.code) :: replies⟩ := by
  simp only [Request.polls, List.replicate, run_cons, run_nil, serverStep, Option.bind_some, h, Option.map_some]

/-- A request that runs into an unmapped address. -/
theorem run_polls_none {cur : sMBSlaveCommData} {vars : Mem} {replies : List (USHORT × List UCHAR)} {tid v : USHORT}
    {r : Request} (h : serve cur v vars r = none) :
    run (serverStep cur) ⟨vars, .listening, replies⟩ (r.polls tid v) = none := by
  simp only [Request.polls, List.replicate, run_cons, serverStep, Option.bind_some, h, Option.map_none,
    Option.bind_none]

theorem serve_readHolding (cur : sMBSlaveCommData) (v : USHORT) (vars : Mem) (a n : USHORT) :
    ∃ y, serve cur v vars (.readHolding a n) = some y := by
  rw [serve, guarded]
  split
  · split <;> exact ⟨_, rfl⟩
  · exact ⟨_, rfl⟩

/-- A register is written by one client's request and read back by another one. -/
def writeThenRead : List ServerEvent :=
  [.connect] ++ (Request.writeHolding 3 [500]).polls 7 0 ++ (Request.readHolding 3 1).polls 8 0

end GreeIntense.Slave

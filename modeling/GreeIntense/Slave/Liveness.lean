import GreeIntense.Lib.Run
import GreeIntense.Slave.Poll

/-!
# When the slave keeps listening

The poll loop waits on the event slot, and nothing but the loop itself fills it: a poll that leaves the
slot empty is the last one.  `slave_alive_iff` gives the exact condition on the frames of a run.

A frame of a foreign unit and a broadcast post no event.  A long answer can do the same to a frame for
the slave itself: the byte 249 of the answer falls on `ucRcvAddress`, and the slave takes a 0 there for
the broadcast address.  `overrun` is that byte in closed form.
-/

namespace GreeIntense.Slave

open Lib.Memory Lib.Bits Lib.Run eMBErrorCode

variable (cur : sMBSlaveCommData)

/-! ### The byte 249 of an answer -/

/-- The byte 249 of an answer of words: the low byte of the 124th. -/
def wordsOverrun (ws : List USHORT) : Option UCHAR := ws[123]?.map lo

/-- The byte 249 of an answer of `n` bytes of bits: the 248th of them. -/
def bitsOverrun (n : ℕ) (bits : List Bool) : Option UCHAR := if 247 < n then some (packByte bits 247) else none

/-- The byte a handler puts at the byte 249 of the frame, if it puts one there; `none` when the handler
reads through a null pointer. -/
def overrun (usRegInValue : USHORT) (p : ℕ) (s : Store) : Option (Option UCHAR) :=
  let a := loadBE s.ucRcvBuf (p + 1)
  let n := loadBE s.ucRcvBuf (p + 3)
  if s.ucRcvBuf p = MB_FUNC_READ_HOLDING_REGISTER then
    if s.usLength = 5 ∧ (1 ≤ n.toNat ∧ n.toNat ≤ 0x7D) ∧ tableCovers cur.sMBRegHoldTable a n then
      some (wordsOverrun (regHoldWords cur s.vars n.toNat a 0))
    else some none
  else if s.ucRcvBuf p = MB_FUNC_READ_INPUT_REGISTER then
    if s.usLength = 5 ∧ (1 ≤ n.toNat ∧ n.toNat < 0x7D) ∧ tableCovers cur.sMBRegInTable a n then
      (regInRun cur s.vars n.toNat a usRegInValue).map fun r => wordsOverrun r.2
    else some none
  else if s.ucRcvBuf p = MB_FUNC_READWRITE_MULTIPLE_REGISTERS then
    let wa := loadBE s.ucRcvBuf (p + 5) + 1
    let wn := loadBE s.ucRcvBuf (p + 7)
    let r := regHoldAssign cur (wordsAt s.ucRcvBuf (p + 10) wn.toNat) wa s.vars
    if s.usLength ≥ 10 ∧ ((1 ≤ n.toNat ∧ n.toNat ≤ 0x7D) ∧ (1 ≤ wn.toNat ∧ wn.toNat ≤ 0x79) ∧
        2 * wn.toNat = (s.ucRcvBuf (p + 9)).toNat) ∧ tableCovers cur.sMBRegHoldTable wa wn ∧
        r.1 = .MB_ENOERR ∧ tableCovers cur.sMBRegHoldTable a n then
      some (wordsOverrun (regHoldWords cur r.2 n.toNat a 0))
    else some none
  else if s.ucRcvBuf p = MB_FUNC_READ_COILS then
    if s.usLength = 5 ∧ (1 ≤ n.toNat ∧ n.toNat < 0x07D0) ∧ tableCovers cur.sMBCoilTable (a + 1) n then
      (getRun cur s.vars (runBits n.toNat) (a + 1)).map fun r =>
        bitsOverrun (startedBytes (n.toNat / 8 + 1) r.1 r.2) r.2
    else some none
  else if s.ucRcvBuf p = MB_FUNC_WRITE_MULTIPLE_COILS then
    if s.usLength > 5 ∧ ((1 ≤ n.toNat ∧ n.toNat ≤ 0x07B0) ∧ coilBytes n = s.ucRcvBuf (p + 5)) ∧
        tableCovers cur.sMBCoilTable a n then
      (setRun cur (bitAt s.ucRcvBuf (p + 6)) (runBits n.toNat) 0 a s.vars).map fun _ => none
    else some none
  else some none

variable {cur}

theorem storeList_get (m : Mem) (p : ℕ) (bs : List UCHAR) (i : ℕ) :
    storeList m p bs (p + i) = bs[i]?.getD (m (p + i)) := by
  by_cases h : i < bs.length
  · rw [holds_storeList i h, List.getElem?_eq_getElem h]
    rfl
  · rw [storeList_off (by omega), List.getElem?_eq_none (by omega)]
    rfl

theorem beBytes_get_odd (ws : List USHORT) (k : ℕ) : (beBytes ws)[2 * k + 1]? = ws[k]?.map lo := by
  induction ws generalizing k with
  | nil => simp
  | cons w ws ih =>
    cases k with
    | zero => rfl
    | succ k =>
      rw [beBytes_cons, show 2 * (k + 1) + 1 = (2 * k + 1) + 1 + 1 by omega, List.getElem?_cons_succ,
        List.getElem?_cons_succ, ih]
      rfl

theorem words_overrun (m : Mem) (p : ℕ) (x y : UCHAR) (ws : List USHORT) :
    storeList m p (x :: y :: beBytes ws) (p + 249) = (wordsOverrun ws).getD (m (p + 249)) := by
  rw [storeList_get, List.getElem?_cons_succ, List.getElem?_cons_succ, beBytes_get_odd ws 123]
  rfl

theorem bits_overrun (m : Mem) (p : ℕ) (x y : UCHAR) (n : ℕ) (bits : List Bool) :
    storeList m p (x :: y :: packBytes n bits) (p + 249) = (bitsOverrun n bits).getD (m (p + 249)) := by
  rw [storeList_get, List.getElem?_cons_succ, List.getElem?_cons_succ, packBytes, bitsOverrun, List.getElem?_map]
  by_cases h : 247 < n
  · rw [if_pos h, List.getElem?_range h]
    rfl
  · rw [if_neg h, List.getElem?_eq_none (by simpa using h)]
    rfl

/-- The header of an answer does not reach the byte 249. -/
theorem putHeader_overrun (s : Store) (p : ℕ) (x y : UCHAR) :
    (putHeader s p x y).ucRcvBuf (p + 249) = s.ucRcvBuf (p + 249) := by
  rw [putHeader]
  dsimp only
  rw [store8_ne _ _ _ _ (by omega), store8_ne _ _ _ _ (by omega)]

section Execute

variable {s : Store} {p : ℕ} {v : USHORT}

theorem readHolding_overrun (hc : s.ucRcvBuf p = MB_FUNC_READ_HOLDING_REGISTER) :
    some ((eMBSlaveFuncReadHoldingRegister cur p s).2.ucRcvBuf (p + 249)) =
      (overrun cur v p s).map fun o => o.getD (s.ucRcvBuf (p + 249)) := by
  rw [overrun, if_pos hc]
  by_cases hlen : s.usLength = 5
  · rw [readHolding_parse hlen rfl rfl]
    by_cases hn : 1 ≤ (loadBE s.ucRcvBuf (p + 3)).toNat ∧ (loadBE s.ucRcvBuf (p + 3)).toNat ≤ 0x7D
    · rw [if_pos hn]
      by_cases hcov : tableCovers cur.sMBRegHoldTable (loadBE s.ucRcvBuf (p + 1)) (loadBE s.ucRcvBuf (p + 3)) = true
      · rw [if_pos hcov, if_pos ⟨hlen, hn, hcov⟩]
        exact congrArg some (words_overrun _ _ _ _ _)
      · rw [if_neg hcov, if_neg fun h => hcov h.2.2]
        exact congrArg some (putHeader_overrun _ _ _ _)
    · rw [if_neg hn, if_neg fun h => hn h.2.1]
      rfl
  · rw [if_neg fun h => hlen h.1, eMBSlaveFuncReadHoldingRegister, if_neg hlen]
    rfl

theorem readInput_overrun (hc : s.ucRcvBuf p = MB_FUNC_READ_INPUT_REGISTER) :
    (eMBSlaveFuncReadInputRegister cur v p s).map (fun r => r.2.ucRcvBuf (p + 249)) =
      (overrun cur v p s).map fun o => o.getD (s.ucRcvBuf (p + 249)) := by
  rw [overrun, if_neg (by rw [hc]; decide), if_pos hc]
  by_cases hlen : s.usLength = 5
  · rw [readInput_eq hlen rfl rfl]
    by_cases hn : 1 ≤ (loadBE s.ucRcvBuf (p + 3)).toNat ∧ (loadBE s.ucRcvBuf (p + 3)).toNat < 0x7D
    · rw [if_pos hn]
      by_cases hcov : tableCovers cur.sMBRegInTable (loadBE s.ucRcvBuf (p + 1)) (loadBE s.ucRcvBuf (p + 3)) = true
      · rw [if_pos hcov, if_pos ⟨hlen, hn, hcov⟩, Option.map_map, Option.map_map]
        congr 1
        funext r
        exact words_overrun _ _ _ _ _
      · rw [if_neg hcov, if_neg fun h => hcov h.2.2]
        exact congrArg some (putHeader_overrun _ _ _ _)
    · rw [if_neg hn, if_neg fun h => hn h.2.1]
      rfl
  · rw [if_neg fun h => hlen h.1, eMBSlaveFuncReadInputRegister, if_neg hlen]
    rfl

theorem readWrite_overrun (hc : s.ucRcvBuf p = MB_FUNC_READWRITE_MULTIPLE_REGISTERS) :
    some ((eMBSlaveFuncReadWriteMultipleHoldingRegister cur p s).2.ucRcvBuf (p + 249)) =
      (overrun cur v p s).map fun o => o.getD (s.ucRcvBuf (p + 249)) := by
  rw [overrun, if_neg (by rw [hc]; decide), if_neg (by rw [hc]; decide), if_pos hc]
  dsimp only
  by_cases hlen : s.usLength ≥ 10
  · rw [readWriteMultipleHolding_parse hlen rfl rfl rfl rfl]
    split
    · rename_i hn
      split
      · rename_i hcov
        dsimp only
        split
        · rename_i hok
          split
          · rename_i hcov'
            rw [if_pos ⟨hlen, hn, hcov, hok, hcov'⟩]
            exact congrArg some (words_overrun _ _ _ _ _)
          · rename_i hcov'
            -- the write has been done, and its answer is only the header of a read
            rw [if_neg fun h => hcov' h.2.2.2.2]
            exact congrArg some (putHeader_overrun _ _ _ _)
        · rename_i hok
          rw [if_neg fun h => hok h.2.2.2.1]
          rfl
      · rename_i hcov
        rw [if_neg fun h => hcov h.2.2.1]
        rfl
    · rename_i hn
      rw [if_neg fun h => hn h.2.1]
      rfl
  · rw [if_neg fun h => hlen h.1, eMBSlaveFuncReadWriteMultipleHoldingRegister, if_neg hlen]
    rfl

theorem readCoils_overrun (hc : s.ucRcvBuf p = MB_FUNC_READ_COILS) :
    (eMBSlaveFuncReadCoils cur p s).map (fun r => r.2.ucRcvBuf (p + 249)) =
      (overrun cur v p s).map fun o => o.getD (s.ucRcvBuf (p + 249)) := by
  rw [overrun, if_neg (by rw [hc]; decide), if_neg (by rw [hc]; decide), if_neg (by rw [hc]; decide), if_pos hc]
  by_cases hlen : s.usLength = 5
  · by_cases hn : 1 ≤ (loadBE s.ucRcvBuf (p + 3)).toNat ∧ (loadBE s.ucRcvBuf (p + 3)).toNat < 0x07D0
    · rw [readCoils_parse hlen rfl rfl hn]
      by_cases hcov : tableCovers cur.sMBCoilTable (loadBE s.ucRcvBuf (p + 1) + 1) (loadBE s.ucRcvBuf (p + 3)) = true
      · rw [if_pos hcov, if_pos ⟨hlen, hn, hcov⟩, Option.map_map, Option.map_map]
        congr 1
        funext r
        exact bits_overrun _ _ _ _ _ _
      · rw [if_neg hcov, if_neg fun h => hcov h.2.2]
        exact congrArg some (putHeader_overrun _ _ _ _)
    · rw [if_neg fun h => hn h.2.1, readCoils_refused hlen hn]
      rfl
  · rw [if_neg fun h => hlen h.1, eMBSlaveFuncReadCoils, if_neg hlen]
    rfl

theorem writeCoils_overrun (hc : s.ucRcvBuf p = MB_FUNC_WRITE_MULTIPLE_COILS) :
    (eMBSlaveFuncWriteMultipleCoils cur p s).map (fun r => r.2.ucRcvBuf (p + 249)) =
      (overrun cur v p s).map fun o => o.getD (s.ucRcvBuf (p + 249)) := by
  rw [overrun, if_neg (by rw [hc]; decide), if_neg (by rw [hc]; decide), if_neg (by rw [hc]; decide),
    if_neg (by rw [hc]; decide), if_pos hc]
  by_cases hlen : s.usLength > 5
  · by_cases hn : (1 ≤ (loadBE s.ucRcvBuf (p + 3)).toNat ∧ (loadBE s.ucRcvBuf (p + 3)).toNat ≤ 0x07B0) ∧
        coilBytes (loadBE s.ucRcvBuf (p + 3)) = s.ucRcvBuf (p + 5)
    · rw [writeMultipleCoils_parse hlen rfl rfl hn]
      by_cases hcov : tableCovers cur.sMBCoilTable (loadBE s.ucRcvBuf (p + 1)) (loadBE s.ucRcvBuf (p + 3)) = true
      · rw [if_pos hcov, if_pos ⟨hlen, hn, hcov⟩, Option.map_map, Option.map_map]
        rfl
      · rw [if_neg hcov, if_neg fun h => hcov h.2.2]
        rfl
    · rw [if_neg fun h => hn h.2.1, writeMultipleCoils_refused hlen hn]
      rfl
  · rw [if_neg fun h => hlen h.1, eMBSlaveFuncWriteMultipleCoils, if_neg hlen]
    rfl

variable (cur) in
/-- **The byte after 249 bytes of an answer**, for the handler of any function code. -/
theorem execute_overrun (v : USHORT) (p : ℕ) (s : Store) :
    (execute cur v (s.ucRcvBuf p) p s).map (fun r => r.2.ucRcvBuf (p + 249)) =
      (overrun cur v p s).map fun o => o.getD (s.ucRcvBuf (p + 249)) := by
  by_cases h3 : s.ucRcvBuf p = MB_FUNC_READ_HOLDING_REGISTER
  · rw [← readHolding_overrun h3, h3]
    rfl
  by_cases h4 : s.ucRcvBuf p = MB_FUNC_READ_INPUT_REGISTER
  · rw [← readInput_overrun h4, h4]
    rfl
  by_cases h23 : s.ucRcvBuf p = MB_FUNC_READWRITE_MULTIPLE_REGISTERS
  · rw [← readWrite_overrun h23, h23]
    rfl
  by_cases h1 : s.ucRcvBuf p = MB_FUNC_READ_COILS
  · rw [← readCoils_overrun h1, h1]
    rfl
  by_cases h15 : s.ucRcvBuf p = MB_FUNC_WRITE_MULTIPLE_COILS
  · rw [← writeCoils_overrun h15, h15]
    rfl
  have hnone : overrun cur v p s = some none := by
    rw [overrun, if_neg h3, if_neg h4, if_neg h23, if_neg h1, if_neg h15]
  rw [hnone]
  by_cases h16 : s.ucRcvBuf p = MB_FUNC_WRITE_MULTIPLE_REGISTERS
  · rw [h16]
    exact congrArg some (congrFun (writeMultipleHolding_buf p s) _)
  · rw [execute_unhandled h3 h4 h16 h23 h1 h15]
    rfl

end Execute

/-! ### Runs of the slave -/

/-- What can happen to the slave: a poll, with the data `recv` gets if the poll arms the receiver and the
first value of `usRegInValue`; the application assigning its variables; the server task accepting a
connection. -/
inductive SlaveEvent
  | poll (usRegInValue : USHORT) (data : List UCHAR)
  | assign (vars : Mem)
  | connect

/-- A step of the slave with the address `ucSlaveAddr`. -/
def slaveStep (cur : sMBSlaveCommData) (ucSlaveAddr : UCHAR) (s : sMBSlaveInfo) : SlaveEvent → Option sMBSlaveInfo
  | .poll v data => eMBSlavePoll cur ucSlaveAddr v data s
  | .assign vars => some { s with store := { s.store with vars := vars } }
  | .connect => some { s with xSocketConnected := true }

/-- The next poll does not block: an event is queued.  (The receiver has been armed again when the event
is that of `xMBSlaveTCPPortGetRequest`.) -/
def Alive (s : sMBSlaveInfo) : Prop := s.eQueuedEvent ≠ none

/-- The MBAP header passes the checks of `eMBSlaveTCPReceive`: the protocol identifier is 0 and the low
byte of the length field, less one, is at most the number of received bytes less six. -/
def HeaderPasses (s : sMBSlaveInfo) : Prop :=
  loadBE s.store.ucRcvBuf 2 = 0 ∧
    ((((s.store.ucRcvBuf 5).toNat + 65535) % 65536 : ℕ) : ℤ) ≤ (s.usRcvBufferPos : ℤ) - 6

/-- **What keeps the slave listening.**  A received frame is refused by the header check, or is for the
slave or a broadcast; an executed request reads through no null pointer and leaves a unit identifier
other than 0 after the buffer: the request's own, or the byte 249 of a long answer. -/
def PollOk (cur : sMBSlaveCommData) (ucSlaveAddr : UCHAR) (s : sMBSlaveInfo) (usRegInValue : USHORT) : Prop :=
  match s.eQueuedEvent with
  | some .EV_FRAME_RECEIVED =>
    HeaderPasses s → s.store.ucRcvBuf 6 = ucSlaveAddr ∨ s.store.ucRcvBuf 6 = MB_ADDRESS_BROADCAST
  | some .EV_EXECUTE =>
    ∃ o, overrun cur usRegInValue s.pucMBFrame s.store = some o ∧ o.getD s.ucRcvAddress ≠ MB_ADDRESS_BROADCAST
  | _ => True

def StepOk (cur : sMBSlaveCommData) (ucSlaveAddr : UCHAR) (s : sMBSlaveInfo) : SlaveEvent → Prop
  | .poll v _ => PollOk cur ucSlaveAddr s v
  | _ => True

/-- A request is executed on the frame after the MBAP header. -/
def FrameInPlace (s : sMBSlaveInfo) : Prop := s.eQueuedEvent = some .EV_EXECUTE → s.pucMBFrame = 7

section Steps

variable {cur : sMBSlaveCommData} {ucSlaveAddr : UCHAR} {s s' : sMBSlaveInfo}

theorem post_alive (s : sMBSlaveInfo) (e : eMBSlaveEventType) : Alive (xMBSlavePortEventPost s e) := nofun

theorem getRequest_alive (data : List UCHAR) (s : sMBSlaveInfo) : Alive (xMBSlaveTCPPortGetRequest data s) := by
  unfold xMBSlaveTCPPortGetRequest
  dsimp only
  split <;> exact post_alive _ _

theorem getRequest_frame (data : List UCHAR) (s : sMBSlaveInfo) :
    FrameInPlace (xMBSlaveTCPPortGetRequest data s) := by
  unfold xMBSlaveTCPPortGetRequest FrameInPlace
  dsimp only
  split <;> nofun

theorem receive_refused (h : ¬HeaderPasses s) : (eMBSlaveTCPReceive s).1 = MB_EIO := by
  unfold eMBSlaveTCPReceive
  split
  · rename_i h2
    dsimp only
    rw [if_pos]
    by_contra hlt
    exact h ⟨h2, by omega⟩
  · rfl

theorem receive_passed (h : HeaderPasses s) :
    (eMBSlaveTCPReceive s).1 = .MB_ENOERR ∧ (eMBSlaveTCPReceive s).2.pucMBFrame = 7 ∧
      (eMBSlaveTCPReceive s).2.ucRcvAddress = s.store.ucRcvBuf 6 ∧
      (eMBSlaveTCPReceive s).2.eQueuedEvent = s.eQueuedEvent := by
  obtain ⟨h2, hle⟩ := h
  unfold eMBSlaveTCPReceive
  rw [if_pos h2]
  dsimp only
  rw [if_neg (by omega)]
  exact ⟨rfl, rfl, store8_same s.store.ucRcvBuf RCV_ADDRESS (s.store.ucRcvBuf 6), rfl⟩

/-- The poll of a received frame leaves an event exactly when the frame is refused, the slave's or a
broadcast. -/
theorem received_alive (hq : s.eQueuedEvent = some .EV_FRAME_RECEIVED) (v : USHORT) (data : List UCHAR) :
    (∃ s', eMBSlavePoll cur ucSlaveAddr v data s = some s' ∧ Alive s') ↔
      (HeaderPasses s → s.store.ucRcvBuf 6 = ucSlaveAddr ∨ s.store.ucRcvBuf 6 = MB_ADDRESS_BROADCAST) := by
  set s₀ : sMBSlaveInfo := { s with eQueuedEvent := none }
  have hp : eMBSlavePoll cur ucSlaveAddr v data s =
      if (eMBSlaveTCPReceive s₀).1 = .MB_ENOERR then
        if (eMBSlaveTCPReceive s₀).2.ucRcvAddress = ucSlaveAddr ∨
            (eMBSlaveTCPReceive s₀).2.ucRcvAddress = MB_ADDRESS_BROADCAST then
          some (xMBSlavePortEventPost (eMBSlaveTCPReceive s₀).2 .EV_EXECUTE)
        else some (eMBSlaveTCPReceive s₀).2
      else some (xMBSlavePortEventPost (eMBSlaveTCPReceive s₀).2 .EV_ERROR_RCV) := by
    rw [eMBSlavePoll, hq]
  rw [hp]
  by_cases hh : HeaderPasses s
  · obtain ⟨h1, -, h6, hq'⟩ := receive_passed (s := s₀) hh
    rw [if_pos h1, h6]
    by_cases hu : s.store.ucRcvBuf 6 = ucSlaveAddr ∨ s.store.ucRcvBuf 6 = MB_ADDRESS_BROADCAST
    · rw [if_pos hu]
      exact ⟨fun _ _ => hu, fun _ => ⟨_, rfl, post_alive _ _⟩⟩
    · rw [if_neg hu]
      refine ⟨?_, fun h => absurd (h hh) hu⟩
      rintro ⟨s', hs, ha⟩
      cases hs
      exact absurd hq' ha
  · rw [if_neg (by rw [receive_refused (s := s₀) hh]; decide)]
    exact ⟨fun _ h => absurd h hh, fun _ => ⟨_, rfl, post_alive _ _⟩⟩

/-- The poll that executes a request leaves an event exactly when the handler returns and the byte after
the buffer is then not 0. -/
theorem execute_alive (hq : s.eQueuedEvent = some .EV_EXECUTE) (hf : s.pucMBFrame = 7) (v : USHORT)
    (data : List UCHAR) :
    (∃ s', eMBSlavePoll cur ucSlaveAddr v data s = some s' ∧ Alive s') ↔
      ∃ o, overrun cur v s.pucMBFrame s.store = some o ∧ o.getD s.ucRcvAddress ≠ MB_ADDRESS_BROADCAST := by
  have hp : eMBSlavePoll cur ucSlaveAddr v data s =
      eMBSlaveExecute cur ucSlaveAddr v { s with eQueuedEvent := none } := by rw [eMBSlavePoll, hq]
  have hx := execute_overrun cur v s.pucMBFrame s.store
  rw [hp, eMBSlaveExecute]
  cases he : execute cur v (s.store.ucRcvBuf s.pucMBFrame) s.pucMBFrame s.store with
  | none =>
    rw [he] at hx
    have ho : overrun cur v s.pucMBFrame s.store = none := Option.map_eq_none_iff.mp hx.symm
    simp [ho]
  | some r =>
    rw [he] at hx
    obtain ⟨o, ho, hb⟩ := Option.map_eq_some_iff.mp hx.symm
    rw [hf] at hb
    -- the byte after the buffer is the byte 249 of the answer
    have haddr : ({ s with eQueuedEvent := none, store := r.2 } : sMBSlaveInfo).ucRcvAddress =
        o.getD s.ucRcvAddress := hb.symm
    simp only [Option.map_some, haddr]
    by_cases h0 : o.getD s.ucRcvAddress ≠ MB_ADDRESS_BROADCAST
    · simp only [if_pos h0]
      exact ⟨fun _ => ⟨o, ho, h0⟩, fun _ => ⟨_, rfl, post_alive _ _⟩⟩
    · simp only [if_neg h0]
      refine ⟨?_, ?_⟩
      · rintro ⟨s', hs, ha⟩
        cases hs
        exact absurd rfl ha
      · rintro ⟨o', ho', h'⟩
        cases ho.symm.trans ho'
        exact absurd h' h0

theorem step_frame {e : SlaveEvent} (hi : FrameInPlace s) (h : slaveStep cur ucSlaveAddr s e = some s') :
    FrameInPlace s' := by
  cases e with
  | assign vars =>
    cases h
    exact hi
  | connect =>
    cases h
    exact hi
  | poll v data =>
    rw [slaveStep, eMBSlavePoll] at h
    split at h
    · cases h
    · rename_i e hq
      cases e with
      | EV_READY | EV_FRAME_SENT | EV_ERROR_RCV =>
        cases h
        exact getRequest_frame _ _
      | EV_FRAME_RECEIVED =>
        dsimp only at h
        split at h
        · rename_i h1
          -- only a header that passes leads to an execution
          have hh : HeaderPasses { s with eQueuedEvent := none } := by
            by_contra hh
            rw [receive_refused hh] at h1
            cases h1
          obtain ⟨-, h7, -, hq'⟩ := receive_passed hh
          split at h
          · cases h
            exact fun _ => h7
          · cases h
            exact fun hx => absurd (hq'.symm.trans hx) nofun
        · cases h
          nofun
      | EV_EXECUTE =>
        dsimp only [eMBSlaveExecute] at h
        obtain ⟨r, -, rfl⟩ := Option.map_eq_some_iff.mp h
        split
        · nofun
        · nofun

/-- **One step**: it leaves the slave listening exactly when it meets `StepOk`. -/
theorem stepOk_iff (hi : FrameInPlace s) (ha : Alive s) (e : SlaveEvent) :
    StepOk cur ucSlaveAddr s e ↔ ∃ s', slaveStep cur ucSlaveAddr s e = some s' ∧ Alive s' := by
  cases e with
  | assign vars => exact ⟨fun _ => ⟨_, rfl, ha⟩, fun _ => trivial⟩
  | connect => exact ⟨fun _ => ⟨_, rfl, ha⟩, fun _ => trivial⟩
  | poll v data =>
    rw [StepOk, PollOk, slaveStep]
    cases hq : s.eQueuedEvent with
    | none => exact absurd hq ha
    | some e =>
      cases e with
      | EV_READY | EV_FRAME_SENT | EV_ERROR_RCV =>
        refine ⟨fun _ => ⟨_, by rw [eMBSlavePoll, hq], getRequest_alive _ _⟩, fun _ => trivial⟩
      | EV_FRAME_RECEIVED => exact (received_alive hq v data).symm
      | EV_EXECUTE => exact (execute_alive hq (hi hq) v data).symm

end Steps

/-- **The slave stays listening exactly as long as its frames let it**: from an armed receiver, along
every run. -/
theorem slave_alive_iff (cur : sMBSlaveCommData) (ucSlaveAddr : UCHAR) (s : sMBSlaveInfo) (data : List UCHAR)
    (es : List SlaveEvent) :
    Stays (slaveStep cur ucSlaveAddr) Alive (xMBSlaveTCPPortGetRequest data s) es ↔
      Meets (slaveStep cur ucSlaveAddr) (StepOk cur ucSlaveAddr) (xMBSlaveTCPPortGetRequest data s) es :=
  stays_iff_meets (fun _ _ _ => step_frame) (fun _ e hi ha => stepOk_iff hi ha e) (getRequest_frame data s)
    (getRequest_alive data s)

/-! ### A frame of a foreign unit -/

/-- A slave without registers, its receiver not yet armed. -/
def emptyComm : sMBSlaveCommData where
  sMBRegInTable := ⟨none, 0, 0, 0⟩
  sMBRegHoldTable := ⟨none, 0, 0, 0⟩
  sMBCoilTable := ⟨none, 0, 0, 0⟩
  pxSlaveDataMapIndex := none

def emptySlave : sMBSlaveInfo where
  store := ⟨fun _ => 0, 0, fun _ => 0⟩
  usRcvBufferPos := 0
  pucMBFrame := 0
  eQueuedEvent := none
  xSocketConnected := true
  sent := []

/-- The slave 1 receives a request for the unit 2; the poll that handles it is its last. -/
theorem slave_deaf_after_foreign_unit :
    ¬Stays (slaveStep emptyComm 1) Alive
      (xMBSlaveTCPPortGetRequest [0, 0, 0, 0, 0, 6, 2, 3, 0, 0, 0, 1] emptySlave) [.poll 0 []] := by
  rintro ⟨-, s', hs, ha⟩
  have hq : (slaveStep emptyComm 1 (xMBSlaveTCPPortGetRequest [0, 0, 0, 0, 0, 6, 2, 3, 0, 0, 0, 1] emptySlave)
      (.poll 0 [])).map (·.eQueuedEvent) = some none := by decide
  rw [hs] at hq
  exact ha (Option.some.inj hq)

end GreeIntense.Slave

import GreeIntense.Slave.Liveness
import GreeIntense.Slave.Extent

/-!
# The MBAP header (`mbtcp.c`)

The header of a request is parsed where `recv` put it, and the header of the answer is written over it.
`parses_exactly_iff` tells the byte strings on which the parser accepts exactly the complete frames,
`reply_framed_iff` the accepted requests whose answer is framed as it should be.

A short read leaves the bytes of earlier frames behind it.  They do not matter for what is accepted: the
length check lets nothing pass whose length field has not been received.
-/

namespace GreeIntense.Slave

open Lib.Memory Lib.Bits eMBErrorCode

/-! ### The fields of a received string -/

def field (b : List UCHAR) (i : ℕ) : UCHAR := b.getD i 0

def protocolId (b : List UCHAR) : USHORT := field b 2 ++ field b 3

/-- The length field: the bytes after it, the unit identifier among them. -/
def mbapLength (b : List UCHAR) : ℕ := (field b 4 ++ field b 5).toNat

/-- A whole frame: the header with at least a function code, and as many bytes as it announces. -/
structure CompleteFrame (b : List UCHAR) : Prop where
  header : 8 ≤ b.length
  pid : protocolId b = 0
  pdu : 2 ≤ mbapLength b
  all : 6 + mbapLength b ≤ b.length

/-- What the parser hands on of a frame. -/
structure ParsedFrame (b : List UCHAR) (s : sMBSlaveInfo) : Prop where
  usLength : s.store.usLength = mbapLength b - 1
  ucRcvAddress : s.ucRcvAddress = field b 6
  pucMBFrame : s.pucMBFrame = 7

/-- The received string `b` is accepted exactly when it is a whole frame, and is then parsed as it. -/
def ParsesExactly (s : sMBSlaveInfo) (b : List UCHAR) : Prop :=
  let r := eMBSlaveTCPReceive (xMBSlaveTCPPortGetRequest b s)
  (r.1 = MB_ENOERR ↔ CompleteFrame b) ∧ (r.1 = MB_ENOERR → ParsedFrame b r.2)

/-- A string the length check lets pass: `usRcvBufferPos - MB_TCP_FUNC + 1` is one more than the bytes of
the PDU, and the high byte of the length field is not looked at. -/
def LengthPasses (b : List UCHAR) : Prop := 1 ≤ (field b 5).toNat ∧ (field b 5).toNat + 5 ≤ b.length

/-- What the length check lets pass and should not: a length field with a high byte, a frame without a
function code, a frame whose last byte has not been received. -/
def Misread (b : List UCHAR) : Prop :=
  field b 4 ≠ 0 ∨ (field b 5).toNat = 1 ∨ b.length = (field b 5).toNat + 5

section Parser

variable {s : sMBSlaveInfo} {b : List UCHAR}

theorem mbapLength_eq (b : List UCHAR) : mbapLength b = (field b 4).toNat * 256 + (field b 5).toNat :=
  toNat_append _ _

theorem getRequest_eq (h : 1 ≤ b.length ∧ b.length ≤ 256) :
    xMBSlaveTCPPortGetRequest b s =
      { s with
        store := { s.store with ucRcvBuf := storeList s.store.ucRcvBuf 0 b }
        usRcvBufferPos := b.length
        eQueuedEvent := some .EV_FRAME_RECEIVED } := by
  unfold xMBSlaveTCPPortGetRequest
  rw [List.take_of_length_le h.2]
  dsimp only
  rw [if_neg (by omega)]
  rfl

theorem stored_field (m : Mem) {i : ℕ} (h : i < b.length) : storeList m 0 b i = field b i := by
  have hs := storeList_get m 0 b i
  rw [Nat.zero_add] at hs
  rw [hs, field, List.getElem?_eq_getElem h, List.getD_eq_getElem _ _ h]
  rfl

/-- **What is accepted**, whatever stands in the buffer. -/
theorem receive_accepts_iff (h : 1 ≤ b.length ∧ b.length ≤ 256) :
    (eMBSlaveTCPReceive (xMBSlaveTCPPortGetRequest b s)).1 = MB_ENOERR ↔ protocolId b = 0 ∧ LengthPasses b := by
  set m := storeList s.store.ucRcvBuf 0 b with hm
  -- the compare is signed, and the length of 0 has wrapped to 65535
  have hpass : HeaderPasses (xMBSlaveTCPPortGetRequest b s) ↔
      loadBE m 2 = 0 ∧ 1 ≤ (m 5).toNat ∧ (m 5).toNat + 5 ≤ b.length := by
    rw [getRequest_eq h]
    show loadBE m 2 = 0 ∧ ((((m 5).toNat + 65535) % 65536 : ℕ) : ℤ) ≤ (b.length : ℤ) - 6 ↔ _
    apply and_congr_right
    intro _
    have hlt := (m 5).isLt
    omega
  have hfields : 6 ≤ b.length → m 5 = field b 5 ∧ loadBE m 2 = protocolId b := by
    intro h6
    refine ⟨stored_field _ (by omega), ?_⟩
    rw [loadBE, protocolId, hm, stored_field _ (show 2 < b.length by omega),
      stored_field _ (show 3 < b.length by omega)]
  constructor
  · intro hok
    by_cases hp : HeaderPasses (xMBSlaveTCPPortGetRequest b s)
    · obtain ⟨h2, h1, hl⟩ := hpass.mp hp
      obtain ⟨e5, e2⟩ := hfields (by omega)
      rw [e5] at h1 hl
      exact ⟨e2 ▸ h2, h1, hl⟩
    · rw [receive_refused hp] at hok
      cases hok
  · rintro ⟨h2, h1, hl⟩
    obtain ⟨e5, e2⟩ := hfields (by omega)
    refine (receive_passed (hpass.mpr ⟨e2.trans h2, ?_, ?_⟩)).1
    · rw [e5]
      exact h1
    · rw [e5]
      exact hl

/-- The length an accepted request is given: the low byte of the length field less one. -/
theorem receive_usLength (h : 1 ≤ b.length ∧ b.length ≤ 256) (hp : protocolId b = 0) (hl : LengthPasses b) :
    (eMBSlaveTCPReceive (xMBSlaveTCPPortGetRequest b s)).2.store.usLength = (field b 5).toNat - 1 := by
  have h5 := (field b 5).isLt
  obtain ⟨h1, hlen⟩ := hl
  have e2 : loadBE (storeList s.store.ucRcvBuf 0 b) 2 = 0 := by
    rw [loadBE, stored_field _ (show 2 < b.length by omega), stored_field _ (show 3 < b.length by omega)]
    exact hp
  have e5 : storeList s.store.ucRcvBuf 0 b 5 = field b 5 := stored_field _ (by omega)
  rw [getRequest_eq h, eMBSlaveTCPReceive, if_pos e2]
  dsimp only
  rw [e5]
  split
  · dsimp only
    omega
  · dsimp only
    omega

end Parser

/-- **The parser accepts exactly the complete frames unless the length check misreads one**: for every
buffer and every received string. -/
theorem parses_exactly_iff (s : sMBSlaveInfo) (b : List UCHAR) (h : 1 ≤ b.length ∧ b.length ≤ 256) :
    ParsesExactly s b ↔ ¬(protocolId b = 0 ∧ LengthPasses b ∧ Misread b) := by
  have hL := mbapLength_eq b
  have h4 := (field b 4).isLt
  have hzero : field b 4 = 0 ↔ (field b 4).toNat = 0 := BitVec.toNat_eq (y := 0)
  rw [ParsesExactly, receive_accepts_iff h]
  constructor
  · rintro ⟨hiff, hparsed⟩ ⟨hp, hl, hbad⟩
    have hc := hiff.mp ⟨hp, hl⟩
    have hpdu := hc.pdu
    have hall := hc.all
    rcases hbad with hhi | hone | hshort
    · exact hhi (hzero.mpr (by omega))
    · -- a high byte would announce more than can be received
      omega
    · omega
  · intro hgood
    have hcomplete : protocolId b = 0 ∧ LengthPasses b → CompleteFrame b := by
      rintro ⟨hp, hl⟩
      have hm : ¬Misread b := fun hbad => hgood ⟨hp, hl, hbad⟩
      obtain ⟨hhi, hone, hshort⟩ : field b 4 = 0 ∧ (field b 5).toNat ≠ 1 ∧ b.length ≠ (field b 5).toNat + 5 := by
        simpa [Misread, not_or] using hm
      have hhi' := hzero.mp hhi
      obtain ⟨h1, hlen⟩ := hl
      exact ⟨by omega, hp, by omega, by omega⟩
    refine ⟨⟨hcomplete, fun hc => ⟨hc.pid, ?_⟩⟩, ?_⟩
    · have hpdu := hc.pdu
      have hall := hc.all
      constructor
      · omega
      · omega
    · rintro ⟨hp, hl⟩
      have hc := hcomplete ⟨hp, hl⟩
      have hall := hc.all
      have hheader := hc.header
      have hpass := (receive_accepts_iff (s := s) h).mpr ⟨hp, hl⟩
      have hh : HeaderPasses (xMBSlaveTCPPortGetRequest b s) := by
        by_contra hh
        rw [receive_refused hh] at hpass
        cases hpass
      obtain ⟨-, h7, h6, -⟩ := receive_passed hh
      constructor
      · rw [receive_usLength h hp hl]
        omega
      · rw [h6, getRequest_eq h]
        exact stored_field _ (by omega)
      · exact h7

/-- A read request of which the last byte has not arrived. -/
def lastByteMissing : List UCHAR := [0, 1, 0, 0, 0, 6, 1, 3, 0, 0, 0]

theorem lastByteMissing_accepted : ¬ParsesExactly emptySlave lastByteMissing := by
  intro h
  have hc : CompleteFrame lastByteMissing := h.1.mp (by decide)
  have hall : 12 ≤ 11 := hc.all
  omega

/-- The whole request is parsed. -/
theorem parses_exactly_whole :
    (1 ≤ (lastByteMissing ++ [1]).length ∧ (lastByteMissing ++ [1]).length ≤ 256) ∧
      ParsesExactly emptySlave (lastByteMissing ++ [1]) := by
  have h : 1 ≤ (lastByteMissing ++ [1]).length ∧ (lastByteMissing ++ [1]).length ≤ 256 := by decide
  refine ⟨h, (parses_exactly_iff emptySlave (lastByteMissing ++ [1]) h).mpr ?_⟩
  rintro ⟨-, -, hbad⟩
  exact absurd hbad (by unfold Misread; decide)

/-! ### The header of the answer -/

section Execute

variable {cur : sMBSlaveCommData} {v : USHORT} {p : ℕ} {s : Store} {r : eMBException × Store}

theorem readHolding_usLength :
    (eMBSlaveFuncReadHoldingRegister cur p s).2.usLength ≤ max s.usLength 252 := by
  by_cases hlen : s.usLength = 5
  · rw [readHolding_parse hlen rfl rfl]
    split
    · rename_i hn
      split
      · simp only [Store.respond, wordsResponse, List.length_cons, beBytes_length, regHoldWords_length]
        omega
      · simp [putHeader]
    · exact le_max_left _ _
  · rw [eMBSlaveFuncReadHoldingRegister, if_neg hlen]
    exact le_max_left _ _

theorem readInput_usLength (h : eMBSlaveFuncReadInputRegister cur v p s = some r) :
    r.2.usLength ≤ max s.usLength 252 := by
  by_cases hlen : s.usLength = 5
  · rw [readInput_eq hlen rfl rfl] at h
    split at h
    · split at h
      · obtain ⟨w, -, rfl⟩ := Option.map_eq_some_iff.mp h
        dsimp only
        split
        · omega
        · omega
      · cases h
        simp [putHeader]
    · cases h
      exact le_max_left _ _
  · rw [eMBSlaveFuncReadInputRegister, if_neg hlen] at h
    cases h
    exact le_max_left _ _

theorem writeMultipleHolding_usLength :
    (eMBSlaveFuncWriteMultipleHoldingRegister cur p s).2.usLength ≤ max s.usLength 252 := by
  by_cases hlen : s.usLength ≥ 6
  · rw [writeMultipleHolding_parse hlen rfl rfl]
    split
    · split
      · dsimp only
        split
        · omega
        · exact le_max_left _ _
      · exact le_max_left _ _
    · exact le_max_left _ _
  · rw [eMBSlaveFuncWriteMultipleHoldingRegister, if_neg hlen]
    exact le_max_left _ _

theorem readWrite_usLength :
    (eMBSlaveFuncReadWriteMultipleHoldingRegister cur p s).2.usLength ≤ max s.usLength 252 := by
  by_cases hlen : s.usLength ≥ 10
  · rw [readWriteMultipleHolding_parse hlen rfl rfl rfl rfl]
    split
    · rename_i hn
      split
      · dsimp only
        split
        · split
          · simp only [Store.respond, wordsResponse, List.length_cons, beBytes_length, regHoldWords_length]
            omega
          · simp [putHeader]
        · exact le_max_left _ _
      · exact le_max_left _ _
    · exact le_max_left _ _
  · rw [eMBSlaveFuncReadWriteMultipleHoldingRegister, if_neg hlen]
    exact le_max_left _ _

theorem readCoils_usLength (h : eMBSlaveFuncReadCoils cur p s = some r) : r.2.usLength ≤ max s.usLength 252 := by
  by_cases hlen : s.usLength = 5
  · by_cases hn : 1 ≤ (loadBE s.ucRcvBuf (p + 3)).toNat ∧ (loadBE s.ucRcvBuf (p + 3)).toNat < 0x07D0
    · rw [readCoils_parse hlen rfl rfl hn] at h
      split at h
      · obtain ⟨w, -, rfl⟩ := Option.map_eq_some_iff.mp h
        dsimp only
        split
        · omega
        · omega
      · cases h
        simp [putHeader]
    · rw [readCoils_refused hlen hn] at h
      cases h
      exact le_max_left _ _
  · rw [eMBSlaveFuncReadCoils, if_neg hlen] at h
    cases h
    exact le_max_left _ _

theorem writeCoils_usLength (h : eMBSlaveFuncWriteMultipleCoils cur p s = some r) :
    r.2.usLength ≤ max s.usLength 252 := by
  rcases (writeMultipleCoils_frame h).2 with hlen | hlen
  · exact hlen.le.trans (le_max_left _ _)
  · rw [hlen]
    exact le_trans (by decide) (le_max_right _ _)

/-- **The length of an answer**: at most 252, or no more than the request's. -/
theorem execute_usLength {fc : UCHAR} (h : execute cur v fc p s = some r) : r.2.usLength ≤ max s.usLength 252 := by
  by_cases h3 : fc = MB_FUNC_READ_HOLDING_REGISTER
  · subst h3
    rw [← Option.some.inj h]
    exact readHolding_usLength
  by_cases h4 : fc = MB_FUNC_READ_INPUT_REGISTER
  · subst h4
    exact readInput_usLength h
  by_cases h16 : fc = MB_FUNC_WRITE_MULTIPLE_REGISTERS
  · subst h16
    rw [← Option.some.inj h]
    exact writeMultipleHolding_usLength
  by_cases h23 : fc = MB_FUNC_READWRITE_MULTIPLE_REGISTERS
  · subst h23
    rw [← Option.some.inj h]
    exact readWrite_usLength
  by_cases h1 : fc = MB_FUNC_READ_COILS
  · subst h1
    exact readCoils_usLength h
  by_cases h15 : fc = MB_FUNC_WRITE_MULTIPLE_COILS
  · subst h15
    exact writeCoils_usLength h
  · rw [execute_unhandled h3 h4 h16 h23 h1 h15] at h
    cases h
    exact le_max_left _ _

end Execute

/-- The PDU of the answer as it is handed to the encoder: what the handler left, or the error frame. -/
def answer (cur : sMBSlaveCommData) (usRegInValue : USHORT) (s : sMBSlaveInfo) : Option Store :=
  let ucFunctionCode := s.store.ucRcvBuf s.pucMBFrame
  (execute cur usRegInValue ucFunctionCode s.pucMBFrame s.store).map fun r =>
    if r.1 ≠ .MB_EX_NONE then errorFrame ucFunctionCode r.1 s.pucMBFrame r.2 else r.2

/-- What a well framed reply to the request `b` is, for the answer `t`. -/
structure ReplyFramed (b : List UCHAR) (ucSlaveAddr : UCHAR) (t : Store) (frame : List UCHAR) : Prop where
  length : frame.length = 7 + t.usLength
  tid : field frame 0 = field b 0 ∧ field frame 1 = field b 1
  pid : protocolId frame = 0
  len : mbapLength frame = t.usLength + 1
  uid : field frame 6 = ucSlaveAddr
  pdu : ∀ i < t.usLength, field frame (7 + i) = t.ucRcvBuf (7 + i)

/-- The slave takes the received string `b` for a request, and the poll that executes it sends `frame` for
the answer `t`. -/
def Replies (cur : sMBSlaveCommData) (ucSlaveAddr : UCHAR) (usRegInValue : USHORT) (s : sMBSlaveInfo)
    (b : List UCHAR) (t : Store) (frame : List UCHAR) : Prop :=
  ∃ s₁ s₂ data, eMBSlavePoll cur ucSlaveAddr usRegInValue data (xMBSlaveTCPPortGetRequest b s) = some s₁ ∧
    s₁.eQueuedEvent = some .EV_EXECUTE ∧ answer cur usRegInValue s₁ = some t ∧
    eMBSlavePoll cur ucSlaveAddr usRegInValue data s₁ = some s₂ ∧ s₂.sent = frame :: s.sent

/-- The bytes `eMBSlaveTCPSend` hands to the port. -/
def sentFrame (ucSlaveAddr : UCHAR) (t : Store) : List UCHAR :=
  (List.range (t.usLength + 7)).map
    (store8 (store8 t.ucRcvBuf 5 (BitVec.ofNat 8 t.usLength + 1)) 6 ucSlaveAddr)

section Reply

variable {cur : sMBSlaveCommData} {ucSlaveAddr : UCHAR} {v : USHORT} {data b : List UCHAR}
  {s s₁ s₂ : sMBSlaveInfo} {t : Store}

theorem queued_request (h : 1 ≤ b.length ∧ b.length ≤ 256)
    (hp : eMBSlavePoll cur ucSlaveAddr v data (xMBSlaveTCPPortGetRequest b s) = some s₁)
    (hq : s₁.eQueuedEvent = some .EV_EXECUTE) :
    protocolId b = 0 ∧ s₁.pucMBFrame = 7 ∧ s₁.sent = s.sent ∧ s₁.store.usLength ≤ 254 ∧
      ∀ i < 6, s₁.store.ucRcvBuf i = field b i := by
  set s₀ := xMBSlaveTCPPortGetRequest b s with hs₀
  have e₀ : s₀.eQueuedEvent = some .EV_FRAME_RECEIVED := by rw [hs₀, getRequest_eq h]
  -- the receiver does not look at the event
  have hr : eMBSlaveTCPReceive { s₀ with eQueuedEvent := none } =
      ((eMBSlaveTCPReceive s₀).1, { (eMBSlaveTCPReceive s₀).2 with eQueuedEvent := none }) := by
    unfold eMBSlaveTCPReceive
    split
    · dsimp only
      split <;> rfl
    · rfl
  rw [eMBSlavePoll, e₀] at hp
  dsimp only at hp
  rw [hr] at hp
  dsimp only at hp
  by_cases hok : (eMBSlaveTCPReceive s₀).1 = MB_ENOERR
  · obtain ⟨hpid, hl⟩ := (receive_accepts_iff h).mp hok
    have hlen : (eMBSlaveTCPReceive s₀).2.store.usLength = (field b 5).toNat - 1 := receive_usLength h hpid hl
    have h5 := (field b 5).isLt
    have hh : HeaderPasses s₀ := by
      by_contra hh
      rw [receive_refused hh] at hok
      cases hok
    obtain ⟨-, h7, -, -⟩ := receive_passed hh
    -- it writes nothing but the address behind the buffer
    have hbuf : ∀ i < 6, (eMBSlaveTCPReceive s₀).2.store.ucRcvBuf i = field b i := by
      intro i hi
      have hbi : s₀.store.ucRcvBuf i = field b i := by
        rw [hs₀, getRequest_eq h]
        exact stored_field _ (by obtain ⟨h1, h2⟩ := hl; omega)
      rw [← hbi, eMBSlaveTCPReceive, if_pos hh.1]
      dsimp only
      split <;> exact store8_ne _ _ _ _ (show i ≠ 256 by omega)
    have hsent : (eMBSlaveTCPReceive s₀).2.sent = s.sent := by
      have e : s₀.sent = s.sent := by rw [hs₀, getRequest_eq h]
      rw [← e, eMBSlaveTCPReceive, if_pos hh.1]
      dsimp only
      split <;> rfl
    rw [if_pos hok] at hp
    split at hp
    · cases hp
      refine ⟨hpid, h7, hsent, ?_, hbuf⟩
      show (eMBSlaveTCPReceive s₀).2.store.usLength ≤ 254
      omega
    · cases hp
      cases hq
  · rw [if_neg hok] at hp
    cases hp
    cases hq

theorem answer_header (hf : s₁.pucMBFrame = 7) (ha : answer cur v s₁ = some t) :
    t.usLength ≤ max s₁.store.usLength 252 ∧ ∀ i < 7, t.ucRcvBuf i = s₁.store.ucRcvBuf i := by
  unfold answer at ha
  rw [hf] at ha
  obtain ⟨r, hr, rfl⟩ := Option.map_eq_some_iff.mp ha
  have hlen := execute_usLength hr
  have hbuf : ∀ i < 7, r.2.ucRcvBuf i = s₁.store.ucRcvBuf i := by
    intro i hi
    rw [execute_stored hr, storeList_off (Or.inl hi)]
  split
  · refine ⟨by simp [errorFrame], ?_⟩
    intro i hi
    rw [errorFrame]
    dsimp only
    rw [store8_ne _ _ _ _ (by omega), store8_ne _ _ _ _ (by omega), hbuf i hi]
  · exact ⟨hlen, hbuf⟩

/-- What is sent for a request that has been executed. -/
theorem replied_frame {frame : List UCHAR} (hq : s₁.eQueuedEvent = some .EV_EXECUTE) (hf : s₁.pucMBFrame = 7)
    (ha : answer cur v s₁ = some t) (hp : eMBSlavePoll cur ucSlaveAddr v data s₁ = some s₂)
    (hs : s₂.sent = frame :: s₁.sent) : frame = sentFrame ucSlaveAddr t := by
  rw [eMBSlavePoll, hq] at hp
  dsimp only [eMBSlaveExecute] at hp
  obtain ⟨r, hr, rfl⟩ := Option.map_eq_some_iff.mp hp
  unfold answer at ha
  dsimp only at ha
  rw [hr] at ha
  have ht := Option.some.inj ha
  split at hs
  · have hs' : (eMBSlaveTCPSend ucSlaveAddr { s₁ with eQueuedEvent := none, store := t }).sent =
        frame :: s₁.sent := by
      rw [← ht]
      exact hs
    simp only [eMBSlaveTCPSend, xMBSlavePortEventPost, hf, Nat.sub_self, Nat.zero_add, List.cons.injEq] at hs'
    exact hs'.1.symm
  · exact absurd hs.symm (List.cons_ne_self _ _)

theorem sentFrame_field (i : ℕ) (hi : i < t.usLength + 7) :
    field (sentFrame ucSlaveAddr t) i =
      store8 (store8 t.ucRcvBuf 5 (BitVec.ofNat 8 t.usLength + 1)) 6 ucSlaveAddr i := by
  rw [field, sentFrame, List.getD_eq_getElem _ _ (by simpa using hi), List.getElem_map, List.getElem_range]

end Reply

/-- **A reply is well framed exactly when the high byte of the request's length field is 0**: the encoder
writes the low byte of the length only.  For every accepted request and every answer. -/
theorem reply_framed_iff (cur : sMBSlaveCommData) (ucSlaveAddr : UCHAR) (v : USHORT) (s : sMBSlaveInfo)
    (b : List UCHAR) (t : Store) (frame : List UCHAR) (h : 1 ≤ b.length ∧ b.length ≤ 256)
    (hr : Replies cur ucSlaveAddr v s b t frame) :
    ReplyFramed b ucSlaveAddr t frame ↔ field b 4 = 0 := by
  obtain ⟨s₁, s₂, data, hp₁, hq, ha, hp₂, hs⟩ := hr
  obtain ⟨hpid, hf, hsent, hlen, hreq⟩ := queued_request h hp₁ hq
  obtain ⟨hmax, hhead⟩ := answer_header hf ha
  rw [← hsent] at hs
  have hframe := replied_frame hq hf ha hp₂ hs
  -- the reply keeps the first five bytes of the request's header
  have hkept : ∀ i < 5, field frame i = field b i := by
    intro i hi
    rw [hframe, sentFrame_field i (by omega), store8_ne _ _ _ _ (by omega), store8_ne _ _ _ _ (by omega),
      hhead i (by omega), hreq i (by omega)]
  have h5 : field frame 5 = BitVec.ofNat 8 t.usLength + 1 := by
    rw [hframe, sentFrame_field 5 (by omega), store8_ne _ _ _ _ (by omega), store8_same]
  have hlow : (field frame 5).toNat = t.usLength + 1 := by
    rw [h5, BitVec.toNat_add, BitVec.toNat_ofNat]
    show (t.usLength % 256 + 1) % 256 = t.usLength + 1
    omega
  -- so its length field has the high byte of the request
  have hval : mbapLength frame = (field b 4).toNat * 256 + (t.usLength + 1) := by
    rw [mbapLength_eq, hkept 4 (by omega), hlow]
  constructor
  · intro hw
    have hl := hw.len
    rw [hval] at hl
    have hz : (field b 4).toNat = 0 := by omega
    exact (BitVec.toNat_eq (y := 0)).mpr hz
  · intro hz
    constructor
    · rw [hframe]
      simp [sentFrame, Nat.add_comm]
    · exact ⟨hkept 0 (by omega), hkept 1 (by omega)⟩
    · rw [← hpid, protocolId, protocolId, hkept 2 (by omega), hkept 3 (by omega)]
    · rw [hval, hz]
      simp
    · rw [hframe, sentFrame_field 6 (by omega), store8_same]
    · intro i hi
      rw [hframe, sentFrame_field (7 + i) (by omega), store8_ne _ _ _ _ (by omega), store8_ne _ _ _ _ (by omega)]

/-- A read request whose length field is 6, or has the high byte 1. -/
def readWithLength (high : Bool) : List UCHAR := [0, 1, 0, 0, if high then 1 else 0, 6, 1, 3, 0, 0, 0, 1]

/-- The exception 2 in reply to it. -/
def refusal (high : Bool) : List UCHAR := [0, 1, 0, 0, if high then 1 else 0, 3, 1, 0x83, 2]

/-- The slave without registers refuses the request. -/
theorem refused_replies (high : Bool) :
    ∃ t, t.usLength = 2 ∧ Replies emptyComm 1 0 emptySlave (readWithLength high) t (refusal high) := by
  have hrun : ((eMBSlavePoll emptyComm 1 0 []
      (xMBSlaveTCPPortGetRequest (readWithLength high) emptySlave)).bind fun s₁ =>
        (answer emptyComm 0 s₁).bind fun t => (eMBSlavePoll emptyComm 1 0 [] s₁).map fun s₂ =>
          (s₁.eQueuedEvent, t.usLength, s₂.sent)) = some (some .EV_EXECUTE, 2, [refusal high]) := by
    cases high <;> decide
  simp only [Option.bind_eq_some_iff, Option.map_eq_some_iff, Prod.mk.injEq] at hrun
  obtain ⟨s₁, h₁, t, ha, s₂, h₂, hq, ht, hs⟩ := hrun
  exact ⟨t, ht, s₁, s₂, [], h₁, hq, ha, h₂, hs⟩

/-- The high byte of the length field comes back in the reply, which is then 256 bytes too short. -/
theorem reply_misframed :
    ¬∀ t frame, Replies emptyComm 1 0 emptySlave (readWithLength true) t frame →
      ReplyFramed (readWithLength true) 1 t frame := by
  intro h
  obtain ⟨t, ht, hr⟩ := refused_replies true
  have hl := (h t _ hr).len
  rw [ht] at hl
  exact absurd hl (by decide)

theorem reply_framed_refused :
    ∃ t, (1 ≤ (readWithLength false).length ∧ (readWithLength false).length ≤ 256) ∧
      Replies emptyComm 1 0 emptySlave (readWithLength false) t (refusal false) ∧
      ReplyFramed (readWithLength false) 1 t (refusal false) := by
  obtain ⟨t, -, hr⟩ := refused_replies false
  have h : 1 ≤ (readWithLength false).length ∧ (readWithLength false).length ≤ 256 := by decide
  exact ⟨t, h, hr, (reply_framed_iff emptyComm 1 0 emptySlave (readWithLength false) t _ h hr).mpr rfl⟩

end GreeIntense.Slave

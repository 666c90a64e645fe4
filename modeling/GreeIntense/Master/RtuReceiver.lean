import GreeIntense.Lib.Run
import GreeIntense.Master.Port
import GreeIntense.Master.Receive

/-!
# The receiver of a serial line (`mbrtu_m.c`, `mbporttimer_m.c`)

The receiver, the transmitter and the mode of the timers change with the bytes that come in, the expiries of the
timers, the requests that are sent and the interrupts of the transmitter, in any order: a timer may expire whether or
not it has been started.  The registers of the port are not modelled; the functions return to interrupt handlers and
to the timer task, which drop the result.

* `Sound.step`: what the state says about the bytes received so far, kept by every event;
* `receiver_right`: along every run the buffer is kept to, a frame is reported with the bytes it is made of, and a
  burst that is too long is reported as an error;
* `expired_receive`: the frame that is reported is what `eMBMasterRTUReceive` reads.
-/

namespace GreeIntense.Master.Rtu

open Lib.Memory Lib.Run eMBErrorCode eMBMasterEventType

inductive eMBMasterRcvState
  | STATE_M_RX_IDLE | STATE_M_RX_INIT | STATE_M_RX_RCV | STATE_M_RX_ERROR
  deriving DecidableEq, Repr

inductive eMBMasterSndState
  | STATE_M_TX_IDLE | STATE_M_TX_XMIT | STATE_M_TX_XFWR
  deriving DecidableEq, Repr

inductive eMBMasterTimerMode
  | MB_TMODE_T35 | MB_TMODE_RESPOND_TIMEOUT | MB_TMODE_CONVERT_DELAY
  deriving DecidableEq, Repr

open eMBMasterRcvState eMBMasterSndState eMBMasterTimerMode

abbrev MB_SER_PDU_SIZE_MAX : ℕ := 256

/-- What the functions of a serial line use of the master.  Of its three timers one at most is running. -/
structure sMBMasterInfo where
  eRcvState : eMBMasterRcvState
  eSndState : eMBMasterSndState
  usRcvBufferPos : ℕ
  ucRTURcvBuf : Mem
  ucRTUSndBuf : Mem
  usSndBufferCount : ℕ
  xFrameIsBroadcast : Bool
  eCurErrorType : eMBMasterErrorEventType
  eCurTimerMode : eMBMasterTimerMode
  running : Option eMBMasterTimerMode
  ucSlaveDevMinAddr : UCHAR
  ucSlaveDevMaxAddr : UCHAR

/-! ### The timers -/

/-- The three functions that start one of the timers and stop the others. -/
def tmrsEnable (mode : eMBMasterTimerMode) (s : sMBMasterInfo) : sMBMasterInfo :=
  { s with eCurTimerMode := mode, running := some mode }

def vMBsMasterPortTmrsEnable : sMBMasterInfo → sMBMasterInfo := tmrsEnable MB_TMODE_T35

def vMBsMasterPortTmrsConvertDelayEnable : sMBMasterInfo → sMBMasterInfo := tmrsEnable MB_TMODE_CONVERT_DELAY

def vMBsMasterPortTmrsRespondTimeoutEnable : sMBMasterInfo → sMBMasterInfo := tmrsEnable MB_TMODE_RESPOND_TIMEOUT

/-- The mode stays. -/
def vMBsMasterPortTmrsDisable (s : sMBMasterInfo) : sMBMasterInfo := { s with running := none }

def vMBMasterSetErrorType (errorType : eMBMasterErrorEventType) (s : sMBMasterInfo) : sMBMasterInfo :=
  { s with eCurErrorType := errorType }

/-! ### The line -/

def vMBMasterRTUStart (s : sMBMasterInfo) : sMBMasterInfo :=
  { s with eSndState := STATE_M_TX_IDLE, eRcvState := STATE_M_RX_IDLE }

/-- `eMBMasterRTUSend` for the PDU in `ucRTUSndBuf`: its first byte is sent at once. -/
def eMBMasterRTUSend (ucSlaveAddr : UCHAR) (usLength : ℕ) (s : sMBMasterInfo) : eMBErrorCode × sMBMasterInfo :=
  if ucSlaveAddr < s.ucSlaveDevMinAddr ∨ ucSlaveAddr > s.ucSlaveDevMaxAddr then (MB_EINVAL, s)
  else if s.eRcvState = STATE_M_RX_IDLE then
    let frame := Master.eMBMasterRTUSend usMBCRC16 ucSlaveAddr usLength s.ucRTUSndBuf
    (MB_ENOERR, { s with
      ucRTUSndBuf := frame.1, eSndState := STATE_M_TX_XMIT, usSndBufferCount := frame.2 - 1 })
  else ( MB_EIO, s)

/-- Where a byte is received. -/
def putByte (ucByte : UCHAR) (s : sMBMasterInfo) : sMBMasterInfo :=
  { s with ucRTURcvBuf := store8 s.ucRTURcvBuf s.usRcvBufferPos ucByte, usRcvBufferPos := s.usRcvBufferPos + 1 }

def xMBMasterRTUReceiveFSM (ucByte : UCHAR) (s : sMBMasterInfo) : sMBMasterInfo :=
  match s.eRcvState with
  | STATE_M_RX_INIT => vMBsMasterPortTmrsEnable s
  | STATE_M_RX_ERROR => vMBsMasterPortTmrsEnable s
  | STATE_M_RX_IDLE =>
    let s := vMBsMasterPortTmrsDisable s
    let s := { s with eSndState := STATE_M_TX_IDLE, usRcvBufferPos := 0, eRcvState := STATE_M_RX_RCV }
    vMBsMasterPortTmrsEnable (putByte ucByte s)
  | STATE_M_RX_RCV =>
    vMBsMasterPortTmrsEnable
      (if s.usRcvBufferPos < MB_SER_PDU_SIZE_MAX then putByte ucByte s else { s with eRcvState := STATE_M_RX_ERROR })

def xMBMasterRTUTransmitFSM (s : sMBMasterInfo) : sMBMasterInfo :=
  match s.eSndState with
  | STATE_M_TX_IDLE => s
  | STATE_M_TX_XMIT =>
    if s.usSndBufferCount ≠ 0 then { s with usSndBufferCount := s.usSndBufferCount - 1 }
    else
      let s := { s with
        xFrameIsBroadcast := decide (s.ucRTUSndBuf 0 = MB_ADDRESS_BROADCAST), eSndState := STATE_M_TX_XFWR }
      if s.xFrameIsBroadcast then vMBsMasterPortTmrsConvertDelayEnable s
      else vMBsMasterPortTmrsRespondTimeoutEnable s
  | STATE_M_TX_XFWR => s

/-- The rest of `xMBMasterRTUTimerExpired`, from the assignment of `eRcvState` on, after the events `posted`. -/
def expiredSnd (s : sMBMasterInfo) (posted : List eMBMasterEventType) : sMBMasterInfo × List eMBMasterEventType :=
  let s := { s with eRcvState := STATE_M_RX_IDLE }
  let r := if s.eSndState = STATE_M_TX_XFWR ∧ s.xFrameIsBroadcast = false then
      (vMBMasterSetErrorType .EV_ERROR_RESPOND_TIMEOUT s, posted ++ [EV_MASTER_ERROR_PROCESS])
    else (s, posted)
  let s := vMBsMasterPortTmrsDisable { r.1 with eSndState := STATE_M_TX_IDLE }
  if s.eCurTimerMode = MB_TMODE_CONVERT_DELAY then (s, r.2 ++ [EV_MASTER_EXECUTE]) else (s, r.2)

/-- The state, and the events that are posted, in their order. -/
def xMBMasterRTUTimerExpired (s : sMBMasterInfo) : sMBMasterInfo × List eMBMasterEventType :=
  match s.eRcvState with
  | STATE_M_RX_INIT => expiredSnd s [EV_MASTER_READY]
  | STATE_M_RX_RCV =>
    if s.usRcvBufferPos ≥ MB_SER_PDU_SIZE_MIN then expiredSnd s [EV_MASTER_FRAME_RECEIVED]
    else
      -- a frame that is too short: wait for the answer again
      let s := { s with eRcvState := STATE_M_RX_IDLE, eSndState := STATE_M_TX_XFWR }
      (vMBsMasterPortTmrsRespondTimeoutEnable s, [])
  | STATE_M_RX_ERROR => expiredSnd (vMBMasterSetErrorType .EV_ERROR_RECEIVE_DATA s) [EV_MASTER_ERROR_PROCESS]
  | STATE_M_RX_IDLE => expiredSnd s []

section Expiry

variable (s : sMBMasterInfo) (posted : List eMBMasterEventType)

/-- With the transmitter idle and no broadcast waited for, nothing more is posted. -/
theorem expiredSnd_idle (hsnd : s.eSndState = STATE_M_TX_IDLE) (hmode : s.eCurTimerMode = MB_TMODE_T35) :
    expiredSnd s posted = ({ s with eRcvState := STATE_M_RX_IDLE, running := none }, posted) := by
  simp [expiredSnd, vMBsMasterPortTmrsDisable, hsnd, hmode]

theorem mem_expiredSnd {e : eMBMasterEventType} (h : e ∈ (expiredSnd s posted).2) :
    e ∈ posted ∨ e = EV_MASTER_ERROR_PROCESS ∨ e = EV_MASTER_EXECUTE := by
  unfold expiredSnd at h
  dsimp only at h
  split_ifs at h <;> simp at h <;> tauto

theorem expiredSnd_receiver : (expiredSnd s posted).1.eRcvState = STATE_M_RX_IDLE ∧
    (expiredSnd s posted).1.usRcvBufferPos = s.usRcvBufferPos ∧
      (expiredSnd s posted).1.ucRTURcvBuf = s.ucRTURcvBuf := by
  unfold expiredSnd
  dsimp only
  split_ifs <;> exact ⟨rfl, rfl, rfl⟩

theorem expired_receiver : (xMBMasterRTUTimerExpired s).1.eRcvState = STATE_M_RX_IDLE ∧
    (xMBMasterRTUTimerExpired s).1.usRcvBufferPos = s.usRcvBufferPos ∧
      (xMBMasterRTUTimerExpired s).1.ucRTURcvBuf = s.ucRTURcvBuf := by
  cases hrcv : s.eRcvState with
  | STATE_M_RX_IDLE =>
    simp only [xMBMasterRTUTimerExpired, hrcv]
    exact expiredSnd_receiver s _
  | STATE_M_RX_INIT =>
    simp only [xMBMasterRTUTimerExpired, hrcv]
    exact expiredSnd_receiver s _
  | STATE_M_RX_RCV =>
    simp only [xMBMasterRTUTimerExpired, hrcv]
    split
    · exact expiredSnd_receiver s _
    · exact ⟨rfl, rfl, rfl⟩
  | STATE_M_RX_ERROR =>
    simp only [xMBMasterRTUTimerExpired, hrcv]
    exact expiredSnd_receiver _ _

theorem receive_timer (ucByte : UCHAR) : (xMBMasterRTUReceiveFSM ucByte s).eCurTimerMode = MB_TMODE_T35 ∧
    (xMBMasterRTUReceiveFSM ucByte s).running = some MB_TMODE_T35 := by
  cases hrcv : s.eRcvState <;> simp only [xMBMasterRTUReceiveFSM, hrcv] <;> exact ⟨rfl, rfl⟩

theorem receive_snd (ucByte : UCHAR) (h : s.eRcvState ≠ STATE_M_RX_IDLE) :
    (xMBMasterRTUReceiveFSM ucByte s).eSndState = s.eSndState := by
  cases hrcv : s.eRcvState with
  | STATE_M_RX_IDLE => exact absurd hrcv h
  | STATE_M_RX_INIT | STATE_M_RX_ERROR =>
    simp only [xMBMasterRTUReceiveFSM, hrcv]
    rfl
  | STATE_M_RX_RCV =>
    simp only [xMBMasterRTUReceiveFSM, hrcv]
    split <;> rfl

/-- A request changes nothing of the receiver, and the transmitter only where the receiver is idle. -/
theorem send_receiver (ucSlaveAddr : UCHAR) (usLength : ℕ) : ∃ buf count snd,
    (eMBMasterRTUSend ucSlaveAddr usLength s).2 =
      { s with ucRTUSndBuf := buf, usSndBufferCount := count, eSndState := snd } ∧
        (s.eRcvState ≠ STATE_M_RX_IDLE → snd = s.eSndState) := by
  unfold eMBMasterRTUSend
  split
  · exact ⟨s.ucRTUSndBuf, s.usSndBufferCount, s.eSndState, rfl, fun _ => rfl⟩
  · split
    case isTrue hidle => exact ⟨_, _, _, rfl, fun hne => absurd hidle hne⟩
    case isFalse => exact ⟨s.ucRTUSndBuf, s.usSndBufferCount, s.eSndState, rfl, fun _ => rfl⟩

/-- Nor does an interrupt of the transmitter change anything of the receiver; an idle transmitter does nothing. -/
theorem transmit_receiver : (xMBMasterRTUTransmitFSM s).eRcvState = s.eRcvState ∧
    (xMBMasterRTUTransmitFSM s).usRcvBufferPos = s.usRcvBufferPos ∧
      (xMBMasterRTUTransmitFSM s).ucRTURcvBuf = s.ucRTURcvBuf ∧
        (s.eSndState = STATE_M_TX_IDLE → xMBMasterRTUTransmitFSM s = s) := by
  unfold xMBMasterRTUTransmitFSM
  cases hsnd : s.eSndState with
  | STATE_M_TX_IDLE => exact ⟨rfl, rfl, rfl, fun _ => rfl⟩
  | STATE_M_TX_XFWR => exact ⟨rfl, rfl, rfl, fun _ => rfl⟩
  | STATE_M_TX_XMIT =>
    dsimp only
    split_ifs <;> exact ⟨rfl, rfl, rfl, by simp⟩

end Expiry

/-! ### What the state says about the bytes received -/

/-- A byte comes in, a timer expires, the poll task sends the request that stands in `ucRTUSndBuf`, or the transmitter
is ready for the next byte. -/
inductive RtuEvent
  | byte (ucByte : UCHAR)
  | expired
  | send (ucSlaveAddr : UCHAR) (usLength : ℕ) (ucRTUSndBuf : Mem)
  | transmitted

/-- The master, with the bytes received since the receiver last left `STATE_M_RX_IDLE` and those received since a timer
last expired. -/
structure Watched where
  info : sMBMasterInfo
  sinceIdle : List UCHAR
  burst : List UCHAR

def rtuStep (w : Watched) : RtuEvent → Option Watched
  | .byte ucByte => some
    { info := xMBMasterRTUReceiveFSM ucByte w.info
      sinceIdle := if w.info.eRcvState = STATE_M_RX_IDLE then [ucByte] else w.sinceIdle ++ [ucByte]
      burst := w.burst ++ [ucByte] }
  | .expired => some { w with info := (xMBMasterRTUTimerExpired w.info).1, burst := [] }
  | .send ucSlaveAddr usLength ucRTUSndBuf => some
    { w with info := (eMBMasterRTUSend ucSlaveAddr usLength { w.info with ucRTUSndBuf }).2 }
  | .transmitted => some { w with info := xMBMasterRTUTransmitFSM w.info }

/-- The receiver is in a burst: the transmitter is idle and the timer of the frame is running. -/
structure InBurst (w : Watched) : Prop where
  sinceIdle : w.sinceIdle = w.burst
  snd : w.info.eSndState = STATE_M_TX_IDLE
  mode : w.info.eCurTimerMode = MB_TMODE_T35
  running : w.info.running = some MB_TMODE_T35

/-- **What the state of the receiver says.** -/
def Sound (w : Watched) : Prop :=
  match w.info.eRcvState with
  | STATE_M_RX_IDLE => w.burst = []
  | STATE_M_RX_INIT => False
  | STATE_M_RX_RCV => InBurst w ∧ w.burst ≠ [] ∧ w.info.usRcvBufferPos = w.burst.length ∧
    Holds w.info.ucRTURcvBuf 0 w.burst
  | STATE_M_RX_ERROR => InBurst w ∧ MB_SER_PDU_SIZE_MAX < w.burst.length

/-- The position is in the buffer or at its end, and no byte behind the buffer has changed. -/
structure WithinBuffer (ucRTURcvBuf : Mem) (w : Watched) : Prop where
  pos : w.info.usRcvBufferPos ≤ MB_SER_PDU_SIZE_MAX
  beyond : ∀ q, MB_SER_PDU_SIZE_MAX ≤ q → w.info.ucRTURcvBuf q = ucRTURcvBuf q

section Steps

variable {w w' : Watched} {m : Mem}

theorem WithinBuffer.congr (h : WithinBuffer m w) (hpos : w'.info.usRcvBufferPos = w.info.usRcvBufferPos)
    (hbuf : w'.info.ucRTURcvBuf = w.info.ucRTURcvBuf) : WithinBuffer m w' :=
  ⟨hpos ▸ h.pos, hbuf ▸ h.beyond⟩

theorem WithinBuffer.put {b : UCHAR} {p : ℕ} (h : WithinBuffer m w) (hp : p < MB_SER_PDU_SIZE_MAX)
    (hpos : w'.info.usRcvBufferPos = p + 1) (hbuf : w'.info.ucRTURcvBuf = store8 w.info.ucRTURcvBuf p b) :
    WithinBuffer m w' := by
  constructor
  · omega
  · intro q hq
    rw [hbuf, store8_ne _ _ _ _ (by omega)]
    exact h.beyond q hq

/-- **Every event keeps to the buffer.** -/
theorem WithinBuffer.step {e : RtuEvent} (h : WithinBuffer m w) (hs : rtuStep w e = some w') : WithinBuffer m w' := by
  cases e with
  | byte ucByte =>
    obtain rfl := Option.some.inj hs
    cases hrcv : w.info.eRcvState with
    | STATE_M_RX_IDLE =>
      refine h.put (p := 0) (b := ucByte) (by decide) ?_ ?_ <;>
        simp only [xMBMasterRTUReceiveFSM, hrcv] <;> rfl
    | STATE_M_RX_INIT => apply h.congr <;> simp only [xMBMasterRTUReceiveFSM, hrcv] <;> rfl
    | STATE_M_RX_ERROR => apply h.congr <;> simp only [xMBMasterRTUReceiveFSM, hrcv] <;> rfl
    | STATE_M_RX_RCV =>
      by_cases hp : w.info.usRcvBufferPos < MB_SER_PDU_SIZE_MAX
      · refine h.put (b := ucByte) hp ?_ ?_ <;> simp only [xMBMasterRTUReceiveFSM, hrcv, if_pos hp] <;> rfl
      · apply h.congr <;> simp only [xMBMasterRTUReceiveFSM, hrcv, if_neg hp] <;> rfl
  | expired =>
    obtain rfl := Option.some.inj hs
    obtain ⟨-, hpos, hbuf⟩ := expired_receiver w.info
    exact h.congr hpos hbuf
  | send ucSlaveAddr usLength ucRTUSndBuf =>
    obtain rfl := Option.some.inj hs
    obtain ⟨_, _, _, hsend, -⟩ := send_receiver { w.info with ucRTUSndBuf } ucSlaveAddr usLength
    apply h.congr <;> dsimp only <;> rw [hsend]
  | transmitted =>
    obtain rfl := Option.some.inj hs
    obtain ⟨-, hpos, hbuf, -⟩ := transmit_receiver w.info
    exact h.congr hpos hbuf

theorem sound_idle (h : w.info.eRcvState = STATE_M_RX_IDLE) : Sound w ↔ w.burst = [] := by
  simp only [Sound, h]

theorem sound_rcv (h : w.info.eRcvState = STATE_M_RX_RCV) : Sound w ↔
    InBurst w ∧ w.burst ≠ [] ∧ w.info.usRcvBufferPos = w.burst.length ∧ Holds w.info.ucRTURcvBuf 0 w.burst := by
  simp only [Sound, h]

theorem sound_error (h : w.info.eRcvState = STATE_M_RX_ERROR) :
    Sound w ↔ InBurst w ∧ MB_SER_PDU_SIZE_MAX < w.burst.length := by
  simp only [Sound, h]

theorem Sound.started (h : Sound w) : w.info.eRcvState ≠ STATE_M_RX_INIT := by
  intro hrcv
  simp only [Sound, hrcv] at h

theorem Sound.congr (h : Sound w) (hbytes : w'.burst = w.burst) (hrcv : w'.info.eRcvState = w.info.eRcvState)
    (hpos : w'.info.usRcvBufferPos = w.info.usRcvBufferPos) (hbuf : w'.info.ucRTURcvBuf = w.info.ucRTURcvBuf)
    (hburst : w.info.eRcvState ≠ STATE_M_RX_IDLE → InBurst w → InBurst w') : Sound w' := by
  cases hstate : w.info.eRcvState with
  | STATE_M_RX_IDLE => rwa [sound_idle (hrcv.trans hstate), hbytes, ← sound_idle hstate]
  | STATE_M_RX_INIT => exact absurd hstate h.started
  | STATE_M_RX_RCV =>
    obtain ⟨hin, hrest⟩ := (sound_rcv hstate).mp h
    rw [sound_rcv (hrcv.trans hstate), hbytes, hpos, hbuf]
    exact ⟨hburst (by simp [hstate]) hin, hrest⟩
  | STATE_M_RX_ERROR =>
    obtain ⟨hin, hlong⟩ := (sound_error hstate).mp h
    rw [sound_error (hrcv.trans hstate), hbytes]
    exact ⟨hburst (by simp [hstate]) hin, hlong⟩

theorem InBurst.byte {ucByte : UCHAR} (h : InBurst w) (hrcv : w.info.eRcvState ≠ STATE_M_RX_IDLE)
    (hs : rtuStep w (.byte ucByte) = some w') : InBurst w' := by
  obtain rfl := Option.some.inj hs
  obtain ⟨hmode, hrunning⟩ := receive_timer w.info ucByte
  refine ⟨?_, (receive_snd w.info ucByte hrcv).trans h.snd, hmode, hrunning⟩
  show (if _ then _ else _) = _
  rw [if_neg hrcv, h.sinceIdle]

theorem inBurst_first {ucByte : UCHAR} (hrcv : w.info.eRcvState = STATE_M_RX_IDLE) (hempty : w.burst = [])
    (hs : rtuStep w (.byte ucByte) = some w') : InBurst w' := by
  obtain rfl := Option.some.inj hs
  obtain ⟨hmode, hrunning⟩ := receive_timer w.info ucByte
  refine ⟨?_, ?_, hmode, hrunning⟩
  · simp [hrcv, hempty]
  · simp only [xMBMasterRTUReceiveFSM, hrcv]
    rfl

theorem Sound.byte {ucByte : UCHAR} (h : Sound w) (hs : rtuStep w (.byte ucByte) = some w') : Sound w' := by
  have hinfo : w'.info = xMBMasterRTUReceiveFSM ucByte w.info := by rw [← Option.some.inj hs]
  have hbytes : w'.burst = w.burst ++ [ucByte] := by rw [← Option.some.inj hs]
  have hlen : w'.burst.length = w.burst.length + 1 := by rw [hbytes, List.length_append, List.length_singleton]
  cases hrcv : w.info.eRcvState with
  | STATE_M_RX_IDLE =>
    have hempty : w.burst = [] := (sound_idle hrcv).mp h
    have hin := inBurst_first hrcv hempty hs
    simp only [xMBMasterRTUReceiveFSM, hrcv] at hinfo
    rw [sound_rcv (by rw [hinfo]; rfl), hbytes, hempty, hinfo]
    refine ⟨hin, List.cons_ne_nil _ _, rfl, ?_⟩
    exact (holds_nil (m := w.info.ucRTURcvBuf)).snoc ucByte
  | STATE_M_RX_INIT => exact absurd hrcv h.started
  | STATE_M_RX_RCV =>
    obtain ⟨hburst, -, hpos, hbuf⟩ := (sound_rcv hrcv).mp h
    have hin := hburst.byte (by simp [hrcv]) hs
    simp only [xMBMasterRTUReceiveFSM, hrcv] at hinfo
    -- there is room, or the frame is too long
    by_cases hp : w.info.usRcvBufferPos < MB_SER_PDU_SIZE_MAX
    · rw [if_pos hp] at hinfo
      rw [sound_rcv (by rw [hinfo]; exact hrcv)]
      refine ⟨hin, ?_, ?_, ?_⟩
      · simp [hbytes]
      · rw [hlen, ← hpos, hinfo]
        rfl
      · have hput := hbuf.snoc ucByte
        rw [Nat.zero_add, ← hpos] at hput
        rw [hbytes, hinfo]
        exact hput
    · rw [if_neg hp] at hinfo
      rw [sound_error (by rw [hinfo]; rfl)]
      exact ⟨hin, by omega⟩
  | STATE_M_RX_ERROR =>
    obtain ⟨hburst, hlong⟩ := (sound_error hrcv).mp h
    have hin := hburst.byte (by simp [hrcv]) hs
    simp only [xMBMasterRTUReceiveFSM, hrcv] at hinfo
    rw [sound_error (by rw [hinfo]; exact hrcv)]
    exact ⟨hin, by omega⟩

/-- **Every event keeps what the state says.** -/
theorem Sound.step {e : RtuEvent} (h : Sound w) (hs : rtuStep w e = some w') : Sound w' := by
  cases e with
  | byte ucByte => exact h.byte hs
  | expired =>
    obtain rfl := Option.some.inj hs
    exact (sound_idle (expired_receiver w.info).1).mpr rfl
  | send ucSlaveAddr usLength ucRTUSndBuf =>
    obtain ⟨buf, count, snd, hsend, hsnd⟩ := send_receiver { w.info with ucRTUSndBuf } ucSlaveAddr usLength
    have hinfo : w'.info = { w.info with ucRTUSndBuf := buf, usSndBufferCount := count, eSndState := snd } := by
      rw [← Option.some.inj hs]
      exact hsend
    have hlists : w'.sinceIdle = w.sinceIdle ∧ w'.burst = w.burst := by
      rw [← Option.some.inj hs]
      exact ⟨rfl, rfl⟩
    apply h.congr hlists.2
    · rw [hinfo]
    · rw [hinfo]
    · rw [hinfo]
    · intro hne hburst
      have hidle : w'.info.eSndState = STATE_M_TX_IDLE := by
        rw [hinfo]
        exact (hsnd hne).trans hburst.snd
      have hmode : w'.info.eCurTimerMode = w.info.eCurTimerMode := by rw [hinfo]
      have hrunning : w'.info.running = w.info.running := by rw [hinfo]
      have hsince : w'.sinceIdle = w'.burst := by rw [hlists.1, hlists.2, hburst.sinceIdle]
      exact ⟨hsince, hidle, hmode.trans hburst.mode, hrunning.trans hburst.running⟩
  | transmitted =>
    obtain rfl := Option.some.inj hs
    obtain ⟨hrcv, hpos, hbuf, hidle⟩ := transmit_receiver w.info
    refine h.congr rfl hrcv hpos hbuf ?_
    intro _ hburst
    rw [hidle hburst.snd]
    exact hburst

/-! ### What an expiry posts -/

theorem expired_frame (hrcv : w.info.eRcvState = STATE_M_RX_RCV) (hburst : InBurst w)
    (hmin : MB_SER_PDU_SIZE_MIN ≤ w.info.usRcvBufferPos) : xMBMasterRTUTimerExpired w.info =
      ({ w.info with eRcvState := STATE_M_RX_IDLE, running := none }, [EV_MASTER_FRAME_RECEIVED]) := by
  simp only [xMBMasterRTUTimerExpired, hrcv]
  rw [if_pos hmin, expiredSnd_idle _ _ hburst.snd hburst.mode]

theorem expired_short (hrcv : w.info.eRcvState = STATE_M_RX_RCV)
    (hmin : ¬MB_SER_PDU_SIZE_MIN ≤ w.info.usRcvBufferPos) : (xMBMasterRTUTimerExpired w.info).2 = [] := by
  simp only [xMBMasterRTUTimerExpired, hrcv]
  rw [if_neg hmin]

theorem expired_error (hrcv : w.info.eRcvState = STATE_M_RX_ERROR) (hburst : InBurst w) :
    xMBMasterRTUTimerExpired w.info =
      ({ w.info with
          eRcvState := STATE_M_RX_IDLE, running := none, eCurErrorType := .EV_ERROR_RECEIVE_DATA },
        [EV_MASTER_ERROR_PROCESS]) := by
  simp only [xMBMasterRTUTimerExpired, hrcv]
  exact expiredSnd_idle _ _ hburst.snd hburst.mode

theorem expired_idle (hrcv : w.info.eRcvState = STATE_M_RX_IDLE) :
    EV_MASTER_FRAME_RECEIVED ∉ (xMBMasterRTUTimerExpired w.info).2 := by
  simp only [xMBMasterRTUTimerExpired, hrcv]
  intro h
  simpa using mem_expiredSnd _ _ h

/-- **When a frame is reported**: after four bytes at least and as many as the buffer holds at most, and then nothing
else is. -/
theorem Sound.frame (h : Sound w) (hpos : w.info.usRcvBufferPos ≤ MB_SER_PDU_SIZE_MAX) :
    EV_MASTER_FRAME_RECEIVED ∈ (xMBMasterRTUTimerExpired w.info).2 ↔
      MB_SER_PDU_SIZE_MIN ≤ w.burst.length ∧ w.burst.length ≤ MB_SER_PDU_SIZE_MAX := by
  cases hrcv : w.info.eRcvState with
  | STATE_M_RX_IDLE =>
    rw [(sound_idle hrcv).mp h]
    simp [expired_idle hrcv]
  | STATE_M_RX_INIT => exact absurd hrcv h.started
  | STATE_M_RX_RCV =>
    obtain ⟨hburst, -, hlen, -⟩ := (sound_rcv hrcv).mp h
    by_cases hmin : MB_SER_PDU_SIZE_MIN ≤ w.info.usRcvBufferPos
    · rw [expired_frame hrcv hburst hmin, ← hlen]
      simp [hmin, hpos]
    · rw [expired_short hrcv hmin, ← hlen]
      simp [hmin]
  | STATE_M_RX_ERROR =>
    obtain ⟨hburst, hlong⟩ := (sound_error hrcv).mp h
    rw [expired_error hrcv hburst]
    simp only [List.mem_singleton, reduceCtorEq, false_iff]
    omega

/-- A frame is reported alone, and it is what the receiver took in. -/
theorem Sound.reported (h : Sound w) (hpos : w.info.usRcvBufferPos ≤ MB_SER_PDU_SIZE_MAX)
    (hframe : EV_MASTER_FRAME_RECEIVED ∈ (xMBMasterRTUTimerExpired w.info).2) :
    (xMBMasterRTUTimerExpired w.info).2 = [EV_MASTER_FRAME_RECEIVED] ∧ w.sinceIdle = w.burst ∧
      w.info.usRcvBufferPos = w.burst.length ∧ Holds w.info.ucRTURcvBuf 0 w.burst := by
  obtain ⟨hmin, hmax⟩ := (h.frame hpos).mp hframe
  cases hrcv : w.info.eRcvState with
  | STATE_M_RX_IDLE => exact absurd hframe (expired_idle hrcv)
  | STATE_M_RX_INIT => exact absurd hrcv h.started
  | STATE_M_RX_RCV =>
    obtain ⟨hburst, -, hlen, hbuf⟩ := (sound_rcv hrcv).mp h
    rw [expired_frame hrcv hburst (by omega)]
    exact ⟨rfl, hburst.sinceIdle, hlen, hbuf⟩
  | STATE_M_RX_ERROR =>
    obtain ⟨-, hlong⟩ := (sound_error hrcv).mp h
    omega

/-- A burst that is longer than the buffer is reported as an error. -/
theorem Sound.tooLong (h : Sound w) (hpos : w.info.usRcvBufferPos ≤ MB_SER_PDU_SIZE_MAX)
    (hlong : MB_SER_PDU_SIZE_MAX < w.burst.length) :
    (xMBMasterRTUTimerExpired w.info).2 = [EV_MASTER_ERROR_PROCESS] ∧
      (xMBMasterRTUTimerExpired w.info).1.eCurErrorType = .EV_ERROR_RECEIVE_DATA := by
  cases hrcv : w.info.eRcvState with
  | STATE_M_RX_IDLE => simp [(sound_idle hrcv).mp h] at hlong
  | STATE_M_RX_INIT => exact absurd hrcv h.started
  | STATE_M_RX_RCV =>
    obtain ⟨-, -, hlen, -⟩ := (sound_rcv hrcv).mp h
    omega
  | STATE_M_RX_ERROR =>
    rw [expired_error hrcv ((sound_error hrcv).mp h).1]
    exact ⟨rfl, rfl⟩

/-- **What is read is what was received**: `eMBMasterRTUReceive` after a frame is reported. -/
theorem expired_receive (h : Sound w) (hpos : w.info.usRcvBufferPos ≤ MB_SER_PDU_SIZE_MAX)
    (hframe : EV_MASTER_FRAME_RECEIVED ∈ (xMBMasterRTUTimerExpired w.info).2)
    (hs : rtuStep w .expired = some w') :
    eMBMasterRTUReceive w'.info.ucRTURcvBuf w'.info.usRcvBufferPos =
      if usMBCRC16 w.sinceIdle = 0 then some (w.sinceIdle.getD 0 0, 1, w.sinceIdle.length - 3) else none := by
  obtain rfl := Option.some.inj hs
  obtain ⟨-, hsince, hlen, hbuf⟩ := h.reported hpos hframe
  obtain ⟨-, hpos', hbuf'⟩ := expired_receiver w.info
  have hmin : MB_SER_PDU_SIZE_MIN ≤ w.burst.length := ((h.frame hpos).mp hframe).1
  have hpositive : 0 < w.burst.length := Nat.lt_of_lt_of_le (by decide) hmin
  have hfirst : w.info.ucRTURcvBuf 0 = w.burst.getD 0 0 := by
    rw [List.getD_eq_getElem _ _ hpositive, ← hbuf 0 hpositive]
  dsimp only
  rw [hpos', hbuf', hsince, hlen, eMBMasterRTUReceive, hbuf.map_range, hfirst]
  by_cases hcrc : usMBCRC16 w.burst = 0
  · rw [if_pos ⟨hmin, hcrc⟩, if_pos hcrc, Nat.sub_sub]
  · rw [if_neg fun hc => hcrc hc.2, if_neg hcrc]

end Steps

/-! ### Every run -/

def errorEvents : List eMBMasterEventType :=
  [EV_MASTER_ERROR_PROCESS, EV_MASTER_ERROR_RESPOND_TIMEOUT, EV_MASTER_ERROR_RECEIVE_DATA,
    EV_MASTER_ERROR_EXECUTE_FUNCTION]

/-- An expiry of a timer in the state `w` that posts the events and leads to the state `s`: a frame is reported when the
buffer holds the bytes received since the receiver was idle; a burst longer than the buffer is an error and not a
frame; a frame and an error are not reported together. -/
structure ExpiryRight (w : Watched) (posted : List eMBMasterEventType) (s : sMBMasterInfo) : Prop where
  frame : EV_MASTER_FRAME_RECEIVED ∈ posted →
    MB_SER_PDU_SIZE_MIN ≤ w.sinceIdle.length ∧ w.sinceIdle.length ≤ MB_SER_PDU_SIZE_MAX ∧
      w.info.usRcvBufferPos = w.sinceIdle.length ∧ Holds w.info.ucRTURcvBuf 0 w.sinceIdle
  long : MB_SER_PDU_SIZE_MAX < w.burst.length → EV_MASTER_ERROR_PROCESS ∈ posted ∧
    s.eCurErrorType = .EV_ERROR_RECEIVE_DATA ∧ EV_MASTER_FRAME_RECEIVED ∉ posted
  single : EV_MASTER_FRAME_RECEIVED ∈ posted → ∀ e ∈ posted, e ∉ errorEvents

/-- What is asked of an event. -/
def RtuRight (w : Watched) : RtuEvent → Prop
  | .expired => ExpiryRight w (xMBMasterRTUTimerExpired w.info).2 (xMBMasterRTUTimerExpired w.info).1
  | _ => True

/-- **Every event is right** where the state says what it should. -/
theorem Sound.right {w : Watched} (h : Sound w) (hpos : w.info.usRcvBufferPos ≤ MB_SER_PDU_SIZE_MAX) (e : RtuEvent) :
    RtuRight w e := by
  cases e with
  | byte _ | send _ _ _ | transmitted => trivial
  | expired =>
    constructor
    · intro hframe
      obtain ⟨hmin, hmax⟩ := (h.frame hpos).mp hframe
      obtain ⟨-, hsince, hlen, hbuf⟩ := h.reported hpos hframe
      rw [hsince]
      exact ⟨hmin, hmax, hlen, hbuf⟩
    · intro hlong
      obtain ⟨hposted, herror⟩ := h.tooLong hpos hlong
      rw [hposted]
      exact ⟨List.mem_singleton_self _, herror, by decide⟩
    · intro hframe
      rw [(h.reported hpos hframe).1]
      decide

/-- The master as `vMBMasterRTUStart` leaves it. -/
def started (s : sMBMasterInfo) : Watched := ⟨vMBMasterRTUStart s, [], []⟩

/-- **The receiver along every run**: from the start on, with any bytes, expiries, requests and interrupts of the
transmitter, no byte is stored behind the buffer and every expiry is right. -/
theorem receiver_right {s : sMBMasterInfo} (hpos : s.usRcvBufferPos ≤ MB_SER_PDU_SIZE_MAX) (es : List RtuEvent) :
    Stays rtuStep (WithinBuffer s.ucRTURcvBuf) (started s) es ∧ Meets rtuStep RtuRight (started s) es := by
  let Inv (w : Watched) : Prop := Sound w ∧ WithinBuffer s.ucRTURcvBuf w
  have hstart : Inv (started s) := ⟨(sound_idle rfl).mpr rfl, hpos, fun _ _ => rfl⟩
  have hstep (w : Watched) (e : RtuEvent) (h : Inv w) : RtuRight w e ∧ ∃ w', rtuStep w e = some w' ∧ Inv w' := by
    obtain ⟨w', hs⟩ : ∃ w', rtuStep w e = some w' := by
      cases e <;> exact ⟨_, rfl⟩
    exact ⟨h.1.right h.2.pos e, w', hs, h.1.step hs, h.2.step hs⟩
  exact stays_meets (I := Inv) hstep (fun _ h => h.2) hstart

/-- A master that has not received anything; its buffers and its range of addresses are given. -/
def untouched (ucRTURcvBuf ucRTUSndBuf : Mem) (ucSlaveDevMinAddr ucSlaveDevMaxAddr : UCHAR) : sMBMasterInfo where
  eRcvState := STATE_M_RX_IDLE
  eSndState := STATE_M_TX_IDLE
  usRcvBufferPos := 0
  ucRTURcvBuf := ucRTURcvBuf
  ucRTUSndBuf := ucRTUSndBuf
  usSndBufferCount := 0
  xFrameIsBroadcast := false
  eCurErrorType := .EV_ERROR_RESPOND_TIMEOUT
  eCurTimerMode := MB_TMODE_T35
  running := none
  ucSlaveDevMinAddr := ucSlaveDevMinAddr
  ucSlaveDevMaxAddr := ucSlaveDevMaxAddr

/-- A request of one byte to the device 5, its interrupts, and an answer. -/
def answered : List RtuEvent :=
  [.send 5 1 fun _ => 7, .transmitted, .transmitted, .transmitted, .transmitted, .byte 5, .byte 7, .byte 9, .expired,
    .byte 5, .byte 7, .byte 0xC3, .byte 0x42, .expired]

theorem receiver_right_answered :
    let s := untouched (fun _ => 0xFF) (fun _ => 0) 1 247
    s.usRcvBufferPos ≤ MB_SER_PDU_SIZE_MAX ∧ Stays rtuStep (WithinBuffer s.ucRTURcvBuf) (started s) answered ∧
      Meets rtuStep RtuRight (started s) answered :=
  ⟨by decide, receiver_right (by decide) answered⟩

/-- The three bytes are too short for a frame, and the four after them are one. -/
example : (run rtuStep (started (untouched (fun _ => 0xFF) (fun _ => 0) 1 247)) answered.dropLast).map (fun w =>
    (w.sinceIdle, (xMBMasterRTUTimerExpired w.info).2)) = some ([5, 7, 0xC3, 0x42], [EV_MASTER_FRAME_RECEIVED]) := by
  decide

end GreeIntense.Master.Rtu

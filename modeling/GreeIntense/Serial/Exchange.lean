import GreeIntense.Serial.Line

/-!
# One request and its answer over a serial line

The master has sent a request, and the events of the line come in any order.

* `Carries`: what the two ends look like at each stage of the exchange; `carries_step`: every event of the line is one
  of the exchange, and the other way round;
* `rank_step`, `stopped`: every event but an assignment brings the exchange closer to its end, and where it can stop;
* `exchange_right`: the master reports one frame at most, which is the answer that the slave has made of the request in
  this run; every run that cannot go on has come to it, unless the request runs into an unmapped address.
-/

namespace GreeIntense.Serial

open Lib.Memory Lib.Wire Lib.Run Lib.Refine Master Slave eMBErrorCode eMBMasterEventType
  Slave.eMBSlaveEventType Master.Rtu.eMBMasterRcvState Master.Rtu.eMBMasterSndState Master.Rtu.eMBMasterTimerMode
  Slave.Rtu.eMBSlaveRcvState Slave.Rtu.eMBSlaveSndState
open Slave.Rtu (rtuFrame rtuFrame_length rtuFrame_crc)

abbrev SerialSlave := Slave.Rtu.sMBSlaveInfo

/-! ### The two ends -/

/-- The master sends a frame: `put` bytes of it are out, and `sent` says that its transmitter is done. -/
structure Sends (frame : List UCHAR) (put : ℕ) (sent : Bool) (m : SerialMaster) : Prop where
  pos : 1 ≤ put
  le : put ≤ frame.length
  all : sent = true → put = frame.length
  buf : Holds m.info.ucRTUSndBuf 0 frame
  cur : m.pucSndBufferCur = put
  count : m.info.usSndBufferCount = frame.length - put
  rcv : m.info.eRcvState = STATE_M_RX_IDLE
  snd : m.info.eSndState = if sent then STATE_M_TX_XFWR else STATE_M_TX_XMIT
  running : m.info.running ≠ some MB_TMODE_T35
  rx : m.xRxEnable = sent
  tx : m.xTxEnable = !sent

/-- The master has heard `got` bytes of the answer; `heard` says that it has reported the frame. -/
structure Hears (frame : List UCHAR) (got : ℕ) (heard : Bool) (m : SerialMaster) : Prop where
  rx : m.xRxEnable = true
  tx : m.xTxEnable = false
  line : m.line = []
  receiver : if heard then
      got = frame.length ∧ m.info.running = none ∧ m.info.eRcvState = STATE_M_RX_IDLE ∧
        m.info.usRcvBufferPos = got ∧ Holds m.info.ucRTURcvBuf 0 (frame.take got)
    else if got = 0 then m.info.eRcvState = STATE_M_RX_IDLE ∧ m.info.running ≠ some MB_TMODE_T35
    else m.info.eRcvState = STATE_M_RX_RCV ∧ m.info.eSndState = STATE_M_TX_IDLE ∧
      m.info.eCurTimerMode = MB_TMODE_T35 ∧ m.info.running = some MB_TMODE_T35 ∧
        m.info.usRcvBufferPos = got ∧ Holds m.info.ucRTURcvBuf 0 (frame.take got)

/-- The slave does not send, and nothing of it is on the line. -/
structure Silent (s : SerialSlave) : Prop where
  tx : s.xTxEnable = false
  snd : s.eSndState = STATE_TX_IDLE
  line : s.line = []

structure Listens (s : SerialSlave) : Prop extends Silent s where
  queued : s.eQueuedEvent = none
  rx : s.xRxEnable = true

/-- The slave has received `got` bytes. -/
structure Receives (frame : List UCHAR) (got : ℕ) (s : SerialSlave) : Prop extends Listens s where
  receiver : if got = 0 then s.eRcvState = STATE_RX_IDLE
    else s.eRcvState = STATE_RX_RCV ∧ s.timer = true ∧ s.usRcvBufferPos = got ∧
      Holds s.store.ucRcvBuf 0 (frame.take got)

/-- A frame is in hand. -/
structure Waits (s : SerialSlave) : Prop extends Silent s where
  rcv : s.eRcvState = STATE_RX_IDLE
  timer : s.timer = false

/-- The slave sends a frame. -/
structure Answers (frame : List UCHAR) (put : ℕ) (sender : Sender) (s : SerialSlave) : Prop where
  pos : 1 ≤ put
  le : put ≤ frame.length
  all : sender ≠ .sending → put = frame.length
  rcv : s.eRcvState = STATE_RX_IDLE
  timer : s.timer = false
  sender : match sender with
    | .sending => Holds s.store.ucRcvBuf 0 frame ∧ s.pucSndBufferCur = put ∧ s.usSndBufferCount = frame.length - put ∧
      s.eSndState = STATE_TX_XMIT ∧ s.xTxEnable = true ∧ s.eQueuedEvent = none
    | .sent tx queued => s.eSndState = STATE_TX_IDLE ∧ s.xTxEnable = tx ∧
      s.eQueuedEvent = (if queued then some EV_FRAME_SENT else none) ∧ (tx = false → s.xRxEnable = true)

section Ends

variable {frame : List UCHAR} {put got : ℕ} {m : SerialMaster} {s : SerialSlave}

theorem Sends.ready (h : Sends frame put false m) (hp : put < frame.length) :
    Sends frame (put + 1) false (xMBMasterRTUTransmitFSM m) ∧
      (xMBMasterRTUTransmitFSM m).line = m.line ++ [frame[put]] := by
  have hsnd : m.info.eSndState = STATE_M_TX_XMIT := h.snd
  have hcount : m.info.usSndBufferCount ≠ 0 := by
    rw [h.count]
    omega
  have hbyte : m.info.ucRTUSndBuf put = frame[put] := by simpa using h.buf put hp
  have hinfo : Master.Rtu.xMBMasterRTUTransmitFSM m.info =
      { m.info with usSndBufferCount := m.info.usSndBufferCount - 1 } := by
    simp only [Master.Rtu.xMBMasterRTUTransmitFSM, hsnd, if_pos hcount]
  have hfsm : xMBMasterRTUTransmitFSM m = { m with
      info := { m.info with usSndBufferCount := m.info.usSndBufferCount - 1 }
      line := m.line ++ [frame[put]], pucSndBufferCur := put + 1 } := by
    simp only [xMBMasterRTUTransmitFSM, hsnd, if_pos hcount, putByte, hinfo, h.cur, hbyte]
  rw [hfsm]
  refine ⟨⟨by omega, hp, nofun, h.buf, rfl, ?_, h.rcv, hsnd, h.running, h.rx, h.tx⟩, rfl⟩
  show m.info.usSndBufferCount - 1 = _
  rw [h.count]
  omega

/-- After the last byte the transmitter of the master is done, and the answer is waited for. -/
theorem Sends.done (h : Sends frame put false m) (hp : ¬put < frame.length)
    (hne : m.info.ucRTUSndBuf 0 ≠ Master.MB_ADDRESS_BROADCAST) :
    Sends frame put true (xMBMasterRTUTransmitFSM m) ∧ (xMBMasterRTUTransmitFSM m).line = m.line := by
  have hsnd : m.info.eSndState = STATE_M_TX_XMIT := h.snd
  have hle := h.le
  have hcount : ¬m.info.usSndBufferCount ≠ 0 := by
    rw [h.count]
    omega
  have hinfo : Master.Rtu.xMBMasterRTUTransmitFSM m.info = { m.info with
      xFrameIsBroadcast := false, eSndState := STATE_M_TX_XFWR
      eCurTimerMode := MB_TMODE_RESPOND_TIMEOUT, running := some MB_TMODE_RESPOND_TIMEOUT } := by
    simp only [Master.Rtu.xMBMasterRTUTransmitFSM, hsnd, if_neg hcount, decide_eq_false hne]
    rfl
  have hfsm : xMBMasterRTUTransmitFSM m = { m with
      info := { m.info with
        xFrameIsBroadcast := false, eSndState := STATE_M_TX_XFWR
        eCurTimerMode := MB_TMODE_RESPOND_TIMEOUT, running := some MB_TMODE_RESPOND_TIMEOUT }
      xRxEnable := true, xTxEnable := false } := by
    simp only [xMBMasterRTUTransmitFSM, hsnd, if_neg hcount, vMBMasterPortSerialEnable, hinfo]
  rw [hfsm]
  exact ⟨⟨h.pos, h.le, fun _ => by omega, h.buf, h.cur, h.count, h.rcv, rfl, nofun, rfl, rfl⟩, rfl⟩

/-- A master that has sent its request has heard nothing yet. -/
theorem Sends.hears {reply : List UCHAR} (h : Sends frame put true m) (hline : m.line = []) :
    Hears reply 0 false m := by
  refine ⟨h.rx, h.tx, hline, ?_⟩
  rw [if_neg Bool.false_ne_true, if_pos rfl]
  exact ⟨h.rcv, h.running⟩

theorem Receives.byte (h : Receives frame got s) (hg : got < frame.length) (hlen : frame.length ≤ 256) :
    Receives frame (got + 1) (Slave.Rtu.xMBSlaveRTUReceiveFSM frame[got] s) ∧
      (Slave.Rtu.xMBSlaveRTUReceiveFSM frame[got] s).store.vars = s.store.vars := by
  have hrec := h.receiver
  split at hrec
  case isTrue h0 =>
    subst h0
    have hfirst : Holds (store8 s.store.ucRcvBuf 0 frame[0]) 0 (frame.take (0 + 1)) :=
      holds_take_succ (by simp) hg
    have hfsm : Slave.Rtu.xMBSlaveRTUReceiveFSM frame[0] s = { s with
        store := { s.store with ucRcvBuf := store8 s.store.ucRcvBuf 0 frame[0] }
        usRcvBufferPos := 1, eRcvState := STATE_RX_RCV, timer := true } := by
      simp only [Slave.Rtu.xMBSlaveRTUReceiveFSM, hrec, Slave.Rtu.vMBSlavePortTimersEnable, Slave.Rtu.takeByte]
    rw [hfsm]
    refine ⟨⟨⟨⟨h.tx, h.snd, h.line⟩, h.queued, h.rx⟩, ?_⟩, rfl⟩
    rw [if_neg (Nat.succ_ne_zero 0)]
    exact ⟨rfl, rfl, rfl, hfirst⟩
  case isFalse h0 =>
    obtain ⟨hrcv, htimer, hpos, hbuf⟩ := hrec
    have hfits : s.usRcvBufferPos < Slave.Rtu.MB_SER_PDU_SIZE_MAX := by
      show _ < 256
      omega
    have hnext := holds_take_succ hbuf hg
    have hfsm : Slave.Rtu.xMBSlaveRTUReceiveFSM frame[got] s = { s with
        store := { s.store with ucRcvBuf := store8 s.store.ucRcvBuf got frame[got] }
        usRcvBufferPos := got + 1, timer := true } := by
      simp only [Slave.Rtu.xMBSlaveRTUReceiveFSM, hrcv, if_pos hfits, Slave.Rtu.vMBSlavePortTimersEnable,
        Slave.Rtu.takeByte]
      rw [hpos]
    rw [hfsm]
    refine ⟨⟨⟨⟨h.tx, h.snd, h.line⟩, h.queued, h.rx⟩, ?_⟩, rfl⟩
    rw [if_neg (Nat.succ_ne_zero got)]
    exact ⟨hrcv, rfl, rfl, hnext⟩

theorem Hears.byte (h : Hears frame got false m) (hg : got < frame.length) (hlen : frame.length ≤ 256) :
    Hears frame (got + 1) false { m with info := Master.Rtu.xMBMasterRTUReceiveFSM frame[got] m.info } := by
  have hrec := h.receiver
  rw [if_neg Bool.false_ne_true] at hrec
  refine ⟨h.rx, h.tx, h.line, ?_⟩
  rw [if_neg Bool.false_ne_true, if_neg (Nat.succ_ne_zero got)]
  split at hrec
  case isTrue h0 =>
    subst h0
    have hfirst : Holds (store8 m.info.ucRTURcvBuf 0 frame[0]) 0 (frame.take (0 + 1)) :=
      holds_take_succ (by simp) hg
    simp only [Master.Rtu.xMBMasterRTUReceiveFSM, hrec.1]
    exact ⟨rfl, rfl, rfl, rfl, rfl, hfirst⟩
  case isFalse h0 =>
    obtain ⟨hrcv, hsnd, -, -, hpos, hbuf⟩ := hrec
    have hfits : m.info.usRcvBufferPos < Master.Rtu.MB_SER_PDU_SIZE_MAX := by
      show _ < 256
      omega
    have hnext := holds_take_succ hbuf hg
    simp only [Master.Rtu.xMBMasterRTUReceiveFSM, hrcv, if_pos hfits]
    refine ⟨hrcv, hsnd, rfl, rfl, ?_, ?_⟩
    · show m.info.usRcvBufferPos + 1 = _
      rw [hpos]
    · show Holds (store8 m.info.ucRTURcvBuf m.info.usRcvBufferPos _) 0 _
      rwa [hpos]

theorem Hears.expired (h : Hears frame got false m) (hg : got = frame.length) (hmin : 4 ≤ frame.length) :
    Hears frame got true { m with info := (Master.Rtu.xMBMasterRTUTimerExpired m.info).1 } ∧
      (Master.Rtu.xMBMasterRTUTimerExpired m.info).2 = [EV_MASTER_FRAME_RECEIVED] := by
  have hrec := h.receiver
  rw [if_neg Bool.false_ne_true, if_neg (by omega)] at hrec
  obtain ⟨hrcv, hsnd, hmode, -, hpos, hbuf⟩ := hrec
  have hmin4 : m.info.usRcvBufferPos ≥ MB_SER_PDU_SIZE_MIN := by
    show 4 ≤ _
    omega
  have hexp : Master.Rtu.xMBMasterRTUTimerExpired m.info =
      ({ m.info with eRcvState := STATE_M_RX_IDLE, running := none }, [EV_MASTER_FRAME_RECEIVED]) := by
    simp only [Master.Rtu.xMBMasterRTUTimerExpired, hrcv, if_pos hmin4]
    exact Master.Rtu.expiredSnd_idle _ _ hsnd hmode
  rw [hexp]
  refine ⟨⟨h.rx, h.tx, h.line, ?_⟩, rfl⟩
  rw [if_pos rfl]
  exact ⟨hg, rfl, rfl, hpos, hbuf⟩

/-- The timer of the frame runs at the master from the first byte on until the frame is reported. -/
theorem Hears.running_iff {heard : Bool} (h : Hears frame got heard m) :
    m.info.running = some MB_TMODE_T35 ↔ got ≠ 0 ∧ heard = false := by
  have hrec := h.receiver
  split at hrec
  case isTrue ht =>
    rw [hrec.2.1]
    simp [ht]
  case isFalse hf =>
    have hfalse : heard = false := by simpa using hf
    split at hrec
    case isTrue h0 => exact ⟨fun hr => absurd hr hrec.2, fun hc => absurd h0 hc.1⟩
    case isFalse h0 => exact ⟨fun _ => ⟨h0, hfalse⟩, fun _ => hrec.2.2.2.1⟩

theorem Receives.timer (h : Receives frame got s) (hg : got ≠ 0) : s.timer = true := by
  have hrec := h.receiver
  rw [if_neg hg] at hrec
  exact hrec.2.1

theorem Receives.expired (h : Receives frame frame.length s) (hmin : 8 ≤ frame.length) :
    Waits (Slave.Rtu.xMBSlaveRTUTimerExpired s) ∧
      Slave.Rtu.xMBSlaveRTUTimerExpired s =
        { s with eRcvState := STATE_RX_IDLE, timer := false, eQueuedEvent := some EV_FRAME_RECEIVED } := by
  have hrec := h.receiver
  rw [if_neg (by omega)] at hrec
  obtain ⟨hrcv, -, hpos, -⟩ := hrec
  have hmin8 : s.usRcvBufferPos ≥ 8 := by omega
  have hexp : Slave.Rtu.xMBSlaveRTUTimerExpired s =
      { s with eRcvState := STATE_RX_IDLE, timer := false, eQueuedEvent := some EV_FRAME_RECEIVED } := by
    simp only [Slave.Rtu.xMBSlaveRTUTimerExpired, hrcv, if_pos hmin8, Slave.Rtu.xMBSlavePortEventPost]
  rw [hexp]
  exact ⟨⟨⟨h.tx, h.snd, h.line⟩, rfl, rfl⟩, rfl⟩

theorem Answers.ready (h : Answers frame put .sending s) (hp : put < frame.length) :
    Answers frame (put + 1) .sending (Slave.Rtu.xMBSlaveRTUTransmitFSM s) ∧
      (Slave.Rtu.xMBSlaveRTUTransmitFSM s).line = s.line ++ [frame[put]] ∧
        (Slave.Rtu.xMBSlaveRTUTransmitFSM s).store = s.store := by
  obtain ⟨hbuf, hcur, hcount, hsnd, htx, hq⟩ := h.sender
  have hne : s.usSndBufferCount ≠ 0 := by omega
  have hbyte : s.store.ucRcvBuf put = frame[put] := by simpa using hbuf put hp
  have hfsm : Slave.Rtu.xMBSlaveRTUTransmitFSM s = { s with
      line := s.line ++ [frame[put]], pucSndBufferCur := put + 1, usSndBufferCount := s.usSndBufferCount - 1 } := by
    simp only [Slave.Rtu.xMBSlaveRTUTransmitFSM, hsnd, if_pos hne, Slave.Rtu.putByte, hcur, hbyte]
  rw [hfsm]
  refine ⟨⟨by omega, hp, fun hs => absurd rfl hs, h.rcv, h.timer, hbuf, rfl, ?_, hsnd, htx, hq⟩, rfl, rfl⟩
  show s.usSndBufferCount - 1 = _
  omega

theorem Answers.done (h : Answers frame put .sending s) (hp : ¬put < frame.length) :
    Answers frame put (.sent true true) (Slave.Rtu.xMBSlaveRTUTransmitFSM s) ∧
      (Slave.Rtu.xMBSlaveRTUTransmitFSM s).line = s.line ∧
        (Slave.Rtu.xMBSlaveRTUTransmitFSM s).store = s.store := by
  obtain ⟨-, -, hcount, hsnd, htx, -⟩ := h.sender
  have hle := h.le
  have hz : ¬s.usSndBufferCount ≠ 0 := by omega
  have hfsm : Slave.Rtu.xMBSlaveRTUTransmitFSM s =
      { s with eQueuedEvent := some EV_FRAME_SENT, eSndState := STATE_TX_IDLE } := by
    simp only [Slave.Rtu.xMBSlaveRTUTransmitFSM, hsnd, if_neg hz, Slave.Rtu.xMBSlavePortEventPost]
  rw [hfsm]
  exact ⟨⟨h.pos, h.le, fun _ => by omega, h.rcv, h.timer, rfl, htx, rfl, nofun⟩, rfl, rfl⟩

theorem Answers.turn {queued : Bool} (h : Answers frame put (.sent true queued) s) :
    Answers frame put (.sent false queued) (Slave.Rtu.xMBSlaveRTUTransmitFSM s) ∧
      (Slave.Rtu.xMBSlaveRTUTransmitFSM s).line = s.line ∧
        (Slave.Rtu.xMBSlaveRTUTransmitFSM s).store = s.store := by
  obtain ⟨hsnd, -, hq, -⟩ := h.sender
  have hfsm : Slave.Rtu.xMBSlaveRTUTransmitFSM s = { s with xRxEnable := true, xTxEnable := false } := by
    simp only [Slave.Rtu.xMBSlaveRTUTransmitFSM, hsnd, Slave.Rtu.vMBSlavePortSerialEnable]
  rw [hfsm]
  exact ⟨⟨h.pos, h.le, fun _ => h.all Sender.noConfusion, h.rcv, h.timer, hsnd, rfl, hq, fun _ => rfl⟩, rfl, rfl⟩

end Ends

/-! ### The stages -/

/-- **What the two ends look like at each stage.** -/
def Carries (cur : sMBSlaveCommData) (ucSlaveAddr : UCHAR) (r : Slave.Request) (st : Line) (a : Exchange) : Prop :=
  st.slave.store.vars = a.vars ∧
  match a.stage with
  | .requesting put got sent => got ≤ put ∧ Sends (rtuFrame ucSlaveAddr r.pdu) put sent st.master ∧
    st.master.line = inFlight (rtuFrame ucSlaveAddr r.pdu) put got ∧
      Receives (rtuFrame ucSlaveAddr r.pdu) got st.slave ∧ st.posted = []
  | .requested => Hears [] 0 false st.master ∧ Waits st.slave ∧ st.slave.eQueuedEvent = some EV_FRAME_RECEIVED ∧
    st.slave.usRcvBufferPos = (rtuFrame ucSlaveAddr r.pdu).length ∧
      Holds st.slave.store.ucRcvBuf 0 (rtuFrame ucSlaveAddr r.pdu) ∧ st.posted = []
  | .taken => Hears [] 0 false st.master ∧ Waits st.slave ∧ st.slave.eQueuedEvent = some EV_EXECUTE ∧
    st.slave.pucMBFrame = 1 ∧ st.slave.ucRcvAddress = ucSlaveAddr ∧ Received st.slave.store 1 r.pdu ∧ st.posted = []
  | .replying y put got sender heard => (∃ v vars, serve cur v vars r = some y) ∧ got ≤ put ∧
    Answers (rtuFrame ucSlaveAddr (y.pdu r.code)) put sender st.slave ∧
      st.slave.line = inFlight (rtuFrame ucSlaveAddr (y.pdu r.code)) put got ∧
        Hears (rtuFrame ucSlaveAddr (y.pdu r.code)) got heard st.master ∧
          st.posted = if heard then [EV_MASTER_FRAME_RECEIVED] else []

/-- A request that a frame holds, and a slave of its own. -/
structure Asks (ucSlaveAddr : UCHAR) (r : Slave.Request) : Prop where
  plain : r.Plain
  long : 5 ≤ r.pdu.length
  short : r.pdu.length ≤ 253
  addressed : ucSlaveAddr ≠ Slave.MB_ADDRESS_BROADCAST

section Steps

variable {cur : sMBSlaveCommData} {ucSlaveAddr : UCHAR} {r : Slave.Request} {st : Line} {a : Exchange}

theorem carries_assign (h : Carries cur ucSlaveAddr r st a) (vars : Mem) :
    Carries cur ucSlaveAddr r { st with slave := { st.slave with store := { st.slave.store with vars } } }
      { a with vars } := by
  obtain ⟨-, hst⟩ := h
  refine ⟨rfl, ?_⟩
  cases ha : a.stage with
  | requesting put got sent =>
    rw [ha] at hst
    obtain ⟨hg, hm, hline, hs, hposted⟩ := hst
    exact ⟨hg, hm, hline, ⟨⟨⟨hs.tx, hs.snd, hs.line⟩, hs.queued, hs.rx⟩, hs.receiver⟩, hposted⟩
  | requested =>
    rw [ha] at hst
    obtain ⟨hm, hs, hrest⟩ := hst
    exact ⟨hm, ⟨⟨hs.tx, hs.snd, hs.line⟩, hs.rcv, hs.timer⟩, hrest⟩
  | taken =>
    rw [ha] at hst
    obtain ⟨hm, hs, hq, hf, haddr, hin, hposted⟩ := hst
    exact ⟨hm, ⟨⟨hs.tx, hs.snd, hs.line⟩, hs.rcv, hs.timer⟩, hq, hf, haddr, ⟨hin.holds, hin.len⟩, hposted⟩
  | replying y put got sender heard =>
    rw [ha] at hst
    obtain ⟨hy, hg, hs, hrest⟩ := hst
    refine ⟨hy, hg, ⟨hs.pos, hs.le, hs.all, hs.rcv, hs.timer, ?_⟩, hrest⟩
    cases sender <;> exact hs.sender

/-- The event does on the line what it does to the exchange. -/
abbrev CarriesStep (cur : sMBSlaveCommData) (ucSlaveAddr : UCHAR) (r : Slave.Request) (st : Line) (a : Exchange)
    (e : LineEvent) : Prop :=
  Option.Rel (Carries cur ucSlaveAddr r) (lineStep cur ucSlaveAddr st e) (stageStep cur r a.vars a.stage e)

/-! While the request is sent, the transmitter of the master puts bytes, the slave takes them, and at the end the timer
of the slave expires. -/

section Requesting

variable {vars : Mem} {put got : ℕ} {sent : Bool}

theorem requesting_masterReady (hask : Asks ucSlaveAddr r)
    (h : Carries cur ucSlaveAddr r st ⟨vars, .requesting put got sent⟩) :
    CarriesStep cur ucSlaveAddr r st ⟨vars, .requesting put got sent⟩ .masterReady := by
  obtain ⟨hvars, hg, hm, hline, hs, hposted⟩ := h
  have hlen : (rtuFrame ucSlaveAddr r.pdu).length = r.pdu.length + 3 := rtuFrame_length
  rw [CarriesStep, lineStep, hm.tx]
  cases sent with
  | true => exact .none
  | false =>
    rw [stageStep, ← hlen, if_pos (show (!false) = true from rfl)]
    by_cases hp : put < (rtuFrame ucSlaveAddr r.pdu).length
    · rw [if_pos hp]
      obtain ⟨hnext, hput⟩ := hm.ready hp
      have hmore : (xMBMasterRTUTransmitFSM st.master).line =
          inFlight (rtuFrame ucSlaveAddr r.pdu) (put + 1) got := by
        rw [inFlight_put hp hg, ← hline, hput]
      exact .some ⟨hvars, Nat.le_succ_of_le hg, hnext, hmore, hs, hposted⟩
    · -- the last byte is out, and the answer is waited for
      rw [if_neg hp]
      have hfirst : st.master.info.ucRTUSndBuf 0 = ucSlaveAddr := (Slave.Rtu.holds_rtuFrame hm.buf).1
      have hne : st.master.info.ucRTUSndBuf 0 ≠ Master.MB_ADDRESS_BROADCAST := by
        rw [hfirst]
        exact hask.addressed
      obtain ⟨hnext, hkept⟩ := hm.done hp hne
      exact .some ⟨hvars, hg, hnext, hkept.trans hline, hs, hposted⟩

theorem requesting_slaveByte (hask : Asks ucSlaveAddr r)
    (h : Carries cur ucSlaveAddr r st ⟨vars, .requesting put got sent⟩) :
    CarriesStep cur ucSlaveAddr r st ⟨vars, .requesting put got sent⟩ .slaveByte := by
  obtain ⟨hvars, hg, hm, hline, hs, hposted⟩ := h
  have hlen : (rtuFrame ucSlaveAddr r.pdu).length = r.pdu.length + 3 := rtuFrame_length
  have hshort := hask.short
  have hle := hm.le
  have habs : stageStep cur r vars (.requesting put got sent) .slaveByte =
      if got < put then some ⟨vars, .requesting put (got + 1) sent⟩ else none := by
    cases sent <;> rfl
  rw [CarriesStep, lineStep, hline, habs]
  by_cases hlt : got < put
  · rw [if_pos hlt, inFlight_get hlt hle]
    dsimp only
    rw [if_pos hs.rx]
    obtain ⟨hnext, hkept⟩ := hs.byte (lt_of_lt_of_le hlt hle) (by omega)
    exact .some ⟨hkept.trans hvars, hlt, ⟨hm.pos, hm.le, hm.all, hm.buf, hm.cur, hm.count, hm.rcv, hm.snd, hm.running,
      hm.rx, hm.tx⟩, rfl, hnext, hposted⟩
  · rw [if_neg hlt, (inFlight_eq_nil_iff hle).mpr (by omega)]
    exact .none

theorem requesting_slaveExpired (hask : Asks ucSlaveAddr r)
    (h : Carries cur ucSlaveAddr r st ⟨vars, .requesting put got sent⟩) :
    CarriesStep cur ucSlaveAddr r st ⟨vars, .requesting put got sent⟩ .slaveExpired := by
  obtain ⟨hvars, hg, hm, hline, hs, hposted⟩ := h
  have hlen : (rtuFrame ucSlaveAddr r.pdu).length = r.pdu.length + 3 := rtuFrame_length
  have hlong := hask.long
  have hle := hm.le
  cases sent with
  | false =>
    -- the master is still sending
    have hsnd : st.master.info.eSndState = STATE_M_TX_XMIT := hm.snd
    rw [CarriesStep, lineStep, if_neg fun hc => hc.2.2 hsnd]
    exact .none
  | true =>
    have hall := hm.all rfl
    have hsnd : st.master.info.eSndState = STATE_M_TX_XFWR := hm.snd
    rw [CarriesStep, lineStep, stageStep]
    by_cases hgp : got = put
    · subst hgp
      have htimer := hs.timer (by omega)
      have hempty : st.master.line = [] := hline.trans inFlight_self
      rw [if_pos ⟨htimer, hempty, by rw [hsnd]; decide⟩, if_pos rfl]
      have hrec := hs.receiver
      rw [if_neg (by omega)] at hrec
      rw [hall] at hs hrec
      obtain ⟨hwaits, hexp⟩ := hs.expired (by omega)
      have hbuf : Holds st.slave.store.ucRcvBuf 0 (rtuFrame ucSlaveAddr r.pdu) := by
        simpa only [List.take_length] using hrec.2.2.2
      rw [hexp] at hwaits ⊢
      exact .some ⟨hvars, hm.hears hempty, hwaits, rfl, hrec.2.2.1, hbuf, hposted⟩
    · -- bytes are on their way
      have hne : st.master.line ≠ [] := by
        rw [hline, Ne, inFlight_eq_nil_iff hle]
        omega
      rw [if_neg fun hc => hne hc.2.1, if_neg hgp]
      exact .none

theorem carries_requesting (hask : Asks ucSlaveAddr r)
    (h : Carries cur ucSlaveAddr r st ⟨vars, .requesting put got sent⟩) {e : LineEvent}
    (he : ∀ vars, e ≠ .assign vars) : CarriesStep cur ucSlaveAddr r st ⟨vars, .requesting put got sent⟩ e := by
  have hends := h
  obtain ⟨-, -, hm, -, hs, -⟩ := hends
  cases e with
  | assign vars => exact absurd rfl (he vars)
  | masterReady => exact requesting_masterReady hask h
  | slaveByte => exact requesting_slaveByte hask h
  | slaveExpired => exact requesting_slaveExpired hask h
  | slaveReady =>
    rw [CarriesStep, lineStep, hs.tx]
    cases sent <;> exact .none
  | masterByte =>
    rw [CarriesStep, lineStep, hs.line]
    cases sent <;> exact .none
  | masterExpired =>
    rw [CarriesStep, lineStep, if_neg fun hc => hm.running hc.1]
    cases sent <;> exact .none
  | slavePoll v =>
    rw [CarriesStep, lineStep, Slave.Rtu.eMBSlavePoll, hs.queued]
    cases sent <;> exact .none

end Requesting

/-- While the slave has the request in hand, nothing but its poll task goes on. -/
theorem waiting_none (hm : Hears [] 0 false st.master) (hs : Waits st.slave) {e : LineEvent}
    (he : ∀ vars, e ≠ .assign vars) (hp : ∀ v, e ≠ .slavePoll v) : lineStep cur ucSlaveAddr st e = none := by
  cases e with
  | assign vars => exact absurd rfl (he vars)
  | slavePoll v => exact absurd rfl (hp v)
  | masterReady => rw [lineStep, hm.tx, if_neg Bool.false_ne_true]
  | slaveReady => rw [lineStep, hs.tx, if_neg Bool.false_ne_true]
  | masterByte => rw [lineStep, hs.line]
  | slaveByte => rw [lineStep, hm.line]
  | masterExpired => rw [lineStep, if_neg fun hc => (hm.running_iff.mp hc.1).1 rfl]
  | slaveExpired => rw [lineStep, hs.timer, if_neg fun hc => Bool.false_ne_true hc.1]

theorem carries_requested {vars : Mem} (hask : Asks ucSlaveAddr r) (h : Carries cur ucSlaveAddr r st ⟨vars, .requested⟩)
    {e : LineEvent} (he : ∀ vars, e ≠ .assign vars) : CarriesStep cur ucSlaveAddr r st ⟨vars, .requested⟩ e := by
  obtain ⟨hvars, hm, hs, hq, hpos, hbuf, hposted⟩ := h
  have hlong := hask.long
  cases e with
  | slavePoll v =>
    set s : SerialSlave := { st.slave with eQueuedEvent := none } with hsdef
    have hreceive := Slave.Rtu.receive_frame (s := s) hbuf hpos (by omega)
    have hpoll : Slave.Rtu.eMBSlavePoll cur ucSlaveAddr v st.slave = some { st.slave with
        eQueuedEvent := some EV_EXECUTE, ucRcvAddress := ucSlaveAddr
        store := { st.slave.store with usLength := r.pdu.length }, pucMBFrame := 1 } := by
      rw [Slave.Rtu.eMBSlavePoll, hq]
      dsimp only
      rw [← hsdef, hreceive, if_pos rfl, if_pos (Or.inl rfl)]
      rfl
    rw [CarriesStep, lineStep, hpoll]
    exact .some ⟨hvars, hm, ⟨⟨hs.tx, hs.snd, hs.line⟩, hs.rcv, hs.timer⟩, rfl, rfl, rfl,
      ⟨(Slave.Rtu.holds_rtuFrame hbuf).2, rfl⟩, hposted⟩
  | _ =>
    rw [CarriesStep, waiting_none hm hs he nofun]
    exact .none

/-- **The poll that serves the request.** -/
theorem carries_taken {vars : Mem} (hask : Asks ucSlaveAddr r) (h : Carries cur ucSlaveAddr r st ⟨vars, .taken⟩)
    {e : LineEvent} (he : ∀ vars, e ≠ .assign vars) : CarriesStep cur ucSlaveAddr r st ⟨vars, .taken⟩ e := by
  obtain ⟨hvars, hm, hs, hq, hf, haddr, hin, hposted⟩ := h
  cases e with
  | slavePoll v =>
    have hexec := Slave.Rtu.execute_replies cur v (s := { st.slave with eQueuedEvent := none })
      hask.short hask.plain hask.addressed hs.rcv hf haddr hin
    have hpoll : Slave.Rtu.eMBSlavePoll cur ucSlaveAddr v st.slave =
        Slave.Rtu.eMBSlaveExecute cur ucSlaveAddr v { st.slave with eQueuedEvent := none } := by
      rw [Slave.Rtu.eMBSlavePoll, hq]
    rw [CarriesStep, lineStep, hpoll, stageStep, ← hvars]
    dsimp only at hexec
    generalize hy : serve cur v st.slave.store.vars r = z, Slave.Rtu.eMBSlaveExecute cur ucSlaveAddr v _ = x at hexec ⊢
    cases hexec with
    | none => exact .none
    | some hrep =>
      rename_i s' y
      have hlen : (rtuFrame ucSlaveAddr (y.pdu r.code)).length = (y.pdu r.code).length + 3 := rtuFrame_length
      have hfirst : inFlight (rtuFrame ucSlaveAddr (y.pdu r.code)) 1 0 = [ucSlaveAddr] := rfl
      have hline : s'.line = [ucSlaveAddr] := by
        rw [hrep.line]
        show st.slave.line ++ _ = _
        rw [hs.line, List.nil_append]
      exact .some ⟨hrep.vars, ⟨v, _, hy⟩, Nat.zero_le 1,
        ⟨le_rfl, by omega, fun hne => absurd rfl hne, hrep.rcv.trans hs.rcv, hrep.timer.trans hs.timer, hrep.buf,
          hrep.cur, by rw [hrep.count, hlen]; omega, hrep.snd, hrep.tx, hrep.queued⟩,
        hline.trans hfirst.symm, ⟨hm.rx, hm.tx, hm.line, hm.receiver⟩, hposted⟩
  | _ =>
    rw [CarriesStep, waiting_none hm hs he nofun]
    exact .none

/-! While the answer is sent, the transmitter of the slave puts bytes and is turned around by its interrupt or by its
poll task, the master takes the bytes, and at the end the timer of the master expires. -/

section Replying

variable {vars : Mem} {y : Answer} {put got : ℕ} {sender : Sender} {heard : Bool}

theorem replying_slaveReady (h : Carries cur ucSlaveAddr r st ⟨vars, .replying y put got sender heard⟩) :
    CarriesStep cur ucSlaveAddr r st ⟨vars, .replying y put got sender heard⟩ .slaveReady := by
  obtain ⟨hvars, hy, hg, hs, hline, hm, hposted⟩ := h
  have hlen : (rtuFrame ucSlaveAddr (y.pdu r.code)).length = replyBytes r y := rtuFrame_length
  cases sender with
  | sending =>
    have htx : st.slave.xTxEnable = true := hs.sender.2.2.2.2.1
    rw [CarriesStep, lineStep, htx, if_pos rfl, stageStep, ← hlen]
    by_cases hp : put < (rtuFrame ucSlaveAddr (y.pdu r.code)).length
    · obtain ⟨hnext, hput, hstore⟩ := hs.ready hp
      have hmore : (Slave.Rtu.xMBSlaveRTUTransmitFSM st.slave).line =
          inFlight (rtuFrame ucSlaveAddr (y.pdu r.code)) (put + 1) got := by
        rw [inFlight_put hp hg, ← hline, hput]
      rw [if_pos hp]
      exact .some ⟨(congrArg Store.vars hstore).trans hvars, hy, Nat.le_succ_of_le hg, hnext, hmore, hm, hposted⟩
    · obtain ⟨hnext, hkept, hstore⟩ := hs.done hp
      rw [if_neg hp]
      exact .some ⟨(congrArg Store.vars hstore).trans hvars, hy, hg, hnext, hkept.trans hline, hm, hposted⟩
  | sent tx queued =>
    have htx : st.slave.xTxEnable = tx := hs.sender.2.1
    rw [CarriesStep, lineStep, htx]
    cases tx with
    | false => cases queued <;> exact .none
    | true =>
      obtain ⟨hnext, hkept, hstore⟩ := hs.turn
      rw [if_pos rfl, stageStep]
      exact .some ⟨(congrArg Store.vars hstore).trans hvars, hy, hg, hnext, hkept.trans hline, hm, hposted⟩

theorem replying_slavePoll (h : Carries cur ucSlaveAddr r st ⟨vars, .replying y put got sender heard⟩)
    (usRegInValue : USHORT) :
    CarriesStep cur ucSlaveAddr r st ⟨vars, .replying y put got sender heard⟩ (.slavePoll usRegInValue) := by
  obtain ⟨hvars, hy, hg, hs, hline, hm, hposted⟩ := h
  cases sender with
  | sending =>
    rw [CarriesStep, lineStep, Slave.Rtu.eMBSlavePoll, hs.sender.2.2.2.2.2]
    exact .none
  | sent tx queued =>
    obtain ⟨hsnd, -, hq, -⟩ := hs.sender
    cases queued with
    | false =>
      rw [CarriesStep, lineStep, Slave.Rtu.eMBSlavePoll, hq]
      cases tx <;> exact .none
    | true =>
      -- EV_FRAME_SENT
      have hpoll : Slave.Rtu.eMBSlavePoll cur ucSlaveAddr usRegInValue st.slave =
          some { st.slave with eQueuedEvent := none, xRxEnable := true, xTxEnable := false } := by
        rw [Slave.Rtu.eMBSlavePoll, hq]
        rfl
      have hnext : Answers (rtuFrame ucSlaveAddr (y.pdu r.code)) put (.sent false false)
          { st.slave with eQueuedEvent := none, xRxEnable := true, xTxEnable := false } :=
        ⟨hs.pos, hs.le, fun _ => hs.all nofun, hs.rcv, hs.timer, hsnd, rfl, rfl, fun _ => rfl⟩
      rw [CarriesStep, lineStep, hpoll]
      cases tx <;> exact .some ⟨hvars, hy, hg, hnext, hline, hm, hposted⟩

theorem replyBytes_le (hy : ∃ v vars, serve cur v vars r = some y) : 4 ≤ replyBytes r y ∧ replyBytes r y ≤ 256 := by
  obtain ⟨v, vars, hserve⟩ := hy
  have := serve_pdu_length hserve
  unfold replyBytes
  omega

theorem replying_masterByte (h : Carries cur ucSlaveAddr r st ⟨vars, .replying y put got sender heard⟩) :
    CarriesStep cur ucSlaveAddr r st ⟨vars, .replying y put got sender heard⟩ .masterByte := by
  obtain ⟨hvars, hy, hg, hs, hline, hm, hposted⟩ := h
  have hlen : (rtuFrame ucSlaveAddr (y.pdu r.code)).length = replyBytes r y := rtuFrame_length
  have hbounds := replyBytes_le hy
  have hle := hs.le
  have habs : stageStep cur r vars (.replying y put got sender heard) .masterByte =
      if got < put then some ⟨vars, .replying y put (got + 1) sender heard⟩ else none := by
    rcases sender with _ | ⟨_ | _, _ | _⟩ <;> rfl
  rw [CarriesStep, lineStep, hline, habs]
  by_cases hlt : got < put
  · have hfalse : heard = false := by
      have hrec := hm.receiver
      split at hrec
      · omega
      · simpa using ‹¬heard = true›
    subst hfalse
    have hnext := hm.byte (lt_of_lt_of_le hlt hle) (by omega)
    rw [if_pos hlt, inFlight_get hlt hle]
    dsimp only
    rw [if_pos hm.rx]
    refine .some ⟨hvars, hy, hlt, ?_, rfl, hnext, hposted⟩
    refine ⟨hs.pos, hs.le, hs.all, hs.rcv, hs.timer, ?_⟩
    cases sender <;> exact hs.sender
  · rw [if_neg hlt, (inFlight_eq_nil_iff hle).mpr (by omega)]
    exact .none

theorem replying_masterExpired (h : Carries cur ucSlaveAddr r st ⟨vars, .replying y put got sender heard⟩) :
    CarriesStep cur ucSlaveAddr r st ⟨vars, .replying y put got sender heard⟩ .masterExpired := by
  obtain ⟨hvars, hy, hg, hs, hline, hm, hposted⟩ := h
  have hlen : (rtuFrame ucSlaveAddr (y.pdu r.code)).length = replyBytes r y := rtuFrame_length
  have hbounds := replyBytes_le hy
  have hle := hs.le
  cases sender with
  | sending =>
    rw [CarriesStep, lineStep, if_neg fun hc => hc.2.2 hs.sender.2.2.2.1]
    exact .none
  | sent tx queued =>
    have hall := hs.all nofun
    have hsnd : st.slave.eSndState = STATE_TX_IDLE := hs.sender.1
    cases heard with
    | true =>
      rw [CarriesStep, lineStep, if_neg fun hc => nomatch (hm.running_iff.mp hc.1).2]
      rcases tx with _ | _ <;> rcases queued with _ | _ <;> exact .none
    | false =>
      have habs : stageStep cur r vars (.replying y put got (.sent tx queued) false) .masterExpired =
          if got = put then some ⟨vars, .replying y put got (.sent tx queued) true⟩ else none := by
        rcases tx with _ | _ <;> rcases queued with _ | _ <;> rfl
      rw [CarriesStep, lineStep, habs]
      by_cases hgp : got = put
      · subst hgp
        have hrun : st.master.info.running = some MB_TMODE_T35 := hm.running_iff.mpr ⟨by omega, rfl⟩
        have hempty : st.slave.line = [] := hline.trans inFlight_self
        obtain ⟨hnext, hrep⟩ := hm.expired hall (by omega)
        rw [if_pos ⟨hrun, hempty, by rw [hsnd]; decide⟩, if_pos rfl]
        dsimp only
        rw [hrep]
        have hheard := congrArg (· ++ [EV_MASTER_FRAME_RECEIVED]) hposted
        exact .some ⟨hvars, hy, hg, hs, hline, hnext, hheard⟩
      · -- bytes are on their way
        have hne : st.slave.line ≠ [] := by
          rw [hline, Ne, inFlight_eq_nil_iff hle]
          omega
        rw [if_neg fun hc => hne hc.2.1, if_neg hgp]
        exact .none

theorem carries_replying (h : Carries cur ucSlaveAddr r st ⟨vars, .replying y put got sender heard⟩) {e : LineEvent}
    (he : ∀ vars, e ≠ .assign vars) : CarriesStep cur ucSlaveAddr r st ⟨vars, .replying y put got sender heard⟩ e := by
  have hends := h
  obtain ⟨-, -, -, hs, -, hm, -⟩ := hends
  cases e with
  | assign vars => exact absurd rfl (he vars)
  | slaveReady => exact replying_slaveReady h
  | slavePoll v => exact replying_slavePoll h v
  | masterByte => exact replying_masterByte h
  | masterExpired => exact replying_masterExpired h
  | masterReady =>
    rw [CarriesStep, lineStep, hm.tx]
    rcases sender with _ | ⟨_ | _, _ | _⟩ <;> exact .none
  | slaveByte =>
    rw [CarriesStep, lineStep, hm.line]
    rcases sender with _ | ⟨_ | _, _ | _⟩ <;> exact .none
  | slaveExpired =>
    rw [CarriesStep, lineStep, hs.timer, if_neg fun hc => Bool.false_ne_true hc.1]
    rcases sender with _ | ⟨_ | _, _ | _⟩ <;> exact .none

end Replying

/-- **Every event of the line is one of the exchange.** -/
theorem carries_step (cur : sMBSlaveCommData) (hask : Asks ucSlaveAddr r) :
    Bisim (lineStep cur ucSlaveAddr) (exchangeStep cur r) id (fun _ => True) (Carries cur ucSlaveAddr r) := by
  intro st a e h _
  by_cases he : ∃ vars, e = .assign vars
  · obtain ⟨vars, rfl⟩ := he
    exact .some (carries_assign h vars)
  · have hne : ∀ vars, e ≠ .assign vars := fun vars heq => he ⟨vars, heq⟩
    have habs : exchangeStep cur r a e = stageStep cur r a.vars a.stage e := by
      cases e with
      | assign vars => exact absurd rfl (hne vars)
      | _ => rfl
    rw [id, habs]
    obtain ⟨vars, stage⟩ := a
    cases stage with
    | requesting put got sent => exact carries_requesting hask h hne
    | requested => exact carries_requested hask h hne
    | taken => exact carries_taken hask h hne
    | replying y put got sender heard => exact carries_replying h hne

end Steps

/-! ### The exchange -/

/-- An event other than an assignment of the application. -/
def LineEvent.moves : LineEvent → Bool
  | .assign _ => false
  | _ => true

def Sender.rank : Sender → ℕ
  | .sending => 3
  | .sent tx queued => tx.toNat + queued.toNat

/-- What is left to do. -/
def Stage.rank (r : Slave.Request) : Stage → ℕ
  | .requesting put got sent => (r.pdu.length + 3 - put) + (r.pdu.length + 3 - got) + (!sent).toNat + 518
  | .requested => 517
  | .taken => 516
  | .replying y put got sender heard =>
    (replyBytes r y - put) + (replyBytes r y - got) + sender.rank + (!heard).toNat

def Stage.Counts (cur : sMBSlaveCommData) (r : Slave.Request) : Stage → Prop
  | .requesting put got sent => got ≤ put ∧ put ≤ r.pdu.length + 3 ∧ (sent = true → put = r.pdu.length + 3)
  | .replying y put got sender heard => (∃ v vars, serve cur v vars r = some y) ∧ got ≤ put ∧ put ≤ replyBytes r y ∧
    (sender ≠ .sending → put = replyBytes r y) ∧ (heard = true → got = replyBytes r y)
  | _ => True

section Exchange

variable {cur : sMBSlaveCommData} {ucSlaveAddr : UCHAR} {r : Slave.Request} {st : Line} {a a' : Exchange}
  {e : LineEvent}

theorem Carries.counts (h : Carries cur ucSlaveAddr r st a) : a.stage.Counts cur r := by
  obtain ⟨-, hst⟩ := h
  cases ha : a.stage with
  | requesting put got sent =>
    rw [ha] at hst
    obtain ⟨hg, hm, -⟩ := hst
    have hle := hm.le
    have hall := hm.all
    rw [rtuFrame_length] at hle hall
    exact ⟨hg, hle, hall⟩
  | requested => trivial
  | taken => trivial
  | replying y put got sender heard =>
    rw [ha] at hst
    obtain ⟨hy, hg, hs, -, hm, -⟩ := hst
    have hle := hs.le
    have hall := hs.all
    have hrec := hm.receiver
    rw [rtuFrame_length] at hle hall hrec
    refine ⟨hy, hg, hle, hall, fun ht => ?_⟩
    rw [if_pos ht] at hrec
    exact hrec.1

/-- **Every event but an assignment brings the exchange closer to its end.** -/
theorem rank_step (hc : a.stage.Counts cur r) (he : e.moves = true) (h : exchangeStep cur r a e = some a') :
    a'.stage.rank r < a.stage.rank r := by
  obtain ⟨vars, stage⟩ := a
  cases stage with
  | requesting put got sent =>
    obtain ⟨hg, hle, -⟩ := hc
    cases sent <;> cases e <;> simp only [exchangeStep, stageStep, reduceCtorEq, LineEvent.moves] at h he
    all_goals split_ifs at h
    all_goals obtain rfl := Option.some.inj h
    all_goals simp only [Stage.rank, Bool.not_false, Bool.not_true, Bool.toNat_true, Bool.toNat_false]
    all_goals omega
  | requested =>
    cases e <;> simp only [exchangeStep, stageStep, reduceCtorEq, LineEvent.moves] at h he
    obtain rfl := Option.some.inj h
    exact Nat.lt_succ_self 516
  | taken =>
    cases e <;> simp only [exchangeStep, stageStep, reduceCtorEq, LineEvent.moves] at h he
    obtain ⟨y, hy, rfl⟩ := Option.map_eq_some_iff.mp h
    have hlen := serve_pdu_length hy
    simp only [Stage.rank, replyBytes, Sender.rank, Bool.not_false, Bool.toNat_true]
    omega
  | replying y put got sender heard =>
    obtain ⟨-, hg, hle, -⟩ := hc
    rcases sender with _ | ⟨_ | _, _ | _⟩ <;> cases heard <;> cases e <;>
      simp only [exchangeStep, stageStep, reduceCtorEq, LineEvent.moves] at h he
    all_goals try split_ifs at h
    all_goals obtain rfl := Option.some.inj h
    all_goals simp only [Stage.rank, Sender.rank, Bool.not_false, Bool.not_true, Bool.toNat_true, Bool.toNat_false]
    all_goals omega

/-- **Where the exchange can come to a stop**: at its end, or at a request that runs into an unmapped address. -/
theorem stopped (hc : a.stage.Counts cur r) (h : ∀ e, e.moves = true → exchangeStep cur r a e = none) :
    (a.stage = .taken ∧ ∀ v, serve cur v a.vars r = none) ∨
      ∃ y, a.stage = .replying y (replyBytes r y) (replyBytes r y) (.sent false false) true := by
  obtain ⟨vars, stage⟩ := a
  cases stage with
  | requesting put got sent =>
    obtain ⟨hg, -, -⟩ := hc
    cases sent with
    | false => cases h .masterReady rfl
    | true =>
      have hbyte := h .slaveByte rfl
      have hexpired := h .slaveExpired rfl
      simp only [exchangeStep, stageStep, ite_eq_right_iff, reduceCtorEq, imp_false] at hbyte hexpired
      omega
  | requested => cases h (.slavePoll 0) rfl
  | taken => exact Or.inl ⟨rfl, fun v => Option.map_eq_none_iff.mp (h (.slavePoll v) rfl)⟩
  | replying y put got sender heard =>
    obtain ⟨-, hg, -, hall, hheard⟩ := hc
    rcases sender with _ | ⟨_ | _, _ | _⟩
    · cases h .slaveReady rfl
    · obtain rfl := hall nofun
      cases heard with
      | true => exact Or.inr ⟨y, by rw [hheard rfl]⟩
      | false =>
        have hbyte := h .masterByte rfl
        have hexpired := h .masterExpired rfl
        simp only [exchangeStep, stageStep, ite_eq_right_iff, reduceCtorEq, imp_false] at hbyte hexpired
        omega
    · cases h (.slavePoll 0) rfl
    · cases h .slaveReady rfl
    · cases h .slaveReady rfl

/-- The answer is being sent, or it has been. -/
def Stage.Replies (y : Answer) (g : Stage) : Prop := ∃ put got sender heard, g = .replying y put got sender heard

/-- An answer that is sent was sent before, or it has just been made. -/
theorem replies_step {y : Answer} (h : exchangeStep cur r a e = some a') (hy : a'.stage.Replies y) :
    a.stage.Replies y ∨ ∃ v, e = .slavePoll v ∧ a.stage = .taken ∧ serve cur v a.vars r = some y := by
  obtain ⟨put, got, sender, heard, hy⟩ := hy
  obtain ⟨vars, stage⟩ := a
  cases stage with
  | requesting put' got' sent =>
    cases sent <;> cases e <;> simp only [exchangeStep, stageStep, reduceCtorEq] at h
    all_goals try split_ifs at h
    all_goals obtain rfl := Option.some.inj h
    all_goals cases hy
  | requested =>
    cases e <;> simp only [exchangeStep, stageStep, reduceCtorEq] at h
    all_goals obtain rfl := Option.some.inj h
    all_goals cases hy
  | taken =>
    cases e <;> simp only [exchangeStep, stageStep, reduceCtorEq] at h
    case slavePoll v =>
      obtain ⟨z, hz, rfl⟩ := Option.map_eq_some_iff.mp h
      cases hy
      exact Or.inr ⟨v, rfl, rfl, hz⟩
    case assign =>
      obtain rfl := Option.some.inj h
      cases hy
  | replying z put' got' sender' heard' =>
    rcases sender' with _ | ⟨_ | _, _ | _⟩ <;> cases heard' <;> cases e <;>
      simp only [exchangeStep, stageStep, reduceCtorEq] at h
    all_goals try split_ifs at h
    all_goals obtain rfl := Option.some.inj h
    all_goals cases hy
    all_goals exact Or.inl ⟨_, _, _, _, rfl⟩

/-- The answer `y` was made by a poll of the run `es`, on the variables of the slave as they were then. -/
def MadeBy (cur : sMBSlaveCommData) (r : Slave.Request) (a : Exchange) (es : List LineEvent) (y : Answer) : Prop :=
  ∃ es₁ v es₂ b, es = es₁ ++ .slavePoll v :: es₂ ∧ run (exchangeStep cur r) a es₁ = some b ∧ b.stage = .taken ∧
    serve cur v b.vars r = some y

/-- **An answer that is sent was made in the run.** -/
theorem madeBy {es : List LineEvent} {y : Answer} (h : run (exchangeStep cur r) a es = some a')
    (hstart : ¬a.stage.Replies y) (hend : a'.stage.Replies y) : MadeBy cur r a es y := by
  induction es using List.reverseRecOn generalizing a' with
  | nil =>
    cases h
    exact absurd hend hstart
  | append_singleton es e ih =>
    rw [run_append] at h
    obtain ⟨b, hb, hlast⟩ := Option.bind_eq_some_iff.mp h
    simp only [run_cons, run_nil, Option.bind_fun_some] at hlast
    obtain hbefore | ⟨v, rfl, hb', hserve⟩ := replies_step hlast hend
    · obtain ⟨es₁, v, es₂, c, rfl, hrun, hc, hserve⟩ := ih hb hbefore
      exact ⟨es₁, v, es₂ ++ [e], c, by simp, hrun, hc, hserve⟩
    · exact ⟨es, v, [], b, rfl, hb, hb', hserve⟩

/-- What a run has come to: a stage, with as many events behind it as the rank allows. -/
theorem carries_run {es : List LineEvent} {st' : Line} (hask : Asks ucSlaveAddr r) (h : Carries cur ucSlaveAddr r st a)
    (hrun : run (lineStep cur ucSlaveAddr) st es = some st') :
    ∃ a', run (exchangeStep cur r) a es = some a' ∧ Carries cur ucSlaveAddr r st' a' ∧
      a'.stage.rank r + es.countP LineEvent.moves ≤ a.stage.rank r := by
  induction es generalizing st a with
  | nil =>
    cases hrun
    exact ⟨a, rfl, h, le_rfl⟩
  | cons e es ih =>
    rw [run_cons] at hrun
    obtain ⟨st₁, hst₁, hrest⟩ := Option.bind_eq_some_iff.mp hrun
    have hstep := carries_step cur hask st a e h trivial
    rw [id, hst₁] at hstep
    generalize ha₁ : exchangeStep cur r a e = x at hstep
    cases hstep with
    | some hcarry =>
      rename_i a₁
      obtain ⟨a', hrun', hcarry', hrank⟩ := ih hcarry hrest
      refine ⟨a', by rw [run_cons, ha₁, Option.bind_some, hrun'], hcarry', ?_⟩
      rw [List.countP_cons]
      split
      case isTrue hmoves =>
        have := rank_step h.counts hmoves ha₁
        omega
      case isFalse hmoves =>
        -- an assignment leaves the stage as it is
        cases e with
        | assign vars =>
          obtain rfl := Option.some.inj ha₁
          exact hrank
        | _ => exact absurd rfl hmoves

end Exchange

/-! ### Results -/

/-- The master may send, the slave listens, and the line is silent.  The PDU of the request is in the send buffer. -/
structure Ready (ucSlaveAddr : UCHAR) (r : Slave.Request) (m : SerialMaster) (s : SerialSlave) : Prop where
  idle : m.info.eRcvState = STATE_M_RX_IDLE
  min : m.info.ucSlaveDevMinAddr ≤ ucSlaveAddr
  max : ucSlaveAddr ≤ m.info.ucSlaveDevMaxAddr
  running : m.info.running = none
  line : m.line = []
  pdu : Holds m.info.ucRTUSndBuf 1 r.pdu
  listens : Listens s
  rcv : s.eRcvState = STATE_RX_IDLE

/-- The line after the master has sent its request. -/
def asked (ucSlaveAddr : UCHAR) (r : Slave.Request) (m : SerialMaster) (s : SerialSlave) : Line :=
  ⟨(eMBMasterRTUSend ucSlaveAddr r.pdu.length m).2, s, []⟩

/-- The answer `y` was made by a poll of the run, on the variables of the slave as they were then, and the slave kept
what it leaves. -/
def ServedIn (cur : sMBSlaveCommData) (ucSlaveAddr : UCHAR) (r : Slave.Request) (st : Line) (es : List LineEvent)
    (y : Answer) : Prop :=
  ∃ es₁ v es₂ st₁ st₂, es = es₁ ++ .slavePoll v :: es₂ ∧ run (lineStep cur ucSlaveAddr) st es₁ = some st₁ ∧
    serve cur v st₁.slave.store.vars r = some y ∧ lineStep cur ucSlaveAddr st₁ (.slavePoll v) = some st₂ ∧
      st₂.slave.store.vars = y.vars

/-- The master has reported a frame, and it is the answer `y` of the slave. -/
structure Heard (ucSlaveAddr : UCHAR) (r : Slave.Request) (st : Line) (y : Answer) : Prop where
  posted : st.posted = [EV_MASTER_FRAME_RECEIVED]
  received : eMBMasterRTUReceive st.master.info.ucRTURcvBuf st.master.info.usRcvBufferPos =
    some (ucSlaveAddr, 1, (y.pdu r.code).length)
  pdu : Holds st.master.info.ucRTURcvBuf 1 (y.pdu r.code)

section Results

variable {cur : sMBSlaveCommData} {ucSlaveAddr : UCHAR} {r : Slave.Request} {m : SerialMaster} {s : SerialSlave}
  {es : List LineEvent} {st st' : Line} {a a' : Exchange}

/-- **The request is on its way.** -/
theorem carries_asked (cur : sMBSlaveCommData) (hask : Asks ucSlaveAddr r) (h : Ready ucSlaveAddr r m s) :
    Carries cur ucSlaveAddr r (asked ucSlaveAddr r m s) ⟨s.store.vars, .requesting 1 0 false⟩ := by
  have hlong := hask.long
  have hpdu : (List.range r.pdu.length).map (fun j => m.info.ucRTUSndBuf (1 + j)) = r.pdu := by
    have hshift : Holds (fun j => m.info.ucRTUSndBuf (1 + j)) 0 r.pdu := by
      intro i hi
      simpa using h.pdu i hi
    exact hshift.map_range
  set frame := Master.eMBMasterRTUSend usMBCRC16 ucSlaveAddr r.pdu.length m.info.ucRTUSndBuf with hframe
  -- what the master's send makes of its buffer is the frame
  have hbytes : (List.range frame.2).map frame.1 = rtuFrame ucSlaveAddr r.pdu := by
    have hsend := send_bytes ucSlaveAddr m.info.ucRTUSndBuf r.pdu.length
    dsimp only at hsend
    rw [hpdu] at hsend
    exact hsend
  have hbuf : Holds frame.1 0 (rtuFrame ucSlaveAddr r.pdu) := holds_of_map_range hbytes
  have hrange : ¬(ucSlaveAddr < m.info.ucSlaveDevMinAddr ∨ ucSlaveAddr > m.info.ucSlaveDevMaxAddr) := by
    rintro (hlt | hgt)
    · exact absurd h.min (BitVec.not_le.mpr hlt)
    · exact absurd h.max (BitVec.not_le.mpr hgt)
  have hsend : Master.Rtu.eMBMasterRTUSend ucSlaveAddr r.pdu.length m.info = (MB_ENOERR, { m.info with
      ucRTUSndBuf := frame.1, eSndState := STATE_M_TX_XMIT, usSndBufferCount := frame.2 - 1 }) := by
    rw [Master.Rtu.eMBMasterRTUSend, if_neg hrange, if_pos h.idle]
  -- the first byte is put at once
  have hmaster : (eMBMasterRTUSend ucSlaveAddr r.pdu.length m).2 = { m with
      info := { m.info with ucRTUSndBuf := frame.1, eSndState := STATE_M_TX_XMIT, usSndBufferCount := frame.2 - 1 }
      pucSndBufferCur := 1, xRxEnable := false, xTxEnable := true, line := [ucSlaveAddr] } := by
    have hfirst : frame.1 0 = ucSlaveAddr := (Slave.Rtu.holds_rtuFrame hbuf).1
    simp only [eMBMasterRTUSend, hsend, if_pos, putByte, vMBMasterPortSerialEnable, h.line, List.nil_append, hfirst]
  have hcount : frame.2 - 1 = (rtuFrame ucSlaveAddr r.pdu).length - 1 := by
    rw [rtuFrame_length]
    show 1 + r.pdu.length + 2 - 1 = _
    omega
  have hrun : m.info.running ≠ some MB_TMODE_T35 := by
    rw [h.running]
    exact fun h => by cases h
  have hreceives : Receives (rtuFrame ucSlaveAddr r.pdu) 0 s := ⟨h.listens, by rw [if_pos rfl]; exact h.rcv⟩
  rw [asked, hmaster]
  exact ⟨rfl, Nat.zero_le 1, ⟨le_rfl, by rw [rtuFrame_length]; omega, Bool.noConfusion, hbuf, rfl, hcount, h.idle, rfl,
    hrun, rfl, rfl⟩, rfl, hreceives, rfl⟩

theorem servedIn_of_madeBy {y : Answer} (hask : Asks ucSlaveAddr r) (h : Carries cur ucSlaveAddr r st a)
    (hrun : run (lineStep cur ucSlaveAddr) st es = some st') (hmade : MadeBy cur r a es y) :
    ServedIn cur ucSlaveAddr r st es y := by
  obtain ⟨es₁, v, es₂, b, rfl, hb, htaken, hserve⟩ := hmade
  rw [run_append] at hrun
  obtain ⟨st₁, hst₁, hrest⟩ := Option.bind_eq_some_iff.mp hrun
  rw [run_cons] at hrest
  obtain ⟨st₂, hst₂, -⟩ := Option.bind_eq_some_iff.mp hrest
  obtain ⟨b', hb', hcarry, -⟩ := carries_run hask h hst₁
  obtain rfl : b' = b := Option.some.inj (hb'.symm.trans hb)
  have hstep := carries_step cur hask st₁ b' (.slavePoll v) hcarry trivial
  have habs : exchangeStep cur r b' (.slavePoll v) = some ⟨y.vars, .replying y 1 0 .sending false⟩ := by
    simp only [exchangeStep, htaken, stageStep, hserve, Option.map_some]
  rw [id, hst₂, habs] at hstep
  cases hstep with
  | some hafter => exact ⟨es₁, v, es₂, st₁, st₂, rfl, hst₁, hcarry.1 ▸ hserve, hst₂, hafter.1⟩

theorem Carries.heard (h : Carries cur ucSlaveAddr r st a) :
    st.posted = [] ∨ ∃ y, a.stage.Replies y ∧ Heard ucSlaveAddr r st y := by
  obtain ⟨-, hst⟩ := h
  cases ha : a.stage with
  | requesting put got sent =>
    rw [ha] at hst
    exact Or.inl hst.2.2.2.2
  | requested =>
    rw [ha] at hst
    exact Or.inl hst.2.2.2.2.2
  | taken =>
    rw [ha] at hst
    exact Or.inl hst.2.2.2.2.2.2
  | replying y put got sender heard =>
    rw [ha] at hst
    obtain ⟨⟨v, vars, hy⟩, -, -, -, hm, hposted⟩ := hst
    cases heard with
    | false => exact Or.inl hposted
    | true =>
      have hrec := hm.receiver
      rw [if_pos rfl] at hrec
      obtain ⟨rfl, -, -, hpos, hbuf⟩ := hrec
      rw [List.take_length] at hbuf
      obtain ⟨hfirst, hpdu⟩ := Slave.Rtu.holds_rtuFrame hbuf
      have hlen := serve_pdu_length hy
      have hmin : (rtuFrame ucSlaveAddr (y.pdu r.code)).length ≥ MB_SER_PDU_SIZE_MIN := by
        rw [rtuFrame_length]
        show 4 ≤ _
        omega
      refine Or.inr ⟨y, ⟨_, _, _, _, rfl⟩, hposted, ?_, hpdu⟩
      rw [hpos, receive_holds hbuf, if_pos ⟨hmin, rtuFrame_crc⟩, hfirst, rtuFrame_length]
      congr 3

/-- **One request and its answer.**  Along every run from a request that is sent: the master reports nothing or, once,
the frame of an answer that a poll of the slave made in the run; the events other than assignments are bounded; and a
run that cannot go on has come to the answer, with the slave listening again, or to a request that runs into an
unmapped address. -/
theorem exchange_right (hask : Asks ucSlaveAddr r) (hready : Ready ucSlaveAddr r m s)
    (hrun : run (lineStep cur ucSlaveAddr) (asked ucSlaveAddr r m s) es = some st) :
    (st.posted = [] ∨ ∃ y, ServedIn cur ucSlaveAddr r (asked ucSlaveAddr r m s) es y ∧ Heard ucSlaveAddr r st y) ∧
    es.countP LineEvent.moves ≤ 2 * r.pdu.length + 524 ∧
    ((∀ e, e.moves = true → lineStep cur ucSlaveAddr st e = none) →
      st.posted ≠ [] ∧ Listens st.slave ∨
        st.slave.eQueuedEvent = some EV_EXECUTE ∧ ∀ v, serve cur v st.slave.store.vars r = none) := by
  have hstart := carries_asked cur hask hready
  obtain ⟨a, habs, hcarry, hrank⟩ := carries_run hask hstart hrun
  refine ⟨?_, ?_, fun hstuck => ?_⟩
  · refine hcarry.heard.imp_right fun ⟨y, hy, hheard⟩ => ⟨y, ?_, hheard⟩
    exact servedIn_of_madeBy hask hstart hrun (madeBy habs nofun hy)
  · simp only [Stage.rank, Bool.not_false, Bool.toNat_true] at hrank
    omega
  · -- the line stands still, and so does the exchange
    have hnone : ∀ e, e.moves = true → exchangeStep cur r a e = none := by
      intro e he
      have hstep := carries_step cur hask st a e hcarry trivial
      rw [id, hstuck e he] at hstep
      generalize exchangeStep cur r a e = x at hstep
      cases hstep
      rfl
    have hcarries := hcarry
    obtain ⟨hvars, hst⟩ := hcarry
    obtain ⟨htaken, hserve⟩ | ⟨y, hend⟩ := stopped hcarries.counts hnone
    · rw [htaken] at hst
      exact Or.inr ⟨hst.2.2.1, hvars ▸ hserve⟩
    · rw [hend] at hst
      obtain ⟨-, -, hs, hline, -, hposted⟩ := hst
      obtain ⟨hsnd, htx, hq, hrx⟩ := hs.sender
      have hempty : st.slave.line = [] := by
        have hlen : replyBytes r y = (rtuFrame ucSlaveAddr (y.pdu r.code)).length := rtuFrame_length.symm
        rw [hline, hlen, inFlight_self]
      refine Or.inl ⟨by rw [hposted]; nofun, ⟨⟨htx, hsnd, hempty⟩, hq, hrx rfl⟩⟩

end Results

/-! ### A register is read -/

def readOne : Slave.Request := .readHolding 3 1

/-- A master with the request in its send buffer. -/
def oneMaster : SerialMaster where
  info := Master.Rtu.untouched (fun _ => 0) (storeList (fun _ => 0) 1 readOne.pdu) 1 247
  pucSndBufferCur := 0
  xRxEnable := true
  xTxEnable := false
  line := []

/-- A slave that has not received anything. -/
def oneSlave : SerialSlave where
  store := emptySlave.store
  usRcvBufferPos := 0
  pucMBFrame := 0
  ucRcvAddress := 0
  eQueuedEvent := none
  eRcvState := STATE_RX_IDLE
  eSndState := STATE_TX_IDLE
  pucSndBufferCur := 0
  usSndBufferCount := 0
  xRxEnable := true
  xTxEnable := false
  timer := false
  line := []

/-- The application assigns the register while the request is on its way. -/
def readOneRun : List LineEvent :=
  List.replicate 8 .masterReady ++ List.replicate 8 .slaveByte ++ [.assign (store16 (fun _ => 0) 0 500)] ++
    [.slaveExpired, .slavePoll 0, .slavePoll 0] ++ List.replicate 7 .slaveReady ++ List.replicate 7 .masterByte ++
      [.slavePoll 0, .masterExpired]

theorem asks_readOne : Asks 1 readOne := ⟨trivial, by decide, by decide, by decide⟩

theorem ready_one : Ready 1 readOne oneMaster oneSlave :=
  ⟨rfl, by decide, by decide, rfl, rfl, holds_storeList, ⟨⟨rfl, rfl, rfl⟩, rfl, rfl⟩, rfl⟩

set_option maxRecDepth 4000 in
theorem exchange_right_readOne :
    ∃ st, run (lineStep Slave.oneRegister 1) (asked 1 readOne oneMaster oneSlave) readOneRun = some st ∧
      st.posted = [EV_MASTER_FRAME_RECEIVED] ∧
        ∃ y, ServedIn Slave.oneRegister 1 readOne (asked 1 readOne oneMaster oneSlave) readOneRun y ∧
          Heard 1 readOne st y := by
  have hend : (run (lineStep Slave.oneRegister 1) (asked 1 readOne oneMaster oneSlave) readOneRun).map (·.posted) =
      some [EV_MASTER_FRAME_RECEIVED] := by decide
  obtain ⟨st, hrun, hposted⟩ := Option.map_eq_some_iff.mp hend
  obtain hno | hyes := (exchange_right asks_readOne ready_one hrun).1
  · rw [hposted] at hno
    cases hno
  · exact ⟨st, hrun, hposted, hyes⟩

end GreeIntense.Serial

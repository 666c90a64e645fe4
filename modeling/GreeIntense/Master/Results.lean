import GreeIntense.Master.Bus

/-!
# What a request returns

The steps of the port taken apart where the poll task can be preempted: it takes an event out of the port,
marks the port as empty, and then handles the event.  With the steps go the requests: every request that is
posted has a number, an event of the port belongs to a request, and the poll task ends requests.

The loop of `eMBMasterWaitRequestFinish` and the reads after it are one step: an interrupt between them has the
effect of one just before the last test of the loop.
-/

namespace GreeIntense.Master

open Os Lib.Run

/-- How the poll task ends a request: it has executed the response, or an error callback. -/
inductive Ending
  | executed | respondTimeout | receiveData | executeFunction
  deriving DecidableEq, Repr

/-- The event the callback leaves in the port. -/
def Ending.event : Ending → eMBMasterEventType
  | executed => .EV_MASTER_PROCESS_SUCCESS
  | respondTimeout => .EV_MASTER_ERROR_RESPOND_TIMEOUT
  | receiveData => .EV_MASTER_ERROR_RECEIVE_DATA
  | executeFunction => .EV_MASTER_ERROR_EXECUTE_FUNCTION

def errorEnding : eMBMasterErrorEventType → Ending
  | .EV_ERROR_RESPOND_TIMEOUT => .respondTimeout
  | .EV_ERROR_RECEIVE_DATA => .receiveData
  | .EV_ERROR_EXECUTE_FUNCTION => .executeFunction

/-- How the poll task ends a request with an event, if it does. -/
def pollEnding (eException : Bool) (eCurErrorType : eMBMasterErrorEventType) : eMBMasterEventType → Option Ending
  | .EV_MASTER_EXECUTE => if eException then none else some .executed
  | .EV_MASTER_ERROR_PROCESS => some (errorEnding eCurErrorType)
  | _ => none

/-- The event with which the poll task goes on after an event, if it does not end the request. -/
def pollPosts (xFrameOk eException : Bool) : eMBMasterEventType → Option eMBMasterEventType
  | .EV_MASTER_FRAME_RECEIVED => some (if xFrameOk then .EV_MASTER_EXECUTE else .EV_MASTER_ERROR_PROCESS)
  | .EV_MASTER_EXECUTE => if eException then some .EV_MASTER_ERROR_PROCESS else none
  | _ => none

/-- The poll task waits for an event, has one in its hands, or has also marked the port as empty; `r` is the
request the event belongs to. -/
inductive PollState
  | idle
  | got (eEvent : eMBMasterEventType) (r : ℕ)
  | taken (eEvent : eMBMasterEventType) (r : ℕ)
  deriving DecidableEq, Repr

/-- The port and its requests: how many have been posted, the last one of each scan task, the one the event of
the port belongs to, and how the poll task has ended them. -/
structure Requests where
  port : Port
  poll : PollState
  posted : ℕ
  sent : ScanTask → ℕ
  queued : ℕ
  ended : ℕ → List Ending

def requestsInit : Requests where
  port := xMBMasterPortEventInit
  poll := .idle
  posted := 0
  sent _ := 0
  queued := 0
  ended _ := []

/-- The poll task ends the request `r`. -/
def recordEnding (r : ℕ) (e : Ending) (ended : ℕ → List Ending) : ℕ → List Ending :=
  Function.update ended r (e :: ended r)

/-- The `switch` of `eMBMasterPoll` for an event of the request `r`. -/
def handlePolled (xFrameOk eException : Bool) (eEvent : eMBMasterEventType) (r : ℕ) (s : Requests) : Requests :=
  let port := handleEvent xFrameOk eException s.port eEvent
  match pollEnding eException s.port.eCurErrorType eEvent with
  | some e => { s with port := port, poll := .idle, ended := recordEnding r e s.ended }
  | none =>
    { s with
      port := port, poll := .idle
      queued := if (pollPosts xFrameOk eException eEvent).isSome then r else s.queued }

/-- The steps of a scan task as in `PortEvent`, those of the poll task, and an interrupt that posts an event of
the request `r`. -/
inductive RequestEvent
  | take (t : ScanTask)
  | clear (t : ScanTask)
  | send (t : ScanTask)
  | wait (t : ScanTask)
  | get (eEvent : eMBMasterEventType)
  | unqueue
  | handle (xFrameOk eException : Bool)
  | release
  | interrupt (r : ℕ) (errorType : eMBMasterErrorEventType) (eEvent : eMBMasterEventType)

variable (chk : Bool)

/-- A step of the port that no request begins or ends with. -/
def onPort (s : Requests) (ev : PortEvent) : Option Requests :=
  (portStep chk s.port ev).map fun port => { s with port := port }

def requestStep (s : Requests) : RequestEvent → Option Requests
  | .take t => onPort chk s (.take t)
  | .clear t => onPort chk s (.clear t)
  | .wait t => onPort chk s (.wait t)
  | .release => onPort chk s .release
  | .send t =>
    (onPort chk s (.send t)).map fun s =>
      { s with
        posted := s.posted + 1, sent := Function.update s.sent t (s.posted + 1), queued := s.posted + 1 }
  | .get eEvent =>
    if s.poll = .idle ∧ s.port.releasing = false ∧ s.port.sMBEventSem > 0 then
      some { s with
        port := { s.port with sMBEventSem := 0 }
        poll := if s.port.xEventInQueue then .got (gotEvent eEvent s.port.eQueuedEvent) s.queued else .idle }
    else none
  | .unqueue =>
    match s.poll with
    | .got eEvent r => some { s with port := { s.port with xEventInQueue := false }, poll := .taken eEvent r }
    | _ => none
  | .handle xFrameOk eException =>
    match s.poll with
    | .taken eEvent r => some (handlePolled xFrameOk eException eEvent r s)
    | _ => none
  | .interrupt r errorType eEvent =>
    if r ≤ s.posted then
      (onPort chk s (.interrupt errorType eEvent)).map fun s => { s with queued := r }
    else none

/-- **The result is the request's own**: it says how the poll task has ended the request, and is the timeout
if it has not. -/
structure OwnResult (result : eMBMasterReqErrCode) (ended : List Ending) : Prop where
  noErr : result = .MB_MRE_NO_ERR ↔ .executed ∈ ended
  revData : result = .MB_MRE_REV_DATA ↔ .receiveData ∈ ended
  exeFun : result = .MB_MRE_EXE_FUN ↔ .executeFunction ∈ ended
  timedOut : result = .MB_MRE_TIMEDOUT ↔ ended = [] ∨ .respondTimeout ∈ ended

/-- **Whoever returns now returns its own result.** -/
def ReturnsOwn (s : Requests) : Prop :=
  ∀ t n, s.port.phase t = .waiting n →
    (waitRequestFinish chk t n s.port).phase t = .idle →
      OwnResult ((waitRequestFinish chk t n s.port).result t) (s.ended (s.sent t))

/-! ### What leaves a waiting request its own result -/

/-- The poll task ends the request `r` while the request `k` waits that has made `n` delays.  In the last delay
the end of `k` comes too late, unless it is a timeout; before, a second end must be as the first, and the end of
another request is taken for that of `k`. -/
def EndsOwn (n k r : ℕ) (e : Ending) (ended : List Ending) : Prop :=
  if n = MB_MASTER_PORT_WAIT_TIMES then r = k → e = .respondTimeout
  else if r = k then ∀ e' ∈ ended, e' = e
  else OwnResult (finishCode e.event) ended

/-- An event is put into the port, where a request finds it whose end has not been seen. -/
def PostsOwn (n : ℕ) (xMBIsFinished : Bool) (eEvent : eMBMasterEventType) (ended : List Ending) : Prop :=
  n < MB_MASTER_PORT_WAIT_TIMES → xMBIsFinished = true → OwnResult (finishCode eEvent) ended

/-- **No step comes between a request and its end.**  A request is posted while `xMBIsFinished` is `FALSE`; and
as long as a request waits, the poll task ends no other and this one not too late, and its end is not
overwritten. -/
def Undisturbed (s : Requests) : RequestEvent → Prop
  | .send t => s.port.phase t = .ready → s.port.xMBIsFinished = false
  | .handle xFrameOk eException =>
    ∀ t n, s.port.phase t = .waiting n →
      match s.poll with
      | .taken eEvent r =>
        match pollEnding eException s.port.eCurErrorType eEvent with
        | some e => EndsOwn n (s.sent t) r e (s.ended (s.sent t))
        | none =>
          ∀ e ∈ pollPosts xFrameOk eException eEvent, PostsOwn n s.port.xMBIsFinished e (s.ended (s.sent t))
      | _ => True
  | .interrupt r _ eEvent =>
    r ≤ s.posted → ∀ t n, s.port.phase t = .waiting n →
      PostsOwn n s.port.xMBIsFinished eEvent (s.ended (s.sent t))
  | _ => True

/-! ### Results and endings -/

section Endings

variable {s : Port} {ended : List Ending} {e : Ending} {eEvent : eMBMasterEventType} {ok ex : Bool}

theorem finishCode_inj {e' : Ending} : finishCode e.event = finishCode e'.event ↔ e = e' := by
  cases e <;> cases e' <;> simp [finishCode, Ending.event]

theorem ownResult_iff : OwnResult (finishCode eEvent) ended ↔
    (∀ e ∈ ended, finishCode e.event = finishCode eEvent) ∧ (ended = [] → finishCode eEvent = .MB_MRE_TIMEDOUT) := by
  constructor
  · intro hown
    refine ⟨fun e he => ?_, fun hnil => hown.timedOut.mpr (Or.inl hnil)⟩
    cases e with
    | executed => exact (hown.noErr.mpr he).symm
    | respondTimeout => exact (hown.timedOut.mpr (Or.inr he)).symm
    | receiveData => exact (hown.revData.mpr he).symm
    | executeFunction => exact (hown.exeFun.mpr he).symm
  · rintro ⟨hall, hnil⟩
    cases ended with
    | nil => constructor <;> simp [hnil rfl]
    | cons e₀ rest =>
      have hmem (e : Ending) : finishCode eEvent = finishCode e.event ↔ e ∈ e₀ :: rest := by
        constructor
        · intro h
          have h0 : e₀ = e := finishCode_inj.mp ((hall e₀ List.mem_cons_self).trans h)
          rw [h0]
          exact List.mem_cons_self
        · intro he
          exact (hall e he).symm
      exact ⟨hmem .executed, hmem .receiveData, hmem .executeFunction, (hmem .respondTimeout).trans (by simp)⟩

theorem ownResult_timedOut : OwnResult .MB_MRE_TIMEDOUT ended ↔ ∀ e ∈ ended, e = .respondTimeout := by
  have h := @ownResult_iff ended .EV_MASTER_ERROR_RESPOND_TIMEOUT
  refine h.trans ⟨fun ⟨hall, _⟩ e he => finishCode_inj.mp (hall e he), fun hall => ⟨fun e he => ?_, fun _ => rfl⟩⟩
  rw [hall e he]
  rfl

theorem ownResult_cons : OwnResult (finishCode e.event) (e :: ended) ↔ ∀ e' ∈ ended, e' = e := by
  simp [ownResult_iff, finishCode_inj]

theorem errorEvent_eq (err : eMBMasterErrorEventType) : errorEvent err = (errorEnding err).event := by
  cases err <;> rfl

/-- An event that ends the request leaves the event of the callback. -/
theorem handleEvent_ending (h : pollEnding ex s.eCurErrorType eEvent = some e) :
    handleEvent ok ex s eEvent = requestFinished e.event s := by
  cases eEvent with
  | EV_MASTER_EXECUTE =>
    cases ex with
    | false =>
      cases h
      rfl
    | true => simp [pollEnding] at h
  | EV_MASTER_ERROR_PROCESS =>
    cases h
    rw [handleEvent, errorEvent_eq]
  | _ => simp [pollEnding] at h

/-- An event that does not end it is answered with another one, or has no effect on the port. -/
theorem handleEvent_goes (h : pollEnding ex s.eCurErrorType eEvent = none) :
    (∃ e err, pollPosts ok ex eEvent = some e ∧
        handleEvent ok ex s eEvent = xMBMasterPortEventPost e { s with eCurErrorType := err }) ∨
      (pollPosts ok ex eEvent = none ∧ handleEvent ok ex s eEvent = s) := by
  cases eEvent with
  | EV_MASTER_FRAME_RECEIVED =>
    cases ok with
    | false => exact Or.inl ⟨_, _, rfl, rfl⟩
    | true => exact Or.inl ⟨_, s.eCurErrorType, rfl, rfl⟩
  | EV_MASTER_EXECUTE =>
    cases ex with
    | false => simp [pollEnding] at h
    | true => exact Or.inl ⟨_, _, rfl, rfl⟩
  | EV_MASTER_ERROR_PROCESS => simp [pollEnding] at h
  | _ => exact Or.inr ⟨rfl, rfl⟩

end Endings

/-! ### Steps of the port while a request waits -/

section Waiting

variable {p p' : Port} {t u : ScanTask} {m : ℕ} {chk}

theorem setPhase_waiting (h : (setPhase p t .idle).phase u = .waiting m) : p.phase u = .waiting m ∧ u ≠ t := by
  by_cases hut : u = t
  · subst hut
    simp [setPhase] at h
  · exact ⟨by simpa [setPhase, hut] using h, hut⟩

theorem wake_waiting {w : Option Task} (h : (wake p w).phase u = .waiting m) : p.phase u = .waiting m := by
  rcases w with _ | t | _
  · exact h
  · by_cases hut : u = t
    · subst hut
      simp [wake, setPhase] at h
    · simpa [wake, setPhase, hut] using h
  · exact h

theorem release_phase {task : Task} (h : (vMBMasterRunResRelease chk task p).phase u = .waiting m) :
    p.phase u = .waiting m := by
  rw [vMBMasterRunResRelease] at h
  have hw := wake_waiting h
  exact hw

@[simp] theorem release_finished (chk : Bool) (task : Task) (p : Port) :
    (vMBMasterRunResRelease chk task p).xMBIsFinished = p.xMBIsFinished := by
  rw [vMBMasterRunResRelease]
  rcases OSMutexPost chk task OS_OPT_POST_ALL p.sMBIdleMutex with ⟨m, _ | t | _⟩ <;> rfl

@[simp] theorem release_queued (chk : Bool) (task : Task) (p : Port) :
    (vMBMasterRunResRelease chk task p).eQueuedEvent = p.eQueuedEvent := by
  rw [vMBMasterRunResRelease]
  rcases OSMutexPost chk task OS_OPT_POST_ALL p.sMBIdleMutex with ⟨m, _ | t | _⟩ <;> rfl

theorem only_waiting (hb : p.bus.Ok) (hu : p.phase u = .waiting m) (ht : (p.phase t).Holding) : u = t := by
  refine hb.exclusive u t ?_ ht
  show (p.phase u).Holding
  rw [hu]
  trivial

theorem take_waiting (h : portStep chk p (.take t) = some p') (hu : p'.phase u = .waiting m) :
    p.phase u = .waiting m ∧ p'.xMBIsFinished = p.xMBIsFinished ∧ p'.eQueuedEvent = p.eQueuedEvent := by
  simp only [portStep] at h
  split at h
  · cases h
    refine ⟨?_, rfl, rfl⟩
    by_cases hut : u = t
    · subst hut
      simp only [runResTake, setPhase, Function.update_self] at hu
      split at hu <;> cases hu
    · simpa [runResTake, setPhase, hut] using hu
  · cases h

theorem clear_waiting (hb : p.bus.Ok) (h : portStep chk p (.clear t) = some p') : p'.phase u ≠ .waiting m := by
  intro hu
  simp only [portStep] at h
  split at h
  · rename_i ht
    cases h
    by_cases hut : u = t
    · subst hut
      simp [setPhase] at hu
    · refine hut (only_waiting hb (by simpa [setPhase, hut] using hu) ?_)
      rw [ht]
      trivial
  · cases h

theorem send_waiting (hb : p.bus.Ok) (h : portStep chk p (.send t) = some p') (hu : p'.phase u = .waiting m) :
    p.phase t = .ready ∧ u = t ∧ m = 0 ∧ p'.xMBIsFinished = p.xMBIsFinished := by
  simp only [portStep] at h
  split at h
  · rename_i ht
    cases h
    by_cases hut : u = t
    · subst hut
      simp only [setPhase, Function.update_self, Phase.waiting.injEq] at hu
      exact ⟨ht, rfl, hu.symm, rfl⟩
    · have hw : p.phase u = .waiting m := by simpa [setPhase, hut, xMBMasterPortEventPost] using hu
      refine absurd (only_waiting hb hw ?_) hut
      rw [ht]
      trivial
  · cases h

theorem release_waiting (h : portStep chk p .release = some p') (hu : p'.phase u = .waiting m) :
    p.phase u = .waiting m ∧ p'.xMBIsFinished = p.xMBIsFinished ∧ p'.eQueuedEvent = p.eQueuedEvent := by
  simp only [portStep] at h
  split at h
  · cases h
    exact ⟨release_phase hu, release_finished chk .poll p, release_queued chk .poll p⟩
  · cases h

theorem wait_waiting (hb : p.bus.Ok) (h : portStep chk p (.wait t) = some p') (hu : p'.phase u = .waiting m) :
    u = t ∧ ∃ n < MB_MASTER_PORT_WAIT_TIMES, p.phase t = .waiting n ∧ m = n + 1 ∧ p.xMBIsFinished = false ∧
      p'.xMBIsFinished = false := by
  simp only [portStep] at h
  split at h
  · rename_i n ht
    cases h
    have hold : (p.phase t).Holding := by
      rw [ht]
      trivial
    by_cases hgo : p.xMBIsFinished = false ∧ n < MB_MASTER_PORT_WAIT_TIMES
    · rw [waitRequestFinish, if_pos hgo] at hu ⊢
      by_cases hut : u = t
      · subst hut
        simp only [setPhase, Function.update_self, Phase.waiting.injEq] at hu
        exact ⟨rfl, n, hgo.2, ht, hu.symm, hgo.1, hgo.1⟩
      · exact absurd (only_waiting hb (by simpa [setPhase, hut] using hu) hold) hut
    · exfalso
      rw [waitRequestFinish, if_neg hgo] at hu
      have hback : p.phase u = .waiting m ∧ u ≠ t := by
        split at hu
        · obtain ⟨hw, hut⟩ := setPhase_waiting hu
          have hr := release_phase hw
          exact ⟨hr, hut⟩
        · exact setPhase_waiting hu
      exact hback.2 (only_waiting hb hback.1 hold)
  · cases h

/-- The looks of a request that has made at most ten delays: it ends by its timeout, or with the code of the event
in the port. -/
theorem waitRequestFinish_idle {n : ℕ} (hn : n ≤ MB_MASTER_PORT_WAIT_TIMES) :
    ((waitRequestFinish chk t n p).phase t = .idle ↔ n = MB_MASTER_PORT_WAIT_TIMES ∨ p.xMBIsFinished = true) ∧
      (n = MB_MASTER_PORT_WAIT_TIMES → (waitRequestFinish chk t n p).result t = .MB_MRE_TIMEDOUT) ∧
      (n < MB_MASTER_PORT_WAIT_TIMES → p.xMBIsFinished = true →
        (waitRequestFinish chk t n p).result t = finishCode p.eQueuedEvent) := by
  rcases Nat.lt_or_eq_of_le hn with hlt | rfl
  · cases hfin : p.xMBIsFinished with
    | false =>
      rw [waitRequestFinish, if_pos ⟨hfin, hlt⟩]
      simp [setPhase, (Nat.ne_of_lt hlt)]
    | true =>
      rw [waitRequestFinish, if_neg (by simp [hfin]), if_neg (Nat.ne_of_lt hlt)]
      simp [setPhase, (Nat.ne_of_lt hlt)]
  · rw [waitRequestFinish, if_neg (by simp), if_pos rfl]
    simp [setPhase]

end Waiting

/-! ### The invariant -/

/-- What holds of the requests besides their results. -/
structure Requests.Ok (s : Requests) : Prop where
  bus : s.port.bus.Ok
  delays : ∀ t n, s.port.phase t = .waiting n → n ≤ MB_MASTER_PORT_WAIT_TIMES
  queued : s.queued ≤ s.posted
  got : ∀ e r, s.poll = .got e r → r ≤ s.posted
  taken : ∀ e r, s.poll = .taken e r → r ≤ s.posted
  /-- no request has been ended before it was posted -/
  later : ∀ k > s.posted, s.ended k = []
  /-- a request whose end is still to be seen has not been ended -/
  unfinished : ∀ t n, s.port.phase t = .waiting n → s.port.xMBIsFinished = false → s.ended (s.sent t) = []

theorem requestsInit_ok : requestsInit.Ok where
  bus := clean_init.toOk
  delays t n h := by cases h
  queued := Nat.le_refl 0
  got e r h := by cases h
  taken e r h := by cases h
  later k hk := rfl
  unfinished t n h := by cases h

/-- What a request that looks now finds. -/
def LooksOwn (n : ℕ) (xMBIsFinished : Bool) (eEvent : eMBMasterEventType) (ended : List Ending) : Prop :=
  (n = MB_MASTER_PORT_WAIT_TIMES → OwnResult .MB_MRE_TIMEDOUT ended) ∧ PostsOwn n xMBIsFinished eEvent ended

def Requests.Looks (s : Requests) : Prop :=
  ∀ t n, s.port.phase t = .waiting n → LooksOwn n s.port.xMBIsFinished s.port.eQueuedEvent (s.ended (s.sent t))

variable {chk} {s s' : Requests}

theorem returnsOwn_looks (hs : s.Ok) : ReturnsOwn chk s ↔ s.Looks := by
  refine forall_congr' fun t => forall_congr' fun n => forall_congr' fun ht => ?_
  obtain ⟨hidle, hlast, hseen⟩ := @waitRequestFinish_idle chk s.port t n (hs.delays t n ht)
  rw [hidle]
  constructor
  · intro h
    refine ⟨fun h10 => ?_, fun hlt hfin => ?_⟩
    · have := h (Or.inl h10)
      rwa [hlast h10] at this
    · have := h (Or.inr hfin)
      rwa [hseen hlt hfin] at this
  · intro h hret
    rcases Nat.lt_or_eq_of_le (hs.delays t n ht) with hlt | h10
    · have hfin : s.port.xMBIsFinished = true := hret.resolve_left (Nat.ne_of_lt hlt)
      rw [hseen hlt hfin]
      exact h.2 hlt hfin
    · rw [hlast h10]
      exact h.1 h10

/-! ### Steps keep the invariant -/

variable {a : RequestEvent} {p : Port} {ev : PortEvent}

theorem onPort_eq (h : onPort chk s ev = some s') :
    ∃ p, portStep chk s.port ev = some p ∧ s' = { s with port := p } := by
  obtain ⟨p, hp, rfl⟩ := Option.map_eq_some_iff.mp h
  exact ⟨p, hp, rfl⟩

theorem send_eq {t : ScanTask} (h : requestStep chk s (.send t) = some s') :
    ∃ p, portStep chk s.port (.send t) = some p ∧
      s' = { s with
        port := p, posted := s.posted + 1, sent := Function.update s.sent t (s.posted + 1)
        queued := s.posted + 1 } := by
  obtain ⟨s₁, h1, rfl⟩ := Option.map_eq_some_iff.mp h
  obtain ⟨p, hp, rfl⟩ := onPort_eq h1
  exact ⟨p, hp, rfl⟩

theorem interrupt_eq {r : ℕ} {err : eMBMasterErrorEventType} {e : eMBMasterEventType}
    (h : requestStep chk s (.interrupt r err e) = some s') :
    r ≤ s.posted ∧
      s' = { s with port := xMBMasterPortEventPost e { s.port with eCurErrorType := err }, queued := r } := by
  simp only [requestStep] at h
  split at h
  · rename_i hr
    cases h
    exact ⟨hr, rfl⟩
  · cases h

theorem portStep_busOk (hs : s.Ok) (h : portStep chk s.port ev = some p) : p.bus.Ok := by
  obtain ⟨ok, hb, -⟩ := portStep_bus h
  exact hb.keepsOk hs.bus

/-- A step of the port that lets no request wait and leaves `xMBIsFinished` as it is. -/
theorem Requests.Ok.frame (hs : s.Ok) (hb : p.bus.Ok)
    (hp : ∀ t n, p.phase t = .waiting n → s.port.phase t = .waiting n ∧ p.xMBIsFinished = s.port.xMBIsFinished) :
    Requests.Ok { s with port := p } where
  bus := hb
  delays t n ht := hs.delays t n (hp t n ht).1
  queued := hs.queued
  got := hs.got
  taken := hs.taken
  later := hs.later
  unfinished t n ht hfin := by
    obtain ⟨hold, heq⟩ := hp t n ht
    exact hs.unfinished t n hold (heq ▸ hfin)

theorem recordEnding_ne {r k : ℕ} {e : Ending} {ended : ℕ → List Ending} (h : k ≠ r) :
    recordEnding r e ended k = ended k := Function.update_of_ne h _ _

theorem recordEnding_self (r : ℕ) (e : Ending) (ended : ℕ → List Ending) :
    recordEnding r e ended r = e :: ended r := Function.update_self r _ _

/-- What the poll task does with the event it has in its hands. -/
theorem handle_cases {ok ex : Bool} (h : requestStep chk s (.handle ok ex) = some s') :
    ∃ eEvent r, s.poll = .taken eEvent r ∧
      ((∃ e, pollEnding ex s.port.eCurErrorType eEvent = some e ∧
          s' = { s with
            port := requestFinished e.event s.port, poll := .idle, ended := recordEnding r e s.ended }) ∨
        (∃ e err, pollEnding ex s.port.eCurErrorType eEvent = none ∧ pollPosts ok ex eEvent = some e ∧
          s' = { s with
            port := xMBMasterPortEventPost e { s.port with eCurErrorType := err }, poll := .idle, queued := r }) ∨
        (pollEnding ex s.port.eCurErrorType eEvent = none ∧ pollPosts ok ex eEvent = none ∧
          s' = { s with poll := .idle })) := by
  simp only [requestStep] at h
  split at h
  · rename_i eEvent r hpoll
    cases h
    refine ⟨eEvent, r, hpoll, ?_⟩
    rw [handlePolled]
    cases hend : pollEnding ex s.port.eCurErrorType eEvent with
    | some e =>
      rw [handleEvent_ending hend]
      exact Or.inl ⟨e, rfl, rfl⟩
    | none =>
      rcases @handleEvent_goes s.port eEvent ok ex hend with ⟨e, err, hpost, hp⟩ | ⟨hpost, hp⟩
      · rw [hp, hpost]
        exact Or.inr (Or.inl ⟨e, err, rfl, rfl, rfl⟩)
      · rw [hp, hpost]
        exact Or.inr (Or.inr ⟨rfl, rfl, rfl⟩)
  · cases h

/-- **Every step keeps the invariant.** -/
theorem requestStep_ok (hs : s.Ok) (h : requestStep chk s a = some s') : s'.Ok := by
  cases a with
  | take t =>
    obtain ⟨p, hp, rfl⟩ := onPort_eq h
    apply hs.frame (portStep_busOk hs hp)
    intro u n hu
    obtain ⟨hold, hfin, -⟩ := take_waiting hp hu
    exact ⟨hold, hfin⟩
  | clear t =>
    obtain ⟨p, hp, rfl⟩ := onPort_eq h
    exact hs.frame (portStep_busOk hs hp) fun u n hu => absurd hu (clear_waiting hs.bus hp)
  | release =>
    obtain ⟨p, hp, rfl⟩ := onPort_eq h
    apply hs.frame (portStep_busOk hs hp)
    intro u n hu
    obtain ⟨hold, hfin, -⟩ := release_waiting hp hu
    exact ⟨hold, hfin⟩
  | wait t =>
    obtain ⟨p, hp, rfl⟩ := onPort_eq h
    refine ⟨portStep_busOk hs hp, fun u m hu => ?_, hs.queued, hs.got, hs.taken, hs.later, fun u m hu _ => ?_⟩
    · obtain ⟨-, n, hn, -, rfl, -⟩ := wait_waiting hs.bus hp hu
      exact hn
    · -- it has found its request unfinished
      obtain ⟨rfl, n, hn, ht, rfl, hfin, -⟩ := wait_waiting hs.bus hp hu
      exact hs.unfinished u n ht hfin
  | send t =>
    obtain ⟨p, hp, rfl⟩ := send_eq h
    refine ⟨portStep_busOk hs hp, fun u m hu => ?_, Nat.le_refl _, fun e r hr => ?_, fun e r hr => ?_,
      fun k hk => ?_, fun u m hu _ => ?_⟩
    · obtain ⟨-, -, rfl, -⟩ := send_waiting hs.bus hp hu
      exact Nat.zero_le _
    · exact Nat.le_succ_of_le (hs.got e r hr)
    · exact Nat.le_succ_of_le (hs.taken e r hr)
    · exact hs.later k (Nat.lt_of_succ_lt hk)
    · -- the new request has no end yet
      obtain ⟨-, rfl, -, -⟩ := send_waiting hs.bus hp hu
      simp only [Function.update_self]
      exact hs.later _ (Nat.lt_succ_self _)
  | get eEvent =>
    simp only [requestStep] at h
    split at h
    · cases h
      refine ⟨hs.bus, hs.delays, hs.queued, fun e r hr => ?_, fun e r hr => ?_, hs.later, hs.unfinished⟩
      · dsimp only at hr
        split at hr
        · cases hr
          exact hs.queued
        · cases hr
      · dsimp only at hr
        split at hr <;> cases hr
    · cases h
  | unqueue =>
    simp only [requestStep] at h
    split at h
    · rename_i eEvent r hpoll
      cases h
      refine ⟨hs.bus, hs.delays, hs.queued, nofun, fun e r' hr => ?_, hs.later, hs.unfinished⟩
      cases hr
      exact hs.got _ _ hpoll
    · cases h
  | handle ok ex =>
    obtain ⟨eEvent, r, hpoll, ⟨e, -, rfl⟩ | ⟨e, err, -, -, rfl⟩ | ⟨-, -, rfl⟩⟩ := handle_cases h
    · -- the request ended is one that was posted
      refine ⟨hs.bus, hs.delays, hs.queued, nofun, nofun, fun k hk => ?_, nofun⟩
      have hr := hs.taken _ _ hpoll
      dsimp only at hk ⊢
      rw [recordEnding_ne (by omega)]
      exact hs.later k hk
    · exact ⟨hs.bus, hs.delays, hs.taken _ _ hpoll, nofun, nofun, hs.later, hs.unfinished⟩
    · exact ⟨hs.bus, hs.delays, hs.queued, nofun, nofun, hs.later, hs.unfinished⟩
  | interrupt r err e =>
    obtain ⟨hr, rfl⟩ := interrupt_eq h
    exact ⟨hs.bus, hs.delays, hr, hs.got, hs.taken, hs.later, hs.unfinished⟩

/-! ### The condition on a step is exact -/

section Exact

variable {n k r : ℕ} {fin : Bool} {eEvent e' : eMBMasterEventType} {e : Ending} {ended : ℕ → List Ending}

theorem looksOwn_post {o : List Ending} (hl : LooksOwn n fin eEvent o) : LooksOwn n fin e' o ↔ PostsOwn n fin e' o :=
  ⟨fun h => h.2, fun h => ⟨hl.1, h⟩⟩

theorem looksOwn_recordEnding (hn : n ≤ MB_MASTER_PORT_WAIT_TIMES) (hl : LooksOwn n fin eEvent (ended k)) :
    LooksOwn n true e.event (recordEnding r e ended k) ↔ EndsOwn n k r e (ended k) := by
  rcases Nat.lt_or_eq_of_le hn with hlt | rfl
  · -- the next look takes the event
    have hne := Nat.ne_of_lt hlt
    rw [EndsOwn, if_neg hne]
    by_cases hr : r = k
    · subst hr
      rw [recordEnding_self, if_pos rfl]
      simp [LooksOwn, PostsOwn, hne, hlt, ownResult_cons]
    · rw [recordEnding_ne (Ne.symm hr), if_neg hr]
      simp [LooksOwn, PostsOwn, hne, hlt]
  · -- the last look: the timeout is returned whatever the event is
    have hlast := ownResult_timedOut.mp (hl.1 rfl)
    rw [EndsOwn, if_pos rfl]
    by_cases hr : r = k
    · subst hr
      rw [recordEnding_self]
      simpa [LooksOwn, PostsOwn, ownResult_timedOut] using fun _ => hlast
    · rw [recordEnding_ne (Ne.symm hr)]
      simpa [LooksOwn, PostsOwn, hr] using hl.1

/-- A request that is sent finds its own result just if `xMBIsFinished` is false then. -/
theorem send_undisturbed_iff {t : ScanTask} (hs : s.Ok) (h : requestStep chk s (.send t) = some s') :
    Undisturbed s (.send t) ↔ s'.Looks := by
  obtain ⟨p, hp, rfl⟩ := send_eq h
  have hnew : s.ended (s.posted + 1) = [] := hs.later _ (Nat.lt_succ_self _)
  constructor
  · intro hok u m hu
    obtain ⟨ht, rfl, -, hfin⟩ := send_waiting hs.bus hp hu
    have hfalse : p.xMBIsFinished = false := hfin.trans (hok ht)
    exact ⟨fun _ => by simp [hnew, ownResult_timedOut], fun _ hfin₁ => by simp [hfalse] at hfin₁⟩
  · intro hl' ht
    simp only [portStep, if_pos ht, Option.some.injEq] at hp
    subst hp
    -- otherwise its first look ends it at once, without an error
    have hlook := (hl' t 0 (by simp [setPhase])).2 (by decide)
    by_contra hfin
    have hown := hlook (by simpa [setPhase, xMBMasterPortEventPost] using hfin)
    have hmem := hown.noErr.mp rfl
    simp [hnew] at hmem

/-- **What a step does to the request that waits.** -/
theorem undisturbed_iff_looks (hs : s.Ok) (hl : s.Looks) (h : requestStep chk s a = some s') :
    Undisturbed s a ↔ s'.Looks := by
  cases a with
  | take t =>
    obtain ⟨p, hp, rfl⟩ := onPort_eq h
    refine iff_of_true trivial ?_
    intro u m hu
    obtain ⟨hold, hfin, hev⟩ := take_waiting hp hu
    simpa [hfin, hev] using hl u m hold
  | clear t =>
    obtain ⟨p, hp, rfl⟩ := onPort_eq h
    exact iff_of_true trivial fun u m hu => absurd hu (clear_waiting hs.bus hp)
  | release =>
    obtain ⟨p, hp, rfl⟩ := onPort_eq h
    refine iff_of_true trivial ?_
    intro u m hu
    obtain ⟨hold, hfin, hev⟩ := release_waiting hp hu
    simpa [hfin, hev] using hl u m hold
  | wait t =>
    obtain ⟨p, hp, rfl⟩ := onPort_eq h
    refine iff_of_true trivial ?_
    intro u m hu
    obtain ⟨rfl, n, -, ht, -, hfin, hfin'⟩ := wait_waiting hs.bus hp hu
    refine ⟨fun _ => ?_, fun _ hfin₁ => by simp [hfin'] at hfin₁⟩
    simp [hs.unfinished u n ht hfin, ownResult_timedOut]
  | send t => exact send_undisturbed_iff hs h
  | get eEvent =>
    simp only [requestStep] at h
    split at h
    · cases h
      exact iff_of_true trivial hl
    · cases h
  | unqueue =>
    simp only [requestStep] at h
    split at h
    · cases h
      exact iff_of_true trivial hl
    · cases h
  | handle ok ex =>
    obtain ⟨eEvent, r, hpoll, ⟨e, hend, rfl⟩ | ⟨e, err, hend, hpost, rfl⟩ | ⟨hend, hpost, rfl⟩⟩ := handle_cases h
    · -- a request is ended, the one that waits or an earlier one
      simp only [Undisturbed, hpoll, hend]
      exact forall_congr' fun t => forall_congr' fun n => forall_congr' fun ht =>
        (looksOwn_recordEnding (hs.delays t n ht) (hl t n ht)).symm
    · -- another event takes the place of the one in the port
      simp only [Undisturbed, hpoll, hend, hpost, Option.mem_some_iff, forall_eq']
      exact forall_congr' fun t => forall_congr' fun n => forall_congr' fun ht => (looksOwn_post (hl t n ht)).symm
    · simp only [Undisturbed, hpoll, hend, hpost]
      exact iff_of_true (fun t n _ e he => by cases he) hl
  | interrupt r err e =>
    obtain ⟨hr, rfl⟩ := interrupt_eq h
    simp only [Undisturbed, hr, true_imp_iff]
    exact forall_congr' fun t => forall_congr' fun n => forall_congr' fun ht => (looksOwn_post (hl t n ht)).symm

theorem undisturbed_of_none (h : requestStep chk s a = none) : Undisturbed s a := by
  cases a with
  | send t =>
    intro ht
    simp [requestStep, onPort, portStep, ht] at h
  | handle ok ex =>
    intro t n _
    split
    · rename_i eEvent r hpoll
      simp [requestStep, hpoll] at h
    · trivial
  | interrupt r err e =>
    intro hr
    simp [requestStep, onPort, portStep, hr] at h
  | _ => trivial

/-- **The condition is exact for a step.** -/
theorem undisturbed_iff (hs : s.Ok) (hown : ReturnsOwn chk s) :
    Undisturbed s a ↔ ∀ s', requestStep chk s a = some s' → ReturnsOwn chk s' := by
  have hl : s.Looks := (returnsOwn_looks hs).mp hown
  constructor
  · intro hok s' h
    exact (returnsOwn_looks (requestStep_ok hs h)).mpr ((undisturbed_iff_looks hs hl h).mp hok)
  · intro h
    cases hstep : requestStep chk s a with
    | none => exact undisturbed_of_none hstep
    | some s' =>
      have hl' : s'.Looks := (returnsOwn_looks (requestStep_ok hs hstep)).mp (h s' hstep)
      exact (undisturbed_iff_looks hs hl hstep).mpr hl'

end Exact

/-! ### The steps of the port -/

/-- **A step of the port is a run of the requests**: the poll task takes its event and handles it without
being preempted. -/
theorem portStep_run (s : Requests) (hpoll : s.poll = .idle) (h : portStep chk s.port ev = some p) :
    ∃ as s', run (requestStep chk) s as = some s' ∧ s'.port = p ∧ s'.poll = .idle := by
  cases ev with
  | take t => exact ⟨[.take t], { s with port := p }, by simp [run, requestStep, onPort, h], rfl, hpoll⟩
  | clear t => exact ⟨[.clear t], { s with port := p }, by simp [run, requestStep, onPort, h], rfl, hpoll⟩
  | send t =>
    exact ⟨[.send t],
      { s with
        port := p, posted := s.posted + 1, sent := Function.update s.sent t (s.posted + 1), queued := s.posted + 1 },
      by simp [run, requestStep, onPort, h], rfl, hpoll⟩
  | wait t => exact ⟨[.wait t], { s with port := p }, by simp [run, requestStep, onPort, h], rfl, hpoll⟩
  | release => exact ⟨[.release], { s with port := p }, by simp [run, requestStep, onPort, h], rfl, hpoll⟩
  | interrupt err e =>
    exact ⟨[.interrupt 0 err e], { s with port := p, queued := 0 }, by simp [run, requestStep, onPort, h], rfl, hpoll⟩
  | poll ok ex e =>
    simp only [portStep] at h
    split at h
    · rename_i hready
      cases h
      cases hq : s.port.xEventInQueue with
      | false =>
        -- nothing is in the slot: only the semaphore is taken
        refine ⟨[.get e], { s with port := { s.port with sMBEventSem := 0 }, poll := .idle }, ?_, ?_, rfl⟩
        · simp [run, requestStep, hpoll, hready, hq]
        · simp [eMBMasterPoll, hq]
      | true =>
        -- the event is taken and handled in three steps
        let got : Requests :=
          { s with
            port := { s.port with sMBEventSem := 0, xEventInQueue := false }
            poll := .taken (gotEvent e s.port.eQueuedEvent) s.queued }
        refine ⟨[.get e, .unqueue, .handle ok ex], handlePolled ok ex (gotEvent e s.port.eQueuedEvent) s.queued got,
          ?_, ?_, ?_⟩
        · simp [run, requestStep, hpoll, hready, hq, got]
        · rw [handlePolled]
          simp only [eMBMasterPoll, hq, if_true, got]
          split <;> rfl
        · rw [handlePolled]
          split <;> rfl
    · cases h

/-- A run of the port is one of the finer steps, too. -/
theorem port_run (s : Requests) (hpoll : s.poll = .idle) {evs : List PortEvent}
    (h : run (portStep chk) s.port evs = some p) :
    ∃ as s', run (requestStep chk) s as = some s' ∧ s'.port = p := by
  induction evs generalizing s with
  | nil =>
    cases h
    exact ⟨[], s, rfl, rfl⟩
  | cons ev evs ih =>
    rw [run_cons] at h
    obtain ⟨p₁, h1, h2⟩ := Option.bind_eq_some_iff.mp h
    obtain ⟨as, s₁, hr, rfl, hpoll₁⟩ := portStep_run s hpoll h1
    obtain ⟨bs, s', hr', hp⟩ := ih s₁ hpoll₁ h2
    exact ⟨as ++ bs, s', by rw [run_append, hr]; exact hr', hp⟩

/-! ### The result of a request -/

/-- **A request returns its own result exactly when nothing comes between**: in every state of a run, whichever
request returns there returns its own result, if and only if no step of the run disturbs one. -/
theorem returns_own_iff (chk : Bool) (as : List RequestEvent) :
    Safe (requestStep chk) (ReturnsOwn chk) requestsInit as ↔
      Meets (requestStep chk) Undisturbed requestsInit as :=
  safe_iff_meets (I := Requests.Ok) (A := fun _ _ => True) (fun _ _ _ hs _ _ h => requestStep_ok hs h)
    (fun _ _ hs _ hown => undisturbed_iff hs hown) meets_true requestsInit_ok
    fun t n h => by cases h

/-- A request of the read task whose response comes in the tenth delay. -/
def lateResponse : List RequestEvent :=
  [.take .scanRead, .clear .scanRead, .send .scanRead, .get .EV_MASTER_READY, .unqueue, .handle true false] ++
    List.replicate 10 (.wait .scanRead) ++
    [.interrupt 1 .EV_ERROR_RESPOND_TIMEOUT .EV_MASTER_FRAME_RECEIVED,
      .get .EV_MASTER_READY, .unqueue, .handle true false, .get .EV_MASTER_READY, .unqueue, .handle true false]

/-- **The response has been executed, and the request returns a timeout.** -/
theorem late_response_timed_out :
    ¬Safe (requestStep true) (ReturnsOwn true) requestsInit lateResponse ∧
      (run (requestStep true) requestsInit lateResponse).map (fun s => s.ended (s.sent .scanRead)) =
        some [.executed] ∧
      (run (requestStep true) requestsInit (lateResponse ++ [.wait .scanRead])).map
        (fun s => (s.port.phase .scanRead, s.port.result .scanRead)) = some (.idle, .MB_MRE_TIMEDOUT) := by
  have hend : (run (requestStep true) requestsInit lateResponse).map (fun s =>
      (s.port.phase .scanRead, s.ended (s.sent .scanRead))) = some (.waiting 10, [.executed]) := by decide
  refine ⟨fun hsafe => ?_, by decide, by decide⟩
  obtain ⟨s, hs, ho⟩ := Option.map_eq_some_iff.mp hend
  obtain ⟨hphase, hended⟩ := Prod.mk.inj ho
  obtain ⟨hidle, hlast, -⟩ := @waitRequestFinish_idle true s.port .scanRead 10 (Nat.le_refl 10)
  have hown := hsafe.run hs .scanRead 10 hphase (hidle.mpr (Or.inl rfl))
  rw [hlast rfl, hended, ownResult_timedOut] at hown
  simp at hown

end GreeIntense.Master

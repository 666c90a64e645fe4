import GreeIntense.Lib.Run
import GreeIntense.Master.Port

/-!
# Who holds the bus

Of the port only the mutex and the phases of the scan tasks matter here: `Bus` is these two, `BusStep` is
what a step of the port does to them, and `portStep_bus` connects the two.

The poll task is never the owner of the mutex, so its release has no effect; a request gives the mutex back
only when it ends by its own timeout.  `bus_handed_back_iff` says that the mutex is free, when no request is
under way, exactly when all requests of the run have ended so.
-/

namespace GreeIntense.Master

open Os Lib.Run

structure Bus where
  mutex : OS_MUTEX Task
  phase : ScanTask → Phase

def Port.bus (s : Port) : Bus := ⟨s.sMBIdleMutex, s.phase⟩

/-- The task is in a request that has taken the mutex. -/
def Phase.Holding : Phase → Prop
  | .idle | .pending => False
  | .taken | .ready | .waiting _ => True

/-- The phases when a task has been given the mutex. -/
def wakePhase (phase : ScanTask → Phase) : Option Task → ScanTask → Phase
  | some (.scan t) => Function.update phase t .taken
  | _ => phase

variable (chk : Bool)

/-- A step of the bus, with what it takes to give the mutex back: a request is started, goes on, ends
without a release or by its timeout; the poll task releases; or the bus is not concerned. -/
inductive BusStep (b : Bus) : Prop → Bus → Prop
  | other : BusStep b True b
  | take (t : ScanTask) (h : b.phase t = .idle) :
    BusStep b True ⟨(OSMutexPend (.scan t) b.mutex).1,
      Function.update b.phase t (if (OSMutexPend (.scan t) b.mutex).2 then .taken else .pending)⟩
  | advance (t : ScanTask) (p : Phase) (h : (b.phase t).Holding) (h' : p.Holding) :
    BusStep b True ⟨b.mutex, Function.update b.phase t p⟩
  | leave (t : ScanTask) (h : (b.phase t).Holding) : BusStep b False ⟨b.mutex, Function.update b.phase t .idle⟩
  | timeout (t : ScanTask) (h : (b.phase t).Holding) :
    BusStep b (chk = false) ⟨(OSMutexPost chk (.scan t) OS_OPT_POST_ALL b.mutex).1,
      Function.update (wakePhase b.phase (OSMutexPost chk (.scan t) OS_OPT_POST_ALL b.mutex).2) t .idle⟩
  | release :
    BusStep b True ⟨(OSMutexPost chk .poll OS_OPT_POST_ALL b.mutex).1,
      wakePhase b.phase (OSMutexPost chk .poll OS_OPT_POST_ALL b.mutex).2⟩

/-- The head of the wait loop: if the loop ends, then with all its delays made, and the kernel takes the
option of the release. -/
def Phase.EndsByTimeout (chk xMBIsFinished : Bool) : Phase → Prop
  | .waiting n => ¬(xMBIsFinished = false ∧ n < MB_MASTER_PORT_WAIT_TIMES) →
      n = MB_MASTER_PORT_WAIT_TIMES ∧ chk = false
  | _ => True

/-- **What gives the mutex back**: a request that ends, ends by its timeout. -/
def EndsByTimeout (s : Port) : PortEvent → Prop
  | .wait t => (s.phase t).EndsByTimeout chk s.xMBIsFinished
  | _ => True

instance (chk fin : Bool) : ∀ p, Decidable (Phase.EndsByTimeout chk fin p)
  | .waiting n => inferInstanceAs (Decidable (¬(fin = false ∧ n < MB_MASTER_PORT_WAIT_TIMES) →
      n = MB_MASTER_PORT_WAIT_TIMES ∧ chk = false))
  | .idle | .pending | .taken | .ready => isTrue trivial

instance (chk : Bool) (s : Port) : ∀ ev, Decidable (EndsByTimeout chk s ev)
  | .wait t => inferInstanceAs (Decidable ((s.phase t).EndsByTimeout chk s.xMBIsFinished))
  | .take _ | .clear _ | .send _ | .poll .. | .release | .interrupt .. => isTrue trivial

/-! ### The port's steps on the bus -/

variable {chk}

@[simp] theorem bus_setPhase (s : Port) (t : ScanTask) (p : Phase) :
    (setPhase s t p).bus = ⟨s.bus.mutex, Function.update s.bus.phase t p⟩ := rfl

theorem bus_wake (s : Port) (w : Option Task) : (wake s w).bus = ⟨s.bus.mutex, wakePhase s.bus.phase w⟩ := by
  rcases w with _ | t | _ <;> rfl

theorem bus_release (chk : Bool) (task : Task) (s : Port) :
    (vMBMasterRunResRelease chk task s).bus = ⟨(OSMutexPost chk task OS_OPT_POST_ALL s.bus.mutex).1,
      wakePhase s.bus.phase (OSMutexPost chk task OS_OPT_POST_ALL s.bus.mutex).2⟩ := bus_wake _ _

theorem bus_handleEvent (ok ex : Bool) (s : Port) (e : eMBMasterEventType) : (handleEvent ok ex s e).bus = s.bus := by
  cases e with
  | EV_MASTER_FRAME_RECEIVED => cases ok <;> rfl
  | EV_MASTER_EXECUTE => cases ex <;> rfl
  | _ => rfl

/-- A look of a task that waits: it goes on, returns without a release, or ends by its timeout. -/
theorem wait_bus {s : Port} {t : ScanTask} {n : ℕ} (ht : s.phase t = .waiting n) :
    ∃ ok, BusStep chk s.bus ok (waitRequestFinish chk t n s).bus ∧ (ok ↔ EndsByTimeout chk s (.wait t)) := by
  have hold : (s.bus.phase t).Holding := by simp [Port.bus, ht, Phase.Holding]
  have hiff : EndsByTimeout chk s (.wait t) ↔
      (¬(s.xMBIsFinished = false ∧ n < MB_MASTER_PORT_WAIT_TIMES) →
        n = MB_MASTER_PORT_WAIT_TIMES ∧ chk = false) := by
    rw [EndsByTimeout, ht]
    rfl
  by_cases hgo : s.xMBIsFinished = false ∧ n < MB_MASTER_PORT_WAIT_TIMES
  · rw [waitRequestFinish, if_pos hgo]
    exact ⟨_, .advance t _ hold trivial, by simp [hiff, hgo]⟩
  · rw [waitRequestFinish, if_neg hgo]
    by_cases h10 : n = MB_MASTER_PORT_WAIT_TIMES
    · rw [if_pos h10]
      refine ⟨chk = false, ?_, hiff.trans ⟨fun h => (h hgo).2, fun h _ => ⟨h10, h⟩⟩ |>.symm⟩
      -- the assignments before the release do not concern the bus
      let s₁ : Port := { s with
        xMBIsFinished := true, eQueuedEvent := .EV_MASTER_ERROR_RESPOND_TIMEOUT, xWaitFinishInQueue := true
        sMBEventSem := s.sMBEventSem + 1 }
      have hrel := bus_release chk (.scan t) s₁
      show BusStep chk s.bus _ (setPhase (vMBMasterRunResRelease chk (.scan t) s₁) t .idle).bus
      rw [bus_setPhase, hrel]
      exact .timeout t hold
    · rw [if_neg h10]
      exact ⟨_, .leave t hold, by simp [hiff, hgo, h10]⟩

/-- **The port's steps are steps of the bus.** -/
theorem portStep_bus {s s' : Port} {ev : PortEvent} (h : portStep chk s ev = some s') :
    ∃ ok, BusStep chk s.bus ok s'.bus ∧ (ok ↔ EndsByTimeout chk s ev) := by
  cases ev with
  | take t =>
    simp only [portStep] at h
    split at h
    · rename_i ht
      cases h
      exact ⟨_, .take t ht, by simp [EndsByTimeout]⟩
    · cases h
  | clear t =>
    simp only [portStep] at h
    split at h
    · rename_i ht
      cases h
      exact ⟨_, .advance t .ready (by simp [Port.bus, ht, Phase.Holding]) trivial, by simp [EndsByTimeout]⟩
    · cases h
  | send t =>
    simp only [portStep] at h
    split at h
    · rename_i ht
      cases h
      exact ⟨_, .advance t (.waiting 0) (by simp [Port.bus, ht, Phase.Holding]) trivial, by simp [EndsByTimeout]⟩
    · cases h
  | wait t =>
    simp only [portStep] at h
    split at h
    · rename_i n ht
      cases h
      exact wait_bus ht
    · cases h
  | poll ok ex e =>
    simp only [portStep] at h
    split at h
    · cases h
      refine ⟨True, ?_, by simp [EndsByTimeout]⟩
      have hb : (eMBMasterPoll ok ex e s).bus = s.bus := by
        unfold eMBMasterPoll
        dsimp only
        split
        · exact bus_handleEvent _ _ _ _
        · rfl
      rw [hb]
      exact .other
    · cases h
  | release =>
    simp only [portStep] at h
    split at h
    · cases h
      refine ⟨True, ?_, by simp [EndsByTimeout]⟩
      have hstep : BusStep chk s.bus True _ := .release
      rw [← bus_release] at hstep
      exact hstep
    · cases h
  | interrupt err e =>
    cases h
    exact ⟨True, .other, by simp [EndsByTimeout]⟩

/-! ### Invariants of the bus -/

/-- A request holds the mutex only as its owner, only waiting tasks stand in its list, and the poll task
neither owns it nor waits. -/
structure Bus.Ok (b : Bus) : Prop where
  mutex : b.mutex.Ok
  holds : ∀ t, (b.phase t).Holding → b.mutex.OwnerTCBPtr = some (.scan t)
  pends : ∀ t, .scan t ∈ b.mutex.PendList ↔ b.phase t = .pending
  poll : b.mutex.OwnerTCBPtr ≠ some .poll ∧ .poll ∉ b.mutex.PendList

/-- The mutex is held by requests under way only, and once. -/
structure Bus.Clean (b : Bus) : Prop extends b.Ok where
  owned : ∀ t, b.mutex.OwnerTCBPtr = some (.scan t) → (b.phase t).Holding ∧ b.mutex.OwnerNestingCtr = 1

/-- The mutex has been left owned: it is held once more than there are requests under way. -/
structure Bus.Stuck (b : Bus) : Prop extends b.Ok where
  owned : b.mutex.OwnerTCBPtr ≠ none
  nested : ∀ t, (b.phase t).Holding → 2 ≤ b.mutex.OwnerNestingCtr

/-- Two requests do not hold the mutex at a time. -/
def Bus.Exclusive (b : Bus) : Prop := ∀ t u, (b.phase t).Holding → (b.phase u).Holding → t = u

variable {b b' : Bus} {ok : Prop}

theorem Bus.Ok.exclusive (h : b.Ok) : b.Exclusive := fun t u ht hu =>
  Task.scan.inj (Option.some.inj ((h.holds t ht).symm.trans (h.holds u hu)))

theorem clean_init : xMBMasterPortEventInit.bus.Clean where
  mutex := ok_create
  holds t h := h.elim
  pends t := ⟨fun h => absurd h List.not_mem_nil, nofun⟩
  poll := ⟨nofun, List.not_mem_nil⟩
  owned t h := by cases h

theorem Bus.Clean.free (h : b.Clean) (hq : ∀ t, ¬(b.phase t).Holding) : b.mutex.Free := by
  have hnone : b.mutex.OwnerTCBPtr = none := by
    cases ho : b.mutex.OwnerTCBPtr with
    | none => rfl
    | some task =>
      cases task with
      | scan t => exact absurd (h.owned t ho).1 (hq t)
      | poll => exact absurd ho h.poll.1
  exact ⟨hnone, h.mutex.owner.mpr hnone⟩

theorem Bus.Ok.setPhase {t : ScanTask} {p : Phase} (h : b.Ok) (hp : p ≠ .pending) (h0 : b.phase t ≠ .pending)
    (hold : p.Holding → b.mutex.OwnerTCBPtr = some (.scan t)) :
    Bus.Ok ⟨b.mutex, Function.update b.phase t p⟩ where
  mutex := h.mutex
  holds u hu := by
    by_cases hut : u = t
    · subst hut
      exact hold (by simpa using hu)
    · exact h.holds u (by simpa [hut] using hu)
  pends u := by
    by_cases hut : u = t
    · subst hut
      simp [h.pends, hp, h0]
    · simp [h.pends, hut]
  poll := h.poll

theorem Phase.Holding.ne_pending {p : Phase} (h : p.Holding) : p ≠ .pending := by
  rintro rfl
  exact h

theorem Bus.Ok.give {t : ScanTask} {n : ℕ} {list : List Task} {phase : ScanTask → Phase} (hn : n ≠ 0)
    (hlist : list.Nodup) (hpoll : .poll ∉ list) (hpend : ∀ u, .scan u ∈ list ↔ phase u = .pending)
    (ht : phase t ≠ .pending) (hold : ∀ u, (phase u).Holding → u = t) :
    Bus.Ok ⟨⟨some (.scan t), n, list⟩, phase⟩ where
  mutex := by
    refine ⟨by simp [hn], fun task hmem => ⟨nofun, fun h => ?_⟩, hlist⟩
    cases h
    exact ht ((hpend t).mp hmem)
  holds u hu := by rw [hold u hu]
  pends := hpend
  poll := ⟨by simp, hpoll⟩

theorem Bus.Ok.idle_of_owner_none (h : b.Ok) (ho : b.mutex.OwnerTCBPtr = none) (t : ScanTask) :
    ¬(b.phase t).Holding := fun ht => by
  have := h.holds t ht
  rw [ho] at this
  cases this

theorem holding_of_pending {phase : ScanTask → Phase} {t v : ScanTask}
    (hv : (Function.update phase t .pending v).Holding) : (phase v).Holding := by
  by_cases hvt : v = t
  · subst hvt
    simp [Phase.Holding] at hv
  · simpa [hvt] using hv

/-- A task waits for the mutex of another one: it stands at the end of its list. -/
theorem Bus.Ok.queue {t : ScanTask} {task : Task} (h : b.Ok) (ht : b.phase t = .idle)
    (ho : b.mutex.OwnerTCBPtr = some task) (hne : task ≠ .scan t) :
    Bus.Ok ⟨⟨some task, b.mutex.OwnerNestingCtr, b.mutex.PendList ++ [.scan t]⟩,
      Function.update b.phase t .pending⟩ := by
  have hnotpend : .scan t ∉ b.mutex.PendList := fun hmem => by
    have := (h.pends t).mp hmem
    rw [ht] at this
    cases this
  refine ⟨⟨?_, fun u hmem => ?_, ?_⟩, fun v hv => ?_, fun v => ?_, ?_⟩
  · rw [← ho]
    exact h.mutex.owner
  · rcases List.mem_append.mp hmem with hmem | hmem
    · rw [← ho]
      exact h.mutex.pend u hmem
    · rw [List.mem_singleton.mp hmem]
      exact ⟨nofun, by simpa using hne⟩
  · rw [List.nodup_append]
    refine ⟨h.mutex.nodup, by simp, ?_⟩
    intro a ha b hb
    rw [List.mem_singleton.mp hb]
    rintro rfl
    exact hnotpend ha
  · rw [← ho]
    exact h.holds v (holding_of_pending hv)
  · by_cases hvt : v = t
    · subst hvt
      simp
    · simp [hvt, h.pends v]
  · refine ⟨?_, ?_⟩
    · rw [← ho]
      exact h.poll.1
    · simp [h.poll.2]

/-- **A task starts a request** while the mutex is free, its own or another's. -/
theorem take_cases {t : ScanTask} (h : b.Ok) (ht : b.phase t = .idle) :
    let r := OSMutexPend (.scan t) b.mutex
    let b' : Bus := ⟨r.1, Function.update b.phase t (if r.2 then .taken else .pending)⟩
    b'.Ok ∧
      ((b.mutex.OwnerTCBPtr = none ∧ b'.mutex.OwnerTCBPtr = some (.scan t) ∧ b'.mutex.OwnerNestingCtr = 1 ∧
          (b'.phase t).Holding) ∨
        (b.mutex.OwnerTCBPtr = some (.scan t) ∧ b'.mutex.OwnerTCBPtr = some (.scan t) ∧
          2 ≤ b'.mutex.OwnerNestingCtr) ∨
        (b.mutex.OwnerTCBPtr ≠ some (.scan t) ∧ b'.mutex.OwnerTCBPtr = b.mutex.OwnerTCBPtr ∧
          b.mutex.OwnerTCBPtr ≠ none ∧ b'.mutex.OwnerNestingCtr = b.mutex.OwnerNestingCtr ∧
          ∀ u, (b'.phase u).Holding → (b.phase u).Holding)) := by
  have hnotpend : .scan t ∉ b.mutex.PendList := fun hmem => by
    have := (h.pends t).mp hmem
    rw [ht] at this
    cases this
  rcases pend_cases h.mutex (.scan t) with ⟨ho, hl, hr⟩ | ⟨ho, n, hn, hr⟩ | ⟨u, hu, ho, hr⟩
  · -- the mutex is free
    simp only [hr, if_true]
    refine ⟨.give (by simp) List.nodup_nil List.not_mem_nil (fun u => ?_) (by simp) fun u hu => ?_,
      Or.inl ⟨ho, trivial, trivial, by simp [Phase.Holding]⟩⟩
    · have hmem : .scan u ∉ b.mutex.PendList := by simp [hl]
      by_cases hut : u = t
      · subst hut
        simp
      · simpa [hut] using mt (h.pends u).mpr hmem
    · by_contra hut
      rw [Function.update_of_ne hut] at hu
      exact h.idle_of_owner_none ho u hu
  · -- the task has it already
    simp only [hr, if_true]
    refine ⟨.give (by omega) h.mutex.nodup h.poll.2 (fun u => ?_) (by simp) fun u hu => ?_,
      Or.inr (Or.inl ⟨ho, trivial, hn⟩)⟩
    · by_cases hut : u = t
      · subst hut
        simpa using hnotpend
      · simpa [hut] using h.pends u
    · by_contra hut
      rw [Function.update_of_ne hut] at hu
      have := h.holds u hu
      rw [ho] at this
      cases this
      exact hut rfl
  · -- another task has it
    simp only [hr, Bool.false_eq_true, if_false]
    refine ⟨h.queue ht ho hu, Or.inr (Or.inr ⟨?_, ho.symm, by simp [ho], trivial, fun v hv => holding_of_pending hv⟩)⟩
    rw [ho]
    simpa using hu

/-- The release of the poll task has no effect. -/
theorem release_eq (h : b.Ok) :
    (⟨(OSMutexPost chk .poll OS_OPT_POST_ALL b.mutex).1,
      wakePhase b.phase (OSMutexPost chk .poll OS_OPT_POST_ALL b.mutex).2⟩ : Bus) = b := by
  rw [post_of_not_owner h.poll.1]
  rfl

/-- The first task that waits for the mutex gets it, and the request of its owner ends. -/
theorem Bus.Ok.handOver {t u : ScanTask} {list : List Task} (h : b.Ok) (ht : (b.phase t).Holding)
    (hl : b.mutex.PendList = .scan u :: list) : u ≠ t ∧
      Bus.Ok ⟨⟨some (.scan u), 1, list⟩, Function.update (Function.update b.phase u .taken) t .idle⟩ := by
  have hnodup := h.mutex.nodup
  rw [hl, List.nodup_cons] at hnodup
  have hu : b.phase u = .pending := (h.pends u).mp (by simp [hl])
  have hut : u ≠ t := fun hut => ht.ne_pending (hut ▸ hu)
  refine ⟨hut, .give (by simp) hnodup.2 ?_ (fun v => ?_) ?_ fun v hv => ?_⟩
  · exact fun hmem => h.poll.2 (by simp [hl, hmem])
  · -- who still waits
    have hv := h.pends v
    rw [hl] at hv
    by_cases hvt : v = t
    · subst hvt
      have hnp : ¬b.phase v = .pending := ht.ne_pending
      simp only [List.mem_cons, hnp, iff_false, not_or] at hv
      simpa using hv.2
    · by_cases hvu : v = u
      · subst hvu
        simpa [hvt] using hnodup.1
      · simpa [hvt, hvu] using hv
  · simp [hut]
  · by_contra hvu
    by_cases hvt : v = t
    · subst hvt
      simp [Phase.Holding] at hv
    · exact hvt (h.exclusive v t (by simpa [hvt, hvu] using hv) ht)

/-- **The release of a request that ends by its timeout**, where the kernel takes the option. -/
theorem timeout_cases {t : ScanTask} (h : b.Ok) (ht : (b.phase t).Holding) :
    let r := OSMutexPost false (.scan t) OS_OPT_POST_ALL b.mutex
    let b' : Bus := ⟨r.1, Function.update (wakePhase b.phase r.2) t .idle⟩
    b'.Ok ∧
      ((2 ≤ b.mutex.OwnerNestingCtr ∧ b'.mutex.OwnerTCBPtr = some (.scan t) ∧ ∀ u, ¬(b'.phase u).Holding) ∨
        (b.mutex.OwnerNestingCtr = 1 ∧ b'.mutex.OwnerTCBPtr = none) ∨
        ∃ u, b.mutex.OwnerNestingCtr = 1 ∧ b'.mutex.OwnerTCBPtr = some (.scan u) ∧
          b'.mutex.OwnerNestingCtr = 1 ∧ (b'.phase u).Holding) := by
  have ho := h.holds t ht
  have hn : b.mutex.OwnerNestingCtr ≠ 0 := fun h0 => by
    have := h.mutex.owner.mp h0
    rw [ho] at this
    cases this
  have honly (u : ScanTask) (hu : (b.phase u).Holding) : u = t := h.exclusive u t hu ht
  have hidle (u : ScanTask) : ¬(Function.update b.phase t .idle u).Holding := fun hu => by
    by_cases hut : u = t
    · subst hut
      simp [Phase.Holding] at hu
    · exact hut (honly u (by simpa [hut] using hu))
  rcases post_of_owner OS_OPT_POST_ALL hn ho with ⟨h2, hr⟩ | ⟨h1, hl, hr⟩ | ⟨task, list, h1, hl, hr⟩
  · -- the mutex is given back once of several times
    simp only [hr, wakePhase]
    refine ⟨.give (by omega) h.mutex.nodup h.poll.2 (fun u => ?_) (by simp) fun u hu => absurd hu (hidle u),
      Or.inl ⟨h2, trivial, hidle⟩⟩
    by_cases hut : u = t
    · subst hut
      have hmem : .scan u ∉ b.mutex.PendList := fun hmem => ht.ne_pending ((h.pends u).mp hmem)
      simpa using hmem
    · simpa [hut] using h.pends u
  · -- no task waits for it
    simp only [hr, wakePhase]
    refine ⟨⟨⟨by simp, by simp, List.nodup_nil⟩, fun u hu => absurd hu (hidle u), fun u => ?_, by simp⟩,
      Or.inr (Or.inl ⟨h1, trivial⟩)⟩
    have hmem : .scan u ∉ b.mutex.PendList := by simp [hl]
    by_cases hut : u = t
    · subst hut
      simp
    · simpa [hut] using mt (h.pends u).mpr hmem
  · have htask : task ∈ b.mutex.PendList := by simp [hl]
    cases task with
    | poll => exact absurd htask h.poll.2
    | scan u =>
      obtain ⟨hut, hb⟩ := h.handOver ht hl
      simp only [hr, wakePhase]
      exact ⟨hb, Or.inr (Or.inr ⟨u, h1, rfl, trivial, by simp [hut, Phase.Holding]⟩)⟩

/-! ### Steps and runs -/

theorem advance_ok {t : ScanTask} {p : Phase} (h : b.Ok) (ht : (b.phase t).Holding) (hp : p ≠ .pending) :
    Bus.Ok ⟨b.mutex, Function.update b.phase t p⟩ := h.setPhase hp ht.ne_pending fun _ => h.holds t ht

theorem BusStep.keepsOk (h : BusStep chk b ok b') (hb : b.Ok) : b'.Ok := by
  cases h with
  | other => exact hb
  | take t ht => exact (take_cases hb ht).1
  | advance t p ht hp => exact advance_ok hb ht hp.ne_pending
  | leave t ht => exact advance_ok hb ht nofun
  | timeout t ht =>
    cases chk with
    | false => exact (timeout_cases hb ht).1
    | true =>
      rw [post_all_checked]
      exact advance_ok hb ht nofun
  | release =>
    rw [release_eq hb]
    exact hb

/-- **A clean mutex stays clean** by a step that gives it back. -/
theorem BusStep.clean (h : BusStep chk b ok b') (hc : b.Clean) (hok : ok) : b'.Clean := by
  cases h with
  | other => exact hc
  | take t ht =>
    obtain ⟨hb, ⟨-, ho, h1, hold⟩ | ⟨ho, -, -⟩ | ⟨hne, ho, -, hn, hback⟩⟩ := take_cases hc.toOk ht
    · refine ⟨hb, ?_⟩
      intro u hu
      cases ho.symm.trans hu
      exact ⟨hold, h1⟩
    · have := (hc.owned t ho).1
      rw [ht] at this
      exact this.elim
    · refine ⟨hb, ?_⟩
      intro u hu
      rw [ho] at hu
      have hut : u ≠ t := fun hut => hne (hut ▸ hu)
      obtain ⟨hold, h1⟩ := hc.owned u hu
      exact ⟨by simpa [hut] using hold, hn.trans h1⟩
  | advance t p ht hp =>
    refine ⟨advance_ok hc.toOk ht hp.ne_pending, ?_⟩
    intro u hu
    obtain ⟨hold, h1⟩ := hc.owned u hu
    by_cases hut : u = t
    · subst hut
      exact ⟨by simpa using hp, h1⟩
    · exact ⟨by simpa [hut] using hold, h1⟩
  | leave t ht => exact hok.elim
  | timeout t ht =>
    subst hok
    have h1 := (hc.owned t (hc.holds t ht)).2
    obtain ⟨hb, ⟨h2, -, -⟩ | ⟨-, ho⟩ | ⟨u, -, ho, hn, hold⟩⟩ := timeout_cases hc.toOk ht
    · omega
    · refine ⟨hb, ?_⟩
      intro u hu
      cases ho.symm.trans hu
    · refine ⟨hb, ?_⟩
      intro v hv
      cases ho.symm.trans hv
      exact ⟨hold, hn⟩
  | release =>
    rw [release_eq hc.toOk]
    exact hc

/-- The request of `t` has ended, and the mutex is still the task's. -/
theorem stuck_of_idle {t : ScanTask} (h : b.Ok) (ht : (b.phase t).Holding) :
    Bus.Stuck ⟨b.mutex, Function.update b.phase t .idle⟩ where
  toOk := advance_ok h ht nofun
  owned := by
    dsimp only
    rw [h.holds t ht]
    nofun
  nested u hu := by
    by_cases hut : u = t
    · subst hut
      simp [Phase.Holding] at hu
    · exact absurd (h.exclusive u t (by simpa [hut] using hu) ht) hut

/-- **A step that does not give the mutex back** leaves it owned. -/
theorem BusStep.stuck_of (h : BusStep chk b ok b') (hc : b.Clean) (hok : ¬ok) : b'.Stuck := by
  cases h with
  | leave t ht => exact stuck_of_idle hc.toOk ht
  | timeout t ht =>
    obtain rfl : chk = true := by simpa using hok
    rw [post_all_checked]
    exact stuck_of_idle hc.toOk ht
  | _ => exact absurd trivial hok

/-- **A mutex that is left owned stays so.** -/
theorem BusStep.stuck (h : BusStep chk b ok b') (hs : b.Stuck) : b'.Stuck := by
  cases h with
  | other => exact hs
  | take t ht =>
    obtain ⟨hb, ⟨ho, -⟩ | ⟨ho, ho', h2⟩ | ⟨-, ho, hne, hn, hback⟩⟩ := take_cases hs.toOk ht
    · exact absurd ho hs.owned
    · exact ⟨hb, by rw [ho']; nofun, fun _ _ => h2⟩
    · refine ⟨hb, by rw [ho]; exact hne, ?_⟩
      intro u hu
      rw [hn]
      exact hs.nested u (hback u hu)
  | advance t p ht hp =>
    exact ⟨advance_ok hs.toOk ht hp.ne_pending, hs.owned, fun _ _ => hs.nested t ht⟩
  | leave t ht => exact stuck_of_idle hs.toOk ht
  | timeout t ht =>
    cases chk with
    | true =>
      rw [post_all_checked]
      exact stuck_of_idle hs.toOk ht
    | false =>
      have h2 := hs.nested t ht
      obtain ⟨hb, ⟨-, ho, hidle⟩ | ⟨h1, -⟩ | ⟨u, h1, -⟩⟩ := timeout_cases hs.toOk ht
      · exact ⟨hb, by rw [ho]; nofun, fun u hu => absurd hu (hidle u)⟩
      · omega
      · omega
  | release =>
    rw [release_eq hs.toOk]
    exact hs

/-- All requests have returned, and the poll task has processed their completion. -/
def Quiet (s : Port) : Prop := (∀ t, ¬(s.phase t).Holding) ∧ s.releasing = false

/-- **The bus is handed back exactly by requests that time out**, and never held by two requests: in every
state `s` that a run of the port reaches. -/
theorem bus_handed_back_iff (chk : Bool) {es : List PortEvent} {s : Port}
    (hr : run (portStep chk) xMBMasterPortEventInit es = some s) :
    s.bus.Exclusive ∧
      (Quiet s → (s.sMBIdleMutex.Free ↔ Meets (portStep chk) (EndsByTimeout chk) xMBMasterPortEventInit es)) := by
  have hclean (s : Port) (ev : PortEvent) (s' : Port) (hc : s.bus.Clean) (hok : EndsByTimeout chk s ev)
      (h : portStep chk s ev = some s') : s'.bus.Clean := by
    obtain ⟨ok, hb, hiff⟩ := portStep_bus h
    exact hb.clean hc (hiff.mpr hok)
  have hbad (s : Port) (ev : PortEvent) (s' : Port) (hc : s.bus.Clean) (hok : ¬EndsByTimeout chk s ev)
      (h : portStep chk s ev = some s') : s'.bus.Stuck := by
    obtain ⟨ok, hb, hiff⟩ := portStep_bus h
    exact hb.stuck_of hc fun h => hok (hiff.mp h)
  have hstuck (s : Port) (ev : PortEvent) (s' : Port) (hs : s.bus.Stuck) (h : portStep chk s ev = some s') :
      s'.bus.Stuck := by
    obtain ⟨ok, hb, -⟩ := portStep_bus h
    exact hb.stuck hs
  by_cases hm : Meets (portStep chk) (EndsByTimeout chk) xMBMasterPortEventInit es
  · have hc : s.bus.Clean := Meets.run_induction (P := fun s : Port => s.bus.Clean) hclean clean_init hm hr
    exact ⟨hc.exclusive, fun hq => ⟨fun _ => hm, fun _ => hc.free hq.1⟩⟩
  · have hs : s.bus.Stuck := not_meets_run (P := fun s : Port => s.bus.Clean) (I := fun s : Port => s.bus.Stuck)
      hclean hbad hstuck clean_init hm hr
    exact ⟨hs.exclusive, fun _ => ⟨fun hfree => absurd hfree.1 hs.owned, fun h => absurd h hm⟩⟩

/-! ### A request that is answered -/

/-- A read request: the frame is sent, the response comes and is processed, the poll task releases the
mutex, and the request returns. -/
def answered : List PortEvent :=
  [.take .scanRead, .clear .scanRead, .send .scanRead, .poll true false .EV_MASTER_READY,
    .interrupt .EV_ERROR_RESPOND_TIMEOUT .EV_MASTER_FRAME_RECEIVED, .wait .scanRead,
    .poll true false .EV_MASTER_READY, .poll true false .EV_MASTER_READY, .release, .wait .scanRead]

/-- A request without an answer: ten delays, and the end of the wait. -/
def unanswered : List PortEvent :=
  [.take .scanRead, .clear .scanRead, .send .scanRead, .poll true false .EV_MASTER_READY] ++
    List.replicate 11 (.wait .scanRead)

/-- The outcome of a run: the mutex, who is in a request, and whether the poll task is to release. -/
def outcome (s : Port) : OS_MUTEX Task × Phase × Phase × Bool :=
  (s.sMBIdleMutex, s.phase .scanRead, s.phase .scanWrite, s.releasing)

theorem quiet_of_idle {s : Port} (hr : s.phase .scanRead = .idle) (hw : s.phase .scanWrite = .idle)
    (hp : s.releasing = false) : Quiet s :=
  ⟨fun t => by cases t <;> simp [hr, hw, Phase.Holding], hp⟩

/-- After an unanswered request, in a kernel without argument checking, the mutex is free. -/
theorem bus_handed_back_unanswered :
    ∃ s, run (portStep false) xMBMasterPortEventInit unanswered = some s ∧ s.sMBIdleMutex.Free := by
  have hend : (run (portStep false) xMBMasterPortEventInit unanswered).map outcome =
      some (OSMutexCreate, .idle, .idle, false) := by decide
  obtain ⟨s, hs, ho⟩ := Option.map_eq_some_iff.mp hend
  simp only [outcome, Prod.mk.injEq] at ho
  obtain ⟨-, hr, hw, hp⟩ := ho
  have hm : Meets (portStep false) (EndsByTimeout false) xMBMasterPortEventInit unanswered := by
    decide
  exact ⟨s, hs, ((bus_handed_back_iff false hs).2 (quiet_of_idle hr hw hp)).mpr hm⟩

theorem answered_outcome (chk : Bool) :
    (run (portStep chk) xMBMasterPortEventInit answered).map outcome =
      some (⟨some (.scan .scanRead), 1, []⟩, .idle, .idle, false) := by
  cases chk <;> decide

theorem not_free_of_answered (chk : Bool) :
    ∃ s, run (portStep chk) xMBMasterPortEventInit answered = some s ∧ Quiet s ∧ ¬s.sMBIdleMutex.Free := by
  obtain ⟨s, hs, ho⟩ := Option.map_eq_some_iff.mp (answered_outcome chk)
  simp only [outcome, Prod.mk.injEq] at ho
  obtain ⟨hm, hr, hw, hp⟩ := ho
  refine ⟨s, hs, quiet_of_idle hr hw hp, ?_⟩
  intro hfree
  rw [hm] at hfree
  exact absurd hfree.1 nofun

/-- **After an answered request the mutex is still owned**, without and with argument checking. -/
theorem bus_not_handed_back :
    (∃ s, run (portStep false) xMBMasterPortEventInit answered = some s ∧ Quiet s ∧ ¬s.sMBIdleMutex.Free) ∧
      ∃ s, run (portStep true) xMBMasterPortEventInit answered = some s ∧ Quiet s ∧ ¬s.sMBIdleMutex.Free :=
  ⟨not_free_of_answered false, not_free_of_answered true⟩

end GreeIntense.Master

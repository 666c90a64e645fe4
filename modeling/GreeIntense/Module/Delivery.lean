import GreeIntense.Lib.Run
import GreeIntense.Module.Event

/-!
# Which notifications arrive

There is one message object for all changes, and no queue holds a post: a change is lost when it is posted
while the event task or the subscriber is not pending, and mixed up when the next change is detected before
the message has been forwarded and read.  `delivered_iff` says that a run delivers its changes exactly when
neither happens (`Intact`).
-/

namespace GreeIntense.Module

open Lib.Run

variable {τ : Type}

/-! ### Delivery -/

/-- The monitor task has detected a change that it has not posted. -/
def Unposted (s : Pump τ) : Prop := ∃ i, s.monitor = .writing i ∨ s.monitor = .posting i

/-- The event task has the `k`-th change and is at the subscription of index `j`. -/
def Forwarding (s : Pump τ) (j k : ℕ) : Prop := s.event = .loop j k ∨ s.event = .posting j k

/-- The `k`-th change has not been posted, or the event task has it and is not through with the
subscription. -/
def OnTheWay (evs : List (sEvent τ)) (s : Pump τ) (k : ℕ) (e : sEvent τ) : Prop :=
  (Unposted s ∧ k + 1 = s.changes.length) ∨ ∃ j, Forwarding s j k ∧ e ∈ evs.drop j

/-- **Nothing is lost or mixed up**: what a task reads is the variable of the change it was woken for; a
change has reached the tasks subscribed to its semaphore or is on the way to them; and it has reached no
other task, and none twice. -/
structure Delivered (evs : List (sEvent τ)) (s : Pump τ) : Prop where
  reads : ∀ t k a, (t, k, a) ∈ s.reads → ∃ c, s.changes[k]? = some c ∧ a = c.pvArg
  reaches : ∀ k c e, s.changes[k]? = some c → e ∈ evs → c.psSem = e.psSem →
    (e, k) ∈ s.received ∨ OnTheWay evs s k e
  only : ∀ e k, (e, k) ∈ s.received → ∃ c, s.changes[k]? = some c ∧ e ∈ evs ∧ c.psSem = e.psSem
  once : s.received.Nodup

/-- A change that is through with the event task and has not been received is lost. -/
theorem Delivered.not_lost {evs : List (sEvent τ)} {s : Pump τ} (h : Delivered evs s) {k : ℕ} {c : sEventMsg}
    {e : sEvent τ} (hc : s.changes[k]? = some c) (he : e ∈ evs) (hs : c.psSem = e.psSem)
    (hu : Unposted s → k + 1 ≠ s.changes.length) (hf : ∀ j, Forwarding s j k → e ∉ evs.drop j) :
    (e, k) ∈ s.received := by
  rcases h.reaches k c e hc he hs with hr | ⟨hr, hk⟩ | ⟨j, hj, hm⟩
  · exact hr
  · exact absurd hk (hu hr)
  · exact absurd hm (hf j hj)

/-- When the monitor has nothing to post and the event task is through, each task subscribed to the
semaphore of a change has received it exactly once. -/
theorem Delivered.count [DecidableEq τ] {evs : List (sEvent τ)} {s : Pump τ} (h : Delivered evs s) (hu : ¬Unposted s)
    (hf : ∀ j k, ¬Forwarding s j k) {k : ℕ} {c : sEventMsg} (hc : s.changes[k]? = some c) {t : τ}
    (ht : ⟨c.psSem, t⟩ ∈ evs) : s.received.countP (fun r => r.1.psTCB = t ∧ r.2 = k) = 1 := by
  have hr : (⟨c.psSem, t⟩, k) ∈ s.received :=
    h.not_lost hc ht rfl (fun hu' => absurd hu' hu) fun j hj => absurd hj (hf j k)
  rw [← List.count_eq_one_of_mem h.once hr, List.count_eq_countP]
  apply List.countP_congr
  intro r hr
  obtain ⟨e, k'⟩ := r
  simp only [decide_eq_true_eq, beq_iff_eq, Prod.mk.injEq]
  refine ⟨fun ⟨he, hk⟩ => ⟨?_, hk⟩, fun ⟨he, hk⟩ => ⟨by rw [he], hk⟩⟩
  obtain ⟨c', hc', -, hs⟩ := h.only e k' hr
  subst hk
  cases hc.symm.trans hc'
  subst he
  rw [hs]

/-- The changes that have been written into the message. -/
def Pump.written (s : Pump τ) : List Module.sEventMsg :=
  match s.monitor with
  | .writing _ => s.changes.dropLast
  | _ => s.changes

/-- **What delivery needs.**  A change is posted while the event task is pending, unless nobody is
subscribed.  When the event task compares at a subscription of the forwarded change's semaphore, the latest
change detected has this semaphore too; and when it posts, the subscriber is pending, just if the
subscription is of the forwarded change's semaphore.  When a task reads, the latest change written is of the
same variable as the change the task was woken for. -/
def Intact (evs : List (sEvent τ)) (s : Pump τ) : PumpEvent τ → Prop
  | .post => ∀ i, s.monitor = .posting i → s.event = .pending ∨
      ∀ l, s.changes.getLast? = some l → ∀ e ∈ evs, l.psSem ≠ e.psSem
  | .compare => ∀ j k, s.event = .loop j k → ∀ e, evs[j]? = some e → ∀ c, s.changes[k]? = some c →
      ∀ l, s.changes.getLast? = some l → c.psSem = e.psSem → l.psSem = e.psSem
  | .forward => ∀ j k, s.event = .posting j k → ∀ e, evs[j]? = some e → ∀ c, s.changes[k]? = some c →
      (c.psSem = e.psSem ↔ s.task e.psTCB = .pending)
  | .read t => ∀ k, s.task t = .got k → ∀ c, s.changes[k]? = some c → ∀ l, s.written.getLast? = some l →
      l.pvArg = c.pvArg
  | _ => True

/-- Nothing has been detected yet, and no task has a message. -/
structure Start (s : Pump τ) : Prop where
  changes : s.changes = []
  received : s.received = []
  reads : s.reads = []
  monitor : s.monitor = .delay
  event : ∀ j k, ¬Forwarding s j k
  task : ∀ t k, s.task t ≠ .got k

/-! ### The invariant -/

/-- The message object has the latest change; a change not posted has reached nobody and is not being
forwarded; a change being forwarded has not reached the subscriptions the event task is not through with;
and a task that has a message has received it. -/
structure Inv (mons : List sMonitorInfo) (evs : List (sEvent τ)) (s : Pump τ) : Prop extends Delivered evs s where
  psSem : ∀ l, s.changes.getLast? = some l → s.sEventMsg.psSem = l.psSem
  pvArg : ∀ l, s.written.getLast? = some l → s.sEventMsg.pvArg = l.pvArg
  writing : ∀ i e, s.monitor = .writing i → mons[i]? = some e → s.changes.getLast? = some ⟨e.psSem, e.pvVal⟩
  unposted : Unposted s → s.changes ≠ [] ∧ (∀ e, (e, s.changes.length - 1) ∉ s.received) ∧
    ∀ j k, Forwarding s j k → k ≠ s.changes.length - 1
  forwarding : ∀ j k, Forwarding s j k → ∃ c, s.changes[k]? = some c ∧
    ∀ e ∈ evs.drop j, (e, k) ∉ s.received
  got : ∀ t k, s.task t = .got k → ∃ psSem, (⟨psSem, t⟩, k) ∈ s.received

variable {mons : List sMonitorInfo} {evs : List (sEvent τ)} {s s' : Pump τ}

theorem Start.inv (h : Start s) : Inv mons evs s where
  reads t k a hr := by rw [h.reads] at hr; cases hr
  reaches k c t hc := by rw [h.changes] at hc; cases hc
  only t k hr := by rw [h.received] at hr; cases hr
  once := by rw [h.received]; exact List.nodup_nil
  psSem l hl := by rw [h.changes] at hl; cases hl
  pvArg l hl := by rw [Pump.written, h.monitor, h.changes] at hl; cases hl
  writing i e hi := by rw [h.monitor] at hi; cases hi
  unposted hu := by
    obtain ⟨i, hi | hi⟩ := hu <;>
    · rw [h.monitor] at hi
      cases hi
  forwarding j k hj := absurd hj (h.event j k)
  got t k ht := absurd ht (h.task t k)

theorem Pump.written_of_ne (h : ∀ i, s.monitor ≠ .writing i) : s.written = s.changes := by
  unfold Pump.written
  split
  · next i hi => exact absurd hi (h i)
  · rfl

theorem getLast_of_get {α : Type} {xs : List α} {k : ℕ} {c : α} (h : xs[k]? = some c) :
    ∃ l, xs.getLast? = some l :=
  ⟨_, List.getLast?_eq_some_getLast (List.ne_nil_of_length_pos (Nat.lt_of_le_of_lt (Nat.zero_le k)
    (List.getElem?_eq_some_iff.mp h).1))⟩

theorem getLast_get {α : Type} {xs : List α} {l : α} (h : xs.getLast? = some l) : xs[xs.length - 1]? = some l := by
  rw [← h, List.getLast?_eq_getElem?]

theorem get_snoc {α : Type} {xs : List α} {k : ℕ} {c : α} (d : α) (h : xs[k]? = some c) : (xs ++ [d])[k]? = some c := by
  rw [List.getElem?_append_left (List.getElem?_eq_some_iff.mp h).1, h]

theorem get_snoc_cases {α : Type} {xs : List α} {k : ℕ} {c d : α} (h : (xs ++ [d])[k]? = some c) :
    xs[k]? = some c ∨ (k = xs.length ∧ c = d) := by
  rcases Nat.lt_trichotomy k xs.length with hk | hk | hk
  · rw [List.getElem?_append_left hk] at h
    exact .inl h
  · subst hk
    rw [List.getElem?_append_right (Nat.le_refl _), Nat.sub_self] at h
    exact .inr ⟨rfl, (Option.some.inj h).symm⟩
  · rw [List.getElem?_eq_none (by rw [List.length_append, List.length_singleton]; omega)] at h
    cases h

/-! ### The monitor task -/

theorem not_unposted (h : s.monitor = .delay ∨ ∃ i, s.monitor = .at i) : ¬Unposted s := by
  rintro ⟨i', hi' | hi'⟩ <;>
  · rw [hi'] at h
    rcases h with h | ⟨i, h⟩ <;> cases h

theorem Inv.idle (h : Inv mons evs s) (hu : ¬Unposted s) (v : USHORT) (p : MonitorPc)
    (hp : p = .delay ∨ ∃ i, p = .at i) : Inv mons evs { s with usDataValue := v, monitor := p } := by
  have hu' : ¬Unposted { s with usDataValue := v, monitor := p } := not_unposted hp
  refine ⟨⟨h.reads, fun k c e hc he hs => ?_, h.only, h.once⟩, h.psSem, fun l hl => ?_, fun i e hi => ?_,
    fun hu => absurd hu hu', h.forwarding, h.got⟩
  · rcases h.reaches k c e hc he hs with hr | ⟨hr, -⟩ | hr
    · exact .inl hr
    · exact absurd hr hu
    · exact .inr (.inr hr)
  · rw [Pump.written_of_ne fun i hi => hu' ⟨i, .inl hi⟩] at hl
    exact h.pvArg l (by rw [Pump.written_of_ne fun i hi => hu ⟨i, .inl hi⟩]; exact hl)
  · exact absurd ⟨i, .inl hi⟩ hu'

theorem Inv.forwarding_lt (h : Inv mons evs s) {j k : ℕ} (hj : Forwarding s j k) : k < s.changes.length := by
  obtain ⟨c, hc, -⟩ := h.forwarding j k hj
  exact (List.getElem?_eq_some_iff.mp hc).1

theorem Inv.received_lt (h : Inv mons evs s) {e : sEvent τ} {k : ℕ} (hr : (e, k) ∈ s.received) :
    k < s.changes.length := by
  obtain ⟨c, hc, -⟩ := h.only e k hr
  exact (List.getElem?_eq_some_iff.mp hc).1

theorem Inv.monitorCheck (h : Inv mons evs s) {i : ℕ} (hi : s.monitor = .at i) {e : sMonitorInfo}
    (he : mons[i]? = some e) : Inv mons evs (monitorCheck i e s) := by
  have hu : ¬Unposted s := not_unposted (.inr ⟨i, hi⟩)
  unfold Module.monitorCheck
  dsimp only
  by_cases hv : s.usDataVal i ≠ monitorValue e s.vars s.usDataValue
  swap
  · rw [if_neg hv]
    exact h.idle hu _ _ (.inr ⟨i + 1, rfl⟩)
  rw [if_pos hv]
  refine ⟨⟨fun t k a hr => ?_, fun k c e' hc he' hs => ?_, fun e' k hr => ?_, h.once⟩, fun l hl => ?_,
    fun l hl => ?_, fun i' e' hi' he' => ?_, fun _ => ⟨?_, fun e' hr => ?_, fun j k hj hk => ?_⟩,
    fun j k hj => ?_, h.got⟩
  · -- the reads so far are of earlier changes
    obtain ⟨c, hc, ha⟩ := h.reads t k a hr
    exact ⟨c, get_snoc _ hc, ha⟩
  · rcases get_snoc_cases hc with hc | ⟨rfl, rfl⟩
    · rcases h.reaches k c e' hc he' hs with hr | ⟨hr, -⟩ | hr
      · exact .inl hr
      · exact absurd hr hu
      · exact .inr (.inr hr)
    · -- the new change has not been posted yet
      exact .inr (.inl ⟨⟨i, .inl rfl⟩, by simp⟩)
  · obtain ⟨c, hc, hs⟩ := h.only e' k hr
    exact ⟨c, get_snoc _ hc, hs⟩
  · -- `psSem` is the new change's, and `pvArg` still the one before
    rw [List.getLast?_append] at hl
    cases hl
    rfl
  · simp only [Pump.written, List.dropLast_concat] at hl
    exact h.pvArg l (by rw [Pump.written_of_ne fun i hi => hu ⟨i, .inl hi⟩]; exact hl)
  · cases hi'
    cases he.symm.trans he'
    simp
  · simp
  · -- nobody has received it, and the event task is not at it
    simp only [List.length_append, List.length_singleton, Nat.add_sub_cancel] at hr
    exact absurd (h.received_lt hr) (Nat.lt_irrefl _)
  · simp only [List.length_append, List.length_singleton, Nat.add_sub_cancel] at hk
    exact absurd (h.forwarding_lt hj) (by rw [hk]; exact Nat.lt_irrefl _)
  · obtain ⟨c, hc, hn⟩ := h.forwarding j k hj
    exact ⟨c, get_snoc _ hc, hn⟩

theorem Inv.monitorWrite (h : Inv mons evs s) {i : ℕ} (hi : s.monitor = .writing i) {e : sMonitorInfo}
    (he : mons[i]? = some e) : Inv mons evs (monitorWrite i e s) := by
  have hl := h.writing i e hi he
  refine ⟨⟨h.reads, fun k c e' hc he' hs => ?_, h.only, h.once⟩, h.psSem, fun l hl' => ?_,
    fun i' e' hi' => (nomatch hi'), fun _ => h.unposted ⟨i, .inl hi⟩, h.forwarding, h.got⟩
  · rcases h.reaches k c e' hc he' hs with hr | ⟨-, hr⟩ | hr
    · exact .inl hr
    · exact .inr (.inl ⟨⟨i, .inr rfl⟩, hr⟩)
    · exact .inr (.inr hr)
  · cases hl.symm.trans hl'
    rfl

theorem Inv.postEvent (h : Inv mons evs s) {i : ℕ} (hi : s.monitor = .posting i) (hok : Intact evs s .post) :
    Inv mons evs { postEvent (s.changes.length - 1) s with monitor := .at (i + 1) } := by
  obtain ⟨hne, hnr, hnf⟩ := h.unposted ⟨i, .inr hi⟩
  obtain ⟨l, hl⟩ : ∃ l, s.changes.getLast? = some l := ⟨_, List.getLast?_eq_some_getLast hne⟩
  have hw : s.written = s.changes := Pump.written_of_ne fun i' hi' => by rw [hi] at hi'; cases hi'
  unfold Module.postEvent
  by_cases he : s.event = .pending
  · -- the event task gets the change and has all subscriptions before it
    have hf (j k : ℕ) : ¬Forwarding s j k := by
      rintro (hj | hj) <;>
      · rw [he] at hj
        cases hj
    rw [if_pos he]
    refine ⟨⟨h.reads, fun k c e' hc he' hs => ?_, h.only, h.once⟩, h.psSem,
      fun l hl' => h.pvArg l (by rw [hw]; exact hl'), fun i' e' hi' => (nomatch hi'),
      fun hu => absurd hu (not_unposted (.inr ⟨i + 1, rfl⟩)), fun j k hj => ?_, h.got⟩
    · rcases h.reaches k c e' hc he' hs with hr | ⟨-, hk⟩ | ⟨j, hj, -⟩
      · exact .inl hr
      · refine .inr (.inr ⟨0, .inl ?_, he'⟩)
        simp [← hk]
      · exact absurd hj (hf j k)
    · rcases hj with hj | hj <;> cases hj
      exact ⟨l, getLast_get hl, fun e' _ => hnr e'⟩
  · -- the event task does not wait, and its queue has no room
    rw [if_neg he]
    refine ⟨⟨h.reads, fun k c e' hc he' hs => ?_, h.only, h.once⟩, h.psSem,
      fun l hl' => h.pvArg l (by rw [hw]; exact hl'), fun i' e' hi' => (nomatch hi'),
      fun hu => absurd hu (not_unposted (.inr ⟨i + 1, rfl⟩)), h.forwarding, h.got⟩
    rcases h.reaches k c e' hc he' hs with hr | ⟨-, hk⟩ | hr
    · exact .inl hr
    · -- the change is lost, and nobody is subscribed
      have hcl : c = l := by
        have hlast := getLast_get hl
        rw [show s.changes.length - 1 = k by omega, hc] at hlast
        exact Option.some.inj hlast
      subst hcl
      exact absurd hs ((hok i hi).resolve_left he c hl e' he')
    · exact .inr (.inr hr)

/-! ### The event task -/

theorem mem_drop {j : ℕ} {e e' : sEvent τ} (he : evs[j]? = some e) :
    e' ∈ evs.drop j ↔ e' = e ∨ e' ∈ evs.drop (j + 1) := by
  obtain ⟨hj, rfl⟩ := List.getElem?_eq_some_iff.mp he
  rw [List.drop_eq_getElem_cons hj, List.mem_cons]

/-- A subscription is there once, so the event task comes to it once. -/
theorem not_mem_drop (hevs : evs.Nodup) {j : ℕ} {e : sEvent τ} (he : evs[j]? = some e) : e ∉ evs.drop (j + 1) := by
  obtain ⟨hj, rfl⟩ := List.getElem?_eq_some_iff.mp he
  have hn := hevs.drop (i := j)
  rw [List.drop_eq_getElem_cons hj] at hn
  exact (List.nodup_cons.mp hn).1

theorem mem_of_get {j : ℕ} {e : sEvent τ} (he : evs[j]? = some e) : e ∈ evs := List.mem_of_getElem? he

theorem Inv.event (h : Inv mons evs s) {j k : ℕ} (hj : Forwarding s j k) {p : EventPc}
    (hp : ∀ j' k', p = .loop j' k' ∨ p = .posting j' k' → k' = k ∧ ∀ e ∈ evs.drop j', e ∈ evs.drop j)
    (hskip : ∀ c, s.changes[k]? = some c → ∀ e ∈ evs.drop j, c.psSem = e.psSem →
      ∃ j', (p = .loop j' k ∨ p = .posting j' k) ∧ e ∈ evs.drop j') : Inv mons evs { s with event := p } := by
  refine ⟨⟨h.reads, fun k' c e hc he hs => ?_, h.only, h.once⟩, h.psSem, h.pvArg, h.writing,
    fun hu => ⟨(h.unposted hu).1, (h.unposted hu).2.1, fun j' k' hf => ?_⟩, fun j' k' hf => ?_, h.got⟩
  · rcases h.reaches k' c e hc he hs with hr | hr | ⟨j₁, hj₁, hm⟩
    · exact .inl hr
    · exact .inr (.inl hr)
    · obtain ⟨rfl, rfl⟩ : j₁ = j ∧ k' = k := by
        rcases hj with hj | hj <;> rcases hj₁ with hj₁ | hj₁ <;> cases hj.symm.trans hj₁ <;> exact ⟨rfl, rfl⟩
      exact .inr (.inr (hskip c hc e hm hs))
  · obtain ⟨rfl, -⟩ := hp j' k' hf
    exact (h.unposted hu).2.2 j k' hj
  · obtain ⟨rfl, hsub⟩ := hp j' k' hf
    obtain ⟨c, hc, hn⟩ := h.forwarding j k' hj
    exact ⟨c, hc, fun e he => hn e (hsub e he)⟩

theorem Inv.eventCompare (h : Inv mons evs s) {j k : ℕ} (hj : s.event = .loop j k) {e : sEvent τ}
    (he : evs[j]? = some e) (hok : Intact evs s .compare) : Inv mons evs (eventCompare j k e s) := by
  unfold Module.eventCompare
  by_cases hs : s.sEventMsg.psSem = e.psSem
  · rw [if_pos hs]
    refine h.event (.inl hj) (fun j' k' hp => ?_) fun c hc e' he' _ => ⟨j, .inr rfl, he'⟩
    rcases hp with hp | hp <;> cases hp
    exact ⟨rfl, fun e he => he⟩
  · rw [if_neg hs]
    refine h.event (.inl hj) (fun j' k' hp => ?_) fun c hc e' he' hse => ⟨j + 1, .inl rfl, ?_⟩
    · rcases hp with hp | hp <;> cases hp
      exact ⟨rfl, fun e' he' => (mem_drop he).mpr (.inr he')⟩
    · rcases (mem_drop he).mp he' with rfl | he'
      · -- the message has another semaphore, but the subscription is of the forwarded change's
        obtain ⟨l, hl⟩ := getLast_of_get hc
        exact absurd ((h.psSem l hl).trans (hok j k hj e' he c hc l hl hse)) hs
      · exact he'

theorem Inv.eventEnd (h : Inv mons evs s) {j k : ℕ} (hj : s.event = .loop j k) (he : evs[j]? = none) :
    Inv mons evs { s with event := .away } := by
  refine h.event (.inl hj) (fun j' k' hp => ?_) fun c hc e' he' _ => ?_
  · rcases hp with hp | hp <;> cases hp
  · rw [List.drop_eq_nil_of_le (List.getElem?_eq_none_iff.mp he)] at he'
    cases he'

theorem Inv.eventPend (h : Inv mons evs s) (he : s.event = .away) : Inv mons evs { s with event := .pending } := by
  have hf (j k : ℕ) : ¬Forwarding s j k := by
    rintro (hj | hj) <;> cases he.symm.trans hj
  have hf' (j k : ℕ) : ¬Forwarding { s with event := .pending } j k := by
    rintro (hj | hj) <;> cases hj
  refine ⟨⟨h.reads, fun k c e hc hm hse => ?_, h.only, h.once⟩, h.psSem, h.pvArg, h.writing,
    fun hu => ⟨(h.unposted hu).1, (h.unposted hu).2.1, fun j k hj => absurd hj (hf' j k)⟩,
    fun j k hj => absurd hj (hf' j k), h.got⟩
  rcases h.reaches k c e hc hm hse with hr | hr | ⟨j, hj, -⟩
  · exact .inl hr
  · exact .inr (.inl hr)
  · exact absurd hj (hf j k)

/-! ### The subscribers -/

/-- The change a task has been woken for has been detected, and the message has been written since. -/
theorem Inv.got_written (h : Inv mons evs s) {t : τ} {k : ℕ} (ht : s.task t = .got k) :
    ∃ c l, s.changes[k]? = some c ∧ s.written.getLast? = some l := by
  obtain ⟨psSem, hr⟩ := h.got t k ht
  obtain ⟨c, hc, -⟩ := h.only _ k hr
  have hk := h.received_lt hr
  suffices hw : s.written ≠ [] from ⟨c, _, hc, List.getLast?_eq_some_getLast hw⟩
  unfold Pump.written
  split
  · next i hi =>
    have hne : k ≠ s.changes.length - 1 := fun hk => (h.unposted ⟨i, .inl hi⟩).2.1 _ (hk ▸ hr)
    refine List.ne_nil_of_length_pos ?_
    rw [List.length_dropLast]
    omega
  · exact List.ne_nil_of_length_pos (by omega)

theorem Inv.read (h : Inv mons evs s) {t : τ} {k : ℕ} (ht : s.task t = .got k) (hok : Intact evs s (.read t)) :
    Inv mons evs { s with reads := s.reads ++ [(t, k, s.sEventMsg.pvArg)] } := by
  refine ⟨⟨fun t' k' a hr => ?_, h.reaches, h.only, h.once⟩, h.psSem, h.pvArg, h.writing, h.unposted,
    h.forwarding, h.got⟩
  rcases List.mem_append.mp hr with hr | hr
  · exact h.reads t' k' a hr
  · cases List.mem_singleton.mp hr
    obtain ⟨c, l, hc, hl⟩ := h.got_written ht
    exact ⟨c, hc, (h.pvArg l hl).trans (hok k ht c hc l hl)⟩

variable [DecidableEq τ]

theorem Inv.postTask (hevs : evs.Nodup) (h : Inv mons evs s) {j k : ℕ} (hj : s.event = .posting j k) {e : sEvent τ}
    (he : evs[j]? = some e) (hok : Intact evs s .forward) :
    Inv mons evs { postTask e k s with event := .loop (j + 1) k } := by
  obtain ⟨c, hc, hn⟩ := h.forwarding j k (.inr hj)
  have hp : c.psSem = e.psSem ↔ s.task e.psTCB = .pending := hok j k hj e he c hc
  have hgo (j' k' : ℕ) (hp : EventPc.loop (j + 1) k = .loop j' k' ∨ EventPc.loop (j + 1) k = .posting j' k') :
      k' = k ∧ ∀ e' ∈ evs.drop j', e' ∈ evs.drop j := by
    rcases hp with hp | hp <;> cases hp
    exact ⟨rfl, fun e' he' => (mem_drop he).mpr (.inr he')⟩
  unfold Module.postTask
  by_cases ht : s.task e.psTCB = .pending
  swap
  · -- the task does not wait: the change must not be of its semaphore
    rw [if_neg ht]
    refine h.event (.inr hj) hgo fun c' hc' e' he' hs => ⟨j + 1, .inl rfl, ?_⟩
    cases hc.symm.trans hc'
    rcases (mem_drop he).mp he' with rfl | he'
    · exact absurd (hp.mp hs) ht
    · exact he'
  rw [if_pos ht]
  -- the task gets the change, which it has not got before
  have hnew : (e, k) ∉ s.received := hn e ((mem_drop he).mpr (.inl rfl))
  refine ⟨⟨h.reads, fun k' c' e' hc' he' hs => ?_, fun e' k' hr => ?_, ?_⟩, h.psSem, h.pvArg, h.writing,
    fun hu => ⟨(h.unposted hu).1, fun e' hr => ?_, fun j' k' hf => ?_⟩, fun j' k' hf => ?_, fun t k' hg => ?_⟩
  · rcases h.reaches k' c' e' hc' he' hs with hr | hr | ⟨j₁, hj₁, hm⟩
    · exact .inl (List.mem_append_left _ hr)
    · exact .inr (.inl hr)
    · obtain ⟨rfl, rfl⟩ : j₁ = j ∧ k' = k := by
        rcases hj₁ with hj₁ | hj₁ <;> cases hj.symm.trans hj₁
        exact ⟨rfl, rfl⟩
      rcases (mem_drop he).mp hm with rfl | hm
      · exact .inl (List.mem_append_right _ (List.mem_singleton.mpr rfl))
      · exact .inr (.inr ⟨j₁ + 1, .inl rfl, hm⟩)
  · rcases List.mem_append.mp hr with hr | hr
    · exact h.only e' k' hr
    · cases List.mem_singleton.mp hr
      exact ⟨c, hc, mem_of_get he, hp.mpr ht⟩
  · exact List.nodup_append.mpr ⟨h.once, List.nodup_singleton _, fun a ha b hb hab => by
      rw [hab, List.mem_singleton.mp hb] at ha
      exact hnew ha⟩
  · rcases List.mem_append.mp hr with hr | hr
    · exact (h.unposted hu).2.1 e' hr
    · obtain ⟨-, hk⟩ := Prod.mk.inj (List.mem_singleton.mp hr)
      exact (h.unposted hu).2.2 j k (.inr hj) hk.symm
  · obtain ⟨rfl, -⟩ := hgo j' k' hf
    exact (h.unposted hu).2.2 j k' (.inr hj)
  · -- the subscriptions behind have not got it, `e` being there once
    obtain ⟨rfl, hsub⟩ := hgo j' k' hf
    refine ⟨c, hc, ?_⟩
    intro e' he' hr
    rcases List.mem_append.mp hr with hr | hr
    · exact hn e' (hsub e' he') hr
    · cases List.mem_singleton.mp hr
      rcases hf with hf | hf <;> cases hf
      exact not_mem_drop hevs he he'
  · by_cases hte : t = e.psTCB
    · subst hte
      simp only [Function.update_self] at hg
      cases hg
      exact ⟨e.psSem, List.mem_append_right _ (List.mem_singleton.mpr rfl)⟩
    · simp only [Function.update_of_ne hte] at hg
      obtain ⟨psSem, hr⟩ := h.got t k' hg
      exact ⟨psSem, List.mem_append_left _ hr⟩

theorem Inv.task (h : Inv mons evs s) (t : τ) {p : TaskPc} (hp : ∀ k, p ≠ .got k) :
    Inv mons evs { s with task := Function.update s.task t p } := by
  refine ⟨⟨h.reads, h.reaches, h.only, h.once⟩, h.psSem, h.pvArg, h.writing, h.unposted, h.forwarding,
    fun t' k hg => ?_⟩
  by_cases ht : t' = t
  · subst ht
    simp only [Function.update_self] at hg
    exact absurd hg (hp k)
  · simp only [Function.update_of_ne ht] at hg
    exact h.got t' k hg

/-! ### One step -/

theorem step_inv (hevs : evs.Nodup) (h : Inv mons evs s) {ev : PumpEvent τ} (hok : Intact evs s ev)
    (hs : pumpStep mons evs s ev = some s') : Inv mons evs s' := by
  cases ev with
  | assign vars =>
    cases hs
    exact ⟨⟨h.reads, h.reaches, h.only, h.once⟩, h.psSem, h.pvArg, h.writing, h.unposted, h.forwarding, h.got⟩
  | pass =>
    obtain ⟨hm, rfl⟩ : s.monitor = .delay ∧ { s with monitor := .at 0 } = s' := by
      simpa [pumpStep] using hs
    exact h.idle (not_unposted (.inl hm)) _ _ (.inr ⟨0, rfl⟩)
  | check =>
    simp only [pumpStep] at hs
    split at hs
    · next i hi =>
      split at hs
      · next e he =>
        cases hs
        exact h.monitorCheck hi he
      · cases hs
        exact h.idle (not_unposted (.inr ⟨i, hi⟩)) _ _ (.inl rfl)
    · cases hs
  | write =>
    simp only [pumpStep] at hs
    split at hs
    · next i hi =>
      obtain ⟨e, he, rfl⟩ := Option.map_eq_some_iff.mp hs
      exact h.monitorWrite hi he
    · cases hs
  | post =>
    simp only [pumpStep] at hs
    split at hs
    · next i hi =>
      cases hs
      exact h.postEvent hi hok
    · cases hs
  | eventPend =>
    obtain ⟨he, rfl⟩ : s.event = .away ∧ { s with event := .pending } = s' := by
      simpa [pumpStep] using hs
    exact h.eventPend he
  | compare =>
    simp only [pumpStep] at hs
    split at hs
    · next j k hj =>
      split at hs
      · next e he =>
        cases hs
        exact h.eventCompare hj he hok
      · next he =>
        cases hs
        exact h.eventEnd hj he
    · cases hs
  | forward =>
    simp only [pumpStep] at hs
    split at hs
    · next j k hj =>
      obtain ⟨e, he, rfl⟩ := Option.map_eq_some_iff.mp hs
      exact h.postTask hevs hj he hok
    · cases hs
  | pend t =>
    obtain ⟨-, rfl⟩ : s.task t = .away ∧ { s with task := Function.update s.task t .pending } = s' := by
      simpa [pumpStep] using hs
    exact h.task t (by nofun)
  | read t =>
    simp only [pumpStep] at hs
    split at hs
    · next k hk =>
      cases hs
      exact h.read hk hok
    · cases hs
  | done t =>
    simp only [pumpStep] at hs
    split at hs
    · cases hs
      exact h.task t (by nofun)
    · cases hs

/-- **A step that does not meet the condition loses a change or mixes changes up.** -/
theorem intact_of_delivered (hevs : evs.Nodup) (h : Inv mons evs s) {ev : PumpEvent τ}
    (hd : ∀ s', pumpStep mons evs s ev = some s' → Delivered evs s') : Intact evs s ev := by
  cases ev with
  | post =>
    intro i hi
    by_cases he : s.event = .pending
    · exact .inl he
    right
    intro l hl e hm hs
    obtain ⟨hne, hnr, hnf⟩ := h.unposted ⟨i, .inr hi⟩
    -- the change reaches nobody
    have hd := hd { s with monitor := .at (i + 1) } (by simp only [pumpStep, hi, postEvent, if_neg he])
    exact hnr e (hd.not_lost (getLast_get hl) hm hs (fun hu => absurd hu (not_unposted (.inr ⟨i + 1, rfl⟩)))
      fun j hj => absurd rfl (hnf j _ hj))
  | compare =>
    intro j k hj e he c hc l hl hs
    -- the subscription would be passed over
    by_contra hls
    have hne : s.sEventMsg.psSem ≠ e.psSem := fun heq => hls ((h.psSem l hl).symm.trans heq)
    have hd := hd { s with event := .loop (j + 1) k } (by simp only [pumpStep, hj, he, eventCompare, if_neg hne])
    obtain ⟨c', hc', hn⟩ := h.forwarding j k (.inl hj)
    refine hn e ((mem_drop he).mpr (.inl rfl)) (hd.not_lost hc (mem_of_get he) hs (fun hu hk => ?_) fun j' hj' => ?_)
    · exact (h.unposted hu).2.2 j k (.inl hj) (Nat.eq_sub_of_add_eq hk)
    · rcases hj' with hj' | hj' <;> cases hj'
      exact not_mem_drop hevs he
  | forward =>
    intro j k hj e he c hc
    by_cases ht : s.task e.psTCB = .pending
    · -- the task gets a change of another semaphore
      have hd := hd _ (by simp only [pumpStep, hj, he, postTask, if_pos ht, Option.map_some]; rfl)
      obtain ⟨c', hc', -, hs⟩ := hd.only e k (List.mem_append_right _ (List.mem_singleton.mpr rfl))
      cases hc.symm.trans hc'
      exact iff_of_true hs ht
    · refine iff_of_false (fun hs => ?_) ht
      have hd := hd { s with event := .loop (j + 1) k }
        (by simp only [pumpStep, hj, he, postTask, if_neg ht, Option.map_some])
      obtain ⟨c', hc', hn⟩ := h.forwarding j k (.inr hj)
      refine hn e ((mem_drop he).mpr (.inl rfl)) (hd.not_lost hc (mem_of_get he) hs (fun hu hk => ?_) fun j' hj' => ?_)
      · exact (h.unposted hu).2.2 j k (.inr hj) (Nat.eq_sub_of_add_eq hk)
      · rcases hj' with hj' | hj' <;> cases hj'
        exact not_mem_drop hevs he
  | read t =>
    intro k hk c hc l hl
    have hd := hd { s with reads := s.reads ++ [(t, k, s.sEventMsg.pvArg)] } (by simp only [pumpStep, hk])
    obtain ⟨c', hc', ha⟩ := hd.reads t k _ (List.mem_append_right _ (List.mem_singleton.mpr rfl))
    cases hc.symm.trans hc'
    exact (h.pvArg l hl).symm.trans ha
  | _ => trivial

theorem intact_iff (hevs : evs.Nodup) (h : Inv mons evs s) (ev : PumpEvent τ) :
    Intact evs s ev ↔ ∀ s', pumpStep mons evs s ev = some s' → Delivered evs s' :=
  ⟨fun hok _ hs => (step_inv hevs h hok hs).toDelivered, intact_of_delivered hevs h⟩

/-! ### Every run -/

/-- **Notifications arrive exactly in the runs whose steps are intact.**  For any registered variables, any
subscriptions, each made once, and any scheduling of the tasks: in every state of the run nothing is lost or
mixed up if and only if every step of the run meets the condition. -/
theorem delivered_iff {subs : List (sEvent τ)} (hsubs : subs.Nodup) (h0 : Start s) (es : List (PumpEvent τ)) :
    Safe (pumpStep mons (eventList subs)) (Delivered (eventList subs)) s es ↔
      Meets (pumpStep mons (eventList subs)) (Intact (eventList subs)) s es := by
  have hn : (eventList subs).Nodup := eventList_nodup hsubs
  exact safe_iff_meets (I := Inv mons (eventList subs)) (A := fun _ _ => True)
    (fun _ _ _ hi _ hok hs => step_inv hn hi hok hs) (fun _ ev hi _ _ => intact_iff hn hi ev) meets_true
    h0.inv (Start.inv h0 : Inv mons (eventList subs) s).toDelivered

/-! ### Two changes in one pass -/

/-- Before the first pass. -/
def quiet : Pump Unit where
  vars _ := 0
  usDataVal _ := 0
  usDataValue := 0
  sEventMsg := ⟨0, 0⟩
  monitor := .delay
  event := .away
  task _ := .away
  changes := []
  received := []
  reads := []

theorem quiet_start : Start quiet where
  changes := rfl
  received := rfl
  reads := rfl
  monitor := rfl
  event j k h := by rcases h with h | h <;> cases h
  task t k h := by cases h

/-- Two variables under one semaphore. -/
def twoVars : List sMonitorInfo := [⟨10, 1, .uint8⟩, ⟨20, 1, .uint8⟩]

def oneTask : List (sEvent Unit) := [⟨1, ()⟩]

/-- One variable changes, and the change is posted, forwarded and read before the monitor goes on. -/
def oneChange : List (PumpEvent Unit) :=
  [.eventPend, .pend (), .assign fun a => if a = 10 then 1 else 0, .pass, .check, .write, .post, .compare, .forward,
    .read (), .done (), .compare, .check, .check]

/-- Both variables change, and the monitor is at the second before the event task compares. -/
def twoChanges : List (PumpEvent Unit) :=
  [.eventPend, .pend (), .assign fun a => if a = 10 ∨ a = 20 then 1 else 0, .pass, .check, .write, .post, .check,
    .write, .compare, .forward, .read (), .post, .compare]

theorem delivered_oneChange :
    Safe (pumpStep twoVars (eventList oneTask)) (Delivered (eventList oneTask)) quiet oneChange :=
  (delivered_iff (by decide) quiet_start oneChange).mpr (by
    simp [Meets, Intact, oneChange, pumpStep, quiet, twoVars, oneTask, eventList, vEventRegist, monitorCheck,
      monitorWrite, monitorValue, eventCompare, postEvent, postTask, Pump.written])

/-- The task is woken for the change at address 10 and reads the address 20; the change at address 20 reaches
nobody. -/
theorem notification_mixed_up : Start quiet ∧ oneTask.Nodup ∧
    ∃ s, run (pumpStep twoVars (eventList oneTask)) quiet twoChanges = some s ∧
      s.changes = [⟨1, 10⟩, ⟨1, 20⟩] ∧ s.reads = [((), 0, 20)] ∧ s.received = [(⟨1, ()⟩, 0)] ∧
      ¬Delivered (eventList oneTask) s := by
  have hrun : (run (pumpStep twoVars (eventList oneTask)) quiet twoChanges).map
      (fun s => (s.changes, s.reads, s.received)) = some ([⟨1, 10⟩, ⟨1, 20⟩], [((), 0, 20)], [(⟨1, ()⟩, 0)]) := by
    rfl
  obtain ⟨s, hs, hv⟩ := Option.map_eq_some_iff.mp hrun
  simp only [Prod.mk.injEq] at hv
  obtain ⟨hc, hr, hv⟩ := hv
  refine ⟨quiet_start, by decide, s, hs, hc, hr, hv, ?_⟩
  intro hd
  obtain ⟨c, hc', ha⟩ := hd.reads () 0 20 (by rw [hr]; exact List.mem_singleton.mpr rfl)
  rw [hc] at hc'
  cases hc'
  cases ha

end GreeIntense.Module

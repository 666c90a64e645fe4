import Mathlib.Data.List.Range
import GreeIntense.Lib.Linked
import GreeIntense.Lib.Run
import GreeIntense.Master.DevList
import GreeIntense.Module.Event

/-!
# The lists of monitored variables and of events (`md_monitor.c`, `md_event.c`)

Both modules take the nodes of their list from a buffer, one after the other (`useSlot`), and refuse what it has no room
for; `vMonitorRegist` also refuses a variable that is registered.  `Slots` is what the buffer, the list and the number
of the next slot have to do with the objects that have been accepted: those of `monitorList` and `eventList`.

* `Slots.use`: one more object;
* `monitors_registered`, `events_registered`: any calls;
* `monitorPass_posts`, `eventPass_posts`: a pass of the tasks over the list takes every object once.
-/

namespace GreeIntense.Module.Registry

open Lib.Linked Lib.Memory Lib.Run

abbrev MONITOR_DATA_MAX_NUM : ℕ := 90

/-! ### Buffers -/

section Slots

variable {δ ρ : Type*}

/-- The next slot of the buffer gets the data and is appended: the list, and the number of the slot after it. -/
def useSlot (list : LinkedList ℕ δ) (id : USHORT) (d : δ) : Option (LinkedList ℕ δ × USHORT) :=
  ((list.setData id.toNat d).append id.toNat).map fun list => (list, id + 1)

/-- The first slots of a buffer of `num`, which was `buf`, are in the list and hold the objects `objs`. -/
structure Slots (num : ℕ) (buf : ℕ → Node ℕ δ) (info : δ → ρ) (list : LinkedList ℕ δ) (id : USHORT) (objs : List ρ) :
    Prop where
  isList : list.IsList (List.range objs.length)
  content : (List.range objs.length).map (fun i => info (list.data i)) = objs
  next : id.toNat = objs.length
  room : objs.length ≤ num
  unused : ∀ i, objs.length ≤ i → list.mem i = buf i

variable {num : ℕ} {buf : ℕ → Node ℕ δ} {info : δ → ρ} {list : LinkedList ℕ δ} {id : USHORT} {objs : List ρ}

theorem slots_nil : Slots num buf info ⟨none, buf⟩ 0 [] :=
  ⟨LinkedList.isList_nil buf, rfl, rfl, Nat.zero_le _, fun _ _ => rfl⟩

/-- **One more object**: no null pointer is followed. -/
theorem Slots.use (h : Slots num buf info list id objs) (hlt : objs.length < num) (hnum : num ≤ 65535) (d : δ) :
    ∃ list', useSlot list id d = some (list', id + 1) ∧ Slots num buf info list' (id + 1) (objs ++ [info d]) := by
  -- the slot is none of those in the list
  have hnot : id.toNat ∉ List.range objs.length := by
    rw [h.next, List.mem_range]
    exact Nat.lt_irrefl _
  obtain ⟨list', happ, hlist'⟩ := (h.isList.setData id.toNat d).append hnot
  have hdata : list'.data = Function.update list.data objs.length d := by
    rw [hlist'.data, LinkedList.setData_data, h.next]
  refine ⟨list', by rw [useSlot, happ]; rfl, ?_, ?_, ?_, ?_, ?_⟩
  · rw [List.length_append, List.length_singleton, List.range_succ]
    nth_rewrite 2 [← h.next]
    exact hlist'.isList
  · rw [List.length_append, List.length_singleton, List.range_succ, List.map_append, hdata]
    congr 1
    · refine (List.map_congr_left fun i hi => ?_).trans h.content
      rw [Function.update_of_ne (Nat.ne_of_lt (List.mem_range.mp hi))]
    · rw [List.map_singleton, Function.update_self]
  · have hroom : id.toNat < 65535 := by
      rw [h.next]
      omega
    rw [List.length_append, List.length_singleton, toNat_add_one (y := 65535) hroom, h.next]
  · rw [List.length_append, List.length_singleton]
    omega
  · intro i hi
    rw [List.length_append, List.length_singleton] at hi
    have hne : i ≠ id.toNat := by
      rw [h.next]
      omega
    rw [hlist'.others i (by rw [List.mem_range]; omega) hne, LinkedList.setData, LinkedList.set_mem_ne hne]
    exact h.unused i (by omega)

/-- What there is to say of a buffer of `num` slots, which was `buf`, after the objects `objs` were accepted. -/
structure BufferRight (num : ℕ) (buf : ℕ → Node ℕ δ) (info : δ → ρ) (list : LinkedList ℕ δ) (objs : List ρ) : Prop where
  sound : list.Sound (List.range objs.length)
  objects : (List.range objs.length).map (fun i => info (list.data i)) = objs
  inBuffer : ∀ i ∈ List.range objs.length, i < num
  beyond : ∀ i, num ≤ i → list.mem i = buf i

theorem Slots.right (h : Slots num buf info list id objs) : BufferRight num buf info list objs where
  sound := h.isList.sound
  objects := h.content
  inBuffer _ hi := Nat.lt_of_lt_of_le (List.mem_range.mp hi) h.room
  beyond i hi := h.unused i (h.room.trans hi)

end Slots

/-! ### Monitored variables -/

/-- `sMonitorInfo`, with its value. -/
structure sMonitorInfo extends Module.sMonitorInfo where
  usDataVal : USHORT
  usDataId : USHORT

/-- `MonitorList` with `MonitorBuf`, and `MonitorID`. -/
structure Monitors where
  MonitorList : LinkedList ℕ sMonitorInfo
  MonitorID : USHORT

/-- The value of the variable, read as its type says; with another type the slot keeps the one it had. -/
def registValue (e : Module.sMonitorInfo) (vars : Mem) (usDataVal : USHORT) : USHORT :=
  match e.ucDataType with
  | .uint8 => (vars e.pvVal).setWidth 16
  | .uint16 => load16 vars e.pvVal
  | .int8 => (vars e.pvVal).signExtend 16
  | .int16 => load16 vars e.pvVal
  | .other => usDataVal

/-- `vMonitorRegist`, with the memory of the variables, or `none` where a null pointer is followed. -/
def vMonitorRegist (s : Monitors) (vars : Mem) (e : Module.sMonitorInfo) : Option Monitors :=
  if s.MonitorID.toNat ≥ MONITOR_DATA_MAX_NUM then some s
  -- the counter of this loop has 8 bits, and fewer than 90 slots to pass
  else if (List.range s.MonitorID.toNat).any fun n => (s.MonitorList.data n).pvVal == e.pvVal then some s
  else
    let old := s.MonitorList.data s.MonitorID.toNat
    (useSlot s.MonitorList s.MonitorID
      { e with usDataVal := registValue e vars old.usDataVal, usDataId := s.MonitorID + 1 + 1 }).map fun r => ⟨r.1, r.2⟩

def registMonitor (s : Monitors) (call : Mem × Module.sMonitorInfo) : Option Monitors :=
  vMonitorRegist s call.1 call.2

/-- Before the first call; what stands in the buffer is given. -/
def noMonitors (buf : ℕ → Node ℕ sMonitorInfo) : Monitors := ⟨⟨none, buf⟩, 0⟩

/-- What is registered after one more call. -/
def accepted (mons : List Module.sMonitorInfo) (e : Module.sMonitorInfo) : List Module.sMonitorInfo :=
  if mons.length ≥ MONITOR_DATA_MAX_NUM ∨ e.pvVal ∈ mons.map (·.pvVal) then mons else mons ++ [e]

/-- The variables that are registered after the calls, in their order. -/
def monitorList (es : List Module.sMonitorInfo) : List Module.sMonitorInfo := es.foldl accepted []

abbrev Monitors.Slots (buf : ℕ → Node ℕ sMonitorInfo) (s : Monitors) (mons : List Module.sMonitorInfo) : Prop :=
  Registry.Slots MONITOR_DATA_MAX_NUM buf sMonitorInfo.tosMonitorInfo s.MonitorList s.MonitorID mons

section Monitors

variable {buf : ℕ → Node ℕ sMonitorInfo} {s : Monitors} {mons : List Module.sMonitorInfo}

theorem any_pvVal (h : s.Slots buf mons) (e : Module.sMonitorInfo) :
    ((List.range s.MonitorID.toNat).any fun n => (s.MonitorList.data n).pvVal == e.pvVal) = true ↔
      e.pvVal ∈ mons.map (·.pvVal) := by
  have hvals : mons.map (·.pvVal) = (List.range mons.length).map fun n => (s.MonitorList.data n).pvVal := by
    conv_lhs => rw [← h.content, List.map_map]
    rfl
  rw [hvals, h.next, List.any_eq_true, List.mem_map]
  simp only [beq_iff_eq]

/-- **A call** accepts what it has to. -/
theorem Monitors.Slots.regist (h : s.Slots buf mons) (vars : Mem) (e : Module.sMonitorInfo) :
    ∃ s', vMonitorRegist s vars e = some s' ∧ s'.Slots buf (accepted mons e) := by
  rw [vMonitorRegist, accepted, h.next]
  by_cases hfull : mons.length ≥ MONITOR_DATA_MAX_NUM
  · rw [if_pos hfull, if_pos (Or.inl hfull)]
    exact ⟨s, rfl, h⟩
  · rw [if_neg hfull]
    have hany := any_pvVal h e
    rw [h.next] at hany
    by_cases hdup : e.pvVal ∈ mons.map (·.pvVal)
    · rw [if_pos (hany.mpr hdup), if_pos (Or.inr hdup)]
      exact ⟨s, rfl, h⟩
    · rw [if_neg (mt hany.mp hdup), if_neg (not_or.mpr ⟨hfull, hdup⟩)]
      obtain ⟨list', huse, hslots⟩ := h.use (Nat.lt_of_not_ge hfull) (by decide) { e with
        usDataVal := registValue e vars (s.MonitorList.data mons.length).usDataVal, usDataId := s.MonitorID + 1 + 1 }
      exact ⟨⟨list', s.MonitorID + 1⟩, by dsimp only; rw [huse]; rfl, hslots⟩

/-- A pass of the monitor task: the list, the local value, and the messages that are posted. -/
structure MonitorPass where
  MonitorList : LinkedList ℕ sMonitorInfo
  usDataValue : USHORT
  posts : List sEventMsg

/-- The body of the loop, with the memory of the variables as it is then. -/
def pollMonitor (vars : ℕ → Mem) (i : ℕ) (p : MonitorPass) : MonitorPass :=
  let psMonitor := p.MonitorList.data i
  let usDataValue := monitorValue psMonitor.tosMonitorInfo (vars i) p.usDataValue
  if psMonitor.usDataVal ≠ usDataValue then
    { MonitorList := p.MonitorList.setData i { psMonitor with usDataVal := usDataValue }
      usDataValue := usDataValue
      posts := p.posts ++ [⟨psMonitor.psSem, psMonitor.pvVal⟩] }
  else { p with usDataValue := usDataValue }

/-- A pass of `vMonitorPollTask`, for `n` variables at most. -/
def vMonitorPollTask (vars : ℕ → Mem) (n : ℕ) (p : MonitorPass) : Option MonitorPass :=
  forEach (fun p : MonitorPass => p.MonitorList.next) (pollMonitor vars) n p.MonitorList.head p

/-- The pass takes every variable once and ends: it stores values in the list, and no pointers. -/
theorem vMonitorPollTask_eq {p : MonitorPass} {k : ℕ} (h : p.MonitorList.IsList (List.range k)) (vars : ℕ → Mem) {n : ℕ}
    (hn : k ≤ n) :
    vMonitorPollTask vars n p = some ((List.range k).foldl (fun p i => pollMonitor vars i p) p) := by
  have hbody (i : ℕ) (p : MonitorPass) : (pollMonitor vars i p).MonitorList.next = p.MonitorList.next := by
    unfold pollMonitor
    dsimp only
    split
    · exact LinkedList.setData_next
    · rfl
  have hlen : (List.range k).length ≤ n := by rwa [List.length_range]
  exact Chain.forEach h.chain hbody hlen

/-- **The list of the monitor**: the variables `mons` are registered, no two of them the same, and a pass takes all of
them. -/
structure MonitorsRight (buf : ℕ → Node ℕ sMonitorInfo) (s : Monitors) (mons : List Module.sMonitorInfo) : Prop where
  buffer : BufferRight MONITOR_DATA_MAX_NUM buf sMonitorInfo.tosMonitorInfo s.MonitorList mons
  distinct : (mons.map (·.pvVal)).Nodup
  poll : ∀ vars usDataValue posts n, mons.length ≤ n →
    vMonitorPollTask vars n ⟨s.MonitorList, usDataValue, posts⟩ =
      some ((List.range mons.length).foldl (fun p i => pollMonitor vars i p) ⟨s.MonitorList, usDataValue, posts⟩)

theorem accepted_nodup {e : Module.sMonitorInfo} (h : (mons.map (·.pvVal)).Nodup) :
    ((accepted mons e).map (·.pvVal)).Nodup := by
  unfold accepted
  split
  · exact h
  · next hnot =>
    rw [List.map_append, List.map_singleton]
    exact List.nodup_append.mpr ⟨h, List.nodup_singleton _, fun a ha b hb hab => by
      rw [hab, List.mem_singleton.mp hb] at ha
      exact hnot (Or.inr ha)⟩

theorem monitorList_nodup (es : List Module.sMonitorInfo) : ((monitorList es).map (·.pvVal)).Nodup := by
  suffices hgen : ∀ mons : List Module.sMonitorInfo, (mons.map (·.pvVal)).Nodup →
      ((es.foldl accepted mons).map (·.pvVal)).Nodup from hgen [] List.nodup_nil
  induction es with
  | nil => exact fun _ h => h
  | cons e es ih => exact fun mons h => ih _ (accepted_nodup h)

/-- **The monitor** after any calls. -/
theorem monitors_registered (buf : ℕ → Node ℕ sMonitorInfo) (calls : List (Mem × Module.sMonitorInfo)) :
    ∃ s, run registMonitor (noMonitors buf) calls = some s ∧
      MonitorsRight buf s (monitorList (calls.map Prod.snd)) := by
  have hstart : (noMonitors buf).Slots buf [] := slots_nil
  obtain ⟨s, hrun, h⟩ := run_foldl (f := fun mons (call : Mem × Module.sMonitorInfo) => accepted mons call.2)
    (fun s mons call (h : s.Slots buf mons) => h.regist call.1 call.2) hstart calls
  have hlist : monitorList (calls.map Prod.snd) = calls.foldl (fun mons call => accepted mons call.2) [] :=
    List.foldl_map
  refine ⟨s, hrun, ?_⟩
  rw [← hlist] at h
  exact ⟨h.right, monitorList_nodup _, fun vars usDataValue posts n hn => vMonitorPollTask_eq h.isList vars hn⟩

end Monitors

/-! ### Events -/

/-- `EventList` with `EventBuf`, and `EventID`. -/
structure Events (τ : Type) where
  EventList : LinkedList ℕ (sEvent τ)
  EventID : USHORT

/-- `vEventRegist`, or `none` where a null pointer is followed. -/
def vEventRegist {τ : Type} (s : Events τ) (e : sEvent τ) : Option (Events τ) :=
  if s.EventID.toNat ≥ EVENT_MAX_NUM then some s
  else (useSlot s.EventList s.EventID e).map fun r => ⟨r.1, r.2⟩

/-- Before the first call; what stands in the buffer is given. -/
def noEvents {τ : Type} (buf : ℕ → Node ℕ (sEvent τ)) : Events τ := ⟨⟨none, buf⟩, 0⟩

abbrev Events.Slots {τ : Type} (buf : ℕ → Node ℕ (sEvent τ)) (s : Events τ) (evs : List (sEvent τ)) : Prop :=
  Registry.Slots EVENT_MAX_NUM buf id s.EventList s.EventID evs

theorem Events.Slots.regist {τ : Type} {buf : ℕ → Node ℕ (sEvent τ)} {s : Events τ} {evs : List (sEvent τ)}
    (h : s.Slots buf evs) (e : sEvent τ) :
    ∃ s', vEventRegist s e = some s' ∧ s'.Slots buf (Module.vEventRegist evs e) := by
  rw [vEventRegist, Module.vEventRegist, h.next]
  by_cases hfull : evs.length ≥ EVENT_MAX_NUM
  · rw [if_pos hfull, if_pos hfull]
    exact ⟨s, rfl, h⟩
  · rw [if_neg hfull, if_neg hfull]
    obtain ⟨list', huse, hslots⟩ := h.use (Nat.lt_of_not_ge hfull) (by decide) e
    exact ⟨⟨list', s.EventID + 1⟩, by rw [huse]; rfl, hslots⟩

section Events

variable {τ : Type} {buf : ℕ → Node ℕ (sEvent τ)} {s : Events τ} {evs : List (sEvent τ)}

/-- The body of the loop of the event task: the tasks the message has been posted to. -/
def pollEvent (psEventMsg : sEventMsg) (posts : List τ) (psEvent : sEvent τ) : List τ :=
  if psEventMsg.psSem = psEvent.psSem then posts ++ [psEvent.psTCB] else posts

/-- A pass of `vEventPollTask` with a message, for `n` events at most. -/
def vEventPollTask (psEventMsg : sEventMsg) (n : ℕ) (s : Events τ) : Option (List τ) :=
  forEach (fun _ => s.EventList.next) (fun i posts => pollEvent psEventMsg posts (s.EventList.data i)) n
    s.EventList.head []

theorem foldl_pollEvent (psEventMsg : sEventMsg) (evs : List (sEvent τ)) (posts : List τ) :
    evs.foldl (pollEvent psEventMsg) posts =
      posts ++ (evs.filter fun e => psEventMsg.psSem = e.psSem).map (·.psTCB) := by
  induction evs generalizing posts with
  | nil => simp
  | cons e evs ih =>
    rw [List.foldl_cons, ih, List.filter_cons, pollEvent]
    by_cases hsem : psEventMsg.psSem = e.psSem <;> simp [hsem]

/-- **The list of the events**: `evs` are registered, and a message goes to the task of each of them that has its
semaphore, once. -/
structure EventsRight (buf : ℕ → Node ℕ (sEvent τ)) (s : Events τ) (evs : List (sEvent τ)) : Prop where
  buffer : BufferRight EVENT_MAX_NUM buf id s.EventList evs
  poll : ∀ psEventMsg n, evs.length ≤ n → vEventPollTask psEventMsg n s =
    some ((evs.filter fun e => psEventMsg.psSem = e.psSem).map (·.psTCB))

theorem Events.Slots.right (h : s.Slots buf evs) : EventsRight buf s evs := by
  have hright : BufferRight EVENT_MAX_NUM buf id s.EventList evs := Registry.Slots.right h
  refine ⟨hright, fun psEventMsg n hn => ?_⟩
  have hlen : (List.range evs.length).length ≤ n := by rwa [List.length_range]
  have hcontent : (List.range evs.length).map s.EventList.data = evs := h.content
  rw [vEventPollTask, hright.sound.loops _ _ _ _ hlen, ← List.foldl_map (f := s.EventList.data), hcontent,
    foldl_pollEvent]
  rfl

/-- **The events** after any calls. -/
theorem events_registered (buf : ℕ → Node ℕ (sEvent τ)) (subs : List (sEvent τ)) :
    ∃ s, run vEventRegist (noEvents buf) subs = some s ∧ EventsRight buf s (eventList subs) := by
  have hstart : (noEvents buf).Slots buf [] := slots_nil
  obtain ⟨s, hrun, h⟩ := run_foldl (R := fun s evs => Events.Slots buf s evs) (f := Module.vEventRegist)
    (fun s evs e h => h.regist e) hstart subs
  exact ⟨s, hrun, h.right⟩

end Events

/-! ### The three registries -/

/-- **The lists after any calls**: distinct devices, any variables, and any events. -/
theorem lists_registered {ι τ : Type} [DecidableEq ι] (mem : ι → Node ι UCHAR) (devs : List (Option ι))
    (hdist : devs.reduceOption.Nodup) (monitorBuf : ℕ → Node ℕ sMonitorInfo) (mons : List (Mem × Module.sMonitorInfo))
    (eventBuf : ℕ → Node ℕ (sEvent τ)) (subs : List (sEvent τ)) :
    (∃ s, run Master.Regist.registDev (Master.Regist.noDevs mem) devs = some s ∧
        Master.Regist.Registered mem s devs.reduceOption) ∧
      (∃ s, run registMonitor (noMonitors monitorBuf) mons = some s ∧
          MonitorsRight monitorBuf s (monitorList (mons.map Prod.snd))) ∧
        ∃ s, run vEventRegist (noEvents eventBuf) subs = some s ∧ EventsRight eventBuf s (eventList subs) :=
  ⟨Master.Regist.devs_registered mem hdist, monitors_registered monitorBuf mons, events_registered eventBuf subs⟩

/-- A buffer of zeros. -/
def zeroed {δ : Type} (zero : δ) (_ : ℕ) : Node ℕ δ := ⟨zero, none, none⟩

/-- A variable that is registered twice. -/
def twice : List (Mem × Module.sMonitorInfo) := [(fun _ => 1, ⟨10, 1, .uint8⟩), (fun _ => 2, ⟨10, 1, .uint8⟩)]

/-- Two devices and a null pointer, a variable twice, and two events. -/
theorem lists_registered_two :
    (∃ s, run Master.Regist.registDev (Master.Regist.noDevs (zeroed 0)) [some 5, none, some 7] = some s ∧
        Master.Regist.Registered (zeroed 0) s [5, 7]) ∧
      (∃ s, run registMonitor (noMonitors (zeroed ⟨⟨0, 0, .other⟩, 0, 0⟩)) twice = some s ∧
          MonitorsRight (zeroed ⟨⟨0, 0, .other⟩, 0, 0⟩) s (monitorList (twice.map Prod.snd))) ∧
        ∃ s, run vEventRegist (noEvents (zeroed ⟨0, ()⟩)) [⟨1, ()⟩, ⟨2, ()⟩] = some s ∧
          EventsRight (zeroed ⟨0, ()⟩) s (eventList [⟨1, ()⟩, ⟨2, ()⟩]) :=
  lists_registered (zeroed 0) [some 5, none, some 7] (by decide) _ twice _ _

end GreeIntense.Module.Registry

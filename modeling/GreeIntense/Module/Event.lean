import Mathlib.Data.List.Nodup
import GreeIntense.MbFrame

/-!
# Change notifications (`md_monitor.c`, `md_event.c`)

The monitor task looks at every registered variable once a pass.  When one has changed it writes the
variable and its semaphore into its local `sEventMsg` and posts the address of this one message to the event
task; the event task posts the same address to the tasks that are subscribed to the semaphore; and these
read `pvArg` from it.

All these tasks are created with a message queue of size 0: a post reaches a task only while the task is
pending on its queue, and is lost otherwise.

A step is one access to what the tasks share, so that the kernel can switch tasks between any two of them.
`changes`, `received` and `reads` are observations, they have no effect on a step: the changes detected,
through which subscription which of them has been received, and what the tasks have read.
-/

namespace GreeIntense.Module

open Lib.Memory

/-! ### Registration -/

abbrev EVENT_MAX_NUM : ℕ := 50

/-- `sMonitorInfo` without `usDataVal`, which changes. -/
structure sMonitorInfo where
  pvVal : ℕ
  psSem : ℕ
  ucDataType : DataType

/-- `sEvent`: the task is subscribed to the semaphore. -/
structure sEvent (τ : Type) where
  psSem : ℕ
  psTCB : τ
  deriving DecidableEq

def vEventRegist {τ : Type} (EventList : List (sEvent τ)) (e : sEvent τ) : List (sEvent τ) :=
  if EventList.length ≥ EVENT_MAX_NUM then EventList else EventList ++ [e]

/-- The list after the registrations, in their order. -/
def eventList {τ : Type} (subs : List (sEvent τ)) : List (sEvent τ) := subs.foldl vEventRegist []

theorem vEventRegist_nodup {τ : Type} {EventList : List (sEvent τ)} {e : sEvent τ} (h : EventList.Nodup)
    (he : e ∉ EventList) : (vEventRegist EventList e).Nodup := by
  unfold vEventRegist
  split
  · exact h
  · exact List.nodup_append.mpr ⟨h, List.nodup_singleton _, fun a ha b hb hab => by
      rw [hab, List.mem_singleton.mp hb] at ha
      exact he ha⟩

theorem mem_vEventRegist {τ : Type} {EventList : List (sEvent τ)} {e e' : sEvent τ}
    (h : e' ∈ vEventRegist EventList e) : e' ∈ EventList ∨ e' = e := by
  unfold vEventRegist at h
  split at h
  · exact .inl h
  · exact (List.mem_append.mp h).imp_right List.mem_singleton.mp

/-- Subscriptions made once are in the list once. -/
theorem eventList_nodup {τ : Type} {subs : List (sEvent τ)} (h : subs.Nodup) : (eventList subs).Nodup := by
  suffices hgen : ∀ (subs EventList : List (sEvent τ)), EventList.Nodup → subs.Nodup →
      (∀ e ∈ subs, e ∉ EventList) → (subs.foldl vEventRegist EventList).Nodup from
    hgen subs [] List.nodup_nil h fun e _ => List.not_mem_nil
  intro subs
  induction subs with
  | nil => exact fun _ h _ _ => h
  | cons e subs ih =>
    intro EventList hl hs hd
    obtain ⟨hes, hs⟩ := List.nodup_cons.mp hs
    refine ih _ (vEventRegist_nodup hl (hd e List.mem_cons_self)) hs ?_
    intro e' he' hm
    rcases mem_vEventRegist hm with hm | rfl
    · exact hd e' (List.mem_cons_of_mem _ he') hm
    · exact hes he'

/-! ### The tasks -/

structure sEventMsg where
  psSem : ℕ
  pvArg : ℕ
  deriving DecidableEq

/-- The monitor task: in its delay, at an entry of its list, or with the change of an entry, whose semaphore
it has written into the message, then also the variable. -/
inductive MonitorPc
  | delay
  | at (i : ℕ)
  | writing (i : ℕ)
  | posting (i : ℕ)
  deriving DecidableEq, Repr

/-- The event task: not yet pending, pending, or with the message it got for the `k`-th change at a
subscription, before or after the semaphores are compared. -/
inductive EventPc
  | away
  | pending
  | loop (j k : ℕ)
  | posting (j k : ℕ)
  deriving DecidableEq, Repr

/-- A subscriber: not pending on its queue, pending, or reading the message it got for the `k`-th change. -/
inductive TaskPc
  | away
  | pending
  | got (k : ℕ)
  deriving DecidableEq, Repr

/-- The state of the pipeline. -/
structure Pump (τ : Type) where
  vars : Mem
  usDataVal : ℕ → USHORT
  usDataValue : USHORT
  sEventMsg : sEventMsg
  monitor : MonitorPc
  event : EventPc
  task : τ → TaskPc
  changes : List Module.sEventMsg
  received : List (sEvent τ × ℕ)
  reads : List (τ × ℕ × ℕ)

/-- The current value of an entry; for a type the monitor does not know, the one of the entry before.  An
`int8` is read through a pointer to 16 bits and truncated. -/
def monitorValue (e : sMonitorInfo) (vars : Mem) (usDataValue : USHORT) : USHORT :=
  match e.ucDataType with
  | .uint8 => (vars e.pvVal).setWidth 16
  | .uint16 => load16 vars e.pvVal
  | .int8 => (lo (load16 vars e.pvVal)).signExtend 16
  | .int16 => load16 vars e.pvVal
  | .other => usDataValue

variable {τ : Type} [DecidableEq τ]

/-- `OSTaskQPost` to the event task, for the `k`-th change. -/
def postEvent (k : ℕ) (s : Pump τ) : Pump τ :=
  if s.event = .pending then { s with event := .loop 0 k } else s

/-- `OSTaskQPost` to the task of a subscription, for the `k`-th change. -/
def postTask (e : sEvent τ) (k : ℕ) (s : Pump τ) : Pump τ :=
  if s.task e.psTCB = .pending then
    { s with task := Function.update s.task e.psTCB (.got k), received := s.received ++ [(e, k)] }
  else s

/-- The monitor task compares the entry `e` of index `i`. -/
def monitorCheck (i : ℕ) (e : sMonitorInfo) (s : Pump τ) : Pump τ :=
  let usDataValue := monitorValue e s.vars s.usDataValue
  if s.usDataVal i ≠ usDataValue then
    { s with
      usDataValue := usDataValue, sEventMsg := { s.sEventMsg with psSem := e.psSem }
      monitor := .writing i, changes := s.changes ++ [⟨e.psSem, e.pvVal⟩] }
  else { s with usDataValue := usDataValue, monitor := .at (i + 1) }

/-- The rest of the message, and the entry's new value. -/
def monitorWrite (i : ℕ) (e : sMonitorInfo) (s : Pump τ) : Pump τ :=
  { s with
    sEventMsg := { s.sEventMsg with pvArg := e.pvVal }
    usDataVal := Function.update s.usDataVal i s.usDataValue, monitor := .posting i }

/-- The event task compares the semaphores at the subscription `e` of index `j`. -/
def eventCompare (j k : ℕ) (e : sEvent τ) (s : Pump τ) : Pump τ :=
  { s with event := if s.sEventMsg.psSem = e.psSem then .posting j k else .loop (j + 1) k }

/-- What can happen: variables change; the monitor task starts a pass, compares an entry, writes or posts a
change; the event task pends, compares or posts at a subscription; a subscriber pends, reads `pvArg`, or is
done with its message. -/
inductive PumpEvent (τ : Type)
  | assign (vars : Mem)
  | pass
  | check
  | write
  | post
  | eventPend
  | compare
  | forward
  | pend (t : τ)
  | read (t : τ)
  | done (t : τ)

/-- A step of the tasks over the registered variables and subscriptions. -/
def pumpStep (mons : List sMonitorInfo) (evs : List (sEvent τ)) (s : Pump τ) : PumpEvent τ → Option (Pump τ)
  | .assign vars => some { s with vars := vars }
  | .pass => if s.monitor = .delay then some { s with monitor := .at 0 } else none
  | .check =>
    match s.monitor with
    | .at i =>
      match mons[i]? with
      | some e => some (monitorCheck i e s)
      | none => some { s with monitor := .delay }
    | _ => none
  | .write =>
    match s.monitor with
    | .writing i => mons[i]?.map fun e => monitorWrite i e s
    | _ => none
  | .post =>
    match s.monitor with
    | .posting i => some { postEvent (s.changes.length - 1) s with monitor := .at (i + 1) }
    | _ => none
  | .eventPend => if s.event = .away then some { s with event := .pending } else none
  | .compare =>
    match s.event with
    | .loop j k =>
      match evs[j]? with
      | some e => some (eventCompare j k e s)
      | none => some { s with event := .away }
    | _ => none
  | .forward =>
    match s.event with
    | .posting j k => evs[j]?.map fun e => { postTask e k s with event := .loop (j + 1) k }
    | _ => none
  | .pend t => if s.task t = .away then some { s with task := Function.update s.task t .pending } else none
  | .read t =>
    match s.task t with
    | .got k => some { s with reads := s.reads ++ [(t, k, s.sEventMsg.pvArg)] }
    | _ => none
  | .done t =>
    match s.task t with
    | .got _ => some { s with task := Function.update s.task t .away }
    | _ => none

end GreeIntense.Module

import Mathlib.Data.List.Basic

/-!
# Mutexes of the kernel (`os_mutex.c`)

A mutex has an owner, a nesting counter of eight bits and the list of the tasks that wait for it.  Pending
on a mutex one owns increments the counter; posting one decrements it, and at 0 the mutex goes to the first
task that waits.

With argument checking (`OS_CFG_ARG_CHK_EN`, which `os_cfg.h` enables) `OSMutexPost` takes only the options
`OS_OPT_POST_NONE` and `OS_OPT_POST_NO_SCHED`.
-/

namespace GreeIntense.Os

abbrev OS_OPT := BitVec 16

abbrev OS_OPT_POST_NONE : OS_OPT := 0x0000
abbrev OS_OPT_POST_ALL : OS_OPT := 0x0200
abbrev OS_OPT_POST_NO_SCHED : OS_OPT := 0x8000

/-- `OS_MUTEX`; `PendList` has the waiting tasks, the first to be served in front. -/
structure OS_MUTEX (τ : Type) where
  OwnerTCBPtr : Option τ
  OwnerNestingCtr : ℕ
  PendList : List τ
  deriving DecidableEq

variable {τ : Type} [DecidableEq τ]

def OSMutexCreate : OS_MUTEX τ := ⟨none, 0, []⟩

/-- `OSMutexPend` with `OS_OPT_PEND_BLOCKING`: the mutex, and whether the call returns at once. -/
def OSMutexPend (OSTCBCurPtr : τ) (m : OS_MUTEX τ) : OS_MUTEX τ × Bool :=
  if m.OwnerNestingCtr = 0 then ({ m with OwnerTCBPtr := some OSTCBCurPtr, OwnerNestingCtr := 1 }, true)
  else if m.OwnerTCBPtr = some OSTCBCurPtr then
    -- `OS_ERR_MUTEX_OVF`, `OS_ERR_MUTEX_OWNER`: the call returns in both cases
    if m.OwnerNestingCtr = 255 then (m, true)
    else ({ m with OwnerNestingCtr := m.OwnerNestingCtr + 1 }, true)
  else ({ m with PendList := m.PendList ++ [OSTCBCurPtr] }, false)

/-- `OSMutexPost`: the mutex, and the task that gets it. -/
def OSMutexPost (OS_CFG_ARG_CHK_EN : Bool) (OSTCBCurPtr : τ) (opt : OS_OPT) (m : OS_MUTEX τ) :
    OS_MUTEX τ × Option τ :=
  if OS_CFG_ARG_CHK_EN ∧ opt ≠ OS_OPT_POST_NONE ∧ opt ≠ OS_OPT_POST_NO_SCHED then (m, none)
  else if m.OwnerTCBPtr ≠ some OSTCBCurPtr then (m, none)
  else if m.OwnerNestingCtr - 1 > 0 then ({ m with OwnerNestingCtr := m.OwnerNestingCtr - 1 }, none)
  else
    match m.PendList with
    | [] => (⟨none, 0, []⟩, none)
    | p_tcb :: list => (⟨some p_tcb, 1, list⟩, some p_tcb)

/-- A mutex has an owner exactly when its counter is not 0, and no task waits for a mutex without an
owner or for its own. -/
structure OS_MUTEX.Ok (m : OS_MUTEX τ) : Prop where
  owner : m.OwnerNestingCtr = 0 ↔ m.OwnerTCBPtr = none
  pend : ∀ t ∈ m.PendList, m.OwnerTCBPtr ≠ none ∧ m.OwnerTCBPtr ≠ some t
  nodup : m.PendList.Nodup

/-- No task owns the mutex. -/
def OS_MUTEX.Free (m : OS_MUTEX τ) : Prop := m.OwnerTCBPtr = none ∧ m.OwnerNestingCtr = 0

variable {t : τ} {m : OS_MUTEX τ} {chk : Bool} {opt : OS_OPT}

omit [DecidableEq τ] in
theorem ok_create : (OSMutexCreate : OS_MUTEX τ).Ok :=
  ⟨⟨fun _ => rfl, fun _ => rfl⟩, by simp [OSMutexCreate], List.nodup_nil⟩

/-- The post of a task that is not the owner has no effect. -/
theorem post_of_not_owner (h : m.OwnerTCBPtr ≠ some t) : OSMutexPost chk t opt m = (m, none) := by
  rw [OSMutexPost, if_pos h, ite_self]

/-- With argument checking a post to all has no effect. -/
theorem post_all_checked : OSMutexPost true t OS_OPT_POST_ALL m = (m, none) := by
  rw [OSMutexPost, if_pos ⟨rfl, by decide, by decide⟩]

/-- What a pend does: the task gets a free mutex, gets its own mutex once more, or waits. -/
theorem pend_cases (h : m.Ok) (t : τ) :
    (m.OwnerTCBPtr = none ∧ m.PendList = [] ∧ OSMutexPend t m = (⟨some t, 1, []⟩, true)) ∨
      (m.OwnerTCBPtr = some t ∧ ∃ n ≥ 2, OSMutexPend t m = (⟨some t, n, m.PendList⟩, true)) ∨
      ∃ u ≠ t, m.OwnerTCBPtr = some u ∧
        OSMutexPend t m = (⟨some u, m.OwnerNestingCtr, m.PendList ++ [t]⟩, false) := by
  obtain ⟨owner, n, list⟩ := m
  cases owner with
  | none =>
    obtain rfl : n = 0 := h.owner.mpr rfl
    obtain rfl : list = [] := List.eq_nil_iff_forall_not_mem.mpr fun u hu => (h.pend u hu).1 rfl
    exact Or.inl ⟨rfl, rfl, rfl⟩
  | some u =>
    have hn : n ≠ 0 := fun h0 => Option.some_ne_none u (h.owner.mp h0)
    by_cases hut : u = t
    · subst hut
      refine Or.inr (Or.inl ⟨rfl, ?_⟩)
      simp only [OSMutexPend, if_neg hn, if_true]
      by_cases h255 : n = 255
      · exact ⟨n, by omega, by rw [if_pos h255]⟩
      · exact ⟨n + 1, by omega, by rw [if_neg h255]⟩
    · refine Or.inr (Or.inr ⟨u, hut, rfl, ?_⟩)
      simp only [OSMutexPend, if_neg hn, Option.some.injEq, if_neg hut]

/-- What a post of the owner does, where the kernel takes the option: the owner keeps the mutex, nobody
waits for it, or the first task that waits gets it. -/
theorem post_of_owner (opt : OS_OPT) (hn : m.OwnerNestingCtr ≠ 0) (ht : m.OwnerTCBPtr = some t) :
    (2 ≤ m.OwnerNestingCtr ∧
        OSMutexPost false t opt m = (⟨some t, m.OwnerNestingCtr - 1, m.PendList⟩, none)) ∨
      (m.OwnerNestingCtr = 1 ∧ m.PendList = [] ∧ OSMutexPost false t opt m = (⟨none, 0, []⟩, none)) ∨
      ∃ u list, m.OwnerNestingCtr = 1 ∧ m.PendList = u :: list ∧
        OSMutexPost false t opt m = (⟨some u, 1, list⟩, some u) := by
  obtain ⟨owner, n, list⟩ := m
  obtain rfl : owner = some t := ht
  simp only [OSMutexPost, Bool.false_eq_true, false_and, if_false, ne_eq, not_true]
  by_cases h2 : 2 ≤ n
  · exact Or.inl ⟨h2, by rw [if_pos (by omega)]⟩
  · have h1 : n = 1 := by
      have : n ≠ 0 := hn
      omega
    subst h1
    cases list with
    | nil => exact Or.inr (Or.inl ⟨rfl, rfl, rfl⟩)
    | cons u list => exact Or.inr (Or.inr ⟨u, list, rfl, rfl, rfl⟩)

end GreeIntense.Os

import Mathlib.Data.List.ReduceOption
import GreeIntense.Lib.Linked
import GreeIntense.Lib.Run
import GreeIntense.MbFrame

/-!
# The list of devices (`xMBMasterRegistDev` and `psMBMasterGetDev` in `mb_m.c`)

A device is registered by its address in memory and appended to the list of the master.  The scans of `mbscan_m.c` run
along this list; what they do at a device leaves the pointers alone.
-/

namespace GreeIntense.Master.Regist

open Lib.Linked Lib.Run

/-- `psMBSlaveDevsList` with the devices in memory, of which the functions use `ucDevAddr`, and the count. -/
structure sMBMasterDevsInfo (ι : Type*) where
  devs : LinkedList ι UCHAR
  ucSlaveDevCount : UCHAR

variable {ι : Type*}

/-- `psMBMasterGetDev`, for `n` passes of its loop at most. -/
def psMBMasterGetDev (n : ℕ) (ucDevAddr : UCHAR) (s : sMBMasterDevsInfo ι) : Option (Option ι) :=
  match s.devs.head with
  | none => some none
  | some _ => search s.devs.next (fun d => s.devs.data d == ucDevAddr) n s.devs.head

theorem psMBMasterGetDev_eq {s : sMBMasterDevsInfo ι} {ds : List ι} (h : s.devs.IsList ds) (ucDevAddr : UCHAR) {n : ℕ}
    (hn : ds.length ≤ n) :
    psMBMasterGetDev n ucDevAddr s = some (ds.find? fun d => s.devs.data d == ucDevAddr) := by
  rw [← h.chain.search hn, psMBMasterGetDev]
  cases s.devs.head with
  | none => cases n <;> rfl
  | some _ => rfl

variable [DecidableEq ι]

/-- `xMBMasterRegistDev` for a master that is not `NULL`: what it returns, or `none` where a null pointer is
followed. -/
def xMBMasterRegistDev (psMBNewDev : Option ι) (s : sMBMasterDevsInfo ι) : Option (Bool × sMBMasterDevsInfo ι) :=
  match psMBNewDev with
  | none => some (false, s)
  | some d => (s.devs.append d).map fun devs => (true, ⟨devs, s.ucSlaveDevCount + 1⟩)

/-- A call of it. -/
def registDev (s : sMBMasterDevsInfo ι) (psMBNewDev : Option ι) : Option (sMBMasterDevsInfo ι) :=
  (xMBMasterRegistDev psMBNewDev s).map Prod.snd

/-- The devices `ds` are registered, in this order, and found by their addresses. -/
structure Registered (mem : ι → Node ι UCHAR) (s : sMBMasterDevsInfo ι) (ds : List ι) : Prop where
  list : s.devs.Sound ds
  count : s.ucSlaveDevCount = BitVec.ofNat 8 ds.length
  addr : ∀ d, s.devs.data d = (mem d).data
  found : ∀ ucDevAddr n, ds.length ≤ n →
    psMBMasterGetDev n ucDevAddr s = some (ds.find? fun d => (mem d).data == ucDevAddr)

/-- What a call keeps. -/
structure Inv (mem : ι → Node ι UCHAR) (s : sMBMasterDevsInfo ι) (ds : List ι) : Prop where
  list : s.devs.IsList ds
  count : s.ucSlaveDevCount = BitVec.ofNat 8 ds.length
  addr : s.devs.data = fun d => (mem d).data

section Calls

variable {mem : ι → Node ι UCHAR} {s : sMBMasterDevsInfo ι} {ds : List ι}

omit [DecidableEq ι] in
theorem Inv.registered (h : Inv mem s ds) : Registered mem s ds := by
  refine ⟨h.list.sound, h.count, fun d => congrFun h.addr d, fun ucDevAddr n hn => ?_⟩
  rw [psMBMasterGetDev_eq h.list ucDevAddr hn, h.addr]

/-- **A call** registers a device that is not registered yet, and returns `FALSE` for `NULL` only. -/
theorem Inv.regist (h : Inv mem s ds) (psMBNewDev : Option ι) (hnew : ∀ d, psMBNewDev = some d → d ∉ ds) :
    ∃ s', xMBMasterRegistDev psMBNewDev s = some (psMBNewDev.isSome, s') ∧ Inv mem s' (ds ++ psMBNewDev.toList) := by
  cases psMBNewDev with
  | none =>
    refine ⟨s, rfl, ?_⟩
    rw [Option.toList_none, List.append_nil]
    exact h
  | some d =>
    obtain ⟨devs, happ, hdevs⟩ := h.list.append (hnew d rfl)
    refine ⟨⟨devs, s.ucSlaveDevCount + 1⟩, ?_, hdevs.isList, ?_, hdevs.data.trans h.addr⟩
    · rw [xMBMasterRegistDev, happ]
      rfl
    · rw [h.count, Option.toList_some, List.length_append, List.length_singleton, BitVec.ofNat_add]
      rfl

theorem Inv.regist_all (h : Inv mem s ds) (calls : List (Option ι)) (hnew : (ds ++ calls.reduceOption).Nodup) :
    ∃ s', run registDev s calls = some s' ∧ Inv mem s' (ds ++ calls.reduceOption) := by
  induction calls generalizing s ds with
  | nil => exact ⟨s, rfl, by rw [List.reduceOption_nil, List.append_nil]; exact h⟩
  | cons psMBNewDev calls ih =>
    have hcons : (psMBNewDev :: calls).reduceOption = psMBNewDev.toList ++ calls.reduceOption := by
      cases psMBNewDev <;> rfl
    rw [hcons, ← List.append_assoc] at hnew ⊢
    have hfresh : ∀ d, psMBNewDev = some d → d ∉ ds := by
      rintro d rfl hd
      have := (List.nodup_append.mp (List.nodup_append.mp hnew).1).2.2 d hd d (by simp)
      exact this rfl
    obtain ⟨s₁, hcall, h₁⟩ := h.regist psMBNewDev hfresh
    obtain ⟨s', hrun, h'⟩ := ih h₁ hnew
    refine ⟨s', ?_, h'⟩
    rw [run_cons, registDev, hcall]
    exact hrun

end Calls

/-- A master without devices; those in memory are given. -/
def noDevs (mem : ι → Node ι UCHAR) : sMBMasterDevsInfo ι := ⟨⟨none, mem⟩, 0⟩

/-- **The list of devices** after any calls with distinct devices. -/
theorem devs_registered (mem : ι → Node ι UCHAR) {calls : List (Option ι)} (hdist : calls.reduceOption.Nodup) :
    ∃ s, run registDev (noDevs mem) calls = some s ∧ Registered mem s calls.reduceOption := by
  have hstart : Inv mem (noDevs mem) [] := ⟨LinkedList.isList_nil mem, rfl, rfl⟩
  obtain ⟨s, hrun, h⟩ := hstart.regist_all calls hdist
  exact ⟨s, hrun, h.registered⟩

end GreeIntense.Master.Regist

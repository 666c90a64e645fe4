import Mathlib.Data.Fintype.Basic
import GreeIntense.Lib.Memory

/-!
# Persistent variables (`md_eeprom.c`)

A variable is registered under a type.  A type has a table: the registered addresses, the values last seen in a buffer,
and a page of the EEPROM that the buffer is written to as a whole.  `vWriteEEPROMData` compares the variables with the
buffers and writes a buffer in which something has changed, at once or for the last two types after a number of
passes; `vReadEEPROMData` fills the buffers from the pages and the variables from the buffers.

A page gives back what was last written to it, and the pages of two types have nothing in common.  A variable is its
bytes, so the signed and the unsigned types of one size differ by their tables alone.
-/

namespace GreeIntense.Module

open Lib.Memory

/-! ### The tables -/

inductive eEEPROMDataType
  | TYPE_UINT_8 | TYPE_INT_8 | TYPE_UINT_16 | TYPE_INT_16 | TYPE_UINT_32 | TYPE_INT_32 | TYPE_RUNTIME | TYPE_E32
  deriving DecidableEq

namespace eEEPROMDataType

def size : eEEPROMDataType → ℕ
  | TYPE_UINT_8 | TYPE_INT_8 => 1
  | TYPE_UINT_16 | TYPE_INT_16 => 2
  | TYPE_UINT_32 | TYPE_INT_32 | TYPE_RUNTIME | TYPE_E32 => 4

/-- `UINT8_SAVE_COUNT` and its siblings. -/
def saveCount : eEEPROMDataType → ℕ
  | TYPE_UINT_8 => 5
  | TYPE_INT_8 => 1
  | TYPE_UINT_16 => 36
  | TYPE_INT_16 => 1
  | TYPE_UINT_32 => 2
  | TYPE_INT_32 => 1
  | TYPE_RUNTIME => 6
  | TYPE_E32 => 1

/-- The passes with a change after which the buffer is written: `UINT8_WRITE_INTV` and its siblings,
`RUNTIME_WRITE_INTV / SYSTEM_POLL_TIME_OUT_S`. -/
def writeIntv : eEEPROMDataType → BitVec 16
  | TYPE_RUNTIME => 7200 / 10
  | TYPE_E32 => 7200
  | _ => 1

/-- The order in which the functions go through the types. -/
def all : List eEEPROMDataType :=
  [TYPE_UINT_8, TYPE_INT_8, TYPE_UINT_16, TYPE_INT_16, TYPE_UINT_32, TYPE_INT_32, TYPE_RUNTIME, TYPE_E32]

theorem mem_all (t : eEEPROMDataType) : t ∈ all := by
  cases t <;> decide

/-- The types that are written on each change. -/
def OnChange (t : eEEPROMDataType) : Prop := t.writeIntv = 1

instance (t : eEEPROMDataType) : Decidable t.OnChange := inferInstanceAs (Decidable (_ = _))

end eEEPROMDataType

abbrev Value (t : eEEPROMDataType) := Fin t.size → BitVec 8

/-- `pDataBufUint8`, `DataBufUint8`, `DataBufUint8Count`, `DataBufUint8ChangedTimes` and their siblings, and the page of
the EEPROM. -/
structure Table (t : eEEPROMDataType) where
  pDataBuf : ℕ → ℕ
  DataBuf : ℕ → Value t
  Count : ℕ
  ChangedTimes : BitVec 16
  page : ℕ → Value t

/-- The memory of the variables, and the tables. -/
structure Eeprom where
  mem : Mem
  table : (t : eEEPROMDataType) → Table t
  EEPROMDataReady : Bool

/-- The table of one type is changed. -/
def Eeprom.onTable (t : eEEPROMDataType) (f : Table t → Table t) (s : Eeprom) : Eeprom :=
  { s with table := Function.update s.table t (f (s.table t)) }

/-- `EEPROM_Write` of the buffer. -/
def EEPROM_Write {t : eEEPROMDataType} (T : Table t) : Table t := { T with page := T.DataBuf }

/-- `EEPROM_Read` into the buffer. -/
def EEPROM_Read {t : eEEPROMDataType} (T : Table t) : Table t := { T with DataBuf := T.page }

/-! ### The functions -/

def xRegistEEPROMData (eDataType : eEEPROMDataType) (pData : ℕ) (s : Eeprom) : Bool × Eeprom :=
  if pData = 0 then (false, s)
  else if ∃ usIndex < (s.table eDataType).Count, (s.table eDataType).pDataBuf usIndex = pData then (false, s)
  else if (s.table eDataType).Count < eDataType.saveCount then
    (true, s.onTable eDataType fun T =>
      { T with
        pDataBuf := Function.update T.pDataBuf T.Count pData
        DataBuf := Function.update T.DataBuf T.Count (loadAt s.mem pData eDataType.size)
        Count := T.Count + 1 })
  else (false, s)

/-- An entry of a table is compared with its variable, and takes it over. -/
def lookAt {t : eEEPROMDataType} (m : Mem) (i : ℕ) (r : Bool × Table t) : Bool × Table t :=
  if r.2.pDataBuf i ≠ 0 ∧ r.2.DataBuf i ≠ loadAt m (r.2.pDataBuf i) t.size then
    (true, { r.2 with DataBuf := Function.update r.2.DataBuf i (loadAt m (r.2.pDataBuf i) t.size) })
  else r

/-- The body of the eight functions below; `now i` is the memory as the entry `i` finds it. -/
def xDataChanged {t : eEEPROMDataType} (now : ℕ → Mem) (T : Table t) : Bool × Table t :=
  (List.range t.saveCount).foldl (fun r i => lookAt (now i) i r) (false, T)

def xDataUint8Changed := xDataChanged (t := .TYPE_UINT_8)
def xDataInt8Changed := xDataChanged (t := .TYPE_INT_8)
def xDataUint16Changed := xDataChanged (t := .TYPE_UINT_16)
def xDataInt16Changed := xDataChanged (t := .TYPE_INT_16)
def xDataUint32Changed := xDataChanged (t := .TYPE_UINT_32)
def xDataInt32Changed := xDataChanged (t := .TYPE_INT_32)
def xDataRuntimeChanged := xDataChanged (t := .TYPE_RUNTIME)
def xDataE32Changed := xDataChanged (t := .TYPE_E32)

/-- What `vWriteEEPROMData` does for one type, after the comparison. -/
def writeChanged {t : eEEPROMDataType} (r : Bool × Table t) : Table t :=
  if r.1 then
    let T := { r.2 with ChangedTimes := r.2.ChangedTimes + 1 }
    if T.ChangedTimes ≥ t.writeIntv then { EEPROM_Write T with ChangedTimes := 0 } else T
  else r.2

/-- `vWriteEEPROMData`; `now t i` is the memory as the entry `i` of the type `t` finds it. -/
def vWriteEEPROMData (now : eEEPROMDataType → ℕ → Mem) (s : Eeprom) : Eeprom :=
  let s := s.onTable .TYPE_UINT_8 fun T => writeChanged (xDataUint8Changed (now .TYPE_UINT_8) T)
  let s := s.onTable .TYPE_INT_8 fun T => writeChanged (xDataInt8Changed (now .TYPE_INT_8) T)
  let s := s.onTable .TYPE_UINT_16 fun T => writeChanged (xDataUint16Changed (now .TYPE_UINT_16) T)
  let s := s.onTable .TYPE_INT_16 fun T => writeChanged (xDataInt16Changed (now .TYPE_INT_16) T)
  let s := s.onTable .TYPE_UINT_32 fun T => writeChanged (xDataUint32Changed (now .TYPE_UINT_32) T)
  let s := s.onTable .TYPE_INT_32 fun T => writeChanged (xDataInt32Changed (now .TYPE_INT_32) T)
  let s := s.onTable .TYPE_RUNTIME fun T => writeChanged (xDataRuntimeChanged (now .TYPE_RUNTIME) T)
  -- this buffer is written with the length of the one before, and read with its own
  s.onTable .TYPE_E32 fun T => writeChanged (xDataE32Changed (now .TYPE_E32) T)

/-- The variables of a table are set from its buffer. -/
def restore {t : eEEPROMDataType} (T : Table t) (m : Mem) : Mem :=
  (List.range T.Count).foldl
    (fun m i => if T.pDataBuf i ≠ 0 then storeAt m (T.pDataBuf i) (T.DataBuf i) else m) m

def vReadEEPROMData (s : Eeprom) : Eeprom :=
  let s := eEEPROMDataType.all.foldl
    (fun s t => s.onTable t fun T => if T.Count > 0 then EEPROM_Read T else T) s
  { s with
    mem := eEEPROMDataType.all.foldl (fun m t => restore (s.table t) m) s.mem
    EEPROMDataReady := true }

/-- `vWriteEEPROMDataFirstTime`, which resets neither the running times nor the energy
(`EEPROM_RUNNING_TIME_INIT`, `EEPROM_ENERGY_INIT`). -/
def vWriteEEPROMDataFirstTime (s : Eeprom) : Eeprom :=
  eEEPROMDataType.all.foldl (fun s t => s.onTable t fun T => if T.Count > 0 then EEPROM_Write T else T) s

/-! ### Runs -/

/-- The tables are empty; the memory and the pages are as they are. -/
def powerUp (page : (t : eEEPROMDataType) → ℕ → Value t) (m : Mem) : Eeprom where
  mem := m
  table t := ⟨fun _ => 0, fun _ _ => 0, 0, 0, page t⟩
  EEPROMDataReady := false

/-- The registrations, one after the other. -/
def registAll (regs : List (eEEPROMDataType × ℕ)) (s : Eeprom) : Eeprom :=
  regs.foldl (fun s r => (xRegistEEPROMData r.1 r.2 s).2) s

/-- What happens after the registrations: the memory changes, a pass of `vWriteEEPROMData` with the memory as its
entries find it, and the two functions of the start of the task. -/
inductive EepromEvent
  | assign (m : Mem)
  | write (now : eEEPROMDataType → ℕ → Mem)
  | read
  | firstTime

def eepromStep (s : Eeprom) : EepromEvent → Eeprom
  | .assign m => { s with mem := m }
  | .write now => vWriteEEPROMData now s
  | .read => vReadEEPROMData s
  | .firstTime => vWriteEEPROMDataFirstTime s

/-! ### The tables under the functions -/

/-- The addresses registered. -/
def Table.slots {t : eEEPROMDataType} (T : Table t) : List ℕ := (List.range T.Count).map T.pDataBuf

/-- What the registrations alone set. -/
def Table.layout {t : eEEPROMDataType} (T : Table t) : (ℕ → ℕ) × ℕ := (T.pDataBuf, T.Count)

theorem slots_of_layout {t : eEEPROMDataType} {T T' : Table t} (h : T'.layout = T.layout) : T'.slots = T.slots := by
  obtain ⟨hbuf, hcount⟩ := Prod.mk.inj h
  unfold Table.slots
  rw [hbuf, hcount]

theorem onTable_all (f : (t : eEEPROMDataType) → Table t → Table t) (s : Eeprom) :
    eEEPROMDataType.all.foldl (fun s t => s.onTable t (f t)) s = { s with table := fun t => f t (s.table t) } := by
  have htable : (eEEPROMDataType.all.foldl (fun s t => s.onTable t (f t)) s).table = fun t => f t (s.table t) := by
    funext t
    cases t <;> rfl
  exact congrArg (fun table => ({ s with table := table } : Eeprom)) htable

theorem vWriteEEPROMData_eq (now : eEEPROMDataType → ℕ → Mem) (s : Eeprom) :
    vWriteEEPROMData now s = { s with table := fun t => writeChanged (xDataChanged (now t) (s.table t)) } :=
  onTable_all (fun t T => writeChanged (xDataChanged (now t) T)) s

theorem vWriteEEPROMDataFirstTime_eq (s : Eeprom) :
    vWriteEEPROMDataFirstTime s =
      { s with table := fun t => if (s.table t).Count > 0 then EEPROM_Write (s.table t) else s.table t } :=
  onTable_all (fun _ T => if T.Count > 0 then EEPROM_Write T else T) s

/-- A table after `vReadEEPROMData`. -/
def readTable {t : eEEPROMDataType} (T : Table t) : Table t := if T.Count > 0 then EEPROM_Read T else T

theorem vReadEEPROMData_eq (s : Eeprom) :
    vReadEEPROMData s =
      { mem := eEEPROMDataType.all.foldl (fun m t => restore (readTable (s.table t)) m) s.mem
        table := fun t => readTable (s.table t)
        EEPROMDataReady := true } := by
  unfold vReadEEPROMData
  have hread : (eEEPROMDataType.all.foldl
      (fun s t => s.onTable t fun T => if T.Count > 0 then EEPROM_Read T else T) s) =
      { s with table := fun t => readTable (s.table t) } := onTable_all (fun _ T => readTable T) s
  rw [hread]

section Compare

variable {t : eEEPROMDataType} (now : ℕ → Mem) (m : Mem) (i : ℕ) (r : Bool × Table t) (T : Table t)

theorem lookAt_layout : (lookAt m i r).2.layout = r.2.layout := by
  unfold lookAt
  split <;> rfl

theorem lookAt_times : (lookAt m i r).2.ChangedTimes = r.2.ChangedTimes := by
  unfold lookAt
  split <;> rfl

theorem lookAt_unchanged (h : (lookAt m i r).1 = false) : lookAt m i r = r := by
  unfold lookAt at h ⊢
  split at h
  · cases h
  · next hc => exact if_neg hc

theorem xDataChanged_kept {α : Type} (f : Table t → α) (hf : ∀ m i r, f (lookAt m i r).2 = f r.2) :
    f (xDataChanged now T).2 = f T := by
  unfold xDataChanged
  generalize hr : (false, T) = r
  have hT : f T = f r.2 := by rw [← hr]
  rw [hT]
  clear hr hT
  induction List.range t.saveCount generalizing r with
  | nil => rfl
  | cons i l ih => rw [List.foldl_cons, ih, hf]

theorem xDataChanged_unchanged (h : (xDataChanged now T).1 = false) : (xDataChanged now T).2 = T := by
  have hrun (l : List ℕ) (r : Bool × Table t) (hl : (l.foldl (fun r i => lookAt (now i) i r) r).1 = false) :
      l.foldl (fun r i => lookAt (now i) i r) r = r := by
    induction l generalizing r with
    | nil => rfl
    | cons i l ih =>
      rw [List.foldl_cons] at hl ⊢
      have hstep := ih _ hl
      rw [hstep] at hl ⊢
      exact lookAt_unchanged _ _ _ hl
  exact congrArg Prod.snd (hrun _ _ h)

/-- The entry holds its variable. -/
def Table.Seen (m : Mem) (i : ℕ) : Prop := T.pDataBuf i ≠ 0 → T.DataBuf i = loadAt m (T.pDataBuf i) t.size

theorem lookAt_seen : (lookAt m i r).2.Seen m i := by
  unfold lookAt
  split
  · intro _
    exact Function.update_self _ _ _
  · next hc =>
    intro hp
    by_contra hne
    exact hc ⟨hp, hne⟩

theorem lookAt_seen_of {j : ℕ} (h : r.2.Seen m j) : (lookAt m i r).2.Seen m j := by
  by_cases hij : j = i
  · rw [hij]
    exact lookAt_seen m i r
  · unfold lookAt
    split
    · intro hp
      exact (Function.update_of_ne hij _ _).trans (h hp)
    · exact h

/-- A pass during which no variable changes leaves each entry with its variable. -/
theorem xDataChanged_seen (hi : i < t.saveCount) : (xDataChanged (fun _ => m) T).2.Seen m i := by
  have hkept (l : List ℕ) (r : Bool × Table t) (h : r.2.Seen m i) :
      (l.foldl (fun r i => lookAt m i r) r).2.Seen m i := by
    induction l generalizing r with
    | nil => exact h
    | cons j l ih => exact ih _ (lookAt_seen_of m j r h)
  have hrun (l : List ℕ) (r : Bool × Table t) (hl : i ∈ l) : (l.foldl (fun r i => lookAt m i r) r).2.Seen m i := by
    induction l generalizing r with
    | nil => cases hl
    | cons j l ih =>
      rcases List.mem_cons.mp hl with rfl | hl
      · exact hkept l _ (lookAt_seen m i r)
      · exact ih _ hl
  exact hrun _ _ (List.mem_range.mpr hi)

end Compare

/-! ### Registration -/

/-- The registrations of a type that are accepted, in their order. -/
def accepted (t : eEEPROMDataType) : List (eEEPROMDataType × ℕ) → Eeprom → List ℕ
  | [], _ => []
  | (u, p) :: regs, s =>
    (if u = t ∧ (xRegistEEPROMData u p s).1 = true then [p] else []) ++
      accepted t regs (xRegistEEPROMData u p s).2

theorem mem_slots {t : eEEPROMDataType} {T : Table t} {p : ℕ} :
    p ∈ T.slots ↔ ∃ i < T.Count, T.pDataBuf i = p := by
  simp [Table.slots]

section Regist

variable (u t : eEEPROMDataType) (p : ℕ) (s : Eeprom)

theorem xRegist_fst_iff :
    (xRegistEEPROMData u p s).1 = true ↔
      p ≠ 0 ∧ p ∉ (s.table u).slots ∧ (s.table u).slots.length < u.saveCount := by
  have hlen : (s.table u).slots.length = (s.table u).Count := by simp [Table.slots]
  rw [mem_slots, hlen]
  unfold xRegistEEPROMData
  split
  · next h => simp [h]
  · next h0 =>
    split
    · next h => simp [h]
    · next hnew =>
      split
      · next hroom => simp [h0, hnew, hroom]
      · next hfull => simp [hfull]

theorem xRegist_rejected (h : (xRegistEEPROMData u p s).1 = false) : (xRegistEEPROMData u p s).2 = s := by
  unfold xRegistEEPROMData at h ⊢
  split
  · rfl
  · next h0 =>
    split
    · rfl
    · next hnew =>
      split
      · next hroom =>
        rw [if_neg h0, if_neg hnew, if_pos hroom] at h
        cases h
      · rfl

theorem xRegist_slots :
    ((xRegistEEPROMData u p s).2.table t).slots =
      (s.table t).slots ++ (if u = t ∧ (xRegistEEPROMData u p s).1 = true then [p] else []) := by
  cases hacc : (xRegistEEPROMData u p s).1 with
  | false =>
    rw [xRegist_rejected u p s hacc]
    simp
  | true =>
    have hsnd : (xRegistEEPROMData u p s).2 = s.onTable u fun T =>
        { T with
          pDataBuf := Function.update T.pDataBuf T.Count p
          DataBuf := Function.update T.DataBuf T.Count (loadAt s.mem p u.size)
          Count := T.Count + 1 } := by
      unfold xRegistEEPROMData at hacc ⊢
      split at hacc
      · cases hacc
      · next h0 =>
        split at hacc
        · cases hacc
        · next hnew =>
          split at hacc
          · next hroom => rw [if_neg h0, if_neg hnew, if_pos hroom]
          · cases hacc
    rw [hsnd]
    by_cases hut : u = t
    · -- the new address takes the slot behind the others
      subst hut
      rw [if_pos ⟨rfl, rfl⟩]
      unfold Eeprom.onTable Table.slots
      dsimp only
      rw [Function.update_self]
      dsimp only
      rw [List.range_succ, List.map_append, List.map_singleton, Function.update_self]
      refine congrArg (· ++ [p]) (List.map_congr_left fun i hi => ?_)
      exact Function.update_of_ne (ne_of_lt (List.mem_range.mp hi)) _ _
    · rw [if_neg fun h => hut h.1, List.append_nil]
      unfold Eeprom.onTable
      dsimp only
      rw [Function.update_of_ne (Ne.symm hut)]

end Regist

section RegistAll

variable (t : eEEPROMDataType) (regs : List (eEEPROMDataType × ℕ))

theorem registAll_slots (s : Eeprom) :
    ((registAll regs s).table t).slots = (s.table t).slots ++ accepted t regs s := by
  induction regs generalizing s with
  | nil => simp [registAll, accepted]
  | cons r regs ih =>
    obtain ⟨u, p⟩ := r
    have hstep : (registAll ((u, p) :: regs) s) = registAll regs (xRegistEEPROMData u p s).2 := rfl
    rw [hstep, ih, xRegist_slots, List.append_assoc]
    rfl

theorem accepted_congr {s s' : Eeprom} (h : ∀ u, (s'.table u).slots = (s.table u).slots) :
    accepted t regs s' = accepted t regs s := by
  induction regs generalizing s s' with
  | nil => rfl
  | cons r regs ih =>
    obtain ⟨u, p⟩ := r
    have hfst : ((xRegistEEPROMData u p s').1 = true) = ((xRegistEEPROMData u p s).1 = true) := by
      rw [xRegist_fst_iff, xRegist_fst_iff, h]
    have hslots (w : eEEPROMDataType) :
        ((xRegistEEPROMData u p s').2.table w).slots = ((xRegistEEPROMData u p s).2.table w).slots := by
      rw [xRegist_slots, xRegist_slots, h]
      simp only [hfst]
    unfold accepted
    rw [ih hslots]
    simp only [hfst]

/-- A table holds no address twice, none is `NULL`, and it is not larger than its arrays. -/
structure Table.Proper {t : eEEPROMDataType} (T : Table t) : Prop where
  nodup : T.slots.Nodup
  ne_zero : 0 ∉ T.slots
  length_le : T.slots.length ≤ t.saveCount

theorem xRegist_proper (u : eEEPROMDataType) (p : ℕ) {s : Eeprom} (h : (s.table t).Proper) :
    ((xRegistEEPROMData u p s).2.table t).Proper := by
  have hslots := xRegist_slots u t p s
  by_cases hc : u = t ∧ (xRegistEEPROMData u p s).1 = true
  · rw [if_pos hc] at hslots
    obtain ⟨rfl, hacc⟩ := hc
    obtain ⟨h0, hnew, hroom⟩ := (xRegist_fst_iff u p s).mp hacc
    refine ⟨?_, ?_, ?_⟩
    · rw [hslots]
      exact List.nodup_append.mpr ⟨h.nodup, List.nodup_singleton p, fun a ha b hb hab => by
        rw [List.mem_singleton.mp hb] at hab
        exact hnew (hab ▸ ha)⟩
    · rw [hslots, List.mem_append, List.mem_singleton]
      rintro (h' | h')
      · exact h.ne_zero h'
      · exact h0 h'.symm
    · rw [hslots, List.length_append, List.length_singleton]
      exact hroom
  · rw [if_neg hc, List.append_nil] at hslots
    exact ⟨hslots ▸ h.nodup, hslots ▸ h.ne_zero, hslots ▸ h.length_le⟩

theorem registAll_proper {s : Eeprom} (h : (s.table t).Proper) : ((registAll regs s).table t).Proper := by
  induction regs generalizing s with
  | nil => exact h
  | cons r regs ih => exact ih (xRegist_proper t r.1 r.2 h)

theorem powerUp_proper (page : (t : eEEPROMDataType) → ℕ → Value t) (m : Mem) : ((powerUp page m).table t).Proper :=
  ⟨List.nodup_nil, List.not_mem_nil, Nat.zero_le _⟩

theorem registAll_powerUp_slots (page page' : (t : eEEPROMDataType) → ℕ → Value t) (m m' : Mem) :
    ((registAll regs (powerUp page' m')).table t).slots = accepted t regs (powerUp page m) :=
  (registAll_slots t regs (powerUp page' m')).trans (accepted_congr t regs fun _ => rfl)

end RegistAll

/-! ### Histories -/

/-- The event makes the buffer of the type and its page agree: the two functions of the start do, and a pass that finds
a change. -/
def EepromEvent.Syncs (t : eEEPROMDataType) (s : Eeprom) : EepromEvent → Prop
  | .assign _ => False
  | .write now => (xDataChanged (now t) (s.table t)).1 = true
  | .read => True
  | .firstTime => True

/-- One of the events does. -/
def Synchronised (t : eEEPROMDataType) : List EepromEvent → Eeprom → Prop
  | [], _ => False
  | e :: es, s => e.Syncs t s ∨ Synchronised t es (eepromStep s e)

/-- The page of the EEPROM holds the buffer. -/
def Table.Stored {t : eEEPROMDataType} (T : Table t) : Prop := 0 < T.Count → T.page = T.DataBuf

section History

variable {t : eEEPROMDataType}

theorem xDataChanged_layout (now : ℕ → Mem) (T : Table t) : (xDataChanged now T).2.layout = T.layout :=
  xDataChanged_kept now T Table.layout lookAt_layout

theorem writeChanged_layout (r : Bool × Table t) : (writeChanged r).layout = r.2.layout := by
  unfold writeChanged
  dsimp only
  split
  · split <;> rfl
  · rfl

theorem writeChanged_DataBuf (r : Bool × Table t) : (writeChanged r).DataBuf = r.2.DataBuf := by
  unfold writeChanged
  dsimp only
  split
  · split <;> rfl
  · rfl

theorem readTable_layout (T : Table t) : (readTable T).layout = T.layout := by
  unfold readTable
  split <;> rfl

theorem eepromStep_layout (s : Eeprom) (e : EepromEvent) : ((eepromStep s e).table t).layout = (s.table t).layout := by
  cases e with
  | assign m => rfl
  | write now =>
    show ((vWriteEEPROMData now s).table t).layout = _
    rw [vWriteEEPROMData_eq]
    exact (writeChanged_layout _).trans (xDataChanged_layout _ _)
  | read =>
    show ((vReadEEPROMData s).table t).layout = _
    rw [vReadEEPROMData_eq]
    exact readTable_layout _
  | firstTime =>
    show ((vWriteEEPROMDataFirstTime s).table t).layout = _
    rw [vWriteEEPROMDataFirstTime_eq]
    dsimp only
    split <;> rfl

theorem foldl_eepromStep_layout (s : Eeprom) (es : List EepromEvent) :
    ((es.foldl eepromStep s).table t).layout = (s.table t).layout := by
  induction es generalizing s with
  | nil => rfl
  | cons e es ih => exact (ih _).trans (eepromStep_layout s e)

variable (h : t.OnChange)

include h

/-- A type that is written on each change: a pass that finds one writes it, and another leaves the table. -/
theorem writeChanged_onChange (now : ℕ → Mem) {T : Table t} (hT : T.ChangedTimes = 0) :
    (writeChanged (xDataChanged now T)).ChangedTimes = 0 ∧
      if (xDataChanged now T).1 = true then
        (writeChanged (xDataChanged now T)).page = (writeChanged (xDataChanged now T)).DataBuf
      else writeChanged (xDataChanged now T) = T := by
  have htimes : (xDataChanged now T).2.ChangedTimes = 0 :=
    (xDataChanged_kept now T Table.ChangedTimes lookAt_times).trans hT
  unfold writeChanged
  dsimp only
  cases hc : (xDataChanged now T).1 with
  | false =>
    rw [if_neg Bool.false_ne_true, if_neg Bool.false_ne_true]
    exact ⟨htimes, xDataChanged_unchanged now T hc⟩
  | true =>
    have hdue : (xDataChanged now T).2.ChangedTimes + 1 ≥ t.writeIntv := by
      rw [htimes, h]
      decide
    rw [if_pos rfl, if_pos rfl, if_pos hdue]
    exact ⟨rfl, rfl⟩

theorem eepromStep_times {s : Eeprom} (hs : (s.table t).ChangedTimes = 0) (e : EepromEvent) :
    ((eepromStep s e).table t).ChangedTimes = 0 := by
  cases e with
  | assign m => exact hs
  | write now =>
    show ((vWriteEEPROMData now s).table t).ChangedTimes = 0
    rw [vWriteEEPROMData_eq]
    exact (writeChanged_onChange h (now t) hs).1
  | read =>
    show ((vReadEEPROMData s).table t).ChangedTimes = 0
    rw [vReadEEPROMData_eq]
    unfold readTable
    dsimp only
    split <;> exact hs
  | firstTime =>
    show ((vWriteEEPROMDataFirstTime s).table t).ChangedTimes = 0
    rw [vWriteEEPROMDataFirstTime_eq]
    dsimp only
    split <;> exact hs

/-- **A page that holds the buffer keeps holding it, and an event that synchronises makes it so.** -/
theorem eepromStep_stored {s : Eeprom} (hs : (s.table t).ChangedTimes = 0) (e : EepromEvent)
    (hstored : (s.table t).Stored ∨ e.Syncs t s) : ((eepromStep s e).table t).Stored := by
  cases e with
  | assign m => exact hstored.resolve_right id
    -- the memory of the variables is not the EEPROM's
  | write now =>
    show ((vWriteEEPROMData now s).table t).Stored
    rw [vWriteEEPROMData_eq]
    have hw := (writeChanged_onChange h (now t) hs).2
    dsimp only
    by_cases hc : (xDataChanged (now t) (s.table t)).1 = true
    · rw [if_pos hc] at hw
      exact fun _ => hw
    · rw [if_neg hc] at hw
      rw [hw]
      exact hstored.resolve_right hc
  | read =>
    show ((vReadEEPROMData s).table t).Stored
    rw [vReadEEPROMData_eq]
    unfold readTable
    dsimp only
    split
    · exact fun _ => rfl
    · next hc => exact fun hpos => absurd hpos hc
  | firstTime =>
    show ((vWriteEEPROMDataFirstTime s).table t).Stored
    rw [vWriteEEPROMDataFirstTime_eq]
    dsimp only
    split
    · exact fun _ => rfl
    · next hc => exact fun hpos => absurd hpos hc

theorem foldl_eepromStep_stored {s : Eeprom} (hs : (s.table t).ChangedTimes = 0) (es : List EepromEvent)
    (hsync : (s.table t).Stored ∨ Synchronised t es s) : ((es.foldl eepromStep s).table t).Stored := by
  induction es generalizing s with
  | nil => exact hsync.resolve_right id
  | cons e es ih =>
    refine ih (eepromStep_times h hs e) ?_
    rcases hsync with hstored | he | hes
    · exact Or.inl (eepromStep_stored h hs e (Or.inl hstored))
    · exact Or.inl (eepromStep_stored h hs e (Or.inr he))
    · exact Or.inr hes

end History

/-! ### Restoring -/

section Restore

variable {t : eEEPROMDataType} {T : Table t} {b : ℕ}

theorem restore_leaves (h : ∀ p ∈ T.slots, b < p ∨ p + t.size ≤ b) : Leaves (restore T) b := by
  refine foldl_leaves fun i hi m => ?_
  split
  · exact storeAt_off _ (h _ (mem_slots.mpr ⟨i, List.mem_range.mp hi, rfl⟩))
  · rfl

theorem restore_writes {m : Mem} (h0 : 0 ∉ T.slots)
    (hbuf : ∀ i < T.Count, T.DataBuf i = loadAt m (T.pDataBuf i) t.size)
    (hb : ∃ p ∈ T.slots, p ≤ b ∧ b < p + t.size) : Writes (restore T) b (m b) := by
  refine foldl_writes (fun i hi => ?_) ?_
  · by_cases hin : T.pDataBuf i ≠ 0 ∧ T.pDataBuf i ≤ b ∧ b < T.pDataBuf i + t.size
    · refine Or.inr fun m' => ?_
      dsimp only
      rw [if_pos hin.1, hbuf i (List.mem_range.mp hi)]
      exact storeAt_loadAt hin.2.1 hin.2.2
    · refine Or.inl fun m' => ?_
      dsimp only
      split
      · next hp => exact storeAt_off _ (by omega)
      · rfl
  · obtain ⟨p, hp, hle, hlt⟩ := hb
    obtain ⟨i, hi, rfl⟩ := mem_slots.mp hp
    refine ⟨i, List.mem_range.mpr hi, fun m' => ?_⟩
    dsimp only
    rw [if_pos fun hz => h0 (by rwa [hz] at hp), hbuf i hi]
    exact storeAt_loadAt hle hlt

theorem slots_inj {T' : Table t} (h : T'.slots = T.slots) :
    T'.Count = T.Count ∧ ∀ i < T.Count, T'.pDataBuf i = T.pDataBuf i := by
  have hlen := congrArg List.length h
  unfold Table.slots at h hlen
  rw [List.length_map, List.length_map, List.length_range, List.length_range] at hlen
  rw [hlen] at h
  exact ⟨hlen, fun i hi => List.map_inj_left.mp h i (List.mem_range.mpr hi)⟩

end Restore

/-! ### The round trip -/

section RoundTrip

variable (page : (t : eEEPROMDataType) → ℕ → Value t) (m : Mem) (regs : List (eEEPROMDataType × ℕ))
  (hist : List EepromEvent)

/-- The registrations, and then the history. -/
def eepromRun : Eeprom := hist.foldl eepromStep (registAll regs (powerUp page m))

/-- A pass during which no variable changes. -/
def stillPass : EepromEvent := .write fun _ _ => (eepromRun page m regs hist).mem

/-- The state after that pass. -/
def eepromPass : Eeprom := eepromStep (eepromRun page m regs hist) (stillPass page m regs hist)

/-- The registrations are repeated, with the pages as they are then. -/
def eepromRestart (m' : Mem) : Eeprom :=
  registAll regs (powerUp (fun t => ((eepromPass page m regs hist).table t).page) m')

/-- The type is written on each change, and has been synchronised since the registrations. -/
def Persistent (t : eEEPROMDataType) : Prop :=
  t.OnChange ∧ Synchronised t (hist ++ [stillPass page m regs hist]) (registAll regs (powerUp page m))

theorem registAll_kept {α : Type} (f : Eeprom → α) (hf : ∀ t p s, f (xRegistEEPROMData t p s).2 = f s) (s : Eeprom) :
    f (registAll regs s) = f s := by
  unfold registAll
  induction regs generalizing s with
  | nil => rfl
  | cons r regs ih => exact (ih _).trans (hf r.1 r.2 s)

theorem registAll_page (t : eEEPROMDataType) (s : Eeprom) :
    ((registAll regs s).table t).page = (s.table t).page ∧
      ((registAll regs s).table t).ChangedTimes = (s.table t).ChangedTimes := by
  have hkept (u : eEEPROMDataType) (p : ℕ) (s : Eeprom) :
      (((xRegistEEPROMData u p s).2.table t).page, ((xRegistEEPROMData u p s).2.table t).ChangedTimes) =
        ((s.table t).page, (s.table t).ChangedTimes) := by
    unfold xRegistEEPROMData
    split
    · rfl
    · split
      · rfl
      · split
        · by_cases hut : t = u
          · subst hut
            unfold Eeprom.onTable
            dsimp only
            rw [Function.update_self]
          · unfold Eeprom.onTable
            dsimp only
            rw [Function.update_of_ne hut]
        · rfl
  exact Prod.mk.inj (registAll_kept regs (fun s => ((s.table t).page, (s.table t).ChangedTimes)) hkept s)

theorem eepromRun_slots (t : eEEPROMDataType) :
    ((eepromRun page m regs hist).table t).slots = accepted t regs (powerUp page m) := by
  unfold eepromRun
  rw [slots_of_layout (foldl_eepromStep_layout _ hist), registAll_slots]
  rfl

/-- After the pass a persistent type has the values of its variables in its page. -/
theorem stillPass_page {t : eEEPROMDataType} (ht : Persistent page m regs hist t) {i : ℕ}
    (hi : i < ((eepromRun page m regs hist).table t).Count) :
    ((eepromPass page m regs hist).table t).page i =
      loadAt (eepromRun page m regs hist).mem (((eepromRun page m regs hist).table t).pDataBuf i) t.size := by
  have htimes : ((registAll regs (powerUp page m)).table t).ChangedTimes = 0 := (registAll_page regs t _).2
  have hstored := foldl_eepromStep_stored ht.1 htimes _ (Or.inr ht.2)
  rw [List.foldl_append, List.foldl_cons, List.foldl_nil] at hstored
  have hproper := registAll_proper t regs (powerUp_proper t page m)
  have hslots : ((eepromRun page m regs hist).table t).slots = ((registAll regs (powerUp page m)).table t).slots :=
    slots_of_layout (foldl_eepromStep_layout _ hist)
  change ((eepromPass page m regs hist).table t).Stored at hstored
  unfold eepromPass stillPass at hstored ⊢
  generalize eepromRun page m regs hist = s at hi hstored hslots ⊢
  have hlayout := eepromStep_layout (t := t) s (.write fun _ _ => s.mem)
  obtain ⟨hbuf, hcount⟩ := Prod.mk.inj hlayout
  rw [hstored (hcount ▸ Nat.zero_lt_of_lt hi)]
  have hmem : (s.table t).pDataBuf i ∈ (s.table t).slots := mem_slots.mpr ⟨i, hi, rfl⟩
  have hlen : i < t.saveCount := by
    have hle := hproper.length_le
    rw [← hslots, Table.slots, List.length_map, List.length_range] at hle
    omega
  -- the pass finds every variable as it is, and the page is written where one differs
  have hseen := xDataChanged_seen s.mem i (s.table t) hlen
  show ((vWriteEEPROMData (fun _ _ => s.mem) s).table t).DataBuf i = _
  rw [vWriteEEPROMData_eq]
  dsimp only
  rw [writeChanged_DataBuf]
  have hbuf' := (Prod.mk.inj (xDataChanged_layout (fun _ => s.mem) (s.table t))).1
  have hne : (xDataChanged (fun _ => s.mem) (s.table t)).2.pDataBuf i ≠ 0 := by
    rw [hbuf']
    intro h0
    rw [h0, hslots] at hmem
    exact hproper.ne_zero hmem
  rw [hseen hne, hbuf']

theorem eepromRestart_slots (m' : Mem) (t : eEEPROMDataType) :
    ((eepromRestart page m regs hist m').table t).slots = accepted t regs (powerUp page m) :=
  registAll_powerUp_slots t regs page _ m m'

/-- After the restart, and before the variables are set, a persistent type has their values in its buffer. -/
theorem restart_buffer (m' : Mem) {t : eEEPROMDataType} (ht : Persistent page m regs hist t) {T : Table t}
    (hT : T = readTable ((eepromRestart page m regs hist m').table t)) :
    ∀ i < T.Count, T.DataBuf i = loadAt (eepromRun page m regs hist).mem (T.pDataBuf i) t.size := by
  have hpage : ((eepromRestart page m regs hist m').table t).page = ((eepromPass page m regs hist).table t).page :=
    (registAll_page regs t _).1
  have hslots := eepromRestart_slots page m regs hist m' t
  generalize (eepromRestart page m regs hist m').table t = R at hT hpage hslots
  have hsame : R.slots = ((eepromRun page m regs hist).table t).slots :=
    hslots.trans (eepromRun_slots page m regs hist t).symm
  obtain ⟨hcount, hbuf⟩ := slots_inj hsame
  obtain ⟨hbufT, hcountT⟩ := Prod.mk.inj ((congrArg Table.layout hT).trans (readTable_layout R))
  intro i hi
  rw [hcountT] at hi
  have hread : T.DataBuf = R.page := by
    rw [hT, readTable, if_pos (Nat.zero_lt_of_lt hi)]
    rfl
  rw [hread, hpage, hbufT, hbuf i (hcount ▸ hi)]
  exact stillPass_page page m regs hist ht (hcount ▸ hi)

/-- **The round trip.**  The accepted registrations of a type are its slots, in their order; none is twice and none too
many.  And a variable of a persistent type that shares no byte with one of another type that is not persistent has
after the restart the value of the pass. -/
theorem eeprom_roundTrip (m' : Mem) (t : eEEPROMDataType) :
    (((eepromRun page m regs hist).table t).slots = accepted t regs (powerUp page m) ∧
      (accepted t regs (powerUp page m)).Nodup ∧ (accepted t regs (powerUp page m)).length ≤ t.saveCount) ∧
    (Persistent page m regs hist t → ∀ p ∈ accepted t regs (powerUp page m),
      (∀ u, ¬Persistent page m regs hist u → ∀ q ∈ accepted u regs (powerUp page m),
        p + t.size ≤ q ∨ q + u.size ≤ p) →
      loadAt (vReadEEPROMData (eepromRestart page m regs hist m')).mem p t.size =
        loadAt (eepromRun page m regs hist).mem p t.size) := by
  have hproper (u : eEEPROMDataType) := registAll_proper u regs (powerUp_proper u page m)
  have haccepted (u : eEEPROMDataType) :
      ((registAll regs (powerUp page m)).table u).slots = accepted u regs (powerUp page m) :=
    registAll_powerUp_slots u regs page page m m
  refine ⟨⟨eepromRun_slots page m regs hist t, ?_, ?_⟩, fun ht p hp hapart => ?_⟩
  · rw [← haccepted]
    exact (hproper t).nodup
  · rw [← haccepted]
    exact (hproper t).length_le
  · have hslots (u : eEEPROMDataType) : (readTable ((eepromRestart page m regs hist m').table u)).slots =
        accepted u regs (powerUp page m) :=
      (slots_of_layout (readTable_layout _)).trans (eepromRestart_slots page m regs hist m' u)
    have hne (u : eEEPROMDataType) : 0 ∉ (readTable ((eepromRestart page m regs hist m').table u)).slots := by
      rw [hslots, ← haccepted]
      exact (hproper u).ne_zero
    have hwrites {u : eEEPROMDataType} (hu : Persistent page m regs hist u) {b : ℕ} :=
      restore_writes (b := b) (hne u) (restart_buffer page m regs hist m' hu rfl)
    refine loadAt_congr_iff.mpr fun b hle hlt => ?_
    rw [vReadEEPROMData_eq]
    refine foldl_writes (g := fun u => restore (readTable ((eepromRestart page m regs hist m').table u)))
      (fun u _ => ?_) ⟨t, t.mem_all, hwrites ht ⟨p, (hslots t).symm ▸ hp, hle, hlt⟩⟩ _
    -- which tables write a byte of the variable when they are restored
    by_cases hu : Persistent page m regs hist u
    · by_cases hb : ∃ q ∈ (readTable ((eepromRestart page m regs hist m').table u)).slots, q ≤ b ∧ b < q + u.size
      · exact Or.inr (hwrites hu hb)
      · refine Or.inl (restore_leaves fun q hq => ?_)
        by_contra hno
        exact hb ⟨q, hq, by omega⟩
    · refine Or.inl (restore_leaves fun q hq => ?_)
      have hoff := hapart u hu q (hslots u ▸ hq)
      omega

end RoundTrip

/-- A byte and a word. -/
def twoTypes : List (eEEPROMDataType × ℕ) := [(.TYPE_UINT_8, 1), (.TYPE_UINT_16, 4)]

/-- Both are changed after the start. -/
theorem eeprom_roundTrip_twoTypes :
    loadAt (vReadEEPROMData (eepromRestart (fun _ _ _ => 0) (fun _ => 5) twoTypes [.read, .assign fun _ => 7]
        fun _ => 0)).mem 1 1 = (fun _ => 7) ∧
      loadAt (vReadEEPROMData (eepromRestart (fun _ _ _ => 0) (fun _ => 5) twoTypes [.read, .assign fun _ => 7]
        fun _ => 0)).mem 4 2 = fun _ => 7 := by
  have hpersistent (t : eEEPROMDataType) (h : t.OnChange) :
      Persistent (fun _ _ _ => 0) (fun _ => 5) twoTypes [.read, .assign fun _ => 7] t := ⟨h, Or.inl trivial⟩
  -- the other types have no variable
  have hapart (p n : ℕ) (u : eEEPROMDataType)
      (hu : ¬Persistent (fun _ _ _ => 0) (fun _ => 5) twoTypes [.read, .assign fun _ => 7] u) :
      ∀ q ∈ accepted u twoTypes (powerUp (fun _ _ _ => 0) fun _ => 5), p + n ≤ q ∨ q + u.size ≤ p := by
    intro q hq
    cases u with
    | TYPE_UINT_8 => exact absurd (hpersistent .TYPE_UINT_8 rfl) hu
    | TYPE_UINT_16 => exact absurd (hpersistent .TYPE_UINT_16 rfl) hu
    | _ => exact absurd hq List.not_mem_nil
  constructor
  · exact (eeprom_roundTrip _ _ twoTypes _ (fun _ => 0) .TYPE_UINT_8).2 (hpersistent _ rfl) 1 (by decide) (hapart 1 1)
  · exact (eeprom_roundTrip _ _ twoTypes _ (fun _ => 0) .TYPE_UINT_16).2 (hpersistent _ rfl) 4 (by decide) (hapart 4 2)

/-- Without the start, a variable that has not changed is not in the EEPROM; and one that is registered as a running
time too gets the value of that table, which is older. -/
theorem eeprom_not_restored :
    (1 ∈ accepted .TYPE_UINT_8 [(.TYPE_UINT_8, 1)] (powerUp (fun _ _ _ => 0) fun _ => 5) ∧
      loadAt (vReadEEPROMData (eepromRestart (fun _ _ _ => 0) (fun _ => 5) [(.TYPE_UINT_8, 1)] [] fun _ => 0)).mem 1 1 ≠
        loadAt (eepromRun (fun _ _ _ => 0) (fun _ => 5) [(.TYPE_UINT_8, 1)] []).mem 1 1) ∧
    (4 ∈ accepted .TYPE_UINT_32 [(.TYPE_UINT_32, 4), (.TYPE_RUNTIME, 4)] (powerUp (fun _ _ _ => 0) fun _ => 0) ∧
      loadAt (vReadEEPROMData (eepromRestart (fun _ _ _ => 0) (fun _ => 0) [(.TYPE_UINT_32, 4), (.TYPE_RUNTIME, 4)]
          [.read, .assign fun _ => 1] fun _ => 0)).mem 4 4 ≠
        loadAt (eepromRun (fun _ _ _ => 0) (fun _ => 0) [(.TYPE_UINT_32, 4), (.TYPE_RUNTIME, 4)]
          [.read, .assign fun _ => 1]).mem 4 4) := by
  refine ⟨⟨by decide, fun h => ?_⟩, by decide, fun h => ?_⟩
  · exact absurd (congrFun h 0) (by decide)
  · exact absurd (congrFun h 0) (by decide)

end GreeIntense.Module

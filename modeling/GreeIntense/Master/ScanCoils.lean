import GreeIntense.Lib.Bits
import GreeIntense.Lib.Rows
import GreeIntense.Master.Coils

/-!
# The write scan of the coils (`eMBMasterScanWriteCoils` in `mbscan_m.c`)

The scan packs the values of the coils to be written into `BitCoilByteValList` while it goes over the table,
and sends a row of consecutive coils as soon as it ends.

`scanCoilEntry` is one pass of the loop.  The bytes of the list are those of the pending bits (`Packed`), so
the counters of the loop follow the rows of `Lib.Rows`: `scanCoilEntry_simulates`.
-/

namespace GreeIntense.Master

open Lib.Memory Lib.Bits Lib.Rows

abbrev MB_SCAN_MAX_BIT_NUM : ℕ := 400

/-! ### The scan -/

/-- The local variables of the scan, and the list of bytes it collects in. -/
structure ScanCoils where
  xCheckPreValue : Bool
  iIndex : ℕ
  iWriteStartCoilAddr : USHORT
  iLastAddr : USHORT
  iWriteBytes : ℕ
  iWriteBits : ℕ
  iBits : ℕ
  iBitInByte : ℕ
  cByteValue : UCHAR
  bStarted : Bool
  BitCoilByteValList : Mem

/-- The scan before the first entry; the list has what the last scan left. -/
def ScanCoils.start (xCheckPreValue : Bool) (BitCoilByteValList : Mem) : ScanCoils where
  xCheckPreValue := xCheckPreValue
  iIndex := 0
  iWriteStartCoilAddr := 0
  iLastAddr := 0
  iWriteBytes := 0
  iWriteBits := 0
  iBits := 0
  iBitInByte := 0
  cByteValue := 0
  bStarted := false
  BitCoilByteValList := BitCoilByteValList

/-- A request for the bus: the first address, the number of coils and the bytes. -/
structure CoilRequest where
  usCoilAddr : USHORT
  usNCoils : ℕ
  pucDataBuffer : Mem

/-- The value the scan collects for a coil, if it collects one. -/
def scanBit (xCheckPreValue : Bool) (i : ℕ) (e : sMasterBitCoilData) (c : Coils) : Option Bool :=
  match e.pvValue with
  | none => none
  | some p =>
    if e.ucAccessMode ≠ .RO then
      if c.ucPreVal i ≠ c.vars p ∨ xCheckPreValue = false then some (c.vars p > 0) else none
    else none

namespace ScanCoils

/-- The packing of a value. -/
def collect (v : Bool) (sc : ScanCoils) : ScanCoils :=
  let full : Bool := sc.iBitInByte % 8 = 0
  let iBitInByte := if full then 0 else sc.iBitInByte
  let iWriteBytes := if full then sc.iWriteBytes + 1 else sc.iWriteBytes
  let cByteValue := if full then 0 else sc.cByteValue
  let cByteValue := if v then cByteValue ||| ((1 : UCHAR) <<< iBitInByte) else cByteValue
  { sc with
    cByteValue := cByteValue, iBitInByte := iBitInByte + 1, iWriteBytes := iWriteBytes
    iWriteBits := sc.iWriteBits + 1
    BitCoilByteValList := store8 sc.BitCoilByteValList (iWriteBytes - 1) cByteValue }

/-- The start of a row. -/
def begun (e : sMasterBitCoilData) (sc : ScanCoils) : ScanCoils :=
  { sc with iWriteStartCoilAddr := e.usAddr, bStarted := true, iBits := 1, iWriteBytes := 1 }

/-- The count of a coil; the first one collected starts a row. -/
def count (e : sMasterBitCoilData) (sc : ScanCoils) : ScanCoils :=
  let sc := { sc with iBits := sc.iBits + 1 }
  if sc.iWriteBits = 1 ∧ sc.bStarted = false then sc.begun e else sc

/-- The state after a request: nothing is collected. -/
def cleared (sc : ScanCoils) : ScanCoils :=
  { sc with iWriteBits := 0, iWriteBytes := 0, iBits := 0, cByteValue := 0, iBitInByte := 0, bStarted := false }

/-- The state after a request that the coil `e` is not in: its value begins the next row. -/
def restarted (e : sMasterBitCoilData) (v : Bool) (sc : ScanCoils) : ScanCoils :=
  let cByteValue : UCHAR := if v then 0 ||| ((1 : UCHAR) <<< 0) else 0
  { sc with
    iWriteBits := 1, iWriteBytes := 1, iBits := 1, bStarted := true, iWriteStartCoilAddr := e.usAddr
    cByteValue := cByteValue, iBitInByte := 0 + 1
    BitCoilByteValList := store8 sc.BitCoilByteValList 0 cByteValue }

/-- The end of a pass. -/
def next (e : sMasterBitCoilData) (sc : ScanCoils) : ScanCoils :=
  { sc with iLastAddr := e.usAddr, iIndex := sc.iIndex + 1 }

/-- The request for the first `n` of the coils collected. -/
def request (sc : ScanCoils) (n : ℕ) : CoilRequest := ⟨sc.iWriteStartCoilAddr, n, sc.BitCoilByteValList⟩

end ScanCoils

def coilValue (e : sMasterBitCoilData) (c : Coils) : Bool :=
  match e.pvValue with
  | none => false
  | some p => c.vars p > 0

/-- One pass of the loop, on the entry `e` at `iIndex` of `usDataCount`: the variables after it, and the
request it makes.  The values `c` are those of the pass: they do not change while it waits. -/
def scanCoilEntry (usDataCount : ℕ) (e : sMasterBitCoilData) (c : Coils) (sc : ScanCoils) :
    ScanCoils × Option CoilRequest :=
  let collected := match scanBit sc.xCheckPreValue sc.iIndex e c with
    | some v => sc.collect v
    | none => sc
  let s := collected.count e
  if e.usAddr.toNat ≠ s.iLastAddr.toNat + 1 then
    if s.iWriteBits > 0 ∧ s.iBits > 1 then
      if s.iBits = s.iWriteBits then
        ((s.restarted e (coilValue e c)).next e, some (s.request (s.iWriteBits - 1)))
      else if s.iBits > s.iWriteBits then (s.cleared.next e, some (s.request s.iWriteBits))
      else (s.next e, none)
    else (s.next e, none)
  else
    if s.iWriteBits > 0 ∧
        (s.iBits > s.iWriteBits ∨ s.iIndex = usDataCount - 1 ∨ s.iWriteBits ≥ MB_SCAN_MAX_BIT_NUM) then
      (s.cleared.next e, some (s.request s.iWriteBits))
    else (s.next e, none)

/-- `eMBMasterScanWriteCoils`: the requests of a pass, in their order.  The task waits at every request: `c i` is
the state in which the entry `i` is looked at. -/
def eMBMasterScanWriteCoils (tab : sMBDevTable sMasterBitCoilData) (xCheckPreValue : Bool) (c : ℕ → Coils)
    (BitCoilByteValList : Mem) : List CoilRequest :=
  outputs (fun e sc => scanCoilEntry tab.pvDataBuf.length e (c sc.iIndex) sc) tab.pvDataBuf
    (.start xCheckPreValue BitCoilByteValList)

/-! ### The bits collected -/

variable {sc : ScanCoils} {vals : List Bool} {v : Bool} {e : sMasterBitCoilData} {c : Coils} {usDataCount : ℕ}

/-- **The scan has collected the bits `vals`**: they stand packed in the list, and the byte at hand is the last
one of them, if that is not full. -/
structure Packed (sc : ScanCoils) (vals : List Bool) : Prop where
  bits : sc.iWriteBits = vals.length
  bytes : sc.iWriteBytes = (vals.length + 7) / 8
  pos : sc.iBitInByte % 8 = vals.length % 8
  le : sc.iBitInByte ≤ 8
  byte : vals.length % 8 ≠ 0 → sc.cByteValue = packByte vals (vals.length / 8)
  list : Holds sc.BitCoilByteValList 0 (packBits vals)

theorem packed_nil {sc : ScanCoils} (bits : sc.iWriteBits = 0) (bytes : sc.iWriteBytes = 0)
    (pos : sc.iBitInByte = 0) : Packed sc [] where
  bits := bits
  bytes := bytes
  pos := by rw [pos]; rfl
  le := by omega
  byte h := absurd rfl h
  list := nofun

/-- **The packing of a value.** -/
theorem packed_collect (h : Packed sc vals) (v : Bool) : Packed (sc.collect v) (vals ++ [v]) := by
  obtain ⟨bits, bytes, pos, le, byte, list⟩ := h
  have hlen : (vals ++ [v]).length = vals.length + 1 := by simp
  -- the position, the index and the value of the byte that the bit goes into
  have hpos : (if decide (sc.iBitInByte % 8 = 0) = true then 0 else sc.iBitInByte) = vals.length % 8 := by
    split
    · rename_i hfull
      rw [← pos, of_decide_eq_true hfull]
    · rename_i hfull
      have := of_decide_eq_false (Bool.eq_false_iff.mpr hfull)
      omega
  have hbytes : (if decide (sc.iBitInByte % 8 = 0) = true then sc.iWriteBytes + 1 else sc.iWriteBytes) =
      vals.length / 8 + 1 := by
    split
    · rename_i hfull
      have := of_decide_eq_true hfull
      omega
    · rename_i hfull
      have := of_decide_eq_false (Bool.eq_false_iff.mpr hfull)
      omega
  have hbyte : (if decide (sc.iBitInByte % 8 = 0) = true then 0 else sc.cByteValue) =
      packByte vals (vals.length / 8) := by
    split
    · rename_i hfull
      have := of_decide_eq_true hfull
      rw [packByte_of_le (by omega)]
    · rename_i hfull
      have := of_decide_eq_false (Bool.eq_false_iff.mpr hfull)
      exact byte (by omega)
  have hval : (sc.collect v).cByteValue = packByte (vals ++ [v]) (vals.length / 8) := by
    simp only [ScanCoils.collect, hpos, hbyte]
    exact (packByte_concat vals v).symm
  have hstore : (sc.collect v).BitCoilByteValList = store8 sc.BitCoilByteValList (0 + vals.length / 8)
      (packByte (vals ++ [v]) (vals.length / 8)) := by
    rw [← hval, Nat.zero_add]
    simp only [ScanCoils.collect, hbytes, Nat.add_sub_cancel]
  constructor
  · simp only [ScanCoils.collect, hlen, bits]
  · simp only [ScanCoils.collect, hbytes, hlen]
    omega
  · simp only [ScanCoils.collect, hpos, hlen]
    omega
  · simp only [ScanCoils.collect, hpos]
    omega
  · intro hne
    rw [hlen] at hne
    rw [hval, hlen, show (vals.length + 1) / 8 = vals.length / 8 by omega]
  · rw [hstore]
    exact holds_packBits_concat list v

/-- A request as a row. -/
def CoilRequest.row (q : CoilRequest) : Lib.Rows.Row Bool :=
  ⟨q.usCoilAddr.toNat, (List.range q.usNCoils).map (bitAt q.pucDataBuffer 0)⟩

theorem Packed.row (h : Packed sc vals) {n : ℕ} (hn : n ≤ vals.length) :
    (sc.request n).row = ⟨sc.iWriteStartCoilAddr.toNat, vals.take n⟩ := by
  have hbits : (List.range n).map (bitAt sc.BitCoilByteValList 0) = vals.take n := by
    apply List.ext_getElem
    · simp [hn]
    · intro k hk hk'
      rw [List.length_map, List.length_range] at hk
      rw [List.getElem_map, List.getElem_range, List.getElem_take, bitAt_of_holds h.list (by omega),
        List.getD_eq_getElem _ _ (by omega)]
  rw [CoilRequest.row, ScanCoils.request, hbits]

/-! ### The rows of the pass -/

/-- The counters of the scan hold the pending row. -/
structure HoldsRow (sc : ScanCoils) (s : RowState Bool) : Prop where
  last : sc.iLastAddr.toNat = s.last
  packed : Packed sc s.vals
  idle : s.vals = [] → sc.bStarted = false
  row : s.vals ≠ [] → sc.bStarted = true ∧ sc.iWriteStartCoilAddr.toNat = s.start ∧ sc.iBits = s.vals.length

theorem holdsRow_start (xCheckPreValue : Bool) (list : Mem) : HoldsRow (.start xCheckPreValue list) .idle :=
  ⟨rfl, packed_nil rfl rfl rfl, fun _ => rfl, fun h => absurd rfl h⟩

theorem holdsRow_cleared (sc : ScanCoils) (e : sMasterBitCoilData) (n : ℕ) :
    HoldsRow (sc.cleared.next e) ⟨e.usAddr.toNat, n, []⟩ :=
  ⟨rfl, packed_nil rfl rfl rfl, fun _ => rfl, fun h => absurd rfl h⟩

theorem holdsRow_restarted (sc : ScanCoils) (e : sMasterBitCoilData) (v : Bool) :
    HoldsRow ((sc.restarted e v).next e) ⟨e.usAddr.toNat, e.usAddr.toNat, [v]⟩ := by
  have h : Packed (sc.cleared.collect v) [v] := packed_collect (packed_nil rfl rfl rfl) v
  exact ⟨rfl, ⟨h.bits, h.bytes, h.pos, h.le, h.byte, h.list⟩, nofun, fun _ => ⟨rfl, rfl, rfl⟩⟩

theorem coilValue_of_scanBit {b : Bool} {i : ℕ} (h : scanBit b i e c = some v) : coilValue e c = v := by
  unfold scanBit at h
  unfold coilValue
  split at h
  · cases h
  · split at h
    · split at h
      · exact Option.some.inj h
      · cases h
    · cases h

/-! ### The cases of a pass -/

section Cases

variable {n : ℕ}

theorem count_of_ne (h : sc.iWriteBits ≠ 1) : sc.count e = { sc with iBits := sc.iBits + 1 } := by
  rw [ScanCoils.count]
  exact if_neg fun h' => h h'.1

theorem count_started (h : sc.bStarted = true) : sc.count e = { sc with iBits := sc.iBits + 1 } := by
  rw [ScanCoils.count]
  apply if_neg
  intro h'
  have := h'.2
  dsimp only at this
  rw [h] at this
  cases this

theorem count_first (h : sc.iWriteBits = 1) (h' : sc.bStarted = false) : sc.count e = sc.begun e := by
  rw [ScanCoils.count]
  exact if_pos ⟨h, h'⟩

theorem scanCoilEntry_skip (hb : scanBit sc.xCheckPreValue sc.iIndex e c = none) (bits : sc.iWriteBits = 0) :
    scanCoilEntry usDataCount e c sc = ({ sc with iBits := sc.iBits + 1 }.next e, none) := by
  rw [scanCoilEntry, hb]
  dsimp only
  rw [count_of_ne (by omega)]
  simp [bits]

theorem scanCoilEntry_end (hb : scanBit sc.xCheckPreValue sc.iIndex e c = none) (bits : sc.iWriteBits = n)
    (hn : 0 < n) (started : sc.bStarted = true) (regs : sc.iBits = n) :
    scanCoilEntry usDataCount e c sc = (sc.cleared.next e, some (sc.request n)) := by
  rw [scanCoilEntry, hb]
  dsimp only
  rw [count_started started]
  by_cases hgap : e.usAddr.toNat = sc.iLastAddr.toNat + 1
  · simp [bits, regs, hn, hgap, ScanCoils.cleared, ScanCoils.request]
  · simp [bits, regs, hn, hgap, ScanCoils.cleared, ScanCoils.request]

theorem scanCoilEntry_begin (hb : scanBit sc.xCheckPreValue sc.iIndex e c = some v) (bits : sc.iWriteBits = 0)
    (started : sc.bStarted = false) :
    scanCoilEntry usDataCount e c sc =
      if sc.iIndex = usDataCount - 1 ∧ e.usAddr.toNat = sc.iLastAddr.toNat + 1 then
        (((sc.collect v).begun e).cleared.next e, some (((sc.collect v).begun e).request 1))
      else (((sc.collect v).begun e).next e, none) := by
  have hbits : (sc.collect v).iWriteBits = 1 := by rw [← Nat.zero_add 1, ← bits]; rfl
  have hbits' : ((sc.collect v).begun e).iWriteBits = 1 := hbits
  have hlast : ((sc.collect v).begun e).iLastAddr = sc.iLastAddr := rfl
  have hindex : ((sc.collect v).begun e).iIndex = sc.iIndex := rfl
  have hregs : ((sc.collect v).begun e).iBits = 1 := rfl
  rw [scanCoilEntry, hb]
  dsimp only
  rw [count_first hbits started, hlast, hindex, hbits', hregs]
  by_cases hgap : e.usAddr.toNat = sc.iLastAddr.toNat + 1
  · simp [hgap, MB_SCAN_MAX_BIT_NUM]
  · simp [hgap]

theorem scanCoilEntry_gap (hb : scanBit sc.xCheckPreValue sc.iIndex e c = some v) (bits : sc.iWriteBits = n)
    (hn : 0 < n) (started : sc.bStarted = true) (regs : sc.iBits = n)
    (hgap : e.usAddr.toNat ≠ sc.iLastAddr.toNat + 1) :
    scanCoilEntry usDataCount e c sc =
      (((sc.collect v).restarted e v).next e, some ((sc.collect v).request n)) := by
  have hbits : (sc.collect v).iWriteBits = n + 1 := by rw [← bits]; rfl
  have hregs : (sc.collect v).iBits = n := regs
  have hlast : (sc.collect v).iLastAddr = sc.iLastAddr := rfl
  have hstarted : (sc.collect v).bStarted = true := started
  rw [scanCoilEntry, hb]
  dsimp only
  rw [count_started hstarted]
  simp [hbits, hregs, hlast, hgap, hn, coilValue_of_scanBit hb, ScanCoils.restarted, ScanCoils.request]

theorem scanCoilEntry_go (hb : scanBit sc.xCheckPreValue sc.iIndex e c = some v) (bits : sc.iWriteBits = n)
    (started : sc.bStarted = true) (regs : sc.iBits = n) (hgap : e.usAddr.toNat = sc.iLastAddr.toNat + 1) :
    scanCoilEntry usDataCount e c sc =
      if sc.iIndex = usDataCount - 1 ∨ MB_SCAN_MAX_BIT_NUM ≤ n + 1 then
        ((sc.collect v).cleared.next e, some ((sc.collect v).request (n + 1)))
      else ({ sc.collect v with iBits := n + 1 }.next e, none) := by
  have hbits : (sc.collect v).iWriteBits = n + 1 := by rw [← bits]; rfl
  have hregs : (sc.collect v).iBits = n := regs
  have hlast : (sc.collect v).iLastAddr = sc.iLastAddr := rfl
  have hindex : (sc.collect v).iIndex = sc.iIndex := rfl
  have hstarted : (sc.collect v).bStarted = true := started
  rw [scanCoilEntry, hb]
  dsimp only
  rw [count_started hstarted]
  simp [hbits, hregs, hlast, hindex, hgap, ScanCoils.cleared, ScanCoils.request]

end Cases

/-- On the entry, of which `v` is the value selected, the loop does what the row step does. -/
def EntrySimulates (sc : ScanCoils) (s : RowState Bool) (usDataCount : ℕ) (e : sMasterBitCoilData) (c : Coils)
    (v : Option Bool) : Prop :=
  ∃ t, rowStep MB_SCAN_MAX_BIT_NUM false (sc.iIndex = usDataCount - 1) e.usAddr.toNat v s =
      (t, (scanCoilEntry usDataCount e c sc).2.map CoilRequest.row) ∧
    HoldsRow (scanCoilEntry usDataCount e c sc).1 t ∧ (scanCoilEntry usDataCount e c sc).1.iIndex = sc.iIndex + 1 ∧
    (scanCoilEntry usDataCount e c sc).1.xCheckPreValue = sc.xCheckPreValue

theorem entry_not_selected {s : RowState Bool} (h : HoldsRow sc s) (usDataCount : ℕ)
    (hb : scanBit sc.xCheckPreValue sc.iIndex e c = none) : EntrySimulates sc s usDataCount e c none := by
  obtain ⟨-, hpacked, hidle, hrow⟩ := h
  have hbits := hpacked.bits
  unfold EntrySimulates
  by_cases hv : s.vals = []
  · -- no row is pending
    rw [hv] at hbits hpacked
    rw [scanCoilEntry_skip hb hbits, rowStep, if_pos hv]
    refine ⟨_, rfl, ⟨rfl, ?_, fun _ => hidle hv, fun h => absurd rfl h⟩, rfl, rfl⟩
    exact ⟨hpacked.bits, hpacked.bytes, hpacked.pos, hpacked.le, hpacked.byte, hpacked.list⟩
  · -- the coil is not collected: the pending row is sent
    obtain ⟨started, hstart, regs⟩ := hrow hv
    rw [scanCoilEntry_end hb hbits (List.length_pos_iff.mpr hv) started regs, rowStep, if_neg hv, Option.map_some,
      hpacked.row (Nat.le_refl _), List.take_length, hstart]
    exact ⟨_, rfl, holdsRow_cleared sc e s.start, rfl, rfl⟩

/-- The first coil of a row is sent at once if it is the last of the table and next to the one before. -/
theorem entry_begins {s : RowState Bool} (h : HoldsRow sc s) (usDataCount : ℕ)
    (hb : scanBit sc.xCheckPreValue sc.iIndex e c = some v) (hv : s.vals = []) :
    EntrySimulates sc s usDataCount e c (some v) := by
  obtain ⟨hlast, hpacked, hidle, -⟩ := h
  have hbits := hpacked.bits
  have hnew := packed_collect hpacked v
  rw [hv] at hbits hnew
  have hbegun : Packed ((sc.collect v).begun e) [v] :=
    ⟨hnew.bits, by simp [ScanCoils.begun], hnew.pos, hnew.le, hnew.byte, hnew.list⟩
  unfold EntrySimulates
  rw [scanCoilEntry_begin hb hbits (hidle hv), rowStep, if_pos hv, ← hlast]
  by_cases hend : sc.iIndex = usDataCount - 1 ∧ e.usAddr.toNat = sc.iLastAddr.toNat + 1
  · rw [if_pos hend, if_pos ⟨decide_eq_true hend.1, Or.inr hend.2⟩, Option.map_some, hbegun.row (Nat.le_refl 1)]
    exact ⟨_, rfl, holdsRow_cleared _ e _, rfl, rfl⟩
  · have hend' : ¬(decide (sc.iIndex = usDataCount - 1) = true ∧
        (false = true ∨ e.usAddr.toNat = sc.iLastAddr.toNat + 1)) := by
      rintro ⟨h1, h2 | h2⟩
      · cases h2
      · exact hend ⟨of_decide_eq_true h1, h2⟩
    rw [if_neg hend, if_neg hend']
    refine ⟨_, rfl, ⟨rfl, ?_, fun h => absurd h (List.cons_ne_nil v []), fun _ => ⟨rfl, rfl, rfl⟩⟩, rfl, rfl⟩
    exact ⟨hbegun.bits, hbegun.bytes, hbegun.pos, hbegun.le, hbegun.byte, hbegun.list⟩

theorem entry_joins {s : RowState Bool} (h : HoldsRow sc s) (usDataCount : ℕ)
    (hb : scanBit sc.xCheckPreValue sc.iIndex e c = some v) (hv : s.vals ≠ []) :
    EntrySimulates sc s usDataCount e c (some v) := by
  obtain ⟨hlast, hpacked, -, hrow⟩ := h
  have hbits := hpacked.bits
  have hnew := packed_collect hpacked v
  obtain ⟨started, hstart, regs⟩ := hrow hv
  have hlen : (s.vals ++ [v]).length = s.vals.length + 1 := by simp
  have hstart' : (sc.collect v).iWriteStartCoilAddr.toNat = s.start := hstart
  unfold EntrySimulates
  by_cases hgap : e.usAddr.toNat = sc.iLastAddr.toNat + 1
  · -- the row goes on, until it is full or the table ends
    have hkey : ¬e.usAddr.toNat ≠ s.last + 1 := by
      rw [hgap, hlast]
      exact fun h => h rfl
    rw [scanCoilEntry_go hb hbits started regs hgap, rowStep, if_neg hv, if_neg hkey]
    by_cases hsend : sc.iIndex = usDataCount - 1 ∨ MB_SCAN_MAX_BIT_NUM ≤ s.vals.length + 1
    · rw [if_pos hsend, if_pos (hsend.imp_left decide_eq_true), Option.map_some, hnew.row (by rw [hlen]), ← hlen,
        List.take_length, hstart']
      exact ⟨_, rfl, holdsRow_cleared (sc.collect v) e s.start, rfl, rfl⟩
    · rw [if_neg hsend, if_neg fun h => hsend (h.imp_left of_decide_eq_true)]
      refine ⟨_, rfl, ⟨rfl, ?_, ?_, fun _ => ⟨started, hstart, hlen.symm⟩⟩, rfl, rfl⟩
      · exact ⟨hnew.bits, hnew.bytes, hnew.pos, hnew.le, hnew.byte, hnew.list⟩
      · intro h
        simp at h
  · -- behind a gap the pending row is sent, and the coil begins the next one
    have hkey : e.usAddr.toNat ≠ s.last + 1 := by
      rw [← hlast]
      exact hgap
    rw [scanCoilEntry_gap hb hbits (List.length_pos_iff.mpr hv) started regs hgap, rowStep, if_neg hv, if_pos hkey,
      Option.map_some, hnew.row (by omega), hstart', List.take_left' rfl]
    exact ⟨_, rfl, holdsRow_restarted (sc.collect v) e v, rfl, rfl⟩

/-- **One coil of the scan is one item of the rows.** -/
theorem scanCoilEntry_simulates {s : RowState Bool} (h : HoldsRow sc s) (usDataCount : ℕ) (e : sMasterBitCoilData)
    (c : Coils) : EntrySimulates sc s usDataCount e c (scanBit sc.xCheckPreValue sc.iIndex e c) := by
  cases hb : scanBit sc.xCheckPreValue sc.iIndex e c with
  | none => exact entry_not_selected h usDataCount hb
  | some v =>
    by_cases hv : s.vals = []
    · exact entry_begins h usDataCount hb hv
    · exact entry_joins h usDataCount hb hv

/-! ### The coils of the requests -/

/-- The addresses of the table ascend. -/
def CoilsAscending (tab : sMBDevTable sMasterBitCoilData) : Prop :=
  (tab.pvDataBuf.map fun e => e.usAddr.toNat).Pairwise (· < ·)

/-- **The coil `i` is to be written with the value `v`**: it is not read-only, its variable is bound and has the
value, and it has changed or changes are not checked. -/
structure CoilSelected (xCheckPreValue : Bool) (i : ℕ) (e : sMasterBitCoilData) (c : Coils) (v : Bool) : Prop where
  access : e.ucAccessMode ≠ .RO
  value : ∃ p, e.pvValue = some p ∧ v = decide (c.vars p > 0) ∧ (c.ucPreVal i ≠ c.vars p ∨ xCheckPreValue = false)

/-- The request is for the address, among others. -/
def CoilRequest.covers (q : CoilRequest) (a : ℕ) : Bool :=
  q.usCoilAddr.toNat ≤ a ∧ a < q.usCoilAddr.toNat + q.usNCoils

/-- The coils as items: one is selected when the scan collects its value. -/
def coilItems (xCheckPreValue : Bool) (c : ℕ → Coils) (es : List sMasterBitCoilData) : List (Item Bool) :=
  items (fun e => e.usAddr.toNat) (fun i e => scanBit xCheckPreValue i e (c i)) 0 es

/-- **The last coil is left out**: it is to be written, and its address does not follow that of the coil
before it. -/
def LastCoilLost (tab : sMBDevTable sMasterBitCoilData) (xCheckPreValue : Bool) (c : ℕ → Coils) : Prop :=
  LastLost MB_SCAN_MAX_BIT_NUM false (coilItems xCheckPreValue c tab.pvDataBuf)

section Pass

variable {xCheckPreValue : Bool} {c : ℕ → Coils} {tab : sMBDevTable sMasterBitCoilData} {list : Mem}

theorem scanBit_eq_some {i : ℕ} {c : Coils} :
    scanBit xCheckPreValue i e c = some v ↔ CoilSelected xCheckPreValue i e c v := by
  unfold scanBit
  constructor
  · intro h
    split at h
    · cases h
    · rename_i p hp
      split at h
      · rename_i hro
        split at h
        · rename_i hch
          exact ⟨hro, p, hp, (Option.some.inj h).symm, hch⟩
        · cases h
      · cases h
  · rintro ⟨hro, p, hp, rfl, hch⟩
    rw [hp]
    dsimp only
    rw [if_pos hro, if_pos hch]

/-- **The requests of a pass are the rows of its coils.** -/
theorem scanCoils_rows : (eMBMasterScanWriteCoils tab xCheckPreValue c list).map CoilRequest.row =
    rows MB_SCAN_MAX_BIT_NUM false (coilItems xCheckPreValue c tab.pvDataBuf) := by
  refine outputs_rows false (R := fun i sc s => HoldsRow sc s ∧ sc.iIndex = i ∧ sc.xCheckPreValue = xCheckPreValue)
    (fun i e sc s h => ?_) ⟨holdsRow_start xCheckPreValue list, rfl, rfl⟩ (Nat.zero_add _)
  obtain ⟨hrow, rfl, rfl⟩ := h
  obtain ⟨t, hstep, hnext⟩ := scanCoilEntry_simulates hrow tab.pvDataBuf.length e (c sc.iIndex)
  exact ⟨t, hstep, hnext⟩

theorem CoilRequest.row_covers (q : CoilRequest) (a : ℕ) : q.row.covers a = q.covers a := by
  simp [Row.covers, CoilRequest.row, CoilRequest.covers]

theorem scanCoils_countP (a : ℕ) : (eMBMasterScanWriteCoils tab xCheckPreValue c list).countP (·.covers a) =
    (rows MB_SCAN_MAX_BIT_NUM false (coilItems xCheckPreValue c tab.pvDataBuf)).countP (·.covers a) := by
  rw [← scanCoils_rows, List.countP_map]
  congr 1
  funext q
  exact (q.row_covers a).symm

/-- **Every coil to be written is in exactly one request, unless the last one is left out.** -/
theorem scanCoils_complete_iff (h : CoilsAscending tab) :
    (∀ i e v, tab.pvDataBuf[i]? = some e → CoilSelected xCheckPreValue i e (c i) v →
      (eMBMasterScanWriteCoils tab xCheckPreValue c list).countP (·.covers e.usAddr.toNat) = 1) ↔
      ¬LastCoilLost tab xCheckPreValue c := by
  rw [LastCoilLost, coilItems, ← rows_items_complete_iff false (by decide) h]
  simp only [scanCoils_countP, ← scanBit_eq_some]
  rfl

/-- **What a request holds**: between 1 and 400 bits, each of the coil of its address. -/
theorem scanCoils_sound {q : CoilRequest} (hq : q ∈ eMBMasterScanWriteCoils tab xCheckPreValue c list) :
    (1 ≤ q.usNCoils ∧ q.usNCoils ≤ MB_SCAN_MAX_BIT_NUM) ∧
      ∀ k < q.usNCoils, ∃ i e, tab.pvDataBuf[i]? = some e ∧ e.usAddr.toNat = q.usCoilAddr.toNat + k ∧
        CoilSelected xCheckPreValue i e (c i) (bitAt q.pucDataBuffer 0 k) := by
  have hrow : q.row ∈ rows MB_SCAN_MAX_BIT_NUM false (coilItems xCheckPreValue c tab.pvDataBuf) := by
    rw [← scanCoils_rows]
    exact List.mem_map_of_mem hq
  obtain ⟨hlen, hvals⟩ := rows_items_sound false (by decide) hrow
  have hn : q.row.vals.length = q.usNCoils := by simp [CoilRequest.row]
  rw [hn] at hlen
  refine ⟨hlen, ?_⟩
  intro k hk
  have hget : q.row.vals[k]? = some (bitAt q.pucDataBuffer 0 k) := by
    simp [CoilRequest.row, hk]
  obtain ⟨i, e, he, hkey, hbit⟩ := hvals k _ hget
  exact ⟨i, e, he, hkey, scanBit_eq_some.mp hbit⟩

/-- **No address is in two requests.** -/
theorem scanCoils_once (h : CoilsAscending tab) (a : ℕ) :
    (eMBMasterScanWriteCoils tab xCheckPreValue c list).countP (·.covers a) ≤ 1 := by
  rw [scanCoils_countP]
  exact rows_items_countP_le false (by decide) h a

end Pass

end GreeIntense.Master

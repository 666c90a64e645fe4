import GreeIntense.Master.Holding

/-!
# The write scan (`eMBMasterScanWriteRegHold` in `mbscan_m.c`)

The scan goes over the table and collects the values that are to be written.  Entries of consecutive
addresses go into one request, which is sent as soon as the row of consecutive addresses ends.

`scanEntry` is one pass of the loop.  A pass makes one request at most; the task then waits for it before
it goes on with the next entry.
-/

namespace GreeIntense.Master

open Lib.Memory

abbrev MB_SCAN_MAX_REG_NUM : ℕ := 50

/-- The local variables of the scan.  `RegHoldValList` is the part of the list in use: its length is
`iWriteCount`. -/
structure ScanWrite where
  xCheckPreValue : Bool
  iIndex : ℕ
  iWriteStartRegAddr : USHORT
  iLastAddr : USHORT
  RegHoldValList : List USHORT
  iRegs : ℕ
  bStarted : Bool

/-- The scan before the first entry. -/
def ScanWrite.start (xCheckPreValue : Bool) : ScanWrite where
  xCheckPreValue := xCheckPreValue
  iIndex := 0
  iWriteStartRegAddr := 0
  iLastAddr := 0
  RegHoldValList := []
  iRegs := 0
  bStarted := false

/-- A request for the bus: the first address and the words. -/
structure WriteRequest where
  usRegAddr : USHORT
  pusDataBuffer : List USHORT

/-- The value of an entry's variable in the device's scale.  The signed types are multiplied in single
precision, which is exact here: the product is below `2 ^ 24`. -/
def scanScaled (e : sMasterRegHoldData) (vars : Mem) (p : ℕ) : USHORT :=
  let v := value e.ucDataType vars p
  if e.ucTmitMult ≠ 1 then cast e.ucDataType (v * e.ucTmitMult.setWidth 16) else v

/-- The comparison with the previous value; that of `uint8` is made on words. -/
def scanChanged (e : sMasterRegHoldData) (usPreVal w : USHORT) : Bool :=
  match e.ucDataType with
  | .uint16 | .uint8 | .int16 => usPreVal ≠ w
  | .int8 => lo usPreVal ≠ lo w
  | .other => false

/-- The range check of the scan; that of `uint8` is made on words. -/
def scanInRange (e : sMasterRegHoldData) (w : USHORT) : Bool :=
  match e.ucDataType with
  | .uint16 | .uint8 => e.usMinVal ≤ w ∧ w ≤ e.usMaxVal
  | .int16 => e.usMinVal.sle w ∧ w.sle e.usMaxVal
  | .int8 => (lo e.usMinVal).sle (lo w) ∧ (lo w).sle (lo e.usMaxVal)
  | .other => false

/-- The word the scan collects for an entry, if it collects one. -/
def scanWord (xCheckPreValue : Bool) (i : ℕ) (e : sMasterRegHoldData) (r : RegHolds) : Option USHORT :=
  match e.pvValue with
  | none => none
  | some p =>
    if e.ucAccessMode ≠ .RO then
      let w := scanScaled e r.vars p
      if (scanChanged e (r.usPreVal i) w ∨ (xCheckPreValue = false ∧ e.ucDataType ≠ .other)) ∧ scanInRange e w then
        some w
      else none
    else none

/-- One pass of the loop, on the entry `e` at `iIndex` of `usDataCount`: the variables after it, and the
request it makes. -/
def scanEntry (usDataCount : ℕ) (e : sMasterRegHoldData) (r : RegHolds) (sc : ScanWrite) :
    ScanWrite × Option WriteRequest :=
  let list := sc.RegHoldValList ++ (scanWord sc.xCheckPreValue sc.iIndex e r).toList
  let starts : Bool := list.length = 1 ∧ sc.bStarted = false
  let start := if starts then e.usAddr else sc.iWriteStartRegAddr
  let iRegs := if starts then 1 else sc.iRegs + 1
  let next := { sc with
    iIndex := sc.iIndex + 1, iLastAddr := e.usAddr, iWriteStartRegAddr := start, RegHoldValList := list
    iRegs := iRegs, bStarted := sc.bStarted || starts }
  let sent := { next with RegHoldValList := [], iRegs := 0, bStarted := false }
  if e.usAddr.toNat ≠ sc.iLastAddr.toNat + 1 ∧ list.length > 0 ∧ iRegs > 1 then
    -- a gap: this entry begins a new row, if it has changed
    if iRegs = list.length then
      ({ next with
          iWriteStartRegAddr := e.usAddr, RegHoldValList := list.drop (list.length - 1), iRegs := 1
          bStarted := true },
        some ⟨start, list.take (list.length - 1)⟩)
    else (sent, some ⟨start, list⟩)
  else if list.length > 0 ∧
      (iRegs ≠ list.length ∨ sc.iIndex = usDataCount - 1 ∨ list.length ≥ MB_SCAN_MAX_REG_NUM) then
    (sent, some ⟨start, list⟩)
  else (next, none)

/-! ### The cases of a pass -/

section Cases

variable {sc : ScanWrite} {e : sMasterRegHoldData} {r : RegHolds} {w : USHORT} {usDataCount : ℕ}

/-- The scan after the entry `e`, with the row `list` from `start` on pending. -/
def ScanWrite.pending (sc : ScanWrite) (e : sMasterRegHoldData) (start : USHORT) (list : List USHORT) : ScanWrite :=
  { sc with
    iIndex := sc.iIndex + 1, iLastAddr := e.usAddr, iWriteStartRegAddr := start, RegHoldValList := list
    iRegs := list.length, bStarted := true }

/-- The scan after the entry `e`, its row sent. -/
def ScanWrite.cleared (sc : ScanWrite) (e : sMasterRegHoldData) (start : USHORT) : ScanWrite :=
  { sc with
    iIndex := sc.iIndex + 1, iLastAddr := e.usAddr, iWriteStartRegAddr := start, RegHoldValList := []
    iRegs := 0, bStarted := false }

/-- Nothing is pending and the entry contributes nothing. -/
theorem scanEntry_skip (hw : scanWord sc.xCheckPreValue sc.iIndex e r = none) (list : sc.RegHoldValList = [])
    (started : sc.bStarted = false) :
    scanEntry usDataCount e r sc =
      ({ sc with iIndex := sc.iIndex + 1, iLastAddr := e.usAddr, iRegs := sc.iRegs + 1 }, none) := by
  simp [scanEntry, hw, list, started]

/-- A row is pending and the entry contributes nothing: the row ends. -/
theorem scanEntry_end (hw : scanWord sc.xCheckPreValue sc.iIndex e r = none) (list : sc.RegHoldValList ≠ [])
    (started : sc.bStarted = true) (regs : sc.iRegs = sc.RegHoldValList.length) :
    scanEntry usDataCount e r sc =
      (sc.cleared e sc.iWriteStartRegAddr, some ⟨sc.iWriteStartRegAddr, sc.RegHoldValList⟩) := by
  have hpos : 0 < sc.RegHoldValList.length := List.length_pos_iff.mpr list
  simp only [scanEntry, hw, started, regs, Option.toList_none, List.append_nil]
  by_cases hgap : e.usAddr.toNat = sc.iLastAddr.toNat + 1
  · simp [hgap, hpos, ScanWrite.cleared]
  · simp [hgap, hpos, ScanWrite.cleared]

/-- Nothing is pending and the entry contributes a word: it begins a row. -/
theorem scanEntry_begin (hw : scanWord sc.xCheckPreValue sc.iIndex e r = some w) (list : sc.RegHoldValList = [])
    (started : sc.bStarted = false) :
    scanEntry usDataCount e r sc =
      if sc.iIndex = usDataCount - 1 then (sc.cleared e e.usAddr, some ⟨e.usAddr, [w]⟩)
      else (sc.pending e e.usAddr [w], none) := by
  simp [scanEntry, hw, list, started, MB_SCAN_MAX_REG_NUM, ScanWrite.cleared, ScanWrite.pending]

/-- A row is pending and the entry contributes a word behind a gap: the row is sent, and the entry begins the
next one. -/
theorem scanEntry_gap (hw : scanWord sc.xCheckPreValue sc.iIndex e r = some w) (list : sc.RegHoldValList ≠ [])
    (started : sc.bStarted = true) (regs : sc.iRegs = sc.RegHoldValList.length)
    (hgap : e.usAddr.toNat ≠ sc.iLastAddr.toNat + 1) :
    scanEntry usDataCount e r sc =
      (sc.pending e e.usAddr [w], some ⟨sc.iWriteStartRegAddr, sc.RegHoldValList⟩) := by
  have hpos : 0 < sc.RegHoldValList.length := List.length_pos_iff.mpr list
  simp [scanEntry, hw, started, regs, hgap, hpos, ScanWrite.pending]

/-- A row is pending and the entry goes on with it. -/
theorem scanEntry_go (hw : scanWord sc.xCheckPreValue sc.iIndex e r = some w) (started : sc.bStarted = true)
    (regs : sc.iRegs = sc.RegHoldValList.length) (hgap : e.usAddr.toNat = sc.iLastAddr.toNat + 1) :
    scanEntry usDataCount e r sc =
      if sc.iIndex = usDataCount - 1 ∨ MB_SCAN_MAX_REG_NUM ≤ sc.RegHoldValList.length + 1 then
        (sc.cleared e sc.iWriteStartRegAddr, some ⟨sc.iWriteStartRegAddr, sc.RegHoldValList ++ [w]⟩)
      else (sc.pending e sc.iWriteStartRegAddr (sc.RegHoldValList ++ [w]), none) := by
  simp [scanEntry, hw, started, regs, hgap, ScanWrite.cleared, ScanWrite.pending]

end Cases

/-! ### What the scan requests -/

/-- The `n` addresses from `a` on are addresses of entries. -/
def Row (tab : List sMasterRegHoldData) (a : USHORT) (n : ℕ) : Prop :=
  ∀ k < n, ∃ e ∈ tab, e.usAddr.toNat = a.toNat + k

/-- A request the scan makes: at most `MB_SCAN_MAX_REG_NUM` words, for a row of entries. -/
structure WriteRequest.Ok (tab : List sMasterRegHoldData) (q : WriteRequest) : Prop where
  pos : 1 ≤ q.pusDataBuffer.length
  le : q.pusDataBuffer.length ≤ MB_SCAN_MAX_REG_NUM
  row : Row tab q.usRegAddr q.pusDataBuffer.length

/-- Between two entries: nothing is collected, or the words of a row that ends with the last entry. -/
inductive ScanOk (tab : List sMasterRegHoldData) (sc : ScanWrite) : Prop
  | idle (list : sc.RegHoldValList = []) (started : sc.bStarted = false)
  | row (list : 1 ≤ sc.RegHoldValList.length) (lt : sc.RegHoldValList.length < MB_SCAN_MAX_REG_NUM)
      (started : sc.bStarted = true) (regs : sc.iRegs = sc.RegHoldValList.length)
      (last : sc.iLastAddr.toNat + 1 = sc.iWriteStartRegAddr.toNat + sc.RegHoldValList.length)
      (row : Row tab sc.iWriteStartRegAddr sc.RegHoldValList.length)

variable {tab : List sMasterRegHoldData} {e : sMasterRegHoldData}

theorem row_one (he : e ∈ tab) : Row tab e.usAddr 1 := fun k hk => ⟨e, he, by omega⟩

theorem Row.snoc {a : USHORT} {n : ℕ} (h : Row tab a n) (he : e ∈ tab) (ha : e.usAddr.toNat = a.toNat + n) :
    Row tab a (n + 1) := by
  intro k hk
  by_cases hkn : k < n
  · exact h k hkn
  · exact ⟨e, he, by omega⟩

theorem scanOk_start (xCheckPreValue : Bool) : ScanOk tab (.start xCheckPreValue) := .idle rfl rfl

/-- **One pass of the scan**: it keeps the row, and what it requests is a row. -/
theorem scanEntry_ok {sc : ScanWrite} (he : e ∈ tab) (h : ScanOk tab sc) (usDataCount : ℕ) (r : RegHolds) :
    ScanOk tab (scanEntry usDataCount e r sc).1 ∧ ∀ q, (scanEntry usDataCount e r sc).2 = some q → q.Ok tab := by
  cases hw : scanWord sc.xCheckPreValue sc.iIndex e r with
  | none =>
    cases h with
    | idle list started =>
      rw [scanEntry_skip hw list started]
      exact ⟨.idle list started, nofun⟩
    | row list lt started regs last row =>
      rw [scanEntry_end hw (List.length_pos_iff.mp list) started regs]
      refine ⟨.idle rfl rfl, ?_⟩
      intro q h
      cases h
      exact ⟨list, lt.le, row⟩
  | some w =>
    cases h with
    | idle list started =>
      rw [scanEntry_begin hw list started]
      split
      · -- one word, which is sent at once
        refine ⟨.idle rfl rfl, ?_⟩
        intro q h
        cases h
        exact ⟨le_rfl, show 1 ≤ 50 by decide, row_one he⟩
      · exact ⟨.row le_rfl (show 1 < 50 by decide) rfl rfl rfl (row_one he), nofun⟩
    | row list lt started regs last row =>
      have hne := List.length_pos_iff.mp list
      by_cases hgap : e.usAddr.toNat = sc.iLastAddr.toNat + 1
      · -- the word goes behind the others, and the row is still of consecutive entries
        have hrow : Row tab sc.iWriteStartRegAddr (sc.RegHoldValList ++ [w]).length := by
          rw [List.length_append]
          exact row.snoc he (by omega)
        rw [scanEntry_go hw started regs hgap]
        split
        · refine ⟨.idle rfl rfl, ?_⟩
          intro q h
          cases h
          exact ⟨by simp, by simp only [List.length_append, List.length_singleton]; omega, hrow⟩
        · rename_i hsend
          refine ⟨.row ?_ ?_ rfl rfl ?_ hrow, nofun⟩
          all_goals simp only [ScanWrite.pending, List.length_append, List.length_singleton]
          · omega
          · by_contra hlen
            exact hsend (Or.inr (by omega))
          · omega
      · rw [scanEntry_gap hw hne started regs hgap]
        refine ⟨.row le_rfl (show 1 < 50 by decide) rfl rfl rfl (row_one he), ?_⟩
        intro q h
        cases h
        exact ⟨list, lt.le, row⟩

end GreeIntense.Master

import GreeIntense.Lib.Rows
import GreeIntense.Master.Scan

/-!
# A pass of the register write scan

`scanEntry` is one entry of the pass; here is the loop over the table.  The counters of the loop follow the
rows of `Lib.Rows`: `scanEntry_simulates` is one entry, `scanWrite_rows` the pass.  So the words of the
requests of a pass, put one after the other, are the words of the selected entries in their order, but for
the last entry when it begins a row behind another one.
-/

namespace GreeIntense.Master

open Lib.Memory Lib.Rows

/-! ### The loop -/

/-- `eMBMasterScanWriteRegHold`: the requests of a pass, in their order.  The task waits at every request: `r i`
is the state in which the entry `i` is looked at. -/
def eMBMasterScanWriteRegHold (tab : sMBDevDataTable) (xCheckPreValue : Bool) (r : ℕ → RegHolds) :
    List WriteRequest :=
  outputs (fun e sc => scanEntry tab.pvDataBuf.length e (r sc.iIndex) sc) tab.pvDataBuf (.start xCheckPreValue)

/-! ### The rows of the pass -/

/-- The entries as items: an entry is selected when the scan collects a word for it. -/
def scanItems (xCheckPreValue : Bool) (r : ℕ → RegHolds) (es : List sMasterRegHoldData) : List (Item USHORT) :=
  items (fun e => e.usAddr.toNat) (fun i e => scanWord xCheckPreValue i e (r i)) 0 es

/-- A request as a row. -/
def WriteRequest.row (q : WriteRequest) : Lib.Rows.Row USHORT := ⟨q.usRegAddr.toNat, q.pusDataBuffer⟩

/-- The counters of the scan hold the pending row. -/
structure Simulates (sc : ScanWrite) (s : RowState USHORT) : Prop where
  last : sc.iLastAddr.toNat = s.last
  vals : sc.RegHoldValList = s.vals
  idle : s.vals = [] → sc.bStarted = false
  row : s.vals ≠ [] → sc.bStarted = true ∧ sc.iWriteStartRegAddr.toNat = s.start ∧ sc.iRegs = s.vals.length

theorem simulates_start (xCheckPreValue : Bool) : Simulates (.start xCheckPreValue) ⟨0, 0, []⟩ :=
  ⟨rfl, rfl, fun _ => rfl, nofun⟩

theorem simulates_cleared (sc : ScanWrite) (e : sMasterRegHoldData) (start : USHORT) (n : ℕ) :
    Simulates (sc.cleared e start) ⟨e.usAddr.toNat, n, []⟩ := ⟨rfl, rfl, fun _ => rfl, nofun⟩

theorem simulates_pending (sc : ScanWrite) (e : sMasterRegHoldData) (start : USHORT) {list : List USHORT}
    (h : list ≠ []) : Simulates (sc.pending e start list) ⟨e.usAddr.toNat, start.toNat, list⟩ :=
  ⟨rfl, rfl, fun h' => absurd h' h, fun _ => ⟨rfl, rfl, rfl⟩⟩

/-- **One entry of the scan is one item of the rows.** -/
theorem scanEntry_simulates {sc : ScanWrite} {s : RowState USHORT} (h : Simulates sc s) (usDataCount : ℕ)
    (e : sMasterRegHoldData) (r : RegHolds) :
    ∃ t, rowStep MB_SCAN_MAX_REG_NUM true (sc.iIndex = usDataCount - 1) e.usAddr.toNat
        (scanWord sc.xCheckPreValue sc.iIndex e r) s =
          (t, (scanEntry usDataCount e r sc).2.map WriteRequest.row) ∧
      Simulates (scanEntry usDataCount e r sc).1 t ∧ (scanEntry usDataCount e r sc).1.iIndex = sc.iIndex + 1 ∧
      (scanEntry usDataCount e r sc).1.xCheckPreValue = sc.xCheckPreValue := by
  obtain ⟨hlast, hvals, hidle, hrow⟩ := h
  cases hw : scanWord sc.xCheckPreValue sc.iIndex e r with
  | none =>
    by_cases hv : s.vals = []
    · rw [scanEntry_skip hw (hvals.trans hv) (hidle hv), rowStep, if_pos hv]
      exact ⟨_, rfl, ⟨rfl, hvals.trans hv, fun _ => hidle hv, fun h => absurd rfl h⟩, rfl, rfl⟩
    · obtain ⟨started, hstart, regs⟩ := hrow hv
      rw [scanEntry_end hw (by rw [hvals]; exact hv) started (by rw [hvals]; exact regs), rowStep, if_neg hv]
      refine ⟨_, ?_, simulates_cleared sc e _ s.start, rfl, rfl⟩
      rw [hvals, Option.map_some, WriteRequest.row, hstart]
  | some w =>
    by_cases hv : s.vals = []
    · rw [scanEntry_begin hw (hvals.trans hv) (hidle hv), rowStep, if_pos hv]
      by_cases hi : sc.iIndex = usDataCount - 1
      · rw [if_pos hi, if_pos ⟨decide_eq_true hi, Or.inl rfl⟩]
        exact ⟨_, rfl, simulates_cleared sc e _ _, rfl, rfl⟩
      · rw [if_neg hi, if_neg fun h => hi (of_decide_eq_true h.1)]
        exact ⟨_, rfl, simulates_pending sc e _ (by simp), rfl, rfl⟩
    · obtain ⟨started, hstart, regs⟩ := hrow hv
      have hne : sc.RegHoldValList ≠ [] := by rw [hvals]; exact hv
      have regs' : sc.iRegs = sc.RegHoldValList.length := by rw [hvals]; exact regs
      by_cases hgap : e.usAddr.toNat = sc.iLastAddr.toNat + 1
      · -- the row goes on, until it is full or the table ends
        have hkey : ¬e.usAddr.toNat ≠ s.last + 1 := by rw [hgap, hlast]; simp
        rw [scanEntry_go hw started regs' hgap, rowStep, if_neg hv, if_neg hkey, hvals]
        simp only [decide_eq_true_eq]
        split
        · refine ⟨_, ?_, simulates_cleared sc e _ s.start, rfl, rfl⟩
          rw [Option.map_some, WriteRequest.row, hstart]
        · refine ⟨_, rfl, ?_, rfl, rfl⟩
          rw [← hstart]
          exact simulates_pending sc e _ (by simp)
      · -- behind a gap the pending row is sent
        have hkey : e.usAddr.toNat ≠ s.last + 1 := by rw [← hlast]; exact hgap
        rw [scanEntry_gap hw hne started regs' hgap, rowStep, if_neg hv, if_pos hkey]
        refine ⟨_, ?_, simulates_pending sc e _ (by simp), rfl, rfl⟩
        rw [hvals, Option.map_some, WriteRequest.row, hstart]

/-! ### The entries of the requests -/

/-- The addresses of the table ascend. -/
def sMBDevDataTable.Ascending (tab : sMBDevDataTable) : Prop :=
  (tab.pvDataBuf.map fun e => e.usAddr.toNat).Pairwise (· < ·)

/-- **The entry `i` is to be written with the word `w`**: it is not read-only, its variable is bound, its scaled
value `w` is in range, and it has changed or changes are not checked. -/
structure WriteSelected (xCheckPreValue : Bool) (i : ℕ) (e : sMasterRegHoldData) (r : RegHolds) (w : USHORT) :
    Prop where
  access : e.ucAccessMode ≠ .RO
  value : ∃ p, e.pvValue = some p ∧ w = scanScaled e r.vars p
  inRange : scanInRange e w
  changed : scanChanged e (r.usPreVal i) w ∨ xCheckPreValue = false

/-- The request is for the address, among others. -/
def WriteRequest.covers (q : WriteRequest) (a : ℕ) : Bool :=
  q.usRegAddr.toNat ≤ a ∧ a < q.usRegAddr.toNat + q.pusDataBuffer.length

/-- **The last entry is left out**: it is to be written, its address does not follow that of the entry before
it, and the entries to be written on consecutive addresses before it are not a multiple of
`MB_SCAN_MAX_REG_NUM`. -/
def LastRegLost (tab : sMBDevDataTable) (xCheckPreValue : Bool) (r : ℕ → RegHolds) : Prop :=
  LastLost MB_SCAN_MAX_REG_NUM true (scanItems xCheckPreValue r tab.pvDataBuf)

section Pass

variable {xCheckPreValue : Bool} {r : ℕ → RegHolds} {tab : sMBDevDataTable}

theorem scanWord_eq_some {i : ℕ} {e : sMasterRegHoldData} {s : RegHolds} {w : USHORT} :
    scanWord xCheckPreValue i e s = some w ↔ WriteSelected xCheckPreValue i e s w := by
  rw [scanWord]
  constructor
  · intro h
    split at h
    · cases h
    · rename_i p hp
      split at h
      · rename_i hro
        dsimp only at h
        split at h
        · rename_i hc
          cases h
          exact ⟨hro, ⟨p, hp, rfl⟩, hc.2, hc.1.imp_right And.left⟩
        · cases h
      · cases h
  · rintro ⟨hro, ⟨p, hp, rfl⟩, hrange, hch⟩
    have htype : e.ucDataType ≠ .other := by
      intro ht
      rw [scanInRange, ht] at hrange
      cases hrange
    rw [hp]
    dsimp only
    rw [if_pos hro, if_pos ⟨hch.imp_right fun h => ⟨h, htype⟩, hrange⟩]

/-- **The requests of a pass are the rows of its entries.** -/
theorem scanWrite_rows : (eMBMasterScanWriteRegHold tab xCheckPreValue r).map WriteRequest.row =
    rows MB_SCAN_MAX_REG_NUM true (scanItems xCheckPreValue r tab.pvDataBuf) := by
  refine outputs_rows true (R := fun i sc s => Simulates sc s ∧ sc.iIndex = i ∧ sc.xCheckPreValue = xCheckPreValue)
    (fun i e sc s h => ?_) ⟨simulates_start xCheckPreValue, rfl, rfl⟩ (Nat.zero_add _)
  obtain ⟨hsim, rfl, rfl⟩ := h
  obtain ⟨t, hstep, hnext⟩ := scanEntry_simulates hsim tab.pvDataBuf.length e (r sc.iIndex)
  exact ⟨t, hstep, hnext⟩

theorem scanWrite_countP (a : ℕ) : (eMBMasterScanWriteRegHold tab xCheckPreValue r).countP (·.covers a) =
    (rows MB_SCAN_MAX_REG_NUM true (scanItems xCheckPreValue r tab.pvDataBuf)).countP (·.covers a) := by
  rw [← scanWrite_rows, List.countP_map]
  rfl

/-- **Every entry to be written is in exactly one request, unless the last one is left out.** -/
theorem scanWrite_complete_iff (h : tab.Ascending) :
    (∀ i e w, tab.pvDataBuf[i]? = some e → WriteSelected xCheckPreValue i e (r i) w →
      (eMBMasterScanWriteRegHold tab xCheckPreValue r).countP (·.covers e.usAddr.toNat) = 1) ↔
      ¬LastRegLost tab xCheckPreValue r := by
  rw [LastRegLost, scanItems, ← rows_items_complete_iff true (by decide) h]
  simp only [scanWrite_countP, ← scanWord_eq_some]
  rfl

/-- **What a request holds**: between 1 and 50 words, each of the entry of its address. -/
theorem scanWrite_sound {q : WriteRequest} (hq : q ∈ eMBMasterScanWriteRegHold tab xCheckPreValue r) :
    (1 ≤ q.pusDataBuffer.length ∧ q.pusDataBuffer.length ≤ MB_SCAN_MAX_REG_NUM) ∧
      ∀ k w, q.pusDataBuffer[k]? = some w → ∃ i e, tab.pvDataBuf[i]? = some e ∧
        e.usAddr.toNat = q.usRegAddr.toNat + k ∧ WriteSelected xCheckPreValue i e (r i) w := by
  have hrow : q.row ∈ rows MB_SCAN_MAX_REG_NUM true (scanItems xCheckPreValue r tab.pvDataBuf) := by
    rw [← scanWrite_rows]
    exact List.mem_map_of_mem hq
  obtain ⟨hlen, hvals⟩ := rows_items_sound true (by decide) hrow
  refine ⟨hlen, ?_⟩
  intro k w hw
  obtain ⟨i, e, he, hkey, hword⟩ := hvals k w hw
  exact ⟨i, e, he, hkey, scanWord_eq_some.mp hword⟩

/-- **No address is in two requests.** -/
theorem scanWrite_once (h : tab.Ascending) (a : ℕ) :
    (eMBMasterScanWriteRegHold tab xCheckPreValue r).countP (·.covers a) ≤ 1 := by
  rw [scanWrite_countP]
  exact rows_items_countP_le true (by decide) h a

end Pass

end GreeIntense.Master

import GreeIntense.Lib.Spans
import GreeIntense.Master.Input
import GreeIntense.Master.Port
import GreeIntense.Master.Scan
import GreeIntense.Master.ScanCoils
import GreeIntense.Slave.CoilsSpec

/-!
# The read scans (`eMBMasterScanReadRegHold`, `eMBMasterScanReadRegIn`, `eMBMasterScanReadCoils` in `mbscan_m.c`)

A read scan goes over the table and reads the entries that are not write-only.  A request runs over addresses that
no entry has, up to a largest interval; it ends before a write-only entry, at a largest count and at the end of the
table.

A pass of the loop makes up to two requests: one at an interval that is too large, and one at its end.  What it does
next does not depend on how they end, but the coil scan returns when a request at the end of a pass ends with
`MB_MRE_ETIMEDOUT`.
-/

namespace GreeIntense.Master

open Lib.Spans
open Slave (coilBytes coilBytes_eq)

abbrev MB_SCAN_MAX_REG_INTERVAL : ℕ := 10
abbrev MB_SCAN_MAX_BIT_INTERVAL : ℕ := 80

/-- What a read scan looks at in an entry: its address and access mode. -/
abbrev ReadEntry := USHORT × AccessMode

def holdReads (tab : sMBDevDataTable) : List ReadEntry := tab.pvDataBuf.map fun e => (e.usAddr, e.ucAccessMode)

def inputReads (tab : sMBDevTable sMasterRegInData) : List ReadEntry :=
  tab.pvDataBuf.map fun e => (e.usAddr, e.ucAccessMode)

def coilReads (tab : sMBDevTable sMasterBitCoilData) : List ReadEntry :=
  tab.pvDataBuf.map fun e => (e.usAddr, e.ucAccessMode)

/-- A read request: the first address, and the number of registers or coils. -/
structure ReadRequest where
  usAddr : USHORT
  usCount : USHORT
  deriving DecidableEq

/-- The local variables of a read scan. -/
structure ReadScan where
  iLastAddr : USHORT
  iStartAddr : USHORT
  iCount : USHORT

/-- The scan before the first entry. -/
def ReadScan.start : ReadScan := ⟨0, 0, 0⟩

/-- The request of the local variables. -/
def ReadScan.request (sc : ReadScan) : ReadRequest := ⟨sc.iStartAddr, sc.iCount⟩

/-! ### One pass -/

/-- The test at the head of a pass: the interval from the last entry on is too large. -/
def intervalExceeds (max : ℕ) (usAddr iLastAddr : USHORT) : Bool := (usAddr.toNat : ℤ) - iLastAddr.toNat + 1 > max

/-- The end of a pass: a request for a write-only entry, for the last one, or at the largest count. -/
def scanReadEnd (iMaxNum : ℕ) (isLast : Bool) (e : ReadEntry) (sc : ReadScan) :
    ReadScan × Option ReadRequest :=
  if (e.2 = .WO ∨ isLast ∨ sc.iCount.toNat ≥ iMaxNum) ∧ sc.iCount > 0 then
    ({ sc with iLastAddr := e.1, iCount := 0 }, some sc.request)
  else ({ sc with iLastAddr := e.1 }, none)

/-- The pass of the register scans up to its end: the request at a large interval. -/
def scanReadReg (e : ReadEntry) (sc : ReadScan) : ReadScan × Option ReadRequest :=
  if intervalExceeds MB_SCAN_MAX_REG_INTERVAL e.1 sc.iLastAddr then
    let sent := if sc.iCount > 0 then some sc.request else none
    let sc := if sc.iCount > 0 then { sc with iCount := 0 } else sc
    (if e.2 ≠ .WO then { sc with iCount := 1, iStartAddr := e.1 } else sc, sent)
  else
    let sc := if sc.iCount = 0 ∧ e.2 ≠ .WO then { sc with iStartAddr := e.1 } else sc
    (if e.2 ≠ .WO then { sc with iCount := e.1 - sc.iStartAddr + 1 } else sc, none)

/-- The pass of the coil scan up to its end.  It moves the start for a write-only coil, too. -/
def scanReadCoil (e : ReadEntry) (sc : ReadScan) : ReadScan × Option ReadRequest :=
  if intervalExceeds MB_SCAN_MAX_BIT_INTERVAL e.1 sc.iLastAddr then
    let sent := if sc.iCount > 0 then some sc.request else none
    let sc := if sc.iCount > 0 then { sc with iCount := 0, iStartAddr := e.1 } else sc
    (if e.2 ≠ .WO then { sc with iCount := 1, iStartAddr := e.1 } else sc, sent)
  else
    let sc := if sc.iCount = 0 then { sc with iStartAddr := e.1 } else sc
    (if e.2 ≠ .WO then { sc with iCount := e.1 - sc.iStartAddr + 1 } else sc, none)

/-- A pass of the register scans: the request at a large interval, and the one at the end. -/
def scanReadRegEntry (isLast : Bool) (e : ReadEntry) (sc : ReadScan) :
    ReadScan × Option ReadRequest × Option ReadRequest :=
  let r := scanReadReg e sc
  let t := scanReadEnd MB_SCAN_MAX_REG_NUM isLast e r.1
  (t.1, r.2, t.2)

/-- A pass of the coil scan. -/
def scanReadCoilEntry (isLast : Bool) (e : ReadEntry) (sc : ReadScan) :
    ReadScan × Option ReadRequest × Option ReadRequest :=
  let r := scanReadCoil e sc
  let t := scanReadEnd MB_SCAN_MAX_BIT_NUM isLast e r.1
  (t.1, r.2, t.2)

/-! ### The loops -/

section Loops

variable {σ : Type} (send : ReadRequest → σ → eMBMasterReqErrCode × σ)

/-- A request of a pass, if it makes one: what it returns becomes `eStatus`. -/
def sendRead : Option ReadRequest → eMBMasterReqErrCode × σ → eMBMasterReqErrCode × σ
  | none, st => st
  | some q, st => send q st.2

/-- The loop of the register scans over the entries, with `eStatus` and what the requests change. -/
def scanReadRegs : List ReadEntry → ReadScan → eMBMasterReqErrCode × σ → eMBMasterReqErrCode × σ
  | [], _, st => st
  | e :: es, sc, st =>
    let p := scanReadRegEntry es.isEmpty e sc
    scanReadRegs es p.1 (sendRead send p.2.2 (sendRead send p.2.1 st))

/-- The loop of the coil scan. -/
def scanReadCoils : List ReadEntry → ReadScan → eMBMasterReqErrCode × σ → eMBMasterReqErrCode × σ
  | [], _, st => st
  | e :: es, sc, st =>
    let p := scanReadCoilEntry es.isEmpty e sc
    let st := sendRead send p.2.2 (sendRead send p.2.1 st)
    if p.2.2.isSome ∧ st.1 = .MB_MRE_ETIMEDOUT then st else scanReadCoils es p.1 st

def eMBMasterScanReadRegHold (tab : sMBDevDataTable) (s : σ) : eMBMasterReqErrCode × σ :=
  scanReadRegs send (holdReads tab) .start (.MB_MRE_NO_ERR, s)

def eMBMasterScanReadRegIn (tab : sMBDevTable sMasterRegInData) (s : σ) : eMBMasterReqErrCode × σ :=
  scanReadRegs send (inputReads tab) .start (.MB_MRE_NO_ERR, s)

def eMBMasterScanReadCoils (tab : sMBDevTable sMasterBitCoilData) (s : σ) : eMBMasterReqErrCode × σ :=
  scanReadCoils send (coilReads tab) .start (.MB_MRE_NO_ERR, s)

/-! ### The requests of a loop -/

/-- The requests the passes of a loop make, in their order. -/
def readRequests (entry : Bool → ReadEntry → ReadScan → ReadScan × Option ReadRequest × Option ReadRequest) :
    List ReadEntry → ReadScan → List ReadRequest
  | [], _ => []
  | e :: es, sc =>
    let p := entry es.isEmpty e sc
    p.2.1.toList ++ p.2.2.toList ++ readRequests entry es p.1

/-- Requests one after the other. -/
def sendAll (qs : List ReadRequest) (st : eMBMasterReqErrCode × σ) : eMBMasterReqErrCode × σ :=
  qs.foldl (fun st q => send q st.2) st

theorem sendAll_append (qs ts : List ReadRequest) (st : eMBMasterReqErrCode × σ) :
    sendAll send (qs ++ ts) st = sendAll send ts (sendAll send qs st) := List.foldl_append

theorem sendAll_toList (q : Option ReadRequest) (st : eMBMasterReqErrCode × σ) :
    sendAll send q.toList st = sendRead send q st := by cases q <;> rfl

/-- **A register scan makes the requests of its passes one after the other.** -/
theorem scanReadRegs_eq (es : List ReadEntry) (sc : ReadScan) (st : eMBMasterReqErrCode × σ) :
    scanReadRegs send es sc st = sendAll send (readRequests scanReadRegEntry es sc) st := by
  induction es generalizing sc st with
  | nil => rfl
  | cons e es ih => rw [scanReadRegs, ih, readRequests, sendAll_append, sendAll_append, sendAll_toList, sendAll_toList]

/-- **The coil scan does so, too**, unless a request returns `MB_MRE_ETIMEDOUT`. -/
theorem scanReadCoils_eq (hsend : ∀ q s, (send q s).1 ≠ .MB_MRE_ETIMEDOUT) (es : List ReadEntry) (sc : ReadScan)
    (st : eMBMasterReqErrCode × σ) :
    scanReadCoils send es sc st = sendAll send (readRequests scanReadCoilEntry es sc) st := by
  induction es generalizing sc st with
  | nil => rfl
  | cons e es ih =>
    have hgo : ¬((scanReadCoilEntry es.isEmpty e sc).2.2.isSome = true ∧
        (sendRead send (scanReadCoilEntry es.isEmpty e sc).2.2
          (sendRead send (scanReadCoilEntry es.isEmpty e sc).2.1 st)).1 = .MB_MRE_ETIMEDOUT) := by
      rintro ⟨hsome, hend⟩
      obtain ⟨q, hq⟩ := Option.isSome_iff_exists.mp hsome
      rw [hq] at hend
      exact hsend _ _ hend
    rw [scanReadCoils, if_neg hgo, ih, readRequests, sendAll_append, sendAll_append, sendAll_toList, sendAll_toList]

end Loops

/-! ### The requests are spans -/

section Spans

/-- A request as a span of addresses. -/
def ReadRequest.span (q : ReadRequest) : Span := ⟨q.usAddr.toNat, q.usCount.toNat⟩

/-- An entry as an item: the entries that are not write-only are wanted. -/
def ReadEntry.item (e : ReadEntry) : Item := (e.1.toNat, e.2 ≠ .WO)

/-- The local variables hold the state of the scan; the start is not looked at while the count is 0. -/
structure Tracks (sc : ReadScan) (s : SpanState) : Prop where
  last : sc.iLastAddr.toNat = s.last
  count : sc.iCount.toNat = s.count
  start : 0 < s.count → sc.iStartAddr.toNat = s.start

variable {sc : ReadScan} {s : SpanState} {e : ReadEntry}

theorem tracks_start : Tracks .start .idle := ⟨rfl, rfl, nofun⟩

theorem count_pos {n : USHORT} : n > 0 ↔ 0 < n.toNat := Iff.rfl

theorem count_zero {n : USHORT} : n = 0 ↔ n.toNat = 0 := BitVec.toNat_inj.symm

theorem interval_far (max : ℕ) (a b : USHORT) : intervalExceeds max a b = true ↔ b.toNat + max < a.toNat + 1 := by
  rw [intervalExceeds, decide_eq_true_iff]
  omega

theorem sub_succ_toNat {a b : USHORT} (h : a.toNat ≤ b.toNat) (hlt : b.toNat - a.toNat + 1 < 65536) :
    (b - a + 1).toNat = b.toNat - a.toNat + 1 := by
  rw [BitVec.toNat_add, BitVec.toNat_sub_of_le (BitVec.le_def.mpr h), show (1 : USHORT).toNat = 1 from rfl]
  omega

theorem pending_request (h : Tracks sc s) :
    (if sc.iCount > 0 then some sc.request else none).toList.map ReadRequest.span = s.pending := by
  rcases Nat.eq_zero_or_pos s.count with h0 | hpos
  · rw [if_neg (by rw [count_pos, h.count]; omega), pending_zero h0]
    rfl
  · rw [if_pos (by rw [count_pos, h.count]; exact hpos), pending_pos hpos, ← h.start hpos, ← h.count]
    rfl

theorem scanReadEnd_tracks (h : Tracks sc s) (max : ℕ) (isLast : Bool) :
    Tracks (scanReadEnd max isLast e sc).1 (spanClose max isLast e.item.1 e.item.2 s).1 ∧
      (scanReadEnd max isLast e sc).2.toList.map ReadRequest.span = (spanClose max isLast e.item.1 e.item.2 s).2 := by
  have hclose : (e.2 = .WO ∨ isLast = true ∨ sc.iCount.toNat ≥ max) ↔
      (e.item.2 = false ∨ isLast = true ∨ max ≤ s.count) := by
    rw [h.count]
    simp [ReadEntry.item]
  have hpend := pending_request h
  unfold scanReadEnd spanClose
  by_cases hc : e.2 = .WO ∨ isLast = true ∨ sc.iCount.toNat ≥ max
  · rw [if_pos (hclose.mp hc)]
    by_cases hpos : sc.iCount > 0
    · rw [if_pos ⟨hc, hpos⟩]
      rw [if_pos hpos] at hpend
      exact ⟨⟨rfl, rfl, nofun⟩, hpend⟩
    · rw [if_neg fun h => hpos h.2]
      rw [if_neg hpos] at hpend
      have h0 : sc.iCount.toNat = 0 := by
        rw [count_pos] at hpos
        omega
      exact ⟨⟨rfl, h0, nofun⟩, hpend⟩
  · rw [if_neg fun h => hc h.1, if_neg fun h => hc (hclose.mpr h)]
    exact ⟨⟨rfl, h.count, h.start⟩, rfl⟩

/-- What a pass does before its end: what it sends, the count, and the start where it matters. -/
structure Enters (interval : ℕ) (e : ReadEntry) (sc : ReadScan) (r : ReadScan × Option ReadRequest) : Prop where
  sent : r.2 = if intervalExceeds interval e.1 sc.iLastAddr then if sc.iCount > 0 then some sc.request else none
    else none
  last : r.1.iLastAddr = sc.iLastAddr
  skip : e.2 = .WO → r.1.iCount = (if intervalExceeds interval e.1 sc.iLastAddr then 0 else sc.iCount) ∧
    (0 < r.1.iCount → r.1.iStartAddr = sc.iStartAddr)
  begin : e.2 ≠ .WO → intervalExceeds interval e.1 sc.iLastAddr ∨ sc.iCount = 0 →
    r.1.iCount = 1 ∧ r.1.iStartAddr = e.1
  extend : e.2 ≠ .WO → ¬intervalExceeds interval e.1 sc.iLastAddr → sc.iCount ≠ 0 →
    r.1.iCount = e.1 - sc.iStartAddr + 1 ∧ r.1.iStartAddr = sc.iStartAddr

theorem scanReadReg_enters (e : ReadEntry) (sc : ReadScan) :
    Enters MB_SCAN_MAX_REG_INTERVAL e sc (scanReadReg e sc) := by
  have hpos : sc.iCount > 0 ↔ sc.iCount ≠ 0 := BitVec.pos_iff_ne_zero _
  unfold scanReadReg
  constructor
  case sent => split <;> rfl
  all_goals grind

theorem scanReadCoil_enters (e : ReadEntry) (sc : ReadScan) :
    Enters MB_SCAN_MAX_BIT_INTERVAL e sc (scanReadCoil e sc) := by
  have hpos : sc.iCount > 0 ↔ sc.iCount ≠ 0 := BitVec.pos_iff_ne_zero _
  unfold scanReadCoil
  constructor
  case sent => split <;> rfl
  all_goals grind

section Enters

variable {interval max : ℕ} {r : ReadScan × Option ReadRequest}

variable (interval e) in
theorem Enters.far (ht : Tracks sc s) :
    intervalExceeds interval e.1 sc.iLastAddr = true ↔ s.last + interval < e.item.1 + 1 := by
  rw [interval_far, ht.last]
  exact Iff.rfl

/-- What is sent is the span that ends. -/
theorem Enters.span (h : Enters interval e sc r) (ht : Tracks sc s) :
    r.2.toList.map ReadRequest.span = (spanEnter interval e.item.1 e.item.2 s).2 := by
  have hfar := Enters.far e interval ht
  rw [h.sent, spanEnter]
  by_cases hf : s.last + interval < e.item.1 + 1
  · rw [if_pos (hfar.mpr hf), if_pos hf]
    exact pending_request ht
  · rw [if_neg fun h => hf (hfar.mp h), if_neg hf]
    cases e.item.2 <;> rfl

theorem Enters.tracks (h : Enters interval e sc r) (ht : Tracks sc s) (hok : s.Ok max)
    (hkey : 0 < s.count → s.last < e.item.1) (hsmall : max + interval < 65536) :
    Tracks r.1 (spanEnter interval e.item.1 e.item.2 s).1 := by
  have hfar := Enters.far e interval ht
  have hzero : sc.iCount = 0 ↔ s.count = 0 := by rw [count_zero, ht.count]
  have hlast : r.1.iLastAddr.toNat = s.last := by rw [h.last, ht.last]
  unfold spanEnter
  by_cases hw : e.2 = .WO
  · have hitem : e.item.2 = false := decide_eq_false fun h => h hw
    obtain ⟨hcount, hstart⟩ := h.skip hw
    by_cases hf : s.last + interval < e.item.1 + 1
    · rw [if_pos (hfar.mpr hf)] at hcount
      rw [if_pos hf, hitem]
      exact ⟨hlast, by rw [hcount]; rfl, nofun⟩
    · rw [if_neg fun h => hf (hfar.mp h)] at hcount
      rw [if_neg hf, hitem]
      refine ⟨hlast, by rw [hcount, ht.count]; rfl, ?_⟩
      intro hpos
      rw [hstart (by rw [hcount]; exact count_pos.mpr (by rw [ht.count]; exact hpos))]
      exact ht.start hpos
  · have hitem : e.item.2 = true := decide_eq_true hw
    by_cases hf : s.last + interval < e.item.1 + 1
    · obtain ⟨hcount, hstart⟩ := h.begin hw (Or.inl (hfar.mpr hf))
      rw [if_pos hf, hitem]
      exact ⟨hlast, by rw [hcount]; rfl, fun _ => by rw [hstart]; rfl⟩
    · rw [if_neg hf, hitem]
      by_cases h0 : s.count = 0
      · obtain ⟨hcount, hstart⟩ := h.begin hw (Or.inr (hzero.mpr h0))
        simp only [if_pos h0, if_true, Nat.sub_self]
        exact ⟨hlast, by rw [hcount]; rfl, fun _ => by rw [hstart]; rfl⟩
      · obtain ⟨hcount, hstart⟩ := h.extend hw (fun h => hf (hfar.mp h)) fun h => h0 (hzero.mp h)
        have hpos : 0 < s.count := Nat.pos_of_ne_zero h0
        have hstart' := ht.start hpos
        have hend := hok.last hpos
        have hshort := hok.short
        have hkey := hkey hpos
        have haddr : e.item.1 = e.1.toNat := rfl
        simp only [if_neg h0, if_true]
        refine ⟨hlast, ?_, fun _ => by rw [hstart, hstart']⟩
        rw [hcount, sub_succ_toNat (by omega) (by omega), hstart']
        rfl

/-- A pass follows `spanStep`. -/
def Follows (interval max : ℕ)
    (entry : Bool → ReadEntry → ReadScan → ReadScan × Option ReadRequest × Option ReadRequest) : Prop :=
  ∀ isLast {e sc s}, Tracks sc s → s.Ok max → (0 < s.count → s.last < e.item.1) →
    Tracks (entry isLast e sc).1 (spanStep interval max isLast e.item s).1 ∧
      ((entry isLast e sc).2.1.toList ++ (entry isLast e sc).2.2.toList).map ReadRequest.span =
        (spanStep interval max isLast e.item s).2

/-- **A pass that enters its entry** and then ends follows `spanStep`. -/
theorem Enters.follows {enter : ReadEntry → ReadScan → ReadScan × Option ReadRequest}
    (h : ∀ e sc, Enters interval e sc (enter e sc)) (hsmall : max + interval < 65536) :
    Follows interval max fun isLast e sc =>
      let r := enter e sc
      let t := scanReadEnd max isLast e r.1
      (t.1, r.2, t.2) := by
  intro isLast e sc s ht hok hkey
  have henter := (h e sc).tracks ht hok hkey hsmall
  obtain ⟨hnext, hsent⟩ := scanReadEnd_tracks henter max isLast
  refine ⟨hnext, ?_⟩
  rw [List.map_append]
  exact congrArg₂ (· ++ ·) ((h e sc).span ht) hsent

end Enters

theorem scanReadRegEntry_follows : Follows MB_SCAN_MAX_REG_INTERVAL MB_SCAN_MAX_REG_NUM scanReadRegEntry :=
  Enters.follows scanReadReg_enters (by decide)

theorem scanReadCoilEntry_follows : Follows MB_SCAN_MAX_BIT_INTERVAL MB_SCAN_MAX_BIT_NUM scanReadCoilEntry :=
  Enters.follows scanReadCoil_enters (by decide)

/-- **The requests of a loop are the spans of its entries.** -/
theorem readRequests_spans {interval max : ℕ}
    {entry : Bool → ReadEntry → ReadScan → ReadScan × Option ReadRequest × Option ReadRequest}
    (hentry : Follows interval max entry) (hmax : 1 < max) (hint : 1 < interval) {es : List ReadEntry}
    (hsort : (es.map fun e => e.item.1).Pairwise (· < ·)) (ht : Tracks sc s) (hok : s.Ok max)
    (hkeys : 0 < s.count → ∀ e ∈ es, s.last < e.item.1) :
    (readRequests entry es sc).map ReadRequest.span = (spanRun interval max (es.map ReadEntry.item) s).1 := by
  induction es generalizing sc s with
  | nil => rfl
  | cons e es ih =>
    obtain ⟨hafter, hsort⟩ := List.pairwise_cons.mp hsort
    have hkey : 0 < s.count → s.last < e.item.1 := fun hpos => hkeys hpos e List.mem_cons_self
    obtain ⟨hnext, hsent⟩ := hentry es.isEmpty ht hok hkey
    obtain ⟨⟨hok', hlast, -⟩, -⟩ := spanStep_joins e.item.2 es.isEmpty hmax hint hok hkey
    have hkeys' : ∀ f ∈ es, (spanStep interval max es.isEmpty e.item s).1.last < f.item.1 := by
      intro f hf
      rw [hlast]
      exact hafter _ (List.mem_map_of_mem hf)
    have hrest := ih hsort hnext hok' fun _ => hkeys'
    rw [readRequests, List.map_append, hsent, hrest, List.map_cons, spanRun, List.isEmpty_map]

end Spans

/-! ### What a pass covers -/

section Coverage

/-- The size of `ucRTURcvBuf`. -/
abbrev MB_SER_PDU_SIZE_MAX : ℕ := 256

/-- The address is one of the request. -/
def ReadRequest.covers (q : ReadRequest) (x : USHORT) : Bool :=
  q.usAddr.toNat ≤ x.toNat ∧ x.toNat < q.usAddr.toNat + q.usCount.toNat

/-- The bytes of the response to a register request: the address, the function code, the byte count, the words and
the checksum. -/
def regResponseBytes (q : ReadRequest) : ℕ := 3 + 2 * q.usCount.toNat + 2

/-- The bytes of the response to a coil request. -/
def coilResponseBytes (q : ReadRequest) : ℕ := 3 + (coilBytes q.usCount).toNat + 2

/-- **The requests cover the entries**: they lie one behind the other, every entry that is not write-only is in
exactly one, a write-only one in none, and each has at least 1 and at most `max` addresses and a response that fits
the receive buffer. -/
structure ReadCoverage (max : ℕ) (bytes : ReadRequest → ℕ) (es : List ReadEntry) (qs : List ReadRequest) : Prop where
  apart : qs.Pairwise fun q t => q.usAddr.toNat + q.usCount.toNat ≤ t.usAddr.toNat
  once : ∀ e ∈ es, e.2 ≠ .WO → qs.countP (·.covers e.1) = 1
  never : ∀ e ∈ es, e.2 = .WO → ∀ q ∈ qs, q.covers e.1 = false
  count : ∀ q ∈ qs, 1 ≤ q.usCount.toNat ∧ q.usCount.toNat ≤ max
  fits : ∀ q ∈ qs, bytes q ≤ MB_SER_PDU_SIZE_MAX

/-- The entries have ascending addresses. -/
def AscendingReads (es : List ReadEntry) : Prop := (es.map fun e => e.1.toNat).Pairwise (· < ·)

theorem readRequests_coverage {interval max : ℕ} {bytes : ReadRequest → ℕ}
    {entry : Bool → ReadEntry → ReadScan → ReadScan × Option ReadRequest × Option ReadRequest}
    (hentry : Follows interval max entry) (hmax : 1 < max) (hint : 1 < interval)
    (hbytes : ∀ q : ReadRequest, q.usCount.toNat + 2 ≤ max + interval → bytes q ≤ MB_SER_PDU_SIZE_MAX)
    {es : List ReadEntry} (hsort : AscendingReads es) :
    ReadCoverage (max + interval - 2) bytes es (readRequests entry es .start) := by
  -- the requests are the spans of the library
  have hspans : (readRequests entry es .start).map ReadRequest.span = spans interval max (es.map ReadEntry.item) :=
    readRequests_spans hentry hmax hint hsort tracks_start (idle_ok (by omega)) nofun
  have hsort' : ((es.map ReadEntry.item).map Prod.fst).Pairwise (· < ·) := by
    rw [List.map_map]
    exact hsort
  obtain ⟨⟨top, hcov⟩, hbound⟩ := spans_cover hmax hint hsort'
  rw [← hspans] at hcov hbound
  have hitem {e : ReadEntry} (he : e ∈ es) : (e.1.toNat, decide (e.2 ≠ .WO)) ∈ es.map ReadEntry.item :=
    List.mem_map_of_mem he
  have hcount : ∀ q ∈ readRequests entry es .start, 1 ≤ q.usCount.toNat ∧ q.usCount.toNat + 2 ≤ max + interval :=
    fun q hq => hbound _ (List.mem_map_of_mem hq)
  constructor
  · exact List.pairwise_map.mp hcov.apart
  · intro e he hw
    have hmem := hitem he
    rw [decide_eq_true hw] at hmem
    have hone := hcov.countP hmem
    rw [List.countP_map] at hone
    exact hone
  · intro e he hw q hq
    have hmem := hitem he
    rw [decide_eq_false fun h => h hw] at hmem
    exact hcov.others _ hmem _ (List.mem_map_of_mem hq)
  · intro q hq
    have := hcount q hq
    omega
  · intro q hq
    exact hbytes q (hcount q hq).2

/-- A request that is answered, and noted down. -/
def noteRead (q : ReadRequest) (qs : List ReadRequest) : eMBMasterReqErrCode × List ReadRequest :=
  (.MB_MRE_NO_ERR, qs ++ [q])

theorem sendAll_noted (qs : List ReadRequest) (st : eMBMasterReqErrCode × List ReadRequest) :
    (sendAll noteRead qs st).2 = st.2 ++ qs := by
  induction qs generalizing st with
  | nil => exact (List.append_nil _).symm
  | cons q qs ih =>
    change (sendAll noteRead qs (noteRead q st.2)).2 = _
    rw [ih, noteRead, List.append_assoc]
    rfl

/-- **What the read scans request** covers the tables of a device. -/
theorem readScan_coverage {hold : sMBDevDataTable} {ins : sMBDevTable sMasterRegInData}
    {coils : sMBDevTable sMasterBitCoilData} (hh : AscendingReads (holdReads hold))
    (hi : AscendingReads (inputReads ins)) (hc : AscendingReads (coilReads coils)) :
    ReadCoverage 58 regResponseBytes (holdReads hold) (eMBMasterScanReadRegHold noteRead hold []).2 ∧
      ReadCoverage 58 regResponseBytes (inputReads ins) (eMBMasterScanReadRegIn noteRead ins []).2 ∧
      ReadCoverage 478 coilResponseBytes (coilReads coils) (eMBMasterScanReadCoils noteRead coils []).2 := by
  have hregs : ∀ q : ReadRequest, q.usCount.toNat + 2 ≤ MB_SCAN_MAX_REG_NUM + MB_SCAN_MAX_REG_INTERVAL →
      regResponseBytes q ≤ MB_SER_PDU_SIZE_MAX := by
    intro q hq
    change q.usCount.toNat + 2 ≤ 60 at hq
    change 3 + 2 * q.usCount.toNat + 2 ≤ 256
    omega
  have hcoils : ∀ q : ReadRequest, q.usCount.toNat + 2 ≤ MB_SCAN_MAX_BIT_NUM + MB_SCAN_MAX_BIT_INTERVAL →
      coilResponseBytes q ≤ MB_SER_PDU_SIZE_MAX := by
    intro q hq
    change q.usCount.toNat + 2 ≤ 480 at hq
    change 3 + (coilBytes q.usCount).toNat + 2 ≤ 256
    rw [coilBytes_eq, BitVec.toNat_ofNat]
    omega
  have hnever : ∀ q s, (noteRead q s).1 ≠ .MB_MRE_ETIMEDOUT := fun _ _ => nofun
  rw [eMBMasterScanReadRegHold, scanReadRegs_eq, sendAll_noted, eMBMasterScanReadRegIn, scanReadRegs_eq,
    sendAll_noted, eMBMasterScanReadCoils, scanReadCoils_eq _ hnever, sendAll_noted]
  exact ⟨readRequests_coverage scanReadRegEntry_follows (by decide) (by decide) hregs hh,
    readRequests_coverage scanReadRegEntry_follows (by decide) (by decide) hregs hi,
    readRequests_coverage scanReadCoilEntry_follows (by decide) (by decide) hcoils hc⟩

/-- Registers at 1, 5 and 8, with a write-only one at 7, and one at 40. -/
def mixedRegs : sMBDevDataTable :=
  ⟨[⟨1, 0, 9, .uint16, .RW, 1, some 0⟩, ⟨5, 0, 9, .uint16, .RO, 1, some 2⟩, ⟨7, 0, 9, .uint16, .WO, 1, some 4⟩,
    ⟨8, 0, 9, .uint16, .RW, 1, some 6⟩, ⟨40, 0, 9, .uint16, .RO, 1, some 8⟩], 0, 50⟩

def mixedInputs : sMBDevTable sMasterRegInData :=
  ⟨[⟨0, 0, 9, .uint16, .RO, 1, some 0⟩, ⟨9, 0, 9, .uint16, .RO, 1, some 2⟩], 0, 50⟩

def mixedCoils : sMBDevTable sMasterBitCoilData := ⟨[⟨3, .WO, some 0⟩, ⟨4, .RW, some 1⟩, ⟨83, .RO, some 2⟩], 0, 99⟩

/-- The gap between 1 and 5 is read over, the write-only register at 7 is not. -/
theorem readScan_coverage_mixed :
    (ReadCoverage 58 regResponseBytes (holdReads mixedRegs) (eMBMasterScanReadRegHold noteRead mixedRegs []).2 ∧
      ReadCoverage 58 regResponseBytes (inputReads mixedInputs) (eMBMasterScanReadRegIn noteRead mixedInputs []).2 ∧
      ReadCoverage 478 coilResponseBytes (coilReads mixedCoils) (eMBMasterScanReadCoils noteRead mixedCoils []).2) ∧
    (eMBMasterScanReadRegHold noteRead mixedRegs []).2 = [⟨1, 5⟩, ⟨8, 1⟩, ⟨40, 1⟩] ∧
    (eMBMasterScanReadRegIn noteRead mixedInputs []).2 = [⟨0, 10⟩] ∧
    (eMBMasterScanReadCoils noteRead mixedCoils []).2 = [⟨4, 80⟩] := by
  refine ⟨readScan_coverage ?_ ?_ ?_, by decide, by decide, by decide⟩
  · simp [AscendingReads, holdReads, mixedRegs]
  · simp [AscendingReads, inputReads, mixedInputs]
  · simp [AscendingReads, coilReads, mixedCoils]

end Coverage

end GreeIntense.Master

import GreeIntense.Lib.AckedRows
import GreeIntense.Master.Agreement
import GreeIntense.Master.CoilResponse
import GreeIntense.Master.WriteScan
import GreeIntense.Master.ScanCoils

/-!
# When the write scan comes to rest

Two passes of the write scans, every request acknowledged and nothing assigned.  The scan compares the previous
value of an entry with the value in the device's scale, but the acknowledgement stores the value as it is, and
only when that is in range; of a coil request it brings only the first coils up to date.  `quiet_iff` says for
which tables and values the second pass sends no entry again.
-/

namespace GreeIntense.Master

open Lib.Memory Lib.Bits Lib.Rows

/-! ### Passes with acknowledgements -/

/-- A register request, acknowledged by the device: the request in the send buffer decides. -/
def regAcked (cur : sMBSlaveDevCommData) (q : WriteRequest) (s : RegHolds × Mem) : RegHolds × Mem :=
  let ucSndBuf := eMBMasterReqWriteMultipleHoldingRegister q.usRegAddr q.pusDataBuffer s.2
  ((eMBMasterFuncWriteMultipleHoldingRegister cur .STATE_SCAN_DEV false ucSndBuf (fun _ => 0) 0 5 s.1).2, ucSndBuf)

/-- The PDU of the acknowledgement of a coil request. -/
def coilAckPDU (q : CoilRequest) : Mem :=
  let usNCoils : USHORT := BitVec.ofNat 16 q.usNCoils
  storeList (fun _ => 0) 0 [MB_FUNC_WRITE_MULTIPLE_COILS, hi q.usCoilAddr, lo q.usCoilAddr, hi usNCoils, lo usNCoils]

/-- A coil request, acknowledged by the device. -/
def coilAcked (cur : sMBSlaveDevCoils) (q : CoilRequest) (s : Coils × Mem) : Coils × Mem :=
  let ucSndBuf := eMBMasterReqWriteMultipleCoils q.usCoilAddr (BitVec.ofNat 16 q.usNCoils) q.pucDataBuffer s.2
  ((eMBMasterFuncWriteMultipleCoils cur .STATE_SCAN_DEV false ucSndBuf (coilAckPDU q) 0 5 s.1).2, ucSndBuf)

/-- `eMBMasterScanWriteRegHold` with every request acknowledged: the requests, and the master's data and the send
buffer after it. -/
def regPass (cur : sMBSlaveDevCommData) (xCheckPreValue : Bool) (s : RegHolds × Mem) :
    List WriteRequest × (RegHolds × Mem) :=
  let tab := cur.sMBRegHoldTable.pvDataBuf
  let pass := ackedPass (fun e s sc => scanEntry tab.length e s.1 sc) (regAcked cur)
  (outputs pass tab (.start xCheckPreValue, s), (leaves pass tab (.start xCheckPreValue, s)).2)

/-- `eMBMasterScanWriteCoils` with every request acknowledged. -/
def coilPass (cur : sMBSlaveDevCoils) (xCheckPreValue : Bool) (BitCoilByteValList : Mem) (s : Coils × Mem) :
    List CoilRequest × (Coils × Mem) :=
  let tab := cur.sMBCoilTable.pvDataBuf
  let pass := ackedPass (fun e s sc => scanCoilEntry tab.length e s.1 sc) (coilAcked cur)
  (outputs pass tab (.start xCheckPreValue BitCoilByteValList, s),
    (leaves pass tab (.start xCheckPreValue BitCoilByteValList, s)).2)

/-! ### The registers -/

section Registers

variable {cur : sMBSlaveDevCommData} {xCheckPreValue : Bool} {r r' : RegHolds} {s : RegHolds × Mem} {q : WriteRequest}
  {e : sMasterRegHoldData} {i : ℕ}

theorem scanWord_congr (hv : r'.vars = r.vars) (hp : r'.usPreVal i = r.usPreVal i) :
    scanWord xCheckPreValue i e r' = scanWord xCheckPreValue i e r := by
  unfold scanWord
  rw [hv, hp]

theorem WriteRequest.ok_of_inside
    (h : q.row.Inside MB_SCAN_MAX_REG_NUM (cur.sMBRegHoldTable.pvDataBuf.map fun e => e.usAddr.toNat)) :
    q.Ok cur.sMBRegHoldTable.pvDataBuf := by
  refine ⟨h.pos, h.le, ?_⟩
  intro k hk
  obtain ⟨e, he, haddr⟩ := List.mem_map.mp (h.mem k hk)
  exact ⟨e, he, haddr⟩

theorem WriteRequest.covers_iff (hq : q.Ok cur.sMBRegHoldTable.pvDataBuf) (x : USHORT) :
    q.covers x.toNat = true ↔ ∃ k < q.pusDataBuffer.length, x = q.usRegAddr + BitVec.ofNat 16 k := by
  have htoNat : ∀ k < q.pusDataBuffer.length, (q.usRegAddr + BitVec.ofNat 16 k).toNat = q.usRegAddr.toNat + k := by
    intro k hk
    obtain ⟨e, -, haddr⟩ := hq.row k hk
    have := e.usAddr.isLt
    rw [BitVec.toNat_add, BitVec.toNat_ofNat]
    omega
  rw [WriteRequest.covers, decide_eq_true_iff]
  constructor
  · rintro ⟨h1, h2⟩
    refine ⟨x.toNat - q.usRegAddr.toNat, by omega, ?_⟩
    apply BitVec.eq_of_toNat_eq
    rw [htoNat _ (by omega)]
    omega
  · rintro ⟨k, hk, rfl⟩
    rw [htoNat k hk]
    omega

/-- **An acknowledged request** runs the loop over its registers. -/
theorem regAcked_fst (hm : MapsEntries cur) (hq : q.Ok cur.sMBRegHoldTable.pvDataBuf) :
    (regAcked cur q s).1 = regHoldWrittenLoop cur q.pusDataBuffer.length q.usRegAddr s.1 := by
  apply written_eq hm hq
  · exact writeRequest_get.1
  · exact writeRequest_get.2.1
  · exact writeRequest_get.2.2

theorem regAcked_vars (hm : MapsEntries cur) (hq : q.Ok cur.sMBRegHoldTable.pvDataBuf) :
    (regAcked cur q s).1.vars = s.1.vars := by rw [regAcked_fst hm hq, regHoldWrittenLoop_vars]

theorem regAcked_off (hm : MapsEntries cur) (hq : q.Ok cur.sMBRegHoldTable.pvDataBuf)
    (he : cur.sMBRegHoldTable.pvDataBuf[i]? = some e) (hcov : q.covers e.usAddr.toNat = false) :
    (regAcked cur q s).1.usPreVal i = s.1.usPreVal i := by
  rw [regAcked_fst hm hq]
  apply regHoldWrittenLoop_off hm he
  intro k hk hx
  rw [(WriteRequest.covers_iff hq e.usAddr).mpr ⟨k, hk, hx⟩] at hcov
  cases hcov

theorem regAcked_on (hm : MapsEntries cur) (hq : q.Ok cur.sMBRegHoldTable.pvDataBuf)
    (he : cur.sMBRegHoldTable.pvDataBuf[i]? = some e) (hcov : q.covers e.usAddr.toNat = true) :
    (regAcked cur q s).1.usPreVal i = ackedPre i e s.1 := by
  rw [regAcked_fst hm hq]
  exact regHoldWrittenLoop_pre hm he ((WriteRequest.covers_iff hq e.usAddr).mp hcov)

/-- **The requests of a pass with acknowledgements** are the rows of the entries it begins with. -/
theorem regPass_rows (hm : MapsEntries cur) (ha : cur.sMBRegHoldTable.Ascending) :
    (regPass cur xCheckPreValue s).1.map WriteRequest.row =
      rows MB_SCAN_MAX_REG_NUM true (scanItems xCheckPreValue (fun _ => s.1) cur.sMBRegHoldTable.pvDataBuf) := by
  have hmax : 1 < MB_SCAN_MAX_REG_NUM := by decide
  refine ackedPass_rows (fun e : sMasterRegHoldData => e.usAddr.toNat)
    (fun i e (s : RegHolds × Mem) => scanWord xCheckPreValue i e s.1)
    (R := fun i sc t => Simulates sc t ∧ sc.iIndex = i ∧ sc.xCheckPreValue = xCheckPreValue) hmax ha
    (fun i e sc t s _ h => ?_) (fun q s hin j e he hcov => ?_) ⟨simulates_start xCheckPreValue, rfl, rfl⟩ s
  · obtain ⟨hsim, rfl, rfl⟩ := h
    obtain ⟨t', hstep, hnext⟩ := scanEntry_simulates hsim cur.sMBRegHoldTable.pvDataBuf.length e s.1
    exact ⟨t', hstep, hnext⟩
  · have hq := WriteRequest.ok_of_inside hin
    exact scanWord_congr (regAcked_vars hm hq) (regAcked_off hm hq he hcov)

variable (xCheckPreValue s) in
theorem regPass_covers (hm : MapsEntries cur) (ha : cur.sMBRegHoldTable.Ascending) (a : ℕ) :
    (∃ q ∈ (regPass cur xCheckPreValue s).1, q.covers a = true) ↔
      ∃ t ∈ rows MB_SCAN_MAX_REG_NUM true (scanItems xCheckPreValue (fun _ => s.1) cur.sMBRegHoldTable.pvDataBuf),
        t.covers a = true := by
  simp only [← regPass_rows hm ha, List.mem_map, exists_exists_and_eq_and]
  rfl

theorem regPass_ok (hm : MapsEntries cur) (ha : cur.sMBRegHoldTable.Ascending)
    (hq : q ∈ (regPass cur xCheckPreValue s).1) : q.Ok cur.sMBRegHoldTable.pvDataBuf := by
  have hrow : q.row ∈ (regPass cur xCheckPreValue s).1.map WriteRequest.row := List.mem_map_of_mem hq
  rw [regPass_rows hm ha] at hrow
  obtain ⟨⟨hpos, hle⟩, hvals⟩ := rows_items_sound true (by decide) hrow
  refine ⟨hpos, hle, ?_⟩
  intro k hk
  obtain ⟨i, e, he, haddr, -⟩ := hvals k _ (List.getElem?_eq_getElem hk)
  exact ⟨e, List.mem_of_getElem? he, haddr⟩

/-- **After the acknowledgements** the variables are as before, and the entries in the requests have their new
previous values. -/
theorem regFold_spec (hm : MapsEntries cur) {qs : List WriteRequest}
    (hok : ∀ q ∈ qs, q.Ok cur.sMBRegHoldTable.pvDataBuf) (he : cur.sMBRegHoldTable.pvDataBuf[i]? = some e) :
    (qs.foldl (fun s q => regAcked cur q s) s).1.vars = s.1.vars ∧
      ((∀ q ∈ qs, q.covers e.usAddr.toNat = false) →
        (qs.foldl (fun s q => regAcked cur q s) s).1.usPreVal i = s.1.usPreVal i) ∧
      ((∃ q ∈ qs, q.covers e.usAddr.toNat = true) →
        (qs.foldl (fun s q => regAcked cur q s) s).1.usPreVal i = ackedPre i e s.1) := by
  have hvars : ∀ q ∈ qs, ∀ s, (regAcked cur q s).1.vars = s.1.vars := fun q hq s => regAcked_vars hm (hok q hq)
  have hoff : ∀ q ∈ qs, ∀ s, q.covers e.usAddr.toNat = false →
      (regAcked cur q s).1.usPreVal i = s.1.usPreVal i := fun q hq s => regAcked_off hm (hok q hq) he
  have hon : ∀ q ∈ qs, ∀ s, q.covers e.usAddr.toNat = true →
      (regAcked cur q s).1.usPreVal i = ackedPre i e s.1 := fun q hq s => regAcked_on hm (hok q hq) he
  have hnew : ∀ q ∈ qs, ∀ s, ackedPre i e (regAcked cur q s).1 = ackedPre i e s.1 := by
    intro q hq s
    apply ackedPre_twice (hvars q hq s)
    cases hcov : q.covers e.usAddr.toNat with
    | false => exact Or.inl (hoff q hq s hcov)
    | true => exact Or.inr (hon q hq s hcov)
  refine ⟨acks_kept (f := fun s => s.1.vars) hvars s, fun hnone => ?_, fun hhit => ?_⟩
  · exact acks_kept (f := fun s => s.1.usPreVal i) (fun q hq s => hoff q hq s (hnone q hq)) s
  · exact acks_new (f := fun s => s.1.usPreVal i) hoff hon hnew hhit s

/-- **After a pass** the variables are as before, the entries in its requests have their new previous values, and
the others have the old ones. -/
theorem regPass_spec (hm : MapsEntries cur) (ha : cur.sMBRegHoldTable.Ascending)
    (he : cur.sMBRegHoldTable.pvDataBuf[i]? = some e) :
    (regPass cur xCheckPreValue s).2.1.vars = s.1.vars ∧
      ((∀ q ∈ (regPass cur xCheckPreValue s).1, q.covers e.usAddr.toNat = false) →
        (regPass cur xCheckPreValue s).2.1.usPreVal i = s.1.usPreVal i) ∧
      ((∃ q ∈ (regPass cur xCheckPreValue s).1, q.covers e.usAddr.toNat = true) →
        (regPass cur xCheckPreValue s).2.1.usPreVal i = ackedPre i e s.1) := by
  have hleaves : (regPass cur xCheckPreValue s).2 =
      (regPass cur xCheckPreValue s).1.foldl (fun s q => regAcked cur q s) s := by
    rw [regPass]
    exact ackedPass_leaves _ _ _ _
  rw [hleaves]
  exact regFold_spec hm (fun q hq => regPass_ok hm ha hq) he

/-! ### The registers at rest -/

/-- **The second pass sends no entry again** that was acknowledged in the first. -/
def RegsQuiet (cur : sMBSlaveDevCommData) (xCheckPreValue : Bool) (s : RegHolds × Mem) : Prop :=
  ∀ (i : ℕ) e, cur.sMBRegHoldTable.pvDataBuf[i]? = some e →
    (∃ q ∈ (regPass cur xCheckPreValue s).1, q.covers e.usAddr.toNat = true) →
      ¬∃ q ∈ (regPass cur true (regPass cur xCheckPreValue s).2).1, q.covers e.usAddr.toNat = true

/-- The scaled value of the entry is what the acknowledgement leaves as its previous value: the value as it is,
when that is in range, and what was there before otherwise. -/
def Settled (i : ℕ) (e : sMasterRegHoldData) (p : ℕ) (r : RegHolds) : Prop :=
  let v := value e.ucDataType r.vars p
  scanChanged e (if inRange e v then v else r.usPreVal i) (scanScaled e r.vars p) = false

/-- Every entry of a row the first pass sends is settled. -/
def RegsSettled (cur : sMBSlaveDevCommData) (xCheckPreValue : Bool) (r : RegHolds) : Prop :=
  ∀ t ∈ rows MB_SCAN_MAX_REG_NUM true (scanItems xCheckPreValue (fun _ => r) cur.sMBRegHoldTable.pvDataBuf),
    ∀ (i : ℕ) e p, cur.sMBRegHoldTable.pvDataBuf[i]? = some e → t.covers e.usAddr.toNat = true →
      e.pvValue = some p → Settled i e p r

/-- The word the second pass collects for an entry written in the first. -/
theorem scanWord_again {w : USHORT} (h : scanWord xCheckPreValue i e r = some w) (hv : r'.vars = r.vars)
    (hp : r'.usPreVal i = ackedPre i e r) :
    scanWord true i e r' = none ↔ ∀ p, e.pvValue = some p → Settled i e p r := by
  obtain ⟨hro, ⟨p, hpv, rfl⟩, hrange, -⟩ := scanWord_eq_some.mp h
  have hpre : r'.usPreVal i = if inRange e (value e.ucDataType r.vars p) then value e.ucDataType r.vars p
      else r.usPreVal i := by
    rw [hp, ackedPre, hpv]
    dsimp only
    by_cases hr : inRange e (value e.ucDataType r.vars p)
    · rw [if_pos ⟨hro, hr⟩, if_pos hr]
    · rw [if_neg fun h => hr h.2, if_neg hr]
  have hword : scanWord true i e r' =
      if scanChanged e (r'.usPreVal i) (scanScaled e r.vars p) then some (scanScaled e r.vars p) else none := by
    rw [scanWord, hpv, hv]
    simp [hro, hrange]
  rw [hword, hpre]
  constructor
  · intro hnone p' hp'
    rw [hpv] at hp'
    cases hp'
    rw [Settled, Bool.eq_false_iff]
    intro hch
    rw [if_pos hch] at hnone
    cases hnone
  · intro hset
    have := hset p hpv
    rw [Settled] at this
    rw [this]
    rfl

variable (xCheckPreValue s) in
/-- What the second pass selects, the first has selected, too. -/
theorem scanWord_of_again (hm : MapsEntries cur) (ha : cur.sMBRegHoldTable.Ascending)
    (he : cur.sMBRegHoldTable.pvDataBuf[i]? = some e)
    (h : (scanWord true i e (regPass cur xCheckPreValue s).2.1).isSome) :
    (scanWord xCheckPreValue i e s.1).isSome := by
  obtain ⟨hvars, hoff, -⟩ := regPass_spec hm ha he
  by_cases hcov : ∃ q ∈ (regPass cur xCheckPreValue s).1, q.covers e.usAddr.toNat = true
  · rw [regPass_covers _ _ hm ha] at hcov
    exact ((rows_covers_iff true (by decide) ha he).mp hcov).1
  · obtain ⟨w, hw⟩ := Option.isSome_iff_exists.mp h
    rw [scanWord_congr hvars (hoff (forall_not_hit hcov))] at hw
    obtain ⟨hro, hval, hrange, hch⟩ := scanWord_eq_some.mp hw
    have hsel : WriteSelected xCheckPreValue i e s.1 w := ⟨hro, hval, hrange, hch.imp_right nofun⟩
    rw [scanWord_eq_some.mpr hsel]
    rfl

/-- **The registers come to rest** exactly when the entries sent are settled. -/
theorem regsQuiet_iff (hm : MapsEntries cur) (ha : cur.sMBRegHoldTable.Ascending) :
    RegsQuiet cur xCheckPreValue s ↔ RegsSettled cur xCheckPreValue s.1 := by
  have hmax : 1 < MB_SCAN_MAX_REG_NUM := by decide
  have hagain : ∀ (i : ℕ) e, cur.sMBRegHoldTable.pvDataBuf[i]? = some e →
      (∃ q ∈ (regPass cur xCheckPreValue s).1, q.covers e.usAddr.toNat = true) →
      (scanWord true i e (regPass cur xCheckPreValue s).2.1 = none ↔ ∀ p, e.pvValue = some p → Settled i e p s.1) := by
    intro i e he hcov
    obtain ⟨hvars, -, hon⟩ := regPass_spec hm ha he
    have hpre := hon hcov
    rw [regPass_covers _ _ hm ha] at hcov
    obtain ⟨w, hw⟩ := Option.isSome_iff_exists.mp ((rows_covers_iff true hmax ha he).mp hcov).1
    exact scanWord_again hw hvars hpre
  have hquiet := rows_quiet_iff true hmax ha fun i e he => scanWord_of_again xCheckPreValue s hm ha he
  have hrows : RegsQuiet cur xCheckPreValue s ↔ ∀ (i : ℕ) e, cur.sMBRegHoldTable.pvDataBuf[i]? = some e →
      (∃ q ∈ (regPass cur xCheckPreValue s).1, q.covers e.usAddr.toNat = true) →
        scanWord true i e (regPass cur xCheckPreValue s).2.1 = none := by
    simp only [RegsQuiet, regPass_covers _ _ hm ha]
    exact hquiet
  rw [hrows]
  constructor
  · intro h t ht i e p he hcov hp
    have hcov' := (regPass_covers xCheckPreValue s hm ha e.usAddr.toNat).mpr ⟨t, ht, hcov⟩
    exact (hagain i e he hcov').mp (h i e he hcov') p hp
  · intro h i e he hcov
    rw [hagain i e he hcov]
    intro p hp
    obtain ⟨t, ht, hcov'⟩ := (regPass_covers _ _ hm ha _).mp hcov
    exact h t ht i e p he hcov' hp

end Registers

/-! ### The coils -/

section CoilPasses

variable {cur : sMBSlaveDevCoils} {xCheckPreValue : Bool} {c c' : Coils} {s : Coils × Mem} {q : CoilRequest}
  {e : sMasterBitCoilData} {i p : ℕ} {list : Mem}

/-- The entries are in the address range of the table. -/
structure CoilsInRange (cur : sMBSlaveDevCoils) : Prop where
  lower : ∀ e ∈ cur.sMBCoilTable.pvDataBuf, cur.sMBCoilTable.usStartAddr ≤ e.usAddr
  upper : ∀ e ∈ cur.sMBCoilTable.pvDataBuf, e.usAddr ≤ cur.sMBCoilTable.usEndAddr

/-- A request the scan makes: at most `MB_SCAN_MAX_BIT_NUM` coils, for a row of entries. -/
structure CoilRequest.Ok (tab : List sMasterBitCoilData) (q : CoilRequest) : Prop where
  pos : 1 ≤ q.usNCoils
  le : q.usNCoils ≤ MB_SCAN_MAX_BIT_NUM
  row : ∀ k < q.usNCoils, ∃ e ∈ tab, e.usAddr.toNat = q.usCoilAddr.toNat + k

/-- The acknowledgement of the request reaches the coil of the address: it is one of the first
`usNCoils / 8 + 1`. -/
def CoilRequest.reaches (q : CoilRequest) (a : ℕ) : Bool :=
  q.usCoilAddr.toNat ≤ a ∧ a ≤ q.usCoilAddr.toNat + q.usNCoils / 8

theorem CoilRequest.row_length (q : CoilRequest) : q.row.vals.length = q.usNCoils := by simp [CoilRequest.row]

theorem scanBit_congr (hv : c'.vars = c.vars) (hp : c'.ucPreVal i = c.ucPreVal i) :
    scanBit xCheckPreValue i e c' = scanBit xCheckPreValue i e c := by
  unfold scanBit
  rw [hv, hp]

theorem CoilRequest.ok_of_inside
    (h : q.row.Inside MB_SCAN_MAX_BIT_NUM (cur.sMBCoilTable.pvDataBuf.map fun e => e.usAddr.toNat)) :
    q.Ok cur.sMBCoilTable.pvDataBuf := by
  obtain ⟨hpos, hle, hmem⟩ := h
  rw [q.row_length] at hpos hle hmem
  refine ⟨hpos, hle, ?_⟩
  intro k hk
  obtain ⟨e, he, haddr⟩ := List.mem_map.mp (hmem k hk)
  exact ⟨e, he, haddr⟩

theorem CoilRequest.toNat_add (hq : q.Ok cur.sMBCoilTable.pvDataBuf) {k : ℕ} (hk : k < q.usNCoils) :
    (q.usCoilAddr + BitVec.ofNat 16 k).toNat = q.usCoilAddr.toNat + k := by
  obtain ⟨e, -, haddr⟩ := hq.row k hk
  have := e.usAddr.isLt
  rw [BitVec.toNat_add, BitVec.toNat_ofNat]
  omega

/-- **An acknowledged request** runs over the first `usNCoils / 8 + 1` of its coils. -/
theorem coilAcked_fst (hr : CoilsInRange cur) (hq : q.Ok cur.sMBCoilTable.pvDataBuf) :
    (coilAcked cur q s).1 = writtenRun cur (q.usNCoils / 8 + 1) q.usCoilAddr s.1 := by
  obtain ⟨hpos, hle, hrow⟩ := hq
  have h400 : q.usNCoils ≤ 400 := hle
  obtain ⟨e0, he0, h0⟩ := hrow 0 (by omega)
  obtain ⟨e1, he1, h1⟩ := hrow (q.usNCoils - 1) (by omega)
  have hlow := BitVec.le_def.mp (hr.lower e0 he0)
  have hup := BitVec.le_def.mp (hr.upper e1 he1)
  have htab : InCoilTable cur q.usCoilAddr q.usNCoils := ⟨BitVec.le_def.mpr (by omega), by omega⟩
  have hresp : WriteResponse (coilAckPDU q) 0 q.usCoilAddr q.usNCoils := by
    have h : Holds (coilAckPDU q) 0 _ := holds_storeList
    simp only [holds_cons, Nat.zero_add, Nat.reduceAdd] at h
    obtain ⟨-, h1, h2, h3, h4, -⟩ := h
    constructor
    · rw [loadBE, h1, h2, append_hi_lo]
    · rw [loadBE, h3, h4, append_hi_lo, BitVec.toNat_ofNat]
      omega
  exact afterWrite_eq hpos (by omega) htab hresp

theorem coilAcked_vars (hr : CoilsInRange cur) (hq : q.Ok cur.sMBCoilTable.pvDataBuf) :
    (coilAcked cur q s).1.vars = s.1.vars := by rw [coilAcked_fst hr hq, writtenRun_vars]

theorem coilAcked_off (hm : MapsCoils cur) (hr : CoilsInRange cur) (hq : q.Ok cur.sMBCoilTable.pvDataBuf)
    (he : cur.sMBCoilTable.pvDataBuf[i]? = some e) (h : q.reaches e.usAddr.toNat = false) :
    (coilAcked cur q s).1.ucPreVal i = s.1.ucPreVal i := by
  rw [coilAcked_fst hr hq]
  apply writtenRun_off
  intro t ht e' p hmap
  have hsame := mem_of_coilAt hmap
  rw [he] at hsame
  cases hsame
  have haddr := hm.addr _ _ _ hmap
  have hpos := hq.pos
  have hreach : q.reaches e.usAddr.toNat = true := by
    rw [haddr, CoilRequest.toNat_add hq (by omega), CoilRequest.reaches]
    exact decide_eq_true ⟨by omega, by omega⟩
  rw [h] at hreach
  cases hreach

theorem coilAcked_on (hm : MapsCoils cur) (hr : CoilsInRange cur) (hq : q.Ok cur.sMBCoilTable.pvDataBuf)
    (he : cur.sMBCoilTable.pvDataBuf[i]? = some e) (hw : Writable e p) (h : q.reaches e.usAddr.toNat = true) :
    (coilAcked cur q s).1.ucPreVal i = s.1.vars p := by
  rw [coilAcked_fst hr hq]
  have hpos := hq.pos
  obtain ⟨h1, h2⟩ := of_decide_eq_true h
  have haddr : e.usAddr = q.usCoilAddr + BitVec.ofNat 16 (e.usAddr.toNat - q.usCoilAddr.toNat) := by
    apply BitVec.eq_of_toNat_eq
    rw [CoilRequest.toNat_add hq (by omega)]
    omega
  have hmap := hm.map i e he
  rw [haddr] at hmap
  exact writtenRun_on hmap (by omega) hw

variable (list) in
/-- **The requests of a pass with acknowledgements** are the rows of the coils it begins with. -/
theorem coilPass_rows (hm : MapsCoils cur) (hr : CoilsInRange cur) (ha : CoilsAscending cur.sMBCoilTable) :
    (coilPass cur xCheckPreValue list s).1.map CoilRequest.row =
      rows MB_SCAN_MAX_BIT_NUM false (coilItems xCheckPreValue (fun _ => s.1) cur.sMBCoilTable.pvDataBuf) := by
  have hmax : 1 < MB_SCAN_MAX_BIT_NUM := by decide
  refine ackedPass_rows (fun e : sMasterBitCoilData => e.usAddr.toNat)
    (fun i e (s : Coils × Mem) => scanBit xCheckPreValue i e s.1)
    (R := fun i sc t => HoldsRow sc t ∧ sc.iIndex = i ∧ sc.xCheckPreValue = xCheckPreValue) hmax ha
    (fun i e sc t s _ h => ?_) (fun q s hin j e he hcov => ?_) ⟨holdsRow_start xCheckPreValue list, rfl, rfl⟩ s
  · obtain ⟨hrow, rfl, rfl⟩ := h
    obtain ⟨t', hstep, hnext⟩ := scanCoilEntry_simulates hrow cur.sMBCoilTable.pvDataBuf.length e s.1
    exact ⟨t', hstep, hnext⟩
  · have hq := CoilRequest.ok_of_inside hin
    have hreach : q.reaches e.usAddr.toNat = false := by
      rw [CoilRequest.row_covers] at hcov
      rw [CoilRequest.covers, decide_eq_false_iff_not] at hcov
      have hpos := hq.pos
      rw [CoilRequest.reaches, decide_eq_false_iff_not]
      rintro ⟨h1, h2⟩
      exact hcov ⟨h1, by omega⟩
    exact scanBit_congr (coilAcked_vars hr hq) (coilAcked_off hm hr hq he hreach)

variable (xCheckPreValue list s) in
theorem coilPass_covers (hm : MapsCoils cur) (hr : CoilsInRange cur) (ha : CoilsAscending cur.sMBCoilTable) (a : ℕ) :
    (∃ q ∈ (coilPass cur xCheckPreValue list s).1, q.covers a = true) ↔
      ∃ t ∈ rows MB_SCAN_MAX_BIT_NUM false (coilItems xCheckPreValue (fun _ => s.1) cur.sMBCoilTable.pvDataBuf),
        t.covers a = true := by
  simp only [← coilPass_rows list hm hr ha, List.mem_map, exists_exists_and_eq_and, CoilRequest.row_covers]

theorem coilPass_ok (hm : MapsCoils cur) (hr : CoilsInRange cur) (ha : CoilsAscending cur.sMBCoilTable)
    (hq : q ∈ (coilPass cur xCheckPreValue list s).1) : q.Ok cur.sMBCoilTable.pvDataBuf := by
  have hrow : q.row ∈ (coilPass cur xCheckPreValue list s).1.map CoilRequest.row := List.mem_map_of_mem hq
  rw [coilPass_rows list hm hr ha] at hrow
  obtain ⟨⟨hpos, hle⟩, hvals⟩ := rows_items_sound false (by decide) hrow
  rw [q.row_length] at hpos hle
  refine ⟨hpos, hle, ?_⟩
  intro k hk
  have hk' : k < q.row.vals.length := by rw [q.row_length]; exact hk
  obtain ⟨i, e, he, haddr, -⟩ := hvals k _ (List.getElem?_eq_getElem hk')
  exact ⟨e, List.mem_of_getElem? he, haddr⟩

/-- **After the acknowledgements** the variables are as before, and the coils reached have their values as previous
values. -/
theorem coilFold_spec (hm : MapsCoils cur) (hr : CoilsInRange cur) {qs : List CoilRequest}
    (hok : ∀ q ∈ qs, q.Ok cur.sMBCoilTable.pvDataBuf) (he : cur.sMBCoilTable.pvDataBuf[i]? = some e) :
    (qs.foldl (fun s q => coilAcked cur q s) s).1.vars = s.1.vars ∧
      ((∀ q ∈ qs, q.reaches e.usAddr.toNat = false) →
        (qs.foldl (fun s q => coilAcked cur q s) s).1.ucPreVal i = s.1.ucPreVal i) ∧
      (∀ p, Writable e p → (∃ q ∈ qs, q.reaches e.usAddr.toNat = true) →
        (qs.foldl (fun s q => coilAcked cur q s) s).1.ucPreVal i = s.1.vars p) := by
  have hvars : ∀ q ∈ qs, ∀ s, (coilAcked cur q s).1.vars = s.1.vars := fun q hq s => coilAcked_vars hr (hok q hq)
  have hoff : ∀ q ∈ qs, ∀ s, q.reaches e.usAddr.toNat = false →
      (coilAcked cur q s).1.ucPreVal i = s.1.ucPreVal i := fun q hq s => coilAcked_off hm hr (hok q hq) he
  refine ⟨acks_kept (f := fun s => s.1.vars) hvars s, fun hnone => ?_, fun p hw hhit => ?_⟩
  · exact acks_kept (f := fun s => s.1.ucPreVal i) (fun q hq s => hoff q hq s (hnone q hq)) s
  · have hon : ∀ q ∈ qs, ∀ s, q.reaches e.usAddr.toNat = true →
        (coilAcked cur q s).1.ucPreVal i = s.1.vars p := fun q hq s => coilAcked_on hm hr (hok q hq) he hw
    have hnew : ∀ q ∈ qs, ∀ s, (coilAcked cur q s).1.vars p = s.1.vars p := fun q hq s => by rw [hvars q hq s]
    exact acks_new (f := fun s => s.1.ucPreVal i) hoff hon hnew hhit s

theorem coilPass_spec (hm : MapsCoils cur) (hr : CoilsInRange cur) (ha : CoilsAscending cur.sMBCoilTable)
    (he : cur.sMBCoilTable.pvDataBuf[i]? = some e) :
    (coilPass cur xCheckPreValue list s).2.1.vars = s.1.vars ∧
      ((∀ q ∈ (coilPass cur xCheckPreValue list s).1, q.reaches e.usAddr.toNat = false) →
        (coilPass cur xCheckPreValue list s).2.1.ucPreVal i = s.1.ucPreVal i) ∧
      (∀ p, Writable e p → (∃ q ∈ (coilPass cur xCheckPreValue list s).1, q.reaches e.usAddr.toNat = true) →
        (coilPass cur xCheckPreValue list s).2.1.ucPreVal i = s.1.vars p) := by
  have hleaves : (coilPass cur xCheckPreValue list s).2 =
      (coilPass cur xCheckPreValue list s).1.foldl (fun s q => coilAcked cur q s) s := by
    rw [coilPass]
    exact ackedPass_leaves _ _ _ _
  rw [hleaves]
  exact coilFold_spec hm hr (fun q hq => coilPass_ok hm hr ha hq) he

/-! ### The coils at rest -/

/-- **The second pass sends no coil again** that was acknowledged in the first. -/
def CoilsQuiet (cur : sMBSlaveDevCoils) (xCheckPreValue : Bool) (list list' : Mem) (s : Coils × Mem) : Prop :=
  ∀ (i : ℕ) e, cur.sMBCoilTable.pvDataBuf[i]? = some e →
    (∃ q ∈ (coilPass cur xCheckPreValue list s).1, q.covers e.usAddr.toNat = true) →
      ¬∃ q ∈ (coilPass cur true list' (coilPass cur xCheckPreValue list s).2).1, q.covers e.usAddr.toNat = true

/-- The address is one of the first `n / 8 + 1` of a row of `n`. -/
def reachedIn (t : Lib.Rows.Row Bool) (a : ℕ) : Bool := t.start ≤ a ∧ a ≤ t.start + t.vals.length / 8

/-- Every coil of a row the first pass sends is one of the first `n / 8 + 1` of the `n` coils of a row, or has its
value as previous value anyway. -/
def CoilsSettled (cur : sMBSlaveDevCoils) (xCheckPreValue : Bool) (c : Coils) : Prop :=
  let sent := rows MB_SCAN_MAX_BIT_NUM false (coilItems xCheckPreValue (fun _ => c) cur.sMBCoilTable.pvDataBuf)
  ∀ (i : ℕ) e p, cur.sMBCoilTable.pvDataBuf[i]? = some e → e.pvValue = some p →
    (∃ t ∈ sent, t.covers e.usAddr.toNat = true) →
      (∃ t ∈ sent, reachedIn t e.usAddr.toNat = true) ∨ c.ucPreVal i = c.vars p

variable (xCheckPreValue list s) in
theorem coilPass_reaches (hm : MapsCoils cur) (hr : CoilsInRange cur) (ha : CoilsAscending cur.sMBCoilTable) (a : ℕ) :
    (∃ q ∈ (coilPass cur xCheckPreValue list s).1, q.reaches a = true) ↔
      ∃ t ∈ rows MB_SCAN_MAX_BIT_NUM false (coilItems xCheckPreValue (fun _ => s.1) cur.sMBCoilTable.pvDataBuf),
        reachedIn t a = true := by
  have hrow (q : CoilRequest) : reachedIn q.row a = q.reaches a := by
    rw [reachedIn, CoilRequest.reaches, q.row_length]
    rfl
  simp only [← coilPass_rows list hm hr ha, List.mem_map, exists_exists_and_eq_and, hrow]

theorem scanBit_again {v : Bool} (h : scanBit xCheckPreValue i e c = some v) (hp : e.pvValue = some p)
    (hv : c'.vars = c.vars) : scanBit true i e c' = none ↔ c'.ucPreVal i = c.vars p := by
  obtain ⟨hro, p', hp', -⟩ := scanBit_eq_some.mp h
  rw [hp] at hp'
  cases hp'
  rw [scanBit, hp, hv]
  simp [hro]

variable (xCheckPreValue list s) in
theorem scanBit_of_again (hm : MapsCoils cur) (hr : CoilsInRange cur) (ha : CoilsAscending cur.sMBCoilTable)
    (he : cur.sMBCoilTable.pvDataBuf[i]? = some e)
    (h : (scanBit true i e (coilPass cur xCheckPreValue list s).2.1).isSome) :
    (scanBit xCheckPreValue i e s.1).isSome := by
  obtain ⟨hvars, hoff, hon⟩ := coilPass_spec hm hr ha he
  obtain ⟨v, hv⟩ := Option.isSome_iff_exists.mp h
  obtain ⟨hro, p, hp, hval, hch⟩ := scanBit_eq_some.mp hv
  have hne := hch.resolve_right nofun
  have hreach : ¬∃ q ∈ (coilPass cur xCheckPreValue list s).1, q.reaches e.usAddr.toNat = true := by
    intro hreach
    rw [hon p ⟨hp, hro⟩ hreach, hvars] at hne
    exact hne rfl
  rw [hvars] at hval hne
  rw [hoff (forall_not_hit hreach)] at hne
  have hsel : CoilSelected xCheckPreValue i e s.1 v := ⟨hro, p, hp, hval, Or.inl hne⟩
  rw [scanBit_eq_some.mpr hsel]
  rfl

/-- **The coils come to rest** exactly when the coils sent are settled. -/
theorem coilsQuiet_iff {list' : Mem} (hm : MapsCoils cur) (hr : CoilsInRange cur)
    (ha : CoilsAscending cur.sMBCoilTable) :
    CoilsQuiet cur xCheckPreValue list list' s ↔ CoilsSettled cur xCheckPreValue s.1 := by
  have hmax : 1 < MB_SCAN_MAX_BIT_NUM := by decide
  -- what the second pass finds of a coil: its value, or what it was before the first one
  have hagain : ∀ (i : ℕ) e, cur.sMBCoilTable.pvDataBuf[i]? = some e →
      (∃ q ∈ (coilPass cur xCheckPreValue list s).1, q.covers e.usAddr.toNat = true) →
      (scanBit true i e (coilPass cur xCheckPreValue list s).2.1 = none ↔ ∀ p, e.pvValue = some p →
        (∃ q ∈ (coilPass cur xCheckPreValue list s).1, q.reaches e.usAddr.toNat = true) ∨
          s.1.ucPreVal i = s.1.vars p) := by
    intro i e he hcov
    obtain ⟨hvars, hoff, hon⟩ := coilPass_spec hm hr ha he
    rw [coilPass_covers _ _ _ hm hr ha] at hcov
    obtain ⟨v, hv⟩ := Option.isSome_iff_exists.mp ((rows_covers_iff false hmax ha he).mp hcov).1
    obtain ⟨hro, p, hp, -⟩ := scanBit_eq_some.mp hv
    rw [scanBit_again hv hp hvars]
    constructor
    · intro heq p' hp'
      rw [hp] at hp'
      cases hp'
      by_cases hreach : ∃ q ∈ (coilPass cur xCheckPreValue list s).1, q.reaches e.usAddr.toNat = true
      · exact Or.inl hreach
      · right
        rw [← heq, hoff (forall_not_hit hreach)]
    · intro h
      by_cases hreach : ∃ q ∈ (coilPass cur xCheckPreValue list s).1, q.reaches e.usAddr.toNat = true
      · exact hon p ⟨hp, hro⟩ hreach
      · -- a coil that no request has reached keeps its previous value
        rw [hoff (forall_not_hit hreach), (h p hp).resolve_left hreach]
  have hquiet := rows_quiet_iff false hmax ha fun i e he => scanBit_of_again xCheckPreValue s list hm hr ha he
  have hrows : CoilsQuiet cur xCheckPreValue list list' s ↔ ∀ (i : ℕ) e, cur.sMBCoilTable.pvDataBuf[i]? = some e →
      (∃ q ∈ (coilPass cur xCheckPreValue list s).1, q.covers e.usAddr.toNat = true) →
        scanBit true i e (coilPass cur xCheckPreValue list s).2.1 = none := by
    simp only [CoilsQuiet, coilPass_covers _ _ _ hm hr ha]
    exact hquiet
  rw [hrows, CoilsSettled]
  constructor
  · intro h i e p he hp hcov
    rw [← coilPass_covers xCheckPreValue s list hm hr ha] at hcov
    rw [← coilPass_reaches xCheckPreValue s list hm hr ha]
    exact (hagain i e he hcov).mp (h i e he hcov) p hp
  · intro h i e he hcov
    rw [hagain i e he hcov]
    intro p hp
    rw [coilPass_reaches xCheckPreValue s list hm hr ha]
    rw [coilPass_covers _ _ _ hm hr ha] at hcov
    exact h i e p he hp hcov

end CoilPasses

/-! ### Both scans -/

/-- **The write scans come to rest** exactly when what they send is settled: of a register, the value as it is
makes the same previous value as the scaled one; of a row of `n` coils, those after the first `n / 8 + 1` have
not changed. -/
theorem quiet_iff {cur : sMBSlaveDevCommData} {coils : sMBSlaveDevCoils} {xCheckPreValue : Bool}
    {s : RegHolds × Mem} {c : Coils × Mem} {list list' : Mem} (hm : MapsEntries cur)
    (ha : cur.sMBRegHoldTable.Ascending) (hmc : MapsCoils coils) (hrc : CoilsInRange coils)
    (hac : CoilsAscending coils.sMBCoilTable) :
    (RegsQuiet cur xCheckPreValue s ↔ RegsSettled cur xCheckPreValue s.1) ∧
      (CoilsQuiet coils xCheckPreValue list list' c ↔ CoilsSettled coils xCheckPreValue c.1) :=
  ⟨regsQuiet_iff hm ha, coilsQuiet_iff hmc hrc hac⟩

theorem coilsInRange_three : CoilsInRange threeCoils where
  lower := by decide
  upper := by decide

theorem ascending_three : CoilsAscending threeCoils.sMBCoilTable := by simp [CoilsAscending, threeCoils]

/-- A register that is sent as it is, and coils of which only the first one has changed: nothing is sent again. -/
theorem quiet_three :
    RegsQuiet oneEntry true (⟨only 7, fun _ => 0⟩, fun _ => 0) ∧
      CoilsQuiet threeCoils true (fun _ => 0) (fun _ => 0)
        (⟨fun p => if p = 0 then 1 else 0, fun _ => 0⟩, fun _ => 0) := by
  have hr : RegsSettled oneEntry true ⟨only 7, fun _ => 0⟩ := by
    intro t ht i e p he hcov hp
    obtain ⟨rfl, rfl⟩ := oneEntry_get he
    cases hp
    unfold Settled
    decide
  have hc : CoilsSettled threeCoils true ⟨fun p => if p = 0 then 1 else 0, fun _ => 0⟩ := by
    intro i e p he hp hcov
    obtain ⟨rfl, rfl⟩ | ⟨rfl, rfl⟩ | ⟨rfl, rfl⟩ := threeCoils_get he
    · left
      decide
    · cases hp
      exact Or.inr (by decide)
    · cases hp
      exact Or.inr (by decide)
  exact (quiet_iff mapsEntries_oneEntry (List.pairwise_singleton _ _) mapsCoils_three coilsInRange_three
    ascending_three).imp (fun h => h.mpr hr) fun h => h.mpr hc

/-- A table of one `uint16` entry at the address 3, sent tenfold. -/
def tenfold : sMBSlaveDevCommData where
  sMBRegHoldTable := ⟨[⟨3, 0, 1000, .uint16, .RW, 10, some 0⟩], 0, 9⟩
  pxDevDataMapIndex := some fun x => if x = 3 then some 0 else none

/-- **A register that is sent tenfold is sent again, and so is the second one of two coils.** -/
theorem quiet_fails :
    tenfold.sMBRegHoldTable.Ascending ∧ CoilsAscending threeCoils.sMBCoilTable ∧
      ¬RegsQuiet tenfold true (⟨only 5, fun _ => 0⟩, fun _ => 0) ∧
        ¬CoilsQuiet threeCoils true (fun _ => 0) (fun _ => 0) (⟨fun _ => 1, fun _ => 0⟩, fun _ => 0) := by
  refine ⟨List.pairwise_singleton _ _, ascending_three, fun h => ?_, fun h => ?_⟩
  · exact h 0 _ rfl (by decide) (by decide)
  · exact h 1 _ rfl (by decide) (by decide)

end GreeIntense.Master

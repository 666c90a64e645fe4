import GreeIntense.Lib.Run
import GreeIntense.Master.HoldingSpec
import GreeIntense.Master.Scan

/-!
# When the master and the device agree

The write scan, the read scan, the application and the device work at the same time, with one request on
the bus at a time.  An entry is taken to be transmitted when its variable equals `usPreVal`: then the
device should have the value.

`eMBMasterRegHoldingCB` takes over the value the variable has when the acknowledgement comes, not the one
that was sent.  `agreement_iff` says that the master and the device agree along a run exactly when at
every acknowledgement the variables still have the values that were sent.
-/

namespace GreeIntense.Master

open Lib.Memory Lib.Run

/-! ### The system -/

/-- The request on the bus: a write the device has or has not accepted, or a read with the PDU of its
answer. -/
inductive Request
  | idle
  | write (accepted : Bool)
  | read (answer : Option Mem)

def Request.isIdle : Request → Bool
  | .idle => true
  | _ => false

theorem Request.isIdle_iff {q : Request} : q.isIdle = true ↔ q = .idle := by
  cases q <;> simp [isIdle]

/-- The master's data of a device, the holding registers of the device, the send buffer, the request on
the bus, the write scan and the request it waits to send. -/
structure Sys where
  regs : RegHolds
  dev : USHORT → USHORT
  ucSndBuf : Mem
  request : Request
  scan : Option ScanWrite
  waiting : Option WriteRequest

/-- The PDU of the device's answer to a read request. -/
def answerPDU (dev : USHORT → USHORT) (ucSndBuf : Mem) : Mem :=
  let n := (loadBE ucSndBuf 3).toNat
  storeList (fun _ => 0) 0 (MB_FUNC_READ_HOLDING_REGISTER :: BitVec.ofNat 8 (2 * n) ::
    beBytes ((List.range n).map fun k => dev (loadBE ucSndBuf 1 + BitVec.ofNat 16 k)))

/-- What can happen: the application assigns variables; the write scan starts, goes on by an entry, sends
its request, or gives it up when it does not get the bus; the device accepts a write request, and the
acknowledgement is processed; the read scan sends a request, the device answers it, and the answer is
processed; a request ends without effect. -/
inductive SysEvent
  | assign (vars : Mem)
  | scanStart (xCheckPreValue : Bool)
  | scanNext
  | sendWrite
  | busy
  | accept
  | written
  | sendRead (usRegAddr usNRegs : USHORT)
  | answer
  | readDone
  | lost

variable (cur : sMBSlaveDevCommData)

/-- The loop of the write scan goes on by an entry.  It waits while a request of its own is under way. -/
def scanNext (s : Sys) : Option Sys :=
  match s.scan, s.waiting, s.request with
  | some _, none, .write _ => none
  | some sc, none, _ =>
    match cur.sMBRegHoldTable.pvDataBuf[sc.iIndex]? with
    | none => some { s with scan := none }
    | some e =>
      let r := scanEntry cur.sMBRegHoldTable.pvDataBuf.length e s.regs sc
      some { s with scan := some r.1, waiting := r.2 }
  | _, _, _ => none

/-- A step of the system, in the mode `STATE_SCAN_DEV`. -/
def sysStep (s : Sys) : SysEvent → Option Sys
  | .assign vars => some { s with regs := s.regs.setVars vars }
  | .scanStart xCheckPreValue =>
    match s.scan with
    | none => some { s with scan := some (.start xCheckPreValue) }
    | some _ => none
  | .scanNext => scanNext cur s
  | .sendWrite =>
    match s.waiting, s.request with
    | some q, .idle => some { s with
        ucSndBuf := eMBMasterReqWriteMultipleHoldingRegister q.usRegAddr q.pusDataBuffer s.ucSndBuf
        request := .write false, waiting := none }
    | _, _ => none
  | .busy => some { s with waiting := none }
  | .accept =>
    match s.request with
    | .write false => some { s with
        dev := fun x => (frameWord s.ucSndBuf x).getD (s.dev x), request := .write true }
    | _ => none
  | .written =>
    match s.request with
    | .write true => some { s with
        regs := (eMBMasterFuncWriteMultipleHoldingRegister cur .STATE_SCAN_DEV false s.ucSndBuf (fun _ => 0) 0 5
          s.regs).2
        request := .idle }
    | _ => none
  | .sendRead usRegAddr usNRegs =>
    match s.request with
    | .idle => some { s with
        ucSndBuf := eMBMasterReqReadHoldingRegister usRegAddr usNRegs s.ucSndBuf, request := .read none }
    | _ => none
  | .answer =>
    match s.request with
    | .read none => some { s with request := .read (some (answerPDU s.dev s.ucSndBuf)) }
    | _ => none
  | .readDone =>
    match s.request with
    | .read (some rcv) => some { s with
        regs := (eMBMasterFuncReadHoldingRegister cur .STATE_SCAN_DEV false s.ucSndBuf rcv 0
          (2 + 2 * (loadBE s.ucSndBuf 3).toNat) s.regs).2
        request := .idle }
    | _ => none
  | .lost =>
    match s.request with
    | .write false | .read _ => some { s with request := .idle }
    | _ => none

/-! ### Agreement -/

/-- **Agreement**: with no request on the bus, an entry whose variable equals `usPreVal` has the value
of the device. -/
def Agree (s : Sys) : Prop :=
  s.request = .idle → ∀ i e p, cur.sMBRegHoldTable.pvDataBuf[i]? = some e → Tracked e p →
    load16 s.regs.vars p = s.regs.usPreVal i → s.dev e.usAddr = load16 s.regs.vars p

/-- At the start device, variable and `usPreVal` agree, and nothing is under way. -/
structure Agreed (s : Sys) : Prop where
  request : s.request = .idle
  scan : s.scan = none
  waiting : s.waiting = none
  pre : ∀ i e p, cur.sMBRegHoldTable.pvDataBuf[i]? = some e → Tracked e p →
    s.regs.usPreVal i = s.dev e.usAddr ∧ load16 s.regs.vars p = s.dev e.usAddr

/-- The values are inside the limits of their entries. -/
def ValuesInRange (s : Sys) : Prop :=
  ∀ e ∈ cur.sMBRegHoldTable.pvDataBuf, ∀ p, Tracked e p → inRange e (load16 s.regs.vars p)

/-- **What agreement needs**: when an acknowledgement is processed, the variables of the registers written
still have the values that were sent. -/
def WriteCurrent (s : Sys) : SysEvent → Prop
  | .written => s.request = .write true → ∀ e ∈ cur.sMBRegHoldTable.pvDataBuf, ∀ p w, Tracked e p →
      frameWord s.ucSndBuf e.usAddr = some w → load16 s.regs.vars p = w
  | _ => True

/-- The answer to a read request leaves the variables of the entries as they are. -/
def ReadKeeps (s : Sys) : SysEvent → Prop
  | .readDone => ∀ s', sysStep cur s .readDone = some s' → ∀ e ∈ cur.sMBRegHoldTable.pvDataBuf, ∀ p, Tracked e p →
      Own cur p → load16 s'.regs.vars p = load16 s.regs.vars p
  | _ => True

/-! ### The invariant -/

/-- Along a run that meets the condition: `usPreVal` is the value of the device, except for the registers
of a write the device has accepted; these have the words sent.  What the send buffer holds during a write
is a request of the scan, and the answer to a read has the values of the device. -/
structure Inv (s : Sys) : Prop where
  scan : ∀ sc, s.scan = some sc → ScanOk cur.sMBRegHoldTable.pvDataBuf sc
  waiting : ∀ q, s.waiting = some q → q.Ok cur.sMBRegHoldTable.pvDataBuf
  frame : ∀ b, s.request = .write b → ∃ q : WriteRequest, q.Ok cur.sMBRegHoldTable.pvDataBuf ∧
    loadBE s.ucSndBuf 1 = q.usRegAddr ∧ loadBE s.ucSndBuf 3 = BitVec.ofNat 16 q.pusDataBuffer.length ∧
    s.ucSndBuf 5 = lo (2 * BitVec.ofNat 16 q.pusDataBuffer.length)
  shadows : s.request ≠ .write true → Shadows cur s.dev s.regs
  accepted : s.request = .write true → ∀ i e p, cur.sMBRegHoldTable.pvDataBuf[i]? = some e → Tracked e p →
    (frameWord s.ucSndBuf e.usAddr).getD (s.regs.usPreVal i) = s.dev e.usAddr
  answer : ∀ rcv, s.request = .read (some rcv) → ∀ k < (loadBE s.ucSndBuf 3).toNat,
    loadBE rcv (2 + 2 * k) = s.dev (loadBE s.ucSndBuf 1 + BitVec.ofNat 16 k)

variable {cur} {s s' : Sys}

theorem Agreed.inv (h : Agreed cur s) : Inv cur s where
  scan sc hsc := by rw [h.scan] at hsc; cases hsc
  waiting q hq := by rw [h.waiting] at hq; cases hq
  frame b hb := by rw [h.request] at hb; cases hb
  shadows _ i e p he ht := (h.pre i e p he ht).1
  accepted hb := by rw [h.request] at hb; cases hb
  answer rcv hr := by rw [h.request] at hr; cases hr

theorem Inv.agree (h : Inv cur s) : Agree cur s := fun hidle i e p he ht heq => by
  rw [← h.shadows (by rw [hidle]; nofun) i e p he ht, heq]

theorem answerPDU_get (dev : USHORT → USHORT) (buf : Mem) {k : ℕ} (hk : k < (loadBE buf 3).toNat) :
    loadBE (answerPDU dev buf) (2 + 2 * k) = dev (loadBE buf 1 + BitVec.ofNat 16 k) := by
  have h : Holds (answerPDU dev buf) 0 _ := holds_storeList
  simp only [holds_cons, Nat.zero_add, Nat.reduceAdd] at h
  have := holds_beBytes_iff.mp h.2.2 k (by simpa using hk)
  simpa using this

/-- **What the acknowledgement of a write does**, for a request of the scan: the loop runs. -/
theorem written_eq {q : WriteRequest} {buf rcv : Mem} {r : RegHolds} (hm : MapsEntries cur)
    (hq : q.Ok cur.sMBRegHoldTable.pvDataBuf) (h1 : loadBE buf 1 = q.usRegAddr)
    (h3 : loadBE buf 3 = BitVec.ofNat 16 q.pusDataBuffer.length)
    (h5 : buf 5 = lo (2 * BitVec.ofNat 16 q.pusDataBuffer.length)) :
    (eMBMasterFuncWriteMultipleHoldingRegister cur .STATE_SCAN_DEV false buf rcv 0 5 r).2 =
      regHoldWrittenLoop cur q.pusDataBuffer.length q.usRegAddr r := by
  obtain ⟨hpos, hle, hrow⟩ := hq
  set n := q.pusDataBuffer.length
  have h50 : n ≤ 50 := hle
  have hn : (BitVec.ofNat 16 n).toNat = n := by
    rw [BitVec.toNat_ofNat, Nat.mod_eq_of_lt (by omega)]
  have hbytes : (lo (2 * BitVec.ofNat 16 n)).toNat = 2 * n := by
    rw [lo, BitVec.extractLsb'_toNat, BitVec.toNat_mul, hn, show (2 : BitVec 16).toNat = 2 from rfl,
      Nat.shiftRight_zero]
    omega
  -- the first and the last address of the row are in the table
  obtain ⟨e0, he0, ha0⟩ := hrow 0 (by omega)
  obtain ⟨e1, he1, ha1⟩ := hrow (n - 1) (by omega)
  have hlow := BitVec.le_def.mp (hm.lower e0 he0)
  have hup := BitVec.le_def.mp (hm.upper e1 he1)
  have hne : cur.sMBRegHoldTable.pvDataBuf ≠ [] := List.ne_nil_of_mem he0
  have hcb : eMBMasterRegHoldingCB cur .STATE_SCAN_DEV rcv (0 + 6) (q.usRegAddr + 1) (BitVec.ofNat 16 n)
      .MB_REG_WRITE r = (.MB_ENOERR, regHoldWrittenLoop cur n q.usRegAddr r) := by
    rw [eMBMasterRegHoldingCB, if_neg (by simp), if_neg hne]
    simp only [BitVec.add_sub_cancel, hn]
    rw [if_neg]
    rintro (h | h)
    · have := BitVec.lt_def.mp h
      omega
    · omega
  rw [eMBMasterFuncWriteMultipleHoldingRegister, if_pos (Or.inl rfl)]
  simp only [h1, h3, h5, hbytes, hn, if_true, hcb]
  rfl

/-- **What the answer to a read does**: it keeps the shadows, and the variables that are the master's. -/
theorem readDone_spec {dev : USHORT → USHORT} {buf rcv : Mem} {usLen : ℕ} {r : RegHolds} (hm : MapsEntries cur)
    (h : Shadows cur dev r)
    (hw : ∀ k < (loadBE buf 3).toNat, loadBE rcv (2 + 2 * k) = dev (loadBE buf 1 + BitVec.ofNat 16 k)) :
    let r' := (eMBMasterFuncReadHoldingRegister cur .STATE_SCAN_DEV false buf rcv 0 usLen r).2
    Shadows cur dev r' ∧ ∀ p, Own cur p → load16 r'.vars p = load16 r.vars p := by
  have hsame : Shadows cur dev r ∧ ∀ p, Own cur p → load16 r.vars p = load16 r.vars p := ⟨h, fun _ _ => rfl⟩
  have hcb : Shadows cur dev (eMBMasterRegHoldingCB cur .STATE_SCAN_DEV rcv (0 + 2) (loadBE buf 1 + 1)
        (loadBE buf 3) .MB_REG_READ r).2 ∧ ∀ p, Own cur p →
      load16 (eMBMasterRegHoldingCB cur .STATE_SCAN_DEV rcv (0 + 2) (loadBE buf 1 + 1) (loadBE buf 3)
        .MB_REG_READ r).2.vars p = load16 r.vars p := by
    rw [eMBMasterRegHoldingCB, if_neg (by simp)]
    simp only [BitVec.add_sub_cancel]
    split
    · exact hsame
    · split
      · exact hsame
      · exact regHoldReadLoop_spec hm h hw
  unfold eMBMasterFuncReadHoldingRegister
  rw [if_neg (by simp)]
  split
  · dsimp only
    split
    · rw [apply_ite Prod.snd, ite_self]
      exact hcb
    · exact hsame
  · exact hsame

/-! ### Steps -/

theorem frameWord_eq_none_iff {buf : Mem} {x : USHORT} :
    frameWord buf x = none ↔ ∀ k < (loadBE buf 3).toNat, x ≠ loadBE buf 1 + BitVec.ofNat 16 k := by
  have hx : x = loadBE buf 1 + BitVec.ofNat 16 (x - loadBE buf 1).toNat := (add_sub_toNat ..).symm
  unfold frameWord
  constructor
  · intro h k hk hxk
    have hd : (x - loadBE buf 1).toNat = k := sub_toNat_of_lt hxk hk
    rw [if_pos (by omega)] at h
    cases h
  · intro h
    rw [if_neg fun hlt => h _ hlt hx]

/-- The previous values after an acknowledgement: those of the registers written are the values of the
variables. -/
theorem written_pre (hm : MapsEntries cur) (hi : Inv cur s) (hr : ValuesInRange cur s)
    (hreq : s.request = .write true) {i : ℕ} {e : sMasterRegHoldData} {p : ℕ}
    (he : cur.sMBRegHoldTable.pvDataBuf[i]? = some e) (ht : Tracked e p) :
    let r' := (eMBMasterFuncWriteMultipleHoldingRegister cur .STATE_SCAN_DEV false s.ucSndBuf (fun _ => 0) 0 5 s.regs).2
    r'.vars = s.regs.vars ∧ r'.usPreVal i =
      if frameWord s.ucSndBuf e.usAddr = none then s.regs.usPreVal i else load16 s.regs.vars p := by
  obtain ⟨q, hq, h1, h3, h5⟩ := hi.frame true hreq
  have hn : (loadBE s.ucSndBuf 3).toNat = q.pusDataBuffer.length := by
    have h50 : q.pusDataBuffer.length ≤ 50 := hq.le
    rw [h3, BitVec.toNat_ofNat, Nat.mod_eq_of_lt (by omega)]
  dsimp only
  rw [written_eq hm hq h1 h3 h5]
  refine ⟨regHoldWrittenLoop_vars, ?_⟩
  split
  · rename_i hoff
    rw [frameWord_eq_none_iff, hn, h1] at hoff
    exact regHoldWrittenLoop_off hm he hoff
  · rename_i hon
    rw [frameWord_eq_none_iff, hn, h1] at hon
    push Not at hon
    exact regHoldWrittenLoop_on hm he ht (hr e (List.mem_of_getElem? he) p ht) hon

theorem scanNext_inv (hi : Inv cur s) (h : scanNext cur s = some s') : Inv cur s' := by
  unfold scanNext at h
  split at h
  · cases h
  · rename_i sc hsc _ _
    split at h
    · cases h
      exact { hi with scan := nofun }
    · rename_i e he
      cases h
      obtain ⟨h1, h2⟩ := scanEntry_ok (List.mem_of_getElem? he) (hi.scan sc hsc)
        cur.sMBRegHoldTable.pvDataBuf.length s.regs
      exact { hi with
        scan := fun _ hsc' => Option.some.inj hsc' ▸ h1
        waiting := h2 }
  · cases h

/-- After an acknowledgement a register that was written has the word sent, and so has its variable. -/
theorem written_inv (hm : MapsEntries cur) (hi : Inv cur s) (hr : ValuesInRange cur s)
    (hok : WriteCurrent cur s .written) (h : sysStep cur s .written = some s') : Inv cur s' := by
  simp only [sysStep] at h
  split at h
  · rename_i hreq
    cases h
    refine { scan := hi.scan, waiting := hi.waiting, frame := nofun, shadows := fun _ i e p he ht => ?_,
             accepted := nofun, answer := nofun }
    have hacc := hi.accepted hreq i e p he ht
    obtain ⟨-, hpre⟩ := written_pre hm hi hr hreq he ht
    dsimp only at hpre ⊢
    rw [hpre]
    cases hw : frameWord s.ucSndBuf e.usAddr with
    | none =>
      rw [hw] at hacc
      exact hacc
    | some w =>
      rw [hw] at hacc
      rw [if_neg nofun, hok hreq e (List.mem_of_getElem? he) p w ht hw]
      exact hacc
  · cases h

/-! The other steps that change the request. -/

/-- A request that is no write, and no answer yet, asks nothing of the send buffer. -/
theorem Inv.requested (hi : Inv cur s) (hne : s.request ≠ .write true) (ucSndBuf : Mem) {q : Request}
    (hq : q = .idle ∨ q = .read none) : Inv cur { s with ucSndBuf, request := q } where
  scan := hi.scan
  waiting := hi.waiting
  frame b hb := by
    dsimp only at hb
    rcases hq with rfl | rfl <;> cases hb
  shadows _ := hi.shadows hne
  accepted hb := by
    dsimp only at hb
    rcases hq with rfl | rfl <;> cases hb
  answer rcv hr := by
    dsimp only at hr
    rcases hq with rfl | rfl <;> cases hr

theorem sendWrite_inv (hi : Inv cur s) (h : sysStep cur s .sendWrite = some s') : Inv cur s' := by
  simp only [sysStep] at h
  split at h
  · rename_i q hq hidle
    cases h
    exact {
      scan := hi.scan
      waiting := nofun
      frame := fun _ _ => ⟨q, hi.waiting q hq, writeRequest_get⟩
      shadows := fun _ => hi.shadows (by rw [hidle]; nofun)
      accepted := nofun
      answer := nofun }
  · cases h

/-- The device has the words sent, where the frame has one, and `usPreVal` is its value elsewhere. -/
theorem accept_inv (hi : Inv cur s) (h : sysStep cur s .accept = some s') : Inv cur s' := by
  simp only [sysStep] at h
  split at h
  · rename_i hreq
    cases h
    exact {
      scan := hi.scan
      waiting := hi.waiting
      frame := fun _ _ => hi.frame false hreq
      shadows := fun hne => absurd rfl hne
      accepted := fun _ i e p he ht => by rw [hi.shadows (by rw [hreq]; nofun) i e p he ht]
      answer := nofun }
  · cases h

theorem sendRead_inv {usRegAddr usNRegs : USHORT} (hi : Inv cur s)
    (h : sysStep cur s (.sendRead usRegAddr usNRegs) = some s') : Inv cur s' := by
  simp only [sysStep] at h
  split at h
  · rename_i hidle
    cases h
    exact hi.requested (by rw [hidle]; nofun) _ (.inr rfl)
  · cases h

theorem answer_inv (hi : Inv cur s) (h : sysStep cur s .answer = some s') : Inv cur s' := by
  simp only [sysStep] at h
  split at h
  · rename_i hreq
    cases h
    exact {
      scan := hi.scan
      waiting := hi.waiting
      frame := nofun
      shadows := fun _ => hi.shadows (by rw [hreq]; nofun)
      accepted := nofun
      answer := fun rcv hrcv k hk => by
        cases hrcv
        exact answerPDU_get _ _ hk }
  · cases h

theorem readDone_inv (hm : MapsEntries cur) (hi : Inv cur s) (h : sysStep cur s .readDone = some s') :
    Inv cur s' := by
  simp only [sysStep] at h
  split at h
  · rename_i rcv hreq
    cases h
    exact {
      scan := hi.scan
      waiting := hi.waiting
      frame := nofun
      shadows := fun _ => (readDone_spec hm (hi.shadows (by rw [hreq]; nofun)) (hi.answer rcv hreq)).1
      accepted := nofun
      answer := nofun }
  · cases h

/-- A write the device has accepted is not lost. -/
theorem lost_inv (hi : Inv cur s) (h : sysStep cur s .lost = some s') : Inv cur s' := by
  simp only [sysStep] at h
  split at h
  · rename_i hreq
    cases h
    exact hi.requested (by rw [hreq]; nofun) s.ucSndBuf (.inl rfl)
  · rename_i hreq
    cases h
    exact hi.requested (by rw [hreq]; nofun) s.ucSndBuf (.inl rfl)
  · cases h

/-- **One step keeps the invariant**, if it meets the condition. -/
theorem step_inv {ev : SysEvent} (hm : MapsEntries cur) (hi : Inv cur s) (hr : ValuesInRange cur s)
    (hok : WriteCurrent cur s ev) (h : sysStep cur s ev = some s') : Inv cur s' := by
  cases ev with
  | assign vars =>
    cases h
    exact ⟨hi.scan, hi.waiting, hi.frame, hi.shadows, hi.accepted, hi.answer⟩
  | scanStart x =>
    simp only [sysStep] at h
    split at h
    · cases h
      exact { hi with scan := fun _ hsc => Option.some.inj hsc ▸ scanOk_start x }
    · cases h
  | scanNext => exact scanNext_inv hi h
  | sendWrite => exact sendWrite_inv hi h
  | busy =>
    cases h
    exact { hi with waiting := nofun }
  | accept => exact accept_inv hi h
  | written => exact written_inv hm hi hr hok h
  | sendRead usRegAddr usNRegs => exact sendRead_inv hi h
  | answer => exact answer_inv hi h
  | readDone => exact readDone_inv hm hi h
  | lost => exact lost_inv hi h

/-- **One step**: it leads to agreement exactly when it meets the condition. -/
theorem writeCurrent_iff (hm : MapsEntries cur) (hi : Inv cur s) (hr : ValuesInRange cur s) (ev : SysEvent) :
    WriteCurrent cur s ev ↔ ∀ s', sysStep cur s ev = some s' → Agree cur s' := by
  refine ⟨fun hok s' h => (step_inv hm hi hr hok h).agree, ?_⟩
  intro h
  cases ev with
  | written =>
    intro hreq e he p w ht hw
    obtain ⟨i, he⟩ := List.mem_iff_getElem?.mp he
    obtain ⟨hvars, hpre⟩ := written_pre hm hi hr hreq he ht
    have hdev := hi.accepted hreq i e p he ht
    rw [hw] at hpre hdev
    rw [if_neg nofun] at hpre
    have hagree := h _ (by simp only [sysStep, hreq]; rfl) rfl i e p he ht
    dsimp only at hagree hpre
    rw [hvars, hpre] at hagree
    exact (hagree rfl).symm.trans hdev.symm
  | _ => trivial

theorem readKeeps_step (hm : MapsEntries cur) (hi : Inv cur s) (ev : SysEvent) : ReadKeeps cur s ev := by
  cases ev with
  | readDone =>
    intro s' h e _ p _ ho
    simp only [sysStep] at h
    split at h
    · rename_i rcv hreq
      cases h
      exact (readDone_spec hm (hi.shadows (by rw [hreq]; nofun)) (hi.answer rcv hreq)).2 p ho
    · cases h
  | _ => trivial

/-! ### Runs -/

/-- **The master and the device agree along a run exactly when every acknowledgement finds the values that
were sent**; then a read response never changes a variable the master has to write. -/
theorem agreement_iff {es : List SysEvent} (hm : MapsEntries cur) (h0 : Agreed cur s)
    (hr : Meets (sysStep cur) (fun s _ => ValuesInRange cur s) s es) :
    Safe (sysStep cur) (Agree cur) s es ∧ Meets (sysStep cur) (ReadKeeps cur) s es ↔
      Meets (sysStep cur) (WriteCurrent cur) s es := by
  have hI : ∀ s ev s', Inv cur s → ValuesInRange cur s → WriteCurrent cur s ev → sysStep cur s ev = some s' →
      Inv cur s' := fun _ _ _ hi hr hok h => step_inv hm hi hr hok h
  have hsafe : Safe (sysStep cur) (Agree cur) s es ↔ Meets (sysStep cur) (WriteCurrent cur) s es :=
    safe_iff_meets hI (fun _ ev hi hr _ => writeCurrent_iff hm hi hr ev) hr h0.inv h0.inv.agree
  refine ⟨fun h => hsafe.mp h.1, fun h => ⟨hsafe.mpr h, ?_⟩⟩
  exact Meets.imp hI (fun _ ev hi _ _ => readKeeps_step hm hi ev) hr h0.inv h

/-! ### One entry -/

/-- A table of one `uint16` entry at the address 3. -/
def oneEntry : sMBSlaveDevCommData where
  sMBRegHoldTable := ⟨[⟨3, 0, 1000, .uint16, .RW, 1, some 0⟩], 0, 9⟩
  pxDevDataMapIndex := some fun x => if x = 3 then some 0 else none

/-- All values are 0. -/
def zeroSys : Sys := ⟨⟨fun _ => 0, fun _ => 0⟩, fun _ => 0, fun _ => 0, .idle, none, none⟩

/-- The variable has the value `w`, and no other byte is set. -/
def only (w : USHORT) : Mem := store16 (fun _ => 0) 0 w

theorem oneEntry_get {i : ℕ} {e : sMasterRegHoldData} (h : oneEntry.sMBRegHoldTable.pvDataBuf[i]? = some e) :
    i = 0 ∧ e = ⟨3, 0, 1000, .uint16, .RW, 1, some 0⟩ := by
  cases i with
  | zero => exact ⟨rfl, (Option.some.inj h).symm⟩
  | succ i => cases h

theorem oneEntry_mem {e : sMasterRegHoldData} (h : e ∈ oneEntry.sMBRegHoldTable.pvDataBuf) :
    e = ⟨3, 0, 1000, .uint16, .RW, 1, some 0⟩ := List.mem_singleton.mp h

theorem mapsEntries_oneEntry : MapsEntries oneEntry where
  map i e h := by obtain ⟨rfl, rfl⟩ := oneEntry_get h; rfl
  addr x i e h := by
    obtain ⟨-, rfl⟩ := oneEntry_get (mem_of_map h)
    by_contra hx
    have hx' : ¬x = 3 := fun h => hx h.symm
    simp only [eMBMasterRegHoldingMap, oneEntry, if_neg hx'] at h
    cases h
  lower e h := by rw [oneEntry_mem h]; decide
  upper e h := by rw [oneEntry_mem h]; decide

theorem agreed_zeroSys : Agreed oneEntry zeroSys :=
  ⟨rfl, rfl, rfl, fun i e p h ht => by
    obtain ⟨rfl, rfl⟩ := oneEntry_get h
    cases ht.bound
    exact ⟨rfl, rfl⟩⟩

theorem valuesInRange_oneEntry {s : Sys} (h : load16 s.regs.vars 0 ≤ 1000) : ValuesInRange oneEntry s := by
  intro e he p ht
  rw [oneEntry_mem he] at ht ⊢
  cases ht.bound
  exact decide_eq_true ⟨BitVec.le_def.mpr (Nat.zero_le _), h⟩

/-- `WriteCurrent` for the one entry, as a test. -/
def currentOne (s : Sys) : SysEvent → Bool
  | .written => frameWord s.ucSndBuf 3 = some (load16 s.regs.vars 0)
  | _ => true

theorem writeCurrent_oneEntry {s : Sys} {ev : SysEvent} (h : currentOne s ev) : WriteCurrent oneEntry s ev := by
  cases ev with
  | written =>
    intro _ e he p w ht hw
    rw [oneEntry_mem he] at ht hw
    cases ht.bound
    exact Option.some.inj ((of_decide_eq_true h).symm.trans hw)
  | _ => trivial

/-- The application assigns 7, and the write scan brings it to the device. -/
def writeSeven : List SysEvent := [.assign (only 7), .scanStart true, .scanNext, .sendWrite, .accept, .written]

theorem agreement_writeSeven :
    Safe (sysStep oneEntry) (Agree oneEntry) zeroSys writeSeven ∧
      Meets (sysStep oneEntry) (ReadKeeps oneEntry) zeroSys writeSeven := by
  have hr : Meets (sysStep oneEntry) (fun s _ => load16 s.regs.vars 0 ≤ 1000) zeroSys writeSeven := by decide
  have hw : Meets (sysStep oneEntry) (fun s ev => currentOne s ev) zeroSys writeSeven := by decide
  exact (agreement_iff mapsEntries_oneEntry agreed_zeroSys (hr.mono fun _ _ => valuesInRange_oneEntry)).mpr
    (hw.mono fun _ _ => writeCurrent_oneEntry)

/-- **A value assigned while the write is under way is lost**: 7 is sent, the application assigns 9, and
the acknowledgement takes 9 for transmitted. -/
theorem agreement_fails :
    ¬Safe (sysStep oneEntry) (Agree oneEntry) zeroSys
      [.assign (only 7), .scanStart true, .scanNext, .sendWrite, .accept, .assign (only 9), .written] := by
  intro h
  have hend : (run (sysStep oneEntry) zeroSys
      [.assign (only 7), .scanStart true, .scanNext, .sendWrite, .accept, .assign (only 9), .written]).map
        (fun s => (s.request.isIdle, load16 s.regs.vars 0, s.regs.usPreVal 0, s.dev 3)) = some (true, 9, 9, 7) := by
    decide
  obtain ⟨s, hs, hv⟩ := Option.map_eq_some_iff.mp hend
  simp only [Prod.mk.injEq] at hv
  obtain ⟨hidle, hvar, hpre, hdev⟩ := hv
  have := h.run hs (Request.isIdle_iff.mp hidle) 0 _ 0 rfl ⟨rfl, by decide, Or.inl rfl, rfl⟩ (hvar.trans hpre.symm)
  rw [hvar] at this
  exact absurd (this.symm.trans hdev) (by decide)

end GreeIntense.Master

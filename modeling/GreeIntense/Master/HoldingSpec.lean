import GreeIntense.Master.Holding

/-!
# What the callback does to an entry

For an entry of 16 bits without a factor that the master may write (`Tracked`) a read leaves `usPreVal` as it is or
sets it to the word read, and an acknowledgement sets it to the value the variable has.  A write request is read
back from the send buffer by address (`frameWord`).
-/

namespace GreeIntense.Master

open Lib.Memory

/-- An entry of 16 bits without a factor that the master may write, with its variable. -/
structure Tracked (e : sMasterRegHoldData) (p : ℕ) : Prop where
  bound : e.pvValue = some p
  mode : e.ucAccessMode ≠ .RO
  type : e.ucDataType = .uint16 ∨ e.ucDataType = .int16
  mult : e.ucTmitMult = 1

/-- The map function sends the address of an entry to the entry and other addresses nowhere, and the
entries are in the address range of the table. -/
structure MapsEntries (cur : sMBSlaveDevCommData) : Prop where
  map : ∀ i e, cur.sMBRegHoldTable.pvDataBuf[i]? = some e → eMBMasterRegHoldingMap cur e.usAddr = some (i, e)
  addr : ∀ x i e, eMBMasterRegHoldingMap cur x = some (i, e) → e.usAddr = x
  lower : ∀ e ∈ cur.sMBRegHoldTable.pvDataBuf, cur.sMBRegHoldTable.usStartAddr ≤ e.usAddr
  upper : ∀ e ∈ cur.sMBRegHoldTable.pvDataBuf, e.usAddr ≤ cur.sMBRegHoldTable.usEndAddr

variable {cur : sMBSlaveDevCommData} {e e' : sMasterRegHoldData} {i j p n : ℕ} {a x w : USHORT} {r : RegHolds}
  {mode : eMasterRunMode} {buf : Mem}

theorem mem_of_map (h : eMBMasterRegHoldingMap cur x = some (i, e)) :
    cur.sMBRegHoldTable.pvDataBuf[i]? = some e := by
  unfold eMBMasterRegHoldingMap at h
  split at h
  · cases h
  · split at h
    · cases h
    · obtain ⟨e', he, hi⟩ := Option.map_eq_some_iff.mp h
      cases hi
      exact he

theorem Tracked.value (h : Tracked e p) (vars : Mem) : value e.ucDataType vars p = load16 vars p := by
  obtain ht | ht := h.type <;> rw [ht] <;> rfl

theorem Tracked.cast (h : Tracked e p) (w : USHORT) : cast e.ucDataType w = w := by
  obtain ht | ht := h.type <;> rw [ht] <;> rfl

theorem Tracked.assign (h : Tracked e p) (vars : Mem) (w : USHORT) :
    assign e.ucDataType vars p w = store16 vars p w := by
  obtain ht | ht := h.type <;> rw [ht] <;> rfl

theorem Tracked.readScaled (h : Tracked e p) (w : USHORT) : readScaled e w = w :=
  if_neg fun hm => hm.2 h.mult

/-! ### The loop after an acknowledgement -/

@[simp] theorem regHoldWritten_vars : (regHoldWritten i e r).vars = r.vars := by
  unfold regHoldWritten
  split
  · rfl
  · split
    · dsimp only
      split <;> rfl
    · rfl

theorem regHoldWritten_ne (h : j ≠ i) : (regHoldWritten i e r).usPreVal j = r.usPreVal j := by
  unfold regHoldWritten
  split
  · rfl
  · split
    · dsimp only
      split
      · exact RegHolds.setPre_ne _ _ h
      · rfl
    · rfl

/-- One pass of the loop, with the map. -/
def writtenAt (cur : sMBSlaveDevCommData) (x : USHORT) (r : RegHolds) : RegHolds :=
  match eMBMasterRegHoldingMap cur x with
  | some (i, e) => regHoldWritten i e r
  | none => r

theorem regHoldWrittenLoop_succ :
    regHoldWrittenLoop cur (n + 1) a r = regHoldWrittenLoop cur n (a + 1) (writtenAt cur a r) := rfl

@[simp] theorem writtenAt_vars : (writtenAt cur x r).vars = r.vars := by
  unfold writtenAt
  split <;> simp

@[simp] theorem regHoldWrittenLoop_vars : (regHoldWrittenLoop cur n a r).vars = r.vars := by
  induction n generalizing a r with
  | zero => rfl
  | succ n ih => rw [regHoldWrittenLoop_succ, ih, writtenAt_vars]

theorem writtenAt_ne (hm : MapsEntries cur) (he : cur.sMBRegHoldTable.pvDataBuf[j]? = some e) (hx : e.usAddr ≠ x) :
    (writtenAt cur x r).usPreVal j = r.usPreVal j := by
  unfold writtenAt
  split
  · rename_i i e' hmap
    refine regHoldWritten_ne fun hji => hx ?_
    have he' := mem_of_map hmap
    rw [← hji, he] at he'
    cases he'
    exact hm.addr _ _ _ hmap
  · rfl

theorem regHoldWrittenLoop_off (hm : MapsEntries cur) (he : cur.sMBRegHoldTable.pvDataBuf[i]? = some e)
    (h : ∀ k < n, e.usAddr ≠ a + BitVec.ofNat 16 k) :
    (regHoldWrittenLoop cur n a r).usPreVal i = r.usPreVal i := by
  induction n generalizing a r with
  | zero => rfl
  | succ n ih =>
    rw [regHoldWrittenLoop_succ, ih, writtenAt_ne hm he]
    · simpa using h 0 (by omega)
    · intro k hk
      rw [add_ofNat_succ]
      exact h (k + 1) (by omega)

/-- The previous value of an entry after its acknowledgement: the value of its variable, if that is in range. -/
def ackedPre (i : ℕ) (e : sMasterRegHoldData) (r : RegHolds) : USHORT :=
  match e.pvValue with
  | none => r.usPreVal i
  | some p =>
    if e.ucAccessMode ≠ .RO ∧ inRange e (value e.ucDataType r.vars p) then value e.ucDataType r.vars p
    else r.usPreVal i

theorem regHoldWritten_same : (regHoldWritten i e r).usPreVal i = ackedPre i e r := by
  cases hp : e.pvValue with
  | none => simp only [regHoldWritten, ackedPre, hp]
  | some p =>
    simp only [regHoldWritten, ackedPre, hp]
    by_cases hro : e.ucAccessMode ≠ .RO
    · rw [if_pos hro]
      by_cases hr : inRange e (value e.ucDataType r.vars p)
      · rw [if_pos hr, if_pos ⟨hro, hr⟩, RegHolds.setPre_same]
      · rw [if_neg hr, if_neg fun h => hr h.2]
    · rw [if_neg hro, if_neg fun h => hro h.1]

theorem ackedPre_twice {r' : RegHolds} (hv : r'.vars = r.vars) (hp : r'.usPreVal i = r.usPreVal i ∨
    r'.usPreVal i = ackedPre i e r) : ackedPre i e r' = ackedPre i e r := by
  cases hpv : e.pvValue with
  | none =>
    simp only [ackedPre, hpv] at hp ⊢
    exact hp.elim id id
  | some p =>
    simp only [ackedPre, hpv, hv] at hp ⊢
    split
    · rfl
    · rename_i hno
      rw [if_neg hno] at hp
      exact hp.elim id id

theorem writtenAt_pre (he : cur.sMBRegHoldTable.pvDataBuf[i]? = some e) :
    (writtenAt cur x r).usPreVal i = r.usPreVal i ∨ (writtenAt cur x r).usPreVal i = ackedPre i e r := by
  unfold writtenAt
  split
  · rename_i j e' hmap
    by_cases hij : i = j
    · subst hij
      have he' := mem_of_map hmap
      rw [he] at he'
      cases he'
      exact Or.inr regHoldWritten_same
    · exact Or.inl (regHoldWritten_ne hij)
  · exact Or.inl rfl

/-- An entry that has its previous value from an acknowledgement keeps it. -/
theorem regHoldWrittenLoop_acked (he : cur.sMBRegHoldTable.pvDataBuf[i]? = some e)
    (h : r.usPreVal i = ackedPre i e r) : (regHoldWrittenLoop cur n a r).usPreVal i = ackedPre i e r := by
  induction n generalizing a r with
  | zero => exact h
  | succ n ih =>
    have hpre : (writtenAt cur a r).usPreVal i = ackedPre i e r := by
      rcases writtenAt_pre he with hkeep | hset
      · rw [hkeep, h]
      · exact hset
    have hacked : ackedPre i e (writtenAt cur a r) = ackedPre i e r := ackedPre_twice writtenAt_vars (Or.inr hpre)
    rw [regHoldWrittenLoop_succ, ih (by rw [hpre, hacked]), hacked]

theorem regHoldWrittenLoop_mapped {k : ℕ} (hk : k < n)
    (hmap : eMBMasterRegHoldingMap cur (a + BitVec.ofNat 16 k) = some (i, e)) :
    (regHoldWrittenLoop cur n a r).usPreVal i = ackedPre i e r := by
  have he := mem_of_map hmap
  induction n generalizing a k r with
  | zero => omega
  | succ n ih =>
    have hacked : ackedPre i e (writtenAt cur a r) = ackedPre i e r := by
      apply ackedPre_twice writtenAt_vars
      exact writtenAt_pre he
    rw [regHoldWrittenLoop_succ]
    cases k with
    | zero =>
      rw [add_ofNat_zero] at hmap
      have hat : (writtenAt cur a r).usPreVal i = ackedPre i e r := by
        rw [writtenAt, hmap]
        exact regHoldWritten_same
      rw [regHoldWrittenLoop_acked he (by rw [hat, hacked]), hacked]
    | succ k =>
      rw [← add_ofNat_succ] at hmap
      rw [ih (by omega) hmap, hacked]

/-- **After an acknowledgement** the entries written have their new previous value. -/
theorem regHoldWrittenLoop_pre (hm : MapsEntries cur) (he : cur.sMBRegHoldTable.pvDataBuf[i]? = some e)
    (h : ∃ k < n, e.usAddr = a + BitVec.ofNat 16 k) :
    (regHoldWrittenLoop cur n a r).usPreVal i = ackedPre i e r := by
  obtain ⟨k, hk, haddr⟩ := h
  apply regHoldWrittenLoop_mapped hk
  rw [← haddr]
  exact hm.map i e he

theorem regHoldWrittenLoop_on (hm : MapsEntries cur) (he : cur.sMBRegHoldTable.pvDataBuf[i]? = some e)
    (ht : Tracked e p) (hr : inRange e (load16 r.vars p)) (h : ∃ k < n, e.usAddr = a + BitVec.ofNat 16 k) :
    (regHoldWrittenLoop cur n a r).usPreVal i = load16 r.vars p := by
  rw [regHoldWrittenLoop_pre hm he h, ackedPre, ht.bound]
  dsimp only
  rw [ht.value, if_pos ⟨ht.mode, hr⟩]

/-! ### The loop after a read -/

theorem regHoldRead_ne (h : j ≠ i) : (regHoldRead mode i e w r).usPreVal j = r.usPreVal j := by
  unfold regHoldRead
  split
  · rfl
  · split
    · dsimp only
      split
      · split <;> exact RegHolds.setPre_ne _ _ h
      · rfl
    · rfl

/-- A read leaves the previous value or sets it to the word read, and assigns the variable at most when
it has the previous value. -/
theorem regHoldRead_tracked (h : Tracked e p) :
    (regHoldRead .STATE_SCAN_DEV i e w r).usPreVal i = r.usPreVal i ∧
        (regHoldRead .STATE_SCAN_DEV i e w r).vars = r.vars ∨
      (regHoldRead .STATE_SCAN_DEV i e w r).usPreVal i = w ∧
        ((regHoldRead .STATE_SCAN_DEV i e w r).vars = r.vars ∨
          load16 r.vars p = r.usPreVal i ∧ (regHoldRead .STATE_SCAN_DEV i e w r).vars = store16 r.vars p w) := by
  by_cases hwo : e.ucAccessMode = .WO
  · simp [regHoldRead, h.bound, hwo]
  have hrw : e.ucAccessMode = .RW := by
    cases hm : e.ucAccessMode with
    | RW => rfl
    | WO => exact absurd hm hwo
    | RO => exact absurd hm h.mode
  have h8 : e.ucDataType ≠ .int8 := by
    obtain ht | ht := h.type <;> rw [ht] <;> decide
  simp only [regHoldRead, h.bound, hrw, h.readScaled, h.value, h.cast, h.assign, h8, ne_eq, reduceCtorEq,
    not_false_eq_true, if_true, true_and, and_true, if_false]
  split
  · split
    · exact Or.inr ⟨RegHolds.setPre_same _ _ _, Or.inl rfl⟩
    · rename_i heq
      exact Or.inr ⟨RegHolds.setPre_same _ _ _, Or.inr ⟨not_not.mp heq, rfl⟩⟩
  · exact Or.inl ⟨rfl, rfl⟩

theorem assign_off {t : DataType} {vars : Mem} {b : ℕ} (h : b < p ∨ p + t.size ≤ b) (w : USHORT) :
    assign t vars p w b = vars b := by
  cases t with
  | int16 | uint16 =>
    simp only [DataType.size] at h
    exact store16_ne _ _ _ _ (by omega) (by omega)
  | int8 | uint8 =>
    simp only [DataType.size] at h
    exact store8_ne _ _ _ _ (by omega)
  | other => rfl

theorem regHoldRead_off {b : ℕ} (h : ∀ p, e.pvValue = some p → b < p ∨ p + e.ucDataType.size ≤ b) :
    (regHoldRead mode i e w r).vars b = r.vars b := by
  unfold regHoldRead
  split
  · rfl
  · rename_i p hp
    split
    · dsimp only
      split
      · split
        · rfl
        · exact assign_off (h p hp) _
      · rfl
    · rfl

/-- One pass of the loop, with the map. -/
def readAt (cur : sMBSlaveDevCommData) (mode : eMasterRunMode) (x w : USHORT) (r : RegHolds) : RegHolds :=
  match eMBMasterRegHoldingMap cur x with
  | some (i, e) => regHoldRead mode i e w r
  | none => r

theorem regHoldReadLoop_succ {q : ℕ} :
    regHoldReadLoop cur mode buf (n + 1) a q r =
      regHoldReadLoop cur mode buf n (a + 1) (q + 2) (readAt cur mode a (loadBE buf q) r) := rfl

/-- The previous value of every tracked entry is the value `dev` gives for its address. -/
def Shadows (cur : sMBSlaveDevCommData) (dev : USHORT → USHORT) (r : RegHolds) : Prop :=
  ∀ i e p, cur.sMBRegHoldTable.pvDataBuf[i]? = some e → Tracked e p → r.usPreVal i = dev e.usAddr

variable {dev : USHORT → USHORT}

theorem readAt_shadows (hm : MapsEntries cur) (h : Shadows cur dev r) :
    Shadows cur dev (readAt cur .STATE_SCAN_DEV x (dev x) r) := by
  intro j e p he ht
  unfold readAt
  split
  · rename_i i e' hmap
    by_cases hji : j = i
    · subst hji
      have he' := mem_of_map hmap
      rw [he] at he'
      cases he'
      rcases regHoldRead_tracked ht with ⟨h1, -⟩ | ⟨h1, -⟩
      · rw [h1, h j e p he ht]
      · rw [h1, hm.addr _ _ _ hmap]
    · rw [regHoldRead_ne hji, h j e p he ht]
  · exact h j e p he ht

/-- No entry of another kind has a variable in the two bytes at `p`. -/
def Own (cur : sMBSlaveDevCommData) (p : ℕ) : Prop :=
  ∀ e ∈ cur.sMBRegHoldTable.pvDataBuf, ∀ p', e.pvValue = some p' → ¬Tracked e p' →
    p + 2 ≤ p' ∨ p' + e.ucDataType.size ≤ p

theorem readAt_keeps (hm : MapsEntries cur) (h : Shadows cur dev r) (ho : Own cur p) :
    load16 (readAt cur .STATE_SCAN_DEV x (dev x) r).vars p = load16 r.vars p := by
  unfold readAt
  split
  · rename_i i e hmap
    have he := mem_of_map hmap
    by_cases ht : ∃ q, Tracked e q
    · -- the entry's own variable gets the value it has
      obtain ⟨q, ht⟩ := ht
      rcases regHoldRead_tracked ht with ⟨-, hv⟩ | ⟨-, hv | ⟨hq, hv⟩⟩
      · rw [hv]
      · rw [hv]
      · rw [hv, ← hm.addr _ _ _ hmap, ← h i e q he ht, ← hq, store16_load16]
    · have hoff (b : ℕ) (hb : b = p ∨ b = p + 1) : (regHoldRead .STATE_SCAN_DEV i e (dev x) r).vars b = r.vars b := by
        apply regHoldRead_off
        intro q hq
        have := ho e (List.mem_of_getElem? he) q hq fun h => ht ⟨q, h⟩
        omega
      rw [load16, load16, hoff p (Or.inl rfl), hoff (p + 1) (Or.inr rfl)]
  · rfl

/-- **After a read of the device's values** the previous values are still those of the device, and no
variable has changed that is the master's to write. -/
theorem regHoldReadLoop_spec {q : ℕ} (hm : MapsEntries cur) (h : Shadows cur dev r)
    (hw : ∀ k < n, loadBE buf (q + 2 * k) = dev (a + BitVec.ofNat 16 k)) :
    Shadows cur dev (regHoldReadLoop cur .STATE_SCAN_DEV buf n a q r) ∧
      ∀ p, Own cur p → load16 (regHoldReadLoop cur .STATE_SCAN_DEV buf n a q r).vars p = load16 r.vars p := by
  induction n generalizing a q r with
  | zero => exact ⟨h, fun _ _ => rfl⟩
  | succ n ih =>
    have h0 : loadBE buf q = dev a := by simpa using hw 0 (by omega)
    rw [regHoldReadLoop_succ, h0]
    obtain ⟨h1, h2⟩ := ih (a := a + 1) (q := q + 2) (readAt_shadows (x := a) hm h) fun k hk => by
      rw [show q + 2 + 2 * k = q + 2 * (k + 1) by omega, add_ofNat_succ]
      exact hw (k + 1) (by omega)
    exact ⟨h1, fun p ho => (h2 p ho).trans (readAt_keeps hm h ho)⟩

/-! ### Requests in the send buffer -/

/-- The word a write request has for an address. -/
def frameWord (ucSndBuf : Mem) (x : USHORT) : Option USHORT :=
  if (x - loadBE ucSndBuf 1).toNat < (loadBE ucSndBuf 3).toNat then
    some (loadBE ucSndBuf (6 + 2 * (x - loadBE ucSndBuf 1).toNat))
  else none

theorem writeRequest_get {ws : List USHORT} :
    let buf' := eMBMasterReqWriteMultipleHoldingRegister a ws buf
    loadBE buf' 1 = a ∧ loadBE buf' 3 = BitVec.ofNat 16 ws.length ∧ buf' 5 = lo (2 * BitVec.ofNat 16 ws.length) := by
  have h : Holds (eMBMasterReqWriteMultipleHoldingRegister a ws buf) 0 _ := holds_storeList
  simp only [holds_cons, Nat.zero_add, Nat.reduceAdd] at h
  obtain ⟨-, h1, h2, h3, h4, h5, -⟩ := h
  exact ⟨by rw [loadBE, h1, h2, append_hi_lo], by rw [loadBE, h3, h4, append_hi_lo], h5⟩

end GreeIntense.Master

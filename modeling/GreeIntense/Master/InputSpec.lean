import GreeIntense.Master.Factor
import GreeIntense.Master.Outcome

/-!
# What a response assigns to the input registers (`mbfuncinput_m.c`)

The callback of the input registers assigns a word of a response where its value is within the limits of the entry, as
numbers of the entry's type; but it compares an `int16` or `int8` value without its sign, a `uint8` one as a word, and
it goes through its loop when the range is refused, too.

* `regInLoop_at`, `regInLoop_off`: the variables after the loop, those of the range and the others;
* `judged_iff`: for which words the comparison is that of the type;
* `inputs_iff`: the callback assigns what it should exactly where it judges the words of the range rightly, and a range
  that it refuses has no word that it takes.
-/

namespace GreeIntense.Master

open Lib.Memory

section Loop

variable {cur : sMBSlaveDevInputs} {e : sMasterRegInData} {a n w : USHORT} {buf vars : Mem} {q p b : ℕ}

/-- The map function sends the address of an entry to the entry and other addresses nowhere, and the variables of
entries of different addresses do not overlap. -/
structure MapsInputs (cur : sMBSlaveDevInputs) : Prop where
  map : ∀ e ∈ cur.sMBRegInTable.pvDataBuf, eMBMasterRegInMap cur e.usAddr = some e
  addr : ∀ x e, eMBMasterRegInMap cur x = some e → e.usAddr = x
  apart : ∀ e ∈ cur.sMBRegInTable.pvDataBuf, ∀ e' ∈ cur.sMBRegInTable.pvDataBuf, e.usAddr ≠ e'.usAddr →
    ∀ p p', e.pvValue = some p → e'.pvValue = some p' →
      p + e.ucDataType.size ≤ p' ∨ p' + e'.ucDataType.size ≤ p

theorem mem_of_inMap {x : USHORT} (h : eMBMasterRegInMap cur x = some e) : e ∈ cur.sMBRegInTable.pvDataBuf := by
  unfold eMBMasterRegInMap at h
  split at h
  · cases h
  · split at h
    · cases h
    · exact List.mem_of_getElem? h

/-- The register is one of the `n` from `a` on. -/
def Requested (a n x : USHORT) : Prop := (x - a).toNat < n.toNat

instance (a n x : USHORT) : Decidable (Requested a n x) := inferInstanceAs (Decidable (_ < _))

/-- Its word in a response whose words stand at `q`. -/
def responseWord (buf : Mem) (q : ℕ) (a x : USHORT) : USHORT := loadBE buf (q + 2 * (x - a).toNat)

/-- The word is one that the callback assigns to the variable. -/
def Takes (e : sMasterRegInData) (w : USHORT) : Prop :=
  e.ucAccessMode ≠ .WO ∧ regInInRange e (regInScaled e w) = true

instance (e : sMasterRegInData) (w : USHORT) : Decidable (Takes e w) := inferInstanceAs (Decidable (_ ∧ _))

theorem regInAssign_eq (hp : e.pvValue = some p) (w : USHORT) (vars : Mem) :
    regInAssign e w vars = if Takes e w then assign e.ucDataType vars p (regInScaled e w) else vars := by
  unfold regInAssign Takes
  rw [hp]
  by_cases hwo : e.ucAccessMode = .WO
  · simp [hwo]
  · simp [hwo]

theorem regInAssign_leaves (h : ∀ p, e.pvValue = some p → b < p ∨ p + e.ucDataType.size ≤ b) (w : USHORT) :
    Leaves (regInAssign e w) b := by
  intro vars
  cases hp : e.pvValue with
  | none =>
    unfold regInAssign
    rw [hp]
  | some p =>
    rw [regInAssign_eq hp]
    split
    · exact assign_off (h p hp) _
    · rfl

theorem inputStores_leaves (hm : MapsInputs cur) (he : e ∈ cur.sMBRegInTable.pvDataBuf) (hp : e.pvValue = some p)
    (hb : p ≤ b) (hb' : b < p + e.ucDataType.size) {k : ℕ} (hk : e.usAddr ≠ a + BitVec.ofNat 16 k) :
    Leaves (inputStores cur buf a q k) b := by
  unfold inputStores regInAt
  cases hmap : eMBMasterRegInMap cur (a + BitVec.ofNat 16 k) with
  | none => exact fun _ => rfl
  | some e' =>
    have haddr := hm.addr _ _ hmap
    refine regInAssign_leaves (fun p' hp' => ?_) _
    have := hm.apart e he e' (mem_of_inMap hmap) (fun h => hk (h.trans haddr)) p p' hp hp'
    omega

/-- **The variable of a register of the range** after the loop. -/
theorem regInLoop_at (hm : MapsInputs cur) (he : e ∈ cur.sMBRegInTable.pvDataBuf) (hp : e.pvValue = some p)
    (hb : p ≤ b) (hb' : b < p + e.ucDataType.size) (hr : Requested a n e.usAddr) :
    regInLoop cur buf n.toNat a q vars b = regInAssign e (responseWord buf q a e.usAddr) vars b := by
  have hpass : inputStores cur buf a q (e.usAddr - a).toNat = regInAssign e (responseWord buf q a e.usAddr) := by
    unfold inputStores regInAt
    rw [add_sub_toNat, hm.map e he]
    rfl
  have hstores : Leaves (inputStores cur buf a q (e.usAddr - a).toNat) b ∨
      ∃ c, Writes (inputStores cur buf a q (e.usAddr - a).toNat) b c := regInAt_stores _ _ b
  rw [regInLoop_eq, storeRun_at hr hstores fun k hk hkj => ?_, hpass]
  exact inputStores_leaves hm he hp hb hb' fun hx => hkj (sub_toNat_of_lt hx hk).symm

theorem regInLoop_off (hm : MapsInputs cur) (he : e ∈ cur.sMBRegInTable.pvDataBuf) (hp : e.pvValue = some p)
    (hb : p ≤ b) (hb' : b < p + e.ucDataType.size) (hr : ¬Requested a n e.usAddr) :
    regInLoop cur buf n.toNat a q vars b = vars b := by
  rw [regInLoop_eq]
  refine storeRun_leaves fun k hk => inputStores_leaves hm he hp hb hb' fun hx => hr ?_
  rw [Requested, sub_toNat_of_lt hx hk]
  exact hk

theorem value_congr {t : DataType} {m m' : Mem} (h : ∀ b, p ≤ b → b < p + t.size → m b = m' b) :
    value t m p = value t m' p := by
  have h0 : m p = m' p := h p le_rfl (Nat.lt_add_of_pos_right t.size_pos)
  cases t with
  | uint8 | int8 => rw [value, value, h0]
  | uint16 | int16 | other =>
    have h1 : m (p + 1) = m' (p + 1) := h (p + 1) (by omega) (by simp [DataType.size])
    rw [value, value, load16, load16, h0, h1]

theorem Takes.type (h : Takes e w) : e.ucDataType ≠ .other := by
  intro ht
  have := h.2
  rw [regInInRange, ht] at this
  cases this

/-- **The number of the variable** of a register of the range after the loop. -/
theorem number_regInLoop (hm : MapsInputs cur) (he : e ∈ cur.sMBRegInTable.pvDataBuf) (hp : e.pvValue = some p)
    (hr : Requested a n e.usAddr) :
    number e.ucDataType (value e.ucDataType (regInLoop cur buf n.toNat a q vars) p) =
      if Takes e (responseWord buf q a e.usAddr) then
        number e.ucDataType (regInScaled e (responseWord buf q a e.usAddr))
      else number e.ucDataType (value e.ucDataType vars p) := by
  have hval : value e.ucDataType (regInLoop cur buf n.toNat a q vars) p =
      value e.ucDataType (regInAssign e (responseWord buf q a e.usAddr) vars) p :=
    value_congr fun b hb hb' => regInLoop_at hm he hp hb hb' hr
  rw [hval, regInAssign_eq hp]
  by_cases ht : Takes e (responseWord buf q a e.usAddr)
  · rw [if_pos ht, if_pos ht, value_assign ht.type, number_cast]
  · rw [if_neg ht, if_neg ht]

theorem regInLoop_self (hm : MapsInputs cur)
    (h : ∀ e ∈ cur.sMBRegInTable.pvDataBuf, Requested a n e.usAddr → e.pvValue.isSome →
      ¬Takes e (responseWord buf q a e.usAddr)) :
    regInLoop cur buf n.toNat a q vars = vars := by
  funext b
  rw [regInLoop_eq]
  refine storeRun_leaves fun k hk => ?_
  unfold inputStores regInAt
  cases hmap : eMBMasterRegInMap cur (a + BitVec.ofNat 16 k) with
  | none => exact fun _ => rfl
  | some e =>
    have hsub : (e.usAddr - a).toNat = k := sub_toNat_of_lt (hm.addr _ _ hmap) hk
    have hr : Requested a n e.usAddr := by rw [Requested, hsub]; exact hk
    intro vars
    show regInAssign e (loadBE buf (q + 2 * k)) vars b = vars b
    cases hp : e.pvValue with
    | none =>
      unfold regInAssign
      rw [hp]
    | some p =>
      have ht := h e (mem_of_inMap hmap) hr (by rw [hp]; rfl)
      rw [responseWord, hsub] at ht
      rw [regInAssign_eq hp, if_neg ht]

/-- Some values of the variables are changed by a word that is taken. -/
theorem exists_changed (hm : MapsInputs cur) (he : e ∈ cur.sMBRegInTable.pvDataBuf) (hp : e.pvValue = some p)
    (hr : Requested a n e.usAddr) (ht : Takes e (responseWord buf q a e.usAddr)) :
    ∃ vars, regInLoop cur buf n.toNat a q vars ≠ vars := by
  obtain ⟨u, hu⟩ := exists_number_ne e.ucDataType
    (number e.ucDataType (regInScaled e (responseWord buf q a e.usAddr)))
  refine ⟨assign e.ucDataType (fun _ => 0) p u, fun hsame => hu ?_⟩
  have hnum := congrArg (fun m => number e.ucDataType (value e.ucDataType m p)) hsame
  rw [number_regInLoop hm he hp hr, if_pos ht, value_assign ht.type, number_cast] at hnum
  exact hnum.symm

end Loop

/-! ### The words that are taken -/

section Judged

variable {e : sMasterRegInData} {w : USHORT}

/-- The value is within the limits of the entry. -/
abbrev sMasterRegInData.Within (e : sMasterRegInData) (z : ℤ) : Prop :=
  Between e.ucDataType e.usMinVal e.usMaxVal z

/-- The word is compared as its type says: an `int16` word, or the low byte of an `int8` one, is not a negative number
within the limits, and a `uint8` word is between the limits as words exactly where the low bytes are. -/
def Judged (e : sMasterRegInData) (w : USHORT) : Prop :=
  match e.ucDataType with
  | .int16 => 0 ≤ w.toInt ∨ ¬e.Within w.toInt
  | .int8 => 0 ≤ (lo w).toInt ∨ ¬e.Within (lo w).toInt
  | .uint8 => (e.usMinVal ≤ w ∧ w ≤ e.usMaxVal) ↔ (lo e.usMinVal ≤ lo w ∧ lo w ≤ lo e.usMaxVal)
  | _ => True

instance (e : sMasterRegInData) (w : USHORT) : Decidable (Judged e w) := by
  unfold Judged
  split <;> infer_instance

/-- A word compared without its sign with signed limits: as its number, unless this is a negative one in them. -/
theorem unsigned_within_iff {k : ℕ} (x min max : BitVec k) :
    0 ≤ x.toInt ∨ ¬(min.toInt ≤ x.toInt ∧ x.toInt ≤ max.toInt) ↔
      ((min.toInt ≤ x.toNat ∧ (x.toNat : ℤ) ≤ max.toInt) ↔ min.toInt ≤ x.toInt ∧ x.toInt ≤ max.toInt) := by
  have hmax : 2 * max.toInt < (2 ^ k : ℕ) := by exact_mod_cast max.two_mul_toInt_lt
  by_cases hneg : 0 ≤ x.toInt
  · have hsmall : ¬2 ^ k ≤ 2 * x.toNat := fun h => absurd (BitVec.toInt_neg_iff.mpr h) (not_lt.mpr hneg)
    have hnat : (x.toNat : ℤ) = x.toInt := (BitVec.toInt_eq_toNat_of_lt (by omega)).symm
    simp only [hneg, true_or, hnat]
  · -- a negative number, read without its sign, is above every limit
    have hbig : ¬(x.toNat : ℤ) ≤ max.toInt := by
      have := BitVec.toInt_neg_iff.mp (not_le.mp hneg)
      omega
    simp only [hneg, false_or, hbig, and_false, false_iff]

/-- **The comparison is that of the type** exactly where the word is judged. -/
theorem judged_iff (ht : e.ucDataType ≠ .other) :
    Judged e w ↔ (regInInRange e w = true ↔ e.Within (number e.ucDataType w)) := by
  unfold Judged regInInRange sMasterRegInData.Within Between
  cases h : e.ucDataType with
  | other => exact absurd h ht
  | uint16 => simp [number, BitVec.le_def]
  | uint8 => simp [number, BitVec.le_def]
  | int16 =>
    simp only [number, decide_eq_true_eq]
    exact unsigned_within_iff w e.usMinVal e.usMaxVal
  | int8 =>
    simp only [number, decide_eq_true_eq]
    exact unsigned_within_iff (lo w) (lo e.usMinVal) (lo e.usMaxVal)

end Judged

/-! ### The callback -/

section Callback

variable (cur : sMBSlaveDevInputs) (mode : eMasterRunMode) (buf : Mem) (q : ℕ) (a n : USHORT)

/-- What the callback should do to the variables: a range that is refused leaves all of them; else a register of the
range gets the number of its word where this is within the limits, and keeps its own otherwise, and the other registers
keep theirs. -/
structure InputRight (vars : Mem) : Prop where
  refused : (eMBMasterRegInputCB cur mode buf q (a + 1) n vars).1 = .MB_ENOREG →
    (eMBMasterRegInputCB cur mode buf q (a + 1) n vars).2 = vars
  assigned : (eMBMasterRegInputCB cur mode buf q (a + 1) n vars).1 ≠ .MB_ENOREG → InputScanned mode →
    ∀ e ∈ cur.sMBRegInTable.pvDataBuf, ∀ p, e.pvValue = some p → e.ucAccessMode ≠ .WO → e.ucDataType ≠ .other →
      e.ucTmitMult = 0 ∨ e.ucTmitMult = 1 → Requested a n e.usAddr →
        number e.ucDataType (value e.ucDataType (eMBMasterRegInputCB cur mode buf q (a + 1) n vars).2 p) =
          if e.Within (number e.ucDataType (responseWord buf q a e.usAddr)) then
            number e.ucDataType (responseWord buf q a e.usAddr)
          else number e.ucDataType (value e.ucDataType vars p)
  frame : (eMBMasterRegInputCB cur mode buf q (a + 1) n vars).1 ≠ .MB_ENOREG →
    ∀ e ∈ cur.sMBRegInTable.pvDataBuf, ∀ p, e.pvValue = some p → ¬Requested a n e.usAddr → ∀ b, p ≤ b →
      b < p + e.ucDataType.size → (eMBMasterRegInputCB cur mode buf q (a + 1) n vars).2 b = vars b

/-- A range that is refused has no word that is taken, and the words of another are judged as their types say. -/
structure InputOk : Prop where
  refused : InputScanned mode → ¬InputRange cur a n → ∀ e ∈ cur.sMBRegInTable.pvDataBuf, Requested a n e.usAddr →
    e.pvValue.isSome → ¬Takes e (responseWord buf q a e.usAddr)
  judged : InputScanned mode → InputRange cur a n → ∀ e ∈ cur.sMBRegInTable.pvDataBuf, Requested a n e.usAddr →
    e.pvValue.isSome → e.ucAccessMode ≠ .WO → e.ucDataType ≠ .other → e.ucTmitMult = 0 ∨ e.ucTmitMult = 1 →
      Judged e (responseWord buf q a e.usAddr)

variable {cur mode buf q a n}

/-- Without a factor a word is taken as it is compared. -/
theorem takes_iff {e : sMasterRegInData} (w : USHORT) (hwo : e.ucAccessMode ≠ .WO)
    (hm : e.ucTmitMult = 0 ∨ e.ucTmitMult = 1) : (Takes e w ↔ regInInRange e w = true) ∧ regInScaled e w = w := by
  have hscaled : regInScaled e w = w := if_neg fun h => hm.elim h.1 h.2
  rw [Takes, hscaled]
  exact ⟨and_iff_right hwo, rfl⟩

theorem regInputCB_fst (hmode : InputScanned mode) (hne : cur.sMBRegInTable.pvDataBuf ≠ []) (vars : Mem) :
    (eMBMasterRegInputCB cur mode buf q (a + 1) n vars).1 = .MB_ENOREG ↔ ¬InputRange cur a n := by
  have hok : (eMBMasterRegInputCB cur mode buf q (a + 1) n vars).1 = .MB_ENOERR ↔ InputRange cur a n :=
    (regInputCB_eq hmode hne).2
  rw [← hok]
  unfold eMBMasterRegInputCB
  split
  · simp
  · split
    · simp
    · dsimp only
      split <;> simp

section Scanned

variable (hm : MapsInputs cur) (hmode : InputScanned mode) (hne : cur.sMBRegInTable.pvDataBuf ≠ [])

include hm hmode hne

theorem inputs_of_range (hrange : InputRange cur a n) :
    (∀ vars, InputRight cur mode buf q a n vars) ↔ InputOk cur mode buf q a n := by
  have hloop (vars : Mem) : (eMBMasterRegInputCB cur mode buf q (a + 1) n vars).2 =
      regInLoop cur buf n.toNat a q vars := (regInputCB_eq hmode hne).1
  have hok (vars : Mem) : (eMBMasterRegInputCB cur mode buf q (a + 1) n vars).1 ≠ .MB_ENOREG :=
    fun h => (regInputCB_fst hmode hne vars).mp h hrange
  constructor
  · intro h
    refine ⟨fun _ hno => absurd hrange hno, fun _ _ e he hr hp hwo ht hmult => ?_⟩
    obtain ⟨p, hp⟩ := Option.isSome_iff_exists.mp hp
    obtain ⟨htakes, hscaled⟩ := takes_iff (responseWord buf q a e.usAddr) hwo hmult
    rw [judged_iff ht, ← htakes]
    -- the variable holds another number before
    obtain ⟨u, hu⟩ := exists_number_ne e.ucDataType (number e.ucDataType (responseWord buf q a e.usAddr))
    have hnum := (h (assign e.ucDataType (fun _ => 0) p u)).assigned (hok _) hmode e he p hp hwo ht hmult hr
    rw [hloop, number_regInLoop hm he hp hr, hscaled, value_assign ht, number_cast] at hnum
    by_cases ht' : Takes e (responseWord buf q a e.usAddr)
    · rw [if_pos ht'] at hnum
      refine iff_of_true ht' (by_contra fun hw => hu ?_)
      rw [if_neg hw] at hnum
      exact hnum.symm
    · rw [if_neg ht'] at hnum
      refine iff_of_false ht' fun hw => hu ?_
      rw [if_pos hw] at hnum
      exact hnum
  · intro h vars
    refine ⟨fun hno => absurd hno (hok vars), fun _ _ e he p hp hwo ht hmult hr => ?_,
      fun _ e he p hp hr b hb hb' => ?_⟩
    · obtain ⟨htakes, hscaled⟩ := takes_iff (responseWord buf q a e.usAddr) hwo hmult
      have hjudged := (judged_iff ht).mp (h.judged hmode hrange e he hr (by rw [hp]; rfl) hwo ht hmult)
      rw [hloop, number_regInLoop hm he hp hr, hscaled]
      exact if_congr (htakes.trans hjudged) rfl rfl
    · rw [hloop]
      exact regInLoop_off hm he hp hb hb' hr

theorem inputs_of_refused (hrange : ¬InputRange cur a n) :
    (∀ vars, InputRight cur mode buf q a n vars) ↔ InputOk cur mode buf q a n := by
  have hloop (vars : Mem) : (eMBMasterRegInputCB cur mode buf q (a + 1) n vars).2 =
      regInLoop cur buf n.toNat a q vars := (regInputCB_eq hmode hne).1
  have hno (vars : Mem) : (eMBMasterRegInputCB cur mode buf q (a + 1) n vars).1 = .MB_ENOREG :=
    (regInputCB_fst hmode hne vars).mpr hrange
  constructor
  · intro h
    refine ⟨fun _ _ e he hr hp ht => ?_, fun _ hin => absurd hin hrange⟩
    obtain ⟨p, hp⟩ := Option.isSome_iff_exists.mp hp
    obtain ⟨vars, hchanged⟩ := exists_changed hm he hp hr ht
    have hsame := (h vars).refused (hno vars)
    rw [hloop] at hsame
    exact hchanged hsame
  · intro h vars
    refine ⟨fun _ => ?_, fun hne => absurd (hno vars) hne, fun hne => absurd (hno vars) hne⟩
    rw [hloop]
    exact regInLoop_self hm (h.refused hmode hrange)

end Scanned

/-- **The callback does to the variables what it should exactly where** the words are judged as their types say, and a
refused range has none that is taken. -/
theorem inputs_iff (hm : MapsInputs cur) :
    (∀ vars, InputRight cur mode buf q a n vars) ↔ InputOk cur mode buf q a n := by
  by_cases hmode : InputScanned mode
  · by_cases hempty : cur.sMBRegInTable.pvDataBuf = []
    · refine iff_of_true (fun vars => ⟨fun _ => ?_, ?_, ?_⟩) ⟨?_, ?_⟩
      · rw [regInputCB_empty hmode hempty]
      all_goals simp [hempty]
    · by_cases hrange : InputRange cur a n
      · exact inputs_of_range hm hmode hempty hrange
      · exact inputs_of_refused hm hmode hempty hrange
  · refine iff_of_true (fun vars => ⟨fun _ => ?_, fun _ hs => absurd hs hmode, fun _ _ _ _ _ _ _ _ _ => ?_⟩)
      ⟨fun hs => absurd hs hmode, fun hs => absurd hs hmode⟩
    all_goals rw [regInputCB_idle hmode]

end Callback

/-! ### One entry -/

/-- A table of one `int16` entry at the address 3, with the limits -100 and 100. -/
def oneInput : sMBSlaveDevInputs where
  sMBRegInTable := ⟨[⟨3, -100, 100, .int16, .RW, 1, some 0⟩], 0, 3⟩
  pxDevDataMapIndex := some fun x => if x = 3 then some 0 else none

theorem mapsInputs_oneInput : MapsInputs oneInput where
  map e h := by
    rw [List.mem_singleton.mp h]
    rfl
  addr x e h := by
    have hmem : e = ⟨3, -100, 100, .int16, .RW, 1, some 0⟩ := List.mem_singleton.mp (mem_of_inMap h)
    by_contra hx
    have hx' : ¬x = 3 := fun h3 => hx (by rw [hmem, h3])
    simp only [eMBMasterRegInMap, oneInput, if_neg hx'] at h
    cases h
  apart e h e' h' hne := absurd (by rw [List.mem_singleton.mp h, List.mem_singleton.mp h']) hne

/-- The same with an `int8` entry. -/
def oneByteInput : sMBSlaveDevInputs where
  sMBRegInTable := ⟨[⟨3, -100, 100, .int8, .RW, 1, some 0⟩], 0, 3⟩
  pxDevDataMapIndex := oneInput.pxDevDataMapIndex

/-- A response of one word. -/
def oneWord (w : USHORT) : Mem := storeBE (fun _ => 0) 0 w

theorem inputs_positive : InputRight oneInput .STATE_SCAN_DEV (oneWord 5) 0 3 1 (fun _ => 0) := by
  have hrange : InputRange oneInput 3 1 := ⟨by decide, by decide⟩
  refine (inputs_iff mapsInputs_oneInput).mpr ⟨fun _ h => absurd hrange h, fun _ _ e he _ _ _ _ _ => ?_⟩ _
  rw [List.mem_singleton.mp he]
  decide

/-- A negative `int16` value within the limits is not assigned, nor a negative `int8` one; and a range that is refused
is. -/
theorem inputs_wrong :
    ¬InputRight oneInput .STATE_SCAN_DEV (oneWord (-5)) 0 3 1 (fun _ => 0) ∧
    ¬InputRight oneByteInput .STATE_SCAN_DEV (oneWord 0x00FB) 0 3 1 (fun _ => 0) ∧
    ¬InputRight oneInput .STATE_SCAN_DEV (oneWord 5) 0 3 2 (fun _ => 0) := by
  refine ⟨fun h => ?_, fun h => ?_, fun h => ?_⟩
  · have hnum := h.assigned (by decide) (.inl rfl) ⟨3, -100, 100, .int16, .RW, 1, some 0⟩ List.mem_cons_self 0 rfl
      (by decide) (by decide) (.inr rfl) (by decide)
    exact absurd hnum (by decide)
  · have hnum := h.assigned (by decide) (.inl rfl) ⟨3, -100, 100, .int8, .RW, 1, some 0⟩ List.mem_cons_self 0 rfl
      (by decide) (by decide) (.inr rfl) (by decide)
    exact absurd hnum (by decide)
  · have hsame := congrFun (h.refused (by decide)) 0
    exact absurd hsame (by decide)

end GreeIntense.Master

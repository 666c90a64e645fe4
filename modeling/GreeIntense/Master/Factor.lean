import Mathlib.Algebra.Ring.Int.Defs
import Mathlib.Algebra.Ring.Nat
import GreeIntense.Master.HoldingSpec
import GreeIntense.Master.WriteScan

/-!
# The transmission factor (`mbscan_m.c`, `mbfuncholding_m.c`)

The write scan multiplies the value of an entry by `ucTmitMult` before it is sent, and the callback divides the words
of a response by it.  The scan computes in the type of the entry, the callback divides the word as it is, without a
sign.

* `scanScaled_eq`: the word that is sent for a value;
* `number_readScaled_iff`: when the callback takes the value back out of it;
* `factor_iff`: the callback finds the value that was sent, and an acknowledged value is found unchanged, exactly where
  the value is not negative or the factor divides the number of values a byte has more than the type needs.
-/

namespace GreeIntense.Master

open Lib.Memory

/-! ### The numbers of a type -/

/-- The number a word stands for in the type. -/
def number (t : DataType) (w : USHORT) : ℤ :=
  match t with
  | .uint16 | .other => w.toNat
  | .uint8 => (lo w).toNat
  | .int16 => w.toInt
  | .int8 => (lo w).toInt

/-- It is a number of the type. -/
def Fits (t : DataType) (z : ℤ) : Prop :=
  match t with
  | .uint16 | .other => 0 ≤ z ∧ z < 65536
  | .uint8 => 0 ≤ z ∧ z < 256
  | .int16 => -32768 ≤ z ∧ z < 32768
  | .int8 => -128 ≤ z ∧ z < 128

/-- The number is between the limits, which are numbers of the type, too. -/
def Between (t : DataType) (usMinVal usMaxVal : USHORT) (z : ℤ) : Prop := number t usMinVal ≤ z ∧ z ≤ number t usMaxVal

instance (t : DataType) (usMinVal usMaxVal : USHORT) (z : ℤ) : Decidable (Between t usMinVal usMaxVal z) :=
  inferInstanceAs (Decidable (_ ∧ _))

instance : ∀ t z, Decidable (Fits t z)
  | .uint16, _ | .other, _ => inferInstanceAs (Decidable (_ ∧ _))
  | .uint8, _ | .int16, _ | .int8, _ => inferInstanceAs (Decidable (_ ∧ _))

theorem Fits.bounds {t : DataType} {z : ℤ} (h : Fits t z) : -32768 ≤ z ∧ z < 65536 := by
  cases t <;> obtain ⟨h0, h1⟩ := h <;> omega

theorem lo_toNat (w : USHORT) : (lo w).toNat = w.toNat % 256 := by
  rw [lo, BitVec.extractLsb'_toNat, Nat.shiftRight_zero]

theorem lo_ofInt (z : ℤ) : lo (BitVec.ofInt 16 z) = BitVec.ofInt 8 z := by
  apply BitVec.eq_of_toNat_eq
  rw [lo_toNat, BitVec.toNat_ofInt, BitVec.toNat_ofInt]
  omega

theorem lo_setWidth (b : UCHAR) : lo (b.setWidth 16) = b := by
  apply BitVec.eq_of_toNat_eq
  rw [lo_toNat, BitVec.toNat_setWidth]
  omega

theorem lo_signExtend (b : UCHAR) : lo (b.signExtend 16) = b := by
  rw [BitVec.signExtend, lo_ofInt, BitVec.ofInt_toInt]

variable {t : DataType}

theorem fits_number (w : USHORT) : Fits t (number t w) := by
  cases t with
  | uint16 | other =>
    have := w.isLt
    exact ⟨Int.natCast_nonneg _, by simp only [number]; omega⟩
  | uint8 =>
    have := (lo w).isLt
    exact ⟨Int.natCast_nonneg _, by simp only [number]; omega⟩
  | int16 => exact ⟨BitVec.le_toInt w, BitVec.toInt_lt⟩
  | int8 => exact ⟨BitVec.le_toInt (lo w), BitVec.toInt_lt⟩

/-- **The number of a word** is congruent to it and fits the type. -/
theorem number_ofInt_iff (z v : ℤ) (hv : Fits t v) :
    number t (BitVec.ofInt 16 z) = v ↔ (z - v) % 2 ^ (8 * t.size) = 0 := by
  cases t with
  | uint16 | other =>
    obtain ⟨h0, h1⟩ := hv
    simp only [number, BitVec.toNat_ofInt, DataType.size]
    omega
  | uint8 =>
    obtain ⟨h0, h1⟩ := hv
    simp only [number, lo_ofInt, BitVec.toNat_ofInt, DataType.size]
    omega
  | int16 =>
    obtain ⟨h0, h1⟩ := hv
    simp only [number, BitVec.toInt_ofInt, DataType.size, Int.bmod_def]
    omega
  | int8 =>
    obtain ⟨h0, h1⟩ := hv
    simp only [number, lo_ofInt, BitVec.toInt_ofInt, DataType.size, Int.bmod_def]
    omega

theorem number_ofInt {z : ℤ} (h : Fits t z) : number t (BitVec.ofInt 16 z) = z :=
  (number_ofInt_iff z z h).mpr (by rw [Int.sub_self, Int.zero_emod])

theorem signed_of_neg {v : ℤ} (h : Fits t v) (ht : t ≠ .other) (hneg : ¬0 ≤ v) : t = .int16 ∨ t = .int8 := by
  cases t with
  | int16 | int8 => simp
  | other => exact absurd rfl ht
  | uint16 | uint8 => exact absurd h.1 hneg

theorem exists_number_ne (t : DataType) (v : ℤ) : ∃ w, number t w ≠ v := by
  have h01 : number t 0 ≠ number t 1 := by cases t <;> decide
  by_cases h : number t 0 = v
  · exact ⟨1, fun h1 => h01 (h.trans h1.symm)⟩
  · exact ⟨0, h⟩

theorem number_cast (w : USHORT) : number t (cast t w) = number t w := by
  cases t with
  | uint16 | int16 | other => rfl
  | uint8 => rw [number, cast, number, lo_setWidth]
  | int8 => rw [number, cast, number, lo_signExtend]

theorem cast_ofInt {z : ℤ} (h : Fits t z) : cast t (BitVec.ofInt 16 z) = BitVec.ofInt 16 z := by
  cases t with
  | uint16 | int16 | other => rfl
  | uint8 =>
    obtain ⟨h0, h1⟩ := h
    apply BitVec.eq_of_toNat_eq
    simp only [cast, lo_ofInt, BitVec.toNat_setWidth, BitVec.toNat_ofInt]
    omega
  | int8 =>
    obtain ⟨h0, h1⟩ := h
    have hz : (BitVec.ofInt 8 z).toInt = z := BitVec.toInt_ofInt_eq_self (by decide) h0 h1
    rw [cast, lo_ofInt, BitVec.signExtend, hz]

theorem value_eq (vars : Mem) (p : ℕ) : value t vars p = BitVec.ofInt 16 (number t (value t vars p)) := by
  cases t with
  | uint16 | other => simp [number]
  | int16 => simp [number]
  | uint8 =>
    rw [number, value, lo_setWidth, BitVec.ofInt_natCast, BitVec.ofNat_toNat]
  | int8 =>
    rw [number, value, lo_signExtend]
    rfl

theorem cast_value (vars : Mem) (p : ℕ) : cast t (value t vars p) = value t vars p := by
  rw [value_eq]
  exact cast_ofInt (fits_number _)

theorem value_assign (ht : t ≠ .other) (vars : Mem) (p : ℕ) (w : USHORT) :
    value t (assign t vars p w) p = cast t w := by
  cases t with
  | other => exact absurd rfl ht
  | uint16 | int16 => exact load16_store16 vars p w
  | uint8 | int8 => simp [value, assign, cast]

/-! ### The word that is sent, and the value that is found in it -/

section Words

variable {e : sMasterRegHoldData} {vars : Mem} {p : ℕ} {v : ℤ}

/-- The value is within the limits of the entry. -/
abbrev sMasterRegHoldData.Within (e : sMasterRegHoldData) (z : ℤ) : Prop :=
  Between e.ucDataType e.usMinVal e.usMaxVal z

theorem inRange_iff (ht : e.ucDataType ≠ .other) (w : USHORT) :
    inRange e w = true ↔ e.Within (number e.ucDataType w) := by
  unfold inRange sMasterRegHoldData.Within Between
  cases h : e.ucDataType with
  | other => exact absurd h ht
  | uint16 | uint8 => simp [number, BitVec.le_def]
  | int16 | int8 => simp [number, BitVec.sle_iff_toInt_le]

/-- For the signed types the scan checks the limits as the callback does. -/
theorem scanInRange_signed (h : e.ucDataType = .int16 ∨ e.ucDataType = .int8) (w : USHORT) :
    scanInRange e w = inRange e w := by
  unfold scanInRange inRange
  obtain h | h := h <;> rw [h]

/-- **The word that is sent** stands for the product. -/
theorem scanScaled_eq (hv : number e.ucDataType (value e.ucDataType vars p) = v)
    (hfits : Fits e.ucDataType (v * e.ucTmitMult.toNat)) :
    scanScaled e vars p = BitVec.ofInt 16 (v * e.ucTmitMult.toNat) := by
  have hval : value e.ucDataType vars p = BitVec.ofInt 16 v := by rw [value_eq, hv]
  have hmult : e.ucTmitMult.setWidth 16 = BitVec.ofInt 16 e.ucTmitMult.toNat := by
    rw [BitVec.ofInt_natCast, BitVec.ofNat_toNat]
  unfold scanScaled
  by_cases h1 : e.ucTmitMult = 1
  · rw [if_neg (not_not.mpr h1), hval, h1]
    simp
  · rw [if_pos h1, hval, hmult, ← BitVec.ofInt_mul, cast_ofInt hfits]

theorem readScaled_toNat (hm : 1 ≤ e.ucTmitMult.toNat) (w : USHORT) :
    (readScaled e w).toNat = w.toNat / e.ucTmitMult.toNat := by
  unfold readScaled
  have hm0 : e.ucTmitMult ≠ 0 := by
    intro h
    rw [h] at hm
    exact absurd hm (by decide)
  by_cases h1 : e.ucTmitMult = 1
  · rw [if_neg fun h => h.2 h1, h1]
    simp
  · have := e.ucTmitMult.isLt
    rw [if_pos ⟨hm0, h1⟩, BitVec.toNat_udiv, BitVec.toNat_setWidth, Nat.mod_eq_of_lt (by omega)]

theorem readScaled_neg (hm : 1 ≤ e.ucTmitMult.toNat) (hneg : v < 0) (hlow : -32768 ≤ v * e.ucTmitMult.toNat) :
    readScaled e (BitVec.ofInt 16 (v * e.ucTmitMult.toNat)) =
      BitVec.ofInt 16 ((65536 / e.ucTmitMult.toNat : ℕ) + v) := by
  obtain ⟨n, hn⟩ : ∃ n : ℕ, v = -n := ⟨v.natAbs, by omega⟩
  have hprod : v * e.ucTmitMult.toNat = -((n * e.ucTmitMult.toNat : ℕ) : ℤ) := by
    rw [hn, Int.natCast_mul, Int.neg_mul]
  have hle : n * e.ucTmitMult.toNat ≤ 32768 := by omega
  have hword : (BitVec.ofInt 16 (v * e.ucTmitMult.toNat)).toNat = 65536 - n * e.ucTmitMult.toNat := by
    have hpos : 0 < n * e.ucTmitMult.toNat := Nat.mul_pos (by omega) hm
    rw [hprod, BitVec.toNat_ofInt]
    omega
  have hquot : (65536 - n * e.ucTmitMult.toNat) / e.ucTmitMult.toNat = 65536 / e.ucTmitMult.toNat - n := by
    rw [Nat.mul_comm, Nat.sub_mul_div]
  have hn' : n ≤ 65536 / e.ucTmitMult.toNat := (Nat.le_div_iff_mul_le hm).mpr (by omega)
  have hlt : 65536 / e.ucTmitMult.toNat ≤ 65536 := Nat.div_le_self _ _
  apply BitVec.eq_of_toNat_eq
  rw [readScaled_toNat hm, hword, hquot, BitVec.toNat_ofInt]
  omega

/-- A factor divides the words' number without the bits of the type. -/
theorem div_mod_eq_zero_iff (hsigned : t = .int16 ∨ t = .int8) {m : ℕ} (hm : 1 ≤ m) (hlt : m < 256) :
    ((65536 / m : ℕ) : ℤ) % 2 ^ (8 * t.size) = 0 ↔ m ∣ 2 ^ (16 - 8 * t.size) := by
  have hbyte : ∀ m < 256, 1 ≤ m → (65536 / m % 256 = 0 ↔ m ∣ 256) := by decide +kernel
  obtain rfl | rfl := hsigned
  · have hle : 65536 / m ≤ 65536 := Nat.div_le_self _ _
    have hpos : 0 < 65536 / m := Nat.div_pos (by omega) hm
    have hone : 65536 / m = 65536 ↔ m = 1 := by
      constructor
      · intro h
        by_contra hne
        have := Nat.div_lt_self (n := 65536) (k := m) (by omega) (by omega)
        omega
      · rintro rfl
        rfl
    have hpow : (2 : ℕ) ^ (16 - 8 * DataType.int16.size) = 1 := rfl
    rw [hpow, Nat.dvd_one, ← hone]
    simp only [DataType.size]
    omega
  · have hpow : (2 : ℕ) ^ (16 - 8 * DataType.int8.size) = 256 := rfl
    rw [hpow, ← hbyte m hlt hm]
    simp only [DataType.size]
    omega

/-- **The callback finds the value in the word** exactly where it is not negative or the factor leaves its sign. -/
theorem number_readScaled_iff (ht : e.ucDataType ≠ .other) (hm : 1 ≤ e.ucTmitMult.toNat) (hv : Fits e.ucDataType v)
    (hfits : Fits e.ucDataType (v * e.ucTmitMult.toNat)) :
    number e.ucDataType (readScaled e (BitVec.ofInt 16 (v * e.ucTmitMult.toNat))) = v ↔
      0 ≤ v ∨ e.ucTmitMult.toNat ∣ 2 ^ (16 - 8 * e.ucDataType.size) := by
  obtain ⟨hlow, hhigh⟩ := hfits.bounds
  by_cases hneg : 0 ≤ v
  · simp only [hneg, true_or, iff_true]
    obtain ⟨n, rfl⟩ := Int.eq_ofNat_of_zero_le hneg
    have hlt : n * e.ucTmitMult.toNat < 65536 := by
      rw [← Int.natCast_mul] at hhigh
      exact Int.ofNat_lt.mp hhigh
    have hquot : readScaled e (BitVec.ofInt 16 ((n : ℤ) * e.ucTmitMult.toNat)) = BitVec.ofInt 16 n := by
      apply BitVec.eq_of_toNat_eq
      have hle : n ≤ n * e.ucTmitMult.toNat := Nat.le_mul_of_pos_right n hm
      rw [readScaled_toNat hm, ← Int.natCast_mul, BitVec.ofInt_natCast, BitVec.ofInt_natCast, BitVec.toNat_ofNat,
        BitVec.toNat_ofNat, Nat.mod_eq_of_lt hlt, Nat.mod_eq_of_lt (by omega), Nat.mul_div_cancel n hm]
    rw [hquot, number_ofInt hv]
  · have hsigned := signed_of_neg hv ht hneg
    rw [readScaled_neg hm (by omega) hlow, number_ofInt_iff _ _ hv, Int.add_sub_cancel]
    simp only [hneg, false_or]
    exact div_mod_eq_zero_iff hsigned hm e.ucTmitMult.isLt

end Words

/-! ### The callback -/

section Callback

variable {cur : sMBSlaveDevCommData} {buf : Mem} {pos i p : ℕ} {e : sMasterRegHoldData} {w : USHORT} {r : RegHolds}

theorem regHoldingCB_one (hm : MapsEntries cur) (he : cur.sMBRegHoldTable.pvDataBuf[i]? = some e)
    (eMode : eMBRegisterMode) :
    eMBMasterRegHoldingCB cur .STATE_SCAN_DEV buf pos (e.usAddr + 1) 1 eMode r =
      (.MB_ENOERR,
        match eMode with
        | .MB_REG_READ => regHoldRead .STATE_SCAN_DEV i e (loadBE buf pos) r
        | .MB_REG_WRITE => regHoldWritten i e r) := by
  have hmem : e ∈ cur.sMBRegHoldTable.pvDataBuf := List.mem_of_getElem? he
  have hlow := BitVec.le_def.mp (hm.lower e hmem)
  have hup := BitVec.le_def.mp (hm.upper e hmem)
  have hmap := hm.map i e he
  have hone : (1 : USHORT).toNat = 1 := rfl
  rw [eMBMasterRegHoldingCB, if_neg (by simp), if_neg (List.ne_nil_of_mem hmem)]
  simp only [BitVec.add_sub_cancel, hone]
  rw [if_neg]
  · cases eMode with
    | MB_REG_READ => simp only [regHoldReadLoop, hmap]
    | MB_REG_WRITE => simp only [regHoldWrittenLoop, hmap]
  · rintro (h | h)
    · have := BitVec.lt_def.mp h
      omega
    · omega

/-- The variable is to be written first: it differs from its previous value. -/
def Awaits (e : sMasterRegHoldData) (i p : ℕ) (r : RegHolds) : Prop :=
  e.ucAccessMode = .RW ∧ value e.ucDataType r.vars p ≠ cast e.ucDataType (r.usPreVal i)

theorem regHoldRead_outside (ht : e.ucDataType ≠ .other)
    (h : ¬e.Within (number e.ucDataType (readScaled e w))) (eMBRunMode : eMasterRunMode) :
    regHoldRead eMBRunMode i e w r = r := by
  have hrange : ¬inRange e (readScaled e w) = true := fun hr => h ((inRange_iff ht _).mp hr)
  unfold regHoldRead
  split
  · rfl
  · split
    · exact if_neg hrange
    · rfl

/-- A word whose value is within the limits becomes the previous value, and the value of the variable unless that is
to be written first. -/
theorem regHoldRead_inside (hp : e.pvValue = some p) (haccess : e.ucAccessMode ≠ .WO) (ht : e.ucDataType ≠ .other)
    (h : e.Within (number e.ucDataType (readScaled e w))) :
    let s := regHoldRead .STATE_SCAN_DEV i e w r
    number e.ucDataType (s.usPreVal i) = number e.ucDataType (readScaled e w) ∧
      (¬Awaits e i p r → number e.ucDataType (value e.ucDataType s.vars p) = number e.ucDataType (readScaled e w)) := by
  have hrange := (inRange_iff ht _).mpr h
  dsimp only [regHoldRead, hp]
  rw [hp]
  simp only [if_pos haccess, if_pos hrange]
  by_cases ha : Awaits e i p r
  · rw [if_pos ⟨ha.1, ha.2, trivial⟩]
    exact ⟨by rw [RegHolds.setPre_same, number_cast], fun h => absurd ha h⟩
  · rw [if_neg fun hc => ha ⟨hc.1, hc.2.1⟩]
    refine ⟨?_, fun _ => ?_⟩
    · rw [RegHolds.setPre_same]
      split
      · rename_i h8
        rw [h8, number_cast]
      · rfl
    · rw [RegHolds.setPre_vars, RegHolds.setVars_vars, value_assign ht, number_cast]

end Callback

/-! ### There and back -/

section RoundTrip

variable (cur : sMBSlaveDevCommData) (i : ℕ) (e : sMasterRegHoldData) (p : ℕ) (r : RegHolds)

def held : ℤ := number e.ucDataType (value e.ucDataType r.vars p)

/-- The value comes back from the word that the scan collects for it: the callback finds it in the word, in whatever
state the response to a read finds the master; and after the acknowledgement it is the previous value, and reading the
word leaves the variable and the previous value equal. -/
structure RoundTrip : Prop where
  decodes : ∀ xCheckPreValue w buf pos r', scanWord xCheckPreValue i e r = some w → loadBE buf pos = w →
    e.ucAccessMode ≠ .WO →
      let s := (eMBMasterRegHoldingCB cur .STATE_SCAN_DEV buf pos (e.usAddr + 1) 1 .MB_REG_READ r').2
      number e.ucDataType (s.usPreVal i) = held e p r ∧ (¬Awaits e i p r' → held e p s = held e p r)
  recorded : ∀ xCheckPreValue w buf pos ack, scanWord xCheckPreValue i e r = some w → loadBE buf pos = w →
    let acked := (eMBMasterRegHoldingCB cur .STATE_SCAN_DEV ack 0 (e.usAddr + 1) 1 .MB_REG_WRITE r).2
    let s := (eMBMasterRegHoldingCB cur .STATE_SCAN_DEV buf pos (e.usAddr + 1) 1 .MB_REG_READ acked).2
    number e.ucDataType (acked.usPreVal i) = held e p r ∧ number e.ucDataType (s.usPreVal i) = held e p s

/-- The word loses no sign: the value has none, or the factor divides the words that one number of the type has. -/
def SignKept : Prop := 0 ≤ held e p r ∨ e.ucTmitMult.toNat ∣ 2 ^ (16 - 8 * e.ucDataType.size)

variable {cur i e p r}

/-- **The previous value after an acknowledgement**, whatever the factor. -/
theorem recorded (hm : MapsEntries cur) (he : cur.sMBRegHoldTable.pvDataBuf[i]? = some e) (hp : e.pvValue = some p)
    (ht : e.ucDataType ≠ .other) (hv : e.Within (held e p r)) {xCheckPreValue : Bool} {w : USHORT} {buf ack : Mem}
    {pos : ℕ} (hw : scanWord xCheckPreValue i e r = some w) :
    let acked := (eMBMasterRegHoldingCB cur .STATE_SCAN_DEV ack 0 (e.usAddr + 1) 1 .MB_REG_WRITE r).2
    let s := (eMBMasterRegHoldingCB cur .STATE_SCAN_DEV buf pos (e.usAddr + 1) 1 .MB_REG_READ acked).2
    number e.ucDataType (acked.usPreVal i) = held e p r ∧ number e.ucDataType (s.usPreVal i) = held e p s := by
  have hro := (scanWord_eq_some.mp hw).access
  have hrange := (inRange_iff ht (value e.ucDataType r.vars p)).mpr hv
  have hacked : regHoldWritten i e r = r.setPre i (value e.ucDataType r.vars p) := by
    simp only [regHoldWritten, hp, if_pos hro, if_pos hrange]
  dsimp only
  rw [regHoldingCB_one hm he, regHoldingCB_one hm he]
  dsimp only
  rw [hacked]
  have hpre : number e.ucDataType ((r.setPre i (value e.ucDataType r.vars p)).usPreVal i) = held e p r := by
    rw [RegHolds.setPre_same, held]
  refine ⟨hpre, ?_⟩
  by_cases hwo : e.ucAccessMode = .WO
  · -- a write-only entry is not read back
    have hkept : regHoldRead .STATE_SCAN_DEV i e (loadBE buf pos) (r.setPre i (value e.ucDataType r.vars p)) =
        r.setPre i (value e.ucDataType r.vars p) := by
      simp only [regHoldRead, hp, hwo, ne_eq, not_true_eq_false, if_false]
    rw [hkept]
    exact hpre
  · by_cases hin : e.Within (number e.ucDataType (readScaled e (loadBE buf pos)))
    · -- the previous value is that of the variable, so the variable does not wait to be written
      have hnot : ¬Awaits e i p (r.setPre i (value e.ucDataType r.vars p)) := by
        intro h
        apply h.2
        rw [RegHolds.setPre_same, cast_value, RegHolds.setPre_vars]
      obtain ⟨hpre', hval⟩ :=
        regHoldRead_inside (r := r.setPre i (value e.ucDataType r.vars p)) (i := i) hp hwo ht hin
      exact hpre'.trans (hval hnot).symm
    · rw [regHoldRead_outside ht hin]
      exact hpre

/-- **The value comes back exactly where the word keeps its sign**, for an entry that is read. -/
theorem factor_iff (hm : MapsEntries cur) (he : cur.sMBRegHoldTable.pvDataBuf[i]? = some e) (hp : e.pvValue = some p)
    (ht : e.ucDataType ≠ .other) (hmult : 1 ≤ e.ucTmitMult)
    (hfits : Fits e.ucDataType (held e p r * e.ucTmitMult.toNat)) (hv : e.Within (held e p r))
    (hvm : e.Within (held e p r * e.ucTmitMult.toNat)) :
    RoundTrip cur i e p r ↔ (e.ucAccessMode = .RW → SignKept e p r) := by
  have hm1 : 1 ≤ e.ucTmitMult.toNat := BitVec.le_def.mp hmult
  have hscaled : scanScaled e r.vars p = BitVec.ofInt 16 (held e p r * e.ucTmitMult.toNat) := scanScaled_eq rfl hfits
  have hback : number e.ucDataType (readScaled e (BitVec.ofInt 16 (held e p r * e.ucTmitMult.toNat))) = held e p r ↔
      SignKept e p r := number_readScaled_iff ht hm1 (fits_number (value e.ucDataType r.vars p)) hfits
  constructor
  · intro h hrw
    rw [← hback]
    by_contra hlost
    -- only a negative value can be lost
    have hneg : ¬0 ≤ held e p r := fun h0 => hlost (hback.mpr (.inl h0))
    have hsigned := signed_of_neg (fits_number (value e.ucDataType r.vars p)) ht hneg
    obtain ⟨u, hu⟩ := exists_number_ne e.ucDataType (held e p r)
    -- it is sent, and the answer is the word sent
    have hsent : scanWord false i e r = some (scanScaled e r.vars p) := by
      refine scanWord_eq_some.mpr ⟨by simp [hrw], ⟨p, hp, rfl⟩, ?_, .inr rfl⟩
      rw [scanInRange_signed hsigned, inRange_iff ht, hscaled, number_ofInt hfits]
      exact hvm
    obtain ⟨hpre, -⟩ := h.decodes false _ (storeBE (fun _ => 0) 0 (scanScaled e r.vars p)) 0 (r.setPre i u) hsent
      (loadBE_storeBE ..) (by simp [hrw])
    rw [regHoldingCB_one hm he, loadBE_storeBE] at hpre
    dsimp only at hpre
    by_cases hin : e.Within (number e.ucDataType (readScaled e (scanScaled e r.vars p)))
    · -- the word is taken for another value
      obtain ⟨hfound, -⟩ := regHoldRead_inside (r := r.setPre i u) (i := i) hp (by simp [hrw]) ht hin
      rw [hscaled] at hfound hpre
      exact hlost (hfound.symm.trans hpre)
    · -- it is not taken: a previous value that is another one stays
      rw [regHoldRead_outside ht hin, RegHolds.setPre_same] at hpre
      exact hu hpre
  · intro hsign
    refine ⟨fun x w buf pos r' hw hbuf hwo => ?_, fun x w buf pos ack hw _ => recorded hm he hp ht hv hw⟩
    obtain ⟨hro, ⟨p', hp', hword⟩, -, -⟩ := scanWord_eq_some.mp hw
    obtain rfl : p' = p := Option.some.inj (hp'.symm.trans hp)
    have hrw : e.ucAccessMode = .RW := by
      cases h : e.ucAccessMode with
      | RW => rfl
      | WO => exact absurd h hwo
      | RO => exact absurd h hro
    have hfound : number e.ucDataType (readScaled e (loadBE buf pos)) = held e p' r := by
      rw [hbuf, hword, hscaled]
      exact hback.mpr (hsign hrw)
    obtain ⟨hpre, hval⟩ := regHoldRead_inside (r := r') (i := i) hp hwo ht (hfound.symm ▸ hv)
    rw [regHoldingCB_one hm he]
    exact ⟨hpre.trans hfound, fun ha => (hval ha).trans hfound⟩

end RoundTrip

/-! ### One entry -/

/-- A table of one entry at the address 3, with the limits -100 and 100. -/
def scaledEntry (t : DataType) (ucTmitMult : UCHAR) : sMBSlaveDevCommData where
  sMBRegHoldTable := ⟨[⟨3, -100, 100, t, .RW, ucTmitMult, some 0⟩], 0, 9⟩
  pxDevDataMapIndex := some fun x => if x = 3 then some 0 else none

theorem mapsEntries_scaledEntry (t : DataType) (m : UCHAR) : MapsEntries (scaledEntry t m) where
  map i e h := by
    cases i with
    | zero =>
      cases h
      rfl
    | succ i => cases h
  addr x i e h := by
    have hmem : e = ⟨3, -100, 100, t, .RW, m, some 0⟩ := List.mem_singleton.mp (List.mem_of_getElem? (mem_of_map h))
    by_contra hx
    have hx' : ¬x = 3 := fun h3 => hx (by rw [hmem, h3])
    simp only [eMBMasterRegHoldingMap, scaledEntry, if_neg hx'] at h
    cases h
  lower e h := by
    rw [List.mem_singleton.mp h]
    show (0 : USHORT) ≤ 3
    decide
  upper e h := by
    rw [List.mem_singleton.mp h]
    show (3 : USHORT) ≤ 9
    decide

/-- The value -5, and no previous value. -/
def minusFive : RegHolds := ⟨store16 (fun _ => 0) 0 (-5), fun _ => 0⟩

/-- An `int8` of -5 with the factor 2 comes back. -/
theorem factor_int8 : RoundTrip (scaledEntry .int8 2) 0 ⟨3, -100, 100, .int8, .RW, 2, some 0⟩ 0 minusFive :=
  (factor_iff (mapsEntries_scaledEntry .int8 2) rfl rfl (by decide) (by decide) (by decide) (by decide) (by decide)).mpr
    fun _ => .inr (by decide)

/-- An `int16` of -5 with the factor 10 does not come back: it is sent as -50, and 6548 is found. -/
theorem factor_int16 :
    scanWord false 0 ⟨3, -100, 100, .int16, .RW, 10, some 0⟩ minusFive = some (-50) ∧
    number .int16 (readScaled ⟨3, -100, 100, .int16, .RW, 10, some 0⟩ (-50)) = 6548 ∧
    ¬RoundTrip (scaledEntry .int16 10) 0 ⟨3, -100, 100, .int16, .RW, 10, some 0⟩ 0 minusFive := by
  refine ⟨by decide, by decide, fun h => ?_⟩
  have hword : scanWord false 0 ⟨3, -100, 100, .int16, .RW, 10, some 0⟩ minusFive = some (-50) := by decide
  obtain ⟨hpre, -⟩ := h.decodes false (-50) (storeBE (fun _ => 0) 0 (-50)) 0 minusFive hword (loadBE_storeBE ..)
    (by decide)
  exact absurd hpre (by decide)

end GreeIntense.Master

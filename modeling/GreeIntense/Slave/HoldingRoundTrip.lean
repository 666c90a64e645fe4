import GreeIntense.Slave.HoldingSpec
import Mathlib.Data.Set.Lattice
import Mathlib.Order.CompletePartialOrder

/-!
# Holding registers round-trip

A write of a list of words (function code 16) followed by a read of the same range (function code 3)
on a table whose entries have variables of their own.  The two facts about the writing loop are
`regHoldAssign_frame`, which holds for every table, and `regHoldAssign_value`, where the distinctness
of the variables keeps what the head of the loop assigned through the rest of it.
-/

namespace GreeIntense.Slave

open Lib.Memory

variable {cur : sMBSlaveCommData}

/-! ### Variables -/

/-- The bytes of the variable of an entry, at the address `p`. -/
def varBytes (e : sMBSlaveRegData) (p : ℕ) : Set ℕ := Set.Ico p (p + e.ucDataType.size)

/-- The word in the variable of an entry. -/
def varWord (vars : Mem) (e : sMBSlaveRegData) (p : ℕ) : USHORT :=
  match e.ucDataType with
  | .uint8 | .int8 => (vars p).setWidth 16
  | _ => load16 vars p

/-- The value lies in the limits of the entry, signed for an `int16` entry. -/
def InLimits (e : sMBSlaveRegData) (v : USHORT) : Prop :=
  if e.ucDataType = .int16 then e.usMinVal.toInt ≤ v.toInt ∧ v.toInt ≤ e.usMaxVal.toInt
  else e.usMinVal.toNat ≤ v.toNat ∧ v.toNat ≤ e.usMaxVal.toNat

/-- **A table of the round trip**: the map function sends an address to the entry of that address;
every mapped entry is bound to a variable of its own, is a `uint16`, an `int16` or a `uint8` whose
limit fits the byte, and is transmitted unscaled. -/
structure HoldTable (cur : sMBSlaveCommData) : Prop where
  addr : ∀ {x e}, regHold cur x = some e → e.usAddr = x
  bound : ∀ {x e}, regHold cur x = some e → ∃ p, e.pvValue = some p
  type : ∀ {x e}, regHold cur x = some e →
    e.ucDataType = .uint16 ∨ e.ucDataType = .int16 ∨ e.ucDataType = .uint8 ∧ e.usMaxVal.toNat ≤ 255
  mult : ∀ {x e}, regHold cur x = some e → e.ucTmitMult = 0 ∨ e.ucTmitMult = 1
  distinct : ∀ {x y e e' p p'}, regHold cur x = some e → regHold cur y = some e' → e.usAddr ≠ e'.usAddr →
    e.pvValue = some p → e'.pvValue = some p' → Disjoint (varBytes e p) (varBytes e' p')

theorem varWord_congr {vars vars' : Mem} {e : sMBSlaveRegData} {p : ℕ}
    (h : ∀ q ∈ varBytes e p, vars' q = vars q) : varWord vars' e p = varWord vars e p := by
  have h0 : vars' p = vars p := h p ⟨le_rfl, Nat.lt_add_of_pos_right e.ucDataType.size_pos⟩
  have h1 (ht : e.ucDataType.size = 2) : vars' (p + 1) = vars (p + 1) := h (p + 1) ⟨by omega, by omega⟩
  unfold varWord load16
  split
  · rw [h0]
  · rw [h0]
  · rename_i ht8 hti8
    rw [h0, h1 (by cases ht : e.ucDataType <;> simp_all [DataType.size])]

theorem regStore_off {vars : Mem} {e : sMBSlaveRegData} {p q : ℕ} {w : USHORT} (h : q ∉ varBytes e p) :
    regStore vars e.ucDataType p w q = vars q := by
  rw [varBytes, Set.mem_Ico] at h
  cases ht : e.ucDataType <;> simp only [ht, DataType.size] at h <;> simp only [regStore]
  case int8 =>
    split
    · exact store8_ne _ _ _ _ (by omega)
    · rfl
  case uint8 =>
    split
    · exact store8_ne _ _ _ _ (by omega)
    · rfl
  case int16 =>
    split
    · exact store16_ne _ _ _ _ (by omega) (by omega)
    · rfl
  case uint16 =>
    split
    · exact store16_ne _ _ _ _ (by omega) (by omega)
    · rfl

/-- What is stored is read back: a word, or a byte when the word fits one. -/
theorem varWord_regStore {vars : Mem} {e : sMBSlaveRegData} {p : ℕ} {w : USHORT}
    (ht : e.ucDataType = .uint16 ∨ e.ucDataType = .int16 ∨ e.ucDataType = .uint8 ∧ w.toNat ≤ 255) :
    varWord (regStore vars e.ucDataType p w) e p = w := by
  rcases ht with ht | ht | ⟨ht, hw⟩
  · simp only [varWord, regStore, ht]
    split
    · simp
    · rename_i h
      exact (not_not.mp h).symm
  · simp only [varWord, regStore, ht]
    split
    · simp
    · rename_i h
      exact (not_not.mp h).symm
  · simp only [varWord, regStore, ht]
    split
    · rw [store8_same]
      apply BitVec.eq_of_toNat_eq
      simp only [lo, BitVec.toNat_setWidth, BitVec.extractLsb'_toNat, Nat.shiftRight_zero]
      omega
    · rename_i h
      exact (not_not.mp h).symm

/-! ### The writing loop -/

theorem regHoldWrite_some (T : HoldTable cur) {x : USHORT} {e : sMBSlaveRegData} {p : ℕ} {w : USHORT}
    {vars vars' : Mem} (he : regHold cur x = some e) (hp : e.pvValue = some p)
    (h : regHoldWrite vars (some e) w = some vars') :
    e.ucAccessMode ≠ .RO ∧ InLimits e w ∧ vars' = regStore vars e.ucDataType p w := by
  have hm : regHoldScaled e w = w := by
    unfold regHoldScaled
    rw [if_neg]
    rintro ⟨h0, h1⟩
    exact (T.mult he).elim h0 h1
  simp only [regHoldWrite, hp, hm] at h
  split at h
  · exact absurd h (by simp)
  · rename_i hro
    split at h
    · rename_i hr
      refine ⟨hro, ?_, (Option.some.inj h).symm⟩
      rcases T.type he with ht | ht | ⟨ht, -⟩ <;>
        simpa [inRange, InLimits, ht, BitVec.le_def, BitVec.sle_iff_toInt_le] using hr
    · exact absurd h (by simp)

theorem regHoldWrite_of_inLimits (T : HoldTable cur) {x : USHORT} {e : sMBSlaveRegData} {p : ℕ} {w : USHORT}
    {vars : Mem} (he : regHold cur x = some e) (hp : e.pvValue = some p) (hro : e.ucAccessMode ≠ .RO)
    (hin : InLimits e w) : regHoldWrite vars (some e) w = some (regStore vars e.ucDataType p w) := by
  have hm : regHoldScaled e w = w := by
    unfold regHoldScaled
    rw [if_neg]
    rintro ⟨h0, h1⟩
    exact (T.mult he).elim h0 h1
  have hr : inRange e w = true := by
    rcases T.type he with ht | ht | ⟨ht, -⟩ <;>
      simpa [inRange, InLimits, ht, BitVec.le_def, BitVec.sle_iff_toInt_le] using hin
  simp only [regHoldWrite, hp, hm, if_neg hro, hr, if_true]

/-- **The frame of the writing loop**: a byte of no variable of the range keeps its value. -/
theorem regHoldAssign_frame {ws : List USHORT} {i : USHORT} {vars : Mem} {q : ℕ}
    (hq : ∀ k < ws.length, ∀ e p, regHold cur (i + BitVec.ofNat 16 k) = some e → e.pvValue = some p →
      q ∉ varBytes e p) : (regHoldAssign cur ws i vars).2 q = vars q := by
  induction ws generalizing i vars with
  | nil => rfl
  | cons w ws ih =>
    have h0 := hq 0 (by simp)
    rw [add_ofNat_zero] at h0
    have ht : ∀ k < ws.length, ∀ e p, regHold cur (i + 1 + BitVec.ofNat 16 k) = some e →
        e.pvValue = some p → q ∉ varBytes e p := fun k hk => by
      rw [add_ofNat_succ]
      exact hq (k + 1) (by simpa using hk)
    rw [regHoldAssign]
    split
    · rfl
    · rename_i vars' hw
      rw [ih ht]
      unfold regHoldWrite at hw
      split at hw
      · rename_i e he
        split at hw
        · rename_i p hp
          split at hw
          · exact absurd hw (by simp)
          · dsimp only at hw
            split at hw
            · rw [← Option.some.inj hw]
              exact regStore_off (h0 e p he hp)
            · exact absurd hw (by simp)
        · rw [← Option.some.inj hw]
      · rw [← Option.some.inj hw]

/-- **What a completed writing loop leaves**: every variable of the range holds its word. -/
theorem regHoldAssign_value (T : HoldTable cur) {ws : List USHORT} {i : USHORT} {vars : Mem}
    (hl : ws.length ≤ 65536) (hok : (regHoldAssign cur ws i vars).1 = .MB_ENOERR) :
    ∀ k (hk : k < ws.length), ∀ e p, regHold cur (i + BitVec.ofNat 16 k) = some e → e.pvValue = some p →
      e.ucAccessMode ≠ .RO ∧ InLimits e ws[k] ∧ varWord (regHoldAssign cur ws i vars).2 e p = ws[k] := by
  induction ws generalizing i vars with
  | nil => intro k hk; exact absurd hk (by simp)
  | cons w ws ih =>
    simp only [List.length_cons] at hl
    intro k hk e p he hp
    cases hw : regHoldWrite vars (regHold cur i) w with
    | none => simp [regHoldAssign, hw] at hok
    | some vars' =>
      simp only [regHoldAssign, hw] at hok ⊢
      cases k with
      | succ k =>
        rw [← add_ofNat_succ] at he
        exact ih (by omega) hok k (by simpa using hk) e p he hp
      | zero =>
        rw [add_ofNat_zero] at he
        rw [he] at hw
        obtain ⟨hro, hin, rfl⟩ := regHoldWrite_some T he hp hw
        refine ⟨hro, hin, ?_⟩
        have hkeep : ∀ q ∈ varBytes e p, (regHoldAssign cur ws (i + 1) (regStore vars e.ucDataType p w)).2 q =
            regStore vars e.ucDataType p w q := by
          intro q hq
          apply regHoldAssign_frame
          intro k hk e' p' he' hp' hq'
          rw [add_ofNat_succ] at he'
          -- a later address of the range has another entry, whose variable is elsewhere
          have hne : e.usAddr ≠ e'.usAddr := by
            rw [T.addr he, T.addr he']
            exact add_ofNat_ne (by omega) (by omega)
          exact Set.disjoint_left.mp (T.distinct he he' hne hp hp') hq hq'
        rw [varWord_congr hkeep]
        refine varWord_regStore ?_
        rcases T.type he with ht | ht | ⟨ht, hmax⟩
        · exact Or.inl ht
        · exact Or.inr (Or.inl ht)
        · refine Or.inr (Or.inr ⟨ht, ?_⟩)
          simp only [InLimits, ht] at hin
          exact le_trans hin.2 hmax

/-- **The writing loop completes** where every mapped address of the range takes its word. -/
theorem regHoldAssign_ok_iff (T : HoldTable cur) {ws : List USHORT} {i : USHORT} {vars : Mem}
    (hl : ws.length ≤ 65536) : (regHoldAssign cur ws i vars).1 = .MB_ENOERR ↔
      ∀ k (hk : k < ws.length), ∀ e, regHold cur (i + BitVec.ofNat 16 k) = some e →
        e.ucAccessMode ≠ .RO ∧ InLimits e ws[k] := by
  constructor
  · intro hok k hk e he
    obtain ⟨p, hp⟩ := T.bound he
    obtain ⟨hro, hin, -⟩ := regHoldAssign_value T hl hok k hk e p he hp
    exact ⟨hro, hin⟩
  · intro h
    induction ws generalizing i vars with
    | nil => rfl
    | cons w ws ih =>
      have htail : ∀ k (hk : k < ws.length), ∀ e, regHold cur (i + 1 + BitVec.ofNat 16 k) = some e →
          e.ucAccessMode ≠ .RO ∧ InLimits e ws[k] := by
        intro k hk e he
        rw [add_ofNat_succ] at he
        exact h (k + 1) (Nat.succ_lt_succ hk) e he
      have hhead := h 0 (Nat.succ_pos _)
      rw [add_ofNat_zero] at hhead
      have hl' : ws.length ≤ 65536 := by
        rw [List.length_cons] at hl
        omega
      cases he : regHold cur i with
      | none =>
        -- an unmapped address takes any word
        simp only [regHoldAssign, he, regHoldWrite]
        exact ih hl' htail
      | some e =>
        obtain ⟨p, hp⟩ := T.bound he
        obtain ⟨hro, hin⟩ := hhead e he
        have hw : regHoldWrite vars (some e) w = some (regStore vars e.ucDataType p w) :=
          regHoldWrite_of_inLimits T he hp hro hin
        simp only [regHoldAssign, he, hw]
        exact ih hl' htail

/-! ### The reading loop -/

theorem regHoldRead_fst (T : HoldTable cur) {x : USHORT} {e : sMBSlaveRegData} {p : ℕ} (vars : Mem)
    (v : USHORT) (he : regHold cur x = some e) (hp : e.pvValue = some p) :
    (regHoldRead vars (some e) v).1 = if e.ucAccessMode = .WO then 0 else varWord vars e p := by
  have hm : ¬ (e.ucTmitMult ≠ 0 ∧ e.ucTmitMult ≠ 1) := fun h => (T.mult he).elim h.1 h.2
  simp only [regHoldRead, hp]
  by_cases hwo : e.ucAccessMode = .WO
  · simp [hwo]
  · simp only [hwo, ne_eq, not_false_eq_true, if_true, if_false, regValue, if_neg hm, varWord]
    rcases T.type he with ht | ht | ⟨ht, -⟩ <;> simp [ht]

variable (cur) in
/-- The word at a position of the answer is what the entry of that address is read as. -/
theorem regHoldWords_get (vars : Mem) {n : ℕ} {i v : USHORT} {k : ℕ} (hk : k < n) :
    ∃ v', (regHoldWords cur vars n i v)[k]? =
      some (regHoldRead vars (regHold cur (i + BitVec.ofNat 16 k)) v').1 := by
  induction n generalizing i v k with
  | zero => omega
  | succ n ih =>
    cases k with
    | zero =>
      refine ⟨v, ?_⟩
      rw [add_ofNat_zero]
      rfl
    | succ k =>
      obtain ⟨v', h⟩ := ih (i := i + 1) (v := (regHoldRead vars (regHold cur i) v).2) (by omega : k < n)
      rw [add_ofNat_succ] at h
      exact ⟨v', by simpa [regHoldWords] using h⟩

/-! ### The round trip -/

/-- **Holding registers round-trip.**  After an accepted write of `ws` from `a` on, a read of the
same range answers the written word for every `RW` entry and `0` for every unmapped address, every
stored value is in the limits of its entry, and nothing but the variables of the range has changed. -/
theorem holding_round_trip (T : HoldTable cur) {s t : Store} {p p' : ℕ} {a : USHORT} {ws : List USHORT}
    (hreq : Received s p (writeRequest a ws)) (hl : ws.length < 65536)
    (hans : (eMBSlaveFuncWriteMultipleHoldingRegister cur p s).1 = .MB_EX_NONE)
    (hread : Received t p' (readRequest a (BitVec.ofNat 16 ws.length)))
    (hvars : t.vars = (eMBSlaveFuncWriteMultipleHoldingRegister cur p s).2.vars) :
    ∃ out : List USHORT, out.length = ws.length ∧
      (eMBSlaveFuncReadHoldingRegister cur p' t).1 = .MB_EX_NONE ∧
      Received (eMBSlaveFuncReadHoldingRegister cur p' t).2 p'
        (wordsResponse MB_FUNC_READ_HOLDING_REGISTER out) ∧
      (eMBSlaveFuncReadHoldingRegister cur p' t).2.vars = t.vars ∧
      (∀ k < ws.length, ∀ e, regHold cur (a + BitVec.ofNat 16 k) = some e → e.ucAccessMode = .RW →
        out[k]? = ws[k]?) ∧
      (∀ k < ws.length, regHold cur (a + BitVec.ofNat 16 k) = none → out[k]? = some 0) ∧
      (∀ k < ws.length, ∀ e q, regHold cur (a + BitVec.ofNat 16 k) = some e → e.pvValue = some q →
        InLimits e (varWord t.vars e q)) ∧
      (∀ x e q, regHold cur x = some e → e.pvValue = some q →
        (∀ k < ws.length, x ≠ a + BitVec.ofNat 16 k) → varWord t.vars e q = varWord s.vars e q) ∧
      (∀ b, (∀ k < ws.length, ∀ e q, regHold cur (a + BitVec.ofNat 16 k) = some e → e.pvValue = some q →
        b ∉ varBytes e q) → t.vars b = s.vars b) := by
  rw [writeMultipleHolding_eq hreq hl] at hans hvars
  split at hans
  · rename_i hn
    split at hans
    · rename_i hcov
      rw [if_pos hn, if_pos hcov] at hvars
      have hok := error2Exception_eq_none.mp hans
      have hn16 : (BitVec.ofNat 16 ws.length).toNat = ws.length := by
        rw [BitVec.toNat_ofNat, Nat.mod_eq_of_lt (by omega)]
      have hval := regHoldAssign_value T (by omega) hok
      have hframe : ∀ b, (∀ k < ws.length, ∀ e q, regHold cur (a + BitVec.ofNat 16 k) = some e →
          e.pvValue = some q → b ∉ varBytes e q) → t.vars b = s.vars b := fun b hb => by
        rw [hvars]
        exact regHoldAssign_frame hb
      rw [readHolding_eq hread, if_pos (by omega), if_pos hcov, hn16]
      refine ⟨regHoldWords cur t.vars ws.length a 0, by simp, rfl, t.received_respond _ _, rfl, ?_, ?_, ?_, ?_,
        hframe⟩
      · -- a register that is read as it was written
        intro k hk e he hrw
        obtain ⟨q, hq⟩ := T.bound he
        obtain ⟨v, hv⟩ := regHoldWords_get cur t.vars (i := a) (v := 0) hk
        rw [he, regHoldRead_fst T t.vars v he hq, if_neg (by simp [hrw]), hvars, (hval k hk e q he hq).2.2] at hv
        rw [hvars, hv, List.getElem?_eq_getElem hk]
      · -- an unmapped address is read as 0
        intro k hk he
        obtain ⟨v, hv⟩ := regHoldWords_get cur t.vars (i := a) (v := 0) hk
        rw [he] at hv
        exact hv
      · -- what was accepted is inside the limits
        intro k hk e q he hq
        obtain ⟨-, hin, hw⟩ := hval k hk e q he hq
        rw [hvars, hw]
        exact hin
      · -- a register outside the range shares no byte with one in it
        intro x e q he hq hx
        refine varWord_congr fun b hb => hframe b fun k hk e' q' he' hq' hb' => ?_
        have hne : e.usAddr ≠ e'.usAddr := by
          rw [T.addr he, T.addr he']
          exact hx k hk
        exact Set.disjoint_left.mp (T.distinct he he' hne hq hq') hb hb'
    · exact absurd hans (by simp)
  · exact absurd hans (by simp)

section Witness

/-- A table of one `uint16` entry, at the address 3. -/
def oneRegister : sMBSlaveCommData where
  sMBRegInTable := ⟨none, 0, 0, 0⟩
  sMBRegHoldTable := ⟨some fun _ => ⟨3, 0, 1000, 1, .uint16, .RW, some 0⟩, 0, 9, 1⟩
  sMBCoilTable := ⟨none, 0, 0, 0⟩
  pxSlaveDataMapIndex := some fun _ x => if x = 3 then some 0 else none

theorem regHold_oneRegister {x : USHORT} {e : sMBSlaveRegData} (h : regHold oneRegister x = some e) :
    x = 3 ∧ e = ⟨3, 0, 1000, 1, .uint16, .RW, some 0⟩ := by
  by_cases hx : x = 3
  · subst hx
    exact ⟨rfl, (Option.some.inj h).symm⟩
  · simp only [regHold, lookup, slaveMap, oneRegister, if_neg hx] at h
    exact absurd h (by simp)

theorem holdTable_oneRegister : HoldTable oneRegister where
  addr h := by obtain ⟨rfl, rfl⟩ := regHold_oneRegister h; rfl
  bound h := by obtain ⟨rfl, rfl⟩ := regHold_oneRegister h; exact ⟨0, rfl⟩
  type h := by obtain ⟨rfl, rfl⟩ := regHold_oneRegister h; exact Or.inl rfl
  mult h := by obtain ⟨rfl, rfl⟩ := regHold_oneRegister h; exact Or.inr rfl
  distinct h h' hne := by
    obtain ⟨rfl, rfl⟩ := regHold_oneRegister h
    obtain ⟨rfl, rfl⟩ := regHold_oneRegister h'
    exact absurd rfl hne

/-- A store that holds the PDU from `p` on. -/
def storeOf (p : ℕ) (pdu : List UCHAR) (vars : Mem) : Store :=
  ⟨storeList (fun _ => 0) p pdu, pdu.length, vars⟩

theorem received_storeOf (p : ℕ) (pdu : List UCHAR) (vars : Mem) : Received (storeOf p pdu vars) p pdu :=
  ⟨holds_storeList, rfl⟩

/-- Writing 500 and 77 to the addresses 3 and 4, of which 4 is unmapped, and reading them back. -/
theorem holding_round_trip_oneRegister :
    let w := eMBSlaveFuncWriteMultipleHoldingRegister oneRegister 7 (storeOf 7 (writeRequest 3 [500, 77]) fun _ => 0)
    let r := eMBSlaveFuncReadHoldingRegister oneRegister 7 (storeOf 7 (readRequest 3 2) w.2.vars)
    w.1 = .MB_EX_NONE ∧ r.1 = .MB_EX_NONE ∧
      Received r.2 7 (wordsResponse MB_FUNC_READ_HOLDING_REGISTER [500, 0]) ∧ r.2.vars = w.2.vars := by
  intro w r
  have hs : Received (storeOf 7 (writeRequest 3 [500, 77]) fun _ => 0) 7 (writeRequest 3 [500, 77]) :=
    received_storeOf _ _ _
  have ht : Received (storeOf 7 (readRequest 3 2) w.2.vars) 7
      (readRequest 3 (BitVec.ofNat 16 [(500 : USHORT), 77].length)) := received_storeOf _ _ _
  have hw : w.1 = .MB_EX_NONE := by decide
  obtain ⟨out, hlen, hnone, hout, hvars, hrw, hzero, -⟩ :=
    holding_round_trip holdTable_oneRegister hs (by decide) hw ht rfl
  obtain rfl : out = [500, 0] := by
    have h0 : out[0]? = some 500 := hrw 0 (by decide) _ rfl rfl
    have h1 : out[1]? = some 0 := hzero 1 (by decide) rfl
    match out, hlen with
    | [x, y], _ => rw [Option.some.inj h0, Option.some.inj h1]
  exact ⟨hw, hnone, hout, hvars⟩

end Witness

end GreeIntense.Slave

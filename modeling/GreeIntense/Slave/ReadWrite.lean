import GreeIntense.Slave.HoldingRoundTrip

/-!
# Function code 23 against function codes 16 and 3

The read-and-write request is compared with the write request and the read request it combines.
`eMBSlaveFuncReadWriteMultipleHoldingRegister` increments the write address, the other handlers take
the address as it stands in the request, so the two agree exactly when the words have the same effect
one address higher (`ShiftHarmless`).  That effect is given without running the loop: a word is refused
or not by its entry alone (`refuses`), and a byte of memory ends as the last byte assigned to it before
the first refusal (`lastByte`).
-/

namespace GreeIntense.Slave

open Lib.Memory

/-! ### The effect of a write, in closed form -/

/-- The entry is bound and does not take the word: it is read-only or the word is out of range. -/
def refuses (pv : Option sMBSlaveRegData) (w : USHORT) : Bool :=
  match pv with
  | some e => e.pvValue.isSome ∧ (e.ucAccessMode = .RO ∨ ¬ inRange e (regHoldScaled e w))
  | none => false

/-- The byte at `b` that assigning the word to the entry writes. -/
def assignedByte (pv : Option sMBSlaveRegData) (w : USHORT) (b : ℕ) : Option UCHAR :=
  match pv with
  | some e =>
    match e.pvValue with
    | some p =>
      match e.ucDataType with
      | .uint16 | .int16 =>
        if b = p then some (lo (regHoldScaled e w)) else if b = p + 1 then some (hi (regHoldScaled e w)) else none
      | .uint8 | .int8 => if b = p then some (lo (regHoldScaled e w)) else none
      | .other => none
    | none => none
  | none => none

variable (cur : sMBSlaveCommData)

/-- The last byte assigned to `b` when the words go to the addresses from `i` on, before the first
refusal. -/
def lastByte : List USHORT → USHORT → ℕ → Option UCHAR
  | [], _, _ => none
  | w :: ws, i, b =>
    if refuses (regHold cur i) w then none
    else (lastByte ws (i + 1) b).or (assignedByte (regHold cur i) w b)

/-- No word is refused when they go to the addresses from `i` on. -/
def takesAll : List USHORT → USHORT → Bool
  | [], _ => true
  | w :: ws, i => !refuses (regHold cur i) w && takesAll ws (i + 1)

/-- The byte at `b` after a write request for the words at `x`: its old value when the range is not
in the table. -/
def byteAfter (vars : Mem) (ws : List USHORT) (x : USHORT) (b : ℕ) : UCHAR :=
  if tableCovers cur.sMBRegHoldTable x (BitVec.ofNat 16 ws.length) then (lastByte cur ws x b).getD (vars b)
  else vars b

/-- A write request for the words at `x` is accepted. -/
def accepts (ws : List USHORT) (x : USHORT) : Bool :=
  tableCovers cur.sMBRegHoldTable x (BitVec.ofNat 16 ws.length) && takesAll cur ws x

/-- **The shift by one address is harmless**: the words leave every byte as they do at their own
addresses and, where the range read is in the table, are accepted just when they are there. -/
def ShiftHarmless (vars : Mem) (ra rn wa : USHORT) (ws : List USHORT) : Prop :=
  (∀ b, byteAfter cur vars ws (wa + 1) b = byteAfter cur vars ws wa b) ∧
    (tableCovers cur.sMBRegHoldTable ra rn → accepts cur ws (wa + 1) = accepts cur ws wa)

variable {cur}

theorem regStore_byte {vars : Mem} {e : sMBSlaveRegData} {p : ℕ} (hp : e.pvValue = some p) (w : USHORT) (b : ℕ) :
    regStore vars e.ucDataType p (regHoldScaled e w) b = (assignedByte (some e) w b).getD (vars b) := by
  -- the test before the assignment saves a store that would change nothing
  have h16 : (if regHoldScaled e w ≠ load16 vars p then store16 vars p (regHoldScaled e w) else vars) b =
      store16 vars p (regHoldScaled e w) b := by
    split
    · rfl
    · rename_i h
      rw [not_not.mp h, store16_load16]
  have h16' : store16 vars p (regHoldScaled e w) b =
      (if b = p then some (lo (regHoldScaled e w)) else if b = p + 1 then some (hi (regHoldScaled e w))
        else none).getD (vars b) := by
    split
    · subst b; simp
    · split
      · subst b; simp
      · exact store16_ne _ _ _ _ (by assumption) (by assumption)
  have h8' : store8 vars p (lo (regHoldScaled e w)) b =
      (if b = p then some (lo (regHoldScaled e w)) else none).getD (vars b) := by
    split
    · subst b; simp
    · exact store8_ne _ _ _ _ (by assumption)
  simp only [assignedByte, hp]
  cases ht : e.ucDataType <;> simp only [regStore]
  case uint16 => rw [h16, h16']
  case int16 => rw [h16, h16']
  case uint8 =>
    rw [← h8']
    split
    · rfl
    · rename_i h
      have : lo (regHoldScaled e w) = vars p := by
        rw [not_not.mp h]
        apply BitVec.eq_of_toNat_eq
        simp only [lo, BitVec.extractLsb'_toNat, BitVec.toNat_setWidth, Nat.shiftRight_zero]
        omega
      rw [this, store8_self]
  case int8 =>
    rw [← h8']
    split
    · rfl
    · rename_i h
      rw [not_not.mp h, store8_self]
  case other => rfl

theorem regHoldWrite_eq (vars : Mem) (pv : Option sMBSlaveRegData) (w : USHORT) :
    regHoldWrite vars pv w =
      if refuses pv w then none else some fun b => (assignedByte pv w b).getD (vars b) := by
  rcases pv with _ | e
  · rfl
  · cases hp : e.pvValue with
    | none => simp [regHoldWrite, refuses, assignedByte, hp]
    | some p =>
      simp only [regHoldWrite, refuses, hp, Option.isSome_some, true_and]
      by_cases hro : e.ucAccessMode = .RO
      · simp [hro]
      · by_cases hin : inRange e (regHoldScaled e w)
        · simp only [hro, hin, if_false, if_true, not_true_eq_false, or_self, decide_false, Bool.false_eq_true]
          congr 1
          funext b
          exact regStore_byte hp w b
        · simp [hro, hin]

variable (cur) in
/-- **The writing loop in closed form.** -/
theorem regHoldAssign_eq (ws : List USHORT) (i : USHORT) (vars : Mem) :
    ((regHoldAssign cur ws i vars).1 = .MB_ENOERR ↔ takesAll cur ws i) ∧
      ∀ b, (regHoldAssign cur ws i vars).2 b = (lastByte cur ws i b).getD (vars b) := by
  induction ws generalizing i vars with
  | nil => simp [regHoldAssign, takesAll, lastByte]
  | cons w ws ih =>
    simp only [regHoldAssign, regHoldWrite_eq, takesAll, lastByte]
    by_cases hr : refuses (regHold cur i) w
    · simp [hr]
    · simp only [hr, if_false, Bool.not_false, Bool.true_and, Bool.false_eq_true]
      obtain ⟨h1, h2⟩ := ih (i + 1) fun b => (assignedByte (regHold cur i) w b).getD (vars b)
      refine ⟨h1, ?_⟩
      intro b
      rw [h2]
      cases lastByte cur ws (i + 1) b <;> rfl

section Effect

variable {ws : List USHORT} {x : USHORT}

theorem byteAfter_covered (h : tableCovers cur.sMBRegHoldTable x (BitVec.ofNat 16 ws.length)) (vars : Mem) :
    byteAfter cur vars ws x = (regHoldAssign cur ws x vars).2 := by
  funext b
  rw [byteAfter, if_pos h, (regHoldAssign_eq cur ws x vars).2]

theorem byteAfter_uncovered (h : ¬ tableCovers cur.sMBRegHoldTable x (BitVec.ofNat 16 ws.length)) (vars : Mem) :
    byteAfter cur vars ws x = vars := by
  funext b
  rw [byteAfter, if_neg h]

theorem accepts_covered (h : tableCovers cur.sMBRegHoldTable x (BitVec.ofNat 16 ws.length)) (vars : Mem) :
    accepts cur ws x ↔ (regHoldAssign cur ws x vars).1 = .MB_ENOERR := by
  rw [accepts, h, Bool.true_and, (regHoldAssign_eq cur ws x vars).1]

theorem not_accepts_uncovered (h : ¬ tableCovers cur.sMBRegHoldTable x (BitVec.ofNat 16 ws.length)) :
    ¬ accepts cur ws x := by
  rw [accepts, Bool.and_eq_true]
  exact fun h' => h h'.1

end Effect

/-! ### The comparison -/

/-- **Function code 23 does what function codes 16 and 3 do**: the same variables afterwards; the
same words when both of those are answered; an exception when one of those is.  `s`, `u` and `t` are
the stores the three requests are received in. -/
structure SameAsTwo (cur : sMBSlaveCommData) (s u t : Store) (p pu pt : ℕ) : Prop where
  vars : (eMBSlaveFuncReadWriteMultipleHoldingRegister cur p s).2.vars =
    (eMBSlaveFuncReadHoldingRegister cur pt t).2.vars
  words : (eMBSlaveFuncWriteMultipleHoldingRegister cur pu u).1 = .MB_EX_NONE →
    (eMBSlaveFuncReadHoldingRegister cur pt t).1 = .MB_EX_NONE →
    (eMBSlaveFuncReadWriteMultipleHoldingRegister cur p s).1 = .MB_EX_NONE ∧
      ∃ out, Received (eMBSlaveFuncReadHoldingRegister cur pt t).2 pt
          (wordsResponse MB_FUNC_READ_HOLDING_REGISTER out) ∧
        Received (eMBSlaveFuncReadWriteMultipleHoldingRegister cur p s).2 p
          (wordsResponse MB_FUNC_READWRITE_MULTIPLE_REGISTERS out)
  exception : (eMBSlaveFuncWriteMultipleHoldingRegister cur pu u).1 ≠ .MB_EX_NONE ∨
      (eMBSlaveFuncReadHoldingRegister cur pt t).1 ≠ .MB_EX_NONE →
    (eMBSlaveFuncReadWriteMultipleHoldingRegister cur p s).1 ≠ .MB_EX_NONE

section Compare

variable {s u t : Store} {p pu pt : ℕ} {ra rn wa : USHORT} {ws : List USHORT}

variable (cur) in
theorem writeMultipleHolding_effect (h : Received u pu (writeRequest wa ws))
    (hw : 1 ≤ ws.length ∧ ws.length ≤ 120) :
    ((eMBSlaveFuncWriteMultipleHoldingRegister cur pu u).1 = .MB_EX_NONE ↔ accepts cur ws wa) ∧
      (eMBSlaveFuncWriteMultipleHoldingRegister cur pu u).2.vars = byteAfter cur u.vars ws wa := by
  rw [writeMultipleHolding_eq h (by omega), if_pos (by omega)]
  by_cases hcov : tableCovers cur.sMBRegHoldTable wa (BitVec.ofNat 16 ws.length) = true
  · rw [if_pos hcov, byteAfter_covered hcov, accepts_covered hcov u.vars]
    exact ⟨error2Exception_eq_none, rfl⟩
  · rw [if_neg hcov, byteAfter_uncovered hcov]
    exact ⟨iff_of_false (by simp) (not_accepts_uncovered hcov), rfl⟩

variable (cur) in
theorem readHolding_effect (h : Received t pt (readRequest ra rn)) (hr : 1 ≤ rn.toNat ∧ rn.toNat ≤ 125) :
    ((eMBSlaveFuncReadHoldingRegister cur pt t).1 = .MB_EX_NONE ↔ tableCovers cur.sMBRegHoldTable ra rn) ∧
      (eMBSlaveFuncReadHoldingRegister cur pt t).2.vars = t.vars ∧
      (tableCovers cur.sMBRegHoldTable ra rn → Received (eMBSlaveFuncReadHoldingRegister cur pt t).2 pt
        (wordsResponse MB_FUNC_READ_HOLDING_REGISTER (regHoldWords cur t.vars rn.toNat ra 0))) := by
  rw [readHolding_eq h, if_pos hr]
  by_cases hcov : tableCovers cur.sMBRegHoldTable ra rn = true
  · rw [if_pos hcov]
    exact ⟨by simp [hcov], rfl, fun _ => t.received_respond _ _⟩
  · rw [if_neg hcov]
    exact ⟨by simp [hcov], rfl, fun h => absurd h hcov⟩

variable (cur) in
theorem readWriteHolding_effect (h : Received s p (readWriteRequest ra rn wa ws))
    (hr : 1 ≤ rn.toNat ∧ rn.toNat ≤ 125) (hw : 1 ≤ ws.length ∧ ws.length ≤ 120) :
    ((eMBSlaveFuncReadWriteMultipleHoldingRegister cur p s).1 = .MB_EX_NONE ↔
        accepts cur ws (wa + 1) ∧ tableCovers cur.sMBRegHoldTable ra rn) ∧
      (eMBSlaveFuncReadWriteMultipleHoldingRegister cur p s).2.vars = byteAfter cur s.vars ws (wa + 1) ∧
      (accepts cur ws (wa + 1) → tableCovers cur.sMBRegHoldTable ra rn →
        Received (eMBSlaveFuncReadWriteMultipleHoldingRegister cur p s).2 p
          (wordsResponse MB_FUNC_READWRITE_MULTIPLE_REGISTERS
            (regHoldWords cur (byteAfter cur s.vars ws (wa + 1)) rn.toNat ra 0))) := by
  rw [readWriteMultipleHolding_eq h (by omega), if_pos ⟨hr, by omega⟩]
  by_cases hcov : tableCovers cur.sMBRegHoldTable (wa + 1) (BitVec.ofNat 16 ws.length) = true
  · rw [if_pos hcov, byteAfter_covered hcov, accepts_covered hcov s.vars]
    dsimp only
    by_cases hok : (regHoldAssign cur ws (wa + 1) s.vars).1 = .MB_ENOERR
    · rw [if_pos hok]
      by_cases hcov' : tableCovers cur.sMBRegHoldTable ra rn = true
      · rw [if_pos hcov']
        exact ⟨iff_of_true rfl ⟨hok, hcov'⟩, rfl, fun _ _ => Store.received_respond _ _ _⟩
      · rw [if_neg hcov']
        exact ⟨iff_of_false (by simp) fun h => hcov' h.2, rfl, fun _ h => absurd h hcov'⟩
    · rw [if_neg hok]
      exact ⟨iff_of_false (mt error2Exception_eq_none.mp hok) fun h => hok h.1, rfl, fun h => absurd h hok⟩
  · have hno := not_accepts_uncovered hcov
    rw [if_neg hcov, byteAfter_uncovered hcov]
    exact ⟨iff_of_false (by simp) fun h => hno h.1, rfl, fun h => absurd h hno⟩

/-- **Function code 23 equals function codes 16 and 3 exactly when the shift of the write address is
harmless.** -/
theorem readWrite_same_iff (hs : Received s p (readWriteRequest ra rn wa ws))
    (hu : Received u pu (writeRequest wa ws)) (ht : Received t pt (readRequest ra rn))
    (huv : u.vars = s.vars) (htv : t.vars = (eMBSlaveFuncWriteMultipleHoldingRegister cur pu u).2.vars)
    (hr : 1 ≤ rn.toNat ∧ rn.toNat ≤ 125) (hw : 1 ≤ ws.length ∧ ws.length ≤ 120) :
    SameAsTwo cur s u t p pu pt ↔ ShiftHarmless cur s.vars ra rn wa ws := by
  obtain ⟨w1, w2⟩ := writeMultipleHolding_effect cur hu hw
  obtain ⟨r1, r2, r3⟩ := readHolding_effect cur ht hr
  obtain ⟨b1, b2, b3⟩ := readWriteHolding_effect cur hs hr hw
  rw [huv] at w2
  constructor
  · rintro ⟨hvars, hwords, hexc⟩
    rw [b2, r2, htv, w2] at hvars
    refine ⟨fun b => congrFun hvars b, ?_⟩
    intro hcov
    rw [w1, r1, b1] at hwords
    rw [ne_eq, ne_eq, ne_eq, w1, r1, b1] at hexc
    cases hacc : accepts cur ws wa with
    | true => exact (hwords hacc hcov).1.1
    | false =>
      by_contra h
      exact hexc (Or.inl (by simp [hacc])) ⟨by simpa using h, hcov⟩
  · rintro ⟨hbyte, hacc⟩
    have hv : byteAfter cur s.vars ws (wa + 1) = byteAfter cur s.vars ws wa := funext hbyte
    refine ⟨by rw [b2, r2, htv, w2, hv], fun h16 h3 => ?_, fun h h23 => ?_⟩
    · have hcov := r1.mp h3
      have h16' : accepts cur ws (wa + 1) = true := by rw [hacc hcov]; exact w1.mp h16
      refine ⟨b1.mpr ⟨h16', hcov⟩, _, r3 hcov, ?_⟩
      rw [htv, w2, ← hv]
      exact b3 h16' hcov
    · obtain ⟨h16', hcov⟩ := b1.mp h23
      rw [hacc hcov] at h16'
      exact h.elim (fun h => h (w1.mpr h16')) fun h => h (r1.mpr hcov)

end Compare

/-! ### One register -/

/-- The stores a request for the word `w` at `wa` and a read of the address 3 are received in, with the
variables at 0: by function code 23, 16 and then 3. -/
def storeReadWrite (wa w : USHORT) : Store := storeOf 7 (readWriteRequest 3 1 wa [w]) fun _ => 0
def storeWrite (wa w : USHORT) : Store := storeOf 7 (writeRequest wa [w]) fun _ => 0
def storeRead (wa w : USHORT) : Store :=
  storeOf 7 (readRequest 3 1) (eMBSlaveFuncWriteMultipleHoldingRegister oneRegister 7 (storeWrite wa w)).2.vars

/-- A write at the unmapped address 5 has no effect, at 6 neither. -/
theorem readWrite_same_unmapped :
    SameAsTwo oneRegister (storeReadWrite 5 500) (storeWrite 5 500) (storeRead 5 500) 7 7 7 := by
  have hs : Received (storeReadWrite 5 500) 7 (readWriteRequest 3 1 5 [500]) := received_storeOf _ _ _
  have hu : Received (storeWrite 5 500) 7 (writeRequest 5 [500]) := received_storeOf _ _ _
  have ht : Received (storeRead 5 500) 7 (readRequest 3 1) := received_storeOf _ _ _
  refine (readWrite_same_iff hs hu ht rfl rfl (by decide) (by decide)).mpr ⟨fun b => ?_, fun _ => by decide⟩
  rw [byteAfter, byteAfter, if_pos (by decide), if_pos (by decide)]
  rfl

/-- **A write of 500 at the register's own address 3** goes to the address 4 by function code 23: the
variable stays at 0. -/
theorem readWrite_differs :
    ¬ SameAsTwo oneRegister (storeReadWrite 3 500) (storeWrite 3 500) (storeRead 3 500) 7 7 7 := by
  intro h
  exact absurd (congrFun h.vars 0) (by decide)

end GreeIntense.Slave

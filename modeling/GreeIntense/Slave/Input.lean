import GreeIntense.Slave.CoilsSpec

/-!
# The input-register handler (`mbfuncinput.c`)

Function code 4.  The callback reads `pvRegInValue->ucAccessMode` before the test of the pointer, as the
bit loops do, and its local `usRegInValue` starts uninitialised: the model takes its first value as an
argument.
-/

namespace GreeIntense.Slave

open Lib.Memory

variable (cur : sMBSlaveCommData)

/-- One pass of the loop for an entry: the word put into the buffer, and the value left in
`usRegInValue`. -/
def regInRead (vars : Mem) (e : sMBSlaveRegData) (usRegInValue : USHORT) : USHORT × USHORT :=
  match e.pvValue with
  | some p =>
    let v := regValue vars e p usRegInValue
    (v, v)
  | none => (0, usRegInValue)

/-- The loop over `usNRegs` registers. -/
def regInLoop (vars : Mem) :
    ℕ → USHORT → Option sMBSlaveRegData → USHORT → ℕ → Mem → Option (eMBErrorCode × Mem)
  | 0, _, _, _, _, buf => some (.MB_ENOERR, buf)
  | usNRegs + 1, iRegIndex, pv, usRegInValue, pucRegBuffer, buf =>
    match (eMBSlaveRegInMap cur iRegIndex pv).2 with
    | none => none
    | some e =>
      if e.ucAccessMode = .WO then some (.MB_ENOREG, buf)
      else
        let r := regInRead vars e usRegInValue
        regInLoop vars usNRegs (iRegIndex + 1) (some e) r.2 (pucRegBuffer + 2) (storeBE buf pucRegBuffer r.1)

def eMBSlaveRegInputCB (usRegInValue : USHORT) (s : Store) (pucRegBuffer : ℕ) (usAddress usNRegs : USHORT) :
    Option (eMBErrorCode × Store) :=
  if tableCovers cur.sMBRegInTable usAddress usNRegs then
    (regInLoop cur s.vars usNRegs.toNat usAddress none usRegInValue pucRegBuffer s.ucRcvBuf).map fun r =>
      (r.1, { s with ucRcvBuf := r.2 })
  else some (.MB_ENOREG, s)

/-- Function code 4: address at 1, count at 3. -/
def eMBSlaveFuncReadInputRegister (usRegInValue : USHORT) (pucFrame : ℕ) (s : Store) :
    Option (eMBException × Store) :=
  if s.usLength = 5 then
    let usRegAddress := loadBE s.ucRcvBuf (pucFrame + 1)
    let usRegCount := loadBE s.ucRcvBuf (pucFrame + 3)
    if usRegCount ≥ 1 ∧ usRegCount < 0x7D then
      let s := putHeader s pucFrame MB_FUNC_READ_INPUT_REGISTER (lo (usRegCount * 2))
      (eMBSlaveRegInputCB cur usRegInValue s (pucFrame + 2) usRegAddress usRegCount).map fun r =>
        if r.1 ≠ .MB_ENOERR then (prveMBSlaveError2Exception r.1, r.2)
        else (.MB_EX_NONE, { r.2 with usLength := r.2.usLength + usRegCount.toNat * 2 })
    else some (.MB_EX_ILLEGAL_DATA_VALUE, s)
  else some (.MB_EX_ILLEGAL_DATA_VALUE, s)

/-! ### On lists of words -/

/-- Read `n` input registers from `i` on: the status, and the words read up to a stop. -/
def regInRun (vars : Mem) : ℕ → USHORT → USHORT → Option (eMBErrorCode × List USHORT)
  | 0, _, _ => some (.MB_ENOERR, [])
  | n + 1, i, v =>
    match regIn cur i with
    | none => none
    | some e =>
      if e.ucAccessMode = .WO then some (.MB_ENOREG, [])
      else
        let r := regInRead vars e v
        (regInRun vars n (i + 1) r.2).map fun w => (w.1, r.1 :: w.2)

variable {cur}

/-- **The loop stores the words read.** -/
theorem regInLoop_eq (vars : Mem) (n : ℕ) (i : USHORT) (pv : Option sMBSlaveRegData) (v : USHORT) (p : ℕ)
    (buf : Mem) (hpv : pv = none ∨ ∃ y, pv = regIn cur y) :
    regInLoop cur vars n i pv v p buf =
      (regInRun cur vars n i v).map fun r => (r.1, storeList buf p (beBytes r.2)) := by
  induction n generalizing i pv v p buf with
  | zero => rfl
  | succ n ih =>
    have hmap : (eMBSlaveRegInMap cur i pv).2 = regIn cur i := slaveMap_snd hpv i
    simp only [regInLoop, regInRun, hmap]
    cases he : regIn cur i with
    | none => rfl
    | some e =>
      dsimp only
      split
      · rfl
      · rw [ih _ _ _ _ _ (Or.inr ⟨i, he.symm⟩), Option.map_map]
        rfl

/-- **Function code 4 on the bytes in the buffer.** -/
theorem readInput_eq {s : Store} {p : ℕ} {a n v : USHORT} (hlen : s.usLength = 5)
    (h1 : loadBE s.ucRcvBuf (p + 1) = a) (h3 : loadBE s.ucRcvBuf (p + 3) = n) :
    eMBSlaveFuncReadInputRegister cur v p s =
      if 1 ≤ n.toNat ∧ n.toNat < 0x7D then
        if tableCovers cur.sMBRegInTable a n then
          (regInRun cur s.vars n.toNat a v).map fun r =>
            (prveMBSlaveError2Exception r.1,
              { s with
                ucRcvBuf := storeList s.ucRcvBuf p
                  (MB_FUNC_READ_INPUT_REGISTER :: BitVec.ofNat 8 (2 * n.toNat) :: beBytes r.2)
                usLength := if r.1 = .MB_ENOERR then 2 + 2 * n.toNat else 2 })
        else some (.MB_EX_ILLEGAL_DATA_ADDRESS,
          putHeader s p MB_FUNC_READ_INPUT_REGISTER (BitVec.ofNat 8 (2 * n.toNat)))
      else some (.MB_EX_ILLEGAL_DATA_VALUE, s) := by
  unfold eMBSlaveFuncReadInputRegister
  simp only [h1, h3, lo_mul_two]
  have hc : (n ≥ (1 : USHORT) ∧ n < (0x7D : USHORT)) ↔ 1 ≤ n.toNat ∧ n.toNat < 0x7D := Iff.rfl
  rw [if_pos hlen, if_congr hc rfl rfl]
  by_cases hn : 1 ≤ n.toNat ∧ n.toNat < 0x7D
  · rw [if_pos hn, if_pos hn, eMBSlaveRegInputCB]
    by_cases hcov : tableCovers cur.sMBRegInTable a n = true
    · rw [if_pos hcov, if_pos hcov]
      simp only [regInLoop_eq _ _ _ _ _ _ _ (Or.inl rfl), Option.map_map]
      congr 1
      funext r
      by_cases hr : r.1 = .MB_ENOERR
      · simp only [Function.comp_apply, hr, putHeader, storeList, ne_eq, not_true_eq_false, if_false, if_true,
          Nat.mul_comm n.toNat 2]
        rfl
      · simp [hr, putHeader, storeList]
    · rw [if_neg hcov, if_neg hcov]
      rfl
  · rw [if_neg hn, if_neg hn]

end GreeIntense.Slave

import GreeIntense.Slave.Dict

/-!
# The holding-register handlers (`mbfuncholding.c`)

The callback `eMBSlaveRegHoldingCB` with its two loops, and the handlers of the function codes 16
(write multiple), 3 (read) and 23 (read and write).  `pucFrame` is the index of the PDU in the
receive buffer: request and response share the bytes from there on.

The loops are the source's: they go over the registers with the address `iRegIndex`, the entry
pointer left by the last map call and, when reading, the last value of `usRegHoldValue`.
-/

namespace GreeIntense.Slave

open Lib.Memory

variable (cur : sMBSlaveCommData)

/-! ### The callback -/

/-- One pass of the reading loop: the word put into the buffer, and the value left in
`usRegHoldValue`. -/
def regHoldRead (vars : Mem) (pv : Option sMBSlaveRegData) (usRegHoldValue : USHORT) : USHORT × USHORT :=
  match pv with
  | some e =>
    match e.pvValue with
    | some p =>
      if e.ucAccessMode ≠ .WO then
        let v := regValue vars e p usRegHoldValue
        (v, v)
      else (0, usRegHoldValue)
    | none => (0, usRegHoldValue)
  | none => (0, usRegHoldValue)

/-- The `MB_REG_READ` loop over `usNRegs` registers. -/
def regHoldReadLoop (vars : Mem) : ℕ → USHORT → Option sMBSlaveRegData → USHORT → ℕ → Mem → Mem
  | 0, _, _, _, _, buf => buf
  | usNRegs + 1, iRegIndex, pv, usRegHoldValue, pucRegBuffer, buf =>
    let pv := (eMBSlaveRegHoldMap cur iRegIndex pv).2
    let r := regHoldRead vars pv usRegHoldValue
    regHoldReadLoop vars usNRegs (iRegIndex + 1) pv r.2 (pucRegBuffer + 2) (storeBE buf pucRegBuffer r.1)

/-- The word an entry's variable is assigned for the word `w` of a request: scaled by the
transmission factor. -/
def regHoldScaled (e : sMBSlaveRegData) (w : USHORT) : USHORT :=
  if e.ucTmitMult ≠ 0 ∧ e.ucTmitMult ≠ 1 then tmitDiv w e.ucTmitMult else w

/-- The range check of an entry, in the entry's type. -/
def inRange (e : sMBSlaveRegData) (w : USHORT) : Bool :=
  match e.ucDataType with
  | .uint16 | .uint8 => e.usMinVal ≤ w ∧ w ≤ e.usMaxVal
  | .int16 => e.usMinVal.sle w ∧ w.sle e.usMaxVal
  | .int8 => (lo e.usMinVal).sle (lo w) ∧ (lo w).sle (lo e.usMaxVal)
  | .other => true

/-- The assignment to the variable at `p`, made when the value differs. -/
def regStore (vars : Mem) (t : DataType) (p : ℕ) (w : USHORT) : Mem :=
  match t with
  | .uint16 | .int16 => if w ≠ load16 vars p then store16 vars p w else vars
  | .uint8 => if w ≠ (vars p).setWidth 16 then store8 vars p (lo w) else vars
  | .int8 => if lo w ≠ vars p then store8 vars p (lo w) else vars
  | .other => vars

/-- One pass of the writing loop, on the word `w`; `none` is the return of `MB_EINVAL`. -/
def regHoldWrite (vars : Mem) (pv : Option sMBSlaveRegData) (w : USHORT) : Option Mem :=
  match pv with
  | some e =>
    match e.pvValue with
    | some p =>
      if e.ucAccessMode = .RO then none
      else
        let w := regHoldScaled e w
        if inRange e w then some (regStore vars e.ucDataType p w) else none
    | none => some vars
  | none => some vars

/-- The `MB_REG_WRITE` loop over `usNRegs` registers. -/
def regHoldWriteLoop (buf : Mem) : ℕ → USHORT → Option sMBSlaveRegData → ℕ → Mem → eMBErrorCode × Mem
  | 0, _, _, _, vars => (.MB_ENOERR, vars)
  | usNRegs + 1, iRegIndex, pv, pucRegBuffer, vars =>
    let pv := (eMBSlaveRegHoldMap cur iRegIndex pv).2
    match regHoldWrite vars pv (loadBE buf pucRegBuffer) with
    | none => (.MB_EINVAL, vars)
    | some vars => regHoldWriteLoop buf usNRegs (iRegIndex + 1) pv (pucRegBuffer + 2) vars

inductive eMBRegisterMode
  | MB_REG_READ | MB_REG_WRITE
  deriving DecidableEq, Repr

/-- The checks before the loops: a table with entries, and a range inside it. -/
def tableCovers {Entry : Type} (t : sMBSlaveDataTable Entry) (usAddress usNRegs : USHORT) : Bool :=
  t.pvDataBuf.isSome ∧ t.usDataCount ≠ 0 ∧
    t.usStartAddr ≤ usAddress ∧ usAddress.toNat + usNRegs.toNat - 1 ≤ t.usEndAddr.toNat

def eMBSlaveRegHoldingCB (s : Store) (pucRegBuffer : ℕ) (usAddress usNRegs : USHORT)
    (eMode : eMBRegisterMode) : eMBErrorCode × Store :=
  if tableCovers cur.sMBRegHoldTable usAddress usNRegs then
    match eMode with
    | .MB_REG_READ =>
      let buf := regHoldReadLoop cur s.vars usNRegs.toNat usAddress none 0 pucRegBuffer s.ucRcvBuf
      (.MB_ENOERR, { s with ucRcvBuf := buf })
    | .MB_REG_WRITE =>
      let r := regHoldWriteLoop cur s.ucRcvBuf usNRegs.toNat usAddress none pucRegBuffer s.vars
      (r.1, { s with vars := r.2 })
  else (.MB_ENOREG, s)

/-! ### The handlers -/

/-- Function code 16: address at 1, count at 3, byte count at 5, values from 6 on. -/
def eMBSlaveFuncWriteMultipleHoldingRegister (pucFrame : ℕ) (s : Store) : eMBException × Store :=
  if s.usLength ≥ 6 then
    let usRegAddress := loadBE s.ucRcvBuf (pucFrame + 1)
    let usRegCount := loadBE s.ucRcvBuf (pucFrame + 3)
    let ucRegByteCount := s.ucRcvBuf (pucFrame + 5)
    if usRegCount ≥ 1 ∧ usRegCount ≤ 0x78 ∧ ucRegByteCount = lo (2 * usRegCount) then
      let r := eMBSlaveRegHoldingCB cur s (pucFrame + 6) usRegAddress usRegCount .MB_REG_WRITE
      if r.1 ≠ .MB_ENOERR then (prveMBSlaveError2Exception r.1, r.2)
      else (.MB_EX_NONE, { r.2 with usLength := 5 })
    else (.MB_EX_ILLEGAL_DATA_VALUE, s)
  else (.MB_EX_ILLEGAL_DATA_VALUE, s)

/-- Put the function code and the byte count in front of a response. -/
def putHeader (s : Store) (pucFrame : ℕ) (ucFunc ucNBytes : UCHAR) : Store :=
  { s with ucRcvBuf := store8 (store8 s.ucRcvBuf pucFrame ucFunc) (pucFrame + 1) ucNBytes, usLength := 2 }

/-- Function code 3: address at 1, count at 3. -/
def eMBSlaveFuncReadHoldingRegister (pucFrame : ℕ) (s : Store) : eMBException × Store :=
  if s.usLength = 5 then
    let usRegAddress := loadBE s.ucRcvBuf (pucFrame + 1)
    let usRegCount := loadBE s.ucRcvBuf (pucFrame + 3)
    if usRegCount ≥ 1 ∧ usRegCount ≤ 0x7D then
      let s := putHeader s pucFrame MB_FUNC_READ_HOLDING_REGISTER (lo (usRegCount * 2))
      let r := eMBSlaveRegHoldingCB cur s (pucFrame + 2) usRegAddress usRegCount .MB_REG_READ
      if r.1 ≠ .MB_ENOERR then (prveMBSlaveError2Exception r.1, r.2)
      else (.MB_EX_NONE, { r.2 with usLength := r.2.usLength + usRegCount.toNat * 2 })
    else (.MB_EX_ILLEGAL_DATA_VALUE, s)
  else (.MB_EX_ILLEGAL_DATA_VALUE, s)

/-- Function code 23: read address at 1 and count at 3, write address at 5 and count at 7, byte
count at 9, values from 10 on.  The write address is incremented; a request shorter than 10 bytes
falls through to `MB_EX_NONE`. -/
def eMBSlaveFuncReadWriteMultipleHoldingRegister (pucFrame : ℕ) (s : Store) : eMBException × Store :=
  if s.usLength ≥ 10 then
    let usRegReadAddress := loadBE s.ucRcvBuf (pucFrame + 1)
    let usRegReadCount := loadBE s.ucRcvBuf (pucFrame + 3)
    let usRegWriteAddress := loadBE s.ucRcvBuf (pucFrame + 5) + 1
    let usRegWriteCount := loadBE s.ucRcvBuf (pucFrame + 7)
    let ucRegWriteByteCount := s.ucRcvBuf (pucFrame + 9)
    if usRegReadCount ≥ 1 ∧ usRegReadCount ≤ 0x7D ∧ usRegWriteCount ≥ 1 ∧ usRegWriteCount ≤ 0x79 ∧
        2 * usRegWriteCount.toNat = ucRegWriteByteCount.toNat then
      let r := eMBSlaveRegHoldingCB cur s (pucFrame + 10) usRegWriteAddress usRegWriteCount .MB_REG_WRITE
      if r.1 = .MB_ENOERR then
        let s := putHeader r.2 pucFrame MB_FUNC_READWRITE_MULTIPLE_REGISTERS (lo (usRegReadCount * 2))
        let r := eMBSlaveRegHoldingCB cur s (pucFrame + 2) usRegReadAddress usRegReadCount .MB_REG_READ
        if r.1 = .MB_ENOERR then
          (.MB_EX_NONE, { r.2 with usLength := r.2.usLength + 2 * usRegReadCount.toNat })
        else (prveMBSlaveError2Exception r.1, r.2)
      else (prveMBSlaveError2Exception r.1, r.2)
    else (.MB_EX_ILLEGAL_DATA_VALUE, s)
  else (.MB_EX_NONE, s)

end GreeIntense.Slave

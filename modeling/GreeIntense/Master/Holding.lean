import GreeIntense.MbFrame

/-!
# The master's holding registers (`mbfuncholding_m.c`, `mbmap_m.c`, `mbdict_m.h`)

For a slave device the master has a table of holding-register entries.  An entry points to a variable of
the application and keeps in `usPreVal` the value the device is taken to have.  The callback
`eMBMasterRegHoldingCB` brings the table up to date when a response has come: with the words of a read,
and after the acknowledgement of a write.

The four data types go through the same steps; `value`, `cast`, `inRange` are what differs.  The variables
are bytes of a memory, `pvValue` is an address in it.
-/

namespace GreeIntense.Master

open Lib.Memory

/-! ### The table of a device -/

/-- `sMasterRegHoldData` without `usPreVal`, which changes. -/
structure sMasterRegHoldData where
  usAddr : USHORT
  usMinVal : USHORT
  usMaxVal : USHORT
  ucDataType : DataType
  ucAccessMode : AccessMode
  ucTmitMult : UCHAR
  pvValue : Option ℕ

/-- `sMBDevDataTable`: the `usDataCount` entries at `pvDataBuf`, none for a null pointer. -/
structure sMBDevDataTable where
  pvDataBuf : List sMasterRegHoldData
  usStartAddr : USHORT
  usEndAddr : USHORT

/-- `sMBSlaveDevCommData`, the holding registers: the table and the application's map function. -/
structure sMBSlaveDevCommData where
  sMBRegHoldTable : sMBDevDataTable
  pxDevDataMapIndex : Option (USHORT → Option ℕ)

/-- What the callback works on: the variables, and `usPreVal` of the entries by index. -/
structure RegHolds where
  vars : Mem
  usPreVal : ℕ → USHORT

inductive eMasterRunMode
  | STATE_HEART_BEAT | STATE_SCAN_DEV | STATE_SCAN_DTU | STATE_TEST_DEV | STATE_SYSN_DEV
  deriving DecidableEq, Repr

namespace RegHolds

def setPre (r : RegHolds) (i : ℕ) (w : USHORT) : RegHolds :=
  { r with usPreVal := Function.update r.usPreVal i w }

def setVars (r : RegHolds) (vars : Mem) : RegHolds := { r with vars := vars }

@[simp] theorem setPre_vars (r : RegHolds) (i : ℕ) (w : USHORT) : (r.setPre i w).vars = r.vars := rfl

@[simp] theorem setVars_vars (r : RegHolds) (vars : Mem) : (r.setVars vars).vars = vars := rfl

@[simp] theorem setPre_same (r : RegHolds) (i : ℕ) (w : USHORT) : (r.setPre i w).usPreVal i = w :=
  Function.update_self ..

theorem setPre_ne (r : RegHolds) {i j : ℕ} (w : USHORT) (h : j ≠ i) :
    (r.setPre i w).usPreVal j = r.usPreVal j := Function.update_of_ne h _ _

end RegHolds

/-! ### Values in the type of an entry -/

/-- A word as a value of the type. -/
def cast (t : DataType) (w : USHORT) : USHORT :=
  match t with
  | .uint16 | .int16 | .other => w
  | .uint8 => (lo w).setWidth 16
  | .int8 => (lo w).signExtend 16

/-- The variable at `p`, as a word. -/
def value (t : DataType) (vars : Mem) (p : ℕ) : USHORT :=
  match t with
  | .uint16 | .int16 | .other => load16 vars p
  | .uint8 => (vars p).setWidth 16
  | .int8 => (vars p).signExtend 16

/-- The assignment of a word to the variable at `p`. -/
def assign (t : DataType) (vars : Mem) (p : ℕ) (w : USHORT) : Mem :=
  match t with
  | .uint16 | .int16 => store16 vars p w
  | .uint8 | .int8 => store8 vars p (lo w)
  | .other => vars

/-- The range check of the callback; with no known type nothing is in range. -/
def inRange (e : sMasterRegHoldData) (w : USHORT) : Bool :=
  match e.ucDataType with
  | .uint16 => e.usMinVal ≤ w ∧ w ≤ e.usMaxVal
  | .uint8 => lo e.usMinVal ≤ lo w ∧ lo w ≤ lo e.usMaxVal
  | .int16 => e.usMinVal.sle w ∧ w.sle e.usMaxVal
  | .int8 => (lo e.usMinVal).sle (lo w) ∧ (lo w).sle (lo e.usMaxVal)
  | .other => false

/-! ### The callback -/

variable (cur : sMBSlaveDevCommData)

/-- `eMBMasterRegHoldingMap`: the entry of an address, with its index. -/
def eMBMasterRegHoldingMap (usRegAddr : USHORT) : Option (ℕ × sMasterRegHoldData) :=
  match cur.pxDevDataMapIndex with
  | none => none
  | some f =>
    match f usRegAddr with
    | none => none
    | some usIndex => cur.sMBRegHoldTable.pvDataBuf[usIndex]?.map fun e => (usIndex, e)

/-- The word of a response in the entry's scale. -/
def readScaled (e : sMasterRegHoldData) (w : USHORT) : USHORT :=
  if e.ucTmitMult ≠ 0 ∧ e.ucTmitMult ≠ 1 then w / e.ucTmitMult.setWidth 16 else w

/-- One pass of the `MB_REG_READ` loop, on the entry `e` of index `i` and the word `w` of the response.
An `RW` variable that differs from its previous value is not assigned: it waits to be written. -/
def regHoldRead (eMBRunMode : eMasterRunMode) (i : ℕ) (e : sMasterRegHoldData) (w : USHORT) (r : RegHolds) :
    RegHolds :=
  match e.pvValue with
  | none => r
  | some p =>
    if e.ucAccessMode ≠ .WO then
      let w := readScaled e w
      if inRange e w then
        if e.ucAccessMode = .RW ∧ value e.ucDataType r.vars p ≠ cast e.ucDataType (r.usPreVal i) ∧
            eMBRunMode = .STATE_SCAN_DEV then
          r.setPre i (cast e.ucDataType w)
        else
          (r.setVars (assign e.ucDataType r.vars p w)).setPre i
            (if e.ucDataType = .int8 then cast .int8 w else w)
      else r
    else r

/-- The `MB_REG_READ` loop over `usNRegs` registers. -/
def regHoldReadLoop (eMBRunMode : eMasterRunMode) (buf : Mem) : ℕ → USHORT → ℕ → RegHolds → RegHolds
  | 0, _, _, r => r
  | usNRegs + 1, iRegIndex, pucRegBuffer, r =>
    let r := match eMBMasterRegHoldingMap cur iRegIndex with
      | some (i, e) => regHoldRead eMBRunMode i e (loadBE buf pucRegBuffer) r
      | none => r
    regHoldReadLoop eMBRunMode buf usNRegs (iRegIndex + 1) (pucRegBuffer + 2) r

/-- One pass of the `MB_REG_WRITE` loop: the value the variable has now becomes the previous value. -/
def regHoldWritten (i : ℕ) (e : sMasterRegHoldData) (r : RegHolds) : RegHolds :=
  match e.pvValue with
  | none => r
  | some p =>
    if e.ucAccessMode ≠ .RO then
      let w := value e.ucDataType r.vars p
      if inRange e w then r.setPre i w else r
    else r

/-- The `MB_REG_WRITE` loop over `usNRegs` registers. -/
def regHoldWrittenLoop : ℕ → USHORT → RegHolds → RegHolds
  | 0, _, r => r
  | usNRegs + 1, iRegIndex, r =>
    let r := match eMBMasterRegHoldingMap cur iRegIndex with
      | some (i, e) => regHoldWritten i e r
      | none => r
    regHoldWrittenLoop usNRegs (iRegIndex + 1) r

inductive eMBRegisterMode
  | MB_REG_READ | MB_REG_WRITE
  deriving DecidableEq, Repr

/-- `eMBMasterRegHoldingCB` for the device the request went to.  The address is one more than that of the
first register. -/
def eMBMasterRegHoldingCB (eMBRunMode : eMasterRunMode) (buf : Mem) (pucRegBuffer : ℕ) (usAddress usNRegs : USHORT)
    (eMode : eMBRegisterMode) (r : RegHolds) : eMBErrorCode × RegHolds :=
  if eMBRunMode ≠ .STATE_SCAN_DEV then (.MB_ENOERR, r)
  else if cur.sMBRegHoldTable.pvDataBuf = [] then (.MB_ENOREG, r)
  else
    let usAddress := usAddress - 1
    if usAddress < cur.sMBRegHoldTable.usStartAddr ∨
        (usAddress.toNat + usNRegs.toNat : ℤ) - 1 > cur.sMBRegHoldTable.usEndAddr.toNat then (.MB_ENOREG, r)
    else
      match eMode with
      | .MB_REG_READ => (.MB_ENOERR, regHoldReadLoop cur eMBRunMode buf usNRegs.toNat usAddress pucRegBuffer r)
      | .MB_REG_WRITE => (.MB_ENOERR, regHoldWrittenLoop cur usNRegs.toNat usAddress r)

/-! ### Requests and the handlers of their responses -/

def prveMBMasterError2Exception : eMBErrorCode → eMBException := prveMBSlaveError2Exception

/-- The PDU `eMBMasterReqWriteMultipleHoldingRegister` puts into the send buffer. -/
def eMBMasterReqWriteMultipleHoldingRegister (usRegAddr : USHORT) (pusDataBuffer : List USHORT) (ucSndBuf : Mem) :
    Mem :=
  let usNRegs : USHORT := BitVec.ofNat 16 pusDataBuffer.length
  storeList ucSndBuf 0 (MB_FUNC_WRITE_MULTIPLE_REGISTERS :: hi usRegAddr :: lo usRegAddr :: hi usNRegs ::
    lo usNRegs :: lo (2 * usNRegs) :: beBytes pusDataBuffer)

/-- The PDU `eMBMasterReqReadHoldingRegister` puts into the send buffer. -/
def eMBMasterReqReadHoldingRegister (usRegAddr usNRegs : USHORT) (ucSndBuf : Mem) : Mem :=
  storeList ucSndBuf 0 [MB_FUNC_READ_HOLDING_REGISTER, hi usRegAddr, lo usRegAddr, hi usNRegs, lo usNRegs]

/-- The response to a write: address and count are taken from the request in the send buffer. -/
def eMBMasterFuncWriteMultipleHoldingRegister (eMBRunMode : eMasterRunMode) (xFrameIsBroadcast : Bool)
    (ucSndBuf ucRcvBuf : Mem) (pucFrame usLen : ℕ) (r : RegHolds) : eMBException × RegHolds :=
  if usLen = 5 ∨ xFrameIsBroadcast then
    let usRegAddress := loadBE ucSndBuf 1 + 1
    let usRegCount := loadBE ucSndBuf 3
    let ucRegByteCount := ucSndBuf 5
    if ucRegByteCount.toNat = 2 * usRegCount.toNat then
      let c := eMBMasterRegHoldingCB cur eMBRunMode ucRcvBuf (pucFrame + 6) usRegAddress usRegCount .MB_REG_WRITE r
      if c.1 ≠ .MB_ENOERR then (prveMBMasterError2Exception c.1, c.2) else (.MB_EX_NONE, c.2)
    else (.MB_EX_ILLEGAL_DATA_VALUE, r)
  else (.MB_EX_ILLEGAL_DATA_VALUE, r)

/-- The response to a read: byte count at 1, values from 2 on. -/
def eMBMasterFuncReadHoldingRegister (eMBRunMode : eMasterRunMode) (xFrameIsBroadcast : Bool)
    (ucSndBuf ucRcvBuf : Mem) (pucRcvFrame usLen : ℕ) (r : RegHolds) : eMBException × RegHolds :=
  if xFrameIsBroadcast then (.MB_EX_NONE, r)
  else if usLen ≥ 2 then
    let usRegAddress := loadBE ucSndBuf 1 + 1
    let usRegCount := loadBE ucSndBuf 3
    if usRegCount ≥ 1 ∧ 2 * usRegCount.toNat = (ucRcvBuf (pucRcvFrame + 1)).toNat then
      let c := eMBMasterRegHoldingCB cur eMBRunMode ucRcvBuf (pucRcvFrame + 2) usRegAddress usRegCount .MB_REG_READ r
      if c.1 ≠ .MB_ENOERR then (prveMBMasterError2Exception c.1, c.2) else (.MB_EX_NONE, c.2)
    else (.MB_EX_ILLEGAL_DATA_VALUE, r)
  else (.MB_EX_ILLEGAL_DATA_VALUE, r)

end GreeIntense.Master

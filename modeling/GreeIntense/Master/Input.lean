import GreeIntense.Master.Coils

/-!
# The master's input registers (`mbfuncinput_m.c`, `mbmap_m.c`)

An input-register entry has a variable but no previous value: what the device sends is assigned, if it is in
range.  The callback checks the address range of the table, but goes through its loop all the same.  Three of the
range checks differ from those of the holding registers: that of `uint8` is made on words, and those of `int16` and
`int8` compare the word, or its low byte, without its sign with the signed limits (`cRegInValue` is a `CHAR`, a plain
`char`, which has no sign in this build).
-/

namespace GreeIntense.Master

open Lib.Memory

structure sMasterRegInData where
  usAddr : USHORT
  usMinVal : USHORT
  usMaxVal : USHORT
  ucDataType : DataType
  ucAccessMode : AccessMode
  ucTmitMult : UCHAR
  pvValue : Option ℕ

/-- `sMBSlaveDevCommData`, the input registers: the table and the application's map function. -/
structure sMBSlaveDevInputs where
  sMBRegInTable : sMBDevTable sMasterRegInData
  pxDevDataMapIndex : Option (USHORT → Option ℕ)

/-! ### The callback -/

/-- The word of a response in the entry's scale. -/
def regInScaled (e : sMasterRegInData) (w : USHORT) : USHORT :=
  if e.ucTmitMult ≠ 0 ∧ e.ucTmitMult ≠ 1 then w / e.ucTmitMult.setWidth 16 else w

/-- The range check of the callback. -/
def regInInRange (e : sMasterRegInData) (w : USHORT) : Bool :=
  match e.ucDataType with
  | .uint16 | .uint8 => e.usMinVal ≤ w ∧ w ≤ e.usMaxVal
  | .int16 => e.usMinVal.toInt ≤ w.toNat ∧ (w.toNat : ℤ) ≤ e.usMaxVal.toInt
  | .int8 => (lo e.usMinVal).toInt ≤ (lo w).toNat ∧ ((lo w).toNat : ℤ) ≤ (lo e.usMaxVal).toInt
  | .other => false

/-- One pass of the loop, on the entry `e` and the word `w` of the response. -/
def regInAssign (e : sMasterRegInData) (w : USHORT) (vars : Mem) : Mem :=
  match e.pvValue with
  | none => vars
  | some p =>
    if e.ucAccessMode ≠ .WO then
      let w := regInScaled e w
      if regInInRange e w then assign e.ucDataType vars p w else vars
    else vars

variable (cur : sMBSlaveDevInputs)

/-- `eMBMasterRegInMap`: the entry of an address. -/
def eMBMasterRegInMap (usRegAddr : USHORT) : Option sMasterRegInData :=
  match cur.pxDevDataMapIndex with
  | none => none
  | some f =>
    match f usRegAddr with
    | none => none
    | some usIndex => cur.sMBRegInTable.pvDataBuf[usIndex]?

/-- The loop over `usNRegs` registers. -/
def regInLoop (buf : Mem) : ℕ → USHORT → ℕ → Mem → Mem
  | 0, _, _, vars => vars
  | usNRegs + 1, iRegIndex, pucRegBuffer, vars =>
    let vars := match eMBMasterRegInMap cur iRegIndex with
      | some e => regInAssign e (loadBE buf pucRegBuffer) vars
      | none => vars
    regInLoop buf usNRegs (iRegIndex + 1) (pucRegBuffer + 2) vars

/-- `eMBMasterRegInputCB` for the device the request went to.  The address is one more than that of the first
register. -/
def eMBMasterRegInputCB (eMBRunMode : eMasterRunMode) (buf : Mem) (pucRegBuffer : ℕ) (usAddress usNRegs : USHORT)
    (vars : Mem) : eMBErrorCode × Mem :=
  if eMBRunMode ≠ .STATE_SCAN_DEV ∧ eMBRunMode ≠ .STATE_SCAN_DTU then (.MB_ENOERR, vars)
  else if cur.sMBRegInTable.pvDataBuf.isEmpty then (.MB_ENOREG, vars)
  else
    let usAddress := usAddress - 1
    let eStatus : eMBErrorCode :=
      if usAddress < cur.sMBRegInTable.usStartAddr ∨
          (usAddress.toNat + usNRegs.toNat : ℤ) - 1 > cur.sMBRegInTable.usEndAddr.toNat then .MB_ENOREG
      else .MB_ENOERR
    (eStatus, regInLoop cur buf usNRegs.toNat usAddress pucRegBuffer vars)

/-! ### Requests and the handler of their responses -/

/-- The PDU `eMBMasterReqReadInputRegister` puts into the send buffer. -/
def eMBMasterReqReadInputRegister (usRegAddr usNRegs : USHORT) (ucSndBuf : Mem) : Mem :=
  storeList ucSndBuf 0 [MB_FUNC_READ_INPUT_REGISTER, hi usRegAddr, lo usRegAddr, hi usNRegs, lo usNRegs]

/-- The response to a read: address and count are taken from the request in the send buffer, the byte count
stands at 1, the values from 2 on. -/
def eMBMasterFuncReadInputRegister (eMBRunMode : eMasterRunMode) (xFrameIsBroadcast : Bool)
    (ucSndBuf ucRcvBuf : Mem) (pucFrame usLen : ℕ) (vars : Mem) : eMBException × Mem :=
  if xFrameIsBroadcast then (.MB_EX_NONE, vars)
  else if usLen ≥ 2 then
    let usRegAddress := loadBE ucSndBuf 1 + 1
    let usRegCount := loadBE ucSndBuf 3
    if usRegCount ≥ 1 ∧ 2 * usRegCount.toNat = (ucRcvBuf (pucFrame + 1)).toNat then
      let c := eMBMasterRegInputCB cur eMBRunMode ucRcvBuf (pucFrame + 2) usRegAddress usRegCount vars
      if c.1 ≠ .MB_ENOERR then (prveMBMasterError2Exception c.1, c.2) else (.MB_EX_NONE, c.2)
    else (.MB_EX_ILLEGAL_DATA_VALUE, vars)
  else (.MB_EX_ILLEGAL_DATA_VALUE, vars)

variable {cur}

/-- When the master does not scan, the response changes nothing. -/
theorem readInput_synchronize (b : Bool) (snd rcv : Mem) (p n : ℕ) (vars : Mem) :
    (eMBMasterFuncReadInputRegister cur .STATE_SYSN_DEV b snd rcv p n vars).2 = vars := by
  have hcb (q : ℕ) (a c : USHORT) : eMBMasterRegInputCB cur .STATE_SYSN_DEV rcv q a c vars = (.MB_ENOERR, vars) := rfl
  unfold eMBMasterFuncReadInputRegister
  split
  · rfl
  · split
    · dsimp only
      rw [hcb]
      split <;> rfl
    · rfl

end GreeIntense.Master

import GreeIntense.Lib.Bits
import GreeIntense.Slave.Holding

/-!
# The coil handlers (`mbbits.c`, `mbfunccoils.c`)

The two bit loops with their inner loop over one byte, the callback, and the handlers of the function
codes 1 (read) and 15 (write multiple).

Both inner loops read `pucBitData->ucAccessMode` before the test of the pointer: on an unmapped
address the source reads through a null pointer.  A result `none` stands for that.
-/

namespace GreeIntense.Slave

open Lib.Memory

variable (cur : sMBSlaveCommData)

/-! ### The bit loops -/

/-- What a pass of a bit loop leaves: the status, the memory it works on, the address and the entry
pointer. -/
structure BitPass where
  status : eMBErrorCode
  mem : Mem
  usAddress : USHORT
  pucBitData : Option sMBSlaveBitData

/-- The assignment to the variable of a coil. -/
def setCoil (vars : Mem) (e : sMBSlaveBitData) (ucBit : UCHAR) : Mem :=
  match e.pvValue with
  | some p => store8 vars p ucBit
  | none => vars

/-- The byte after the bit `i` has been or-ed in for a coil. -/
def orCoil (vars : Mem) (e : sMBSlaveBitData) (i : ℕ) (ucByte : UCHAR) : UCHAR :=
  match e.pvValue with
  | some p => if vars p > 0 then ucByte ||| ((1 : UCHAR) <<< i) else ucByte
  | none => ucByte ||| ((0 : UCHAR) <<< i)

/-- `eMBSlaveUtilSetBits`, the loop over the bits `i` on of the byte `ucByte`. -/
def setByteLoop (ucByte : UCHAR) : ℕ → ℕ → USHORT → Option sMBSlaveBitData → Mem → Option BitPass
  | 0, _, usAddress, pv, vars => some ⟨.MB_ENOERR, vars, usAddress, pv⟩
  | iBits + 1, i, usAddress, pv, vars =>
    match (eMBSlaveCoilsMap cur usAddress pv).2 with
    | none => none
    | some e =>
      if e.ucAccessMode = .RO then some ⟨.MB_ENOREG, vars, usAddress, some e⟩
      else
        let ucBit := (ucByte &&& ((1 : UCHAR) <<< i)) >>> i
        setByteLoop ucByte iBits (i + 1) (usAddress + 1) (some e) (setCoil vars e ucBit)

/-- The number of bits of a pass of the outer loops: `iNReg` passes are left. -/
def passBits (iNReg usNPreBits : ℕ) : ℕ := if iNReg = 1 ∧ usNPreBits > 0 then usNPreBits else 8

/-- `eMBSlaveUtilSetBits`, the loop over `iNReg` bytes from `ucByteBuf` on. -/
def setBitsLoop (buf : Mem) (usNPreBits : ℕ) :
    ℕ → ℕ → USHORT → Option sMBSlaveBitData → Mem → Option (eMBErrorCode × Mem)
  | 0, _, _, _, vars => some (.MB_ENOERR, vars)
  | iNReg + 1, ucByteBuf, usAddress, pv, vars =>
    match setByteLoop cur (buf ucByteBuf) (passBits (iNReg + 1) usNPreBits) 0 usAddress pv vars with
    | none => none
    | some r =>
      if r.status = .MB_ENOERR then
        setBitsLoop buf usNPreBits iNReg (ucByteBuf + 1) r.usAddress r.pucBitData r.mem
      else some (r.status, r.mem)

def eMBSlaveUtilSetBits (s : Store) (ucByteBuf : ℕ) (usAddress usNBits : USHORT) :
    Option (eMBErrorCode × Store) :=
  (setBitsLoop cur s.ucRcvBuf (usNBits.toNat % 8) (usNBits.toNat / 8 + 1) ucByteBuf usAddress none s.vars).map
    fun r => (r.1, { s with vars := r.2 })

/-- `eMBSlaveUtilGetBits`, the loop over the bits `i` on of the byte at `ucByteBuf`. -/
def getByteLoop (vars : Mem) (ucByteBuf : ℕ) : ℕ → ℕ → USHORT → Option sMBSlaveBitData → Mem → Option BitPass
  | 0, _, usAddress, pv, buf => some ⟨.MB_ENOERR, buf, usAddress, pv⟩
  | iBits + 1, i, usAddress, pv, buf =>
    match (eMBSlaveCoilsMap cur usAddress pv).2 with
    | none => none
    | some e =>
      if e.ucAccessMode = .WO then some ⟨.MB_ENOREG, buf, usAddress, some e⟩
      else
        let buf := store8 buf ucByteBuf (orCoil vars e i (buf ucByteBuf))
        getByteLoop vars ucByteBuf iBits (i + 1) (usAddress + 1) (some e) buf

/-- `eMBSlaveUtilGetBits`, the loop over `iNReg` bytes from `ucByteBuf` on. -/
def getBitsLoop (vars : Mem) (usNPreBits : ℕ) :
    ℕ → ℕ → USHORT → Option sMBSlaveBitData → Mem → Option (eMBErrorCode × Mem)
  | 0, _, _, _, buf => some (.MB_ENOERR, buf)
  | iNReg + 1, ucByteBuf, usAddress, pv, buf =>
    let buf := store8 buf ucByteBuf 0
    match getByteLoop cur vars ucByteBuf (passBits (iNReg + 1) usNPreBits) 0 usAddress pv buf with
    | none => none
    | some r =>
      if r.status = .MB_ENOERR then
        getBitsLoop vars usNPreBits iNReg (ucByteBuf + 1) r.usAddress r.pucBitData r.mem
      else some (r.status, r.mem)

def eMBSlaveUtilGetBits (s : Store) (ucByteBuf : ℕ) (usAddress usNBits : USHORT) :
    Option (eMBErrorCode × Store) :=
  (getBitsLoop cur s.vars (usNBits.toNat % 8) (usNBits.toNat / 8 + 1) ucByteBuf usAddress none s.ucRcvBuf).map
    fun r => (r.1, { s with ucRcvBuf := r.2 })

/-! ### The callback and the handlers -/

inductive eMBBitMode
  | MB_BIT_READ | MB_BIT_WRITE
  deriving DecidableEq, Repr

def eMBSlaveRegCoilsCB (s : Store) (pucRegBuffer : ℕ) (usAddress usNCoils : USHORT) (eMode : eMBBitMode) :
    Option (eMBErrorCode × Store) :=
  if tableCovers cur.sMBCoilTable usAddress usNCoils then
    match eMode with
    | .MB_BIT_READ => eMBSlaveUtilGetBits cur s pucRegBuffer usAddress usNCoils
    | .MB_BIT_WRITE => eMBSlaveUtilSetBits cur s pucRegBuffer usAddress usNCoils
  else some (.MB_ENOREG, s)

/-- The byte count of a number of coils. -/
def coilBytes (usCoilCount : USHORT) : UCHAR :=
  if usCoilCount &&& 7 ≠ 0 then lo (usCoilCount / 8 + 1) else lo (usCoilCount / 8)

/-- Function code 1: address at 1, count at 3.  The address is incremented. -/
def eMBSlaveFuncReadCoils (pucFrame : ℕ) (s : Store) : Option (eMBException × Store) :=
  if s.usLength = 5 then
    let usRegAddress := loadBE s.ucRcvBuf (pucFrame + 1) + 1
    let usCoilCount := loadBE s.ucRcvBuf (pucFrame + 3)
    if usCoilCount ≥ 1 ∧ usCoilCount < 0x07D0 then
      let ucNBytes := coilBytes usCoilCount
      let s := putHeader s pucFrame MB_FUNC_READ_COILS ucNBytes
      (eMBSlaveRegCoilsCB cur s (pucFrame + 2) usRegAddress usCoilCount .MB_BIT_READ).map fun r =>
        if r.1 ≠ .MB_ENOERR then (prveMBSlaveError2Exception r.1, r.2)
        else (.MB_EX_NONE, { r.2 with usLength := r.2.usLength + ucNBytes.toNat })
    else some (.MB_EX_ILLEGAL_DATA_VALUE, s)
  else some (.MB_EX_ILLEGAL_DATA_VALUE, s)

/-- Function code 15: address at 1, count at 3, byte count at 5, values from 6 on. -/
def eMBSlaveFuncWriteMultipleCoils (pucFrame : ℕ) (s : Store) : Option (eMBException × Store) :=
  if s.usLength > 5 then
    let usCoilAddress := loadBE s.ucRcvBuf (pucFrame + 1)
    let usCoilCnt := loadBE s.ucRcvBuf (pucFrame + 3)
    let ucByteCount := s.ucRcvBuf (pucFrame + 5)
    let ucByteCountVerify := coilBytes usCoilCnt
    if usCoilCnt ≥ 1 ∧ usCoilCnt ≤ 0x07B0 ∧ ucByteCountVerify = ucByteCount then
      (eMBSlaveRegCoilsCB cur s (pucFrame + 6) usCoilAddress usCoilCnt .MB_BIT_WRITE).map fun r =>
        if r.1 ≠ .MB_ENOERR then (prveMBSlaveError2Exception r.1, r.2)
        else (.MB_EX_NONE, { r.2 with usLength := 5 })
    else some (.MB_EX_ILLEGAL_DATA_VALUE, s)
  else some (.MB_EX_ILLEGAL_DATA_VALUE, s)

end GreeIntense.Slave

import GreeIntense.Slave.Coils
import GreeIntense.Master.Holding

/-!
# The master's coils (`mbbits_m.c`, `mbfunccoils_m.c`, `mbmap_m.c`)

The table of coils of a device is built as that of the holding registers; an entry keeps in `ucPreVal` the
value the device is taken to have.  `eMBMasterUtilSetBits` works on the entries of a range: with the bits of
a read response, or after the acknowledgement of a write.

The number of bits of a pass (`passBits`) and the byte count of a request (`coilBytes`) are computed as in
the slave's files.
-/

namespace GreeIntense.Master

open Lib.Memory
open Slave (eMBBitMode passBits coilBytes)

/-! ### The table of a device -/

/-- `sMasterBitCoilData` without `ucPreVal`, which changes. -/
structure sMasterBitCoilData where
  usAddr : USHORT
  ucAccessMode : AccessMode
  pvValue : Option ℕ

/-- `sMBDevDataTable` for entries of another kind: no entry for a null pointer. -/
structure sMBDevTable (α : Type) where
  pvDataBuf : List α
  usStartAddr : USHORT
  usEndAddr : USHORT

/-- `sMBSlaveDevCommData`, the coils: the table and the application's map function. -/
structure sMBSlaveDevCoils where
  sMBCoilTable : sMBDevTable sMasterBitCoilData
  pxDevDataMapIndex : Option (USHORT → Option ℕ)

/-- What the callback works on: the variables, and `ucPreVal` of the entries by index. -/
structure Coils where
  vars : Mem
  ucPreVal : ℕ → UCHAR

namespace Coils

def setPre (r : Coils) (i : ℕ) (b : UCHAR) : Coils := { r with ucPreVal := Function.update r.ucPreVal i b }

def setVars (r : Coils) (vars : Mem) : Coils := { r with vars := vars }

@[simp] theorem setPre_vars (r : Coils) (i : ℕ) (b : UCHAR) : (r.setPre i b).vars = r.vars := rfl

@[simp] theorem setVars_vars (r : Coils) (vars : Mem) : (r.setVars vars).vars = vars := rfl

@[simp] theorem setPre_same (r : Coils) (i : ℕ) (b : UCHAR) : (r.setPre i b).ucPreVal i = b :=
  Function.update_self ..

theorem setPre_ne (r : Coils) {i j : ℕ} (b : UCHAR) (h : j ≠ i) : (r.setPre i b).ucPreVal j = r.ucPreVal j :=
  Function.update_of_ne h _ _

end Coils

/-! ### The bit loops -/

variable (cur : sMBSlaveDevCoils)

/-- `eMBMasterCoilMap`: the entry of an address with its index.  The pointer `pv` stays when there is none. -/
def eMBMasterCoilMap (usCoilAddr : USHORT) (pv : Option (ℕ × sMasterBitCoilData)) :
    Option (ℕ × sMasterBitCoilData) :=
  match cur.pxDevDataMapIndex with
  | none => pv
  | some f =>
    match f usCoilAddr with
    | none => pv
    | some usIndex =>
      match cur.sMBCoilTable.pvDataBuf[usIndex]? with
      | none => pv
      | some e => some (usIndex, e)

/-- One bit of a read response.  An `RW` coil that differs from its previous value is not assigned: it waits
to be written. -/
def coilRead (eMBRunMode : eMasterRunMode) (i : ℕ) (e : sMasterBitCoilData) (ucBit : UCHAR) (r : Coils) : Coils :=
  match e.pvValue with
  | none => r
  | some p =>
    if e.ucAccessMode ≠ .WO then
      if e.ucAccessMode = .RW ∧ r.vars p ≠ r.ucPreVal i ∧ eMBRunMode = .STATE_SCAN_DEV then r.setPre i ucBit
      else (r.setVars (store8 r.vars p ucBit)).setPre i ucBit
    else r

/-- `MB_BIT_READ`, the loop over the bits `i` on of the byte `ucByte`: the address after it, too. -/
def setByteLoop (eMBRunMode : eMasterRunMode) (ucByte : UCHAR) : ℕ → ℕ → USHORT → Coils → USHORT × Coils
  | 0, _, usAddress, r => (usAddress, r)
  | iBits + 1, i, usAddress, r =>
    let ucBit := (ucByte &&& ((1 : UCHAR) <<< i)) >>> i
    let r := match eMBMasterCoilMap cur usAddress none with
      | some (j, e) => coilRead eMBRunMode j e ucBit r
      | none => r
    setByteLoop eMBRunMode ucByte iBits (i + 1) (usAddress + 1) r

/-- `MB_BIT_READ`, the loop over `iNReg` bytes from `ucByteBuf` on. -/
def setBitsLoop (eMBRunMode : eMasterRunMode) (buf : Mem) (usNPreBits : ℕ) : ℕ → ℕ → USHORT → Coils → Coils
  | 0, _, _, r => r
  | iNReg + 1, ucByteBuf, usAddress, r =>
    let s := setByteLoop cur eMBRunMode (buf ucByteBuf) (passBits (iNReg + 1) usNPreBits) 0 usAddress r
    setBitsLoop eMBRunMode buf usNPreBits iNReg (ucByteBuf + 1) s.1 s.2

/-- One coil of an acknowledgement: the value the variable has now becomes the previous value. -/
def coilWritten (i : ℕ) (e : sMasterBitCoilData) (r : Coils) : Coils :=
  match e.pvValue with
  | none => r
  | some p => if e.ucAccessMode ≠ .RO then r.setPre i (r.vars p) else r

/-- `MB_BIT_WRITE`, the loop: `iNReg` passes over a coil each.  The pointer is not reset between them. -/
def writtenBitsLoop : ℕ → USHORT → Option (ℕ × sMasterBitCoilData) → Coils → Coils
  | 0, _, _, r => r
  | iNReg + 1, usAddress, pv, r =>
    let pv := eMBMasterCoilMap cur usAddress pv
    let r := match pv with
      | some (i, e) => coilWritten i e r
      | none => r
    writtenBitsLoop iNReg (usAddress + 1) pv r

def eMBMasterUtilSetBits (eMBRunMode : eMasterRunMode) (buf : Mem) (ucByteBuf : ℕ) (usAddress usNBits : USHORT)
    (eMode : eMBBitMode) (r : Coils) : eMBErrorCode × Coils :=
  let iNReg := usNBits.toNat / 8 + 1
  match eMode with
  | .MB_BIT_READ => (.MB_ENOERR, setBitsLoop cur eMBRunMode buf (usNBits.toNat % 8) iNReg ucByteBuf usAddress r)
  | .MB_BIT_WRITE => (.MB_ENOERR, writtenBitsLoop cur iNReg usAddress none r)

/-! ### The callback -/

/-- `eMBMasterRegCoilsCB` for the device the request went to.  The address is one more than that of the first
coil. -/
def eMBMasterRegCoilsCB (eMBRunMode : eMasterRunMode) (buf : Mem) (pucRegBuffer : ℕ) (usAddress usNCoils : USHORT)
    (eMode : eMBBitMode) (r : Coils) : eMBErrorCode × Coils :=
  if cur.sMBCoilTable.pvDataBuf = [] then (.MB_ENOREG, r)
  else
    let usAddress := usAddress - 1
    if usAddress ≥ cur.sMBCoilTable.usStartAddr ∧
        (usAddress.toNat + usNCoils.toNat : ℤ) - 1 ≤ cur.sMBCoilTable.usEndAddr.toNat then
      eMBMasterUtilSetBits cur eMBRunMode buf pucRegBuffer usAddress usNCoils eMode r
    else (.MB_ENOREG, r)

/-! ### Requests and the handlers of their responses -/

/-- The PDU `eMBMasterReqReadCoils` puts into the send buffer. -/
def eMBMasterReqReadCoils (usCoilAddr usNCoils : USHORT) (ucSndBuf : Mem) : Mem :=
  storeList ucSndBuf 0 [MB_FUNC_READ_COILS, hi usCoilAddr, lo usCoilAddr, hi usNCoils, lo usNCoils]

/-- The PDU `eMBMasterReqWriteMultipleCoils` puts into the send buffer: of the data as many bytes as it
counts. -/
def eMBMasterReqWriteMultipleCoils (usCoilAddr usNCoils : USHORT) (pucDataBuffer ucSndBuf : Mem) : Mem :=
  let ucByteCount := coilBytes usNCoils
  storeList ucSndBuf 0 (MB_FUNC_WRITE_MULTIPLE_COILS :: hi usCoilAddr :: lo usCoilAddr :: hi usNCoils ::
    lo usNCoils :: ucByteCount :: (List.range ucByteCount.toNat).map pucDataBuffer)

/-- The response to a read: address and count are taken from the request in the send buffer, the byte count
stands at 1, the values from 2 on. -/
def eMBMasterFuncReadCoils (eMBRunMode : eMasterRunMode) (xFrameIsBroadcast : Bool) (ucSndBuf ucRcvBuf : Mem)
    (pucFrame usLen : ℕ) (r : Coils) : eMBException × Coils :=
  if xFrameIsBroadcast then (.MB_EX_NONE, r)
  else if usLen ≥ 2 then
    let usCoilAddress := loadBE ucSndBuf 1 + 1
    let usCoilCount := loadBE ucSndBuf 3
    if usCoilCount ≥ 1 ∧ coilBytes usCoilCount = ucRcvBuf (pucFrame + 1) then
      let c := eMBMasterRegCoilsCB cur eMBRunMode ucRcvBuf (pucFrame + 2) usCoilAddress usCoilCount .MB_BIT_READ r
      if c.1 ≠ .MB_ENOERR then (prveMBMasterError2Exception c.1, c.2) else (.MB_EX_NONE, c.2)
    else (.MB_EX_ILLEGAL_DATA_VALUE, r)
  else (.MB_EX_ILLEGAL_DATA_VALUE, r)

/-- The response to a write: address and count are taken from the response, the byte count from the request
in the send buffer. -/
def eMBMasterFuncWriteMultipleCoils (eMBRunMode : eMasterRunMode) (xFrameIsBroadcast : Bool)
    (ucSndBuf ucRcvBuf : Mem) (pucFrame usLen : ℕ) (r : Coils) : eMBException × Coils :=
  if usLen = 5 ∨ xFrameIsBroadcast then
    let usRegAddress := loadBE ucRcvBuf (pucFrame + 1) + 1
    let usCoilCnt := loadBE ucRcvBuf (pucFrame + 3)
    let ucByteCount := ucSndBuf 5
    if usCoilCnt ≥ 1 ∧ coilBytes usCoilCnt = ucByteCount then
      let c := eMBMasterRegCoilsCB cur eMBRunMode ucSndBuf 6 usRegAddress usCoilCnt .MB_BIT_WRITE r
      if c.1 ≠ .MB_ENOERR then (prveMBMasterError2Exception c.1, c.2) else (.MB_EX_NONE, c.2)
    else (.MB_EX_ILLEGAL_DATA_VALUE, r)
  else (.MB_EX_ILLEGAL_DATA_VALUE, r)

end GreeIntense.Master

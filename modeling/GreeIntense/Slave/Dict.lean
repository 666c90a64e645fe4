import GreeIntense.MbFrame

/-!
# The slave's data dictionary (`mbdict.h`, `mbmap.c`)

A table of entries for each kind of data and one map function of the application from addresses to
indices into the tables.  The three map functions of `mbmap.c` differ in the table and in the kind
they ask for: they are one definition here (`slaveMap`) at three values.

The application's variables live in one byte memory; an entry holds the address of its variable.
-/

namespace GreeIntense.Slave

open Lib.Memory

/-- `sMBSlaveRegData`: a register entry. -/
structure sMBSlaveRegData where
  usAddr : USHORT
  usMinVal : USHORT
  usMaxVal : USHORT
  ucTmitMult : UCHAR
  ucDataType : DataType
  ucAccessMode : AccessMode
  pvValue : Option ℕ

/-- `sMBSlaveBitData`: a coil entry. -/
structure sMBSlaveBitData where
  usAddr : USHORT
  ucAccessMode : AccessMode
  pvValue : Option ℕ

/-- `sMBSlaveDataTable`: `pvDataBuf` is the array the pointer addresses, by index. -/
structure sMBSlaveDataTable (Entry : Type) where
  pvDataBuf : Option (ℕ → Entry)
  usStartAddr : USHORT
  usEndAddr : USHORT
  usDataCount : ℕ

/-- `sMBSlaveCommData`: the tables and the application's map function. -/
structure sMBSlaveCommData where
  sMBRegInTable : sMBSlaveDataTable sMBSlaveRegData
  sMBRegHoldTable : sMBSlaveDataTable sMBSlaveRegData
  sMBCoilTable : sMBSlaveDataTable sMBSlaveBitData
  pxSlaveDataMapIndex : Option (eDataType → USHORT → Option ℕ)

/-- What the handlers work on: the bytes from `ucRcvBuf` on, `usLength`, and the application's
variables. -/
structure Store where
  ucRcvBuf : Mem
  usLength : ℕ
  vars : Mem

/-! ### The map functions -/

section Map

variable {Entry : Type}

/-- The common body of the map functions: the status and the entry pointer, which is the caller's
old one when there is no map function or no table. -/
def slaveMap (pxMap : Option (eDataType → USHORT → Option ℕ)) (t : sMBSlaveDataTable Entry) (ty : eDataType)
    (usAddr : USHORT) (pv : Option Entry) : eMBErrorCode × Option Entry :=
  match pxMap, t.pvDataBuf with
  | some f, some buf =>
    match f ty usAddr with
    | some usIndex => (.MB_ENOERR, some (buf usIndex))
    | none => (.MB_ENOREG, none)
  | _, _ => (.MB_EILLSTATE, pv)

/-- The entry an address is mapped to. -/
def lookup (pxMap : Option (eDataType → USHORT → Option ℕ)) (t : sMBSlaveDataTable Entry) (ty : eDataType)
    (usAddr : USHORT) : Option Entry := (slaveMap pxMap t ty usAddr none).2

/-- The pointer after a map call is the entry of the address, whatever address was mapped before. -/
theorem slaveMap_snd {pxMap : Option (eDataType → USHORT → Option ℕ)} {t : sMBSlaveDataTable Entry}
    {ty : eDataType} {pv : Option Entry} (hpv : pv = none ∨ ∃ y, pv = lookup pxMap t ty y) (x : USHORT) :
    (slaveMap pxMap t ty x pv).2 = lookup pxMap t ty x := by
  rcases hpv with rfl | ⟨y, rfl⟩
  · rfl
  · unfold lookup slaveMap
    rcases pxMap with _ | f <;> rcases t.pvDataBuf with _ | buf <;> rfl

end Map

variable (cur : sMBSlaveCommData)

def eMBSlaveRegInMap (usRegInAddr : USHORT) (pv : Option sMBSlaveRegData) :
    eMBErrorCode × Option sMBSlaveRegData :=
  slaveMap cur.pxSlaveDataMapIndex cur.sMBRegInTable .RegInputData usRegInAddr pv

def eMBSlaveRegHoldMap (usRegHoldAddr : USHORT) (pv : Option sMBSlaveRegData) :
    eMBErrorCode × Option sMBSlaveRegData :=
  slaveMap cur.pxSlaveDataMapIndex cur.sMBRegHoldTable .RegHoldData usRegHoldAddr pv

def eMBSlaveCoilsMap (usCoilAddr : USHORT) (pv : Option sMBSlaveBitData) :
    eMBErrorCode × Option sMBSlaveBitData :=
  slaveMap cur.pxSlaveDataMapIndex cur.sMBCoilTable .CoilData usCoilAddr pv

def regHold (x : USHORT) : Option sMBSlaveRegData :=
  lookup cur.pxSlaveDataMapIndex cur.sMBRegHoldTable .RegHoldData x

def regIn (x : USHORT) : Option sMBSlaveRegData :=
  lookup cur.pxSlaveDataMapIndex cur.sMBRegInTable .RegInputData x

def coil (x : USHORT) : Option sMBSlaveBitData :=
  lookup cur.pxSlaveDataMapIndex cur.sMBCoilTable .CoilData x

/-! ### The value of a register entry -/

/-- The word a register entry is read as: the variable in the entry's type, times the
transmission factor.  With another type the local variable keeps its last value `prev`. -/
def regValue (vars : Mem) (e : sMBSlaveRegData) (p : ℕ) (prev : USHORT) : USHORT :=
  let v := match e.ucDataType with
    | .uint16 => load16 vars p
    | .uint8 => (vars p).setWidth 16
    | .int16 => load16 vars p
    | .int8 => (vars p).signExtend 16
    | .other => prev
  if e.ucTmitMult ≠ 0 ∧ e.ucTmitMult ≠ 1 then v * e.ucTmitMult.setWidth 16 else v

end GreeIntense.Slave

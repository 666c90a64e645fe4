import GreeIntense.Lib.Memory

/-!
# The constants of `mbframe.h` and `mbproto.h`

The types both stacks share: the C integer types, the access modes and the data types of a table
entry, the kinds of data table, the function codes and the error codes.
-/

namespace GreeIntense

abbrev UCHAR := BitVec 8
abbrev USHORT := BitVec 16
abbrev ULONG := BitVec 32

/-- The access mode of an entry: `RW` 0, `WO` 1, `RO` 2. -/
inductive AccessMode
  | RW | WO | RO
  deriving DecidableEq, Repr

/-- The data type of a register entry.  The stacks tell four codes apart; with any other code none
of their branches is taken. -/
inductive DataType
  | int8 | int16 | uint8 | uint16 | other
  deriving DecidableEq, Repr

/-- The bytes a variable of the type occupies. -/
def DataType.size : DataType → ℕ
  | .int8 | .uint8 => 1
  | .int16 | .uint16 | .other => 2

theorem DataType.size_pos (t : DataType) : 0 < t.size := by cases t <;> decide

inductive eDataType
  | RegHoldData | RegInputData | CoilData | DiscInData
  deriving DecidableEq, Repr

inductive eMBErrorCode
  | MB_ENOERR | MB_ENOREG | MB_EINVAL | MB_EPORTERR | MB_ENORES | MB_EIO | MB_EILLSTATE | MB_ETIMEDOUT
  deriving DecidableEq, Repr

inductive eMBException
  | MB_EX_NONE | MB_EX_ILLEGAL_FUNCTION | MB_EX_ILLEGAL_DATA_ADDRESS | MB_EX_ILLEGAL_DATA_VALUE
  | MB_EX_SLAVE_DEVICE_FAILURE | MB_EX_SLAVE_BUSY
  deriving DecidableEq, Repr

/-- The code of an exception in an error frame. -/
def eMBException.code : eMBException → UCHAR
  | .MB_EX_NONE => 0x00
  | .MB_EX_ILLEGAL_FUNCTION => 0x01
  | .MB_EX_ILLEGAL_DATA_ADDRESS => 0x02
  | .MB_EX_ILLEGAL_DATA_VALUE => 0x03
  | .MB_EX_SLAVE_DEVICE_FAILURE => 0x04
  | .MB_EX_SLAVE_BUSY => 0x06

def prveMBSlaveError2Exception : eMBErrorCode → eMBException
  | .MB_ENOERR => .MB_EX_NONE
  | .MB_ENOREG => .MB_EX_ILLEGAL_DATA_ADDRESS
  | .MB_EINVAL => .MB_EX_ILLEGAL_DATA_VALUE
  | .MB_ETIMEDOUT => .MB_EX_SLAVE_BUSY
  | _ => .MB_EX_SLAVE_DEVICE_FAILURE

@[simp] theorem error2Exception_eq_none {e : eMBErrorCode} :
    prveMBSlaveError2Exception e = .MB_EX_NONE ↔ e = .MB_ENOERR := by
  cases e <;> simp [prveMBSlaveError2Exception]

/-! ### Consecutive addresses -/

@[simp] theorem add_ofNat_zero (i : USHORT) : i + BitVec.ofNat 16 0 = i := BitVec.add_zero i

theorem add_ofNat_succ (i : USHORT) (k : ℕ) : i + 1 + BitVec.ofNat 16 k = i + BitVec.ofNat 16 (k + 1) := by
  apply BitVec.eq_of_toNat_eq
  simp only [BitVec.toNat_add, BitVec.toNat_ofNat, show (1 : USHORT).toNat = 1 from rfl]
  omega

theorem add_ofNat_ne_add {i : USHORT} {k l : ℕ} (hkl : k < l) (hl : l < 65536) :
    i + BitVec.ofNat 16 k ≠ i + BitVec.ofNat 16 l := by
  intro h
  have := congrArg BitVec.toNat h
  simp only [BitVec.toNat_add, BitVec.toNat_ofNat] at this
  have := i.isLt
  omega

theorem add_ofNat_ne {i : USHORT} {k : ℕ} (h0 : 0 < k) (hk : k < 65536) : i ≠ i + BitVec.ofNat 16 k := by
  rw [← add_ofNat_zero i, add_ofNat_zero]
  simpa using add_ofNat_ne_add (i := i) h0 hk

/-- The consecutive addresses from `x` on, at most `n`, before the first one that is not `ok`. -/
def leading (ok : USHORT → Bool) : ℕ → USHORT → ℕ
  | 0, _ => 0
  | n + 1, x => if ok x then leading ok n (x + 1) + 1 else 0

theorem le_leading {ok : USHORT → Bool} {k n : ℕ} {x : USHORT} :
    k ≤ leading ok n x ↔ k ≤ n ∧ ∀ j < k, ok (x + BitVec.ofNat 16 j) := by
  induction n generalizing k x with
  | zero =>
    rw [leading]
    constructor
    · intro hk
      exact ⟨hk, fun j hj => absurd hj (by omega)⟩
    · intro h
      exact h.1
  | succ n ih =>
    rw [leading]
    cases k with
    | zero => simp
    | succ k =>
      split
      · rename_i hx
        rw [Nat.add_le_add_iff_right, ih, Nat.add_le_add_iff_right]
        refine and_congr_right fun _ => ⟨fun h j hj => ?_, fun h j hj => ?_⟩
        · cases j with
          | zero => simpa using hx
          | succ j =>
            rw [← add_ofNat_succ]
            exact h j (by omega)
        · rw [add_ofNat_succ]
          exact h (j + 1) (by omega)
      · rename_i hx
        refine ⟨fun h => absurd h (by omega), fun h => absurd ?_ hx⟩
        simpa using h.2 0 (by omega)

/-! ### Function codes -/

abbrev MB_FUNC_READ_COILS : UCHAR := 1
abbrev MB_FUNC_READ_HOLDING_REGISTER : UCHAR := 3
abbrev MB_FUNC_READ_INPUT_REGISTER : UCHAR := 4
abbrev MB_FUNC_WRITE_MULTIPLE_COILS : UCHAR := 15
abbrev MB_FUNC_WRITE_MULTIPLE_REGISTERS : UCHAR := 16
abbrev MB_FUNC_READWRITE_MULTIPLE_REGISTERS : UCHAR := 23
abbrev MB_FUNC_ERROR : UCHAR := 128

/-- The single-precision quotient of a word by a transmission factor, truncated to a word.  A word
is below `2 ^ 16` and a factor below `2 ^ 8`: the exact quotient, when no integer, is at least
`1 / 255` away from the next one and half a unit in the last place is at most `2 ^ (-9)`, so
rounding does not reach the next integer and the truncated result is the integer quotient. -/
def tmitDiv (w : USHORT) (ucTmitMult : UCHAR) : USHORT := w / ucTmitMult.setWidth 16

end GreeIntense

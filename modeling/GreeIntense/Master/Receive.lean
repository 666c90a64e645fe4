import GreeIntense.Master.WritePass
import GreeIntense.Master.ReadPass

/-!
# Frames on the line (`usMBCRC16` in `mbutils.c`, `eMBMasterRTUReceive` in `mbrtu_m.c`)

The checksum of a frame is computed with two tables, one for each of its bytes.  A frame is received when it has
at least four bytes and the checksum of all of them, its own included, is zero: so it is for every frame that
`eMBMasterRTUSend` makes (`receive_send`).
-/

namespace GreeIntense.Master

open Lib.Memory

/-! ### The checksum -/

def aucCRCHi : List UCHAR :=
  [0x00, 0xC1, 0x81, 0x40, 0x01, 0xC0, 0x80, 0x41, 0x01, 0xC0, 0x80, 0x41, 0x00, 0xC1, 0x81, 0x40,
    0x01, 0xC0, 0x80, 0x41, 0x00, 0xC1, 0x81, 0x40, 0x00, 0xC1, 0x81, 0x40, 0x01, 0xC0, 0x80, 0x41,
    0x01, 0xC0, 0x80, 0x41, 0x00, 0xC1, 0x81, 0x40, 0x00, 0xC1, 0x81, 0x40, 0x01, 0xC0, 0x80, 0x41,
    0x00, 0xC1, 0x81, 0x40, 0x01, 0xC0, 0x80, 0x41, 0x01, 0xC0, 0x80, 0x41, 0x00, 0xC1, 0x81, 0x40,
    0x01, 0xC0, 0x80, 0x41, 0x00, 0xC1, 0x81, 0x40, 0x00, 0xC1, 0x81, 0x40, 0x01, 0xC0, 0x80, 0x41,
    0x00, 0xC1, 0x81, 0x40, 0x01, 0xC0, 0x80, 0x41, 0x01, 0xC0, 0x80, 0x41, 0x00, 0xC1, 0x81, 0x40,
    0x00, 0xC1, 0x81, 0x40, 0x01, 0xC0, 0x80, 0x41, 0x01, 0xC0, 0x80, 0x41, 0x00, 0xC1, 0x81, 0x40,
    0x01, 0xC0, 0x80, 0x41, 0x00, 0xC1, 0x81, 0x40, 0x00, 0xC1, 0x81, 0x40, 0x01, 0xC0, 0x80, 0x41,
    0x01, 0xC0, 0x80, 0x41, 0x00, 0xC1, 0x81, 0x40, 0x00, 0xC1, 0x81, 0x40, 0x01, 0xC0, 0x80, 0x41,
    0x00, 0xC1, 0x81, 0x40, 0x01, 0xC0, 0x80, 0x41, 0x01, 0xC0, 0x80, 0x41, 0x00, 0xC1, 0x81, 0x40,
    0x00, 0xC1, 0x81, 0x40, 0x01, 0xC0, 0x80, 0x41, 0x01, 0xC0, 0x80, 0x41, 0x00, 0xC1, 0x81, 0x40,
    0x01, 0xC0, 0x80, 0x41, 0x00, 0xC1, 0x81, 0x40, 0x00, 0xC1, 0x81, 0x40, 0x01, 0xC0, 0x80, 0x41,
    0x00, 0xC1, 0x81, 0x40, 0x01, 0xC0, 0x80, 0x41, 0x01, 0xC0, 0x80, 0x41, 0x00, 0xC1, 0x81, 0x40,
    0x01, 0xC0, 0x80, 0x41, 0x00, 0xC1, 0x81, 0x40, 0x00, 0xC1, 0x81, 0x40, 0x01, 0xC0, 0x80, 0x41,
    0x01, 0xC0, 0x80, 0x41, 0x00, 0xC1, 0x81, 0x40, 0x00, 0xC1, 0x81, 0x40, 0x01, 0xC0, 0x80, 0x41,
    0x00, 0xC1, 0x81, 0x40, 0x01, 0xC0, 0x80, 0x41, 0x01, 0xC0, 0x80, 0x41, 0x00, 0xC1, 0x81, 0x40]

def aucCRCLo : List UCHAR :=
  [0x00, 0xC0, 0xC1, 0x01, 0xC3, 0x03, 0x02, 0xC2, 0xC6, 0x06, 0x07, 0xC7, 0x05, 0xC5, 0xC4, 0x04,
    0xCC, 0x0C, 0x0D, 0xCD, 0x0F, 0xCF, 0xCE, 0x0E, 0x0A, 0xCA, 0xCB, 0x0B, 0xC9, 0x09, 0x08, 0xC8,
    0xD8, 0x18, 0x19, 0xD9, 0x1B, 0xDB, 0xDA, 0x1A, 0x1E, 0xDE, 0xDF, 0x1F, 0xDD, 0x1D, 0x1C, 0xDC,
    0x14, 0xD4, 0xD5, 0x15, 0xD7, 0x17, 0x16, 0xD6, 0xD2, 0x12, 0x13, 0xD3, 0x11, 0xD1, 0xD0, 0x10,
    0xF0, 0x30, 0x31, 0xF1, 0x33, 0xF3, 0xF2, 0x32, 0x36, 0xF6, 0xF7, 0x37, 0xF5, 0x35, 0x34, 0xF4,
    0x3C, 0xFC, 0xFD, 0x3D, 0xFF, 0x3F, 0x3E, 0xFE, 0xFA, 0x3A, 0x3B, 0xFB, 0x39, 0xF9, 0xF8, 0x38,
    0x28, 0xE8, 0xE9, 0x29, 0xEB, 0x2B, 0x2A, 0xEA, 0xEE, 0x2E, 0x2F, 0xEF, 0x2D, 0xED, 0xEC, 0x2C,
    0xE4, 0x24, 0x25, 0xE5, 0x27, 0xE7, 0xE6, 0x26, 0x22, 0xE2, 0xE3, 0x23, 0xE1, 0x21, 0x20, 0xE0,
    0xA0, 0x60, 0x61, 0xA1, 0x63, 0xA3, 0xA2, 0x62, 0x66, 0xA6, 0xA7, 0x67, 0xA5, 0x65, 0x64, 0xA4,
    0x6C, 0xAC, 0xAD, 0x6D, 0xAF, 0x6F, 0x6E, 0xAE, 0xAA, 0x6A, 0x6B, 0xAB, 0x69, 0xA9, 0xA8, 0x68,
    0x78, 0xB8, 0xB9, 0x79, 0xBB, 0x7B, 0x7A, 0xBA, 0xBE, 0x7E, 0x7F, 0xBF, 0x7D, 0xBD, 0xBC, 0x7C,
    0xB4, 0x74, 0x75, 0xB5, 0x77, 0xB7, 0xB6, 0x76, 0x72, 0xB2, 0xB3, 0x73, 0xB1, 0x71, 0x70, 0xB0,
    0x50, 0x90, 0x91, 0x51, 0x93, 0x53, 0x52, 0x92, 0x96, 0x56, 0x57, 0x97, 0x55, 0x95, 0x94, 0x54,
    0x9C, 0x5C, 0x5D, 0x9D, 0x5F, 0x9F, 0x9E, 0x5E, 0x5A, 0x9A, 0x9B, 0x5B, 0x99, 0x59, 0x58, 0x98,
    0x88, 0x48, 0x49, 0x89, 0x4B, 0x8B, 0x8A, 0x4A, 0x4E, 0x8E, 0x8F, 0x4F, 0x8D, 0x4D, 0x4C, 0x8C,
    0x44, 0x84, 0x85, 0x45, 0x87, 0x47, 0x46, 0x86, 0x82, 0x42, 0x43, 0x83, 0x41, 0x81, 0x80, 0x40]

/-- The pass of the loop over one byte, on `(ucCRCHi, ucCRCLo)`. -/
def crcByte (s : UCHAR × UCHAR) (b : UCHAR) : UCHAR × UCHAR :=
  let iIndex := (s.2 ^^^ b).toNat
  (aucCRCLo.getD iIndex 0, s.1 ^^^ aucCRCHi.getD iIndex 0)

def usMBCRC16 (pucFrame : List UCHAR) : USHORT :=
  let s := pucFrame.foldl crcByte (0xFF, 0xFF)
  s.1 ++ s.2

/-- A byte that meets itself: the first entries of the tables are zero. -/
theorem crcByte_same (x y : UCHAR) : crcByte (x, y) y = (0, x) := by
  have hlo : aucCRCLo.getD 0 0 = 0 := rfl
  have hhi : aucCRCHi.getD 0 0 = 0 := rfl
  rw [crcByte, BitVec.xor_self, BitVec.toNat_ofNat, Nat.zero_mod, hlo, hhi]
  exact congrArg (Prod.mk 0) BitVec.xor_zero

/-- **A frame with its checksum has the checksum zero**: low byte first. -/
theorem crc_append (bs : List UCHAR) : usMBCRC16 (bs ++ [lo (usMBCRC16 bs), hi (usMBCRC16 bs)]) = 0 := by
  unfold usMBCRC16
  rw [List.foldl_append]
  generalize bs.foldl crcByte (0xFF, 0xFF) = s
  have hlo : crcByte s (lo (s.1 ++ s.2)) = (0, s.1) := by rw [lo_append, crcByte_same]
  have hhi : crcByte (0, s.1) (hi (s.1 ++ s.2)) = (0, 0) := by rw [hi_append, crcByte_same]
  rw [List.foldl_cons, hlo, List.foldl_cons, hhi]
  rfl

/-! ### The receiver -/

abbrev MB_SER_PDU_SIZE_MIN : ℕ := 4

/-- `eMBMasterRTUReceive`: the address of a frame, and where its PDU stands and how long it is. -/
def eMBMasterRTUReceive (ucRTURcvBuf : Mem) (usRcvBufferPos : ℕ) : Option (UCHAR × ℕ × ℕ) :=
  if usRcvBufferPos ≥ MB_SER_PDU_SIZE_MIN ∧ usMBCRC16 ((List.range usRcvBufferPos).map ucRTURcvBuf) = 0 then
    some (ucRTURcvBuf 0, 1, usRcvBufferPos - 1 - 2)
  else none

/-- The bytes that `eMBMasterRTUSend` leaves from `ucRTUSndBuf` on: the address, the PDU and their checksum. -/
theorem send_bytes (ucSlaveAddr : UCHAR) (ucRTUSndBuf : Mem) (usLength : ℕ) :
    let frame := eMBMasterRTUSend usMBCRC16 ucSlaveAddr usLength ucRTUSndBuf
    let bytes := ucSlaveAddr :: (List.range usLength).map fun j => ucRTUSndBuf (1 + j)
    (List.range frame.2).map frame.1 = bytes ++ [lo (usMBCRC16 bytes), hi (usMBCRC16 bytes)] := by
  intro frame bytes
  let buf := store8 ucRTUSndBuf 0 ucSlaveAddr
  have hbuf : (List.range (1 + usLength)).map buf = bytes := by
    rw [Nat.add_comm, List.range_succ_eq_map, List.map_cons, List.map_map]
    refine congrArg₂ List.cons (store8_same _ _ _) (List.map_congr_left fun j _ => ?_)
    rw [Function.comp_apply, Nat.add_comm 1 j]
    exact store8_ne _ _ _ _ (by omega)
  have hframe : frame.1 = store8 (store8 buf (1 + usLength) (lo (usMBCRC16 bytes))) (1 + usLength + 1)
      (hi (usMBCRC16 bytes)) := by
    rw [← hbuf]
    rfl
  have hcount : frame.2 = 1 + usLength + 2 := rfl
  rw [hcount, List.range_succ, List.range_succ, List.map_append, List.map_append, List.append_assoc]
  congr 1
  · rw [← hbuf]
    apply List.map_congr_left
    intro i hi
    have := List.mem_range.mp hi
    rw [hframe, store8_ne _ _ _ _ (by omega), store8_ne _ _ _ _ (by omega)]
  · simp only [List.map_cons, List.map_nil, List.singleton_append]
    rw [hframe, store8_same, store8_ne _ _ _ _ (by omega), store8_same]

theorem receive_holds {ucRTURcvBuf : Mem} {bs : List UCHAR} (h : Holds ucRTURcvBuf 0 bs) :
    eMBMasterRTUReceive ucRTURcvBuf bs.length =
      if bs.length ≥ MB_SER_PDU_SIZE_MIN ∧ usMBCRC16 bs = 0 then some (ucRTURcvBuf 0, 1, bs.length - 1 - 2)
      else none := by
  rw [eMBMasterRTUReceive, h.map_range]

/-- **What is sent is received**: the address, and the PDU behind it. -/
theorem receive_send (ucSlaveAddr : UCHAR) (ucRTUSndBuf : Mem) {usLength : ℕ} (h : 0 < usLength) :
    let frame := eMBMasterRTUSend usMBCRC16 ucSlaveAddr usLength ucRTUSndBuf
    eMBMasterRTUReceive frame.1 frame.2 = some (ucSlaveAddr, 1, usLength) ∧
      ∀ j < usLength, frame.1 (1 + j) = ucRTUSndBuf (1 + j) := by
  intro frame
  have hbytes := send_bytes ucSlaveAddr ucRTUSndBuf usLength
  have hcount : frame.2 = 1 + usLength + 2 := rfl
  have hoff : ∀ i < 1 + usLength, frame.1 i = store8 ucRTUSndBuf 0 ucSlaveAddr i := by
    intro i hi
    change store8 (store8 _ (1 + usLength) _) (1 + usLength + 1) _ i = _
    rw [store8_ne _ _ _ _ (by omega), store8_ne _ _ _ _ (by omega)]
  constructor
  · have hmin : 4 ≤ 1 + usLength + 2 := by omega
    have hlen : 1 + usLength + 2 - 1 - 2 = usLength := by omega
    have haddr : frame.1 0 = ucSlaveAddr := (hoff 0 (by omega)).trans (store8_same _ _ _)
    rw [eMBMasterRTUReceive, hbytes, if_pos ⟨hmin, crc_append _⟩, haddr, hcount, hlen]
  · intro j hj
    rw [hoff (1 + j) (by omega)]
    exact store8_ne _ _ _ _ (by omega)

end GreeIntense.Master

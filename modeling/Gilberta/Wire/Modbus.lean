import Gilberta.Wire.Checksum

/-!
# The checksum is CRC-16/Modbus

The definition of the checksum works bit by bit (`crc16Modbus`); the library works byte by byte
through a table, which the table generator of `main.cpp` once printed (`crc16TableGenerator`).

Both are the shift register of `Wire/Checksum.lean`: `crcWord` carries a bit of the definition to
one step of the register (`semiconj_crcWord`), so eight of them are the eight steps a byte of the
table amounts to (`crc16Byte_eq`), and the induction over the message is on the byte.
-/

namespace Gilberta

/-! ### The definition -/

/-- One bit: shift right, and XOR the polynomial if the bit shifted out was set. -/
def crc16Bit (crc : UInt16) : UInt16 :=
  if crc &&& 1 = 1 then (crc >>> 1) ^^^ 0xA001 else crc >>> 1

/-- One byte: XOR it into the low byte of the register, then eight bits. -/
def crc16Byte (crc : UInt16) (b : UInt8) : UInt16 := crc16Bit^[8] (crc ^^^ b.toUInt16)

/-- CRC-16/Modbus: all bits of the register set at the start, no final XOR. -/
def crc16Modbus (data : List UInt8) : UInt16 := data.foldl crc16Byte 0xFFFF

/-- The table generator of `main.cpp`. -/
def crc16TableGenerator : List UInt16 :=
  (List.range 256).map fun i ↦ crc16Bit^[8] (UInt16.ofNat i)

/-! ### The register runs the definition -/

theorem crcWord_injective : Function.Injective crcWord := by
  intro crc crc' h
  exact UInt16.toBitVec_inj.1 (congrArg Word16.toBitVec h)

theorem bitAt_crcWord_zero (crc : UInt16) : (crcWord crc).bitAt 0 = true ↔ crc &&& 1 = 1 := by
  have hand : crc.toBitVec &&& 1#16 = (BitVec.ofBool (crc.toBitVec.getLsbD 0)).setWidth 16 :=
    BitVec.and_one_eq_setWidth_ofBool_getLsbD
  have hiff : crc &&& 1 = 1 ↔ crc.toBitVec &&& 1#16 = 1#16 := UInt16.toBitVec_inj.symm
  show crc.toBitVec.getLsbD 0 = true ↔ _
  rw [hiff, hand]
  generalize crc.toBitVec.getLsbD 0 = b
  revert b
  decide

/-- **A bit of the definition is a step of the register.** -/
theorem semiconj_crcWord : Function.Semiconj crcWord crc16Bit crcRegister.step := by
  intro crc
  rw [crcRegister_step, crc16Bit]
  split
  · next h =>
    rw [if_pos ((bitAt_crcWord_zero crc).2 h)]
    rfl
  · next h =>
    rw [if_neg (mt (bitAt_crcWord_zero crc).1 h)]
    exact (add_zero _).symm

/-- **The byte step of the library is eight bits of the definition**, from every state of the
register. -/
theorem crc16Byte_eq (crc : UInt16) (b : UInt8) : crc16Byte crc b = crc16Step crc b := by
  refine crcWord_injective ?_
  have hxor : crcWord (crc ^^^ b.toUInt16) = crcWord crc + byteWord b := rfl
  rw [crc16Byte, (semiconj_crcWord.iterate_right 8).eq, hxor, crcWord_crc16Step]

/-- The table is the one its generator prints. -/
theorem crc16Table_eq_generator : crc16Table = crc16TableGenerator := by
  have hlen : crc16Table.length = 256 := by decide +kernel
  refine List.ext_getElem (by simpa [crc16TableGenerator] using hlen) fun i hi _ ↦ ?_
  have hi256 : i < 256 := by omega
  have hentry := table_eq ⟨i, hi256⟩
  have hword : (⟨BitVec.ofNat 16 i⟩ : Word16) = crcWord (UInt16.ofNat i) := rfl
  rw [hword, ← (semiconj_crcWord.iterate_right 8).eq] at hentry
  have hget := crcWord_injective hentry
  simpa [crc16TableGenerator, hi] using hget

/-! ### The whole message -/

/-- **The table-driven checksum is CRC-16/Modbus**, on every message. -/
theorem crc16ModbusFast_eq_crc16Modbus (data : List UInt8) :
    crc16ModbusFast data = crc16Modbus data := by
  have hfold : ∀ crc, data.foldl crc16Step crc = data.foldl crc16Byte crc := by
    induction data with
    | nil => exact fun _ ↦ rfl
    | cons b data ih =>
      intro crc
      rw [List.foldl_cons, List.foldl_cons, crc16Byte_eq, ih]
  exact hfold 0xFFFF

/-- The check value of CRC-16/Modbus, of the digits `123456789`. -/
example : crc16Modbus [0x31, 0x32, 0x33, 0x34, 0x35, 0x36, 0x37, 0x38, 0x39] = 0x4B37 := by
  decide +kernel

end Gilberta

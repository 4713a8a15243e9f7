import Gilberta.Foundations.ShiftRegister
import Gilberta.Wire.Glbio
import Mathlib.Algebra.Field.ZMod
import Mathlib.Data.ZMod.Basic
import Mathlib.Algebra.BigOperators.Fin

/-!
# What the checksum detects

`crc16_modbus_fast` is a linear shift register of 16 bits that is fed the bits of the payload, the
least significant bit of each byte first: `table_eq` checks the table entry by entry, and
`crcWord_crc16Step` reduces a byte to eight steps. What the checksum detects are then facts about
the register. A step is injective, so no error that lies within 16 consecutive bits cancels; and a
step keeps the parity of the register, so no error in an odd number of bits does.
-/

namespace Gilberta

/-! ### The register -/

/-- The states of the register, which are added bit by bit. -/
structure Word16 where
  /-- The bits. -/
  toBitVec : BitVec 16
  deriving DecidableEq

instance : Add Word16 := ⟨fun v w ↦ ⟨v.toBitVec ^^^ w.toBitVec⟩⟩

instance : Zero Word16 := ⟨⟨0#16⟩⟩

instance : Neg Word16 := ⟨fun v ↦ v⟩

instance : AddCommGroup Word16 where
  add_assoc u v w := congrArg Word16.mk (BitVec.xor_assoc u.toBitVec v.toBitVec w.toBitVec)
  zero_add _ := congrArg Word16.mk BitVec.zero_xor
  add_zero _ := congrArg Word16.mk BitVec.xor_zero
  neg_add_cancel _ := congrArg Word16.mk BitVec.xor_self
  add_comm v w := congrArg Word16.mk (BitVec.xor_comm v.toBitVec w.toBitVec)
  nsmul := nsmulRec
  zsmul := zsmulRec

namespace Word16

/-- A bit of a state. -/
def bitAt (v : Word16) (i : ℕ) : Bool := v.toBitVec.getLsbD i

theorem add_self (v : Word16) : v + v = 0 := congrArg Word16.mk BitVec.xor_self

@[simp] theorem bitAt_add (v w : Word16) (i : ℕ) : (v + w).bitAt i = (v.bitAt i ^^ w.bitAt i) :=
  BitVec.getLsbD_xor

@[simp] theorem bitAt_zero (i : ℕ) : (0 : Word16).bitAt i = false := BitVec.getLsbD_zero

theorem bitAt_of_ge (v : Word16) {i : ℕ} (h : 16 ≤ i) : v.bitAt i = false :=
  BitVec.getLsbD_of_ge v.toBitVec i h

theorem ext {v w : Word16} (h : ∀ i < 16, v.bitAt i = w.bitAt i) : v = w := by
  obtain ⟨v⟩ := v
  obtain ⟨w⟩ := w
  exact congrArg Word16.mk (BitVec.eq_of_getLsbD_eq h)

/-- The state with one bit set. -/
def single (i : ℕ) : Word16 := ⟨BitVec.twoPow 16 i⟩

@[simp] theorem bitAt_single (i j : ℕ) : (single i).bitAt j = (decide (i < 16) && decide (i = j)) :=
  BitVec.getLsbD_twoPow i j

/-- One place down. -/
def shift : Word16 →+ Word16 where
  toFun v := ⟨v.toBitVec >>> 1⟩
  map_zero' := congrArg Word16.mk BitVec.zero_ushiftRight
  map_add' v w := congrArg Word16.mk (BitVec.ushiftRight_xor_distrib v.toBitVec w.toBitVec 1)

@[simp] theorem bitAt_shift (v : Word16) (i : ℕ) : (shift v).bitAt i = v.bitAt (i + 1) := by
  show BitVec.getLsbD (v.toBitVec >>> 1) i = _
  rw [BitVec.getLsbD_ushiftRight, Nat.add_comm]
  rfl

/-- The polynomial of the checksum, `0xA001`. -/
def poly : Word16 := ⟨0xA001#16⟩

/-- The polynomial if the lowest bit is set. -/
def feedback : Word16 →+ Word16 where
  toFun v := if v.bitAt 0 then poly else 0
  map_zero' := rfl
  map_add' v w := by
    rw [bitAt_add]
    cases v.bitAt 0 <;> cases w.bitAt 0
    · exact (zero_add 0).symm
    · exact (zero_add poly).symm
    · exact (add_zero poly).symm
    · exact (add_self poly).symm

end Word16

open Word16

/-- The register of the checksum. -/
def crcRegister : ShiftRegister Word16 where
  step := shift + feedback
  input := single 0

theorem crcRegister_step (v : Word16) :
    crcRegister.step v = shift v + if v.bitAt 0 then poly else 0 := rfl

/-- The highest bit after a step is the lowest bit before it. -/
theorem bitAt_step_top (v : Word16) : (crcRegister.step v).bitAt 15 = v.bitAt 0 := by
  have hpoly : poly.bitAt 15 = true := by decide
  have htop : v.bitAt 16 = false := v.bitAt_of_ge (Nat.le_refl _)
  rw [crcRegister_step, bitAt_add, bitAt_shift, htop]
  cases v.bitAt 0
  · rfl
  · exact hpoly

/-- **No step loses anything.** -/
theorem step_injective : Function.Injective crcRegister.step := by
  refine (injective_iff_map_eq_zero _).2 fun v hv ↦ ?_
  have hlow : v.bitAt 0 = false := by
    rw [← bitAt_step_top, hv, bitAt_zero]
  rw [crcRegister_step, hlow] at hv
  refine Word16.ext fun i _ ↦ ?_
  cases i with
  | zero => rw [hlow, bitAt_zero]
  | succ i =>
    have hi := congrArg (bitAt · i) hv
    simpa using hi

theorem step_single {j : ℕ} (hj : j + 1 < 16) : crcRegister.step (single (j + 1)) = single j := by
  refine Word16.ext fun i _ ↦ ?_
  have hlow : (single (j + 1)).bitAt 0 = false := by simp
  have hj' : j < 16 := by omega
  rw [crcRegister_step, hlow, bitAt_add, bitAt_shift, bitAt_single, bitAt_single]
  simp [hj, hj']

/-- Up to 16 bits are fed as one word. -/
theorem crcRegister_run_eq {bs : List Bool} (h : bs.length ≤ 16) (s : Word16) :
    crcRegister.run s bs = crcRegister.step^[bs.length] (s + ShiftRegister.word single bs) :=
  crcRegister.run_eq_word rfl (fun _ hj ↦ step_single (Nat.lt_of_lt_of_le hj h)) s

theorem bitAt_word (bs : List Bool) (k i : ℕ) (hi : i < 16) :
    (ShiftRegister.word (fun j ↦ single (j + k)) bs).bitAt i =
      (decide (k ≤ i) && bs.getD (i - k) false) := by
  induction bs generalizing k with
  | nil => simp [ShiftRegister.word]
  | cons b bs ih =>
    have htail := ih (k + 1)
    have hshift : (fun j ↦ single (j + 1 + k)) = fun j ↦ single (j + (k + 1)) := by
      funext j
      rw [Nat.add_assoc, Nat.add_comm 1 k]
    rw [ShiftRegister.word, hshift, bitAt_add, htail, Nat.zero_add]
    rcases Nat.lt_trichotomy i k with hlt | rfl | hgt
    · have h₁ : ¬ k + 1 ≤ i := by omega
      have h₂ : ¬ k ≤ i := by omega
      have h₃ : k ≠ i := by omega
      cases b <;> simp [h₁, h₂, h₃]
    · cases b <;> simp [hi]
    · have h₁ : k + 1 ≤ i := by omega
      have h₂ : k ≤ i := by omega
      have h₃ : k ≠ i := by omega
      have h₄ : i - k = i - (k + 1) + 1 := by omega
      cases b <;> simp [h₁, h₂, h₃, h₄]

/-- **Up to 16 bits that are not all zero do not lead from zero to zero.** -/
theorem run_ne_zero {w : List Bool} (hlen : w.length ≤ 16) (hw : true ∈ w) :
    crcRegister.run 0 w ≠ 0 := by
  rw [crcRegister_run_eq hlen, zero_add]
  intro hzero
  have hword : ShiftRegister.word single w = 0 := by
    refine step_injective.iterate w.length ?_
    rw [hzero, ShiftRegister.iterate_zero]
  obtain ⟨i, hi, hget⟩ := List.mem_iff_getElem.1 hw
  have hbit := bitAt_word w 0 i (by omega)
  have hsame : (fun j ↦ single (j + 0)) = single := rfl
  rw [hsame, hword, bitAt_zero] at hbit
  simp [hi, hget] at hbit

/-! ### Parity -/

/-- The parity of the bits of a state. -/
def parity : Word16 →+ ZMod 2 where
  toFun v := ∑ i : Fin 16, if v.bitAt i then 1 else 0
  map_zero' := by simp
  map_add' v w := by
    rw [← Finset.sum_add_distrib]
    refine Finset.sum_congr rfl fun i _ ↦ ?_
    rw [bitAt_add]
    cases v.bitAt i <;> cases w.bitAt i <;> decide

/-- A step keeps the parity: the bit that is lost is made up for by the three bits of the
polynomial. -/
theorem parity_step (v : Word16) : parity (crcRegister.step v) = parity v := by
  have hshift : parity (shift v) + (if v.bitAt 0 then 1 else 0) = parity v := by
    show (∑ i : Fin 16, if (shift v).bitAt i then (1 : ZMod 2) else 0) + _ =
      ∑ i : Fin 16, if v.bitAt i then (1 : ZMod 2) else 0
    have htop : v.bitAt 16 = false := v.bitAt_of_ge (Nat.le_refl _)
    rw [Fin.sum_univ_castSucc, Fin.sum_univ_succ (n := 15)]
    simp [htop, add_comm]
  have hpoly : parity poly = 1 := by decide
  rw [crcRegister_step, map_add, apply_ite parity, hpoly, map_zero, hshift]

/-! ### The table -/

/-- A checksum as a state of the register. -/
def crcWord (crc : UInt16) : Word16 := ⟨crc.toBitVec⟩

/-- A byte in the lower half of the register. -/
def byteWord (b : UInt8) : Word16 := ⟨b.toBitVec.setWidth 16⟩

/-- The bits of a byte, the least significant one first. -/
def byteBits (b : UInt8) : List Bool := (List.range 8).map fun j ↦ b.toBitVec.getLsbD j

/-- The bits of some bytes: bit `j` of byte `i` is at position `8 * i + j`. -/
def bits (bytes : List UInt8) : List Bool := bytes.flatMap byteBits

@[simp] theorem length_byteBits (b : UInt8) : (byteBits b).length = 8 := by
  rw [byteBits, List.length_map, List.length_range]

/-- Every entry of the table is what eight steps make of its index. -/
theorem table_eq : ∀ x : Fin 256,
    crcWord (crc16Table.getD x 0) = crcRegister.step^[8] ⟨BitVec.ofNat 16 x⟩ := by
  decide +kernel

/-- As long as the bits that are shifted out are not set, steps are shifts. -/
theorem iterate_step_of_low {v : Word16} {n : ℕ} (h : ∀ i < n, v.bitAt i = false) (i : ℕ) :
    (crcRegister.step^[n] v).bitAt i = v.bitAt (i + n) := by
  induction n generalizing v with
  | zero => rfl
  | succ n ih =>
    have hlow : v.bitAt 0 = false := h 0 (Nat.succ_pos n)
    have hstep : crcRegister.step v = shift v := by
      rw [crcRegister_step, hlow]
      exact add_zero _
    have hrest : ∀ i < n, (shift v).bitAt i = false := by
      intro i hi
      rw [bitAt_shift]
      exact h (i + 1) (Nat.succ_lt_succ hi)
    rw [Function.iterate_succ_apply, hstep, ih hrest, bitAt_shift, Nat.add_assoc]

theorem bitAt_byteWord (b : UInt8) (i : ℕ) : (byteWord b).bitAt i = b.toBitVec.getLsbD i := by
  show BitVec.getLsbD (b.toBitVec.setWidth 16) i = _
  rw [BitVec.getLsbD_setWidth]
  rcases Nat.lt_or_ge i 8 with hi | hi
  · have h16 : i < 16 := by omega
    simp [h16]
  · rw [BitVec.getLsbD_of_ge _ _ hi, Bool.and_false]

/-- The lower half of a state. -/
def lowHalf (v : Word16) : Word16 := ⟨v.toBitVec &&& 0xFF#16⟩

/-- The upper half of a state. -/
def highHalf (v : Word16) : Word16 := ⟨v.toBitVec &&& 0xFF00#16⟩

theorem bitAt_lowHalf (v : Word16) {i : ℕ} (hi : i < 16) :
    (lowHalf v).bitAt i = (v.bitAt i && decide (i < 8)) := by
  have hmask : ∀ i : Fin 16, BitVec.getLsbD 0xFF#16 i = decide (i.val < 8) := by decide
  have hand : (lowHalf v).bitAt i = (v.bitAt i && BitVec.getLsbD 0xFF#16 i) := BitVec.getLsbD_and
  rw [hand, hmask ⟨i, hi⟩]

theorem bitAt_highHalf (v : Word16) {i : ℕ} (hi : i < 16) :
    (highHalf v).bitAt i = (v.bitAt i && decide (8 ≤ i)) := by
  have hmask : ∀ i : Fin 16, BitVec.getLsbD 0xFF00#16 i = decide (8 ≤ i.val) := by decide
  have hand : (highHalf v).bitAt i = (v.bitAt i && BitVec.getLsbD 0xFF00#16 i) := BitVec.getLsbD_and
  rw [hand, hmask ⟨i, hi⟩]

theorem lowHalf_add_highHalf (v : Word16) : lowHalf v + highHalf v = v := by
  refine Word16.ext fun i hi ↦ ?_
  rw [bitAt_add, bitAt_lowHalf v hi, bitAt_highHalf v hi]
  rcases Nat.lt_or_ge i 8 with h8 | h8
  · have hnot : ¬ 8 ≤ i := by omega
    simp [h8, hnot]
  · have hnot : ¬ i < 8 := by omega
    simp [h8, hnot]

/-- Eight steps replace the lower half by the entry of the table. -/
theorem iterate_step_lowHalf (v : Word16) : crcRegister.step^[8] (lowHalf v) =
    crcWord (crc16Table.getD (lowHalf v).toBitVec.toNat 0) := by
  have hlt : (lowHalf v).toBitVec.toNat < 256 := by
    have hle : (lowHalf v).toBitVec.toNat ≤ 255 := by
      rw [lowHalf, BitVec.toNat_and]
      exact Nat.and_le_right
    omega
  rw [table_eq ⟨_, hlt⟩, BitVec.ofNat_toNat, BitVec.setWidth_eq]

/-- Eight steps shift the upper half down. -/
theorem iterate_step_highHalf (v : Word16) :
    crcRegister.step^[8] (highHalf v) = ⟨v.toBitVec >>> 8⟩ := by
  have hlow : ∀ i < 8, (highHalf v).bitAt i = false := by
    intro i hi
    have hnot : ¬ 8 ≤ i := by omega
    rw [bitAt_highHalf v (by omega), decide_eq_false hnot, Bool.and_false]
  refine Word16.ext fun i hi ↦ ?_
  have hshift : (⟨v.toBitVec >>> 8⟩ : Word16).bitAt i = v.bitAt (i + 8) := by
    show BitVec.getLsbD (v.toBitVec >>> 8) i = _
    rw [BitVec.getLsbD_ushiftRight, Nat.add_comm]
    rfl
  rw [iterate_step_of_low hlow, hshift]
  rcases Nat.lt_or_ge (i + 8) 16 with h16 | h16
  · rw [bitAt_highHalf v h16, decide_eq_true (Nat.le_add_left 8 i), Bool.and_true]
  · rw [bitAt_of_ge _ h16, bitAt_of_ge _ h16]

/-- **A byte of the checksum is eight steps of the register.** -/
theorem crcWord_crc16Step (crc : UInt16) (b : UInt8) :
    crcWord (crc16Step crc b) = crcRegister.step^[8] (crcWord crc + byteWord b) := by
  have hcrc : crcWord (crc16Step crc b) = ⟨crc.toBitVec >>> 8⟩ +
      crcWord (crc16Table.getD (lowHalf (crcWord crc + byteWord b)).toBitVec.toNat 0) := rfl
  -- the byte does not reach the upper half
  have hupper : (crcWord crc + byteWord b).toBitVec >>> 8 = crc.toBitVec >>> 8 := by
    have hbyte : (b.toBitVec.setWidth 16) >>> 8 = 0#16 := by
      refine BitVec.eq_of_getLsbD_eq fun i _ ↦ ?_
      rw [BitVec.getLsbD_ushiftRight, BitVec.getLsbD_setWidth,
        BitVec.getLsbD_of_ge b.toBitVec _ (by omega), Bool.and_false, BitVec.getLsbD_zero]
    show (crc.toBitVec ^^^ b.toBitVec.setWidth 16) >>> 8 = _
    rw [BitVec.ushiftRight_xor_distrib, hbyte, BitVec.xor_zero]
  rw [hcrc, ← iterate_step_lowHalf, ← hupper, ← iterate_step_highHalf,
    ← ShiftRegister.iterate_add, add_comm (highHalf _), lowHalf_add_highHalf]

/-- **The checksum is the register, fed the bits of the payload.** -/
theorem crcWord_foldl (data : List UInt8) (crc : UInt16) :
    crcWord (data.foldl crc16Step crc) = crcRegister.run (crcWord crc) (bits data) := by
  induction data generalizing crc with
  | nil => rfl
  | cons b data ih =>
    have hlen : (byteBits b).length = 8 := length_byteBits b
    have hword : ShiftRegister.word single (byteBits b) = byteWord b := by
      refine Word16.ext fun i hi ↦ ?_
      have hbit := bitAt_word (byteBits b) 0 i hi
      have hsame : (fun j ↦ single (j + 0)) = single := rfl
      rw [hsame] at hbit
      rw [hbit, bitAt_byteWord, Nat.sub_zero]
      rcases Nat.lt_or_ge i 8 with h8 | h8
      · simp [byteBits, h8]
      · rw [List.getD_eq_getElem?_getD, List.getElem?_eq_none (by omega),
          BitVec.getLsbD_of_ge _ _ h8]
        rfl
    have hbyte : crcRegister.run (crcWord crc) (byteBits b) = crcWord (crc16Step crc b) := by
      rw [crcRegister_run_eq (by omega), hword, hlen, crcWord_crc16Step]
    rw [List.foldl_cons, ih, ← hbyte, ← ShiftRegister.run_append]
    rfl

/-! ### Altered datagrams -/

/-- The error pattern between two payloads, bit by bit. -/
theorem bits_zipWith {data e : List UInt8} (h : e.length = data.length) :
    bits (List.zipWith (· ^^^ ·) data e) = List.zipWith (· ^^ ·) (bits data) (bits e) := by
  induction data generalizing e with
  | nil => rfl
  | cons b data ih =>
    rcases e with - | ⟨x, e⟩
    · cases h
    · have hbyte : byteBits (b ^^^ x) = List.zipWith (· ^^ ·) (byteBits b) (byteBits x) := by
        rw [byteBits, byteBits, byteBits, List.zipWith_map, List.zipWith_self]
        refine List.map_congr_left fun j _ ↦ ?_
        exact BitVec.getLsbD_xor
      have hrest := ih (Nat.succ.inj h)
      have hlen : (byteBits b).length = (byteBits x).length := by
        rw [length_byteBits, length_byteBits]
      show byteBits (b ^^^ x) ++ bits (List.zipWith (· ^^^ ·) data e) =
        List.zipWith (· ^^ ·) (byteBits b ++ bits data) (byteBits x ++ bits e)
      rw [List.zipWith_append hlen, hbyte, hrest]

theorem length_bits (data : List UInt8) : (bits data).length = 8 * data.length := by
  induction data with
  | nil => rfl
  | cons b data ih =>
    show (byteBits b ++ bits data).length = _
    rw [List.length_append, length_byteBits, ih, List.length_cons]
    omega

/-- **An error pattern goes unnoticed if and only if it leads the register from zero to zero.** -/
theorem crc16ModbusFast_eq_iff {data e : List UInt8} (h : e.length = data.length) :
    crc16ModbusFast (List.zipWith (· ^^^ ·) data e) = crc16ModbusFast data ↔
      crcRegister.run 0 (bits e) = 0 := by
  have hword : ∀ crc crc' : UInt16, crc = crc' ↔ crcWord crc = crcWord crc' := by
    refine fun crc crc' ↦ ⟨congrArg crcWord, fun heq ↦ ?_⟩
    exact UInt16.eq_of_toBitVec_eq (congrArg Word16.toBitVec heq)
  have hlen : (bits (List.zipWith (· ^^^ ·) data e)).length = (bits data).length := by
    rw [length_bits, length_bits, List.length_zipWith, h, Nat.min_self]
  have herror : List.zipWith (· ^^ ·) (bits (List.zipWith (· ^^^ ·) data e)) (bits data) =
      bits e := by
    rw [bits_zipWith h]
    have hcancel : ∀ a b : Bool, (a ^^ b ^^ a) = b := by decide
    refine List.ext_getElem ?_ fun p h₁ h₂ ↦ ?_
    · simp [length_bits, h]
    · rw [List.getElem_zipWith, List.getElem_zipWith, hcancel]
  rw [crc16ModbusFast, crc16ModbusFast, hword, crcWord_foldl, crcWord_foldl,
    crcRegister.run_eq_iff Word16.add_self hlen, herror]

/-- Some errors that the checksum detects: those within 16 consecutive bits, and those in an odd
number of bits. -/
def Detected (e : List UInt8) : Prop :=
  (∃ k, ∀ p, (bits e)[p]? = some true → k ≤ p ∧ p < k + 16) ∨ Odd ((bits e).count true)

theorem run_ne_zero_of_detected {e : List UInt8} (hset : true ∈ bits e) (h : Detected e) :
    crcRegister.run 0 (bits e) ≠ 0 := by
  rcases h with ⟨k, hwindow⟩ | hodd
  · exact crcRegister.run_ne_zero_of_window step_injective (fun w hlen hw ↦ run_ne_zero hlen hw)
      hset hwindow
  · intro hzero
    have hcount := crcRegister.apply_run parity parity_step 0 (bits e)
    have hinput : parity crcRegister.input = 1 := by decide
    rw [hzero, map_zero, zero_add, hinput, nsmul_one] at hcount
    exact absurd (hcount.symm) (ZMod.natCast_ne_zero_iff_odd.2 hodd)

/-- The payload a datagram declares. -/
def datagramPayload (d : List UInt8) : List UInt8 :=
  (d.drop sizeofGlbpkgheader).take (Glbpkgheader.ofBytes d).payloadLen.toNat

/-- `d'` is `d` with the same header and the payload altered by the pattern `e`. -/
structure AlteredBy (d d' e : List UInt8) : Prop where
  /-- It is as long. -/
  length : d'.length = d.length
  /-- Its header is the same. -/
  header : d'.take sizeofGlbpkgheader = d.take sizeofGlbpkgheader
  /-- The pattern is as long as the payload. -/
  pattern : e.length = (datagramPayload d).length
  /-- Its payload differs by the pattern. -/
  payload : datagramPayload d' = List.zipWith (· ^^^ ·) (datagramPayload d) e

/-- **The checksum catches all short bursts and all odd errors.** A datagram that differs from an
accepted one by such an error in the payload is rejected, by whichever call and into whichever
memory. -/
theorem glbioRead_rejects_altered {d d' e : List UInt8} (pkg : Glbpkgbuf) (from_ : Glbaddr)
    (now : ℕ) (haccepted : (pkg.glbioRead (.datagram d from_) now).1 = .success)
    (haltered : AlteredBy d d' e) (hset : true ∈ bits e) (hdetected : Detected e)
    (pkg' : Glbpkgbuf) (from' : Glbaddr) (now' : ℕ) :
    (pkg'.glbioRead (.datagram d' from') now').1 = .recvFailed ∧
      pkg'.readResult (.datagram d' from') now' = .invalid := by
  have hd : ValidDatagram d := Glbpkgbuf.glbioRead_success_iff_valid.1 haccepted
  have hheader : Glbpkgheader.ofBytes d' = Glbpkgheader.ofBytes d := by
    rw [← Glbpkgheader.ofBytes_take (n := sizeofGlbpkgheader) (Nat.le_refl _), haltered.header,
      Glbpkgheader.ofBytes_take (Nat.le_refl _)]
  have hrejected : ¬ ValidDatagram d' := by
    intro hd'
    have hsum : crc16ModbusFast (datagramPayload d') = crc16ModbusFast (datagramPayload d) :=
      hd'.checksum.symm.trans ((congrArg _ hheader).trans hd.checksum)
    rw [haltered.payload, crc16ModbusFast_eq_iff haltered.pattern] at hsum
    exact run_ne_zero_of_detected hset hdetected hsum
  have hfail := (pkg'.fst_glbioRead d' from' now').resolve_left fun hok ↦
    hrejected (Glbpkgbuf.glbioRead_success_iff_valid.1 hok)
  refine ⟨hfail, ?_⟩
  rw [Glbpkgbuf.readResult, hfail]
  rfl

/-- The one byte of the sample datagram with two bits flipped. -/
theorem glbioRead_rejects_altered_sample :
    (Glbpkgbuf.sample.glbioRead (.datagram (Glbpkgbuf.sampleDatagram.take 24 ++ [4]) .samplePeer)
      5).1 = .recvFailed := by
  have haltered : AlteredBy Glbpkgbuf.sampleDatagram (Glbpkgbuf.sampleDatagram.take 24 ++ [4])
      [3] := ⟨by decide, by decide, by decide, by decide⟩
  have hdetected : Detected [3] := by
    refine Or.inl ⟨0, fun p hp ↦ ⟨Nat.zero_le p, ?_⟩⟩
    have hlt : p < 8 := (List.getElem?_eq_some_iff.1 hp).1
    omega
  have hvalid : ValidDatagram Glbpkgbuf.sampleDatagram :=
    ⟨by decide, by decide, by decide, by decide, by decide, by decide⟩
  exact (glbioRead_rejects_altered Glbpkgbuf.sample .samplePeer 5
    (Glbpkgbuf.glbioRead_success_iff_valid.2 hvalid) haltered (by decide) hdetected
    Glbpkgbuf.sample .samplePeer 5).1

end Gilberta

import Gilberta.Foundations.LittleEndian
import Gilberta.Model.Data

/-!
# Packets in memory

A `glbpkg` is handed to `sendto` and filled by `recvfrom` as it lies in memory: the header, twelve
little-endian fields in 24 bytes, then 1024 bytes of data, the timestamp and the retransmission
count. There is no padding in between on a host with the natural layout.

`Glbpkgbuf` is such a packet with all of its memory, also the part of `data` behind the payload,
which the rest of the model does not see. `overwrite` is what `recvfrom` does to it: a short
datagram leaves the rest of the old bytes in place.
-/

namespace Gilberta

/-- `sizeof(glbpkgheader)`. -/
def sizeofGlbpkgheader : ℕ := 24

/-- `sizeof(glbpkg)`. -/
def sizeofGlbpkg : ℕ := 1064

namespace Glbpkgheader

/-- The sizes of the fields, in the order in which they are declared. -/
def widths : List ℕ := [2, 2, 1, 1, 1, 1, 2, 2, 2, 2, 4, 4]

/-- The values of the fields. -/
def fields (h : Glbpkgheader) : List ℕ :=
  [h.magic.toNat, h.payloadLen.toNat, h.version.toNat, h.channelId.toNat, h.chanFlags.toNat,
    h.ctrlFlags.toNat, h.clientGen.toNat, h.clientId.toNat, h.checksum.toNat, h.wnd.toNat,
    h.seq.toNat, h.ack.toNat]

/-- The header with the given values. -/
def ofFields (vs : List ℕ) : Glbpkgheader where
  magic := UInt16.ofNat (vs.getD 0 0)
  payloadLen := UInt16.ofNat (vs.getD 1 0)
  version := UInt8.ofNat (vs.getD 2 0)
  channelId := UInt8.ofNat (vs.getD 3 0)
  chanFlags := UInt8.ofNat (vs.getD 4 0)
  ctrlFlags := UInt8.ofNat (vs.getD 5 0)
  clientGen := UInt16.ofNat (vs.getD 6 0)
  clientId := UInt16.ofNat (vs.getD 7 0)
  checksum := UInt16.ofNat (vs.getD 8 0)
  wnd := UInt16.ofNat (vs.getD 9 0)
  seq := UInt32.ofNat (vs.getD 10 0)
  ack := UInt32.ofNat (vs.getD 11 0)

/-- The bytes of a header. -/
def bytes (h : Glbpkgheader) : List UInt8 := joinLE widths h.fields

/-- The header at the front of some bytes. -/
def ofBytes (bs : List UInt8) : Glbpkgheader := ofFields (splitLE widths bs)

theorem fits_fields (h : Glbpkgheader) : FitsLE widths h.fields :=
  .cons h.magic.toNat_lt <| .cons h.payloadLen.toNat_lt <| .cons h.version.toNat_lt <|
  .cons h.channelId.toNat_lt <| .cons h.chanFlags.toNat_lt <| .cons h.ctrlFlags.toNat_lt <|
  .cons h.clientGen.toNat_lt <| .cons h.clientId.toNat_lt <| .cons h.checksum.toNat_lt <|
  .cons h.wnd.toNat_lt <| .cons h.seq.toNat_lt <| .cons h.ack.toNat_lt .nil

theorem ofFields_fields (h : Glbpkgheader) : ofFields h.fields = h := by
  simp [ofFields, fields]

theorem toNat_ofNat_one {n : ℕ} (h : n < 256 ^ 1) : (UInt8.ofNat n).toNat = n :=
  UInt8.toNat_ofNat'.trans (Nat.mod_eq_of_lt h)

theorem toNat_ofNat_two {n : ℕ} (h : n < 256 ^ 2) : (UInt16.ofNat n).toNat = n :=
  UInt16.toNat_ofNat'.trans (Nat.mod_eq_of_lt h)

theorem toNat_ofNat_four {n : ℕ} (h : n < 256 ^ 4) : (UInt32.ofNat n).toNat = n :=
  UInt32.toNat_ofNat'.trans (Nat.mod_eq_of_lt h)

theorem fields_ofFields {vs : List ℕ} (h : FitsLE widths vs) : (ofFields vs).fields = vs := by
  obtain - | ⟨h₀, h⟩ := h
  obtain - | ⟨h₁, h⟩ := h
  obtain - | ⟨h₂, h⟩ := h
  obtain - | ⟨h₃, h⟩ := h
  obtain - | ⟨h₄, h⟩ := h
  obtain - | ⟨h₅, h⟩ := h
  obtain - | ⟨h₆, h⟩ := h
  obtain - | ⟨h₇, h⟩ := h
  obtain - | ⟨h₈, h⟩ := h
  obtain - | ⟨h₉, h⟩ := h
  obtain - | ⟨h₁₀, h⟩ := h
  obtain - | ⟨h₁₁, h⟩ := h
  obtain - | - := h
  simp only [fields, ofFields, List.getD_cons_zero, List.getD_cons_succ]
  rw [toNat_ofNat_two h₀, toNat_ofNat_two h₁, toNat_ofNat_one h₂, toNat_ofNat_one h₃,
    toNat_ofNat_one h₄, toNat_ofNat_one h₅, toNat_ofNat_two h₆, toNat_ofNat_two h₇,
    toNat_ofNat_two h₈, toNat_ofNat_two h₉, toNat_ofNat_four h₁₀, toNat_ofNat_four h₁₁]

@[simp] theorem length_bytes (h : Glbpkgheader) : h.bytes.length = sizeofGlbpkgheader :=
  length_joinLE rfl

/-- Reading a header that was written. -/
theorem ofBytes_bytes (h : Glbpkgheader) (rest : List UInt8) : ofBytes (h.bytes ++ rest) = h := by
  rw [ofBytes, bytes, splitLE_joinLE h.fits_fields, ofFields_fields]

/-- Writing a header that was read. -/
theorem bytes_ofBytes {bs : List UInt8} (h : bs.length = sizeofGlbpkgheader) :
    (ofBytes bs).bytes = bs := by
  rw [bytes, ofBytes, fields_ofFields fitsLE_splitLE, joinLE_splitLE h]

/-- Only 24 bytes are read. -/
theorem ofBytes_take {bs : List UInt8} {n : ℕ} (h : sizeofGlbpkgheader ≤ n) :
    ofBytes (bs.take n) = ofBytes bs := by
  have hsum : widths.sum ≤ n := h
  rw [ofBytes, splitLE_take hsum, ofBytes]

end Glbpkgheader

/-- The memory of a `glbpkg`. -/
structure Glbpkgbuf where
  /-- Packet header. -/
  header : Glbpkgheader
  /-- The payload, and whatever is behind it. -/
  data : List UInt8
  /-- Receipt time. -/
  timestamp : UInt64
  /-- Number of retransmissions. -/
  retransmitCount : UInt64
  /-- The array has `GILBERTA_MTU` entries. -/
  length_data : data.length = gilbertaMtu

namespace Glbpkgbuf

/-- The payload: as much of the data as the header says. -/
def payload (b : Glbpkgbuf) : List UInt8 := b.data.take b.header.payloadLen.toNat

/-- The packet in the rest of the model. -/
def pkg (b : Glbpkgbuf) : Glbpkg where
  header := b.header
  data := b.payload
  timestamp := b.timestamp.toNat
  retransmitCount := b.retransmitCount

/-- The bytes of a packet in memory. -/
def bytes (b : Glbpkgbuf) : List UInt8 :=
  b.header.bytes ++ b.data ++ leBytes 8 b.timestamp.toNat ++ leBytes 8 b.retransmitCount.toNat

@[simp] theorem length_bytes (b : Glbpkgbuf) : b.bytes.length = sizeofGlbpkg := by
  simp only [bytes, List.length_append, Glbpkgheader.length_bytes, length_leBytes, b.length_data]
  rfl

/-- The packet with the given bytes. -/
def ofBytes (bs : List UInt8) (h : bs.length = sizeofGlbpkg) : Glbpkgbuf where
  header := .ofBytes bs
  data := (bs.drop sizeofGlbpkgheader).take gilbertaMtu
  timestamp := UInt64.ofNat (leNat ((bs.drop (sizeofGlbpkgheader + gilbertaMtu)).take 8))
  retransmitCount := UInt64.ofNat (leNat ((bs.drop (sizeofGlbpkgheader + gilbertaMtu + 8)).take 8))
  length_data := by
    rw [List.length_take, List.length_drop, h]
    rfl

/-- What `recvfrom` leaves in memory: as much of the datagram as fits, and behind it what was there
before. -/
def overwrite (b : Glbpkgbuf) (d : List UInt8) : Glbpkgbuf :=
  ofBytes (d.take sizeofGlbpkg ++ b.bytes.drop d.length) (by
    rw [List.length_append, List.length_take, List.length_drop, length_bytes]
    omega)

/-- The header of a datagram that has one. -/
theorem header_overwrite {d : List UInt8} (b : Glbpkgbuf) (h : sizeofGlbpkgheader ≤ d.length) :
    (b.overwrite d).header = .ofBytes d := by
  have hfit : sizeofGlbpkgheader ≤ sizeofGlbpkg := by decide
  have hlen : sizeofGlbpkgheader ≤ (d.take sizeofGlbpkg).length := by
    rw [List.length_take]
    omega
  show Glbpkgheader.ofBytes (d.take sizeofGlbpkg ++ b.bytes.drop d.length) = _
  rw [← Glbpkgheader.ofBytes_take (Nat.le_refl _), List.take_append_of_le_length hlen,
    Glbpkgheader.ofBytes_take (Nat.le_refl _), Glbpkgheader.ofBytes_take hfit]

/-- The data of a datagram, as far as it has some. -/
theorem take_data_overwrite {d : List UInt8} {n : ℕ} (b : Glbpkgbuf) (hn : n ≤ gilbertaMtu)
    (h : sizeofGlbpkgheader + n ≤ d.length) :
    (b.overwrite d).data.take n = (d.drop sizeofGlbpkgheader).take n := by
  have hmtu : sizeofGlbpkgheader + gilbertaMtu ≤ sizeofGlbpkg := by decide
  have hlen : (d.take sizeofGlbpkg).length = min sizeofGlbpkg d.length := List.length_take
  show (((d.take sizeofGlbpkg ++ b.bytes.drop d.length).drop sizeofGlbpkgheader).take
    gilbertaMtu).take n = _
  rw [List.take_take, Nat.min_eq_left hn, List.take_drop,
    List.take_append_of_le_length (by omega), List.take_take, Nat.min_eq_left (by omega),
    List.take_drop]

end Glbpkgbuf

end Gilberta

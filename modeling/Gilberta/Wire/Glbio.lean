import Gilberta.Effects.Emission
import Gilberta.Wire.Layout

/-!
# Sending and receiving datagrams

`glbio.c` at the level of bytes. `glbio_send` seals a packet and hands the front of its memory to
`sendto`; `glbio_read` lets `recvfrom` write into a packet whose memory still holds what was there
before, and checks the outcome.

`glbioRead_iff` says that the checks see through the old contents, although they read fields that a
short datagram has not overwritten, and `glbio_round_trip` that the format is a round trip in both
directions. `readResult_of_seal` is the form in which the rest of the model uses it: what arrives
unaltered is the packet that was sent, up to the fields that do not travel.
-/

namespace Gilberta

/-- What one `recvfrom` does: it has nothing, it fails, or it delivers a datagram. -/
inductive Recvfrom
  | wouldBlock
  | failed
  | datagram (d : List UInt8) (from_ : Glbaddr)

/-- A datagram `glbio_read` should accept: its header is complete and one of the protocol, its
payload is complete and not too long, and its checksum is the one of the payload. -/
structure ValidDatagram (d : List UInt8) : Prop where
  /-- There is a header. -/
  header : sizeofGlbpkgheader ≤ d.length
  /-- The magic number is right. -/
  magic : (Glbpkgheader.ofBytes d).magic = gilbertaProtoMagic
  /-- The version is right. -/
  version : (Glbpkgheader.ofBytes d).version = gilbertaProtoVersion
  /-- The payload is not too long. -/
  mtu : (Glbpkgheader.ofBytes d).payloadLen.toNat ≤ gilbertaMtu
  /-- The payload is complete. -/
  complete : sizeofGlbpkgheader + (Glbpkgheader.ofBytes d).payloadLen.toNat ≤ d.length
  /-- The checksum is right. -/
  checksum : (Glbpkgheader.ofBytes d).checksum = crc16ModbusFast
    ((d.drop sizeofGlbpkgheader).take (Glbpkgheader.ofBytes d).payloadLen.toNat)

namespace Glbpkgbuf

/-- `glbio_send`: the packet with its checksum filled in, and the bytes handed to `sendto`. -/
def glbioSend (pkg : Glbpkgbuf) : Glbpkgbuf × List UInt8 :=
  let pkg := { pkg with header := { pkg.header with checksum := crc16ModbusFast pkg.payload } }
  (pkg, pkg.bytes.take (sizeofGlbpkgheader + pkg.header.payloadLen.toNat))

/-- `glbio_read`: its result, what it leaves in `recvd`, which starts as zero, and the packet. -/
def glbioRead (pkg : Glbpkgbuf) (r : Recvfrom) (now : ℕ) : GLBErrorCode × ℕ × Glbpkgbuf :=
  match r with
  | .wouldBlock => (.success, 0, pkg)
  | .failed => (.recvFailed, 0, pkg)
  | .datagram d _ =>
    let recvLen := min d.length sizeofGlbpkg
    let pkg := pkg.overwrite d
    if pkg.header.magic ≠ gilbertaProtoMagic ∨ pkg.header.version ≠ gilbertaProtoVersion then
      (.recvFailed, 0, pkg)
    else if pkg.header.payloadLen.toNat > gilbertaMtu then (.recvFailed, 0, pkg)
    else if recvLen < sizeofGlbpkgheader + pkg.header.payloadLen.toNat then (.recvFailed, 0, pkg)
    else if pkg.header.checksum ≠ crc16ModbusFast pkg.payload then (.recvFailed, 0, pkg)
    else (.success, recvLen, { pkg with timestamp := UInt64.ofNat (glbtimeStart now 0) })

/-- What the receive loop makes of one `glbio_read`. -/
def readResult (pkg : Glbpkgbuf) (r : Recvfrom) (now : ℕ) : ReadResult :=
  match r with
  | .wouldBlock => .empty
  | .failed => .error
  | .datagram d from_ =>
    let out := pkg.glbioRead (.datagram d from_) now
    if out.1 = .success ∧ out.2.1 = 0 then .empty
    else if out.1 ≠ .success then .invalid
    else .packet out.2.2.pkg from_

/-! ### The front of the memory -/

theorem take_bytes {b : Glbpkgbuf} {n : ℕ} (h : n ≤ gilbertaMtu) :
    b.bytes.take (sizeofGlbpkgheader + n) = b.header.bytes ++ b.data.take n := by
  have hheader : b.header.bytes.length = sizeofGlbpkgheader := b.header.length_bytes
  have hn : n ≤ b.data.length := by rw [b.length_data]; exact h
  rw [bytes, List.append_assoc, List.append_assoc, List.take_append, hheader,
    List.take_of_length_le (by omega), Nat.add_sub_cancel_left,
    List.take_append_of_le_length hn]

/-- What is handed to `sendto`: the sealed header and the payload. -/
theorem snd_glbioSend {pkg : Glbpkgbuf} (h : pkg.header.payloadLen.toNat ≤ gilbertaMtu) :
    pkg.glbioSend.2 = pkg.pkg.seal.header.bytes ++ pkg.payload :=
  take_bytes h

/-! ### Accepting a datagram -/

/-- All checks of `glbio_read`, on the memory `recvfrom` leaves. -/
theorem glbioRead_success_iff {pkg : Glbpkgbuf} {d : List UInt8} {from_ : Glbaddr} {now : ℕ} :
    (pkg.glbioRead (.datagram d from_) now).1 = .success ↔
      (pkg.overwrite d).header.magic = gilbertaProtoMagic ∧
      (pkg.overwrite d).header.version = gilbertaProtoVersion ∧
      (pkg.overwrite d).header.payloadLen.toNat ≤ gilbertaMtu ∧
      sizeofGlbpkgheader + (pkg.overwrite d).header.payloadLen.toNat ≤ min d.length sizeofGlbpkg ∧
      (pkg.overwrite d).header.checksum = crc16ModbusFast (pkg.overwrite d).payload := by
  simp only [glbioRead]
  constructor
  · intro h
    split at h
    · cases h
    · next hproto =>
      split at h
      · cases h
      · next hmtu =>
        split at h
        · cases h
        · next hlen =>
          split at h
          · cases h
          · next hsum =>
            rw [not_or, not_not, not_not] at hproto
            exact ⟨hproto.1, hproto.2, Nat.le_of_not_lt hmtu, Nat.le_of_not_lt hlen, not_not.1 hsum⟩
  · rintro ⟨hmagic, hversion, hmtu, hlen, hsum⟩
    rw [if_neg (not_or.2 ⟨not_not.2 hmagic, not_not.2 hversion⟩), if_neg (Nat.not_lt.2 hmtu),
      if_neg (Nat.not_lt.2 hlen), if_neg (not_not.2 hsum)]

/-- What an accepted datagram leaves behind. -/
theorem glbioRead_of_success {pkg : Glbpkgbuf} {d : List UInt8} {from_ : Glbaddr} {now : ℕ}
    (h : (pkg.glbioRead (.datagram d from_) now).1 = .success) :
    pkg.glbioRead (.datagram d from_) now = (.success, min d.length sizeofGlbpkg,
      { pkg.overwrite d with timestamp := UInt64.ofNat (glbtimeStart now 0) }) := by
  obtain ⟨hmagic, hversion, hmtu, hlen, hsum⟩ := glbioRead_success_iff.1 h
  simp only [glbioRead]
  rw [if_neg (not_or.2 ⟨not_not.2 hmagic, not_not.2 hversion⟩), if_neg (Nat.not_lt.2 hmtu),
    if_neg (Nat.not_lt.2 hlen), if_neg (not_not.2 hsum)]

/-- The header and the payload of a datagram that has both. -/
theorem payload_overwrite {d : List UInt8} (pkg : Glbpkgbuf)
    (hmtu : (Glbpkgheader.ofBytes d).payloadLen.toNat ≤ gilbertaMtu)
    (hlen : sizeofGlbpkgheader + (Glbpkgheader.ofBytes d).payloadLen.toNat ≤ d.length) :
    (pkg.overwrite d).payload =
      (d.drop sizeofGlbpkgheader).take (Glbpkgheader.ofBytes d).payloadLen.toNat := by
  rw [payload, header_overwrite pkg (by omega), take_data_overwrite pkg hmtu hlen]

/-- The checks on the memory are checks on the datagram: a datagram without a complete header is too
short for any payload length, also for one that is left over. -/
theorem glbioRead_success_iff_valid {pkg : Glbpkgbuf} {d : List UInt8} {from_ : Glbaddr} {now : ℕ} :
    (pkg.glbioRead (.datagram d from_) now).1 = .success ↔ ValidDatagram d := by
  rw [glbioRead_success_iff]
  constructor
  · rintro ⟨hmagic, hversion, hmtu, hlen, hsum⟩
    have hheader : sizeofGlbpkgheader ≤ d.length := by omega
    rw [header_overwrite pkg hheader] at hmagic hversion hmtu hlen hsum
    have hcomplete : sizeofGlbpkgheader + (Glbpkgheader.ofBytes d).payloadLen.toNat ≤ d.length := by
      omega
    rw [payload_overwrite pkg hmtu hcomplete] at hsum
    exact ⟨hheader, hmagic, hversion, hmtu, hcomplete, hsum⟩
  · rintro ⟨hheader, hmagic, hversion, hmtu, hcomplete, hsum⟩
    have hsize : sizeofGlbpkgheader + gilbertaMtu ≤ sizeofGlbpkg := by decide
    rw [header_overwrite pkg hheader, payload_overwrite pkg hmtu hcomplete]
    exact ⟨hmagic, hversion, hmtu, by omega, hsum⟩

/-- A datagram is accepted or rejected. -/
theorem fst_glbioRead (pkg : Glbpkgbuf) (d : List UInt8) (from_ : Glbaddr) (now : ℕ) :
    (pkg.glbioRead (.datagram d from_) now).1 = .success ∨
      (pkg.glbioRead (.datagram d from_) now).1 = .recvFailed := by
  simp only [glbioRead]
  repeat' split
  all_goals simp

/-- **`glbio_read` accepts exactly the valid datagrams**, whatever the memory held before, and what
the caller then sees is the datagram alone. -/
theorem glbioRead_iff (pkg pkg' : Glbpkgbuf) (d : List UInt8) (from_ from' : Glbaddr)
    (now now' : ℕ) :
    ((pkg.glbioRead (.datagram d from_) now).1 = .success ∧
        0 < (pkg.glbioRead (.datagram d from_) now).2.1 ↔ ValidDatagram d) ∧
    (ValidDatagram d →
      (pkg.glbioRead (.datagram d from_) now).2.2.header = .ofBytes d ∧
      (pkg.glbioRead (.datagram d from_) now).2.2.payload =
        (d.drop sizeofGlbpkgheader).take (Glbpkgheader.ofBytes d).payloadLen.toNat) ∧
    (pkg.glbioRead (.datagram d from_) now).1 = (pkg'.glbioRead (.datagram d from') now').1 ∧
    ((pkg.glbioRead (.datagram d from_) now).1 = .success →
      (pkg.glbioRead (.datagram d from_) now).2.2.header =
        (pkg'.glbioRead (.datagram d from') now').2.2.header ∧
      (pkg.glbioRead (.datagram d from_) now).2.2.payload =
        (pkg'.glbioRead (.datagram d from') now').2.2.payload) := by
  have hsees : ∀ (pkg : Glbpkgbuf) (from_ : Glbaddr) (now : ℕ), ValidDatagram d →
      (pkg.glbioRead (.datagram d from_) now).2.2.header = .ofBytes d ∧
      (pkg.glbioRead (.datagram d from_) now).2.2.payload =
        (d.drop sizeofGlbpkgheader).take (Glbpkgheader.ofBytes d).payloadLen.toNat := by
    intro pkg from_ now h
    rw [glbioRead_of_success (glbioRead_success_iff_valid.2 h)]
    exact ⟨header_overwrite pkg h.header, payload_overwrite pkg h.mtu h.complete⟩
  refine ⟨⟨fun h ↦ glbioRead_success_iff_valid.1 h.1, fun h ↦ ?_⟩, hsees pkg from_ now, ?_, ?_⟩
  · have hok : (pkg.glbioRead (.datagram d from_) now).1 = .success :=
      glbioRead_success_iff_valid.2 h
    refine ⟨hok, ?_⟩
    rw [glbioRead_of_success hok]
    have hpos : 0 < sizeofGlbpkgheader := by decide
    have hsize : 0 < sizeofGlbpkg := by decide
    have hheader := h.header
    show 0 < min d.length sizeofGlbpkg
    omega
  · by_cases h : ValidDatagram d
    · rw [glbioRead_success_iff_valid.2 h, glbioRead_success_iff_valid.2 h]
    · have hfail : ∀ (pkg : Glbpkgbuf) (from_ : Glbaddr) (now : ℕ),
          (pkg.glbioRead (.datagram d from_) now).1 = .recvFailed := fun pkg from_ now ↦
        (pkg.fst_glbioRead d from_ now).resolve_left fun hok ↦
          h (glbioRead_success_iff_valid.1 hok)
      rw [hfail, hfail]
  · intro hok
    have h : ValidDatagram d := glbioRead_success_iff_valid.1 hok
    rw [(hsees pkg from_ now h).1, (hsees pkg from_ now h).2, (hsees pkg' from' now' h).1,
      (hsees pkg' from' now' h).2]
    exact ⟨rfl, rfl⟩

/-! ### There and back -/

/-- The bytes of a packet of the protocol are a valid datagram. -/
theorem validDatagram_glbioSend {pkg : Glbpkgbuf} (hmagic : pkg.header.magic = gilbertaProtoMagic)
    (hversion : pkg.header.version = gilbertaProtoVersion)
    (hmtu : pkg.header.payloadLen.toNat ≤ gilbertaMtu) :
    ValidDatagram pkg.glbioSend.2 ∧ .ofBytes pkg.glbioSend.2 = pkg.pkg.seal.header ∧
      (pkg.glbioSend.2.drop sizeofGlbpkgheader).take pkg.header.payloadLen.toNat = pkg.payload ∧
      pkg.glbioSend.2.length = sizeofGlbpkgheader + pkg.header.payloadLen.toNat := by
  have hheader : pkg.pkg.seal.header.bytes.length = sizeofGlbpkgheader :=
    pkg.pkg.seal.header.length_bytes
  have hpayload : pkg.payload.length = pkg.header.payloadLen.toNat := by
    rw [payload, List.length_take, pkg.length_data]
    omega
  have hread : Glbpkgheader.ofBytes pkg.glbioSend.2 = pkg.pkg.seal.header := by
    rw [snd_glbioSend hmtu, Glbpkgheader.ofBytes_bytes]
  have hdata : (pkg.glbioSend.2.drop sizeofGlbpkgheader).take pkg.header.payloadLen.toNat =
      pkg.payload := by
    rw [snd_glbioSend hmtu, List.drop_left' hheader, ← hpayload, List.take_length]
  have hlen : pkg.glbioSend.2.length = sizeofGlbpkgheader + pkg.header.payloadLen.toNat := by
    rw [snd_glbioSend hmtu, List.length_append, hheader, hpayload]
  refine ⟨⟨by rw [hlen]; exact Nat.le_add_right _ _, ?_, ?_, ?_, ?_, ?_⟩, hread, hdata, hlen⟩
  · rw [hread]; exact hmagic
  · rw [hread]; exact hversion
  · rw [hread]; exact hmtu
  · rw [hread, hlen]; exact Nat.le_refl _
  · rw [hread]
    exact congrArg crc16ModbusFast hdata.symm

/-- A packet that is sent again as it was received has the same bytes. -/
theorem glbioSend_of_accepted {pkg : Glbpkgbuf} {d : List UInt8} {from_ : Glbaddr} {now : ℕ}
    (h : ValidDatagram d) : (pkg.glbioRead (.datagram d from_) now).2.2.glbioSend.2 =
      d.take (sizeofGlbpkgheader + (Glbpkgheader.ofBytes d).payloadLen.toNat) := by
  rw [glbioRead_of_success (glbioRead_success_iff_valid.2 h)]
  have hheader := header_overwrite pkg h.header
  have hpayload := payload_overwrite pkg h.mtu h.complete
  have hmtu : (pkg.overwrite d).header.payloadLen.toNat ≤ gilbertaMtu := by
    rw [hheader]
    exact h.mtu
  -- the checksum is already the one that is filled in
  have hseal : (pkg.overwrite d).pkg.seal.header = (pkg.overwrite d).header := by
    have hsum : crc16ModbusFast (pkg.overwrite d).payload = (pkg.overwrite d).header.checksum := by
      rw [hpayload, hheader, h.checksum]
    show { (pkg.overwrite d).header with checksum := crc16ModbusFast (pkg.overwrite d).payload } = _
    rw [hsum]
  have hfront : (d.take sizeofGlbpkgheader).length = sizeofGlbpkgheader := by
    rw [List.length_take]
    exact Nat.min_eq_left h.header
  have hbytes : (pkg.overwrite d).header.bytes = d.take sizeofGlbpkgheader := by
    rw [hheader, ← Glbpkgheader.ofBytes_take (Nat.le_refl _), Glbpkgheader.bytes_ofBytes hfront]
  have hsent := @snd_glbioSend { pkg.overwrite d with
    timestamp := UInt64.ofNat (glbtimeStart now 0) } hmtu
  refine hsent.trans ?_
  show (pkg.overwrite d).pkg.seal.header.bytes ++ (pkg.overwrite d).payload = _
  rw [hseal, hbytes, hpayload, List.take_add]

/-- **The packet format is a round trip.** A packet of the protocol arrives with its header,
checksum filled in, and its payload; and a datagram that is accepted is sent again byte for byte, up
to what lies behind its payload. -/
theorem glbio_round_trip (pkg buf : Glbpkgbuf) (from_ : Glbaddr) (now : ℕ) :
    (pkg.header.magic = gilbertaProtoMagic → pkg.header.version = gilbertaProtoVersion →
      pkg.header.payloadLen.toNat ≤ gilbertaMtu →
      (buf.glbioRead (.datagram pkg.glbioSend.2 from_) now).1 = .success ∧
      (buf.glbioRead (.datagram pkg.glbioSend.2 from_) now).2.1 =
        sizeofGlbpkgheader + pkg.header.payloadLen.toNat ∧
      (buf.glbioRead (.datagram pkg.glbioSend.2 from_) now).2.2.header =
        { pkg.header with checksum := crc16ModbusFast pkg.payload } ∧
      (buf.glbioRead (.datagram pkg.glbioSend.2 from_) now).2.2.data.take
        pkg.header.payloadLen.toNat = pkg.data.take pkg.header.payloadLen.toNat) ∧
    ∀ d, (buf.glbioRead (.datagram d from_) now).1 = .success →
      (buf.glbioRead (.datagram d from_) now).2.2.glbioSend.2 = d.take (sizeofGlbpkgheader +
        (buf.glbioRead (.datagram d from_) now).2.2.header.payloadLen.toNat) := by
  constructor
  · intro hmagic hversion hmtu
    obtain ⟨hvalid, hheader, hdata, hlen⟩ := validDatagram_glbioSend hmagic hversion hmtu
    have hok : (buf.glbioRead (.datagram pkg.glbioSend.2 from_) now).1 = .success :=
      glbioRead_success_iff_valid.2 hvalid
    have hsize : sizeofGlbpkgheader + gilbertaMtu ≤ sizeofGlbpkg := by decide
    have hread := header_overwrite buf hvalid.header
    have hpayload := payload_overwrite buf hvalid.mtu hvalid.complete
    have hn : (Glbpkgheader.ofBytes pkg.glbioSend.2).payloadLen = pkg.header.payloadLen := by
      rw [hheader]
      rfl
    rw [payload, hread, hn, hdata] at hpayload
    rw [glbioRead_of_success hok]
    refine ⟨rfl, ?_, hread.trans hheader, hpayload⟩
    show min pkg.glbioSend.2.length sizeofGlbpkg = _
    rw [hlen]
    omega
  · intro d hok
    have hvalid := glbioRead_success_iff_valid.1 hok
    rw [glbioSend_of_accepted hvalid, glbioRead_of_success hok]
    show _ = d.take (sizeofGlbpkgheader + (buf.overwrite d).header.payloadLen.toNat)
    rw [header_overwrite buf hvalid.header]

/-- What arrives unaltered is the packet that was sent: the network of the rest of the model. -/
theorem readResult_of_seal {pkg : Glbpkgbuf} (buf : Glbpkgbuf) (from_ : Glbaddr) (now : ℕ)
    (hmagic : pkg.header.magic = gilbertaProtoMagic)
    (hversion : pkg.header.version = gilbertaProtoVersion)
    (hmtu : pkg.header.payloadLen.toNat ≤ gilbertaMtu) :
    ∃ q, buf.readResult (.datagram pkg.glbioSend.2 from_) now = .packet q from_ ∧
      q.SameOnWire pkg.pkg.seal := by
  obtain ⟨hvalid, hheader, hdata, -⟩ := validDatagram_glbioSend hmagic hversion hmtu
  have hok : (buf.glbioRead (.datagram pkg.glbioSend.2 from_) now).1 = .success :=
    glbioRead_success_iff_valid.2 hvalid
  have hread := header_overwrite buf hvalid.header
  have hpayload := payload_overwrite buf hvalid.mtu hvalid.complete
  have hn : (Glbpkgheader.ofBytes pkg.glbioSend.2).payloadLen = pkg.header.payloadLen := by
    rw [hheader]
    rfl
  rw [hn, hdata] at hpayload
  have hpos : min pkg.glbioSend.2.length sizeofGlbpkg ≠ 0 := by
    have hlen := hvalid.header
    have hsize : 0 < sizeofGlbpkg := by decide
    have hfront : 0 < sizeofGlbpkgheader := by decide
    omega
  refine ⟨{ buf.overwrite pkg.glbioSend.2 with
    timestamp := UInt64.ofNat (glbtimeStart now 0) : Glbpkgbuf }.pkg, ?_, hread.trans hheader,
    hpayload⟩
  rw [readResult, glbioRead_of_success hok]
  exact (if_neg fun h ↦ hpos h.2).trans (if_neg fun h ↦ h rfl)

/-! ### One datagram -/

/-- A packet with one byte of payload, and stale bytes behind it. -/
def sample : Glbpkgbuf where
  header := { (glbpkgInit ⟨1, 0⟩ ctrlFlagData 0).header with payloadLen := 1 }
  data := 7 :: List.replicate 1023 0xFF
  timestamp := 0
  retransmitCount := 0
  length_data := by rw [List.length_cons, List.length_replicate]; rfl

/-- Its bytes. -/
def sampleDatagram : List UInt8 :=
  [0x47, 0x42, 1, 0, 1, 0, 0, 0x10, 0, 0, 1, 0, 0xFE, 0x82, 0, 0, 0, 0, 0, 0, 0, 0, 0, 0, 7]

/-- Read into memory that holds a packet already, the datagram gives its one byte. -/
theorem glbioRead_iff_sample : ValidDatagram sampleDatagram ∧
    (sample.glbioRead (.datagram sampleDatagram .samplePeer) 5).2.2.payload = [7] := by
  have hvalid : ValidDatagram sampleDatagram :=
    ⟨by decide, by decide, by decide, by decide, by decide, by decide⟩
  have hread := glbioRead_iff sample sample sampleDatagram .samplePeer .samplePeer 5 5
  exact ⟨hvalid, (hread.2.1 hvalid).2.trans (by decide)⟩

/-- The packet arrives with its one byte. -/
theorem glbio_round_trip_sample :
    (sample.glbioRead (.datagram sample.glbioSend.2 .samplePeer) 5).1 = .success ∧
    (sample.glbioRead (.datagram sample.glbioSend.2 .samplePeer) 5).2.2.data.take 1 = [7] := by
  obtain ⟨hok, -, -, hdata⟩ := (glbio_round_trip sample sample .samplePeer 5).1 rfl rfl (by decide)
  exact ⟨hok, hdata⟩

end Glbpkgbuf

end Gilberta

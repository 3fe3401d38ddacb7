import BlePeripheral.Proofs.Pdu.Encoding

/-! What has been read from a buffer is written again as the frame it was read from. A data PDU
comes out bit for bit. Encoding an advertising PDU fills in the type, TxAdd and the length, so the
other bits of that header come out cleared. -/

namespace BlePeripheral

namespace AdvHeader

/-- The header with no bits but those of the type, TxAdd and the length. -/
def cleared (h : AdvHeader) : AdvHeader := ⟨h.first &&& 0x4F, h.second &&& 0x3F⟩

theorem advHeader_eq_cleared (h : AdvHeader) :
    Frame.advHeader h.pduType h.txAdd h.length.toNat = h.cleared := by
  have type : h.pduType.code = h.first &&& 0x0F := PduType.code_ofCode h.typeCode
  have txAdd : (0x40 : UInt8).toBitVec = BitVec.twoPow 8 6 := rfl
  have apart : (0x0F : UInt8) &&& ~~~0x40 = 0x0F := by decide
  have both : (h.first &&& 0x0F) ||| (h.first &&& 0x40) = h.first &&& 0x4F :=
    UInt8.toBitVec_inj.mp BitVec.and_or_distrib_left.symm
  have first : putFlag (putBits 0 0x0F (h.first &&& 0x0F)) 0x40 (hasFlag h.first 0x40) =
      h.first &&& 0x4F := by
    rw [putFlag_hasFlag txAdd, putBits_zero, putBits, UInt8.and_assoc, apart, UInt8.and_assoc,
      UInt8.and_self, both]
  have second : putBits 0 0x3F (UInt8.ofNat h.length.toNat) = h.second &&& 0x3F := by
    rw [putBits_zero, UInt8.ofNat_toNat, length, UInt8.and_assoc, UInt8.and_self]
  rw [← type] at first
  exact (AdvHeader.mk.injEq ..).mpr ⟨first, second⟩

end AdvHeader

namespace Frame

section

variable {header payload rest : Bytes} (two : header.length = headerSize)

include two

theorem take_frame :
    (header ++ payload ++ rest).take (headerSize + payload.length) = header ++ payload :=
  List.take_left' (length_header_append two)

theorem length_frame_le :
    headerSize + payload.length ≤ (header ++ payload ++ rest).length := by
  rw [List.length_append, length_header_append two]
  exact Nat.le_add_right _ _

end

end Frame

namespace DataPdu

theorem exists_append_of_ofBytes {b : Bytes} {pdu : DataPdu} (h : ofBytes b = .ok pdu) :
    ∃ rest, b = pdu.header.bytes ++ pdu.payload ++ rest ∧
      pdu.header.length = UInt8.ofNat pdu.payload.length ∧ pdu.payload.length ≤ maxDataPayload := by
  obtain ⟨rest, rfl, limit, enough, taken⟩ := ofBytes_eq_ok.mp h
  have length : pdu.payload.length = pdu.header.length.toNat := by
    rw [taken, List.length_take, Nat.min_eq_left enough]
  refine ⟨rest.drop pdu.header.length.toNat, ?_, ?_, length ▸ limit⟩
  · rw [List.append_assoc, taken, List.take_append_drop]
  · rw [length, UInt8.ofNat_toNat]

end DataPdu

namespace AdvPdu

theorem exists_append_of_ofBytes {b : Bytes} {pdu : AdvPdu} (h : ofBytes b = .ok pdu) :
    ∃ rest, b = pdu.header.bytes ++ pdu.payload ++ rest ∧
      pdu.header.length.toNat = pdu.payload.length ∧ pdu.payload.length ≤ maxAdvPayload ∧
      pdu.pduType = pdu.header.pduType := by
  obtain ⟨header, rest, rfl, limit, enough, read⟩ := ofBytes_eq_ok.mp h
  have length : pdu.payload.length = header.length.toNat := by
    rw [read.payload_eq, List.length_take, Nat.min_eq_left enough]
  rw [read.header_eq]
  refine ⟨rest.drop header.length.toNat, ?_, length.symm, length ▸ limit, read.pduType_eq⟩
  rw [List.append_assoc, read.payload_eq, List.take_append_drop]

/-- The frame without the bits that encoding does not fill in: bits 4, 5 and 7 of its first byte and
bits 6 and 7 of its second. -/
def cleared : Bytes → Bytes
  | first :: second :: rest => (first &&& 0x4F) :: (second &&& 0x3F) :: rest
  | short => short

end AdvPdu

/-- A PDU that has been read is written again as the frame it was read from, into any buffer with
room for it, and nothing behind the frame is changed. An advertising PDU loses the bits of its header
that encoding does not fill in, and no others. -/
theorem frame_written_as_read (b : Bytes) :
    (∀ pdu, DataPdu.ofBytes b = .ok pdu →
      ∃ n, n = headerSize + pdu.payload.length ∧ n ≤ b.length ∧
        ∀ buffer : Bytes, n ≤ buffer.length →
          Frame.encodeData pdu.header pdu.payload buffer = (.ok n, b.take n ++ buffer.drop n)) ∧
      ∀ pdu, AdvPdu.ofBytes b = .ok pdu →
        ∃ n, n = headerSize + pdu.payload.length ∧ n ≤ b.length ∧
          ∀ buffer : Bytes, n ≤ buffer.length →
            Frame.encodeAdvertising pdu.pduType pdu.header.txAdd pdu.payload buffer =
              (.ok n, AdvPdu.cleared (b.take n) ++ buffer.drop n) := by
  constructor
  · intro pdu read
    obtain ⟨rest, rfl, declared, fits⟩ := DataPdu.exists_append_of_ofBytes read
    refine ⟨_, rfl, Frame.length_frame_le rfl, ?_⟩
    intro buffer room
    rw [Frame.encodeData_of_le pdu.header buffer fits, Frame.write_of_le rfl room,
      Frame.take_frame rfl, ← declared, DataHeader.withLength_length]
  · intro pdu read
    obtain ⟨rest, rfl, declared, fits, type⟩ := AdvPdu.exists_append_of_ofBytes read
    refine ⟨_, rfl, Frame.length_frame_le rfl, ?_⟩
    intro buffer room
    rw [Frame.encodeAdvertising_of_le _ _ buffer fits, Frame.write_of_le rfl room,
      Frame.take_frame rfl, type, ← declared, AdvHeader.advHeader_eq_cleared]
    rfl

/-- Every bit that may be lost is set in the headers, and each buffer goes on behind its frame. -/
theorem frame_written_as_read_of_reserved_bits :
    DataPdu.ofBytes [0xF7, 2, 0x02, 0x13, 0x99] = .ok ⟨⟨0xF7, 2⟩, [0x02, 0x13]⟩ ∧
      Frame.encodeData ⟨0xF7, 2⟩ [0x02, 0x13] (Frame.blank 6) =
        (.ok 4, [0xF7, 2, 0x02, 0x13, 0, 0]) ∧
      ∃ request, AdvPdu.ofBytes [0xF3, 0xCC, 1, 2, 3, 4, 5, 6, 7, 8, 9, 10, 11, 12, 0x99] =
          .ok (.scanRequest ⟨0xF3, 0xCC⟩ request) ∧
        Frame.encodeAdvertising .scanReq true request.toBytes (Frame.blank 16) =
          (.ok 14, [0x43, 0x0C, 1, 2, 3, 4, 5, 6, 7, 8, 9, 10, 11, 12, 0, 0]) := by
  have data : DataPdu.ofBytes [0xF7, 2, 0x02, 0x13, 0x99] = .ok ⟨⟨0xF7, 2⟩, [0x02, 0x13]⟩ := rfl
  have scan : AdvPdu.ofBytes [0xF3, 0xCC, 1, 2, 3, 4, 5, 6, 7, 8, 9, 10, 11, 12, 0x99] =
      .ok (.scanRequest ⟨0xF3, 0xCC⟩
        { initiator := .ofAir [1, 2, 3, 4, 5, 6], advertiser := .ofAir [7, 8, 9, 10, 11, 12] }) := rfl
  obtain ⟨_, rfl, -, writes⟩ := (frame_written_as_read _).1 _ data
  obtain ⟨_, rfl, -, writes'⟩ := (frame_written_as_read _).2 _ scan
  exact ⟨data, writes (Frame.blank 6) (by decide), _, scan, writes' (Frame.blank 16) (by decide)⟩

end BlePeripheral

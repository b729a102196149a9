/-
What a decoder makes of an encoded packet.

A header keeps every field that fits its bits, and a packet that was built with its
parameters checked is read back as it was built.  Lists in front of which their number
of entries stands have as many bytes as their entries have together.
-/

import NfcHost.Command

namespace NfcHost

/-- What holds of every value holds of every byte.  `decide` goes through numbers, not
through bytes. -/
theorem forall_byte {property : UInt8 → Prop}
    (values : ∀ value : Fin 256, property (UInt8.ofNat value)) (byte : UInt8) :
    property byte := by
  have known := values ⟨byte.toNat, byte.toNat_lt⟩
  rw [UInt8.ofNat_toNat] at known
  exact known

/-! ### Headers -/

namespace Header

private def firstByte (messageType : MessageType) (nibble : UInt8) (segmented : Bool) : UInt8 :=
  (messageType.bits <<< 5) ||| (nibble &&& 0x0F) ||| (if segmented then 0x10 else 0x00)

/-- The three fields of the first byte lie beside each other.  There are so few values
that they can be gone through. -/
private theorem firstByte_fields (messageType : MessageType) (nibble : UInt8) (segmented : Bool) :
    firstByte messageType nibble segmented >>> 5 = messageType.bits ∧
      (firstByte messageType nibble segmented &&& 0x10 != 0) = segmented ∧
      firstByte messageType nibble segmented &&& 0x0F = nibble &&& 0x0F := by
  revert segmented
  apply forall_byte _ nibble
  cases messageType <;> decide +kernel

theorem decode_encode (header : Header) (rest : Bytes) :
    decode (header.encode ++ rest) =
      .ok { header with group := header.group &&& 0x0F, opcode := header.opcode &&& 0x3F } := by
  obtain ⟨messageType, segmented, group, opcode, length⟩ := header
  obtain ⟨type, segment, nibble⟩ := firstByte_fields messageType group segmented
  unfold firstByte at type segment nibble
  simp only [decode, encode, List.cons_append, type, MessageType.ofBits_bits, segment, nibble,
    UInt8.and_assoc, UInt8.and_self]

theorem decode_control (messageType : MessageType) (group opcode length : UInt8) (rest : Bytes) :
    decode ((control messageType group opcode length).encode ++ rest) =
      .ok (control messageType group opcode length) := by
  rw [decode_encode]
  simp only [control, UInt8.and_assoc, UInt8.and_self]

theorem decode_data (connection length : UInt8) (rest : Bytes) :
    decode ((data connection length).encode ++ rest) = .ok (data connection length) := by
  rw [decode_encode]
  simp only [data, UInt8.and_assoc, UInt8.and_self, UInt8.zero_and]

end Header

/-! ### Packets -/

namespace Packet

theorem payloadLength_of_le {payload : Bytes} (fits : payload.length ≤ maxPayload) :
    payloadLength payload = .ok (UInt8.ofNat payload.length) :=
  if_pos fits

theorem decode_encode {packet : Packet}
    (read : Header.decode (packet.header.encode ++ packet.payload) = .ok packet.header)
    (unsegmented : packet.header.segmented = false)
    (filled : packet.header.length.toNat = packet.payload.length) :
    decode packet.encode = .ok packet := by
  have whole : ¬packet.encode.length ≠ Header.size + packet.header.length.toNat := by
    rw [encode_length, wireSize, filled]
    exact absurd rfl
  have parted : packet.encode.drop Header.size = packet.payload := rfl
  unfold decode
  rw [show Header.decode packet.encode = .ok packet.header from read]
  dsimp only
  rw [if_neg whole, unsegmented, parted]
  rfl

theorem control_of_le {messageType : MessageType} {group opcode : UInt8} {payload : Bytes}
    (fits : payload.length ≤ maxPayload) :
    control messageType group opcode payload =
      .ok ⟨.control messageType group opcode (UInt8.ofNat payload.length), payload⟩ := by
  rw [control, payloadLength_of_le fits]

theorem data_of_le {connection : UInt8} {payload : Bytes} (inside : connection ≤ lastConnection)
    (fits : payload.length ≤ maxPayload) :
    data connection payload =
      .ok ⟨.data connection (UInt8.ofNat payload.length), payload⟩ := by
  rw [data, if_pos inside, payloadLength_of_le fits]

theorem connection_and {connection : UInt8} (inside : connection ≤ lastConnection) :
    connection &&& 0x0F = connection := by
  have small : connection.toNat < 2 ^ 4 := Nat.lt_succ_of_le inside
  apply UInt8.toNat_inj.mp
  rw [UInt8.toNat_and]
  exact (Nat.and_two_pow_sub_one_eq_mod connection.toNat 4).trans (Nat.mod_eq_of_lt small)

theorem toNat_length {payload : Bytes} (fits : payload.length ≤ maxPayload) :
    (UInt8.ofNat payload.length).toNat = payload.length :=
  UInt8.toNat_ofNat_of_lt' (Nat.lt_succ_of_le fits)

theorem decode_control (messageType : MessageType) (group opcode : UInt8) {payload : Bytes}
    (fits : payload.length ≤ maxPayload) :
    let packet : Packet :=
      ⟨.control messageType group opcode (UInt8.ofNat payload.length), payload⟩
    decode packet.encode = .ok packet :=
  decode_encode (Header.decode_control ..) rfl (toNat_length fits)

theorem decode_data (connection : UInt8) {payload : Bytes} (fits : payload.length ≤ maxPayload) :
    let packet : Packet := ⟨.data connection (UInt8.ofNat payload.length), payload⟩
    decode packet.encode = .ok packet :=
  decode_encode (Header.decode_data ..) rfl (toNat_length fits)

end Packet

/-! ### Commands -/

namespace Command

theorem group_and (command : Command) : command.group &&& 0x0F = command.group := by
  cases command <;> (dsimp only [group]; decide)

theorem opcode_and (command : Command) : command.opcode &&& 0x3F = command.opcode := by
  cases command <;> (dsimp only [opcode]; decide)

theorem length_flatten {width : Nat} {entries : List Bytes}
    (wide : ∀ entry ∈ entries, entry.length = width) :
    entries.flatten.length = entries.length * width := by
  induction entries with
  | nil => simp
  | cons entry rest ih =>
      obtain ⟨first, later⟩ := List.forall_mem_cons.mp wide
      simp only [List.flatten_cons, List.length_append, List.length_cons, first, ih later,
        Nat.succ_mul]
      omega

variable {list : EntryList} {width : Nat} {entries : List Bytes}

theorem encodeList_of_nil :
    encodeList list width [] = .error (.invalidParameter (.emptyList list)) :=
  if_pos rfl

theorem encodeList_of_long (long : Packet.maxPayload < 1 + entries.length * width)
    (some : entries ≠ []) :
    encodeList list width entries =
      .error (.invalidParameter (.listTooLong list entries.length)) := by
  rw [encodeList, if_neg some, if_pos long]

theorem encodeList_of_fits (fits : 1 + entries.length * width ≤ Packet.maxPayload)
    (some : entries ≠ []) :
    encodeList list width entries = .ok (UInt8.ofNat entries.length :: entries.flatten) := by
  rw [encodeList, if_neg some, if_neg (Nat.not_lt.mpr fits)]

theorem encodeList_eq_ok_iff {payload : Bytes} :
    encodeList list width entries = .ok payload ↔
      entries ≠ [] ∧ 1 + entries.length * width ≤ Packet.maxPayload ∧
        UInt8.ofNat entries.length :: entries.flatten = payload := by
  unfold encodeList
  split
  · rename_i none
    simp [none]
  · rename_i some
    split
    · rename_i long
      simp [Nat.not_le.mpr long]
    · rename_i inside
      simp [some, Nat.not_lt.mp inside]

theorem encode_of_error {command : Command} {fault : Fault}
    (failed : command.encodeParameters = .error fault) : command.encode = .error fault := by
  rw [encode, toPacket, failed]
  rfl

end Command
end NfcHost

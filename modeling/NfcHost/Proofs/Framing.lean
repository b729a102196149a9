/-
Packets and the byte strings that hold them.

A packet that can be built of a header and a payload is read back as it was built.  The
other way round, exactly the framed byte strings are read: those that have a header with a
message type and no segmentation bit, and behind it as many bytes as its last byte
announces.  Writing what was read gives the byte string again, but for its two reserved
bits.
-/

import NfcHost.Proofs.Encoding
import NfcHost.Proofs.Pump

namespace NfcHost

/-- The byte string with the reserved bits of its second byte cleared. -/
def unreserved (bytes : Bytes) : Bytes :=
  bytes.modify 1 (· &&& 0x3F)

/-! ### The first byte -/

namespace MessageType

theorem bits_of_ofBits {bits : UInt8} {messageType : MessageType}
    (read : ofBits bits = .ok messageType) : messageType.bits = bits := by
  unfold ofBits at read
  split at read <;> cases read <;> rfl

theorem ofBits_exists_iff (first : UInt8) :
    (∃ messageType, ofBits (first >>> 5) = .ok messageType) ↔ first.toNat / 32 ≤ 3 := by
  have known : (ofBits (first >>> 5)).toOption.isSome ↔ first.toNat / 32 ≤ 3 := by
    apply forall_byte _ first
    decide +kernel
  rw [← known]
  cases ofBits (first >>> 5) with
  | error fault => simp [Except.toOption]
  | ok messageType => simp [Except.toOption]

theorem ofBits_shaped (bits : UInt8) : FailsAs Fault.IsSyntax (ofBits bits) := by
  unfold ofBits
  split
  · exact .ok _
  · exact .ok _
  · exact .ok _
  · exact .ok _
  · exact .error rfl

end MessageType

namespace Header

private theorem segmentation_eq_testBit (first : UInt8) :
    (first &&& 0x10 != 0) = first.toNat.testBit 4 := by
  apply forall_byte _ first
  decide +kernel

private theorem firstByte_parts (first : UInt8) :
    ((first >>> 5) <<< 5) ||| (first &&& 0x0F) ||| (if first &&& 0x10 != 0 then 0x10 else 0x00) =
      first := by
  apply forall_byte _ first
  decide +kernel

theorem split {bytes : Bytes} (long : size ≤ bytes.length) :
    ∃ first second third rest, bytes = first :: second :: third :: rest := by
  match bytes, long with
  | first :: second :: third :: rest, _ => exact ⟨first, second, third, rest, rfl⟩

theorem decode_of_short {bytes : Bytes} (short : ¬size ≤ bytes.length) :
    decode bytes = .error (.invalidLength size bytes.length) := by
  match bytes, short with
  | [], _ => rfl
  | [_], _ => rfl
  | [_, _], _ => rfl
  | _ :: _ :: _ :: rest, short => exact absurd (Nat.le_add_left 3 rest.length) short

theorem decode_cons (first second third : UInt8) (rest : Bytes) :
    decode (first :: second :: third :: rest) =
      (MessageType.ofBits (first >>> 5)).map fun messageType =>
        { messageType := messageType
          segmented := first.toNat.testBit 4
          group := first &&& 0x0F
          opcode := second &&& 0x3F
          length := third } := by
  unfold decode
  dsimp only
  rw [segmentation_eq_testBit]
  cases MessageType.ofBits (first >>> 5) <;> rfl

theorem decode_exists_iff (bytes : Bytes) :
    (∃ header, decode bytes = .ok header) ↔
      size ≤ bytes.length ∧ (bytes.getD 0 0).toNat / 32 ≤ 3 := by
  by_cases long : size ≤ bytes.length
  · obtain ⟨first, second, third, rest, rfl⟩ := split long
    rw [decode_cons, List.getD_cons_zero, ← MessageType.ofBits_exists_iff]
    cases MessageType.ofBits (first >>> 5) with
    | error fault => simp [Except.map]
    | ok messageType => simpa [Except.map] using long
  · simp [decode_of_short long, long]

variable {bytes : Bytes} {header : Header}

theorem eq_of_decode (read : decode bytes = .ok header) :
    ∃ first second rest, bytes = first :: second :: header.length :: rest ∧
      header.messageType.bits = first >>> 5 ∧ header.segmented = first.toNat.testBit 4 ∧
        header.group = first &&& 0x0F ∧ header.opcode = second &&& 0x3F := by
  obtain ⟨long, _⟩ := (decode_exists_iff bytes).mp ⟨header, read⟩
  obtain ⟨first, second, third, rest, rfl⟩ := split long
  rw [decode_cons] at read
  cases typed : MessageType.ofBits (first >>> 5) with
  | error fault =>
      rw [typed] at read
      cases read
  | ok messageType =>
      rw [typed] at read
      cases read
      exact ⟨first, second, rest, rfl, MessageType.bits_of_ofBits typed, rfl, rfl, rfl⟩

/-- A header is written as it was read, segmented or not, but for its reserved bits. -/
theorem encode_of_decode (read : decode bytes = .ok header) :
    header.encode ++ bytes.drop size = unreserved bytes := by
  obtain ⟨first, second, rest, rfl, type, segmented, group, opcode⟩ := eq_of_decode read
  have parts := firstByte_parts first
  rw [segmentation_eq_testBit, ← segmented, ← type] at parts
  simp only [encode, group, opcode, UInt8.and_assoc, UInt8.and_self, parts]
  rfl

theorem decode_shaped (bytes : Bytes) : FailsAs Fault.IsSyntax (decode bytes) := by
  unfold decode
  split
  · split
    · rename_i fault failed
      exact .error (MessageType.ofBits_shaped _ fault failed)
    · exact .ok _
  · exact .error rfl

end Header

/-! ### Reading -/

namespace Packet

/-- The byte string holds one packet that is whole, and nothing more. -/
structure Framed (bytes : Bytes) : Prop where
  complete : Complete bytes
  typed : (bytes.getD 0 0).toNat / 32 ≤ 3
  whole : (bytes.getD 0 0).toNat.testBit 4 = false

variable {bytes : Bytes} {packet : Packet}

theorem decode_eq_ok_iff :
    decode bytes = .ok packet ↔
      Header.decode bytes = .ok packet.header ∧
        bytes.length = Header.size + packet.header.length.toNat ∧
        packet.header.segmented = false ∧ packet.payload = bytes.drop Header.size := by
  obtain ⟨head, payload⟩ := packet
  unfold decode
  cases Header.decode bytes with
  | error fault => simp
  | ok header =>
      dsimp only
      constructor
      · intro read
        split at read
        · cases read
        · rename_i filled
          split at read
          · cases read
          · rename_i whole
            cases read
            exact ⟨rfl, Decidable.not_not.mp filled, Bool.eq_false_iff.mpr whole, rfl⟩
      · rintro ⟨same, filled, whole, rfl⟩
        cases same
        rw [if_neg (Decidable.not_not.mpr filled), whole]
        rfl

theorem decode_shaped (bytes : Bytes) : FailsAs Fault.IsSyntax (decode bytes) := by
  unfold decode
  split
  · rename_i fault failed
    exact .error (Header.decode_shaped bytes fault failed)
  · split
    · exact .error rfl
    · split
      · exact .error rfl
      · exact .ok _

theorem decode_exists_iff (bytes : Bytes) :
    (∃ packet, decode bytes = .ok packet) ↔ Framed bytes := by
  constructor
  · rintro ⟨packet, read⟩
    obtain ⟨headed, filled, segmented, _⟩ := decode_eq_ok_iff.mp read
    obtain ⟨long, typed⟩ := (Header.decode_exists_iff bytes).mp ⟨_, headed⟩
    obtain ⟨first, second, rest, rfl, _, testBit, _, _⟩ := Header.eq_of_decode headed
    refine ⟨⟨long, ?_⟩, typed, testBit.symm.trans segmented⟩
    rw [filled, Nat.add_sub_cancel_left]
    rfl
  · rintro ⟨⟨long, filled⟩, typed, whole⟩
    obtain ⟨header, headed⟩ := (Header.decode_exists_iff bytes).mpr ⟨long, typed⟩
    obtain ⟨first, second, rest, rfl, _, testBit, _, _⟩ := Header.eq_of_decode headed
    have size : header.length.toNat = rest.length := filled
    refine ⟨⟨header, rest⟩, decode_eq_ok_iff.mpr ⟨headed, ?_, testBit.trans whole, rfl⟩⟩
    simp only [List.length_cons, size, Header.size]
    omega

theorem encode_of_decode (read : decode bytes = .ok packet) : packet.encode = unreserved bytes := by
  obtain ⟨headed, _, _, carried⟩ := decode_eq_ok_iff.mp read
  rw [encode, carried]
  exact Header.encode_of_decode headed

theorem decode_unreserved (bytes : Bytes) : decode (unreserved bytes) = decode bytes := by
  match bytes with
  | [] | [_] | [_, _] => rfl
  | first :: second :: third :: rest =>
      have cleared : unreserved (first :: second :: third :: rest) =
          first :: (second &&& 0x3F) :: third :: rest := rfl
      have headed : Header.decode (first :: (second &&& 0x3F) :: third :: rest) =
          Header.decode (first :: second :: third :: rest) := by
        simp only [Header.decode_cons, UInt8.and_assoc, UInt8.and_self]
      rw [cleared, decode, decode, headed]
      rfl

/-! ### Building -/

/-- The packet is read back as it was built, and its size is known from its third byte. -/
structure Travels (packet : Packet) : Prop where
  size : packet.encode.length = Header.size + packet.payload.length
  announced : announced packet.encode = packet.payload.length
  returns : decode packet.encode = .ok packet

/-- What comes of building a packet: it is refused for its parameters unless they fit, and
otherwise carries them. -/
structure Builds (built : Except Fault Packet) (fits : Prop) (header : Header) (payload : Bytes) :
    Prop where
  granted_iff : (∃ packet, built = .ok packet) ↔ fits
  refused : ¬fits → ∃ cause, built = .error (.invalidParameter cause)
  carries : ∀ packet, built = .ok packet →
    packet.header = header ∧ packet.payload = payload ∧ packet.Travels

variable {payload : Bytes}

theorem Travels.of_returns (returns : decode packet.encode = .ok packet) : packet.Travels where
  size := packet.encode_length
  announced := by
    obtain ⟨⟨_, filled⟩, _, _⟩ := (decode_exists_iff _).mp ⟨packet, returns⟩
    rw [filled, encode_length, wireSize, Nat.add_sub_cancel_left]
  returns := returns

theorem Builds.of_fits {built : Except Fault Packet} {fits : Prop} {header : Header} (fit : fits)
    (same : built = .ok ⟨header, payload⟩)
    (returns : decode (⟨header, payload⟩ : Packet).encode = .ok ⟨header, payload⟩) :
    Builds built fits header payload where
  granted_iff := by simp [same, fit]
  refused unfit := absurd fit unfit
  carries packet made := by
    rw [same] at made
    cases made
    exact ⟨rfl, rfl, .of_returns returns⟩

theorem Builds.of_not_fits {fits : Prop} {header : Header} (unfit : ¬fits) (cause : BadParameter) :
    Builds (.error (.invalidParameter cause)) fits header payload where
  granted_iff := by simp [unfit]
  refused _ := ⟨cause, rfl⟩
  carries packet made := by cases made

theorem control_builds (messageType : MessageType) (group opcode : UInt8) (payload : Bytes) :
    Builds (control messageType group opcode payload) (payload.length ≤ 255)
      ⟨messageType, false, group &&& 0x0F, opcode &&& 0x3F, UInt8.ofNat payload.length⟩ payload := by
  by_cases fits : payload.length ≤ 255
  · exact .of_fits fits (control_of_le fits) (decode_control messageType group opcode fits)
  · rw [control, payloadLength, if_neg fits]
    exact .of_not_fits fits _

theorem data_builds (connection : UInt8) (payload : Bytes) :
    Builds (data connection payload) (connection.toNat ≤ 15 ∧ payload.length ≤ 255)
      ⟨.data, false, connection, 0, UInt8.ofNat payload.length⟩ payload := by
  by_cases inside : connection ≤ lastConnection
  · by_cases fits : payload.length ≤ 255
    · have made := data_of_le inside fits
      have returns := decode_data connection fits
      rw [Header.data, connection_and inside] at made
      rw [Header.data, connection_and inside] at returns
      exact .of_fits ⟨inside, fits⟩ made returns
    · rw [data, if_pos inside, payloadLength, if_neg fits]
      exact .of_not_fits (fun both => fits both.2) _
  · rw [data, if_neg inside]
    exact .of_not_fits (fun both => inside both.1) _

structure Reads (bytes : Bytes) : Prop where
  accepted_iff : (∃ packet, decode bytes = .ok packet) ↔ Framed bytes
  rewritten : ∀ packet, decode bytes = .ok packet → packet.encode = unreserved bytes
  refused : ∀ fault, decode bytes = .error fault → fault.status = .syntaxError
  segmented : (bytes.getD 0 0).toNat.testBit 4 = true →
    ∃ fault, decode bytes = .error fault ∧ fault.status = .syntaxError

theorem decode_reads (bytes : Bytes) : Reads bytes where
  accepted_iff := decode_exists_iff bytes
  rewritten _ := encode_of_decode
  refused := decode_shaped bytes
  segmented split := by
    cases read : decode bytes with
    | error fault => exact ⟨fault, rfl, decode_shaped bytes fault read⟩
    | ok packet =>
        have framed := (decode_exists_iff bytes).mp ⟨packet, read⟩
        exact absurd (framed.whole.symm.trans split) Bool.false_ne_true

/-- Writing and reading packets are exact.  A control packet can be built of any payload of
at most 255 bytes, and a data packet if also its connection fits four bits; anything else is
refused for its parameters.  What is built comes back as it was.  A byte string is read
exactly if it is framed, and is then written as it was but for its reserved bits; one with
a segmentation bit is refused, like any other, as a syntax error. -/
theorem codec_exact :
    (∀ messageType group opcode payload,
      Builds (control messageType group opcode payload) (payload.length ≤ 255)
        ⟨messageType, false, group &&& 0x0F, opcode &&& 0x3F, UInt8.ofNat payload.length⟩
        payload) ∧
    (∀ connection payload,
      Builds (data connection payload) (connection.toNat ≤ 15 ∧ payload.length ≤ 255)
        ⟨.data, false, connection, 0, UInt8.ofNat payload.length⟩ payload) ∧
    ∀ bytes, Reads bytes :=
  ⟨control_builds, data_builds, decode_reads⟩

/-- The reserved bits of a packet are not kept. -/
example : (decode [0x21, 0xC6, 0x01, 0x03]).map encode = .ok [0x21, 0x06, 0x01, 0x03] :=
  rfl

end Packet
end NfcHost

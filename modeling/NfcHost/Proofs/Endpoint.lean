/-
Endpoints, and the packets in which a controller speaks of them.

An endpoint is announced with its identifier and its select response, may answer some
reads, and is released for a reason.  What a host makes of each of these packets is known
from the endpoint alone.
-/

import NfcHost.Bench.Packets
import NfcHost.Proofs.Encoding
import NfcHost.Proofs.Layout
import NfcHost.Proofs.Pump
import NfcHost.Proofs.Reception
import NfcHost.Tag.Family

namespace NfcHost

/-! ### Packets of a bench -/

namespace Bench

variable {first second : UInt8} {payload : Bytes} {message : Message}

theorem complete_packet (fits : payload.length ≤ Packet.maxPayload) :
    Complete (packet first second payload) := by
  refine ⟨Nat.le_add_left 3 payload.length, ?_⟩
  exact Packet.toNat_length fits

/-- A packet is read by its first two bytes, whatever payload stands behind them. -/
theorem contents_packet (fits : payload.length ≤ Packet.maxPayload)
    (known : ∀ length, ∃ header, Header.decode [first, second, length] = .ok header ∧
      Host.messageOf header = .ok message) :
    Packet.contents (packet first second payload) = .ok (message, payload) := by
  obtain ⟨header, decoded, held⟩ := known (UInt8.ofNat payload.length)
  have read : Header.decode (packet first second payload) = .ok header := decoded
  rw [Packet.contents_eq (complete_packet fits), read]
  dsimp only
  rw [held]
  rfl

theorem contents_data (connection : UInt8) (fits : payload.length ≤ Packet.maxPayload) :
    Packet.contents (data connection payload) = .ok (.data (connection &&& 0x0F), payload) := by
  apply contents_packet fits
  intro length
  have encoded : (Header.data connection length).encode = [connection &&& 0x0F, 0, length] := by
    simp [Header.encode, Header.data, MessageType.bits, UInt8.and_assoc]
  have decoded := Header.decode_data connection length []
  rw [encoded] at decoded
  exact ⟨_, decoded, rfl⟩

end Bench

/-! ### Endpoints -/

structure ReadReply where
  connection : UInt8
  block : Block 16

def ReadReply.payload (reply : ReadReply) : Bytes :=
  reply.block.bytes ++ [0]

def ReadReply.packet (reply : ReadReply) : Bytes :=
  Bench.data reply.connection reply.payload

/-- An endpoint as a controller comes to tell of it.  Only Type-2 tags answer reads. -/
structure Endpoint where
  nfcid : Bytes
  selectResponse : Option UInt8
  replies : List ReadReply
  releaseType : UInt8
  releaseReason : UInt8
  nfcid_fits : nfcid.length ≤ 10
  replies_fit : replies.length ≤ 4
  readable : replies ≠ [] → nfcid.length = 7 ∧ nfcid.head? = some 0x04

namespace Endpoint

variable (endpoint : Endpoint)

/-- Seven bytes of identifier of which the first is 4 make a Type-2 tag; failing that, bits 3
and 4 of the select response make a Mifare tag. -/
def family : Option TagFamily :=
  if endpoint.nfcid.length = 7 ∧ endpoint.nfcid.head? = some 0x04 then
    some .type2
  else
    match endpoint.selectResponse with
    | some response =>
        if response.toNat.testBit 3 ∧ response.toNat.testBit 4 then some .mifare else none
    | none => none

def announcement : Bytes :=
  Bench.activated endpoint.nfcid endpoint.selectResponse

def release : Bytes :=
  Bench.deactivated endpoint.releaseType endpoint.releaseReason

def deactivation : Deactivation :=
  ⟨endpoint.releaseType, .ofCode endpoint.releaseReason⟩

/-! ### What is read of an announcement -/

def fields : Activation.Fields where
  discoveryId := 0x01
  interface := 0x01
  protocol := 0x02
  technology := 0x00
  maxPayloadSize := 0xFF
  initialCredits := 0x01
  technologyBytes :=
    0x44 :: 0x00 :: UInt8.ofNat endpoint.nfcid.length ::
      (endpoint.nfcid ++ (PollAParameters.selectBytes endpoint.selectResponse ++ []))
  exchangeTechnology := 0x00
  transmitBitRate := 0x00
  receiveBitRate := 0x00
  activationParameters := []

def parameters : PollAParameters where
  sensResponse := ⟨[0x44, 0x00], rfl⟩
  nfcid := ⟨.padded 10 endpoint.nfcid, UInt8.ofNat endpoint.nfcid.length⟩
  selectResponse := endpoint.selectResponse

def activation : Activation :=
  endpoint.fields.record (.pollA endpoint.parameters)

theorem toNat_nfcid_length :
    (UInt8.ofNat endpoint.nfcid.length).toNat = endpoint.nfcid.length := by
  have := endpoint.nfcid_fits
  exact UInt8.toNat_ofNat_of_lt' (by change _ < 256; omega)

theorem technologyBytes_length_le : endpoint.fields.technologyBytes.length ≤ 15 := by
  have := endpoint.nfcid_fits
  have select : (PollAParameters.selectBytes endpoint.selectResponse).length ≤ 2 := by
    cases endpoint.selectResponse with
    | none => exact Nat.le_succ 1
    | some response => exact Nat.le_refl 2
  simp only [fields, List.length_cons, List.length_append, List.length_nil]
  omega

theorem activatedPayload_eq :
    Bench.activatedPayload endpoint.nfcid endpoint.selectResponse =
      endpoint.fields.bytes (UInt8.ofNat endpoint.fields.technologyBytes.length) 0 [] := by
  obtain ⟨nfcid, select, _, _, _, _, _, _⟩ := endpoint
  cases select with
  | none => simp [Bench.activatedPayload, Activation.Fields.bytes, fields,
      PollAParameters.selectBytes]
  | some response => simp [Bench.activatedPayload, Activation.Fields.bytes, fields,
      PollAParameters.selectBytes]

theorem ofPayload_announcement :
    Activation.ofPayload (Bench.activatedPayload endpoint.nfcid endpoint.selectResponse) =
      .ok endpoint.activation := by
  have size := endpoint.technologyBytes_length_le
  rw [activatedPayload_eq]
  apply Activation.ofPayload_of_layout
  · exact UInt8.toNat_ofNat_of_lt' (by change _ < 256; omega)
  · rfl
  · have read : PollAParameters.ofBytes endpoint.fields.technologyBytes =
        .ok endpoint.parameters :=
      PollAParameters.ofBytes_of_layout endpoint.toNat_nfcid_length endpoint.nfcid_fits
    have polled : (⟨endpoint.fields.technology⟩ : RfTechnology) = .pollA ∧
        endpoint.fields.technologyBytes ≠ [] := ⟨rfl, List.cons_ne_nil _ _⟩
    rw [TechnologyParameters.ofBytes, if_pos polled, read]
    rfl

theorem toBytes_nfcid : endpoint.parameters.nfcid.toBytes = endpoint.nfcid :=
  Nfcid.toBytes_padded endpoint.nfcid_fits endpoint.toNat_nfcid_length

theorem activation_identifies :
    endpoint.activation.nfcid?.map Nfcid.toBytes = some endpoint.nfcid ∧
      endpoint.activation.selectResponse? = endpoint.selectResponse :=
  ⟨congrArg some endpoint.toBytes_nfcid, rfl⟩

private theorem and_eq_iff_testBit (response : UInt8) :
    response &&& 0x18 = 0x18 ↔ response.toNat.testBit 3 ∧ response.toNat.testBit 4 := by
  apply forall_byte _ response
  decide +kernel

theorem tagFamily_activation : endpoint.activation.tagFamily? = endpoint.family := by
  change endpoint.parameters.tagFamily? = _
  unfold PollAParameters.tagFamily? family
  rw [toBytes_nfcid]
  dsimp only [parameters]
  split
  · rfl
  · cases endpoint.selectResponse with
    | none => rfl
    | some response =>
        dsimp only
        simp only [and_eq_iff_testBit]

/-! ### What is read of its packets -/

theorem contents_announcement :
    Complete endpoint.announcement ∧
      Packet.contents endpoint.announcement =
        .ok (.interfaceActivated,
          Bench.activatedPayload endpoint.nfcid endpoint.selectResponse) := by
  have fits : (Bench.activatedPayload endpoint.nfcid endpoint.selectResponse).length ≤
      Packet.maxPayload := by
    have := endpoint.technologyBytes_length_le
    rw [activatedPayload_eq]
    simp only [Activation.Fields.bytes, List.length_append, List.length_cons, List.length_nil,
      Packet.maxPayload]
    have appendix : endpoint.fields.activationParameters.length = 0 := rfl
    omega
  exact ⟨Bench.complete_packet fits, Bench.contents_packet fits fun length => ⟨_, rfl, rfl⟩⟩

theorem contents_release :
    Complete endpoint.release ∧
      Packet.contents endpoint.release =
        .ok (.deactivated, [endpoint.releaseType, endpoint.releaseReason]) := by
  have fits : [endpoint.releaseType, endpoint.releaseReason].length ≤ Packet.maxPayload :=
    Nat.le_add_left 2 253
  exact ⟨Bench.complete_packet fits, Bench.contents_packet fits fun length => ⟨_, rfl, rfl⟩⟩

end Endpoint

theorem ReadReply.contents_packet (reply : ReadReply) :
    Complete reply.packet ∧
      Packet.contents reply.packet = .ok (.data (reply.connection &&& 0x0F), reply.payload) := by
  have fits : reply.payload.length ≤ Packet.maxPayload := by
    rw [payload, List.length_append, reply.block.bytes_length]
    exact Nat.le_add_left 17 238
  exact ⟨Bench.complete_packet fits, Bench.contents_data reply.connection fits⟩

end NfcHost

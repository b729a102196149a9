/-
Payloads laid out field by field.

A payload that is put together from its fields, each behind the length that governs it,
is read back as the record of these fields.  Bytes may follow wherever the readers do not
look at them.
-/

import NfcHost.Activation

namespace NfcHost

/-! ### Fields -/

namespace Field

variable {data front content rest : Bytes} {value : UInt8} {offset size : Nat}

theorem byte_of_run {index : Nat} (split : data = front ++ (content ++ rest))
    (place : front.length = offset) (listed : content[index]? = some value) :
    byte data (offset + index) = .ok value := by
  obtain ⟨inside, _⟩ := List.getElem?_eq_some_iff.mp listed
  subst split place
  unfold byte
  rw [List.getElem?_append_right (Nat.le_add_right ..), Nat.add_sub_cancel_left,
    List.getElem?_append_left inside, listed]

theorem byte_of_split (split : data = front ++ value :: rest) (place : front.length = offset) :
    byte data offset = .ok value := by
  have run : data = front ++ ([value] ++ rest) := split
  have found : byte data (offset + 0) = .ok value := byte_of_run run place rfl
  exact found

theorem slice_of_split (split : data = front ++ (content ++ rest))
    (place : front.length = offset) (width : content.length = size) :
    slice data offset size = .ok content := by
  subst split place width
  unfold slice
  rw [List.drop_left, List.take_left, if_neg]
  simp only [List.length_append]
  omega

end Field

/-! ### Identifiers -/

namespace Nfcid

variable {bytes : Bytes} {length : UInt8}

theorem ofBytes_of_length (fits : bytes.length ≤ maxLength) (size : length.toNat = bytes.length) :
    ofBytes bytes = .ok ⟨.padded 10 bytes, length⟩ := by
  have same : UInt8.ofNat bytes.length = length := by rw [← size, UInt8.ofNat_toNat]
  rw [ofBytes, if_pos fits, same]

theorem toBytes_padded (fits : bytes.length ≤ maxLength) (size : length.toNat = bytes.length) :
    (Nfcid.mk (.padded 10 bytes) length).toBytes = bytes := by
  unfold toBytes Block.padded
  dsimp only
  rw [size, List.take_take, Nat.min_eq_left fits, List.take_left]

end Nfcid

/-! ### Technology A -/

namespace PollAParameters

def selectBytes : Option UInt8 → Bytes
  | none => [0]
  | some response => [1, response]

theorem selectField_of_split {bytes front rest : Bytes} {select : Option UInt8} {offset : Nat}
    (split : bytes = front ++ (selectBytes select ++ rest)) (place : front.length = offset) :
    selectField bytes offset = .ok select := by
  cases select with
  | none =>
      unfold selectField
      rw [Field.byte_of_split split place]
      rfl
  | some response =>
      have behind : bytes = (front ++ [1]) ++ response :: rest := by
        rw [split, List.append_assoc]
        rfl
      have next : (front ++ [1]).length = offset + 1 := by
        rw [List.length_append, place]
        rfl
      have first : bytes = front ++ 1 :: (response :: rest) := split
      unfold selectField
      rw [Field.byte_of_split first place]
      change (Field.byte bytes (offset + 1) >>= fun response => Except.ok (some response)) = _
      rw [Field.byte_of_split behind next]
      rfl

variable {sensFirst sensSecond length : UInt8} {nfcid rest : Bytes} {select : Option UInt8}

theorem nfcidField_of_layout (size : length.toNat = nfcid.length)
    (fits : nfcid.length ≤ Nfcid.maxLength) :
    nfcidField (sensFirst :: sensSecond :: length :: (nfcid ++ rest)) =
      .ok ⟨.padded 10 nfcid, length⟩ := by
  have split : sensFirst :: sensSecond :: length :: (nfcid ++ rest) =
      [sensFirst, sensSecond, length] ++ (nfcid ++ rest) := rfl
  have content : Field.slice (sensFirst :: sensSecond :: length :: (nfcid ++ rest)) 3
      length.toNat = .ok nfcid := Field.slice_of_split split rfl size.symm
  change (if length.toNat ≤ Nfcid.maxLength then
      Field.slice (sensFirst :: sensSecond :: length :: (nfcid ++ rest)) 3 length.toNat >>=
        Nfcid.ofBytes
    else _) = _
  rw [if_pos (size ▸ fits), content]
  exact Nfcid.ofBytes_of_length fits size

theorem ofBytes_of_layout (size : length.toNat = nfcid.length)
    (fits : nfcid.length ≤ Nfcid.maxLength) :
    ofBytes (sensFirst :: sensSecond :: length :: (nfcid ++ (selectBytes select ++ rest))) =
      .ok ⟨⟨[sensFirst, sensSecond], rfl⟩, ⟨.padded 10 nfcid, length⟩, select⟩ := by
  generalize laid : sensFirst :: sensSecond :: length :: (nfcid ++ (selectBytes select ++ rest)) =
    bytes
  have sens : Field.slice bytes 0 2 = .ok [sensFirst, sensSecond] :=
    Field.slice_of_split (show bytes = [] ++ ([sensFirst, sensSecond] ++ _) from laid.symm) rfl rfl
  have identifier : nfcidField bytes = .ok ⟨.padded 10 nfcid, length⟩ := by
    rw [← laid]
    exact nfcidField_of_layout size fits
  have split : bytes =
      ([sensFirst, sensSecond, length] ++ nfcid) ++ (selectBytes select ++ rest) := by
    rw [← laid, List.append_assoc]
    rfl
  have response : selectField bytes (3 + length.toNat) = .ok select := by
    apply selectField_of_split split
    rw [List.length_append, size]
    rfl
  simp only [ofBytes, Field.block, sens, identifier, Nfcid.size, response, Except.map, bind,
    Except.bind, pure, Except.pure]
  rfl

end PollAParameters

/-! ### Announcements -/

namespace Activation

/-- The fields of an announcement, with the bytes of the technology parameters. -/
structure Fields where
  discoveryId : UInt8
  interface : UInt8
  protocol : UInt8
  technology : UInt8
  maxPayloadSize : UInt8
  initialCredits : UInt8
  technologyBytes : Bytes
  exchangeTechnology : UInt8
  transmitBitRate : UInt8
  receiveBitRate : UInt8
  activationParameters : Bytes

namespace Fields

def bytes (fields : Fields) (technologyLength activationLength : UInt8) (rest : Bytes) : Bytes :=
  [fields.discoveryId, fields.interface, fields.protocol, fields.technology,
    fields.maxPayloadSize, fields.initialCredits, technologyLength] ++
  (fields.technologyBytes ++
    ([fields.exchangeTechnology, fields.transmitBitRate, fields.receiveBitRate,
      activationLength] ++ (fields.activationParameters ++ rest)))

def record (fields : Fields) (parameters : TechnologyParameters) : Activation where
  discoveryId := fields.discoveryId
  interface := ⟨fields.interface⟩
  protocol := ⟨fields.protocol⟩
  technology := ⟨fields.technology⟩
  maxPayloadSize := fields.maxPayloadSize
  initialCredits := fields.initialCredits
  parameters := parameters
  exchangeTechnology := ⟨fields.exchangeTechnology⟩
  transmitBitRate := fields.transmitBitRate
  receiveBitRate := fields.receiveBitRate
  activationParameters := fields.activationParameters

end Fields

/-- A payload that is laid out is refused only for its technology parameters, and for what
their own bytes say. -/
theorem ofPayload_bytes (fields : Fields) {technologyLength activationLength : UInt8}
    (rest : Bytes) (technology : technologyLength.toNat = fields.technologyBytes.length)
    (activation : activationLength.toNat = fields.activationParameters.length) :
    ofPayload (fields.bytes technologyLength activationLength rest) =
      (TechnologyParameters.ofBytes ⟨fields.technology⟩ fields.technologyBytes).map
        fields.record := by
  generalize laid : fields.bytes technologyLength activationLength rest = payload
  obtain ⟨id, interface, protocol, mode, limit, credits, bytes, exchange, transmit, receive,
    appendix⟩ := fields
  dsimp only [Fields.bytes] at laid technology activation
  have tail : payload = ([id, interface, protocol, mode, limit, credits, technologyLength] ++
      bytes) ++ ([exchange, transmit, receive, activationLength] ++ (appendix ++ rest)) := by
    rw [← laid, List.append_assoc]
  have place : ([id, interface, protocol, mode, limit, credits, technologyLength] ++ bytes).length =
      7 + technologyLength.toNat := by
    rw [List.length_append, technology]
    rfl
  have size : Field.atLeast payload minPayload = .ok () := by
    apply Field.atLeast_of_le
    rw [tail]
    simp only [List.length_append, List.length_cons, List.length_nil, minPayload]
    omega
  have slice : Field.slice payload 7 technologyLength.toNat = .ok bytes :=
    Field.slice_of_split laid.symm rfl technology.symm
  have last : Field.slice payload (7 + technologyLength.toNat + 4) activationLength.toNat =
      .ok appendix := by
    rw [← List.append_assoc] at tail
    apply Field.slice_of_split tail _ activation.symm
    rw [List.length_append, place]
    rfl
  -- Seven bytes have a fixed place; the other four stand behind the technology parameters.
  have heading {index : Nat} {value : UInt8} (listed : [id, interface, protocol, mode, limit,
      credits, technologyLength][index]? = some value) :
      Field.byte payload index = .ok value := by
    have split : payload = [] ++ ([id, interface, protocol, mode, limit, credits,
      technologyLength] ++ (bytes ++ ([exchange, transmit, receive, activationLength] ++
        (appendix ++ rest)))) := laid.symm
    have found : Field.byte payload (0 + index) = .ok value := Field.byte_of_run split rfl listed
    rw [Nat.zero_add] at found
    exact found
  have trailing {index : Nat} {value : UInt8}
      (listed : [exchange, transmit, receive, activationLength][index]? = some value) :
      Field.byte payload (7 + technologyLength.toNat + index) = .ok value :=
    Field.byte_of_run tail place listed
  have byte0 : Field.byte payload 0 = .ok id := heading rfl
  have byte1 : Field.byte payload 1 = .ok interface := heading rfl
  have byte2 : Field.byte payload 2 = .ok protocol := heading rfl
  have byte3 : Field.byte payload 3 = .ok mode := heading rfl
  have byte4 : Field.byte payload 4 = .ok limit := heading rfl
  have byte5 : Field.byte payload 5 = .ok credits := heading rfl
  have byte6 : Field.byte payload 6 = .ok technologyLength := heading rfl
  have rate0 : Field.byte payload (7 + technologyLength.toNat) = .ok exchange :=
    @trailing 0 exchange rfl
  have rate1 : Field.byte payload (7 + technologyLength.toNat + 1) = .ok transmit := trailing rfl
  have rate2 : Field.byte payload (7 + technologyLength.toNat + 2) = .ok receive := trailing rfl
  have rate3 : Field.byte payload (7 + technologyLength.toNat + 3) = .ok activationLength :=
    trailing rfl
  simp only [ofPayload, size, byte0, byte1, byte2, byte3, byte4, byte5, byte6, slice, rate0,
    rate1, rate2, rate3, last, bind, Except.bind, pure, Except.pure]
  cases TechnologyParameters.ofBytes ⟨mode⟩ bytes <;> rfl

theorem ofPayload_of_layout (fields : Fields) {technologyLength activationLength : UInt8}
    {parameters : TechnologyParameters} (rest : Bytes)
    (technology : technologyLength.toNat = fields.technologyBytes.length)
    (activation : activationLength.toNat = fields.activationParameters.length)
    (read : TechnologyParameters.ofBytes ⟨fields.technology⟩ fields.technologyBytes =
      .ok parameters) :
    ofPayload (fields.bytes technologyLength activationLength rest) =
      .ok (fields.record parameters) := by
  rw [ofPayload_bytes fields rest technology activation, read]
  rfl

end Activation
end NfcHost

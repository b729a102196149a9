/-
Announcements, accepted exactly as they are laid out.

`Layout` shows that an announcement put together from its fields is read.  Here the
readers are turned around: what they accept is an announcement, its fields are found in
it in one way only, and whatever else comes in is refused for its shape.  The technology
parameters are bounded twice, by their own length and by the payload; the layout of
technology A is a layout of their bytes alone.
-/

import NfcHost.Proofs.Layout
import NfcHost.Proofs.Reception

namespace NfcHost

/-! ### Readers turned around -/

theorem bind_eq_ok_iff {α β : Type} {first : Except Fault α} {next : α → Except Fault β}
    {result : β} :
    (first >>= next) = .ok result ↔ ∃ value, first = .ok value ∧ next value = .ok result := by
  cases first with
  | error fault =>
      constructor
      · intro read
        cases read
      · rintro ⟨_, failed, _⟩
        cases failed
  | ok value =>
      constructor
      · intro read
        exact ⟨value, rfl, read⟩
      · rintro ⟨_, same, read⟩
        cases same
        exact read

theorem map_eq_ok_iff {α β : Type} {first : Except Fault α} {change : α → β} {result : β} :
    first.map change = .ok result ↔ ∃ value, first = .ok value ∧ change value = result := by
  cases first <;> simp [Except.map]

namespace Field

variable {data content : Bytes} {value : UInt8} {offset size : Nat}

theorem byte_eq_dite (data : Bytes) (offset : Nat) :
    byte data offset =
      if inside : offset < data.length then .ok data[offset]
      else .error (.invalidLength (offset + 1) data.length) := by
  unfold byte
  by_cases inside : offset < data.length
  · rw [dif_pos inside, List.getElem?_eq_getElem inside]
  · rw [dif_neg inside, List.getElem?_eq_none (Nat.not_lt.mp inside)]

theorem byte_of_lt (inside : offset < data.length) : byte data offset = .ok data[offset] := by
  rw [byte_eq_dite, dif_pos inside]

theorem byte_of_append {back : Bytes} {index : Nat} (front : Bytes) (place : front.length = offset)
    (read : byte (front ++ back) (offset + index) = .ok value) : byte back index = .ok value := by
  subst place
  unfold byte at read ⊢
  rw [List.getElem?_append_right (Nat.le_add_right ..), Nat.add_sub_cancel_left] at read
  split at read
  · rename_i found
    cases read
    rw [found]
  · cases read

theorem slice_of_append {back : Bytes} {index : Nat} (front : Bytes)
    (place : front.length = offset)
    (read : slice (front ++ back) (offset + index) size = .ok content) :
    slice back index size = .ok content := by
  subst place
  unfold slice at read ⊢
  rw [List.length_append] at read
  split at read
  · cases read
  · rw [if_neg (by omega), ← read, ← List.drop_drop, List.drop_left]

theorem next_of_byte {back : Bytes} (front : Bytes) (place : front.length = offset)
    (read : byte (front ++ back) offset = .ok value) : ∃ rest, back = value :: rest := by
  have first : byte back 0 = .ok value := byte_of_append front place read
  cases back with
  | nil => cases first
  | cons head rest =>
      cases first
      exact ⟨rest, rfl⟩

theorem length_of_slice (read : slice data offset size = .ok content) :
    size = content.length := by
  unfold slice at read
  split at read
  · cases read
  · cases read
    rw [List.length_take, List.length_drop]
    omega

theorem next_of_slice {back : Bytes} (front : Bytes) (place : front.length = offset)
    (read : slice (front ++ back) offset size = .ok content) :
    ∃ rest, back = content ++ rest ∧ size = content.length := by
  have first : slice back 0 size = .ok content := slice_of_append front place read
  refine ⟨back.drop size, ?_, length_of_slice read⟩
  unfold slice at first
  split at first
  · cases first
  · cases first
    exact (List.take_append_drop size back).symm

end Field

/-! ### Technology A -/

/-- The bytes of technology A, field by field; the length of the identifier is the one
that stands before it, and is allowed. -/
structure PollALayout where
  sensFirst : UInt8
  sensSecond : UInt8
  length : UInt8
  nfcid : Bytes
  select : Option UInt8
  rest : Bytes
  size : length.toNat = nfcid.length
  fits : nfcid.length ≤ Nfcid.maxLength

namespace PollALayout

def bytes (layout : PollALayout) : Bytes :=
  layout.sensFirst :: layout.sensSecond :: layout.length ::
    (layout.nfcid ++ (PollAParameters.selectBytes layout.select ++ layout.rest))

def parameters (layout : PollALayout) : PollAParameters where
  sensResponse := ⟨[layout.sensFirst, layout.sensSecond], rfl⟩
  nfcid := ⟨.padded 10 layout.nfcid, layout.length⟩
  selectResponse := layout.select

theorem nfcid_toBytes (layout : PollALayout) :
    layout.parameters.nfcid.toBytes = layout.nfcid :=
  Nfcid.toBytes_padded layout.fits layout.size

end PollALayout

namespace PollAParameters

def ofLong (bytes : Bytes) (long : 2 ≤ bytes.length) :
    Except Fault PollAParameters := do
  let nfcid ← nfcidField bytes
  let selectResponse ← selectField bytes (3 + nfcid.size)
  return ⟨⟨[bytes[0], bytes[1]], rfl⟩, nfcid, selectResponse⟩

theorem split_pair {bytes : Bytes} (long : 2 ≤ bytes.length) :
    ∃ first second rest, bytes = first :: second :: rest := by
  match bytes, long with
  | first :: second :: rest, _ => exact ⟨first, second, rest, rfl⟩

theorem ofBytes_eq_dite (bytes : Bytes) :
    ofBytes bytes =
      if long : 2 ≤ bytes.length then ofLong bytes long
      else .error (.invalidLength 2 bytes.length) := by
  match bytes with
  | [] => rfl
  | [first] => rfl
  | first :: second :: rest =>
      have long : 2 ≤ (first :: second :: rest).length := by simp
      have split : first :: second :: rest = [] ++ ([first, second] ++ rest) := rfl
      have sens : Field.slice (first :: second :: rest) 0 2 = .ok [first, second] :=
        Field.slice_of_split split rfl rfl
      rw [dif_pos long]
      unfold ofBytes Field.block
      rw [sens]
      rfl

theorem next_of_selectField {back : Bytes} {select : Option UInt8} {offset : Nat} (front : Bytes)
    (place : front.length = offset) (read : selectField (front ++ back) offset = .ok select) :
    ∃ rest, back = selectBytes select ++ rest := by
  obtain ⟨length, counted, read⟩ := bind_eq_ok_iff.mp read
  obtain ⟨back, rfl⟩ := Field.next_of_byte front place counted
  split at read
  · cases read
    exact ⟨back, rfl⟩
  · obtain ⟨response, found, read⟩ := bind_eq_ok_iff.mp read
    cases read
    rw [List.append_cons] at found
    obtain ⟨rest, rfl⟩ := Field.next_of_byte (front ++ [1]) (by simp [place]) found
    exact ⟨rest, rfl⟩
  · cases read

theorem next_of_nfcidField {sensFirst sensSecond : UInt8} {back : Bytes} {nfcid : Nfcid}
    (read : nfcidField (sensFirst :: sensSecond :: back) = .ok nfcid) :
    ∃ length content rest, back = length :: (content ++ rest) ∧
      length.toNat = content.length ∧ content.length ≤ Nfcid.maxLength ∧
      nfcid = ⟨.padded 10 content, length⟩ := by
  obtain ⟨length, counted, bounded⟩ := bind_eq_ok_iff.mp read
  obtain ⟨back, rfl⟩ := Field.next_of_byte [sensFirst, sensSecond] rfl counted
  split at bounded
  · rename_i allowed
    obtain ⟨content, found, kept⟩ := bind_eq_ok_iff.mp bounded
    obtain ⟨rest, rfl, size⟩ := Field.next_of_slice [sensFirst, sensSecond, length] rfl found
    have fits : content.length ≤ Nfcid.maxLength := size ▸ allowed
    rw [Nfcid.ofBytes_of_length fits size] at kept
    cases kept
    exact ⟨length, content, rest, rfl, size, fits, rfl⟩
  · cases bounded

theorem ofBytes_eq_ok_iff {bytes : Bytes} {parameters : PollAParameters} :
    ofBytes bytes = .ok parameters ↔
      ∃ layout : PollALayout, layout.bytes = bytes ∧ layout.parameters = parameters := by
  constructor
  · intro read
    rw [ofBytes_eq_dite] at read
    split at read
    · rename_i long
      obtain ⟨sensFirst, sensSecond, back, rfl⟩ := split_pair long
      obtain ⟨nfcid, identified, read⟩ := bind_eq_ok_iff.mp read
      obtain ⟨select, selected, read⟩ := bind_eq_ok_iff.mp read
      cases read
      obtain ⟨length, content, back, rfl, size, fits, rfl⟩ := next_of_nfcidField identified
      have place : ([sensFirst, sensSecond, length] ++ content).length = 3 + length.toNat := by
        rw [List.length_append, size]
        rfl
      obtain ⟨rest, rfl⟩ :=
        next_of_selectField ([sensFirst, sensSecond, length] ++ content) place selected
      exact ⟨⟨sensFirst, sensSecond, length, content, select, rest, size, fits⟩, rfl, rfl⟩
    · cases read
  · rintro ⟨layout, rfl, rfl⟩
    exact ofBytes_of_layout layout.size layout.fits

end PollAParameters

/-! ### One layout only -/

theorem append_inj_of_toNat {length : UInt8} {first second firstRest secondRest : Bytes}
    (firstSize : length.toNat = first.length) (secondSize : length.toNat = second.length)
    (same : first ++ firstRest = second ++ secondRest) :
    first = second ∧ firstRest = secondRest :=
  List.append_inj same (firstSize.symm.trans secondSize)

theorem PollALayout.eq_of_bytes {first second : PollALayout} (same : first.bytes = second.bytes) :
    first = second := by
  obtain ⟨sensFirst, sensSecond, length, nfcid, select, rest, size, fits⟩ := first
  obtain ⟨_, _, _, otherNfcid, otherSelect, otherRest, otherSize, _⟩ := second
  simp only [bytes, List.cons.injEq] at same
  obtain ⟨rfl, rfl, rfl, same⟩ := same
  obtain ⟨rfl, same⟩ := append_inj_of_toNat size otherSize same
  -- The byte before the select response tells whether there is one.
  cases select <;> cases otherSelect <;> simp_all [PollAParameters.selectBytes]

/-! ### Technology parameters -/

/-- What the bytes of a technology are kept as: a layout of technology A, if that is the
technology and there are bytes at all, and otherwise the bytes themselves. -/
inductive TechnologyParameters.Laid (technology : RfTechnology) (bytes : Bytes) :
    TechnologyParameters → Prop
  | raw (whole : technology ≠ .pollA ∨ bytes = []) : Laid technology bytes (.raw bytes)
  | pollA (layout : PollALayout) (mode : technology = .pollA) (laid : layout.bytes = bytes) :
      Laid technology bytes (.pollA layout.parameters)

theorem PollALayout.bytes_ne_nil (layout : PollALayout) : layout.bytes ≠ [] :=
  List.cons_ne_nil _ _

theorem TechnologyParameters.ofBytes_eq_ok_iff {technology : RfTechnology} {bytes : Bytes}
    {parameters : TechnologyParameters} :
    ofBytes technology bytes = .ok parameters ↔ Laid technology bytes parameters := by
  unfold ofBytes
  split
  · rename_i taken
    rw [map_eq_ok_iff]
    constructor
    · rintro ⟨_, read, rfl⟩
      obtain ⟨layout, laid, rfl⟩ := PollAParameters.ofBytes_eq_ok_iff.mp read
      exact .pollA layout taken.1 laid
    · intro laid
      cases laid with
      | raw whole =>
          cases whole with
          | inl other => exact absurd taken.1 other
          | inr empty => exact absurd empty taken.2
      | pollA layout mode laid =>
          exact ⟨_, PollAParameters.ofBytes_eq_ok_iff.mpr ⟨layout, laid, rfl⟩, rfl⟩
  · rename_i kept
    constructor
    · intro read
      cases read
      by_cases mode : technology = .pollA
      · exact .raw (.inr (Decidable.not_not.mp fun full => kept ⟨mode, full⟩))
      · exact .raw (.inl mode)
    · intro laid
      cases laid with
      | raw whole => rfl
      | pollA layout mode laid => exact absurd ⟨mode, laid ▸ layout.bytes_ne_nil⟩ kept

/-! ### Announcements -/

namespace Activation

def ofLong (payload : Bytes) (long : 11 ≤ payload.length) : Except Fault Activation := do
  let tail := 7 + payload[6].toNat
  let technologyBytes ← Field.slice payload 7 payload[6].toNat
  let parameters ← TechnologyParameters.ofBytes ⟨payload[3]⟩ technologyBytes
  let exchangeTechnology ← Field.byte payload tail
  let transmitBitRate ← Field.byte payload (tail + 1)
  let receiveBitRate ← Field.byte payload (tail + 2)
  let activationLength ← Field.byte payload (tail + 3)
  let activationParameters ← Field.slice payload (tail + 4) activationLength.toNat
  return {
    discoveryId := payload[0]
    interface := ⟨payload[1]⟩
    protocol := ⟨payload[2]⟩
    technology := ⟨payload[3]⟩
    maxPayloadSize := payload[4]
    initialCredits := payload[5]
    parameters := parameters
    exchangeTechnology := ⟨exchangeTechnology⟩
    transmitBitRate := transmitBitRate
    receiveBitRate := receiveBitRate
    activationParameters := activationParameters }

/-- One look at the length makes the seven indices safe. -/
theorem ofPayload_eq_dite (payload : Bytes) :
    ofPayload payload =
      if long : 11 ≤ payload.length then ofLong payload long
      else .error (.invalidLength 11 payload.length) := by
  split
  · rename_i long
    have byte0 := Field.byte_of_lt (show 0 < payload.length by omega)
    have byte1 := Field.byte_of_lt (show 1 < payload.length by omega)
    have byte2 := Field.byte_of_lt (show 2 < payload.length by omega)
    have byte3 := Field.byte_of_lt (show 3 < payload.length by omega)
    have byte4 := Field.byte_of_lt (show 4 < payload.length by omega)
    have byte5 := Field.byte_of_lt (show 5 < payload.length by omega)
    have byte6 := Field.byte_of_lt (show 6 < payload.length by omega)
    unfold ofPayload
    rw [Field.atLeast_of_le long, byte0, byte1, byte2, byte3, byte4, byte5, byte6]
    rfl
  · rename_i short
    unfold ofPayload
    rw [Field.atLeast_of_not_le short]
    rfl

/-- An announcement, field by field, with the lengths that stand before its two strings and
whatever follows it. -/
structure Announcement where
  fields : Fields
  technologyLength : UInt8
  activationLength : UInt8
  rest : Bytes
  technology : technologyLength.toNat = fields.technologyBytes.length
  activation : activationLength.toNat = fields.activationParameters.length

namespace Announcement

def bytes (announcement : Announcement) : Bytes :=
  announcement.fields.bytes announcement.technologyLength announcement.activationLength
    announcement.rest

def Carries (announcement : Announcement) (parameters : TechnologyParameters) : Prop :=
  TechnologyParameters.Laid ⟨announcement.fields.technology⟩ announcement.fields.technologyBytes
    parameters

theorem eq_of_bytes {first second : Announcement} (same : first.bytes = second.bytes) :
    first = second := by
  obtain ⟨⟨⟩, length, appendixLength, rest, technology, activation⟩ := first
  obtain ⟨⟨⟩, _, _, _, otherTechnology, otherActivation⟩ := second
  simp only [bytes, Fields.bytes, List.cons_append, List.nil_append, List.cons.injEq] at same
  obtain ⟨rfl, rfl, rfl, rfl, rfl, rfl, rfl, same⟩ := same
  obtain ⟨bytes, behind⟩ := append_inj_of_toNat technology otherTechnology same
  simp only [List.cons.injEq] at behind
  obtain ⟨rfl, rfl, rfl, rfl, trailing⟩ := behind
  obtain ⟨appendix, rfl⟩ := append_inj_of_toNat activation otherActivation trailing
  dsimp only at bytes appendix
  subst bytes appendix
  rfl

end Announcement

theorem heading_split {payload : Bytes} (long : 11 ≤ payload.length) :
    ∃ id interface protocol mode limit credits length back,
      payload = id :: interface :: protocol :: mode :: limit :: credits :: length :: back := by
  match payload, long with
  | id :: interface :: protocol :: mode :: limit :: credits :: length :: back, _ =>
      exact ⟨id, interface, protocol, mode, limit, credits, length, back, rfl⟩

theorem announcement_of_ofPayload {payload : Bytes} {activation : Activation}
    (read : ofPayload payload = .ok activation) :
    ∃ announcement : Announcement, announcement.bytes = payload ∧
      ∃ parameters, announcement.Carries parameters ∧
        announcement.fields.record parameters = activation := by
  rw [ofPayload_eq_dite] at read
  split at read
  · rename_i long
    obtain ⟨id, interface, protocol, mode, limit, credits, length, back, rfl⟩ := heading_split long
    obtain ⟨bytes, sliced, read⟩ := bind_eq_ok_iff.mp read
    obtain ⟨parameters, taken, read⟩ := bind_eq_ok_iff.mp read
    obtain ⟨exchange, rate0, read⟩ := bind_eq_ok_iff.mp read
    obtain ⟨transmit, rate1, read⟩ := bind_eq_ok_iff.mp read
    obtain ⟨receive, rate2, read⟩ := bind_eq_ok_iff.mp read
    obtain ⟨appendixLength, rate3, read⟩ := bind_eq_ok_iff.mp read
    obtain ⟨appendix, last, read⟩ := bind_eq_ok_iff.mp read
    cases read
    obtain ⟨back, rfl, technology⟩ :=
      Field.next_of_slice [id, interface, protocol, mode, limit, credits, length] rfl sliced
    -- The other fields are found from the end of the technology parameters.
    have place : ([id, interface, protocol, mode, limit, credits, length] ++ bytes).length =
        7 + length.toNat := by
      rw [List.length_append, ← technology]
      rfl
    obtain ⟨back, rfl⟩ := Field.next_of_byte _ place rate0
    obtain ⟨back, rfl⟩ := Field.next_of_byte [exchange] rfl (Field.byte_of_append _ place rate1)
    obtain ⟨back, rfl⟩ :=
      Field.next_of_byte [exchange, transmit] rfl (Field.byte_of_append _ place rate2)
    obtain ⟨back, rfl⟩ :=
      Field.next_of_byte [exchange, transmit, receive] rfl (Field.byte_of_append _ place rate3)
    obtain ⟨back, rfl, activation⟩ :=
      Field.next_of_slice [exchange, transmit, receive, appendixLength] rfl
        (Field.slice_of_append _ place last)
    exact ⟨⟨⟨id, interface, protocol, mode, limit, credits, bytes, exchange, transmit, receive,
        appendix⟩, length, appendixLength, back, technology, activation⟩, rfl, parameters,
      TechnologyParameters.ofBytes_eq_ok_iff.mp taken, rfl⟩
  · cases read

theorem ofPayload_eq_ok_iff {payload : Bytes} {activation : Activation} :
    ofPayload payload = .ok activation ↔
      ∃ announcement : Announcement, announcement.bytes = payload ∧
        ∃ parameters, announcement.Carries parameters ∧
          announcement.fields.record parameters = activation := by
  constructor
  · exact announcement_of_ofPayload
  · rintro ⟨announcement, rfl, parameters, carried, rfl⟩
    exact ofPayload_of_layout announcement.fields announcement.rest announcement.technology
      announcement.activation (TechnologyParameters.ofBytes_eq_ok_iff.mpr carried)

/-! ### Accepted exactly -/

/-- How a payload is read: which ones are accepted and as what, in how many ways one can be
taken apart, what the others are answered, which bytes have a say in what, and that the
bytes taken by index are there. -/
structure ReadExactly (payload : Bytes) : Prop where
  accepted : ∀ activation, ofPayload payload = .ok activation ↔
    ∃ announcement : Announcement, announcement.bytes = payload ∧
      ∃ parameters, announcement.Carries parameters ∧
        announcement.fields.record parameters = activation
  refused : (¬∃ announcement : Announcement, announcement.bytes = payload ∧
      ∃ parameters, announcement.Carries parameters) →
    ∃ fault, ofPayload payload = .error fault ∧ fault.status = .syntaxError
  unique : ∀ first second : Announcement, first.bytes = payload → second.bytes = payload →
    first = second
  confined : ∀ announcement : Announcement, announcement.bytes = payload →
    ofPayload payload =
        (TechnologyParameters.ofBytes ⟨announcement.fields.technology⟩
          announcement.fields.technologyBytes).map announcement.fields.record ∧
      ∀ layout : PollALayout, layout.bytes = announcement.fields.technologyBytes →
        layout.parameters.nfcid.toBytes = layout.nfcid ∧
          ∀ other : PollALayout, other.bytes = announcement.fields.technologyBytes →
            other = layout
  indexed : ofPayload payload =
    if long : 11 ≤ payload.length then ofLong payload long
    else .error (.invalidLength 11 payload.length)
  sensed : ∀ announcement : Announcement, announcement.bytes = payload →
    PollAParameters.ofBytes announcement.fields.technologyBytes =
      if long : 2 ≤ announcement.fields.technologyBytes.length then
        PollAParameters.ofLong announcement.fields.technologyBytes long
      else .error (.invalidLength 2 announcement.fields.technologyBytes.length)

theorem ofPayload_refused {payload : Bytes}
    (other : ¬∃ announcement : Announcement, announcement.bytes = payload ∧
      ∃ parameters, announcement.Carries parameters) :
    ∃ fault, ofPayload payload = .error fault ∧ fault.status = .syntaxError := by
  cases read : ofPayload payload with
  | error fault => exact ⟨fault, rfl, ofPayload_shaped payload fault read⟩
  | ok activation =>
      obtain ⟨announcement, laid, parameters, carried, _⟩ := ofPayload_eq_ok_iff.mp read
      exact absurd ⟨announcement, laid, parameters, carried⟩ other

theorem ofPayload_exact (payload : Bytes) : ReadExactly payload where
  accepted _ := ofPayload_eq_ok_iff
  refused := ofPayload_refused
  unique _ _ first second := Announcement.eq_of_bytes (first.trans second.symm)
  confined := by
    rintro announcement rfl
    constructor
    · exact ofPayload_bytes announcement.fields announcement.rest announcement.technology
        announcement.activation
    · intro layout laid
      refine ⟨layout.nfcid_toBytes, ?_⟩
      intro other same
      exact PollALayout.eq_of_bytes (same.trans laid.symm)
  indexed := ofPayload_eq_dite payload
  sensed announcement _ := PollAParameters.ofBytes_eq_dite announcement.fields.technologyBytes

/-- The length of the activation parameters promises one byte more than there is. -/
example : ofPayload [1, 1, 2, 1, 0, 0, 0, 0, 0, 0, 1] = .error (.invalidLength 12 11) :=
  rfl

end Activation
end NfcHost

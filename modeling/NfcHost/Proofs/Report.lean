/-
What is made of a payload that is taken for a report of capabilities.

A payload is refused for its size first and for its status second.  Whatever stands behind
a good status is accepted.  It is told in full exactly when there are as many bytes as the
number of interfaces calls for, and then it is the report of the capabilities that are told,
laid out field by field, with any bytes behind it.
-/

import NfcHost.Proofs.Announcement
import NfcHost.Proofs.Transition

namespace NfcHost

theorem Block.padded_of_length {width : Nat} {bytes : Bytes} (fits : bytes.length = width) :
    padded width bytes = ⟨bytes, fits⟩ := by
  subst fits
  simp [padded]

/-! ### Reading on -/

namespace Field

variable {data back rest : Bytes} {offset size width : Nat}

def wordBytes (value : UInt16) : Bytes :=
  [UInt8.ofNat (value.toNat % 256), UInt8.ofNat (value.toNat / 256)]

theorem wordBytes_of_pair (low high : UInt8) :
    wordBytes (UInt16.ofNat (low.toNat + 256 * high.toNat)) = [low, high] := by
  have lowByte := low.toNat_lt
  have highByte := high.toNat_lt
  have number : (UInt16.ofNat (low.toNat + 256 * high.toNat)).toNat =
      low.toNat + 256 * high.toNat := UInt16.toNat_ofNat_of_lt' (by change _ < 65536; omega)
  have lowPart : (low.toNat + 256 * high.toNat) % 256 = low.toNat := by omega
  have highPart : (low.toNat + 256 * high.toNat) / 256 = high.toNat := by omega
  rw [wordBytes, number, lowPart, highPart, UInt8.ofNat_toNat, UInt8.ofNat_toNat]

theorem pair_of_wordBytes (value : UInt16) :
    UInt16.ofNat ((UInt8.ofNat (value.toNat % 256)).toNat +
      256 * (UInt8.ofNat (value.toNat / 256)).toNat) = value := by
  have bound : value.toNat < 65536 := value.toNat_lt
  have low : (UInt8.ofNat (value.toNat % 256)).toNat = value.toNat % 256 :=
    UInt8.toNat_ofNat_of_lt' (by change _ < 256; omega)
  have high : (UInt8.ofNat (value.toNat / 256)).toNat = value.toNat / 256 :=
    UInt8.toNat_ofNat_of_lt' (by change _ < 256; omega)
  have whole : value.toNat % 256 + 256 * (value.toNat / 256) = value.toNat := by omega
  rw [low, high, whole, UInt16.ofNat_toNat]

theorem slice_of_le (inside : offset + size ≤ data.length) :
    slice data offset size = .ok ((data.drop offset).take size) :=
  if_neg (Nat.not_lt.mpr inside)

theorem word_of_le (inside : offset + 2 ≤ data.length) : ∃ value, word data offset = .ok value := by
  unfold word
  rw [List.getElem?_eq_getElem (show offset < data.length by omega),
    List.getElem?_eq_getElem (show offset + 1 < data.length by omega)]
  exact ⟨_, rfl⟩

def Leaves (data : Bytes) (offset : Nat) (back : Bytes) : Prop :=
  ∃ front, data = front ++ back ∧ front.length = offset

namespace Leaves

theorem start (data : Bytes) : Leaves data 0 data :=
  ⟨[], rfl, rfl⟩

theorem skip {content : Bytes} (leaves : Leaves data offset (content ++ rest))
    (width : content.length = size) : Leaves data (offset + size) rest := by
  obtain ⟨front, rfl, rfl⟩ := leaves
  exact ⟨front ++ content, (List.append_assoc ..).symm, width ▸ List.length_append⟩

theorem skip_byte {value : UInt8} (leaves : Leaves data offset (value :: rest)) :
    Leaves data (offset + 1) rest := by
  obtain ⟨front, rfl, rfl⟩ := leaves
  exact ⟨front ++ [value], List.append_cons .., List.length_append⟩

theorem byte_iff (leaves : Leaves data offset back) (value : UInt8) :
    byte data offset = .ok value ↔ ∃ rest, back = value :: rest := by
  obtain ⟨front, rfl, place⟩ := leaves
  constructor
  · exact next_of_byte front place
  · rintro ⟨rest, rfl⟩
    exact byte_of_split rfl place

theorem slice_iff (leaves : Leaves data offset back) (content : Bytes) :
    slice data offset size = .ok content ↔
      ∃ rest, back = content ++ rest ∧ size = content.length := by
  obtain ⟨front, rfl, place⟩ := leaves
  constructor
  · exact next_of_slice front place
  · rintro ⟨rest, rfl, width⟩
    exact slice_of_split rfl place width.symm

theorem block_iff (leaves : Leaves data offset back) (block : Block width) :
    Field.block data offset width = .ok block ↔ ∃ rest, back = block.bytes ++ rest := by
  unfold Field.block
  rw [map_eq_ok_iff]
  constructor
  · rintro ⟨content, read, rfl⟩
    obtain ⟨rest, rfl, fits⟩ := (leaves.slice_iff content).mp read
    exact ⟨rest, by rw [Block.padded_of_length fits.symm]⟩
  · rintro ⟨rest, rfl⟩
    refine ⟨block.bytes, ?_, Block.padded_of_length block.bytes_length⟩
    exact (leaves.slice_iff block.bytes).mpr ⟨rest, rfl, block.bytes_length.symm⟩

theorem word_iff (leaves : Leaves data offset back) (value : UInt16) :
    word data offset = .ok value ↔ ∃ rest, back = wordBytes value ++ rest := by
  obtain ⟨front, rfl, rfl⟩ := leaves
  unfold word
  rw [List.getElem?_append_right (Nat.le_refl _), List.getElem?_append_right (Nat.le_add_right ..),
    Nat.sub_self, Nat.add_sub_cancel_left]
  constructor
  · intro read
    match back, read with
    | low :: high :: rest, read =>
        cases read
        exact ⟨rest, by rw [wordBytes_of_pair]; rfl⟩
  · rintro ⟨rest, rfl⟩
    exact congrArg Except.ok (pair_of_wordBytes value)

end Leaves
end Field

namespace Capabilities

/-! ### The layout of a report -/

/-- What stands behind the status: the fields in order, the interfaces behind their number. -/
def detailBytes (capabilities : Capabilities) : Bytes :=
  capabilities.features.bytes ++
    UInt8.ofNat capabilities.interfaces.length ::
      (capabilities.interfaces.map RfInterface.code ++
        capabilities.maxLogicalConnections ::
          (Field.wordBytes capabilities.maxRoutingTableSize ++
            capabilities.maxControlPayload ::
              (Field.wordBytes capabilities.maxLargeParameters ++
                capabilities.manufacturerId :: capabilities.manufacturerInfo.bytes)))

/-- A report of the capabilities with the status `ok`, and what may follow it. -/
def report (capabilities : Capabilities) (rest : Bytes) : Bytes :=
  0 :: (capabilities.detailBytes ++ rest)

/-! ### Read as it is laid out -/

/-- Details that are read leave the number of interfaces no choice, so they stand there as
they are laid out. -/
theorem layout_of_details {payload : Bytes} {capabilities : Capabilities}
    (read : details payload = .ok capabilities) :
    capabilities.interfaces.length ≤ 255 ∧
      ∃ code rest, payload = code :: (capabilities.detailBytes ++ rest) := by
  obtain ⟨features, read1, read⟩ := bind_eq_ok_iff.mp read
  obtain ⟨count, read2, read⟩ := bind_eq_ok_iff.mp read
  obtain ⟨interfaces, read3, read⟩ := bind_eq_ok_iff.mp read
  obtain ⟨connections, read4, read⟩ := bind_eq_ok_iff.mp read
  obtain ⟨routing, read5, read⟩ := bind_eq_ok_iff.mp read
  obtain ⟨control, read6, read⟩ := bind_eq_ok_iff.mp read
  obtain ⟨large, read7, read⟩ := bind_eq_ok_iff.mp read
  obtain ⟨manufacturer, read8, read⟩ := bind_eq_ok_iff.mp read
  obtain ⟨information, read9, read⟩ := bind_eq_ok_iff.mp read
  cases read
  cases payload with
  | nil => cases read1
  | cons code back =>
      have left : Field.Leaves (code :: back) 1 back := (Field.Leaves.start _).skip_byte
      obtain ⟨back, rfl⟩ := (left.block_iff features).mp read1
      replace left := left.skip features.bytes_length
      obtain ⟨back, rfl⟩ := (left.byte_iff count).mp read2
      replace left := left.skip_byte
      obtain ⟨back, rfl, size⟩ := (left.slice_iff interfaces).mp read3
      replace left := left.skip size.symm
      obtain ⟨back, rfl⟩ := (left.byte_iff connections).mp read4
      replace left := left.skip_byte
      obtain ⟨back, rfl⟩ := (left.word_iff routing).mp read5
      replace left := left.skip rfl
      obtain ⟨back, rfl⟩ := (left.byte_iff control).mp read6
      replace left := left.skip_byte
      obtain ⟨back, rfl⟩ := (left.word_iff large).mp read7
      replace left := left.skip rfl
      obtain ⟨back, rfl⟩ := (left.byte_iff manufacturer).mp read8
      replace left := left.skip_byte
      obtain ⟨rest, rfl⟩ := (left.block_iff information).mp read9
      have few := count.toNat_lt
      have same : UInt8.ofNat interfaces.length = count := by rw [← size, UInt8.ofNat_toNat]
      have codes : (interfaces.map RfInterface.mk).map RfInterface.code = interfaces := by
        rw [List.map_map]
        exact List.map_id' interfaces
      refine ⟨?_, code, rest, ?_⟩
      · rw [List.length_map]
        omega
      · simp only [detailBytes, codes, List.length_map, same, List.append_assoc, List.cons_append]

theorem details_of_layout (capabilities : Capabilities) (code : UInt8) (rest : Bytes)
    (few : capabilities.interfaces.length ≤ 255) :
    details (code :: (capabilities.detailBytes ++ rest)) = .ok capabilities := by
  obtain ⟨features, interfaces, connections, routing, control, large, manufacturer, information⟩ :=
    capabilities
  dsimp only at few
  have count : (UInt8.ofNat interfaces.length).toNat = interfaces.length :=
    UInt8.toNat_ofNat_of_lt' (by change _ < 256; omega)
  have width :
      (interfaces.map RfInterface.code).length = (UInt8.ofNat interfaces.length).toNat := by
    rw [List.length_map, count]
  have same : (interfaces.map RfInterface.code).map RfInterface.mk = interfaces := by
    rw [List.map_map]
    exact List.map_id' interfaces
  generalize laid : code :: (detailBytes ⟨features, interfaces, connections, routing, control,
    large, manufacturer, information⟩ ++ rest) = payload
  have left : Field.Leaves payload 1 _ := laid ▸ (Field.Leaves.start _).skip_byte
  simp only [detailBytes, List.append_assoc, List.cons_append] at left
  have read1 := (left.block_iff features).mpr ⟨_, rfl⟩
  replace left := left.skip features.bytes_length
  have read2 := (left.byte_iff (UInt8.ofNat interfaces.length)).mpr ⟨_, rfl⟩
  replace left := left.skip_byte
  have read3 := (left.slice_iff (interfaces.map RfInterface.code)).mpr ⟨_, rfl, width.symm⟩
  replace left := left.skip width
  have read4 := (left.byte_iff connections).mpr ⟨_, rfl⟩
  replace left := left.skip_byte
  have read5 := (left.word_iff routing).mpr ⟨_, rfl⟩
  replace left := left.skip rfl
  have read6 := (left.byte_iff control).mpr ⟨_, rfl⟩
  replace left := left.skip_byte
  have read7 := (left.word_iff large).mpr ⟨_, rfl⟩
  replace left := left.skip rfl
  have read8 := (left.byte_iff manufacturer).mpr ⟨_, rfl⟩
  replace left := left.skip_byte
  have read9 := (left.block_iff information).mpr ⟨rest, rfl⟩
  refine bind_eq_ok_iff.mpr ⟨_, read1, bind_eq_ok_iff.mpr ⟨_, read2, ?_⟩⟩
  refine bind_eq_ok_iff.mpr ⟨_, read3, bind_eq_ok_iff.mpr ⟨_, read4, ?_⟩⟩
  refine bind_eq_ok_iff.mpr ⟨_, read5, bind_eq_ok_iff.mpr ⟨_, read6, ?_⟩⟩
  refine bind_eq_ok_iff.mpr ⟨_, read7, bind_eq_ok_iff.mpr ⟨_, read8, ?_⟩⟩
  refine bind_eq_ok_iff.mpr ⟨_, read9, ?_⟩
  rw [same]
  rfl

theorem length_detailBytes (capabilities : Capabilities) :
    capabilities.detailBytes.length = 16 + capabilities.interfaces.length := by
  simp only [detailBytes, Field.wordBytes, List.length_append, List.length_cons, List.length_map,
    List.length_nil, Block.bytes_length]
  omega

/-! ### Whether there are enough bytes -/

theorem details_of_le {payload : Bytes} {count : UInt8} (counted : payload[5]? = some count)
    (enough : 17 + count.toNat ≤ payload.length) :
    ∃ capabilities, details payload = .ok capabilities := by
  have byteAt {offset : Nat} (inside : offset < payload.length) :
      ∃ value, Field.byte payload offset = .ok value := ⟨_, Field.byte_of_lt inside⟩
  have blockAt {offset : Nat} (inside : offset + 4 ≤ payload.length) :
      ∃ block, Field.block payload offset 4 = .ok block :=
    ⟨_, by rw [Field.block, Field.slice_of_le inside]; rfl⟩
  have read2 : Field.byte payload 5 = .ok count := by rw [Field.byte, counted]
  have read3 := Field.slice_of_le (show 6 + count.toNat ≤ payload.length by omega)
  obtain ⟨features, read1⟩ := blockAt (show 1 + 4 ≤ _ by omega)
  obtain ⟨connections, read4⟩ := byteAt (show 6 + count.toNat < _ by omega)
  obtain ⟨routing, read5⟩ :=
    Field.word_of_le (show 6 + count.toNat + 1 + 2 ≤ payload.length by omega)
  obtain ⟨control, read6⟩ := byteAt (show 6 + count.toNat + 3 < _ by omega)
  obtain ⟨large, read7⟩ :=
    Field.word_of_le (show 6 + count.toNat + 4 + 2 ≤ payload.length by omega)
  obtain ⟨manufacturer, read8⟩ := byteAt (show 6 + count.toNat + 6 < _ by omega)
  obtain ⟨information, read9⟩ := blockAt (show 6 + count.toNat + 7 + 4 ≤ _ by omega)
  simp only [details, read1, read2, read3, read4, read5, read6, read7, read8, read9, bind,
    Except.bind, pure, Except.pure]
  exact ⟨_, rfl⟩

theorem details_isSome_iff {payload : Bytes} {count : UInt8} (counted : payload[5]? = some count) :
    (details payload).toOption.isSome ↔ 17 + count.toNat ≤ payload.length := by
  constructor
  · intro told
    cases read : details payload with
    | error fault =>
        rw [read] at told
        cases told
    | ok capabilities =>
        obtain ⟨few, code, rest, rfl⟩ := layout_of_details read
        have number : UInt8.ofNat capabilities.interfaces.length = count := by
          rw [detailBytes, List.append_assoc, List.getElem?_cons_succ,
            List.getElem?_append_right (Nat.le_of_eq capabilities.features.bytes_length),
            capabilities.features.bytes_length] at counted
          exact Option.some.inj counted
        have size : count.toNat = capabilities.interfaces.length :=
          number ▸ UInt8.toNat_ofNat_of_lt' (by change _ < 256; omega)
        rw [List.length_cons, List.length_append, length_detailBytes]
        omega
  · intro enough
    obtain ⟨capabilities, read⟩ := details_of_le counted enough
    rw [read]
    rfl

/-! ### What is made of a payload -/

def refusal (code : UInt8) : Fault :=
  if code = 1 then .rejected else .reported (.ofCode code)

theorem ofStatus?_ofCode {code : UInt8} (bad : code ≠ 0) :
    Fault.ofStatus? (.ofCode code) = some (refusal code) := by
  have written := Status.code_ofCode code
  unfold refusal
  cases status : Status.ofCode code with
  | ok =>
      rw [status] at written
      exact absurd written.symm bad
  | rejected =>
      rw [status] at written
      subst written
      rfl
  | _ =>
      rw [if_neg]
      · rfl
      · rintro rfl
        cases status

/-- What is made of one payload, whatever it is. -/
structure Decided (payload : Bytes) : Prop where
  short : payload.length < 17 → ofPayload payload = .error (.invalidLength 17 payload.length)
  refused (code : UInt8) : 17 ≤ payload.length → payload.head? = some code → code ≠ 0 →
    ofPayload payload = .error (refusal code)
  /-- Nothing else is ever a fault; the sixth byte says how many bytes make the details fit. -/
  accepted : 17 ≤ payload.length → payload.head? = some 0 →
    ∃ found count, ofPayload payload = .ok found ∧ payload[5]? = some count ∧
      (found.toOption.isSome ↔ 17 + count.toNat ≤ payload.length)
  told (capabilities : Capabilities) : ofPayload payload = .ok (.ok capabilities) ↔
    capabilities.interfaces.length ≤ 255 ∧ ∃ rest, payload = capabilities.report rest

theorem ofPayload_eq_report_iff {payload : Bytes} {capabilities : Capabilities} :
    ofPayload payload = .ok (.ok capabilities) ↔
      capabilities.interfaces.length ≤ 255 ∧ ∃ rest, payload = capabilities.report rest := by
  constructor
  · intro read
    obtain ⟨back, rfl, -, found⟩ := eq_of_ofPayload read
    obtain ⟨few, code, rest, laid⟩ := layout_of_details found.symm
    cases laid
    exact ⟨few, rest, rfl⟩
  · rintro ⟨few, rest, rfl⟩
    have size : 16 ≤ (capabilities.detailBytes ++ rest).length := by
      rw [List.length_append, length_detailBytes]
      omega
    rw [report, ofPayload_of_ok size, details_of_layout capabilities 0 rest few]

theorem ofPayload_decided (payload : Bytes) : Decided payload where
  short few := by
    unfold ofPayload
    rw [Field.atLeast_of_not_le (Nat.not_le.mpr few)]
  refused code size head bad := by
    obtain ⟨rest, rfl⟩ := List.head?_eq_some_iff.mp head
    rw [ofPayload_of_size size, Field.statusOk_of_some rest (ofStatus?_ofCode bad)]
    rfl
  accepted size head := by
    obtain ⟨rest, rfl⟩ := List.head?_eq_some_iff.mp head
    have counted := List.getElem?_eq_getElem (show 5 < (0 :: rest).length by omega)
    exact ⟨_, _, ofPayload_of_ok (Nat.le_of_succ_le_succ size), counted, details_isSome_iff counted⟩
  told _ := ofPayload_eq_report_iff

end Capabilities
end NfcHost

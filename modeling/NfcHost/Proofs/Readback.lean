/-
Commands, read back from their packets.

`Command.ofBytes?` is the reader a controller would use: it takes a packet apart, finds the
command by group and opcode, and reads its parameters, lists entry by entry.  It accepts
exactly what is written for a command, the reserved bits of the header apart.  So a command
that can be written is known from its bytes, and two commands are never written alike.
-/

import NfcHost.Proofs.Framing
import NfcHost.Proofs.Submission

namespace NfcHost

/-! ### Codes -/

structure Coding (α : Type) where
  values : List α
  code : α → UInt8
  complete : ∀ value, value ∈ values
  distinct : ∀ first second, code first = code second → first = second

namespace Coding

variable {α : Type} {coding : Coding α} {value : α}

def read? (coding : Coding α) (byte : UInt8) : Option α :=
  coding.values.find? fun value => coding.code value == byte

def readOnly? (coding : Coding α) : Bytes → Option α
  | [byte] => coding.read? byte
  | _ => none

theorem code_of_read? {byte : UInt8} (found : coding.read? byte = some value) :
    coding.code value = byte := by
  unfold read? at found
  have fits := List.find?_some found
  exact eq_of_beq fits

theorem read?_eq_some_iff {byte : UInt8} :
    coding.read? byte = some value ↔ coding.code value = byte := by
  constructor
  · exact code_of_read?
  · intro coded
    cases found : coding.read? byte with
    | none =>
        have absent := List.find?_eq_none.mp found value (coding.complete value)
        exact absurd (beq_iff_eq.mpr coded) absent
    | some other =>
        rw [coding.distinct other value ((code_of_read? found).trans coded.symm)]

theorem readOnly?_eq_some_iff {bytes : Bytes} :
    coding.readOnly? bytes = some value ↔ [coding.code value] = bytes := by
  unfold readOnly?
  split
  · simp [read?_eq_some_iff]
  · rename_i other
    constructor
    · intro read
      cases read
    · intro same
      exact absurd same.symm (other _)

end Coding

def ResetKind.coding : Coding ResetKind where
  values := [keepConfig, resetConfig]
  code := code
  complete value := by cases value <;> decide
  distinct first second := by cases first <;> cases second <;> decide

def InterfaceMode.coding : Coding InterfaceMode where
  values := [poll, listen, pollAndListen]
  code := code
  complete value := by cases value <;> decide
  distinct first second := by cases first <;> cases second <;> decide

def DeactivationType.coding : Coding DeactivationType where
  values := [idle, sleep, sleepAf, discovery]
  code := code
  complete value := by cases value <;> decide
  distinct first second := by cases first <;> cases second <;> decide

/-! ### Lists -/

/-- Entries that are all written in the same number of bytes, and read from exactly what is
written for them. -/
structure EntryFormat (α : Type) where
  width : Nat
  write : α → Bytes
  read? : Bytes → Option α
  width_pos : 0 < width
  length_write : ∀ entry, (write entry).length = width
  read?_eq_some_iff : ∀ bytes entry, read? bytes = some entry ↔ write entry = bytes

namespace EntryFormat

variable {α : Type} {format : EntryFormat α} {entries : List α}

def readMany? (format : EntryFormat α) : Nat → Bytes → Option (List α)
  | 0, [] => some []
  | 0, _ :: _ => none
  | count + 1, bytes => do
      let entry ← format.read? (bytes.take format.width)
      let rest ← format.readMany? count (bytes.drop format.width)
      return entry :: rest

/-- A list behind its number of entries.  An empty list is never written. -/
def readList? (format : EntryFormat α) : Bytes → Option (List α)
  | [] => none
  | count :: rest => if count = 0 then none else format.readMany? count.toNat rest

theorem length_writes : (entries.map format.write).flatten.length = entries.length * format.width := by
  have wide : ∀ written ∈ entries.map format.write, written.length = format.width := by
    simp [format.length_write]
  rw [Command.length_flatten wide, List.length_map]

theorem readMany?_eq_some_iff {count : Nat} {bytes : Bytes} :
    format.readMany? count bytes = some entries ↔
      entries.length = count ∧ (entries.map format.write).flatten = bytes := by
  induction count generalizing bytes entries with
  | zero =>
      cases bytes with
      | nil => cases entries <;> simp [readMany?]
      | cons byte rest => cases entries <;> simp [readMany?]
  | succ count ih =>
      simp only [readMany?, Option.bind_eq_bind, Option.bind_eq_some_iff, Option.pure_def,
        Option.some.injEq, format.read?_eq_some_iff, ih]
      constructor
      · rintro ⟨entry, written, rest, ⟨rfl, flat⟩, rfl⟩
        simp [written, flat]
      · rintro ⟨size, rfl⟩
        cases entries with
        | nil => cases size
        | cons entry rest =>
            refine ⟨entry, ?_, rest, ⟨Nat.succ.inj size, ?_⟩, rfl⟩
            · simp [← format.length_write entry]
            · simp [← format.length_write entry]

theorem readList?_eq_some_iff {payload : Bytes} (short : payload.length ≤ Packet.maxPayload)
    (list : EntryList) :
    format.readList? payload = some entries ↔
      Command.encodeList list format.width (entries.map format.write) = .ok payload := by
  have count : (entries.map format.write).length = entries.length := List.length_map _
  rw [Command.encodeList_eq_ok_iff, count]
  cases payload with
  | nil => simp [readList?]
  | cons first rest =>
      simp only [readList?, Option.ite_none_left_eq_some, readMany?_eq_some_iff, List.cons.injEq]
      constructor
      · rintro ⟨some, size, rfl⟩
        refine ⟨?_, ?_, ?_, rfl⟩
        · intro none
          rw [List.map_eq_nil_iff.mp none] at size
          exact some (UInt8.toNat_inj.mp size.symm)
        · rw [List.length_cons, length_writes] at short
          omega
        · rw [size, UInt8.ofNat_toNat]
      · rintro ⟨some, inside, rfl, rfl⟩
        -- Every entry takes at least one byte, so the number of entries is below 256.
        have small : entries.length < 256 := by
          have := Nat.le_mul_of_pos_right entries.length format.width_pos
          simp only [Packet.maxPayload] at inside
          omega
        have size : (UInt8.ofNat entries.length).toNat = entries.length :=
          UInt8.toNat_ofNat_of_lt' small
        refine ⟨?_, size.symm, rfl⟩
        intro zero
        rw [zero] at size
        exact some (List.map_eq_nil_iff.mpr (List.length_eq_zero_iff.mp size.symm))

end EntryFormat

def MapEntry.read? : Bytes → Option MapEntry
  | [protocol, mode, interface] =>
      (InterfaceMode.coding.read? mode).map fun mode => ⟨⟨protocol⟩, mode, ⟨interface⟩⟩
  | _ => none

def MapEntry.format : EntryFormat MapEntry where
  width := 3
  write := encode
  read? := read?
  width_pos := by decide
  length_write _ := rfl
  read?_eq_some_iff bytes entry := by
    unfold read?
    split
    · rename_i protocol mode interface
      simp only [Option.map_eq_some_iff, Coding.read?_eq_some_iff]
      constructor
      · rintro ⟨mode, rfl, rfl⟩
        rfl
      · intro written
        cases written
        exact ⟨entry.mode, rfl, rfl⟩
    · rename_i other
      constructor
      · intro read
        cases read
      · intro written
        exact absurd written.symm (other _ _ _)

def DiscoveryEntry.read? : Bytes → Option DiscoveryEntry
  | [technology, frequency] => some ⟨⟨technology⟩, frequency⟩
  | _ => none

def DiscoveryEntry.format : EntryFormat DiscoveryEntry where
  width := 2
  write := encode
  read? := read?
  width_pos := by decide
  length_write _ := rfl
  read?_eq_some_iff bytes entry := by
    unfold read?
    split
    · rename_i technology frequency
      constructor
      · intro read
        cases read
        rfl
      · intro written
        cases written
        rfl
    · rename_i other
      constructor
      · intro read
        cases read
      · intro written
        exact absurd written.symm (other _ _)

/-! ### Commands -/

namespace Command

def ofParameters? (group opcode : UInt8) (payload : Bytes) : Option Command :=
  match group, opcode with
  | Group.core, Opcode.reset => (ResetKind.coding.readOnly? payload).map reset
  | Group.core, Opcode.init => if payload = [] then some init else none
  | Group.rf, Opcode.discoverMap => (MapEntry.format.readList? payload).map discoverMap
  | Group.rf, Opcode.discover => (DiscoveryEntry.format.readList? payload).map discover
  | Group.rf, Opcode.deactivate => (DeactivationType.coding.readOnly? payload).map deactivate
  | _, _ => none

def ofBytes? (bytes : Bytes) : Option Command :=
  match Packet.decode bytes with
  | .error _ => none
  | .ok packet =>
      if packet.header.messageType = .command then
        ofParameters? packet.header.group packet.header.opcode packet.payload
      else
        none

variable {command : Command}

theorem ofParameters?_eq_some_iff {group opcode : UInt8} {payload : Bytes}
    (short : payload.length ≤ Packet.maxPayload) :
    ofParameters? group opcode payload = some command ↔
      command.group = group ∧ command.opcode = opcode ∧ command.encodeParameters = .ok payload := by
  constructor
  · intro read
    unfold ofParameters? at read
    split at read
    · obtain ⟨kind, coded, rfl⟩ := Option.map_eq_some_iff.mp read
      exact ⟨rfl, rfl, congrArg Except.ok (Coding.readOnly?_eq_some_iff.mp coded)⟩
    · split at read
      · rename_i empty
        cases read
        exact ⟨rfl, rfl, congrArg Except.ok empty.symm⟩
      · cases read
    · obtain ⟨maps, listed, rfl⟩ := Option.map_eq_some_iff.mp read
      exact ⟨rfl, rfl, (EntryFormat.readList?_eq_some_iff short .map).mp listed⟩
    · obtain ⟨entries, listed, rfl⟩ := Option.map_eq_some_iff.mp read
      exact ⟨rfl, rfl, (EntryFormat.readList?_eq_some_iff short .configuration).mp listed⟩
    · obtain ⟨type, coded, rfl⟩ := Option.map_eq_some_iff.mp read
      exact ⟨rfl, rfl, congrArg Except.ok (Coding.readOnly?_eq_some_iff.mp coded)⟩
    · cases read
  · rintro ⟨rfl, rfl, written⟩
    cases command with
    | reset kind =>
        have coded : ResetKind.coding.readOnly? payload = some kind :=
          Coding.readOnly?_eq_some_iff.mpr (Except.ok.inj written)
        exact congrArg (Option.map reset) coded
    | init =>
        cases written
        rfl
    | discoverMap maps =>
        have listed : MapEntry.format.readList? payload = some maps :=
          (EntryFormat.readList?_eq_some_iff short .map).mpr written
        exact congrArg (Option.map discoverMap) listed
    | discover entries =>
        have listed : DiscoveryEntry.format.readList? payload = some entries :=
          (EntryFormat.readList?_eq_some_iff short .configuration).mpr written
        exact congrArg (Option.map discover) listed
    | deactivate type =>
        have coded : DeactivationType.coding.readOnly? payload = some type :=
          Coding.readOnly?_eq_some_iff.mpr (Except.ok.inj written)
        exact congrArg (Option.map deactivate) coded

def packet (command : Command) (payload : Bytes) : Packet :=
  ⟨⟨.command, false, command.group, command.opcode, UInt8.ofNat payload.length⟩, payload⟩

/-- A command is written as the packet of its parameters, which always fit in one. -/
theorem encode_eq_ok_iff {bytes : Bytes} :
    command.encode = .ok bytes ↔
      ∃ payload, command.encodeParameters = .ok payload ∧ payload.length ≤ Packet.maxPayload ∧
        (command.packet payload).encode = bytes := by
  unfold encode toPacket
  cases command.encodeParameters with
  | error fault => simp [Except.map]
  | ok payload =>
      dsimp only
      by_cases fits : payload.length ≤ Packet.maxPayload
      · rw [Packet.control_of_le fits, Header.control, command.group_and, command.opcode_and]
        simp [Except.map, fits, packet]
      · rw [Packet.control, Packet.payloadLength, if_neg fits]
        simp [Except.map, fits]

theorem decode_packet (command : Command) {payload : Bytes}
    (fits : payload.length ≤ Packet.maxPayload) :
    Packet.decode (command.packet payload).encode = .ok (command.packet payload) := by
  have returns := Packet.decode_control .command command.group command.opcode fits
  rw [Header.control, command.group_and, command.opcode_and] at returns
  exact returns

/-- A byte string is read as exactly the command it was written for, whatever its reserved
bits are. -/
theorem ofBytes?_eq_some_iff {bytes : Bytes} :
    ofBytes? bytes = some command ↔ command.encode = .ok (unreserved bytes) := by
  rw [encode_eq_ok_iff]
  unfold ofBytes?
  constructor
  · intro read
    split at read
    · cases read
    · rename_i held decoded
      split at read
      · rename_i typed
        obtain ⟨_, filled, whole, carried⟩ := Packet.decode_eq_ok_iff.mp decoded
        have size : held.header.length.toNat = held.payload.length := by
          rw [carried, List.length_drop, filled, Nat.add_sub_cancel_left]
        have fits : held.payload.length ≤ Packet.maxPayload :=
          size ▸ Nat.le_of_lt_succ held.header.length.toNat_lt
        obtain ⟨group, opcode, written⟩ := (ofParameters?_eq_some_iff fits).mp read
        have same : command.packet held.payload = held := by
          rw [packet, group, opcode, ← typed, ← whole, ← size, UInt8.ofNat_toNat]
        refine ⟨held.payload, written, fits, ?_⟩
        rw [same]
        exact Packet.encode_of_decode decoded
      · cases read
  · rintro ⟨payload, written, fits, same⟩
    have decoded := command.decode_packet fits
    rw [same, Packet.decode_unreserved] at decoded
    rw [decoded]
    exact (ofParameters?_eq_some_iff fits).mpr ⟨rfl, rfl, written⟩

/-! ### What is not lost -/

def Fits : Command → Prop
  | discoverMap maps => 1 ≤ maps.length ∧ maps.length ≤ 84
  | discover entries => 1 ≤ entries.length ∧ entries.length ≤ 127
  | _ => True

theorem unfit_iff (command : Command) :
    (∃ cause, (Request.command command).Unfit cause) ↔ ¬command.Fits := by
  constructor
  · rintro ⟨cause, bad⟩
    cases bad with
    | noMaps => simp [Fits]
    | manyMaps many =>
        simp only [Fits]
        omega
    | noEntries => simp [Fits]
    | manyEntries many =>
        simp only [Fits]
        omega
  · intro beyond
    cases command with
    | discoverMap maps =>
        simp only [Fits] at beyond
        cases maps with
        | nil => exact ⟨_, .noMaps⟩
        | cons entry rest => exact ⟨_, .manyMaps (by simp at beyond ⊢; omega)⟩
    | discover entries =>
        simp only [Fits] at beyond
        cases entries with
        | nil => exact ⟨_, .noEntries⟩
        | cons entry rest => exact ⟨_, .manyEntries (by simp at beyond ⊢; omega)⟩
    | _ => exact absurd trivial beyond

theorem encode_of_fits (fits : command.Fits) : ∃ bytes, command.encode = .ok bytes := by
  have encodes := (Request.command command).encode_encodes
  change (Request.command command).Encodes command.encode at encodes
  generalize command.encode = encoded at encodes ⊢
  cases encodes with
  | unfit bad => exact absurd fits ((unfit_iff command).mp ⟨_, bad⟩)
  | fit _ _ _ => exact ⟨_, rfl⟩

theorem encode_of_not_fits (unfit : ¬command.Fits) :
    ∃ cause, command.encode = .error (.invalidParameter cause) := by
  have encodes := (Request.command command).encode_encodes
  change (Request.command command).Encodes command.encode at encodes
  generalize command.encode = encoded at encodes ⊢
  cases encodes with
  | unfit bad => exact ⟨_, rfl⟩
  | fit good _ _ =>
      obtain ⟨cause, bad⟩ := (unfit_iff command).mpr unfit
      exact absurd bad (good cause)

def listed? : Command → Option (Nat × Nat)
  | discoverMap maps => some (maps.length, 3)
  | discover entries => some (entries.length, 2)
  | _ => none

theorem parameters_of_listed {payload : Bytes} {count width : Nat}
    (listed : command.listed? = some (count, width))
    (written : command.encodeParameters = .ok payload) :
    payload.length = 1 + width * count ∧ (payload.getD 0 0).toNat = count := by
  have counted {list : EntryList} {α : Type} (format : EntryFormat α) {entries : List α}
      (written : encodeList list format.width (entries.map format.write) = .ok payload) :
      payload.length = 1 + format.width * entries.length ∧
        (payload.getD 0 0).toNat = entries.length := by
    obtain ⟨_, inside, rfl⟩ := encodeList_eq_ok_iff.mp written
    have small := Nat.le_mul_of_pos_right entries.length format.width_pos
    rw [List.length_map] at inside
    constructor
    · rw [List.length_cons, EntryFormat.length_writes, Nat.add_comm, Nat.mul_comm]
    · rw [List.length_map, List.getD_cons_zero]
      apply UInt8.toNat_ofNat_of_lt'
      simp only [Packet.maxPayload] at inside
      change entries.length < 256
      omega
  cases command with
  | discoverMap maps =>
      cases listed
      exact counted MapEntry.format written
  | discover entries =>
      cases listed
      exact counted DiscoveryEntry.format written
  | _ => cases listed

/-- What is written of a command, and that nothing of it is lost. -/
structure Lossless (command : Command) : Prop where
  granted_iff : (∃ bytes, command.encode = .ok bytes) ↔ command.Fits
  refused : ¬command.Fits → ∃ cause, command.encode = .error (.invalidParameter cause)
  read_iff : ∀ bytes, ofBytes? bytes = some command ↔ command.encode = .ok (unreserved bytes)
  returns : ∀ bytes, command.encode = .ok bytes → ofBytes? bytes = some command
  distinct : ∀ bytes other, command.encode = .ok bytes → other.encode = .ok bytes →
    other = command
  counted : ∀ bytes count width, command.encode = .ok bytes →
    command.listed? = some (count, width) →
    bytes.length = 3 + 1 + width * count ∧ (bytes.getD 3 0).toNat = count

theorem unreserved_of_encode {bytes : Bytes} (written : command.encode = .ok bytes) :
    unreserved bytes = bytes := by
  obtain ⟨payload, _, fits, rfl⟩ := encode_eq_ok_iff.mp written
  exact (Packet.encode_of_decode (command.decode_packet fits)).symm

theorem ofBytes?_of_encode {bytes : Bytes} (written : command.encode = .ok bytes) :
    ofBytes? bytes = some command := by
  rw [ofBytes?_eq_some_iff, unreserved_of_encode written]
  exact written

/-- Writing a command loses nothing.  Every command can be written but one whose list is
empty or too long for one packet, which is refused for its parameters.  One reader gives
back each command that was written, with every entry of its list in order, and accepts
nothing else, reserved bits of the header apart; so no two commands are written alike.  A
list stands behind its number of entries, which never wraps, and fills the rest of its
packet. -/
theorem encode_lossless (command : Command) : command.Lossless where
  granted_iff := by
    constructor
    · rintro ⟨bytes, written⟩
      apply Classical.byContradiction
      intro unfit
      obtain ⟨cause, failed⟩ := encode_of_not_fits unfit
      cases failed.symm.trans written
    · exact encode_of_fits
  refused := encode_of_not_fits
  read_iff _ := ofBytes?_eq_some_iff
  returns _ := ofBytes?_of_encode
  distinct bytes other written alike := by
    have same := (ofBytes?_of_encode alike).symm.trans (ofBytes?_of_encode written)
    exact Option.some.inj same
  counted bytes count width written listed := by
    obtain ⟨payload, parameters, fits, rfl⟩ := encode_eq_ok_iff.mp written
    obtain ⟨size, counted⟩ := parameters_of_listed listed parameters
    constructor
    · rw [Packet.encode_length, Packet.wireSize]
      change 3 + payload.length = _
      omega
    · exact counted

example : ofBytes? [0x21, 0x03, 0x05, 0x02, 0x00, 0x01, 0x02, 0x01] =
    some (discover [⟨.pollA, 1⟩, ⟨.pollF, 1⟩]) := by
  decide

end Command
end NfcHost

/-
What a host makes of one request.

A request is a command or data for a connection, with whatever arguments.  The host
looks at the phase of its controller first, at the arguments second, and at the answer
of its link last; so each request is settled in one of three ways, and none of them
touches what the host knows of its controller.
-/

import NfcHost.Proofs.Encoding
import NfcHost.Proofs.Posting

namespace NfcHost

inductive Request where
  | command (command : Command)
  | data (connection : UInt8) (payload : Bytes)

namespace Request

def phase : Request → Phase
  | .command (.reset _) => .down
  | .command .init => .reset
  | .command (.discoverMap _) => .idle
  | .command (.discover _) => .idle
  | .command (.deactivate _) => .pollActive
  | .data _ _ => .pollActive

theorem phase_command (asked : Command) : (command asked).phase = asked.phase := by
  cases asked <;> rfl

/-- The arguments cannot be sent in one packet, and what is wrong with them. -/
inductive Unfit : Request → BadParameter → Prop
  | noMaps : Unfit (.command (.discoverMap [])) (.emptyList .map)
  | manyMaps {maps : List MapEntry} (many : 84 < maps.length) :
      Unfit (.command (.discoverMap maps)) (.listTooLong .map maps.length)
  | noEntries : Unfit (.command (.discover [])) (.emptyList .configuration)
  | manyEntries {entries : List DiscoveryEntry} (many : 127 < entries.length) :
      Unfit (.command (.discover entries)) (.listTooLong .configuration entries.length)
  | connection {connection : UInt8} {payload : Bytes} (beyond : 15 < connection.toNat) :
      Unfit (.data connection payload) (.connectionOutOfRange connection)
  | payload {connection : UInt8} {payload : Bytes} (inside : connection.toNat ≤ 15)
      (long : 255 < payload.length) :
      Unfit (.data connection payload) (.payloadTooLong payload.length)

def parameters : Request → Bytes
  | .command (.reset kind) => [kind.code]
  | .command .init => []
  | .command (.discoverMap maps) =>
      UInt8.ofNat maps.length ::
        maps.flatMap fun entry => [entry.protocol.code, entry.mode.code, entry.interface.code]
  | .command (.discover entries) =>
      UInt8.ofNat entries.length ::
        entries.flatMap fun entry => [entry.technology.code, entry.frequency]
  | .command (.deactivate deactivationType) => [deactivationType.code]
  | .data _ payload => payload

def header (request : Request) : Header :=
  let length := UInt8.ofNat request.parameters.length
  match request with
  | .command asked => ⟨.command, false, asked.group, asked.opcode, length⟩
  | .data connection _ => ⟨.data, false, connection, 0, length⟩

def packet (request : Request) : Packet :=
  ⟨request.header, request.parameters⟩

/-- The bytes that are written for a request, what the link reports of them, and what
the host makes of that. -/
structure Written (request : Request) (bytes : Bytes) (report : Except Fault Nat)
    (outcome : Except Fault Unit) : Prop where
  short : bytes.length ≤ 258
  reads : Packet.decode bytes = .ok request.packet
  done : outcome = .ok () ↔ report = .ok bytes.length
  cut : ∀ count, report = .ok count → count ≠ bytes.length →
    outcome = .error (.shortWrite bytes.length count)
  failed : ∀ fault, report = .error fault → outcome = .error fault

/-- How a request is settled in a phase: what passes over the link, and the outcome. -/
inductive Settles (request : Request) (phase : Phase) :
    List Exchange → Except Fault Unit → Prop
  | barred (other : phase ≠ request.phase) : Settles request phase [] (.error .rejected)
  | unfit {cause : BadParameter} (reached : phase = request.phase) (bad : request.Unfit cause) :
      Settles request phase [] (.error (.invalidParameter cause))
  | written {bytes : Bytes} {report : Except Fault Nat} {outcome : Except Fault Unit}
      (reached : phase = request.phase) (fit : ∀ cause, ¬request.Unfit cause)
      (wrote : request.Written bytes report outcome) :
      Settles request phase [.write bytes report] outcome

/-! ### Arguments -/

def encode : Request → Except Fault Bytes
  | .command asked => asked.encode
  | .data connection payload => (Packet.data connection payload).map Packet.encode

theorem Written.of_report {request : Request} {bytes : Bytes} (short : bytes.length ≤ 258)
    (reads : Packet.decode bytes = .ok request.packet) (report : Except Fault Nat) :
    request.Written bytes report (Transmission.outcome ⟨bytes, report⟩) where
  short := short
  reads := reads
  done := Transmission.outcome_ok_iff ⟨bytes, report⟩
  cut := by
    rintro count rfl other
    exact if_neg other
  failed := by
    rintro fault rfl
    rfl

/-- Arguments either cannot be sent, and are refused for what is wrong with them, or make
the packet of the request. -/
inductive Encodes (request : Request) : Except Fault Bytes → Prop
  | unfit {cause : BadParameter} (bad : request.Unfit cause) :
      Encodes request (.error (.invalidParameter cause))
  | fit {bytes : Bytes} (fit : ∀ cause, ¬request.Unfit cause) (short : bytes.length ≤ 258)
      (reads : Packet.decode bytes = .ok request.packet) : Encodes request (.ok bytes)

theorem Encodes.of_parameters {asked : Command}
    (fit : ∀ cause, ¬(command asked).Unfit cause)
    (parameters : asked.encodeParameters = .ok (command asked).parameters)
    (fits : (command asked).parameters.length ≤ Packet.maxPayload) :
    (command asked).Encodes asked.encode := by
  have same : (⟨.control .command asked.group asked.opcode
      (UInt8.ofNat (command asked).parameters.length), (command asked).parameters⟩ : Packet) =
      (command asked).packet := by
    unfold Header.control
    rw [asked.group_and, asked.opcode_and]
    rfl
  have read := Packet.decode_control .command asked.group asked.opcode fits
  dsimp only at read
  rw [same] at read
  rw [Command.encode, Command.toPacket, parameters]
  dsimp only
  rw [Packet.control_of_le fits, same]
  refine .fit fit ?_ read
  rw [Packet.encode_length]
  exact Nat.add_le_add_left fits 3

private theorem Encodes.of_list {asked : Command} {list : EntryList} {width : Nat}
    {entries : List Bytes}
    (encoded : asked.encodeParameters = Command.encodeList list width entries)
    (listed : (command asked).parameters = UInt8.ofNat entries.length :: entries.flatten)
    (wide : ∀ entry ∈ entries, entry.length = width)
    (unfit : ∀ cause, (command asked).Unfit cause ↔
      entries = [] ∧ cause = .emptyList list ∨
        255 < 1 + entries.length * width ∧ cause = .listTooLong list entries.length) :
    (command asked).Encodes asked.encode := by
  by_cases none : entries = []
  · rw [none, Command.encodeList_of_nil] at encoded
    rw [Command.encode_of_error encoded]
    exact .unfit ((unfit _).mpr (.inl ⟨none, rfl⟩))
  · by_cases long : 255 < 1 + entries.length * width
    · rw [Command.encodeList_of_long long none] at encoded
      rw [Command.encode_of_error encoded]
      exact .unfit ((unfit _).mpr (.inr ⟨long, rfl⟩))
    · have size : (command asked).parameters.length = 1 + entries.length * width := by
        rw [listed, List.length_cons, Command.length_flatten wide, Nat.add_comm]
      rw [Command.encodeList_of_fits (Nat.not_lt.mp long) none, ← listed] at encoded
      refine .of_parameters (fun cause bad => ?_) encoded (size ▸ Nat.not_lt.mp long)
      rcases (unfit cause).mp bad with ⟨empty, _⟩ | ⟨beyond, _⟩
      · exact none empty
      · exact long beyond

private theorem command_encodes (asked : Command) : (command asked).Encodes asked.encode := by
  cases asked with
  | reset kind => exact .of_parameters nofun rfl (Nat.le_add_left 1 254)
  | init => exact .of_parameters nofun rfl (Nat.zero_le _)
  | deactivate deactivationType => exact .of_parameters nofun rfl (Nat.le_add_left 1 254)
  | discoverMap maps =>
      refine .of_list rfl (by rw [List.length_map, ← List.flatMap_def]; rfl) ?_ fun cause => ?_
      · simp [MapEntry.encode]
      · constructor
        · rintro (_ | ⟨many⟩)
          · simp
          · exact .inr ⟨by rw [List.length_map]; omega, by rw [List.length_map]⟩
        · rintro (⟨none, rfl⟩ | ⟨long, rfl⟩)
          · rw [List.map_eq_nil_iff.mp none]
            exact .noMaps
          · rw [List.length_map] at long ⊢
            exact .manyMaps (by omega)
  | discover entries =>
      refine .of_list rfl (by rw [List.length_map, ← List.flatMap_def]; rfl) ?_ fun cause => ?_
      · simp [DiscoveryEntry.encode]
      · constructor
        · rintro (_ | ⟨many⟩)
          · simp
          · exact .inr ⟨by rw [List.length_map]; omega, by rw [List.length_map]⟩
        · rintro (⟨none, rfl⟩ | ⟨long, rfl⟩)
          · rw [List.map_eq_nil_iff.mp none]
            exact .noEntries
          · rw [List.length_map] at long ⊢
            exact .manyEntries (by omega)

private theorem data_encodes (connection : UInt8) (payload : Bytes) :
    (data connection payload).Encodes ((Packet.data connection payload).map Packet.encode) := by
  by_cases inside : connection ≤ Packet.lastConnection
  · have within : connection.toNat ≤ 15 := inside
    by_cases long : 255 < payload.length
    · have failed : Packet.data connection payload =
          .error (.invalidParameter (.payloadTooLong payload.length)) := by
        rw [Packet.data, if_pos inside, Packet.payloadLength, if_neg (Nat.not_le.mpr long)]
      rw [failed]
      exact .unfit (.payload within long)
    · have fits : payload.length ≤ Packet.maxPayload := Nat.not_lt.mp long
      have same : (⟨.data connection (UInt8.ofNat payload.length), payload⟩ : Packet) =
          (data connection payload).packet := by
        unfold Header.data
        rw [Packet.connection_and inside]
        rfl
      have read := Packet.decode_data connection fits
      dsimp only at read
      rw [same] at read
      rw [Packet.data_of_le inside fits, same]
      refine .fit ?_ ?_ read
      · rintro cause (_ | _)
        · omega
        · omega
      · rw [Packet.encode_length]
        exact Nat.add_le_add_left fits 3
  · rw [Packet.data, if_neg inside]
    exact .unfit (.connection (Nat.not_le.mp inside))

theorem encode_encodes (request : Request) : request.Encodes request.encode := by
  cases request with
  | command asked => exact command_encodes asked
  | data connection payload => exact data_encodes connection payload

end Request

/-! ### Requests to a host -/

namespace Host

variable {σ : Type} [Link σ]

def ask (host : Host σ) : Request → Except Fault Unit × Host σ
  | .command asked => host.command asked
  | .data connection payload => host.sendData connection payload

theorem controller_ask (host : Host σ) (request : Request) :
    (host.ask request).2.controller = host.controller := by
  cases request with
  | command asked => exact host.controller_command asked
  | data connection payload => exact host.controller_sendData connection payload

theorem ask_of_phase {host : Host σ} {request : Request}
    (reached : host.controller.phase = request.phase) :
    ∃ line, host.ask request =
      match request.encode with
      | .error fault => (.error fault, host)
      | .ok bytes => host.transmit line bytes := by
  -- Commands are noted by their names, and data by its connection and its length.
  cases request with
  | command asked =>
      rw [Request.phase_command] at reached
      exact ⟨.debug ("NCI_CMD: " ++ asked.name), if_pos reached⟩
  | data connection payload =>
      refine ⟨.debug ("NCI_DATA: conn " ++ toString connection.toNat ++ " len " ++
        toString payload.length), (if_pos reached).trans ?_⟩
      rw [show (Request.data connection payload).encode =
        (Packet.data connection payload).map Packet.encode from rfl]
      cases Packet.data connection payload with
      | error fault => rfl
      | ok packet => rfl

theorem ask_of_other_phase {host : Host σ} {request : Request}
    (other : host.controller.phase ≠ request.phase) :
    ∃ line, host.ask request = (.error .rejected, host.note line) := by
  cases request with
  | command asked =>
      rw [Request.phase_command] at other
      exact ⟨_, if_neg other⟩
  | data connection payload => exact ⟨_, if_neg other⟩

/-- A request meets the phase first, its arguments second and the link last.  In any
phase but its own it is rejected, whatever its arguments; arguments that do not fit in one
packet are refused; and in both cases the link is left alone.  Otherwise one packet is
written, which the decoder takes for the request, and the outcome is what the link makes
of it.  What is known of the controller stays as it was. -/
theorem ask_settles (host : Host σ) (request : Request) :
    ∃ path, Path host.link path (host.ask request).2.link ∧
      request.Settles host.controller.phase path (host.ask request).1 ∧
      (host.ask request).2.controller = host.controller := by
  have kept := host.controller_ask request
  by_cases reached : host.controller.phase = request.phase
  · obtain ⟨line, asked⟩ := ask_of_phase reached
    have encodes := request.encode_encodes
    generalize request.encode = encoded at asked encodes
    cases encodes with
    | unfit bad =>
        rw [asked]
        exact ⟨[], .nil _, .unfit reached bad, rfl⟩
    | @fit bytes fit short reads =>
        obtain ⟨report, taken, came⟩ := (host.channel.note line).send_path bytes
        have wrote := Request.Written.of_report short reads report
        rw [← came] at wrote
        rw [asked] at kept ⊢
        exact ⟨_, taken, .written reached fit wrote, kept⟩
  · obtain ⟨line, asked⟩ := ask_of_other_phase reached
    rw [asked]
    exact ⟨[], .nil _, .barred reached, rfl⟩

end Host
end NfcHost

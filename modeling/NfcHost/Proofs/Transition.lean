/-
What a message does to a controller, exactly.

`Transition` is the whole step relation: in which phase a message is awaited, what its
payload has to be, and what the controller keeps of it.  A message that comes in
another phase is refused whatever it holds; one that is awaited is refused for its size
first, for its status second and for its content last.  `Processes` adds what the link
does meanwhile, and says that nothing else is ever changed.
-/

import Mathlib.Data.List.Basic
import NfcHost.Host
import NfcHost.Proofs.Arrival
import NfcHost.Proofs.Reception

namespace NfcHost

/-! ### Flaws of a payload -/

namespace Message

def size : Message → Nat
  | .resetResponse => 3
  | .initResponse => 17
  | .discoverMapResponse => 1
  | .discoverResponse => 1
  | .interfaceActivated => 11
  | .deactivateResponse => 1
  | .deactivated => 2
  | .data _ => 0
  | .connectionCredits => 0

def Sized (message : Message) (payload : Bytes) : Prop :=
  match message with
  | .initResponse => message.size ≤ payload.length
  | .interfaceActivated => message.size ≤ payload.length
  | .data _ => True
  | .connectionCredits => True
  | message => payload.length = message.size

inductive Flaw (message : Message) : Bytes → Fault → Prop
  | size {payload : Bytes} (wrong : ¬message.Sized payload) :
      Flaw message payload (.invalidLength message.size payload.length)
  | status {code : UInt8} {rest : Bytes} {fault : Fault} (responds : message.IsResponse)
      (sized : message.Sized (code :: rest))
      (bad : Fault.ofStatus? (.ofCode code) = some fault) : Flaw message (code :: rest) fault
  | content {payload : Bytes} {fault : Fault} (announces : message = .interfaceActivated)
      (sized : message.Sized payload) (bad : Activation.ofPayload payload = .error fault) :
      Flaw message payload fault

theorem ne_nil_of_sized {message : Message} {payload : Bytes} (responds : message.IsResponse)
    (sized : message.Sized payload) : payload ≠ [] := by
  rintro rfl
  cases message with
  | initResponse =>
      have none : 17 ≤ 0 := sized
      exact absurd none (by decide)
  | _ => first | exact responds.elim | cases sized

/-- A response that is checked for its size and then for its status fails exactly for one
of the two. -/
theorem flaw_of_response {α : Type} {message : Message} {payload : Bytes}
    {content : Except Fault α} (responds : message.IsResponse)
    (unsized : ¬message.Sized payload →
      content = .error (.invalidLength message.size payload.length))
    (sized : message.Sized payload →
      ∃ value, content = (Field.statusOk payload).map fun _ => value) (fault : Fault) :
    content = .error fault ↔ message.Flaw payload fault := by
  constructor
  · intro failed
    by_cases fits : message.Sized payload
    · obtain ⟨value, read⟩ := sized fits
      rw [read] at failed
      cases payload with
      | nil => exact absurd rfl (ne_nil_of_sized responds fits)
      | cons code rest =>
          cases amounts : Fault.ofStatus? (.ofCode code) with
          | none =>
              rw [Field.statusOk_of_none rest amounts] at failed
              cases failed
          | some bad =>
              rw [Field.statusOk_of_some rest amounts] at failed
              cases failed
              exact .status responds fits amounts
    · rw [unsized fits] at failed
      cases failed
      exact .size fits
  · intro flaw
    cases flaw with
    | size wrong => exact unsized wrong
    | @status code rest _ _ fits bad =>
        obtain ⟨value, read⟩ := sized fits
        rw [read, Field.statusOk_of_some rest bad]
        rfl
    | content announces _ _ =>
        rw [announces] at responds
        exact responds.elim

end Message

/-! ### Readers -/

namespace ResetReport

theorem ofPayload_of_size {payload : Bytes} (size : payload.length = 3) :
    ∃ code version config, payload = [code, version, config] ∧
      ofPayload payload =
        (Field.statusOk payload).map fun _ => ⟨version, .ofCode config⟩ := by
  obtain ⟨code, version, config, rfl⟩ := List.length_eq_three.mp size
  refine ⟨code, version, config, rfl, ?_⟩
  unfold ofPayload
  rw [Field.exactly_of_eq size]
  cases Field.statusOk [code, version, config] <;> rfl

theorem ofPayload_error_iff (payload : Bytes) (fault : Fault) :
    ofPayload payload = .error fault ↔ Message.resetResponse.Flaw payload fault := by
  have responds : Message.resetResponse.IsResponse := trivial
  apply Message.flaw_of_response responds
  · intro (wrong : payload.length ≠ 3)
    unfold ofPayload
    rw [Field.exactly_of_ne wrong]
    rfl
  · intro size
    obtain ⟨_, _, _, _, read⟩ := ofPayload_of_size size
    exact ⟨_, read⟩

theorem eq_of_ofPayload {payload : Bytes} {report : ResetReport}
    (read : ofPayload payload = .ok report) :
    ∃ version config, payload = [0, version, config] ∧ report = ⟨version, .ofCode config⟩ := by
  have accepted := ofPayload_needsOk payload report read
  by_cases size : payload.length = 3
  · obtain ⟨code, version, config, rfl, checked⟩ := ofPayload_of_size size
    rw [SaysOk, List.head?_cons] at accepted
    cases Option.some.inj accepted
    rw [checked] at read
    cases read
    exact ⟨version, config, rfl, rfl⟩
  · have flawed := (ofPayload_error_iff payload _).mpr (.size size)
    cases flawed.symm.trans read

end ResetReport

namespace Capabilities

theorem ofPayload_of_size {payload : Bytes} (size : minPayload ≤ payload.length) :
    ofPayload payload = (Field.statusOk payload).map fun _ => details payload := by
  unfold ofPayload
  rw [Field.atLeast_of_le size]
  cases Field.statusOk payload <;> rfl

theorem ofPayload_error_iff (payload : Bytes) (fault : Fault) :
    ofPayload payload = .error fault ↔ Message.initResponse.Flaw payload fault := by
  have responds : Message.initResponse.IsResponse := trivial
  apply Message.flaw_of_response responds
  · intro (wrong : ¬minPayload ≤ payload.length)
    unfold ofPayload
    rw [Field.atLeast_of_not_le wrong]
    rfl
  · intro size
    exact ⟨_, ofPayload_of_size size⟩

theorem eq_of_ofPayload {payload : Bytes} {found : Except Fault Capabilities}
    (read : ofPayload payload = .ok found) :
    ∃ rest, payload = 0 :: rest ∧ 16 ≤ rest.length ∧ found = details payload := by
  have accepted := ofPayload_needsOk payload found read
  by_cases size : minPayload ≤ payload.length
  · cases payload with
    | nil => cases accepted
    | cons code rest =>
        rw [SaysOk, List.head?_cons] at accepted
        cases Option.some.inj accepted
        rw [ofPayload_of_size size] at read
        cases read
        exact ⟨rest, rfl, Nat.le_of_succ_le_succ size, rfl⟩
  · have flawed := (ofPayload_error_iff payload _).mpr (.size size)
    cases flawed.symm.trans read

theorem ofPayload_of_ok {rest : Bytes} (size : 16 ≤ rest.length) :
    ofPayload (0 :: rest) = .ok (details (0 :: rest)) := by
  have fits : minPayload ≤ (0 :: rest).length := Nat.succ_le_succ size
  rw [ofPayload_of_size fits, Field.statusOk_of_none rest rfl]
  rfl

end Capabilities

theorem Field.acknowledged_error_iff (message : Message) (responds : message.IsResponse)
    (size : message.size = 1) (sized : ∀ payload, message.Sized payload ↔ payload.length = 1)
    (payload : Bytes) (fault : Fault) :
    acknowledged payload = .error fault ↔ message.Flaw payload fault := by
  apply Message.flaw_of_response responds
  · intro wrong
    rw [sized] at wrong
    rw [acknowledged, exactly_of_ne wrong, size]
  · intro fits
    rw [sized] at fits
    rw [acknowledged, exactly_of_eq fits]
    refine ⟨(), ?_⟩
    cases statusOk payload <;> rfl

theorem Deactivation.eq_of_ofPayload {payload : Bytes} {deactivation : Deactivation}
    (read : ofPayload payload = .ok deactivation) :
    ∃ type reason, payload = [type, reason] ∧ deactivation = ⟨type, .ofCode reason⟩ := by
  by_cases size : payload.length = 2
  · obtain ⟨type, reason, rfl⟩ := List.length_eq_two.mp size
    cases read
    exact ⟨type, reason, rfl, rfl⟩
  · unfold ofPayload at read
    rw [Field.exactly_of_ne size] at read
    cases read

theorem Deactivation.ofPayload_error_iff (payload : Bytes) (fault : Fault) :
    ofPayload payload = .error fault ↔ Message.deactivated.Flaw payload fault := by
  have short (wrong : payload.length ≠ 2) :
      ofPayload payload = .error (.invalidLength 2 payload.length) := by
    unfold ofPayload
    rw [Field.exactly_of_ne wrong]
    rfl
  constructor
  · intro failed
    by_cases size : payload.length = 2
    · obtain ⟨type, reason, rfl⟩ := List.length_eq_two.mp size
      cases failed
    · rw [short size] at failed
      cases failed
      exact .size size
  · intro flaw
    cases flaw with
    | size wrong => exact short wrong
    | status responds _ _ => exact responds.elim
    | content announces _ _ => cases announces

theorem Activation.ofPayload_error_iff (payload : Bytes) (fault : Fault) :
    ofPayload payload = .error fault ↔ Message.interfaceActivated.Flaw payload fault := by
  have short (wrong : ¬minPayload ≤ payload.length) :
      ofPayload payload = .error (.invalidLength minPayload payload.length) := by
    unfold ofPayload
    rw [Field.atLeast_of_not_le wrong]
    rfl
  constructor
  · intro failed
    by_cases size : minPayload ≤ payload.length
    · exact .content rfl size failed
    · rw [short size] at failed
      cases failed
      exact .size size
  · intro flaw
    cases flaw with
    | size wrong => exact short wrong
    | status responds _ _ => exact responds.elim
    | content _ _ bad => exact bad

theorem Message.reading_fault_iff {message : Message} {phase : Phase}
    (awaited : message.phase? = some phase) (payload : Bytes) (fault : Fault) :
    (message.reading payload).fault? = some fault ↔ message.Flaw payload fault := by
  have carried {α : Type} {content : Except Fault α} (event : Except Fault α → Event)
      (accepts : ∀ value, (event (.ok value)).fault? = none)
      (refuses : ∀ cause, (event (.error cause)).fault? = some cause)
      (flaws : content = .error fault ↔ message.Flaw payload fault) :
      (event content).fault? = some fault ↔ message.Flaw payload fault := by
    rw [← flaws]
    constructor
    · exact fault_of_reading accepts refuses
    · rintro rfl
      exact refuses fault
  cases message with
  | data connection => cases awaited
  | connectionCredits => cases awaited
  | resetResponse =>
      exact carried .reset (fun _ => rfl) (fun _ => rfl)
        (ResetReport.ofPayload_error_iff payload fault)
  | initResponse =>
      exact carried (fun outcome => .init (outcome.map fun _ => ())) (fun _ => rfl) (fun _ => rfl)
        (Capabilities.ofPayload_error_iff payload fault)
  | discoverMapResponse =>
      exact carried .discoverMap (fun _ => rfl) (fun _ => rfl)
        (Field.acknowledged_error_iff .discoverMapResponse trivial rfl (fun _ => .rfl) payload
          fault)
  | discoverResponse =>
      exact carried .discover (fun _ => rfl) (fun _ => rfl)
        (Field.acknowledged_error_iff .discoverResponse trivial rfl (fun _ => .rfl) payload fault)
  | interfaceActivated =>
      exact carried .activated (fun _ => rfl) (fun _ => rfl)
        (Activation.ofPayload_error_iff payload fault)
  | deactivateResponse =>
      exact carried .deactivate (fun _ => rfl) (fun _ => rfl)
        (Field.acknowledged_error_iff .deactivateResponse trivial rfl (fun _ => .rfl) payload fault)
  | deactivated =>
      exact carried .deactivated (fun _ => rfl) (fun _ => rfl)
        (Deactivation.ofPayload_error_iff payload fault)

theorem Event.eq_of_fault {first second : Event} {fault : Fault}
    (same : first.message = second.message) (left : first.fault? = some fault)
    (right : second.fault? = some fault) : first = second := by
  -- The two events that are never refused have no outcome; the others differ in nothing else.
  cases first with
  | data connection payload => cases left
  | connectionCredits => cases left
  | _ one =>
      cases one with
      | ok value => cases left
      | error cause =>
          cases second <;> cases same
          rename_i other
          cases other with
          | ok value => cases right
          | error cause =>
              cases left
              cases right
              rfl

/-! ### The step relation -/

namespace Controller

/-- What a message with its payload does to a controller, and the event that tells of it.
Each rule keeps what is read of its own message and nothing else. -/
inductive Transition (controller : Controller) : Message → Bytes → Event → Controller → Prop
  | data (connection : UInt8) (payload : Bytes) :
      Transition controller (.data connection) payload (.data connection payload) controller
  | connectionCredits (payload : Bytes) :
      Transition controller .connectionCredits payload .connectionCredits controller
  | reset (version config : UInt8) (present : controller.phase = .down) :
      Transition controller .resetResponse [0, version, config]
        (.reset (.ok ⟨version, .ofCode config⟩))
        { controller with phase := .reset, resetReport := some ⟨version, .ofCode config⟩ }
  | init {rest : Bytes} (present : controller.phase = .reset) (size : 16 ≤ rest.length) :
      Transition controller .initResponse (0 :: rest) (.init (.ok ()))
        { controller with
          phase := .idle, capabilities := (Capabilities.details (0 :: rest)).toOption }
  | discoverMap (present : controller.phase = .idle) :
      Transition controller .discoverMapResponse [0] (.discoverMap (.ok ())) controller
  | discover (present : controller.phase = .idle) :
      Transition controller .discoverResponse [0] (.discover (.ok ()))
        { controller with phase := .discovery }
  | activated {payload : Bytes} {activation : Activation} (present : controller.phase = .discovery)
      (read : Activation.ofPayload payload = .ok activation) :
      Transition controller .interfaceActivated payload (.activated (.ok activation))
        { controller with phase := .pollActive, activation := some activation }
  | deactivate (present : controller.phase = .pollActive) :
      Transition controller .deactivateResponse [0] (.deactivate (.ok ()))
        { controller with phase := .discovery }
  | deactivated (type reason : UInt8) (present : controller.phase = .discovery) :
      Transition controller .deactivated [type, reason]
        (.deactivated (.ok ⟨type, .ofCode reason⟩))
        { controller with deactivation := some ⟨type, .ofCode reason⟩ }
  | barred {message : Message} {phase : Phase} {payload : Bytes} {event : Event}
      (awaited : message.phase? = some phase) (other : controller.phase ≠ phase)
      (stems : event.message = message) (refused : event.fault? = some .rejected) :
      Transition controller message payload event controller
  | flawed {message : Message} {payload : Bytes} {fault : Fault} {event : Event}
      (awaited : message.phase? = some controller.phase) (flaw : message.Flaw payload fault)
      (stems : event.message = message) (refused : event.fault? = some fault) :
      Transition controller message payload event controller

variable {controller after : Controller} {message : Message} {payload : Bytes} {event : Event}

theorem handle_transition {α : Type} {awaited : Phase} {content : Except Fault α}
    {accept : α → Controller × List Line} (event : Except Fault α → Event)
    (own : message.phase? = some awaited)
    (stems : ∀ fault, (event (.error fault)).message = message)
    (refuses : ∀ fault, (event (.error fault)).fault? = some fault)
    (flaws : ∀ fault, content = .error fault → message.Flaw payload fault)
    (accepts : ∀ value, controller.phase = awaited → content = .ok value →
      Transition controller message payload (event (.ok value)) (accept value).1) :
    Transition controller message payload
      (event (controller.handle awaited message content accept).outcome)
      (controller.handle awaited message content accept).controller := by
  unfold handle
  by_cases present : controller.phase = awaited
  · rw [if_pos present]
    cases read : content with
    | error fault =>
        rw [← present] at own
        exact .flawed own (flaws fault read) (stems fault) (refuses fault)
    | ok value => exact accepts value present read
  · rw [if_neg present]
    exact .barred own present (stems .rejected) (refuses .rejected)

theorem receive_transition (controller : Controller) (message : Message) (payload : Bytes) :
    Transition controller message payload (controller.receive message payload).event
      (controller.receive message payload).controller := by
  cases message with
  | data connection => exact .data connection payload
  | connectionCredits => exact .connectionCredits payload
  | resetResponse =>
      apply handle_transition .reset rfl (fun _ => rfl) (fun _ => rfl)
        (fun fault => (ResetReport.ofPayload_error_iff payload fault).mp)
      intro report present read
      obtain ⟨version, config, rfl, rfl⟩ := ResetReport.eq_of_ofPayload read
      exact .reset version config present
  | initResponse =>
      apply handle_transition (fun outcome => .init (outcome.map fun _ => ())) rfl (fun _ => rfl)
        (fun _ => rfl) (fun fault => (Capabilities.ofPayload_error_iff payload fault).mp)
      intro found present read
      obtain ⟨rest, rfl, size, rfl⟩ := Capabilities.eq_of_ofPayload read
      exact .init present size
  | discoverMapResponse =>
      have flaws := Field.acknowledged_error_iff .discoverMapResponse trivial rfl (fun _ => .rfl)
      apply handle_transition .discoverMap rfl (fun _ => rfl) (fun _ => rfl)
        (fun fault => (flaws payload fault).mp)
      intro value present read
      rw [Field.eq_of_acknowledged read]
      exact .discoverMap present
  | discoverResponse =>
      have flaws := Field.acknowledged_error_iff .discoverResponse trivial rfl (fun _ => .rfl)
      apply handle_transition .discover rfl (fun _ => rfl) (fun _ => rfl)
        (fun fault => (flaws payload fault).mp)
      intro value present read
      rw [Field.eq_of_acknowledged read]
      exact .discover present
  | interfaceActivated =>
      apply handle_transition .activated rfl (fun _ => rfl) (fun _ => rfl)
        (fun fault => (Activation.ofPayload_error_iff payload fault).mp)
      intro activation present read
      exact .activated present read
  | deactivateResponse =>
      have flaws := Field.acknowledged_error_iff .deactivateResponse trivial rfl (fun _ => .rfl)
      apply handle_transition .deactivate rfl (fun _ => rfl) (fun _ => rfl)
        (fun fault => (flaws payload fault).mp)
      intro value present read
      rw [Field.eq_of_acknowledged read]
      exact .deactivate present
  | deactivated =>
      apply handle_transition .deactivated rfl (fun _ => rfl) (fun _ => rfl)
        (fun fault => (Deactivation.ofPayload_error_iff payload fault).mp)
      intro deactivation present read
      obtain ⟨type, reason, rfl, rfl⟩ := Deactivation.eq_of_ofPayload read
      exact .deactivated type reason present

theorem handle_of_ok {α : Type} {awaited : Phase} {content : Except Fault α}
    {accept : α → Controller × List Line} {value : α} (present : controller.phase = awaited)
    (read : content = .ok value) :
    controller.handle awaited message content accept =
      ⟨.ok value, (accept value).1, (accept value).2⟩ := by
  unfold handle
  rw [if_pos present, read]

theorem eq_of_handling {α : Type} {handling : Handling α} {value : α} {after : Controller}
    {lines : List Line} (event : Except Fault α → Event)
    (handled : handling = ⟨.ok value, after, lines⟩) :
    event (.ok value) = (handling.toReception event).event ∧
      after = (handling.toReception event).controller := by
  rw [handled]
  exact ⟨rfl, rfl⟩

theorem Transition.eq_receive (transition : Transition controller message payload event after) :
    event = (controller.receive message payload).event ∧
      after = (controller.receive message payload).controller := by
  -- A refusal is told by its message and its fault, and changes nothing.
  have refusal {fault : Fault} (stems : event.message = message)
      (refused : event.fault? = some fault)
      (received : (controller.receive message payload).event.fault? = some fault) :
      event = (controller.receive message payload).event ∧
        controller = (controller.receive message payload).controller := by
    constructor
    · apply Event.eq_of_fault _ refused received
      exact stems.trans (controller.receive_message message payload).symm
    · exact ((controller.receive_hears message payload).of_refused received).symm
  cases transition with
  | data connection payload => exact ⟨rfl, rfl⟩
  | connectionCredits payload => exact ⟨rfl, rfl⟩
  | reset version config present => exact eq_of_handling .reset (handle_of_ok present rfl)
  | init present size =>
      exact eq_of_handling (fun outcome => .init (outcome.map fun _ => ()))
        (handle_of_ok present (Capabilities.ofPayload_of_ok size))
  | discoverMap present => exact eq_of_handling .discoverMap (handle_of_ok present rfl)
  | discover present => exact eq_of_handling .discover (handle_of_ok present rfl)
  | activated present read => exact eq_of_handling .activated (handle_of_ok present read)
  | deactivate present => exact eq_of_handling .deactivate (handle_of_ok present rfl)
  | deactivated type reason present => exact eq_of_handling .deactivated (handle_of_ok present rfl)
  | barred awaited other stems refused =>
      exact refusal stems refused (receive_refused payload awaited other)
  | flawed awaited flaw stems refused =>
      have bad := (Message.reading_fault_iff awaited payload _).mpr flaw
      rw [← receive_reading payload fun _ own => Option.some.inj (awaited.symm.trans own)] at bad
      exact refusal stems refused bad

/-! ### Packets -/

/-- What processing one packet comes to, by what the link answered: nothing has arrived,
or what has arrived is no message, or its message makes a transition. -/
inductive Processes (controller : Controller) :
    List Exchange → Except Fault Event → Controller → Prop
  | lost {path : List Exchange} {fault : Fault} (arrival : Arrival path (.error fault)) :
      Processes controller path (.error fault) controller
  | foreign {path : List Exchange} {header : Header} {payload : Bytes} {fault : Fault}
      (arrival : Arrival path (.ok (header, payload)))
      (unknown : Host.messageOf header = .error fault) :
      Processes controller path (.error fault) controller
  | heard {path : List Exchange} {header : Header} {payload : Bytes} {message : Message}
      {event : Event} {after : Controller} (arrival : Arrival path (.ok (header, payload)))
      (known : Host.messageOf header = .ok message)
      (transition : Transition controller message payload event after) :
      Processes controller path (.ok event) after

/-- Controller and answers of the link decide what comes of a packet. -/
theorem Processes.unique {path : List Exchange} {first second : Except Fault Event}
    {left right : Controller} (one : controller.Processes path first left)
    (other : controller.Processes path second right) : first = second ∧ left = right := by
  cases one with
  | lost arrival =>
      cases other with
      | lost same =>
          cases arrival.unique same
          exact ⟨rfl, rfl⟩
      | foreign same _ => cases arrival.unique same
      | heard same _ _ => cases arrival.unique same
  | foreign arrival unknown =>
      cases other with
      | lost same => cases arrival.unique same
      | foreign same unknownToo =>
          cases arrival.unique same
          cases unknown.symm.trans unknownToo
          exact ⟨rfl, rfl⟩
      | heard same known _ =>
          cases arrival.unique same
          cases unknown.symm.trans known
  | heard arrival known transition =>
      cases other with
      | lost same => cases arrival.unique same
      | foreign same unknown =>
          cases arrival.unique same
          cases unknown.symm.trans known
      | heard same knownToo transitionToo =>
          cases arrival.unique same
          cases known.symm.trans knownToo
          obtain ⟨rfl, rfl⟩ := transition.eq_receive
          obtain ⟨rfl, rfl⟩ := transitionToo.eq_receive
          exact ⟨rfl, rfl⟩

end Controller

/-- Whatever the controller's phase and records and whatever the link does while one packet
is processed, what comes of it is what `Processes` says, and nothing else: the exchanges
with the link are a wait and at most two reads, and with their answers they decide the
outcome and every part of the controller. -/
theorem Host.process_lawful {σ : Type} [Link σ] (host : Host σ) :
    ∃ path, Path host.channel.link path host.process.2.channel.link ∧
      host.controller.Processes path host.process.1 host.process.2.controller ∧
      ∀ outcome after, host.controller.Processes path outcome after →
        outcome = host.process.1 ∧ after = host.process.2.controller := by
  obtain ⟨path, taken, arrival⟩ := host.channel.receive_arrival
  have processed : Path host.channel.link path host.process.2.channel.link ∧
      host.controller.Processes path host.process.1 host.process.2.controller := by
    unfold Host.process
    rcases received : host.channel.receive with ⟨outcome, channel⟩
    rw [received] at taken arrival
    cases outcome with
    | error fault => exact ⟨taken, .lost arrival⟩
    | ok read =>
        obtain ⟨header, payload⟩ := read
        dsimp only
        cases read : Host.messageOf header with
        | error fault => exact ⟨taken, .foreign arrival read⟩
        | ok message =>
            refine ⟨?_, .heard arrival read (host.controller.receive_transition message payload)⟩
            dsimp only
            rw [Channel.link_noteAll]
            exact taken
  exact ⟨path, processed.1, processed.2, fun _ _ other => other.unique processed.2⟩

end NfcHost

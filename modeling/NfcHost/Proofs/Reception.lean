/-
What one message can do to a controller, and what its event says.

A message that is awaited in the present phase says what its payload holds; any
other is refused.  `Hears` lists every way a controller can change, with the
phase each of them needs.  A payload amounts to a refusal only through its
status byte: a reader that fails for the shape of its bytes is a syntax error.
-/

import NfcHost.Controller

namespace NfcHost

/-! ### Faults of a reading -/

theorem Fault.status_of_ofStatus? {status : Status} {fault : Fault}
    (amounts : ofStatus? status = some fault) : fault.status = status := by
  cases status <;> cases amounts <;> rfl

theorem Fault.setback_eq_rejected_iff (fault : Fault) :
    fault.setback = .rejected ↔ fault.status = .rejected := by
  unfold setback Setback.ofStatus
  cases fault.status <;> simp

def FailsAs {α : Type} (kind : Fault → Prop) (reading : Except Fault α) : Prop :=
  ∀ fault, reading = .error fault → kind fault

namespace FailsAs

variable {α β : Type} {kind : Fault → Prop}

theorem ok (value : α) : FailsAs kind (.ok value) := by
  intro fault failed
  cases failed

theorem error {fault : Fault} (known : kind fault) :
    FailsAs kind (.error fault : Except Fault α) := by
  intro other same
  cases same
  exact known

theorem weaken {wider : Fault → Prop} {reading : Except Fault α}
    (implied : ∀ fault, kind fault → wider fault) (known : FailsAs kind reading) :
    FailsAs wider reading :=
  fun fault failed => implied fault (known fault failed)

theorem bind {first : Except Fault α} {next : α → Except Fault β} (head : FailsAs kind first)
    (tail : ∀ value, FailsAs kind (next value)) : FailsAs kind (first >>= next) := by
  cases first with
  | error fault => exact .error (head fault rfl)
  | ok value => exact tail value

theorem map {first : Except Fault α} (change : α → β) (head : FailsAs kind first) :
    FailsAs kind (first.map change) := by
  cases first with
  | error fault => exact .error (head fault rfl)
  | ok value => exact .ok _

end FailsAs

def Fault.IsSyntax (fault : Fault) : Prop :=
  fault.status = .syntaxError

/-! ### Readers that look at the shape only -/

namespace Field

theorem atLeast_shaped (data : Bytes) (size : Nat) :
    FailsAs Fault.IsSyntax (atLeast data size) := by
  unfold atLeast
  split
  · exact .error rfl
  · exact .ok ()

theorem exactly_shaped (data : Bytes) (size : Nat) :
    FailsAs Fault.IsSyntax (exactly data size) := by
  unfold exactly
  split
  · exact .ok ()
  · exact .error rfl

theorem byte_shaped (data : Bytes) (offset : Nat) :
    FailsAs Fault.IsSyntax (byte data offset) := by
  unfold byte
  split
  · exact .ok _
  · exact .error rfl

theorem slice_shaped (data : Bytes) (offset size : Nat) :
    FailsAs Fault.IsSyntax (slice data offset size) := by
  unfold slice
  split
  · exact .error rfl
  · exact .ok _

theorem block_shaped (data : Bytes) (offset width : Nat) :
    FailsAs Fault.IsSyntax (block data offset width) :=
  (slice_shaped data offset width).map _

end Field

theorem Nfcid.ofBytes_shaped (bytes : Bytes) : FailsAs Fault.IsSyntax (ofBytes bytes) := by
  unfold ofBytes
  split
  · exact .ok _
  · exact .error rfl

namespace PollAParameters

open NfcHost.Field

theorem nfcidField_shaped (bytes : Bytes) : FailsAs Fault.IsSyntax (nfcidField bytes) := by
  apply (byte_shaped bytes 2).bind
  intro length
  split
  · exact (slice_shaped bytes 3 length.toNat).bind Nfcid.ofBytes_shaped
  · exact .error rfl

theorem selectField_shaped (bytes : Bytes) (offset : Nat) :
    FailsAs Fault.IsSyntax (selectField bytes offset) := by
  apply (byte_shaped bytes offset).bind
  intro length
  split
  · exact .ok _
  · exact (byte_shaped bytes (offset + 1)).bind fun _ => .ok _
  · exact .error rfl

theorem ofBytes_shaped (bytes : Bytes) : FailsAs Fault.IsSyntax (ofBytes bytes) := by
  refine (block_shaped bytes 0 2).bind fun _ => ?_
  apply (nfcidField_shaped bytes).bind
  intro nfcid
  exact (selectField_shaped bytes (3 + nfcid.size)).bind fun _ => .ok _

end PollAParameters

theorem TechnologyParameters.ofBytes_shaped (technology : RfTechnology) (bytes : Bytes) :
    FailsAs Fault.IsSyntax (ofBytes technology bytes) := by
  unfold ofBytes
  split
  · exact (PollAParameters.ofBytes_shaped bytes).map _
  · exact .ok _

theorem Activation.ofPayload_shaped (payload : Bytes) :
    FailsAs Fault.IsSyntax (ofPayload payload) := by
  have byteAt := Field.byte_shaped payload
  refine (Field.atLeast_shaped payload minPayload).bind fun _ => ?_
  refine (byteAt 0).bind fun _ => (byteAt 1).bind fun _ => (byteAt 2).bind fun _ => ?_
  refine (byteAt 3).bind fun technology => (byteAt 4).bind fun _ => (byteAt 5).bind fun _ => ?_
  apply (byteAt 6).bind
  intro length
  apply (Field.slice_shaped payload 7 length.toNat).bind
  intro bytes
  refine (TechnologyParameters.ofBytes_shaped ⟨technology⟩ bytes).bind fun _ => ?_
  refine (byteAt _).bind fun _ => (byteAt _).bind fun _ => (byteAt _).bind fun _ => ?_
  exact (byteAt _).bind fun _ => (Field.slice_shaped payload _ _).bind fun _ => .ok _

theorem Deactivation.ofPayload_shaped (payload : Bytes) :
    FailsAs Fault.IsSyntax (ofPayload payload) := by
  refine (Field.exactly_shaped payload 2).bind fun _ => ?_
  exact (Field.byte_shaped payload 0).bind fun _ =>
    (Field.byte_shaped payload 1).bind fun _ => .ok _

/-! ### Readers that look at the status byte -/

def SaysRejected (payload : Bytes) : Prop :=
  payload.head? = some Status.rejected.code

/-- A fault that is a refusal only when the status byte says so. -/
def Fault.RefusesBy (payload : Bytes) (fault : Fault) : Prop :=
  fault.setback = .rejected → SaysRejected payload

theorem Fault.IsSyntax.refusesBy {fault : Fault} (payload : Bytes) (shaped : fault.IsSyntax) :
    fault.RefusesBy payload := by
  intro refused
  rw [setback_eq_rejected_iff, shaped] at refused
  cases refused

namespace Field

theorem statusOk_of_none {code : UInt8} (rest : Bytes)
    (amounts : Fault.ofStatus? (.ofCode code) = none) : statusOk (code :: rest) = .ok () := by
  simp only [statusOk, byte, List.getElem?_cons_zero, amounts]

theorem statusOk_of_some {code : UInt8} {fault : Fault} (rest : Bytes)
    (amounts : Fault.ofStatus? (.ofCode code) = some fault) :
    statusOk (code :: rest) = .error fault := by
  simp only [statusOk, byte, List.getElem?_cons_zero, amounts]

theorem statusOk_refuses (payload : Bytes) :
    FailsAs (Fault.RefusesBy payload) (statusOk payload) := by
  cases payload with
  | nil => exact .error (Fault.IsSyntax.refusesBy [] rfl)
  | cons code rest =>
      cases amounts : Fault.ofStatus? (.ofCode code) with
      | none =>
          rw [statusOk_of_none rest amounts]
          exact .ok ()
      | some fault =>
          rw [statusOk_of_some rest amounts]
          apply FailsAs.error
          intro refused
          rw [Fault.setback_eq_rejected_iff, Fault.status_of_ofStatus? amounts] at refused
          have same := Status.code_ofCode code
          rw [refused] at same
          rw [SaysRejected, List.head?_cons, same]

theorem acknowledged_refuses (payload : Bytes) :
    FailsAs (Fault.RefusesBy payload) (acknowledged payload) := by
  unfold acknowledged
  split
  · rename_i fault short
    exact .error (Fault.IsSyntax.refusesBy payload (exactly_shaped payload 1 fault short))
  · exact statusOk_refuses payload

end Field

theorem ResetReport.ofPayload_refuses (payload : Bytes) :
    FailsAs (Fault.RefusesBy payload) (ofPayload payload) := by
  have shaped (fault : Fault) (bad : fault.IsSyntax) := bad.refusesBy payload
  refine ((Field.exactly_shaped payload 3).weaken shaped).bind fun _ => ?_
  refine (Field.statusOk_refuses payload).bind fun _ => ?_
  refine ((Field.byte_shaped payload 1).weaken shaped).bind fun _ => ?_
  exact ((Field.byte_shaped payload 2).weaken shaped).bind fun _ => .ok _

theorem Capabilities.ofPayload_refuses (payload : Bytes) :
    FailsAs (Fault.RefusesBy payload) (ofPayload payload) := by
  unfold ofPayload
  split
  · rename_i fault short
    exact .error (Fault.IsSyntax.refusesBy payload (Field.atLeast_shaped payload _ fault short))
  · split
    · rename_i fault bad
      exact .error (Field.statusOk_refuses payload fault bad)
    · exact .ok _

/-! ### Readers that need the status `ok` -/

def SaysOk (payload : Bytes) : Prop :=
  payload.head? = some Status.ok.code

/-- A reading that succeeds only if the status byte is `ok`. -/
def NeedsOk {α : Type} (payload : Bytes) (reading : Except Fault α) : Prop :=
  ∀ value, reading = .ok value → SaysOk payload

namespace NeedsOk

variable {α β : Type} {payload : Bytes} {first : Except Fault α} {next : α → Except Fault β}

theorem bind (needed : NeedsOk payload first) : NeedsOk payload (first >>= next) := by
  cases first with
  | error fault => exact fun value read => nomatch read
  | ok value => exact fun _ _ => needed value rfl

theorem bind_next (needed : ∀ value, NeedsOk payload (next value)) :
    NeedsOk payload (first >>= next) := by
  cases first with
  | error fault => exact fun value read => nomatch read
  | ok value => exact needed value

theorem map (change : α → β) (needed : NeedsOk payload first) :
    NeedsOk payload (first.map change) := by
  cases first with
  | error fault => exact fun value read => nomatch read
  | ok value => exact fun _ _ => needed value rfl

end NeedsOk

theorem Fault.eq_ok_of_ofStatus? {status : Status} (harmless : ofStatus? status = none) :
    status = .ok := by
  cases status <;> first | rfl | cases harmless

namespace Field

theorem statusOk_needsOk (payload : Bytes) : NeedsOk payload (statusOk payload) := by
  intro value read
  cases payload with
  | nil => cases read
  | cons code rest =>
      cases amounts : Fault.ofStatus? (.ofCode code) with
      | none =>
          have same := Status.code_ofCode code
          rw [Fault.eq_ok_of_ofStatus? amounts] at same
          rw [SaysOk, List.head?_cons, same]
      | some fault =>
          rw [statusOk_of_some rest amounts] at read
          cases read

theorem acknowledged_needsOk (payload : Bytes) : NeedsOk payload (acknowledged payload) := by
  intro value read
  unfold acknowledged at read
  split at read
  · cases read
  · exact statusOk_needsOk payload value read

theorem eq_of_acknowledged {payload : Bytes} (read : acknowledged payload = .ok ()) :
    payload = [Status.ok.code] := by
  have accepted := acknowledged_needsOk payload () read
  by_cases size : payload.length = 1
  · obtain ⟨code, rfl⟩ := List.length_eq_one_iff.mp size
    rw [SaysOk, List.head?_cons] at accepted
    rw [Option.some.inj accepted]
  · rw [acknowledged, exactly_of_ne size] at read
    cases read

end Field

theorem ResetReport.ofPayload_needsOk (payload : Bytes) :
    NeedsOk payload (ofPayload payload) :=
  .bind_next fun _ => (Field.statusOk_needsOk payload).bind

theorem Capabilities.ofPayload_needsOk (payload : Bytes) :
    NeedsOk payload (ofPayload payload) := by
  intro value read
  unfold ofPayload at read
  split at read
  · cases read
  · split at read
    · cases read
    · rename_i accepted
      exact Field.statusOk_needsOk payload () accepted

/-! ### What a message says -/

namespace Message

def phase? : Message → Option Phase
  | .resetResponse => some .down
  | .initResponse => some .reset
  | .discoverMapResponse => some .idle
  | .discoverResponse => some .idle
  | .interfaceActivated => some .discovery
  | .deactivateResponse => some .pollActive
  | .deactivated => some .discovery
  | .data _ => none
  | .connectionCredits => none

def nextPhase : Message → Phase → Phase
  | .resetResponse, _ => .reset
  | .initResponse, _ => .idle
  | .discoverResponse, _ => .discovery
  | .interfaceActivated, _ => .pollActive
  | .deactivateResponse, _ => .discovery
  | _, phase => phase

/-- The messages of which the controller keeps nothing. -/
def Harmless : Message → Prop
  | .data _ => True
  | .connectionCredits => True
  | .discoverMapResponse => True
  | _ => False

theorem phase?_of_harms {message : Message} (harms : ¬message.Harmless) :
    ∃ phase, message.phase? = some phase := by
  cases message with
  | data connection => exact absurd trivial harms
  | connectionCredits => exact absurd trivial harms
  | _ => exact ⟨_, rfl⟩

def IsResponse : Message → Prop
  | .resetResponse => True
  | .initResponse => True
  | .discoverMapResponse => True
  | .discoverResponse => True
  | .deactivateResponse => True
  | _ => False

def reading (message : Message) (payload : Bytes) : Event :=
  match message with
  | .data connection => .data connection payload
  | .connectionCredits => .connectionCredits
  | .resetResponse => .reset (ResetReport.ofPayload payload)
  | .initResponse => .init ((Capabilities.ofPayload payload).map fun _ => ())
  | .discoverMapResponse => .discoverMap (Field.acknowledged payload)
  | .discoverResponse => .discover (Field.acknowledged payload)
  | .interfaceActivated => .activated (Activation.ofPayload payload)
  | .deactivateResponse => .deactivate (Field.acknowledged payload)
  | .deactivated => .deactivated (Deactivation.ofPayload payload)

theorem fault_of_reading {α : Type} {reading : Except Fault α}
    {event : Except Fault α → Event} {fault : Fault}
    (carried : ∀ value, (event (.ok value)).fault? = none)
    (passed : ∀ cause, (event (.error cause)).fault? = some cause)
    (failed : (event reading).fault? = some fault) : reading = .error fault := by
  cases reading with
  | error cause =>
      rw [passed cause] at failed
      rw [Option.some.inj failed]
  | ok value =>
      rw [carried value] at failed
      cases failed

theorem reading_refuses {message : Message} {payload : Bytes} {fault : Fault}
    (failed : (message.reading payload).fault? = some fault) (refused : fault.setback = .rejected) :
    message.IsResponse ∧ SaysRejected payload := by
  -- A fault of shape alone is no refusal at all.
  have shapeless {α : Type} {reading : Except Fault α} (shaped : FailsAs Fault.IsSyntax reading)
      (read : reading = .error fault) : False := by
    rw [Fault.setback_eq_rejected_iff, shaped fault read] at refused
    cases refused
  cases message with
  | data connection => cases failed
  | connectionCredits => cases failed
  | resetResponse =>
      have read := fault_of_reading (fun _ => rfl) (fun _ => rfl) failed
      exact ⟨trivial, ResetReport.ofPayload_refuses payload fault read refused⟩
  | initResponse =>
      have read := fault_of_reading (fun _ => rfl) (fun _ => rfl) failed
      exact ⟨trivial, (Capabilities.ofPayload_refuses payload).map _ fault read refused⟩
  | discoverMapResponse =>
      have read := fault_of_reading (fun _ => rfl) (fun _ => rfl) failed
      exact ⟨trivial, Field.acknowledged_refuses payload fault read refused⟩
  | discoverResponse =>
      have read := fault_of_reading (fun _ => rfl) (fun _ => rfl) failed
      exact ⟨trivial, Field.acknowledged_refuses payload fault read refused⟩
  | interfaceActivated =>
      have read := fault_of_reading (fun _ => rfl) (fun _ => rfl) failed
      exact (shapeless (Activation.ofPayload_shaped payload) read).elim
  | deactivateResponse =>
      have read := fault_of_reading (fun _ => rfl) (fun _ => rfl) failed
      exact ⟨trivial, Field.acknowledged_refuses payload fault read refused⟩
  | deactivated =>
      have read := fault_of_reading (fun _ => rfl) (fun _ => rfl) failed
      exact (shapeless (Deactivation.ofPayload_shaped payload) read).elim

theorem reading_saysOk {message : Message} {payload : Bytes} (responds : message.IsResponse)
    (accepted : (message.reading payload).fault? = none) : SaysOk payload := by
  have outcome {α : Type} {reading : Except Fault α} {event : Except Fault α → Event}
      (passed : ∀ cause, (event (.error cause)).fault? = some cause)
      (needed : NeedsOk payload reading) (accepted : (event reading).fault? = none) :
      SaysOk payload := by
    cases reading with
    | error cause =>
        rw [passed cause] at accepted
        cases accepted
    | ok value => exact needed value rfl
  cases message with
  | resetResponse => exact outcome (fun _ => rfl) (ResetReport.ofPayload_needsOk payload) accepted
  | initResponse =>
      exact outcome (fun _ => rfl) ((Capabilities.ofPayload_needsOk payload).map _) accepted
  | discoverMapResponse =>
      exact outcome (fun _ => rfl) (Field.acknowledged_needsOk payload) accepted
  | discoverResponse =>
      exact outcome (fun _ => rfl) (Field.acknowledged_needsOk payload) accepted
  | deactivateResponse =>
      exact outcome (fun _ => rfl) (Field.acknowledged_needsOk payload) accepted
  | _ => exact responds.elim

end Message

/-! ### What a message does -/

namespace Controller

/-- What an event does to the controller that it is heard by. -/
inductive Hears (controller : Controller) : Event → Controller → Prop
  | data (connection : UInt8) (payload : Bytes) :
      Hears controller (.data connection payload) controller
  | connectionCredits : Hears controller .connectionCredits controller
  | refused {event : Event} {fault : Fault} (failed : event.fault? = some fault) :
      Hears controller event controller
  | reset (report : ResetReport) (present : controller.phase = .down) :
      Hears controller (.reset (.ok report))
        { controller with phase := .reset, resetReport := some report }
  | init (details : Option Capabilities) (present : controller.phase = .reset) :
      Hears controller (.init (.ok ()))
        { controller with phase := .idle, capabilities := details }
  | discoverMap (present : controller.phase = .idle) :
      Hears controller (.discoverMap (.ok ())) controller
  | discover (present : controller.phase = .idle) :
      Hears controller (.discover (.ok ())) { controller with phase := .discovery }
  | activated (activation : Activation) (present : controller.phase = .discovery) :
      Hears controller (.activated (.ok activation))
        { controller with phase := .pollActive, activation := some activation }
  | deactivate (present : controller.phase = .pollActive) :
      Hears controller (.deactivate (.ok ())) { controller with phase := .discovery }
  | deactivated (deactivation : Deactivation) (present : controller.phase = .discovery) :
      Hears controller (.deactivated (.ok deactivation))
        { controller with deactivation := some deactivation }

theorem Hears.of_accepted {before after : Controller} {event : Event}
    (heard : before.Hears event after) (accepted : event.fault? = none) :
    (∀ phase, event.message.phase? = some phase → before.phase = phase) ∧
      after.phase = event.message.nextPhase before.phase := by
  cases heard with
  | data connection payload => exact ⟨nofun, rfl⟩
  | connectionCredits => exact ⟨nofun, rfl⟩
  | refused failed => cases accepted.symm.trans failed
  | reset report present => exact ⟨fun _ own => present.trans (Option.some.inj own), rfl⟩
  | init details present => exact ⟨fun _ own => present.trans (Option.some.inj own), rfl⟩
  | discoverMap present => exact ⟨fun _ own => present.trans (Option.some.inj own), rfl⟩
  | discover present => exact ⟨fun _ own => present.trans (Option.some.inj own), rfl⟩
  | activated activation present =>
      exact ⟨fun _ own => present.trans (Option.some.inj own), rfl⟩
  | deactivate present => exact ⟨fun _ own => present.trans (Option.some.inj own), rfl⟩
  | deactivated deactivation present =>
      exact ⟨fun _ own => present.trans (Option.some.inj own), rfl⟩

theorem Hears.of_refused {before after : Controller} {event : Event} {fault : Fault}
    (heard : before.Hears event after) (failed : event.fault? = some fault) : after = before := by
  cases heard with
  | refused _ => rfl
  | data connection payload => rfl
  | connectionCredits => rfl
  | _ => cases failed

theorem Hears.activation {before after : Controller} {activation : Activation}
    (heard : before.Hears (.activated (.ok activation)) after) :
    after.activation = some activation := by
  cases heard with
  | refused failed => cases failed
  | activated _ present => rfl

theorem Hears.of_harmless {before after : Controller} {event : Event}
    (heard : before.Hears event after) (harmless : event.message.Harmless) : after = before := by
  cases heard with
  | data connection payload => rfl
  | connectionCredits => rfl
  | refused failed => rfl
  | discoverMap present => rfl
  | _ => exact harmless.elim

/-- The event is nothing new to the controller: it failed, the controller keeps nothing of
it, or it reports the very release that was reported last. -/
def NothingNew (controller : Controller) (event : Event) : Prop :=
  event.fault? ≠ none ∨ event.message.Harmless ∨
    ∃ deactivation, event = .deactivated (.ok deactivation) ∧
      controller.deactivation = some deactivation

theorem Hears.eq_iff {before after : Controller} {event : Event} (heard : before.Hears event after) :
    after = before ↔ before.NothingNew event := by
  have moved {next : Phase} (present : before.phase = next) (other : after.phase ≠ next)
      (same : after = before) : before.NothingNew event :=
    absurd ((congrArg Controller.phase same).trans present) other
  constructor
  · intro same
    cases heard with
    | data connection payload => exact .inr (.inl trivial)
    | connectionCredits => exact .inr (.inl trivial)
    | refused failed => exact .inl (by rw [failed]; exact nofun)
    | reset report present => exact moved present nofun same
    | init details present => exact moved present nofun same
    | discoverMap present => exact .inr (.inl trivial)
    | discover present => exact moved present nofun same
    | activated activation present => exact moved present nofun same
    | deactivate present => exact moved present nofun same
    | deactivated deactivation present =>
        exact .inr (.inr ⟨deactivation, rfl, (congrArg Controller.deactivation same).symm⟩)
  · rintro (failed | harmless | ⟨deactivation, rfl, known⟩)
    · obtain ⟨fault, refused⟩ := Option.ne_none_iff_exists'.mp failed
      exact heard.of_refused refused
    · exact heard.of_harmless harmless
    · cases heard with
      | refused failed => cases failed
      | deactivated _ present => rw [← known]

/-- Every handler refuses and leaves the controller alone, or accepts in its own phase. -/
theorem handle_hears {α : Type} {controller : Controller} {awaited : Phase} {message : Message}
    {content : Except Fault α} {accept : α → Controller × List Line} (event : Except Fault α → Event)
    (refuses : ∀ fault, (event (.error fault)).fault? = some fault)
    (accepts : ∀ value, controller.phase = awaited →
      Hears controller (event (.ok value)) (accept value).1) :
    Hears controller (event (controller.handle awaited message content accept).outcome)
      (controller.handle awaited message content accept).controller := by
  unfold handle
  split
  · rename_i present
    cases content with
    | error fault => exact .refused (refuses fault)
    | ok value => exact accepts value present
  · exact .refused (refuses .rejected)

theorem receive_hears (controller : Controller) (message : Message) (payload : Bytes) :
    Hears controller (controller.receive message payload).event
      (controller.receive message payload).controller := by
  cases message with
  | data connection => exact .data connection payload
  | connectionCredits => exact .connectionCredits
  | resetResponse =>
      exact handle_hears .reset (fun _ => rfl) fun report present => .reset report present
  | initResponse =>
      exact handle_hears (fun outcome => .init (outcome.map fun _ => ())) (fun _ => rfl)
        fun details present => .init details.toOption present
  | discoverMapResponse =>
      exact handle_hears .discoverMap (fun _ => rfl) fun _ present => .discoverMap present
  | discoverResponse =>
      exact handle_hears .discover (fun _ => rfl) fun _ present => .discover present
  | interfaceActivated =>
      exact handle_hears .activated (fun _ => rfl) fun activation present =>
        .activated activation present
  | deactivateResponse =>
      exact handle_hears .deactivate (fun _ => rfl) fun _ present => .deactivate present
  | deactivated =>
      exact handle_hears .deactivated (fun _ => rfl) fun deactivation present =>
        .deactivated deactivation present

theorem receive_message (controller : Controller) (message : Message) (payload : Bytes) :
    (controller.receive message payload).event.message = message := by
  cases message <;> rfl

theorem receive_reading {controller : Controller} {message : Message} (payload : Bytes)
    (present : ∀ phase, message.phase? = some phase → controller.phase = phase) :
    (controller.receive message payload).event = message.reading payload := by
  have outcome {α : Type} {awaited : Phase} {message : Message} {content : Except Fault α}
      {accept : α → Controller × List Line} (present : controller.phase = awaited) :
      (controller.handle awaited message content accept).outcome = content := by
    unfold handle
    rw [if_pos present]
    cases content <;> rfl
  cases message with
  | data connection => rfl
  | connectionCredits => rfl
  | resetResponse => exact congrArg Event.reset (outcome (present _ rfl))
  | initResponse =>
      have content : (controller.onInit payload).outcome = Capabilities.ofPayload payload :=
        outcome (present _ rfl)
      exact congrArg Event.init (congrArg (Except.map fun _ => ()) content)
  | discoverMapResponse => exact congrArg Event.discoverMap (outcome (present _ rfl))
  | discoverResponse => exact congrArg Event.discover (outcome (present _ rfl))
  | interfaceActivated => exact congrArg Event.activated (outcome (present _ rfl))
  | deactivateResponse => exact congrArg Event.deactivate (outcome (present _ rfl))
  | deactivated => exact congrArg Event.deactivated (outcome (present _ rfl))

theorem receive_refused {controller : Controller} {message : Message} (payload : Bytes)
    {phase : Phase} (awaited : message.phase? = some phase) (other : controller.phase ≠ phase) :
    (controller.receive message payload).event.fault? = some .rejected := by
  have refused {α : Type} {message : Message} {content : Except Fault α}
      {accept : α → Controller × List Line} :
      (controller.handle phase message content accept).outcome = .error .rejected := by
    unfold handle
    rw [if_neg other]
  cases message with
  | data connection => cases awaited
  | connectionCredits => cases awaited
  | resetResponse =>
      cases awaited
      exact congrArg (fun outcome => (Event.reset outcome).fault?) refused
  | initResponse =>
      cases awaited
      have content : (controller.onInit payload).outcome = .error .rejected := refused
      exact congrArg (fun outcome => (Event.init (outcome.map fun _ => ())).fault?) content
  | discoverMapResponse =>
      cases awaited
      exact congrArg (fun outcome => (Event.discoverMap outcome).fault?) refused
  | discoverResponse =>
      cases awaited
      exact congrArg (fun outcome => (Event.discover outcome).fault?) refused
  | interfaceActivated =>
      cases awaited
      exact congrArg (fun outcome => (Event.activated outcome).fault?) refused
  | deactivateResponse =>
      cases awaited
      exact congrArg (fun outcome => (Event.deactivate outcome).fault?) refused
  | deactivated =>
      cases awaited
      exact congrArg (fun outcome => (Event.deactivated outcome).fault?) refused

theorem receive_accepted {controller : Controller} {message : Message} {payload : Bytes}
    (accepted : (controller.receive message payload).event.fault? = none) :
    (controller.receive message payload).event = message.reading payload := by
  apply receive_reading payload
  intro phase awaited
  by_cases present : controller.phase = phase
  · exact present
  · rw [receive_refused payload awaited present] at accepted
    cases accepted

end Controller
end NfcHost

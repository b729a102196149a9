/-
What one call of a session can do.

A call is one of the six things an application can ask of a session, and a deed
is what came of it: the message that was heard, what was written, the notices and
the outcome.  `Move` lists every way from a standing, by a deed, to a standing;
`perform_moves` says that a session knows no other.
-/

import NfcHost.Proofs.Standing

namespace NfcHost

inductive Call where
  | reset (kind : ResetKind)
  | discover
  | deactivate
  | dump
  | continueDump
  | process
deriving DecidableEq

def Call.Permitted : Call → Stage → Prop
  | .reset _, _ => True
  | .discover, stage => stage = .initDone
  | .deactivate, stage => stage = .discoverActivated ∨ stage = .dump
  | .dump, stage => stage = .discoverActivated
  | .continueDump, stage => stage = .dump
  | .process, _ => True

/-- What came of a call. -/
structure Deed where
  call : Call
  heard : Option (Message × Bytes) := none
  sent : List Transmission := []
  notices : List Notice := []
  outcome : Except Setback Unit

namespace Standing

def event (standing : Standing) (message : Message) (payload : Bytes) : Event :=
  (standing.controller.receive message payload).event

def hear (standing : Standing) (message : Message) (payload : Bytes) : Standing :=
  { standing with controller := (standing.controller.receive message payload).controller }

theorem hears (standing : Standing) (message : Message) (payload : Bytes) :
    standing.controller.Hears (standing.event message payload)
      (standing.hear message payload).controller :=
  standing.controller.receive_hears message payload

theorem event_message (standing : Standing) (message : Message) (payload : Bytes) :
    (standing.event message payload).message = message :=
  standing.controller.receive_message message payload

theorem data_of_event {standing : Standing} {message : Message} {payload content : Bytes}
    {connection : UInt8} (came : .data connection content = standing.event message payload) :
    message = .data connection ∧ payload = content := by
  have named := congrArg Event.message came
  rw [event_message] at named
  subst named
  exact ⟨rfl, (Event.data.inj came).2.symm⟩

inductive Move (plan : DiscoveryPlan) (standing : Standing) : Deed → Standing → Prop
  | resetBlocked (kind : ResetKind) (fault : Fault) :
      Move plan standing { call := .reset kind, outcome := .error fault.setback }
        { controller := standing.controller }
  | resetUnsent (kind : ResetKind) {fault : Fault} {sent : List Transmission}
      (posted : Posts True (Command.reset kind).encode (.error fault) sent) :
      Move plan standing { call := .reset kind, sent := sent, outcome := .error fault.setback } {}
  | resetSent (kind : ResetKind) {sent : List Transmission}
      (posted : Posts True (Command.reset kind).encode (.ok ()) sent) :
      Move plan standing { call := .reset kind, sent := sent, outcome := .ok () }
        { stage := .initReset, operation := .reset }
  | refused {call : Call} (barred : ¬call.Permitted standing.stage) :
      Move plan standing { call := call, outcome := .error .rejected } standing
  | discoverUnsent {fault : Fault} {sent : List Transmission} (stage : standing.stage = .initDone)
      (posted : Posts (standing.controller.phase = .idle) (Command.discoverMap plan.maps).encode
        (.error fault) sent) :
      Move plan standing { call := .discover, sent := sent, outcome := .error fault.setback }
        standing
  | discoverSent {sent : List Transmission} (stage : standing.stage = .initDone)
      (posted : Posts (standing.controller.phase = .idle) (Command.discoverMap plan.maps).encode
        (.ok ()) sent) :
      Move plan standing { call := .discover, sent := sent, outcome := .ok () }
        { standing with stage := .discoverMap, operation := .discover }
  | deactivateUnsent {fault : Fault} {sent : List Transmission}
      (stage : standing.stage = .discoverActivated ∨ standing.stage = .dump)
      (posted : Posts (standing.controller.phase = .pollActive)
        (Command.deactivate .discovery).encode (.error fault) sent) :
      Move plan standing { call := .deactivate, sent := sent, outcome := .error fault.setback }
        standing
  | deactivateSent {sent : List Transmission}
      (stage : standing.stage = .discoverActivated ∨ standing.stage = .dump)
      (posted : Posts (standing.controller.phase = .pollActive)
        (Command.deactivate .discovery).encode (.ok ()) sent) :
      Move plan standing { call := .deactivate, sent := sent, outcome := .ok () }
        { standing with stage := .deactivate, operation := .deactivate, tag := none }
  | dumpUnstarted (stage : standing.stage = .discoverActivated)
      (unready : ∀ tag, standing.tag = some (.type2 tag) → tag.phase ≠ .idle) :
      Move plan standing { call := .dump, outcome := .error .failed } standing
  | dumpUnsent {tag : Type2} {fault : Fault} {sent : List Transmission}
      (stage : standing.stage = .discoverActivated) (held : standing.tag = some (.type2 tag))
      (idle : tag.phase = .idle)
      (posted : Posts (standing.controller.phase = .pollActive) (.ok (Type2.readFrame 0))
        (.error fault) sent) :
      Move plan standing { call := .dump, sent := sent, outcome := .error .failed }
        { standing with
          stage := .dump
          operation := .dump
          tag := some (.type2 { tag with cursor := 0, phase := .due }) }
  | dumpSent {tag : Type2} {sent : List Transmission}
      (stage : standing.stage = .discoverActivated) (held : standing.tag = some (.type2 tag))
      (idle : tag.phase = .idle)
      (posted : Posts (standing.controller.phase = .pollActive) (.ok (Type2.readFrame 0))
        (.ok ()) sent) :
      Move plan standing { call := .dump, sent := sent, outcome := .ok () }
        { standing with
          stage := .dumpResponse
          operation := .dump
          tag := some (.type2 { tag with cursor := 0, phase := .awaiting }) }
  | continueRefused {setback : Setback} (stage : standing.stage = .dump)
      (unready : ∀ tag, standing.tag = some (.type2 tag) →
        tag.phase = .idle ∨ Type2.lastRead < tag.cursor) :
      Move plan standing { call := .continueDump, outcome := .error setback } standing
  | continueAlready {tag : Type2} (stage : standing.stage = .dump)
      (held : standing.tag = some (.type2 tag)) (awaiting : tag.phase = .awaiting) :
      Move plan standing { call := .continueDump, outcome := .ok () }
        { standing with stage := .dumpResponse }
  | continueUnsent {tag : Type2} {fault : Fault} {sent : List Transmission}
      (stage : standing.stage = .dump) (held : standing.tag = some (.type2 tag))
      (due : tag.phase = .due) (inside : tag.cursor ≤ Type2.lastRead)
      (posted : Posts (standing.controller.phase = .pollActive)
        (.ok (Type2.readFrame tag.cursor)) (.error fault) sent) :
      Move plan standing { call := .continueDump, sent := sent, outcome := .error fault.setback }
        standing
  | continueSent {tag : Type2} {sent : List Transmission}
      (stage : standing.stage = .dump) (held : standing.tag = some (.type2 tag))
      (due : tag.phase = .due) (inside : tag.cursor ≤ Type2.lastRead)
      (posted : Posts (standing.controller.phase = .pollActive)
        (.ok (Type2.readFrame tag.cursor)) (.ok ()) sent) :
      Move plan standing { call := .continueDump, sent := sent, outcome := .ok () }
        { standing with
          stage := .dumpResponse
          tag := some (.type2 { tag with phase := .awaiting }) }
  | silent (fault : Fault) :
      Move plan standing { call := .process, outcome := .error fault.setback } standing
  | heard {message : Message} {payload : Bytes} {sent : List Transmission}
      {notices : List Notice} {after : Standing}
      (reaction : Reaction plan (standing.hear message payload) (standing.event message payload)
        sent notices after) :
      Move plan standing
        { call := .process, heard := some (message, payload), sent := sent, notices := notices,
          outcome := .ok () }
        after

theorem Move.reaction {plan : DiscoveryPlan} {standing after : Standing} {deed : Deed}
    {message : Message} {payload : Bytes} (move : standing.Move plan deed after)
    (heard : deed.heard = some (message, payload)) :
    Reaction plan (standing.hear message payload) (standing.event message payload)
      deed.sent deed.notices after := by
  cases move with
  | heard reaction =>
      cases heard
      exact reaction
  | _ => cases heard

end Standing

namespace Session

variable {σ : Type} [Link σ]

def perform (session : Session σ) (call : Call) :
    Except Setback Unit × List Notice × Session σ :=
  let quiet (result : Except Setback Unit × Session σ) := (result.1, [], result.2)
  match call with
  | .reset kind => quiet (session.reset kind)
  | .discover => quiet session.discover
  | .deactivate => quiet session.deactivate
  | .dump => quiet session.dump
  | .continueDump => quiet session.continueDump
  | .process => session.process

def after (session : Session σ) (call : Call) : Session σ :=
  (session.perform call).2.2

def heard? (session : Session σ) (call : Call) : Option (Message × Bytes) :=
  match call with
  | .process => session.host.packet?
  | _ => none

/-- A path over the link together with the move it belongs to. -/
def Moves (session : Session σ) (call : Call)
    (result : Except Setback Unit × List Notice × Session σ) : Prop :=
  ∃ path, Path session.link path result.2.2.link ∧
    Standing.Move session.plan session.standing
      { call := call, heard := session.heard? call, sent := transmissions path,
        notices := result.2.1, outcome := result.1 }
      result.2.2.standing

theorem refuse_moves (session : Session σ) {call : Call} (what : String)
    (barred : ¬call.Permitted session.stage) (unheard : session.heard? call = none) :
    session.Moves call ((session.refuse what).1, [], (session.refuse what).2) := by
  refine ⟨[], .nil _, ?_⟩
  rw [unheard]
  exact .refused barred

private theorem move_of_controller {plan : DiscoveryPlan} {standing : Standing} {deed : Deed}
    {stage : Stage} {operation : Operation} {tag : Option Tag} {known found : Controller}
    (move : standing.Move plan deed ⟨stage, operation, tag, known⟩) (same : found = known) :
    standing.Move plan deed ⟨stage, operation, tag, found⟩ := by
  rw [same]
  exact move

private theorem move_of_standing {plan : DiscoveryPlan} {standing known found : Standing}
    {deed : Deed} (move : standing.Move plan deed known) (same : found = known) :
    standing.Move plan deed found := by
  rw [same]
  exact move

theorem reset_moves (session : Session σ) (kind : ResetKind) :
    session.Moves (.reset kind) (session.perform (.reset kind)) := by
  unfold perform reset
  dsimp only
  generalize noted : (session.note (.info ("tags: reset from " ++ session.place))).host = host
  have sameLink : host.link = session.link := by rw [← noted]; rfl
  have sameController : host.controller = session.standing.controller := by rw [← noted]; rfl
  obtain ⟨first, firstTaken, firstSilent⟩ := host.hardReset_silent
  have resetting := host.hardReset_controller
  rw [sameLink] at firstTaken
  split
  · rename_i fault after answered
    rw [answered] at firstTaken resetting
    rcases resetting with ⟨_, _, kept⟩ | ⟨impossible, _⟩
    · refine ⟨first, firstTaken, ?_⟩
      rw [firstSilent]
      exact move_of_controller (.resetBlocked kind fault) (kept.trans sameController)
    · cases impossible
  · rename_i after answered
    rw [answered] at firstTaken resetting
    rcases resetting with ⟨_, impossible, _⟩ | ⟨_, cleared⟩
    · cases impossible
    · obtain ⟨second, secondTaken, posted⟩ := after.command_posts (.reset kind)
      have kept := after.controller_command (.reset kind)
      have permitted : (after.controller.phase = (Command.reset kind).phase) = True := by
        rw [cleared]
        exact eq_true rfl
      rw [permitted] at posted
      have taken := firstTaken.append secondTaken
      split
      · rename_i fault last reported
        rw [reported] at taken posted kept
        refine ⟨first ++ second, taken, ?_⟩
        rw [transmissions_append, firstSilent, List.nil_append]
        exact move_of_controller (.resetUnsent kind posted) (kept.trans cleared)
      · rename_i last reported
        rw [reported] at taken posted kept
        refine ⟨first ++ second, taken, ?_⟩
        rw [transmissions_append, firstSilent, List.nil_append]
        exact move_of_controller (.resetSent kind posted) (kept.trans cleared)

theorem discover_moves (session : Session σ) :
    session.Moves .discover (session.perform .discover) := by
  unfold perform discover
  dsimp only
  split
  · rename_i stage
    obtain ⟨path, taken, posted⟩ := session.host.command_posts (.discoverMap session.plan.maps)
    have kept := session.host.controller_command (.discoverMap session.plan.maps)
    split
    · rename_i fault host answered
      rw [answered] at taken posted kept
      refine ⟨path, taken, ?_⟩
      have move : session.standing.Move session.plan _ _ := .discoverUnsent stage posted
      have same : session.standing =
          ⟨.initDone, session.operation, session.tag, host.controller⟩ := by
        rw [standing, stage, kept]
      exact same ▸ move
    · rename_i host answered
      rw [answered] at taken posted kept
      refine ⟨path, taken, ?_⟩
      have move : session.standing.Move session.plan _ _ := .discoverSent stage posted
      exact move_of_controller move kept
  · rename_i barred
    exact session.refuse_moves "discover" barred rfl

theorem deactivate_moves (session : Session σ) :
    session.Moves .deactivate (session.perform .deactivate) := by
  unfold perform deactivate
  dsimp only
  split
  · rename_i stage
    obtain ⟨path, taken, posted⟩ := session.host.command_posts (.deactivate .discovery)
    have kept := session.host.controller_command (.deactivate .discovery)
    split
    · rename_i fault host answered
      rw [answered] at taken posted kept
      refine ⟨path, taken, ?_⟩
      have move : session.standing.Move session.plan _ _ := .deactivateUnsent stage posted
      exact move_of_controller move kept
    · rename_i host answered
      rw [answered] at taken posted kept
      refine ⟨path, taken, ?_⟩
      have move : session.standing.Move session.plan _ _ := .deactivateSent stage posted
      exact move_of_controller move kept
  · rename_i barred
    exact session.refuse_moves "deactivate" barred rfl

theorem process_moves (session : Session σ) :
    session.Moves .process (session.perform .process) := by
  obtain ⟨first, firstTaken, firstSilent⟩ := session.host.process_silent
  unfold perform process
  dsimp only
  cases heard : session.host.packet? with
  | none =>
      have unheard : session.heard? .process = none := heard
      obtain ⟨fault, failed, kept⟩ := session.host.process_of_packet?_none heard
      split
      · rename_i cause host answered
        rw [answered] at firstTaken kept
        refine ⟨first, firstTaken, ?_⟩
        rw [firstSilent, unheard]
        have move : session.standing.Move session.plan _ _ := .silent cause
        exact move_of_controller move kept
      · rename_i event host answered
        rw [answered] at failed
        cases failed
  | some packet =>
      obtain ⟨message, payload⟩ := packet
      have taken : session.heard? .process = some (message, payload) := heard
      obtain ⟨came, kept⟩ := session.host.process_of_packet?_some heard
      split
      · rename_i fault host answered
        rw [answered] at came
        cases came
      · rename_i event host answered
        rw [answered] at came kept firstTaken
        obtain ⟨second, secondTaken, reaction⟩ :=
          ({ session with host := host } : Session σ).onEvent_reacts event
        refine ⟨first ++ second, firstTaken.append secondTaken, ?_⟩
        rw [transmissions_append, firstSilent, List.nil_append, taken]
        have place : ({ session with host := host } : Session σ).standing =
            session.standing.hear message payload :=
          congrArg (Standing.mk session.stage session.operation session.tag) kept
        rw [place] at reaction
        cases came
        exact .heard reaction

theorem dump_moves (session : Session σ) : session.Moves .dump (session.perform .dump) := by
  unfold perform dump
  dsimp only
  split
  · rename_i stage
    have unstarted (unready : ∀ tag, session.tag = some (.type2 tag) → tag.phase ≠ .idle)
        {after : Session σ} (sameLink : after.link = session.link)
        (sameStanding : after.standing = session.standing) :
        session.Moves .dump (.error .failed, [], after) := by
      refine ⟨[], ?_, ?_⟩
      · rw [sameLink]
        exact .nil _
      · rw [sameStanding]
        exact .dumpUnstarted stage unready
    cases held : session.tag with
    | none =>
        exact unstarted (fun tag present => nomatch held.symm.trans present) rfl rfl
    | some tag =>
        have keepTag : (Standing.mk session.stage session.operation (some tag)
            session.host.controller) = session.standing := by rw [standing, held]
        cases tag with
        | mifare activation =>
            exact unstarted (fun tag present => nomatch held.symm.trans present) rfl keepTag
        | type2 tag =>
            have unnoted : session.noteAll [] = session := rfl
            by_cases progress : tag.phase = .idle
            · dsimp only [Tag.startDump]
              rw [tag.startDump_of_idle progress, unnoted]
              dsimp only [Tag.request]
              generalize rewound : ({ tag with cursor := 0, phase := .due } : Type2) = ready
              obtain ⟨path, taken, kept, requests⟩ := ready.request_requests session.host
              have due : ready.phase = .due := by rw [← rewound]
              have first : ready.cursor = 0 := by rw [← rewound]
              rcases requested : ready.request session.host with ⟨outcome, next, host⟩
              rw [requested] at taken kept requests
              dsimp only at taken kept requests ⊢
              generalize written : transmissions path = sent at requests
              cases requests with
              | sent _ _ posted =>
                  refine ⟨path, taken, ?_⟩
                  rw [first] at posted
                  rw [written]
                  subst rewound
                  have move : session.standing.Move session.plan _ _ :=
                    .dumpSent stage held progress posted
                  exact move_of_controller move kept
              | unsent _ _ posted =>
                  refine ⟨path, taken, ?_⟩
                  rw [first] at posted
                  rw [written]
                  subst rewound
                  have move : session.standing.Move session.plan _ _ :=
                    .dumpUnsent stage held progress posted
                  exact move_of_controller move kept
              | already awaiting => cases due.symm.trans awaiting
              | refused unready =>
                  rw [due, first] at unready
                  exact absurd unready (by decide)
            · dsimp only [Tag.startDump]
              rw [tag.startDump_of_busy progress, unnoted]
              refine unstarted (fun other present => ?_) rfl keepTag
              cases held.symm.trans present
              exact progress
  · rename_i barred
    exact session.refuse_moves "dump" barred rfl

theorem continueDump_moves (session : Session σ) :
    session.Moves .continueDump (session.perform .continueDump) := by
  unfold perform continueDump
  dsimp only
  split
  · rename_i stage
    have refused {setback : Setback} (unready : ∀ tag, session.tag = some (.type2 tag) →
        tag.phase = .idle ∨ Type2.lastRead < tag.cursor)
        {after : Session σ} (sameLink : after.link = session.link)
        (sameStanding : after.standing = session.standing) :
        session.Moves .continueDump (.error setback, [], after) := by
      refine ⟨[], ?_, ?_⟩
      · rw [sameLink]
        exact .nil _
      · rw [sameStanding]
        exact .continueRefused stage unready
    cases held : session.tag with
    | none => exact refused (fun tag present => nomatch held.symm.trans present) rfl rfl
    | some tag =>
        have keepTag : (Standing.mk session.stage session.operation (some tag)
            session.host.controller) = session.standing := by rw [standing, held]
        cases tag with
        | mifare activation =>
            exact refused (fun tag present => nomatch held.symm.trans present) rfl keepTag
        | type2 tag =>
            dsimp only [Tag.request]
            obtain ⟨path, taken, kept, requests⟩ := tag.request_requests session.host
            rcases requested : tag.request session.host with ⟨outcome, next, host⟩
            rw [requested] at taken kept requests
            dsimp only at taken kept requests ⊢
            generalize written : transmissions path = sent at requests
            have unmoved : Standing.mk session.stage session.operation (some (.type2 tag))
                host.controller = session.standing := by rw [standing, held, kept]
            cases requests with
            | sent due inside posted =>
                refine ⟨path, taken, ?_⟩
                rw [written]
                exact move_of_controller (.continueSent stage held due inside posted) kept
            | unsent due inside posted =>
                refine ⟨path, taken, ?_⟩
                rw [written]
                exact move_of_standing (.continueUnsent stage held due inside posted) unmoved
            | already awaiting =>
                refine ⟨path, taken, ?_⟩
                rw [written]
                exact move_of_standing (.continueAlready stage held awaiting)
                  (congrArg (fun known : Standing => { known with stage := .dumpResponse }) unmoved)
            | refused idle =>
                refine ⟨path, taken, ?_⟩
                rw [written]
                refine move_of_standing (.continueRefused stage fun other present => ?_) unmoved
                cases held.symm.trans present
                exact idle
  · rename_i barred
    exact session.refuse_moves "continue_dump" barred rfl

theorem perform_moves (session : Session σ) (call : Call) :
    session.Moves call (session.perform call) := by
  cases call with
  | reset kind => exact session.reset_moves kind
  | discover => exact session.discover_moves
  | deactivate => exact session.deactivate_moves
  | dump => exact session.dump_moves
  | continueDump => exact session.continueDump_moves
  | process => exact session.process_moves

/-! ### Packets -/

/-- The session once its host has processed a packet, and before it does anything about it. -/
def pumped {σ : Type} [Link σ] (session : Session σ) : Session σ :=
  { session with host := session.host.process.2 }

theorem standing_pumped {σ : Type} [Link σ] (session : Session σ) :
    session.pumped.standing =
      { session.standing with controller := session.host.process.2.controller } :=
  rfl

theorem process_of_fault {session : Session σ} {fault : Fault}
    (failed : session.host.process.1 = .error fault) :
    session.process.2 = ([], session.pumped.reportFault fault) := by
  unfold process pumped
  rcases processed : session.host.process with ⟨outcome, host⟩
  rw [processed] at failed
  cases failed
  rfl

theorem process_of_event {session : Session σ} {event : Event}
    (came : session.host.process.1 = .ok event) :
    session.process.2 = session.pumped.onEvent event := by
  unfold process pumped
  rcases processed : session.host.process with ⟨outcome, host⟩
  rw [processed] at came
  cases came
  rfl

theorem process_outcome {σ : Type} [Link σ] (session : Session σ) :
    session.process.1 = (session.host.process.1.map fun _ => ()).mapError Fault.setback := by
  unfold process
  rcases session.host.process with ⟨_ | _, _⟩ <;> rfl

end Session
end NfcHost

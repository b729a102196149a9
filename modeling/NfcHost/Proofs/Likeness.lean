/-
Sessions over links that answer alike.

A session sees of its link only what it answers.  Two links are alike if they give
the same answers and stay alike, and two journals if they stay so whatever is
written to both.  Sessions over such links do the same, call by call.  A traced
link answers like the link it traces, so a history tells what happens without it.
-/

import NfcHost.Proofs.Run

namespace NfcHost

inductive Agree {α ρ π : Type} (related : ρ → π → Prop) : α × ρ → α × π → Prop
  | intro {left : ρ} {right : π} (result : α) (like : related left right) :
      Agree related (result, left) (result, right)

theorem Agree.both {α ρ π : Type} {related : ρ → π → Prop} {first : α × ρ} {second : α × π}
    (agree : Agree related first second) :
    first.1 = second.1 ∧ related first.2 second.2 := by
  cases agree with
  | intro result like => exact ⟨rfl, like⟩

/-- How the links and journals of two sessions are alike. -/
structure Likeness (σ τ : Type) [Link σ] [Link τ] where
  links : σ → τ → Prop
  journals : Journal → Journal → Prop
  write {left : σ} {right : τ} (bytes : Bytes) :
    links left right → Agree links (Link.write bytes left) (Link.write bytes right)
  read {left : σ} {right : τ} (size : Nat) :
    links left right → Agree links (Link.read size left) (Link.read size right)
  wait {left : σ} {right : τ} :
    links left right → Agree links (Link.wait left) (Link.wait right)
  reset {left : σ} {right : τ} :
    links left right → Agree links (Link.reset left) (Link.reset right)
  resetLines {left : σ} {right : τ} :
    links left right → Link.resetLines left = Link.resetLines right
  note {left right : Journal} (line : Line) :
    journals left right → journals (left.note line) (right.note line)

namespace Likeness

variable {σ τ : Type} [Link σ] [Link τ] (likeness : Likeness σ τ)

/-! ### Channels -/

structure Channels (left : Channel σ) (right : Channel τ) : Prop where
  links : likeness.links left.link right.link
  journals : likeness.journals left.journal right.journal

namespace Channels

variable {likeness} {left : Channel σ} {right : Channel τ}

theorem note (like : likeness.Channels left right) (line : Line) :
    likeness.Channels (left.note line) (right.note line) :=
  ⟨like.links, likeness.note line like.journals⟩

/-- Each looks at a threshold of its own first, which comes to the same. -/
theorem noteReceived (like : likeness.Channels left right) (head payload : Bytes) :
    likeness.Channels (left.noteReceived head payload) (right.noteReceived head payload) := by
  rw [Channel.noteReceived_eq, Channel.noteReceived_eq]
  exact like.note (.dump .trace "NCI_RX: " (head ++ payload))

theorem noteAll (like : likeness.Channels left right) (lines : List Line) :
    likeness.Channels (left.noteAll lines) (right.noteAll lines) := by
  induction lines generalizing left right with
  | nil => exact like
  | cons line rest ih => exact ih (like.note line)

theorem write (like : likeness.Channels left right) (bytes : Bytes) :
    Agree likeness.Channels (left.write bytes) (right.write bytes) := by
  have agree := likeness.write bytes like.links
  unfold Channel.write
  generalize Link.write bytes left.link = first at agree ⊢
  generalize Link.write bytes right.link = second at agree ⊢
  cases agree with
  | intro report links => exact .intro report ⟨links, like.journals⟩

theorem read (like : likeness.Channels left right) (size : Nat) :
    Agree likeness.Channels (left.read size) (right.read size) := by
  have agree := likeness.read size like.links
  unfold Channel.read
  generalize Link.read size left.link = first at agree ⊢
  generalize Link.read size right.link = second at agree ⊢
  cases agree with
  | intro answer links => exact .intro answer ⟨links, like.journals⟩

theorem wait (like : likeness.Channels left right) :
    Agree likeness.Channels left.wait right.wait := by
  have agree := likeness.wait like.links
  unfold Channel.wait
  generalize Link.wait left.link = first at agree ⊢
  generalize Link.wait right.link = second at agree ⊢
  cases agree with
  | intro answer links => exact .intro answer ⟨links, like.journals⟩

theorem reset (like : likeness.Channels left right) :
    Agree likeness.Channels left.reset right.reset := by
  have agree := likeness.reset like.links
  have noted := like.noteAll (Link.resetLines left.link)
  unfold Channel.reset
  rw [← likeness.resetLines like.links]
  dsimp only [Channel.link_noteAll]
  generalize Link.reset left.link = first at agree ⊢
  generalize Link.reset right.link = second at agree ⊢
  cases agree with
  | intro answer links => exact .intro answer ⟨links, noted.journals⟩

theorem send (like : likeness.Channels left right) (bytes : Bytes) :
    Agree likeness.Channels (left.send bytes) (right.send bytes) := by
  have agree := (like.note (.dump .trace "NCI_TX: " bytes)).write bytes
  unfold Channel.send
  generalize (left.note (.dump .trace "NCI_TX: " bytes)).write bytes = first at agree ⊢
  generalize (right.note (.dump .trace "NCI_TX: " bytes)).write bytes = second at agree ⊢
  cases agree with
  | intro report like =>
      cases report with
      | error fault => exact .intro _ like
      | ok count =>
          by_cases whole : count = bytes.length
          · simp only [if_pos whole]
            exact .intro _ like
          · simp only [if_neg whole]
            exact .intro _ like

theorem readExactly (like : likeness.Channels left right) (size : Nat) (missing : Fault) :
    Agree likeness.Channels (left.readExactly size missing) (right.readExactly size missing) := by
  have agree := like.read size
  unfold Channel.readExactly
  generalize left.read size = first at agree ⊢
  generalize right.read size = second at agree ⊢
  cases agree with
  | intro answer like =>
      cases answer with
      | error fault => exact .intro _ like
      | ok delivery =>
          by_cases nothing : delivery.count = 0
          · simp only [if_pos nothing]
            exact .intro _ like
          · by_cases whole : delivery.count = size
            · simp only [if_neg nothing, if_pos whole]
              exact .intro _ like
            · simp only [if_neg nothing, if_neg whole]
              exact .intro _ like

theorem readPayload (like : likeness.Channels left right) (size : Nat) :
    Agree likeness.Channels (left.readPayload size) (right.readPayload size) := by
  unfold Channel.readPayload
  by_cases empty : size = 0
  · rw [if_pos empty, if_pos empty]
    exact .intro _ like
  · rw [if_neg empty, if_neg empty]
    exact like.readExactly size .noPayload

theorem receive (like : likeness.Channels left right) :
    Agree likeness.Channels left.receive right.receive := by
  have waited := like.wait
  unfold Channel.receive
  generalize left.wait = first at waited ⊢
  generalize right.wait = second at waited ⊢
  cases waited with
  | @intro left right answer like =>
      cases answer with
      | error fault => exact .intro _ like
      | ok value =>
          have headed := like.readExactly Header.size .noHeader
          dsimp only
          generalize left.readExactly Header.size .noHeader = first at headed ⊢
          generalize right.readExactly Header.size .noHeader = second at headed ⊢
          cases headed with
          | @intro left right answer like =>
              cases answer with
              | error fault => exact .intro _ like
              | ok head =>
                  have filled := like.readPayload (head.getD 2 0).toNat
                  dsimp only
                  generalize left.readPayload (head.getD 2 0).toNat = first at filled ⊢
                  generalize right.readPayload (head.getD 2 0).toNat = second at filled ⊢
                  cases filled with
                  | intro answer like =>
                      cases answer with
                      | error fault => exact .intro _ like
                      | ok payload =>
                          have noted := like.noteReceived head payload
                          dsimp only
                          cases Header.decode head with
                          | error fault => exact .intro _ noted
                          | ok header => exact .intro _ noted

end Channels

/-! ### Hosts -/

structure Hosts (left : Host σ) (right : Host τ) : Prop where
  controller : left.controller = right.controller
  channels : likeness.Channels left.channel right.channel

namespace Hosts

variable {likeness} {left : Host σ} {right : Host τ}

theorem note (like : likeness.Hosts left right) (line : Line) :
    likeness.Hosts (left.note line) (right.note line) :=
  ⟨like.controller, like.channels.note line⟩

theorem noteAll (like : likeness.Hosts left right) (lines : List Line) :
    likeness.Hosts (left.noteAll lines) (right.noteAll lines) :=
  ⟨like.controller, like.channels.noteAll lines⟩

theorem transmit (like : likeness.Hosts left right) (line : Line) (bytes : Bytes) :
    Agree likeness.Hosts (left.transmit line bytes) (right.transmit line bytes) := by
  have sent := (like.channels.note line).send bytes
  unfold Host.transmit
  generalize (left.channel.note line).send bytes = first at sent ⊢
  generalize (right.channel.note line).send bytes = second at sent ⊢
  cases sent with
  | intro outcome channels => exact .intro outcome ⟨like.controller, channels⟩

theorem hardReset (like : likeness.Hosts left right) :
    Agree likeness.Hosts left.hardReset right.hardReset := by
  obtain ⟨controller, leftChannel⟩ := left
  obtain ⟨_, rightChannel⟩ := right
  obtain ⟨same, channels⟩ := like
  cases same
  have line := channels.note (.debug ("NCI: hard reset from " ++ controller.phase.name))
  have made := line.reset
  unfold Host.hardReset Host.note
  dsimp only
  generalize (leftChannel.note _).reset = first at made ⊢
  generalize (rightChannel.note _).reset = second at made ⊢
  cases made with
  | intro answer channels =>
      cases answer with
      | error fault => exact .intro _ ⟨rfl, channels⟩
      | ok value => exact .intro _ ⟨rfl, channels⟩

theorem command (like : likeness.Hosts left right) (command : Command) :
    Agree likeness.Hosts (left.command command) (right.command command) := by
  unfold Host.command
  rw [like.controller]
  by_cases granted : right.controller.phase = command.phase
  · rw [if_pos granted, if_pos granted]
    cases command.encode with
    | error fault => exact .intro _ like
    | ok bytes => exact like.transmit _ bytes
  · rw [if_neg granted, if_neg granted]
    exact .intro _ (like.note _)

theorem sendData (like : likeness.Hosts left right) (connection : UInt8) (data : Bytes) :
    Agree likeness.Hosts (left.sendData connection data) (right.sendData connection data) := by
  unfold Host.sendData
  rw [like.controller]
  by_cases granted : right.controller.phase = .pollActive
  · rw [if_pos granted, if_pos granted]
    cases Packet.data connection data with
    | error fault => exact .intro _ like
    | ok packet => exact like.transmit _ packet.encode
  · rw [if_neg granted, if_neg granted]
    exact .intro _ (like.note _)

theorem process (like : likeness.Hosts left right) :
    Agree likeness.Hosts left.process right.process := by
  obtain ⟨controller, leftChannel⟩ := left
  obtain ⟨_, rightChannel⟩ := right
  obtain ⟨same, channels⟩ := like
  cases same
  have received := channels.receive
  unfold Host.process
  dsimp only at received ⊢
  generalize leftChannel.receive = first at received ⊢
  generalize rightChannel.receive = second at received ⊢
  cases received with
  | intro answer channels =>
      cases answer with
      | error fault => exact .intro _ ⟨rfl, channels.note _⟩
      | ok packet =>
          obtain ⟨header, payload⟩ := packet
          dsimp only
          cases Host.messageOf header with
          | error fault => exact .intro _ ⟨rfl, channels.note _⟩
          | ok message => exact .intro _ ⟨rfl, channels.noteAll _⟩

theorem packet? (like : likeness.Hosts left right) : left.packet? = right.packet? := by
  have received := like.channels.receive
  unfold Host.packet?
  generalize left.channel.receive = first at received ⊢
  generalize right.channel.receive = second at received ⊢
  cases received with
  | intro answer channels => rfl

theorem request (like : likeness.Hosts left right) (tag : Tag) :
    Agree (fun left right => left.1 = right.1 ∧ likeness.Hosts left.2 right.2)
      (tag.request left) (tag.request right) := by
  cases tag with
  | mifare activation => exact .intro _ ⟨rfl, like⟩
  | type2 tag =>
      unfold Tag.request Type2.request
      dsimp only
      cases tag.phase with
      | idle => exact .intro _ ⟨rfl, like⟩
      | awaiting => exact .intro _ ⟨rfl, like⟩
      | due =>
          by_cases beyond : tag.cursor > Type2.lastRead
          · simp only [if_pos beyond]
            exact .intro _ ⟨rfl, like⟩
          · simp only [if_neg beyond]
            have noted := like.note (.debug ("T2T: READ block " ++ toString tag.cursor.toNat))
            have sent := noted.sendData Type2.connection tag.readCommand
            generalize (left.note _).sendData _ _ = first at sent ⊢
            generalize (right.note _).sendData _ _ = second at sent ⊢
            cases sent with
            | intro outcome like =>
                cases outcome with
                | error fault => exact .intro _ ⟨rfl, like.note _⟩
                | ok value => exact .intro _ ⟨rfl, like⟩

end Hosts

/-! ### Sessions -/

/-- Sessions that differ at most in what their links and journals are. -/
inductive Sessions : Session σ → Session τ → Prop
  | intro {left : Host σ} {right : Host τ} (plan : DiscoveryPlan) (stage : Stage)
      (operation : Operation) (tag : Option Tag) (hosts : likeness.Hosts left right) :
      Sessions ⟨left, plan, stage, operation, tag⟩ ⟨right, plan, stage, operation, tag⟩

namespace Sessions

variable {likeness} {left : Session σ} {right : Session τ}

theorem standing_eq (like : likeness.Sessions left right) : left.standing = right.standing := by
  cases like with
  | @intro left right plan stage operation tag hosts =>
      exact congrArg (Standing.mk stage operation tag) hosts.controller

theorem place_eq (like : likeness.Sessions left right) : left.place = right.place := by
  cases like
  rfl

theorem note (like : likeness.Sessions left right) (line : Line) :
    likeness.Sessions (left.note line) (right.note line) := by
  cases like with
  | intro plan stage operation tag hosts => exact .intro plan stage operation tag (hosts.note line)

theorem noteAll (like : likeness.Sessions left right) (lines : List Line) :
    likeness.Sessions (left.noteAll lines) (right.noteAll lines) := by
  cases like with
  | intro plan stage operation tag hosts =>
      exact .intro plan stage operation tag (hosts.noteAll lines)

theorem moveTo (like : likeness.Sessions left right) (next : Stage) :
    likeness.Sessions (left.moveTo next) (right.moveTo next) := by
  cases like with
  | intro plan stage operation tag hosts =>
      exact .intro plan next operation tag (hosts.note _)

theorem reportFault (like : likeness.Sessions left right) (fault : Fault) :
    likeness.Sessions (left.reportFault fault) (right.reportFault fault) := by
  unfold Session.reportFault
  rw [like.place_eq]
  exact like.note _

theorem reportUnexpected (like : likeness.Sessions left right) (event : Event) :
    likeness.Sessions (left.reportUnexpected event) (right.reportUnexpected event) := by
  have same : left.host.controller = right.host.controller :=
    congrArg Standing.controller like.standing_eq
  unfold Session.reportUnexpected
  rw [like.place_eq, same]
  exact like.note _

theorem failWith (like : likeness.Sessions left right) (fault : Fault) :
    Agree likeness.Sessions (left.failWith fault) (right.failWith fault) :=
  .intro _ (like.reportFault fault)

theorem refuse (like : likeness.Sessions left right) (what : String) :
    Agree likeness.Sessions (left.refuse what) (right.refuse what) := by
  have same : left.stage = right.stage := congrArg Standing.stage like.standing_eq
  unfold Session.refuse
  rw [same]
  exact .intro _ (like.note _)

theorem reset (like : likeness.Sessions left right) (kind : ResetKind) :
    Agree likeness.Sessions (left.reset kind) (right.reset kind) := by
  cases like with
  | @intro left right plan stage operation tag hosts =>
      have noted := hosts.note (.info ("tags: reset from " ++ (operation.name ++ "/" ++ stage.name)))
      have made := noted.hardReset
      unfold Session.reset Session.note Session.place
      dsimp only
      generalize (left.note _).hardReset = first at made ⊢
      generalize (right.note _).hardReset = second at made ⊢
      cases made with
      | @intro left right answer hosts =>
          cases answer with
          | error fault => exact failWith (.intro plan _ _ _ hosts) fault
          | ok value =>
              have sent := hosts.command (.reset kind)
              dsimp only
              generalize left.command (.reset kind) = first at sent ⊢
              generalize right.command (.reset kind) = second at sent ⊢
              cases sent with
              | intro outcome hosts =>
                  cases outcome with
                  | error fault => exact failWith (.intro plan _ _ _ hosts) fault
                  | ok value => exact .intro _ (.intro plan _ _ _ hosts)

theorem discover (like : likeness.Sessions left right) :
    Agree likeness.Sessions left.discover right.discover := by
  have barred := like.refuse "discover"
  cases like with
  | @intro left right plan stage operation tag hosts =>
      unfold Session.discover
      by_cases ready : stage = .initDone
      · have sent := hosts.command (.discoverMap plan.maps)
        simp only [if_pos ready]
        generalize left.command (.discoverMap plan.maps) = first at sent ⊢
        generalize right.command (.discoverMap plan.maps) = second at sent ⊢
        cases sent with
        | intro outcome hosts =>
            cases outcome with
            | error fault => exact failWith (moveTo (.intro plan _ _ _ hosts) .initDone) fault
            | ok value => exact .intro _ (.intro plan _ _ _ hosts)
      · simp only [if_neg ready]
        exact barred

theorem deactivate (like : likeness.Sessions left right) :
    Agree likeness.Sessions left.deactivate right.deactivate := by
  have barred := like.refuse "deactivate"
  cases like with
  | @intro left right plan stage operation tag hosts =>
      unfold Session.deactivate
      by_cases ready : stage = .discoverActivated ∨ stage = .dump
      · have sent := hosts.command (.deactivate .discovery)
        simp only [if_pos ready]
        generalize left.command (.deactivate .discovery) = first at sent ⊢
        generalize right.command (.deactivate .discovery) = second at sent ⊢
        cases sent with
        | intro outcome hosts =>
            cases outcome with
            | error fault => exact failWith (.intro plan _ _ _ hosts) fault
            | ok value => exact .intro _ (.intro plan _ _ _ hosts)
      · simp only [if_neg ready]
        exact barred

theorem dump (like : likeness.Sessions left right) :
    Agree likeness.Sessions left.dump right.dump := by
  have barred := like.refuse "dump"
  cases like with
  | @intro left right plan stage operation tag hosts =>
      unfold Session.dump
      by_cases ready : stage = .discoverActivated
      · simp only [if_pos ready]
        cases tag with
        | none => exact .intro _ (note (.intro plan _ _ _ hosts) _)
        | some tag =>
            dsimp only
            rcases tag.startDump with ⟨started, tag, lines⟩
            cases started with
            | error setback => exact .intro _ (note (.intro plan _ _ _ (hosts.noteAll lines)) _)
            | ok value =>
                have asked := (hosts.noteAll lines).request tag
                dsimp only [Session.noteAll]
                generalize tag.request (left.noteAll lines) = first at asked ⊢
                generalize tag.request (right.noteAll lines) = second at asked ⊢
                cases asked with
                | @intro first second outcome same =>
                    obtain ⟨_, left⟩ := first
                    obtain ⟨tag, right⟩ := second
                    obtain ⟨rfl, hosts⟩ := same
                    cases outcome with
                    | error setback => exact .intro _ (note (.intro plan _ _ _ hosts) _)
                    | ok value => exact .intro _ (.intro plan _ _ _ hosts)
      · simp only [if_neg ready]
        exact barred

theorem continueDump (like : likeness.Sessions left right) :
    Agree likeness.Sessions left.continueDump right.continueDump := by
  have barred := like.refuse "continue_dump"
  cases like with
  | @intro left right plan stage operation tag hosts =>
      unfold Session.continueDump
      by_cases ready : stage = .dump
      · simp only [if_pos ready]
        cases tag with
        | none => exact .intro _ (.intro plan _ _ _ hosts)
        | some tag =>
            have asked := hosts.request tag
            dsimp only
            generalize tag.request left = first at asked ⊢
            generalize tag.request right = second at asked ⊢
            cases asked with
            | @intro first second outcome same =>
                obtain ⟨_, left⟩ := first
                obtain ⟨tag, right⟩ := second
                obtain ⟨rfl, hosts⟩ := same
                cases outcome with
                | error setback => exact .intro _ (.intro plan _ _ _ hosts)
                | ok value => exact .intro _ (.intro plan _ _ _ hosts)
      · simp only [if_neg ready]
        exact barred

theorem sendNext (like : likeness.Sessions left right) (command : Command)
    (notice : Except Setback Unit → Notice) :
    Agree likeness.Sessions (left.sendNext command notice) (right.sendNext command notice) := by
  cases like with
  | @intro left right plan stage operation tag hosts =>
      have sent := hosts.command command
      unfold Session.sendNext
      dsimp only
      generalize left.command command = first at sent ⊢
      generalize right.command command = second at sent ⊢
      cases sent with
      | intro outcome hosts =>
          cases outcome with
          | error fault => exact .intro _ (reportFault (.intro plan _ _ _ hosts) fault)
          | ok value => exact .intro _ (.intro plan _ _ _ hosts)

theorem onResetEvent (like : likeness.Sessions left right) (event : Event) :
    Agree likeness.Sessions (left.onResetEvent event) (right.onResetEvent event) := by
  have stage : left.stage = right.stage := congrArg Standing.stage like.standing_eq
  unfold Session.onResetEvent
  rw [stage]
  split
  · exact (like.moveTo .initInit).sendNext .init .reset
  · exact .intro _ ((like.moveTo .initDone).note _)
  · exact .intro _ (like.reportFault _)
  · exact .intro _ (like.reportFault _)
  · exact .intro _ (like.reportUnexpected _)
  · exact .intro _ (like.reportUnexpected _)
  · exact .intro _ (like.note _)

theorem onDiscoverEvent (like : likeness.Sessions left right) (event : Event) :
    Agree likeness.Sessions (left.onDiscoverEvent event) (right.onDiscoverEvent event) := by
  cases like with
  | intro plan stage operation tag hosts =>
      have like := Sessions.intro plan stage operation tag hosts
      unfold Session.onDiscoverEvent
      dsimp only
      split
      · exact (like.moveTo .discover).sendNext (.discover plan.entries) .discover
      · exact .intro _ (like.moveTo .discoverNotification)
      · rename_i activation _
        exact .intro _ (.intro plan .discoverActivated operation _ ((hosts.note _).note _))
      · exact .intro _ (like.reportFault _)
      · exact .intro _ (like.reportFault _)
      · exact .intro _ (like.reportFault _)
      · exact .intro _ (like.reportUnexpected _)
      · exact .intro _ (like.reportUnexpected _)
      · exact .intro _ (like.reportUnexpected _)

theorem onDeactivateEvent (like : likeness.Sessions left right) (event : Event) :
    Agree likeness.Sessions (left.onDeactivateEvent event) (right.onDeactivateEvent event) := by
  cases like with
  | intro plan stage operation tag hosts =>
      have like := Sessions.intro plan stage operation tag hosts
      unfold Session.onDeactivateEvent
      dsimp only
      split
      · exact .intro _ (like.moveTo .deactivateResponse)
      · exact .intro _ (.intro plan .discoverNotification .discover tag
          (((hosts.note _).note _).note _))
      · exact .intro _ (like.reportFault _)
      · exact .intro _ (like.reportFault _)
      · exact .intro _ (like.reportUnexpected _)

theorem onData (like : likeness.Sessions left right) (connection : UInt8) (payload : Bytes) :
    Agree likeness.Sessions (left.onData connection payload) (right.onData connection payload) := by
  cases like with
  | intro plan stage operation tag hosts =>
      have like := Sessions.intro plan stage operation tag hosts
      unfold Session.onData
      dsimp only
      by_cases reading : operation = .dump
      · simp only [if_pos reading]
        cases tag with
        | none => exact .intro _ (like.note _)
        | some tag =>
            cases stage with
            | dumpResponse =>
                dsimp only
                rcases tag.takeReply payload with ⟨reply, tag, lines⟩
                cases reply with
                | none => exact .intro _ (note (.intro plan _ _ _ (hosts.noteAll lines)) _)
                | some outcome => exact .intro _ (.intro plan _ _ _ (hosts.noteAll lines))
            | _ => exact .intro _ (like.note _)
      · simp only [if_neg reading]
        exact .intro _ (like.note _)

theorem onEvent (like : likeness.Sessions left right) (event : Event) :
    Agree likeness.Sessions (left.onEvent event) (right.onEvent event) := by
  have told := like.note (.debug ("tags: " ++ event.name ++ " in " ++ right.place))
  have operation : left.operation = right.operation :=
    congrArg Standing.operation like.standing_eq
  unfold Session.onEvent
  rw [like.place_eq]
  dsimp only [Session.note] at told ⊢
  rw [operation] at told ⊢
  split
  · exact .intro _ told
  · exact told.onData _ _
  · split
    · exact told.onResetEvent event
    · exact told.onDiscoverEvent event
    · exact told.onDeactivateEvent event
    · exact .intro _ (told.note _)
    · exact .intro _ (told.note _)

theorem process (like : likeness.Sessions left right) :
    left.process.1 = right.process.1 ∧
      Agree likeness.Sessions left.process.2 right.process.2 := by
  cases like with
  | @intro left right plan stage operation tag hosts =>
      have came := hosts.process
      unfold Session.process
      dsimp only
      generalize left.process = first at came ⊢
      generalize right.process = second at came ⊢
      cases came with
      | intro answer hosts =>
          cases answer with
          | error fault => exact ⟨rfl, .intro _ (reportFault (.intro plan _ _ _ hosts) fault)⟩
          | ok event => exact ⟨rfl, onEvent (.intro plan _ _ _ hosts) event⟩

theorem perform (like : likeness.Sessions left right) (call : Call) :
    (left.perform call).1 = (right.perform call).1 ∧
      Agree likeness.Sessions (left.perform call).2 (right.perform call).2 := by
  have quiet {first : Except Setback Unit × Session σ} {second : Except Setback Unit × Session τ}
      (agree : Agree likeness.Sessions first second) :
      first.1 = second.1 ∧
        Agree likeness.Sessions (([], first.2) : List Notice × Session σ) ([], second.2) := by
    cases agree with
    | intro outcome like => exact ⟨rfl, .intro _ like⟩
  cases call with
  | reset kind => exact quiet (like.reset kind)
  | discover => exact quiet like.discover
  | deactivate => exact quiet like.deactivate
  | dump => exact quiet like.dump
  | continueDump => exact quiet like.continueDump
  | process => exact like.process

theorem heard?_eq (like : likeness.Sessions left right) (call : Call) :
    left.heard? call = right.heard? call := by
  cases call with
  | process =>
      cases like with
      | intro plan stage operation tag hosts => exact hosts.packet?
  | _ => rfl

theorem meanwhile (like : likeness.Sessions left right) {first : σ → σ} {second : τ → τ}
    (kept : ∀ {before : σ} {after : τ}, likeness.links before after →
      likeness.links (first before) (second after)) :
    likeness.Sessions (left.meanwhile first) (right.meanwhile second) := by
  cases like with
  | intro plan stage operation tag hosts =>
      have links := kept hosts.channels.links
      exact .intro plan stage operation tag ⟨hosts.controller, ⟨links, hosts.channels.journals⟩⟩

end Sessions
end Likeness

/-! ### Runs -/

def Step.seen {σ : Type} [Link σ] (step : Step σ) : Record where
  before := step.before.standing
  deed :=
    { call := step.call
      heard := step.heard?
      notices := step.notices
      outcome := step.outcome }
  after := step.after.standing

def Record.unsent (record : Record) : Record :=
  { record with deed := { record.deed with sent := [] } }

namespace Likeness

variable {σ τ : Type} [Link σ] [Link τ] {likeness : Likeness σ τ}

theorem Sessions.step {left : Session σ} {right : Session τ} (like : likeness.Sessions left right)
    (call : Call) :
    Step.seen ⟨left, call⟩ = Step.seen ⟨right, call⟩ ∧
      likeness.Sessions (left.after call) (right.after call) := by
  obtain ⟨outcome, agree⟩ := like.perform call
  obtain ⟨notices, after⟩ := agree.both
  replace after : likeness.Sessions (left.after call) (right.after call) := after
  refine ⟨?_, after⟩
  unfold Step.seen Step.heard? Step.notices Step.outcome Step.after
  dsimp only
  rw [like.standing_eq, like.heard?_eq call, outcome, notices, after.standing_eq]

def Turns (likeness : Likeness σ τ) (first : Turn σ) (second : Turn τ) : Prop :=
  first.call = second.call ∧
    ∀ {left : σ} {right : τ}, likeness.links left right →
      likeness.links (first.meanwhile left) (second.meanwhile right)

/-- Runs over links that are alike show the same. -/
theorem Sessions.steps {left : Session σ} {right : Session τ}
    (like : likeness.Sessions left right) (turns : List (Turn σ × Turn τ))
    (alike : ∀ pair ∈ turns, likeness.Turns pair.1 pair.2) :
    (left.steps (turns.map Prod.fst)).map Step.seen =
      (right.steps (turns.map Prod.snd)).map Step.seen := by
  induction turns generalizing left right with
  | nil => rfl
  | cons pair rest ih =>
      obtain ⟨⟨call, kept⟩, later⟩ := List.forall_mem_cons.mp alike
      obtain ⟨same, after⟩ := (like.meanwhile kept).step pair.1.call
      have tail := ih after later
      simp only [List.map_cons, Session.steps]
      rw [← call, same, tail]

end Likeness

/-! ### One link -/

def Likeness.oneLink (σ : Type) [Link σ] (journals : Journal → Journal → Prop)
    (note : ∀ {left right : Journal} (line : Line), journals left right →
      journals (left.note line) (right.note line)) : Likeness σ σ where
  links := Eq
  journals := journals
  write bytes := by
    rintro rfl
    exact .intro _ rfl
  read size := by
    rintro rfl
    exact .intro _ rfl
  wait := by
    rintro _ _ rfl
    exact .intro _ rfl
  reset := by
    rintro _ _ rfl
    exact .intro _ rfl
  resetLines := by
    rintro _ _ rfl
    rfl
  note := note

/-! ### Traced links -/

def Likeness.traced (σ : Type) [Link σ] : Likeness (Traced σ) σ where
  links traced link := traced.link = link
  journals := Eq
  write bytes := by
    rintro rfl
    exact .intro _ rfl
  read size := by
    rintro rfl
    exact .intro _ rfl
  wait := by
    rintro _ _ rfl
    exact .intro _ rfl
  reset := by
    rintro _ _ rfl
    exact .intro _ rfl
  resetLines := by
    rintro _ _ rfl
    rfl
  note line := by
    rintro rfl
    rfl

/-- A history shows what happens over the link itself, and what is written besides. -/
theorem Session.history_seen {σ : Type} [Link σ] (link : σ) (threshold : Threshold)
    (plan : DiscoveryPlan) (turns : List (Turn σ)) :
    (history link threshold plan turns).map Record.unsent =
      ((fresh link threshold plan).steps turns).map Step.seen := by
  have like : (Likeness.traced σ).Sessions (fresh ⟨link, []⟩ threshold plan)
      (fresh link threshold plan) := .intro plan _ _ _ ⟨rfl, ⟨rfl, rfl⟩⟩
  have same := like.steps (turns.map fun turn => (turn.traced, turn)) (by
    intro pair member
    obtain ⟨turn, _, rfl⟩ := List.mem_map.mp member
    refine ⟨rfl, ?_⟩
    rintro left right rfl
    rfl)
  rw [List.map_map, List.map_map] at same
  have seconds : turns.map (Prod.snd ∘ fun turn => (turn.traced, turn)) = turns := List.map_id turns
  rw [seconds] at same
  rw [← same, history, records, List.map_map]
  rfl

end NfcHost

/-
Tag sessions.

A session takes one controller through the four things an application wants of
it: reset, discovery, release and dump.  An operation returns once its first
command is sent.  The rest of it runs as packets come in, through `process`, and
its end is told in a notice.  Notices are handed over when a packet has been
dealt with, after every line that is written about it.
-/

import NfcHost.Session.Notice
import NfcHost.Session.Stage

namespace NfcHost

structure Session (σ : Type) where
  host : Host σ
  plan : DiscoveryPlan
  stage : Stage := .none
  operation : Operation := .none
  tag : Option Tag := none

namespace Session

variable {σ : Type}

def fresh (link : σ) (threshold : Threshold) (plan : DiscoveryPlan) : Session σ :=
  { host := .fresh link threshold, plan := plan }

def build (link : Option σ) (threshold : Threshold) (plan : DiscoveryPlan) :
    Except Fault (Session σ) :=
  match link with
  | none => .error (.invalidParameter .noLink)
  | some link => .ok (fresh link threshold plan)

def note (session : Session σ) (line : Line) : Session σ :=
  { session with host := session.host.note line }

def noteAll (session : Session σ) (lines : List Line) : Session σ :=
  { session with host := session.host.noteAll lines }

def place (session : Session σ) : String :=
  session.operation.name ++ "/" ++ session.stage.name

def moveTo (session : Session σ) (next : Stage) : Session σ :=
  { session.note
      (.debug ("tags: state " ++ session.stage.name ++ " -> " ++ next.name)) with
    stage := next }

/-- Writes a fault down in full before it is reduced to a setback. -/
def reportFault (session : Session σ) (fault : Fault) : Session σ :=
  session.note
    (.error ("tags: " ++ fault.message ++ " [" ++ fault.status.name ++ "] in " ++
      session.place))

def failWith (session : Session σ) (fault : Fault) : Except Setback Unit × Session σ :=
  (.error fault.setback, session.reportFault fault)

def refuse (session : Session σ) (what : String) : Except Setback Unit × Session σ :=
  ( .error .rejected,
    session.note (.debug ("tags: " ++ what ++ " rejected in " ++ session.stage.name)) )

/-! ### Operations -/

variable [Link σ]

/-- Resets the hardware and begins to bring the controller up.  Allowed at any
time; whatever was under way is given up. -/
def reset (kind : ResetKind) (session : Session σ) : Except Setback Unit × Session σ :=
  let session :=
    { session.note (.info ("tags: reset from " ++ session.place)) with tag := none }
  match session.host.hardReset with
  | (.error fault, host) =>
      { session with host := host, stage := .none, operation := .none }.failWith fault
  | (.ok (), host) =>
      match host.command (.reset kind) with
      | (.error fault, host) =>
          { session with host := host, stage := .none, operation := .none }.failWith fault
      | (.ok (), host) =>
          (.ok (), { session with host := host, stage := .initReset, operation := .reset })

/-- Sends the discovery map; polling starts when it is acknowledged.  Allowed once
the controller is ready. -/
def discover (session : Session σ) : Except Setback Unit × Session σ :=
  if session.stage = .initDone then
    match session.host.command (.discoverMap session.plan.maps) with
    | (.error fault, host) =>
        ({ session with host := host, stage := .discoverMap }.moveTo .initDone).failWith fault
    | (.ok (), host) =>
        (.ok (), { session with host := host, stage := .discoverMap, operation := .discover })
  else
    session.refuse "discover"

/-- Releases the activated endpoint; the controller then looks for the next one.
Allowed while an endpoint is activated, also between two chunks of a dump. -/
def deactivate (session : Session σ) : Except Setback Unit × Session σ :=
  if session.stage = .discoverActivated ∨ session.stage = .dump then
    match session.host.command (.deactivate .discovery) with
    | (.error fault, host) => { session with host := host }.failWith fault
    | (.ok (), host) =>
        ( .ok (),
          { session with
            host := host, stage := .deactivate, operation := .deactivate, tag := none } )
  else
    session.refuse "deactivate"

/-- Begins to read the activated tag.  Every failure counts as `failed`. -/
def dump (session : Session σ) : Except Setback Unit × Session σ :=
  if session.stage = .discoverActivated then
    match session.tag with
    | none => (.error .failed, session.note (.error "tags: dump without a supported tag"))
    | some tag =>
        let (started, tag, lines) := tag.startDump
        let session := { session.noteAll lines with tag := some tag }
        match started with
        | .error setback =>
            ( .error .failed,
              session.note
                (.error ("tags: " ++ tag.family.name ++ " dump not started: " ++
                  setback.message)) )
        | .ok () =>
            let (requested, tag, host) := tag.request session.host
            let session :=
              { session with
                host := host, stage := .dump, operation := .dump, tag := some tag }
            match requested with
            | .error setback =>
                ( .error .failed,
                  session.note (.error ("tags: dump failed: " ++ setback.message)) )
            | .ok () => (.ok (), { session with stage := .dumpResponse })
  else
    session.refuse "dump"

def continueDump (session : Session σ) : Except Setback Unit × Session σ :=
  if session.stage = .dump then
    match session.tag with
    | none => (.error .failed, session)
    | some tag =>
        let (requested, tag, host) := tag.request session.host
        let session := { session with host := host, tag := some tag }
        match requested with
        | .error setback => (.error setback, session)
        | .ok () => (.ok (), { session with stage := .dumpResponse })
  else
    session.refuse "continue_dump"

/-! ### Inbound events -/

def reportUnexpected (session : Session σ) (event : Event) : Session σ :=
  session.note
    (.error ("tags: unexpected " ++ event.name ++ " in " ++ session.place ++
      " (controller " ++ session.host.controller.phase.name ++ ")"))

/-- Sends the next command of an operation.  The application hears of it only if
that fails. -/
def sendNext (session : Session σ) (command : Command) (notice : Except Setback Unit → Notice) :
    List Notice × Session σ :=
  match session.host.command command with
  | (.error fault, host) =>
      ([notice (.error fault.setback)], { session with host := host }.reportFault fault)
  | (.ok (), host) => ([], { session with host := host })

def onData (session : Session σ) (connection : UInt8) (payload : Bytes) :
    List Notice × Session σ :=
  if session.operation = .dump then
    let (reply, session) :=
      match session.tag, session.stage with
      | some tag, .dumpResponse =>
          let (reply, tag, lines) := tag.takeReply payload
          (reply, { session.noteAll lines with tag := some tag })
      | _, _ => (none, session)
    match reply with
    | some outcome => ([.dumped outcome], { session with stage := .dump })
    | none =>
        ( [.dumped (.error .failed)],
          session.note (.error ("tags: unexpected data in " ++ session.stage.name)) )
  else
    ( [],
      session.note
        (.debug ("tags: data on conn " ++ toString connection.toNat ++ " dropped in " ++
          session.stage.name)) )

/-- While a reset is under way: the two responses in turn.  Either of them out of
turn is unexpected, and everything else is a late reply to what was given up. -/
def onResetEvent (session : Session σ) (event : Event) : List Notice × Session σ :=
  match session.stage, event with
  | .initReset, .reset (.ok _) => (session.moveTo .initInit).sendNext .init .reset
  | .initInit, .init (.ok ()) =>
      ( [.reset (.ok ())],
        (session.moveTo .initDone).note (.info "tags: controller ready") )
  | .initReset, .reset (.error fault) =>
      ([.reset (.error fault.setback)], session.reportFault fault)
  | .initInit, .init (.error fault) =>
      ([.reset (.error fault.setback)], session.reportFault fault)
  | _, .reset _ => ([.reset (.error .failed)], session.reportUnexpected event)
  | _, .init _ => ([.reset (.error .failed)], session.reportUnexpected event)
  | _, _ =>
      ( [],
        session.note
          (.debug ("tags: stale " ++ event.name ++ " dropped in " ++ session.stage.name)) )

def detectionLine (activation : Activation) : Line :=
  match activation.tagFamily? with
  | some family =>
      .info ("tags: " ++ family.name ++ " tag " ++
        (activation.nfcid?.map Nfcid.text).getD "")
  | none =>
      .info ("tags: unsupported endpoint, protocol " ++ Hex.code activation.protocol.code)

def onDiscoverEvent (session : Session σ) (event : Event) : List Notice × Session σ :=
  match session.stage, event with
  | .discoverMap, .discoverMap (.ok ()) =>
      (session.moveTo .discover).sendNext (.discover session.plan.entries) .discover
  | .discover, .discover (.ok ()) =>
      ([.discover (.ok ())], session.moveTo .discoverNotification)
  | .discoverNotification, .activated (.ok activation) =>
      let family := activation.tagFamily?
      let session := (session.moveTo .discoverActivated).note (detectionLine activation)
      ( [.detected (.ok ⟨activation, family⟩)],
        { session with tag := family.map fun family => Tag.ofFamily family activation } )
  | .discoverMap, .discoverMap (.error fault) =>
      ([.discover (.error fault.setback)], session.reportFault fault)
  | .discover, .discover (.error fault) =>
      ([.discover (.error fault.setback)], session.reportFault fault)
  | .discoverNotification, .activated (.error fault) =>
      ([.detected (.error fault.setback)], session.reportFault fault)
  | .discoverNotification, _ => ([.detected (.error .failed)], session.reportUnexpected event)
  | .discoverActivated, _ => ([.detected (.error .failed)], session.reportUnexpected event)
  | _, _ => ([.discover (.error .failed)], session.reportUnexpected event)

def onDeactivateEvent (session : Session σ) (event : Event) : List Notice × Session σ :=
  match session.stage, event with
  | .deactivate, .deactivate (.ok ()) => ([], session.moveTo .deactivateResponse)
  | .deactivateResponse, .deactivated (.ok deactivation) =>
      let session :=
        ((session.moveTo .deactivateNotification).note
          (.info ("tags: deactivated (" ++ deactivation.reason.name ++ ")"))).moveTo
            .discoverNotification
      ([.deactivated (.ok deactivation)], { session with operation := .discover })
  | .deactivate, .deactivate (.error fault) =>
      ([.deactivated (.error fault.setback)], session.reportFault fault)
  | .deactivateResponse, .deactivated (.error fault) =>
      ([.deactivated (.error fault.setback)], session.reportFault fault)
  | _, _ => ([.deactivated (.error .failed)], session.reportUnexpected event)

def onEvent (session : Session σ) (event : Event) : List Notice × Session σ :=
  let session := session.note (.debug ("tags: " ++ event.name ++ " in " ++ session.place))
  match event with
  | .connectionCredits => ([], session)
  | .data connection payload => session.onData connection payload
  | _ =>
      match session.operation with
      | .reset => session.onResetEvent event
      | .discover => session.onDiscoverEvent event
      | .deactivate => session.onDeactivateEvent event
      | .dump =>
          ( [.dumped (.error .failed)],
            session.note (.error ("tags: unexpected " ++ event.name ++ " during dump")) )
      | .none =>
          ( [],
            session.note
              (.debug ("tags: " ++ event.name ++ " dropped, nothing in progress")) )

/-- Waits for one packet and carries the operation on.  When there is no packet,
or it holds no message, nothing is carried on. -/
def process (session : Session σ) : Except Setback Unit × List Notice × Session σ :=
  match session.host.process with
  | (.error fault, host) =>
      let (outcome, session) := { session with host := host }.failWith fault
      (outcome, [], session)
  | (.ok event, host) =>
      let (notices, session) := { session with host := host }.onEvent event
      (.ok (), notices, session)

end Session
end NfcHost

/-
The polling loop.

Once discovery is under way, endpoints come and go.  Each of them is announced, perhaps
read, and released, and the session then stands where it stood before the endpoint came.
So it can go on for any number of endpoints, and nothing of one is left for the next.
-/

import NfcHost.Proofs.Coherence
import NfcHost.Proofs.Endpoint
import NfcHost.Proofs.Lockstep
import NfcHost.Proofs.Recovery

namespace NfcHost

/-! ### Reads -/

namespace Type2

theorem request_of_unarmed {tag : Type2} {host : Host (Traced QueueLink)} (due : tag.phase = .due)
    (inside : tag.cursor ≤ lastRead) (permitted : host.controller.phase = .pollActive)
    (unarmed : host.link.link.Unarmed) :
    (tag.request host).1 = .ok () ∧ (tag.request host).2.1 = { tag with phase := .awaiting } ∧
      (tag.request host).2.2.link = host.link.wrote (readFrame tag.cursor) ∧
      (tag.request host).2.2.controller = host.controller := by
  unfold request
  rw [due]
  dsimp only
  rw [if_neg (UInt8.not_lt.mpr inside)]
  generalize noted : host.note _ = told
  have link : told.link = host.link := by rw [← noted]; rfl
  have controller : told.controller = host.controller := by rw [← noted]; rfl
  have armless : told.link.link.Unarmed := link ▸ unarmed
  obtain ⟨sent, wrote⟩ := Host.sendData_of_unarmed armless (controller ▸ permitted)
    (encode_readCommand tag)
  have kept := told.controller_sendData connection tag.readCommand
  rcases answered : told.sendData connection tag.readCommand with ⟨outcome, after⟩
  rw [answered] at sent wrote kept
  cases sent
  rw [link] at wrote
  exact ⟨rfl, rfl, wrote, kept.trans controller⟩

def taken (tag : Type2) (data : Bytes) : Type2 :=
  if tag.cursor < lastRead then
    { tag with chunk := data, cursor := tag.cursor + blocksPerRead, phase := .due }
  else
    { tag with chunk := data, phase := .idle }

theorem takeReply_of_reply {tag : Type2} (awaiting : tag.phase = .awaiting) (reply : ReadReply) :
    tag.takeReply reply.payload =
      (some (.ok ⟨reply.block.bytes, tag.cursor < lastRead⟩), tag.taken reply.block.bytes, []) := by
  have sound : Sound reply.payload := sound_append reply.block.bytes_length
  have data : reply.payload.take chunkSize = reply.block.bytes := by
    exact List.take_left' reply.block.bytes_length
  unfold takeReply taken
  rw [awaiting, (checkReply_ok_iff reply.payload).mpr sound, data]
  dsimp only
  split
  · rename_i inside
    simp [inside]
  · rename_i ended
    simp [ended]

end Type2

def Transmission.whole (bytes : Bytes) : Transmission :=
  ⟨bytes, .ok bytes.length⟩

namespace Session

/-! ### Events of the loop -/

section Event

variable {session : Session (Traced QueueLink)} {controller : Controller}

theorem onEvent_activated {tag : Option Tag} {activation : Activation}
    (standing : session.standing = ⟨.discoverNotification, .discover, tag, controller⟩) :
    (session.onEvent (.activated (.ok activation))).1 =
        [.detected (.ok ⟨activation, activation.tagFamily?⟩)] ∧
      (session.onEvent (.activated (.ok activation))).2.link = session.link ∧
      (session.onEvent (.activated (.ok activation))).2.standing =
        ⟨.discoverActivated, .discover,
          activation.tagFamily?.map fun family => Tag.ofFamily family activation, controller⟩ := by
  obtain ⟨host, plan, stage, operation, tag⟩ := session
  obtain ⟨rfl, rfl, rfl, rfl⟩ := Standing.mk.inj standing
  exact ⟨rfl, rfl, rfl⟩

theorem onEvent_data {tag : Type2} {connection : UInt8} {reply : ReadReply}
    (standing : session.standing = ⟨.dumpResponse, .dump, some (.type2 tag), controller⟩)
    (awaiting : tag.phase = .awaiting) :
    (session.onEvent (.data connection reply.payload)).1 =
        [.dumped (.ok ⟨reply.block.bytes, tag.cursor < Type2.lastRead⟩)] ∧
      (session.onEvent (.data connection reply.payload)).2.link = session.link ∧
      (session.onEvent (.data connection reply.payload)).2.standing =
        ⟨.dump, .dump, some (.type2 (tag.taken reply.block.bytes)), controller⟩ := by
  obtain ⟨host, plan, stage, operation, tag⟩ := session
  obtain ⟨rfl, rfl, rfl, rfl⟩ := Standing.mk.inj standing
  have taken := Type2.takeReply_of_reply awaiting reply
  simp only [onEvent, onData, note, if_true, Tag.takeReply, taken]
  exact ⟨trivial, rfl, rfl⟩

theorem onEvent_deactivate
    (standing : session.standing = ⟨.deactivate, .deactivate, none, controller⟩) :
    (session.onEvent (.deactivate (.ok ()))).1 = [] ∧
      (session.onEvent (.deactivate (.ok ()))).2.link = session.link ∧
      (session.onEvent (.deactivate (.ok ()))).2.standing =
        ⟨.deactivateResponse, .deactivate, none, controller⟩ := by
  obtain ⟨host, plan, stage, operation, tag⟩ := session
  obtain ⟨rfl, rfl, rfl, rfl⟩ := Standing.mk.inj standing
  exact ⟨rfl, rfl, rfl⟩

theorem onEvent_deactivated {deactivation : Deactivation}
    (standing : session.standing = ⟨.deactivateResponse, .deactivate, none, controller⟩) :
    (session.onEvent (.deactivated (.ok deactivation))).1 = [.deactivated (.ok deactivation)] ∧
      (session.onEvent (.deactivated (.ok deactivation))).2.link = session.link ∧
      (session.onEvent (.deactivated (.ok deactivation))).2.standing =
        ⟨.discoverNotification, .discover, none, controller⟩ := by
  obtain ⟨host, plan, stage, operation, tag⟩ := session
  obtain ⟨rfl, rfl, rfl, rfl⟩ := Standing.mk.inj standing
  exact ⟨rfl, rfl, rfl⟩

end Event

/-! ### Calls of the loop -/

section Call

variable {session : Session (Traced QueueLink)} {stage : Stage} {operation : Operation}
  {controller : Controller}

theorem deactivate_of_unarmed {tag : Option Tag}
    (standing : session.standing = ⟨stage, operation, tag, controller⟩)
    (unarmed : session.link.link.Unarmed) (active : controller.phase = .pollActive)
    (ready : stage = .discoverActivated ∨ stage = .dump) :
    session.deactivate.1 = .ok () ∧
      session.deactivate.2.link = session.link.wrote [0x21, 0x06, 0x01, 0x03] ∧
      session.deactivate.2.standing = ⟨.deactivate, .deactivate, none, controller⟩ := by
  obtain ⟨host, plan, stage, operation, tag⟩ := session
  obtain ⟨rfl, rfl, rfl, rfl⟩ := Standing.mk.inj standing
  have encoded : (Command.deactivate .discovery).encode = .ok [0x21, 0x06, 0x01, 0x03] := rfl
  have armless : host.link.link.Unarmed := unarmed
  have permitted : host.controller.phase = (Command.deactivate .discovery).phase := active
  obtain ⟨sent, wrote⟩ := Host.command_of_unarmed armless permitted encoded
  have kept := host.controller_command (.deactivate .discovery)
  unfold deactivate
  rw [if_pos ready]
  dsimp only
  rcases answered : host.command (.deactivate .discovery) with ⟨outcome, after⟩
  rw [answered] at sent wrote kept
  cases sent
  exact ⟨rfl, wrote, congrArg (Standing.mk .deactivate .deactivate none) kept⟩

theorem dump_of_unarmed {tag : Type2}
    (standing : session.standing =
      ⟨.discoverActivated, operation, some (.type2 tag), controller⟩)
    (unarmed : session.link.link.Unarmed) (active : controller.phase = .pollActive)
    (idle : tag.phase = .idle) :
    session.dump.1 = .ok () ∧ session.dump.2.link = session.link.wrote (Type2.readFrame 0) ∧
      session.dump.2.standing =
        ⟨.dumpResponse, .dump, some (.type2 { tag with cursor := 0, phase := .awaiting }),
          controller⟩ := by
  obtain ⟨host, plan, _, _, _⟩ := session
  obtain ⟨rfl, rfl, rfl, rfl⟩ := Standing.mk.inj standing
  have started := tag.startDump_of_idle idle
  have armless : (host.noteAll []).link.link.Unarmed := unarmed
  have inside : (0 : UInt8) ≤ Type2.lastRead := by decide
  obtain ⟨sent, awaits, wrote, kept⟩ :=
    @Type2.request_of_unarmed { tag with cursor := 0, phase := .due } (host.noteAll []) rfl inside
      active armless
  unfold dump
  rw [if_pos rfl]
  simp only [Tag.startDump, started, noteAll, Tag.request]
  generalize Type2.request { tag with cursor := 0, phase := .due } (host.noteAll []) = answered at *
  obtain ⟨outcome, next, after⟩ := answered
  cases sent
  cases awaits
  exact ⟨rfl, wrote, congrArg (Standing.mk .dumpResponse .dump _) kept⟩

theorem continueDump_of_unarmed {tag : Type2}
    (standing : session.standing = ⟨.dump, .dump, some (.type2 tag), controller⟩)
    (unarmed : session.link.link.Unarmed) (active : controller.phase = .pollActive)
    (due : tag.phase = .due) (inside : tag.cursor ≤ Type2.lastRead) :
    session.continueDump.1 = .ok () ∧
      session.continueDump.2.link = session.link.wrote (Type2.readFrame tag.cursor) ∧
      session.continueDump.2.standing =
        ⟨.dumpResponse, .dump, some (.type2 { tag with phase := .awaiting }), controller⟩ := by
  obtain ⟨host, plan, _, _, _⟩ := session
  obtain ⟨rfl, rfl, rfl, rfl⟩ := Standing.mk.inj standing
  have armless : host.link.link.Unarmed := unarmed
  obtain ⟨sent, awaits, wrote, kept⟩ := Type2.request_of_unarmed due inside active armless
  unfold continueDump
  rw [if_pos rfl]
  simp only [Tag.request]
  generalize tag.request host = answered at *
  obtain ⟨outcome, next, after⟩ := answered
  cases sent
  cases awaits
  exact ⟨rfl, wrote, congrArg (Standing.mk .dumpResponse .dump _) kept⟩

end Call

/-! ### Legs of a run -/

/-- The session stands somewhere, over a link whose writes succeed and on which nothing waits. -/
structure At (session : Session (Traced QueueLink)) (standing : Standing) : Prop where
  standing : session.standing = standing
  unarmed : session.link.link.Unarmed
  idle : session.link.link.pending = []

/-- A stretch in which every call succeeds. -/
structure Leg (session : Session (Traced QueueLink)) (turns : List (Turn QueueLink))
    (sent : List Transmission) (notices : List Notice) (after : Session (Traced QueueLink)) : Prop
    extends Stretch session turns sent notices after where
  succeeds : ∀ record ∈ session.records turns, record.deed.outcome = .ok ()

variable {session middle after : Session (Traced QueueLink)} {first second : List (Turn QueueLink)}
  {sent more : List Transmission} {notices further : List Notice}

theorem Leg.nil (session : Session (Traced QueueLink)) : session.Leg [] [] [] session :=
  ⟨.nil session, by simp [records, steps]⟩

theorem Leg.append (left : session.Leg first sent notices middle)
    (right : middle.Leg second more further after) :
    session.Leg (first ++ second) (sent ++ more) (notices ++ further) after := by
  refine ⟨left.toStretch.append right.toStretch, ?_⟩
  rw [records_append, left.ends]
  exact List.forall_mem_append.mpr ⟨left.succeeds, right.succeeds⟩

theorem Leg.single {turn : Turn QueueLink} {path : List Exchange}
    (done : ((session.meanwhile turn.traced.meanwhile).perform turn.call).1 = .ok ())
    (told : ((session.meanwhile turn.traced.meanwhile).perform turn.call).2.1 = notices)
    (taken : ((session.meanwhile turn.traced.meanwhile).after turn.call).link.path =
      session.link.path ++ path) :
    session.Leg [turn] (transmissions path) notices
      ((session.meanwhile turn.traced.meanwhile).after turn.call) :=
  ⟨.single told taken, List.forall_mem_singleton.mpr done⟩

theorem At.process_leg {standing reached : Standing} {bytes payload : Bytes} {message : Message}
    {event : Event} {controller : Controller} (here : session.At standing)
    (packet : Complete bytes ∧ Packet.contents bytes = .ok (message, payload))
    (transition : standing.controller.Transition message payload event controller)
    (reacts : ∀ moved : Session (Traced QueueLink),
      moved.standing = { standing with controller := controller } →
      (moved.onEvent event).1 = notices ∧ (moved.onEvent event).2.link = moved.link ∧
        (moved.onEvent event).2.standing = reached) :
    ∃ after, session.Leg [processing bytes] [] notices after ∧ after.At reached := by
  obtain ⟨complete, read⟩ := packet
  let ready := session.meanwhile (processing bytes).traced.meanwhile
  have queued : ready.link.link.pending = bytes ++ [] := by
    change session.link.link.pending ++ bytes = _
    rw [here.idle, List.nil_append, List.append_nil]
  have known : ready.host.controller = standing.controller :=
    congrArg Standing.controller here.standing
  have pumps := Host.pumps_of_queued complete queued
  obtain ⟨came, _, kept⟩ := pumps.heard message payload read
  obtain ⟨same, moved⟩ := transition.eq_receive
  rw [known, ← same] at came
  rw [known, ← moved] at kept
  have pumped : ready.pumped.standing = { standing with controller := controller } := by
    have placed : ready.standing = standing := here.standing
    rw [standing_pumped, placed, kept]
  obtain ⟨told, link, reached⟩ := reacts ready.pumped pumped
  have consumed : ready.pumped.link = ready.link.handed bytes [] := pumps.consumed
  rw [← process_of_event came] at told link reached
  rw [consumed] at link
  have done : ready.process.1 = .ok () := by
    rw [process_outcome, came]
    rfl
  have path : (ready.after .process).link.path = session.link.path ++ handover bytes :=
    congrArg Traced.path link
  have leg : session.Leg [processing bytes] (transmissions (handover bytes)) _ _ :=
    .single done told path
  rw [transmissions_handover] at leg
  refine ⟨_, leg, reached, ?_, ?_⟩
  · change ready.process.2.2.link.link.Unarmed
    rw [link]
    exact here.unarmed
  · change ready.process.2.2.link.link.pending = []
    rw [link]
    rfl

theorem At.call_leg {standing reached : Standing} {call : Call} {bytes : Bytes}
    (here : session.At standing) (done : (session.perform call).1 = .ok ())
    (silent : (session.perform call).2.1 = [])
    (wrote : (session.after call).link = session.link.wrote bytes)
    (stands : (session.after call).standing = reached) :
    session.Leg [⟨id, call⟩] [.whole bytes] [] (session.after call) ∧
      (session.after call).At reached := by
  constructor
  · have path : (session.after call).link.path =
        session.link.path ++ [.write bytes (.ok bytes.length)] := congrArg Traced.path wrote
    exact @Leg.single session _ ⟨id, call⟩ _ done silent path
  · refine ⟨stands, ?_, ?_⟩
    · rw [wrote]
      exact here.unarmed
    · rw [wrote]
      exact here.idle

end Session

/-! ### Visits -/

namespace Endpoint

def chunkTurns (chunk : ReadReply × Nat) : List (Turn QueueLink) :=
  [⟨id, if chunk.2 = 0 then .dump else .continueDump⟩, Session.processing chunk.1.packet]

def chunkFrame (chunk : ReadReply × Nat) : Bytes :=
  Type2.readFrame (UInt8.ofNat (4 * chunk.2))

def chunkNotice (chunk : ReadReply × Nat) : Notice :=
  .dumped (.ok ⟨chunk.1.block.bytes, chunk.2 < 3⟩)

variable (endpoint : Endpoint)

/-- The endpoint is announced, each of its replies is asked for and comes, and it is released. -/
def turns : List (Turn QueueLink) :=
  Session.processing endpoint.announcement ::
    (endpoint.replies.zipIdx.flatMap chunkTurns ++
      [ ⟨id, .deactivate⟩,
        Session.processing (Bench.deactivateResponse .ok),
        Session.processing endpoint.release ])

def frames : List Bytes :=
  endpoint.replies.zipIdx.map chunkFrame ++ [[0x21, 0x06, 0x01, 0x03]]

def notices (activation : Activation) : List Notice :=
  .detected (.ok ⟨activation, endpoint.family⟩) ::
    (endpoint.replies.zipIdx.map chunkNotice ++ [.deactivated (.ok endpoint.deactivation)])

/-- How far the endpoint has been read: where the session stands once so many chunks have
come. -/
inductive Progress (controller : Controller) : Nat → Standing → Prop
  | activated :
      Progress controller 0
        ⟨.discoverActivated, .discover,
          endpoint.family.map fun family => Tag.ofFamily family endpoint.activation, controller⟩
  | read {index : Nat} {tag : Type2}
      (due : index + 1 < 4 → tag.phase = .due ∧ tag.cursor = UInt8.ofNat (4 * (index + 1))) :
      Progress controller (index + 1) ⟨.dump, .dump, some (.type2 tag), controller⟩

end Endpoint

private theorem cursor_of_index {index : Nat} (inside : index < 4) :
    (UInt8.ofNat (4 * index) < Type2.lastRead ↔ index < 3) ∧
      UInt8.ofNat (4 * index) ≤ Type2.lastRead ∧
      UInt8.ofNat (4 * index) + Type2.blocksPerRead = UInt8.ofNat (4 * (index + 1)) := by
  have every : ∀ index : Fin 4, (UInt8.ofNat (4 * index) < Type2.lastRead ↔ index.val < 3) ∧
      UInt8.ofNat (4 * index) ≤ Type2.lastRead ∧
      UInt8.ofNat (4 * index) + Type2.blocksPerRead = UInt8.ofNat (4 * (index + 1)) := by decide
  exact every ⟨index, inside⟩

namespace Session

variable {session : Session (Traced QueueLink)} {endpoint : Endpoint} {controller : Controller}
  {standing : Standing} {index : Nat}

theorem At.ask_leg (here : session.At standing)
    (progress : endpoint.Progress controller index standing)
    (readable : endpoint.family = some .type2) (active : controller.phase = .pollActive)
    (inside : index < 4) :
    ∃ after tag, session.Leg [⟨id, if index = 0 then .dump else .continueDump⟩]
        [.whole (Type2.readFrame (UInt8.ofNat (4 * index)))] [] after ∧
      after.At ⟨.dumpResponse, .dump, some (.type2 tag), controller⟩ ∧ tag.phase = .awaiting ∧
      tag.cursor = UInt8.ofNat (4 * index) := by
  cases progress with
  | activated =>
      have stands := here.standing
      rw [readable] at stands
      have tagged : session.standing = ⟨.discoverActivated, .discover,
          some (.type2 { activation := endpoint.activation }), controller⟩ := stands
      obtain ⟨done, wrote, reached⟩ := dump_of_unarmed tagged here.unarmed active rfl
      obtain ⟨leg, there⟩ := @At.call_leg session _ _ .dump _ here done rfl wrote reached
      exact ⟨_, _, leg, there, rfl, rfl⟩
  | @read index tag due =>
      obtain ⟨phase, cursor⟩ := due inside
      have within : tag.cursor ≤ Type2.lastRead := cursor ▸ (cursor_of_index inside).2.1
      obtain ⟨done, wrote, reached⟩ :=
        continueDump_of_unarmed here.standing here.unarmed active phase within
      obtain ⟨leg, there⟩ := @At.call_leg session _ _ .continueDump _ here done rfl wrote reached
      rw [cursor] at leg
      exact ⟨_, _, leg, there, rfl, cursor⟩

theorem At.reply_leg {tag : Type2}
    (here : session.At ⟨.dumpResponse, .dump, some (.type2 tag), controller⟩)
    (awaiting : tag.phase = .awaiting) (cursor : tag.cursor = UInt8.ofNat (4 * index))
    (inside : index < 4) (reply : ReadReply) :
    ∃ after reached,
      session.Leg [processing reply.packet] []
        [.dumped (.ok ⟨reply.block.bytes, index < 3⟩)] after ∧
      after.At reached ∧ endpoint.Progress controller (index + 1) reached := by
  obtain ⟨last, _, next⟩ := cursor_of_index inside
  obtain ⟨after, leg, there⟩ :=
    here.process_leg reply.contents_packet (.data _ reply.payload) fun moved stands =>
      onEvent_data stands awaiting
  rw [cursor, decide_eq_decide.mpr last] at leg
  refine ⟨after, _, leg, there, .read fun more => ?_⟩
  have short : tag.cursor < Type2.lastRead := by
    rw [cursor]
    exact last.mpr (Nat.lt_of_succ_lt_succ more)
  rw [Type2.taken, if_pos short]
  exact ⟨rfl, (congrArg (· + Type2.blocksPerRead) cursor).trans next⟩

theorem At.chunks_leg {replies : List ReadReply} (here : session.At standing)
    (progress : endpoint.Progress controller index standing)
    (readable : replies ≠ [] → endpoint.family = some .type2)
    (active : controller.phase = .pollActive) (inside : index + replies.length ≤ 4) :
    ∃ after reached,
      session.Leg ((replies.zipIdx index).flatMap Endpoint.chunkTurns)
        (((replies.zipIdx index).map Endpoint.chunkFrame).map .whole)
        ((replies.zipIdx index).map Endpoint.chunkNotice) after ∧
      after.At reached ∧ endpoint.Progress controller (index + replies.length) reached := by
  -- The rest of the chunks starts elsewhere, at a later index: `Progress` says where.
  induction replies generalizing session standing index with
  | nil => exact ⟨session, standing, .nil session, here, progress⟩
  | cons reply rest ih =>
      rw [List.length_cons] at inside
      have within : index < 4 := by omega
      have typed := readable (List.cons_ne_nil reply rest)
      obtain ⟨asked, tag, asking, waits, awaiting, cursor⟩ :=
        here.ask_leg progress typed active within
      obtain ⟨answered, reached, answering, there, progress⟩ :=
        waits.reply_leg awaiting cursor within reply
      obtain ⟨after, last, later, arrived, done⟩ :=
        ih there progress (fun _ => typed) (by omega)
      have count : index + (reply :: rest).length = index + 1 + rest.length := by
        rw [List.length_cons]
        omega
      rw [count]
      exact ⟨after, last, (asking.append answering).append later, arrived, done⟩

theorem At.release_leg (here : session.At standing)
    (progress : endpoint.Progress controller index standing)
    (active : controller.phase = .pollActive) :
    ∃ after, session.Leg [⟨id, .deactivate⟩] [.whole [0x21, 0x06, 0x01, 0x03]] [] after ∧
      after.At ⟨.deactivate, .deactivate, none, controller⟩ := by
  have released {stage : Stage} {operation : Operation} {tag : Option Tag}
      (here : session.At ⟨stage, operation, tag, controller⟩)
      (ready : stage = .discoverActivated ∨ stage = .dump) :
      ∃ after, session.Leg [⟨id, .deactivate⟩] [.whole [0x21, 0x06, 0x01, 0x03]] [] after ∧
        after.At ⟨.deactivate, .deactivate, none, controller⟩ := by
    obtain ⟨done, wrote, reached⟩ :=
      deactivate_of_unarmed here.standing here.unarmed active ready
    exact ⟨_, @At.call_leg session _ _ .deactivate _ here done rfl wrote reached⟩
  cases progress with
  | activated => exact released here (.inl rfl)
  | read due => exact released here (.inr rfl)

/-- What a visit of an endpoint does.  Every call succeeds; the endpoint and its chunks are told
of in order, each once; the reads start at the first block and nothing else is sent but the
command to release it; and its identifier, its select response and its release are kept. -/
structure Visit (before : Session (Traced QueueLink)) (endpoint : Endpoint)
    (activation : Activation) (after : Session (Traced QueueLink)) : Prop where
  leg : before.Leg endpoint.turns (endpoint.frames.map .whole) (endpoint.notices activation) after
  identifier : activation.nfcid?.map Nfcid.toBytes = some endpoint.nfcid
  response : activation.selectResponse? = endpoint.selectResponse
  stored : after.host.controller.activation = some activation
  released : after.host.controller.deactivation = some endpoint.deactivation

inductive Visits : Session (Traced QueueLink) → List Endpoint → Session (Traced QueueLink) → Prop
  | nil (session : Session (Traced QueueLink)) : Visits session [] session
  | cons {before middle after : Session (Traced QueueLink)} {endpoint : Endpoint}
      {activation : Activation} {rest : List Endpoint}
      (visit : before.Visit endpoint activation middle) (later : Visits middle rest after) :
      Visits before (endpoint :: rest) after

def Polls (session : Session (Traced QueueLink)) : Prop :=
  ∃ controller : Controller, controller.phase = .discovery ∧
    session.At ⟨.discoverNotification, .discover, none, controller⟩

theorem Polls.visit (polls : session.Polls) (endpoint : Endpoint) :
    ∃ after activation, session.Visit endpoint activation after ∧ after.Polls := by
  obtain ⟨controller, phase, here⟩ := polls
  -- Announcement.
  obtain ⟨_, found, here⟩ := here.process_leg endpoint.contents_announcement
    (.activated phase endpoint.ofPayload_announcement) fun moved stands => onEvent_activated stands
  rw [endpoint.tagFamily_activation] at found here
  -- Chunks.
  have readable (some : endpoint.replies ≠ []) : endpoint.family = .some .type2 :=
    if_pos (endpoint.readable some)
  have inside : 0 + endpoint.replies.length ≤ 4 := by
    rw [Nat.zero_add]
    exact endpoint.replies_fit
  obtain ⟨_, reached, reading, here, progress⟩ := here.chunks_leg .activated readable rfl inside
  -- Release.
  obtain ⟨_, releasing, here⟩ := here.release_leg progress rfl
  have answer : Complete (Bench.deactivateResponse .ok) ∧
      Packet.contents (Bench.deactivateResponse .ok) = .ok (.deactivateResponse, [0]) :=
    ⟨by decide, rfl⟩
  obtain ⟨_, answered, here⟩ := here.process_leg answer (.deactivate rfl) fun moved stands =>
    onEvent_deactivate stands
  obtain ⟨after, reported, here⟩ := here.process_leg endpoint.contents_release
    (.deactivated endpoint.releaseType endpoint.releaseReason rfl) fun moved stands =>
      onEvent_deactivated stands
  have leg := found.append (reading.append (releasing.append (answered.append reported)))
  obtain ⟨identifier, response⟩ := endpoint.activation_identifies
  have known := congrArg Standing.controller here.standing
  refine ⟨after, endpoint.activation, ⟨?_, identifier, response, ?_, ?_⟩, _, rfl, here⟩
  · rw [Endpoint.frames, List.map_append]
    exact leg
  · exact congrArg Controller.activation known
  · exact congrArg Controller.deactivation known

theorem Polls.visits (polls : session.Polls) (endpoints : List Endpoint) :
    ∃ after, session.Visits endpoints after ∧ after.Polls := by
  induction endpoints generalizing session with
  | nil => exact ⟨session, .nil session, polls⟩
  | cons endpoint rest ih =>
      obtain ⟨middle, activation, visit, again⟩ := polls.visit endpoint
      obtain ⟨after, later, last⟩ := ih again
      exact ⟨after, .cons visit later, last⟩

theorem Visits.run_eq {endpoints : List Endpoint} {after : Session (Traced QueueLink)}
    (visits : session.Visits endpoints after) :
    session.run ((endpoints.flatMap Endpoint.turns).map Turn.traced) = after := by
  induction visits with
  | nil session => rfl
  | @cons before middle after endpoint activation rest visit _ ih =>
      rw [List.flatMap_cons, List.map_append, run_append, visit.leg.ends, ih]

/-- The polling loop can go on for any number of endpoints.  Wherever a run has led a session to
await an endpoint, over a link whose writes succeed and with nothing queued, any endpoints can
be visited one after another: every visit does what it should, whatever was visited before, and
leaves the session where it awaits the next one. -/
theorem polling_loop (link : QueueLink) (threshold : Threshold) (plan : DiscoveryPlan)
    (turns : List (Turn QueueLink)) (endpoints : List Endpoint) :
    let session := (fresh (⟨link, []⟩ : Traced QueueLink) threshold plan).run
      (turns.map Turn.traced)
    session.stage = .discoverNotification → session.link.link.pending = [] →
      session.link.link.Unarmed →
      ∃ after, session.Visits endpoints after ∧
        session.run ((endpoints.flatMap Endpoint.turns).map Turn.traced) = after ∧
        after.Polls := by
  intro session stage idle unarmed
  -- The stage alone tells the phase, the operation and that there is no tag.
  obtain ⟨coherent, lock⟩ : Coherent session.standing ∧ session.standing.Lockstep :=
    run_invariant (fun standing => Coherent standing ∧ standing.Lockstep)
      (fun _ _ _ _ kept move => ⟨kept.1.of_move move, kept.2.of_move move kept.1⟩)
      _ _ ⟨.start {}, nofun⟩
  have polls : session.Polls := by
    have started : session.standing.stage = .discoverNotification := stage
    refine ⟨session.host.controller, lock .discovery (by rw [started]; rfl), ?_, unarmed, idle⟩
    have operation := coherent.operation
    have holds := coherent.tag
    rw [started] at operation holds
    have current : session.operation = .discover := operation
    have bare : session.tag = none := holds
    unfold Session.standing
    rw [stage, current, bare]
  obtain ⟨after, visits, again⟩ := polls.visits endpoints
  exact ⟨after, visits, visits.run_eq, again⟩

def discovering : List (Turn QueueLink) :=
  [ ⟨id, .reset .keepConfig⟩,
    processing (Bench.resetResponse .ok),
    processing (Bench.initResponse .ok),
    ⟨id, .discover⟩,
    processing (Bench.discoverMapResponse .ok),
    processing (Bench.discoverResponse .ok) ]

def halfRead : Endpoint where
  nfcid := [0x04, 0x11, 0x22, 0x33, 0x44, 0x55, 0x66]
  selectResponse := some 0x00
  replies := [⟨0, ⟨List.replicate 16 0xA5, rfl⟩⟩, ⟨3, ⟨List.replicate 16 0x5A, rfl⟩⟩]
  releaseType := 0x03
  releaseReason := 0x00
  nfcid_fits := by decide
  replies_fit := by decide
  readable := fun _ => ⟨rfl, rfl⟩

def classic : Endpoint where
  nfcid := [0xDE, 0xAD, 0xBE, 0xEF]
  selectResponse := some 0x18
  replies := []
  releaseType := 0x00
  releaseReason := 0x02
  nfcid_fits := by decide
  replies_fit := by decide
  readable := nofun

/-- The same tag may come again after another endpoint, and is read from its first block. -/
theorem polling_loop_half_read :
    let session := (fresh (⟨{}, []⟩ : Traced QueueLink) none .standard).run
      (discovering.map Turn.traced)
    session.stage = .discoverNotification ∧ session.link.link.pending = [] ∧
      session.link.link.Unarmed ∧
      ∃ after, session.Visits [halfRead, classic, halfRead] after ∧ after.Polls := by
  intro session
  have stage : session.stage = .discoverNotification := rfl
  have idle : session.link.link.pending = [] := rfl
  have unarmed : session.link.link.Unarmed := ⟨rfl, rfl⟩
  obtain ⟨after, visits, _, polls⟩ :=
    polling_loop {} none .standard discovering [halfRead, classic, halfRead] stage idle unarmed
  exact ⟨stage, idle, unarmed, after, visits, polls⟩

end Session
end NfcHost

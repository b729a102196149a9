/-
What a failing call leaves behind.

A call that fails undoes what it has begun: session, tag and controller stand where they
stood, and nothing is told.  Two calls are different.  A reset gives up whatever was under
way before it can fail, and a dump whose first READ cannot be sent has begun all the same,
with that READ due.  A call that is refused has written nothing.
-/

import NfcHost.Bench.Packets
import NfcHost.Link.Queue
import NfcHost.Proofs.Reading

namespace NfcHost

/-- The link answered like a command that was refused: with the fault `rejected`, or with the
status `rejected` as a report of the controller's. -/
def Transmission.Refused (transmission : Transmission) : Prop :=
  ∃ fault, transmission.report = .error fault ∧ fault.setback = .rejected

/-- A refusal comes before anything is written, unless it is the link's own. -/
theorem Posts.unsent_of_rejected {permitted : Prop} {encoded : Except Fault Bytes} {fault : Fault}
    {sent : List Transmission} (posted : Posts permitted encoded (.error fault) sent)
    (rejected : fault.setback = .rejected)
    (honest : ∀ transmission ∈ sent, ¬transmission.Refused) : sent = [] := by
  cases posted with
  | refused barred => rfl
  | unfit granted failed => rfl
  | @written transmission outcome granted fits came =>
      have reported := Transmission.report_of_rejected came.symm rejected
      exact absurd ⟨fault, reported, rejected⟩ (honest transmission (.head _))

/-! ### One call -/

namespace Deed

def Fails (deed : Deed) : Prop :=
  ∃ setback, deed.outcome = .error setback

def Continues (deed : Deed) : Prop :=
  deed.call = .continueDump ∧ deed.outcome = .ok ()

def GivesUp (deed : Deed) : Prop :=
  (∃ kind, deed.call = .reset kind) ∨ (deed.call = .deactivate ∧ deed.outcome = .ok ())

end Deed

namespace Standing

def Offers (standing : Standing) (tag : Type2) : Prop :=
  standing.stage = .discoverActivated ∧ standing.tag = some (.type2 tag)

def rewound (standing : Standing) (tag : Type2) : Standing :=
  { standing with
    stage := .dump
    operation := .dump
    tag := some (.type2 { tag with cursor := 0, phase := .due }) }

theorem due_rewound (standing : Standing) (tag : Type2) : (standing.rewound tag).Due 0 :=
  ⟨rfl, _, rfl, rfl, rfl⟩

namespace Move

variable {plan : DiscoveryPlan} {standing after : Standing} {deed : Deed}

theorem kept_of_fails (move : standing.Move plan deed after) (fails : deed.Fails)
    (other : ∀ kind, deed.call ≠ .reset kind)
    (unopened : deed.call = .dump → ∀ tag, ¬standing.Offers tag) :
    after = standing ∧ deed.notices = [] := by
  obtain ⟨setback, failed⟩ := fails
  cases move with
  | resetBlocked kind fault => exact absurd rfl (other kind)
  | resetUnsent kind posted => exact absurd rfl (other kind)
  | refused barred => exact ⟨rfl, rfl⟩
  | discoverUnsent stage posted => exact ⟨rfl, rfl⟩
  | deactivateUnsent stage posted => exact ⟨rfl, rfl⟩
  | dumpUnstarted stage unready => exact ⟨rfl, rfl⟩
  | dumpUnsent stage held idle posted => exact absurd ⟨stage, held⟩ (unopened rfl _)
  | continueRefused stage unready => exact ⟨rfl, rfl⟩
  | continueUnsent stage held due inside posted => exact ⟨rfl, rfl⟩
  | silent fault => exact ⟨rfl, rfl⟩
  | _ => cases failed

theorem rewound_of_fails (move : standing.Move plan deed after) (coherent : Coherent standing)
    (fails : deed.Fails) (call : deed.call = .dump) {tag : Type2} (offers : standing.Offers tag) :
    after = standing.rewound tag ∧ deed.notices = [] := by
  obtain ⟨setback, failed⟩ := fails
  obtain ⟨stage, held⟩ := offers
  cases move with
  | refused barred =>
      cases call
      exact absurd stage barred
  | dumpUnstarted _ unready =>
      have holds := coherent.tag
      rw [stage, held] at holds
      exact absurd holds.1 (unready tag held)
  | dumpUnsent _ same _ _ =>
      cases held.symm.trans same
      exact ⟨rfl, rfl⟩
  | dumpSent _ _ _ _ => cases failed
  | _ => cases call

theorem unsent_of_rejected (move : standing.Move plan deed after)
    (refused : deed.outcome = .error .rejected)
    (honest : ∀ transmission ∈ deed.sent, ¬transmission.Refused) : deed.sent = [] := by
  cases move with
  | resetUnsent kind posted => exact posted.unsent_of_rejected (Except.error.inj refused) honest
  | discoverUnsent stage posted =>
      exact posted.unsent_of_rejected (Except.error.inj refused) honest
  | deactivateUnsent stage posted =>
      exact posted.unsent_of_rejected (Except.error.inj refused) honest
  | continueUnsent stage held due inside posted =>
      exact posted.unsent_of_rejected (Except.error.inj refused) honest
  | resetBlocked kind fault => rfl
  | refused barred => rfl
  | dumpUnstarted stage unready => rfl
  | continueRefused stage unready => rfl
  | silent fault => rfl
  | _ => cases refused

/-- A READ that is due stays due until it is asked for or the endpoint is given up. -/
theorem due_after (move : standing.Move plan deed after) {block : UInt8}
    (due : standing.Due block) (kept : ¬deed.GivesUp) (waits : ¬deed.Continues) :
    after.Due block := by
  have reading := due.1
  cases move with
  | resetBlocked kind fault => exact absurd (.inl ⟨kind, rfl⟩) kept
  | resetUnsent kind posted => exact absurd (.inl ⟨kind, rfl⟩) kept
  | resetSent kind posted => exact absurd (.inl ⟨kind, rfl⟩) kept
  | refused barred => exact due
  | discoverUnsent stage posted => cases reading.symm.trans stage
  | discoverSent stage posted => cases reading.symm.trans stage
  | deactivateUnsent stage posted => exact due
  | deactivateSent stage posted => exact absurd (.inr ⟨rfl, rfl⟩) kept
  | dumpUnstarted stage unready => cases reading.symm.trans stage
  | dumpUnsent stage held idle posted => cases reading.symm.trans stage
  | dumpSent stage held idle posted => cases reading.symm.trans stage
  | continueRefused stage unready => exact due
  | continueAlready stage held awaiting => exact absurd ⟨rfl, rfl⟩ waits
  | continueUnsent stage held ready inside posted => exact due
  | continueSent stage held ready inside posted => exact absurd ⟨rfl, rfl⟩ waits
  | silent fault => exact due
  | @heard message payload _ _ _ reaction =>
      -- Between two chunks no message is awaited, so none is taken.
      have resting : (standing.hear message payload).stage = .dump := reading
      have leaves := leaves_of_unawaited (by rw [resting]; rfl) (by rw [resting]; decide)
        (standing.event message payload)
      obtain ⟨_, _, same⟩ := reaction.eq_of_leaves leaves
      rw [same]
      exact due

theorem sent_of_continues (move : standing.Move plan deed after) {block : UInt8}
    (due : standing.Due block) (continues : deed.Continues) :
    ∃ transmission, deed.sent = [transmission] ∧
      transmission.bytes = Type2.readFrame block ∧ transmission.Whole := by
  obtain ⟨call, accepted⟩ := continues
  obtain ⟨reading, tag, held, ready, rfl⟩ := due
  cases move with
  | continueAlready _ same awaiting =>
      cases held.symm.trans same
      cases ready.symm.trans awaiting
  | continueSent _ same _ _ posted =>
      cases held.symm.trans same
      obtain ⟨_, transmission, fits, whole, sent⟩ := posted.of_ok
      exact ⟨transmission, sent, (Except.ok.inj fits).symm, whole⟩
  | refused barred => cases accepted
  | continueRefused _ _ => cases accepted
  | continueUnsent _ _ _ _ _ => cases accepted
  | _ => cases call

end Move
end Standing

/-! ### Resets -/

section Reset

variable {σ : Type} [Link σ]

theorem Host.hardReset_outcome (host : Host σ) : host.hardReset.1 = (Link.reset host.link).1 := by
  have asked : (host.note (.debug ("NCI: hard reset from " ++
      host.controller.phase.name))).channel.reset.1 = (Link.reset host.link).1 := rfl
  rw [← asked]
  unfold hardReset
  dsimp only
  split
  · rename_i fault channel answered
    rw [answered]
  · rename_i channel answered
    rw [answered]

/-- How a reset fails.  While the hardware cannot be reset, the controller is still what it
was; once it has been, only the command can fail. -/
inductive ResetFailure (session : Session σ) (path : List Exchange) (after : Standing) : Prop
  | hardware {fault : Fault} (answered : (Link.reset session.link).1 = .error fault)
      (unsent : transmissions path = [])
      (left : after = { controller := session.host.controller }) :
      ResetFailure session path after
  | command {transmission : Transmission} (answered : (Link.reset session.link).1 = .ok ())
      (sent : transmissions path = [transmission]) (cut : ¬transmission.Whole)
      (cleared : after = {}) :
      ResetFailure session path after

theorem Session.reset_failure (session : Session σ) (kind : ResetKind) {setback : Setback}
    (failed : (session.reset kind).1 = .error setback) :
    ∃ path, Path session.link path (session.reset kind).2.link ∧
      ResetFailure session path (session.reset kind).2.standing := by
  unfold reset at failed ⊢
  dsimp only at failed ⊢
  generalize noted : (session.note (.info ("tags: reset from " ++ session.place))).host = host
    at failed ⊢
  have sameLink : host.link = session.link := by rw [← noted]; rfl
  have sameController : host.controller = session.host.controller := by rw [← noted]; rfl
  obtain ⟨first, firstTaken, firstSilent⟩ := host.hardReset_silent
  have resetting := host.hardReset_controller
  have asked := host.hardReset_outcome
  rw [sameLink] at firstTaken asked
  rcases answered : host.hardReset with ⟨outcome, ready⟩
  rw [answered] at firstTaken resetting asked failed
  cases outcome with
  | error fault =>
      rcases resetting with ⟨_, _, kept⟩ | ⟨impossible, _⟩
      · refine ⟨first, firstTaken, .hardware asked.symm firstSilent ?_⟩
        exact congrArg (fun known : Controller => ({ controller := known } : Standing))
          (kept.trans sameController)
      · cases impossible
  | ok value =>
      rcases resetting with ⟨_, impossible, _⟩ | ⟨_, cleared⟩
      · cases impossible
      · obtain ⟨second, secondTaken, posted⟩ := ready.command_posts (.reset kind)
        have kept := ready.controller_command (.reset kind)
        have permitted : ready.controller.phase = (Command.reset kind).phase := by
          rw [cleared]
          rfl
        dsimp only at failed ⊢
        rcases reported : ready.command (.reset kind) with ⟨outcome, last⟩
        rw [reported] at secondTaken posted kept failed
        cases outcome with
        | ok value => cases failed
        | error fault =>
            have path := firstTaken.append secondTaken
            generalize written : transmissions second = sent at posted
            have whole : transmissions (first ++ second) = sent := by
              rw [transmissions_append, firstSilent, List.nil_append, written]
            have empty : Standing.mk .none .none none last.controller = {} :=
              congrArg (Standing.mk .none .none none) (kept.trans cleared)
            cases posted with
            | refused barred => exact absurd permitted barred
            | unfit _ unencoded => cases kind <;> cases unencoded
            | @written transmission _ _ _ came =>
                refine ⟨first ++ second, path, .command asked.symm whole ?_ empty⟩
                intro taken
                rw [(Transmission.outcome_ok_iff transmission).mpr taken] at came
                cases came

end Reset

/-! ### Runs -/

/-- Whatever fails leaves the session in order. -/
structure FailsCleanly (records : List Record) : Prop where
  keeps : ∀ record ∈ records, record.deed.Fails → (∀ kind, record.deed.call ≠ .reset kind) →
    (record.deed.call = .dump → ∀ tag, ¬record.before.Offers tag) →
      record.after = record.before ∧ record.deed.notices = []
  rewinds : ∀ record ∈ records, record.deed.Fails → record.deed.call = .dump →
    ∀ tag, record.before.Offers tag →
      record.after = record.before.rewound tag ∧ record.deed.notices = []
  resumes : ∀ past failed mid again future,
    records = past ++ failed :: (mid ++ again :: future) →
      failed.deed.Fails → failed.deed.call = .dump → (∃ tag, failed.before.Offers tag) →
        (∀ record ∈ mid, ¬record.deed.Continues) → again.deed.Continues →
          (∃ record ∈ mid, record.deed.GivesUp) ∨
          ∃ transmission, again.deed.sent = [transmission] ∧
            transmission.bytes = Type2.readFrame 0 ∧ transmission.Whole
  refuses : ∀ record ∈ records, record.deed.outcome = .error .rejected →
    (∀ transmission ∈ record.deed.sent, ¬transmission.Refused) → record.deed.sent = []

theorem Course.failsCleanly {plan : DiscoveryPlan} {records : List Record} {last : Standing}
    (course : Course plan {} records last) : FailsCleanly records where
  keeps record member fails other unopened :=
    (course.move_of_mem member).2.kept_of_fails fails other unopened
  rewinds record member fails call tag offers := by
    obtain ⟨coherent, move⟩ := course.move_of_mem member
    exact move.rewound_of_fails coherent fails call offers
  resumes past failed mid again future shown fails call opened waits continues := by
    subst shown
    obtain ⟨tag, offers⟩ := opened
    obtain ⟨early, failing, rest⟩ := course.split_at
    obtain ⟨between, moves, _⟩ := rest.split_at
    by_cases given : ∃ record ∈ mid, record.deed.GivesUp
    · exact .inl given
    · right
      have begun : failed.after.Due 0 := by
        rw [(failing.rewound_of_fails early.coherent fails call offers).1]
        exact failed.before.due_rewound tag
      have due : (∀ record ∈ mid, ¬record.deed.GivesUp ∧ ¬record.deed.Continues) →
          again.before.Due 0 := by
        refine between.invariant
          (fun since standing =>
            (∀ record ∈ since, ¬record.deed.GivesUp ∧ ¬record.deed.Continues) → standing.Due 0)
          (fun since record soFar moves kept => ?_) (fun _ => begun)
        have before := soFar fun made member => kept made (List.mem_append_left _ member)
        obtain ⟨keeps, waits⟩ := kept record (List.mem_append_right _ (.head _))
        exact moves.due_after before keeps waits
      refine moves.sent_of_continues (due fun record member => ⟨?_, waits record member⟩) continues
      exact fun gives => given ⟨record, member, gives⟩
  refuses record member refused honest :=
    (course.move_of_mem member).2.unsent_of_rejected refused honest

namespace Session

variable {σ : Type} [Link σ]

/-- In every run a call that fails leaves the session in order.  A reset that fails leaves
nothing under way; the controller is what it was if the hardware could not be reset, and
forgotten if only the command could not be sent. -/
theorem calls_fail_cleanly (link : σ) (threshold : Threshold) (plan : DiscoveryPlan)
    (turns : List (Turn σ)) :
    FailsCleanly (history link threshold plan turns) ∧
      ∀ step ∈ (fresh (⟨link, []⟩ : Traced σ) threshold plan).steps (turns.map Turn.traced),
        ∀ kind, step.call = .reset kind → step.record.deed.Fails →
          ∃ path, step.after.link.path = step.before.link.path ++ path ∧
            ResetFailure step.before path step.after.standing := by
  obtain ⟨last, course⟩ := history_course link threshold plan turns
  refine ⟨course.failsCleanly, fun step member kind call fails => ?_⟩
  rcases step with ⟨session, _⟩
  cases call
  obtain ⟨setback, failed⟩ := fails
  obtain ⟨path, taken, failure⟩ := session.reset_failure kind failed
  exact ⟨path, Traced.path_eq_append taken, failure⟩

open Bench

/-- A Type-2 tag is found, but the first READ cannot be written; a message that belongs
elsewhere comes in before the next chunk is asked for. -/
def unsentRead : List (Turn QueueLink) :=
  [ ⟨id, .reset .keepConfig⟩,
    ⟨.push (resetResponse .ok), .process⟩,
    ⟨.push (initResponse .ok), .process⟩,
    ⟨id, .discover⟩,
    ⟨.push (discoverMapResponse .ok), .process⟩,
    ⟨.push (discoverResponse .ok), .process⟩,
    ⟨.push (activated [0x04, 0x01, 0x02, 0x03, 0x04, 0x05, 0x06] none), .process⟩,
    ⟨fun link => { link with writeFailures := 1 }, .dump⟩,
    ⟨.push (discoverResponse .ok), .process⟩,
    ⟨id, .continueDump⟩ ]

theorem calls_fail_cleanly_unsent_read :
    ∃ past failed mid again,
      history ({} : QueueLink) none .standard unsentRead = past ++ failed :: (mid ++ [again]) ∧
      failed.deed.outcome = .error .failed ∧ again.deed.Continues ∧
      ∃ transmission, again.deed.sent = [transmission] ∧
        transmission.bytes = Type2.readFrame 0 ∧ transmission.Whole := by
  have cleanly := (calls_fail_cleanly ({} : QueueLink) none .standard unsentRead).1
  have cut := List.take_append_drop 7 (history ({} : QueueLink) none .standard unsentRead)
  refine ⟨_, _, [_], _, cut.symm, rfl, ⟨rfl, rfl⟩, ?_⟩
  rcases cleanly.resumes _ _ [_] _ [] cut.symm ⟨.failed, rfl⟩ rfl ⟨_, rfl, rfl⟩
      (List.forall_mem_singleton.mpr fun continues => nomatch continues.1) ⟨rfl, rfl⟩ with
    ⟨record, member, gives⟩ | sent
  · rw [List.mem_singleton.mp member] at gives
    rcases gives with ⟨_, call⟩ | ⟨call, _⟩ <;> cases call
  · exact sent

end Session
end NfcHost

/-
A Type-2 tag on its own.

Dumps are started, READs asked for and replies handed in, in any order, while the host is
given tasks of its own and the link does what it likes.  `Trial.Does` lists all that one act
can come to.  From it follows what holds after any acts: where the cursor is, which READs
have been written since a dump was started last, and that a reply is awaited exactly while
one of them is unanswered.
-/

import NfcHost.Proofs.Coherence
import NfcHost.Proofs.Knowledge

namespace NfcHost

namespace Type2

theorem request_of_awaiting {σ : Type} [Link σ] (tag : Type2) (awaiting : tag.phase = .awaiting)
    (host : Host σ) : tag.request host = (.ok (), tag, host) := by
  rw [request, awaiting]

theorem takeReply_of_not_awaiting (tag : Type2) (other : tag.phase ≠ .awaiting) (reply : Bytes) :
    tag.takeReply reply = (none, tag, []) := by
  unfold takeReply
  cases progress : tag.phase with
  | awaiting => exact absurd progress other
  | idle => rfl
  | due => rfl

theorem Requests.served {tag after : Type2} {controller : Controller}
    {outcome : Except Setback Unit} {sent : List Transmission}
    (requests : tag.Requests controller outcome after sent) (due : tag.phase = .due)
    (inside : tag.cursor ≤ lastRead) (active : controller.phase = .pollActive) :
    ∃ transmission, sent = [transmission] ∧ transmission.bytes = readFrame tag.cursor ∧
      (outcome = .ok () ↔ transmission.Whole) := by
  cases requests with
  | sent _ _ posted =>
      obtain ⟨_, transmission, fits, whole, rfl⟩ := posted.of_ok
      exact ⟨transmission, rfl, (Except.ok.inj fits).symm, iff_of_true rfl whole⟩
  | unsent _ _ posted =>
      cases posted with
      | refused barred => exact absurd active barred
      | unfit _ failed => cases failed
      | @written transmission _ _ fits came =>
          refine ⟨transmission, rfl, (Except.ok.inj fits).symm, iff_of_false nofun ?_⟩
          rw [← Transmission.outcome_ok_iff, ← came]
          exact nofun
  | already awaiting => cases due.symm.trans awaiting
  | refused unready =>
      rcases unready with idle | beyond
      · cases due.symm.trans idle
      · exact absurd inside (UInt8.not_le.mpr beyond)

end Type2

/-! ### Acts -/

structure Reader (σ : Type) where
  tag : Type2
  host : Host σ

inductive Act where
  | start
  | request
  | reply (payload : Bytes)
  | task (task : Task)

def Act.IsReply : Act → Prop
  | reply _ => True
  | _ => False

/-- What is answered to an act.  A reply that was not awaited is answered `took none`. -/
inductive Answer where
  | nothing
  | done (outcome : Except Setback Unit)
  | took (outcome : Option (Except Setback Chunk))

structure Occasion (σ : Type) where
  meanwhile : σ → σ
  act : Act

structure Trial (σ : Type) where
  before : Reader σ
  act : Act

def Occasion.traced {σ : Type} (occasion : Occasion σ) : Occasion (Traced σ) where
  meanwhile traced := { traced with link := occasion.meanwhile traced.link }
  act := occasion.act

namespace Reader

variable {σ : Type}

def meanwhile (reader : Reader σ) (change : σ → σ) : Reader σ :=
  { reader with host := reader.host.meanwhile change }

variable [Link σ]

def perform (reader : Reader σ) (act : Act) : Answer × Reader σ :=
  match act with
  | .start =>
      let (outcome, tag) := reader.tag.startDump
      (.done outcome, { reader with tag := tag })
  | .request =>
      let (outcome, tag, host) := reader.tag.request reader.host
      (.done outcome, ⟨tag, host⟩)
  | .reply payload =>
      let (outcome, tag, lines) := reader.tag.takeReply payload
      (.took outcome, ⟨tag, reader.host.noteAll lines⟩)
  | .task task => (.nothing, { reader with host := reader.host.perform task })

def trials : Reader σ → List (Occasion σ) → List (Trial σ)
  | _, [] => []
  | reader, occasion :: rest =>
      ⟨reader.meanwhile occasion.meanwhile, occasion.act⟩ ::
        ((reader.meanwhile occasion.meanwhile).perform occasion.act).2.trials rest

end Reader

namespace Trial

variable {σ : Type} [Link σ]

def answer (trial : Trial σ) : Answer :=
  (trial.before.perform trial.act).1

def after (trial : Trial σ) : Reader σ :=
  (trial.before.perform trial.act).2

def starts (trial : Trial σ) : Bool :=
  match trial.act, trial.answer with
  | .start, .done (.ok ()) => true
  | _, _ => false

def sent (trial : Trial (Traced σ)) : List Transmission :=
  transmissions (trial.after.host.link.path.drop trial.before.host.link.path.length)

def reads (trial : Trial (Traced σ)) : List Bytes :=
  match trial.act with
  | .request => wholeFrames trial.sent
  | _ => []

theorem sent_of_path {trial : Trial (Traced σ)} {path : List Exchange}
    (taken : Path trial.before.host.link path trial.after.host.link) :
    trial.sent = transmissions path := by
  rw [sent, Traced.path_eq_append taken, List.drop_left]

theorem sent_of_same {trial : Trial (Traced σ)} (same : trial.after = trial.before) :
    trial.sent = [] := by
  rw [sent, same, List.drop_length]
  rfl

theorem reads_of_ne_request {trial : Trial (Traced σ)} (other : trial.act ≠ .request) :
    trial.reads = [] := by
  unfold reads
  split
  · rename_i requested
    exact absurd requested other
  · rfl

theorem reads_of_same {trial : Trial (Traced σ)} (same : trial.after = trial.before) :
    trial.reads = [] := by
  unfold reads
  rw [sent_of_same same]
  split <;> rfl

theorem starts_of_ne_start {trial : Trial σ} (other : trial.act ≠ .start) :
    trial.starts = false := by
  unfold starts
  split
  · rename_i started _
    exact absurd started other
  · rfl

theorem starts_of_answer {trial : Trial σ} (other : trial.answer ≠ .done (.ok ())) :
    trial.starts = false := by
  unfold starts
  split
  · rename_i answered
    exact absurd answered other
  · rfl

/-- All that an act can come to. -/
inductive Does (trial : Trial (Traced σ)) : Prop
  | started (act : trial.act = .start) (idle : trial.before.tag.phase = .idle)
      (answer : trial.answer = .done (.ok ()))
      (after : trial.after =
        { trial.before with tag := { trial.before.tag with cursor := 0, phase := .due } })
  | busy (act : trial.act = .start) (dumping : trial.before.tag.phase ≠ .idle)
      (answer : trial.answer = .done (.error .rejected)) (after : trial.after = trial.before)
  | asked (act : trial.act = .request) (due : trial.before.tag.phase = .due)
      (answer : trial.answer = .done (.ok ()))
      (after : trial.after.tag = { trial.before.tag with phase := .awaiting })
      (reads : trial.reads = [Type2.readFrame trial.before.tag.cursor])
  | waiting (act : trial.act = .request) (awaiting : trial.before.tag.phase = .awaiting)
      (answer : trial.answer = .done (.ok ())) (after : trial.after = trial.before)
  | failed {setback : Setback} (act : trial.act = .request)
      (unready : trial.before.tag.phase ≠ .awaiting)
      (answer : trial.answer = .done (.error setback))
      (after : trial.after.tag = trial.before.tag) (reads : trial.reads = [])
  | replied {payload : Bytes} {outcome : Except Setback Chunk} (act : trial.act = .reply payload)
      (awaiting : trial.before.tag.phase = .awaiting)
      (answer : trial.answer = .took (some outcome))
      (after : trial.before.tag.Replies payload outcome trial.after.tag)
  | ignored {payload : Bytes} (act : trial.act = .reply payload)
      (unready : trial.before.tag.phase ≠ .awaiting) (answer : trial.answer = .took none)
      (after : trial.after = trial.before)
  | other {task : Task} (act : trial.act = .task task) (answer : trial.answer = .nothing)
      (after : trial.after.tag = trial.before.tag)

private theorem does_of_start {reader : Reader (Traced σ)} :
    (Trial.mk reader .start).Does := by
  by_cases idle : reader.tag.phase = .idle
  · have made : reader.perform .start = (.done (.ok ()),
        { reader with tag := { reader.tag with cursor := 0, phase := .due } }) := by
      rw [Reader.perform, reader.tag.startDump_of_idle idle]
    exact .started rfl idle (congrArg Prod.fst made) (congrArg Prod.snd made)
  · have made : reader.perform .start = (.done (.error .rejected), reader) := by
      rw [Reader.perform, reader.tag.startDump_of_busy idle]
    exact .busy rfl idle (congrArg Prod.fst made) (congrArg Prod.snd made)

theorem requests_of_request {trial : Trial (Traced σ)} (act : trial.act = .request) :
    ∃ outcome, trial.answer = .done outcome ∧
      trial.before.tag.Requests trial.before.host.controller outcome trial.after.tag
        trial.sent := by
  obtain ⟨reader, _⟩ := trial
  cases act
  obtain ⟨path, taken, _, requested⟩ := reader.tag.request_requests reader.host
  rcases made : reader.tag.request reader.host with ⟨outcome, tag, host⟩
  rw [made] at taken requested
  have performed : reader.perform .request = (.done outcome, ⟨tag, host⟩) := by
    rw [Reader.perform, made]
  have after : (Trial.mk reader .request).after = ⟨tag, host⟩ := congrArg Prod.snd performed
  have reached : Path reader.host.link path (Trial.mk reader .request).after.host.link := by
    rw [after]
    exact taken
  rw [sent_of_path reached, after]
  exact ⟨outcome, congrArg Prod.fst performed, requested⟩

private theorem does_of_request {reader : Reader (Traced σ)} :
    (Trial.mk reader .request).Does := by
  by_cases awaiting : reader.tag.phase = .awaiting
  · have made : reader.perform .request = (.done (.ok ()), reader) := by
      rw [Reader.perform, reader.tag.request_of_awaiting awaiting]
    exact .waiting rfl awaiting (congrArg Prod.fst made) (congrArg Prod.snd made)
  · have reads : (Trial.mk reader .request).reads = wholeFrames (Trial.mk reader .request).sent :=
      rfl
    obtain ⟨outcome, answer, requested⟩ :=
      requests_of_request (show (Trial.mk reader .request).act = .request from rfl)
    generalize kept : (Trial.mk reader .request).after.tag = tag at requested
    generalize (Trial.mk reader .request).sent = sent at requested reads
    cases requested with
    | sent due inside posted =>
        obtain ⟨frame, fits, whole⟩ := posted.wholeFrames_of_ok
        cases fits
        exact .asked rfl due answer kept (reads.trans whole)
    | unsent due inside posted =>
        have none := posted.wholeFrames_of_error
        exact .failed rfl awaiting answer kept (reads.trans none)
    | already ready => exact absurd ready awaiting
    | refused idle => exact .failed rfl awaiting answer kept reads

private theorem does_of_reply {reader : Reader (Traced σ)} (payload : Bytes) :
    (Trial.mk reader (.reply payload)).Does := by
  by_cases awaiting : reader.tag.phase = .awaiting
  · have some := reader.tag.takeReply_isSome awaiting payload
    rcases taken : reader.tag.takeReply payload with ⟨outcome, tag, lines⟩
    rw [taken] at some
    obtain ⟨outcome, rfl⟩ := Option.isSome_iff_exists.mp some
    have made : reader.perform (.reply payload) =
        (.took (.some outcome), ⟨tag, reader.host.noteAll lines⟩) := by
      rw [Reader.perform, taken]
    have replies := (Type2.takeReply_replies taken).2
    have after : (Trial.mk reader (.reply payload)).after.tag = tag :=
      congrArg (fun made => made.2.tag) made
    exact .replied rfl awaiting (congrArg Prod.fst made) (after ▸ replies)
  · have made : reader.perform (.reply payload) = (.took none, reader) := by
      rw [Reader.perform, reader.tag.takeReply_of_not_awaiting awaiting]
      rfl
    exact .ignored rfl awaiting (congrArg Prod.fst made) (congrArg Prod.snd made)

theorem does (trial : Trial (Traced σ)) : trial.Does := by
  obtain ⟨reader, act⟩ := trial
  cases act with
  | start => exact does_of_start
  | request => exact does_of_request
  | reply payload => exact does_of_reply payload
  | task task => exact .other rfl rfl rfl

end Trial

/-! ### What a run shows -/

def readsSince {σ : Type} [Link σ] (trials : List (Trial (Traced σ))) : List Bytes :=
  trials.foldl (fun soFar trial => (if trial.starts then [] else soFar) ++ trial.reads) []

/-- A READ for the block has been fully written, and since then no reply was handed in. -/
def Unanswered {σ : Type} [Link σ] (past : List (Trial (Traced σ))) (block : UInt8) : Prop :=
  ∃ earlier trial later, past = earlier ++ trial :: later ∧
    trial.reads = [Type2.readFrame block] ∧ ∀ other ∈ later, ¬other.act.IsReply

section

variable {σ : Type} [Link σ] {past : List (Trial (Traced σ))} {trial : Trial (Traced σ)}
  {block : UInt8}

theorem readsSince_append : readsSince (past ++ [trial]) =
    (if trial.starts then [] else readsSince past) ++ trial.reads := by
  simp only [readsSince, List.foldl_append, List.foldl_cons, List.foldl_nil]

theorem unanswered_append_iff : Unanswered (past ++ [trial]) block ↔
    trial.reads = [Type2.readFrame block] ∨ ¬trial.act.IsReply ∧ Unanswered past block := by
  constructor
  · rintro ⟨earlier, read, later, split, wrote, quiet⟩
    rcases List.eq_nil_or_concat later with rfl | ⟨between, last, rfl⟩
    · obtain ⟨_, own⟩ := List.append_inj' split rfl
      rw [List.singleton_inj.mp own]
      exact .inl wrote
    · rw [List.concat_eq_append, ← List.cons_append, ← List.append_assoc] at split
      obtain ⟨rfl, same⟩ := List.append_inj' split rfl
      obtain rfl := List.singleton_inj.mp same
      simp only [List.concat_eq_append, List.forall_mem_append, List.forall_mem_singleton] at quiet
      exact .inr ⟨quiet.2, earlier, read, between, rfl, wrote, quiet.1⟩
  · rintro (wrote | ⟨other, earlier, read, later, rfl, wrote, quiet⟩)
    · exact ⟨past, trial, [], rfl, wrote, fun _ member => nomatch member⟩
    · refine ⟨earlier, read, later ++ [trial], by simp, wrote, ?_⟩
      simp only [List.forall_mem_append, List.forall_mem_singleton]
      exact ⟨quiet, other⟩

end

def readsBelow (block : UInt8) : List Bytes :=
  ([0, 4, 8, 12].filter fun other => other < block).map Type2.readFrame

def allReads : List Bytes :=
  [0, 4, 8, 12].map Type2.readFrame

section

variable {block : UInt8}

theorem readsBelow_next (aligned : Type2.Aligned block) (inside : block < Type2.lastRead) :
    readsBelow (block + Type2.blocksPerRead) = readsBelow block ++ [Type2.readFrame block] := by
  rcases aligned with rfl | rfl | rfl | rfl
  · rfl
  · rfl
  · rfl
  · exact absurd inside (by decide)

theorem readsBelow_prefix (aligned : Type2.Aligned block) :
    readsBelow block ++ [Type2.readFrame block] <+: allReads := by
  rcases aligned with rfl | rfl | rfl | rfl <;> decide

end

/-- How far a tag has come, as its past shows. -/
structure Follows {σ : Type} [Link σ] (past : List (Trial (Traced σ))) (tag : Type2) : Prop where
  aligned : Type2.Aligned tag.cursor
  ordered : readsSince past <+: allReads
  due : tag.phase = .due → readsSince past = readsBelow tag.cursor
  awaiting : tag.phase = .awaiting →
    readsSince past = readsBelow tag.cursor ++ [Type2.readFrame tag.cursor]
  unanswered (block : UInt8) :
    Unanswered past block ↔ tag.phase = .awaiting ∧ block = tag.cursor

namespace Follows

variable {σ : Type} [Link σ] {past : List (Trial (Traced σ))} {trial : Trial (Traced σ)}

theorem start (activation : Activation) :
    Follows ([] : List (Trial (Traced σ))) { activation := activation } where
  aligned := .inl rfl
  ordered := List.nil_prefix
  due := nofun
  awaiting := nofun
  unanswered block := by
    constructor
    · rintro ⟨_, _, _, split, _⟩
      simp at split
    · rintro ⟨awaiting, _⟩
      cases awaiting

theorem kept (follows : Follows past trial.before.tag) (continues : trial.starts = false)
    (unread : trial.reads = [])
    (settles : ¬trial.act.IsReply ∨ trial.before.tag.phase ≠ .awaiting)
    (same : trial.after.tag = trial.before.tag) : Follows (past ++ [trial]) trial.after.tag := by
  have since : readsSince (past ++ [trial]) = readsSince past := by
    rw [readsSince_append, continues, unread, List.append_nil]
    rfl
  rw [same]
  refine ⟨follows.aligned, since ▸ follows.ordered, since ▸ follows.due,
    since ▸ follows.awaiting, fun block => ?_⟩
  rw [unanswered_append_iff, unread, follows.unanswered block]
  rcases settles with quiet | unready
  · simp [quiet]
  · simp [unready]

theorem replied {payload : Bytes} {outcome : Except Setback Chunk}
    (follows : Follows past trial.before.tag) (act : trial.act = .reply payload)
    (awaiting : trial.before.tag.phase = .awaiting)
    (replies : trial.before.tag.Replies payload outcome trial.after.tag) :
    Follows (past ++ [trial]) trial.after.tag := by
  have continues : trial.starts = false := Trial.starts_of_ne_start (act ▸ nofun)
  have unread : trial.reads = [] := Trial.reads_of_ne_request (act ▸ nofun)
  have since : readsSince (past ++ [trial]) = readsSince past := by
    rw [readsSince_append, continues, unread, List.append_nil]
    rfl
  have answered {after : Type2} (unready : after.phase ≠ .awaiting) (block : UInt8) :
      Unanswered (past ++ [trial]) block ↔ after.phase = .awaiting ∧ block = after.cursor := by
    rw [unanswered_append_iff, unread, act]
    constructor
    · rintro (wrote | ⟨quiet, _⟩)
      · cases wrote
      · exact absurd trivial quiet
    · rintro ⟨awaiting, _⟩
      exact absurd awaiting unready
  have ordered : readsSince (past ++ [trial]) <+: allReads := since ▸ follows.ordered
  generalize trial.after.tag = after at replies
  cases replies with
  | bad unsound => exact ⟨follows.aligned, ordered, nofun, nofun, answered nofun⟩
  | last sound ended => exact ⟨follows.aligned, ordered, nofun, nofun, answered nofun⟩
  | more sound inside =>
      refine ⟨follows.aligned.next inside, ordered, fun _ => ?_, nofun, answered nofun⟩
      rw [since, follows.awaiting awaiting]
      exact (readsBelow_next follows.aligned inside).symm

theorem step (follows : Follows past trial.before.tag) :
    Follows (past ++ [trial]) trial.after.tag := by
  cases trial.does with
  | started act idle answer after =>
      have starts : trial.starts = true := by rw [Trial.starts, act, answer]
      have unread : trial.reads = [] := Trial.reads_of_ne_request (act ▸ nofun)
      have since : readsSince (past ++ [trial]) = [] := by
        rw [readsSince_append, starts, unread]
        rfl
      rw [after]
      refine ⟨.inl rfl, since ▸ List.nil_prefix, fun _ => since, nofun, fun block => ?_⟩
      rw [unanswered_append_iff, unread, follows.unanswered block, idle]
      simp
  | busy act dumping answer after =>
      exact follows.kept (Trial.starts_of_answer (answer ▸ nofun)) (Trial.reads_of_same after)
        (.inl (act ▸ id)) (congrArg Reader.tag after)
  | asked act due answer after reads =>
      have continues : trial.starts = false := Trial.starts_of_ne_start (act ▸ nofun)
      have since : readsSince (past ++ [trial]) =
          readsBelow trial.before.tag.cursor ++ [Type2.readFrame trial.before.tag.cursor] := by
        rw [readsSince_append, continues, reads, ← follows.due due]
        rfl
      rw [after]
      refine ⟨follows.aligned, since ▸ readsBelow_prefix follows.aligned, nofun, fun _ => since,
        fun block => ?_⟩
      rw [unanswered_append_iff, reads, follows.unanswered block, due]
      simp [Type2.readFrame, eq_comm]
  | waiting act awaiting answer after =>
      exact follows.kept (Trial.starts_of_ne_start (act ▸ nofun)) (Trial.reads_of_same after)
        (.inl (act ▸ id)) (congrArg Reader.tag after)
  | failed act unready answer after reads =>
      exact follows.kept (Trial.starts_of_ne_start (act ▸ nofun)) reads (.inl (act ▸ id)) after
  | replied act awaiting answer after => exact follows.replied act awaiting after
  | ignored act unready answer after =>
      exact follows.kept (Trial.starts_of_ne_start (act ▸ nofun)) (Trial.reads_of_same after)
        (.inr unready) (congrArg Reader.tag after)
  | other act answer after =>
      exact follows.kept (Trial.starts_of_ne_start (act ▸ nofun))
        (Trial.reads_of_ne_request (act ▸ nofun)) (.inl (act ▸ id)) after

end Follows

/-! ### Every act of every run -/

/-- What one act may do, given all that came before it. -/
structure Trial.Lawful {σ : Type} [Link σ] (past : List (Trial (Traced σ)))
    (trial : Trial (Traced σ)) : Prop where
  cursor : Type2.Aligned trial.before.tag.cursor ∧ Type2.Aligned trial.after.tag.cursor
  ordered : readsSince (past ++ [trial]) <+: allReads
  started : trial.act = .start →
    if trial.before.tag.isDumping then
      trial.answer = .done (.error .rejected) ∧ trial.after = trial.before
    else
      trial.answer = .done (.ok ()) ∧ trial.after =
        { trial.before with tag := { trial.before.tag with cursor := 0, phase := .due } }
  unawaited (payload : Bytes) : trial.act = .reply payload →
    (∀ block, ¬Unanswered past block) →
    trial.answer = .took none ∧ trial.after = trial.before
  sound (payload : Bytes) (block : UInt8) : trial.act = .reply payload →
    Unanswered past block → Type2.Sound payload →
    trial.answer = .took (some (.ok ⟨payload.take 16, block != 12⟩))
  unsound (payload : Bytes) (block : UInt8) : trial.act = .reply payload →
    Unanswered past block → ¬Type2.Sound payload →
    trial.answer = .took (some (.error .failed)) ∧ trial.after.tag.isDumping = false
  waiting (block : UInt8) : trial.act = .request → Unanswered past block →
    trial.answer = .done (.ok ()) ∧ trial.sent = [] ∧ trial.after = trial.before
  written : trial.act = .request → trial.answer = .done (.ok ()) →
    (∀ block, ¬Unanswered past block) →
    trial.reads = [Type2.readFrame trial.before.tag.cursor]
  /-- A READ that is due is handed to the link once the controller is active, and the request
  succeeds exactly if the link takes it whole. -/
  served : trial.act = .request → trial.before.tag.phase = .due →
    trial.before.host.controller.phase = .pollActive →
    ∃ transmission, trial.sent = [transmission] ∧
      transmission.bytes = Type2.readFrame trial.before.tag.cursor ∧
      (trial.answer = .done (.ok ()) ↔ transmission.Whole)
  failing (setback : Setback) : trial.act = .request →
    trial.answer = .done (.error setback) → trial.after.tag = trial.before.tag
  apart (task : Task) : trial.act = .task task → trial.after.tag = trial.before.tag

namespace Follows

variable {σ : Type} [Link σ] {past : List (Trial (Traced σ))} {trial : Trial (Traced σ)}

theorem awaits_of_unanswered {tag : Type2} {block : UInt8} (follows : Follows past tag)
    (unanswered : Unanswered past block) : tag.phase = .awaiting ∧ block = tag.cursor :=
  (follows.unanswered block).mp unanswered

theorem not_awaiting {tag : Type2} (follows : Follows past tag)
    (none : ∀ block, ¬Unanswered past block) : tag.phase ≠ .awaiting :=
  fun awaiting => none tag.cursor ((follows.unanswered tag.cursor).mpr ⟨awaiting, rfl⟩)

theorem last_iff {tag : Type2} (follows : Follows past tag) :
    tag.cursor < Type2.lastRead ↔ tag.cursor ≠ 12 := by
  rcases follows.aligned with zero | four | eight | twelve <;> simp_all <;> decide

theorem lawful (follows : Follows past trial.before.tag) : trial.Lawful past where
  cursor := ⟨follows.aligned, follows.step.aligned⟩
  ordered := follows.step.ordered
  started act := by
    cases trial.does with
    | started _ idle answer after =>
        have resting : trial.before.tag.isDumping = false := by rw [Type2.isDumping, idle]; rfl
        rw [resting]
        exact ⟨answer, after⟩
    | busy _ dumping answer after =>
        have dumps : trial.before.tag.isDumping = true := by
          rw [Type2.isDumping, bne_iff_ne]
          exact dumping
        rw [dumps]
        exact ⟨answer, after⟩
    | _ => simp_all
  unawaited payload act none := by
    have unready := follows.not_awaiting none
    cases trial.does with
    | ignored _ _ answer after => exact ⟨answer, after⟩
    | replied _ awaiting _ _ => exact absurd awaiting unready
    | _ => simp_all
  sound payload block act unanswered sound := by
    obtain ⟨awaiting, rfl⟩ := follows.awaits_of_unanswered unanswered
    have last := follows.last_iff
    cases trial.does with
    | replied other _ answer replies =>
        cases act.symm.trans other
        rw [answer]
        generalize trial.after.tag = after at replies
        cases replies with
        | bad unsound => exact absurd sound unsound
        | more _ inside =>
            have more : (trial.before.tag.cursor != 12) = true := bne_iff_ne.mpr (last.mp inside)
            rw [more]
        | last _ ended =>
            have done : (trial.before.tag.cursor != 12) = false :=
              Bool.eq_false_iff.mpr fun more => ended (last.mpr (bne_iff_ne.mp more))
            rw [done]
    | ignored _ unready _ _ => exact absurd awaiting unready
    | _ => simp_all
  unsound payload block act unanswered unsound := by
    obtain ⟨awaiting, rfl⟩ := follows.awaits_of_unanswered unanswered
    cases trial.does with
    | replied other _ answer replies =>
        cases act.symm.trans other
        rw [answer]
        generalize trial.after.tag = after at replies
        cases replies with
        | bad _ => exact ⟨rfl, rfl⟩
        | more sound _ => exact absurd sound unsound
        | last sound _ => exact absurd sound unsound
    | ignored _ unready _ _ => exact absurd awaiting unready
    | _ => simp_all
  waiting block act unanswered := by
    obtain ⟨awaiting, rfl⟩ := follows.awaits_of_unanswered unanswered
    cases trial.does with
    | waiting _ _ answer after => exact ⟨answer, Trial.sent_of_same after, after⟩
    | _ => simp_all
  written act answered none := by
    have unready := follows.not_awaiting none
    cases trial.does with
    | asked _ _ _ _ reads => exact reads
    | _ => simp_all
  served act due active := by
    obtain ⟨outcome, answer, requests⟩ := Trial.requests_of_request act
    obtain ⟨transmission, sent, bytes, taken⟩ :=
      requests.served due follows.aligned.le_lastRead active
    refine ⟨transmission, sent, bytes, ?_⟩
    rw [answer, Answer.done.injEq]
    exact taken
  failing setback act answered := by
    cases trial.does with
    | failed _ _ _ after _ => exact after
    | _ => simp_all
  apart task act := by
    cases trial.does with
    | other _ _ after => exact after
    | _ => simp_all

end Follows

namespace Reader

variable {σ : Type} [Link σ]

def Behaves (trials : List (Trial (Traced σ))) : Prop :=
  ∀ past trial future, trials = past ++ trial :: future → trial.Lawful past

theorem lawful_of_follows (occasions : List (Occasion (Traced σ))) {reader : Reader (Traced σ)}
    {before past future : List (Trial (Traced σ))} {trial : Trial (Traced σ)}
    (follows : Follows before reader.tag)
    (split : reader.trials occasions = past ++ trial :: future) :
    trial.Lawful (before ++ past) := by
  -- What came before grows with the run, so it has to vary.
  induction occasions generalizing reader before past with
  | nil => simp [trials] at split
  | cons occasion rest ih =>
      let first : Trial (Traced σ) := ⟨reader.meanwhile occasion.meanwhile, occasion.act⟩
      have start : Follows before first.before.tag := follows
      have parts : first :: first.after.trials rest = past ++ trial :: future := split
      cases past with
      | nil =>
          obtain ⟨rfl, _⟩ := List.cons.inj parts
          rw [List.append_nil]
          exact start.lawful
      | cons head past =>
          obtain ⟨rfl, rest⟩ := List.cons.inj parts
          have later := ih start.step rest
          rw [List.append_assoc] at later
          exact later

/-- Whatever is done with a new tag and with any host, and whatever the link does, each act
is lawful. -/
theorem trials_behave (activation : Activation) (controller : Controller) (link : σ)
    (journal : Journal) (occasions : List (Occasion σ)) :
    Behaves (trials ⟨{ activation := activation }, controller, ⟨link, []⟩, journal⟩
      (occasions.map Occasion.traced)) := by
  intro past trial future split
  exact lawful_of_follows _ (.start activation) split

end Reader
end NfcHost

/-
How a packet arrives.

The host waits for a packet and reads it in two parts, the header and as many bytes
as its last byte announces.  Each of the three requests may fail, and a read may come
up short.  `Arrival` lists what may come of them by what the link answered, and the
answers leave no choice.  The packets that pass a link, in either direction, are put
together from its answers alone, and a packet that arrives is written down as it passes.
-/

import NfcHost.Proofs.Exchange

namespace NfcHost

def Delivery.content (size : Nat) (delivery : Delivery) : Bytes :=
  overwrite (List.replicate size 0) delivery.placed

def announced (head : Bytes) : Nat :=
  (head.getD 2 0).toNat

/-- What comes of filling a buffer in one read. -/
inductive Filling (size : Nat) (missing : Fault) :
    Except Fault Delivery → Except Fault Bytes → Prop
  | lost (fault : Fault) : Filling size missing (.error fault) (.error fault)
  | nothing {delivery : Delivery} (none : delivery.count = 0) :
      Filling size missing (.ok delivery) (.error missing)
  | wrong {delivery : Delivery} (some : delivery.count ≠ 0) (other : delivery.count ≠ size) :
      Filling size missing (.ok delivery) (.error (.invalidLength size delivery.count))
  | full {delivery : Delivery} (some : delivery.count ≠ 0) (whole : delivery.count = size) :
      Filling size missing (.ok delivery) (.ok (delivery.content size))

theorem Filling.unique {size : Nat} {missing : Fault} {answer : Except Fault Delivery}
    {first second : Except Fault Bytes} (left : Filling size missing answer first)
    (right : Filling size missing answer second) : first = second := by
  cases left with
  | lost fault =>
      cases right
      rfl
  | nothing none =>
      cases right with
      | nothing _ => rfl
      | wrong some _ => exact absurd none some
      | full some _ => exact absurd none some
  | wrong some other =>
      cases right with
      | nothing none => exact absurd none some
      | wrong _ _ => rfl
      | full _ whole => exact absurd whole other
  | full some whole =>
      cases right with
      | nothing none => exact absurd none some
      | wrong _ other => exact absurd whole other
      | full _ _ => rfl

/-- What comes of waiting for a packet and reading it.  The header is looked at only
once the payload is there. -/
inductive Arrival : List Exchange → Except Fault (Header × Bytes) → Prop
  | unready (fault : Fault) : Arrival [.wait (.error fault)] (.error fault)
  | headless {answer : Except Fault Delivery} {fault : Fault}
      (head : Filling Header.size .noHeader answer (.error fault)) :
      Arrival [.wait (.ok ()), .read Header.size answer] (.error fault)
  | bare {answer : Except Fault Delivery} {bytes : Bytes}
      (head : Filling Header.size .noHeader answer (.ok bytes)) (empty : announced bytes = 0) :
      Arrival [.wait (.ok ()), .read Header.size answer]
        ((Header.decode bytes).map fun header => (header, []))
  | cut {answer rest : Except Fault Delivery} {bytes : Bytes} {size : Nat} {fault : Fault}
      (head : Filling Header.size .noHeader answer (.ok bytes)) (asked : announced bytes = size)
      (more : size ≠ 0) (body : Filling size .noPayload rest (.error fault)) :
      Arrival [.wait (.ok ()), .read Header.size answer, .read size rest] (.error fault)
  | whole {answer rest : Except Fault Delivery} {bytes payload : Bytes} {size : Nat}
      (head : Filling Header.size .noHeader answer (.ok bytes)) (asked : announced bytes = size)
      (more : size ≠ 0) (body : Filling size .noPayload rest (.ok payload)) :
      Arrival [.wait (.ok ()), .read Header.size answer, .read size rest]
        ((Header.decode bytes).map fun header => (header, payload))

theorem Arrival.unique {path : List Exchange} {first second : Except Fault (Header × Bytes)}
    (left : Arrival path first) (right : Arrival path second) : first = second := by
  cases left with
  | unready fault =>
      cases right
      rfl
  | headless head =>
      cases right with
      | headless other => exact congrArg Except.error (Except.error.inj (head.unique other))
      | bare other _ => cases head.unique other
  | bare head empty =>
      cases right with
      | headless other => cases head.unique other
      | bare other _ =>
          cases head.unique other
          rfl
  | cut head asked more body =>
      cases right with
      | cut _ _ _ other => exact congrArg Except.error (Except.error.inj (body.unique other))
      | whole _ _ _ other => cases body.unique other
  | whole head asked more body =>
      cases right with
      | cut _ _ _ other => cases body.unique other
      | whole other _ _ otherBody =>
          cases head.unique other
          cases body.unique otherBody
          rfl

theorem Arrival.silent {path : List Exchange} {outcome : Except Fault (Header × Bytes)}
    (arrival : Arrival path outcome) : transmissions path = [] := by
  cases arrival <;> rfl

/-! ### Packets on a path -/

/-- A packet that was handed to the link, or one that was read from it in full. -/
inductive Passage where
  | sent (bytes : Bytes)
  | received (bytes : Bytes)
deriving DecidableEq

def Passage.line : Passage → Line
  | sent bytes => .dump .trace "NCI_TX: " bytes
  | received bytes => .dump .trace "NCI_RX: " bytes

def Exchange.filled? (size : Nat) : Exchange → Option Bytes
  | .read asked (.ok delivery) =>
      if asked = size ∧ delivery.count = size then some (delivery.content size) else none
  | _ => none

/-- How far the reading of a packet has come. -/
inductive Assembly where
  | apart
  | ready
  | headed (head : Bytes)

namespace Assembly

/-- The next exchange on a path, and what has passed with it.  Whatever does not carry the
reading of a packet on ends it. -/
def next : Assembly → Exchange → Assembly × Option Passage
  | _, .write bytes _ => (.apart, some (.sent bytes))
  | _, .wait (.ok ()) => (.ready, none)
  | .apart, _ => (.apart, none)
  | .ready, exchange =>
      match exchange.filled? Header.size with
      | none => (.apart, none)
      | some head =>
          if announced head = 0 then (.apart, some (.received head)) else (.headed head, none)
  | .headed head, exchange =>
      match exchange.filled? (announced head) with
      | none => (.apart, none)
      | some payload => (.apart, some (.received (head ++ payload)))

def after : Assembly → List Exchange → Assembly
  | assembly, [] => assembly
  | assembly, exchange :: rest => (assembly.next exchange).1.after rest

def passages : Assembly → List Exchange → List Passage
  | _, [] => []
  | assembly, exchange :: rest =>
      (assembly.next exchange).2.toList ++ (assembly.next exchange).1.passages rest

theorem after_append (assembly : Assembly) (first second : List Exchange) :
    assembly.after (first ++ second) = (assembly.after first).after second := by
  induction first generalizing assembly with
  | nil => rfl
  | cons exchange rest ih => exact ih _

theorem passages_append (assembly : Assembly) (first second : List Exchange) :
    assembly.passages (first ++ second) =
      assembly.passages first ++ (assembly.after first).passages second := by
  induction first generalizing assembly with
  | nil => rfl
  | cons exchange rest ih =>
      rw [List.cons_append, passages, ih, ← List.append_assoc]
      rfl

end Assembly

def passages (path : List Exchange) : List Passage :=
  Assembly.apart.passages path

theorem Filling.filled?_of_ok {size : Nat} {missing : Fault} {answer : Except Fault Delivery}
    {bytes : Bytes} (filling : Filling size missing answer (.ok bytes)) :
    (Exchange.read size answer).filled? size = some bytes := by
  cases filling with
  | full some whole => exact if_pos ⟨rfl, whole⟩

theorem Filling.filled?_of_error {size : Nat} {missing fault : Fault}
    {answer : Except Fault Delivery} (filling : Filling size missing answer (.error fault))
    (wanted : size ≠ 0) : (Exchange.read size answer).filled? size = none := by
  cases filling with
  | lost fault => rfl
  | nothing none => exact if_neg fun both => wanted (both.2.symm.trans none)
  | wrong some other => exact if_neg fun both => other both.2

section

variable {answer rest : Except Fault Delivery} {bytes payload : Bytes} {size : Nat} {fault : Fault}

theorem passages_headless (head : Filling Header.size .noHeader answer (.error fault)) :
    passages [.wait (.ok ()), .read Header.size answer] = [] := by
  simp only [passages, Assembly.passages, Assembly.next, head.filled?_of_error (by decide),
    Option.toList_none, List.append_nil]

theorem passages_bare (head : Filling Header.size .noHeader answer (.ok bytes))
    (empty : announced bytes = 0) :
    passages [.wait (.ok ()), .read Header.size answer] = [.received bytes] := by
  simp only [passages, Assembly.passages, Assembly.next, head.filled?_of_ok, empty, if_true,
    Option.toList_none, Option.toList_some, List.nil_append, List.append_nil]

theorem passages_cut (head : Filling Header.size .noHeader answer (.ok bytes))
    (asked : announced bytes = size) (more : size ≠ 0)
    (body : Filling size .noPayload rest (.error fault)) :
    passages [.wait (.ok ()), .read Header.size answer, .read size rest] = [] := by
  subst asked
  simp only [passages, Assembly.passages, Assembly.next, head.filled?_of_ok, more, if_false,
    body.filled?_of_error more, Option.toList_none, List.append_nil]

theorem passages_whole (head : Filling Header.size .noHeader answer (.ok bytes))
    (asked : announced bytes = size) (more : size ≠ 0)
    (body : Filling size .noPayload rest (.ok payload)) :
    passages [.wait (.ok ()), .read Header.size answer, .read size rest] =
      [.received (bytes ++ payload)] := by
  subst asked
  simp only [passages, Assembly.passages, Assembly.next, head.filled?_of_ok, more, if_false,
    body.filled?_of_ok, Option.toList_none, Option.toList_some, List.nil_append, List.append_nil]

end

theorem Arrival.after_apart {path : List Exchange} {outcome : Except Fault (Header × Bytes)}
    (arrival : Arrival path outcome) : Assembly.apart.after path = .apart := by
  cases arrival with
  | unready fault => rfl
  | headless head => simp only [Assembly.after, Assembly.next, head.filled?_of_error (by decide)]
  | bare head empty => simp only [Assembly.after, Assembly.next, head.filled?_of_ok, empty, if_true]
  | cut head asked more body =>
      subst asked
      simp only [Assembly.after, Assembly.next, head.filled?_of_ok, more, if_false,
        body.filled?_of_error more]
  | whole head asked more body =>
      subst asked
      simp only [Assembly.after, Assembly.next, head.filled?_of_ok, more, if_false,
        body.filled?_of_ok]

namespace Channel

variable {σ : Type} [Link σ]

theorem readExactly_filling (size : Nat) (missing : Fault) (channel : Channel σ) :
    ∃ answer, Path channel.link [.read size answer] (channel.readExactly size missing).2.link ∧
      Filling size missing answer (channel.readExactly size missing).1 := by
  have between : (Exchange.read size (channel.read size).1).Between channel.link
      (channel.read size).2.link := rfl
  refine ⟨(channel.read size).1, ?_⟩
  unfold readExactly
  rcases answered : channel.read size with ⟨answer, after⟩
  rw [answered] at between
  cases answer with
  | error fault => exact ⟨.single between, .lost fault⟩
  | ok delivery =>
      dsimp only
      by_cases none : delivery.count = 0
      · rw [if_pos none]
        exact ⟨.single between, .nothing none⟩
      · rw [if_neg none]
        by_cases whole : delivery.count = size
        · rw [if_pos whole]
          exact ⟨.single between, .full none whole⟩
        · rw [if_neg whole]
          exact ⟨.single between, .wrong none whole⟩

theorem journal_readExactly (size : Nat) (missing : Fault) (channel : Channel σ) :
    (channel.readExactly size missing).2.journal = channel.journal := by
  have same : (channel.read size).2.journal = channel.journal := rfl
  unfold readExactly
  rcases answered : channel.read size with ⟨answer, after⟩
  rw [answered] at same
  cases answer with
  | error fault => exact same
  | ok delivery =>
      dsimp only
      split
      · exact same
      · split
        · exact same
        · exact same

theorem journal_send (bytes : Bytes) (channel : Channel σ) :
    (channel.send bytes).2.journal = channel.journal.note (.dump .trace "NCI_TX: " bytes) := by
  have same : ((channel.note (.dump .trace "NCI_TX: " bytes)).write bytes).2.journal =
      channel.journal.note (.dump .trace "NCI_TX: " bytes) := rfl
  unfold send
  split
  · rename_i fault after answered
    rw [answered] at same
    exact same
  · rename_i count after answered
    rw [answered] at same
    split
    · exact same
    · exact same

/-- Whatever the link does, what is received is what arrives, and the journal shows what has
passed. -/
theorem receive_shown (channel : Channel σ) :
    ∃ path, Path channel.link path channel.receive.2.link ∧ Arrival path channel.receive.1 ∧
      channel.receive.2.journal = channel.journal.noteAll ((passages path).map Passage.line) := by
  have waiting : (Exchange.wait channel.wait.1).Between channel.link channel.wait.2.link := rfl
  have quiet : channel.wait.2.journal = channel.journal := rfl
  have unshown {path : List Exchange} {journal : Journal} (none : passages path = [])
      (same : journal = channel.journal) :
      journal = channel.journal.noteAll ((passages path).map Passage.line) := by
    rw [none, same]
    rfl
  have shown {path : List Exchange} {journal : Journal} {bytes : Bytes}
      (one : passages path = [.received bytes]) (same : journal = channel.journal) :
      journal.note (.dump .trace "NCI_RX: " bytes) =
        channel.journal.noteAll ((passages path).map Passage.line) := by
    rw [one, same]
    rfl
  unfold receive
  rcases waited : channel.wait with ⟨answer, ready⟩
  rw [waited] at waiting quiet
  cases answer with
  | error fault => exact ⟨_, .single waiting, .unready fault, unshown rfl quiet⟩
  | ok value =>
      obtain ⟨first, reading, head⟩ := ready.readExactly_filling Header.size .noHeader
      have kept := ready.journal_readExactly Header.size .noHeader
      dsimp only
      rcases headed : ready.readExactly Header.size .noHeader with ⟨outcome, middle⟩
      rw [headed] at reading head kept
      replace kept : middle.journal = channel.journal := kept.trans quiet
      -- Every other outcome begins with the wait and the read of a header.
      have soFar := (Path.single waiting).append reading
      cases outcome with
      | error fault =>
          exact ⟨_, soFar, .headless head, unshown (passages_headless head) kept⟩
      | ok bytes =>
          dsimp only
          rcases filled : middle.readPayload (bytes.getD 2 0).toNat with ⟨outcome, last⟩
          by_cases empty : (bytes.getD 2 0).toNat = 0
          · rw [readPayload, if_pos empty] at filled
            cases filled
            have arrival := Arrival.bare head empty
            have told := shown (passages_bare head empty) kept
            rw [← List.append_nil bytes] at told
            dsimp only
            rw [noteReceived_eq]
            generalize Header.decode bytes = decoded at arrival ⊢
            cases decoded with
            | error fault => exact ⟨_, soFar, arrival, told⟩
            | ok header => exact ⟨_, soFar, arrival, told⟩
          · obtain ⟨second, more, body⟩ :=
              middle.readExactly_filling (bytes.getD 2 0).toNat .noPayload
            have same := middle.journal_readExactly (bytes.getD 2 0).toNat .noPayload
            rw [readPayload, if_neg empty] at filled
            rw [filled] at more body same
            replace same : last.journal = channel.journal := same.trans kept
            have whole := soFar.append more
            cases outcome with
            | error fault =>
                exact ⟨_, whole, .cut head rfl empty body,
                  unshown (passages_cut head rfl empty body) same⟩
            | ok payload =>
                have arrival := Arrival.whole head rfl empty body
                have told := shown (passages_whole head rfl empty body) same
                dsimp only
                rw [noteReceived_eq]
                generalize Header.decode bytes = decoded at arrival ⊢
                cases decoded with
                | error fault => exact ⟨_, whole, arrival, told⟩
                | ok header => exact ⟨_, whole, arrival, told⟩

theorem receive_arrival (channel : Channel σ) :
    ∃ path, Path channel.link path channel.receive.2.link ∧ Arrival path channel.receive.1 := by
  obtain ⟨path, taken, arrival, _⟩ := channel.receive_shown
  exact ⟨path, taken, arrival⟩

theorem receive_silent (channel : Channel σ) :
    SilentPath channel.link channel.receive.2.link := by
  obtain ⟨path, taken, arrival⟩ := channel.receive_arrival
  exact ⟨path, taken, arrival.silent⟩

end Channel
end NfcHost

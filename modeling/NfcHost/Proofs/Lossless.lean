/-
Values that come back from their documents as they were.

Writing and reading are defined apart from each other, with the names of fields and
alternatives written out twice, so that they fit together is shown for each form: its
reader accepts exactly the documents that mean what is written of a value.  As a written
document means what it says, the value comes back, and whatever else was accepted as it is
left behind once the value is written again.
-/

import NfcHost.Document.Values
import NfcHost.Proofs.Meaning

namespace NfcHost

open Document

/-! ### Choices -/

section Codes

variable {α : Type} [Documented α] {plain : String → Option α} {other : UInt8 → α}

/-- Codes of which some have a name, and each of the other ones is carried as a number. -/
theorem codes_eq_some_iff
    (named : ∀ name value, plain name = some value ↔ toDocument value = .text name)
    (known : ∀ value, (∃ name, toDocument value = .text name) ∨ ∃ code, value = other code)
    (carries : ∀ code, toDocument (other code) = carrying "Other" (toDocument code))
    (injective : Function.Injective other) (unnamed : plain "Other" = none)
    {document : Document} {value : α} :
    choice? plain
      (fun
        | "Other", content => (ofDocument? content).map other
        | _, _ => none) document = some value ↔
      document.Means (toDocument value) := by
  obtain ⟨name, written⟩ | ⟨code, rfl⟩ := known value
  · rw [written]
    refine choice?_text_iff (fun name => ?_) fun name content read => ?_
    · rw [named, written, text.injEq, eq_comm]
    · split at read
      · obtain ⟨code, _, rfl⟩ := Option.map_eq_some_iff.mp read
        cases (carries code).symm.trans written
      · cases read
  · rw [carries]
    refine choice?_carrying_iff (fun name read => ?_) fun name content => ?_
    · cases (carries code).symm.trans ((named name _).mp read)
    · split
      · simp only [unnamed, Option.map_eq_some_iff, injective.eq_iff, exists_eq_right,
          ofDocument?_eq_some_iff, true_and]
      · rename_i different
        constructor
        · rintro ⟨_, ⟨⟩⟩
        · exact fun means => absurd means.1 different

end Codes

theorem plainChoice?_eq_some_iff {α : Type} [Documented α] {plain : String → Option α}
    (named : ∀ name value, plain name = some value ↔ toDocument value = .text name)
    (known : ∀ value : α, ∃ name, toDocument value = .text name)
    {document : Document} {value : α} :
    plainChoice? plain document = some value ↔ document.Means (toDocument value) := by
  obtain ⟨name, written⟩ := known value
  rw [written]
  refine choice?_text_iff (fun name => ?_) fun _ _ read => nomatch read
  rw [named, written, text.injEq, eq_comm]

instance : Legible Status where
  toDocument_ne_null status := by cases status <;> exact Document.noConfusion
  ofDocument?_eq_some_iff document status := by
    refine codes_eq_some_iff (fun name status => ?_) (fun status => ?_) (fun _ => rfl)
      (fun _ _ => Status.other.inj) rfl
    · constructor
      · intro read
        unfold Status.ofAlternative? at read
        split at read <;> cases read <;> rfl
      · intro written
        cases status <;> cases written <;> rfl
    · cases status with
      | other code => exact .inr ⟨code, rfl⟩
      | _ => exact .inl ⟨_, rfl⟩

instance : Legible ConfigStatus where
  toDocument_ne_null status := by cases status <;> exact Document.noConfusion
  ofDocument?_eq_some_iff document status := by
    refine codes_eq_some_iff (fun name status => ?_) (fun status => ?_) (fun _ => rfl)
      (fun _ _ => ConfigStatus.other.inj) rfl
    · constructor
      · intro read
        split at read <;> cases read <;> rfl
      · intro written
        cases status <;> cases written <;> rfl
    · cases status with
      | other code => exact .inr ⟨code, rfl⟩
      | _ => exact .inl ⟨_, rfl⟩

instance : Legible DeactivationReason where
  toDocument_ne_null reason := by cases reason <;> exact Document.noConfusion
  ofDocument?_eq_some_iff document reason := by
    refine codes_eq_some_iff (fun name reason => ?_) (fun reason => ?_) (fun _ => rfl)
      (fun _ _ => DeactivationReason.other.inj) rfl
    · constructor
      · intro read
        split at read <;> cases read <;> rfl
      · intro written
        cases reason <;> cases written <;> rfl
    · cases reason with
      | other code => exact .inr ⟨code, rfl⟩
      | _ => exact .inl ⟨_, rfl⟩

instance : Legible ResetKind where
  toDocument_ne_null kind := by cases kind <;> exact Document.noConfusion
  ofDocument?_eq_some_iff document kind := by
    refine plainChoice?_eq_some_iff (fun name kind => ?_) (fun kind => ?_)
    · constructor
      · intro read
        split at read <;> cases read <;> rfl
      · intro written
        cases kind <;> cases written <;> rfl
    · cases kind <;> exact ⟨_, rfl⟩

instance : Legible DeactivationType where
  toDocument_ne_null type := by cases type <;> exact Document.noConfusion
  ofDocument?_eq_some_iff document type := by
    refine plainChoice?_eq_some_iff (fun name type => ?_) (fun type => ?_)
    · constructor
      · intro read
        split at read <;> cases read <;> rfl
      · intro written
        cases type <;> cases written <;> rfl
    · cases type <;> exact ⟨_, rfl⟩

instance : Legible InterfaceMode where
  toDocument_ne_null mode := by cases mode <;> exact Document.noConfusion
  ofDocument?_eq_some_iff document mode := by
    refine plainChoice?_eq_some_iff (fun name mode => ?_) (fun mode => ?_)
    · constructor
      · intro read
        split at read <;> cases read <;> rfl
      · intro written
        cases mode <;> cases written <;> rfl
    · cases mode <;> exact ⟨_, rfl⟩

/-! ### Discovery -/

theorem wrapped_eq_some_iff {α β : Type} [Documented α] [Legible α] {wrap : α → β}
    {unwrap : β → α} (unwrap_wrap : ∀ content, unwrap (wrap content) = content)
    (wrap_unwrap : ∀ value, wrap (unwrap value) = value) {document : Document} {value : β} :
    (ofDocument? document).map wrap = some value ↔
      document.Means (toDocument (unwrap value)) := by
  rw [Option.map_eq_some_iff, ← ofDocument?_eq_some_iff]
  constructor
  · rintro ⟨content, read, rfl⟩
    rw [unwrap_wrap, read]
  · intro read
    exact ⟨unwrap value, read, wrap_unwrap value⟩

instance : Legible RfProtocol where
  toDocument_ne_null _ := Document.noConfusion
  ofDocument?_eq_some_iff _ _ := wrapped_eq_some_iff (fun _ => rfl) (fun _ => rfl)

instance : Legible RfInterface where
  toDocument_ne_null _ := Document.noConfusion
  ofDocument?_eq_some_iff _ _ := wrapped_eq_some_iff (fun _ => rfl) (fun _ => rfl)

instance : Legible RfTechnology where
  toDocument_ne_null _ := Document.noConfusion
  ofDocument?_eq_some_iff _ _ := wrapped_eq_some_iff (fun _ => rfl) (fun _ => rfl)

instance : Legible MapEntry where
  toDocument_ne_null _ := Document.noConfusion
  ofDocument?_eq_some_iff _ _ :=
    triple_eq_some_iff (by simp) required?_eq_some_iff MapEntry.mk.inj

instance : Legible DiscoveryEntry where
  toDocument_ne_null _ := Document.noConfusion
  ofDocument?_eq_some_iff _ _ := pair_eq_some_iff (by simp) DiscoveryEntry.mk.inj

instance : Legible DiscoveryPlan where
  toDocument_ne_null _ := Document.noConfusion
  ofDocument?_eq_some_iff _ _ := pair_eq_some_iff (by simp) DiscoveryPlan.mk.inj

/-! ### Endpoints -/

instance : Legible Nfcid where
  toDocument_ne_null _ := Document.noConfusion
  ofDocument?_eq_some_iff _ _ := pair_eq_some_iff (by simp) Nfcid.mk.inj

instance : Legible PollAParameters where
  toDocument_ne_null _ := Document.noConfusion
  ofDocument?_eq_some_iff _ _ :=
    triple_eq_some_iff (by simp) optional?_eq_some_iff PollAParameters.mk.inj

instance : Legible TechnologyParameters where
  toDocument_ne_null parameters := by cases parameters <;> exact Document.noConfusion
  ofDocument?_eq_some_iff document parameters := by
    cases parameters with
    | pollA parameters =>
        refine choice?_carrying_iff (fun name read => nomatch read) fun name content => ?_
        split
        · simp only [Option.map_eq_some_iff, TechnologyParameters.pollA.injEq, exists_eq_right,
            ofDocument?_eq_some_iff, true_and]
        · simp
        · rename_i different _
          exact iff_of_false (fun read => nomatch read.2) fun means => different means.1
    | raw bytes =>
        refine choice?_carrying_iff (fun name read => nomatch read) fun name content => ?_
        split
        · simp
        · simp only [Option.map_eq_some_iff, TechnologyParameters.raw.injEq, exists_eq_right,
            ofDocument?_eq_some_iff, true_and]
        · rename_i different
          exact iff_of_false (fun read => nomatch read.2) fun means => different means.1

/-- The readers of the fields are inverted one after the other, from the first one on. -/
instance : Legible Activation where
  toDocument_ne_null _ := Document.noConfusion
  ofDocument?_eq_some_iff document activation := by
    refine Iff.trans ?_ (means_object_iff (by simp) (by simp)).symm
    simp only [ofDocument?, List.map]
    split
    · rename_i found
      simp only [found, Option.some.injEq, exists_eq_left', List.forall₂_cons,
        List.Forall₂.nil, and_true, Option.bind_eq_bind, Option.bind_eq_some_iff,
        required?_eq_some_iff, Option.pure_def]
      constructor
      · rintro ⟨_, discovery, _, interface, _, protocol, _, technology, _, limit, _, credits,
          _, parameters, _, exchange, _, transmit, _, receive, _, activation, rfl⟩
        exact ⟨discovery, interface, protocol, technology, limit, credits, parameters,
          exchange, transmit, receive, activation⟩
      · rintro ⟨discovery, interface, protocol, technology, limit, credits, parameters,
          exchange, transmit, receive, activation⟩
        exact ⟨_, discovery, _, interface, _, protocol, _, technology, _, limit, _, credits,
          _, parameters, _, exchange, _, transmit, _, receive, _, activation, rfl⟩
    · rename_i short
      constructor
      · exact fun read => nomatch read
      -- As much is found as there are fields, which is the case split off before.
      · rintro ⟨_, found, _ | ⟨_, _ | ⟨_, _ | ⟨_, _ | ⟨_, _ | ⟨_, _ | ⟨_, _ | ⟨_, _ | ⟨_,
          _ | ⟨_, _ | ⟨_, _ | ⟨_, _ | _⟩⟩⟩⟩⟩⟩⟩⟩⟩⟩⟩⟩
        exact (short _ _ _ _ _ _ _ _ _ _ _ found).elim

/-! ### Reports -/

instance : Legible Deactivation where
  toDocument_ne_null _ := Document.noConfusion
  ofDocument?_eq_some_iff _ _ := pair_eq_some_iff (by simp) Deactivation.mk.inj

instance : Legible ResetReport where
  toDocument_ne_null _ := Document.noConfusion
  ofDocument?_eq_some_iff _ _ := pair_eq_some_iff (by simp) ResetReport.mk.inj

instance : Legible Capabilities where
  toDocument_ne_null _ := Document.noConfusion
  ofDocument?_eq_some_iff document capabilities := by
    refine Iff.trans ?_ (means_object_iff (by simp) (by simp)).symm
    simp only [ofDocument?, List.map]
    split
    · rename_i found
      simp only [found, Option.some.injEq, exists_eq_left', List.forall₂_cons,
        List.Forall₂.nil, and_true, Option.bind_eq_bind, Option.bind_eq_some_iff,
        required?_eq_some_iff, Option.pure_def]
      constructor
      · rintro ⟨_, features, _, interfaces, _, connections, _, routing, _, control, _, large,
          _, manufacturer, _, information, rfl⟩
        exact ⟨features, interfaces, connections, routing, control, large, manufacturer,
          information⟩
      · rintro ⟨features, interfaces, connections, routing, control, large, manufacturer,
          information⟩
        exact ⟨_, features, _, interfaces, _, connections, _, routing, _, control, _, large,
          _, manufacturer, _, information, rfl⟩
    · rename_i short
      constructor
      · exact fun read => nomatch read
      -- As much is found as there are fields, which is the case split off before.
      · rintro ⟨_, found, _ | ⟨_, _ | ⟨_, _ | ⟨_, _ | ⟨_, _ | ⟨_, _ | ⟨_, _ | ⟨_, _ | ⟨_,
          _ | _⟩⟩⟩⟩⟩⟩⟩⟩⟩
        exact (short _ _ _ _ _ _ _ _ found).elim

/-! ### All of them -/

inductive Subject where
  | status
  | resetKind
  | configStatus
  | deactivationType
  | deactivationReason
  | protocol
  | interface
  | technology
  | interfaceMode
  | mapEntry
  | discoveryEntry
  | discoveryPlan
  | nfcid
  | pollAParameters
  | technologyParameters
  | activation
  | deactivation
  | resetReport
  | capabilities

namespace Subject

abbrev Value : Subject → Type
  | status => Status
  | resetKind => ResetKind
  | configStatus => ConfigStatus
  | deactivationType => DeactivationType
  | deactivationReason => DeactivationReason
  | protocol => RfProtocol
  | interface => RfInterface
  | technology => RfTechnology
  | interfaceMode => InterfaceMode
  | mapEntry => MapEntry
  | discoveryEntry => DiscoveryEntry
  | discoveryPlan => DiscoveryPlan
  | nfcid => Nfcid
  | pollAParameters => PollAParameters
  | technologyParameters => TechnologyParameters
  | activation => Activation
  | deactivation => Deactivation
  | resetReport => ResetReport
  | capabilities => Capabilities

instance (subject : Subject) : Documented subject.Value :=
  match subject with
  | status => inferInstanceAs (Documented Status)
  | resetKind => inferInstanceAs (Documented ResetKind)
  | configStatus => inferInstanceAs (Documented ConfigStatus)
  | deactivationType => inferInstanceAs (Documented DeactivationType)
  | deactivationReason => inferInstanceAs (Documented DeactivationReason)
  | protocol => inferInstanceAs (Documented RfProtocol)
  | interface => inferInstanceAs (Documented RfInterface)
  | technology => inferInstanceAs (Documented RfTechnology)
  | interfaceMode => inferInstanceAs (Documented InterfaceMode)
  | mapEntry => inferInstanceAs (Documented MapEntry)
  | discoveryEntry => inferInstanceAs (Documented DiscoveryEntry)
  | discoveryPlan => inferInstanceAs (Documented DiscoveryPlan)
  | nfcid => inferInstanceAs (Documented Nfcid)
  | pollAParameters => inferInstanceAs (Documented PollAParameters)
  | technologyParameters => inferInstanceAs (Documented TechnologyParameters)
  | activation => inferInstanceAs (Documented Activation)
  | deactivation => inferInstanceAs (Documented Deactivation)
  | resetReport => inferInstanceAs (Documented ResetReport)
  | capabilities => inferInstanceAs (Documented Capabilities)

instance (subject : Subject) : Legible subject.Value := by
  cases subject <;> infer_instance

def rewritten? (subject : Subject) (document : Document) : Option Document :=
  (ofDocument? document : Option subject.Value).map toDocument

theorem rewritten?_toDocument {subject : Subject} (value : subject.Value) :
    subject.rewritten? (toDocument value) = some (toDocument value) := by
  rw [rewritten?, ofDocument?_toDocument, Option.map_some]

/-- What can be relied on when values of a kind are kept as documents. -/
structure Faithful (subject : Subject) : Prop where
  restored (value : subject.Value) : ofDocument? (toDocument value) = some value
  told (value other : subject.Value) : toDocument value = toDocument other ↔ value = other
  /-- A document is accepted as a value exactly if it means what is written of the value:
  apart from its own document these are the ones with entries that are no fields, without
  fields that are `null`, with `null` behind a name, or with fields in order. -/
  accepted (document : Document) (value : subject.Value) :
    ofDocument? document = some value ↔ document.Means (toDocument value)
  /-- A document that is accepted can be replaced by what is written of its value, which is read
  as the same value and not replaced by anything else. -/
  reread (document : Document) :
    (subject.rewritten? document).bind ofDocument? =
      (ofDocument? document : Option subject.Value)
  settled (document : Document) :
    (subject.rewritten? document).bind subject.rewritten? = subject.rewritten? document

theorem faithful (subject : Subject) : subject.Faithful where
  restored := ofDocument?_toDocument
  told value other := by
    constructor
    · intro same
      have back : some value = some other := by
        rw [← ofDocument?_toDocument value, same, ofDocument?_toDocument]
      exact Option.some.inj back
    · exact congrArg toDocument
  accepted := ofDocument?_eq_some_iff
  reread document := by
    cases read : (ofDocument? document : Option subject.Value) with
    | none => rw [rewritten?, read, Option.map_none, Option.bind_none]
    | some value =>
        rw [rewritten?, read, Option.map_some, Option.bind_some, ofDocument?_toDocument]
  settled document := by
    cases read : (ofDocument? document : Option subject.Value) with
    | none => rw [rewritten?, read, Option.map_none, Option.bind_none]
    | some value =>
        have once : subject.rewritten? document = some (toDocument value) := by
          rw [rewritten?, read, Option.map_some]
        rw [once, Option.bind_some, rewritten?_toDocument]

/-- An entry that is no field is ignored, and a select response that is missing is absent. -/
example :
    (ofDocument? (.object
      [ ("color", .text "blue"),
        ("nfcid", .object [("len", .number 0), ("bytes", .list (.replicate 10 (.number 0)))]),
        ("sens_res", .list [.number 0x44, .number 0]) ])) =
      some (⟨.padded 2 [0x44, 0], ⟨.padded 10 [], 0⟩, none⟩ : PollAParameters) := by
  rfl

example : ofDocument? (.object [("Kept", .null)]) = some ConfigStatus.kept := by
  rfl

/-- A field that is there twice is refused, even if it says the same. -/
example :
    (ofDocument? (.object
      [ ("technology", .number 1),
        ("frequency", .number 1),
        ("technology", .number 1) ]) : Option DiscoveryEntry) = none := by
  rfl

end Subject
end NfcHost

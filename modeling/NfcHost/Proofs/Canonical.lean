/-
Identifiers: where they can come from, and what each of these ways makes sure of.

Bytes are counted before they become an identifier, and so are those of an announcement.
A document's numbers are taken as they stand, whatever length they give and whatever they
put behind it.  As long as an identifier is canonical, its bytes are all in its block and
say everything about it; the other ones can be cut short or told apart by what they hide.
-/

import NfcHost.Proofs.Announcement
import NfcHost.Proofs.Endpoint
import NfcHost.Proofs.Lossless

namespace NfcHost

/-! ### Canonical identifiers -/

namespace Nfcid

/-- At most ten bytes, and nothing but zeros behind them. -/
structure Canonical (nfcid : Nfcid) : Prop where
  fits : nfcid.length.toNat ≤ maxLength
  zeros : ∀ byte ∈ nfcid.block.bytes.drop nfcid.length.toNat, byte = 0

namespace Canonical

variable {nfcid other : Nfcid} {bytes : Bytes} {length : UInt8}

theorem length_toBytes (canonical : nfcid.Canonical) :
    nfcid.length.toNat = nfcid.toBytes.length := by
  rw [toBytes, List.length_take, nfcid.block.bytes_length, Nat.min_eq_left canonical.fits]

theorem of_padded (fits : bytes.length ≤ maxLength) (size : length.toNat = bytes.length) :
    (Nfcid.mk (.padded 10 bytes) length).Canonical where
  fits := size ▸ fits
  zeros byte behind := by
    change byte ∈ ((bytes ++ List.replicate 10 0).take 10).drop length.toNat at behind
    rw [List.drop_take, size, List.drop_left] at behind
    exact List.eq_of_mem_replicate (List.mem_of_mem_take behind)

theorem block_eq (canonical : nfcid.Canonical) : nfcid.block = .padded 10 nfcid.toBytes := by
  have size : nfcid.toBytes.length = nfcid.length.toNat := canonical.length_toBytes.symm
  have behind : nfcid.block.bytes.drop nfcid.length.toNat =
      List.replicate (10 - nfcid.length.toNat) 0 :=
    List.eq_replicate_iff.mpr
      ⟨by rw [List.length_drop, nfcid.block.bytes_length], canonical.zeros⟩
  have whole : (nfcid.toBytes ++ List.replicate 10 0).take 10 = nfcid.block.bytes := by
    rw [List.take_append, List.take_of_length_le (size ▸ canonical.fits), size,
      List.take_replicate, Nat.min_eq_left (Nat.sub_le ..), ← behind]
    exact List.take_append_drop ..
  exact Block.mk.injEq .. ▸ whole.symm

theorem ofBytes_toBytes (canonical : nfcid.Canonical) : ofBytes nfcid.toBytes = .ok nfcid := by
  have fits : nfcid.toBytes.length ≤ maxLength := canonical.length_toBytes ▸ canonical.fits
  rw [ofBytes_of_length fits canonical.length_toBytes, ← canonical.block_eq]

theorem of_ofBytes (made : ofBytes bytes = .ok nfcid) : nfcid.Canonical := by
  unfold ofBytes at made
  split at made
  · rename_i fits
    cases made
    have few : bytes.length ≤ 10 := fits
    exact of_padded fits (UInt8.toNat_ofNat_of_lt' (by change _ < 256; omega))
  · cases made

theorem eq_iff_toBytes (first : nfcid.Canonical) (second : other.Canonical) :
    nfcid = other ↔ nfcid.toBytes = other.toBytes := by
  constructor
  · exact congrArg toBytes
  · intro same
    have made : ofBytes nfcid.toBytes = .ok other := same ▸ second.ofBytes_toBytes
    exact Except.ok.inj (first.ofBytes_toBytes.symm.trans made)

end Canonical

/-! ### Looking at the bytes -/

/-- The bytes as a slice of the block, which has to reach so far. -/
def slice? (nfcid : Nfcid) : Option Bytes :=
  if nfcid.length.toNat ≤ nfcid.block.bytes.length then
    some (nfcid.block.bytes.take nfcid.length.toNat)
  else
    none

def text? (nfcid : Nfcid) : Option String :=
  nfcid.slice?.map Hex.spaced

theorem slice?_eq (nfcid : Nfcid) :
    nfcid.slice? = if nfcid.length.toNat ≤ maxLength then some nfcid.toBytes else none := by
  rw [slice?, nfcid.block.bytes_length]
  rfl

theorem text?_eq (nfcid : Nfcid) :
    nfcid.text? = if nfcid.length.toNat ≤ maxLength then some nfcid.text else none := by
  rw [text?, slice?_eq]
  split <;> rfl

end Nfcid

namespace PollAParameters

def selectFamily? (parameters : PollAParameters) : Option TagFamily :=
  match parameters.selectResponse with
  | some response => if response &&& 0x18 = 0x18 then some .mifare else none
  | none => none

/-- The family, where each look at the identifier needs the bytes to be there: the slice
first, and then its first byte if there are seven. -/
def tagFamilyWithin? (parameters : PollAParameters) : Option (Option TagFamily) :=
  match parameters.nfcid.slice? with
  | none => none
  | some nfcid =>
      if nfcid.length = 7 then
        match nfcid[0]? with
        | none => none
        | some first => some (if first = 0x04 then some .type2 else parameters.selectFamily?)
      else
        some parameters.selectFamily?

theorem tagFamilyWithin?_eq (parameters : PollAParameters) :
    parameters.tagFamilyWithin? =
      if parameters.nfcid.length.toNat ≤ Nfcid.maxLength then some parameters.tagFamily?
      else none := by
  unfold tagFamilyWithin? tagFamily?
  rw [Nfcid.slice?_eq]
  by_cases fits : parameters.nfcid.length.toNat ≤ Nfcid.maxLength
  · rw [if_pos fits, if_pos fits]
    dsimp only
    cases parameters.nfcid.toBytes with
    | nil => rfl
    | cons first rest =>
        rw [List.getElem?_cons_zero, List.head?_cons]
        by_cases seven : (first :: rest).length = 7
        · by_cases manufacturer : first = 0x04
          · rw [if_pos seven, if_pos ⟨seven, congrArg some manufacturer⟩]
            exact congrArg some (if_pos manufacturer)
          · rw [if_pos seven, if_neg fun both => manufacturer (Option.some.inj both.2)]
            exact congrArg some (if_neg manufacturer)
        · rw [if_neg seven, if_neg fun both => seven both.1]
          rfl
  · rw [if_neg fits, if_neg fits]

end PollAParameters

/-! ### Where identifiers come from -/

namespace Nfcid

inductive Form where
  | nfcid
  | pollA
  | technology
  | activation

def Form.nfcid? (form : Form) (document : Document) : Option Nfcid :=
  match form with
  | .nfcid => ofDocument? document
  | .pollA => (ofDocument? document).map PollAParameters.nfcid
  | .technology =>
      (ofDocument? document).bind fun
        | TechnologyParameters.pollA parameters => some parameters.nfcid
        | .raw _ => none
  | .activation => (ofDocument? document).bind Activation.nfcid?

/-- The ways to make an identifier. -/
inductive Way where
  | bytes
  | announcement
  | document (form : Form)

def Way.Makes (way : Way) (nfcid : Nfcid) : Prop :=
  match way with
  | .bytes => ∃ content, ofBytes content = .ok nfcid
  | .announcement => ∃ payload activation,
      Activation.ofPayload payload = .ok activation ∧ activation.nfcid? = some nfcid
  | .document form => ∃ content, form.nfcid? content = some nfcid

/-- Bytes are counted before they become an identifier; numbers are not. -/
def Way.Counts : Way → Prop
  | .document _ => False
  | _ => True

def Canonical.endpoint {nfcid : Nfcid} (canonical : nfcid.Canonical) : Endpoint where
  nfcid := nfcid.toBytes
  selectResponse := none
  replies := []
  releaseType := 0
  releaseReason := 0
  nfcid_fits := canonical.length_toBytes ▸ canonical.fits
  replies_fit := Nat.zero_le 4
  readable none := absurd rfl none

theorem announced_of_canonical {nfcid : Nfcid} (canonical : nfcid.Canonical) :
    Way.announcement.Makes nfcid := by
  have named : canonical.endpoint.parameters.nfcid = nfcid := by
    change Nfcid.mk (.padded 10 nfcid.toBytes) (UInt8.ofNat nfcid.toBytes.length) = nfcid
    rw [← canonical.block_eq, ← canonical.length_toBytes, UInt8.ofNat_toNat]
  have read := canonical.endpoint.ofPayload_announcement
  exact ⟨Bench.activatedPayload nfcid.toBytes none, _, read, congrArg some named⟩

theorem canonical_of_announced {nfcid : Nfcid} (announced : Way.announcement.Makes nfcid) :
    nfcid.Canonical := by
  obtain ⟨payload, activation, read, named⟩ := announced
  obtain ⟨announcement, rfl, parameters, carried, rfl⟩ := Activation.announcement_of_ofPayload read
  cases carried with
  | raw whole => cases named
  | pollA layout mode laid =>
      cases named
      exact .of_padded layout.fits layout.size

def bearing (nfcid : Nfcid) : PollAParameters :=
  ⟨.padded 2 [], nfcid, none⟩

theorem documented (form : Form) (nfcid : Nfcid) : (Way.document form).Makes nfcid := by
  cases form with
  | nfcid => exact ⟨toDocument nfcid, ofDocument?_toDocument nfcid⟩
  | pollA =>
      refine ⟨toDocument nfcid.bearing, ?_⟩
      rw [Form.nfcid?, ofDocument?_toDocument]
      rfl
  | technology =>
      refine ⟨toDocument (TechnologyParameters.pollA nfcid.bearing), ?_⟩
      rw [Form.nfcid?, ofDocument?_toDocument]
      rfl
  | activation =>
      let activation : Activation :=
        ⟨0, ⟨0⟩, ⟨0⟩, ⟨0⟩, 0, 0, .pollA nfcid.bearing, ⟨0⟩, 0, 0, []⟩
      refine ⟨toDocument activation, ?_⟩
      rw [Form.nfcid?, ofDocument?_toDocument]
      rfl

/-- A way that counts makes the canonical identifiers, another one all there could be. -/
theorem Way.makes_iff (way : Way) (nfcid : Nfcid) :
    way.Makes nfcid ↔ (way.Counts → nfcid.Canonical) := by
  cases way with
  | bytes =>
      constructor
      · rintro ⟨content, made⟩ _
        exact .of_ofBytes made
      · intro canonical
        exact ⟨nfcid.toBytes, (canonical trivial).ofBytes_toBytes⟩
  | announcement =>
      exact ⟨fun made _ => canonical_of_announced made,
        fun canonical => announced_of_canonical (canonical trivial)⟩
  | document form => exact iff_of_true (documented form nfcid) False.elim

/-! ### What follows from where one comes from -/

def blank : Nfcid := ⟨.padded 10 [], 0⟩

def overlong : Nfcid := ⟨.padded 10 [], 11⟩

def concealing : Nfcid := ⟨.padded 10 [1], 0⟩

theorem Way.makes_blank (way : Way) : way.Makes blank := by
  have canonical : blank.Canonical := .of_padded (Nat.zero_le 10) rfl
  exact (way.makes_iff blank).mpr fun _ => canonical

theorem Way.makes_of_not_counts {way : Way} (blind : ¬way.Counts) (nfcid : Nfcid) :
    way.Makes nfcid :=
  (way.makes_iff nfcid).mpr fun counts => absurd counts blind

namespace Way

theorem sliced_iff (way : Way) :
    (∀ nfcid, way.Makes nfcid → nfcid.slice? = some nfcid.toBytes) ↔ way.Counts := by
  constructor
  · intro sliced
    refine Classical.byContradiction fun blind => ?_
    cases sliced overlong (makes_of_not_counts blind overlong)
  · intro counts nfcid made
    have canonical := (way.makes_iff nfcid).mp made counts
    exact nfcid.slice?_eq.trans (if_pos canonical.fits)

theorem told_iff (way other : Way) :
    (∀ first second, way.Makes first → other.Makes second →
      (first = second ↔ first.toBytes = second.toBytes)) ↔ way.Counts ∧ other.Counts := by
  have apart : concealing ≠ blank := by decide
  constructor
  · intro told
    constructor
    · refine Classical.byContradiction fun blind => ?_
      have made := makes_of_not_counts blind concealing
      exact apart ((told concealing blank made other.makes_blank).mpr rfl)
    · refine Classical.byContradiction fun blind => ?_
      have made := makes_of_not_counts blind concealing
      exact apart ((told blank concealing way.makes_blank made).mpr rfl).symm
  · rintro ⟨counts, counted⟩ first second made found
    exact ((way.makes_iff first).mp made counts).eq_iff_toBytes
      ((other.makes_iff second).mp found counted)

/-- What a way to make identifiers makes sure of, and what that is good for. -/
structure Accounted (way : Way) : Prop where
  makes (nfcid : Nfcid) : way.Makes nfcid ↔ (way.Counts → nfcid.Canonical)
  /-- The bytes, the text and the family are found within the block if the length allows it,
  as it does for every canonical identifier. -/
  sliced (nfcid : Nfcid) :
    nfcid.slice? = if nfcid.length.toNat ≤ 10 then some nfcid.toBytes else none
  worded (nfcid : Nfcid) :
    nfcid.text? = if nfcid.length.toNat ≤ 10 then some nfcid.text else none
  classified (parameters : PollAParameters) : parameters.tagFamilyWithin? =
    if parameters.nfcid.length.toNat ≤ 10 then some parameters.tagFamily? else none
  safe : (∀ nfcid, way.Makes nfcid → nfcid.slice? = some nfcid.toBytes) ↔ way.Counts
  told (other : Way) : (∀ first second, way.Makes first → other.Makes second →
    (first = second ↔ first.toBytes = second.toBytes)) ↔ way.Counts ∧ other.Counts

theorem accounted (way : Way) : way.Accounted where
  makes := way.makes_iff
  sliced := slice?_eq
  worded := text?_eq
  classified := PollAParameters.tagFamilyWithin?_eq
  safe := way.sliced_iff
  told := way.told_iff

end Way
end Nfcid
end NfcHost

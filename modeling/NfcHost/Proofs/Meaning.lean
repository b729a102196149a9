/-
What documents mean.

A value is written in one way and can be read from many: a record may come with further
fields, in another order, without a field that would be `null`, or as the list of its
fields, and an alternative that carries nothing may carry `null`.  Which document means
what another one says is told here by the shape of the two alone, without the values and
without their readers.  A value is legible if its reader accepts exactly the documents
that mean what is written of it.
-/

import NfcHost.Document
import Mathlib.Data.List.Forall2

namespace NfcHost
namespace Document

/-! ### Meaning -/

mutual

/-- The first document means what the second one says.  The second one is taken as it would
be written of a value: an object with a single entry is an alternative and what it carries,
any other object is a record. -/
inductive Means : Document → Document → Prop
  | same (document : Document) : Means document document
  | list {given written : List Document} (items : List.Forall₂ Means given written) :
      Means (.list given) (.list written)
  /-- An alternative that carries nothing may carry `null`. -/
  | named (name : String) : Means (carrying name .null) (.text name)
  | carrying (name : String) {given written : Document} (content : Means given written) :
      Means (carrying name given) (carrying name written)
  /-- Every field of the record is looked up, so that neither further entries nor the order
  matter.  An entry that is a field is there once. -/
  | record {entries fields : List (String × Document)} (several : fields.length ≠ 1)
      (once : ∀ name ∈ fields.map Prod.fst, (entries.map Prod.fst).count name ≤ 1)
      (each : ∀ name written, fields.lookup name = some written →
        FieldMeans (entries.lookup name) written) :
      Means (.object entries) (.object fields)
  | inOrder {items : List Document} {fields : List (String × Document)}
      (several : fields.length ≠ 1) (each : List.Forall₂ Means items (fields.map Prod.snd)) :
      Means (.list items) (.object fields)

inductive FieldMeans : Option Document → Document → Prop
  | there {given written : Document} (content : Means given written) :
      FieldMeans (some given) written
  | absent : FieldMeans none .null

end

theorem mem_of_lookup {fields : List (String × Document)} {name : String}
    {written : Document} (found : fields.lookup name = some written) :
    (name, written) ∈ fields := by
  obtain ⟨before, behind, rfl, _⟩ := List.lookup_eq_some_iff.mp found
  exact List.mem_append_right before List.mem_cons_self

theorem lookup_of_mem {fields : List (String × Document)}
    (apart : (fields.map Prod.fst).Nodup) {field : String × Document}
    (member : field ∈ fields) : fields.lookup field.1 = some field.2 := by
  obtain ⟨before, behind, rfl⟩ := List.append_of_mem member
  refine List.lookup_eq_some_iff.mpr ⟨before, behind, rfl, fun earlier inFront => ?_⟩
  rw [List.map_append, List.map_cons, List.nodup_append] at apart
  have different : earlier.1 ≠ field.1 :=
    apart.2.2 _ (List.mem_map_of_mem inFront) _ List.mem_cons_self
  exact bne_iff_ne.mpr different.symm

section

variable {document : Document}

theorem means_null_iff : document.Means .null ↔ document = .null := by
  constructor
  · intro means
    cases means
    rfl
  · rintro rfl
    exact .same .null

theorem Means.eq_null {written : Document} (means : Document.null.Means written) :
    written = .null := by
  cases means
  rfl

theorem means_number_iff {value : Int} :
    document.Means (.number value) ↔ document = .number value := by
  constructor
  · intro means
    cases means
    rfl
  · rintro rfl
    exact .same (.number value)

theorem means_list_iff {written : List Document} :
    document.Means (.list written) ↔
      ∃ given, document = .list given ∧ List.Forall₂ Means given written := by
  constructor
  · intro means
    cases means with
    | same => exact ⟨written, rfl, List.forall₂_same.mpr fun item _ => .same item⟩
    | list items => exact ⟨_, rfl, items⟩
  · rintro ⟨given, rfl, items⟩
    exact .list items

theorem means_text_iff {name : String} :
    document.Means (.text name) ↔
      document = .text name ∨ document = carrying name .null := by
  constructor
  · intro means
    cases means with
    | same => exact .inl rfl
    | named => exact .inr rfl
  · rintro (rfl | rfl)
    · exact .same (.text name)
    · exact .named name

theorem means_carrying_iff {name : String} {written : Document} :
    document.Means (carrying name written) ↔
      ∃ content, document = carrying name content ∧ content.Means written := by
  constructor
  · intro means
    cases means with
    | same => exact ⟨written, rfl, .same written⟩
    | carrying _ content => exact ⟨_, rfl, content⟩
    | record several => exact absurd rfl several
    | inOrder several => exact absurd rfl several
  · rintro ⟨content, rfl, means⟩
    exact .carrying name means

theorem fieldMeans_some_iff {written : Document} :
    FieldMeans (some document) written ↔ document.Means written := by
  constructor
  · intro means
    cases means
    assumption
  · exact .there

/-- A document means a record exactly if it can be taken apart into its fields, and what is
found for each of them means that field. -/
theorem means_object_iff {fields : List (String × Document)} (several : fields.length ≠ 1)
    (apart : (fields.map Prod.fst).Nodup) :
    document.Means (.object fields) ↔
      ∃ found, document.fields? (fields.map Prod.fst) = some found ∧
        List.Forall₂ FieldMeans found (fields.map Prod.snd) := by
  constructor
  · intro means
    cases means with
    | same =>
        refine ⟨_, if_pos fun name _ => List.nodup_iff_count.mp apart name, ?_⟩
        rw [List.map_map, List.forall₂_map_left_iff, List.forall₂_map_right_iff,
          List.forall₂_same]
        intro field member
        rw [Function.comp_apply, lookup_of_mem apart member]
        exact .there (.same field.2)
    | carrying => exact absurd rfl several
    | record _ once each =>
        refine ⟨_, if_pos once, ?_⟩
        rw [List.map_map, List.forall₂_map_left_iff, List.forall₂_map_right_iff,
          List.forall₂_same]
        exact fun field member => each field.1 field.2 (lookup_of_mem apart member)
    | inOrder _ each =>
        refine ⟨_, if_pos ?_, List.forall₂_map_left_iff.mpr (each.imp fun _ _ => .there)⟩
        rw [each.length_eq, List.length_map, List.length_map]
  · rintro ⟨found, taken, each⟩
    unfold fields? at taken
    split at taken
    · split at taken
      · rename_i once
        cases taken
        rw [List.map_map, List.forall₂_map_left_iff, List.forall₂_map_right_iff,
          List.forall₂_same] at each
        exact .record several once fun _ _ named => each _ (mem_of_lookup named)
      · cases taken
    · split at taken
      · cases taken
        have items := List.forall₂_map_left_iff.mp each
        exact .inOrder several (items.imp fun _ _ => fieldMeans_some_iff.mp)
      · cases taken
    · cases taken

end
end Document

/-! ### Readers that know what a document means -/

/-- A document is read as a value exactly if it means what is written of the value, which
is never the `null` that a missing field stands for. -/
class Legible (α : Type) [Documented α] : Prop where
  ofDocument?_eq_some_iff (document : Document) (value : α) :
    ofDocument? document = some value ↔ document.Means (toDocument value)
  toDocument_ne_null (value : α) : toDocument value ≠ .null

export Legible (ofDocument?_eq_some_iff toDocument_ne_null)

@[simp] theorem ofDocument?_toDocument {α : Type} [Documented α] [Legible α] (value : α) :
    ofDocument? (toDocument value) = some value :=
  (ofDocument?_eq_some_iff _ value).mpr (.same _)

namespace Document

section Fields

theorem optional?_of_ne_null {α : Type} [Documented α] {document : Document}
    (there : document ≠ .null) :
    optional? (some document) = (ofDocument? document).map (some : α → Option α) := by
  cases document with
  | null => exact absurd rfl there
  | _ => rfl

variable {α β γ δ : Type} [Documented α] [Legible α] [Documented β] [Legible β]

theorem required?_eq_some_iff {field : Option Document} {value : α} :
    required? field = some value ↔ FieldMeans field (toDocument value) := by
  cases field with
  | some given =>
      rw [fieldMeans_some_iff]
      exact ofDocument?_eq_some_iff given value
  | none =>
      constructor
      · intro read
        cases read
      · intro means
        generalize written : toDocument value = document at means
        cases means
        exact absurd written (toDocument_ne_null value)

/-- A field that is missing and one that is `null` are the same, and neither is taken for a
value. -/
theorem optional?_eq_some_iff {field : Option Document} {value : Option α} :
    optional? field = some value ↔ FieldMeans field (ofOption value) := by
  cases field with
  | none =>
      cases value with
      | none => exact iff_of_true rfl .absent
      | some value =>
          exact iff_of_false (fun read => nomatch read)
            fun means => nomatch required?_eq_some_iff.mpr means
  | some given =>
      rw [fieldMeans_some_iff]
      by_cases empty : given = .null
      · subst empty
        cases value with
        | none => exact iff_of_true rfl (.same .null)
        | some value =>
            exact iff_of_false (fun read => nomatch read)
              fun means => toDocument_ne_null value means.eq_null
      · rw [optional?_of_ne_null empty, Option.map_eq_some_iff]
        cases value with
        | none =>
            simp only [reduceCtorEq, and_false, exists_false, ofOption, means_null_iff, empty]
        | some value =>
            simp only [Option.some.injEq, exists_eq_right, ofOption, ofDocument?_eq_some_iff]

theorem pair_eq_some_iff {first second : String} (apart : [first, second].Nodup)
    {make : α → β → δ} (injective : ∀ {a b a' b'}, make a b = make a' b' → a = a' ∧ b = b')
    {document : Document} {a : α} {b : β} :
    (match document.fields? [first, second] with
      | some [one, two] => do
          let one ← required? one
          let two ← required? two
          return make one two
      | _ => none) = some (make a b) ↔
      document.Means (.object [(first, toDocument a), (second, toDocument b)]) := by
  refine Iff.trans ?_ (means_object_iff (by simp) (by exact apart)).symm
  simp only [List.map]
  split
  · rename_i found
    simp only [found, Option.some.injEq, exists_eq_left', List.forall₂_cons, List.Forall₂.nil,
      and_true, Option.bind_eq_bind, Option.bind_eq_some_iff, required?_eq_some_iff,
      Option.pure_def]
    constructor
    · rintro ⟨_, one, _, two, made⟩
      obtain ⟨rfl, rfl⟩ := injective made
      exact ⟨one, two⟩
    · rintro ⟨one, two⟩
      exact ⟨a, one, b, two, rfl⟩
  · rename_i short
    constructor
    · exact fun read => nomatch read
    -- As much is found as there are fields, which is the case split off before.
    · rintro ⟨_, found, _ | ⟨_, _ | ⟨_, _ | _⟩⟩⟩
      exact (short _ _ found).elim

theorem triple_eq_some_iff {first second third : String}
    (apart : [first, second, third].Nodup) {last? : Option Document → Option γ}
    {written : γ → Document}
    (exact : ∀ {field value}, last? field = some value ↔ FieldMeans field (written value))
    {make : α → β → γ → δ}
    (injective : ∀ {a b c a' b' c'}, make a b c = make a' b' c' → a = a' ∧ b = b' ∧ c = c')
    {document : Document} {a : α} {b : β} {c : γ} :
    (match document.fields? [first, second, third] with
      | some [one, two, three] => do
          let one ← required? one
          let two ← required? two
          let three ← last? three
          return make one two three
      | _ => none) = some (make a b c) ↔
      document.Means
        (.object [(first, toDocument a), (second, toDocument b), (third, written c)]) := by
  refine Iff.trans ?_ (means_object_iff (by simp) (by exact apart)).symm
  simp only [List.map]
  split
  · rename_i found
    simp only [found, Option.some.injEq, exists_eq_left', List.forall₂_cons, List.Forall₂.nil,
      and_true, Option.bind_eq_bind, Option.bind_eq_some_iff, required?_eq_some_iff, exact,
      Option.pure_def]
    constructor
    · rintro ⟨_, one, _, two, _, three, made⟩
      obtain ⟨rfl, rfl, rfl⟩ := injective made
      exact ⟨one, two, three⟩
    · rintro ⟨one, two, three⟩
      exact ⟨a, one, b, two, c, three, rfl⟩
  · rename_i short
    constructor
    · exact fun read => nomatch read
    · rintro ⟨_, found, _ | ⟨_, _ | ⟨_, _ | ⟨_, _ | _⟩⟩⟩⟩
      exact (short _ _ _ found).elim

end Fields

section Choices

theorem alternative?_eq_some {document : Document} {name : String}
    {content : Option Document} (taken : document.alternative? = some (name, content)) :
    document = match content with
      | none => .text name
      | some content => carrying name content := by
  unfold alternative? at taken
  split at taken <;> cases taken <;> rfl

theorem isEmpty_iff {content : Option Document} :
    isEmpty content = true ↔ content = none ∨ content = some .null := by
  rcases content with _ | _ | _ <;> simp [isEmpty]

variable {α : Type} {plain : String → Option α} {carrier : String → Document → Option α}
  {document : Document} {value : α}

/-- A choice is read as the alternative that is named if that carries nothing, and else from
what is carried. -/
theorem choice?_eq_some_iff :
    choice? plain carrier document = some value ↔
      (∃ name, plain name = some value ∧ document.Means (.text name)) ∨
        ∃ name content, plain name = none ∧ carrier name content = some value ∧
          document = Document.carrying name content := by
  constructor
  · intro read
    unfold choice? at read
    split at read
    · cases read
    · rename_i name content taken
      have whole := alternative?_eq_some taken
      split at read
      · rename_i named
        split at read
        · rename_i empty
          cases read
          refine .inl ⟨name, named, ?_⟩
          rcases isEmpty_iff.mp empty with rfl | rfl
          · exact whole ▸ .same (.text name)
          · exact whole ▸ .named name
        · cases read
      · rename_i unnamed
        exact .inr ⟨name, _, unnamed, read, whole⟩
      · cases read
  · rintro (⟨name, named, means⟩ | ⟨name, content, unnamed, carried, rfl⟩)
    · rcases means_text_iff.mp means with rfl | rfl
      · simp only [choice?, alternative?, named, isEmpty, if_true]
      · simp only [choice?, alternative?, Document.carrying, named, isEmpty, if_true]
    · simp only [choice?, alternative?, Document.carrying, unnamed, carried]

theorem choice?_carrying_iff {name : String} {written : Document}
    (unnamed : ∀ name, plain name ≠ some value)
    (carried : ∀ other content, (plain other = none ∧ carrier other content = some value) ↔
      other = name ∧ content.Means written) :
    choice? plain carrier document = some value ↔
      document.Means (Document.carrying name written) := by
  rw [choice?_eq_some_iff, means_carrying_iff]
  constructor
  · rintro (⟨other, named, _⟩ | ⟨other, content, free, read, rfl⟩)
    · exact absurd named (unnamed other)
    · obtain ⟨rfl, means⟩ := (carried other content).mp ⟨free, read⟩
      exact ⟨content, rfl, means⟩
  · rintro ⟨content, rfl, means⟩
    obtain ⟨free, read⟩ := (carried name content).mpr ⟨rfl, means⟩
    exact .inr ⟨name, content, free, read, rfl⟩

theorem choice?_text_iff {name : String}
    (named : ∀ other, plain other = some value ↔ other = name)
    (uncarried : ∀ other content, carrier other content ≠ some value) :
    choice? plain carrier document = some value ↔ document.Means (.text name) := by
  rw [choice?_eq_some_iff]
  constructor
  · rintro (⟨other, read, means⟩ | ⟨other, content, _, read, _⟩)
    · exact (named other).mp read ▸ means
    · exact absurd read (uncarried other content)
  · intro means
    exact .inl ⟨name, (named name).mpr rfl, means⟩

end Choices

/-! ### Numbers and lists -/

theorem number_eq_some_iff {α : Type} {bound : Int} {ofNat : Nat → α} {toNat : α → Nat}
    (below : ∀ value, (toNat value : Int) < bound)
    (ofNat_toNat : ∀ value, ofNat (toNat value) = value)
    (toNat_ofNat : ∀ count : Nat, (count : Int) < bound → toNat (ofNat count) = count)
    {document : Document} {value : α} :
    (match document with
      | .number value => if 0 ≤ value ∧ value < bound then some (ofNat value.toNat) else none
      | _ => none) = some value ↔ document.Means (.number (toNat value)) := by
  rw [means_number_iff]
  constructor
  · intro read
    split at read
    · rename_i given
      split at read
      · rename_i bounds
        have whole : (given.toNat : Int) = given := Int.toNat_of_nonneg bounds.1
        cases read
        rw [toNat_ofNat given.toNat (whole ▸ bounds.2), whole]
      · cases read
    · cases read
  · rintro rfl
    dsimp only
    rw [if_pos ⟨Int.natCast_nonneg _, below value⟩, Int.toNat_natCast, ofNat_toNat]

theorem mapM_eq_some_iff {α : Type} [Documented α] [Legible α] (items : List Document)
    (values : List α) :
    items.mapM (ofDocument? (α := α)) = some values ↔
      List.Forall₂ Means items (values.map toDocument) := by
  induction items generalizing values with
  | nil =>
      cases values with
      | nil => exact iff_of_true rfl .nil
      | cons => exact iff_of_false (fun read => nomatch read) fun each => nomatch each
  | cons item items ih =>
      rw [List.mapM_cons]
      constructor
      · intro read
        obtain ⟨value, first, read⟩ := Option.bind_eq_some_iff.mp read
        obtain ⟨rest, others, made⟩ := Option.bind_eq_some_iff.mp read
        cases made
        exact .cons ((ofDocument?_eq_some_iff item value).mp first) ((ih rest).mp others)
      · intro each
        cases values with
        | nil => cases each
        | cons value rest =>
            obtain _ | ⟨first, others⟩ := each
            rw [(ofDocument?_eq_some_iff item value).mpr first, (ih rest).mpr others]
            rfl

end Document

instance : Legible UInt8 where
  toDocument_ne_null _ := Document.noConfusion
  ofDocument?_eq_some_iff _ _ :=
    Document.number_eq_some_iff (fun value => Int.ofNat_lt.mpr value.toNat_lt)
      (fun _ => UInt8.ofNat_toNat)
      (fun _ small => UInt8.toNat_ofNat_of_lt' (Int.ofNat_lt.mp small))

instance : Legible UInt16 where
  toDocument_ne_null _ := Document.noConfusion
  ofDocument?_eq_some_iff _ _ :=
    Document.number_eq_some_iff (fun value => Int.ofNat_lt.mpr value.toNat_lt)
      (fun _ => UInt16.ofNat_toNat)
      (fun _ small => UInt16.toNat_ofNat_of_lt' (Int.ofNat_lt.mp small))

instance {α : Type} [Documented α] [Legible α] : Legible (List α) where
  toDocument_ne_null _ := Document.noConfusion
  ofDocument?_eq_some_iff document values := by
    refine Iff.trans ?_ Document.means_list_iff.symm
    constructor
    · intro read
      cases document with
      | list items => exact ⟨items, rfl, (Document.mapM_eq_some_iff items values).mp read⟩
      | _ => cases read
    · rintro ⟨items, rfl, each⟩
      exact (Document.mapM_eq_some_iff items values).mpr each

theorem Block.ofBytes?_eq_some_iff {width : Nat} {bytes : Bytes} {block : Block width} :
    Block.ofBytes? width bytes = some block ↔ bytes = block.bytes := by
  unfold Block.ofBytes?
  constructor
  · intro made
    split at made
    · cases made
      rfl
    · cases made
  · rintro rfl
    exact dif_pos block.bytes_length

instance {width : Nat} : Legible (Block width) where
  toDocument_ne_null _ := Document.noConfusion
  ofDocument?_eq_some_iff document block := by
    refine Iff.trans ?_ (ofDocument?_eq_some_iff document block.bytes)
    refine Option.bind_eq_some_iff.trans ?_
    simp only [Block.ofBytes?_eq_some_iff, exists_eq_right]

end NfcHost

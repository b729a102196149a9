/-
Documents: values as trees that describe themselves.

A record is written as an object with its field names.  A choice is written as
the name of the alternative, or as an object with that name alone when there is
something to carry.  Reading is more lenient than writing: a record may have
further fields or be a list of its fields in order, and an alternative that
carries nothing may carry `null`.
-/

import NfcHost.Bytes

namespace NfcHost

inductive Document where
  | null
  | bool (value : Bool)
  | number (value : Int)
  | decimal (mantissa : Int) (places : Nat)
  | text (value : String)
  | list (items : List Document)
  | object (entries : List (String × Document))

instance : Inhabited Document := ⟨.null⟩

class Documented (α : Type) where
  toDocument : α → Document
  ofDocument? : Document → Option α

export Documented (toDocument ofDocument?)

namespace Document

/-! ### Records -/

/-- The documents of a record's fields.  An object may lack some of them but has
none twice; a list has to hold exactly as many items as there are fields. -/
def fields? (names : List String) : Document → Option (List (Option Document))
  | object entries =>
      if ∀ name ∈ names, (entries.map Prod.fst).count name ≤ 1 then
        some (names.map fun name => entries.lookup name)
      else
        none
  | list items => if items.length = names.length then some (items.map some) else none
  | _ => none

def required? {α : Type} [Documented α] (field : Option Document) : Option α :=
  field.bind ofDocument?

/-- A field that counts as absent when it is not there. -/
def optional? {α : Type} [Documented α] (field : Option Document) : Option (Option α) :=
  match field with
  | none => some none
  | some .null => some none
  | some document => (ofDocument? document).map some

def ofOption {α : Type} [Documented α] : Option α → Document
  | none => null
  | some value => toDocument value

/-! ### Choices -/

def alternative? : Document → Option (String × Option Document)
  | text name => some (name, none)
  | object [(name, content)] => some (name, some content)
  | _ => none

def isEmpty : Option Document → Bool
  | none => true
  | some null => true
  | some _ => false

def carrying (name : String) (content : Document) : Document :=
  object [(name, content)]

/-- Reads a choice: first among the alternatives that carry nothing, then among
those that carry something. -/
def choice? {α : Type} (plain : String → Option α)
    (carrier : String → Document → Option α) (document : Document) : Option α :=
  match document.alternative? with
  | none => none
  | some (name, content) =>
      match plain name, content with
      | some value, content => if isEmpty content then some value else none
      | none, some content => carrier name content
      | none, none => none

def plainChoice? {α : Type} (plain : String → Option α) (document : Document) : Option α :=
  choice? plain (fun _ _ => none) document

end Document

/-! ### Numbers and lists -/

instance : Documented UInt8 where
  toDocument value := .number value.toNat
  ofDocument?
    | .number value => if 0 ≤ value ∧ value < 256 then some (UInt8.ofNat value.toNat) else none
    | _ => none

instance : Documented UInt16 where
  toDocument value := .number value.toNat
  ofDocument?
    | .number value =>
        if 0 ≤ value ∧ value < 65536 then some (UInt16.ofNat value.toNat) else none
    | _ => none

instance {α : Type} [Documented α] : Documented (List α) where
  toDocument values := .list (values.map toDocument)
  ofDocument?
    | .list items => items.mapM ofDocument?
    | _ => none

instance {width : Nat} : Documented (Block width) where
  toDocument block := toDocument block.bytes
  ofDocument? document :=
    (ofDocument? document : Option Bytes).bind (Block.ofBytes? width)

end NfcHost

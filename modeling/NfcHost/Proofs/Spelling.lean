/-
How bytes are spelled out, and read again.

Every byte is spelled with two lowercase digits and neighbours are kept apart by one space.
A reader that accepts this spelling and nothing else gives the bytes back, so the text of a
dump leaves no doubt about them.
-/

import Mathlib.Data.List.Basic
import NfcHost.Text.Hex

namespace NfcHost.Hex

def digits : List Char :=
  ['0', '1', '2', '3', '4', '5', '6', '7', '8', '9', 'a', 'b', 'c', 'd', 'e', 'f']

def digit? (char : Char) : Option Nat :=
  digits.idxOf? char

def pairs? : List Char → Option Bytes
  | [] => some []
  | ' ' :: high :: low :: rest => do
      let high ← digit? high
      let low ← digit? low
      let bytes ← pairs? rest
      return UInt8.ofNat (16 * high + low) :: bytes
  | _ => none

/-- Reads bytes that are spelled with single spaces between them. -/
def read? (text : String) : Option Bytes :=
  match text.toList with
  | [] => some []
  | chars => pairs? (' ' :: chars)

/-! ### Digits -/

theorem digit?_digitChar {value : Nat} (small : value < 16) :
    digit? (Nat.digitChar value) = some value := by
  have all : ∀ value < 16, digit? (Nat.digitChar value) = some value := by decide
  exact all value small

theorem eq_digitChar_of_digit? {char : Char} {value : Nat} (read : digit? char = some value) :
    value < 16 ∧ char = Nat.digitChar value := by
  have listed : ∀ place : Fin digits.length, digits.get place = Nat.digitChar place.val := by
    decide
  obtain ⟨small, found, _⟩ := List.idxOf?_eq_some_iff.mp read
  exact ⟨small, found.symm.trans (listed ⟨value, small⟩)⟩

/-! ### Pairs -/

def pair (value : UInt8) : List Char :=
  [' ', Nat.digitChar (value.toNat / 16), Nat.digitChar (value.toNat % 16)]

theorem pairs?_of_pairs (bytes : Bytes) : pairs? (bytes.flatMap pair) = some bytes := by
  induction bytes with
  | nil => rfl
  | cons value rest ih =>
      have bound := value.toNat_lt
      have high := digit?_digitChar (show value.toNat / 16 < 16 by omega)
      have low := digit?_digitChar (show value.toNat % 16 < 16 by omega)
      have whole : 16 * (value.toNat / 16) + value.toNat % 16 = value.toNat := Nat.div_add_mod ..
      rw [List.flatMap_cons]
      change (do
        let high ← digit? (Nat.digitChar (value.toNat / 16))
        let low ← digit? (Nat.digitChar (value.toNat % 16))
        let bytes ← pairs? (rest.flatMap pair)
        return UInt8.ofNat (16 * high + low) :: bytes) = _
      rw [high, low, ih]
      change some (UInt8.ofNat (16 * (value.toNat / 16) + value.toNat % 16) :: rest) = _
      rw [whole, UInt8.ofNat_toNat]

theorem eq_pairs_of_pairs? {chars : List Char} {bytes : Bytes} (read : pairs? chars = some bytes) :
    chars = bytes.flatMap pair := by
  induction chars using pairs?.induct generalizing bytes with
  | case1 =>
      cases read
      rfl
  | case2 high low rest ih =>
      rw [pairs?] at read
      obtain ⟨first, highRead, read⟩ := Option.bind_eq_some_iff.mp read
      obtain ⟨second, lowRead, read⟩ := Option.bind_eq_some_iff.mp read
      obtain ⟨later, restRead, read⟩ := Option.bind_eq_some_iff.mp read
      cases read
      obtain ⟨firstSmall, rfl⟩ := eq_digitChar_of_digit? highRead
      obtain ⟨secondSmall, rfl⟩ := eq_digitChar_of_digit? lowRead
      have value : (UInt8.ofNat (16 * first + second)).toNat = 16 * first + second :=
        UInt8.toNat_ofNat_of_lt' (by change _ < 256; omega)
      have upper : (16 * first + second) / 16 = first := by omega
      have lower : (16 * first + second) % 16 = second := by omega
      rw [ih restRead, List.flatMap_cons, pair, value, upper, lower]
      rfl
  | case3 chars empty other =>
      rw [pairs?] at read
      · cases read
      · exact empty
      · exact other

/-! ### Bytes -/

theorem cons_spaced {value : UInt8} {rest : Bytes} :
    ' ' :: (spaced (value :: rest)).toList = (value :: rest).flatMap pair := by
  have spelled (value : UInt8) : ' ' :: (byte value).toList = pair value := by
    rw [byte, String.toList_ofList]
    rfl
  have run : (spaced (value :: rest)).toList =
      [' '].intercalate ((value :: rest).map fun value => (byte value).toList) := by
    rw [spaced, String.toList_intercalate, List.map_map]
    rfl
  rw [run]
  clear run
  induction rest generalizing value with
  | nil =>
      rw [List.map_singleton, List.intercalate_singleton, spelled, List.flatMap_singleton]
  | cons next rest ih =>
      rw [List.map_cons, List.map_cons, List.intercalate_cons_cons, List.flatMap_cons, ← ih,
        List.map_cons, ← spelled]
      simp

theorem toList_spaced_ne_nil {value : UInt8} {rest : Bytes} :
    (spaced (value :: rest)).toList ≠ [] := by
  intro empty
  have whole : ' ' :: (spaced (value :: rest)).toList = (value :: rest).flatMap pair := cons_spaced
  rw [empty, List.flatMap_cons] at whole
  cases whole

theorem read?_of_ne_nil {text : String} (filled : text.toList ≠ []) :
    read? text = pairs? (' ' :: text.toList) := by
  unfold read?
  split
  · rename_i empty
    exact absurd empty filled
  · rfl

/-- The reader accepts the spelling of bytes and nothing else. -/
theorem read?_eq_some_iff {text : String} {bytes : Bytes} :
    read? text = some bytes ↔ text = spaced bytes := by
  constructor
  · intro read
    apply String.toList_inj.mp
    by_cases empty : text.toList = []
    · rw [read?, empty] at read
      cases read
      exact empty
    · rw [read?_of_ne_nil empty] at read
      have spelled := eq_pairs_of_pairs? read
      cases bytes with
      | nil => cases spelled
      | cons value rest =>
          rw [← cons_spaced] at spelled
          exact (List.cons.inj spelled).2
  · rintro rfl
    cases bytes with
    | nil => rfl
    | cons value rest =>
        rw [read?_of_ne_nil toList_spaced_ne_nil, cons_spaced]
        exact pairs?_of_pairs (value :: rest)

theorem spaced_injective : Function.Injective spaced := by
  intro first second same
  have read := read?_eq_some_iff.mpr same
  rw [read?_eq_some_iff.mpr rfl] at read
  exact Option.some.inj read

end NfcHost.Hex

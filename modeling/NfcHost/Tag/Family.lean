/-
Families of tags.

Which family an endpoint belongs to is guessed from what it answered while it
was polled; the interface itself has no rule for it.
-/

import NfcHost.Activation

namespace NfcHost

inductive TagFamily where
  | type2
  | mifare
deriving DecidableEq, Repr

def TagFamily.name : TagFamily → String
  | type2 => "TYPE2"
  | mifare => "MIFARE"

/-- A seven-byte identifier of manufacturer 4 makes a Type-2 tag, whatever else
was answered.  Failing that, a select response with bits 3 and 4 set makes a
Mifare tag. -/
def PollAParameters.tagFamily? (parameters : PollAParameters) : Option TagFamily :=
  let nfcid := parameters.nfcid.toBytes
  if nfcid.length = 7 ∧ nfcid.head? = some 0x04 then
    some .type2
  else
    match parameters.selectResponse with
    | some response => if response &&& 0x18 = 0x18 then some .mifare else none
    | none => none

def Activation.tagFamily? (activation : Activation) : Option TagFamily :=
  activation.pollA?.bind PollAParameters.tagFamily?

end NfcHost

/-
Tags at hand, each with what its family can do.

Type-2 tags can be read.  Mifare tags are recognised, but reading one would need
its sectors unlocked, so every request for a dump is refused.
-/

import NfcHost.Tag.Family
import NfcHost.Tag.Type2

namespace NfcHost

inductive Tag where
  | type2 (tag : Type2)
  | mifare (activation : Activation)
deriving DecidableEq

namespace Tag

def ofFamily (family : TagFamily) (activation : Activation) : Tag :=
  match family with
  | .type2 => .type2 { activation := activation }
  | .mifare => .mifare activation

def family : Tag → TagFamily
  | type2 _ => .type2
  | mifare _ => .mifare

def activation : Tag → Activation
  | type2 tag => tag.activation
  | mifare activation => activation

def nfcid? (tag : Tag) : Option Nfcid :=
  tag.activation.nfcid?

def startDump : Tag → Except Setback Unit × Tag × List Line
  | type2 tag =>
      let (outcome, tag) := tag.startDump
      (outcome, .type2 tag, [])
  | mifare activation =>
      (.error .rejected, .mifare activation, [.debug "Mifare: dump not supported"])

def request {σ : Type} [Link σ] (tag : Tag) (host : Host σ) :
    Except Setback Unit × Tag × Host σ :=
  match tag with
  | type2 tag =>
      let (outcome, tag, host) := tag.request host
      (outcome, .type2 tag, host)
  | mifare activation => (.error .rejected, .mifare activation, host)

def takeReply (tag : Tag) (reply : Bytes) :
    Option (Except Setback Chunk) × Tag × List Line :=
  match tag with
  | type2 tag =>
      let (outcome, tag, lines) := tag.takeReply reply
      (outcome, .type2 tag, lines)
  | mifare activation => (none, .mifare activation, [])

end Tag
end NfcHost

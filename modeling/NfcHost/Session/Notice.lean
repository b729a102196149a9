/-
What a session tells its application.
-/

import NfcHost.Tag

namespace NfcHost

structure Detection where
  activation : Activation
  family : Option TagFamily
deriving DecidableEq

inductive Notice where
  | reset (outcome : Except Setback Unit)
  | discover (outcome : Except Setback Unit)
  | detected (outcome : Except Setback Detection)
  | deactivated (outcome : Except Setback Deactivation)
  | dumped (outcome : Except Setback Chunk)

namespace Notice

def chunk? : Notice → Option Chunk
  | dumped (.ok chunk) => some chunk
  | _ => none

end Notice
end NfcHost

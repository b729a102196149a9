/-
Where a session stands.

An operation is what the application asked for last; a stage is the step the
session has reached within it.  In `initDone` the controller is ready, in
`discoverActivated` an endpoint is at hand, and in `dump` its next chunk may be
asked for.  In the other stages something is awaited: a response, in
`discoverNotification` an endpoint, in `deactivateResponse` the report of the
release, and in `dumpResponse` a chunk.
-/

import NfcHost.Bytes

namespace NfcHost

inductive Operation where
  | none
  | reset
  | discover
  | deactivate
  | dump
deriving DecidableEq, Repr

def Operation.name : Operation → String
  | none => "NONE"
  | reset => "RESET"
  | discover => "DISCOVER"
  | deactivate => "DEACTIVATE"
  | dump => "DUMP"

inductive Stage where
  | none
  | initReset
  | initInit
  | initDone
  | discoverMap
  | discover
  | discoverNotification
  | discoverActivated
  | deactivate
  | deactivateResponse
  | deactivateNotification
  | dump
  | dumpResponse
deriving DecidableEq, Repr

def Stage.name : Stage → String
  | none => "NONE"
  | initReset => "INIT_RESET"
  | initInit => "INIT_INIT"
  | initDone => "INIT_DONE"
  | discoverMap => "DISCOVER_MAP"
  | discover => "DISCOVER"
  | discoverNotification => "DISCOVER_NTF"
  | discoverActivated => "DISCOVER_ACTIVATED"
  | deactivate => "DEACTIVATE"
  | deactivateResponse => "DEACTIVATE_RSP"
  | deactivateNotification => "DEACTIVATE_NTF"
  | dump => "DUMP"
  | dumpResponse => "DUMP_RSP"

end NfcHost

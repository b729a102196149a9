/-
A controller as its host knows it.

The host follows the phase a controller is in and keeps the last report of each
kind.  Only a message that is awaited in the present phase and reads well
changes anything.
-/

import NfcHost.Capabilities
import NfcHost.Command
import NfcHost.Controller.Event
import NfcHost.Journal

namespace NfcHost

inductive Phase where
  | down
  | reset
  | idle
  | discovery
  | pollActive
deriving DecidableEq, Repr

def Phase.name : Phase → String
  | down => "NONE"
  | reset => "RFST_RESET"
  | idle => "RFST_IDLE"
  | discovery => "RFST_DISCOVERY"
  | pollActive => "RFST_POLL_ACTIVE"

def Command.phase : Command → Phase
  | reset _ => .down
  | init => .reset
  | discoverMap _ => .idle
  | discover _ => .idle
  | deactivate _ => .pollActive

structure Controller where
  phase : Phase := .down
  resetReport : Option ResetReport := none
  capabilities : Option Capabilities := none
  activation : Option Activation := none
  deactivation : Option Deactivation := none
deriving DecidableEq

/-- What handling one message came to. -/
structure Handling (α : Type) where
  outcome : Except Fault α
  controller : Controller
  lines : List Line

structure Reception where
  event : Event
  controller : Controller
  lines : List Line

def Handling.toReception {α : Type} (handling : Handling α)
    (event : Except Fault α → Event) : Reception :=
  ⟨event handling.outcome, handling.controller, handling.lines⟩

namespace Controller

def refusalLine (controller : Controller) (what : String) : Line :=
  .debug ("NCI: " ++ what ++ " rejected in " ++ controller.phase.name)

def moveLine (controller : Controller) (next : Phase) : Line :=
  .debug ("NCI: state " ++ controller.phase.name ++ " -> " ++ next.name)

/-- Handles a message that is awaited in one phase.  The phase is checked first;
then the payload has to read well; only then is anything changed. -/
def handle {α : Type} (controller : Controller) (awaited : Phase) (message : Message)
    (content : Except Fault α) (accept : α → Controller × List Line) : Handling α :=
  if controller.phase = awaited then
    match content with
    | .error fault => ⟨.error fault, controller, []⟩
    | .ok value =>
        let (next, lines) := accept value
        ⟨.ok value, next, lines⟩
  else
    ⟨.error .rejected, controller, [controller.refusalLine message.name]⟩

def onReset (controller : Controller) (payload : Bytes) : Handling ResetReport :=
  controller.handle .down .resetResponse (ResetReport.ofPayload payload) fun report =>
    ( { controller with phase := .reset, resetReport := some report },
      [ .info ("NCI: controller reset, NCI " ++ toString report.major.toNat ++ "." ++
          toString report.minor.toNat),
        controller.moveLine .reset ] )

def detailLines (details : Except Fault Capabilities) : List Line :=
  match details with
  | .error fault => [.warning ("CORE_INIT_RSP details not decoded: " ++ fault.message)]
  | .ok _ => []

def onInit (controller : Controller) (payload : Bytes) :
    Handling (Except Fault Capabilities) :=
  controller.handle .reset .initResponse (Capabilities.ofPayload payload) fun details =>
    ( { controller with phase := .idle, capabilities := details.toOption },
      detailLines details ++ [controller.moveLine .idle] )

def onDiscoverMap (controller : Controller) (payload : Bytes) : Handling Unit :=
  controller.handle .idle .discoverMapResponse (Field.acknowledged payload) fun _ =>
    (controller, [])

def onDiscover (controller : Controller) (payload : Bytes) : Handling Unit :=
  controller.handle .idle .discoverResponse (Field.acknowledged payload) fun _ =>
    ({ controller with phase := .discovery }, [controller.moveLine .discovery])

def onActivated (controller : Controller) (payload : Bytes) : Handling Activation :=
  controller.handle .discovery .interfaceActivated (Activation.ofPayload payload)
    fun activation =>
      ( { controller with phase := .pollActive, activation := some activation },
        [controller.moveLine .pollActive] )

def onDeactivate (controller : Controller) (payload : Bytes) : Handling Unit :=
  controller.handle .pollActive .deactivateResponse (Field.acknowledged payload) fun _ =>
    ({ controller with phase := .discovery }, [controller.moveLine .discovery])

def onDeactivated (controller : Controller) (payload : Bytes) : Handling Deactivation :=
  controller.handle .discovery .deactivated (Deactivation.ofPayload payload)
    fun deactivation => ({ controller with deactivation := some deactivation }, [])

def dispatch (controller : Controller) (message : Message) (payload : Bytes) : Reception :=
  match message with
  | .data connection => ⟨.data connection payload, controller, []⟩
  | .connectionCredits => ⟨.connectionCredits, controller, []⟩
  | .resetResponse => (controller.onReset payload).toReception .reset
  | .initResponse =>
      (controller.onInit payload).toReception fun outcome => .init (outcome.map fun _ => ())
  | .discoverMapResponse => (controller.onDiscoverMap payload).toReception .discoverMap
  | .discoverResponse => (controller.onDiscover payload).toReception .discover
  | .interfaceActivated => (controller.onActivated payload).toReception .activated
  | .deactivateResponse => (controller.onDeactivate payload).toReception .deactivate
  | .deactivated => (controller.onDeactivated payload).toReception .deactivated

def faultLines (reception : Reception) : List Line :=
  match reception.event.fault? with
  | none => []
  | some fault =>
      [ .error ("NCI error: " ++ reception.event.name ++ " " ++ fault.message ++ " in " ++
          reception.controller.phase.name) ]

def receive (controller : Controller) (message : Message) (payload : Bytes) : Reception :=
  let reception := controller.dispatch message payload
  { reception with
    lines := .debug ("NCI_EVT: " ++ message.name) :: (reception.lines ++ faultLines reception) }

end Controller
end NfcHost

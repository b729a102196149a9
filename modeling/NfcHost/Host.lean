/-
A host at work: a controller as it is known, and the channel that leads to it.

A command is checked against the phase first and against its parameters second,
and only then anything is written.  The host waits for no answer and queues
nothing; answers come in through `process`, one packet at a time.
-/

import NfcHost.Controller
import NfcHost.Link

namespace NfcHost

structure Host (σ : Type) where
  controller : Controller
  channel : Channel σ

namespace Host

variable {σ : Type}

def fresh (link : σ) (threshold : Threshold) : Host σ :=
  { controller := {}, channel := ⟨link, .empty threshold⟩ }

def note (host : Host σ) (line : Line) : Host σ :=
  { host with channel := host.channel.note line }

def noteAll (host : Host σ) (lines : List Line) : Host σ :=
  { host with channel := host.channel.noteAll lines }

variable [Link σ]

/-- Resets the hardware and forgets everything learned from the controller. -/
def hardReset (host : Host σ) : Except Fault Unit × Host σ :=
  let host := host.note (.debug ("NCI: hard reset from " ++ host.controller.phase.name))
  match host.channel.reset with
  | (.error fault, channel) => (.error fault, { host with channel := channel })
  | (.ok (), channel) => (.ok (), { controller := {}, channel := channel })

def transmit (host : Host σ) (line : Line) (bytes : Bytes) : Except Fault Unit × Host σ :=
  let (outcome, channel) := (host.channel.note line).send bytes
  (outcome, { host with channel := channel })

def command (command : Command) (host : Host σ) : Except Fault Unit × Host σ :=
  if host.controller.phase = command.phase then
    match command.encode with
    | .error fault => (.error fault, host)
    | .ok bytes => host.transmit (.debug ("NCI_CMD: " ++ command.name)) bytes
  else
    (.error .rejected, host.note (host.controller.refusalLine (command.name ++ "_CMD")))

def sendData (connection : UInt8) (data : Bytes) (host : Host σ) : Except Fault Unit × Host σ :=
  if host.controller.phase = .pollActive then
    match Packet.data connection data with
    | .error fault => (.error fault, host)
    | .ok packet =>
        host.transmit
          (.debug ("NCI_DATA: conn " ++ toString connection.toNat ++ " len " ++
            toString data.length))
          packet.encode
  else
    (.error .rejected, host.note (host.controller.refusalLine "DATA"))

theorem controller_command (host : Host σ) (command : Command) :
    (host.command command).2.controller = host.controller := by
  unfold Host.command
  split
  · split <;> rfl
  · rfl

theorem controller_sendData (host : Host σ) (connection : UInt8) (data : Bytes) :
    (host.sendData connection data).2.controller = host.controller := by
  unfold Host.sendData
  split
  · split <;> rfl
  · rfl

/-- Why a packet that was read is no message, if it is none.  Segmentation is
looked at before the message. -/
def messageOf (header : Header) : Except Fault Message :=
  if header.segmented then .error (.malformed .segmented) else header.message

def packetFaultLine (header : Header) (fault : Fault) : Line :=
  if header.segmented then
    .error "NCI error: segmented packets are not supported"
  else
    .error ("NCI error: " ++ fault.message)

/-- Waits for one packet, reads it and takes in its message.  Fails when there
is no packet or it is no message; a message that is refused gives an event. -/
def process (host : Host σ) : Except Fault Event × Host σ :=
  match host.channel.receive with
  | (.error fault, channel) =>
      (.error fault,
        { host with channel := channel.note (.error ("NCI error: " ++ fault.message)) })
  | (.ok (header, payload), channel) =>
      match messageOf header with
      | .error fault =>
          (.error fault, { host with channel := channel.note (packetFaultLine header fault) })
      | .ok message =>
          let reception := host.controller.receive message payload
          (.ok reception.event,
            { controller := reception.controller, channel := channel.noteAll reception.lines })

end Host
end NfcHost

/-
The board a controller is soldered to.

The host reaches the controller over a two-wire bus.  The controller raises the
IRQ line while it has a packet to send, and stays in reset while the VEN line is
low.
-/

import NfcHost.Bytes

namespace NfcHost

inductive NoAcknowledge where
  | address
  | data
  | unknown
deriving DecidableEq, Repr

inductive BusFault where
  | bus
  | arbitrationLoss
  | noAcknowledge (source : NoAcknowledge)
  | overrun
  | other
deriving DecidableEq, Repr

def BusFault.name : BusFault → String
  | bus => "Bus"
  | arbitrationLoss => "ArbitrationLoss"
  | noAcknowledge .address => "NoAcknowledge(Address)"
  | noAcknowledge .data => "NoAcknowledge(Data)"
  | noAcknowledge .unknown => "NoAcknowledge(Unknown)"
  | overrun => "Overrun"
  | other => "Other"

inductive PinFault where
  | other
deriving DecidableEq, Repr

def PinFault.name : PinFault → String
  | other => "Other"

class Board (β : Type) where
  busWrite : UInt8 → Bytes → β → Except BusFault Unit × β
  /-- Reads from the device with the given address.  Gives the bytes that were
  put at the beginning of the buffer, whose size is given. -/
  busRead : UInt8 → Nat → β → Except BusFault Bytes × β
  irq : β → Except PinFault Bool × β
  setVen : Bool → β → Except PinFault Unit × β
  delay : Nat → β → β

end NfcHost

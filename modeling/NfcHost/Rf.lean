/-
Radio protocols, interfaces and technologies.

They are open sets of codes, because controllers report proprietary values
beside the ones named here.
-/

import NfcHost.Bytes

namespace NfcHost

structure RfProtocol where
  code : UInt8
deriving DecidableEq, Repr

namespace RfProtocol

def type1 : RfProtocol := ⟨0x01⟩
def type2 : RfProtocol := ⟨0x02⟩
def type3 : RfProtocol := ⟨0x03⟩

end RfProtocol

structure RfInterface where
  code : UInt8
deriving DecidableEq, Repr

namespace RfInterface

def frame : RfInterface := ⟨0x01⟩

end RfInterface

/-- A radio technology together with its mode, polling or listening. -/
structure RfTechnology where
  code : UInt8
deriving DecidableEq, Repr

namespace RfTechnology

def pollA : RfTechnology := ⟨0x00⟩
def pollF : RfTechnology := ⟨0x02⟩

def isListen (technology : RfTechnology) : Bool :=
  technology.code &&& 0x80 != 0

end RfTechnology

end NfcHost

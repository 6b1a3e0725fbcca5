import Mathlib.Data.List.Basic

namespace SpeedDaemonModel

/-- Modelled from the spec: `controller.rs` is not among the sources. A ticket carries the fields
    of the spec's Ticket message; the dispatcher registry reads only its road. -/
structure Ticket where
  plate : String
  road : UInt16
  mile1 : UInt16
  timestamp1 : UInt32
  mile2 : UInt16
  timestamp2 : UInt32
  speed : UInt16
deriving DecidableEq, Repr

/-- Modelled from the spec: `controller::Plate`, the observation a camera session forwards. -/
structure Plate where
  plate : String
  road : UInt16
  limit : UInt16
  mile : UInt16
  timestamp : UInt32
deriving DecidableEq, Repr

inductive ControllerMessage where
  | addDispatcher (id : Nat) (roads : List UInt16) (ticketSender : Nat)
  | removeDispatcher (id : Nat)
  | plate (plate : Plate)
deriving DecidableEq, Repr

def ControllerMessage.plate? : ControllerMessage → Option Plate
  | .plate observation => some observation
  | _ => none

end SpeedDaemonModel

namespace SpeedDaemonModel.Wire

/-- Modelled from the spec: `wire.rs` is not among the sources; tags and payloads are those of
    the spec's message catalog. -/
structure Plate where
  plate : String
  timestamp : UInt32
deriving DecidableEq, Repr

structure WantHeartbeat where
  interval : UInt32
deriving DecidableEq, Repr

structure IAmCamera where
  road : UInt16
  mile : UInt16
  limit : UInt16
deriving DecidableEq, Repr

structure IAmDispatcher where
  roads : List UInt16
deriving DecidableEq, Repr

def Plate.tag : UInt8 := 0x20
def WantHeartbeat.tag : UInt8 := 0x40
def IAmCamera.tag : UInt8 := 0x80
def IAmDispatcher.tag : UInt8 := 0x81

def clientTags : List UInt8 := [Plate.tag, WantHeartbeat.tag, IAmCamera.tag, IAmDispatcher.tag]

inductive Frame where
  | plate (message : Plate)
  | wantHeartbeat (message : WantHeartbeat)
  | iAmCamera (message : IAmCamera)
  | iAmDispatcher (message : IAmDispatcher)
  | unknown (tag : UInt8) (notClient : tag ∉ clientTags)
deriving DecidableEq, Repr

def Frame.tag : Frame → UInt8
  | .plate _ => Plate.tag
  | .wantHeartbeat _ => WantHeartbeat.tag
  | .iAmCamera _ => IAmCamera.tag
  | .iAmDispatcher _ => IAmDispatcher.tag
  | .unknown tag _ => tag

def Frame.isWantHeartbeat : Frame → Bool
  | .wantHeartbeat _ => true
  | _ => false

inductive ServerMessage where
  | error (msg : String)
  | ticket (ticket : Ticket)
  | heartbeat
deriving DecidableEq, Repr

def hexDigit (n : Nat) : Char := "0123456789abcdef".get ⟨n⟩

def hexByte (byte : UInt8) : String := String.mk [hexDigit (byte.toNat / 16), hexDigit (byte.toNat % 16)]

example : hexByte 0x81 = "81" ∧ hexByte 0x0a = "0a" := by decide

end SpeedDaemonModel.Wire

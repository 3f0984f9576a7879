import Mathlib.Data.List.Basic

/-!
# PRUDP packets as the server sees them (`prudp_server.go`)

The packet codec (`NewPRUDPPacketV0`, `NewPRUDPPacketV1` and the methods of
`PRUDPPacketInterface`) is not in the repository's files. `Packet` keeps the fields the server
reads or sets through that interface, and nothing of the wire layout. What the server does to
the outside world is a list of `Output`s: a packet written to the peer's address (`sendRaw`),
or an event handed to the subscribers (`emit`).
-/

namespace NexGo
set_option autoImplicit false

/-- `SynPacket`, `ConnectPacket`, `DataPacket`, `DisconnectPacket`, `PingPacket`. -/
inductive PacketType
  | syn
  | connect
  | data
  | disconnect
  | ping
  deriving DecidableEq, Repr

/-- `FlagAck`, `FlagReliable`, `FlagNeedsAck`, `FlagHasSize`, `FlagMultiAck`. -/
inductive Flag
  | ack
  | reliable
  | needsAck
  | hasSize
  | multiAck
  deriving DecidableEq, Repr

/-- A PRUDP packet of version 0 or 1. The v1 options (`maximumSubstreamID`, `minorVersion`,
`supportedFunctions`) are zero on a v0 packet. The signature is left out: no modelled function
reads it back. -/
structure Packet where
  version : Nat
  packetType : PacketType
  flags : List Flag
  sourceStreamType : BitVec 4
  sourcePort : BitVec 4
  destinationStreamType : BitVec 4
  destinationPort : BitVec 4
  sessionID : BitVec 8
  substreamID : BitVec 8
  sequenceID : BitVec 16
  fragmentID : BitVec 8
  connectionSignature : List (BitVec 8)
  payload : List (BitVec 8)
  maximumSubstreamID : BitVec 8
  minorVersion : BitVec 32
  supportedFunctions : BitVec 32
  rmcMessage : Option (List (BitVec 8))
  deriving DecidableEq, Repr

/-- `NewPRUDPPacketV0(client, nil)` and `NewPRUDPPacketV1(client, nil)`: an empty packet. -/
def newPRUDPPacket (version : Nat) : Packet where
  version := version
  packetType := .syn
  flags := []
  sourceStreamType := 0
  sourcePort := 0
  destinationStreamType := 0
  destinationPort := 0
  sessionID := 0
  substreamID := 0
  sequenceID := 0
  fragmentID := 0
  connectionSignature := []
  payload := []
  maximumSubstreamID := 0
  minorVersion := 0
  supportedFunctions := 0
  rmcMessage := none

def newPRUDPPacketV0 : Packet := newPRUDPPacket 0
def newPRUDPPacketV1 : Packet := newPRUDPPacket 1

namespace Packet

/-- `HasFlag`. -/
def hasFlag (p : Packet) (f : Flag) : Bool := f ∈ p.flags

/-- `AddFlag`. -/
def addFlag (p : Packet) (f : Flag) : Packet := { p with flags := p.flags.insert f }

@[simp] theorem hasFlag_addFlag (p : Packet) (f g : Flag) :
    (p.addFlag f).hasFlag g = (g = f || p.hasFlag g) := by
  simp [hasFlag, addFlag, List.mem_insert_iff]

end Packet

/-- What a handler does outside the server's state. -/
inductive Output
  /-- `sendRaw(client.address, packet.Bytes())`. -/
  | sent (p : Packet)
  /-- `emit(name, packet)`: every handler of `name` is started in a goroutine of its own with the
  packet object itself; `p` is that packet as the handlers read it (`emitReliableData`). -/
  | emitted (name : String) (p : Packet)
  deriving DecidableEq, Repr

/-- The packets of the `reliable-data` events among `outs`. -/
def reliableData (outs : List Output) : List Packet :=
  outs.filterMap fun
    | .emitted "reliable-data" p => some p
    | _ => none

/-- The names of the events among `outs`, in the order they were emitted. -/
def eventNames (outs : List Output) : List String :=
  outs.filterMap fun
    | .emitted name _ => some name
    | _ => none

/-- The packets written to the socket among `outs`. -/
def sentPackets (outs : List Output) : List Packet :=
  outs.filterMap fun
    | .sent p => some p
    | _ => none

end NexGo

import NexGo.Server.Packet

/-!
# Peers, their reliable substreams, and the server's settings

`PRUDPClient` and `ReliablePacketSubstreamManager` are not in the repository's files; the server
calls `reliableSubstream`, `NextOutgoingSequenceID`, `Encrypt`, `Update`, `AddFragment`,
`ResetFragmentedPayload`, `decryptPayload` and the resend scheduler's `AddPacket`,
`AcknowledgePacket` and `Each` on them. Each is modelled from the spec (§3, §4.2). RC4 is a
keystream function `keystream key position`, a parameter: a direction of a substream is its key
and how many keystream bytes it has used, and `Encrypt`/`Decrypt` xor the data with the next
bytes. Timers (heartbeat, retransmission) are left out.
-/

namespace NexGo
set_option autoImplicit false

/-- One RC4 direction of a substream: its key and how far into the keystream it is. -/
structure Cipher where
  key : List (BitVec 8)
  position : Nat
  deriving DecidableEq, Repr

section Cipher

variable (keystream : List (BitVec 8) → Nat → BitVec 8)

/-- The bytes of `data` xored with the keystream of `key` from `position` on. -/
def xorKeystream (key : List (BitVec 8)) : Nat → List (BitVec 8) → List (BitVec 8)
  | _, [] => []
  | position, b :: bs => (b ^^^ keystream key position) :: xorKeystream key (position + 1) bs

/-- Modelled from the spec: `Encrypt` and `Decrypt` of one direction, which move it past the
data. -/
def Cipher.crypt (c : Cipher) (data : List (BitVec 8)) : List (BitVec 8) × Cipher :=
  (xorKeystream keystream c.key c.position data, { c with position := c.position + data.length })

@[simp] theorem length_xorKeystream (key : List (BitVec 8)) (position : Nat) (data : List (BitVec 8)) :
    (xorKeystream keystream key position data).length = data.length := by
  induction data generalizing position <;> simp [xorKeystream, *]

/-- Decrypting at the position a payload was encrypted at gives the payload back. -/
theorem xorKeystream_xorKeystream (key : List (BitVec 8)) (position : Nat) (data : List (BitVec 8)) :
    xorKeystream keystream key position (xorKeystream keystream key position data) = data := by
  induction data generalizing position <;> simp [xorKeystream, BitVec.xor_assoc, *]

end Cipher

/-- Modelled from the spec: the retransmission scheduler's map from sequence id to the pending
packet. The map is a list with one packet per sequence id. -/
structure ResendScheduler where
  packets : List Packet
  deriving DecidableEq, Repr

namespace ResendScheduler

/-- Modelled from the spec: `AddPacket`, under the packet's sequence id. -/
def addPacket (r : ResendScheduler) (p : Packet) : ResendScheduler :=
  ⟨r.packets.filter (·.sequenceID ≠ p.sequenceID) ++ [p]⟩

/-- Modelled from the spec: `AcknowledgePacket(id)` removes the entry of `id`, if any. -/
def acknowledgePacket (r : ResendScheduler) (sequenceID : BitVec 16) : ResendScheduler :=
  ⟨r.packets.filter (·.sequenceID ≠ sequenceID)⟩

/-- The sequence ids of the pending packets, in the order `Each` visits them. -/
def ids (r : ResendScheduler) : List (BitVec 16) := r.packets.map (·.sequenceID)

end ResendScheduler

/-- Modelled from the spec: a `ReliablePacketSubstreamManager`. -/
structure ReliableSubstream where
  /-- The id `NextOutgoingSequenceID` hands out next. -/
  outgoingSequenceID : BitVec 16
  /-- The id `Update` releases next. -/
  incomingSequenceID : BitVec 16
  /-- Packets that arrived ahead of `incomingSequenceID`. -/
  buffered : List Packet
  fragmentedPayload : List (BitVec 8)
  cipherIn : Cipher
  cipherOut : Cipher
  resendScheduler : ResendScheduler
  deriving DecidableEq, Repr

/-- Modelled from the spec: a fresh substream keyed with `key`; both counters start at `1`. -/
def newReliableSubstream (key : List (BitVec 8)) : ReliableSubstream where
  outgoingSequenceID := 1
  incomingSequenceID := 1
  buffered := []
  fragmentedPayload := []
  cipherIn := ⟨key, 0⟩
  cipherOut := ⟨key, 0⟩
  resendScheduler := ⟨[]⟩

namespace ReliableSubstream

/-- Modelled from the spec: `NextOutgoingSequenceID` returns the counter and advances it. -/
def nextOutgoingSequenceID (sub : ReliableSubstream) : BitVec 16 × ReliableSubstream :=
  (sub.outgoingSequenceID, { sub with outgoingSequenceID := sub.outgoingSequenceID + 1 })

/-- Modelled from the spec: `Encrypt`, with the outgoing direction. -/
def encrypt (keystream : List (BitVec 8) → Nat → BitVec 8) (sub : ReliableSubstream)
    (data : List (BitVec 8)) : List (BitVec 8) × ReliableSubstream :=
  let (out, c) := sub.cipherOut.crypt keystream data
  (out, { sub with cipherOut := c })

/-- Modelled from the spec: `pendingPacket.decryptPayload()`, with the incoming direction of
the packet's substream. -/
def decryptPayload (keystream : List (BitVec 8) → Nat → BitVec 8) (sub : ReliableSubstream)
    (p : Packet) : List (BitVec 8) × ReliableSubstream :=
  let (out, c) := sub.cipherIn.crypt keystream p.payload
  (out, { sub with cipherIn := c })

/-- Modelled from the spec: `AddFragment` appends to the accumulator and returns all of it. -/
def addFragment (sub : ReliableSubstream) (data : List (BitVec 8)) :
    List (BitVec 8) × ReliableSubstream :=
  (sub.fragmentedPayload ++ data, { sub with fragmentedPayload := sub.fragmentedPayload ++ data })

/-- Modelled from the spec: `ResetFragmentedPayload`. -/
def resetFragmentedPayload (sub : ReliableSubstream) : ReliableSubstream :=
  { sub with fragmentedPayload := [] }

/-- The buffered packets from `next` on, in order, as far as they run without a gap; at most
`fuel` of them. Returns them, the id after the last, and what stays buffered. -/
def release : Nat → BitVec 16 → List Packet → List Packet × BitVec 16 × List Packet
  | 0, next, buffered => ([], next, buffered)
  | fuel + 1, next, buffered =>
    match buffered.find? (·.sequenceID = next) with
    | none => ([], next, buffered)
    | some p =>
      let (ready, next', rest) := release fuel (next + 1) (buffered.filter (·.sequenceID ≠ next))
      (p :: ready, next', rest)

/-- Modelled from the spec: `Update` buffers the packet under its sequence id, then releases the
buffered packets from the expected id on, in order, up to the first gap. -/
def update (sub : ReliableSubstream) (p : Packet) : List Packet × ReliableSubstream :=
  let buffered := sub.buffered.filter (·.sequenceID ≠ p.sequenceID) ++ [p]
  let (ready, next, rest) := release buffered.length sub.incomingSequenceID buffered
  (ready, { sub with incomingSequenceID := next, buffered := rest })

end ReliableSubstream

/-- Modelled from the spec: a `PRUDPClient`, the server's state for one remote address. -/
structure PRUDPClient where
  address : String
  pid : BitVec 32
  sessionKey : List (BitVec 8)
  clientConnectionSignature : List (BitVec 8)
  serverConnectionSignature : List (BitVec 8)
  sourceStreamType : BitVec 4
  sourcePort : BitVec 4
  destinationStreamType : BitVec 4
  destinationPort : BitVec 4
  minorVersion : BitVec 32
  supportedFunctions : BitVec 32
  reliableSubstreams : List ReliableSubstream
  outgoingUnreliableSequenceID : BitVec 16
  outgoingPingSequenceID : BitVec 16
  deriving DecidableEq, Repr

/-- Modelled from the spec: `NewPRUDPClient(addr, s)`, before any SYN. The spec does not say where
the unreliable DATA and PING counters start; the model starts them at `0`, and no result rests on
that: the counter lemmas count from whatever value a counter holds (`CountsOut`). -/
def newPRUDPClient (address : String) : PRUDPClient where
  address := address
  pid := 0
  sessionKey := []
  clientConnectionSignature := []
  serverConnectionSignature := []
  sourceStreamType := 0
  sourcePort := 0
  destinationStreamType := 0
  destinationPort := 0
  minorVersion := 0
  supportedFunctions := 0
  reliableSubstreams := []
  outgoingUnreliableSequenceID := 0
  outgoingPingSequenceID := 0

namespace PRUDPClient

/-- Modelled from the spec: `reliableSubstream(id)`, the table's entry `id`. Go indexes a
slice there; the model has `none` where Go would fail. -/
def reliableSubstream (c : PRUDPClient) (id : BitVec 8) : Option ReliableSubstream :=
  c.reliableSubstreams[id.toNat]?

/-- The client with entry `id` of its substream table replaced. -/
def setReliableSubstream (c : PRUDPClient) (id : BitVec 8) (sub : ReliableSubstream) : PRUDPClient :=
  { c with reliableSubstreams := c.reliableSubstreams.set id.toNat sub }

/-- Modelled from the spec: `createReliableSubstreams(max)` makes substreams `0 … max`, keyed with
the session key. -/
def createReliableSubstreams (c : PRUDPClient) (maxSubstreamID : BitVec 8) : PRUDPClient :=
  { c with reliableSubstreams := List.replicate (maxSubstreamID.toNat + 1) (newReliableSubstream c.sessionKey) }

/-- Modelled from the spec: `nextOutgoingUnreliableSequenceID`. -/
def nextOutgoingUnreliableSequenceID (c : PRUDPClient) : BitVec 16 × PRUDPClient :=
  (c.outgoingUnreliableSequenceID, { c with outgoingUnreliableSequenceID := c.outgoingUnreliableSequenceID + 1 })

/-- Modelled from the spec: `nextOutgoingPingSequenceID`. -/
def nextOutgoingPingSequenceID (c : PRUDPClient) : BitVec 16 × PRUDPClient :=
  (c.outgoingPingSequenceID, { c with outgoingPingSequenceID := c.outgoingPingSequenceID + 1 })

@[simp] theorem reliableSubstream_setReliableSubstream (c : PRUDPClient) (id : BitVec 8)
    (sub : ReliableSubstream) (h : c.reliableSubstream id ≠ none) :
    (c.setReliableSubstream id sub).reliableSubstream id = some sub := by
  simp only [reliableSubstream, setReliableSubstream] at h ⊢
  rw [List.getElem?_set_self]
  simpa [List.getElem?_eq_none_iff] using h

theorem reliableSubstream_setReliableSubstream_of_ne (c : PRUDPClient) {id i : BitVec 8}
    (sub : ReliableSubstream) (h : id ≠ i) :
    (c.setReliableSubstream id sub).reliableSubstream i = c.reliableSubstream i := by
  simp only [reliableSubstream, setReliableSubstream]
  exact List.getElem?_set_ne fun he => h (BitVec.eq_of_toNat_eq he)

end PRUDPClient

/-- The settings of a `PRUDPServer` that the modelled handlers read. -/
structure PRUDPServer where
  prudpVersion : Nat
  isSecureServer : Bool
  kerberosPassword : List (BitVec 8)
  /-- `FragmentSize`, a Go `int`, here a natural number: the model leaves out negative sizes, with
  which `Send` sends nothing (at least as many bytes as the size's magnitude) or panics slicing
  `data[:FragmentSize]` (fewer). -/
  fragmentSize : Nat
  deriving DecidableEq, Repr

/-- `NewPRUDPServer`: version 0, not secure, fragments of 1300 bytes. -/
def newPRUDPServer : PRUDPServer where
  prudpVersion := 0
  isSecureServer := false
  kerberosPassword := []
  fragmentSize := 1300

end NexGo

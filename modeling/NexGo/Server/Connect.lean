import NexGo.Stream.StreamIn
import NexGo.Stream.ByteStreamOut
import NexGo.Server.Peer

/-!
# CONNECT: `readKerberosTicket` and `handleConnect` (`prudp_server.go`)

`readKerberosTicket` (lines 348-403) reads two buffers, decrypts the ticket with the key derived
from the server's password, rejects a ticket issued more than two minutes ago, decrypts the
request with the ticket's session key and reads three `uint32`s from it; any failure returns
`nil, 0, 0, err`. `handleConnect` (lines 250-319) prints that error and goes on: on a secure
server it sets the peer's PID and session key to whatever came back and sends the CONNECT-ACK
in every case. The Kerberos primitives and the connection signature are not in the repository's
files; they are the fields of `ConnectPrimitives`, and times are nanoseconds.

`readKerberosTicket_window` pins the ticket's window at both ends: a well-formed ticket and request
are accepted up to and including two minutes after the ticket was issued and rejected as expired
after that.
-/

namespace NexGo
set_option autoImplicit false

/-- The fields of a decrypted `KerberosTicketInternalData` that `readKerberosTicket` uses:
`Issued.Standard()` in nanoseconds, and the session key. -/
structure KerberosTicketInternalData where
  issued : Nat
  sessionKey : List (BitVec 8)
  deriving DecidableEq, Repr

/-- Modelled from the spec: what `handleConnect` calls that is not in the repository's files. -/
structure ConnectPrimitives where
  /-- `packet.calculateConnectionSignature(addr)`. -/
  calculateConnectionSignature : Packet → String → List (BitVec 8)
  /-- `DeriveKerberosKey(pid, password)`. -/
  deriveKerberosKey : Nat → List (BitVec 8) → List (BitVec 8)
  /-- `ticket.Decrypt(NewStreamIn(ticketData), key)`, MAC check included. -/
  decryptTicket : List (BitVec 8) → List (BitVec 8) → Except String KerberosTicketInternalData
  /-- `NewKerberosEncryption(key).Decrypt(data)`, MAC check included. -/
  decrypt : List (BitVec 8) → List (BitVec 8) → Except String (List (BitVec 8))

/-- A reader run on a stream, as Go's pair of a value and an error. -/
def StreamIn.attempt {α : Type} (read : EStateM String StreamIn α) (s : StreamIn) :
    Except String (α × StreamIn) :=
  match read s with
  | .ok a s => .ok (a, s)
  | .error e _ => .error e

/-- `readKerberosTicket`: the session key, the user PID and the check value of a CONNECT payload
at server time `now`. -/
def readKerberosTicket (prims : ConnectPrimitives) (now : Nat) (server : PRUDPServer)
    (payload : List (BitVec 8)) : Except String (List (BitVec 8) × BitVec 32 × BitVec 32) := do
  let (ticketData, stream) ← StreamIn.attempt StreamIn.readBuffer (newStreamIn payload)
  let (requestData, _) ← StreamIn.attempt StreamIn.readBuffer stream
  let serverKey := prims.deriveKerberosKey 2 server.kerberosPassword
  let ticket ← prims.decryptTicket ticketData serverKey
  if now > ticket.issued + 2 * 60 * 1000000000 then
    throw "Kerberos ticket expired"
  let decryptedRequestData ← prims.decrypt ticket.sessionKey requestData
  let checkDataStream := newStreamIn decryptedRequestData
  let (userPID, checkDataStream) ← StreamIn.attempt StreamIn.readUInt32LE checkDataStream
  let (_, checkDataStream) ← StreamIn.attempt StreamIn.readUInt32LE checkDataStream
  let (responseCheck, _) ← StreamIn.attempt StreamIn.readUInt32LE checkDataStream
  pure (ticket.sessionKey, userPID, responseCheck)

/-- Modelled from the spec: `setSessionKey` stores the key and rekeys both directions of every
substream with it. -/
def PRUDPClient.setSessionKey (c : PRUDPClient) (sessionKey : List (BitVec 8)) : PRUDPClient :=
  { c with
    sessionKey := sessionKey
    reliableSubstreams := c.reliableSubstreams.map fun sub =>
      { sub with cipherIn := ⟨sessionKey, 0⟩, cipherOut := ⟨sessionKey, 0⟩ } }

/-- Modelled from the spec: the CONNECT-ACK payload of a secure server, a `Buffer` of the four
bytes of `checkValue + 1`, written with `StreamOut.WriteUInt32LE`, which is not in the
repository's files and writes as `ByteStreamOut` does. -/
def connectResponse (checkValue : BitVec 32) : List (BitVec 8) :=
  ((newByteStreamOut.writePrimitiveUInt32LE 4).writePrimitiveUInt32LE (checkValue + 1)).bytes

/-- The CONNECT-ACK before its payload: type, flags, ports swapped, a zero connection signature
as long as the computed one, session id `0`, sequence id `1`, and for v1 the client's options. -/
def connectAck (prims : ConnectPrimitives) (client : PRUDPClient) (packet : Packet) : Packet :=
  let ack := if packet.version = 0 then newPRUDPPacketV0 else newPRUDPPacketV1
  let connectionSignature := prims.calculateConnectionSignature packet client.address
  let ack : Packet := { (ack.addFlag .ack).addFlag .hasSize with
    packetType := .connect
    sourceStreamType := packet.destinationStreamType
    sourcePort := packet.destinationPort
    destinationStreamType := packet.sourceStreamType
    destinationPort := packet.sourcePort
    connectionSignature := List.replicate connectionSignature.length 0
    sessionID := 0
    sequenceID := 1 }
  if ack.version = 0 then ack
  else { ack with
    maximumSubstreamID := packet.maximumSubstreamID
    minorVersion := packet.minorVersion
    supportedFunctions := packet.supportedFunctions }

/-- `handleConnect` at server time `now`: the peer after it, and the `connect` event and the
CONNECT-ACK it sends. -/
def handleConnect (prims : ConnectPrimitives) (now : Nat) (server : PRUDPServer)
    (client : PRUDPClient) (packet : Packet) : PRUDPClient × List Output :=
  let client := { client with serverConnectionSignature := packet.connectionSignature }
  let ack := connectAck prims client packet
  let client :=
    if ack.version = 0 then client.createReliableSubstreams 0
    else ({ client with minorVersion := ack.minorVersion, supportedFunctions := ack.supportedFunctions }).createReliableSubstreams ack.maximumSubstreamID
  let (client, payload) :=
    if server.isSecureServer then
      let (sessionKey, pid, checkValue) :=
        (readKerberosTicket prims now server packet.payload).toOption.getD ([], 0, 0)
      (({ client with pid := pid } : PRUDPClient).setSessionKey sessionKey, connectResponse checkValue)
    else (client, [])
  let ack := { ack with payload := payload }
  (client, [.emitted "connect" ack, .sent ack])

/-! ## What `readKerberosTicket` accepts -/

/-- Primitives that keep everything in the clear: the password is the key, a ticket is its
session key issued at time `0`, and a request is its own plaintext. -/
def plainPrimitives : ConnectPrimitives where
  calculateConnectionSignature _ _ := List.replicate 16 0
  deriveKerberosKey _ password := password
  decryptTicket data _ := .ok ⟨0, data⟩
  decrypt _ data := .ok data

/-- A NEX `Buffer`: its length as a `uint32`, then its bytes. -/
def encodeBuffer (data : List (BitVec 8)) : List (BitVec 8) := encodeLE 4 data.length ++ data

section Attempt

variable (bytes : List (BitVec 8)) (offset : Nat) {rest : List (BitVec 8)}

theorem attempt_readBuffer {data : List (BitVec 8)} (h : bytes.drop offset = encodeBuffer data ++ rest)
    (hd : data.length < 2 ^ 32) :
    StreamIn.attempt StreamIn.readBuffer ⟨bytes, offset⟩ = .ok (data, ⟨bytes, offset + 4 + data.length⟩) := by
  have hmod : data.length % 256 ^ 4 = data.length := Nat.mod_eq_of_lt hd
  have hr : StreamIn.readBuffer ⟨bytes, offset⟩ =
      .ok ((data ++ rest).take (data.length % 256 ^ 4)) ⟨bytes, offset + 4 + data.length % 256 ^ 4⟩ :=
    StreamIn.readSized_of_unread (by rw [StreamIn.unread, h, encodeBuffer, List.append_assoc])
      (by rw [hmod, List.length_append]; exact Nat.le_add_right _ _)
  simp only [StreamIn.attempt, hr, hmod, List.take_left]

theorem attempt_readUInt32LE (v : BitVec 32) (h : bytes.drop offset = encodeLE 4 v.toNat ++ rest) :
    StreamIn.attempt StreamIn.readUInt32LE ⟨bytes, offset⟩ = .ok (v, ⟨bytes, offset + 4⟩) := by
  simp only [StreamIn.attempt, StreamIn.readUInt32LE,
    StreamIn.readPrimitive_of_unread (show (⟨bytes, offset⟩ : StreamIn).unread = _ from h)
      (length_encodeLE 4 _), StreamIn.wordLE, ofNat_decodeLE_encodeLE]

end Attempt

section Ticket

variable (prims : ConnectPrimitives) (now : Nat) (server : PRUDPServer)

/-- A payload shorter than a `uint32` fails at the ticket's length. -/
theorem readKerberosTicket_of_length_lt {payload : List (BitVec 8)} (h : payload.length < 4) :
    readKerberosTicket prims now server payload =
      .error "Failed to read NEX buffer length. Not enough data to read uint32" := by
  simp [readKerberosTicket, StreamIn.attempt, StreamIn.readBuffer, StreamIn.readUInt32LE,
    StreamIn.readSized_of_lt (show (newStreamIn payload).remaining < 4 from h), bind, Except.bind]

/-- The two buffers of a CONNECT payload, read back. -/
theorem attempt_readBuffers (ticketData requestData rest : List (BitVec 8)) (ht : ticketData.length < 2 ^ 32)
    (hr : requestData.length < 2 ^ 32) :
    StreamIn.attempt StreamIn.readBuffer ⟨encodeBuffer ticketData ++ encodeBuffer requestData ++ rest, 0⟩ =
        .ok (ticketData, ⟨encodeBuffer ticketData ++ encodeBuffer requestData ++ rest, 0 + 4 + ticketData.length⟩) ∧
      StreamIn.attempt StreamIn.readBuffer
          ⟨encodeBuffer ticketData ++ encodeBuffer requestData ++ rest, 0 + 4 + ticketData.length⟩ =
        .ok (requestData, ⟨encodeBuffer ticketData ++ encodeBuffer requestData ++ rest,
          0 + 4 + ticketData.length + 4 + requestData.length⟩) :=
  ⟨attempt_readBuffer _ 0 (by rw [List.drop_zero, List.append_assoc]) ht,
    attempt_readBuffer _ _ (by rw [List.append_assoc]; exact List.drop_left' (by simp [encodeBuffer]; omega)) hr⟩

variable {ticketData requestData rest : List (BitVec 8)} {ticket : KerberosTicketInternalData}

/-- Two buffers whose ticket decrypts under the server key and is at most two minutes old, and
whose request decrypts under the ticket's session key to three `uint32`s and more, give the
session key, the first `uint32` as the user PID and the third as the check value. -/
theorem readKerberosTicket_of_valid (ht : ticketData.length < 2 ^ 32) (hr : requestData.length < 2 ^ 32)
    (hticket : prims.decryptTicket ticketData (prims.deriveKerberosKey 2 server.kerberosPassword) = .ok ticket)
    (hnow : now ≤ ticket.issued + 2 * 60 * 1000000000) {userPID cid checkValue : BitVec 32}
    {more : List (BitVec 8)}
    (hrequest : prims.decrypt ticket.sessionKey requestData =
      .ok (encodeLE 4 userPID.toNat ++ encodeLE 4 cid.toNat ++ encodeLE 4 checkValue.toNat ++ more)) :
    readKerberosTicket prims now server (encodeBuffer ticketData ++ encodeBuffer requestData ++ rest) =
      .ok (ticket.sessionKey, userPID, checkValue) := by
  obtain ⟨h1, h2⟩ := attempt_readBuffers ticketData requestData rest ht hr
  have h3 := attempt_readUInt32LE (encodeLE 4 userPID.toNat ++ encodeLE 4 cid.toNat ++
    encodeLE 4 checkValue.toNat ++ more) 0 userPID
    (by rw [List.drop_zero, List.append_assoc, List.append_assoc])
  have h4 := attempt_readUInt32LE (encodeLE 4 userPID.toNat ++ encodeLE 4 cid.toNat ++
    encodeLE 4 checkValue.toNat ++ more) (0 + 4) cid
    (by rw [List.append_assoc, List.append_assoc]; exact List.drop_left' (length_encodeLE 4 _))
  have h5 := attempt_readUInt32LE (encodeLE 4 userPID.toNat ++ encodeLE 4 cid.toNat ++
    encodeLE 4 checkValue.toNat ++ more) (0 + 4 + 4) checkValue
    (by rw [List.append_assoc, List.append_assoc, ← List.append_assoc (encodeLE 4 _)]
        exact List.drop_left' (by simp))
  simp only [readKerberosTicket, newStreamIn, h1, h2, hticket, hrequest, h3, h4, h5, bind, Except.bind,
    pure, Except.pure, gt_iff_lt, Nat.not_lt.2 hnow, if_false]

/-- A ticket that decrypts but was issued more than two minutes ago is rejected, whatever the
request. -/
theorem readKerberosTicket_of_expired (ht : ticketData.length < 2 ^ 32) (hr : requestData.length < 2 ^ 32)
    (hticket : prims.decryptTicket ticketData (prims.deriveKerberosKey 2 server.kerberosPassword) = .ok ticket)
    (hexp : ticket.issued + 2 * 60 * 1000000000 < now) :
    readKerberosTicket prims now server (encodeBuffer ticketData ++ encodeBuffer requestData ++ rest) =
      .error "Kerberos ticket expired" := by
  obtain ⟨h1, h2⟩ := attempt_readBuffers ticketData requestData rest ht hr
  simp only [readKerberosTicket, newStreamIn, h1, h2, hticket, bind, Except.bind, gt_iff_lt, hexp, if_true]

/-- The ticket's window, both ends: a ticket and request as in `readKerberosTicket_of_valid` are
accepted up to and including two minutes after the ticket was issued, and rejected as expired from
the next nanosecond on. -/
theorem readKerberosTicket_window (ht : ticketData.length < 2 ^ 32) (hr : requestData.length < 2 ^ 32)
    (hticket : prims.decryptTicket ticketData (prims.deriveKerberosKey 2 server.kerberosPassword) = .ok ticket)
    {userPID cid checkValue : BitVec 32} {more : List (BitVec 8)}
    (hrequest : prims.decrypt ticket.sessionKey requestData =
      .ok (encodeLE 4 userPID.toNat ++ encodeLE 4 cid.toNat ++ encodeLE 4 checkValue.toNat ++ more)) :
    readKerberosTicket prims now server (encodeBuffer ticketData ++ encodeBuffer requestData ++ rest) =
      if now ≤ ticket.issued + 2 * 60 * 1000000000 then .ok (ticket.sessionKey, userPID, checkValue)
      else .error "Kerberos ticket expired" := by
  split_ifs with hnow
  · exact readKerberosTicket_of_valid prims now server ht hr hticket hnow hrequest
  · exact readKerberosTicket_of_expired prims now server ht hr hticket (Nat.lt_of_not_le hnow)

/-- A ticket carrying session key `[1, 2]`, issued at time `0` under `plainPrimitives`, with the
request of the spec's secure handshake (user PID `1234`, check value `0xDEADBEEF`): accepted two
minutes on, rejected one nanosecond later. -/
theorem readKerberosTicket_window_edge :
    let request : List (BitVec 8) := encodeLE 4 (1234 : BitVec 32).toNat ++ encodeLE 4 (2 : BitVec 32).toNat ++
      encodeLE 4 (0xDEADBEEF : BitVec 32).toNat ++ []
    readKerberosTicket plainPrimitives (2 * 60 * 1000000000) newPRUDPServer
        (encodeBuffer [1, 2] ++ encodeBuffer request ++ []) = .ok ([1, 2], 1234, 0xDEADBEEF) ∧
      readKerberosTicket plainPrimitives (2 * 60 * 1000000000 + 1) newPRUDPServer
        (encodeBuffer [1, 2] ++ encodeBuffer request ++ []) = .error "Kerberos ticket expired" :=
  ⟨(readKerberosTicket_window plainPrimitives _ newPRUDPServer (by decide) (by decide) rfl rfl).trans (if_pos (by decide)),
    (readKerberosTicket_window plainPrimitives _ newPRUDPServer (by decide) (by decide) rfl rfl).trans
      (if_neg (by decide))⟩

end Ticket

/-! ## What `handleConnect` does with the ticket -/

/-- What a peer and its CONNECT-ACK hold after a CONNECT with `payload`: the ticket's user PID
and session key and the check value plus one when `readKerberosTicket` accepts it, and `0`,
the empty key and `1` when it rejects it. -/
def ticketOutcome (prims : ConnectPrimitives) (now : Nat) (server : PRUDPServer)
    (payload : List (BitVec 8)) (client : PRUDPClient) (ack : Packet) : Prop :=
  match readKerberosTicket prims now server payload with
  | .ok (sessionKey, pid, checkValue) =>
    client.pid = pid ∧ client.sessionKey = sessionKey ∧ ack.payload = connectResponse checkValue
  | .error _ => client.pid = 0 ∧ client.sessionKey = [] ∧ ack.payload = connectResponse 0

section Connect

variable (prims : ConnectPrimitives) (now : Nat) (server : PRUDPServer) (client : PRUDPClient)
  (packet : Packet)

@[simp] theorem packetType_connectAck : (connectAck prims client packet).packetType = .connect := by
  unfold connectAck; split <;> rfl

@[simp] theorem version_connectAck :
    (connectAck prims client packet).version = if packet.version = 0 then 0 else 1 := by
  unfold connectAck; split_ifs <;> rfl

/-- On a secure server the peer's PID and session key, and the check value in the ACK, are what
`readKerberosTicket` returned, `nil, 0, 0` on an error. -/
theorem handleConnect_of_secure_getD (h : server.isSecureServer = true) :
    let r := (readKerberosTicket prims now server packet.payload).toOption.getD ([], 0, 0)
    (handleConnect prims now server client packet).1.pid = r.2.1 ∧
      (handleConnect prims now server client packet).1.sessionKey = r.1 ∧
      ∃ ack : Packet, ack.packetType = .connect ∧ ack.payload = connectResponse r.2.2 ∧
        (handleConnect prims now server client packet).2 = [.emitted "connect" ack, .sent ack] := by
  simp [handleConnect, h, PRUDPClient.setSessionKey]

/-- On a secure server `handleConnect` emits `connect` and sends the CONNECT-ACK whatever the
payload, and the peer and the ACK hold the ticket's outcome. -/
theorem handleConnect_of_secure (h : server.isSecureServer = true) :
    ∃ ack : Packet, ack.packetType = .connect ∧
      (handleConnect prims now server client packet).2 = [.emitted "connect" ack, .sent ack] ∧
      ticketOutcome prims now server packet.payload (handleConnect prims now server client packet).1 ack := by
  obtain ⟨hpid, hkey, ack, htype, hpayload, houts⟩ := handleConnect_of_secure_getD prims now server client packet h
  refine ⟨ack, htype, houts, ?_⟩
  unfold ticketOutcome
  split <;> simp_all [Except.toOption]

end Connect

end NexGo

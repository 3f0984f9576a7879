import NexGo.Server.Connect
import NexGo.Server.Reliable
import NexGo.Server.MultiAck

/-!
# The dispatcher: `processPacket` and its handlers (`prudp_server.go`)

`processPacket` (lines 135-155) sends a packet with `ACK` or `MULTI_ACK` to
`handleAcknowledgment` and every other by type to `handleSyn`, `handleConnect`, `handleData`,
`handleDisconnect` or `handlePing`. Here it works on the one peer the packet came from, at
server time `now`; the registry entry that `handleDisconnect` deletes belongs to the registry's
model. Resetting the heartbeat is left out with the timers.

`processTrace` runs it over the packets a peer sends, keeping after each packet the peer and
what was sent and emitted. From it: what a peer holds whenever a CONNECT-ACK goes out; that a
packet asking for an acknowledgment gets its ACK first, untouched by `sendPacket`; and that
every packet the handlers send is of the version of the packet it answers, while the heartbeat
`sendPing` follows the server's `PRUDPVersion`.
-/

namespace NexGo
set_option autoImplicit false

/-- Modelled from the spec: `reset` on SYN clears the connection signatures and the substream
table, which CONNECT creates again. -/
def PRUDPClient.reset (c : PRUDPClient) : PRUDPClient :=
  { c with clientConnectionSignature := [], serverConnectionSignature := [], reliableSubstreams := [] }

/-- Modelled from the spec: `cleanup` stops the timers and clears the substreams. -/
def PRUDPClient.cleanup (c : PRUDPClient) : PRUDPClient := { c with reliableSubstreams := [] }

section Dispatch

variable (keystream : List (BitVec 8) → Nat → BitVec 8) (prims : ConnectPrimitives) (now : Nat)
  (server : PRUDPServer)

/-- `handleAcknowledgment`: a multi-ack, or the one id taken out of its substream's scheduler. -/
def handleAcknowledgment (client : PRUDPClient) (packet : Packet) : Option PRUDPClient :=
  if packet.hasFlag .multiAck then handleMultiAcknowledgment client packet
  else do
    let sub ← client.reliableSubstream packet.substreamID
    pure (client.setReliableSubstream packet.substreamID
      { sub with resendScheduler := sub.resendScheduler.acknowledgePacket packet.sequenceID })

/-- `handleSyn`: the peer reset and given the SYN's streams and the connection signature, and
the SYN-ACK that carries it, of the SYN's version. -/
def handleSyn (client : PRUDPClient) (packet : Packet) : PRUDPClient × List Output :=
  let ack := if packet.version = 0 then newPRUDPPacketV0 else newPRUDPPacketV1
  let connectionSignature := prims.calculateConnectionSignature packet client.address
  let client := { client.reset with
    clientConnectionSignature := connectionSignature
    sourceStreamType := packet.sourceStreamType
    sourcePort := packet.sourcePort
    destinationStreamType := packet.destinationStreamType
    destinationPort := packet.destinationPort }
  let ack : Packet := { (ack.addFlag .ack).addFlag .hasSize with
    packetType := .syn
    sourceStreamType := packet.destinationStreamType
    sourcePort := packet.destinationPort
    destinationStreamType := packet.sourceStreamType
    destinationPort := packet.sourcePort
    connectionSignature := connectionSignature }
  (client, [.emitted "syn" ack, .sent ack])

/-- `handleData`: `handleReliable` for a reliable packet; `handleUnreliable` does nothing. -/
def handleData (client : PRUDPClient) (packet : Packet) : Option (PRUDPClient × List Output) :=
  if packet.hasFlag .reliable then handleReliable keystream client packet else some (client, [])

/-- `handleDisconnect`: the acknowledgment if asked for, `cleanup`, and the `disconnect` event. -/
def handleDisconnect (client : PRUDPClient) (packet : Packet) : Option (PRUDPClient × List Output) := do
  let (client, acks) ←
    if packet.hasFlag .needsAck then acknowledgePacket keystream client packet else pure (client, [])
  pure (client.cleanup, acks ++ [.emitted "disconnect" packet])

/-- `handlePing`: the acknowledgment if asked for. -/
def handlePing (client : PRUDPClient) (packet : Packet) : Option (PRUDPClient × List Output) :=
  if packet.hasFlag .needsAck then acknowledgePacket keystream client packet else some (client, [])

/-- `processPacket` on the packet's peer; `none` where Go would index a substream the peer does
not have, or a multi-ack's loop spins. -/
def processPacket (client : PRUDPClient) (packet : Packet) : Option (PRUDPClient × List Output) :=
  if packet.hasFlag .ack || packet.hasFlag .multiAck then
    (handleAcknowledgment client packet).map fun client => (client, [])
  else
    match packet.packetType with
    | .syn => some (handleSyn prims client packet)
    | .connect => some (handleConnect prims now server client packet)
    | .data => handleData keystream client packet
    | .disconnect => handleDisconnect keystream client packet
    | .ping => handlePing keystream client packet

/-- One processed packet: its arrival time, the packet, the peer after it, and what was sent
and emitted. -/
structure Processed where
  now : Nat
  packet : Packet
  client : PRUDPClient
  outputs : List Output

/-- `processPacket` over packets arriving at the given times, from `client` on; the trace stops
where Go would not return. -/
def processTrace : PRUDPClient → List (Nat × Packet) → List Processed
  | _, [] => []
  | client, (now, packet) :: rest =>
    match processPacket keystream prims now server client packet with
    | none => []
    | some (client', outs) => ⟨now, packet, client', outs⟩ :: processTrace client' rest

/-! ## What a run sends -/

variable {client client' : PRUDPClient} {packet q : Packet} {outs : List Output}

/-- What `handleData` sends is the packet's ACK. -/
theorem sent_handleData (h : handleData keystream client packet = some (client', outs))
    (hq : Output.sent q ∈ outs) : q = acknowledgmentOf packet := by
  unfold handleData at h
  split_ifs at h
  · exact sent_handleReliable keystream h hq
  · obtain ⟨-, rfl⟩ := Prod.mk.inj (Option.some.inj h)
    simp at hq

/-- What `handleDisconnect` sends is the packet's ACK. -/
theorem sent_handleDisconnect (h : handleDisconnect keystream client packet = some (client', outs))
    (hq : Output.sent q ∈ outs) : q = acknowledgmentOf packet := by
  unfold handleDisconnect at h
  split_ifs at h
  · obtain ⟨⟨c, acks⟩, hack, h⟩ := Option.bind_eq_some.1 h
    obtain ⟨-, rfl⟩ := Prod.mk.inj (Option.some.inj h)
    exact sent_acknowledgePacket keystream hack (by simpa using hq)
  · obtain ⟨-, rfl⟩ := Prod.mk.inj (Option.some.inj h)
    simp at hq

/-- What `handlePing` sends is the packet's ACK. -/
theorem sent_handlePing (h : handlePing keystream client packet = some (client', outs))
    (hq : Output.sent q ∈ outs) : q = acknowledgmentOf packet := by
  unfold handlePing at h
  split_ifs at h
  · exact sent_acknowledgePacket keystream h hq
  · obtain ⟨-, rfl⟩ := Prod.mk.inj (Option.some.inj h)
    simp at hq

/-- What `processPacket` sends: the SYN-ACK of a SYN, the CONNECT-ACK of a CONNECT, and for any
other packet its acknowledgment. -/
theorem sent_processPacket
    (h : processPacket keystream prims now server client packet = some (client', outs))
    (hq : Output.sent q ∈ outs) :
    packet.packetType = .syn ∧ Output.sent q ∈ (handleSyn prims client packet).2 ∨
      packet.packetType = .connect ∧ handleConnect prims now server client packet = (client', outs) ∨
      packet.packetType ≠ .syn ∧ packet.packetType ≠ .connect ∧ q = acknowledgmentOf packet := by
  unfold processPacket at h
  split_ifs at h
  · -- ACK and MULTI_ACK: nothing is sent
    obtain ⟨c, -, h⟩ := Option.map_eq_some'.1 h
    obtain ⟨-, rfl⟩ := Prod.mk.inj h
    simp at hq
  split at h <;> rename_i htype
  · cases h; exact .inl ⟨htype, hq⟩
  · exact .inr (.inl ⟨htype, Option.some.inj h⟩)
  · exact .inr (.inr ⟨by simp [htype], by simp [htype], sent_handleData keystream h hq⟩)
  · exact .inr (.inr ⟨by simp [htype], by simp [htype], sent_handleDisconnect keystream h hq⟩)
  · exact .inr (.inr ⟨by simp [htype], by simp [htype], sent_handlePing keystream h hq⟩)

/-- A packet of type CONNECT leaves `processPacket` only as the CONNECT-ACK of `handleConnect`:
acknowledgments carry the type of the packet they acknowledge, and the SYN-ACK is a SYN. -/
theorem processPacket_of_sent_connect
    (h : processPacket keystream prims now server client packet = some (client', outs))
    (hq : Output.sent q ∈ outs) (ht : q.packetType = .connect) :
    handleConnect prims now server client packet = (client', outs) := by
  rcases sent_processPacket keystream prims now server h hq with ⟨-, hsyn⟩ | ⟨-, hc⟩ | ⟨-, hne, rfl⟩
  · obtain rfl : q = _ := by simpa [handleSyn] using hsyn
    cases ht
  · exact hc
  · exact absurd (by simpa using ht) hne

/-- Every entry of a trace is one `processPacket` of an arrival's packet, on the peer as the run
left it. -/
theorem mem_processTrace {e : Processed} :
    ∀ {client : PRUDPClient} {arrivals : List (Nat × Packet)},
      e ∈ processTrace keystream prims server client arrivals → ∃ c, (e.now, e.packet) ∈ arrivals ∧
        processPacket keystream prims e.now server c e.packet = some (e.client, e.outputs)
  | _, [], he => by simp [processTrace] at he
  | client, (now, packet) :: rest, he => by
    unfold processTrace at he
    split at he
    · simp at he
    · rename_i client' outs hstep
      rcases List.mem_cons.1 he with rfl | he
      · exact ⟨client, List.mem_cons_self _ _, hstep⟩
      · obtain ⟨c, hmem, hc⟩ := mem_processTrace he
        exact ⟨c, List.mem_cons_of_mem _ hmem, hc⟩

/-! ## Acknowledgments -/

/-- A packet that asks for an acknowledgment and is not one, a reliable DATA, a PING or a
DISCONNECT, is acknowledged first, once, or three times over for a DISCONNECT, and nothing else is
sent. The ACK has the packet's type, sequence id, substream and fragment id, its stream types and
ports swapped, and the ACK flag alone, so `sendPacket` sends it as it is and leaves the peer as it
was. `processPacket` returns unless the packet is DATA on a substream the peer does not have, where
Go's `handleReliable` indexes the substream table after the ACK has gone out. -/
theorem needsAck_acknowledged_once (client : PRUDPClient) (p : Packet)
    (hneeds : p.hasFlag .needsAck = true) (hack : p.hasFlag .ack = false)
    (hmulti : p.hasFlag .multiAck = false)
    (htype : p.packetType = .data ∧ p.hasFlag .reliable = true ∨ p.packetType = .ping ∨
      p.packetType = .disconnect) :
    let ack := acknowledgmentOf p
    ack.packetType = p.packetType ∧ ack.sequenceID = p.sequenceID ∧ ack.substreamID = p.substreamID ∧
      ack.fragmentID = p.fragmentID ∧ ack.sourceStreamType = p.destinationStreamType ∧
      ack.sourcePort = p.destinationPort ∧ ack.destinationStreamType = p.sourceStreamType ∧
      ack.destinationPort = p.sourcePort ∧ ack.flags = [.ack] ∧
      sendPacket keystream client ack = some (client, ack) ∧
      (processPacket keystream prims now server client p = none ↔
        p.packetType = .data ∧ client.reliableSubstream p.substreamID = none) ∧
      ∀ client' outs, processPacket keystream prims now server client p = some (client', outs) →
        ∃ rest, outs = List.replicate (if p.packetType = .disconnect then 3 else 1) (.sent ack) ++ rest ∧
          ∀ q, Output.sent q ∉ rest := by
  refine ⟨rfl, rfl, rfl, rfl, rfl, rfl, rfl, rfl, flags_acknowledgmentOf p,
    sendPacket_of_ack keystream (by simp) (by simp), ?_⟩
  simp only [processPacket, hack, hmulti, Bool.or_false, Bool.false_eq_true, if_false]
  rcases htype with ⟨hd, hr⟩ | hp | hd
  · -- reliable DATA: the ACK, then whatever the substream releases
    simp only [hd, handleData, hr, if_true, handleReliable, hneeds, acknowledgePacket_eq, reduceCtorEq]
    cases hs : client.reliableSubstream p.substreamID <;>
      simp [hs, sent_not_mem_emitReliableData]
  · simp [hp, handlePing, hneeds, acknowledgePacket_eq]
  · simp [hd, handleDisconnect, hneeds, acknowledgePacket_eq]

/-- A PING that asks for an acknowledgment, from a peer that has only just been made. -/
theorem needsAck_acknowledged_once_ping :
    let p : Packet := { newPRUDPPacketV1 with packetType := .ping, flags := [.needsAck] }
    p.hasFlag .needsAck = true ∧ p.hasFlag .ack = false ∧ p.hasFlag .multiAck = false ∧
      (p.packetType = .data ∧ p.hasFlag .reliable = true ∨ p.packetType = .ping ∨
        p.packetType = .disconnect) ∧
      let ack := acknowledgmentOf p
      ack.packetType = p.packetType ∧ ack.sequenceID = p.sequenceID ∧ ack.substreamID = p.substreamID ∧
        ack.fragmentID = p.fragmentID ∧ ack.sourceStreamType = p.destinationStreamType ∧
        ack.sourcePort = p.destinationPort ∧ ack.destinationStreamType = p.sourceStreamType ∧
        ack.destinationPort = p.sourcePort ∧ ack.flags = [.ack] ∧
        sendPacket (fun _ _ => 0) (newPRUDPClient "10.0.0.1:3000") ack =
          some (newPRUDPClient "10.0.0.1:3000", ack) ∧
        (processPacket (fun _ _ => 0) plainPrimitives 0 newPRUDPServer (newPRUDPClient "10.0.0.1:3000") p = none ↔
          p.packetType = .data ∧ (newPRUDPClient "10.0.0.1:3000").reliableSubstream p.substreamID = none) ∧
        ∀ client' outs, processPacket (fun _ _ => 0) plainPrimitives 0 newPRUDPServer
            (newPRUDPClient "10.0.0.1:3000") p = some (client', outs) →
          ∃ rest, outs = List.replicate (if p.packetType = .disconnect then 3 else 1) (.sent ack) ++ rest ∧
            ∀ q, Output.sent q ∉ rest :=
  ⟨rfl, rfl, rfl, .inr (.inl rfl), needsAck_acknowledged_once (fun _ _ => 0) plainPrimitives 0 newPRUDPServer
    (newPRUDPClient "10.0.0.1:3000") _ rfl rfl rfl (.inr (.inl rfl))⟩

/-! ## Versions -/

/-- Every packet `processPacket` sends is of the version of the packet it answers: the SYN-ACK,
the CONNECT-ACK and the acknowledgments start from `NewPRUDPPacketV0` for a v0 packet and from
`NewPRUDPPacketV1` for any other. -/
theorem version_of_sent_processPacket
    (h : processPacket keystream prims now server client packet = some (client', outs))
    (hq : Output.sent q ∈ outs) : q.version = if packet.version = 0 then 0 else 1 := by
  rcases sent_processPacket keystream prims now server h hq with ⟨-, hsyn⟩ | ⟨-, hc⟩ | ⟨-, -, rfl⟩
  · -- the SYN-ACK
    obtain rfl : q = _ := by simpa [handleSyn] using hsyn
    split <;> rfl
  · -- the CONNECT-ACK
    replace hq : Output.sent q ∈ (handleConnect prims now server client packet).2 := by rw [hc]; exact hq
    simp only [handleConnect, List.mem_cons, Output.sent.injEq, reduceCtorEq, false_or, List.mem_singleton,
      List.not_mem_nil, or_false] at hq
    rw [hq]
    exact version_connectAck _ _ _
  · exact version_acknowledgmentOf packet

/-- A peer whose packets are all of one version `v`, `0` or `1`, gets every packet a run of
`processPacket` sends it in `v`, whatever the server's `PRUDPVersion`. -/
theorem version_of_sent_processTrace {v : Nat} (hv : v ≤ 1) {arrivals : List (Nat × Packet)}
    (harr : ∀ a ∈ arrivals, a.2.version = v) {e : Processed}
    (he : e ∈ processTrace keystream prims server client arrivals) (hq : Output.sent q ∈ e.outputs) :
    q.version = v := by
  obtain ⟨c, hmem, hstep⟩ := mem_processTrace keystream prims server he
  rw [version_of_sent_processPacket keystream prims e.now server hstep hq, harr _ hmem]
  split <;> omega

end Dispatch

/-- On a secure server every CONNECT is answered. `handleConnect` emits `connect` and sends one
CONNECT-ACK whatever the payload, and whenever a run of `processPacket` sends a CONNECT-ACK, the
peer holds the outcome of that CONNECT's ticket: the user PID and session key of a ticket
`readKerberosTicket` accepted, or PID `0` and the empty key after it rejected one. -/
theorem secure_connect_always_acknowledged (keystream : List (BitVec 8) → Nat → BitVec 8)
    (prims : ConnectPrimitives) {server : PRUDPServer} (hsecure : server.isSecureServer = true) :
    (∀ now client packet, ∃ ack : Packet, ack.packetType = .connect ∧
      (handleConnect prims now server client packet).2 = [.emitted "connect" ack, .sent ack] ∧
      ticketOutcome prims now server packet.payload (handleConnect prims now server client packet).1 ack) ∧
    ∀ client arrivals, ∀ e ∈ processTrace keystream prims server client arrivals, ∀ q : Packet,
      Output.sent q ∈ e.outputs → q.packetType = .connect →
      ticketOutcome prims e.now server e.packet.payload e.client q := by
  refine ⟨fun now client packet => handleConnect_of_secure prims now server client packet hsecure, ?_⟩
  intro client arrivals e he q hq ht
  obtain ⟨c, -, hstep⟩ := mem_processTrace keystream prims server he
  obtain ⟨ack, -, houts, hout⟩ := handleConnect_of_secure prims e.now server c e.packet hsecure
  rw [processPacket_of_sent_connect keystream prims e.now server hstep hq ht] at houts hout
  dsimp only at houts hout
  rw [houts] at hq
  obtain rfl : q = ack := by simpa using hq
  exact hout

theorem secure_connect_always_acknowledged_plain :
    ({ newPRUDPServer with isSecureServer := true } : PRUDPServer).isSecureServer = true ∧
    (∀ now client packet, ∃ ack : Packet, ack.packetType = .connect ∧
      (handleConnect plainPrimitives now { newPRUDPServer with isSecureServer := true } client packet).2 =
        [.emitted "connect" ack, .sent ack] ∧
      ticketOutcome plainPrimitives now { newPRUDPServer with isSecureServer := true } packet.payload
        (handleConnect plainPrimitives now { newPRUDPServer with isSecureServer := true } client packet).1 ack) ∧
    ∀ client arrivals, ∀ e ∈ processTrace (fun _ _ => 0) plainPrimitives
        { newPRUDPServer with isSecureServer := true } client arrivals, ∀ q : Packet,
      Output.sent q ∈ e.outputs → q.packetType = .connect →
      ticketOutcome plainPrimitives e.now { newPRUDPServer with isSecureServer := true } e.packet.payload e.client q :=
  ⟨rfl, secure_connect_always_acknowledged (fun _ _ => 0) plainPrimitives rfl⟩

/-- A CONNECT with an empty payload on a secure server: `readKerberosTicket` fails at the first
length, and still the peer that had PID 1234 and a session key gets PID 0 and the empty key,
`connect` fires and the CONNECT-ACK goes out. -/
theorem handleConnect_empty_payload_acknowledged :
    readKerberosTicket plainPrimitives 0 { newPRUDPServer with isSecureServer := true } [] =
      .error "Failed to read NEX buffer length. Not enough data to read uint32" ∧
    let r := handleConnect plainPrimitives 0 { newPRUDPServer with isSecureServer := true }
      { newPRUDPClient "127.0.0.1:3000" with pid := 1234, sessionKey := [1] }
      { newPRUDPPacketV1 with packetType := .connect }
    r.1.pid = 0 ∧ r.1.sessionKey = [] ∧ eventNames r.2 = ["connect"] ∧
      (sentPackets r.2).map (·.packetType) = [.connect] :=
  ⟨rfl, rfl, rfl, rfl, rfl⟩

/-- A peer that speaks v1, on a server left at the default `PRUDPVersion` of `0`: its SYN is
answered in v1, and the heartbeat PING `sendPing` sends it is in v0. -/
theorem sendPing_ignores_peer_version :
    let syn : Packet := { newPRUDPPacketV1 with packetType := .syn }
    let r := processPacket (fun _ _ => 0) plainPrimitives 0 newPRUDPServer (newPRUDPClient "10.0.0.1:3000") syn
    (r.map fun s => (sentPackets s.2).map (·.version)) = some [1] ∧
      (r.bind fun s => (sendPing (fun _ _ => 0) newPRUDPServer s.1).map fun p =>
        (sentPackets p.2).map (·.version)) = some [0] :=
  ⟨rfl, rfl⟩

end NexGo

import NexGo.Server.Peer

/-!
# The send path: `sendPacket`, `acknowledgePacket` and `Send` (`prudp_server.go`)

`sendPacket` (lines 504-536) is three steps on the packet and the peer, each its own
definition: a sequence id for a packet that is not an acknowledgment, RC4 for a reliable DATA
payload, and the resend scheduler for a reliable packet that needs an acknowledgment; then the
packet goes to the socket. The signature step is left out with the signature.

`Send` (lines 481-502) runs `len(data) / FragmentSize + 1` iterations; an iteration with fewer
than `FragmentSize` bytes left sends them all with fragment id `0`, any other sends the next
`FragmentSize` bytes with the next id of a `uint8` counter from `1`. `fragments` is that loop's
payloads and ids; `send` hands them to `sendPacket` in order, on the one packet Go reuses.

`acknowledgePacket` (lines 405-431) and the heartbeat's `sendPing` (lines 460-478) build their
packets fresh: the ACK of the version of the packet it acknowledges, the PING of the server's
`PRUDPVersion`.
-/

namespace NexGo
set_option autoImplicit false

section SendPacket

variable (keystream : List (BitVec 8) → Nat → BitVec 8)

/-- `sendPacket`'s first step: the sequence id of a packet that is not an acknowledgment, from
the substream for a reliable packet, else from the peer's DATA or PING counter, else `0`. -/
def assignSequenceID (client : PRUDPClient) (packet : Packet) : Option (PRUDPClient × Packet) :=
  if packet.hasFlag .ack || packet.hasFlag .multiAck then some (client, packet)
  else if packet.hasFlag .reliable then do
    let sub ← client.reliableSubstream packet.substreamID
    let (id, sub) := sub.nextOutgoingSequenceID
    pure (client.setReliableSubstream packet.substreamID sub, { packet with sequenceID := id })
  else if packet.packetType = .data then
    let (id, client) := client.nextOutgoingUnreliableSequenceID
    some (client, { packet with sequenceID := id })
  else if packet.packetType = .ping then
    let (id, client) := client.nextOutgoingPingSequenceID
    some (client, { packet with sequenceID := id })
  else some (client, { packet with sequenceID := 0 })

/-- `sendPacket`'s second step: the payload of a reliable DATA packet that is not an
acknowledgment through the substream's outgoing RC4. -/
def encryptPayload (client : PRUDPClient) (packet : Packet) : Option (PRUDPClient × Packet) :=
  if packet.packetType = .data && !packet.hasFlag .ack && !packet.hasFlag .multiAck &&
      packet.hasFlag .reliable then do
    let sub ← client.reliableSubstream packet.substreamID
    let (payload, sub) := sub.encrypt keystream packet.payload
    pure (client.setReliableSubstream packet.substreamID sub, { packet with payload := payload })
  else some (client, packet)

/-- `sendPacket`'s last step before the socket: a reliable packet that needs an acknowledgment
goes into its substream's resend scheduler. -/
def scheduleResend (client : PRUDPClient) (packet : Packet) : Option PRUDPClient :=
  if packet.hasFlag .reliable && packet.hasFlag .needsAck then do
    let sub ← client.reliableSubstream packet.substreamID
    pure (client.setReliableSubstream packet.substreamID
      { sub with resendScheduler := sub.resendScheduler.addPacket packet })
  else some client

/-- `sendPacket`: the peer after it and the packet as written to the socket; `none` where Go
would index a substream the peer does not have. -/
def sendPacket (client : PRUDPClient) (packet : Packet) : Option (PRUDPClient × Packet) := do
  let (client, packet) ← assignSequenceID client packet
  let (client, packet) ← encryptPayload keystream client packet
  let client ← scheduleResend client packet
  pure (client, packet)

/-- The ACK `acknowledgePacket` builds: of the packet's version, with the packet's type,
sequence id, fragment id and substream, its stream types and ports swapped. -/
def acknowledgmentOf (packet : Packet) : Packet :=
  { (if packet.version = 0 then newPRUDPPacketV0 else newPRUDPPacketV1).addFlag .ack with
    packetType := packet.packetType
    sourceStreamType := packet.destinationStreamType
    sourcePort := packet.destinationPort
    destinationStreamType := packet.sourceStreamType
    destinationPort := packet.sourcePort
    sequenceID := packet.sequenceID
    fragmentID := packet.fragmentID
    substreamID := packet.substreamID }

/-- `acknowledgePacket`: the ACK through `sendPacket`; three times for a DISCONNECT. -/
def acknowledgePacket (client : PRUDPClient) (packet : Packet) : Option (PRUDPClient × List Output) := do
  let (client, ack) ← sendPacket keystream client (acknowledgmentOf packet)
  if packet.packetType = .disconnect then
    let (client, ack₂) ← sendPacket keystream client ack
    let (client, ack₃) ← sendPacket keystream client ack₂
    pure (client, [.sent ack, .sent ack₂, .sent ack₃])
  else pure (client, [.sent ack])

/-- `sendPing`, the heartbeat: a PING that needs an acknowledgment, of the server's
`PRUDPVersion`, on the peer's stream types and ports swapped, substream `0`, through
`sendPacket`. -/
def sendPing (server : PRUDPServer) (client : PRUDPClient) : Option (PRUDPClient × List Output) := do
  let ping := if server.prudpVersion = 0 then newPRUDPPacketV0 else newPRUDPPacketV1
  let ping : Packet := { ping.addFlag .needsAck with
    packetType := .ping
    sourceStreamType := client.destinationStreamType
    sourcePort := client.destinationPort
    destinationStreamType := client.sourceStreamType
    destinationPort := client.sourcePort
    substreamID := 0 }
  let (client, ping) ← sendPacket keystream client ping
  pure (client, [.sent ping])

/-- `sendPacket` for each fragment in turn, on the same packet object. Go hands that one object to
the resend scheduler's `AddPacket` for every fragment and goes on changing it; the scheduler is not
in the repository's files, and is modelled from the spec, whose entries keep the packet's bytes as
sent. -/
def sendFragments : PRUDPClient → Packet → List (List (BitVec 8) × BitVec 8) →
    Option (PRUDPClient × List Output)
  | client, _, [] => some (client, [])
  | client, packet, (payload, fragmentID) :: rest => do
    let (client, packet) ← sendPacket keystream client
      { packet with payload := payload, fragmentID := fragmentID }
    let (client, outs) ← sendFragments client packet rest
    pure (client, .sent packet :: outs)

/-! ### What `sendPacket` does to a packet -/

variable {client client' : PRUDPClient} {packet packet' : Packet}

theorem assignSequenceID_eq (h : assignSequenceID client packet = some (client', packet')) :
    ∃ sequenceID, packet' = { packet with sequenceID := sequenceID } := by
  unfold assignSequenceID at h
  split_ifs at h <;>
    simp only [Option.bind_eq_bind, Option.bind_eq_some, Option.pure_def, Option.some.injEq, Prod.mk.injEq] at h
  · exact ⟨packet.sequenceID, h.2.symm⟩
  · obtain ⟨sub, -, h⟩ := h
    exact ⟨_, h.2.symm⟩
  all_goals exact ⟨_, h.2.symm⟩

theorem encryptPayload_eq (h : encryptPayload keystream client packet = some (client', packet')) :
    ∃ payload, packet' = { packet with payload := payload } := by
  unfold encryptPayload at h
  split_ifs at h <;>
    simp only [Option.bind_eq_bind, Option.bind_eq_some, Option.pure_def, Option.some.injEq, Prod.mk.injEq] at h
  · obtain ⟨sub, -, h⟩ := h
    exact ⟨_, h.2.symm⟩
  · exact ⟨packet.payload, h.2.symm⟩

/-- `sendPacket` changes a packet's sequence id and payload and nothing else. -/
theorem sendPacket_eq (h : sendPacket keystream client packet = some (client', packet')) :
    ∃ sequenceID payload, packet' = { packet with sequenceID := sequenceID, payload := payload } := by
  simp only [sendPacket, Option.bind_eq_bind, Option.bind_eq_some, Option.pure_def, Option.some.injEq] at h
  obtain ⟨⟨c₁, p₁⟩, h₁, ⟨c₂, p₂⟩, h₂, c₃, -, h₃⟩ := h
  obtain ⟨sequenceID, rfl⟩ := assignSequenceID_eq h₁
  obtain ⟨payload, rfl⟩ := encryptPayload_eq keystream h₂
  cases h₃
  exact ⟨sequenceID, payload, rfl⟩

/-- An ACK that is not reliable goes out as it is, the peer untouched: no sequence id, no
encryption, no resend. -/
theorem sendPacket_of_ack (h : packet.hasFlag .ack) (hr : packet.hasFlag .reliable = false) :
    sendPacket keystream client packet = some (client, packet) := by
  simp [sendPacket, assignSequenceID, encryptPayload, scheduleResend, h, hr]

@[simp] theorem packetType_acknowledgmentOf (packet : Packet) :
    (acknowledgmentOf packet).packetType = packet.packetType := rfl

@[simp] theorem hasFlag_acknowledgmentOf (packet : Packet) (f : Flag) :
    (acknowledgmentOf packet).hasFlag f = decide (f = .ack) := by
  unfold acknowledgmentOf
  split <;> simp [Packet.hasFlag, Packet.addFlag, newPRUDPPacketV0, newPRUDPPacketV1, newPRUDPPacket]

/-- `acknowledgePacket` sends its ACK once, three times for a DISCONNECT, and leaves the peer
as it was. -/
theorem acknowledgePacket_eq (packet : Packet) :
    acknowledgePacket keystream client packet =
      some (client, if packet.packetType = .disconnect then
        [.sent (acknowledgmentOf packet), .sent (acknowledgmentOf packet), .sent (acknowledgmentOf packet)]
        else [.sent (acknowledgmentOf packet)]) := by
  have hs : sendPacket keystream client (acknowledgmentOf packet) = some (client, acknowledgmentOf packet) :=
    sendPacket_of_ack keystream (by simp) (by simp)
  split_ifs with hd <;> simp [acknowledgePacket, hs, hd]

/-- Everything `acknowledgePacket` sends is the packet's ACK. -/
theorem sent_acknowledgePacket {outs : List Output} {q : Packet}
    (h : acknowledgePacket keystream client packet = some (client', outs)) (hq : Output.sent q ∈ outs) :
    q = acknowledgmentOf packet := by
  rw [acknowledgePacket_eq] at h
  obtain ⟨-, rfl⟩ := Prod.mk.inj (Option.some.inj h)
  split_ifs at hq <;> simpa using hq

@[simp] theorem version_acknowledgmentOf (packet : Packet) :
    (acknowledgmentOf packet).version = if packet.version = 0 then 0 else 1 := by
  unfold acknowledgmentOf; split <;> rfl

@[simp] theorem flags_acknowledgmentOf (packet : Packet) : (acknowledgmentOf packet).flags = [.ack] := by
  unfold acknowledgmentOf; split <;> rfl

/-- `sendPing` always sends one PING, with the peer's next ping sequence id and the version of
the server's setting, whatever the peer speaks. -/
theorem sendPing_eq (server : PRUDPServer) (client : PRUDPClient) :
    ∃ ping : Packet, sendPing keystream server client =
        some (client.nextOutgoingPingSequenceID.2, [.sent ping]) ∧
      ping.packetType = .ping ∧ ping.sequenceID = client.outgoingPingSequenceID ∧
      ping.version = if server.prudpVersion = 0 then 0 else 1 := by
  unfold sendPing
  split <;> exact ⟨_, rfl, rfl, rfl, rfl⟩

end SendPacket

/-- `Send`'s loop from an iteration on: `count` iterations left, `data` not yet sent,
`fragmentID` the counter. Each iteration gives the payload and fragment id it sets. -/
def fragmentLoop (fragmentSize : Nat) :
    Nat → List (BitVec 8) → BitVec 8 → List (List (BitVec 8) × BitVec 8)
  | 0, _, _ => []
  | count + 1, data, fragmentID =>
    if data.length < fragmentSize then (data, 0) :: fragmentLoop fragmentSize count data fragmentID
    else (data.take fragmentSize, fragmentID) ::
      fragmentLoop fragmentSize count (data.drop fragmentSize) (fragmentID + 1)

/-- The payloads and fragment ids of `Send`'s `sendPacket` calls. -/
def fragments (fragmentSize : Nat) (data : List (BitVec 8)) : List (List (BitVec 8) × BitVec 8) :=
  fragmentLoop fragmentSize (data.length / fragmentSize + 1) data 1

/-- `Send`; `none` for a fragment size of `0`, where Go divides by zero. -/
def send (keystream : List (BitVec 8) → Nat → BitVec 8) (server : PRUDPServer)
    (client : PRUDPClient) (packet : Packet) : Option (PRUDPClient × List Output) :=
  if server.fragmentSize = 0 then none
  else sendFragments keystream client packet (fragments server.fragmentSize packet.payload)

/-- `Send`'s loop in closed form: `k` full fragments with ids counting on from `n` (modulo
`2 ^ 8`), then what is left with id `0`. -/
theorem fragmentLoop_eq {F : Nat} (hF : 0 < F) (k : Nat) {data : List (BitVec 8)}
    (hk : data.length / F = k) (n : Nat) :
    fragmentLoop F (k + 1) data (BitVec.ofNat 8 n) =
      (List.range k).map (fun i => ((data.drop (i * F)).take F, BitVec.ofNat 8 (n + i))) ++
        [(data.drop (k * F), 0)] := by
  induction k generalizing data n with
  | zero =>
    have : data.length < F := (Nat.div_eq_zero_iff hF).1 hk
    simp [fragmentLoop, this]
  | succ k ih =>
    have lo := Nat.div_mul_le_self data.length F
    have hi : data.length < data.length / F * F + F := Nat.lt_div_mul_add hF
    rw [hk, Nat.succ_mul] at lo hi
    have hlen : ¬ data.length < F := by omega
    have hrest : (data.drop F).length / F = k :=
      Nat.div_eq_of_lt_le (by rw [List.length_drop]; omega) (by rw [List.length_drop, Nat.succ_mul]; omega)
    have step : BitVec.ofNat 8 n + 1 = BitVec.ofNat 8 (n + 1) := by rw [← BitVec.ofNat_add_ofNat]; rfl
    rw [fragmentLoop, if_neg hlen, step, ih hrest (n + 1), List.range_succ_eq_map]
    simp [List.drop_drop, Nat.succ_mul, Nat.add_comm, Nat.add_left_comm]

theorem fragments_eq {F : Nat} (hF : 0 < F) (data : List (BitVec 8)) :
    fragments F data =
      (List.range (data.length / F)).map
          (fun i => ((data.drop (i * F)).take F, BitVec.ofNat 8 (1 + i))) ++
        [(data.drop (data.length / F * F), 0)] :=
  fragmentLoop_eq hF _ rfl 1

/-- `Send` makes `len(data) / FragmentSize + 1` calls to `sendPacket`. -/
theorem length_fragments {F : Nat} (hF : 0 < F) (data : List (BitVec 8)) :
    (fragments F data).length = data.length / F + 1 := by
  simp [fragments_eq hF]

/-- A payload of `k` full fragments goes out as `k + 1` packets, the last one empty. -/
theorem fragments_of_multiple {F k : Nat} (hF : 0 < F) {data : List (BitVec 8)}
    (hn : data.length = k * F) :
    (fragments F data).length = k + 1 ∧ (fragments F data).getLast? = some ([], 0) := by
  have hdiv : data.length / F = k := by rw [hn, Nat.mul_div_cancel _ hF]
  refine ⟨by rw [length_fragments hF, hdiv], ?_⟩
  rw [fragments_eq hF, List.getLast?_append, hdiv, List.drop_eq_nil_of_le (by omega)]
  simp

/-- A payload of exactly `FragmentSize` (1300) bytes goes out as two packets: all of it with
fragment id `1`, then an empty one with fragment id `0`. -/
theorem send_splits_full_fragment_in_two :
    fragments 1300 (List.replicate 1300 0) = [(List.replicate 1300 0, 1), ([], 0)] := by
  rw [fragments_eq (show 0 < 1300 by decide), List.length_replicate, Nat.div_self (by decide),
    List.range_succ_eq_map, List.range_zero, List.map_nil, List.map_cons, Nat.zero_mul, List.drop_zero, List.take_replicate,
    Nat.min_self, Nat.one_mul, List.drop_replicate, Nat.sub_self, List.replicate_zero]
  rfl

end NexGo

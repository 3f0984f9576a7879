import NexGo.Server.Session

/-!
# Which runs of a peer return (`prudp_server.go`)

Go does not return from a peer's handler in three ways: `reliableSubstream(id)` indexes the
substream slice out of range (in `handleAcknowledgment`, `handleMultiAcknowledgment`,
`handleReliable` and `sendPacket`), the old multi-ACK format's loop spins on an odd payload, and
`Send` divides by a fragment size of `0`. Whether an event gets there depends on the peer through
the length of its substream table alone, and that length after an event depends only on the
event and the length before it: a SYN or a DISCONNECT clears the table, a CONNECT makes a new one,
and every other handler replaces entries in place.

`PeerEvent.canStep` and `PeerEvent.substreamsAfter` say this event by event, and `Steps` along a
list of events. `length_peerRun` follows the table's length along a run, and `isSome_peerRun` is
the result: a run of a peer, from any state, returns exactly when `Steps` holds from the length of
its table. So each `none` of the model is one of Go's failures, and no other state of the peer
leads to one.
-/

namespace NexGo
set_option autoImplicit false

/-- Whether `sendPacket` looks the packet's substream up: to number and encrypt a reliable packet
that is not an acknowledgment, or to schedule a reliable packet that asks for one. -/
def Packet.needsSubstream (p : Packet) : Bool :=
  p.hasFlag .reliable && (!(p.hasFlag .ack || p.hasFlag .multiAck) || p.hasFlag .needsAck)

/-- Whether the event returns at a peer with `n` substreams and a fragment size of
`fragmentSize`: every substream it looks up is one of the `n`, a multi-ACK's payload can be read
to its end, and a send has a fragment size to divide by. -/
def PeerEvent.canStep (fragmentSize n : Nat) : PeerEvent → Bool
  | .receive _ p =>
    if p.hasFlag .multiAck then
      match readMultiAck p with
      | some (substreamID, _) => substreamID.toNat < n
      | none => false
    else if p.hasFlag .ack || (p.packetType == .data && p.hasFlag .reliable) then p.substreamID.toNat < n
    else true
  | .send p => fragmentSize != 0 && (!p.needsSubstream || p.substreamID.toNat < n)
  | .ping => true

/-- The length of the substream table after the event, from `n` before it: a SYN or a DISCONNECT
clears the table, a CONNECT makes substreams `0 … maximumSubstreamID` (`0` alone at version `0`),
and every other event keeps its length. -/
def PeerEvent.substreamsAfter (n : Nat) : PeerEvent → Nat
  | .receive _ p =>
    if p.hasFlag .ack || p.hasFlag .multiAck then n
    else match p.packetType with
      | .syn | .disconnect => 0
      | .connect => if p.version = 0 then 1 else p.maximumSubstreamID.toNat + 1
      | .data | .ping => n
  | _ => n

/-- Whether each event of the list returns, at the table length the ones before it leave. -/
def Steps (fragmentSize : Nat) : Nat → List PeerEvent → Bool
  | _, [] => true
  | n, e :: rest => e.canStep fragmentSize n && Steps fragmentSize (e.substreamsAfter n) rest

namespace PRUDPClient

theorem reliableSubstream_eq_none_iff {c : PRUDPClient} {id : BitVec 8} :
    c.reliableSubstream id = none ↔ c.reliableSubstreams.length ≤ id.toNat :=
  List.getElem?_eq_none_iff

/-- A lookup finds a substream exactly when the id is in range. -/
theorem reliableSubstream_cases (c : PRUDPClient) (id : BitVec 8) :
    c.reliableSubstream id = none ∧ ¬id.toNat < c.reliableSubstreams.length ∨
      ∃ sub, c.reliableSubstream id = some sub ∧ id.toNat < c.reliableSubstreams.length := by
  by_cases h : id.toNat < c.reliableSubstreams.length
  · exact .inr ⟨_, List.getElem?_eq_getElem h, h⟩
  · exact .inl ⟨List.getElem?_eq_none_iff.2 (Nat.not_lt.1 h), h⟩

theorem lt_length_of_reliableSubstream {c : PRUDPClient} {id : BitVec 8} {sub : ReliableSubstream}
    (h : c.reliableSubstream id = some sub) : id.toNat < c.reliableSubstreams.length :=
  Nat.not_le.1 fun hle => by simp [reliableSubstream_eq_none_iff.2 hle] at h

@[simp] theorem length_setReliableSubstream (c : PRUDPClient) (id : BitVec 8) (sub : ReliableSubstream) :
    (c.setReliableSubstream id sub).reliableSubstreams.length = c.reliableSubstreams.length :=
  List.length_set ..

/-- Two tables that agree on a view of every entry are as long. -/
theorem length_eq_of_map {c c' : PRUDPClient} {α : Type} {f : ReliableSubstream → α}
    (h : c'.reliableSubstreams.map f = c.reliableSubstreams.map f) :
    c'.reliableSubstreams.length = c.reliableSubstreams.length := by
  simpa using congrArg List.length h

end PRUDPClient

/-! ## Sending -/

section Sending

variable (keystream : List (BitVec 8) → Nat → BitVec 8) {c c' : PRUDPClient} {p p' : Packet}

theorem assignSequenceID_eq_none_iff :
    assignSequenceID c p = none ↔
      (p.hasFlag .reliable && !(p.hasFlag .ack || p.hasFlag .multiAck)) = true ∧
        c.reliableSubstreams.length ≤ p.substreamID.toNat := by
  rw [← PRUDPClient.reliableSubstream_eq_none_iff]
  unfold assignSequenceID
  cases c.reliableSubstream p.substreamID <;> split_ifs <;> simp [*]

theorem encryptPayload_eq_none_iff :
    encryptPayload keystream c p = none ↔
      (p.packetType = .data && !p.hasFlag .ack && !p.hasFlag .multiAck && p.hasFlag .reliable) = true ∧
        c.reliableSubstreams.length ≤ p.substreamID.toNat := by
  rw [← PRUDPClient.reliableSubstream_eq_none_iff]
  unfold encryptPayload
  cases c.reliableSubstream p.substreamID <;> split_ifs <;> simp_all

theorem scheduleResend_eq_none_iff :
    scheduleResend c p = none ↔
      (p.hasFlag .reliable && p.hasFlag .needsAck) = true ∧ c.reliableSubstreams.length ≤ p.substreamID.toNat := by
  rw [← PRUDPClient.reliableSubstream_eq_none_iff]
  unfold scheduleResend
  cases c.reliableSubstream p.substreamID <;> split_ifs <;> simp_all

/-- `sendPacket` does not return exactly when one of its steps looks up a substream the peer
does not have. -/
theorem sendPacket_eq_none_iff :
    sendPacket keystream c p = none ↔
      p.needsSubstream = true ∧ c.reliableSubstreams.length ≤ p.substreamID.toNat := by
  simp only [sendPacket, Option.bind_eq_bind]
  cases h₁ : assignSequenceID c p with
  | none =>
    have := assignSequenceID_eq_none_iff.1 h₁
    simp_all [Packet.needsSubstream]
  | some r₁ =>
    obtain ⟨c₁, p₁⟩ := r₁
    obtain ⟨s, rfl⟩ := assignSequenceID_eq h₁
    have hl₁ := PRUDPClient.length_eq_of_map (map_assignSequenceID (fun _ => ()) (fun _ _ => rfl) h₁)
    have hn₁ := (assignSequenceID_eq_none_iff (c := c) (p := p)).not.1 (by simp [h₁])
    cases h₂ : encryptPayload keystream c₁ { p with sequenceID := s } with
    | none =>
      have := (encryptPayload_eq_none_iff keystream).1 h₂
      simp_all [Packet.needsSubstream, Packet.hasFlag]
    | some r₂ =>
      obtain ⟨c₂, p₂⟩ := r₂
      obtain ⟨d, rfl⟩ := encryptPayload_eq keystream h₂
      have hl₂ := PRUDPClient.length_eq_of_map (map_encryptPayload keystream (fun _ => ()) (fun _ _ => rfl) h₂)
      cases h₃ : scheduleResend c₂ { p with sequenceID := s, payload := d } with
      | none =>
        have := scheduleResend_eq_none_iff.1 h₃
        simp_all [Packet.needsSubstream, Packet.hasFlag]
      | some c₃ =>
        have hn₃ := (scheduleResend_eq_none_iff (c := c₂) (p := { p with sequenceID := s, payload := d })).not.1 (by simp [h₃])
        simp_all [Packet.needsSubstream, Packet.hasFlag]
        tauto

/-- `Send`'s loop does not return exactly when it has a fragment to send and the packet's
substream is needed and missing: the fragments keep the packet's flags and substream, and a
fragment that is sent leaves the table as long as it was. -/
theorem sendFragments_eq_none_iff : ∀ (frags : List (List (BitVec 8) × BitVec 8)) {c : PRUDPClient} {p : Packet},
    sendFragments keystream c p frags = none ↔
      frags ≠ [] ∧ p.needsSubstream = true ∧ c.reliableSubstreams.length ≤ p.substreamID.toNat
  | [], _, _ => by simp [sendFragments]
  | (payload, fragmentID) :: rest, c, p => by
    simp only [sendFragments, Option.bind_eq_bind]
    cases h₁ : sendPacket keystream c { p with payload := payload, fragmentID := fragmentID } with
    | none =>
      have := (sendPacket_eq_none_iff keystream).1 h₁
      exact iff_of_true rfl ⟨List.cons_ne_nil _ _, this⟩
    | some r₁ =>
      obtain ⟨c₁, p₁⟩ := r₁
      have hn : ¬(p.needsSubstream = true ∧ c.reliableSubstreams.length ≤ p.substreamID.toNat) :=
        (sendPacket_eq_none_iff keystream (c := c)
          (p := { p with payload := payload, fragmentID := fragmentID })).not.1 (by simp [h₁])
      have hl := PRUDPClient.length_eq_of_map
        (map_sendPacket keystream (fun _ => ()) (fun _ _ => rfl) (fun _ _ => rfl) (fun _ _ => rfl) h₁)
      have hp₁ : p₁.needsSubstream = p.needsSubstream ∧ p₁.substreamID = p.substreamID := by
        obtain ⟨s, d, rfl⟩ := sendPacket_eq keystream h₁
        exact ⟨rfl, rfl⟩
      refine iff_of_false ?_ fun h => hn h.2
      cases h₂ : sendFragments keystream c₁ p₁ rest with
      | none =>
        have h' := (sendFragments_eq_none_iff rest).1 h₂
        rw [hp₁.1, hp₁.2, hl] at h'
        exact absurd h'.2 hn
      | some => simp [h₂]

/-- `Send` makes at least one fragment. -/
theorem fragments_ne_nil (fragmentSize : Nat) (data : List (BitVec 8)) : fragments fragmentSize data ≠ [] := by
  simp only [fragments, fragmentLoop]
  split <;> simp

/-- `Send` does not return for a fragment size of `0`, and otherwise exactly when the packet's
substream is needed and missing. -/
theorem send_eq_none_iff (server : PRUDPServer) :
    send keystream server c p = none ↔
      server.fragmentSize = 0 ∨ p.needsSubstream = true ∧ c.reliableSubstreams.length ≤ p.substreamID.toNat := by
  unfold send
  split_ifs with hF
  · simp [hF]
  · simp [hF, sendFragments_eq_none_iff, fragments_ne_nil]

end Sending

/-! ## Receiving -/

section Receiving

variable (keystream : List (BitVec 8) → Nat → BitVec 8) (prims : ConnectPrimitives) (now : Nat)
  (server : PRUDPServer) {c c' : PRUDPClient} {p : Packet} {outs : List Output}

/-- `processPacket` does not return exactly when `canStep` says so: a multi-ACK whose payload
cannot be read or names a missing substream, or an ACK or a reliable DATA packet on a missing
substream. -/
theorem processPacket_eq_none_iff_canStep (fragmentSize : Nat) :
    processPacket keystream prims now server c p = none ↔
      (PeerEvent.receive now p).canStep fragmentSize c.reliableSubstreams.length = false := by
  unfold processPacket PeerEvent.canStep
  by_cases hm : p.hasFlag .multiAck
  · -- a multi-ACK: its payload read, then the substream it names looked up
    simp only [hm, Bool.or_true, if_true, handleAcknowledgment, handleMultiAcknowledgment, Option.map_eq_none']
    rcases readMultiAck p with _ | ⟨i, base, ids⟩
    · simp
    · rcases c.reliableSubstream_cases i with ⟨hs, hl⟩ | ⟨sub, hs, hl⟩ <;> simp [hs, hl]
  · simp only [hm, Bool.or_false, Bool.false_eq_true, if_false]
    by_cases ha : p.hasFlag .ack
    · -- an ACK looks its substream up
      rcases c.reliableSubstream_cases p.substreamID with ⟨hs, hl⟩ | ⟨sub, hs, hl⟩ <;>
        simp [handleAcknowledgment, ha, hm, hs, hl]
    · simp only [ha, Bool.false_or, Bool.false_eq_true, if_false]
      -- by type: SYN, CONNECT, DATA, DISCONNECT, PING
      rcases htype : p.packetType with _ | _ | _ | _ | _
      · simp
      · simp
      · unfold handleData handleReliable
        rcases c.reliableSubstream_cases p.substreamID with ⟨hs, hl⟩ | ⟨sub, hs, hl⟩ <;>
          by_cases hr : p.hasFlag .reliable <;> by_cases hn : p.hasFlag .needsAck <;>
          simp [hr, hn, hs, hl, acknowledgePacket_eq]
      · unfold handleDisconnect; split_ifs <;> simp_all [acknowledgePacket_eq]
      · unfold handlePing; split_ifs <;> simp_all [acknowledgePacket_eq]

theorem maximumSubstreamID_connectAck (h : p.version ≠ 0) :
    (connectAck prims c p).maximumSubstreamID = p.maximumSubstreamID := by
  simp [connectAck, h, newPRUDPPacketV1, newPRUDPPacket, Packet.addFlag]

/-- `handleConnect` makes substreams `0 … maximumSubstreamID`, `0` alone at version `0`; a secure
server's rekeying keeps them. -/
theorem length_handleConnect :
    (handleConnect prims now server c p).1.reliableSubstreams.length =
      if p.version = 0 then 1 else p.maximumSubstreamID.toNat + 1 := by
  unfold handleConnect
  split_ifs <;> simp_all [PRUDPClient.createReliableSubstreams, PRUDPClient.setSessionKey,
    maximumSubstreamID_connectAck]

theorem length_processPacket (hs : processPacket keystream prims now server c p = some (c', outs)) :
    c'.reliableSubstreams.length = (PeerEvent.receive now p).substreamsAfter c.reliableSubstreams.length := by
  unfold processPacket at hs
  simp only [PeerEvent.substreamsAfter]
  split_ifs at hs with hack
  · obtain ⟨c₁, h₁, hc⟩ := Option.map_eq_some'.1 hs
    obtain ⟨rfl, -⟩ := Prod.mk.inj hc
    obtain ⟨i, sub, r, -, rfl⟩ := handleAcknowledgment_client h₁
    simp [hack]
  · simp only [hack, Bool.false_eq_true, if_false]
    split at hs <;> rename_i htype <;> simp only [htype]
    · obtain ⟨rfl, -⟩ := Prod.mk.inj (Option.some.inj hs)
      rfl
    · obtain ⟨rfl, -⟩ := Prod.mk.inj (Option.some.inj hs)
      exact length_handleConnect prims now server
    · unfold handleData at hs
      split_ifs at hs
      · obtain ⟨sub, -, rfl⟩ := handleReliable_client keystream hs
        simp
      · obtain ⟨rfl, -⟩ := Prod.mk.inj (Option.some.inj hs)
        rfl
    · rw [handleDisconnect_client keystream hs]
      rfl
    · rw [client_of_acknowledgeIfNeeded keystream hs]

end Receiving

/-! ## Runs -/

section Runs

variable (keystream : List (BitVec 8) → Nat → BitVec 8) (prims : ConnectPrimitives) (server : PRUDPServer)
  {c c' : PRUDPClient} {outs : List Output}

/-- One event leaves the table at the length `substreamsAfter` says. -/
theorem length_peerStep {e : PeerEvent} (hs : peerStep keystream prims server c e = some (c', outs)) :
    c'.reliableSubstreams.length = e.substreamsAfter c.reliableSubstreams.length := by
  cases e with
  | receive now p => exact length_processPacket keystream prims now server hs
  | send p =>
    unfold peerStep send at hs
    split_ifs at hs
    exact PRUDPClient.length_eq_of_map
      (map_sendFragments keystream (fun _ => ()) (fun _ _ => rfl) (fun _ _ => rfl) (fun _ _ => rfl) _ hs)
  | ping =>
    obtain ⟨ping, h, -⟩ := sendPing_eq keystream server c
    rw [peerStep, h] at hs
    obtain ⟨rfl, -⟩ := Prod.mk.inj (Option.some.inj hs)
    rfl

/-- One event does not return exactly when `canStep` says so. -/
theorem peerStep_eq_none_iff (e : PeerEvent) :
    peerStep keystream prims server c e = none ↔
      e.canStep server.fragmentSize c.reliableSubstreams.length = false := by
  cases e with
  | receive now p => exact processPacket_eq_none_iff_canStep keystream prims now server _
  | send p =>
    rw [peerStep, send_eq_none_iff]
    by_cases hF : server.fragmentSize = 0 <;> simp [PeerEvent.canStep, hF]
  | ping =>
    obtain ⟨ping, h, -⟩ := sendPing_eq keystream server c
    simp [peerStep, PeerEvent.canStep, h]

/-- Over any run, the table's length follows `substreamsAfter`: between a CONNECT and the next SYN
or DISCONNECT the peer has the same substreams, whatever else happens. The peer's events do not
overlap: `peerRun` handles each to its end before the next starts, as Go does only when nothing else
runs on the peer meanwhile. -/
theorem length_peerRun {events : List PeerEvent} (h : peerRun keystream prims server c events = some (c', outs)) :
    c'.reliableSubstreams.length = events.foldl PeerEvent.substreamsAfter c.reliableSubstreams.length :=
  peerRun_induction keystream prims server
    (R := fun c es _ c' => c'.reliableSubstreams.length = es.foldl PeerEvent.substreamsAfter c.reliableSubstreams.length)
    (fun _ => rfl) (fun hs h => by dsimp only at h ⊢; rw [h, List.foldl_cons, length_peerStep keystream prims server hs]) h

/-- A run of a peer, from any state, returns exactly when each of its events can step at the table
length the events before it leave. The fragment size ranges over the natural numbers
(`PRUDPServer.fragmentSize`): among them only `0` stops a send. The peer's events do not overlap:
`peerRun` handles each to its end before the next starts, as Go does only when nothing else runs on
the peer meanwhile. -/
theorem isSome_peerRun : ∀ (events : List PeerEvent) (c : PRUDPClient),
    (peerRun keystream prims server c events).isSome = Steps server.fragmentSize c.reliableSubstreams.length events
  | [], _ => rfl
  | e :: rest, c => by
    simp only [peerRun, Steps, Option.bind_eq_bind]
    cases h : peerStep keystream prims server c e with
    | none => simp [(peerStep_eq_none_iff keystream prims server e).1 h]
    | some r =>
      obtain ⟨c₁, o₁⟩ := r
      have hc : e.canStep server.fragmentSize c.reliableSubstreams.length = true := by
        simpa using (peerStep_eq_none_iff keystream prims server (c := c) e).not.1 (by simp [h])
      rw [Option.some_bind, hc, Bool.true_and, ← length_peerStep keystream prims server h,
        ← isSome_peerRun rest c₁]
      cases peerRun keystream prims server c₁ rest <;> rfl

end Runs


/-- A handshake that asks for substreams `0 … 3`, traffic on substream `2`, and a heartbeat leave
the peer with four substreams. -/
theorem length_peerRun_handshake :
    let events : List PeerEvent :=
      [.receive 0 { newPRUDPPacketV1 with packetType := .syn },
       .receive 0 { newPRUDPPacketV1 with packetType := .connect, maximumSubstreamID := 3 },
       .receive 0 { newPRUDPPacketV1 with
         packetType := .data, flags := [.reliable, .needsAck], substreamID := 2, sequenceID := 1, payload := [7] },
       .send { newPRUDPPacketV1 with packetType := .data, flags := [.reliable, .needsAck], substreamID := 2 },
       .ping]
    ∃ c' outs, peerRun (fun _ _ => 0) plainPrimitives newPRUDPServer (newPRUDPClient "10.0.0.1:3000") events =
        some (c', outs) ∧
      c'.reliableSubstreams.length = events.foldl PeerEvent.substreamsAfter 0 ∧
      events.foldl PeerEvent.substreamsAfter 0 = 4 := by
  intro events
  obtain ⟨c', outs, h⟩ : ∃ c' outs, peerRun (fun _ _ => 0) plainPrimitives newPRUDPServer
      (newPRUDPClient "10.0.0.1:3000") events = some (c', outs) := ⟨_, _, rfl⟩
  exact ⟨c', outs, h, length_peerRun _ _ _ h, rfl⟩

/-- A session on substream `1` returns through its DISCONNECT; an ACK after the DISCONNECT, for a
substream the peer no longer has, stops it. -/
theorem isSome_peerRun_ack_after_disconnect :
    let session : List PeerEvent :=
      [.receive 0 { newPRUDPPacketV1 with packetType := .syn },
       .receive 0 { newPRUDPPacketV1 with packetType := .connect, maximumSubstreamID := 1 },
       .receive 0 { newPRUDPPacketV1 with
         packetType := .data, flags := [.reliable, .needsAck], substreamID := 1, sequenceID := 1, payload := [7] },
       .send { newPRUDPPacketV1 with
         packetType := .data, flags := [.reliable, .needsAck], substreamID := 1, payload := [1, 2] },
       .ping,
       .receive 0 { newPRUDPPacketV1 with packetType := .disconnect }]
    (peerRun (fun _ _ => 0) plainPrimitives newPRUDPServer (newPRUDPClient "10.0.0.1:3000") session).isSome = true ∧
      (peerRun (fun _ _ => 0) plainPrimitives newPRUDPServer (newPRUDPClient "10.0.0.1:3000")
        (session ++ [.receive 0 { newPRUDPPacketV1 with flags := [.ack] }])).isSome = false :=
  ⟨(isSome_peerRun _ _ _ _ _).trans (by decide), (isSome_peerRun _ _ _ _ _).trans (by decide)⟩

end NexGo

import NexGo.Server.Dispatch

/-!
# A peer's session: every event it sees, one after another (`prudp_server.go`)

A peer sees three kinds of event: a packet arrives from it (`handleSocketMessage`, lines 94-133,
hands each packet of the datagram to `processPacket`, lines 135-155), the application sends it a
packet (`Send`, lines 481-502), or its heartbeat fires (`sendPing`, lines 460-478). `peerRun`
takes them in the order given, from a peer on, and stops where Go would not return.

Go runs `runtime.NumCPU()` listeners and every event handler in a goroutine of its own, with no
lock on the peer. The model takes each event as one atomic step, so what is proved over
`peerRun` is about the runs in which the events of one peer do not overlap.

`peerRun_rel` is the run principle: a relation between a peer, what a run sends and the peer
after it, that holds of the empty run, composes, and holds of each step, holds of every run.
The invariants of the next modules are all derived from it. Two frames are stated here for
them: a received reliable packet moves only the incoming side of its substream
(`receiveReliable_frame`), and a substream replaced by one that agrees on a field leaves that
field of the table as it was (`map_setReliableSubstream`).

`processPacket_eq_none_of_no_substreams` says which packets a peer without substreams (a new
one, or one after a SYN or a DISCONNECT) does not survive.
-/

namespace NexGo
set_option autoImplicit false

/-- What can happen to one peer: a packet from it arrives at server time `now`, the application
sends it a packet, or its heartbeat sends a PING. -/
inductive PeerEvent
  | receive (now : Nat) (packet : Packet)
  | send (packet : Packet)
  | ping
  deriving DecidableEq, Repr

section Run

variable (keystream : List (BitVec 8) → Nat → BitVec 8) (prims : ConnectPrimitives) (server : PRUDPServer)

/-- One event on the peer: `processPacket`, `Send` or `sendPing`. -/
def peerStep (client : PRUDPClient) : PeerEvent → Option (PRUDPClient × List Output)
  | .receive now packet => processPacket keystream prims now server client packet
  | .send packet => send keystream server client packet
  | .ping => sendPing keystream server client

/-- The events in turn, from `client` on: the peer after them and everything sent and emitted;
`none` if Go does not return from one of them. Each event is handled to its end before the next
starts: a run is one in which the peer's events do not overlap, which Go, with no lock on the
peer, guarantees only when nothing else runs on it meanwhile. -/
def peerRun : PRUDPClient → List PeerEvent → Option (PRUDPClient × List Output)
  | client, [] => some (client, [])
  | client, event :: rest => do
    let (client, outs) ← peerStep keystream prims server client event
    let (client, outs') ← peerRun client rest
    pure (client, outs ++ outs')

/-- The run principle, with the events: a relation between a peer, the events of a run, what
they send and the peer after them, that holds of no event and of a step followed by a run, holds of
every run. -/
theorem peerRun_induction {R : PRUDPClient → List PeerEvent → List Output → PRUDPClient → Prop}
    (hnil : ∀ c, R c [] [] c)
    (hcons : ∀ {c e c₁ o₁ rest c₂ o₂}, peerStep keystream prims server c e = some (c₁, o₁) →
      R c₁ rest o₂ c₂ → R c (e :: rest) (o₁ ++ o₂) c₂) :
    ∀ {events : List PeerEvent} {c c' : PRUDPClient} {o : List Output},
      peerRun keystream prims server c events = some (c', o) → R c events o c'
  | [], c, _, _, h => by
    obtain ⟨rfl, rfl⟩ := Prod.mk.inj (Option.some.inj h)
    exact hnil c
  | e :: rest, _, _, _, h => by
    simp only [peerRun, Option.bind_eq_bind, Option.bind_eq_some, Option.pure_def, Option.some.injEq] at h
    obtain ⟨⟨c₁, o₁⟩, h₁, ⟨c₂, o₂⟩, h₂, hc⟩ := h
    obtain ⟨rfl, rfl⟩ := Prod.mk.inj hc
    exact hcons h₁ (peerRun_induction hnil hcons h₂)

/-- The run principle: a relation between a peer, what is sent and the peer after it, that
holds of no event, composes, and holds of every step with events of `P`, holds of every run of
them. -/
theorem peerRun_rel {R : PRUDPClient → List Output → PRUDPClient → Prop} {P : PeerEvent → Prop}
    (hnil : ∀ c, R c [] c)
    (htrans : ∀ {c₁ o₁ c₂ o₂ c₃}, R c₁ o₁ c₂ → R c₂ o₂ c₃ → R c₁ (o₁ ++ o₂) c₃)
    (hstep : ∀ {c e c' o}, P e → peerStep keystream prims server c e = some (c', o) → R c o c')
    {events : List PeerEvent} {c c' : PRUDPClient} {o : List Output} (hP : ∀ e ∈ events, P e)
    (h : peerRun keystream prims server c events = some (c', o)) : R c o c' :=
  peerRun_induction keystream prims server (R := fun c es o c' => (∀ e ∈ es, P e) → R c o c')
    (fun c _ => hnil c)
    (fun hs hrest hP => htrans (hstep (hP _ (List.mem_cons_self _ _)) hs)
      (hrest fun e he => hP e (List.mem_cons_of_mem _ he))) h hP

end Run

/-! ## Frames -/

section Frames

variable (keystream : List (BitVec 8) → Nat → BitVec 8)

/-- The loop of `handleReliable` moves only the incoming RC4 state and the accumulator. -/
theorem reliableLoop_frame : ∀ (packet : Packet) (pending : List Packet) (sub : ReliableSubstream),
    ∃ cipherIn acc, (reliableLoop keystream packet pending sub).1 =
      { sub with cipherIn := cipherIn, fragmentedPayload := acc }
  | _, [], sub => ⟨sub.cipherIn, sub.fragmentedPayload, rfl⟩
  | packet, p :: rest, sub => by
    unfold reliableLoop
    split_ifs
    · obtain ⟨cipherIn, acc, h⟩ := reliableLoop_frame packet rest
        ((((sub.decryptPayload keystream p).2.addFragment (sub.decryptPayload keystream p).1).2).resetFragmentedPayload)
      exact ⟨cipherIn, acc, h⟩
    · obtain ⟨cipherIn, acc, h⟩ := reliableLoop_frame packet rest
        (((sub.decryptPayload keystream p).2.addFragment (sub.decryptPayload keystream p).1).2)
      exact ⟨cipherIn, acc, h⟩
    · obtain ⟨cipherIn, acc, h⟩ := reliableLoop_frame packet rest sub
      exact ⟨cipherIn, acc, h⟩

/-- Receiving a reliable packet moves the substream's incoming side only. -/
theorem receiveReliable_frame (sub : ReliableSubstream) (p : Packet) :
    ∃ next buffered cipherIn acc, (receiveReliable keystream sub p).1 = { sub with
      incomingSequenceID := next, buffered := buffered, cipherIn := cipherIn, fragmentedPayload := acc } := by
  obtain ⟨cipherIn, acc, h⟩ := reliableLoop_frame keystream p (sub.update p).1 (sub.update p).2
  exact ⟨_, _, cipherIn, acc, h⟩

/-- A substream replaced by one that agrees with it on `f` leaves `f` of the table as it was. -/
theorem map_setReliableSubstream {α : Type} (f : ReliableSubstream → α) {c : PRUDPClient} {id : BitVec 8}
    {sub sub' : ReliableSubstream} (hsub : c.reliableSubstream id = some sub) (he : f sub' = f sub) :
    (c.setReliableSubstream id sub').reliableSubstreams.map f = c.reliableSubstreams.map f := by
  have hsub' : c.reliableSubstreams[id.toNat]? = some sub := hsub
  refine List.ext_getElem? fun n => ?_
  simp only [PRUDPClient.setReliableSubstream, List.getElem?_map, List.getElem?_set]
  by_cases h : id.toNat = n
  · subst h
    simp [hsub', he, (List.getElem?_eq_some_iff.1 hsub').1]
  · simp [h]

/-- Two tables that agree on `f` agree on `f` of each entry. -/
theorem map_reliableSubstream {α : Type} (f : ReliableSubstream → α) {c c' : PRUDPClient}
    (h : c'.reliableSubstreams.map f = c.reliableSubstreams.map f) (i : BitVec 8) :
    (c'.reliableSubstream i).map f = (c.reliableSubstream i).map f := by
  simpa [PRUDPClient.reliableSubstream, List.getElem?_map] using congrArg (·[i.toNat]?) h

/-- `sendPacket`'s first step moves a substream's outgoing id only. -/
theorem map_assignSequenceID {α : Type} (f : ReliableSubstream → α)
    (hf : ∀ (sub : ReliableSubstream) n, f { sub with outgoingSequenceID := n } = f sub) {c c' : PRUDPClient}
    {p p' : Packet} (h : assignSequenceID c p = some (c', p')) :
    c'.reliableSubstreams.map f = c.reliableSubstreams.map f := by
  unfold assignSequenceID at h
  split_ifs at h <;>
    simp only [Option.bind_eq_bind, Option.bind_eq_some, Option.pure_def, Option.some.injEq, Prod.mk.injEq] at h
  · rw [← h.1]
  · obtain ⟨sub, hsub, rfl, -⟩ := h
    exact map_setReliableSubstream f hsub (hf sub _)
  all_goals obtain ⟨rfl, -⟩ := h; rfl

/-- `sendPacket`'s second step moves a substream's outgoing RC4 state only. -/
theorem map_encryptPayload {α : Type} (keystream : List (BitVec 8) → Nat → BitVec 8) (f : ReliableSubstream → α)
    (hf : ∀ (sub : ReliableSubstream) x, f { sub with cipherOut := x } = f sub) {c c' : PRUDPClient}
    {p p' : Packet} (h : encryptPayload keystream c p = some (c', p')) :
    c'.reliableSubstreams.map f = c.reliableSubstreams.map f := by
  unfold encryptPayload at h
  split_ifs at h <;>
    simp only [Option.bind_eq_bind, Option.bind_eq_some, Option.pure_def, Option.some.injEq, Prod.mk.injEq] at h
  · obtain ⟨sub, hsub, rfl, -⟩ := h
    exact map_setReliableSubstream f hsub (hf sub _)
  · rw [← h.1]

/-- `sendPacket`'s last step moves a substream's resend scheduler only. -/
theorem map_scheduleResend {α : Type} (f : ReliableSubstream → α)
    (hf : ∀ (sub : ReliableSubstream) r, f { sub with resendScheduler := r } = f sub) {c c' : PRUDPClient}
    {p : Packet} (h : scheduleResend c p = some c') :
    c'.reliableSubstreams.map f = c.reliableSubstreams.map f := by
  unfold scheduleResend at h
  split_ifs at h <;> simp only [Option.bind_eq_bind, Option.bind_eq_some, Option.pure_def, Option.some.injEq] at h
  · obtain ⟨sub, hsub, rfl⟩ := h
    exact map_setReliableSubstream f hsub (hf sub _)
  · rw [← h]

/-- `sendPacket` moves a substream's outgoing side only. -/
theorem map_sendPacket {α : Type} (keystream : List (BitVec 8) → Nat → BitVec 8) (f : ReliableSubstream → α)
    (hid : ∀ (sub : ReliableSubstream) n, f { sub with outgoingSequenceID := n } = f sub)
    (hcipher : ∀ (sub : ReliableSubstream) x, f { sub with cipherOut := x } = f sub)
    (hsched : ∀ (sub : ReliableSubstream) r, f { sub with resendScheduler := r } = f sub) {c c' : PRUDPClient}
    {p p' : Packet} (h : sendPacket keystream c p = some (c', p')) :
    c'.reliableSubstreams.map f = c.reliableSubstreams.map f := by
  simp only [sendPacket, Option.bind_eq_bind, Option.bind_eq_some, Option.pure_def, Option.some.injEq] at h
  obtain ⟨⟨c₁, p₁⟩, h₁, ⟨c₂, p₂⟩, h₂, c₃, h₃, hc⟩ := h
  obtain ⟨rfl, -⟩ := Prod.mk.inj hc
  rw [map_scheduleResend f hsched h₃, map_encryptPayload keystream f hcipher h₂, map_assignSequenceID f hid h₁]

/-- `Send`'s loop moves the substreams' outgoing sides only. -/
theorem map_sendFragments {α : Type} (keystream : List (BitVec 8) → Nat → BitVec 8) (f : ReliableSubstream → α)
    (hid : ∀ (sub : ReliableSubstream) n, f { sub with outgoingSequenceID := n } = f sub)
    (hcipher : ∀ (sub : ReliableSubstream) x, f { sub with cipherOut := x } = f sub)
    (hsched : ∀ (sub : ReliableSubstream) r, f { sub with resendScheduler := r } = f sub) :
    ∀ (frags : List (List (BitVec 8) × BitVec 8)) {c c' : PRUDPClient} {packet : Packet} {outs : List Output},
      sendFragments keystream c packet frags = some (c', outs) →
      c'.reliableSubstreams.map f = c.reliableSubstreams.map f
  | [], _, _, _, _, hs => by
    obtain ⟨rfl, -⟩ := Prod.mk.inj (Option.some.inj hs)
    rfl
  | (payload, fragmentID) :: rest, _, _, _, _, hs => by
    simp only [sendFragments, Option.bind_eq_bind, Option.bind_eq_some, Option.pure_def,
      Option.some.injEq] at hs
    obtain ⟨⟨c₁, p₁⟩, h₁, ⟨c₂, outs₂⟩, h₂, hc⟩ := hs
    obtain ⟨rfl, -⟩ := Prod.mk.inj hc
    rw [map_sendFragments keystream f hid hcipher hsched rest h₂, map_sendPacket keystream f hid hcipher hsched h₁]

@[simp] theorem mem_sentPackets {q : Packet} {outs : List Output} : q ∈ sentPackets outs ↔ Output.sent q ∈ outs := by
  simp only [sentPackets, List.mem_filterMap]
  constructor
  · rintro ⟨o, ho, h⟩
    cases o <;> simp only [reduceCtorEq, Option.some.injEq] at h
    exact h ▸ ho
  · exact fun h => ⟨_, h, rfl⟩

end Frames

/-! ## The handlers' acknowledgment step -/

section Handlers

variable (keystream : List (BitVec 8) → Nat → BitVec 8) {c c' : PRUDPClient} {p : Packet} {outs : List Output}

/-- The acknowledgment a handler sends first, when the packet asks for one, leaves the peer as
it was. -/
theorem client_of_acknowledgeIfNeeded
    (hs : (if p.hasFlag .needsAck then acknowledgePacket keystream c p else pure (c, [])) = some (c', outs)) :
    c' = c := by
  split_ifs at hs
  · rw [acknowledgePacket_eq] at hs
    exact (Prod.mk.inj (Option.some.inj hs)).1.symm
  · exact (Prod.mk.inj (Option.some.inj hs)).1.symm

/-- `handleReliable` with its acknowledgment step as a plain bind. -/
theorem handleReliable_eq_bind (c : PRUDPClient) (p : Packet) : handleReliable keystream c p =
    (if p.hasFlag .needsAck then acknowledgePacket keystream c p else pure (c, [])).bind fun (c₁, acks) =>
      (c₁.reliableSubstream p.substreamID).bind fun sub =>
        some (c₁.setReliableSubstream p.substreamID (receiveReliable keystream sub p).1,
          acks ++ emitReliableData p (receiveReliable keystream sub p).2) := by
  unfold handleReliable; split_ifs <;> rfl

/-- After `handleReliable` the peer is the old one with the packet's substream replaced by what
`receiveReliable` makes of it. -/
theorem handleReliable_client (hs : handleReliable keystream c p = some (c', outs)) :
    ∃ sub, c.reliableSubstream p.substreamID = some sub ∧
      c' = c.setReliableSubstream p.substreamID (receiveReliable keystream sub p).1 := by
  rw [handleReliable_eq_bind] at hs
  obtain ⟨⟨c₁, acks⟩, hacks, h₁⟩ := Option.bind_eq_some.1 hs
  obtain ⟨sub, hsub, hc⟩ := Option.bind_eq_some.1 h₁
  obtain rfl := client_of_acknowledgeIfNeeded keystream hacks
  exact ⟨sub, hsub, (Prod.mk.inj (Option.some.inj hc)).1.symm⟩

/-- After `handleAcknowledgment` the peer is the old one with one substream's resend scheduler
replaced. -/
theorem handleAcknowledgment_client (hs : handleAcknowledgment c p = some c') :
    ∃ i sub r, c.reliableSubstream i = some sub ∧ c' = c.setReliableSubstream i { sub with resendScheduler := r } := by
  unfold handleAcknowledgment handleMultiAcknowledgment at hs
  split_ifs at hs <;>
    simp only [Option.bind_eq_bind, Option.bind_eq_some, Option.pure_def, Option.some.injEq] at hs
  · obtain ⟨_, -, sub, hsub, rfl⟩ := hs
    exact ⟨_, sub, _, hsub, rfl⟩
  · obtain ⟨sub, hsub, rfl⟩ := hs
    exact ⟨_, sub, _, hsub, rfl⟩

/-- After `handleDisconnect` the peer is the old one, cleaned up. -/
theorem handleDisconnect_client (hs : handleDisconnect keystream c p = some (c', outs)) : c' = c.cleanup := by
  unfold handleDisconnect at hs
  dsimp only at hs
  split_ifs at hs
  · rw [acknowledgePacket_eq] at hs
    exact (Prod.mk.inj (Option.some.inj hs)).1.symm
  · exact (Prod.mk.inj (Option.some.inj hs)).1.symm

end Handlers

/-! ## A peer without substreams -/

section NoSubstreams

variable (keystream : List (BitVec 8) → Nat → BitVec 8) (prims : ConnectPrimitives) (now : Nat)
  (server : PRUDPServer)

/-- A peer with no substreams, one just made or one after a SYN or a DISCONNECT, survives exactly
the packets whose handlers do not index the substream table: `processPacket` does not return for
an ACK, a MULTI_ACK or a reliable DATA packet, and returns for every other. -/
theorem processPacket_eq_none_of_no_substreams {client : PRUDPClient} (hc : client.reliableSubstreams = [])
    (packet : Packet) :
    processPacket keystream prims now server client packet = none ↔
      packet.hasFlag .ack = true ∨ packet.hasFlag .multiAck = true ∨
        packet.packetType = .data ∧ packet.hasFlag .reliable = true := by
  have hnone : ∀ id, client.reliableSubstream id = none := fun id => by
    simp [PRUDPClient.reliableSubstream, hc]
  unfold processPacket
  by_cases hack : (packet.hasFlag .ack || packet.hasFlag .multiAck) = true
  · -- acknowledgments look their substream up
    have : handleAcknowledgment client packet = none := by
      unfold handleAcknowledgment handleMultiAcknowledgment
      split_ifs
      · cases readMultiAck packet <;> simp [hnone]
      · simp [hnone]
    simp only [hack, if_true, this, Option.map_none', true_iff]
    rcases Bool.or_eq_true _ _ ▸ hack with h | h <;> simp [h]
  · simp only [Bool.or_eq_true, not_or, Bool.not_eq_true] at hack
    simp only [hack.1, hack.2, Bool.or_false, Bool.false_eq_true, if_false, false_or]
    -- by type: SYN, CONNECT, DATA, DISCONNECT, PING
    rcases htype : packet.packetType with _ | _ | _ | _ | _
    · simp
    · simp
    · unfold handleData handleReliable
      by_cases hr : packet.hasFlag .reliable <;> by_cases hn : packet.hasFlag .needsAck <;>
        simp [hr, hn, acknowledgePacket_eq, hnone]
    · unfold handleDisconnect; split_ifs <;> simp [acknowledgePacket_eq]
    · unfold handlePing; split_ifs <;> simp [acknowledgePacket_eq]

/-- Which packets a peer does not survive, a MULTI_ACK apart (its substream comes from the
payload): an ACK or a reliable DATA packet on a substream the peer does not have, where Go indexes
the substream slice out of range. Every other packet, whatever its substream id, is processed. -/
theorem processPacket_eq_none_iff {client : PRUDPClient} {packet : Packet} (hmulti : packet.hasFlag .multiAck = false) :
    processPacket keystream prims now server client packet = none ↔
      (packet.hasFlag .ack = true ∨ packet.packetType = .data ∧ packet.hasFlag .reliable = true) ∧
        client.reliableSubstream packet.substreamID = none := by
  unfold processPacket
  by_cases hack : packet.hasFlag .ack = true
  · -- an ACK looks its substream up
    cases hs : client.reliableSubstream packet.substreamID <;> simp [hack, hmulti, handleAcknowledgment, hs]
  · simp only [Bool.not_eq_true] at hack
    simp only [hack, hmulti, Bool.or_false, Bool.false_eq_true, if_false, false_or]
    -- by type: SYN, CONNECT, DATA, DISCONNECT, PING
    rcases htype : packet.packetType with _ | _ | _ | _ | _
    · simp
    · simp
    · unfold handleData handleReliable
      cases hs : client.reliableSubstream packet.substreamID <;> by_cases hr : packet.hasFlag .reliable <;>
        by_cases hn : packet.hasFlag .needsAck <;> simp [hr, hn, acknowledgePacket_eq, hs]
    · unfold handleDisconnect; split_ifs <;> simp [acknowledgePacket_eq]
    · unfold handlePing; split_ifs <;> simp [acknowledgePacket_eq]

end NoSubstreams

/-- A stray ACK from a new address, before any SYN. -/
theorem processPacket_stray_ack_new_peer :
    (newPRUDPClient "10.0.0.1:3000").reliableSubstreams = [] ∧
      (processPacket (fun _ _ => 0) plainPrimitives 0 newPRUDPServer (newPRUDPClient "10.0.0.1:3000")
          { newPRUDPPacketV1 with flags := [.ack] } = none ↔
        ({ newPRUDPPacketV1 with flags := [.ack] } : Packet).hasFlag .ack = true ∨
          ({ newPRUDPPacketV1 with flags := [.ack] } : Packet).hasFlag .multiAck = true ∨
          ({ newPRUDPPacketV1 with flags := [.ack] } : Packet).packetType = .data ∧
            ({ newPRUDPPacketV1 with flags := [.ack] } : Packet).hasFlag .reliable = true) :=
  ⟨rfl, processPacket_eq_none_of_no_substreams _ _ _ _ rfl _⟩

/-- An ACK for substream `5` at a peer that has substream `0` only. -/
theorem processPacket_ack_on_missing_substream :
    ({ newPRUDPPacketV1 with flags := [.ack], substreamID := 5 } : Packet).hasFlag .multiAck = false ∧
      (processPacket (fun _ _ => 0) plainPrimitives 0 newPRUDPServer
          { newPRUDPClient "10.0.0.1:3000" with reliableSubstreams := [newReliableSubstream []] }
          { newPRUDPPacketV1 with flags := [.ack], substreamID := 5 } = none ↔
        (({ newPRUDPPacketV1 with flags := [.ack], substreamID := 5 } : Packet).hasFlag .ack = true ∨
          ({ newPRUDPPacketV1 with flags := [.ack], substreamID := 5 } : Packet).packetType = .data ∧
            ({ newPRUDPPacketV1 with flags := [.ack], substreamID := 5 } : Packet).hasFlag .reliable = true) ∧
          ({ newPRUDPClient "10.0.0.1:3000" with reliableSubstreams := [newReliableSubstream []] } :
            PRUDPClient).reliableSubstream 5 = none) :=
  ⟨rfl, processPacket_eq_none_iff _ _ _ _ rfl⟩

end NexGo

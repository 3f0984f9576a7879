import Mathlib.Data.List.Nodup
import NexGo.Server.Counters

/-!
# The resend schedulers hold only what was sent (`prudp_server.go`)

`sendPacket` (lines 504-536) hands every reliable packet that needs an acknowledgment to its
substream's resend scheduler, after numbering and encrypting it; the acknowledgment handlers
(lines 157-213) take entries out, and SYN, CONNECT and DISCONNECT replace the substream table.
The scheduler is modelled from the spec (§4.2: a map from sequence id to the bytes sent), so an
entry is the packet as it went to the socket. Go hands the scheduler the packet object, which
`Send` reuses for every fragment; whether an entry keeps the bytes sent is up to the scheduler,
which is not in the repository's files.

`ResendsSent sent c`: every entry of every scheduler of `c` is a packet of `sent`, reliable,
needing an acknowledgment and of that scheduler's substream, and no sequence id is pending
twice in one scheduler. Each handler keeps it (`ResendsSent.sendPacket`,
`ResendsSent.handleAcknowledgment`, `ResendsSent.processPacket`, ...), hence every run does
(`ResendsSent.peerRun`): a retransmission can only repeat a packet the server sent.

Conversely nothing pending is dropped before an acknowledgment arrives (`SchedulesOut`): over a run
that keeps the table and receives no ACK, substream `i`'s scheduler changes only by the packets the
run sent on `i`, added in the order sent (`resendScheduler_keeps_unacknowledged`). An ACK for an
id leaves nothing under it, and a multi-ACK nothing it names or numbers up to its base; neither
comes back unless the run sends it again (`scheduler_avoids_peerRun`, hence
`acknowledged_not_resent` and `multiAcknowledged_not_resent`).
-/

namespace NexGo
set_option autoImplicit false

/-- The peer's resend schedulers, by substream. -/
def PRUDPClient.schedulers (c : PRUDPClient) : List ResendScheduler := c.reliableSubstreams.map (·.resendScheduler)

/-- What substream `i`'s resend scheduler may hold once the packets `sent` have gone out: reliable
packets that need an acknowledgment, of substream `i`, that were sent, one under each id. -/
structure Resendable (sent : List Packet) (i : Nat) (r : ResendScheduler) : Prop where
  mem : ∀ p ∈ r.packets, p.hasFlag .reliable = true ∧ p.hasFlag .needsAck = true ∧ p.substreamID.toNat = i ∧ p ∈ sent
  nodup : r.ids.Nodup

/-- Every resend scheduler of the peer holds only what it may. -/
def ResendsSent (sent : List Packet) (c : PRUDPClient) : Prop :=
  ∀ i r, c.schedulers[i]? = some r → Resendable sent i r

section Resendable

variable {sent sent' : List Packet} {i : Nat} {r : ResendScheduler} {c c' : PRUDPClient}

theorem Resendable.mono (h : Resendable sent i r) (hs : sent ⊆ sent') : Resendable sent' i r :=
  ⟨fun p hp => let ⟨h1, h2, h3, h4⟩ := h.mem p hp; ⟨h1, h2, h3, hs h4⟩, h.nodup⟩

theorem Resendable.filter (h : Resendable sent i r) (f : Packet → Bool) : Resendable sent i ⟨r.packets.filter f⟩ :=
  ⟨fun p hp => h.mem p (List.mem_of_mem_filter hp), h.nodup.sublist ((List.filter_sublist _).map _)⟩

theorem Resendable.addPacket (h : Resendable sent i r) {p : Packet} (hr : p.hasFlag .reliable = true)
    (hn : p.hasFlag .needsAck = true) (hi : p.substreamID.toNat = i) (hp : p ∈ sent) :
    Resendable sent i (r.addPacket p) := by
  refine ⟨fun q hq => ?_, ?_⟩
  · rcases List.mem_append.1 hq with hq | hq
    · exact h.mem q (List.mem_of_mem_filter hq)
    · obtain rfl := List.mem_singleton.1 hq
      exact ⟨hr, hn, hi, hp⟩
  · simp only [ResendScheduler.ids, ResendScheduler.addPacket, List.map_append, List.nodup_append]
    exact ⟨h.nodup.sublist ((List.filter_sublist _).map _), List.nodup_singleton _, by simp⟩

theorem ResendsSent.mono (h : ResendsSent sent c) (hs : sent ⊆ sent') : ResendsSent sent' c :=
  fun i r hr => (h i r hr).mono hs

theorem ResendsSent.of_schedulers (h : ResendsSent sent c) (he : c'.schedulers = c.schedulers) :
    ResendsSent sent c' :=
  fun i r hr => h i r (he ▸ hr)

/-- A peer whose schedulers are all empty, as after `reset`, `cleanup` or `createReliableSubstreams`. -/
theorem ResendsSent.of_empty (h : ∀ r ∈ c.schedulers, r.packets = []) : ResendsSent sent c :=
  fun _ r hr => by
    have := h r (List.getElem?_mem hr)
    exact ⟨by simp [this], by simp [ResendScheduler.ids, this]⟩

theorem ResendsSent.set (h : ResendsSent sent c) {id : BitVec 8} {sub : ReliableSubstream}
    (hr : Resendable sent id.toNat sub.resendScheduler) : ResendsSent sent (c.setReliableSubstream id sub) := by
  intro i r hi
  simp only [PRUDPClient.schedulers, PRUDPClient.setReliableSubstream, List.map_set, List.getElem?_set] at hi
  split_ifs at hi with heq
  · subst heq
    obtain ⟨-, rfl⟩ := Option.some.inj hi
    exact hr
  · exact h i r hi

/-- Replacing a substream by one with the same scheduler leaves the schedulers as they were. -/
theorem schedulers_setReliableSubstream {id : BitVec 8} {sub sub' : ReliableSubstream}
    (hsub : c.reliableSubstream id = some sub) (he : sub'.resendScheduler = sub.resendScheduler) :
    (c.setReliableSubstream id sub').schedulers = c.schedulers :=
  map_setReliableSubstream _ hsub he

theorem schedulers_setReliableSubstream_self {id : BitVec 8} {sub : ReliableSubstream}
    (h : c.reliableSubstream id ≠ none) :
    (c.setReliableSubstream id sub).schedulers[id.toNat]? = some sub.resendScheduler := by
  rw [PRUDPClient.schedulers, List.getElem?_map]
  exact congrArg (Option.map _) (PRUDPClient.reliableSubstream_setReliableSubstream c id sub h)

end Resendable

/-! ### The send path -/

section SendPath

variable (keystream : List (BitVec 8) → Nat → BitVec 8) {sent : List Packet} {c c' : PRUDPClient}
  {p p' : Packet}

theorem schedulers_assignSequenceID (h : assignSequenceID c p = some (c', p')) : c'.schedulers = c.schedulers :=
  map_assignSequenceID (·.resendScheduler) (fun _ _ => rfl) h

theorem schedulers_encryptPayload (h : encryptPayload keystream c p = some (c', p')) : c'.schedulers = c.schedulers :=
  map_encryptPayload keystream (·.resendScheduler) (fun _ _ => rfl) h

/-- `sendPacket` puts into a scheduler only the packet it sends, and only if that is reliable and
needs an acknowledgment. -/
theorem ResendsSent.sendPacket (h : ResendsSent sent c) (hs : sendPacket keystream c p = some (c', p')) :
    ResendsSent (sent ++ [p']) c' := by
  simp only [NexGo.sendPacket, Option.bind_eq_bind, Option.bind_eq_some, Option.pure_def, Option.some.injEq] at hs
  obtain ⟨⟨c₁, p₁⟩, h₁, ⟨c₂, p₂⟩, h₂, c₃, h₃, hc⟩ := hs
  obtain ⟨rfl, rfl⟩ := Prod.mk.inj hc
  have h₂' : ResendsSent (sent ++ [p₂]) c₂ := ((h.mono (List.subset_append_left _ _)).of_schedulers
    (schedulers_assignSequenceID h₁)).of_schedulers (schedulers_encryptPayload keystream h₂)
  unfold scheduleResend at h₃
  split_ifs at h₃ with hflags
  · simp only [Option.bind_eq_bind, Option.bind_eq_some, Option.pure_def, Option.some.injEq] at h₃
    obtain ⟨sub, hsub, rfl⟩ := h₃
    simp only [Bool.and_eq_true] at hflags
    have hsub' : c₂.reliableSubstreams[p₂.substreamID.toNat]? = some sub := hsub
    have hr : c₂.schedulers[p₂.substreamID.toNat]? = some sub.resendScheduler := by
      simp [PRUDPClient.schedulers, hsub']
    exact h₂'.set ((h₂' _ _ hr).addPacket hflags.1 hflags.2 rfl (by simp))
  · obtain rfl := Option.some.inj h₃
    exact h₂'

theorem ResendsSent.sendFragments : ∀ (frags : List (List (BitVec 8) × BitVec 8)) {sent : List Packet}
    {c c' : PRUDPClient} {packet : Packet} {outs : List Output}, ResendsSent sent c →
    NexGo.sendFragments keystream c packet frags = some (c', outs) → ResendsSent (sent ++ sentPackets outs) c'
  | [], _, _, _, _, _, h, hs => by
    obtain ⟨rfl, rfl⟩ := Prod.mk.inj (Option.some.inj hs)
    simpa [sentPackets] using h
  | (payload, fragmentID) :: rest, sent, c, c', packet, outs, h, hs => by
    simp only [NexGo.sendFragments, Option.bind_eq_bind, Option.bind_eq_some, Option.pure_def,
      Option.some.injEq] at hs
    obtain ⟨⟨c₁, p₁⟩, h₁, ⟨c₂, outs₂⟩, h₂, hc⟩ := hs
    obtain ⟨rfl, rfl⟩ := Prod.mk.inj hc
    have := ResendsSent.sendFragments rest ((h.sendPacket keystream h₁)) h₂
    simpa [sentPackets] using this

theorem ResendsSent.send {server : PRUDPServer} {p : Packet} {outs : List Output} (h : ResendsSent sent c)
    (hs : NexGo.send keystream server c p = some (c', outs)) : ResendsSent (sent ++ sentPackets outs) c' := by
  unfold NexGo.send at hs
  split_ifs at hs
  exact h.sendFragments keystream _ hs

theorem ResendsSent.sendPing {server : PRUDPServer} {outs : List Output} (h : ResendsSent sent c)
    (hs : sendPing keystream server c = some (c', outs)) : ResendsSent (sent ++ sentPackets outs) c' := by
  simp only [NexGo.sendPing, Option.bind_eq_bind, Option.bind_eq_some, Option.pure_def, Option.some.injEq] at hs
  obtain ⟨⟨c₁, p₁⟩, h₁, hc⟩ := hs
  obtain ⟨rfl, rfl⟩ := Prod.mk.inj hc
  simpa [sentPackets] using h.sendPacket keystream h₁

end SendPath

/-! ### The receive path -/

section ReceivePath

variable (keystream : List (BitVec 8) → Nat → BitVec 8) (prims : ConnectPrimitives) (now : Nat)
  (server : PRUDPServer) {sent : List Packet} {c c' : PRUDPClient} {p : Packet} {outs : List Output}

theorem ResendsSent.get (h : ResendsSent sent c) {id : BitVec 8} {sub : ReliableSubstream}
    (hsub : c.reliableSubstream id = some sub) : Resendable sent id.toNat sub.resendScheduler :=
  h _ _ (by simp [PRUDPClient.schedulers, List.getElem?_map, show c.reliableSubstreams[id.toNat]? = some sub from hsub])

theorem Resendable.foldl_acknowledgePacket {i : Nat} : ∀ (ids : List (BitVec 16)) {r : ResendScheduler},
    Resendable sent i r → Resendable sent i (ids.foldl ResendScheduler.acknowledgePacket r)
  | [], _, h => h
  | _ :: ids, _, h => Resendable.foldl_acknowledgePacket ids (h.filter _)

theorem ResendsSent.acknowledgePacket (h : ResendsSent sent c)
    (hs : NexGo.acknowledgePacket keystream c p = some (c', outs)) : ResendsSent (sent ++ sentPackets outs) c' := by
  rw [acknowledgePacket_eq] at hs
  obtain ⟨rfl, rfl⟩ := Prod.mk.inj (Option.some.inj hs)
  exact h.mono (List.subset_append_left _ _)

theorem ResendsSent.handleAcknowledgment (h : ResendsSent sent c) (hs : NexGo.handleAcknowledgment c p = some c') :
    ResendsSent sent c' := by
  unfold NexGo.handleAcknowledgment handleMultiAcknowledgment at hs
  split_ifs at hs <;>
    simp only [Option.bind_eq_bind, Option.bind_eq_some, Option.pure_def, Option.some.injEq] at hs
  · obtain ⟨_, -, sub, hsub, rfl⟩ := hs
    exact h.set ((h.get hsub).foldl_acknowledgePacket _)
  · obtain ⟨sub, hsub, rfl⟩ := hs
    exact h.set ((h.get hsub).filter _)

/-- The acknowledgment a handler sends first, when the packet asks for one. -/
theorem ResendsSent.acknowledgeIfNeeded (h : ResendsSent sent c)
    (hs : (if p.hasFlag .needsAck then NexGo.acknowledgePacket keystream c p else pure (c, [])) = some (c', outs)) :
    ResendsSent (sent ++ sentPackets outs) c' := by
  split_ifs at hs
  · exact h.acknowledgePacket keystream hs
  · obtain ⟨rfl, rfl⟩ := Prod.mk.inj (Option.some.inj hs)
    simpa [sentPackets] using h

theorem ResendsSent.handleReliable (h : ResendsSent sent c)
    (hs : NexGo.handleReliable keystream c p = some (c', outs)) : ResendsSent (sent ++ sentPackets outs) c' := by
  rw [handleReliable_eq_bind] at hs
  obtain ⟨⟨c₁, acks⟩, hacks, hs⟩ := Option.bind_eq_some.1 hs
  obtain ⟨sub, hsub, hc⟩ := Option.bind_eq_some.1 hs
  obtain ⟨rfl, rfl⟩ := Prod.mk.inj (Option.some.inj hc)
  obtain ⟨_, _, _, _, hsub'⟩ := receiveReliable_frame keystream sub p
  refine ((h.acknowledgeIfNeeded keystream hacks).of_schedulers
    (schedulers_setReliableSubstream hsub (by rw [hsub']))).mono ?_
  simp [sentPackets]

theorem schedulers_setSessionKey (c : PRUDPClient) (key : List (BitVec 8)) :
    (c.setSessionKey key).schedulers = c.schedulers := by
  simp [PRUDPClient.schedulers, PRUDPClient.setSessionKey, Function.comp_def]

theorem schedulers_createReliableSubstreams (c : PRUDPClient) (m : BitVec 8) :
    ∀ r ∈ (c.createReliableSubstreams m).schedulers, r.packets = [] := by
  simp [PRUDPClient.schedulers, PRUDPClient.createReliableSubstreams, newReliableSubstream]

theorem schedulers_handleConnect (c : PRUDPClient) (p : Packet) :
    ∀ r ∈ (handleConnect prims now server c p).1.schedulers, r.packets = [] := by
  unfold handleConnect
  dsimp only
  split_ifs <;> simp [PRUDPClient.schedulers, PRUDPClient.setSessionKey, PRUDPClient.createReliableSubstreams,
    newReliableSubstream]

theorem ResendsSent.processPacket (h : ResendsSent sent c)
    (hs : NexGo.processPacket keystream prims now server c p = some (c', outs)) :
    ResendsSent (sent ++ sentPackets outs) c' := by
  unfold NexGo.processPacket at hs
  split_ifs at hs
  · obtain ⟨c₁, h₁, hc⟩ := Option.map_eq_some'.1 hs
    obtain ⟨rfl, rfl⟩ := Prod.mk.inj hc
    simpa [sentPackets] using h.handleAcknowledgment h₁
  · split at hs
    · obtain ⟨rfl, rfl⟩ := Prod.mk.inj (Option.some.inj hs)
      exact ResendsSent.of_empty (by simp [handleSyn, PRUDPClient.reset, PRUDPClient.schedulers])
    · obtain ⟨rfl, rfl⟩ := Prod.mk.inj (Option.some.inj hs)
      exact ResendsSent.of_empty (schedulers_handleConnect prims now server _ _)
    · unfold handleData at hs
      split_ifs at hs
      · exact h.handleReliable keystream hs
      · obtain ⟨rfl, rfl⟩ := Prod.mk.inj (Option.some.inj hs)
        simpa [sentPackets] using h
    · rw [handleDisconnect_client keystream hs]
      exact ResendsSent.of_empty (by simp [PRUDPClient.cleanup, PRUDPClient.schedulers])
    · unfold handlePing at hs
      split_ifs at hs
      · exact h.acknowledgePacket keystream hs
      · obtain ⟨rfl, rfl⟩ := Prod.mk.inj (Option.some.inj hs)
        simpa [sentPackets] using h

end ReceivePath

/-! ## Over runs -/

section Runs

variable (keystream : List (BitVec 8) → Nat → BitVec 8) (prims : ConnectPrimitives) (server : PRUDPServer)
  {sent : List Packet} {c c' : PRUDPClient} {outs : List Output}

theorem ResendsSent.peerStep (h : ResendsSent sent c) {e : PeerEvent}
    (hs : NexGo.peerStep keystream prims server c e = some (c', outs)) : ResendsSent (sent ++ sentPackets outs) c' := by
  cases e with
  | receive now packet => exact h.processPacket keystream prims now server hs
  | send packet => exact h.send keystream hs
  | ping => exact h.sendPing keystream hs

theorem ResendsSent.peerRun {events : List PeerEvent} (h : ResendsSent sent c)
    (hr : NexGo.peerRun keystream prims server c events = some (c', outs)) :
    ResendsSent (sent ++ sentPackets outs) c' :=
  peerRun_rel keystream prims server
    (R := fun c o c' => ∀ sent, ResendsSent sent c → ResendsSent (sent ++ sentPackets o) c') (P := fun _ => True)
    (fun _ sent h => by simpa [sentPackets] using h)
    (fun h₁ h₂ sent h => by simpa [sentPackets] using h₂ _ (h₁ sent h))
    (fun _ hs sent h => h.peerStep keystream prims server hs) (fun _ _ => trivial) hr sent h

/-- From a new peer, over any run of arrivals, sends and heartbeats, every resend scheduler holds
only packets the server sent in that run, as it sent them: reliable, needing an acknowledgment, of
that scheduler's substream, and one under each sequence id. The peer's events do not overlap:
`peerRun` handles each to its end before the next starts, as Go does only when nothing else runs on
the peer meanwhile. -/
theorem resendSchedulers_hold_sent (address : String) {events : List PeerEvent} {client : PRUDPClient}
    (h : NexGo.peerRun keystream prims server (newPRUDPClient address) events = some (client, outs)) :
    ResendsSent (sentPackets outs) client := by
  have h₀ : ResendsSent [] (newPRUDPClient address) :=
    .of_empty (by simp [PRUDPClient.schedulers, newPRUDPClient])
  simpa using h₀.peerRun keystream prims server h

end Runs

/-- A handshake, then a reliable DATA packet that needs an acknowledgment. -/
theorem resendSchedulers_hold_sent_handshake :
    ∃ client outs, peerRun (fun _ _ => 0) plainPrimitives newPRUDPServer (newPRUDPClient "10.0.0.1:3000")
        [.receive 0 { newPRUDPPacketV1 with packetType := .syn },
         .receive 0 { newPRUDPPacketV1 with packetType := .connect },
         .send { newPRUDPPacketV1 with packetType := .data, flags := [.reliable, .needsAck], payload := [1, 2, 3] }] =
        some (client, outs) ∧ ResendsSent (sentPackets outs) client := by
  obtain ⟨client, outs, h⟩ : ∃ client outs, peerRun (fun _ _ => 0) plainPrimitives newPRUDPServer
      (newPRUDPClient "10.0.0.1:3000")
        [.receive 0 { newPRUDPPacketV1 with packetType := .syn },
         .receive 0 { newPRUDPPacketV1 with packetType := .connect },
         .send { newPRUDPPacketV1 with packetType := .data, flags := [.reliable, .needsAck], payload := [1, 2, 3] }] =
        some (client, outs) := ⟨_, _, rfl⟩
  exact ⟨client, outs, h, resendSchedulers_hold_sent _ _ _ _ h⟩

/-! ## Acknowledged packets are not resent -/

section Acknowledged

variable (keystream : List (BitVec 8) → Nat → BitVec 8) (prims : ConnectPrimitives) (server : PRUDPServer)

/-- Everything the peer's schedulers hold. -/
def PRUDPClient.scheduled (c : PRUDPClient) : List Packet := c.schedulers.flatMap (·.packets)

/-- What the schedulers hold can stand for what was sent. -/
theorem ResendsSent.scheduled {sent : List Packet} {c : PRUDPClient} (h : ResendsSent sent c) :
    ResendsSent c.scheduled c := fun i r hr =>
  ⟨fun p hp => let ⟨h1, h2, h3, _⟩ := (h i r hr).mem p hp
    ⟨h1, h2, h3, List.mem_flatMap.2 ⟨r, List.getElem?_mem hr, hp⟩⟩, (h i r hr).nodup⟩

/-- A single ACK leaves nothing under its id in its substream's scheduler. -/
theorem scheduler_handleAcknowledgment {c c' : PRUDPClient} {ack : Packet} (hmulti : ack.hasFlag .multiAck = false)
    (hs : handleAcknowledgment c ack = some c') :
    ∃ r, c'.schedulers[ack.substreamID.toNat]? = some r ∧ ∀ q ∈ r.packets, q.sequenceID ≠ ack.sequenceID := by
  unfold handleAcknowledgment at hs
  simp only [hmulti, Bool.false_eq_true, if_false, Option.bind_eq_bind, Option.bind_eq_some, Option.pure_def,
    Option.some.injEq] at hs
  obtain ⟨sub, hsub, rfl⟩ := hs
  exact ⟨_, schedulers_setReliableSubstream_self (by simp [hsub]), fun q hq => by simpa using (List.mem_filter.1 hq).2⟩

/-- A multi-ACK leaves nothing it names, nor anything numbered up to its base as a `uint16`, in the
scheduler of the substream it is for. -/
theorem scheduler_handleMultiAcknowledgment {c c' : PRUDPClient} {ack : Packet} {k : BitVec 8}
    {base : BitVec 16} {ids : List (BitVec 16)} (hread : readMultiAck ack = some (k, base, ids))
    (hs : handleMultiAcknowledgment c ack = some c') :
    ∃ r, c'.schedulers[k.toNat]? = some r ∧ ∀ q ∈ r.packets, ¬(q.sequenceID ∈ ids ∨ q.sequenceID ≤ base) := by
  obtain ⟨sub, hsub⟩ : ∃ sub, c.reliableSubstream k = some sub := by
    cases hsub : c.reliableSubstream k with
    | none => simp [handleMultiAcknowledgment, hread, hsub] at hs
    | some sub => exact ⟨sub, rfl⟩
  rw [handleMultiAcknowledgment_eq hread hsub] at hs
  obtain rfl := Option.some.inj hs
  exact ⟨_, schedulers_setReliableSubstream_self (by simp [hsub]), fun q hq => by simpa using (List.mem_filter.1 hq).2⟩

/-- An acknowledgment, single or multi, processed after any run from a new peer: `processPacket`
handed it to `handleAcknowledgment`, and the schedulers hold only what was sent. -/
theorem handleAcknowledgment_of_newPeer (address : String) {events : List PeerEvent} {now : Nat} {ack : Packet}
    {c₁ c₂ : PRUDPClient} {outs₁ outs₂ : List Output} (hack : (ack.hasFlag .ack || ack.hasFlag .multiAck) = true)
    (h₁ : NexGo.peerRun keystream prims server (newPRUDPClient address) events = some (c₁, outs₁))
    (hs : processPacket keystream prims now server c₁ ack = some (c₂, outs₂)) :
    handleAcknowledgment c₁ ack = some c₂ ∧ ResendsSent ([] ++ sentPackets outs₁) c₂ := by
  have h₀ : ResendsSent [] (newPRUDPClient address) :=
    .of_empty (by simp [PRUDPClient.schedulers, newPRUDPClient])
  simp only [processPacket, hack, if_true, Option.map_eq_some'] at hs
  obtain ⟨c', h, hc⟩ := hs
  obtain ⟨rfl, -⟩ := Prod.mk.inj hc
  exact ⟨h, (h₀.peerRun keystream prims server h₁).handleAcknowledgment h⟩

/-- Once substream `k`'s scheduler holds nothing under the ids `S`, it holds nothing under them
after any run that sends no reliable packet needing an acknowledgment under them on `k`: what was
pending before the run stayed in its own substream's scheduler, and the rest was sent in the run. -/
theorem scheduler_avoids_peerRun {sent : List Packet} {c₂ c : PRUDPClient} {events : List PeerEvent}
    {outs : List Output} (hc₂ : ResendsSent sent c₂)
    (h₂ : NexGo.peerRun keystream prims server c₂ events = some (c, outs)) {k : BitVec 8} {S : BitVec 16 → Prop}
    (hk : ∀ r, c₂.schedulers[k.toNat]? = some r → ∀ q ∈ r.packets, ¬S q.sequenceID)
    (hfresh : ∀ q ∈ sentPackets outs, q.hasFlag .reliable = true → q.hasFlag .needsAck = true →
      q.substreamID = k → ¬S q.sequenceID) :
    ∀ r, c.schedulers[k.toNat]? = some r → ∀ q ∈ r.packets, ¬S q.sequenceID := by
  intro r hr q hq
  obtain ⟨hrel, hneed, hsub, hmem⟩ := (hc₂.scheduled.peerRun keystream prims server h₂ _ r hr).mem q hq
  rcases List.mem_append.1 hmem with hmem | hmem
  · -- pending before the run: then in the scheduler of `k`
    obtain ⟨r', hr', hq'⟩ := List.mem_flatMap.1 hmem
    obtain ⟨i, hi⟩ := List.getElem?_of_mem hr'
    obtain ⟨-, -, hi', -⟩ := (hc₂ i r' hi).mem q hq'
    rw [← hi', hsub] at hi
    exact hk r' hi q hq'
  · exact hfresh q (mem_sentPackets.2 (by simpa using hmem)) hrel hneed (BitVec.eq_of_toNat_eq hsub)

/-- From a new peer, once a single ACK for id `s` on substream `k` has been processed, the scheduler
of `k` holds nothing under `s` after any later run that sends no reliable packet needing an
acknowledgment under `s` on `k`: an acknowledged packet is not retransmitted. The peer's events do
not overlap: `peerRun` handles each to its end before the next starts, as Go does only when nothing
else runs on the peer meanwhile. -/
theorem acknowledged_not_resent (address : String) {events₁ events₂ : List PeerEvent} {now : Nat}
    {ack : Packet} {c₁ c₂ c : PRUDPClient} {outs₁ outs₂ outs : List Output}
    (hack : ack.hasFlag .ack = true) (hmulti : ack.hasFlag .multiAck = false)
    (h₁ : NexGo.peerRun keystream prims server (newPRUDPClient address) events₁ = some (c₁, outs₁))
    (hs : processPacket keystream prims now server c₁ ack = some (c₂, outs₂))
    (h₂ : NexGo.peerRun keystream prims server c₂ events₂ = some (c, outs))
    (hfresh : ∀ q ∈ sentPackets outs, q.hasFlag .reliable = true → q.hasFlag .needsAck = true →
      q.substreamID = ack.substreamID → q.sequenceID ≠ ack.sequenceID) :
    ∀ r, c.schedulers[ack.substreamID.toNat]? = some r → ∀ q ∈ r.packets, q.sequenceID ≠ ack.sequenceID := by
  obtain ⟨hacked, hc₂⟩ := handleAcknowledgment_of_newPeer keystream prims server address (by simp [hack]) h₁ hs
  obtain ⟨r₂, hr₂, hnot⟩ := scheduler_handleAcknowledgment hmulti hacked
  exact scheduler_avoids_peerRun keystream prims server hc₂ h₂ (S := (· = ack.sequenceID))
    (fun r hr => by rw [hr₂] at hr; cases hr; exact hnot) hfresh

/-- From a new peer, once a multi-ACK for substream `k` with base id `base`, naming `ids`, has been
processed, the scheduler of `k` holds nothing named in `ids` nor numbered `≤ base` as a `uint16`
after any later run that sends no reliable packet needing an acknowledgment under such an id on `k`:
what a multi-ACK acknowledges is not retransmitted. The peer's events do not overlap: `peerRun`
handles each to its end before the next starts, as Go does only when nothing else runs on the peer
meanwhile. -/
theorem multiAcknowledged_not_resent (address : String) {events₁ events₂ : List PeerEvent} {now : Nat}
    {ack : Packet} {k : BitVec 8} {base : BitVec 16} {ids : List (BitVec 16)} {c₁ c₂ c : PRUDPClient}
    {outs₁ outs₂ outs : List Output} (hmulti : ack.hasFlag .multiAck = true)
    (hread : readMultiAck ack = some (k, base, ids))
    (h₁ : NexGo.peerRun keystream prims server (newPRUDPClient address) events₁ = some (c₁, outs₁))
    (hs : processPacket keystream prims now server c₁ ack = some (c₂, outs₂))
    (h₂ : NexGo.peerRun keystream prims server c₂ events₂ = some (c, outs))
    (hfresh : ∀ q ∈ sentPackets outs, q.hasFlag .reliable = true → q.hasFlag .needsAck = true →
      q.substreamID = k → q.sequenceID ∉ ids ∧ ¬q.sequenceID ≤ base) :
    ∀ r, c.schedulers[k.toNat]? = some r → ∀ q ∈ r.packets, q.sequenceID ∉ ids ∧ ¬q.sequenceID ≤ base := by
  obtain ⟨hacked, hc₂⟩ := handleAcknowledgment_of_newPeer keystream prims server address (by simp [hmulti]) h₁ hs
  simp only [handleAcknowledgment, hmulti, if_true] at hacked
  obtain ⟨r₂, hr₂, hnot⟩ := scheduler_handleMultiAcknowledgment hread hacked
  intro r hr q hq
  exact not_or.1 (scheduler_avoids_peerRun keystream prims server hc₂ h₂ (S := fun id => id ∈ ids ∨ id ≤ base)
    (fun r hr => by rw [hr₂] at hr; cases hr; exact hnot) (fun q hq h₁ h₂ h₃ => not_or.2 (hfresh q hq h₁ h₂ h₃))
    r hr q hq)

end Acknowledged

/-- A reliable DATA packet sent and acknowledged, then a heartbeat and a second one. -/
theorem acknowledged_not_resent_second_send :
    ∃ c₁ outs₁ c₂ outs₂ c outs,
      peerRun (fun _ _ => 0) plainPrimitives newPRUDPServer (newPRUDPClient "10.0.0.1:3000")
          [.receive 0 { newPRUDPPacketV1 with packetType := .syn },
           .receive 0 { newPRUDPPacketV1 with packetType := .connect },
           .send { newPRUDPPacketV1 with packetType := .data, flags := [.reliable, .needsAck], payload := [1] }] =
        some (c₁, outs₁) ∧
      processPacket (fun _ _ => 0) plainPrimitives 0 newPRUDPServer c₁
          { newPRUDPPacketV1 with packetType := .data, flags := [.ack], sequenceID := 1 } = some (c₂, outs₂) ∧
      peerRun (fun _ _ => 0) plainPrimitives newPRUDPServer c₂
          [.ping, .send { newPRUDPPacketV1 with packetType := .data, flags := [.reliable, .needsAck], payload := [2] }] =
        some (c, outs) ∧
      (∀ q ∈ sentPackets outs, q.hasFlag .reliable = true → q.hasFlag .needsAck = true →
        q.substreamID = 0 → q.sequenceID ≠ 1) ∧
      ∀ r, c.schedulers[(0 : BitVec 8).toNat]? = some r → ∀ q ∈ r.packets, q.sequenceID ≠ 1 := by
  refine ⟨_, _, _, _, _, _, rfl, rfl, rfl, ?hfresh, acknowledged_not_resent _ _ _ "10.0.0.1:3000"
    (by decide) (by decide)
    (show peerRun (fun _ _ => 0) plainPrimitives newPRUDPServer (newPRUDPClient "10.0.0.1:3000")
      [.receive 0 { newPRUDPPacketV1 with packetType := .syn },
       .receive 0 { newPRUDPPacketV1 with packetType := .connect },
       .send { newPRUDPPacketV1 with packetType := .data, flags := [.reliable, .needsAck], payload := [1] }] =
      some _ from rfl)
    (show processPacket (fun _ _ => 0) plainPrimitives 0 newPRUDPServer _
      { newPRUDPPacketV1 with packetType := .data, flags := [.ack], sequenceID := 1 } = some _ from rfl)
    (show peerRun (fun _ _ => 0) plainPrimitives newPRUDPServer _
      [.ping, .send { newPRUDPPacketV1 with packetType := .data, flags := [.reliable, .needsAck], payload := [2] }] =
      some _ from rfl) ?hfresh⟩
  decide

/-- Two reliable DATA packets sent, a multi-ACK in the old format up to id `2`, then a heartbeat
and a third packet. -/
theorem multiAcknowledged_not_resent_third_send :
    ∃ c₁ outs₁ c₂ outs₂ c outs,
      peerRun (fun _ _ => 0) plainPrimitives newPRUDPServer (newPRUDPClient "10.0.0.1:3000")
          [.receive 0 { newPRUDPPacketV1 with packetType := .syn },
           .receive 0 { newPRUDPPacketV1 with packetType := .connect },
           .send { newPRUDPPacketV1 with packetType := .data, flags := [.reliable, .needsAck], payload := [1] },
           .send { newPRUDPPacketV1 with packetType := .data, flags := [.reliable, .needsAck], payload := [2] }] =
        some (c₁, outs₁) ∧
      processPacket (fun _ _ => 0) plainPrimitives 0 newPRUDPServer c₁
          { newPRUDPPacketV1 with flags := [.multiAck], sequenceID := 2 } = some (c₂, outs₂) ∧
      peerRun (fun _ _ => 0) plainPrimitives newPRUDPServer c₂
          [.ping, .send { newPRUDPPacketV1 with packetType := .data, flags := [.reliable, .needsAck], payload := [3] }] =
        some (c, outs) ∧
      readMultiAck { newPRUDPPacketV1 with flags := [.multiAck], sequenceID := 2 } = some (0, 2, []) ∧
      (∀ q ∈ sentPackets outs, q.hasFlag .reliable = true → q.hasFlag .needsAck = true →
        q.substreamID = 0 → q.sequenceID ∉ ([] : List (BitVec 16)) ∧ ¬q.sequenceID ≤ 2) ∧
      ∀ r, c.schedulers[(0 : BitVec 8).toNat]? = some r → ∀ q ∈ r.packets,
        q.sequenceID ∉ ([] : List (BitVec 16)) ∧ ¬q.sequenceID ≤ 2 := by
  refine ⟨_, _, _, _, _, _, rfl, rfl, rfl, rfl, ?hfresh, multiAcknowledged_not_resent _ _ _ "10.0.0.1:3000"
    (by decide) (by exact rfl)
    (show peerRun (fun _ _ => 0) plainPrimitives newPRUDPServer (newPRUDPClient "10.0.0.1:3000")
      [.receive 0 { newPRUDPPacketV1 with packetType := .syn },
       .receive 0 { newPRUDPPacketV1 with packetType := .connect },
       .send { newPRUDPPacketV1 with packetType := .data, flags := [.reliable, .needsAck], payload := [1] },
       .send { newPRUDPPacketV1 with packetType := .data, flags := [.reliable, .needsAck], payload := [2] }] =
      some _ from rfl)
    (show processPacket (fun _ _ => 0) plainPrimitives 0 newPRUDPServer _
      { newPRUDPPacketV1 with flags := [.multiAck], sequenceID := 2 } = some _ from rfl)
    (show peerRun (fun _ _ => 0) plainPrimitives newPRUDPServer _
      [.ping, .send { newPRUDPPacketV1 with packetType := .data, flags := [.reliable, .needsAck], payload := [3] }] =
      some _ from rfl) ?hfresh⟩
  decide

/-! ## Nothing pending is dropped before it is acknowledged -/

/-- The packets of `outs` that `sendPacket` put into substream `i`'s resend scheduler: the reliable
ones that need an acknowledgment, on `i`, in the order they went out. -/
def scheduledOn (i : BitVec 8) (outs : List Output) : List Packet :=
  (sentPackets outs).filter fun q => q.hasFlag .reliable && q.hasFlag .needsAck && q.substreamID == i

/-- Substream `i`'s resend scheduler; `none` for a substream the peer does not have. -/
def PRUDPClient.schedulerOn (c : PRUDPClient) (i : BitVec 8) : Option ResendScheduler :=
  (c.reliableSubstream i).map (·.resendScheduler)

/-- Whether the event is the arrival of an ACK or a MULTI_ACK. -/
def PeerEvent.acknowledges : PeerEvent → Bool
  | .receive _ p => p.hasFlag .ack || p.hasFlag .multiAck
  | _ => false

/-- Substream `i`'s scheduler went from what it was in `c` to that with the packets `outs`
scheduled on `i` added in turn. -/
def SchedulesOut (i : BitVec 8) (c : PRUDPClient) (outs : List Output) (c' : PRUDPClient) : Prop :=
  c'.schedulerOn i = (c.schedulerOn i).map fun r => (scheduledOn i outs).foldl ResendScheduler.addPacket r

section Scheduling

variable {i : BitVec 8} {c c₁ c₂ c' : PRUDPClient} {outs outs' : List Output}

@[simp] theorem scheduledOn_append : scheduledOn i (outs ++ outs') = scheduledOn i outs ++ scheduledOn i outs' := by
  simp [scheduledOn, sentPackets, List.filterMap_append]

theorem SchedulesOut.refl (c : PRUDPClient) : SchedulesOut i c [] c := by
  simp [SchedulesOut, scheduledOn, sentPackets]

theorem SchedulesOut.trans (h₁ : SchedulesOut i c outs c₁) (h₂ : SchedulesOut i c₁ outs' c₂) :
    SchedulesOut i c (outs ++ outs') c₂ := by
  rw [SchedulesOut, h₂, h₁, Option.map_map]
  simp [Function.comp_def, List.foldl_append]

/-- A step that schedules nothing on `i` and leaves its scheduler as it was. -/
theorem SchedulesOut.of_frame (he : c'.schedulerOn i = c.schedulerOn i) (hd : scheduledOn i outs = []) :
    SchedulesOut i c outs c' := by
  simp [SchedulesOut, he, hd]

theorem schedulerOn_of_schedulers (h : c'.schedulers = c.schedulers) : c'.schedulerOn i = c.schedulerOn i :=
  map_reliableSubstream (·.resendScheduler) h i

/-- Adding packets with ids of their own in turn: the old entries under those ids go, and the
packets follow in order. -/
theorem foldl_addPacket : ∀ (l : List Packet) (r : ResendScheduler), (l.map (·.sequenceID)).Nodup →
    l.foldl ResendScheduler.addPacket r = ⟨r.packets.filter (fun q => q.sequenceID ∉ l.map (·.sequenceID)) ++ l⟩
  | [], r, _ => by simp
  | p :: l, r, hnd => by
    have hp : ∀ q ∈ l, q.sequenceID ≠ p.sequenceID := fun q hq h =>
      (List.nodup_cons.1 hnd).1 (List.mem_map.2 ⟨q, hq, h⟩)
    rw [List.foldl_cons, foldl_addPacket l _ (List.nodup_cons.1 hnd).2]
    simp only [ResendScheduler.addPacket, List.filter_append, List.filter_filter, List.map_cons, List.mem_cons,
      not_or, ResendScheduler.mk.injEq]
    simp [Bool.and_comm, List.filter_cons, if_pos hp]

end Scheduling

section SchedulingSteps

variable (keystream : List (BitVec 8) → Nat → BitVec 8) (prims : ConnectPrimitives) (server : PRUDPServer)
  {i : BitVec 8} {c c' : PRUDPClient} {p p' : Packet} {outs : List Output}

/-- `sendPacket` adds the packet it sends to its substream's scheduler if the packet is reliable and
needs an acknowledgment, and changes no scheduler otherwise. -/
theorem SchedulesOut.sendPacket (h : NexGo.sendPacket keystream c p = some (c', p')) :
    SchedulesOut i c [.sent p'] c' := by
  simp only [NexGo.sendPacket, Option.bind_eq_bind, Option.bind_eq_some, Option.pure_def, Option.some.injEq] at h
  obtain ⟨⟨c₁, p₁⟩, h₁, ⟨c₂, p₂⟩, h₂, c₃, h₃, hc⟩ := h
  obtain ⟨rfl, rfl⟩ := Prod.mk.inj hc
  have h₂' : c₂.schedulerOn i = c.schedulerOn i :=
    (schedulerOn_of_schedulers (schedulers_encryptPayload keystream h₂)).trans
      (schedulerOn_of_schedulers (schedulers_assignSequenceID h₁))
  unfold scheduleResend at h₃
  split_ifs at h₃ with hs
  · simp only [Option.bind_eq_bind, Option.bind_eq_some, Option.pure_def, Option.some.injEq] at h₃
    obtain ⟨sub, hsub, rfl⟩ := h₃
    by_cases hi : p₂.substreamID = i
    · -- the packet goes into `i`'s scheduler
      subst hi
      have hone : scheduledOn p₂.substreamID [.sent p₂] = [p₂] := by
        simp [scheduledOn, sentPackets, hs]
      rw [SchedulesOut, hone, ← h₂', PRUDPClient.schedulerOn, PRUDPClient.schedulerOn,
        PRUDPClient.reliableSubstream_setReliableSubstream _ _ _ (by simp [hsub]), hsub]
      rfl
    · exact .of_frame (by rw [PRUDPClient.schedulerOn, PRUDPClient.reliableSubstream_setReliableSubstream_of_ne _ _ hi]; exact h₂')
        (by simp [scheduledOn, sentPackets, hi])
  · obtain rfl := Option.some.inj h₃
    exact .of_frame h₂' (by simp_all [scheduledOn, sentPackets])

theorem SchedulesOut.sendFragments : ∀ (frags : List (List (BitVec 8) × BitVec 8)) {c c' : PRUDPClient}
    {packet : Packet} {outs : List Output}, NexGo.sendFragments keystream c packet frags = some (c', outs) →
      SchedulesOut i c outs c'
  | [], _, _, _, _, hs => by
    obtain ⟨rfl, rfl⟩ := Prod.mk.inj (Option.some.inj hs)
    exact .refl _
  | (payload, fragmentID) :: rest, _, _, _, _, hs => by
    simp only [NexGo.sendFragments, Option.bind_eq_bind, Option.bind_eq_some, Option.pure_def,
      Option.some.injEq] at hs
    obtain ⟨⟨c₁, p₁⟩, h₁, ⟨c₂, outs₂⟩, h₂, hc⟩ := hs
    obtain ⟨rfl, rfl⟩ := Prod.mk.inj hc
    exact (SchedulesOut.sendPacket keystream h₁).trans (SchedulesOut.sendFragments rest h₂)

/-- A packet that keeps the substream table and is no acknowledgment leaves every scheduler as it
was, and what the handler sends is not reliable. -/
theorem SchedulesOut.processPacket {now : Nat} (h : NexGo.processPacket keystream prims now server c p = some (c', outs))
    (hk : (Counter.reliable i).survives (.receive now p) = true) (hack : (PeerEvent.receive now p).acknowledges = false) :
    SchedulesOut i c outs c' := by
  refine .of_frame ?_ (List.filter_eq_nil_iff.2 fun q hq => by
    simp [(flags_of_sent_processPacket keystream prims now server h (mem_sentPackets.1 hq)).2])
  rcases processPacket_cases keystream prims now server h with
    ⟨hack', -⟩ | ⟨-, -, -, sub, -, hsub, -, rfl, -⟩ | ⟨hrep, -⟩ | ⟨-, rfl, -⟩
  · simp [PeerEvent.acknowledges, hack'] at hack
  · obtain ⟨_, _, _, _, hsub'⟩ := receiveReliable_frame keystream sub p
    exact schedulerOn_of_schedulers (schedulers_setReliableSubstream hsub (by rw [hsub']))
  · simp [Counter.survives, hrep] at hk
  · rfl

theorem SchedulesOut.peerStep {e : PeerEvent} (hk : (Counter.reliable i).survives e = true) (hack : e.acknowledges = false)
    (hs : NexGo.peerStep keystream prims server c e = some (c', outs)) : SchedulesOut i c outs c' := by
  cases e with
  | receive now packet => exact .processPacket keystream prims server hs hk hack
  | send packet =>
    unfold NexGo.peerStep NexGo.send at hs
    split_ifs at hs
    exact .sendFragments keystream _ hs
  | ping =>
    simp only [NexGo.peerStep, sendPing, Option.bind_eq_bind, Option.bind_eq_some, Option.pure_def,
      Option.some.injEq] at hs
    obtain ⟨⟨c₁, p₁⟩, h₁, hc⟩ := hs
    obtain ⟨rfl, rfl⟩ := Prod.mk.inj hc
    exact .sendPacket keystream h₁

theorem SchedulesOut.peerRun {events : List PeerEvent} (hk : ∀ e ∈ events, (Counter.reliable i).survives e = true)
    (hack : ∀ e ∈ events, e.acknowledges = false) (h : NexGo.peerRun keystream prims server c events = some (c', outs)) :
    SchedulesOut i c outs c' :=
  peerRun_rel keystream prims server (R := SchedulesOut i)
    (P := fun e => (Counter.reliable i).survives e = true ∧ e.acknowledges = false)
    (fun c => .refl c) (fun h₁ h₂ => h₁.trans h₂) (fun he hs => .peerStep keystream prims server he.1 he.2 hs)
    (fun e he => ⟨hk e he, hack e he⟩) h

/-- Nothing is dropped from a resend scheduler before it is acknowledged. Over any run that keeps
the substream table and in which no ACK or MULTI_ACK arrives, substream `i`'s scheduler ends with
what it held, less the entries under ids the run gave again, followed by every reliable packet
needing an acknowledgment that the run sent on `i`, in the order sent, when the run gives each of
these an id of its own. The peer's events do not overlap: `peerRun` handles each to its end before
the next starts, as Go does only when nothing else runs on the peer meanwhile. -/
theorem resendScheduler_keeps_unacknowledged {events : List PeerEvent}
    (hrun : peerRun keystream prims server c events = some (c', outs))
    (hk : ∀ e ∈ events, (Counter.reliable i).survives e = true) (hack : ∀ e ∈ events, e.acknowledges = false)
    (hnodup : ((scheduledOn i outs).map (·.sequenceID)).Nodup) {r : ResendScheduler} (hr : c.schedulerOn i = some r) :
    c'.schedulerOn i =
      some ⟨r.packets.filter (fun q => q.sequenceID ∉ (scheduledOn i outs).map (·.sequenceID)) ++ scheduledOn i outs⟩ := by
  rw [SchedulesOut.peerRun keystream prims server hk hack hrun, hr, Option.map_some', foldl_addPacket _ _ hnodup]

end SchedulingSteps

/-- Two reliable sends on substream `0`, with a PING from the peer and a heartbeat between them and
no acknowledgment. -/
theorem resendScheduler_keeps_unacknowledged_two_sends :
    ∃ c' outs, peerRun (fun _ _ => 0) plainPrimitives newPRUDPServer
        { newPRUDPClient "10.0.0.1:3000" with reliableSubstreams := [newReliableSubstream []] }
        [.send { newPRUDPPacketV1 with packetType := .data, flags := [.reliable, .needsAck], payload := [1] },
         .receive 0 { newPRUDPPacketV1 with packetType := .ping, flags := [.needsAck] },
         .ping,
         .send { newPRUDPPacketV1 with packetType := .data, flags := [.reliable, .needsAck], payload := [2, 3] }] =
        some (c', outs) ∧
      (∀ e ∈ [PeerEvent.send { newPRUDPPacketV1 with packetType := .data, flags := [.reliable, .needsAck], payload := [1] },
          .receive 0 { newPRUDPPacketV1 with packetType := .ping, flags := [.needsAck] },
          .ping,
          .send { newPRUDPPacketV1 with packetType := .data, flags := [.reliable, .needsAck], payload := [2, 3] }],
        (Counter.reliable 0).survives e = true ∧ e.acknowledges = false) ∧
      ((scheduledOn 0 outs).map (·.sequenceID)).Nodup ∧
      ({ newPRUDPClient "10.0.0.1:3000" with reliableSubstreams := [newReliableSubstream []] } : PRUDPClient).schedulerOn 0 =
        some ⟨[]⟩ ∧
      c'.schedulerOn 0 =
        some ⟨([] : List Packet).filter (fun q => q.sequenceID ∉ (scheduledOn 0 outs).map (·.sequenceID)) ++
          scheduledOn 0 outs⟩ :=
  ⟨_, _, rfl, by decide, by decide, rfl,
    resendScheduler_keeps_unacknowledged (fun _ _ => 0) plainPrimitives newPRUDPServer
      (show peerRun (fun _ _ => 0) plainPrimitives newPRUDPServer
        { newPRUDPClient "10.0.0.1:3000" with reliableSubstreams := [newReliableSubstream []] }
        [.send { newPRUDPPacketV1 with packetType := .data, flags := [.reliable, .needsAck], payload := [1] },
         .receive 0 { newPRUDPPacketV1 with packetType := .ping, flags := [.needsAck] },
         .ping,
         .send { newPRUDPPacketV1 with packetType := .data, flags := [.reliable, .needsAck], payload := [2, 3] }] =
        some _ from rfl) (by decide) (by decide) (by decide) rfl⟩

end NexGo

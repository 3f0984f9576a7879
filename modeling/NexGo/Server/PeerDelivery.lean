import NexGo.Server.SessionDelivery
import NexGo.Server.Progress

/-!
# Delivery between two peers, whatever each does meanwhile (`prudp_server.go`)

In `session_delivered_in_order` the receiving substream takes the sender's packets through
`handleReliable` alone. A receiving peer does more: `processPacket` takes every packet that
arrives, acknowledgments and PINGs and packets of other substreams among them, the application
sends through it, its heartbeat fires. The receiving side of delivery, `ReceivingInOrder`, looks
only at a substream's incoming side: the expected id, the buffer, the incoming RC4 and the fragment
accumulator. A reliable DATA packet on substream `i` that arrives in order goes to `handleReliable`
on `i` and moves it as `ReceivingInOrder.receive` says; nothing else a peer does touches the
incoming side of `i` or emits a `reliable-data` event on `i` (`ReceivingInOrder.peerStep`). So over
any run of the receiving peer that keeps its substream table, in which the reliable DATA packets
arriving on `i` are the sender's, in order, the handlers of the events it emits on `i` read the
messages the reassembly rule makes of the fragments sent on `i` as far as the sender's packets from
the first have arrived (`peers_delivered_in_order`).

That theorem takes the receiving peer's run as given. A peer that only receives the sender's
packets needs no such premise: each of them looks up substream `i` alone and keeps the table as
long (`peerRun_of_arrivals`, from the progress lemmas), so its run returns, whatever the order and
repetition of the arrivals, and delivers when they come in order
(`peers_delivered_in_order_of_arrivals`).

The frame that `ReceivingInOrder.peerStep` rests on, that an event with no reliable DATA packet
arriving on `i` leaves `i`'s incoming side alone (`incoming_peerStep`), gives with `EncryptsOut`
that the two directions of a substream progress separately (`substream_directions_separate`).
-/

namespace NexGo
set_option autoImplicit false

/-- The reliable DATA packet that arrives on substream `i` in the event, if one does: what
`processPacket` hands to `handleReliable` on `i`. -/
def PeerEvent.arrivalOn (i : BitVec 8) : PeerEvent → List Packet
  | .receive _ p => if p.packetType = .data ∧ p.drawsOn (.reliable i) = true then [p] else []
  | _ => []

/-- The RMC messages of the `reliable-data` events on substream `i` among `outs`, in order. -/
def rmcMessagesOn (i : BitVec 8) (outs : List Output) : List (List (BitVec 8)) :=
  ((reliableData outs).filter (·.substreamID = i)).filterMap (·.rmcMessage)

/-- A substream's incoming side, all that `Receiving` looks at. -/
def ReliableSubstream.incoming (sub : ReliableSubstream) : BitVec 16 × List Packet × Cipher × List (BitVec 8) :=
  (sub.incomingSequenceID, sub.buffered, sub.cipherIn, sub.fragmentedPayload)

/-! ## Messages on one substream -/

section Messages

variable {i : BitVec 8} {outs outs' : List Output}

theorem mem_reliableData {e : Packet} : e ∈ reliableData outs ↔ Output.emitted "reliable-data" e ∈ outs := by
  simp only [reliableData, List.mem_filterMap]
  constructor
  · rintro ⟨o, ho, h⟩
    split at h <;> simp_all
  · exact fun h => ⟨_, h, rfl⟩

@[simp] theorem rmcMessagesOn_nil : rmcMessagesOn i [] = [] := rfl

@[simp] theorem rmcMessagesOn_append : rmcMessagesOn i (outs ++ outs') = rmcMessagesOn i outs ++ rmcMessagesOn i outs' := by
  simp [rmcMessagesOn, List.filter_append, List.filterMap_append]

theorem rmcMessagesOn_of_reliableData (h : reliableData outs = []) : rmcMessagesOn i outs = [] := by
  simp [rmcMessagesOn, h]

/-- Events all on substream `i`: their messages are the messages on `i`. -/
theorem rmcMessagesOn_of_substream (h : ∀ e ∈ reliableData outs, e.substreamID = i) :
    rmcMessagesOn i outs = rmcMessages outs := by
  rw [rmcMessagesOn, rmcMessages, List.filter_eq_self.2 fun e he => by simp [h e he]]

theorem rmcMessagesOn_of_ne (h : ∀ e ∈ reliableData outs, e.substreamID ≠ i) : rmcMessagesOn i outs = [] := by
  rw [rmcMessagesOn, List.filter_eq_nil_iff.2 fun e he => by simp [h e he]]
  rfl

/-- `handleReliable` emits on the packet's substream. -/
theorem substreamID_of_emitReliableData (p : Packet) (messages : List (List (BitVec 8))) :
    ∀ e ∈ reliableData (emitReliableData p messages), e.substreamID = p.substreamID := by
  intro e he
  obtain ⟨m, rfl⟩ := emitReliableData_emits (mem_reliableData.1 he)
  rfl

end Messages

/-! ## The incoming side in the peer -/

section Frames

variable {c c' : PRUDPClient} {i : BitVec 8} {sub : ReliableSubstream}

/-- Substream `i` after an entry of the table is replaced by one with the same incoming side. -/
theorem incoming_setReliableSubstream {j : BitVec 8} {s t : ReliableSubstream} (hsub : c.reliableSubstream i = some sub)
    (hj : c.reliableSubstream j = some s) (he : t.incoming = s.incoming) :
    ∃ sub', (c.setReliableSubstream j t).reliableSubstream i = some sub' ∧ sub'.incoming = sub.incoming := by
  by_cases hji : j = i
  · subst hji
    obtain rfl := Option.some.inj (hj.symm.trans hsub)
    exact ⟨t, PRUDPClient.reliableSubstream_setReliableSubstream c j t (by simp [hj]), he⟩
  · exact ⟨sub, by rw [PRUDPClient.reliableSubstream_setReliableSubstream_of_ne c t hji, hsub], rfl⟩

/-- Tables that agree on the incoming sides agree on substream `i`'s. -/
theorem incoming_of_map (h : c'.reliableSubstreams.map (·.incoming) = c.reliableSubstreams.map (·.incoming))
    (hsub : c.reliableSubstream i = some sub) :
    ∃ sub', c'.reliableSubstream i = some sub' ∧ sub'.incoming = sub.incoming := by
  have hi := map_reliableSubstream (·.incoming) h i
  rw [hsub, Option.map_some'] at hi
  exact Option.map_eq_some'.1 hi

end Frames

/-! ## The receiving peer -/

section Receiver

variable (keystream : List (BitVec 8) → Nat → BitVec 8) (prims : ConnectPrimitives) (server : PRUDPServer)
  {start : Cipher} {c₀ : BitVec 16} {sent : List Packet} {i : BitVec 8} {c c' : PRUDPClient} {outs : List Output}

/-- `Receiving` looks at the incoming side alone. -/
theorem Receiving.congr {arrived : List Packet} {sub sub' : ReliableSubstream} {surfaced : List (List (BitVec 8))}
    (h : Receiving keystream start c₀ sent arrived sub surfaced) (he : sub'.incoming = sub.incoming) :
    Receiving keystream start c₀ sent arrived sub' surfaced := by
  simp only [ReliableSubstream.incoming, Prod.mk.injEq] at he
  obtain ⟨h₁, h₂, h₃, h₄⟩ := he
  exact ⟨h₁ ▸ h.incoming, h₂ ▸ h.subset, h₂ ▸ h.nodup, h₂ ▸ h.buffered, h₃ ▸ h.cipherIn, h₄ ▸ h.bytes⟩

variable {keystream}

/-- An event in which no reliable DATA packet arrives on `i` leaves `i`'s incoming side as it was
and emits nothing on `i`: an acknowledgment replaces a resend scheduler, a reliable DATA packet on
another substream moves that substream, and the rest touches the outgoing sides alone. -/
theorem incoming_peerStep {e : PeerEvent} (hk : (Counter.reliable i).survives e = true) (hno : e.arrivalOn i = [])
    (hs : NexGo.peerStep keystream prims server c e = some (c', outs)) {sub : ReliableSubstream}
    (hsub : c.reliableSubstream i = some sub) :
    ∃ sub', c'.reliableSubstream i = some sub' ∧ sub'.incoming = sub.incoming ∧ rmcMessagesOn i outs = [] := by
  cases e with
  | receive now p =>
    rcases processPacket_cases keystream prims now server hs with
      ⟨-, rfl, j, s, r, hj, rfl⟩ | ⟨hdat, hack, hrel, s, acks, hj, hacks, rfl, rfl⟩ | ⟨hrep, -⟩ | ⟨-, rfl, hout⟩
    · -- an acknowledgment: a resend scheduler
      obtain ⟨sub', hsub', he⟩ := incoming_setReliableSubstream (t := { s with resendScheduler := r }) hsub hj rfl
      exact ⟨sub', hsub', he, rfl⟩
    · -- a reliable DATA packet, on another substream
      have hji : p.substreamID ≠ i := fun h => by
        simp [PeerEvent.arrivalOn, hdat, Packet.drawsOn, hack, hrel, h] at hno
      refine ⟨sub, by rw [PRUDPClient.reliableSubstream_setReliableSubstream_of_ne c _ hji, hsub], rfl, ?_⟩
      rw [rmcMessagesOn_append, rmcMessagesOn_of_reliableData hacks,
        rmcMessagesOn_of_ne fun e he => (substreamID_of_emitReliableData p _ e he).trans_ne hji]
      rfl
    · simp [Counter.survives, hrep] at hk
    · -- an unreliable DATA packet or a PING: nothing
      exact ⟨sub, hsub, rfl, rmcMessagesOn_of_reliableData hout⟩
  | send p =>
    unfold NexGo.peerStep NexGo.send at hs
    split_ifs at hs
    obtain ⟨sub', hsub', he⟩ :=
      incoming_of_map (map_sendFragments keystream (·.incoming) (fun _ _ => rfl) (fun _ _ => rfl) (fun _ _ => rfl) _ hs) hsub
    exact ⟨sub', hsub', he, rmcMessagesOn_of_reliableData (reliableData_sendFragments keystream _ hs)⟩
  | ping =>
    obtain ⟨ping, p', -, h₁, rfl⟩ := sendPing_sendPacket keystream hs
    obtain ⟨sub', hsub', he⟩ :=
      incoming_of_map (map_sendPacket keystream (·.incoming) (fun _ _ => rfl) (fun _ _ => rfl) (fun _ _ => rfl) h₁) hsub
    exact ⟨sub', hsub', he, rfl⟩

/-- `ReceivingInOrder` looks at the incoming side alone. -/
theorem ReceivingInOrder.congr {arrived : List Packet} {sub sub' : ReliableSubstream} {read : List (List (BitVec 8))}
    (h : ReceivingInOrder keystream start c₀ sent arrived sub read) (he : sub'.incoming = sub.incoming) :
    ReceivingInOrder keystream start c₀ sent arrived sub' read :=
  ⟨h.receiving.congr keystream he, h.closed, by
    rw [show sub'.fragmentedPayload = sub.fragmentedPayload from congrArg (·.2.2.2) he]
    exact h.reassembled⟩

/-- One event on the receiving peer keeps substream `i` in step with the sender's packets: a
reliable DATA packet on `i`, one of them arriving in order, is received and its handlers read the
message the loop made, if any; nothing else touches `i`'s incoming side or emits on `i`. -/
theorem ReceivingInOrder.peerStep (hnum : Numbered c₀ sent) (hlen : sent.length < 2 ^ 16)
    (hdata : ∀ q ∈ sent, q.packetType = .data) {e : PeerEvent} (hk : (Counter.reliable i).survives e = true)
    (harr : ∀ a ∈ e.arrivalOn i, a ∈ sent) {arrived : List Packet} (hord : InOrder sent arrived (e.arrivalOn i))
    (hs : NexGo.peerStep keystream prims server c e = some (c', outs)) {sub : ReliableSubstream}
    {read : List (List (BitVec 8))} (hsub : c.reliableSubstream i = some sub)
    (h : ReceivingInOrder keystream start c₀ sent arrived sub read) :
    ∃ sub', c'.reliableSubstream i = some sub' ∧
      ReceivingInOrder keystream start c₀ sent (arrived ++ e.arrivalOn i) sub' (read ++ rmcMessagesOn i outs) := by
  by_cases hno : e.arrivalOn i = []
  · obtain ⟨sub', hsub', he, hmsg⟩ := incoming_peerStep prims server hk hno hs hsub
    exact ⟨sub', hsub', by simpa [hno, hmsg] using h.congr he⟩
  -- a reliable DATA packet on `i`, one of the sender's: received
  obtain ⟨now, p, rfl⟩ : ∃ now p, e = .receive now p := by
    cases e with
    | receive now p => exact ⟨now, p, rfl⟩
    | _ => simp [PeerEvent.arrivalOn] at hno
  obtain ⟨hdat, hd⟩ : p.packetType = .data ∧ p.drawsOn (.reliable i) = true := by
    by_contra hc
    simp [PeerEvent.arrivalOn, hc] at hno
  have hp : (PeerEvent.receive now p).arrivalOn i = [p] := by simp [PeerEvent.arrivalOn, hdat, hd]
  simp only [Packet.drawsOn, Bool.and_eq_true, Bool.not_eq_true', beq_iff_eq] at hd
  obtain ⟨⟨hack, hrel⟩, rfl⟩ := hd
  rcases processPacket_cases keystream prims now server hs with
    ⟨hack', -⟩ | ⟨-, -, -, s, acks, hj, hacks, rfl, rfl⟩ | ⟨hrep, -⟩ | ⟨hunrel, -⟩
  · simp [hack] at hack'
  · obtain rfl := Option.some.inj (hj.symm.trans hsub)
    rw [hp] at harr hord ⊢
    obtain ⟨hone, h'⟩ := h.receive hnum hlen hdata (harr p (List.mem_singleton_self p)) hord.1
    refine ⟨_, PRUDPClient.reliableSubstream_setReliableSubstream c _ _ (by simp [hsub]), ?_⟩
    rwa [rmcMessagesOn_append, rmcMessagesOn_of_reliableData hacks,
      rmcMessagesOn_of_substream (substreamID_of_emitReliableData p _), rmcMessages_emitReliableData hone,
      List.nil_append]
  · simp [Counter.survives, hrep] at hk
  · simp [hunrel hdat] at hrel

/-- Over any run of the receiving peer that keeps its substream table, in which the reliable DATA
packets arriving on `i` are the sender's and arrive in order, substream `i` stays in step with the
sender's packets: it has received those that arrived, and its handlers on `i` have read what
`ReceivingInOrder` says. -/
theorem ReceivingInOrder.peerRun (hnum : Numbered c₀ sent) (hlen : sent.length < 2 ^ 16)
    (hdata : ∀ q ∈ sent, q.packetType = .data) {events : List PeerEvent}
    (hk : ∀ e ∈ events, (Counter.reliable i).survives e = true)
    (harr : ∀ a ∈ events.flatMap (·.arrivalOn i), a ∈ sent) {arrived : List Packet}
    (hord : InOrder sent arrived (events.flatMap (·.arrivalOn i)))
    (hrun : NexGo.peerRun keystream prims server c events = some (c', outs))
    {sub : ReliableSubstream} {read : List (List (BitVec 8))}
    (hsub : c.reliableSubstream i = some sub) (h : ReceivingInOrder keystream start c₀ sent arrived sub read) :
    ∃ sub', c'.reliableSubstream i = some sub' ∧
      ReceivingInOrder keystream start c₀ sent (arrived ++ events.flatMap (·.arrivalOn i)) sub'
        (read ++ rmcMessagesOn i outs) :=
  peerRun_induction keystream prims server
    (R := fun c es o c' => (∀ e ∈ es, (Counter.reliable i).survives e = true) →
      (∀ a ∈ es.flatMap (·.arrivalOn i), a ∈ sent) →
      ∀ {arrived : List Packet}, InOrder sent arrived (es.flatMap (·.arrivalOn i)) →
      ∀ {sub : ReliableSubstream} {read : List (List (BitVec 8))},
        c.reliableSubstream i = some sub → ReceivingInOrder keystream start c₀ sent arrived sub read →
        ∃ sub', c'.reliableSubstream i = some sub' ∧
          ReceivingInOrder keystream start c₀ sent (arrived ++ es.flatMap (·.arrivalOn i)) sub' (read ++ rmcMessagesOn i o))
    (fun _ _ _ _ _ _ _ hsub h => ⟨_, hsub, by simpa using h⟩)
    (fun hs hrest hk harr _ hord _ _ hsub h => by
      rw [List.flatMap_cons] at harr hord ⊢
      obtain ⟨hord₁, hord₂⟩ := inOrder_append.1 hord
      obtain ⟨sub₁, hsub₁, h₁⟩ := ReceivingInOrder.peerStep prims server hnum hlen hdata (hk _ (List.mem_cons_self _ _))
        (fun a ha => harr a (List.mem_append_left _ ha)) hord₁ hs hsub h
      obtain ⟨sub', hsub', h'⟩ := hrest (fun e he => hk e (List.mem_cons_of_mem _ he))
        (fun a ha => harr a (List.mem_append_right _ ha)) hord₂ hsub₁ h₁
      exact ⟨sub', hsub', by simpa [List.append_assoc] using h'⟩)
    hrun hk harr hord hsub h

/-- Over any run that keeps the table and in which no reliable DATA packet arrives on `i`, the
incoming side of `i` stays as it was. -/
theorem incoming_peerRun {events : List PeerEvent} (hk : ∀ e ∈ events, (Counter.reliable i).survives e = true)
    (hno : events.flatMap (·.arrivalOn i) = [])
    (hrun : NexGo.peerRun keystream prims server c events = some (c', outs)) {sub : ReliableSubstream}
    (hsub : c.reliableSubstream i = some sub) :
    ∃ sub', c'.reliableSubstream i = some sub' ∧ sub'.incoming = sub.incoming :=
  peerRun_induction keystream prims server
    (R := fun c es _ c' => (∀ e ∈ es, (Counter.reliable i).survives e = true) → es.flatMap (·.arrivalOn i) = [] →
      ∀ {sub : ReliableSubstream}, c.reliableSubstream i = some sub →
        ∃ sub', c'.reliableSubstream i = some sub' ∧ sub'.incoming = sub.incoming)
    (fun _ _ _ _ hsub => ⟨_, hsub, rfl⟩)
    (fun hs hrest hk hno _ hsub => by
      rw [List.flatMap_cons, List.append_eq_nil] at hno
      obtain ⟨sub₁, hsub₁, he₁, -⟩ := incoming_peerStep prims server (hk _ (List.mem_cons_self _ _)) hno.1 hs hsub
      obtain ⟨sub', hsub', he'⟩ := hrest (fun e he => hk e (List.mem_cons_of_mem _ he)) hno.2 hsub₁
      exact ⟨sub', hsub', he'.trans he₁⟩)
    hrun hk hno hsub

end Receiver

/-! ## The two directions of a substream -/

/-- The two directions of a substream progress separately. Over any run of a peer that keeps its
substream table and sends only DATA reliably on substream `i`, the outgoing RC4 of `i` moves on by
exactly the bytes of the packets sent on `i`, whatever arrives; and when no reliable DATA packet
arrives on `i`, the incoming side of `i` (expected id, buffer, incoming RC4, accumulator) is as it
was, whatever is sent. The peer's events do not overlap: `peerRun` handles each to its end before
the next starts, as Go does only when nothing else runs on the peer meanwhile. -/
theorem substream_directions_separate (keystream : List (BitVec 8) → Nat → BitVec 8)
    (prims : ConnectPrimitives) (server : PRUDPServer) {i : BitVec 8} {c c' : PRUDPClient}
    {events : List PeerEvent} {outs : List Output}
    (hrun : peerRun keystream prims server c events = some (c', outs))
    (hk : ∀ e ∈ events, (Counter.reliable i).survives e = true)
    (hdata : ∀ p, PeerEvent.send p ∈ events → p.drawsOn (.reliable i) = true → p.packetType = .data)
    {sub : ReliableSubstream} (hsub : c.reliableSubstream i = some sub) :
    ∃ sub', c'.reliableSubstream i = some sub' ∧
      sub'.cipherOut = ⟨sub.cipherOut.key,
        sub.cipherOut.position + ((drawnFrom (.reliable i) outs).map (·.payload)).flatten.length⟩ ∧
      (events.flatMap (·.arrivalOn i) = [] → sub'.incoming = sub.incoming) := by
  obtain ⟨hout, hdec⟩ := (EncryptsOut.peerRun keystream prims server hk hdata hrun).cipher sub.cipherOut
    (by simp [PRUDPClient.cipherOut, hsub])
  obtain ⟨sub', hsub', hc⟩ := Option.map_eq_some'.1 hout
  refine ⟨sub', hsub', by rw [hc, ← hdec, length_flatten_decryptInOrder], fun hno => ?_⟩
  obtain ⟨sub'', hsub'', he⟩ := incoming_peerRun prims server hk hno hrun hsub
  rwa [Option.some.inj (hsub''.symm.trans hsub')] at he

/-! ## Both ends -/

/-- Reliable delivery between two peers, whatever each does meanwhile. The sending peer goes
through any run that keeps its substream table and sends only DATA reliably on substream `i`,
below `2 ^ 16` packets on `i`. The receiving peer, whose substream `i` expects the sender's next id,
decrypts from where the sender's outgoing RC4 stood and holds nothing yet, goes through any run of
arrivals, sends and heartbeats that keeps its substream table, in which every reliable DATA packet
arriving on `i` is one of the sender's and they arrive in order, any of them again at any later
point. The handlers of the `reliable-data` events it emits on `i` then read the messages the
reassembly rule makes of the fragments sent on `i` as far as the sender's packets from the first
have arrived, and its accumulator holds the rest. Once all have arrived, and below `256` full
fragments per send, they have read the messages the application sent on `i`, one per send, in the
order it sent them, and the accumulator is empty. Each peer's events do not overlap: `peerRun`
handles each to its end before the next starts, as Go does only when nothing else runs on the peer
meanwhile. -/
theorem peers_delivered_in_order (keystream : List (BitVec 8) → Nat → BitVec 8) (prims : ConnectPrimitives)
    {server : PRUDPServer} (hF : 0 < server.fragmentSize) {i : BitVec 8} {tx tx' : PRUDPClient}
    {events : List PeerEvent} {outs : List Output}
    (hrun : peerRun keystream prims server tx events = some (tx', outs))
    (hk : ∀ e ∈ events, (Counter.reliable i).survives e = true)
    (hdata : ∀ p, PeerEvent.send p ∈ events → p.drawsOn (.reliable i) = true → p.packetType = .data)
    (hlen : (drawnFrom (.reliable i) outs).length < 2 ^ 16) {subTx : ReliableSubstream}
    (htx : tx.reliableSubstream i = some subTx) {rx rx' : PRUDPClient} {revents : List PeerEvent}
    {routs : List Output} (hrrun : peerRun keystream prims server rx revents = some (rx', routs))
    (hrk : ∀ e ∈ revents, (Counter.reliable i).survives e = true)
    (hrarr : ∀ a ∈ revents.flatMap (·.arrivalOn i), a ∈ drawnFrom (.reliable i) outs)
    (hrord : InOrder (drawnFrom (.reliable i) outs) [] (revents.flatMap (·.arrivalOn i)))
    {subRx : ReliableSubstream} (hrx : rx.reliableSubstream i = some subRx)
    (hid : subRx.incomingSequenceID = subTx.outgoingSequenceID) (hcipher : subRx.cipherIn = subTx.cipherOut)
    (hbuf : subRx.buffered = []) (hacc : subRx.fragmentedPayload = []) :
    ∃ sub, rx'.reliableSubstream i = some sub ∧
      (rmcMessagesOn i routs, sub.fragmentedPayload) =
        reassemble ((events.flatMap (·.fragmentsOn server.fragmentSize i)).take
          (arrivedPrefix (drawnFrom (.reliable i) outs) (revents.flatMap (·.arrivalOn i))).length) [] ∧
      ((∀ p, PeerEvent.send p ∈ events → p.drawsOn (.reliable i) = true →
          p.payload.length < 256 * server.fragmentSize) →
        (∀ q ∈ drawnFrom (.reliable i) outs, q ∈ revents.flatMap (·.arrivalOn i)) →
        rmcMessagesOn i routs = events.flatMap (·.messagesOn i) ∧ sub.fragmentedPayload = []) := by
  obtain ⟨hnum, hdat, hfr⟩ := sent_of_peerRun keystream prims server hrun hk hdata htx
  obtain ⟨sub, hsub, h⟩ :=
    (ReceivingInOrder.init hbuf hacc).peerRun prims server (hid ▸ hnum) hlen hdat hrk hrarr hrord hrrun hrx
  obtain ⟨hread, hfull⟩ := h.delivered (hcipher ▸ hfr)
  exact ⟨sub, hsub, by simpa using hread, fun h256 hall => by
    simpa [reassemble_fragmentsOn hF i events h256] using hfull (by simpa using hall)⟩

/-- The sending peer of `session_delivered_in_order_interleaved`. The receiving peer's heartbeat
fires, a PING arrives, then the sender's packets in order with the first of them again in between,
then it sends on substream `0` itself and the ACK for that arrives. -/
theorem peers_delivered_in_order_interleaved :
    let peer : PRUDPClient := { newPRUDPClient "10.0.0.1:3000" with reliableSubstreams := [newReliableSubstream []] }
    let events : List PeerEvent :=
      [.send { newPRUDPPacketV1 with packetType := .data, flags := [.reliable, .needsAck], payload := [1, 2] },
       .receive 0 { newPRUDPPacketV1 with packetType := .ping, flags := [.needsAck] },
       .ping,
       .send { newPRUDPPacketV1 with packetType := .data, flags := [.needsAck], payload := [9] },
       .send { newPRUDPPacketV1 with packetType := .data, flags := [.reliable, .needsAck], payload := [3] }]
    let revents : List Output → List PeerEvent := fun outs =>
      [.ping, .receive 0 { newPRUDPPacketV1 with packetType := .ping, flags := [.needsAck] }] ++
        ((drawnFrom (.reliable 0) outs).take 1 ++ drawnFrom (.reliable 0) outs).map (.receive 0) ++
        [.send { newPRUDPPacketV1 with packetType := .data, flags := [.reliable, .needsAck], payload := [7] },
         .receive 0 { newPRUDPPacketV1 with packetType := .data, flags := [.ack], sequenceID := 1 }]
    ∃ tx' outs, peerRun (fun _ _ => 0) plainPrimitives newPRUDPServer peer events = some (tx', outs) ∧
      0 < newPRUDPServer.fragmentSize ∧ (∀ e ∈ events, (Counter.reliable 0).survives e = true) ∧
      (∀ p, PeerEvent.send p ∈ events → p.drawsOn (.reliable 0) = true → p.packetType = .data) ∧
      (drawnFrom (.reliable 0) outs).length < 2 ^ 16 ∧ peer.reliableSubstream 0 = some (newReliableSubstream []) ∧
      ∃ rx' routs, peerRun (fun _ _ => 0) plainPrimitives newPRUDPServer peer (revents outs) = some (rx', routs) ∧
        (∀ e ∈ revents outs, (Counter.reliable 0).survives e = true) ∧
        (∀ a ∈ (revents outs).flatMap (·.arrivalOn 0), a ∈ drawnFrom (.reliable 0) outs) ∧
        InOrder (drawnFrom (.reliable 0) outs) [] ((revents outs).flatMap (·.arrivalOn 0)) ∧
        (newReliableSubstream []).incomingSequenceID = (newReliableSubstream []).outgoingSequenceID ∧
        (newReliableSubstream []).cipherIn = (newReliableSubstream []).cipherOut ∧
        (newReliableSubstream []).buffered = [] ∧ (newReliableSubstream []).fragmentedPayload = [] ∧
        ∃ sub, rx'.reliableSubstream 0 = some sub ∧
          (rmcMessagesOn 0 routs, sub.fragmentedPayload) =
            reassemble ((events.flatMap (·.fragmentsOn newPRUDPServer.fragmentSize 0)).take
              (arrivedPrefix (drawnFrom (.reliable 0) outs) ((revents outs).flatMap (·.arrivalOn 0))).length) [] ∧
          ((∀ p, PeerEvent.send p ∈ events → p.drawsOn (.reliable 0) = true →
              p.payload.length < 256 * newPRUDPServer.fragmentSize) →
            (∀ q ∈ drawnFrom (.reliable 0) outs, q ∈ (revents outs).flatMap (·.arrivalOn 0)) →
            rmcMessagesOn 0 routs = events.flatMap (·.messagesOn 0) ∧ sub.fragmentedPayload = []) :=
  ⟨_, _, rfl, by decide, by decide, fun p hp _ => by simp at hp; rcases hp with rfl | rfl | rfl <;> rfl, by decide,
    rfl, _, _, rfl, by decide, by decide, by decide, rfl, rfl, rfl, rfl,
    peers_delivered_in_order (fun _ _ => 0) plainPrimitives (by decide) (by exact rfl) (by decide)
      (fun p hp _ => by simp at hp; rcases hp with rfl | rfl | rfl <;> rfl) (by decide)
      (show ({ newPRUDPClient "10.0.0.1:3000" with reliableSubstreams := [newReliableSubstream []] } : PRUDPClient).reliableSubstream
        0 = some (newReliableSubstream []) from rfl) (by exact rfl) (by decide) (by decide) (by decide)
      (show ({ newPRUDPClient "10.0.0.1:3000" with reliableSubstreams := [newReliableSubstream []] } : PRUDPClient).reliableSubstream
        0 = some (newReliableSubstream []) from rfl) rfl rfl rfl rfl⟩


/-- A peer with substreams `0` and `1` sends on `0` while a reliable DATA packet arrives on `1`, its
heartbeat fires and a PING arrives. -/
theorem substream_directions_separate_sends :
    let peer : PRUDPClient :=
      { newPRUDPClient "10.0.0.1:3000" with reliableSubstreams := [newReliableSubstream [], newReliableSubstream []] }
    let events : List PeerEvent :=
      [.send { newPRUDPPacketV1 with packetType := .data, flags := [.reliable, .needsAck], payload := [1, 2] },
       .receive 0 { newPRUDPPacketV1 with
         packetType := .data, flags := [.reliable, .needsAck], substreamID := 1, sequenceID := 1, payload := [5] },
       .ping,
       .receive 0 { newPRUDPPacketV1 with packetType := .ping, flags := [.needsAck] },
       .send { newPRUDPPacketV1 with packetType := .data, flags := [.reliable, .needsAck], payload := [3] }]
    ∃ c' outs, peerRun (fun _ _ => 0) plainPrimitives newPRUDPServer peer events = some (c', outs) ∧
      (∀ e ∈ events, (Counter.reliable 0).survives e = true) ∧
      (∀ p, PeerEvent.send p ∈ events → p.drawsOn (.reliable 0) = true → p.packetType = .data) ∧
      peer.reliableSubstream 0 = some (newReliableSubstream []) ∧
      ∃ sub', c'.reliableSubstream 0 = some sub' ∧
        sub'.cipherOut = ⟨(newReliableSubstream []).cipherOut.key,
          (newReliableSubstream []).cipherOut.position + ((drawnFrom (.reliable 0) outs).map (·.payload)).flatten.length⟩ ∧
        (events.flatMap (·.arrivalOn 0) = [] → sub'.incoming = (newReliableSubstream []).incoming) :=
  ⟨_, _, rfl, by decide, fun p hp _ => by simp at hp; rcases hp with rfl | rfl <;> rfl, rfl,
    substream_directions_separate (fun _ _ => 0) plainPrimitives newPRUDPServer (by exact rfl) (by decide)
      (fun p hp _ => by simp at hp; rcases hp with rfl | rfl <;> rfl)
      (show ({ newPRUDPClient "10.0.0.1:3000" with
        reliableSubstreams := [newReliableSubstream [], newReliableSubstream []] } : PRUDPClient).reliableSubstream 0 =
          some (newReliableSubstream []) from rfl)⟩

/-! ## A receiver of the sender's packets alone -/

section Arrivals

variable (keystream : List (BitVec 8) → Nat → BitVec 8) (prims : ConnectPrimitives) (server : PRUDPServer)
  {i : BitVec 8}

/-- Packets arriving at any times, as the receiving peer's events. -/
theorem arrivalOn_arrivals {arrivals : List (Nat × Packet)}
    (h : ∀ a ∈ arrivals, a.2.packetType = .data ∧ a.2.drawsOn (.reliable i) = true) :
    (arrivals.map fun a => PeerEvent.receive a.1 a.2).flatMap (·.arrivalOn i) = arrivals.map Prod.snd := by
  induction arrivals with
  | nil => rfl
  | cons a rest ih =>
    obtain ⟨hd, hq⟩ := h a (List.mem_cons_self _ _)
    rw [List.map_cons, List.flatMap_cons, ih fun b hb => h b (List.mem_cons_of_mem _ hb)]
    simp [PeerEvent.arrivalOn, hd, hq]

/-- A peer that has substream `i` processes reliable DATA packets on `i` arriving at any times:
each looks up substream `i` alone and leaves the table as long. -/
theorem peerRun_of_arrivals : ∀ {c : PRUDPClient} (arrivals : List (Nat × Packet)),
    i.toNat < c.reliableSubstreams.length →
    (∀ a ∈ arrivals, a.2.packetType = .data ∧ a.2.drawsOn (.reliable i) = true) →
      ∃ c' outs, peerRun keystream prims server c (arrivals.map fun a => .receive a.1 a.2) = some (c', outs)
  | c, [], _, _ => ⟨c, [], rfl⟩
  | c, (now, q) :: rest, hi, harr => by
    obtain ⟨hd, hq⟩ := harr (now, q) (List.mem_cons_self _ _)
    dsimp only at hd
    simp only [Packet.drawsOn, Bool.and_eq_true, Bool.not_eq_true', Bool.or_eq_false_iff, beq_iff_eq] at hq
    obtain ⟨⟨⟨ha, hm⟩, hr⟩, hid⟩ := hq
    obtain ⟨⟨c₁, o₁⟩, h₁⟩ := Option.ne_none_iff_exists'.1
      ((peerStep_eq_none_iff keystream prims server (c := c) (.receive now q)).not.2
        (by simp [PeerEvent.canStep, ha, hm, hr, hd, hid, hi]))
    have hi₁ : i.toNat < c₁.reliableSubstreams.length := by
      rw [length_peerStep keystream prims server h₁]
      simpa [PeerEvent.substreamsAfter, ha, hm, hd] using hi
    obtain ⟨c', outs, h₂⟩ := peerRun_of_arrivals rest hi₁ fun a ha => harr a (List.mem_cons_of_mem _ ha)
    exact ⟨c', o₁ ++ outs, by simp [peerRun, h₁, h₂]⟩

end Arrivals

/-- Reliable delivery to a peer that receives the sender's packets alone. The sending peer is as
in `peers_delivered_in_order`; the receiving peer has substream `i`, expecting the sender's next
id, decrypting from where the sender's outgoing RC4 stood and holding nothing yet. Whatever the
times, order and repetition in which the sender's packets on `i` arrive, the receiving peer's run
returns. When they arrive in order, any of them again at any later point, the handlers of the
`reliable-data` events it emits on `i` read the messages the reassembly rule makes of the fragments
sent on `i` as far as they have arrived from the first, and the accumulator holds the rest; once
all have arrived, and below `256` full fragments per send, the messages the application sent on
`i`, one per send, in order, with the accumulator empty. Each peer's events do not overlap:
`peerRun` handles each to its end before the next starts, as Go does only when nothing else runs on
the peer meanwhile. -/
theorem peers_delivered_in_order_of_arrivals (keystream : List (BitVec 8) → Nat → BitVec 8)
    (prims : ConnectPrimitives) {server : PRUDPServer} (hF : 0 < server.fragmentSize) {i : BitVec 8}
    {tx tx' : PRUDPClient} {events : List PeerEvent} {outs : List Output}
    (hrun : peerRun keystream prims server tx events = some (tx', outs))
    (hk : ∀ e ∈ events, (Counter.reliable i).survives e = true)
    (hdata : ∀ p, PeerEvent.send p ∈ events → p.drawsOn (.reliable i) = true → p.packetType = .data)
    (hlen : (drawnFrom (.reliable i) outs).length < 2 ^ 16) {subTx : ReliableSubstream}
    (htx : tx.reliableSubstream i = some subTx) {rx : PRUDPClient} {subRx : ReliableSubstream}
    (hrx : rx.reliableSubstream i = some subRx) (hid : subRx.incomingSequenceID = subTx.outgoingSequenceID)
    (hcipher : subRx.cipherIn = subTx.cipherOut) (hbuf : subRx.buffered = []) (hacc : subRx.fragmentedPayload = [])
    (arrivals : List (Nat × Packet)) (harr : ∀ a ∈ arrivals, a.2 ∈ drawnFrom (.reliable i) outs) :
    ∃ rx' routs, peerRun keystream prims server rx (arrivals.map fun a => .receive a.1 a.2) = some (rx', routs) ∧
      (InOrder (drawnFrom (.reliable i) outs) [] (arrivals.map Prod.snd) →
        ∃ sub, rx'.reliableSubstream i = some sub ∧
          (rmcMessagesOn i routs, sub.fragmentedPayload) =
            reassemble ((events.flatMap (·.fragmentsOn server.fragmentSize i)).take
              (arrivedPrefix (drawnFrom (.reliable i) outs) (arrivals.map Prod.snd)).length) [] ∧
          ((∀ p, PeerEvent.send p ∈ events → p.drawsOn (.reliable i) = true →
              p.payload.length < 256 * server.fragmentSize) →
            (∀ q ∈ drawnFrom (.reliable i) outs, q ∈ arrivals.map Prod.snd) →
            rmcMessagesOn i routs = events.flatMap (·.messagesOn i) ∧ sub.fragmentedPayload = [])) := by
  obtain ⟨hnum, hdat, hfr⟩ := sent_of_peerRun keystream prims server hrun hk hdata htx
  have hq : ∀ a ∈ arrivals, a.2.packetType = .data ∧ a.2.drawsOn (.reliable i) = true := fun a ha =>
    ⟨hdat _ (harr a ha), (List.mem_filter.1 (harr a ha)).2⟩
  have hflat := arrivalOn_arrivals hq
  -- the arrivals neither replace the substream table nor make the receiving peer fail
  have hrk : ∀ e ∈ arrivals.map fun a => PeerEvent.receive a.1 a.2, (Counter.reliable i).survives e = true := by
    simp only [List.mem_map, forall_exists_index, and_imp, forall_apply_eq_imp_iff₂]
    intro a ha
    simp [Counter.survives, PeerEvent.replacesSubstreams, (hq a ha).1]
  obtain ⟨rx', routs, hrrun⟩ :=
    peerRun_of_arrivals keystream prims server arrivals (PRUDPClient.lt_length_of_reliableSubstream hrx) hq
  refine ⟨rx', routs, hrrun, fun hord => ?_⟩
  obtain ⟨sub, hsub, h⟩ := (ReceivingInOrder.init hbuf hacc).peerRun prims server (hid ▸ hnum) hlen hdat hrk
    (by rw [hflat]; exact fun q hq' => by obtain ⟨a, ha, rfl⟩ := List.mem_map.1 hq'; exact harr a ha)
    (by rwa [hflat]) hrrun hrx
  obtain ⟨hread, hfull⟩ := h.delivered (hcipher ▸ hfr)
  refine ⟨sub, hsub, by simpa [hflat] using hread, fun h256 hall => ?_⟩
  simpa [reassemble_fragmentsOn hF i events h256] using hfull (by simpa [hflat] using hall)

/-- The sending peer of `session_delivered_in_order_interleaved`; its packets on substream `0`
reach a receiver that has just that substream in order, the first of them twice, at different
times. -/
theorem peers_delivered_in_order_of_arrivals_repeated :
    let peer : PRUDPClient := { newPRUDPClient "10.0.0.1:3000" with reliableSubstreams := [newReliableSubstream []] }
    let events : List PeerEvent :=
      [.send { newPRUDPPacketV1 with packetType := .data, flags := [.reliable, .needsAck], payload := [1, 2] },
       .receive 0 { newPRUDPPacketV1 with packetType := .ping, flags := [.needsAck] },
       .ping,
       .send { newPRUDPPacketV1 with packetType := .data, flags := [.needsAck], payload := [9] },
       .send { newPRUDPPacketV1 with packetType := .data, flags := [.reliable, .needsAck], payload := [3] }]
    let arrivals : List Output → List (Nat × Packet) := fun outs =>
      [5, 7, 9].zip ((drawnFrom (.reliable 0) outs).take 1 ++ drawnFrom (.reliable 0) outs)
    ∃ tx' outs, peerRun (fun _ _ => 0) plainPrimitives newPRUDPServer peer events = some (tx', outs) ∧
      0 < newPRUDPServer.fragmentSize ∧ (∀ e ∈ events, (Counter.reliable 0).survives e = true) ∧
      (∀ p, PeerEvent.send p ∈ events → p.drawsOn (.reliable 0) = true → p.packetType = .data) ∧
      (drawnFrom (.reliable 0) outs).length < 2 ^ 16 ∧ peer.reliableSubstream 0 = some (newReliableSubstream []) ∧
      (newReliableSubstream []).incomingSequenceID = (newReliableSubstream []).outgoingSequenceID ∧
      (newReliableSubstream []).cipherIn = (newReliableSubstream []).cipherOut ∧
      (newReliableSubstream []).buffered = [] ∧ (newReliableSubstream []).fragmentedPayload = [] ∧
      (∀ a ∈ arrivals outs, a.2 ∈ drawnFrom (.reliable 0) outs) ∧
      ∃ rx' routs, peerRun (fun _ _ => 0) plainPrimitives newPRUDPServer peer
          ((arrivals outs).map fun a => .receive a.1 a.2) = some (rx', routs) ∧
        (InOrder (drawnFrom (.reliable 0) outs) [] ((arrivals outs).map Prod.snd) →
          ∃ sub, rx'.reliableSubstream 0 = some sub ∧
            (rmcMessagesOn 0 routs, sub.fragmentedPayload) =
              reassemble ((events.flatMap (·.fragmentsOn newPRUDPServer.fragmentSize 0)).take
                (arrivedPrefix (drawnFrom (.reliable 0) outs) ((arrivals outs).map Prod.snd)).length) [] ∧
            ((∀ p, PeerEvent.send p ∈ events → p.drawsOn (.reliable 0) = true →
                p.payload.length < 256 * newPRUDPServer.fragmentSize) →
              (∀ q ∈ drawnFrom (.reliable 0) outs, q ∈ (arrivals outs).map Prod.snd) →
              rmcMessagesOn 0 routs = events.flatMap (·.messagesOn 0) ∧ sub.fragmentedPayload = [])) :=
  ⟨_, _, rfl, by decide, by decide, fun p hp _ => by simp at hp; rcases hp with rfl | rfl | rfl <;> rfl, by decide,
    rfl, rfl, rfl, rfl, rfl, by decide,
    peers_delivered_in_order_of_arrivals (fun _ _ => 0) plainPrimitives (by decide) (by exact rfl) (by decide)
      (fun p hp _ => by simp at hp; rcases hp with rfl | rfl | rfl <;> rfl) (by decide)
      (show ({ newPRUDPClient "10.0.0.1:3000" with reliableSubstreams := [newReliableSubstream []] } : PRUDPClient).reliableSubstream
        0 = some (newReliableSubstream []) from rfl)
      (show ({ newPRUDPClient "10.0.0.1:3000" with reliableSubstreams := [newReliableSubstream []] } : PRUDPClient).reliableSubstream
        0 = some (newReliableSubstream []) from rfl) rfl rfl rfl rfl _ (by decide)⟩

end NexGo

import NexGo.Server.Counters

/-!
# Reliable delivery over a whole session (`prudp_server.go`)

`send_delivered_in_order` follows one `Send`. Over a session the sending peer does more between
two sends on substream `i`: packets arrive and are acknowledged, the application sends on other
substreams and unreliably, heartbeats fire. None of it touches `i`'s outgoing RC4 or draws on its
counter. `processPacket` moves a substream's incoming side and resend scheduler only
(`processPacket_cases`), and `sendPacket` encrypts a payload only with the substream it numbers
the packet from (`cipherOut_sendPacket`).

`EncryptsOut keystream i c outs frags c'`: the packets of `outs` numbered on substream `i` are
DATA, carry the fragment ids of `frags` and decrypt, in the order they went out, from where `i`'s
outgoing RC4 stood in `c`, to the payloads of `frags`, and the RC4 stands after them in `c'`. A run
that keeps the substream table and sends only DATA reliably on `i` keeps it, `frags` being the
fragments of what the application sent on `i` (`EncryptsOut.peerRun`). With `CountsOut` for the
numbering, this is what the receiving side needs (`delivered_in_order_of_sent`): the handlers of a
peer whose substream starts in step with the sender's, the packets arriving in order with any
repetition, read the messages the reassembly rule makes of the fragments sent on `i` over the whole
session as far as they have arrived; once all have, below `256` full fragments per send, the
messages the application sent on `i`, one per send, in order (`session_delivered_in_order`).
-/

namespace NexGo
set_option autoImplicit false

/-- Substream `i`'s outgoing RC4 state; `none` for a substream the peer does not have. -/
def PRUDPClient.cipherOut (c : PRUDPClient) (i : BitVec 8) : Option Cipher :=
  (c.reliableSubstream i).map (·.cipherOut)

/-- The fragments a send event puts on substream `i`, with their fragment ids: those `Send` cuts
from a packet it numbers on `i`. -/
def PeerEvent.fragmentsOn (fragmentSize : Nat) (i : BitVec 8) : PeerEvent → List (List (BitVec 8) × BitVec 8)
  | .send p => if p.drawsOn (.reliable i) then fragments fragmentSize p.payload else []
  | _ => []

/-- The message the application sends on substream `i` in the event. -/
def PeerEvent.messagesOn (i : BitVec 8) : PeerEvent → List (List (BitVec 8))
  | .send p => if p.drawsOn (.reliable i) then [p.payload] else []
  | _ => []

/-- The packets `outs` numbers on substream `i` are DATA, carry the fragment ids of `frags` and
decrypt, in the order they went out, from where `i`'s outgoing RC4 stood in `c`, to the payloads of
`frags`; the RC4 stands after them in `c'`. -/
structure EncryptsOut (keystream : List (BitVec 8) → Nat → BitVec 8) (i : BitVec 8) (c : PRUDPClient)
    (outs : List Output) (frags : List (List (BitVec 8) × BitVec 8)) (c' : PRUDPClient) : Prop where
  data : ∀ q ∈ drawnFrom (.reliable i) outs, q.packetType = .data
  fragmentIDs : (drawnFrom (.reliable i) outs).map (·.fragmentID) = frags.map Prod.snd
  cipher : ∀ x, c.cipherOut i = some x →
    c'.cipherOut i = some ⟨x.key, x.position + (frags.map Prod.fst).flatten.length⟩ ∧
      decryptInOrder keystream x ((drawnFrom (.reliable i) outs).map (·.payload)) = frags.map Prod.fst

/-! ## The outgoing RC4 in the peer -/

section Frames

variable {c : PRUDPClient} {i : BitVec 8}

/-- A substream replaced by one with the same outgoing RC4 leaves every substream's where it was. -/
theorem cipherOut_setReliableSubstream {id : BitVec 8} {sub sub' : ReliableSubstream}
    (hsub : c.reliableSubstream id = some sub) (he : sub'.cipherOut = sub.cipherOut) (i : BitVec 8) :
    (c.setReliableSubstream id sub').cipherOut i = c.cipherOut i :=
  map_reliableSubstream _ (map_setReliableSubstream _ hsub he) i

theorem cipherOut_setReliableSubstream_of_ne {id : BitVec 8} (sub : ReliableSubstream) (hne : id ≠ i) :
    (c.setReliableSubstream id sub).cipherOut i = c.cipherOut i := by
  rw [PRUDPClient.cipherOut, PRUDPClient.reliableSubstream_setReliableSubstream_of_ne c sub hne]
  rfl

/-- A packet numbered on substream `i` is on `i`. -/
theorem substreamID_of_drawn {q : Packet} {outs : List Output} (hq : q ∈ drawnFrom (.reliable i) outs) :
    q.substreamID = i := by
  have hd := (List.mem_filter.1 hq).2
  simp only [Packet.drawsOn, Bool.and_eq_true, beq_iff_eq] at hd
  exact hd.2

end Frames

/-! ## The send path -/

section SendPath

variable (keystream : List (BitVec 8) → Nat → BitVec 8) {c c' : PRUDPClient} {p p' : Packet} {i : BitVec 8}

theorem drawsOn_of_sendPacket (h : sendPacket keystream c p = some (c', p')) (k : Counter) :
    p'.drawsOn k = p.drawsOn k := by
  obtain ⟨s, d, rfl⟩ := sendPacket_eq keystream h
  cases k <;> rfl

/-- `sendPacket` leaves the outgoing RC4 of a substream it does not number the packet on where it
was: it encrypts only with the substream the packet is numbered on. -/
theorem cipherOut_sendPacket (hd : p.drawsOn (.reliable i) = false) (h : sendPacket keystream c p = some (c', p')) :
    c'.cipherOut i = c.cipherOut i := by
  simp only [sendPacket, Option.bind_eq_bind, Option.bind_eq_some, Option.pure_def, Option.some.injEq] at h
  obtain ⟨⟨c₁, p₁⟩, h₁, ⟨c₂, p₂⟩, h₂, c₃, h₃, hc⟩ := h
  obtain ⟨rfl, rfl⟩ := Prod.mk.inj hc
  obtain ⟨s, rfl⟩ := assignSequenceID_eq h₁
  have h₂' : c₂.cipherOut i = c₁.cipherOut i := by
    unfold encryptPayload at h₂
    split_ifs at h₂ with henc <;>
      simp only [Option.bind_eq_bind, Option.bind_eq_some, Option.pure_def, Option.some.injEq, Prod.mk.injEq] at h₂
    · -- a reliable DATA packet, so on a substream other than `i`
      obtain ⟨sub, -, rfl, -⟩ := h₂
      refine cipherOut_setReliableSubstream_of_ne _ fun he => ?_
      simp_all [Packet.drawsOn, Packet.hasFlag]
    · rw [← h₂.1]
  calc c₃.cipherOut i = c₂.cipherOut i :=
        map_reliableSubstream (·.cipherOut) (map_scheduleResend (·.cipherOut) (fun _ _ => rfl) h₃) i
    _ = c₁.cipherOut i := h₂'
    _ = c.cipherOut i := map_reliableSubstream (·.cipherOut) (map_assignSequenceID (·.cipherOut) (fun _ _ => rfl) h₁) i

/-- Every packet `Send`'s loop sends is the packet with another sequence id, payload and fragment
id. -/
theorem sent_sendFragments : ∀ (frags : List (List (BitVec 8) × BitVec 8)) {c c' : PRUDPClient} {packet : Packet}
    {outs : List Output}, sendFragments keystream c packet frags = some (c', outs) → ∀ q ∈ sentPackets outs,
      ∃ s d f, q = { packet with sequenceID := s, payload := d, fragmentID := f }
  | [], _, _, _, _, hs, q, hq => by
    obtain ⟨-, rfl⟩ := Prod.mk.inj (Option.some.inj hs)
    simp [sentPackets] at hq
  | (payload, fragmentID) :: rest, _, _, packet, _, hs, q, hq => by
    simp only [sendFragments, Option.bind_eq_bind, Option.bind_eq_some, Option.pure_def,
      Option.some.injEq] at hs
    obtain ⟨⟨c₁, p₁⟩, h₁, ⟨c₂, outs₂⟩, h₂, hc⟩ := hs
    obtain ⟨-, rfl⟩ := Prod.mk.inj hc
    obtain ⟨s, d, rfl⟩ := sendPacket_eq keystream h₁
    simp only [sentPackets, List.filterMap_cons, List.mem_cons] at hq
    rcases hq with rfl | hq
    · exact ⟨s, d, fragmentID, rfl⟩
    · obtain ⟨s', d', f', rfl⟩ := sent_sendFragments rest h₂ q hq
      exact ⟨s', d', f', rfl⟩

/-- `Send`'s loop sends one packet per fragment, with the fragment's id, in order. -/
theorem fragmentIDs_sendFragments : ∀ (frags : List (List (BitVec 8) × BitVec 8)) {c c' : PRUDPClient}
    {packet : Packet} {outs : List Output}, sendFragments keystream c packet frags = some (c', outs) →
      (sentPackets outs).map (·.fragmentID) = frags.map Prod.snd
  | [], _, _, _, _, hs => by
    obtain ⟨-, rfl⟩ := Prod.mk.inj (Option.some.inj hs)
    rfl
  | (payload, fragmentID) :: rest, _, _, packet, _, hs => by
    simp only [sendFragments, Option.bind_eq_bind, Option.bind_eq_some, Option.pure_def,
      Option.some.injEq] at hs
    obtain ⟨⟨c₁, p₁⟩, h₁, ⟨c₂, outs₂⟩, h₂, hc⟩ := hs
    obtain ⟨-, rfl⟩ := Prod.mk.inj hc
    obtain ⟨s, d, rfl⟩ := sendPacket_eq keystream h₁
    rw [List.map_cons, ← fragmentIDs_sendFragments rest h₂]
    rfl

@[simp] theorem drawsOn_sent (k : Counter) (s : BitVec 16) (d : List (BitVec 8)) (f : BitVec 8) :
    ({ p with sequenceID := s, payload := d, fragmentID := f } : Packet).drawsOn k = p.drawsOn k := by
  cases k <;> rfl

/-- `Send`'s loop numbers all its packets on a counter that numbers the packet, and none on any
other. -/
theorem drawnFrom_sendFragments (frags : List (List (BitVec 8) × BitVec 8)) {packet : Packet} {outs : List Output}
    (hs : sendFragments keystream c packet frags = some (c', outs)) (k : Counter) :
    drawnFrom k outs = if packet.drawsOn k then sentPackets outs else [] := by
  split_ifs with hd
  · exact List.filter_eq_self.2 fun q hq => by
      obtain ⟨s, d, f, rfl⟩ := sent_sendFragments keystream frags hs q hq
      simpa using hd
  · exact List.filter_eq_nil_iff.2 fun q hq => by
      obtain ⟨s, d, f, rfl⟩ := sent_sendFragments keystream frags hs q hq
      simpa using hd

theorem cipherOut_sendFragments : ∀ (frags : List (List (BitVec 8) × BitVec 8)) {c c' : PRUDPClient}
    {packet : Packet} {outs : List Output}, packet.drawsOn (.reliable i) = false →
      sendFragments keystream c packet frags = some (c', outs) → c'.cipherOut i = c.cipherOut i
  | [], _, _, _, _, _, hs => by
    obtain ⟨rfl, -⟩ := Prod.mk.inj (Option.some.inj hs)
    rfl
  | (payload, fragmentID) :: rest, _, _, _, _, hd, hs => by
    simp only [sendFragments, Option.bind_eq_bind, Option.bind_eq_some, Option.pure_def,
      Option.some.injEq] at hs
    obtain ⟨⟨c₁, p₁⟩, h₁, ⟨c₂, outs₂⟩, h₂, hc⟩ := hs
    obtain ⟨rfl, -⟩ := Prod.mk.inj hc
    rw [cipherOut_sendFragments rest (by rw [drawsOn_of_sendPacket keystream h₁]; exact hd) h₂,
      cipherOut_sendPacket keystream (by exact hd) h₁]

/-- The heartbeat's PING is not reliable. -/
theorem sendPing_sendPacket {server : PRUDPServer} {outs : List Output}
    (hs : sendPing keystream server c = some (c', outs)) :
    ∃ ping p', ping.hasFlag .reliable = false ∧ sendPacket keystream c ping = some (c', p') ∧ outs = [.sent p'] := by
  simp only [sendPing, Option.bind_eq_bind, Option.bind_eq_some, Option.pure_def, Option.some.injEq] at hs
  obtain ⟨⟨c₁, p₁⟩, h₁, hc⟩ := hs
  obtain ⟨rfl, rfl⟩ := Prod.mk.inj hc
  split at h₁ <;> exact ⟨_, p₁, by rfl, h₁, rfl⟩

end SendPath

/-! ## Composing encryptions -/

section EncryptsOut

variable {keystream : List (BitVec 8) → Nat → BitVec 8} {i : BitVec 8} {c c₁ c₂ c' : PRUDPClient}
  {outs outs' : List Output} {frags frags' : List (List (BitVec 8) × BitVec 8)}

theorem length_flatten_decryptInOrder (keystream : List (BitVec 8) → Nat → BitVec 8) (x : Cipher)
    (l : List (List (BitVec 8))) : (decryptInOrder keystream x l).flatten.length = l.flatten.length := by
  induction l generalizing x <;> simp [decryptInOrder, Cipher.crypt, *]

theorem EncryptsOut.refl (c : PRUDPClient) : EncryptsOut keystream i c [] [] c :=
  ⟨by simp, rfl, fun _ hx => ⟨hx, rfl⟩⟩

theorem EncryptsOut.trans (h₁ : EncryptsOut keystream i c outs frags c₁)
    (h₂ : EncryptsOut keystream i c₁ outs' frags' c₂) : EncryptsOut keystream i c (outs ++ outs') (frags ++ frags') c₂ := by
  refine ⟨fun q hq => ?_, by rw [drawnFrom_append, List.map_append, h₁.fragmentIDs, h₂.fragmentIDs, List.map_append],
    fun x hx => ?_⟩
  · rw [drawnFrom_append, List.mem_append] at hq
    exact hq.elim (h₁.data q) (h₂.data q)
  obtain ⟨hc₁, hd₁⟩ := h₁.cipher x hx
  obtain ⟨hc₂, hd₂⟩ := h₂.cipher _ hc₁
  -- the second run starts where the first one's plaintext ends
  have hlen : ((drawnFrom (.reliable i) outs).map (·.payload)).flatten.length = (frags.map Prod.fst).flatten.length := by
    rw [← hd₁, length_flatten_decryptInOrder]
  refine ⟨by simpa [Nat.add_assoc] using hc₂, ?_⟩
  rw [drawnFrom_append, List.map_append, decryptInOrder_append, hd₁, hlen, hd₂, List.map_append]

/-- A step that numbers nothing on `i` and leaves its outgoing RC4 where it was. -/
theorem EncryptsOut.of_frame (he : c'.cipherOut i = c.cipherOut i) (hd : drawnFrom (.reliable i) outs = []) :
    EncryptsOut keystream i c outs [] c' :=
  ⟨by simp [hd], by rw [hd]; rfl, fun _ hx => ⟨he.trans hx, by rw [hd]; rfl⟩⟩

end EncryptsOut

/-! ## The steps of a session -/

section Steps

variable (keystream : List (BitVec 8) → Nat → BitVec 8) (prims : ConnectPrimitives) (server : PRUDPServer)
  {c c' : PRUDPClient} {p : Packet} {outs : List Output} {i : BitVec 8}

/-- Processing a packet that keeps the substream table leaves every outgoing RC4 where it was. -/
theorem cipherOut_processPacket {now : Nat} (h : processPacket keystream prims now server c p = some (c', outs))
    (hk : (Counter.reliable i).survives (.receive now p) = true) : c'.cipherOut i = c.cipherOut i := by
  rcases processPacket_cases keystream prims now server h with
    ⟨-, -, j, sub, r, hsub, rfl⟩ | ⟨-, -, -, sub, -, hsub, -, rfl, -⟩ | ⟨hrep, -⟩ | ⟨-, rfl, -⟩
  · exact cipherOut_setReliableSubstream hsub (by rfl) i
  · obtain ⟨_, _, _, _, hsub'⟩ := receiveReliable_frame keystream sub p
    exact cipherOut_setReliableSubstream hsub (by rw [hsub']) i
  · simp [Counter.survives, hrep] at hk
  · rfl

/-- `Send` on a packet numbered on `i`, a reliable DATA packet: its fragments, encrypted in turn. -/
theorem EncryptsOut.send (hdata : p.drawsOn (.reliable i) = true → p.packetType = .data)
    (hs : NexGo.send keystream server c p = some (c', outs)) :
    EncryptsOut keystream i c outs ((PeerEvent.send p).fragmentsOn server.fragmentSize i) c' := by
  unfold NexGo.send at hs
  split_ifs at hs
  have hdrawn := drawnFrom_sendFragments keystream _ hs (.reliable i)
  rw [PeerEvent.fragmentsOn]
  split_ifs at hdrawn ⊢ with hd
  · have hdat := hdata hd
    simp only [Packet.drawsOn, Bool.and_eq_true, Bool.not_eq_true', Bool.or_eq_false_iff, beq_iff_eq] at hd
    obtain ⟨⟨⟨hack, hmulti⟩, hrel⟩, rfl⟩ := hd
    refine ⟨fun q hq => ?_, by rw [hdrawn]; exact fragmentIDs_sendFragments keystream _ hs, fun x hx => ?_⟩
    · rw [hdrawn] at hq
      obtain ⟨s, d, f, rfl⟩ := sent_sendFragments keystream _ hs q hq
      exact hdat
    obtain ⟨sub, hsub, rfl⟩ := Option.map_eq_some'.1 hx
    obtain ⟨c'', outs'', hrun, -, -, hdec, ⟨sub', hsub', hcipher⟩, -⟩ :=
      sendFragments_reliable keystream (fragments server.fragmentSize p.payload) hdat hrel hack hmulti hsub
    obtain ⟨rfl, rfl⟩ := Prod.mk.inj (Option.some.inj (hrun.symm.trans hs))
    exact ⟨by simp [PRUDPClient.cipherOut, hsub', hcipher], hdrawn ▸ hdec⟩
  · exact .of_frame (cipherOut_sendFragments keystream _ (Bool.eq_false_iff.2 hd) hs) hdrawn

theorem EncryptsOut.sendPing (hs : NexGo.sendPing keystream server c = some (c', outs)) :
    EncryptsOut keystream i c outs [] c' := by
  obtain ⟨ping, p', hrel, h₁, rfl⟩ := sendPing_sendPacket keystream hs
  have hd : ping.drawsOn (.reliable i) = false := by simp [Packet.drawsOn, hrel]
  exact .of_frame (cipherOut_sendPacket keystream hd h₁)
    (by simp [drawnFrom_sent, drawsOn_of_sendPacket keystream h₁, hd])

theorem EncryptsOut.peerStep {e : PeerEvent} (hk : (Counter.reliable i).survives e = true)
    (hdata : ∀ p, e = .send p → p.drawsOn (.reliable i) = true → p.packetType = .data)
    (hs : NexGo.peerStep keystream prims server c e = some (c', outs)) :
    EncryptsOut keystream i c outs (e.fragmentsOn server.fragmentSize i) c' := by
  cases e with
  | receive now p =>
    exact .of_frame (cipherOut_processPacket keystream prims server hs hk)
      (drawnFrom_processPacket keystream prims now server _ hs)
  | send p => exact .send keystream server (hdata p rfl) hs
  | ping => exact .sendPing keystream server hs

/-- Over a run that keeps the substream table and sends only DATA reliably on `i`, the packets
numbered on `i` are DATA and decrypt, in the order they went out, to the fragments of what the
application sent on `i`. -/
theorem EncryptsOut.peerRun {events : List PeerEvent} (hk : ∀ e ∈ events, (Counter.reliable i).survives e = true)
    (hdata : ∀ p, PeerEvent.send p ∈ events → p.drawsOn (.reliable i) = true → p.packetType = .data)
    (h : NexGo.peerRun keystream prims server c events = some (c', outs)) :
    EncryptsOut keystream i c outs (events.flatMap (·.fragmentsOn server.fragmentSize i)) c' :=
  peerRun_induction keystream prims server
    (R := fun c es o c' => (∀ e ∈ es, (Counter.reliable i).survives e = true) →
      (∀ p, PeerEvent.send p ∈ es → p.drawsOn (.reliable i) = true → p.packetType = .data) →
      EncryptsOut keystream i c o (es.flatMap (·.fragmentsOn server.fragmentSize i)) c')
    (fun c _ _ => .refl c)
    (fun hs hrest hk hdata =>
      (EncryptsOut.peerStep keystream prims server (hk _ (List.mem_cons_self _ _))
        (fun p he => hdata p (he ▸ List.mem_cons_self _ _)) hs).trans
      (hrest (fun e he => hk e (List.mem_cons_of_mem _ he)) fun p hp => hdata p (List.mem_cons_of_mem _ hp)))
    h hk hdata

end Steps

/-! ## End to end -/

/-- Below `256` full fragments per send, the reassembly rule puts a session's fragments on `i` back
together into the messages the application sent on `i`, one per send, with nothing left over. -/
theorem reassemble_fragmentsOn {F : Nat} (hF : 0 < F) (i : BitVec 8) : ∀ (events : List PeerEvent),
    (∀ p, PeerEvent.send p ∈ events → p.drawsOn (.reliable i) = true → p.payload.length < 256 * F) →
    reassemble (events.flatMap (·.fragmentsOn F i)) [] = (events.flatMap (·.messagesOn i), [])
  | [], _ => rfl
  | e :: events, h => by
    have he : reassemble (e.fragmentsOn F i) [] = (e.messagesOn i, []) := by
      cases e with
      | send p =>
        simp only [PeerEvent.fragmentsOn, PeerEvent.messagesOn]
        split_ifs with hd
        · exact (reassemble_fragments_of_lt hF _ (h p (List.mem_cons_self _ _) hd)).2.2.2
        · rfl
      | receive => rfl
      | ping => rfl
    rw [List.flatMap_cons, List.flatMap_cons, reassemble_append_of_closed _ (by rw [he]), he,
      reassemble_fragmentsOn hF i events fun p hp => h p (List.mem_cons_of_mem _ hp)]

/-- The sending side of a session on substream `i`: over a run that keeps the substream table and
sends only DATA reliably on `i`, the packets numbered on `i` carry consecutive ids from where `i`'s
counter stood, are DATA, and carry, decrypted in order from where its outgoing RC4 stood and with
their fragment ids, the fragments of what the application sent on `i`. -/
theorem sent_of_peerRun (keystream : List (BitVec 8) → Nat → BitVec 8) (prims : ConnectPrimitives)
    (server : PRUDPServer) {i : BitVec 8} {tx tx' : PRUDPClient} {events : List PeerEvent} {outs : List Output}
    (hrun : peerRun keystream prims server tx events = some (tx', outs))
    (hk : ∀ e ∈ events, (Counter.reliable i).survives e = true)
    (hdata : ∀ p, PeerEvent.send p ∈ events → p.drawsOn (.reliable i) = true → p.packetType = .data)
    {subTx : ReliableSubstream} (htx : tx.reliableSubstream i = some subTx) :
    Numbered subTx.outgoingSequenceID (drawnFrom (.reliable i) outs) ∧
      (∀ q ∈ drawnFrom (.reliable i) outs, q.packetType = .data) ∧
      (decryptInOrder keystream subTx.cipherOut ((drawnFrom (.reliable i) outs).map (·.payload))).zip
        ((drawnFrom (.reliable i) outs).map (·.fragmentID)) = events.flatMap (·.fragmentsOn server.fragmentSize i) := by
  have henc := EncryptsOut.peerRun keystream prims server hk hdata hrun
  exact ⟨(CountsOut.peerRun keystream prims server (.reliable i) hk hrun subTx.outgoingSequenceID
      (by simp [PRUDPClient.counter, htx])).1, henc.data,
    (List.zip_of_prod (henc.cipher subTx.cipherOut (by simp [PRUDPClient.cipherOut, htx])).2.symm
      henc.fragmentIDs.symm).symm⟩

/-- Reliable delivery over a whole session. The sending peer goes through any run of arrivals,
application sends and heartbeats that keeps its substream table (no SYN, CONNECT or DISCONNECT)
and sends only DATA reliably on substream `i`, below `2 ^ 16` packets on `i`. A peer whose
substream `i` expects the sender's next id, decrypts from where the sender's outgoing RC4 stood,
and holds nothing yet, takes the packets numbered on `i` through `handleReliable` in order, any of
them again at any later point. The handlers of its `reliable-data` events read the messages the
reassembly rule makes of the fragments sent on `i` as far as the packets have arrived from the
first, and the accumulator holds the rest. Once every packet has arrived, and below `256` full
fragments per send, they have read the messages the application sent on `i`, one per send, in the
order it sent them, and the accumulator is empty. Out of order, the loop tests the arriving packet's
fragment id for every packet it releases (`handleReliable_reversed_fragments`). The peer's events
do not overlap: `peerRun` handles each to its end before the next starts, as Go does only when
nothing else runs on the peer meanwhile. -/
theorem session_delivered_in_order (keystream : List (BitVec 8) → Nat → BitVec 8) (prims : ConnectPrimitives)
    {server : PRUDPServer} (hF : 0 < server.fragmentSize) {i : BitVec 8} {tx tx' : PRUDPClient}
    {events : List PeerEvent} {outs : List Output}
    (hrun : peerRun keystream prims server tx events = some (tx', outs))
    (hk : ∀ e ∈ events, (Counter.reliable i).survives e = true)
    (hdata : ∀ p, PeerEvent.send p ∈ events → p.drawsOn (.reliable i) = true → p.packetType = .data)
    (hlen : (drawnFrom (.reliable i) outs).length < 2 ^ 16) {rx : PRUDPClient} {subTx subRx : ReliableSubstream}
    (htx : tx.reliableSubstream i = some subTx) (hrx : rx.reliableSubstream i = some subRx)
    (hid : subRx.incomingSequenceID = subTx.outgoingSequenceID) (hcipher : subRx.cipherIn = subTx.cipherOut)
    (hbuf : subRx.buffered = []) (hacc : subRx.fragmentedPayload = []) (arrivals : List Packet)
    (harr : ∀ a ∈ arrivals, a ∈ drawnFrom (.reliable i) outs)
    (hord : InOrder (drawnFrom (.reliable i) outs) [] arrivals) :
    ∃ rx' routs sub, handleReliableAll keystream rx arrivals = some (rx', routs) ∧
      rx'.reliableSubstream i = some sub ∧
      (rmcMessages routs, sub.fragmentedPayload) =
        reassemble ((events.flatMap (·.fragmentsOn server.fragmentSize i)).take
          (arrivedPrefix (drawnFrom (.reliable i) outs) arrivals).length) [] ∧
      ((∀ p, PeerEvent.send p ∈ events → p.drawsOn (.reliable i) = true →
          p.payload.length < 256 * server.fragmentSize) →
        (∀ q ∈ drawnFrom (.reliable i) outs, q ∈ arrivals) →
        rmcMessages routs = events.flatMap (·.messagesOn i) ∧ sub.fragmentedPayload = []) := by
  obtain ⟨hnum, hdat, hfr⟩ := sent_of_peerRun keystream prims server hrun hk hdata htx
  obtain ⟨rx', routs, sub, hrecv, hsub, hread, hfull⟩ := delivered_in_order_of_sent keystream hrx (hid ▸ hnum) hlen
    hdat (fun q hq => substreamID_of_drawn hq) (hcipher ▸ hfr) hbuf hacc arrivals harr hord
  exact ⟨rx', routs, sub, hrecv, hsub, hread, fun h256 hall => by
    simpa [reassemble_fragmentsOn hF i events h256] using hfull hall⟩

/-- Two reliable sends on substream `0` with a PING from the peer, a heartbeat and an unreliable
send between them, the packets on `0` arriving in order with the first again in between. -/
theorem session_delivered_in_order_interleaved :
    let peer : PRUDPClient := { newPRUDPClient "10.0.0.1:3000" with reliableSubstreams := [newReliableSubstream []] }
    let events : List PeerEvent :=
      [.send { newPRUDPPacketV1 with packetType := .data, flags := [.reliable, .needsAck], payload := [1, 2] },
       .receive 0 { newPRUDPPacketV1 with packetType := .ping, flags := [.needsAck] },
       .ping,
       .send { newPRUDPPacketV1 with packetType := .data, flags := [.needsAck], payload := [9] },
       .send { newPRUDPPacketV1 with packetType := .data, flags := [.reliable, .needsAck], payload := [3] }]
    let arrivals : List Output → List Packet := fun outs =>
      (drawnFrom (.reliable 0) outs).take 1 ++ drawnFrom (.reliable 0) outs
    ∃ tx' outs, peerRun (fun _ _ => 0) plainPrimitives newPRUDPServer peer events = some (tx', outs) ∧
      0 < newPRUDPServer.fragmentSize ∧ (∀ e ∈ events, (Counter.reliable 0).survives e = true) ∧
      (∀ p, PeerEvent.send p ∈ events → p.drawsOn (.reliable 0) = true → p.packetType = .data) ∧
      (drawnFrom (.reliable 0) outs).length < 2 ^ 16 ∧
      peer.reliableSubstream 0 = some (newReliableSubstream []) ∧
      (newReliableSubstream []).incomingSequenceID = (newReliableSubstream []).outgoingSequenceID ∧
      (newReliableSubstream []).cipherIn = (newReliableSubstream []).cipherOut ∧
      (newReliableSubstream []).buffered = [] ∧ (newReliableSubstream []).fragmentedPayload = [] ∧
      (∀ a ∈ arrivals outs, a ∈ drawnFrom (.reliable 0) outs) ∧ InOrder (drawnFrom (.reliable 0) outs) [] (arrivals outs) ∧
      ∃ rx' routs sub, handleReliableAll (fun _ _ => 0) peer (arrivals outs) = some (rx', routs) ∧
        rx'.reliableSubstream 0 = some sub ∧
        (rmcMessages routs, sub.fragmentedPayload) =
          reassemble ((events.flatMap (·.fragmentsOn newPRUDPServer.fragmentSize 0)).take
            (arrivedPrefix (drawnFrom (.reliable 0) outs) (arrivals outs)).length) [] ∧
        ((∀ p, PeerEvent.send p ∈ events → p.drawsOn (.reliable 0) = true →
            p.payload.length < 256 * newPRUDPServer.fragmentSize) →
          (∀ q ∈ drawnFrom (.reliable 0) outs, q ∈ arrivals outs) →
          rmcMessages routs = events.flatMap (·.messagesOn 0) ∧ sub.fragmentedPayload = []) :=
  ⟨_, _, rfl, by decide, by decide, fun p hp _ => by simp at hp; rcases hp with rfl | rfl | rfl <;> rfl, by decide,
    rfl, rfl, rfl, rfl, rfl, by decide, by decide,
    session_delivered_in_order (fun _ _ => 0) plainPrimitives (by decide) (by exact rfl) (by decide)
      (fun p hp _ => by simp at hp; rcases hp with rfl | rfl | rfl <;> rfl) (by decide)
      (show ({ newPRUDPClient "10.0.0.1:3000" with reliableSubstreams := [newReliableSubstream []] } : PRUDPClient).reliableSubstream
        0 = some (newReliableSubstream []) from rfl) (by exact rfl) (by exact rfl) (by exact rfl) (by exact rfl)
      (by exact rfl) _ (by decide) (by decide)⟩

end NexGo

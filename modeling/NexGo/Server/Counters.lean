import NexGo.Server.AckOrder
import NexGo.Server.Delivery

/-!
# The outgoing sequence counters over a whole run (`prudp_server.go`)

`sendPacket` (lines 504-536) numbers every packet that is not an acknowledgment from one of the
peer's counters: a reliable packet from its substream's, an unreliable DATA packet from the
peer's DATA counter, an unreliable PING from its PING counter (`Counter`, `Packet.drawsOn`);
anything else gets `0`. Nothing else the server sends draws on a counter: the SYN-ACK, the
CONNECT-ACK and every acknowledgment carry the ACK flag (`flags_of_sent_processPacket`).

`CountsOut k c outs c'`: counter `k` gave the packets of `outs` it numbered the consecutive ids
from its value in `c` on, and stands after the last of them in `c'`. Every step keeps it, so
every run does (`peerRun_counts`): whatever arrives in between, no id is skipped, and none is
given twice below `2 ^ 16` packets. A substream's counter goes with the substream table, which a
SYN, a CONNECT or a DISCONNECT replaces; the peer's own two counters live through every event.
-/

namespace NexGo
set_option autoImplicit false

/-- The counters `sendPacket` numbers from (lines 507-518). -/
inductive Counter
  | reliable (substreamID : BitVec 8)
  | unreliable
  | ping
  deriving DecidableEq, Repr

/-- The counter's next id in the peer; `none` for a substream the peer does not have. -/
def PRUDPClient.counter (c : PRUDPClient) : Counter → Option (BitVec 16)
  | .reliable i => (c.reliableSubstream i).map (·.outgoingSequenceID)
  | .unreliable => some c.outgoingUnreliableSequenceID
  | .ping => some c.outgoingPingSequenceID

/-- Whether `sendPacket` numbers the packet from counter `k`: it is not an acknowledgment, and it
is reliable on substream `i`, or an unreliable DATA packet, or an unreliable PING. -/
def Packet.drawsOn (p : Packet) : Counter → Bool
  | .reliable i => !(p.hasFlag .ack || p.hasFlag .multiAck) && p.hasFlag .reliable && p.substreamID == i
  | .unreliable => !(p.hasFlag .ack || p.hasFlag .multiAck) && !p.hasFlag .reliable && p.packetType == .data
  | .ping => !(p.hasFlag .ack || p.hasFlag .multiAck) && !p.hasFlag .reliable && p.packetType == .ping

/-- The packets sent in `outs` that counter `k` numbered, in the order they went out. -/
def drawnFrom (k : Counter) (outs : List Output) : List Packet := (sentPackets outs).filter (·.drawsOn k)

/-- Counter `k` numbered what it gave in `outs` consecutively from its value in `c`, and stands
after the last of them in `c'`. -/
def CountsOut (k : Counter) (c : PRUDPClient) (outs : List Output) (c' : PRUDPClient) : Prop :=
  ∀ n, c.counter k = some n →
    Numbered n (drawnFrom k outs) ∧ c'.counter k = some (n + BitVec.ofNat 16 (drawnFrom k outs).length)

/-- Whether processing the event replaces the substream table: a SYN, a CONNECT or a DISCONNECT
that is not an acknowledgment. -/
def PeerEvent.replacesSubstreams : PeerEvent → Bool
  | .receive _ p => !(p.hasFlag .ack || p.hasFlag .multiAck) &&
      (p.packetType == .syn || p.packetType == .connect || p.packetType == .disconnect)
  | _ => false

/-- Whether counter `k` lives through the event: a substream's does not live through a new table. -/
def Counter.survives : Counter → PeerEvent → Bool
  | .reliable _, e => !e.replacesSubstreams
  | _, _ => true

/-! ## Composing counts -/

section CountsOut

variable {k : Counter} {c c₁ c₂ c' : PRUDPClient} {outs outs' : List Output} {p p' : Packet}

@[simp] theorem drawnFrom_nil : drawnFrom k [] = [] := rfl

@[simp] theorem drawnFrom_append : drawnFrom k (outs ++ outs') = drawnFrom k outs ++ drawnFrom k outs' := by
  simp [drawnFrom, sentPackets, List.filterMap_append]

@[simp] theorem drawsOn_sequenceID (s : BitVec 16) :
    ({ p with sequenceID := s } : Packet).drawsOn k = p.drawsOn k := by
  cases k <;> rfl

theorem drawsOn_of_ack (h : (p.hasFlag .ack || p.hasFlag .multiAck) = true) (k : Counter) : p.drawsOn k = false := by
  cases k <;> simp only [Packet.drawsOn, h, Bool.not_true, Bool.false_and]

theorem add_ofNat_add_ofNat (n : BitVec 16) (a b : Nat) :
    n + BitVec.ofNat 16 a + BitVec.ofNat 16 b = n + BitVec.ofNat 16 (a + b) := by
  rw [BitVec.ofNat_add, BitVec.add_assoc]

theorem CountsOut.refl (c : PRUDPClient) : CountsOut k c [] c := fun n hn => by
  simpa [Numbered] using hn

theorem CountsOut.trans (h₁ : CountsOut k c outs c₁) (h₂ : CountsOut k c₁ outs' c₂) :
    CountsOut k c (outs ++ outs') c₂ := fun n hn => by
  obtain ⟨hnum₁, hc₁⟩ := h₁ n hn
  obtain ⟨hnum₂, hc₂⟩ := h₂ _ hc₁
  refine ⟨by simpa [numbered_append] using ⟨hnum₁, hnum₂⟩, ?_⟩
  rw [hc₂, add_ofNat_add_ofNat, drawnFrom_append, List.length_append]

/-- A step that sends nothing numbered and leaves the counter where it was. -/
theorem CountsOut.of_counter (he : c'.counter k = c.counter k) (hd : drawnFrom k outs = []) :
    CountsOut k c outs c' := fun n hn => by
  simpa [hd, Numbered, he] using hn

theorem drawnFrom_sent : drawnFrom k [.sent p] = if p.drawsOn k then [p] else [] := by
  simp [drawnFrom, sentPackets, List.filter_cons]

/-- One packet sent that the counter numbered: it took the counter's id, and the counter moved
on by one. -/
theorem CountsOut.drawn (hd : p.drawsOn k = true) (h₁ : c.counter k = some p.sequenceID)
    (h₂ : c'.counter k = some (p.sequenceID + 1)) : CountsOut k c [.sent p] c' := fun n hc => by
  obtain rfl : p.sequenceID = n := Option.some.inj (h₁.symm.trans hc)
  simp [drawnFrom_sent, hd, Numbered, h₂]

/-- One packet sent that the counter did not number, the counter left where it was. -/
theorem CountsOut.not_drawn (hd : p.drawsOn k = false) (he : c'.counter k = c.counter k) :
    CountsOut k c [.sent p] c' :=
  .of_counter he (by simp [drawnFrom_sent, hd])

/-- The same count for a packet that differs only where the counter does not look, and a peer
whose counter agrees. -/
theorem CountsOut.congr (h : CountsOut k c [.sent p] c₁) (hd : p'.drawsOn k = p.drawsOn k)
    (hs : p'.sequenceID = p.sequenceID) (he : c'.counter k = c₁.counter k) : CountsOut k c [.sent p'] c' := fun n hn => by
  obtain ⟨hnum, hc⟩ := h n hn
  rw [drawnFrom_sent] at hnum hc ⊢
  rw [hd, he]
  split_ifs at hnum hc ⊢
  · exact ⟨⟨hs.trans hnum.1, trivial⟩, hc⟩
  · exact ⟨trivial, hc⟩

end CountsOut

/-! ## The counters in the peer -/

section Frames

variable {c c' : PRUDPClient}

/-- A peer that agrees with another on the substreams' outgoing ids and on its own two counters
agrees with it on every counter. -/
theorem counter_eq_of_outgoing (hsub : c'.reliableSubstreams.map (·.outgoingSequenceID) =
      c.reliableSubstreams.map (·.outgoingSequenceID))
    (hu : c'.outgoingUnreliableSequenceID = c.outgoingUnreliableSequenceID)
    (hp : c'.outgoingPingSequenceID = c.outgoingPingSequenceID) (k : Counter) : c'.counter k = c.counter k := by
  cases k with
  | reliable i => exact map_reliableSubstream _ hsub i
  | unreliable => simp [PRUDPClient.counter, hu]
  | ping => simp [PRUDPClient.counter, hp]

/-- A substream replaced by one with the same outgoing id leaves every counter where it was. -/
theorem counter_setReliableSubstream {id : BitVec 8} {sub sub' : ReliableSubstream}
    (hsub : c.reliableSubstream id = some sub) (he : sub'.outgoingSequenceID = sub.outgoingSequenceID)
    (k : Counter) : (c.setReliableSubstream id sub').counter k = c.counter k :=
  counter_eq_of_outgoing (map_setReliableSubstream _ hsub he) rfl rfl k

end Frames

/-! ## The send path -/

section SendPath

variable (keystream : List (BitVec 8) → Nat → BitVec 8) {c c' : PRUDPClient} {p p' : Packet} (k : Counter)

/-- `sendPacket`'s first step takes the id of the counter its branch picks, and moves that
counter on by one. -/
theorem CountsOut.assignSequenceID (h : NexGo.assignSequenceID c p = some (c', p')) : CountsOut k c [.sent p'] c' := by
  unfold NexGo.assignSequenceID at h
  split_ifs at h with hack hrel hdata hping <;>
    simp only [Option.bind_eq_bind, Option.bind_eq_some, Option.pure_def, Option.some.injEq,
      Prod.mk.injEq] at h
  · -- acknowledgments: no counter
    obtain ⟨rfl, rfl⟩ := h
    exact .not_drawn (drawsOn_of_ack hack k) rfl
  all_goals have hna : (p.hasFlag .ack || p.hasFlag .multiAck) = false := Bool.eq_false_iff.2 hack
  · -- reliable: the substream's counter
    obtain ⟨sub, hsub, rfl, rfl⟩ := h
    cases k with
    | reliable i =>
      by_cases hi : p.substreamID = i
      · subst hi
        have hne : c.reliableSubstream p.substreamID ≠ none := by simp [hsub]
        exact .drawn (by rw [drawsOn_sequenceID]; simp [Packet.drawsOn, hna, hrel]) (by simp [PRUDPClient.counter, hsub, ReliableSubstream.nextOutgoingSequenceID])
          (by simp [PRUDPClient.counter, hne, ReliableSubstream.nextOutgoingSequenceID])
      · refine .not_drawn (by rw [drawsOn_sequenceID]; simp [Packet.drawsOn, hi]) ?_
        simp [PRUDPClient.counter, PRUDPClient.reliableSubstream, PRUDPClient.setReliableSubstream,
          List.getElem?_set_ne (fun h => hi (BitVec.eq_of_toNat_eq h))]
    | unreliable => exact .not_drawn (by rw [drawsOn_sequenceID]; simp [Packet.drawsOn, hrel]) rfl
    | ping => exact .not_drawn (by rw [drawsOn_sequenceID]; simp [Packet.drawsOn, hrel]) rfl
  · -- unreliable DATA: the peer's DATA counter
    obtain ⟨rfl, rfl⟩ := h
    cases k with
    | reliable i => exact .not_drawn (by rw [drawsOn_sequenceID]; simp [Packet.drawsOn, hrel]) rfl
    | unreliable => exact .drawn (by rw [drawsOn_sequenceID]; simp [Packet.drawsOn, hna, hrel, hdata]) rfl rfl
    | ping => exact .not_drawn (by rw [drawsOn_sequenceID]; simp [Packet.drawsOn, hdata]) rfl
  · -- unreliable PING: the peer's PING counter
    obtain ⟨rfl, rfl⟩ := h
    cases k with
    | reliable i => exact .not_drawn (by rw [drawsOn_sequenceID]; simp [Packet.drawsOn, hrel]) rfl
    | unreliable => exact .not_drawn (by rw [drawsOn_sequenceID]; simp [Packet.drawsOn, hping]) rfl
    | ping => exact .drawn (by rw [drawsOn_sequenceID]; simp [Packet.drawsOn, hna, hrel, hping]) rfl rfl
  · -- anything else: id `0`
    obtain ⟨rfl, rfl⟩ := h
    exact .not_drawn (by rw [drawsOn_sequenceID]; cases k <;> simp [Packet.drawsOn, hrel, hdata, hping]) rfl

theorem counter_encryptPayload (h : encryptPayload keystream c p = some (c', p')) : c'.counter k = c.counter k := by
  unfold encryptPayload at h
  split_ifs at h <;>
    simp only [Option.bind_eq_bind, Option.bind_eq_some, Option.pure_def, Option.some.injEq, Prod.mk.injEq] at h
  · obtain ⟨sub, hsub, rfl, -⟩ := h
    exact counter_setReliableSubstream hsub (by rfl) k
  · rw [← h.1]

theorem counter_scheduleResend (h : scheduleResend c p = some c') : c'.counter k = c.counter k := by
  unfold scheduleResend at h
  split_ifs at h <;> simp only [Option.bind_eq_bind, Option.bind_eq_some, Option.pure_def, Option.some.injEq] at h
  · obtain ⟨sub, hsub, rfl⟩ := h
    exact counter_setReliableSubstream hsub (by rfl) k
  · rw [← h]

theorem CountsOut.sendPacket (h : NexGo.sendPacket keystream c p = some (c', p')) : CountsOut k c [.sent p'] c' := by
  simp only [NexGo.sendPacket, Option.bind_eq_bind, Option.bind_eq_some, Option.pure_def, Option.some.injEq] at h
  obtain ⟨⟨c₁, p₁⟩, h₁, ⟨c₂, p₂⟩, h₂, c₃, h₃, hc⟩ := h
  obtain ⟨rfl, rfl⟩ := Prod.mk.inj hc
  obtain ⟨payload, rfl⟩ := encryptPayload_eq keystream h₂
  refine (CountsOut.assignSequenceID k h₁).congr (by cases k <;> rfl) rfl ?_
  rw [counter_scheduleResend k h₃, counter_encryptPayload keystream k h₂]

theorem CountsOut.sendFragments : ∀ (frags : List (List (BitVec 8) × BitVec 8)) {c c' : PRUDPClient}
    {packet : Packet} {outs : List Output},
    NexGo.sendFragments keystream c packet frags = some (c', outs) → CountsOut k c outs c'
  | [], _, _, _, _, hs => by
    obtain ⟨rfl, rfl⟩ := Prod.mk.inj (Option.some.inj hs)
    exact .refl _
  | (payload, fragmentID) :: rest, _, _, _, _, hs => by
    simp only [NexGo.sendFragments, Option.bind_eq_bind, Option.bind_eq_some, Option.pure_def,
      Option.some.injEq] at hs
    obtain ⟨⟨c₁, p₁⟩, h₁, ⟨c₂, outs₂⟩, h₂, hc⟩ := hs
    obtain ⟨rfl, rfl⟩ := Prod.mk.inj hc
    exact (CountsOut.sendPacket keystream k h₁).trans (CountsOut.sendFragments rest h₂)

theorem CountsOut.send {server : PRUDPServer} {outs : List Output}
    (hs : NexGo.send keystream server c p = some (c', outs)) : CountsOut k c outs c' := by
  unfold NexGo.send at hs
  split_ifs at hs
  exact .sendFragments keystream k _ hs

theorem CountsOut.sendPing {server : PRUDPServer} {outs : List Output}
    (hs : NexGo.sendPing keystream server c = some (c', outs)) : CountsOut k c outs c' := by
  simp only [NexGo.sendPing, Option.bind_eq_bind, Option.bind_eq_some, Option.pure_def, Option.some.injEq] at hs
  obtain ⟨⟨c₁, p₁⟩, h₁, hc⟩ := hs
  obtain ⟨rfl, rfl⟩ := Prod.mk.inj hc
  exact .sendPacket keystream k h₁

end SendPath

/-! ## The receive path -/

section ReceivePath

variable (keystream : List (BitVec 8) → Nat → BitVec 8) (prims : ConnectPrimitives) (now : Nat)
  (server : PRUDPServer) {c c' : PRUDPClient} {p : Packet} {outs : List Output} (k : Counter)

/-- The CONNECT-ACK is an acknowledgment, and not reliable. -/
theorem flags_of_sent_handleConnect (c : PRUDPClient) (p : Packet) {q : Packet}
    (hq : Output.sent q ∈ (handleConnect prims now server c p).2) :
    q.hasFlag .ack = true ∧ q.hasFlag .reliable = false := by
  unfold handleConnect at hq
  simp only [List.mem_cons, Output.sent.injEq, reduceCtorEq, List.mem_nil_iff, false_or, or_false] at hq
  subst hq
  unfold connectAck
  dsimp only
  split_ifs <;> simp [Packet.hasFlag, Packet.addFlag, List.mem_insert_iff, newPRUDPPacketV0, newPRUDPPacketV1,
    newPRUDPPacket]

/-- Everything `processPacket` sends is an acknowledgment, and not reliable: the SYN-ACK, the
CONNECT-ACK or the packet's ACK. -/
theorem flags_of_sent_processPacket (h : processPacket keystream prims now server c p = some (c', outs))
    {q : Packet} (hq : Output.sent q ∈ outs) : q.hasFlag .ack = true ∧ q.hasFlag .reliable = false := by
  rcases sent_processPacket keystream prims now server h hq with ⟨-, hq⟩ | ⟨-, hc⟩ | ⟨-, -, rfl⟩
  · simp only [handleSyn, List.mem_cons, Output.sent.injEq, reduceCtorEq, List.mem_nil_iff, false_or,
      or_false] at hq
    subst hq
    simp [Packet.hasFlag, Packet.addFlag, List.mem_insert_iff, newPRUDPPacketV0, newPRUDPPacketV1, newPRUDPPacket]
    split <;> simp
  · exact flags_of_sent_handleConnect prims now server c p (by rw [hc]; exact hq)
  · simp

/-- The CONNECT handler leaves the peer's own two counters where they were. -/
theorem counters_handleConnect (c : PRUDPClient) (p : Packet) :
    (handleConnect prims now server c p).1.outgoingUnreliableSequenceID = c.outgoingUnreliableSequenceID ∧
      (handleConnect prims now server c p).1.outgoingPingSequenceID = c.outgoingPingSequenceID := by
  unfold handleConnect
  dsimp only
  split_ifs <;> exact ⟨rfl, rfl⟩

/-- What processing a packet does to the peer and what it emits. An acknowledgment replaces one
substream's resend scheduler and emits nothing. A reliable DATA packet moves its substream's
incoming side, and emits the acknowledgment step's output, then one `reliable-data` event per
message the loop made, each with the packet as its handlers read it (`emitReliableData`). A SYN, a
CONNECT or a DISCONNECT replaces the substream table and keeps the peer's own two counters. Any
other packet, an unreliable DATA packet or a PING, leaves the peer as it was. Only the reliable
DATA case emits `reliable-data` events. -/
theorem processPacket_cases (h : processPacket keystream prims now server c p = some (c', outs)) :
    ((p.hasFlag .ack || p.hasFlag .multiAck) = true ∧ outs = [] ∧
      ∃ i sub r, c.reliableSubstream i = some sub ∧ c' = c.setReliableSubstream i { sub with resendScheduler := r }) ∨
    (p.packetType = .data ∧ (p.hasFlag .ack || p.hasFlag .multiAck) = false ∧ p.hasFlag .reliable = true ∧
      ∃ sub acks, c.reliableSubstream p.substreamID = some sub ∧ reliableData acks = [] ∧
        c' = c.setReliableSubstream p.substreamID (receiveReliable keystream sub p).1 ∧
        outs = acks ++ emitReliableData p (receiveReliable keystream sub p).2) ∨
    ((PeerEvent.receive now p).replacesSubstreams = true ∧ reliableData outs = [] ∧
      c'.outgoingUnreliableSequenceID = c.outgoingUnreliableSequenceID ∧
      c'.outgoingPingSequenceID = c.outgoingPingSequenceID) ∨
    ((p.packetType = .data → p.hasFlag .reliable = false) ∧ c' = c ∧ reliableData outs = []) := by
  unfold processPacket at h
  split_ifs at h with hack
  · obtain ⟨c₁, h₁, hc⟩ := Option.map_eq_some'.1 h
    obtain ⟨rfl, rfl⟩ := Prod.mk.inj hc
    exact .inl ⟨hack, rfl, handleAcknowledgment_client h₁⟩
  have hack' : (p.hasFlag .ack || p.hasFlag .multiAck) = false := Bool.eq_false_iff.2 hack
  have hrep : p.packetType = .syn ∨ p.packetType = .connect ∨ p.packetType = .disconnect →
      (PeerEvent.receive now p).replacesSubstreams = true := by
    simp only [Bool.or_eq_false_iff] at hack'
    rintro (ht | ht | ht) <;> simp [PeerEvent.replacesSubstreams, hack'.1, hack'.2, ht]
  split at h <;> rename_i htype
  · obtain ⟨rfl, rfl⟩ := Prod.mk.inj (Option.some.inj h)
    exact .inr (.inr (.inl ⟨hrep (.inl htype), by simp [handleSyn, reliableData], rfl, rfl⟩))
  · obtain ⟨rfl, rfl⟩ := Prod.mk.inj (Option.some.inj h)
    exact .inr (.inr (.inl ⟨hrep (.inr (.inl htype)), by simp [handleConnect, reliableData],
      counters_handleConnect prims now server c p⟩))
  · unfold handleData at h
    split_ifs at h with hrel
    · rw [handleReliable_eq_bind] at h
      obtain ⟨⟨c₁, acks⟩, hacks, h₁⟩ := Option.bind_eq_some.1 h
      obtain ⟨sub, hsub, hc⟩ := Option.bind_eq_some.1 h₁
      obtain rfl := client_of_acknowledgeIfNeeded keystream hacks
      obtain ⟨rfl, rfl⟩ := Prod.mk.inj (Option.some.inj hc)
      exact .inr (.inl ⟨htype, hack', hrel, sub, acks, hsub, (acknowledgeIfNeeded_acks keystream hacks).1, rfl, rfl⟩)
    · obtain ⟨rfl, rfl⟩ := Prod.mk.inj (Option.some.inj h)
      exact .inr (.inr (.inr ⟨fun _ => Bool.eq_false_iff.2 hrel, rfl, rfl⟩))
  · rw [handleDisconnect_client keystream h]
    unfold handleDisconnect at h
    dsimp only at h
    have hout : reliableData outs = [] := by
      split_ifs at h
      · obtain ⟨⟨c₁, acks⟩, hacks, hc⟩ := Option.bind_eq_some.1 h
        obtain ⟨-, rfl⟩ := Prod.mk.inj (Option.some.inj hc)
        rw [reliableData_append, reliableData_acknowledgePacket keystream hacks]
        rfl
      · obtain ⟨-, rfl⟩ := Prod.mk.inj (Option.some.inj h)
        rfl
    exact .inr (.inr (.inl ⟨hrep (.inr (.inr htype)), hout, rfl, rfl⟩))
  · unfold handlePing at h
    exact .inr (.inr (.inr ⟨fun hd => absurd (htype.symm.trans hd) (by decide), client_of_acknowledgeIfNeeded keystream h,
      (acknowledgeIfNeeded_acks keystream h).1⟩))

/-- Processing a packet moves no counter that lives through it. -/
theorem counter_processPacket (h : processPacket keystream prims now server c p = some (c', outs))
    (hk : k.survives (.receive now p) = true) : c'.counter k = c.counter k := by
  rcases processPacket_cases keystream prims now server h with
    ⟨-, -, i, sub, r, hsub, rfl⟩ | ⟨-, -, -, sub, -, hsub, -, rfl, -⟩ | ⟨hrep, -, hu, hp⟩ | ⟨-, rfl, -⟩
  · exact counter_setReliableSubstream hsub (by rfl) k
  · obtain ⟨_, _, _, _, hsub'⟩ := receiveReliable_frame keystream sub p
    exact counter_setReliableSubstream hsub (by rw [hsub']) k
  · cases k with
    | reliable i => simp [Counter.survives, hrep] at hk
    | unreliable => simp [PRUDPClient.counter, hu]
    | ping => simp [PRUDPClient.counter, hp]
  · rfl

/-- Nothing `processPacket` sends is numbered. -/
theorem drawnFrom_processPacket (h : processPacket keystream prims now server c p = some (c', outs)) :
    drawnFrom k outs = [] :=
  List.filter_eq_nil_iff.2 fun q hq => by
    rw [drawsOn_of_ack (by simp [(flags_of_sent_processPacket keystream prims now server h (mem_sentPackets.1 hq)).1]) k]
    simp

/-- A packet processed: nothing numbered sent, and every counter that lives through it where it
was. -/
theorem CountsOut.processPacket (h : NexGo.processPacket keystream prims now server c p = some (c', outs))
    (hk : k.survives (.receive now p) = true) : CountsOut k c outs c' :=
  .of_counter (counter_processPacket keystream prims now server k h hk)
    (drawnFrom_processPacket keystream prims now server k h)

end ReceivePath

/-! ## Over runs -/

section Runs

variable (keystream : List (BitVec 8) → Nat → BitVec 8) (prims : ConnectPrimitives) (server : PRUDPServer)
  {c c' : PRUDPClient} {outs : List Output} (k : Counter)

theorem CountsOut.peerStep {e : PeerEvent} (hk : k.survives e = true)
    (hs : NexGo.peerStep keystream prims server c e = some (c', outs)) : CountsOut k c outs c' := by
  cases e with
  | receive now packet => exact .processPacket keystream prims now server k hs hk
  | send packet => exact .send keystream k hs
  | ping => exact .sendPing keystream k hs

/-- A run whose events counter `k` lives through counts out from `k`. -/
theorem CountsOut.peerRun {events : List PeerEvent} (hk : ∀ e ∈ events, k.survives e = true)
    (h : NexGo.peerRun keystream prims server c events = some (c', outs)) : CountsOut k c outs c' :=
  peerRun_rel keystream prims server (R := CountsOut k) (P := fun e => k.survives e = true)
    (fun c => .refl c) (fun h₁ h₂ => h₁.trans h₂) (fun he hs => .peerStep keystream prims server k he hs) hk h

/-- Over any run whose events counter `k` lives through, the counter numbers the packets it gives
consecutively from where it stood, and ends after the last of them: none skipped, none given twice
below `2 ^ 16`, whatever arrives, is sent or times out in between. The peer's events do not overlap:
`peerRun` handles each to its end before the next starts, as Go does only when nothing else runs on
the peer meanwhile. -/
theorem peerRun_counts {events : List PeerEvent} (hk : ∀ e ∈ events, k.survives e = true)
    (h : peerRun keystream prims server c events = some (c', outs)) : CountsOut k c outs c' :=
  .peerRun keystream prims server k hk h

end Runs

/-- Two reliable sends on substream `0` with a PING from the client between them. -/
theorem peerRun_counts_two_sends :
    ∃ client outs, peerRun (fun _ _ => 0) plainPrimitives newPRUDPServer
        { newPRUDPClient "10.0.0.1:3000" with reliableSubstreams := [newReliableSubstream []] }
        [.send { newPRUDPPacketV1 with packetType := .data, flags := [.reliable, .needsAck], payload := [1] },
         .receive 0 { newPRUDPPacketV1 with packetType := .ping, flags := [.needsAck] },
         .send { newPRUDPPacketV1 with packetType := .data, flags := [.reliable, .needsAck], payload := [2] }] =
        some (client, outs) ∧
      (∀ e ∈ [PeerEvent.send { newPRUDPPacketV1 with packetType := .data, flags := [.reliable, .needsAck], payload := [1] },
          .receive 0 { newPRUDPPacketV1 with packetType := .ping, flags := [.needsAck] },
          .send { newPRUDPPacketV1 with packetType := .data, flags := [.reliable, .needsAck], payload := [2] }],
        (Counter.reliable 0).survives e = true) ∧
      CountsOut (.reliable 0) { newPRUDPClient "10.0.0.1:3000" with reliableSubstreams := [newReliableSubstream []] }
        outs client := by
  obtain ⟨client, outs, h⟩ : ∃ client outs, peerRun (fun _ _ => 0) plainPrimitives newPRUDPServer
      { newPRUDPClient "10.0.0.1:3000" with reliableSubstreams := [newReliableSubstream []] }
      [.send { newPRUDPPacketV1 with packetType := .data, flags := [.reliable, .needsAck], payload := [1] },
       .receive 0 { newPRUDPPacketV1 with packetType := .ping, flags := [.needsAck] },
       .send { newPRUDPPacketV1 with packetType := .data, flags := [.reliable, .needsAck], payload := [2] }] =
      some (client, outs) := ⟨_, _, rfl⟩
  have hk : ∀ e ∈ [PeerEvent.send { newPRUDPPacketV1 with packetType := .data, flags := [.reliable, .needsAck], payload := [1] },
      .receive 0 { newPRUDPPacketV1 with packetType := .ping, flags := [.needsAck] },
      .send { newPRUDPPacketV1 with packetType := .data, flags := [.reliable, .needsAck], payload := [2] }],
      (Counter.reliable 0).survives e = true := by decide
  exact ⟨client, outs, h, hk, peerRun_counts _ _ _ _ hk h⟩

end NexGo

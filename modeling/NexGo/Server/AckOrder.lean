import NexGo.Server.Session

/-!
# Acknowledgments before deliveries (`prudp_server.go`)

`handleReliable` (lines 433-456) calls `acknowledgePacket` before it hands the packet to its
substream, and every `reliable-data` event its loop emits carries that packet, with the message
set on it. No other event of a peer's run is a `reliable-data` one: `Send` and `sendPing` only
write packets, and the other handlers emit `syn`, `connect` and `disconnect`. So the ordering the
spec promises (§5) holds over any run from any peer: a `reliable-data` event for a packet that
asked for an acknowledgment comes after that packet's ACK went out (`peerRun_acks_first`).
-/

namespace NexGo
set_option autoImplicit false

/-- Every `reliable-data` event of `outs` for a packet that asked for an acknowledgment comes after
that packet's acknowledgment was sent. -/
def AcksFirst (outs : List Output) : Prop :=
  ∀ pre e post, outs = pre ++ .emitted "reliable-data" e :: post → e.hasFlag .needsAck →
    Output.sent (acknowledgmentOf e) ∈ pre

@[simp] theorem reliableData_append (l₁ l₂ : List Output) :
    reliableData (l₁ ++ l₂) = reliableData l₁ ++ reliableData l₂ := by
  simp [reliableData, List.filterMap_append]

namespace AcksFirst

variable {outs acks : List Output}

/-- Outputs without `reliable-data` events. -/
theorem of_reliableData_eq_nil (h : reliableData outs = []) : AcksFirst outs := by
  rintro pre e post rfl -
  simp [reliableData] at h

/-- Outputs without `reliable-data` events, then events whose acknowledgments they hold. -/
theorem append_of_acks (hacks : reliableData acks = [])
    (hout : ∀ e, Output.emitted "reliable-data" e ∈ outs → e.hasFlag .needsAck →
      Output.sent (acknowledgmentOf e) ∈ acks) :
    AcksFirst (acks ++ outs) := by
  intro pre e post h hn
  rcases List.append_eq_append_iff.1 h with ⟨a', rfl, hout'⟩ | ⟨c', hpre, hc'⟩
  · exact List.mem_append_left _ (hout e (by simp [hout']) hn)
  · cases c' with
    | nil =>
      rw [List.append_nil] at hpre
      rw [List.nil_append] at hc'
      exact hpre ▸ hout e (hc' ▸ List.mem_cons_self _ _) hn
    | cons y c'' =>
      rw [List.cons_append] at hc'
      obtain ⟨rfl, -⟩ := List.cons.inj hc'
      rw [hpre] at hacks
      simp [reliableData] at hacks

/-- Runs put one after another keep the order. -/
theorem append {o₁ o₂ : List Output} (h₁ : AcksFirst o₁) (h₂ : AcksFirst o₂) : AcksFirst (o₁ ++ o₂) := by
  intro pre e post h hn
  rcases List.append_eq_append_iff.1 h with ⟨a', rfl, ho₂⟩ | ⟨c', ho₁, hc'⟩
  · exact List.mem_append_right _ (h₂ a' e post ho₂ hn)
  · cases c' with
    | nil => exact absurd (h₂ [] e post (by simpa using hc'.symm) hn) (List.not_mem_nil _)
    | cons y c'' =>
      rw [List.cons_append] at hc'
      obtain ⟨rfl, -⟩ := List.cons.inj hc'
      exact h₁ pre e c'' ho₁ hn

end AcksFirst

section Steps

variable (keystream : List (BitVec 8) → Nat → BitVec 8) {c c' : PRUDPClient} {p : Packet} {outs : List Output}

/-- The loop's events carry the packet that arrived, with a message set on it. -/
theorem emitReliableData_emits {packet e : Packet} {messages : List (List (BitVec 8))}
    (he : Output.emitted "reliable-data" e ∈ emitReliableData packet messages) :
    ∃ m, e = { packet with rmcMessage := m } := by
  simp only [emitReliableData, List.mem_map] at he
  obtain ⟨_, -, he⟩ := he
  exact ⟨_, (Output.emitted.inj he).2.symm⟩

theorem reliableData_acknowledgePacket (h : acknowledgePacket keystream c p = some (c', outs)) :
    reliableData outs = [] := by
  rw [acknowledgePacket_eq] at h
  obtain ⟨-, rfl⟩ := Prod.mk.inj (Option.some.inj h)
  split_ifs <;> rfl

/-- The acknowledgment step of a handler sends no event, and sends the packet's ACK when the
packet asks for one. -/
theorem acknowledgeIfNeeded_acks
    (hs : (if p.hasFlag .needsAck then acknowledgePacket keystream c p else pure (c, [])) = some (c', outs)) :
    reliableData outs = [] ∧ (p.hasFlag .needsAck → Output.sent (acknowledgmentOf p) ∈ outs) := by
  split_ifs at hs with hn
  · rw [acknowledgePacket_eq] at hs
    obtain ⟨-, rfl⟩ := Prod.mk.inj (Option.some.inj hs)
    exact ⟨by split_ifs <;> rfl, fun _ => by split_ifs <;> simp⟩
  · obtain ⟨-, rfl⟩ := Prod.mk.inj (Option.some.inj hs)
    exact ⟨rfl, fun h => absurd h hn⟩

theorem AcksFirst.handleReliable (hs : NexGo.handleReliable keystream c p = some (c', outs)) : AcksFirst outs := by
  rw [handleReliable_eq_bind] at hs
  obtain ⟨⟨c₁, acks⟩, hacks, h₁⟩ := Option.bind_eq_some.1 hs
  obtain ⟨sub, -, hc⟩ := Option.bind_eq_some.1 h₁
  obtain ⟨-, rfl⟩ := Prod.mk.inj (Option.some.inj hc)
  obtain ⟨hnone, hack⟩ := acknowledgeIfNeeded_acks keystream hacks
  refine AcksFirst.append_of_acks hnone fun e he hn => ?_
  obtain ⟨m, rfl⟩ := emitReliableData_emits he
  exact hack hn

theorem reliableData_sendFragments : ∀ (frags : List (List (BitVec 8) × BitVec 8)) {c c' : PRUDPClient}
    {packet : Packet} {outs : List Output}, sendFragments keystream c packet frags = some (c', outs) →
      reliableData outs = []
  | [], _, _, _, _, hs => by
    obtain ⟨-, rfl⟩ := Prod.mk.inj (Option.some.inj hs)
    rfl
  | (payload, fragmentID) :: rest, c, c', packet, outs, hs => by
    simp only [sendFragments, Option.bind_eq_bind, Option.bind_eq_some, Option.pure_def,
      Option.some.injEq] at hs
    obtain ⟨⟨c₁, p₁⟩, -, ⟨c₂, outs₂⟩, h₂, hc⟩ := hs
    obtain ⟨-, rfl⟩ := Prod.mk.inj hc
    simpa [reliableData] using reliableData_sendFragments rest h₂

end Steps

section Runs

variable (keystream : List (BitVec 8) → Nat → BitVec 8) (prims : ConnectPrimitives) (server : PRUDPServer)
  {c c' : PRUDPClient} {outs : List Output}

theorem AcksFirst.processPacket {now : Nat} {p : Packet}
    (hs : NexGo.processPacket keystream prims now server c p = some (c', outs)) : AcksFirst outs := by
  unfold NexGo.processPacket at hs
  split_ifs at hs
  · obtain ⟨c₁, -, hc⟩ := Option.map_eq_some'.1 hs
    obtain ⟨-, rfl⟩ := Prod.mk.inj hc
    exact .of_reliableData_eq_nil rfl
  · split at hs
    · obtain ⟨-, rfl⟩ := Prod.mk.inj (Option.some.inj hs)
      exact .of_reliableData_eq_nil (by simp [handleSyn, reliableData])
    · obtain ⟨-, rfl⟩ := Prod.mk.inj (Option.some.inj hs)
      exact .of_reliableData_eq_nil (by simp [handleConnect, reliableData])
    · unfold handleData at hs
      split_ifs at hs
      · exact .handleReliable keystream hs
      · obtain ⟨-, rfl⟩ := Prod.mk.inj (Option.some.inj hs)
        exact .of_reliableData_eq_nil rfl
    · unfold handleDisconnect at hs
      dsimp only at hs
      split_ifs at hs
      · obtain ⟨⟨c₁, acks⟩, hacks, hc⟩ := Option.bind_eq_some.1 hs
        obtain ⟨-, rfl⟩ := Prod.mk.inj (Option.some.inj hc)
        exact .of_reliableData_eq_nil (by rw [reliableData_append, reliableData_acknowledgePacket keystream hacks]; rfl)
      · obtain ⟨-, rfl⟩ := Prod.mk.inj (Option.some.inj hs)
        exact .of_reliableData_eq_nil rfl
    · unfold handlePing at hs
      exact .of_reliableData_eq_nil (acknowledgeIfNeeded_acks keystream hs).1

theorem AcksFirst.peerStep {e : PeerEvent} (hs : NexGo.peerStep keystream prims server c e = some (c', outs)) :
    AcksFirst outs := by
  cases e with
  | receive now packet => exact .processPacket keystream prims server hs
  | send packet =>
    unfold NexGo.peerStep NexGo.send at hs
    split_ifs at hs
    exact .of_reliableData_eq_nil (reliableData_sendFragments keystream _ hs)
  | ping =>
    simp only [NexGo.peerStep, sendPing, Option.bind_eq_bind, Option.bind_eq_some, Option.pure_def,
      Option.some.injEq] at hs
    obtain ⟨_, -, hc⟩ := hs
    obtain ⟨-, rfl⟩ := Prod.mk.inj hc
    exact .of_reliableData_eq_nil rfl

/-- Over any run of a peer, from any state, each `reliable-data` event for a packet that asked for
an acknowledgment comes after that packet's ACK was sent. The peer's events do not overlap:
`peerRun` handles each to its end before the next starts, as Go does only when nothing else runs on
the peer meanwhile. -/
theorem peerRun_acks_first {events : List PeerEvent}
    (h : peerRun keystream prims server c events = some (c', outs)) : AcksFirst outs :=
  peerRun_rel keystream prims server (R := fun _ o _ => AcksFirst o) (P := fun _ => True)
    (fun _ => .of_reliableData_eq_nil rfl) (fun h₁ h₂ => h₁.append h₂)
    (fun _ hs => .peerStep keystream prims server hs) (fun _ _ => trivial) h

end Runs

/-- A handshake, then a reliable DATA packet that asks for an acknowledgment. -/
theorem peerRun_acks_first_handshake_data :
    ∃ client outs, peerRun (fun _ _ => 0) plainPrimitives newPRUDPServer (newPRUDPClient "10.0.0.1:3000")
        [.receive 0 { newPRUDPPacketV1 with packetType := .syn },
         .receive 0 { newPRUDPPacketV1 with packetType := .connect },
         .receive 0 { newPRUDPPacketV1 with
           packetType := .data, flags := [.reliable, .needsAck], sequenceID := 1, payload := [7] }] =
        some (client, outs) ∧ AcksFirst outs := by
  obtain ⟨client, outs, h⟩ : ∃ client outs, peerRun (fun _ _ => 0) plainPrimitives newPRUDPServer
      (newPRUDPClient "10.0.0.1:3000")
        [.receive 0 { newPRUDPPacketV1 with packetType := .syn },
         .receive 0 { newPRUDPPacketV1 with packetType := .connect },
         .receive 0 { newPRUDPPacketV1 with
           packetType := .data, flags := [.reliable, .needsAck], sequenceID := 1, payload := [7] }] =
        some (client, outs) := ⟨_, _, rfl⟩
  exact ⟨client, outs, h, peerRun_acks_first _ _ _ h⟩

end NexGo

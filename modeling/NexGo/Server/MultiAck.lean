import NexGo.Stream.StreamIn
import NexGo.Server.Peer

/-!
# Aggregate acknowledgments: `handleMultiAcknowledgment` (`prudp_server.go`)

The handler (lines 169-213) reads the ids to acknowledge from the payload, ignoring every read
error (`id, _ := stream.ReadUInt16LE()` is `0` and leaves the stream where it was). The new
format (substream id `1`) reads a substream id, a count, a base id and `count` ids; the old
format takes the packet's sequence id as the base and reads ids `for stream.Remaining() > 0`.
Then `Each` adds every pending id `≤` the base, compared as `uint16`, and each collected id is
acknowledged.

The old loop moves two bytes an iteration or, with one byte left, not at all and forever:
`readAdditionalIDs` runs it on fuel, and `len(payload) + 1` iterations are as many as it can
use before either stopping or spinning (`readAdditionalIDs_of_unread`, `readAdditionalIDs_of_odd`).
-/

namespace NexGo
set_option autoImplicit false

namespace StreamIn

/-- `value, _ := read()`: the value, or Go's zero value on an error; the stream where the
reader left it. -/
def valueOrZero {α : Type} (read : EStateM String StreamIn α) (zero : α) (s : StreamIn) :
    α × StreamIn :=
  match read s with
  | .ok a s => (a, s)
  | .error _ s => (zero, s)

end StreamIn

open StreamIn

/-- The old format's loop, `for stream.Remaining() > 0`, for at most `fuel` iterations; `none`
when bytes are still left after them. -/
def readAdditionalIDs : Nat → StreamIn → List (BitVec 16) → Option (List (BitVec 16))
  | 0, s, ids => if s.remaining > 0 then none else some ids
  | fuel + 1, s, ids =>
    if s.remaining > 0 then
      let (id, s) := valueOrZero readUInt16LE 0 s
      readAdditionalIDs fuel s (ids ++ [id])
    else some ids

/-- The new format's loop, `for i := 0; i < int(additionalIDsCount); i++`. -/
def readCountedIDs : Nat → StreamIn → List (BitVec 16) → StreamIn × List (BitVec 16)
  | 0, s, ids => (s, ids)
  | count + 1, s, ids =>
    let (id, s) := valueOrZero readUInt16LE 0 s
    readCountedIDs count s (ids ++ [id])

/-- The `Each` callback over the pending ids: every id `≤ base` not yet collected is added. -/
def collectAcknowledged (base : BitVec 16) (pending ids : List (BitVec 16)) : List (BitVec 16) :=
  pending.foldl (fun ids id => if id ≤ base ∧ id ∉ ids then ids ++ [id] else ids) ids

/-- The ids a multi-ACK payload names, its base id, and the substream it is for. `none` when the
old format's loop does not stop. -/
def readMultiAck (packet : Packet) : Option (BitVec 8 × BitVec 16 × List (BitVec 16)) :=
  let stream := newStreamIn packet.payload
  if packet.substreamID = 1 then
    let (substreamID, stream) := valueOrZero readUInt8 0 stream
    let (additionalIDsCount, stream) := valueOrZero readUInt8 0 stream
    let (baseSequenceID, stream) := valueOrZero readUInt16LE 0 stream
    some (substreamID, baseSequenceID, (readCountedIDs additionalIDsCount.toNat stream []).2)
  else
    (readAdditionalIDs (packet.payload.length + 1) stream []).map fun ids => (0, packet.sequenceID, ids)

/-- `handleMultiAcknowledgment`; `none` when it does not return: the old format's loop spins, or
Go would index a substream the peer does not have. -/
def handleMultiAcknowledgment (client : PRUDPClient) (packet : Packet) : Option PRUDPClient := do
  let (substreamID, baseSequenceID, ids) ← readMultiAck packet
  let sub ← client.reliableSubstream substreamID
  let sequenceIDs := collectAcknowledged baseSequenceID sub.resendScheduler.ids ids
  pure (client.setReliableSubstream substreamID
    { sub with resendScheduler := sequenceIDs.foldl ResendScheduler.acknowledgePacket sub.resendScheduler })

/-! ## Reading the ids -/

variable {s : StreamIn}

theorem valueOrZero_of_le {w : Nat} {msg : String} (h : w ≤ s.remaining) :
    valueOrZero (readPrimitive w msg (wordLE w)) 0 s =
      (wordLE w (s.unread.take w), { s with offset := s.offset + w }) := by
  simp [valueOrZero, readPrimitive_of_le h]

theorem valueOrZero_of_unread {bs rest : List (BitVec 8)} {w : Nat} {msg : String}
    (h : s.unread = bs ++ rest) (hw : bs.length = w) :
    valueOrZero (readPrimitive w msg (wordLE w)) 0 s = (wordLE w bs, { s with offset := s.offset + w }) := by
  simp [valueOrZero, readPrimitive_of_unread h hw]

/-- A read error leaves the stream where it was. -/
theorem valueOrZero_of_lt {w : Nat} {msg : String} (h : s.remaining < w) :
    valueOrZero (readPrimitive w msg (wordLE w)) 0 s = (0, s) := by
  simp [valueOrZero, readPrimitive_of_lt h]

/-- The encoding of a list of `uint16`s, each little-endian. -/
def encodeIDs (ids : List (BitVec 16)) : List (BitVec 8) := ids.flatMap fun id => encodeLE 2 id.toNat

@[simp] theorem encodeIDs_nil : encodeIDs [] = [] := rfl

@[simp] theorem encodeIDs_cons (id : BitVec 16) (ids : List (BitVec 16)) :
    encodeIDs (id :: ids) = encodeLE 2 id.toNat ++ encodeIDs ids := rfl

@[simp] theorem length_encodeIDs (ids : List (BitVec 16)) : (encodeIDs ids).length = 2 * ids.length := by
  induction ids with
  | nil => rfl
  | cons id ids ih => rw [encodeIDs_cons, List.length_append, length_encodeLE, ih, List.length_cons]; omega

theorem readUInt16LE_encode (id : BitVec 16) {rest : List (BitVec 8)} (h : s.unread = encodeLE 2 id.toNat ++ rest) :
    valueOrZero readUInt16LE 0 s = (id, { s with offset := s.offset + 2 }) := by
  rw [readUInt16LE, valueOrZero_of_unread h (length_encodeLE 2 _)]
  exact congrArg (·, _) (ofNat_decodeLE_encodeLE 2 id)

theorem readUInt8_cons {b : BitVec 8} {rest : List (BitVec 8)} (h : s.unread = b :: rest) :
    valueOrZero readUInt8 0 s = (b, { s with offset := s.offset + 1 }) := by
  rw [readUInt8, valueOrZero_of_unread (show s.unread = [b] ++ rest from h)
    (show [b].length = 1 from rfl), wordLE_byte]

theorem unread_advance_of_unread {bs rest : List (BitVec 8)} {n : Nat} (h : s.unread = bs ++ rest)
    (hn : bs.length = n) : ({ s with offset := s.offset + n } : StreamIn).unread = rest := by
  rw [unread_advance, h, List.drop_left' hn]

/-- On a stream whose unread bytes are `ids` encoded, the old loop reads exactly `ids` and
stops with nothing left, given one iteration per id and one more. -/
theorem readAdditionalIDs_of_unread (ids acc : List (BitVec 16)) (fuel : Nat)
    (h : s.unread = encodeIDs ids) (hfuel : ids.length ≤ fuel) :
    readAdditionalIDs fuel s acc = some (acc ++ ids) := by
  induction ids generalizing s acc fuel with
  | nil =>
    have h0 : ¬ s.remaining > 0 := by simp [remaining, h]
    cases fuel <;> simp [readAdditionalIDs, h0]
  | cons id ids ih =>
    obtain ⟨fuel, rfl⟩ : ∃ f, fuel = f + 1 := ⟨fuel - 1, by simp at hfuel; omega⟩
    have hpos : s.remaining > 0 := by simp [remaining, h]
    have hread := readUInt16LE_encode id (by rw [h, encodeIDs_cons])
    have hnext : ({ s with offset := s.offset + 2 } : StreamIn).unread = encodeIDs ids := by
      rw [unread_advance, h, encodeIDs_cons, List.drop_left' (length_encodeLE 2 _)]
    rw [readAdditionalIDs, if_pos hpos, hread]
    simpa using ih (acc ++ [id]) fuel hnext (by simp at hfuel; omega)

/-- With one byte left the loop's read fails, nothing moves, and the loop never stops. -/
theorem readAdditionalIDs_of_remaining_one (h : s.remaining = 1) (acc : List (BitVec 16)) (fuel : Nat) :
    readAdditionalIDs fuel s acc = none := by
  induction fuel generalizing acc with
  | zero => simp [readAdditionalIDs, h]
  | succ fuel ih =>
    rw [readAdditionalIDs, if_pos (by omega), readUInt16LE, valueOrZero_of_lt (by omega)]
    exact ih _

/-- An odd number of unread bytes: the old loop never stops, however long it runs. -/
theorem readAdditionalIDs_of_odd (acc : List (BitVec 16)) (fuel : Nat) (h : s.remaining % 2 = 1) :
    readAdditionalIDs fuel s acc = none := by
  induction fuel generalizing s acc with
  | zero => simp [readAdditionalIDs]; omega
  | succ fuel ih =>
    by_cases h1 : s.remaining = 1
    · exact readAdditionalIDs_of_remaining_one h1 acc _
    · have hlen : 2 ≤ s.remaining := by omega
      have hnext : ({ s with offset := s.offset + 2 } : StreamIn).remaining = s.remaining - 2 := by
        simp [remaining, unread_advance]
      rw [readAdditionalIDs, if_pos (by omega), readUInt16LE, valueOrZero_of_le hlen]
      exact ih _ (by omega)

theorem readCountedIDs_of_unread (ids acc : List (BitVec 16)) (h : s.unread = encodeIDs ids) :
    (readCountedIDs ids.length s acc).2 = acc ++ ids := by
  induction ids generalizing s acc with
  | nil => simp [readCountedIDs]
  | cons id ids ih =>
    have hnext : ({ s with offset := s.offset + 2 } : StreamIn).unread = encodeIDs ids := by
      rw [unread_advance, h, encodeIDs_cons, List.drop_left' (length_encodeLE 2 _)]
    rw [List.length_cons, readCountedIDs, readUInt16LE_encode id (by rw [h, encodeIDs_cons])]
    simpa using ih (acc ++ [id]) hnext

/-- A new-format payload: the substream id, the count, the base id, then the ids. -/
def newFormatPayload (substreamID : BitVec 8) (base : BitVec 16) (ids : List (BitVec 16)) :
    List (BitVec 8) :=
  [substreamID, BitVec.ofNat 8 ids.length] ++ encodeLE 2 base.toNat ++ encodeIDs ids

/-- A well-formed new-format multi-ACK names its substream, its base and its ids. -/
theorem readMultiAck_new {packet : Packet} {substreamID : BitVec 8} {base : BitVec 16}
    {ids : List (BitVec 16)} (h1 : packet.substreamID = 1)
    (hp : packet.payload = newFormatPayload substreamID base ids) (hlen : ids.length < 256) :
    readMultiAck packet = some (substreamID, base, ids) := by
  have hcount : (BitVec.ofNat 8 ids.length).toNat = ids.length := by simp; omega
  have h0 : (newStreamIn packet.payload).unread =
      [substreamID] ++ ([BitVec.ofNat 8 ids.length] ++ (encodeLE 2 base.toNat ++ encodeIDs ids)) := by
    rw [unread_newStreamIn, hp]; rfl
  have h1' := unread_advance_of_unread h0 (show [substreamID].length = 1 from rfl)
  have h2' := unread_advance_of_unread h1' (show [BitVec.ofNat 8 ids.length].length = 1 from rfl)
  have h3' := unread_advance_of_unread h2' (length_encodeLE 2 base.toNat)
  rw [readMultiAck, if_pos h1]
  simp only [readUInt8_cons h0, readUInt8_cons h1', readUInt16LE_encode base h2', hcount,
    readCountedIDs_of_unread ids [] h3', List.nil_append]

/-- A well-formed old-format multi-ACK: substream 0, the packet's sequence id, the ids. -/
theorem readMultiAck_old {packet : Packet} {ids : List (BitVec 16)} (h1 : packet.substreamID ≠ 1)
    (hp : packet.payload = encodeIDs ids) :
    readMultiAck packet = some (0, packet.sequenceID, ids) := by
  rw [readMultiAck, if_neg h1, readAdditionalIDs_of_unread ids [] _ (by rw [unread_newStreamIn, hp])
    (by rw [hp, length_encodeIDs]; omega)]
  rfl

/-! ## What is acknowledged -/

theorem foldl_acknowledgePacket (r : ResendScheduler) (ids : List (BitVec 16)) :
    ids.foldl ResendScheduler.acknowledgePacket r = ⟨r.packets.filter (·.sequenceID ∉ ids)⟩ := by
  induction ids generalizing r with
  | nil => simp
  | cons id ids ih =>
    rw [List.foldl_cons, ih, ResendScheduler.acknowledgePacket, List.filter_filter]
    congr 2
    funext p
    simp [Bool.and_comm]

theorem mem_collectAcknowledged {base x : BitVec 16} {pending ids : List (BitVec 16)} :
    x ∈ collectAcknowledged base pending ids ↔ x ∈ ids ∨ (x ∈ pending ∧ x ≤ base) := by
  induction pending generalizing ids with
  | nil => simp [collectAcknowledged]
  | cons y pending ih =>
    rw [collectAcknowledged, List.foldl_cons, ← collectAcknowledged, ih]
    by_cases hxy : x = y
    · subst hxy
      split_ifs with hy
      · simp [hy.1]
      · simp only [not_and, not_not] at hy
        simp only [List.mem_cons, true_or, true_and]
        exact ⟨fun h => h.imp_right And.right, fun h => h.elim .inl fun hb => .inl (hy hb)⟩
    · split_ifs <;> simp [hxy]

/-- Whatever the payload names, the handler keeps exactly the pending packets that are
neither named nor numbered `≤ base` as `uint16`s. -/
theorem handleMultiAcknowledgment_eq {client : PRUDPClient} {packet : Packet} {substreamID : BitVec 8}
    {base : BitVec 16} {ids : List (BitVec 16)} {sub : ReliableSubstream}
    (hread : readMultiAck packet = some (substreamID, base, ids))
    (hsub : client.reliableSubstream substreamID = some sub) :
    handleMultiAcknowledgment client packet = some (client.setReliableSubstream substreamID
      { sub with resendScheduler := ⟨sub.resendScheduler.packets.filter
          fun p => p.sequenceID ∉ ids ∧ ¬ p.sequenceID ≤ base⟩ }) := by
  simp only [handleMultiAcknowledgment, hread, hsub, Option.bind_eq_bind, Option.some_bind, Option.pure_def]
  rw [foldl_acknowledgePacket]
  congr 4
  refine List.filter_congr fun p hp => ?_
  have hpending : p.sequenceID ∈ sub.resendScheduler.ids := List.mem_map_of_mem _ hp
  simp [mem_collectAcknowledged, hpending]

/-! ## The handler -/

/-- A peer at `127.0.0.1:3000` with one substream. -/
def peerWith (sub : ReliableSubstream) : PRUDPClient :=
  { newPRUDPClient "127.0.0.1:3000" with reliableSubstreams := [sub] }

/-- A pending reliable DATA packet with the given sequence id. -/
def pendingPacket (sequenceID : BitVec 16) : Packet :=
  { newPRUDPPacketV1 with packetType := .data, flags := [.reliable, .needsAck], sequenceID := sequenceID }

/-- A multi-ACK packet of the given substream id, sequence id and payload. -/
def multiAckPacket (substreamID : BitVec 8) (sequenceID : BitVec 16) (payload : List (BitVec 8)) : Packet :=
  { newPRUDPPacketV1 with
    flags := [.multiAck]
    substreamID := substreamID
    sequenceID := sequenceID
    payload := payload }

/-- An old-format multi-ACK with an odd number of payload bytes: the loop spins on the last
byte however long it runs, so the handler never returns. -/
theorem handleMultiAcknowledgment_odd_payload (client : PRUDPClient) (packet : Packet)
    (h1 : packet.substreamID ≠ 1) (hodd : packet.payload.length % 2 = 1) :
    (∀ fuel, readAdditionalIDs fuel (newStreamIn packet.payload) [] = none) ∧
      handleMultiAcknowledgment client packet = none := by
  have hloop : ∀ fuel, readAdditionalIDs fuel (newStreamIn packet.payload) [] = none :=
    fun fuel => readAdditionalIDs_of_odd [] fuel (by simpa [remaining] using hodd)
  have hread : readMultiAck packet = none := by rw [readMultiAck, if_neg h1, hloop]; rfl
  exact ⟨hloop, by simp [handleMultiAcknowledgment, hread]⟩

theorem handleMultiAcknowledgment_one_byte :
    (multiAckPacket 0 0 [0]).substreamID ≠ 1 ∧ (multiAckPacket 0 0 [0]).payload.length % 2 = 1 ∧
      ((∀ fuel, readAdditionalIDs fuel (newStreamIn [0]) [] = none) ∧
        handleMultiAcknowledgment (peerWith (newReliableSubstream [])) (multiAckPacket 0 0 [0]) = none) :=
  ⟨by decide, by decide,
    handleMultiAcknowledgment_odd_payload (peerWith (newReliableSubstream [])) (multiAckPacket 0 0 [0])
      (by decide) (by decide)⟩

/-- A well-formed multi-ACK, in either format, leaves in its substream's resend scheduler
exactly the packets whose id it does not list and that are not `≤` its base as `uint16`s. -/
theorem handleMultiAcknowledgment_acknowledges {client : PRUDPClient} {packet : Packet}
    {substreamID : BitVec 8} {base : BitVec 16} {ids : List (BitVec 16)} {sub : ReliableSubstream}
    (hfmt : (packet.substreamID = 1 ∧ packet.payload = newFormatPayload substreamID base ids ∧
        ids.length < 256) ∨
      (packet.substreamID ≠ 1 ∧ packet.payload = encodeIDs ids ∧ substreamID = 0 ∧
        base = packet.sequenceID))
    (hsub : client.reliableSubstream substreamID = some sub) :
    handleMultiAcknowledgment client packet = some (client.setReliableSubstream substreamID
      { sub with resendScheduler := ⟨sub.resendScheduler.packets.filter
          fun p => p.sequenceID ∉ ids ∧ ¬ p.sequenceID ≤ base⟩ }) := by
  refine handleMultiAcknowledgment_eq ?_ hsub
  rcases hfmt with ⟨h1, hp, hlen⟩ | ⟨h1, hp, rfl, rfl⟩
  · exact readMultiAck_new h1 hp hlen
  · exact readMultiAck_old h1 hp

theorem handleMultiAcknowledgment_acknowledges_base_ten :
    let sub : ReliableSubstream :=
      { newReliableSubstream [] with resendScheduler := ⟨[7, 9, 12].map pendingPacket⟩ }
    (((multiAckPacket 1 0 (newFormatPayload 0 10 [7])).substreamID = 1 ∧
        (multiAckPacket 1 0 (newFormatPayload 0 10 [7])).payload = newFormatPayload 0 10 [7] ∧
        [(7 : BitVec 16)].length < 256) ∨
      ((multiAckPacket 1 0 (newFormatPayload 0 10 [7])).substreamID ≠ 1 ∧
        (multiAckPacket 1 0 (newFormatPayload 0 10 [7])).payload = encodeIDs [7] ∧
        (0 : BitVec 8) = 0 ∧ (10 : BitVec 16) = (multiAckPacket 1 0 (newFormatPayload 0 10 [7])).sequenceID)) ∧
    (peerWith sub).reliableSubstream 0 = some sub ∧
    handleMultiAcknowledgment (peerWith sub) (multiAckPacket 1 0 (newFormatPayload 0 10 [7])) =
      some ((peerWith sub).setReliableSubstream 0 { sub with resendScheduler :=
        ⟨sub.resendScheduler.packets.filter fun p => p.sequenceID ∉ [7] ∧ ¬ p.sequenceID ≤ 10⟩ }) :=
  ⟨.inl ⟨rfl, rfl, by decide⟩, rfl, handleMultiAcknowledgment_acknowledges (.inl ⟨rfl, rfl, by decide⟩) rfl⟩

/-- Packets `65535` and then `0` pending, after the outgoing counter wrapped; an old-format
multi-ACK with base `65535` and no further ids removes both, though `0` was sent after it. -/
theorem handleMultiAcknowledgment_wrapped_window :
    (handleMultiAcknowledgment
        (peerWith { newReliableSubstream [] with
          outgoingSequenceID := 1
          resendScheduler := ⟨[65535, 0].map pendingPacket⟩ })
        (multiAckPacket 0 65535 [])).map
      (fun c => (c.reliableSubstream 0).map (·.resendScheduler.ids)) = some (some []) := by
  decide

end NexGo
import NexGo.Server.Send

/-!
# Reliable DATA: `handleReliable` and fragment reassembly (`prudp_server.go`)

`handleReliable` (lines 433-456) acknowledges the packet when it asks for it, hands it to the
substream's `Update`, and loops over the packets `Update` releases: each is decrypted and
appended to the fragment accumulator, and when the fragment id is `0` the accumulator becomes an
RMC message, is set on the packet and emitted as a `reliable-data` event, and is cleared. The
loop reads the type and the fragment id of `packet`, the packet that arrived, for every released
packet; `reliableLoop` keeps that. It also sets every message on that one packet, which `emit`
hands to the handlers' goroutines: where one arrival completes two messages, the handlers share
the packet that holds the second (`emitReliableData`).

`reassemble` is the rule the spec states for the released packets (§4.2): each packet's own
fragment id decides. Below it, what `Send` cuts a payload into is fed to that rule: one message
below `256` full fragments (`reassemble_fragments_of_lt`), a message cut at the `256`-th from
there on (`reassemble_fragments_of_le`).
-/

namespace NexGo
set_option autoImplicit false

/-- The reassembly rule for fragments in order: append each payload to the accumulator; at
fragment id `0` surface the accumulator as one message and clear it. -/
def reassemble : List (List (BitVec 8) × BitVec 8) → List (BitVec 8) →
    List (List (BitVec 8)) × List (BitVec 8)
  | [], acc => ([], acc)
  | (payload, fragmentID) :: rest, acc =>
    if fragmentID = 0 then
      let (messages, acc') := reassemble rest []
      ((acc ++ payload) :: messages, acc')
    else reassemble rest (acc ++ payload)

section Handle

variable (keystream : List (BitVec 8) → Nat → BitVec 8)

/-- The loop of `handleReliable` over the packets `Update` released: each is decrypted and appended
to the accumulator, and where the fragment id is `0` the accumulator becomes an RMC message and is
cleared. The type and fragment id tested are those of `packet`, the one that arrived, for every
released packet. Returns the substream and the messages, in the order the loop made them. -/
def reliableLoop (packet : Packet) : List Packet → ReliableSubstream → ReliableSubstream × List (List (BitVec 8))
  | [], sub => (sub, [])
  | pending :: rest, sub =>
    if packet.packetType = .data then
      let (plain, sub) := sub.decryptPayload keystream pending
      let (payload, sub) := sub.addFragment plain
      if packet.fragmentID = 0 then
        let (sub, messages) := reliableLoop packet rest sub.resetFragmentedPayload
        (sub, payload :: messages)
      else reliableLoop packet rest sub
    else reliableLoop packet rest sub

/-- `handleReliable` after the acknowledgment, on the packet's substream: `Update`, then the
loop. -/
def receiveReliable (sub : ReliableSubstream) (packet : Packet) : ReliableSubstream × List (List (BitVec 8)) :=
  let (ready, sub) := sub.update packet
  reliableLoop keystream packet ready sub

/-- `packet.SetRMCMessage(message)` and `emit("reliable-data", packet)`, once for each message the
loop made. `emit` starts every handler in a goroutine of its own with `packet` itself, and the loop
goes on to set its next message on that same packet, so a handler reads whichever message the
packet holds when it gets to it. The model gives the handlers the packet as the call leaves it,
holding the last message: what they read when they run after the loop, as `emit`'s goroutines
usually do. A handler that runs before the next `SetRMCMessage` reads an earlier message; where
the loop makes at most one, every handler reads it, whenever it runs. -/
def emitReliableData (packet : Packet) (messages : List (List (BitVec 8))) : List Output :=
  messages.map fun _ => .emitted "reliable-data" { packet with rmcMessage := messages.getLast? }

/-- `handleReliable`; `none` where Go would index a substream the peer does not have. -/
def handleReliable (client : PRUDPClient) (packet : Packet) : Option (PRUDPClient × List Output) := do
  let (client, acks) ←
    if packet.hasFlag .needsAck then acknowledgePacket keystream client packet else pure (client, [])
  let sub ← client.reliableSubstream packet.substreamID
  let (sub, messages) := receiveReliable keystream sub packet
  pure (client.setReliableSubstream packet.substreamID sub, acks ++ emitReliableData packet messages)

/-- Packets handled one after another, in the order they arrive. -/
def handleReliableAll : PRUDPClient → List Packet → Option (PRUDPClient × List Output)
  | client, [] => some (client, [])
  | client, packet :: rest => do
    let (client, outs) ← handleReliable keystream client packet
    let (client, outs') ← handleReliableAll client rest
    pure (client, outs ++ outs')

/-- The loop's events send nothing. -/
theorem sent_not_mem_emitReliableData (q packet : Packet) (messages : List (List (BitVec 8))) :
    Output.sent q ∉ emitReliableData packet messages := by
  simp [emitReliableData]

/-- What `handleReliable` sends is the packet's acknowledgment. -/
theorem sent_handleReliable {client client' : PRUDPClient} {packet q : Packet} {outs : List Output}
    (h : handleReliable keystream client packet = some (client', outs)) (hq : Output.sent q ∈ outs) :
    q = acknowledgmentOf packet := by
  unfold handleReliable at h
  by_cases hn : packet.hasFlag .needsAck <;>
    simp only [hn, if_true, if_false, Bool.false_eq_true, acknowledgePacket_eq, Option.bind_eq_bind,
      Option.pure_def, Option.some_bind, Option.bind_eq_some, Option.some.injEq] at h <;>
    obtain ⟨sub, -, h⟩ := h <;>
    obtain ⟨-, rfl⟩ := Prod.mk.inj h <;>
    simp only [List.mem_append, sent_not_mem_emitReliableData, or_false] at hq
  · split_ifs at hq <;> simpa using hq
  · simp at hq

end Handle

/-! ## `Send` against the reassembly rule -/

theorem reassemble_of_nonzero (fs : List (List (BitVec 8) × BitVec 8)) (rest) (acc : List (BitVec 8))
    (h : ∀ f ∈ fs, f.2 ≠ 0) :
    reassemble (fs ++ rest) acc = reassemble rest (acc ++ (fs.map Prod.fst).flatten) := by
  induction fs generalizing acc with
  | nil => simp
  | cons f fs ih =>
    obtain ⟨payload, fragmentID⟩ := f
    rw [List.cons_append, reassemble, if_neg (h _ (List.mem_cons_self _ _)),
      ih _ (fun f hf => h f (List.mem_cons_of_mem _ hf))]
    simp

/-- The full fragments of `Send` put together are the bytes they cover. -/
theorem flatten_chunks (F k : Nat) (data : List (BitVec 8)) :
    ((List.range k).map (fun i => (data.drop (i * F)).take F)).flatten = data.take (k * F) := by
  induction k with
  | zero => simp
  | succ k ih =>
    rw [List.range_succ, List.map_append, List.flatten_append, ih, Nat.succ_mul, List.take_add]
    simp

/-- The full fragments of `Send` below the 256th carry the ids `1` to `255`, none of them `0`. -/
theorem fragmentIDs_ne_zero (F : Nat) (data : List (BitVec 8)) {k : Nat} (hk : k < 256) :
    ∀ f ∈ (List.range k).map (fun i => ((data.drop (i * F)).take F, BitVec.ofNat 8 (1 + i))), f.2 ≠ 0 := by
  simp only [List.mem_map, List.mem_range]
  rintro _ ⟨i, hi, rfl⟩ h0
  have := congrArg BitVec.toNat h0
  simp at this
  omega

/-- Below `256` full fragments, `Send`'s packets carry nonzero fragment ids up to the last,
which carries `0`; their payloads make up the data, and the reassembly rule surfaces exactly
one message, the data, and ends with an empty accumulator. -/
theorem reassemble_fragments_of_lt {F : Nat} (hF : 0 < F) (data : List (BitVec 8))
    (h : data.length < 256 * F) :
    (∀ f ∈ (fragments F data).dropLast, f.2 ≠ 0) ∧
      ((fragments F data).getLast?).map Prod.snd = some 0 ∧
      ((fragments F data).map Prod.fst).flatten = data ∧
      reassemble (fragments F data) [] = ([data], []) := by
  have hids := fragmentIDs_ne_zero F data (Nat.div_lt_of_lt_mul (by rwa [Nat.mul_comm]))
  rw [fragments_eq hF]
  refine ⟨by simpa using hids, by simp, ?_, ?_⟩
  · simp [Function.comp_def, flatten_chunks]
  · rw [reassemble_of_nonzero _ _ _ hids]
    simp [reassemble, Function.comp_def, flatten_chunks]

/-- From `256` full fragments on, the `256`-th carries the id `0` of the wrapped `uint8` counter,
and the reassembly rule surfaces the first `256 * F` bytes as a message of their own. -/
theorem reassemble_fragments_of_le {F : Nat} (hF : 0 < F) (data : List (BitVec 8))
    (h : 256 * F ≤ data.length) :
    ((fragments F data)[255]?).map Prod.snd = some 0 ∧
      (reassemble (fragments F data) []).1.head? = some (data.take (256 * F)) := by
  have hk : 256 ≤ data.length / F := (Nat.le_div_iff_mul_le hF).2 h
  -- the first `255` fragments, the `256`-th with id `0`, then the rest
  obtain ⟨rest, hrest⟩ : ∃ rest, fragments F data =
      (List.range 255).map (fun i => ((data.drop (i * F)).take F, BitVec.ofNat 8 (1 + i))) ++
        ((data.drop (255 * F)).take F, 0) :: rest := by
    rw [fragments_eq hF, ← List.take_append_drop 256 (List.map _ (List.range (data.length / F))),
      ← List.map_take, List.take_range, Nat.min_eq_left hk, List.range_succ, List.map_append]
    exact ⟨_, by simp; rfl⟩
  rw [hrest]
  refine ⟨by rw [List.getElem?_append_right (by simp)]; simp, ?_⟩
  rw [reassemble_of_nonzero _ _ _ (fragmentIDs_ne_zero F data (show 255 < 256 by decide)), reassemble, if_pos rfl]
  simp only [List.nil_append, List.map_map, Function.comp_def, flatten_chunks, List.head?_cons]
  rw [← List.take_add, show 255 * F + F = 256 * F by omega]

/-- The reassembly rule on one more fragment: at id `0` it surfaces the accumulator with the
fragment's payload, otherwise it appends the payload. -/
theorem reassemble_append (fs : List (List (BitVec 8) × BitVec 8)) (payload : List (BitVec 8))
    (fragmentID : BitVec 8) (acc : List (BitVec 8)) :
    reassemble (fs ++ [(payload, fragmentID)]) acc =
      if fragmentID = 0 then ((reassemble fs acc).1 ++ [(reassemble fs acc).2 ++ payload], [])
      else ((reassemble fs acc).1, (reassemble fs acc).2 ++ payload) := by
  induction fs generalizing acc with
  | nil => by_cases h : fragmentID = 0 <;> simp [reassemble, h]
  | cons f fs ih =>
    obtain ⟨p, i⟩ := f
    by_cases hi : i = 0
    · rw [List.cons_append, reassemble, if_pos hi, reassemble, if_pos hi, ih]
      split_ifs <;> rfl
    · rw [List.cons_append, reassemble, if_neg hi, reassemble, if_neg hi, ih]

/-- The reassembly rule over two runs of fragments, the first ending on a message: the messages of
the first, then those of the second, as if it started afresh. -/
theorem reassemble_append_of_closed (gs : List (List (BitVec 8) × BitVec 8)) :
    ∀ {fs : List (List (BitVec 8) × BitVec 8)} {acc : List (BitVec 8)}, (reassemble fs acc).2 = [] →
      reassemble (fs ++ gs) acc = ((reassemble fs acc).1 ++ (reassemble gs []).1, (reassemble gs []).2)
  | [], _, rfl => rfl
  | (payload, fragmentID) :: fs, acc, h => by
    by_cases hi : fragmentID = 0
    · rw [reassemble, if_pos hi] at h
      rw [List.cons_append, reassemble, if_pos hi, reassemble_append_of_closed gs h, reassemble, if_pos hi]
      rfl
    · rw [reassemble, if_neg hi] at h
      rw [List.cons_append, reassemble, if_neg hi, reassemble_append_of_closed gs h, reassemble, if_neg hi]

theorem reassemble_last_two (x y acc : List (BitVec 8)) :
    reassemble [(x, 0), (y, 0)] acc = ([acc ++ x, y], []) := rfl

/-- With fragments of one byte, the 256th fragment of a 256-byte payload gets the id `0` of the
wrapped `uint8` counter: the rule surfaces the payload, then an empty message. -/
theorem fragments_256_reassemble_twice :
    reassemble (fragments 1 (List.replicate 256 0)) [] = ([List.replicate 256 0, []], []) := by
  have hids := fragmentIDs_ne_zero 1 (List.replicate 256 0) (show 255 < 256 by decide)
  have hc : ((List.range 255).map
      (fun i => (((List.replicate 256 (0 : BitVec 8)).drop (i * 1)).take 1, BitVec.ofNat 8 (1 + i)))).map
        Prod.fst = (List.range 255).map (fun i => ((List.replicate 256 (0 : BitVec 8)).drop (i * 1)).take 1) := by
    rw [List.map_map]; rfl
  rw [fragments_eq Nat.one_pos, List.length_replicate, Nat.div_one, List.range_succ, List.map_append,
    List.append_assoc, reassemble_of_nonzero _ _ _ hids, hc, flatten_chunks, List.map_cons, List.map_nil,
    List.singleton_append, show BitVec.ofNat 8 (1 + 255) = 0 from rfl, reassemble_last_two,
    List.nil_append, List.take_replicate, List.drop_replicate, List.take_replicate, List.drop_replicate,
    show 255 * 1 ⊓ 256 = 255 from rfl, show 1 ⊓ (256 - 255 * 1) = 1 from rfl,
    show 256 - 256 * 1 = 0 from rfl, ← List.replicate_add]
  rfl

/-! ## Out-of-order arrival -/

/-- A reliable DATA fragment of substream 0 that asks for an acknowledgment. -/
def dataFragment (sequenceID : BitVec 16) (fragmentID : BitVec 8) (payload : List (BitVec 8)) : Packet :=
  { newPRUDPPacketV1 with
    packetType := .data
    flags := [.reliable, .needsAck]
    sequenceID := sequenceID
    fragmentID := fragmentID
    payload := payload }

/-- A message sent as fragment `1` (sequence id 1) and fragment `0` (sequence id 2), arriving in
the other order: the second arrival releases both, but its fragment id is `1`, so no
`reliable-data` event fires and both bytes stay in the accumulator, whatever the keystream. -/
theorem handleReliable_reversed_fragments (keystream : List (BitVec 8) → Nat → BitVec 8) :
    (handleReliableAll keystream
        { newPRUDPClient "127.0.0.1:3000" with reliableSubstreams := [newReliableSubstream []] }
        [dataFragment 2 0 [0x42], dataFragment 1 1 [0x41]]).map
      (fun r => (reliableData r.2, (r.1.reliableSubstream 0).map (·.fragmentedPayload.length))) =
      some ([], some 2) :=
  rfl

/-- Two messages of one fragment each, sequence ids 1 and 2, arriving in the other order: the
second arrival releases both, its fragment id is `0`, and the loop sets both messages on it in
turn. Both `reliable-data` handlers get that packet, which holds the second message. -/
example :
    (handleReliableAll (fun _ _ => 0)
        { newPRUDPClient "127.0.0.1:3000" with reliableSubstreams := [newReliableSubstream []] }
        [dataFragment 2 0 [0x42], dataFragment 1 0 [0x41]]).map
      (fun r => (reliableData r.2).map (·.rmcMessage)) = some [some [0x42], some [0x42]] :=
  rfl

end NexGo

import NexGo.Server.Reliable

/-!
# Concurrent sends on one substream: sequence order against keystream order (`prudp_server.go`)

`sendPacket` (lines 504-536) takes a reliable packet's sequence id from the substream
(`NextOutgoingSequenceID`), encrypts its payload with the substream's outgoing RC4 (`Encrypt`),
and writes it. Event handlers run in goroutines of their own (`emit`, lines 51-57) and may call
`Send` at the same time on the same substream. A `Sender` is one such call at the point it has
reached, `Sending.step` one atomic action (the allocation, the encryption, the write), and a
schedule any list of sender numbers; `assignSequenceID_reliable` and `encryptPayload_reliable`
show the first two are what `sendPacket` does to the substream.

The receiving side releases packets in sequence-id order and decrypts each with its incoming
RC4 state as it goes (`decryptInOrder`), so it recovers the payloads only if they were encrypted
in that order. If one sender allocates, another allocates and encrypts, and then the first
encrypts, the orders differ. When each allocation is followed by its encryption before any
other allocation (`Paired`), they agree. Along any schedule, what reaches the socket is what was
encrypted (`Written`): each written packet carries the id and ciphertext of one encryption, and
each encryption is written by the time its sender returns.
-/

namespace NexGo
set_option autoImplicit false

section Steps

variable (keystream : List (BitVec 8) → Nat → BitVec 8) {client : PRUDPClient} {packet : Packet}
  {sub : ReliableSubstream}

/-- For a reliable packet that is no acknowledgment, `sendPacket`'s first step is the
substream's `NextOutgoingSequenceID`. -/
theorem assignSequenceID_reliable (hack : packet.hasFlag .ack = false)
    (hmulti : packet.hasFlag .multiAck = false) (hrel : packet.hasFlag .reliable = true)
    (hsub : client.reliableSubstream packet.substreamID = some sub) :
    assignSequenceID client packet =
      some (client.setReliableSubstream packet.substreamID sub.nextOutgoingSequenceID.2,
        { packet with sequenceID := sub.nextOutgoingSequenceID.1 }) := by
  simp [assignSequenceID, hack, hmulti, hrel, hsub]

/-- For a reliable DATA packet that is no acknowledgment, `sendPacket`'s second step is the
substream's `Encrypt`. -/
theorem encryptPayload_reliable (hack : packet.hasFlag .ack = false)
    (hmulti : packet.hasFlag .multiAck = false) (hrel : packet.hasFlag .reliable = true)
    (hdata : packet.packetType = .data) (hsub : client.reliableSubstream packet.substreamID = some sub) :
    encryptPayload keystream client packet =
      some (client.setReliableSubstream packet.substreamID (sub.encrypt keystream packet.payload).2,
        { packet with payload := (sub.encrypt keystream packet.payload).1 }) := by
  simp [encryptPayload, hack, hmulti, hrel, hdata, hsub]

end Steps

/-- How far one `sendPacket` of a reliable DATA packet has got. -/
inductive SendPhase
  | allocate
  | encrypt
  | write
  | done
  deriving DecidableEq, Repr

/-- One `sendPacket` call: the sequence id it was given, and its payload, plaintext until
`Encrypt` and ciphertext after. -/
structure Sender where
  sequenceID : BitVec 16
  payload : List (BitVec 8)
  phase : SendPhase

/-- An `Encrypt` as it ran: the packet's sequence id, where in the keystream it started, and
the payload before and after. -/
structure Encryption where
  sequenceID : BitVec 16
  position : Nat
  plain : List (BitVec 8)
  cipher : List (BitVec 8)

/-- The substream the senders share, the senders, and what they did, in order. -/
structure Sending where
  substream : ReliableSubstream
  senders : Nat → Option Sender
  encryptions : List Encryption
  /-- What was written to the socket: sequence id and payload. -/
  wire : List (BitVec 16 × List (BitVec 8))

namespace Sending

variable (keystream : List (BitVec 8) → Nat → BitVec 8)

/-- Sender `i` is now `snd`. -/
def setSender (s : Sending) (i : Nat) (snd : Sender) : Sending :=
  { s with senders := fun j => if j = i then some snd else s.senders j }

/-- One atomic action of sender `i`. -/
def step (s : Sending) (i : Nat) : Sending :=
  match s.senders i with
  | none => s
  | some snd =>
    match snd.phase with
    | .allocate =>
      { s with substream := s.substream.nextOutgoingSequenceID.2 }.setSender i
        { snd with sequenceID := s.substream.nextOutgoingSequenceID.1, phase := .encrypt }
    | .encrypt =>
      let encryption : Encryption :=
        ⟨snd.sequenceID, s.substream.cipherOut.position, snd.payload,
          (s.substream.encrypt keystream snd.payload).1⟩
      { s with
        substream := (s.substream.encrypt keystream snd.payload).2
        encryptions := s.encryptions ++ [encryption] }.setSender i
        { snd with payload := encryption.cipher, phase := .write }
    | .write =>
      { s with wire := s.wire ++ [(snd.sequenceID, snd.payload)] }.setSender i { snd with phase := .done }
    | .done => s

/-- The senders' actions in the order of `schedule`. -/
def run (s : Sending) (schedule : List Nat) : Sending := schedule.foldl (step keystream) s

/-- One sender per payload, none started, on substream `sub`. -/
def start (sub : ReliableSubstream) (payloads : List (List (BitVec 8))) : Sending where
  substream := sub
  senders := fun i => (payloads[i]?).map fun payload => ⟨0, payload, .allocate⟩
  encryptions := []
  wire := []

/-- Each allocation is followed by its encryption before any other allocation: sender `i`
allocates only while no other sender holds a sequence id it has not yet encrypted with. -/
def Paired (s : Sending) (i : Nat) : Prop :=
  ∀ snd, s.senders i = some snd → snd.phase = .allocate →
    ∀ j snd', j ≠ i → s.senders j = some snd' → snd'.phase ≠ .encrypt

/-- A schedule each of whose allocations is paired with its encryption. -/
def Admissible : Sending → List Nat → Prop
  | _, [] => True
  | s, i :: schedule => Paired s i ∧ Admissible (s.step keystream i) schedule

end Sending

/-- The receiving side: the payloads in sequence-id order, each decrypted with the incoming RC4
state, which moves past it (`decryptPayload`). -/
def decryptInOrder (keystream : List (BitVec 8) → Nat → BitVec 8) (c : Cipher) :
    List (List (BitVec 8)) → List (List (BitVec 8))
  | [] => []
  | data :: rest => (c.crypt keystream data).1 :: decryptInOrder keystream (c.crypt keystream data).2 rest

/-! ## Paired allocations keep the two orders together -/

section Order

variable (keystream : List (BitVec 8) → Nat → BitVec 8)

/-- The keystream bytes a list of encryptions used. -/
def keystreamUsed : List Encryption → Nat
  | [] => 0
  | x :: l => x.plain.length + keystreamUsed l

theorem keystreamUsed_append (l : List Encryption) (x : Encryption) :
    keystreamUsed (l ++ [x]) = keystreamUsed l + x.plain.length := by
  induction l with
  | nil => simp [keystreamUsed]
  | cons y l ih =>
    show y.plain.length + keystreamUsed (l ++ [x]) = y.plain.length + keystreamUsed l + x.plain.length
    rw [ih, Nat.add_assoc]

/-- Each encryption started where the one before it stopped, from `c` on, with `c`'s key. -/
def Sequential : Cipher → List Encryption → Prop
  | _, [] => True
  | c, x :: rest => x.position = c.position ∧
      x.cipher = xorKeystream keystream c.key c.position x.plain ∧
      Sequential ⟨c.key, c.position + x.plain.length⟩ rest

theorem sequential_append (c : Cipher) (l : List Encryption) (x : Encryption) :
    Sequential keystream c (l ++ [x]) ↔ Sequential keystream c l ∧
      x.position = c.position + keystreamUsed l ∧
      x.cipher = xorKeystream keystream c.key x.position x.plain := by
  induction l generalizing c with
  | nil => simp [Sequential, keystreamUsed, and_congr_right_iff]; intro h; rw [h]
  | cons y l ih =>
    rw [List.cons_append]
    show (_ ∧ _ ∧ Sequential keystream _ (l ++ [x])) ↔ (_ ∧ _ ∧ _) ∧ _
    rw [ih]
    simp only [keystreamUsed, Nat.add_assoc, and_assoc]

end Order

namespace Sending

variable {keystream : List (BitVec 8) → Nat → BitVec 8} {s : Sending} {i j : Nat} {snd snd' : Sender}

@[simp] theorem substream_setSender : (s.setSender i snd).substream = s.substream := rfl
@[simp] theorem encryptions_setSender : (s.setSender i snd).encryptions = s.encryptions := rfl
@[simp] theorem wire_setSender : (s.setSender i snd).wire = s.wire := rfl

theorem senders_setSender_eq_some :
    (s.setSender i snd).senders j = some snd' ↔ j = i ∧ snd' = snd ∨ j ≠ i ∧ s.senders j = some snd' := by
  by_cases h : j = i
  · subst h; simp [setSender, eq_comm]
  · simp [setSender, h]

/-- The four things one action can do. -/
inductive Action (keystream : List (BitVec 8) → Nat → BitVec 8) (s : Sending) (i : Nat) : Sending → Prop
  | idle : Action keystream s i s
  | allocate (snd : Sender) (hs : s.senders i = some snd) (hp : snd.phase = .allocate) :
      Action keystream s i ({ s with substream := s.substream.nextOutgoingSequenceID.2 }.setSender i
        { snd with sequenceID := s.substream.nextOutgoingSequenceID.1, phase := .encrypt })
  | encrypt (snd : Sender) (hs : s.senders i = some snd) (hp : snd.phase = .encrypt) :
      Action keystream s i ({ s with
        substream := (s.substream.encrypt keystream snd.payload).2
        encryptions := s.encryptions ++ [(⟨snd.sequenceID, s.substream.cipherOut.position, snd.payload,
          (s.substream.encrypt keystream snd.payload).1⟩ : Encryption)] }.setSender i
        { snd with payload := (s.substream.encrypt keystream snd.payload).1, phase := .write })
  | write (snd : Sender) (hs : s.senders i = some snd) (hp : snd.phase = .write) :
      Action keystream s i ({ s with wire := s.wire ++ [(snd.sequenceID, snd.payload)] }.setSender i
        { snd with phase := .done })

theorem action_step (keystream : List (BitVec 8) → Nat → BitVec 8) (s : Sending) (i : Nat) :
    Action keystream s i (s.step keystream i) := by
  unfold step
  split
  · exact .idle
  rename_i snd hs
  split
  · rename_i hp; exact .allocate snd hs hp
  · rename_i hp; exact .encrypt snd hs hp
  · rename_i hp; exact .write snd hs hp
  · exact .idle

/-- At most one sender holds a sequence id it has not yet encrypted with. -/
def OneEncrypting (senders : Nat → Option Sender) : Prop :=
  ∀ i j snd snd', i ≠ j → senders i = some snd → senders j = some snd' →
    snd.phase = .encrypt → snd'.phase ≠ .encrypt

/-- Sender `i` moves on: still at most one encrypting, if it is not, or no other is. -/
theorem oneEncrypting_setSender (h : OneEncrypting s.senders) (t : Sending) (ht : t.senders = s.senders)
    (hi : snd.phase = .encrypt → ∀ j snd', j ≠ i → s.senders j = some snd' → snd'.phase ≠ .encrypt) :
    OneEncrypting (t.setSender i snd).senders := by
  intro j₁ j₂ snd₁ snd₂ hne h₁ h₂ hp₁
  rw [senders_setSender_eq_some, ht] at h₁ h₂
  rcases h₁ with ⟨rfl, rfl⟩ | ⟨hj₁, h₁⟩ <;> rcases h₂ with ⟨rfl, rfl⟩ | ⟨hj₂, h₂⟩
  · exact absurd rfl hne
  · exact hi hp₁ j₂ snd₂ hj₂ h₂
  · exact fun hp₂ => hi hp₂ j₁ snd₁ hj₁ h₁ hp₁
  · exact h j₁ j₂ snd₁ snd₂ hne h₁ h₂ hp₁

/-- What holds along every schedule whose allocations are paired with their encryptions, from
substream `sub` on: the encryptions ran on consecutive sequence ids from `sub`'s counter, each
where the one before stopped in the keystream. -/
structure Inv (keystream : List (BitVec 8) → Nat → BitVec 8) (sub : ReliableSubstream) (s : Sending) :
    Prop where
  sequential : Sequential keystream sub.cipherOut s.encryptions
  cipherOut : s.substream.cipherOut = ⟨sub.cipherOut.key, sub.cipherOut.position + keystreamUsed s.encryptions⟩
  ids : s.encryptions.map (·.sequenceID) =
    (List.range s.encryptions.length).map fun k => sub.outgoingSequenceID + BitVec.ofNat 16 k
  one_encrypting : OneEncrypting s.senders
  /-- The counter is past the logged encryptions, and past one more if a sender holds an id it
  has not yet encrypted with, the next one. -/
  counter : ((∀ i snd, s.senders i = some snd → snd.phase ≠ .encrypt) ∧
      s.substream.outgoingSequenceID = sub.outgoingSequenceID + BitVec.ofNat 16 s.encryptions.length) ∨
    ∃ i snd, s.senders i = some snd ∧ snd.phase = .encrypt ∧
      snd.sequenceID = sub.outgoingSequenceID + BitVec.ofNat 16 s.encryptions.length ∧
      s.substream.outgoingSequenceID = sub.outgoingSequenceID + BitVec.ofNat 16 (s.encryptions.length + 1)

theorem Inv.start (sub : ReliableSubstream) (payloads : List (List (BitVec 8))) :
    (Sending.start sub payloads).Inv keystream sub := by
  have hphase : ∀ i snd, (Sending.start sub payloads).senders i = some snd → snd.phase = .allocate := by
    intro i snd hs
    simp only [Sending.start, Option.map_eq_some'] at hs
    obtain ⟨_, -, rfl⟩ := hs
    rfl
  refine ⟨trivial, rfl, rfl, fun _ _ snd _ _ hs _ hp => ?_, .inl ⟨fun _ snd hs hp => ?_, by simp [Sending.start]⟩⟩
  all_goals rw [hphase _ snd hs] at hp; cases hp

theorem ofNat_succ (n : BitVec 16) (k : Nat) :
    n + BitVec.ofNat 16 (k + 1) = n + BitVec.ofNat 16 k + 1 := by
  rw [BitVec.add_assoc, ← BitVec.ofNat_add_ofNat]; rfl

variable {sub : ReliableSubstream}

/-- An allocation while no other sender holds an unused id: the sender gets the next id. -/
theorem Inv.allocate (hinv : s.Inv keystream sub) (hx : s.Paired i) (hs : s.senders i = some snd)
    (hp : snd.phase = .allocate) :
    ({ s with substream := s.substream.nextOutgoingSequenceID.2 }.setSender i
      { snd with sequenceID := s.substream.nextOutgoingSequenceID.1, phase := .encrypt }).Inv keystream sub := by
  have hnone : ∀ j snd', s.senders j = some snd' → snd'.phase ≠ .encrypt := by
    intro j snd' hs' hp'
    by_cases hj : j = i
    · subst hj; rw [hs] at hs'; cases hs'; rw [hp] at hp'; cases hp'
    · exact hx snd hs hp j snd' hj hs' hp'
  have hcount : s.substream.outgoingSequenceID = sub.outgoingSequenceID + BitVec.ofNat 16 s.encryptions.length := by
    rcases hinv.counter with ⟨-, h⟩ | ⟨j, snd', hs', hp', -⟩
    · exact h
    · exact absurd hp' (hnone j snd' hs')
  exact ⟨hinv.sequential, hinv.cipherOut, hinv.ids,
    oneEncrypting_setSender hinv.one_encrypting _ rfl fun _ j snd' _ => hnone j snd',
    .inr ⟨i, { snd with sequenceID := s.substream.nextOutgoingSequenceID.1, phase := .encrypt },
      by simp [senders_setSender_eq_some], rfl, hcount,
      by simp [ReliableSubstream.nextOutgoingSequenceID, hcount, ofNat_succ]⟩⟩

/-- An encryption: the sender holds the next id, and encrypts where the last encryption stopped. -/
theorem Inv.encrypt (hinv : s.Inv keystream sub) (hs : s.senders i = some snd) (hp : snd.phase = .encrypt) :
    ({ s with
        substream := (s.substream.encrypt keystream snd.payload).2
        encryptions := s.encryptions ++ [(⟨snd.sequenceID, s.substream.cipherOut.position, snd.payload,
          (s.substream.encrypt keystream snd.payload).1⟩ : Encryption)] }.setSender i
      { snd with payload := (s.substream.encrypt keystream snd.payload).1, phase := .write }).Inv keystream sub := by
  have hother : ∀ j snd', j ≠ i → s.senders j = some snd' → snd'.phase ≠ .encrypt :=
    fun j snd' hj hs' => hinv.one_encrypting i j snd snd' (Ne.symm hj) hs hs' hp
  obtain ⟨hid, hcount⟩ : snd.sequenceID = sub.outgoingSequenceID + BitVec.ofNat 16 s.encryptions.length ∧
      s.substream.outgoingSequenceID = sub.outgoingSequenceID + BitVec.ofNat 16 (s.encryptions.length + 1) := by
    rcases hinv.counter with ⟨h, -⟩ | ⟨j, snd', hs', hp', hid, hcount⟩
    · exact absurd hp (h i snd hs)
    · obtain rfl : j = i := by_contra fun hj => hother j snd' hj hs' hp'
      rw [hs] at hs'; cases hs'
      exact ⟨hid, hcount⟩
  have hc := hinv.cipherOut
  refine ⟨?_, ?_, ?_, oneEncrypting_setSender hinv.one_encrypting _ rfl (fun h => by cases h), .inl ⟨?_, ?_⟩⟩
  · rw [encryptions_setSender, sequential_append]
    exact ⟨hinv.sequential, by simp [hc], by simp [ReliableSubstream.encrypt, Cipher.crypt, hc]⟩
  · simp [ReliableSubstream.encrypt, Cipher.crypt, hc, keystreamUsed_append, Nat.add_assoc]
  · simp [hinv.ids, List.range_succ, hid]
  · intro j snd' h'
    rw [senders_setSender_eq_some] at h'
    rcases h' with ⟨-, rfl⟩ | ⟨hj, h'⟩
    · simp
    · exact hother j snd' hj h'
  · simpa [ReliableSubstream.encrypt] using hcount

/-- A write: only the socket and the sender's phase change. -/
theorem Inv.write (hinv : s.Inv keystream sub) (hs : s.senders i = some snd) (hp : snd.phase = .write) :
    ({ s with wire := s.wire ++ [(snd.sequenceID, snd.payload)] }.setSender i
      { snd with phase := .done }).Inv keystream sub := by
  refine ⟨hinv.sequential, hinv.cipherOut, hinv.ids,
    oneEncrypting_setSender hinv.one_encrypting _ rfl (fun h => by cases h), ?_⟩
  rcases hinv.counter with ⟨h, hcount⟩ | ⟨j, snd', hs', hp', hid, hcount⟩
  · refine .inl ⟨fun j snd' h' => ?_, hcount⟩
    rcases senders_setSender_eq_some.1 h' with ⟨-, rfl⟩ | ⟨-, h'⟩
    · simp
    · exact h j snd' h'
  · have hj : j ≠ i := by rintro rfl; rw [hs] at hs'; cases hs'; rw [hp] at hp'; cases hp'
    exact .inr ⟨j, snd', senders_setSender_eq_some.2 (.inr ⟨hj, hs'⟩), hp', hid, hcount⟩

theorem Inv.of_action (hinv : s.Inv keystream sub) (hx : s.Paired i) {s' : Sending}
    (h : Action keystream s i s') : s'.Inv keystream sub := by
  cases h with
  | idle => exact hinv
  | allocate snd hs hp => exact hinv.allocate hx hs hp
  | encrypt snd hs hp => exact hinv.encrypt hs hp
  | write snd hs hp => exact hinv.write hs hp

theorem Inv.run : ∀ {s : Sending} {schedule : List Nat}, s.Inv keystream sub →
    s.Admissible keystream schedule → (s.run keystream schedule).Inv keystream sub
  | _, [], hinv, _ => hinv
  | s, i :: _, hinv, ⟨hx, h⟩ => (hinv.of_action hx (action_step keystream s i)).run h

/-! ## What reaches the socket -/

/-- The id and ciphertext of each encryption, as a written packet carries them. -/
def logged (s : Sending) : List (BitVec 16 × List (BitVec 8)) := s.encryptions.map fun x => (x.sequenceID, x.cipher)

/-- What went to the socket along any schedule: each packet written carries the id and ciphertext
of an encryption, and each encryption is written or held by the sender about to write it. -/
structure Written (s : Sending) : Prop where
  wire : ∀ w ∈ s.wire, w ∈ s.logged
  writing : ∀ i snd, s.senders i = some snd → snd.phase = .write → (snd.sequenceID, snd.payload) ∈ s.logged
  written : ∀ w ∈ s.logged, w ∈ s.wire ∨
    ∃ i snd, s.senders i = some snd ∧ snd.phase = .write ∧ (snd.sequenceID, snd.payload) = w

theorem Written.start (sub : ReliableSubstream) (payloads : List (List (BitVec 8))) :
    (Sending.start sub payloads).Written := by
  refine ⟨by simp [Sending.start], fun i snd hs hp => ?_, by simp [Sending.start, logged]⟩
  simp only [Sending.start, Option.map_eq_some'] at hs
  obtain ⟨_, -, rfl⟩ := hs
  cases hp

/-- Sender `i`, not about to write, moves on: the senders about to write are as they were. -/
theorem senders_setSender_of_write (hs : s.senders i = some snd) (hp : snd.phase ≠ .write) {t : Sending}
    (ht : t.senders = s.senders) (snd'' : Sender) {j : Nat} (h' : s.senders j = some snd')
    (hp' : snd'.phase = .write) : (t.setSender i snd'').senders j = some snd' :=
  senders_setSender_eq_some.2 (.inr ⟨by rintro rfl; rw [hs] at h'; cases h'; exact hp hp', ht ▸ h'⟩)

theorem Written.of_action (h : s.Written) {s' : Sending} (ha : Action keystream s i s') : s'.Written := by
  cases ha with
  | idle => exact h
  | allocate snd hs hp =>
    refine ⟨h.wire, fun j snd' h' hp' => ?_, fun w hw => ?_⟩
    · rcases senders_setSender_eq_some.1 h' with ⟨-, rfl⟩ | ⟨-, h'⟩
      · cases hp'
      · exact h.writing j snd' h' hp'
    · rcases h.written w hw with hw | ⟨j, snd', h', hp', rfl⟩
      · exact .inl hw
      · exact .inr ⟨j, snd', senders_setSender_of_write hs (by simp [hp]) rfl _ h' hp', hp', rfl⟩
  | encrypt snd hs hp =>
    -- the new encryption is logged, and its sender is now the one about to write it
    have hlog : ∀ w, s.logged ⊆ (({ s with
        substream := (s.substream.encrypt keystream snd.payload).2
        encryptions := s.encryptions ++ [(⟨snd.sequenceID, s.substream.cipherOut.position, snd.payload,
          (s.substream.encrypt keystream snd.payload).1⟩ : Encryption)] } : Sending).setSender i w).logged :=
      fun _ _ hw => by simp only [logged, encryptions_setSender, List.map_append]; exact List.mem_append_left _ hw
    refine ⟨fun w hw => hlog _ (h.wire w hw), fun j snd' h' hp' => ?_, fun w hw => ?_⟩
    · rcases senders_setSender_eq_some.1 h' with ⟨-, rfl⟩ | ⟨-, h'⟩
      · simp [logged]
      · exact hlog _ (h.writing j snd' h' hp')
    · simp only [logged, encryptions_setSender, List.map_append, List.mem_append, List.map_cons, List.map_nil,
        List.mem_singleton] at hw
      rcases hw with hw | rfl
      · rcases h.written w hw with hw | ⟨j, snd', h', hp', rfl⟩
        · exact .inl hw
        · exact .inr ⟨j, snd', senders_setSender_of_write hs (by simp [hp]) rfl _ h' hp', hp', rfl⟩
      · exact .inr ⟨i, _, senders_setSender_eq_some.2 (.inl ⟨rfl, rfl⟩), rfl, rfl⟩
  | write snd hs hp =>
    refine ⟨fun w hw => ?_, fun j snd' h' hp' => ?_, fun w hw => ?_⟩
    · simp only [wire_setSender, List.mem_append, List.mem_singleton] at hw
      rcases hw with hw | rfl
      · exact h.wire w hw
      · exact h.writing i snd hs hp
    · rcases senders_setSender_eq_some.1 h' with ⟨-, rfl⟩ | ⟨-, h'⟩
      · cases hp'
      · exact h.writing j snd' h' hp'
    · simp only [wire_setSender, List.mem_append, List.mem_singleton]
      rcases h.written w hw with hw | ⟨j, snd', h', hp', rfl⟩
      · exact .inl (.inl hw)
      · by_cases hj : j = i
        · subst hj; rw [hs] at h'; cases h'; exact .inl (.inr rfl)
        · exact .inr ⟨j, snd', senders_setSender_eq_some.2 (.inr ⟨hj, h'⟩), hp', rfl⟩

theorem Written.run : ∀ {s : Sending} (schedule : List Nat), s.Written → (s.run keystream schedule).Written
  | _, [], h => h
  | s, i :: schedule, h => (h.of_action (action_step keystream s i)).run schedule

end Sending

end NexGo

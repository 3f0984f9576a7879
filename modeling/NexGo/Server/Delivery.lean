import Mathlib.Algebra.BigOperators.Group.List
import Mathlib.Data.List.Nodup
import NexGo.Server.SendOrder

/-!
# Reliable delivery end to end: `Send` on one peer, `handleReliable` on the other

`Send` (lines 481-502) hands each fragment to `sendPacket` (lines 504-536), which numbers a
reliable packet from its substream's counter and encrypts a reliable DATA payload with the
substream's outgoing RC4 (`sendFragments_reliable`). On the receiving side `handleReliable`
(lines 433-456) buffers each arrival with the substream's `Update` and decrypts what it
releases with the incoming RC4, appending it to the fragment accumulator (`reliableLoop_eq`).

`Update` is modelled from the spec (§4.2); `release_eq` says what it hands out: the longest
buffered run from the expected id. `Receiving` is what the receiving substream holds after any
arrivals of the sender's packets, in any order and with any repetition; one arrival keeps it
(`Receiving.receive`). Where the messages fall, and what the `reliable-data` handlers read, is
another matter: the loop tests the fragment id of the packet that arrived, not of the one it
released, and sets every message it makes on that one packet, which all the handlers share.

Both are right when the packets arrive in order, each only once every packet sent before it has
(`InOrder`; repeats allowed): each arrival then releases itself or nothing, so the loop makes at
most one message per arrival, from the right fragment id. `ReceivingInOrder` keeps, arrival by
arrival, that the messages the handlers read and the accumulator are those of the spec's
reassembly rule on the run of the sender's packets that has arrived. The last theorem joins the
two sides: the handlers of a peer receiving what `Send` sent read the payload as one message once
every packet has arrived, below `256` full fragments (`send_delivered_in_order`). The packets `Send`
writes carry the fragment ids and, decrypted, the payloads of `fragments`, which the reassembly rule
puts back together below `256` full fragments and cuts at the `256`-th from there on
(`fragments_reassemble`).
-/
namespace NexGo
set_option autoImplicit false

/-- The packets carry the consecutive sequence ids from `c` on, as a `uint16` counter hands them
out. -/
def Numbered : BitVec 16 → List Packet → Prop
  | _, [] => True
  | c, p :: rest => p.sequenceID = c ∧ Numbered (c + 1) rest

section Numbered

variable {c : BitVec 16} {l l₁ l₂ : List Packet}

theorem add_one_add_ofNat (c : BitVec 16) (k : Nat) : c + 1 + BitVec.ofNat 16 k = c + BitVec.ofNat 16 (k + 1) := by
  apply BitVec.eq_of_toNat_eq; simp [BitVec.toNat_add]; omega

/-- Below `2 ^ 16` the counter does not come back to an id it gave. -/
theorem add_ofNat_ne {k m : Nat} (hk : k < m) (hm : m < 2 ^ 16) :
    c + BitVec.ofNat 16 k ≠ c + BitVec.ofNat 16 m := by
  intro h
  have := congrArg BitVec.toNat h
  simp [BitVec.toNat_add, Nat.mod_eq_of_lt (hk.trans hm), Nat.mod_eq_of_lt hm] at this
  omega

theorem numbered_append : Numbered c (l₁ ++ l₂) ↔ Numbered c l₁ ∧ Numbered (c + BitVec.ofNat 16 l₁.length) l₂ := by
  induction l₁ generalizing c with
  | nil => simp [Numbered]
  | cons p l₁ ih =>
    rw [List.cons_append, Numbered, Numbered, ih, List.length_cons, and_assoc, add_one_add_ofNat]

theorem sequenceID_of_mem_numbered (h : Numbered c l) {q : Packet} (hq : q ∈ l) :
    ∃ k < l.length, q.sequenceID = c + BitVec.ofNat 16 k := by
  induction l generalizing c with
  | nil => simp at hq
  | cons p l ih =>
    rcases List.mem_cons.1 hq with rfl | hq
    · exact ⟨0, by simp, by simp [h.1]⟩
    · obtain ⟨k, hk, hid⟩ := ih h.2 hq
      exact ⟨k + 1, by simp [hk], by rw [hid, add_one_add_ofNat]⟩

/-- Below `2 ^ 16` packets the ids do not wrap: each is used once. -/
theorem nodup_of_numbered (h : Numbered c l) (hl : l.length ≤ 2 ^ 16) : (l.map (·.sequenceID)).Nodup := by
  induction l generalizing c with
  | nil => simp
  | cons p l ih =>
    refine List.nodup_cons.2 ⟨?_, ih h.2 (by simp at hl; omega)⟩
    simp only [List.mem_map, not_exists, not_and]
    intro q hq hid
    obtain ⟨k, hk, hq'⟩ := sequenceID_of_mem_numbered h.2 hq
    rw [hid, h.1, add_one_add_ofNat] at hq'
    exact add_ofNat_ne (c := c) (Nat.zero_lt_succ k) (by simp at hl; omega) (by simpa using hq')

end Numbered

/-- A takeWhile that looks only at the list's own members. -/
theorem takeWhile_congr {α : Type} {p q : α → Bool} : ∀ {l : List α}, (∀ x ∈ l, p x = q x) →
    l.takeWhile p = l.takeWhile q
  | [], _ => rfl
  | x :: l, h => by
    simp only [List.takeWhile_cons, h x (List.mem_cons_self _ _),
      takeWhile_congr fun y hy => h y (List.mem_cons_of_mem _ hy)]

/-- The receiving substream's buffer against `rest`, the sender's packets from the expected id on:
each id buffered once, a buffered packet under the id of one of `rest` is that packet, and nothing
is buffered under the id after the last. -/
structure Buffered (next : BitVec 16) (rest buffered : List Packet) : Prop where
  numbered : Numbered next rest
  rest_nodup : (rest.map (·.sequenceID)).Nodup
  nodup : (buffered.map (·.sequenceID)).Nodup
  eq_of_id : ∀ q ∈ buffered, ∀ r ∈ rest, q.sequenceID = r.sequenceID → q = r
  ne_last : ∀ q ∈ buffered, q.sequenceID ≠ next + BitVec.ofNat 16 rest.length

/-- `release` hands out, in order, the longest run of `rest` from its first packet that is
buffered, moves the expected id past it and keeps the rest of the buffer. -/
theorem release_eq : ∀ {rest : List Packet} {next : BitVec 16} {buffered : List Packet} {fuel : Nat},
    Buffered next rest buffered → buffered.length ≤ fuel →
    ReliableSubstream.release fuel next buffered =
      (rest.takeWhile (· ∈ buffered), next + BitVec.ofNat 16 (rest.takeWhile (· ∈ buffered)).length,
        buffered.filter (· ∉ rest.takeWhile (· ∈ buffered)))
  | [], next, buffered, fuel, h, _ => by
    have hnone : buffered.find? (·.sequenceID = next) = none :=
      List.find?_eq_none.2 fun q hq => by simpa using h.ne_last q hq
    cases fuel <;> simp [ReliableSubstream.release, hnone]
  | r :: rest, next, buffered, fuel, h, hfuel => by
    have hr : r.sequenceID = next := h.numbered.1
    by_cases hmem : r ∈ buffered
    · -- `r` is buffered: it is released, and the rest of the run after it
      obtain ⟨q, hq⟩ : ∃ q, buffered.find? (·.sequenceID = next) = some q :=
        Option.isSome_iff_exists.1 (List.find?_isSome.2 ⟨r, hmem, by simp [hr]⟩)
      obtain rfl : r = q := (h.eq_of_id q (List.mem_of_find?_eq_some hq) r (List.mem_cons_self _ _)
        (by simpa [hr] using List.find?_some hq)).symm
      obtain ⟨f, rfl⟩ : ∃ f, fuel = f + 1 := ⟨fuel - 1, by have := List.length_pos_of_mem hmem; omega⟩
      -- in the buffer, the id `next` is `r`'s alone, and no packet of `rest` has it
      have hbuf : ∀ q ∈ buffered, q.sequenceID ≠ next ↔ q ≠ r := fun q hq =>
        ⟨fun hne hqr => hne (hqr ▸ hr), fun hne hid => hne (h.eq_of_id q hq r (List.mem_cons_self _ _) (hid.trans hr.symm))⟩
      have hrest : ∀ x ∈ rest, x.sequenceID ≠ next := fun x hx hid =>
        (List.nodup_cons.1 h.rest_nodup).1 (List.mem_map.2 ⟨x, hx, hid.trans hr.symm⟩)
      have h' : Buffered (next + 1) rest (buffered.filter (·.sequenceID ≠ next)) :=
        ⟨h.numbered.2, (List.nodup_cons.1 h.rest_nodup).2, h.nodup.sublist ((List.filter_sublist _).map _),
          fun q hq r' hr' => h.eq_of_id q (List.mem_of_mem_filter hq) r' (List.mem_cons_of_mem _ hr'),
          fun q hq => by rw [add_one_add_ofNat]; exact h.ne_last q (List.mem_of_mem_filter hq)⟩
      have hlen : (buffered.filter (·.sequenceID ≠ next)).length ≤ f := by
        have : (buffered.filter (·.sequenceID ≠ next)).length < buffered.length :=
          List.length_filter_lt_length_iff_exists.2 ⟨r, hmem, by simp [hr]⟩
        omega
      have htake : rest.takeWhile (· ∈ buffered.filter (·.sequenceID ≠ next)) = rest.takeWhile (· ∈ buffered) :=
        takeWhile_congr fun x hx => by simp [hrest x hx]
      rw [ReliableSubstream.release, hq]
      dsimp only
      rw [release_eq h' hlen, htake, List.takeWhile_cons_of_pos (by simpa using hmem), List.filter_filter]
      simp only [List.length_cons, add_one_add_ofNat, List.mem_cons, not_or]
      refine congrArg _ (congrArg _ (List.filter_congr fun q hq => ?_))
      simp [hbuf q hq, Bool.and_comm]
    · -- `r` is missing: nothing is released
      have hnone : buffered.find? (·.sequenceID = next) = none :=
        List.find?_eq_none.2 fun q hq hid => hmem (h.eq_of_id q hq r (List.mem_cons_self _ _)
          (by simpa [hr] using hid) ▸ hq)
      cases fuel <;> simp [ReliableSubstream.release, hnone, hmem]

/-! ## Decrypting and surfacing what is released -/

section Loop

variable (keystream : List (BitVec 8) → Nat → BitVec 8)

/-- The RMC messages the handlers of the `reliable-data` events among `outs` read, in order. -/
def rmcMessages (outs : List Output) : List (List (BitVec 8)) := (reliableData outs).filterMap (·.rmcMessage)

@[simp] theorem rmcMessages_nil : rmcMessages [] = [] := rfl

@[simp] theorem rmcMessages_append (l₁ l₂ : List Output) : rmcMessages (l₁ ++ l₂) = rmcMessages l₁ ++ rmcMessages l₂ := by
  simp [rmcMessages, reliableData]

/-- Where the loop makes at most one message, its handlers read just that, whenever they run. -/
theorem rmcMessages_emitReliableData {messages : List (List (BitVec 8))} (h : messages.length ≤ 1)
    (packet : Packet) : rmcMessages (emitReliableData packet messages) = messages := by
  match messages, h with
  | [], _ => rfl
  | [_], _ => rfl

/-- Decrypting two runs of payloads in order: the second starts where the first stopped. -/
theorem decryptInOrder_append (c : Cipher) (l₁ l₂ : List (List (BitVec 8))) :
    decryptInOrder keystream c (l₁ ++ l₂) = decryptInOrder keystream c l₁ ++
      decryptInOrder keystream { c with position := c.position + l₁.flatten.length } l₂ := by
  induction l₁ generalizing c with
  | nil => simp [decryptInOrder]
  | cons d l₁ ih => simp [decryptInOrder, Cipher.crypt, ih, Nat.add_assoc]

@[simp] theorem length_decryptInOrder (c : Cipher) (l : List (List (BitVec 8))) :
    (decryptInOrder keystream c l).length = l.length := by
  induction l generalizing c <;> simp [decryptInOrder, *]

/-- Decrypting the first `m` payloads gives the first `m` plaintexts. -/
theorem decryptInOrder_take (c : Cipher) (l : List (List (BitVec 8))) (m : Nat) :
    decryptInOrder keystream c (l.take m) = (decryptInOrder keystream c l).take m := by
  induction l generalizing c m with
  | nil => simp [decryptInOrder]
  | cons d l ih => cases m <;> simp [decryptInOrder, ih]

/-- The loop of `handleReliable` decrypts each released packet where the one before stopped, and
every byte it decrypts is in a message or left in the accumulator, in order. Nothing but the
incoming RC4 state and the accumulator changes. -/
theorem reliableLoop_eq : ∀ (packet : Packet), packet.packetType = .data →
    ∀ (pending : List Packet) (sub : ReliableSubstream), ∃ acc,
      (reliableLoop keystream packet pending sub).1 = { sub with
        cipherIn := ⟨sub.cipherIn.key, sub.cipherIn.position + (pending.map (·.payload)).flatten.length⟩
        fragmentedPayload := acc } ∧
      (reliableLoop keystream packet pending sub).2.flatten ++ acc =
        sub.fragmentedPayload ++ (decryptInOrder keystream sub.cipherIn (pending.map (·.payload))).flatten
  | _, _, [], sub => ⟨sub.fragmentedPayload, by simp [reliableLoop, decryptInOrder]⟩
  | packet, hdata, p :: rest, sub => by
    by_cases h0 : packet.fragmentID = 0
    · obtain ⟨acc, h1, h2⟩ := reliableLoop_eq packet hdata rest
        { sub with cipherIn := ⟨sub.cipherIn.key, sub.cipherIn.position + p.payload.length⟩, fragmentedPayload := [] }
      refine ⟨acc, ?_, ?_⟩
      · simp only [reliableLoop, hdata, h0, if_true, ReliableSubstream.decryptPayload, ReliableSubstream.addFragment,
          ReliableSubstream.resetFragmentedPayload, Cipher.crypt]
        rw [h1]
        simp [Nat.add_assoc]
      · simp only [reliableLoop, hdata, h0, if_true, ReliableSubstream.decryptPayload, ReliableSubstream.addFragment,
          ReliableSubstream.resetFragmentedPayload, Cipher.crypt]
        simp only [decryptInOrder, Cipher.crypt, List.map_cons, List.flatten_cons, List.nil_append] at h2 ⊢
        simp [← h2]
    · obtain ⟨acc, h1, h2⟩ := reliableLoop_eq packet hdata rest
        { sub with
          cipherIn := ⟨sub.cipherIn.key, sub.cipherIn.position + p.payload.length⟩
          fragmentedPayload := sub.fragmentedPayload ++
            xorKeystream keystream sub.cipherIn.key sub.cipherIn.position p.payload }
      simp only [reliableLoop, hdata, h0, if_true, if_false, ReliableSubstream.decryptPayload,
        ReliableSubstream.addFragment, Cipher.crypt] at h1 h2 ⊢
      refine ⟨acc, by rw [h1]; simp [Nat.add_assoc], ?_⟩
      simp only [decryptInOrder, Cipher.crypt, List.map_cons, List.flatten_cons] at h2 ⊢
      simp [h2]

/-- The loop on the arriving packet alone: its payload is decrypted onto the accumulator, which
becomes the one message at fragment id `0`. -/
theorem reliableLoop_singleton {packet : Packet} (hdata : packet.packetType = .data) (sub : ReliableSubstream) :
    reliableLoop keystream packet [packet] sub =
      if packet.fragmentID = 0 then
        ({ sub with
            cipherIn := ⟨sub.cipherIn.key, sub.cipherIn.position + packet.payload.length⟩
            fragmentedPayload := [] },
          [sub.fragmentedPayload ++ xorKeystream keystream sub.cipherIn.key sub.cipherIn.position packet.payload])
      else
        ({ sub with
            cipherIn := ⟨sub.cipherIn.key, sub.cipherIn.position + packet.payload.length⟩
            fragmentedPayload := sub.fragmentedPayload ++
              xorKeystream keystream sub.cipherIn.key sub.cipherIn.position packet.payload }, []) := by
  by_cases h0 : packet.fragmentID = 0 <;>
    simp [reliableLoop, hdata, h0, ReliableSubstream.decryptPayload, ReliableSubstream.addFragment,
      ReliableSubstream.resetFragmentedPayload, Cipher.crypt]

end Loop

/-! ## The sending side -/

section Send

variable (keystream : List (BitVec 8) → Nat → BitVec 8)

@[simp] theorem setReliableSubstream_setReliableSubstream (client : PRUDPClient) (i : BitVec 8)
    (s t : ReliableSubstream) :
    (client.setReliableSubstream i s).setReliableSubstream i t = client.setReliableSubstream i t := by
  simp [PRUDPClient.setReliableSubstream]

/-- `sendPacket` on a reliable DATA packet: the substream's next sequence id, the payload through
its outgoing RC4 from where it stands, and into the resend scheduler if it needs an
acknowledgment. -/
theorem sendPacket_reliable {client : PRUDPClient} {packet : Packet} {sub : ReliableSubstream}
    (hdata : packet.packetType = .data) (hrel : packet.hasFlag .reliable = true)
    (hack : packet.hasFlag .ack = false) (hmulti : packet.hasFlag .multiAck = false)
    (hsub : client.reliableSubstream packet.substreamID = some sub) :
    let sent : Packet := { packet with
      sequenceID := sub.outgoingSequenceID
      payload := xorKeystream keystream sub.cipherOut.key sub.cipherOut.position packet.payload }
    sendPacket keystream client packet = some (client.setReliableSubstream packet.substreamID { sub with
      outgoingSequenceID := sub.outgoingSequenceID + 1
      cipherOut := ⟨sub.cipherOut.key, sub.cipherOut.position + packet.payload.length⟩
      resendScheduler := if packet.hasFlag .needsAck then sub.resendScheduler.addPacket sent
        else sub.resendScheduler }, sent) := by
  have h1 := assignSequenceID_reliable hack hmulti hrel hsub
  have h2 : encryptPayload keystream _ { packet with sequenceID := sub.nextOutgoingSequenceID.1 } = _ :=
    encryptPayload_reliable keystream hack hmulti hrel hdata (PRUDPClient.reliableSubstream_setReliableSubstream client packet.substreamID
      sub.nextOutgoingSequenceID.2 (by simp [hsub]))
  simp only [sendPacket, h1, h2, Option.bind_eq_bind, Option.some_bind, scheduleResend]
  simp only [Packet.hasFlag] at hrel ⊢
  by_cases hn : Flag.needsAck ∈ packet.flags <;>
    simp [hrel, hn, PRUDPClient.reliableSubstream_setReliableSubstream, hsub, ReliableSubstream.encrypt,
      ReliableSubstream.nextOutgoingSequenceID, Cipher.crypt]

/-- `Send`'s loop on a reliable DATA packet: the fragments go out with consecutive sequence ids
from the substream's counter and with their own fragment ids, and their payloads decrypt, in that
order, from where the substream's outgoing RC4 stood, back to the fragments. -/
theorem sendFragments_reliable : ∀ (frags : List (List (BitVec 8) × BitVec 8)) {client : PRUDPClient}
    {packet : Packet} {sub : ReliableSubstream}, packet.packetType = .data → packet.hasFlag .reliable = true →
    packet.hasFlag .ack = false → packet.hasFlag .multiAck = false →
    client.reliableSubstream packet.substreamID = some sub →
    ∃ client' outs, sendFragments keystream client packet frags = some (client', outs) ∧
      Numbered sub.outgoingSequenceID (sentPackets outs) ∧
      (sentPackets outs).map (·.fragmentID) = frags.map Prod.snd ∧
      decryptInOrder keystream sub.cipherOut ((sentPackets outs).map (·.payload)) = frags.map Prod.fst ∧
      (∃ sub', client'.reliableSubstream packet.substreamID = some sub' ∧
        sub'.cipherOut = ⟨sub.cipherOut.key, sub.cipherOut.position + (frags.map Prod.fst).flatten.length⟩) ∧
      ∀ q ∈ sentPackets outs, q.packetType = .data ∧ q.substreamID = packet.substreamID
  | [], client, _, sub, _, _, _, _, hsub => ⟨client, [], rfl, trivial, rfl, rfl, ⟨sub, hsub, rfl⟩, by simp [sentPackets]⟩
  | (payload, fragmentID) :: rest, client, packet, sub, hdata, hrel, hack, hmulti, hsub => by
    let frag : Packet := { packet with payload := payload, fragmentID := fragmentID }
    let sent : Packet := { frag with
      sequenceID := sub.outgoingSequenceID
      payload := xorKeystream keystream sub.cipherOut.key sub.cipherOut.position payload }
    let sub' : ReliableSubstream := { sub with
      outgoingSequenceID := sub.outgoingSequenceID + 1
      cipherOut := ⟨sub.cipherOut.key, sub.cipherOut.position + payload.length⟩
      resendScheduler := if frag.hasFlag .needsAck then sub.resendScheduler.addPacket sent else sub.resendScheduler }
    have hstep : sendPacket keystream client { packet with payload := payload, fragmentID := fragmentID } =
        some (client.setReliableSubstream packet.substreamID sub', sent) :=
      sendPacket_reliable keystream hdata hrel hack hmulti hsub
    obtain ⟨client', outs, hrun, hnum, hids, hdec, ⟨sub'', hsub'', hcipher⟩, hall⟩ :=
      sendFragments_reliable rest (show sent.packetType = .data from hdata) hrel hack
      hmulti (PRUDPClient.reliableSubstream_setReliableSubstream client packet.substreamID sub' (by simp [hsub]))
    refine ⟨client', .sent sent :: outs, by simp [sendFragments, hstep, hrun],
      show Numbered _ (sent :: sentPackets outs) from ⟨rfl, hnum⟩, by simpa [sentPackets] using hids, ?_,
      ⟨sub'', hsub'', ?_⟩, ?_⟩
    · simp only [sentPackets, List.filterMap_cons, List.map_cons, decryptInOrder, Cipher.crypt,
        length_xorKeystream, xorKeystream_xorKeystream] at hdec ⊢
      exact congrArg _ hdec
    · rw [hcipher]
      simp [sub', Nat.add_assoc]
    · simp only [sentPackets, List.filterMap_cons, List.mem_cons] at hall ⊢
      rintro q (rfl | hq)
      · exact ⟨hdata, rfl⟩
      · exact hall q hq

end Send

/-- `Send`'s fragments against the spec's reassembly rule, for every payload and fragment size
`F ≥ 1`. Below `256` full fragments, every fragment but the last carries a nonzero fragment id and
the last carries `0`, the payloads make up the data, and the rule surfaces exactly one message,
the data, with the accumulator empty. From `256` full fragments on, the `uint8` counter gives the
`256`-th fragment the id `0`, and the rule surfaces the first `256 * F` bytes as a message of their
own. These are the packets `Send` writes: on a reliable DATA packet whose substream the peer has,
they carry these fragment ids in order, and their payloads decrypt, from where the substream's
outgoing RC4 stood, to these payloads. -/
theorem fragments_reassemble {F : Nat} (hF : 0 < F) (data : List (BitVec 8)) :
    (data.length < 256 * F →
      (∀ f ∈ (fragments F data).dropLast, f.2 ≠ 0) ∧
        ((fragments F data).getLast?).map Prod.snd = some 0 ∧
        ((fragments F data).map Prod.fst).flatten = data ∧
        reassemble (fragments F data) [] = ([data], [])) ∧
    (256 * F ≤ data.length →
      ((fragments F data)[255]?).map Prod.snd = some 0 ∧
        (reassemble (fragments F data) []).1.head? = some (data.take (256 * F))) ∧
    ∀ (keystream : List (BitVec 8) → Nat → BitVec 8) (server : PRUDPServer) (client : PRUDPClient)
      (packet : Packet) (sub : ReliableSubstream), server.fragmentSize = F → packet.payload = data →
      packet.packetType = .data → packet.hasFlag .reliable = true → packet.hasFlag .ack = false →
      packet.hasFlag .multiAck = false → client.reliableSubstream packet.substreamID = some sub →
      ∃ client' outs, send keystream server client packet = some (client', outs) ∧
        (sentPackets outs).map (·.fragmentID) = (fragments F data).map Prod.snd ∧
        decryptInOrder keystream sub.cipherOut ((sentPackets outs).map (·.payload)) =
          (fragments F data).map Prod.fst := by
  refine ⟨reassemble_fragments_of_lt hF data, reassemble_fragments_of_le hF data, ?_⟩
  rintro keystream server client packet sub rfl rfl hdata hrel hack hmulti hsub
  obtain ⟨client', outs, hrun, -, hids, hdec, -⟩ :=
    sendFragments_reliable keystream (fragments server.fragmentSize packet.payload) hdata hrel hack hmulti hsub
  exact ⟨client', outs, by rw [send, if_neg (Nat.pos_iff_ne_zero.1 hF), hrun], hids, hdec⟩

theorem fragments_reassemble_of_three_bytes :
    0 < 2 ∧
      (([1, 2, 3] : List (BitVec 8)).length < 256 * 2 →
        (∀ f ∈ (fragments 2 [1, 2, 3]).dropLast, f.2 ≠ 0) ∧
          ((fragments 2 [1, 2, 3]).getLast?).map Prod.snd = some 0 ∧
          ((fragments 2 [1, 2, 3]).map Prod.fst).flatten = [1, 2, 3] ∧
          reassemble (fragments 2 [1, 2, 3]) [] = ([[1, 2, 3]], [])) ∧
      (256 * 2 ≤ ([1, 2, 3] : List (BitVec 8)).length →
        ((fragments 2 [1, 2, 3])[255]?).map Prod.snd = some 0 ∧
          (reassemble (fragments 2 [1, 2, 3]) []).1.head? = some (([1, 2, 3] : List (BitVec 8)).take (256 * 2))) ∧
      ∀ (keystream : List (BitVec 8) → Nat → BitVec 8) (server : PRUDPServer) (client : PRUDPClient)
        (packet : Packet) (sub : ReliableSubstream), server.fragmentSize = 2 → packet.payload = [1, 2, 3] →
        packet.packetType = .data → packet.hasFlag .reliable = true → packet.hasFlag .ack = false →
        packet.hasFlag .multiAck = false → client.reliableSubstream packet.substreamID = some sub →
        ∃ client' outs, send keystream server client packet = some (client', outs) ∧
          (sentPackets outs).map (·.fragmentID) = (fragments 2 [1, 2, 3]).map Prod.snd ∧
          decryptInOrder keystream sub.cipherOut ((sentPackets outs).map (·.payload)) =
            (fragments 2 [1, 2, 3]).map Prod.fst :=
  ⟨by decide, fragments_reassemble (by decide) [1, 2, 3]⟩

/-! ## The receiving substream over a run of arrivals -/

/-- The sender's packets from the first on, as far as every one of them has arrived. -/
def arrivedPrefix (sent arrived : List Packet) : List Packet := sent.takeWhile (· ∈ arrived)

@[simp] theorem arrivedPrefix_nil (sent : List Packet) : arrivedPrefix sent [] = [] := by
  cases sent <;> simp [arrivedPrefix]

theorem arrivedPrefix_eq_take (sent arrived : List Packet) :
    arrivedPrefix sent arrived = sent.take (arrivedPrefix sent arrived).length :=
  List.prefix_iff_eq_take.1 (List.takeWhile_prefix _)

theorem append_drop_arrivedPrefix (sent arrived : List Packet) :
    arrivedPrefix sent arrived ++ sent.drop (arrivedPrefix sent arrived).length = sent := by
  conv_lhs => enter [1]; rw [arrivedPrefix_eq_take]
  exact List.take_append_drop _ _

/-- One more arrival: the run that has arrived grows by what of the rest has now arrived. -/
theorem arrivedPrefix_append (sent arrived : List Packet) (a : Packet) :
    arrivedPrefix sent (arrived ++ [a]) = arrivedPrefix sent arrived ++
      (sent.drop (arrivedPrefix sent arrived).length).takeWhile (· ∈ arrived ++ [a]) := by
  conv_lhs => rw [arrivedPrefix, ← append_drop_arrivedPrefix sent arrived]
  exact List.takeWhile_append_of_pos fun x hx => by
    simpa using Or.inl (by simpa using List.mem_takeWhile_imp hx)

theorem numbered_drop : ∀ {c : BitVec 16} {l : List Packet} (k : Nat), Numbered c l →
    Numbered (c + BitVec.ofNat 16 k) (l.drop k)
  | c, [], _, _ => by simp [Numbered]
  | c, _ :: _, 0, h => by simpa using h
  | c, _ :: l, k + 1, h => by
    rw [List.drop_succ_cons, ← add_one_add_ofNat]
    exact numbered_drop k h.2

section Receive

variable (keystream : List (BitVec 8) → Nat → BitVec 8) (start : Cipher) (c : BitVec 16) (sent : List Packet)

/-- The receiving substream after the arrivals `arrived`, each one of the sender's packets `sent`
(numbered from `c`, encrypted from `start` on), with `outs` what it surfaced: it expects the id
after the longest run of `sent` that has arrived, buffers exactly the arrived packets after that
run (besides stale copies of delivered ones), has decrypted the run in order, and every byte of
the run is in the rmcMessages `surfaced` or in the accumulator. -/
structure Receiving (arrived : List Packet) (sub : ReliableSubstream) (surfaced : List (List (BitVec 8))) :
    Prop where
  incoming : sub.incomingSequenceID = c + BitVec.ofNat 16 (arrivedPrefix sent arrived).length
  subset : ∀ q ∈ sub.buffered, q ∈ sent
  nodup : (sub.buffered.map (·.sequenceID)).Nodup
  buffered : ∀ q ∈ sent.drop (arrivedPrefix sent arrived).length, q ∈ sub.buffered ↔ q ∈ arrived
  cipherIn : sub.cipherIn = ⟨start.key, start.position + ((arrivedPrefix sent arrived).map (·.payload)).flatten.length⟩
  bytes : surfaced.flatten ++ sub.fragmentedPayload =
    (decryptInOrder keystream start ((arrivedPrefix sent arrived).map (·.payload))).flatten

variable {keystream start c sent}

/-- `Update` as a release: the arrival goes into the buffer in place of any copy under its id,
and the longest buffered run from the expected id comes out. -/
theorem update_eq {sub : ReliableSubstream} {a : Packet} {rest : List Packet}
    (h : Buffered sub.incomingSequenceID rest (sub.buffered.filter (·.sequenceID ≠ a.sequenceID) ++ [a])) :
    sub.update a =
      let buffered := sub.buffered.filter (·.sequenceID ≠ a.sequenceID) ++ [a]
      (rest.takeWhile (· ∈ buffered), { sub with
        incomingSequenceID := sub.incomingSequenceID + BitVec.ofNat 16 (rest.takeWhile (· ∈ buffered)).length
        buffered := buffered.filter (· ∉ rest.takeWhile (· ∈ buffered)) }) := by
  unfold ReliableSubstream.update
  dsimp only
  rw [release_eq h le_rfl]

/-- One arrival of one of the sender's packets keeps the receiving substream in step, with the
loop's messages added to `surfaced`. `Update` releases a run `ready` of the sender's packets, the
next after the run released before, each of which has arrived, and the loop takes it. -/
theorem Receiving.receive (hnum : Numbered c sent) (hlen : sent.length < 2 ^ 16)
    (hdata : ∀ q ∈ sent, q.packetType = .data) {arrived : List Packet} {sub : ReliableSubstream}
    {surfaced : List (List (BitVec 8))} (h : Receiving keystream start c sent arrived sub surfaced) {a : Packet}
    (ha : a ∈ sent) :
    Receiving keystream start c sent (arrived ++ [a]) (receiveReliable keystream sub a).1
        (surfaced ++ (receiveReliable keystream sub a).2) ∧
      ∃ ready next buffered, ready <+: sent.drop (arrivedPrefix sent arrived).length ∧
        (∀ x ∈ ready, x ∈ arrived ++ [a]) ∧
        arrivedPrefix sent (arrived ++ [a]) = arrivedPrefix sent arrived ++ ready ∧
        receiveReliable keystream sub a =
          reliableLoop keystream a ready { sub with incomingSequenceID := next, buffered := buffered } := by
  set R := arrivedPrefix sent arrived with hR
  set rest := sent.drop R.length with hrest
  set buffered := sub.buffered.filter (·.sequenceID ≠ a.sequenceID) ++ [a] with hbuffered
  have hnd := nodup_of_numbered hnum hlen.le
  have hinj : ∀ q ∈ sent, ∀ r ∈ sent, q.sequenceID = r.sequenceID → q = r :=
    fun q hq r hr => List.inj_on_of_nodup_map hnd hq hr
  have hrest_sub : ∀ x ∈ rest, x ∈ sent := fun x hx => List.mem_of_mem_drop hx
  -- the buffer after the arrival holds, of `rest`, exactly what has arrived
  have hmem : ∀ x ∈ rest, x ∈ buffered ↔ x ∈ arrived ++ [a] := by
    intro x hx
    by_cases hxa : x = a
    · simp [hbuffered, hxa]
    · have hid : x.sequenceID ≠ a.sequenceID := fun hid => hxa (hinj x (hrest_sub x hx) a ha hid)
      simp [hbuffered, hxa, hid, h.buffered x hx]
  have hsent : ∀ q ∈ buffered, q ∈ sent := by
    intro q hq
    rcases List.mem_append.1 hq with hq | hq
    · exact h.subset q (List.mem_of_mem_filter hq)
    · rw [List.mem_singleton.1 hq]; exact ha
  have hB : Buffered sub.incomingSequenceID rest buffered := by
    refine ⟨?_, hnd.sublist ((List.drop_sublist _ _).map _), ?_,
      fun q hq r hr hid => hinj q (hsent q hq) r (hrest_sub r hr) hid, fun q hq => ?_⟩
    · rw [h.incoming]; exact numbered_drop _ hnum
    · rw [List.map_append, List.nodup_append]
      exact ⟨h.nodup.sublist ((List.filter_sublist _).map _), List.nodup_singleton _, by simp⟩
    · obtain ⟨k, hk, hid⟩ := sequenceID_of_mem_numbered hnum (hsent q hq)
      have hRlen : R.length ≤ sent.length := (List.takeWhile_sublist _).length_le
      rw [hid, h.incoming, BitVec.add_assoc, BitVec.ofNat_add_ofNat, hrest, List.length_drop,
        Nat.add_sub_cancel' hRlen]
      exact add_ofNat_ne hk hlen
  set ready := rest.takeWhile (· ∈ buffered) with hready
  have hR' : arrivedPrefix sent (arrived ++ [a]) = R ++ ready := by
    rw [arrivedPrefix_append, hready]
    exact congrArg _ (takeWhile_congr fun x hx => by simp [hmem x hx])
  have hrecv : receiveReliable keystream sub a = reliableLoop keystream a ready { sub with
      incomingSequenceID := sub.incomingSequenceID + BitVec.ofNat 16 ready.length
      buffered := buffered.filter (· ∉ ready) } := by
    unfold receiveReliable
    rw [update_eq hB]
  obtain ⟨acc, h1, h2⟩ := reliableLoop_eq keystream a (hdata a ha) ready { sub with
      incomingSequenceID := sub.incomingSequenceID + BitVec.ofNat 16 ready.length
      buffered := buffered.filter (· ∉ ready) }
  refine ⟨?_, ready, _, _, List.takeWhile_prefix _, fun x hx => (hmem x ((List.takeWhile_sublist _).subset hx)).1
    (by simpa using List.mem_takeWhile_imp hx), hR', hrecv⟩
  rw [hrecv, h1]
  refine ⟨?_, fun q hq => hsent q (List.mem_of_mem_filter hq), hB.nodup.sublist ((List.filter_sublist _).map _),
    fun q hq => ?_, ?_, ?_⟩
  · rw [hR', h.incoming, BitVec.add_assoc, BitVec.ofNat_add_ofNat, List.length_append]
  · -- what is left after the released run is not in it
    rw [hR', List.length_append, ← List.drop_drop, ← hrest] at hq
    have hnot : q ∉ ready := fun hr => List.disjoint_take_drop (hnd.sublist ((List.drop_sublist _ _).map _)).of_map
      le_rfl (by rw [← List.prefix_iff_eq_take.1 (List.takeWhile_prefix _)]; exact hr) hq
    simp [hnot, ← hmem q (List.mem_of_mem_drop hq)]
  · simp [hR', hR, h.cipherIn, Nat.add_assoc]
  · rw [hR', List.flatten_append, List.append_assoc, h2, ← List.append_assoc, h.bytes, List.map_append,
      decryptInOrder_append, List.flatten_append, h.cipherIn]

/-- `handleReliable` on a packet of a substream the peer has: the acknowledgment if asked for,
then that substream's `Update` and loop, and a `reliable-data` event for each message. -/
theorem handleReliable_of_substream (keystream : List (BitVec 8) → Nat → BitVec 8) {client : PRUDPClient}
    {p : Packet} {sub : ReliableSubstream} (hsub : client.reliableSubstream p.substreamID = some sub) :
    ∃ acks, rmcMessages acks = [] ∧ handleReliable keystream client p =
      some (client.setReliableSubstream p.substreamID (receiveReliable keystream sub p).1,
        acks ++ emitReliableData p (receiveReliable keystream sub p).2) := by
  unfold handleReliable
  by_cases hn : p.hasFlag .needsAck
  · refine ⟨_, ?_, by simp [hn, acknowledgePacket_eq, hsub]; rfl⟩
    split_ifs <;> simp [rmcMessages, reliableData]
  · exact ⟨[], rfl, by simp [hn, hsub]⟩

end Receive

/-! ## Arrivals in order -/

/-- Arrivals in order, from `arrived` on: a packet arrives only once every packet sent before it
has arrived; a packet that has arrived may arrive again at any time. -/
def InOrder (sent : List Packet) : List Packet → List Packet → Prop
  | _, [] => True
  | arrived, a :: rest => a ∈ arrivedPrefix sent (arrived ++ [a]) ∧ InOrder sent (arrived ++ [a]) rest

instance decidableInOrder (sent : List Packet) : ∀ arrived arrivals, Decidable (InOrder sent arrived arrivals)
  | _, [] => isTrue trivial
  | arrived, a :: rest =>
    have := decidableInOrder sent (arrived ++ [a]) rest
    inferInstanceAs (Decidable (_ ∧ _))

theorem inOrder_append {sent : List Packet} : ∀ {arrived l₁ l₂ : List Packet},
    InOrder sent arrived (l₁ ++ l₂) ↔ InOrder sent arrived l₁ ∧ InOrder sent (arrived ++ l₁) l₂
  | _, [], _ => by simp [InOrder]
  | arrived, a :: l₁, l₂ => by
    rw [List.cons_append, InOrder, InOrder, inOrder_append, List.append_assoc, List.singleton_append, and_assoc]

/-- The packets `R` decrypted in order from `start`, each with its fragment id: what the spec's
reassembly rule reads of them. -/
def plainFragments (keystream : List (BitVec 8) → Nat → BitVec 8) (start : Cipher) (R : List Packet) :
    List (List (BitVec 8) × BitVec 8) :=
  (decryptInOrder keystream start (R.map (·.payload))).zip (R.map (·.fragmentID))

theorem plainFragments_append_singleton (keystream : List (BitVec 8) → Nat → BitVec 8) (start : Cipher)
    (R : List Packet) (a : Packet) :
    plainFragments keystream start (R ++ [a]) = plainFragments keystream start R ++
      [(xorKeystream keystream start.key (start.position + (R.map (·.payload)).flatten.length) a.payload,
        a.fragmentID)] := by
  simp [plainFragments, decryptInOrder_append, List.zip_append, decryptInOrder, Cipher.crypt]

section InOrder

variable {keystream : List (BitVec 8) → Nat → BitVec 8} {start : Cipher} {c : BitVec 16} {sent : List Packet}

variable (keystream start c sent) in
/-- The receiving substream after arrivals in order: in step with the sender's packets, every
packet that arrived is in the run from the first, and what the handlers read and the accumulator
are what the reassembly rule makes of that run. -/
structure ReceivingInOrder (arrived : List Packet) (sub : ReliableSubstream) (read : List (List (BitVec 8))) :
    Prop where
  receiving : Receiving keystream start c sent arrived sub read
  closed : ∀ q ∈ arrived, q ∈ arrivedPrefix sent arrived
  reassembled : reassemble (plainFragments keystream start (arrivedPrefix sent arrived)) [] = (read, sub.fragmentedPayload)

/-- An arrival in order releases itself or nothing, so the loop makes at most one message, at the
fragment id of the packet it releases, and the reassembly rule goes one packet further. -/
theorem ReceivingInOrder.receive (hnum : Numbered c sent) (hlen : sent.length < 2 ^ 16)
    (hdata : ∀ q ∈ sent, q.packetType = .data) {arrived : List Packet} {sub : ReliableSubstream}
    {read : List (List (BitVec 8))} (h : ReceivingInOrder keystream start c sent arrived sub read) {a : Packet}
    (ha : a ∈ sent) (hin : a ∈ arrivedPrefix sent (arrived ++ [a])) :
    (receiveReliable keystream sub a).2.length ≤ 1 ∧
      ReceivingInOrder keystream start c sent (arrived ++ [a]) (receiveReliable keystream sub a).1
        (read ++ (receiveReliable keystream sub a).2) := by
  obtain ⟨hrecv, ready, next, buffered, hpre, hmem, hR', hloop⟩ := h.receiving.receive hnum hlen hdata ha
  have hnd : sent.Nodup := (nodup_of_numbered hnum hlen.le).of_map _
  have hsub : ready.Sublist (sent.drop (arrivedPrefix sent arrived).length) := hpre.sublist
  -- what is released is the packet that arrived: the others that arrived are in the run already
  have hone : ∀ x ∈ ready, x = a := fun x hx => (List.mem_append.1 (hmem x hx)).elim
    (fun hx' => absurd (hsub.subset hx) (List.disjoint_take_drop hnd le_rfl
      (by rw [← arrivedPrefix_eq_take]; exact h.closed x hx')))
    List.mem_singleton.1
  obtain ⟨n, rfl⟩ : ∃ n, ready = List.replicate n a := ⟨_, List.eq_replicate_iff.2 ⟨rfl, hone⟩⟩
  have hn : n ≤ 1 := List.nodup_replicate.1 (hnd.sublist (hsub.trans (List.drop_sublist _ _)))
  have hclosed : ∀ q ∈ arrived ++ [a], q ∈ arrivedPrefix sent (arrived ++ [a]) := fun q hq =>
    (List.mem_append.1 hq).elim (fun hq => hR' ▸ List.mem_append_left _ (h.closed q hq))
      (fun hq => List.mem_singleton.1 hq ▸ hin)
  obtain rfl | rfl : n = 0 ∨ n = 1 := by omega
  · -- a repeat: nothing released, nothing made
    simp only [List.replicate_zero, List.append_nil] at hR' hloop
    rw [hloop] at hrecv ⊢
    exact ⟨by simp [reliableLoop], hrecv, hclosed, by simpa [hR', reliableLoop] using h.reassembled⟩
  · -- the next packet: released alone
    simp only [List.replicate_one] at hR' hloop
    rw [hloop] at hrecv ⊢
    have hpos := h.receiving.cipherIn
    rw [reliableLoop_singleton keystream (hdata a ha)] at hrecv ⊢
    refine ⟨by split_ifs <;> simp, hrecv, hclosed, ?_⟩
    rw [hR', plainFragments_append_singleton, reassemble_append, h.reassembled]
    split_ifs <;> simp [hpos]

/-- `handleReliable` on a packet that arrives in order, on a substream in step: its handlers read
the message the loop made, if any. -/
theorem ReceivingInOrder.handleReliable (hnum : Numbered c sent) (hlen : sent.length < 2 ^ 16)
    (hdata : ∀ q ∈ sent, q.packetType = .data) {client : PRUDPClient} {arrived : List Packet}
    {sub : ReliableSubstream} {read : List (List (BitVec 8))} {a : Packet}
    (hsub : client.reliableSubstream a.substreamID = some sub)
    (h : ReceivingInOrder keystream start c sent arrived sub read) (ha : a ∈ sent)
    (hin : a ∈ arrivedPrefix sent (arrived ++ [a])) :
    ∃ sub' outs, NexGo.handleReliable keystream client a =
        some (client.setReliableSubstream a.substreamID sub', outs) ∧
      ReceivingInOrder keystream start c sent (arrived ++ [a]) sub' (read ++ rmcMessages outs) := by
  obtain ⟨acks, hacks, hstep⟩ := handleReliable_of_substream keystream hsub
  obtain ⟨hone, h'⟩ := h.receive hnum hlen hdata ha hin
  exact ⟨_, _, hstep, by simpa [hacks, rmcMessages_emitReliableData hone] using h'⟩

/-- Arrivals in order of the sender's packets on their substream, one after another through
`handleReliable`, keep the receiving substream in step with what its handlers read. -/
theorem ReceivingInOrder.handleAll (hnum : Numbered c sent) (hlen : sent.length < 2 ^ 16)
    (hdata : ∀ q ∈ sent, q.packetType = .data) {i : BitVec 8} (hsubid : ∀ q ∈ sent, q.substreamID = i) :
    ∀ (arrivals : List Packet), (∀ a ∈ arrivals, a ∈ sent) → ∀ {arrived : List Packet},
      InOrder sent arrived arrivals →
      ∀ {client : PRUDPClient} {sub : ReliableSubstream} {read : List (List (BitVec 8))},
      client.reliableSubstream i = some sub → ReceivingInOrder keystream start c sent arrived sub read →
      ∃ client' outs sub', handleReliableAll keystream client arrivals = some (client', outs) ∧
        client'.reliableSubstream i = some sub' ∧
        ReceivingInOrder keystream start c sent (arrived ++ arrivals) sub' (read ++ rmcMessages outs)
  | [], _, arrived, _, client, sub, read, hsub, h => ⟨client, [], sub, rfl, hsub, by simpa using h⟩
  | a :: arrivals, harr, arrived, ⟨hin, hord⟩, client, sub, read, hsub, h => by
    have ha := harr a (List.mem_cons_self _ _)
    rw [← hsubid a ha] at hsub
    obtain ⟨sub₁, outs₁, hstep, h₁⟩ := h.handleReliable hnum hlen hdata hsub ha hin
    have hsub₁ := PRUDPClient.reliableSubstream_setReliableSubstream client a.substreamID sub₁ (by simp [hsub])
    rw [hsubid a ha] at hsub₁ hstep
    obtain ⟨client', outs, sub', hrun, hsub', h'⟩ := ReceivingInOrder.handleAll hnum hlen hdata hsubid arrivals
      (fun a' ha' => harr a' (List.mem_cons_of_mem _ ha')) hord hsub₁ h₁
    exact ⟨client', outs₁ ++ outs, sub', by simp [handleReliableAll, hstep, hrun], hsub', by simpa using h'⟩

/-- A substream that holds nothing yet, its expected id and incoming RC4 where the sender's packets
start, is in step with them before any has arrived. -/
theorem ReceivingInOrder.init {sub : ReliableSubstream} (hbuf : sub.buffered = []) (hacc : sub.fragmentedPayload = []) :
    ReceivingInOrder keystream sub.cipherIn sub.incomingSequenceID sent [] sub [] :=
  ⟨⟨by simp, by simp [hbuf], by simp [hbuf], by simp [hbuf], by simp, by simp [hacc, decryptInOrder]⟩,
    by simp, by simp [hacc, plainFragments, decryptInOrder, reassemble]⟩

/-- What the handlers of a substream in step have read: the messages the reassembly rule makes of
the sender's fragments as far as they have arrived from the first, with the accumulator; all the
fragments once every packet has arrived. -/
theorem ReceivingInOrder.delivered {arrived : List Packet} {sub : ReliableSubstream} {read : List (List (BitVec 8))}
    {frags : List (List (BitVec 8) × BitVec 8)} (h : ReceivingInOrder keystream start c sent arrived sub read)
    (hfr : (decryptInOrder keystream start (sent.map (·.payload))).zip (sent.map (·.fragmentID)) = frags) :
    (read, sub.fragmentedPayload) = reassemble (frags.take (arrivedPrefix sent arrived).length) [] ∧
      ((∀ q ∈ sent, q ∈ arrived) → (read, sub.fragmentedPayload) = reassemble frags []) := by
  have hread : (read, sub.fragmentedPayload) = reassemble (frags.take (arrivedPrefix sent arrived).length) [] := by
    rw [← h.reassembled]
    conv_lhs => rw [arrivedPrefix_eq_take]
    simp only [plainFragments, List.map_take, decryptInOrder_take, List.zip_eq_zipWith, List.take_zipWith, ← hfr]
  refine ⟨hread, fun hall => ?_⟩
  have hfull : arrivedPrefix sent arrived = sent :=
    List.takeWhile_eq_self_iff.2 fun q hq => by simpa using hall q hq
  rw [hread, hfull, List.take_of_length_le (by simp [← hfr])]

end InOrder

/-! ## End to end -/

/-- The receiving side of delivery. Packets numbered from the id a receiving substream expects,
DATA on its substream, whose payloads decrypt in order from its incoming RC4 state to the
payloads of `frags`, with the fragment ids of `frags`, arriving in order through
`handleReliable`, repeats allowed: the handlers read the messages the reassembly rule makes of
`frags` as far as the packets have arrived from the first, and the accumulator holds the rest. -/
theorem delivered_in_order_of_sent (keystream : List (BitVec 8) → Nat → BitVec 8) {sent : List Packet}
    {frags : List (List (BitVec 8) × BitVec 8)} {i : BitVec 8} {rx : PRUDPClient} {subRx : ReliableSubstream}
    (hrx : rx.reliableSubstream i = some subRx) (hnum : Numbered subRx.incomingSequenceID sent)
    (hlen : sent.length < 2 ^ 16) (hdata : ∀ q ∈ sent, q.packetType = .data)
    (hsubid : ∀ q ∈ sent, q.substreamID = i)
    (hfr : (decryptInOrder keystream subRx.cipherIn (sent.map (·.payload))).zip (sent.map (·.fragmentID)) = frags)
    (hbuf : subRx.buffered = []) (hacc : subRx.fragmentedPayload = []) (arrivals : List Packet)
    (harr : ∀ a ∈ arrivals, a ∈ sent) (hord : InOrder sent [] arrivals) :
    ∃ rx' routs sub, handleReliableAll keystream rx arrivals = some (rx', routs) ∧
      rx'.reliableSubstream i = some sub ∧
      (rmcMessages routs, sub.fragmentedPayload) = reassemble (frags.take (arrivedPrefix sent arrivals).length) [] ∧
      ((∀ q ∈ sent, q ∈ arrivals) → (rmcMessages routs, sub.fragmentedPayload) = reassemble frags []) := by
  obtain ⟨rx', routs, sub, hrecv, hsub, h⟩ :=
    (ReceivingInOrder.init hbuf hacc).handleAll hnum hlen hdata hsubid arrivals harr hord hrx
  obtain ⟨hread, hfull⟩ := h.delivered hfr
  exact ⟨rx', routs, sub, hrecv, hsub, by simpa using hread, fun hall => by simpa using hfull (by simpa using hall)⟩

/-- Reliable delivery end to end. What `Send` puts on a reliable substream, a reliable DATA
packet's payload cut into fragments, `handleReliable` delivers at a peer whose substream expects
the sender's next sequence id and decrypts from where the sender's outgoing RC4 stands, the
packets arriving in order, repeats allowed. The handlers of its `reliable-data` events read the
messages the reassembly rule makes of the fragments as far as they have arrived, and the
accumulator holds the rest: below `256` full fragments, nothing until the last fragment arrives,
then the payload, as one message, with the accumulator empty. -/
theorem send_delivered_in_order (keystream : List (BitVec 8) → Nat → BitVec 8) {server : PRUDPServer}
    (hF : 0 < server.fragmentSize) {tx rx : PRUDPClient} {packet : Packet} {subTx subRx : ReliableSubstream}
    (hdata : packet.packetType = .data) (hrel : packet.hasFlag .reliable = true)
    (hack : packet.hasFlag .ack = false) (hmulti : packet.hasFlag .multiAck = false)
    (htx : tx.reliableSubstream packet.substreamID = some subTx)
    (hrx : rx.reliableSubstream packet.substreamID = some subRx)
    (hid : subRx.incomingSequenceID = subTx.outgoingSequenceID) (hcipher : subRx.cipherIn = subTx.cipherOut)
    (hbuf : subRx.buffered = []) (hacc : subRx.fragmentedPayload = [])
    (hlen : packet.payload.length / server.fragmentSize + 1 < 2 ^ 16) :
    ∃ tx' outs, send keystream server tx packet = some (tx', outs) ∧
      ∀ arrivals, (∀ a ∈ arrivals, a ∈ sentPackets outs) → InOrder (sentPackets outs) [] arrivals →
        ∃ rx' routs sub, handleReliableAll keystream rx arrivals = some (rx', routs) ∧
          rx'.reliableSubstream packet.substreamID = some sub ∧
          (rmcMessages routs, sub.fragmentedPayload) =
            reassemble ((fragments server.fragmentSize packet.payload).take
              (arrivedPrefix (sentPackets outs) arrivals).length) [] ∧
          (packet.payload.length < 256 * server.fragmentSize → (∀ q ∈ sentPackets outs, q ∈ arrivals) →
            rmcMessages routs = [packet.payload] ∧ sub.fragmentedPayload = []) := by
  obtain ⟨tx', outs, hrun, hnum, hids, hdec, -, hall⟩ :=
    sendFragments_reliable keystream (fragments server.fragmentSize packet.payload) hdata hrel hack hmulti htx
  have hsent : (sentPackets outs).length < 2 ^ 16 := by
    have := congrArg List.length hdec
    rw [length_decryptInOrder, List.length_map, List.length_map, length_fragments hF] at this
    omega
  refine ⟨tx', outs, by rw [send, if_neg (Nat.pos_iff_ne_zero.1 hF), hrun], fun arrivals harr hord => ?_⟩
  have hfr : (decryptInOrder keystream subRx.cipherIn ((sentPackets outs).map (·.payload))).zip
      ((sentPackets outs).map (·.fragmentID)) = fragments server.fragmentSize packet.payload := by
    rw [hcipher, hdec, hids]
    exact (List.zip_of_prod rfl rfl).symm
  obtain ⟨rx', routs, sub, hrecv, hsub, hread, hfull⟩ := delivered_in_order_of_sent keystream hrx (hid ▸ hnum) hsent
    (fun q hq => (hall q hq).1) (fun q hq => (hall q hq).2) hfr hbuf hacc arrivals harr hord
  refine ⟨rx', routs, sub, hrecv, hsub, hread, fun h256 hall' => ?_⟩
  simpa [(reassemble_fragments_of_lt hF _ h256).2.2.2] using hfull hall'

/-- Three bytes on substream 0, between two peers that have just connected with an empty key, the
two packets arriving in order with the first again in between. -/
theorem send_delivered_in_order_three_bytes :
    let peer : PRUDPClient :=
      { newPRUDPClient "10.0.0.1:3000" with reliableSubstreams := [newReliableSubstream []] }
    let packet : Packet :=
      { newPRUDPPacketV1 with packetType := .data, flags := [.reliable, .needsAck], payload := [1, 2, 3] }
    0 < (⟨0, false, [], 2⟩ : PRUDPServer).fragmentSize ∧ packet.packetType = .data ∧
      packet.hasFlag .reliable = true ∧ packet.hasFlag .ack = false ∧ packet.hasFlag .multiAck = false ∧
      peer.reliableSubstream packet.substreamID = some (newReliableSubstream []) ∧
      (newReliableSubstream []).incomingSequenceID = (newReliableSubstream []).outgoingSequenceID ∧
      (newReliableSubstream []).cipherIn = (newReliableSubstream []).cipherOut ∧
      (newReliableSubstream []).buffered = [] ∧ (newReliableSubstream []).fragmentedPayload = [] ∧
      packet.payload.length / (⟨0, false, [], 2⟩ : PRUDPServer).fragmentSize + 1 < 2 ^ 16 ∧
      ∃ tx' outs, send (fun _ _ => 0) ⟨0, false, [], 2⟩ peer packet = some (tx', outs) ∧
        ∀ arrivals, (∀ a ∈ arrivals, a ∈ sentPackets outs) → InOrder (sentPackets outs) [] arrivals →
          ∃ rx' routs sub, handleReliableAll (fun _ _ => 0) peer arrivals = some (rx', routs) ∧
            rx'.reliableSubstream packet.substreamID = some sub ∧
            (rmcMessages routs, sub.fragmentedPayload) =
              reassemble ((fragments (⟨0, false, [], 2⟩ : PRUDPServer).fragmentSize packet.payload).take
                (arrivedPrefix (sentPackets outs) arrivals).length) [] ∧
            (packet.payload.length < 256 * (⟨0, false, [], 2⟩ : PRUDPServer).fragmentSize →
              (∀ q ∈ sentPackets outs, q ∈ arrivals) → rmcMessages routs = [packet.payload] ∧ sub.fragmentedPayload = []) :=
  ⟨by decide, rfl, rfl, rfl, rfl, rfl, rfl, rfl, rfl, rfl, by decide,
    send_delivered_in_order (fun _ _ => 0) (by decide) rfl rfl rfl rfl rfl rfl rfl rfl rfl rfl (by decide)⟩

end NexGo

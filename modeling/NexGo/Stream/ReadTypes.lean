import Mathlib.Data.List.Nodup
import NexGo.Stream.ReadList

/-!
# The variable-width readers and `StreamReadMap` (`stream_in.go`)

`ReadString` (lines 221-250) reads a length of the server's `StringLengthSize()` bytes, checks it
against `Remaining()`, and returns the bytes with `strings.TrimRight(str, "\x00")` applied: a Go
string is its bytes, and for a cut set of one ASCII byte `TrimRight` cuts trailing bytes, so the
string comes back without its trailing NUL bytes. `ReadStationURL` (lines 316-325) is
`ReadString` under a message of its own (`NewStationURL`, which parses the string, is not in the
repository's files), `ReadPID` (lines 200-220) a `uint64` from NEX `4.0.0` on and a `uint32`
before, `ReadDateTime` (lines 295-304) a `uint64`, and `ReadRemaining` (lines 23-27) the bytes
left.

`ReadListPID`, `ReadListString`, `ReadListBuffer`, `ReadListQBuffer` and `ReadListStationURL`
(lines 776-880) run the loop of the fixed-width readers without their pre-check, so the count
alone sets the room `make` reserves; `ReadListPID` reports a short count as a `List<String>`
error. `StreamReadMap` (lines 983-1006) reads a count, then that many key and value reads, each
pair stored with `m[key] = value`: a later key replaces an earlier one.

Each element reader reads back what its encoding holds (`readString_of_unread`,
`readPID_of_unread`), from which any list of them does (`readListOf_of_unread`), and an element
that does not read fails the list naming its index (`readListValues_error`). A map reads back
with every key bound to the last value written under it (`streamReadMap_of_unread`).
-/

namespace NexGo
set_option autoImplicit false

/-- What the readers ask of `stream.Server`: its `StringLengthSize()`, whether its
`LibraryVersion()` is at least `4.0.0`, and whether `StreamReadStructure` reads structure headers
(for a `PRUDPServer` when its `PRUDPMinorVersion` is at least `3`, for another server when its
`LibraryVersion()` is at least `3.5.0`). -/
structure ServerInterface where
  stringLengthSize : Nat
  libraryVersion4 : Bool
  useStructureHeader : Bool
  deriving DecidableEq, Repr

/-- The width of a string's length: `4` bytes for a `StringLengthSize()` of `4`, else `2`. -/
def ServerInterface.stringLengthWidth (server : ServerInterface) : Nat :=
  if server.stringLengthSize = 4 then 4 else 2

/-- The width of a PID: `8` bytes from NEX `4.0.0` on, `4` before. -/
def ServerInterface.pidWidth (server : ServerInterface) : Nat := if server.libraryVersion4 then 8 else 4

namespace StreamIn

/-- `strings.TrimRight(s, "\x00")` on the bytes of a string: its trailing NUL bytes cut off. -/
def trimRightNul (s : List (BitVec 8)) : List (BitVec 8) := (s.reverse.dropWhile (· == 0)).reverse

/-- `ReadString`: a `uint32` length for a `StringLengthSize()` of `4`, else a `uint16` one, the
check against `Remaining()`, then the bytes without their trailing NULs. -/
def readString (server : ServerInterface) : EStateM String StreamIn (List (BitVec 8)) := do
  let length ← (if server.stringLengthSize = 4 then (·.toNat) <$> readUInt32LE
    else (·.toNat) <$> readUInt16LE).adaptExcept ("Failed to read NEX string length. " ++ ·)
  if (← get).remaining < length then
    throw "NEX string length longer than data size"
  let stringData ← readBytesNext length
  pure (trimRightNul stringData)

/-- `ReadStationURL`: the string `NewStationURL` parses, read by `ReadString`. -/
def readStationURL (server : ServerInterface) : EStateM String StreamIn (List (BitVec 8)) :=
  (readString server).adaptExcept ("Failed to read StationURL. " ++ ·)

/-- `ReadPID`: from NEX `4.0.0` on a `uint64` after a check of its own, before it a `uint32`;
`NewPID` widens either to 64 bits. -/
def readPID (server : ServerInterface) : EStateM String StreamIn (BitVec 64) := do
  if server.libraryVersion4 then
    if (← get).remaining < 8 then throw "Not enough data to read PID"
    let pid ← readUInt64LE
    pure pid
  else
    if (← get).remaining < 4 then throw "Not enough data to read legacy PID"
    let pid ← readUInt32LE
    pure (BitVec.ofNat 64 pid.toNat)

/-- `ReadDateTime`: the `uint64` a `DateTime` holds. -/
def readDateTime : EStateM String StreamIn (BitVec 64) :=
  readUInt64LE.adaptExcept ("Failed to read DateTime value. " ++ ·)

/-- `ReadRemaining`: every byte left. -/
def readRemaining : EStateM String StreamIn (List (BitVec 8)) := do
  readBytesNext (← get).remaining

/-- The `ReadList*` readers of variable-width values: a `uint32` count, not checked against
`Remaining()`, then the loop of the fixed-width readers. -/
def readListOf {α : Type} (name : String) (readValue : EStateM String StreamIn α) :
    EStateM String StreamIn (List α) := do
  let length ← readUInt32LE.adaptExcept (("Failed to read List<" ++ name ++ "> length. ") ++ ·)
  readListValues name readValue length.toNat 0

/-- `ReadListString`. -/
def readListString (server : ServerInterface) := readListOf "String" (readString server)
/-- `ReadListBuffer`. -/
def readListBuffer := readListOf "Buffer" readBuffer
/-- `ReadListQBuffer`. -/
def readListQBuffer := readListOf "qBuffer" readQBuffer
/-- `ReadListStationURL`. -/
def readListStationURL (server : ServerInterface) := readListOf "StationURL" (readStationURL server)

/-- `ReadListPID`: the loop of the others, but the error of its count names `List<String>`. -/
def readListPID (server : ServerInterface) : EStateM String StreamIn (List (BitVec 64)) := do
  let length ← readUInt32LE.adaptExcept ("Failed to read List<String> length. " ++ ·)
  readListValues "PID" (readPID server) length.toNat 0

/-- `m[key] = value` on a map kept as its bindings, one for each key. Keys are compared with
`DecidableEq K`, value equality. That is Go's `==` for the integer, string and byte keys the
readers give; for pointer keys such as `*types.PID` Go compares addresses, so every key a reader
makes is new, and for float keys `NaN` never equals itself and `+0` equals `-0`. -/
def mapSet {K V : Type} [DecidableEq K] (m : List (K × V)) (key : K) (value : V) : List (K × V) :=
  m.filter (·.1 ≠ key) ++ [(key, value)]

/-- The loop of `StreamReadMap` with `count` pairs left to read. -/
def readMapEntries {K V : Type} [DecidableEq K] (keyReader : EStateM String StreamIn K)
    (valueReader : EStateM String StreamIn V) : Nat → List (K × V) → EStateM String StreamIn (List (K × V))
  | 0, m => pure m
  | count + 1, m => do
    let key ← keyReader
    let value ← valueReader
    readMapEntries keyReader valueReader count (mapSet m key value)

/-- `StreamReadMap`: a `uint32` count, then that many key and value reads; the readers' errors
come back as they are. -/
def streamReadMap {K V : Type} [DecidableEq K] (keyReader : EStateM String StreamIn K)
    (valueReader : EStateM String StreamIn V) : EStateM String StreamIn (List (K × V)) := do
  let length ← readUInt32LE.adaptExcept ("Failed to read Map length. " ++ ·)
  readMapEntries keyReader valueReader length.toNat []

/-! ## Cutting the NULs -/

section Trim

variable (d : List (BitVec 8))

/-- NUL bytes after a string are cut with its own. -/
theorem trimRightNul_append_nul (k : Nat) : trimRightNul (d ++ List.replicate k 0) = trimRightNul d := by
  induction k with
  | zero => simp
  | succ k ih =>
    rw [List.replicate_succ', ← List.append_assoc, ← ih]
    simp [trimRightNul]

/-- A string that does not end in NUL comes back whole. -/
theorem trimRightNul_of_getLast (h : d.getLast? ≠ some 0) : trimRightNul d = d := by
  rw [← List.head?_reverse] at h
  unfold trimRightNul
  cases hd : d.reverse with
  | nil => obtain rfl : d = [] := List.reverse_eq_nil_iff.1 hd; rfl
  | cons a l =>
    rw [hd] at h
    have ha : a ≠ 0 := fun ha => h (by simp [ha])
    rw [List.dropWhile_cons_of_neg (by simpa using ha), ← hd, List.reverse_reverse]

/-- What `ReadString` returns never ends in NUL. -/
theorem getLast_trimRightNul : (trimRightNul d).getLast? ≠ some 0 := by
  rw [trimRightNul, List.getLast?_reverse]
  have := List.head?_dropWhile_not (· == 0) d.reverse
  cases h : (d.reverse.dropWhile (· == 0)).head? with
  | none => simp
  | some x =>
    rw [h] at this
    simpa using this

end Trim

/-! ## Each reader reads back its encoding -/

/-- `readValue` reads `content` back as `x`, wherever it starts and whatever follows it, and moves
past exactly it. -/
def ReadsContent {α : Type} (readValue : EStateM String StreamIn α) (content : List (BitVec 8)) (x : α) : Prop :=
  ∀ (s : StreamIn) (rest : List (BitVec 8)), s.unread = content ++ rest →
    readValue s = .ok x { s with offset := s.offset + content.length }

/-- An element reader reads back the encoding of every value of `P`. -/
def ReadsBack {α β : Type} (readValue : EStateM String StreamIn α) (enc : β → List (BitVec 8))
    (dec : β → α) (P : β → Prop) : Prop :=
  ∀ x, P x → ReadsContent readValue (enc x) (dec x)

variable {s : StreamIn} {rest : List (BitVec 8)}

/-- A length word read as a number. -/
theorem toNat_readPrimitive_of_unread {w n : Nat} {msg : String} (hn : n < 256 ^ w)
    (h : s.unread = encodeLE w n ++ rest) :
    ((·.toNat) <$> readPrimitive w msg (wordLE w)) s = .ok n { s with offset := s.offset + w } := by
  simp [Functor.map, EStateM.map, readPrimitive_of_unread h (length_encodeLE w n), toNat_wordLE_encodeLE,
    Nat.mod_eq_of_lt hn]

/-- `ReadString` reads back a length word and the bytes it counts, without their trailing NULs. -/
theorem readString_of_unread (server : ServerInterface) :
    ReadsBack (readString server) (fun d => encodeLE server.stringLengthWidth d.length ++ d) trimRightNul
      (fun d => d.length < 256 ^ server.stringLengthWidth) := by
  intro d hd s rest h
  have hlen : ((if server.stringLengthSize = 4 then (·.toNat) <$> readUInt32LE else (·.toNat) <$> readUInt16LE) :
      EStateM String StreamIn Nat) s = .ok d.length { s with offset := s.offset + server.stringLengthWidth } := by
    unfold ServerInterface.stringLengthWidth at hd h ⊢
    split_ifs at hd h ⊢ <;> exact toNat_readPrimitive_of_unread hd (by rw [h, List.append_assoc])
  have hrest : ({ s with offset := s.offset + server.stringLengthWidth } : StreamIn).unread = d ++ rest := by
    rw [unread_advance, h, List.append_assoc, List.drop_left' (length_encodeLE _ _)]
  simp only [readString, bind, EStateM.bind, EStateM.adaptExcept, hlen, get, getThe, MonadStateOf.get, EStateM.get,
    remaining, hrest, List.length_append, if_neg (by omega : ¬ d.length + rest.length < d.length)]
  simp [readBytesNext, hrest, pure, EStateM.pure, Nat.add_assoc]

/-- A two-byte string padded with a NUL comes back as its one letter, past all four bytes. -/
theorem readString_nul_padded :
    readString ⟨2, false, false⟩ (newStreamIn [2, 0, 65, 0, 9]) = .ok [65] ⟨[2, 0, 65, 0, 9], 4⟩ :=
  readString_of_unread ⟨2, false, false⟩ [65, 0] (by decide) _ [9] rfl

/-- A sized read reads back a length word of its width and the bytes it counts. -/
theorem readSized_readsBack {w : Nat} {msg name : String} :
    ReadsBack (readSized (readPrimitive w msg (wordLE w)) name) (fun d => encodeLE w d.length ++ d) id
      (fun d => d.length < 256 ^ w) := fun d hd s rest h => by
  have h' : s.unread = encodeLE w d.length ++ (d ++ rest) := by rw [h, List.append_assoc]
  rw [readSized_of_unread h' (by rw [Nat.mod_eq_of_lt hd]; simp), Nat.mod_eq_of_lt hd, List.take_left]
  simp only [List.length_append, length_encodeLE, id_eq, Nat.add_assoc]

theorem readBuffer_of_unread :
    ReadsBack readBuffer (fun d => encodeLE 4 d.length ++ d) id (fun d => d.length < 2 ^ 32) :=
  fun d hd => readSized_readsBack d (by simpa using hd)

theorem readQBuffer_of_unread :
    ReadsBack readQBuffer (fun d => encodeLE 2 d.length ++ d) id (fun d => d.length < 2 ^ 16) :=
  fun d hd => readSized_readsBack d (by simpa using hd)

theorem wordLE_encodeLE {w n : Nat} (hn : n < 256 ^ w) : wordLE w (encodeLE w n) = BitVec.ofNat (8 * w) n :=
  BitVec.eq_of_toNat_eq (by
    rw [toNat_wordLE_encodeLE, BitVec.toNat_ofNat, Nat.mod_eq_of_lt hn, Nat.mod_eq_of_lt (by rw [Nat.pow_mul]; exact hn)])

/-- A count below `2 ^ 32` reads back as itself. -/
theorem readUInt32LE_of_unread {n : Nat} (hn : n < 2 ^ 32) (h : s.unread = encodeLE 4 n ++ rest) :
    readUInt32LE s = .ok (BitVec.ofNat 32 n) { s with offset := s.offset + 4 } :=
  (readPrimitive_of_unread h (length_encodeLE 4 _)).trans (by rw [wordLE_encodeLE (by simpa using hn)])

/-- `ReadPID` reads back a PID of its width, widened to 64 bits. -/
theorem readPID_of_unread (server : ServerInterface) :
    ReadsBack (readPID server) (encodeLE server.pidWidth) (BitVec.ofNat 64) (· < 256 ^ server.pidWidth) := by
  intro v hv s rest h
  have hrem : server.pidWidth ≤ s.remaining := by simp [remaining, h]
  unfold ServerInterface.pidWidth at hv h hrem ⊢
  simp only [readPID]
  split_ifs at hv h hrem ⊢
  · simp only [bind, EStateM.bind, get, getThe, MonadStateOf.get, EStateM.get, if_neg (Nat.not_lt.2 hrem),
      readUInt64LE, readPrimitive_of_unread h (length_encodeLE 8 v), length_encodeLE, pure, EStateM.pure]
    rw [wordLE_encodeLE hv]
  · simp only [bind, EStateM.bind, get, getThe, MonadStateOf.get, EStateM.get, if_neg (Nat.not_lt.2 hrem),
      readUInt32LE, readPrimitive_of_unread h (length_encodeLE 4 v), length_encodeLE, pure, EStateM.pure,
      toNat_wordLE_encodeLE, Nat.mod_eq_of_lt hv]

/-- Before NEX `4.0.0` a PID is four bytes, widened. -/
theorem readPID_legacy :
    readPID ⟨2, false, false⟩ (newStreamIn [0x39, 0x30, 0, 0, 7]) = .ok 12345 ⟨[0x39, 0x30, 0, 0, 7], 4⟩ :=
  readPID_of_unread ⟨2, false, false⟩ 12345 (by decide) _ [7] rfl

/-- `ReadUInt8` reads back its byte. -/
theorem readUInt8_of_unread : ReadsBack readUInt8 (fun b => [b]) id (fun _ => True) := 
    fun b _ s rest (h : s.unread = [b] ++ rest) => by
  rw [readUInt8, readPrimitive_of_unread (w := 1) h rfl, wordLE_byte]
  rfl

/-! ## Lists of them -/

section Lists

variable {α β : Type} {name : String} {readValue : EStateM String StreamIn α} {enc : β → List (BitVec 8)}
  {dec : β → α} {P : β → Prop}

/-- The loop reads back the values whose encodings follow one another, past exactly them. -/
theorem readListValues_of_unread (hr : ReadsBack readValue enc dec P) :
    ∀ (xs : List β) (i : Nat) {s : StreamIn} {rest : List (BitVec 8)}, (∀ x ∈ xs, P x) →
      s.unread = xs.flatMap enc ++ rest →
      readListValues name readValue xs.length i s = .ok (xs.map dec) { s with offset := s.offset + (xs.flatMap enc).length }
  | [], _, _, _, _, _ => rfl
  | x :: xs, i, s, rest, hP, h => by
    have hx := hr x (hP x (List.mem_cons_self _ _)) s (xs.flatMap enc ++ rest) (by simpa using h)
    have hxs := readListValues_of_unread hr xs (i + 1) (s := { s with offset := s.offset + (enc x).length })
      (fun y hy => hP y (List.mem_cons_of_mem _ hy))
      (by rw [unread_advance, h, List.flatMap_cons, List.append_assoc, List.drop_left])
    simp only [List.length_cons, readListValues, bind, EStateM.bind, EStateM.adaptExcept, hx, hxs, pure,
      EStateM.pure, List.map_cons, List.flatMap_cons, List.length_append, Nat.add_assoc]

/-- The loop fails at the first value that does not read, naming its index, with the stream and
the message that value's reader left. -/
theorem readListValues_error (hr : ReadsBack readValue enc dec P) :
    ∀ (xs : List β) (m i : Nat) {s s' : StreamIn} {rest : List (BitVec 8)} {msg : String}, (∀ x ∈ xs, P x) →
      s.unread = xs.flatMap enc ++ rest →
      readValue { s with offset := s.offset + (xs.flatMap enc).length } = .error msg s' →
      readListValues name readValue (xs.length + m + 1) i s =
        .error ("Failed to read List<" ++ name ++ "> value at index " ++ toString (i + xs.length) ++ ". " ++ msg) s'
  | [], _, _, s, _, _, _, _, _, hfail => by
    simp only [List.flatMap_nil, List.length_nil, Nat.add_zero] at hfail
    simp [readListValues, bind, EStateM.bind, EStateM.adaptExcept, hfail]
  | x :: xs, m, i, s, s', rest, msg, hP, h, hfail => by
    have hx := hr x (hP x (List.mem_cons_self _ _)) s (xs.flatMap enc ++ rest) (by simpa using h)
    have hfail' : readValue { s with offset := s.offset + (enc x).length + (xs.flatMap enc).length } = .error msg s' := by
      simpa [Nat.add_assoc] using hfail
    have hxs := readListValues_error hr xs m (i + 1) (fun y hy => hP y (List.mem_cons_of_mem _ hy))
      (by rw [unread_advance, h, List.flatMap_cons, List.append_assoc, List.drop_left]) hfail'
    rw [List.length_cons, Nat.add_right_comm xs.length 1 m, show i + (xs.length + 1) = i + 1 + xs.length by omega,
      readListValues]
    simp only [bind, EStateM.bind, EStateM.adaptExcept, hx, hxs]

/-- The second of two buffers claims five bytes where one is left: the list fails at index 1. -/
theorem readListValues_short_second :
    readListValues "Buffer" readBuffer 2 0 ⟨[2, 0, 0, 0, 1, 0, 0, 0, 7, 5, 0, 0, 0, 1], 4⟩ =
      .error "Failed to read List<Buffer> value at index 1. NEX buffer length longer than data size"
        ⟨[2, 0, 0, 0, 1, 0, 0, 0, 7, 5, 0, 0, 0, 1], 13⟩ :=
  readListValues_error readBuffer_of_unread [[7]] 0 0 (by decide) rfl rfl

/-- A variable-width list reads back a count and the encodings of that many values. -/
theorem readListOf_of_unread (hr : ReadsBack readValue enc dec P) (xs : List β) (hP : ∀ x ∈ xs, P x)
    (hn : xs.length < 2 ^ 32) {s : StreamIn} {rest : List (BitVec 8)}
    (h : s.unread = encodeLE 4 xs.length ++ xs.flatMap enc ++ rest) :
    readListOf name readValue s = .ok (xs.map dec) { s with offset := s.offset + 4 + (xs.flatMap enc).length } := by
  have hcount := readUInt32LE_of_unread hn (by rw [h, List.append_assoc])
  have hxs : readListValues name readValue xs.length 0 _ = _ :=
    readListValues_of_unread hr xs 0 (s := { s with offset := s.offset + 4 }) hP
      (by rw [unread_advance, h, List.append_assoc, List.drop_left' (length_encodeLE 4 _)])
  simp only [readListOf, bind, EStateM.bind, EStateM.adaptExcept, hcount, BitVec.toNat_ofNat,
    Nat.mod_eq_of_lt hn, hxs]

/-- Two buffers, of one byte and of none, read back as a list of two. -/
theorem readListBuffer_two :
    readListBuffer (newStreamIn [2, 0, 0, 0, 1, 0, 0, 0, 72, 0, 0, 0, 0]) =
      .ok [[72], []] ⟨[2, 0, 0, 0, 1, 0, 0, 0, 72, 0, 0, 0, 0], 13⟩ :=
  readListOf_of_unread readBuffer_of_unread [[72], []] (by decide) (by decide) rfl

end Lists

/-- A `ReadListPID` whose count is cut short reports a `List<String>` error. -/
theorem readListPID_of_short (server : ServerInterface) {s : StreamIn} (h : s.remaining < 4) :
    readListPID server s = .error "Failed to read List<String> length. Not enough data to read uint32" s := by
  simp [readListPID, bind, EStateM.bind, EStateM.adaptExcept, readUInt32LE, readPrimitive_of_lt h]

example :
    readListPID ⟨4, true, true⟩ (newStreamIn [1, 0]) =
      .error "Failed to read List<String> length. Not enough data to read uint32" (newStreamIn [1, 0]) :=
  readListPID_of_short ⟨4, true, true⟩ (by decide)

/-! ## Maps -/

section Map

variable {K V βK βV : Type} [DecidableEq K]

theorem lookup_filter_ne (m : List (K × V)) (key k : K) :
    (m.filter (·.1 ≠ key)).lookup k = if k = key then none else m.lookup k := by
  induction m with
  | nil => simp
  | cons p m ih =>
    obtain ⟨a, b⟩ := p
    rw [List.filter_cons]
    by_cases ha : a = key
    · rw [if_neg (by simp [ha]), ih]
      by_cases hk : k = key
      · simp [hk]
      · simp [hk, List.lookup_cons, beq_eq_false_iff_ne.2 (fun h => hk (h.trans ha))]
    · rw [if_pos (by simpa using ha)]
      by_cases hk : k = a
      · subst hk; simp [ha]
      · simp only [List.lookup_cons, beq_eq_false_iff_ne.2 hk, ih]

/-- After `m[key] = value` the key is bound to the value and every other key as before. -/
theorem lookup_mapSet (m : List (K × V)) (key k : K) (value : V) :
    (mapSet m key value).lookup k = if k = key then some value else m.lookup k := by
  rw [mapSet, List.lookup_append, lookup_filter_ne]
  split_ifs with hk
  · simp [hk]
  · simp [List.lookup_cons, beq_eq_false_iff_ne.2 hk]

theorem nodup_mapSet {m : List (K × V)} (h : (m.map Prod.fst).Nodup) (key : K) (value : V) :
    ((mapSet m key value).map Prod.fst).Nodup := by
  rw [mapSet, List.map_append, List.nodup_append]
  refine ⟨h.sublist ((List.filter_sublist _).map _), List.nodup_singleton _, ?_⟩
  intro a ha hb
  simp only [List.map_cons, List.map_nil, List.mem_singleton] at hb
  obtain ⟨p, hp, rfl⟩ := List.mem_map.1 ha
  simpa [hb] using (List.mem_filter.1 hp).2

variable {keyReader : EStateM String StreamIn K} {valueReader : EStateM String StreamIn V}
  {encK : βK → List (BitVec 8)} {decK : βK → K} {PK : βK → Prop}
  {encV : βV → List (BitVec 8)} {decV : βV → V} {PV : βV → Prop}

/-- The loop reads the pairs back; each key is then bound to the last value read under it, and a
key of the map before to its old value if no pair names it. -/
theorem readMapEntries_of_unread (hk : ReadsBack keyReader encK decK PK) (hv : ReadsBack valueReader encV decV PV) :
    ∀ (ps : List (βK × βV)) (m : List (K × V)) {s : StreamIn} {rest : List (BitVec 8)},
      (∀ p ∈ ps, PK p.1 ∧ PV p.2) → s.unread = ps.flatMap (fun p => encK p.1 ++ encV p.2) ++ rest →
      ∃ m', readMapEntries keyReader valueReader ps.length m s =
          .ok m' { s with offset := s.offset + (ps.flatMap fun p => encK p.1 ++ encV p.2).length } ∧
        (∀ k, m'.lookup k = ((ps.map fun p => (decK p.1, decV p.2)).reverse ++ m).lookup k) ∧
        ((m.map Prod.fst).Nodup → (m'.map Prod.fst).Nodup)
  | [], m, _, _, _, _ => ⟨m, rfl, fun _ => rfl, id⟩
  | p :: ps, m, s, rest, hP, h => by
    obtain ⟨hpk, hpv⟩ := hP p (List.mem_cons_self _ _)
    have hkey := hk p.1 hpk s _ (by rw [h, List.flatMap_cons, List.append_assoc, List.append_assoc])
    have hval := hv p.2 hpv { s with offset := s.offset + (encK p.1).length } (ps.flatMap (fun p => encK p.1 ++ encV p.2) ++ rest)
      (by rw [unread_advance, h, List.flatMap_cons, List.append_assoc, List.append_assoc, List.drop_left])
    obtain ⟨m', hrun, hlook, hnodup⟩ := readMapEntries_of_unread hk hv ps (mapSet m (decK p.1) (decV p.2))
      (s := { s with offset := s.offset + (encK p.1).length + (encV p.2).length })
      (fun q hq => hP q (List.mem_cons_of_mem _ hq))
      (by rw [show s.offset + (encK p.1).length + (encV p.2).length = s.offset + (encK p.1 ++ encV p.2).length by
          simp [Nat.add_assoc], unread_advance, h, List.flatMap_cons, List.append_assoc, List.drop_left])
    refine ⟨m', ?_, fun k => ?_, fun h => hnodup (nodup_mapSet h _ _)⟩
    · simp only [Nat.add_assoc] at hrun
      simp only [List.length_cons, readMapEntries, bind, EStateM.bind, hkey, hval, hrun, List.flatMap_cons,
        List.length_append, Nat.add_assoc]
    · rw [hlook, List.lookup_append, List.map_cons, List.reverse_cons, List.append_assoc, List.lookup_append,
        lookup_mapSet]
      by_cases hkp : k = decK p.1
      · simp [hkp]
      · simp [List.lookup_cons, hkp, beq_eq_false_iff_ne.2 hkp]

/-- `StreamReadMap` reads back a count and that many pairs; the map has each key once, bound to
the last value written under it. Keys are the same when they are equal values (`mapSet`), as
Go's `==` has them for integer and string keys, not for pointer or float keys. -/
theorem streamReadMap_of_unread (hk : ReadsBack keyReader encK decK PK) (hv : ReadsBack valueReader encV decV PV)
    (ps : List (βK × βV)) (hP : ∀ p ∈ ps, PK p.1 ∧ PV p.2) (hn : ps.length < 2 ^ 32) {s : StreamIn}
    {rest : List (BitVec 8)} (h : s.unread = encodeLE 4 ps.length ++ ps.flatMap (fun p => encK p.1 ++ encV p.2) ++ rest) :
    ∃ m, streamReadMap keyReader valueReader s =
        .ok m { s with offset := s.offset + 4 + (ps.flatMap fun p => encK p.1 ++ encV p.2).length } ∧
      (m.map Prod.fst).Nodup ∧ ∀ k, m.lookup k = (ps.map fun p => (decK p.1, decV p.2)).reverse.lookup k := by
  have hcount := readUInt32LE_of_unread hn (by rw [h, List.append_assoc])
  obtain ⟨m, hrun, hlook, hnodup⟩ := readMapEntries_of_unread hk hv ps [] (s := { s with offset := s.offset + 4 }) hP
    (by rw [unread_advance, h, List.append_assoc, List.drop_left' (length_encodeLE 4 _)])
  refine ⟨m, ?_, hnodup List.nodup_nil, fun k => by rw [hlook, List.append_nil]⟩
  simp only [streamReadMap, bind, EStateM.bind, EStateM.adaptExcept, hcount, BitVec.toNat_ofNat,
    Nat.mod_eq_of_lt hn, hrun]

/-- A map with the key `1` written twice binds it to the later value. -/
theorem streamReadMap_repeated_key :
    ∃ m, streamReadMap readUInt8 readUInt8 (newStreamIn [3, 0, 0, 0, 1, 10, 2, 20, 1, 30]) =
        .ok m ⟨[3, 0, 0, 0, 1, 10, 2, 20, 1, 30], 10⟩ ∧
      (m.map Prod.fst).Nodup ∧ ∀ k, m.lookup k = [(1, 30), (2, 20), (1, 10)].lookup k :=
  streamReadMap_of_unread readUInt8_of_unread readUInt8_of_unread [(1, 10), (2, 20), (1, 30)]
    (by decide) (by decide) rfl

end Map

end StreamIn

end NexGo

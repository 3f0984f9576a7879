import NexGo.Stream.Endian

/-!
# `StreamIn`: bounds-checked reads (`stream_in.go`)

A `StreamIn` is a crunch buffer, its bytes and its byte offset. Every reader is a method on
the mutable stream that returns a value or an error; here it is an `EStateM String StreamIn`
action, so that an error still says where the stream was left. The fixed-width readers
(`ReadUInt8` … `ReadBool`, lines 28-197) are one definition, `readPrimitive`, applied to each
reader's width, message and decoding: each checks `Remaining()` first and leaves the stream
where it was when the check fails. Signed and floating-point values are their bits: Go's
`int16(u)` and `ReadF32LENext` reinterpret the word they read.
-/

namespace NexGo
set_option autoImplicit false

/-- The crunch buffer under a `StreamIn`. The `Server` field is read only by readers this
model leaves out (`ReadPID`, `ReadString`, structures). -/
structure StreamIn where
  bytes : List (BitVec 8)
  offset : Nat
  deriving DecidableEq, Repr

/-- `NewStreamIn`: a stream at the start of `data`. -/
def newStreamIn (data : List (BitVec 8)) : StreamIn := ⟨data, 0⟩

namespace StreamIn

/-- The bytes from the offset on, `stream.Bytes()[stream.ByteOffset():]`. -/
def unread (s : StreamIn) : List (BitVec 8) := s.bytes.drop s.offset

/-- `Remaining`. -/
def remaining (s : StreamIn) : Nat := s.unread.length

/-- crunch's `ReadBytesNext(n)`; every caller has checked that `n` bytes remain. -/
def readBytesNext (n : Nat) : EStateM String StreamIn (List (BitVec 8)) :=
  fun s => .ok (s.unread.take n) { s with offset := s.offset + n }

/-- The fixed-width readers: fail with `msg`, the stream untouched, when fewer than `w` bytes
remain; otherwise decode the next `w` bytes and move past them. -/
def readPrimitive {α : Type} (w : Nat) (msg : String) (decode : List (BitVec 8) → α) :
    EStateM String StreamIn α :=
  fun s => if s.remaining < w then .error msg s
    else .ok (decode (s.unread.take w)) { s with offset := s.offset + w }

/-- The `w`-byte little-endian word of a reader. -/
def wordLE (w : Nat) (bs : List (BitVec 8)) : BitVec (8 * w) := BitVec.ofNat (8 * w) (decodeLE bs)

/-- The `w`-byte big-endian word of a reader. -/
def wordBE (w : Nat) (bs : List (BitVec 8)) : BitVec (8 * w) := BitVec.ofNat (8 * w) (decodeBE bs)

def readUInt8 := readPrimitive 1 "Not enough data to read uint8" (wordLE 1)
def readInt8 := readPrimitive 1 "Not enough data to read int8" (wordLE 1)
def readUInt16LE := readPrimitive 2 "Not enough data to read uint16" (wordLE 2)
def readUInt16BE := readPrimitive 2 "Not enough data to read uint16" (wordBE 2)
def readInt16LE := readPrimitive 2 "Not enough data to read int16" (wordLE 2)
def readInt16BE := readPrimitive 2 "Not enough data to read int16" (wordBE 2)
def readUInt32LE := readPrimitive 4 "Not enough data to read uint32" (wordLE 4)
def readUInt32BE := readPrimitive 4 "Not enough data to read uint32" (wordBE 4)
def readInt32LE := readPrimitive 4 "Not enough data to read int32" (wordLE 4)
def readInt32BE := readPrimitive 4 "Not enough data to read int32" (wordBE 4)
def readUInt64LE := readPrimitive 8 "Not enough data to read uint64" (wordLE 8)
def readUInt64BE := readPrimitive 8 "Not enough data to read uint64" (wordBE 8)
def readInt64LE := readPrimitive 8 "Not enough data to read int64" (wordLE 8)
def readInt64BE := readPrimitive 8 "Not enough data to read int64" (wordBE 8)
def readFloat32LE := readPrimitive 4 "Not enough data to read float32" (wordLE 4)
def readFloat32BE := readPrimitive 4 "Not enough data to read float32" (wordBE 4)
def readFloat64LE := readPrimitive 8 "Not enough data to read float64" (wordLE 8)
def readFloat64BE := readPrimitive 8 "Not enough data to read float64" (wordBE 8)

/-- `ReadBool`: the byte is `true` exactly when it is `1`. -/
def readBool := readPrimitive 1 "Not enough data to read bool" fun bs => decodeLE bs == 1

/-- `ReadBuffer` and `ReadQBuffer`: a length read by `readLength`, then that many bytes. -/
def readSized {w : Nat} (readLength : EStateM String StreamIn (BitVec w)) (name : String) :
    EStateM String StreamIn (List (BitVec 8)) := do
  let length ← readLength.adaptExcept (("Failed to read NEX " ++ name ++ " length. ") ++ ·)
  if (← get).remaining < length.toNat then
    throw ("NEX " ++ name ++ " length longer than data size")
  readBytesNext length.toNat

/-- `ReadBuffer`: a `uint32` length, then that many bytes. -/
def readBuffer := readSized readUInt32LE "buffer"

/-- `ReadQBuffer`: a `uint16` length, then that many bytes. -/
def readQBuffer := readSized readUInt16LE "qBuffer"

/-! ## Spec lemmas -/

variable {α : Type} {w : Nat} {msg : String} {decode : List (BitVec 8) → α} {s : StreamIn}

@[simp] theorem unread_newStreamIn (data : List (BitVec 8)) : (newStreamIn data).unread = data := rfl

theorem unread_advance (s : StreamIn) (n : Nat) :
    ({ s with offset := s.offset + n } : StreamIn).unread = s.unread.drop n := by
  simp [unread, Nat.add_comm]

/-- A reader with too few bytes fails and leaves the stream where it was. -/
theorem readPrimitive_of_lt (h : s.remaining < w) : readPrimitive w msg decode s = .error msg s := by
  simp [readPrimitive, h]

/-- A reader with enough bytes decodes the next `w` and moves past them. -/
theorem readPrimitive_of_le (h : w ≤ s.remaining) :
    readPrimitive w msg decode s = .ok (decode (s.unread.take w)) { s with offset := s.offset + w } := by
  simp [readPrimitive, Nat.not_lt.2 h]

/-- Reading `w` bytes off `bs ++ rest` gives `bs` and leaves `rest` unread. -/
theorem readPrimitive_of_unread {bs rest : List (BitVec 8)} (h : s.unread = bs ++ rest)
    (hw : bs.length = w) :
    readPrimitive w msg decode s = .ok (decode bs) { s with offset := s.offset + w } := by
  rw [readPrimitive_of_le (by simp [remaining, h, hw]), h, List.take_left' hw]

@[simp] theorem wordLE_byte (v : BitVec 8) : wordLE 1 [v] = v := by
  simp [wordLE]

theorem toNat_wordLE_encodeLE (w n : Nat) : (wordLE w (encodeLE w n)).toNat = n % 256 ^ w := by
  rw [wordLE, BitVec.toNat_ofNat, decodeLE_encodeLE, Nat.pow_mul]
  exact Nat.mod_mod_of_dvd _ (Nat.dvd_refl _)

section readSized

variable {name : String} {n : Nat} {rest : List (BitVec 8)}

/-- A sized read whose length word is cut short fails there, the stream untouched. -/
theorem readSized_of_lt (h : s.remaining < w) :
    readSized (readPrimitive w msg (wordLE w)) name s =
      .error ("Failed to read NEX " ++ name ++ " length. " ++ msg) s := by
  simp [readSized, bind, EStateM.bind, EStateM.adaptExcept, readPrimitive_of_lt h]

/-- A sized read returns the bytes the length word counts, as many as it can count. -/
theorem readSized_of_unread (h : s.unread = encodeLE w n ++ rest) (hn : n % 256 ^ w ≤ rest.length) :
    readSized (readPrimitive w msg (wordLE w)) name s =
      .ok (rest.take (n % 256 ^ w)) { s with offset := s.offset + w + n % 256 ^ w } := by
  have hr : readPrimitive w msg (wordLE w) s = .ok _ _ := readPrimitive_of_unread h (length_encodeLE w n)
  simp only [readSized, bind, EStateM.bind, EStateM.adaptExcept, hr, get, getThe,
    MonadStateOf.get, EStateM.get, toNat_wordLE_encodeLE, remaining, unread_advance, h,
    List.drop_left' (length_encodeLE w n), if_neg (Nat.not_lt.2 hn)]
  simp [pure, EStateM.pure, EStateM.bind, readBytesNext, unread_advance, h, Nat.add_assoc]

/-- A sized read whose length word counts more bytes than remain fails after the word. -/
theorem readSized_of_unread_lt (h : s.unread = encodeLE w n ++ rest) (hn : rest.length < n % 256 ^ w) :
    readSized (readPrimitive w msg (wordLE w)) name s =
      .error ("NEX " ++ name ++ " length longer than data size") { s with offset := s.offset + w } := by
  have hr : readPrimitive w msg (wordLE w) s = .ok _ _ := readPrimitive_of_unread h (length_encodeLE w n)
  simp only [readSized, bind, EStateM.bind, EStateM.adaptExcept, hr, get, getThe,
    MonadStateOf.get, EStateM.get, toNat_wordLE_encodeLE, remaining, unread_advance, h,
    List.drop_left' (length_encodeLE w n), if_pos hn]
  rfl

end readSized

end StreamIn

end NexGo

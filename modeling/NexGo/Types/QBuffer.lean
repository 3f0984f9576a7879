import NexGo.Stream.StreamIn
import NexGo.Stream.ByteStreamOut

/-!
# `QBuffer` (`types`, `WriteTo` and `ExtractFrom`)

A `QBuffer` is a byte slice written behind a `uint16` length. `WriteTo` converts the slice's
length with Go's `uint16(length)` and then writes the whole slice, so a slice of `2 ^ 16` bytes
or more goes out behind the length modulo `2 ^ 16`. Both decoders, `ExtractFrom` and
`StreamIn.ReadQBuffer`, then return that many bytes (`readQBuffer_writeTo`,
`extractFrom_writeTo`); below `2 ^ 16` bytes it is the round trip. `qbuffer_round_trip` states
both.
-/

namespace NexGo
set_option autoImplicit false

namespace QBuffer

/-- `WriteTo`, for the `ByteStreamOut` writable: the length as a `uint16`, then the bytes when
there are any. -/
def writeTo (qb : List (BitVec 8)) (writable : ByteStreamOut) : ByteStreamOut :=
  let writable := writable.writePrimitiveUInt16LE (BitVec.ofNat 16 qb.length)
  if qb.length > 0 then writable.write qb else writable

/-- The two methods of `types.Readable` that `ExtractFrom` calls. -/
structure Readable where
  readPrimitiveUInt16LE : EStateM String StreamIn (BitVec 16)
  read : Nat → EStateM String StreamIn (List (BitVec 8))

/-- `ExtractFrom`: a `uint16` length, then `Read(length)`. -/
def extractFrom (readable : Readable) : EStateM String StreamIn (List (BitVec 8)) := do
  let length ← readable.readPrimitiveUInt16LE.adaptExcept ("Failed to read NEX qBuffer length. " ++ ·)
  (readable.read length.toNat).adaptExcept ("Failed to read NEX qBuffer data. " ++ ·)

/-- Modelled from the spec: `ByteStreamIn`, the `Readable` of the `types` package, which is not
in the repository's files. Its reads are bounds-checked as `StreamIn`'s are; the text `oob` of
its error for a short `Read` is not given. -/
def byteStreamIn (oob : String) : Readable where
  readPrimitiveUInt16LE := StreamIn.readUInt16LE
  read n := fun s => if s.remaining < n then .error oob s else StreamIn.readBytesNext n s

/-- What `WriteTo` appends: the length modulo `2 ^ 16`, then every byte. -/
@[simp] theorem bytes_writeTo (qb : List (BitVec 8)) (out : ByteStreamOut) :
    (writeTo qb out).bytes = out.bytes ++ encodeLE 2 qb.length ++ qb := by
  have hlen : (out.writePrimitiveUInt16LE (BitVec.ofNat 16 qb.length)).bytes =
      out.bytes ++ encodeLE 2 qb.length := by
    rw [ByteStreamOut.writePrimitiveUInt16LE, ByteStreamOut.bytes_writeNext, BitVec.toNat_ofNat]
    exact congrArg _ (encodeLE_mod 2 qb.length)
  by_cases h : qb.length > 0
  · simp only [writeTo, h, if_true, ByteStreamOut.bytes_write, hlen]
  · obtain rfl : qb = [] := List.eq_nil_of_length_eq_zero (Nat.eq_zero_of_not_pos h)
    simpa [writeTo] using hlen

variable (qb : List (BitVec 8)) (out : ByteStreamOut) (rest : List (BitVec 8))

/-- A stream over what follows `out`: `qb` written, then any `rest`. -/
def written : StreamIn := ⟨(writeTo qb out).bytes ++ rest, out.bytes.length⟩

theorem unread_written : (written qb out rest).unread = encodeLE 2 qb.length ++ (qb ++ rest) := by
  simp [written, StreamIn.unread, List.drop_left']

/-- `ReadQBuffer` after `WriteTo` returns the first `len(qb) mod 2 ^ 16` bytes of `qb`. -/
theorem readQBuffer_writeTo :
    StreamIn.readQBuffer (written qb out rest) =
      .ok (qb.take (qb.length % 65536)) { written qb out rest with
        offset := out.bytes.length + 2 + qb.length % 65536 } := by
  have hn : qb.length % 256 ^ 2 ≤ (qb ++ rest).length := by simp; omega
  rw [StreamIn.readQBuffer, StreamIn.readUInt16LE,
    StreamIn.readSized_of_unread (unread_written qb out rest) hn,
    List.take_append_of_le_length (by omega)]
  rfl

/-- `ExtractFrom` after `WriteTo` returns the first `len(qb) mod 2 ^ 16` bytes of `qb`. -/
theorem extractFrom_writeTo (oob : String) :
    extractFrom (byteStreamIn oob) (written qb out rest) =
      .ok (qb.take (qb.length % 65536)) { written qb out rest with
        offset := out.bytes.length + 2 + qb.length % 65536 } := by
  have hr : StreamIn.readUInt16LE (written qb out rest) = .ok _ _ :=
    StreamIn.readPrimitive_of_unread (unread_written qb out rest) (length_encodeLE 2 _)
  have hrest : ({ written qb out rest with offset := (written qb out rest).offset + 2 } : StreamIn).unread =
      qb ++ rest := by
    rw [StreamIn.unread_advance, unread_written, List.drop_left' (length_encodeLE 2 _)]
  have hfits : ¬ (qb ++ rest).length < qb.length % 256 ^ 2 := by simp; omega
  simp only [extractFrom, byteStreamIn, bind, EStateM.bind, EStateM.adaptExcept, hr,
    StreamIn.toNat_wordLE_encodeLE, StreamIn.remaining, hrest, if_neg hfits, StreamIn.readBytesNext,
    List.take_append_of_le_length (Nat.mod_le _ _)]
  rfl

/-- `WriteTo` writes the length modulo `2 ^ 16` and then every byte, and both decoders read back
the first `len(qb) mod 2 ^ 16` bytes and stop right after them, whatever `out` held before and
whatever follows. Below `2 ^ 16` bytes that is `qb` itself: the round trip. -/
theorem qbuffer_round_trip (oob : String) :
    (writeTo qb out).bytes = out.bytes ++ encodeLE 2 qb.length ++ qb ∧
      (StreamIn.readQBuffer (written qb out rest) =
          .ok (qb.take (qb.length % 65536)) { written qb out rest with
            offset := out.bytes.length + 2 + qb.length % 65536 } ∧
        extractFrom (byteStreamIn oob) (written qb out rest) =
          .ok (qb.take (qb.length % 65536)) { written qb out rest with
            offset := out.bytes.length + 2 + qb.length % 65536 }) ∧
      (qb.length < 65536 →
        StreamIn.readQBuffer (written qb out rest) =
            .ok qb { written qb out rest with offset := out.bytes.length + 2 + qb.length } ∧
          extractFrom (byteStreamIn oob) (written qb out rest) =
            .ok qb { written qb out rest with offset := out.bytes.length + 2 + qb.length }) := by
  refine ⟨bytes_writeTo qb out, ⟨readQBuffer_writeTo qb out rest, extractFrom_writeTo qb out rest oob⟩, fun h => ?_⟩
  rw [readQBuffer_writeTo, extractFrom_writeTo, Nat.mod_eq_of_lt h, List.take_length]
  exact ⟨rfl, rfl⟩

theorem qbuffer_round_trip_of_two_bytes :
    ([7, 9] : List (BitVec 8)).length < 65536 ∧
      StreamIn.readQBuffer (written [7, 9] newByteStreamOut [1]) =
        .ok [7, 9] { written [7, 9] newByteStreamOut [1] with offset := 0 + 2 + 2 } ∧
      extractFrom (byteStreamIn "") (written [7, 9] newByteStreamOut [1]) =
        .ok [7, 9] { written [7, 9] newByteStreamOut [1] with offset := 0 + 2 + 2 } :=
  ⟨by decide, (qbuffer_round_trip [7, 9] newByteStreamOut [1] "").2.2 (by decide)⟩

/-- A slice of `2 ^ 16` bytes is written behind the length `0` and read back empty. -/
theorem qbuffer_long_read_back_empty :
    StreamIn.readQBuffer (written (List.replicate 65536 0) newByteStreamOut []) =
      .ok [] { written (List.replicate 65536 0) newByteStreamOut [] with offset := 2 } := by
  rw [readQBuffer_writeTo, List.length_replicate, Nat.mod_self, List.take_zero]
  rfl

end QBuffer

end NexGo

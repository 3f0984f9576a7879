import NexGo.Stream.Endian

/-!
# `ByteStreamOut`: appending writes (`byte_stream_out.go`)

Every writer of `ByteStreamOut` (lines 54-128) grows the crunch buffer by the width it writes
and then writes at the buffer's offset. `OutBuffer` is the crunch buffer with crunch's own
`Grow` and `WriteBytesNext`, which copies over the bytes from the offset on. From
`NewByteStreamOut` the offset is the end of the bytes and every writer keeps it there, so a
write appends; `ByteStreamOut` carries that as its field `atEnd`.
-/

namespace NexGo
set_option autoImplicit false

/-- The crunch buffer under a `ByteStreamOut`: its bytes and the write offset. -/
structure OutBuffer where
  bytes : List (BitVec 8)
  offset : Nat
  deriving DecidableEq, Repr

namespace OutBuffer

/-- crunch's `Grow(n)`: `n` zero bytes after the last one; the offset stays. -/
def grow (b : OutBuffer) (n : Nat) : OutBuffer := { b with bytes := b.bytes ++ List.replicate n 0 }

/-- crunch's `WriteBytesNext` (and `WriteByteNext`, `WriteU16LENext`, … on their word's bytes):
Go's `copy` of `data` over the bytes from the offset, which then moves past `data`. -/
def writeBytesNext (b : OutBuffer) (data : List (BitVec 8)) : OutBuffer :=
  ⟨b.bytes.take b.offset ++ data.take (b.bytes.length - b.offset) ++
    b.bytes.drop (b.offset + data.length), b.offset + data.length⟩

/-- Growing by the width of `data` and writing it at the end appends it. -/
theorem writeBytesNext_grow {b : OutBuffer} (h : b.offset = b.bytes.length) (data : List (BitVec 8)) :
    (b.grow data.length).writeBytesNext data = ⟨b.bytes ++ data, b.bytes.length + data.length⟩ := by
  simp [grow, writeBytesNext, h]

end OutBuffer

/-- `ByteStreamOut`: a crunch buffer whose offset is the end of its bytes. The library
versions and settings it carries are read by no writer modelled here. -/
structure ByteStreamOut where
  buffer : OutBuffer
  atEnd : buffer.offset = buffer.bytes.length

/-- `NewByteStreamOut`: an empty buffer. -/
def newByteStreamOut : ByteStreamOut := ⟨⟨[], 0⟩, rfl⟩

namespace ByteStreamOut

/-- The bytes written so far, `Bytes()`. -/
def bytes (s : ByteStreamOut) : List (BitVec 8) := s.buffer.bytes

/-- What every writer does: `Grow(len(data))`, then write `data` at the offset. -/
def writeNext (s : ByteStreamOut) (data : List (BitVec 8)) : ByteStreamOut :=
  ⟨(s.buffer.grow data.length).writeBytesNext data, by
    rw [OutBuffer.writeBytesNext_grow s.atEnd]; simp⟩

/-- `Write`. -/
def write (s : ByteStreamOut) (data : List (BitVec 8)) : ByteStreamOut := s.writeNext data

def writePrimitiveUInt8 (s : ByteStreamOut) (u8 : BitVec 8) := s.writeNext [u8]
def writePrimitiveUInt16LE (s : ByteStreamOut) (u16 : BitVec 16) := s.writeNext (encodeLE 2 u16.toNat)
def writePrimitiveUInt32LE (s : ByteStreamOut) (u32 : BitVec 32) := s.writeNext (encodeLE 4 u32.toNat)
def writePrimitiveUInt64LE (s : ByteStreamOut) (u64 : BitVec 64) := s.writeNext (encodeLE 8 u64.toNat)
def writePrimitiveInt8 (s : ByteStreamOut) (s8 : BitVec 8) := s.writeNext [s8]
def writePrimitiveInt16LE (s : ByteStreamOut) (s16 : BitVec 16) := s.writeNext (encodeLE 2 s16.toNat)
def writePrimitiveInt32LE (s : ByteStreamOut) (s32 : BitVec 32) := s.writeNext (encodeLE 4 s32.toNat)
def writePrimitiveInt64LE (s : ByteStreamOut) (s64 : BitVec 64) := s.writeNext (encodeLE 8 s64.toNat)
def writePrimitiveFloat32LE (s : ByteStreamOut) (f32 : BitVec 32) := s.writeNext (encodeLE 4 f32.toNat)
def writePrimitiveFloat64LE (s : ByteStreamOut) (f64 : BitVec 64) := s.writeNext (encodeLE 8 f64.toNat)

/-- `WritePrimitiveBool`: `1` for `true`, `0` for `false`. -/
def writePrimitiveBool (s : ByteStreamOut) (b : Bool) := s.writeNext [if b then 1 else 0]

@[simp] theorem bytes_newByteStreamOut : newByteStreamOut.bytes = [] := rfl

/-- Every writer appends what it writes. -/
@[simp] theorem bytes_writeNext (s : ByteStreamOut) (data : List (BitVec 8)) :
    (s.writeNext data).bytes = s.bytes ++ data := by
  simp [writeNext, bytes, OutBuffer.writeBytesNext_grow s.atEnd]

@[simp] theorem bytes_write (s : ByteStreamOut) (data : List (BitVec 8)) :
    (s.write data).bytes = s.bytes ++ data := bytes_writeNext s data

end ByteStreamOut

end NexGo

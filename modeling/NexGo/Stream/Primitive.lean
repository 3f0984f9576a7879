import NexGo.Stream.StreamIn
import NexGo.Stream.ByteStreamOut

/-!
# Primitive values through `ByteStreamOut` and back through `StreamIn`

A `Primitive` is a value of one of the Go types that `ByteStreamOut.WritePrimitive*` writes and
`StreamIn` reads little-endian. `Primitive.writeTo` picks the writer of the value's type and
`Primitive.reader` the matching reader. The last theorem reads any sequence back from a fresh
stream; after it nothing remains and every fixed-width reader fails without moving.
-/

namespace NexGo
set_option autoImplicit false

/-- A value of a primitive type; signed values are their two's complement bits. -/
inductive Primitive
  | uint8 (v : BitVec 8)
  | uint16 (v : BitVec 16)
  | uint32 (v : BitVec 32)
  | uint64 (v : BitVec 64)
  | int8 (v : BitVec 8)
  | int16 (v : BitVec 16)
  | int32 (v : BitVec 32)
  | int64 (v : BitVec 64)
  | bool (v : Bool)
  deriving DecidableEq, Repr

namespace Primitive

/-- The `WritePrimitive*` method of the value's type. -/
def writeTo : Primitive → ByteStreamOut → ByteStreamOut
  | uint8 v, s => s.writePrimitiveUInt8 v
  | uint16 v, s => s.writePrimitiveUInt16LE v
  | uint32 v, s => s.writePrimitiveUInt32LE v
  | uint64 v, s => s.writePrimitiveUInt64LE v
  | int8 v, s => s.writePrimitiveInt8 v
  | int16 v, s => s.writePrimitiveInt16LE v
  | int32 v, s => s.writePrimitiveInt32LE v
  | int64 v, s => s.writePrimitiveInt64LE v
  | bool v, s => s.writePrimitiveBool v

/-- The `StreamIn` reader of the value's type; the value itself is not looked at. -/
def reader : Primitive → EStateM String StreamIn Primitive
  | uint8 _ => uint8 <$> StreamIn.readUInt8
  | uint16 _ => uint16 <$> StreamIn.readUInt16LE
  | uint32 _ => uint32 <$> StreamIn.readUInt32LE
  | uint64 _ => uint64 <$> StreamIn.readUInt64LE
  | int8 _ => int8 <$> StreamIn.readInt8
  | int16 _ => int16 <$> StreamIn.readInt16LE
  | int32 _ => int32 <$> StreamIn.readInt32LE
  | int64 _ => int64 <$> StreamIn.readInt64LE
  | bool _ => bool <$> StreamIn.readBool

/-- The bytes the writer appends. -/
def encode : Primitive → List (BitVec 8)
  | uint8 v | int8 v => [v]
  | uint16 v | int16 v => encodeLE 2 v.toNat
  | uint32 v | int32 v => encodeLE 4 v.toNat
  | uint64 v | int64 v => encodeLE 8 v.toNat
  | bool v => [if v then 1 else 0]

@[simp] theorem bytes_writeTo (p : Primitive) (s : ByteStreamOut) :
    (p.writeTo s).bytes = s.bytes ++ p.encode := by
  cases p <;> simp [writeTo, encode, ByteStreamOut.writePrimitiveUInt8,
    ByteStreamOut.writePrimitiveUInt16LE, ByteStreamOut.writePrimitiveUInt32LE,
    ByteStreamOut.writePrimitiveUInt64LE, ByteStreamOut.writePrimitiveInt8,
    ByteStreamOut.writePrimitiveInt16LE, ByteStreamOut.writePrimitiveInt32LE,
    ByteStreamOut.writePrimitiveInt64LE, ByteStreamOut.writePrimitiveBool]

theorem map_ok {α β : Type} (f : α → β) (x : EStateM String StreamIn α) (s : StreamIn) (a : α)
    (s' : StreamIn) (h : x s = .ok a s') : (f <$> x) s = .ok (f a) s' := by
  simp [Functor.map, EStateM.map, h]

/-- A little-endian word reader, on a stream whose next bytes encode `v`, reads `v`. -/
theorem map_readWord_of_unread (w : Nat) (f : BitVec (8 * w) → Primitive) (msg : String)
    (v : BitVec (8 * w)) {s : StreamIn} {rest : List (BitVec 8)} (h : s.unread = encodeLE w v.toNat ++ rest) :
    (f <$> StreamIn.readPrimitive w msg (StreamIn.wordLE w)) s = .ok (f v) { s with offset := s.offset + w } :=
  map_ok _ _ _ _ _ ((StreamIn.readPrimitive_of_unread h (length_encodeLE _ _)).trans
    (congrArg (EStateM.Result.ok · _) (ofNat_decodeLE_encodeLE w v)))

/-- The reader of `p`'s type, on a stream whose next bytes are `p`'s, reads `p` back. -/
theorem reader_of_unread (p : Primitive) {s : StreamIn} {rest : List (BitVec 8)}
    (h : s.unread = p.encode ++ rest) :
    p.reader s = .ok p { s with offset := s.offset + p.encode.length } := by
  cases p with
  | bool v =>
    refine map_ok _ _ _ _ _ ((StreamIn.readPrimitive_of_unread h rfl).trans ?_)
    cases v <;> rfl
  | uint8 v | int8 v =>
    exact map_ok _ _ _ _ _ ((StreamIn.readPrimitive_of_unread h rfl).trans
      (congrArg (EStateM.Result.ok · _) (StreamIn.wordLE_byte v)))
  | uint16 v | int16 v => exact map_readWord_of_unread 2 _ _ v h
  | uint32 v | int32 v => exact map_readWord_of_unread 4 _ _ v h
  | uint64 v | int64 v => exact map_readWord_of_unread 8 _ _ v h

end Primitive

/-- The values written in order, each with the writer of its type. -/
def writeAll (vs : List Primitive) (s : ByteStreamOut) : ByteStreamOut :=
  vs.foldl (fun s v => v.writeTo s) s

/-- The readers of the values' types run in order. -/
def readAll : List Primitive → EStateM String StreamIn (List Primitive)
  | [] => pure []
  | p :: ps => do
    let v ← p.reader
    let vs ← readAll ps
    pure (v :: vs)

theorem bytes_writeAll (vs : List Primitive) (s : ByteStreamOut) :
    (writeAll vs s).bytes = s.bytes ++ vs.flatMap Primitive.encode := by
  induction vs generalizing s with
  | nil => simp [writeAll]
  | cons v vs ih =>
    show (writeAll vs (v.writeTo s)).bytes = _
    rw [ih, Primitive.bytes_writeTo, List.flatMap_cons, List.append_assoc]

/-- Reading the values' bytes back, from wherever they start, gives the values and moves
past exactly their bytes. -/
theorem readAll_of_unread (vs : List Primitive) {s : StreamIn} {rest : List (BitVec 8)}
    (h : s.unread = vs.flatMap Primitive.encode ++ rest) :
    readAll vs s = .ok vs { s with offset := s.offset + (vs.flatMap Primitive.encode).length } := by
  induction vs generalizing s with
  | nil => rfl
  | cons v vs ih =>
    have hv := v.reader_of_unread
      (show s.unread = v.encode ++ (vs.flatMap Primitive.encode ++ rest) by simpa using h)
    have hvs := @ih { s with offset := s.offset + v.encode.length }
      (by rw [StreamIn.unread_advance, h, List.flatMap_cons, List.append_assoc,
        List.drop_left' rfl])
    simp only [readAll, bind, EStateM.bind, hv, hvs, pure, EStateM.pure, List.flatMap_cons,
      List.length_append, Nat.add_assoc]

/-- Any sequence of primitive values written into a fresh `ByteStreamOut` reads back, through
`NewStreamIn` and the matching readers, as itself without error; then nothing remains and
every fixed-width reader fails and leaves the stream where it is. -/
theorem readAll_writeAll (vs : List Primitive) :
    let bytes := (writeAll vs newByteStreamOut).bytes
    readAll vs (newStreamIn bytes) = .ok vs ⟨bytes, bytes.length⟩ ∧
      (⟨bytes, bytes.length⟩ : StreamIn).remaining = 0 ∧
      ∀ {α : Type} (w : Nat) (msg : String) (decode : List (BitVec 8) → α),
        StreamIn.readPrimitive (w + 1) msg decode ⟨bytes, bytes.length⟩ =
          .error msg ⟨bytes, bytes.length⟩ := by
  have hbytes := bytes_writeAll vs newByteStreamOut
  rw [ByteStreamOut.bytes_newByteStreamOut, List.nil_append] at hbytes
  have hempty : (⟨(writeAll vs newByteStreamOut).bytes, (writeAll vs newByteStreamOut).bytes.length⟩ :
      StreamIn).remaining = 0 := by simp [StreamIn.remaining, StreamIn.unread]
  refine ⟨?_, hempty, fun w msg decode => StreamIn.readPrimitive_of_lt (by omega)⟩
  have h := @readAll_of_unread vs (newStreamIn (writeAll vs newByteStreamOut).bytes) []
    (by rw [StreamIn.unread_newStreamIn, hbytes, List.append_nil])
  rw [h, ← hbytes]
  simp only [newStreamIn, Nat.zero_add]

end NexGo

import NexGo.Stream.StreamIn

/-!
# The fixed-width `ReadList*` readers (`stream_in.go`)

`ReadListUInt8` … `ReadListFloat64BE` (lines 326-773) are one loop: a `uint32` count `length`, the
pre-check `stream.Remaining() < int(length*w)`, `make([]T, 0, length)`, then `length` reads of the
element reader, each failure reported with its index. `readList` is that loop with the checked
width and the element reader as parameters, and each reader applies it to its own.

The product `length*w` is of two `uint32`s: it wraps modulo `2 ^ 32` before `int` widens it (Go's
`int` is 64 bits wide on the server's platforms), and the `float64` readers check with `w = 4`. So
the pre-check passes exactly when the wrapped product fits (`readListLength_of_le`), which can be
with far fewer bytes than the count needs, and `make` then reserves room for every element. The
element reads check `Remaining()` one by one, and the last theorem shows that every
reader returns exactly the words its bytes hold, or fails.
-/

namespace NexGo
set_option autoImplicit false

namespace StreamIn

/-- `ReadList*` up to `make([]T, 0, length)`: the count, then the pre-check of `Remaining()`
against `int(length*checkWidth)`. The count returned is the capacity `make` reserves. -/
def readListLength (name : String) (checkWidth : BitVec 32) : EStateM String StreamIn (BitVec 32) := do
  let length ← readUInt32LE.adaptExcept (("Failed to read List<" ++ name ++ "> length. ") ++ ·)
  if (← get).remaining < (length * checkWidth).toNat then
    throw ("NEX List<" ++ name ++ "> length longer than data size")
  pure length

/-- The loop of `ReadList*` from index `i`, with `count` reads left. -/
def readListValues {α : Type} (name : String) (readValue : EStateM String StreamIn α) :
    Nat → Nat → EStateM String StreamIn (List α)
  | 0, _ => pure []
  | count + 1, i => do
    let value ← readValue.adaptExcept
      (("Failed to read List<" ++ name ++ "> value at index " ++ toString i ++ ". ") ++ ·)
    let values ← readListValues name readValue count (i + 1)
    pure (value :: values)

/-- The fixed-width `ReadList*`: the count and its pre-check, then that many values. -/
def readList {α : Type} (name : String) (checkWidth : BitVec 32) (readValue : EStateM String StreamIn α) :
    EStateM String StreamIn (List α) := do
  let length ← readListLength name checkWidth
  readListValues name readValue length.toNat 0

/-- `ReadListUInt8` checks against `int(length)`, the product with `1`. -/
def readListUInt8 := readList "uint8" 1 readUInt8
/-- `ReadListInt8` checks against `int(length)`, the product with `1`. -/
def readListInt8 := readList "int8" 1 readInt8
def readListUInt16LE := readList "uint16" 2 readUInt16LE
def readListUInt16BE := readList "uint16" 2 readUInt16BE
def readListInt16LE := readList "int16" 2 readInt16LE
def readListInt16BE := readList "int16" 2 readInt16BE
def readListUInt32LE := readList "uint32" 4 readUInt32LE
def readListUInt32BE := readList "uint32" 4 readUInt32BE
def readListInt32LE := readList "int32" 4 readInt32LE
def readListInt32BE := readList "int32" 4 readInt32BE
def readListUInt64LE := readList "uint64" 8 readUInt64LE
def readListUInt64BE := readList "uint64" 8 readUInt64BE
def readListInt64LE := readList "int64" 8 readInt64LE
def readListInt64BE := readList "int64" 8 readInt64BE
def readListFloat32LE := readList "float32" 4 readFloat32LE
def readListFloat32BE := readList "float32" 4 readFloat32BE
/-- `ReadListFloat64LE` checks `length*4`, half the bytes its elements take. -/
def readListFloat64LE := readList "float64" 4 readFloat64LE
/-- `ReadListFloat64BE` checks `length*4`, half the bytes its elements take. -/
def readListFloat64BE := readList "float64" 4 readFloat64BE

/-! ## The count and the pre-check -/

variable {α : Type} {name msg : String} {w : Nat} {decode : List (BitVec 8) → α} {st : StreamIn}

theorem remaining_advance (st : StreamIn) (n : Nat) :
    ({ st with offset := st.offset + n } : StreamIn).remaining = st.remaining - n := by
  simp [remaining, unread_advance]

/-- Fewer than four bytes: the count cannot be read, and the stream stays where it was. -/
theorem readListLength_of_lt {c : BitVec 32} (h : st.remaining < 4) :
    readListLength name c st =
      .error ("Failed to read List<" ++ name ++ "> length. Not enough data to read uint32") st := by
  simp only [readListLength, readUInt32LE, bind, EStateM.bind, EStateM.adaptExcept, readPrimitive_of_lt h,
    String.append_assoc]
  rfl

/-- Four bytes hold a count below `2 ^ 32`. -/
theorem decodeLE_take_four_lt (h : 4 ≤ st.remaining) : decodeLE (st.unread.take 4) < 2 ^ 32 := by
  have := decodeLE_lt (st.unread.take 4)
  rwa [List.length_take, Nat.min_eq_left (show 4 ≤ st.unread.length from h)] at this

/-- The pre-check passes exactly when the count times the checked width, modulo `2 ^ 32`, fits in
what remains after the count; it then returns the count as the capacity. -/
theorem readListLength_of_le {c : BitVec 32} (h : 4 ≤ st.remaining) :
    readListLength name c st =
      if st.remaining - 4 < decodeLE (st.unread.take 4) * c.toNat % 2 ^ 32 then
        .error ("NEX List<" ++ name ++ "> length longer than data size") { st with offset := st.offset + 4 }
      else .ok (BitVec.ofNat 32 (decodeLE (st.unread.take 4))) { st with offset := st.offset + 4 } := by
  have hmul : (wordLE 4 (st.unread.take 4) * c).toNat = decodeLE (st.unread.take 4) * c.toNat % 2 ^ 32 := by
    rw [BitVec.toNat_mul, wordLE, BitVec.toNat_ofNat, Nat.mod_eq_of_lt (decodeLE_take_four_lt h)]
  simp only [readListLength, readUInt32LE, bind, EStateM.bind, EStateM.adaptExcept, readPrimitive_of_le h,
    get, getThe, MonadStateOf.get, EStateM.get, remaining_advance, hmul]
  split_ifs <;> rfl

/-! ## The loop -/

/-- Enough bytes for every read: the loop returns the words of the next `n * w` bytes. -/
theorem readListValues_of_le {n i : Nat} (h : n * w ≤ st.remaining) :
    readListValues name (readPrimitive w msg decode) n i st =
      .ok ((List.range n).map fun k => decode ((st.unread.drop (k * w)).take w))
        { st with offset := st.offset + n * w } := by
  induction n generalizing i st with
  | zero => simp [readListValues, pure, EStateM.pure]
  | succ n ih =>
    rw [Nat.succ_mul] at h
    have hn : n * w ≤ ({ st with offset := st.offset + w } : StreamIn).remaining := by
      rw [remaining_advance]; omega
    simp [readListValues, bind, EStateM.bind, EStateM.adaptExcept, readPrimitive_of_le (by omega : w ≤ st.remaining),
      ih hn, pure, EStateM.pure, unread_advance, List.range_succ_eq_map, Nat.succ_mul, Nat.add_assoc, Nat.add_comm w]

/-- Too few bytes: the loop fails at the first element that does not fit, naming its index, with
the stream after the elements read. -/
theorem readListValues_of_lt {n i : Nat} (h : st.remaining < n * w) :
    readListValues name (readPrimitive w msg decode) n i st =
      .error ("Failed to read List<" ++ name ++ "> value at index " ++ toString (i + st.remaining / w) ++
        ". " ++ msg) { st with offset := st.offset + st.remaining / w * w } := by
  induction n generalizing i st with
  | zero => simp at h
  | succ n ih =>
    by_cases hw : st.remaining < w
    · simp [readListValues, bind, EStateM.bind, EStateM.adaptExcept, readPrimitive_of_lt hw, Nat.div_eq_of_lt hw]
    · have hw' : 0 < w := Nat.pos_of_ne_zero fun h0 => by simp [h0] at h
      have hdiv : (st.remaining - w) / w + 1 = st.remaining / w := by
        rw [← Nat.add_div_right _ hw', Nat.sub_add_cancel (Nat.not_lt.1 hw)]
      have hn : ({ st with offset := st.offset + w } : StreamIn).remaining < n * w := by
        rw [remaining_advance]; rw [Nat.succ_mul] at h; omega
      simp only [readListValues, bind, EStateM.bind, EStateM.adaptExcept, readPrimitive_of_le (Nat.not_lt.1 hw),
        ih hn, remaining_advance]
      rw [← hdiv, Nat.succ_mul, Nat.add_right_comm i 1, Nat.add_assoc, Nat.add_assoc st.offset,
        Nat.add_comm w]

/-! ## A whole list -/

/-- What a fixed-width list read of `w`-byte elements is to return on `st`, with `L` the
little-endian count in the first four unread bytes: a list exactly when `4 + L * w` bytes remain,
then the `L` words of the bytes after the count, past exactly those bytes; otherwise an error. -/
def ListReadSpec {β : Type} (w : Nat) (decode : List (BitVec 8) → β) (st : StreamIn) :
    EStateM.Result String StreamIn (List β) → Prop
  | .ok values st' => 4 + decodeLE (st.unread.take 4) * w ≤ st.remaining ∧
      values = (List.range (decodeLE (st.unread.take 4))).map
        (fun i => decode ((st.unread.drop (4 + i * w)).take w)) ∧
      st' = { st with offset := st.offset + (4 + decodeLE (st.unread.take 4) * w) }
  | .error _ _ => st.remaining < 4 + decodeLE (st.unread.take 4) * w

/-- A reader whose checked width is at most its element width meets the spec. -/
theorem readList_spec {c : BitVec 32} (hc : c.toNat ≤ w) (st : StreamIn) :
    ListReadSpec w decode st (readList name c (readPrimitive w msg decode) st) := by
  by_cases h4 : st.remaining < 4
  · -- no count
    simp only [readList, bind, EStateM.bind, readListLength_of_lt h4, ListReadSpec]
    omega
  have hL := decodeLE_take_four_lt (Nat.not_lt.1 h4)
  -- the wrapped product is at most the true one
  have hwrap : decodeLE (st.unread.take 4) * c.toNat % 2 ^ 32 ≤ decodeLE (st.unread.take 4) * w :=
    (Nat.mod_le _ _).trans (Nat.mul_le_mul_left _ hc)
  simp only [readList, bind, EStateM.bind, readListLength_of_le (Nat.not_lt.1 h4)]
  split_ifs with hpre
  · -- the pre-check fails
    simp only [ListReadSpec]
    omega
  simp only [BitVec.toNat_ofNat, Nat.mod_eq_of_lt hL]
  by_cases hfit : decodeLE (st.unread.take 4) * w ≤ st.remaining - 4
  · -- every element fits
    rw [readListValues_of_le (by rwa [remaining_advance])]
    refine ⟨by omega, ?_, ?_⟩
    · simp only [unread_advance, List.drop_drop, Nat.add_comm]
    · simp only [Nat.add_assoc]
  · -- the loop fails at the first element that does not fit
    rw [readListValues_of_lt (by rw [remaining_advance]; omega)]
    simp only [ListReadSpec]
    omega

/-- `ReadListUInt16LE` on a count of `2 ^ 31` with nothing after it: `2 ^ 31 * 2` wraps to `0`, so
the pre-check passes and Go reserves room for `2 ^ 31` elements, and the loop fails on the first.
`ReadListFloat64LE` on a count of `1` with four bytes after it: the pre-check asks for `1 * 4`
bytes, passes, and the loop fails on the first element's eight. -/
theorem readList_precheck_passes_short :
    readListLength "uint16" 2 (newStreamIn [0, 0, 0, 0x80]) = .ok 0x80000000 ⟨[0, 0, 0, 0x80], 4⟩ ∧
    readListUInt16LE (newStreamIn [0, 0, 0, 0x80]) =
      .error "Failed to read List<uint16> value at index 0. Not enough data to read uint16" ⟨[0, 0, 0, 0x80], 4⟩ ∧
    readListLength "float64" 4 (newStreamIn [1, 0, 0, 0, 0, 0, 0, 0]) = .ok 1 ⟨[1, 0, 0, 0, 0, 0, 0, 0], 4⟩ ∧
    readListFloat64LE (newStreamIn [1, 0, 0, 0, 0, 0, 0, 0]) =
      .error "Failed to read List<float64> value at index 0. Not enough data to read float64"
        ⟨[1, 0, 0, 0, 0, 0, 0, 0], 4⟩ :=
  ⟨rfl, rfl, rfl, rfl⟩

end StreamIn

/-- The eighteen fixed-width `ReadList*` readers. -/
inductive ListReader
  | uint8 | int8
  | uint16LE | uint16BE | int16LE | int16BE
  | uint32LE | uint32BE | int32LE | int32BE
  | uint64LE | uint64BE | int64LE | int64BE
  | float32LE | float32BE | float64LE | float64BE
  deriving DecidableEq, Repr

namespace ListReader

/-- The bytes one element takes. -/
def width : ListReader → Nat
  | uint8 | int8 => 1
  | uint16LE | uint16BE | int16LE | int16BE => 2
  | uint32LE | uint32BE | int32LE | int32BE | float32LE | float32BE => 4
  | uint64LE | uint64BE | int64LE | int64BE | float64LE | float64BE => 8

/-- An element's word, in the reader's byte order. -/
def decode : (r : ListReader) → List (BitVec 8) → BitVec (8 * r.width)
  | uint8 | int8 => StreamIn.wordLE 1
  | uint16LE | int16LE => StreamIn.wordLE 2
  | uint16BE | int16BE => StreamIn.wordBE 2
  | uint32LE | int32LE | float32LE => StreamIn.wordLE 4
  | uint32BE | int32BE | float32BE => StreamIn.wordBE 4
  | uint64LE | int64LE | float64LE => StreamIn.wordLE 8
  | uint64BE | int64BE | float64BE => StreamIn.wordBE 8

/-- The reader. -/
def read : (r : ListReader) → EStateM String StreamIn (List (BitVec (8 * r.width)))
  | uint8 => StreamIn.readListUInt8
  | int8 => StreamIn.readListInt8
  | uint16LE => StreamIn.readListUInt16LE
  | uint16BE => StreamIn.readListUInt16BE
  | int16LE => StreamIn.readListInt16LE
  | int16BE => StreamIn.readListInt16BE
  | uint32LE => StreamIn.readListUInt32LE
  | uint32BE => StreamIn.readListUInt32BE
  | int32LE => StreamIn.readListInt32LE
  | int32BE => StreamIn.readListInt32BE
  | uint64LE => StreamIn.readListUInt64LE
  | uint64BE => StreamIn.readListUInt64BE
  | int64LE => StreamIn.readListInt64LE
  | int64BE => StreamIn.readListInt64BE
  | float32LE => StreamIn.readListFloat32LE
  | float32BE => StreamIn.readListFloat32BE
  | float64LE => StreamIn.readListFloat64LE
  | float64BE => StreamIn.readListFloat64BE

/-- Every fixed-width `ReadList*`, on any stream, returns a list exactly when the count's elements
fit after it: the words of those bytes in the reader's byte order, past exactly them. -/
theorem readList_of_bytes (r : ListReader) (st : StreamIn) :
    StreamIn.ListReadSpec r.width r.decode st (r.read st) := by
  cases r <;> exact StreamIn.readList_spec (by decide) st

end ListReader

end NexGo

import Mathlib.Data.List.Basic
import Mathlib.Algebra.Group.Nat.Basic

/-!
# Byte order of the crunch buffer

`StreamIn` and `ByteStreamOut` (`stream_in.go`, `byte_stream_out.go`) move fixed-width words
through a `github.com/superwhiskers/crunch/v3` buffer: `WriteU16LENext` and its siblings lay a
word out as `w` bytes, least significant first, and `ReadU16LENext` reads it back; the `…BE…`
readers take the bytes in the other order. Here a word is its value as a natural number and a
byte is a `BitVec 8`. The round trip keeps the value modulo `256 ^ w`.
-/

namespace NexGo
set_option autoImplicit false

/-- The `w` little-endian bytes of `n`; bits above `8 * w` are dropped. -/
def encodeLE : Nat → Nat → List (BitVec 8)
  | 0, _ => []
  | w + 1, n => BitVec.ofNat 8 n :: encodeLE w (n / 256)

/-- The number whose little-endian bytes are `bs`. -/
def decodeLE : List (BitVec 8) → Nat
  | [] => 0
  | b :: bs => b.toNat + 256 * decodeLE bs

/-- The number whose big-endian bytes are `bs`. -/
def decodeBE (bs : List (BitVec 8)) : Nat := decodeLE bs.reverse

@[simp] theorem encodeLE_zero (n : Nat) : encodeLE 0 n = [] := rfl

@[simp] theorem encodeLE_succ (w n : Nat) :
    encodeLE (w + 1) n = BitVec.ofNat 8 n :: encodeLE w (n / 256) := rfl

@[simp] theorem decodeLE_nil : decodeLE [] = 0 := rfl

@[simp] theorem decodeLE_cons (b : BitVec 8) (bs : List (BitVec 8)) :
    decodeLE (b :: bs) = b.toNat + 256 * decodeLE bs := rfl

@[simp] theorem length_encodeLE (w n : Nat) : (encodeLE w n).length = w := by
  induction w generalizing n <;> simp [*]

theorem decodeLE_encodeLE (w n : Nat) : decodeLE (encodeLE w n) = n % 256 ^ w := by
  induction w generalizing n with
  | zero => simp [Nat.mod_one]
  | succ w ih => rw [encodeLE_succ, decodeLE_cons, ih, BitVec.toNat_ofNat, @Nat.pow_succ' 256 w, Nat.mod_mul]

/-- Only the low `8 * w` bits of `n` reach its `w` bytes. -/
theorem encodeLE_mod (w n : Nat) : encodeLE w (n % 256 ^ w) = encodeLE w n := by
  induction w generalizing n with
  | zero => rfl
  | succ w ih =>
    have low : n % 256 ^ (w + 1) % 2 ^ 8 = n % 2 ^ 8 :=
      Nat.mod_mod_of_dvd _ (Nat.pow_dvd_pow 256 (Nat.succ_pos w))
    have byte : BitVec.ofNat 8 (n % 256 ^ (w + 1)) = BitVec.ofNat 8 n :=
      BitVec.eq_of_toNat_eq (by simp only [BitVec.toNat_ofNat, low])
    rw [encodeLE_succ, encodeLE_succ, byte, @Nat.pow_succ' 256 w, Nat.mod_mul_right_div_self, ih]

theorem decodeLE_lt (bs : List (BitVec 8)) : decodeLE bs < 256 ^ bs.length := by
  induction bs with
  | nil => simp
  | cons b bs ih =>
    have hb : b.toNat < 256 := b.isLt
    have hd : 256 * (decodeLE bs + 1) ≤ 256 * 256 ^ bs.length := Nat.mul_le_mul_left _ ih
    rw [decodeLE_cons, List.length_cons, Nat.pow_succ']
    omega

theorem decodeLE_append (xs ys : List (BitVec 8)) :
    decodeLE (xs ++ ys) = decodeLE xs + 256 ^ xs.length * decodeLE ys := by
  induction xs with
  | nil => simp
  | cons x xs ih =>
    simp only [List.cons_append, decodeLE_cons, ih, List.length_cons, Nat.pow_succ', Nat.mul_add,
      Nat.mul_assoc, Nat.add_assoc]

/-- A `w`-bit word written with `encodeLE` reads back as itself. -/
theorem ofNat_decodeLE_encodeLE (w : Nat) (x : BitVec (8 * w)) :
    BitVec.ofNat (8 * w) (decodeLE (encodeLE w x.toNat)) = x := by
  rw [decodeLE_encodeLE, show (256 : Nat) ^ w = 2 ^ (8 * w) by rw [Nat.pow_mul],
    Nat.mod_eq_of_lt x.isLt, BitVec.ofNat_toNat, BitVec.setWidth_eq]

end NexGo

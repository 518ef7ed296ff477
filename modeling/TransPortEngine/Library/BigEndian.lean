import Mathlib.Data.List.Induction
import Mathlib.Tactic.Ring

/-!
# Big-endian byte strings

Encoding of natural numbers as a fixed number of bytes, most significant byte
first, and the inverse reading of a byte string.
-/

namespace BigEndian

/-- The last `width` base-256 digits of a number, most significant first. -/
def encode : Nat → Nat → List UInt8
  | 0, _ => []
  | width + 1, value => encode width (value / 256) ++ [UInt8.ofNat value]

/-- The number read from a byte string, most significant byte first. -/
def decode (bytes : List UInt8) : Nat :=
  bytes.foldl (fun value byte => value * 256 + byte.toNat) 0

@[simp] theorem length_encode (width value : Nat) :
    (encode width value).length = width := by
  induction width generalizing value with
  | zero => rfl
  | succ width inductionHypothesis => simp [encode, inductionHypothesis]

@[simp] theorem decode_nil : decode [] = 0 := rfl

theorem decode_append_singleton (bytes : List UInt8) (byte : UInt8) :
    decode (bytes ++ [byte]) = decode bytes * 256 + byte.toNat := by
  simp [decode]

/-- Reading back an encoding yields the number modulo the encoded width. -/
theorem decode_encode (width value : Nat) :
    decode (encode width value) = value % 256 ^ width := by
  induction width generalizing value with
  | zero => simp [encode, Nat.mod_one]
  | succ width inductionHypothesis =>
      rw [encode, decode_append_singleton, inductionHypothesis]
      have split : value % 256 ^ (width + 1) =
          value % 256 + 256 * (value / 256 % 256 ^ width) := by
        rw [Nat.pow_succ, Nat.mul_comm, Nat.mod_mul]
      have digit : (UInt8.ofNat value).toNat = value % 256 := by simp
      rw [digit, split]
      ring

/-- A number that fits the width survives the round trip. -/
theorem decode_encode_of_lt
    {width value : Nat}
    (fits : value < 256 ^ width) :
    decode (encode width value) = value := by
  rw [decode_encode, Nat.mod_eq_of_lt fits]

/-- A byte string reads as a number below the power of its length. -/
theorem decode_lt (bytes : List UInt8) : decode bytes < 256 ^ bytes.length := by
  induction bytes using List.reverseRecOn with
  | nil => simp
  | append_singleton bytes byte inductionHypothesis =>
      have byteBound : byte.toNat < 256 := byte.toNat_lt
      rw [decode_append_singleton, List.length_append, List.length_singleton,
        Nat.pow_succ]
      omega

/-- A byte string is the encoding of the number read from it. -/
theorem encode_decode (bytes : List UInt8) :
    encode bytes.length (decode bytes) = bytes := by
  induction bytes using List.reverseRecOn with
  | nil => rfl
  | append_singleton bytes byte inductionHypothesis =>
      have byteBound : byte.toNat < 256 := byte.toNat_lt
      have upper : (decode bytes * 256 + byte.toNat) / 256 = decode bytes := by
        omega
      have digit : UInt8.ofNat (decode bytes * 256 + byte.toNat) = byte := by
        apply UInt8.toNat_inj.mp
        rw [UInt8.toNat_ofNat']
        omega
      rw [decode_append_singleton, List.length_append, List.length_singleton,
        encode, upper, digit, inductionHypothesis]

end BigEndian

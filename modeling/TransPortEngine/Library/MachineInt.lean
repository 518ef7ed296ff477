import Mathlib.Tactic.Ring
import Mathlib.Tactic.NormNum

/-!
# Fixed-width integer conversions

C-style conversions between mathematical integers and the values held by
32-bit and 64-bit machine words. Arithmetic is carried out over `Int` and a
conversion is applied wherever the program stores, casts or compares the
result. All definitions reduce to `%` by literals, so `omega` decides their
linear consequences once they are unfolded.
-/

namespace MachineInt

/-- Value of an integer after conversion to a 32-bit two's-complement word. -/
def signed32 (value : Int) : Int :=
  (value + 2147483648) % 4294967296 - 2147483648

/-- Value of an integer after conversion to a 32-bit unsigned word. -/
def unsigned32 (value : Int) : Nat :=
  (value % 4294967296).toNat

/-- Value of an integer after conversion to a 64-bit unsigned word. -/
def unsigned64 (value : Int) : Nat :=
  (value % 18446744073709551616).toNat

theorem signed32_upper (value : Int) : signed32 value < 2147483648 := by
  unfold signed32
  omega

theorem signed32_lower (value : Int) : -2147483648 ≤ signed32 value := by
  unfold signed32
  omega

theorem unsigned32_lt (value : Int) : unsigned32 value < 4294967296 := by
  unfold unsigned32
  omega

/-- A value representable as a signed word is unchanged by the conversion. -/
theorem signed32_of_range
    {value : Int}
    (lower : -2147483648 ≤ value)
    (upper : value < 2147483648) :
    signed32 value = value := by
  unfold signed32
  omega

/-- A natural number representable as an unsigned word is unchanged. -/
theorem unsigned32_natCast
    {value : Nat}
    (upper : value < 4294967296) :
    unsigned32 (value : Int) = value := by
  unfold unsigned32
  omega

/-- A size representable as a 64-bit unsigned word is unchanged. -/
theorem unsigned64_natCast
    {value : Nat}
    (upper : value < 18446744073709551616) :
    unsigned64 (value : Int) = value := by
  unfold unsigned64
  omega

/-- Wrapping a partial sum first does not change the wrapped total. -/
theorem signed32_add_signed32 (left right : Int) :
    signed32 (signed32 left + right) = signed32 (left + right) := by
  unfold signed32
  omega

/-- Converting to a signed word first does not change the unsigned value. -/
theorem unsigned32_signed32 (value : Int) :
    unsigned32 (signed32 value) = unsigned32 value := by
  unfold unsigned32 signed32
  omega

/-- A remainder of truncated division is negative only if what is divided is
negative and no multiple. -/
theorem tmod_nonneg_iff (value count : Int) :
    0 ≤ value.tmod count ↔ 0 ≤ value ∨ count ∣ value := by
  constructor
  · intro nonneg
    rcases le_or_gt 0 value with upper | lower
    · exact Or.inl upper
    · have below : 0 ≤ (-value).tmod count := Int.tmod_nonneg count (by omega)
      rw [Int.neg_tmod] at below
      exact Or.inr (Int.dvd_of_tmod_eq_zero (by omega))
  · rintro (upper | divides)
    · exact Int.tmod_nonneg count upper
    · exact (Int.tmod_eq_zero_of_dvd divides).ge

end MachineInt

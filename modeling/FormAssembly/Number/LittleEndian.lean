/-!
# Little-endian bytes

A natural number as a fixed count of bytes, the least significant first.

Main statement: `decode_encode`, reading what was written gives the number back if it fits.
-/

namespace FormAssembly
namespace LittleEndian

/-- The `count` lowest bytes of `n`, the least significant first. -/
def encode : (count : Nat) → (n : Nat) → List UInt8
  | 0, _ => []
  | count + 1, n => UInt8.ofNat (n % 256) :: encode count (n / 256)

/-- The number whose bytes are given, the least significant first. -/
def decode : List UInt8 → Nat
  | [] => 0
  | byte :: rest => byte.toNat + 256 * decode rest

@[simp] theorem length_encode (count n : Nat) : (encode count n).length = count := by
  induction count generalizing n with
  | zero => rfl
  | succ count ih => simp [encode, ih]

theorem decode_encode {count n : Nat} (fits : n < Nat.pow 256 count) :
    decode (encode count n) = n := by
  induction count generalizing n with
  | zero => exact (Nat.lt_one_iff.mp fits).symm
  | succ count ih =>
      have smaller : n / 256 < Nat.pow 256 count := by
        apply Nat.div_lt_of_lt_mul
        rwa [Nat.mul_comm]
      have byte : (UInt8.ofNat (n % 256)).toNat = n % 256 := by
        simp
      rw [encode, decode, ih smaller, byte]
      omega

end LittleEndian
end FormAssembly

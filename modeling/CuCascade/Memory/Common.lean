import CuCascade.Lib.Word

/-!
# Shared vocabulary of the memory subsystem

The tiers and space ids of `memory/common.hpp`, the exceptions the subsystem
throws with the texts it gives them, and `rmm::align_up`.

A call can end badly in more ways than by throwing. `Failure` keeps the ways
apart, because only the first can be caught: an exception, an assertion that
does not hold, and the two kinds of undefined behaviour the code can run into.
-/

namespace CuCascade.Memory

/-- `enum class Tier`; `SIZE` is its count marker. -/
inductive Tier where
  | GPU | HOST | DISK | SIZE
deriving DecidableEq, Repr

structure MemorySpaceId where
  tier : Tier
  deviceId : Int
deriving DecidableEq, Repr

/-- The address of an object on the heap. -/
abbrev Addr := Nat

/-- The value of a `cudaStream_t`. -/
abbrev Stream := Nat

inductive Exception where
  /-- `rmm::out_of_memory` -/
  | outOfMemory (what : String)
  | cucascadeOutOfMemory (what : String) (requestedBytes globalUsage : UInt64)
  /-- `rmm::logic_error` -/
  | logicError (what : String)
  | runtimeError (what : String)
  | outOfRange (what : String)
  /-- anything else derived from `std::exception` -/
  | stdException (what : String)
  /-- an object that is not a `std::exception` -/
  | other
deriving DecidableEq, Repr

inductive Failure where
  | thrown (e : Exception)
  | assertion (text : String)
  | nullDereference
  | divisionByZero
  | outOfBounds
deriving DecidableEq, Repr

/-- What a call on a resource with state `σ` leaves: the state, and the value
returned or the way it failed. -/
abbrev Result (σ α : Type) := σ × Except Failure α

/-- `rmm::align_up`. The code calls it with alignments that are not powers of
two as well, so it is the bit operation and not a rounding. -/
def alignUp (value alignment : UInt64) : UInt64 :=
  (value + (alignment - 1)) &&& ~~~(alignment - 1)

/-- As long as the sum does not wrap, no alignment makes a value smaller. -/
theorem le_alignUp {v a : UInt64} (h : v.toNat + (a - 1).toNat < 2 ^ 64) :
    v.toNat ≤ (alignUp v a).toNat := by
  have hmask := Word.le_toNat_and_not (v + (a - 1)) (a - 1)
  rw [Word.toNat_add h] at hmask
  unfold alignUp
  omega

/-- For a power of two it is the rounding one expects. -/
theorem toNat_alignUp {v a : UInt64} {k : Nat} (ha : a.toNat = 2 ^ k)
    (h : v.toNat + 2 ^ k ≤ 2 ^ 64) :
    (alignUp v a).toNat = (v.toNat + 2 ^ k - 1) / 2 ^ k * 2 ^ k := by
  have hpos : 0 < 2 ^ k := Nat.two_pow_pos k
  have hone : (1 : UInt64).toNat = 1 := rfl
  have hmask : (a - 1).toNat = 2 ^ k - 1 := by
    rw [Word.toNat_sub (by omega), ha, hone]
  unfold alignUp
  rw [Word.toNat_and_not_mask hmask, Word.toNat_add (by omega), hmask,
    Nat.add_sub_assoc hpos]

/-- A rounded request below 2^63 is at most 2^62: both are multiples of the
block size. -/
theorem alignUp_le {n a : UInt64} {k : Nat} (ha : a.toNat = 2 ^ k)
    (hn : n.toNat < 2 ^ 62) (hlt : (alignUp n a).toNat < 2 ^ 63) :
    (alignUp n a).toNat ≤ 2 ^ 62 := by
  have hk := Word.exponent_le ha
  have hpow := Word.two_pow_le ha
  rw [toNat_alignUp ha (by omega)] at hlt ⊢
  rcases Nat.lt_or_ge 62 k with hbig | hsmall
  · have hpos := Nat.div_mul_le_self (n.toNat + 2 ^ k - 1) (2 ^ k)
    have heq : k = 63 := by omega
    subst heq
    omega
  · obtain ⟨j, hj⟩ := Nat.exists_eq_add_of_le hsmall
    have hsplit : 2 ^ 62 = 2 ^ j * 2 ^ k := by
      rw [← Nat.pow_add, Nat.add_comm, ← hj]
    have hdiv : (n.toNat + 2 ^ k - 1) / 2 ^ k < 2 ^ j + 1 := by
      rw [Nat.div_lt_iff_lt_mul (Nat.two_pow_pos k), Nat.add_mul, ← hsplit]
      omega
    calc (n.toNat + 2 ^ k - 1) / 2 ^ k * 2 ^ k
      _ ≤ 2 ^ j * 2 ^ k := Nat.mul_le_mul_right _ (Nat.lt_succ_iff.mp hdiv)
      _ = 2 ^ 62 := hsplit.symm

/-- The rounding every device allocation is tracked with:
`rmm::CUDA_ALLOCATION_ALIGNMENT` is 256. -/
def round256 (bytes : UInt64) : UInt64 := alignUp bytes 256

theorem toNat_round256 {n : UInt64} (h : n.toNat < 2 ^ 62) :
    (round256 n).toNat = (n.toNat + 255) / 256 * 256 :=
  toNat_alignUp (k := 8) rfl (by omega)

theorem round256_le {n : UInt64} (h : n.toNat < 2 ^ 62) :
    (round256 n).toNat ≤ 2 ^ 62 := by
  rw [toNat_round256 h]
  omega

end CuCascade.Memory

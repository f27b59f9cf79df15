import Mathlib.Algebra.Order.Field.Basic
import Mathlib.Algebra.Order.Floor.Semiring
import Mathlib.Tactic.FieldSimp

/-!
# Shares of a whole number

A share is a fraction of a whole, rounded down. A number turned into a fraction
of one whole comes back as a share of the same whole, and of no smaller one.
-/

namespace Share

variable {K : Type*} [Field K] [LinearOrder K] [IsStrictOrderedRing K]
  [FloorSemiring K] {n r c t : ℕ} {f : K}

/-- So much of `n` as the fraction says, rounded down. -/
def share (n : ℕ) (f : K) : ℕ := ⌊(n : K) * f⌋₊

theorem share_le (hf : f ≤ 1) : share n f ≤ n := by
  have hle : (n : K) * f ≤ n := mul_le_of_le_one_right (Nat.cast_nonneg n) hf
  calc share n f ≤ ⌊(n : K)⌋₊ := Nat.floor_le_floor hle
    _ = n := Nat.floor_natCast n

/-- Nothing is lost only from the whole fraction. -/
theorem share_eq_self_iff (hn : 0 < n) (hf : f ≤ 1) : share n f = n ↔ f = 1 := by
  constructor
  · intro h
    have hpos : (0 : K) < n := Nat.cast_pos.mpr hn
    have hle : (n : K) ≤ n * f := (Nat.le_floor_iff' hn.ne').mp (le_of_eq h.symm)
    have hone : 1 ≤ f := le_of_mul_le_mul_left (by rwa [mul_one]) hpos
    exact le_antisymm hf hone
  · intro h
    rw [share, h, mul_one, Nat.floor_natCast]

theorem share_div_self (hc : 0 < c) : share c ((r : K) / c) = r := by
  have hne : (c : K) ≠ 0 := Nat.cast_ne_zero.mpr hc.ne'
  rw [share, mul_div_cancel₀ (r : K) hne, Nat.floor_natCast]

/-- The share of `c` for a fraction of `t`: the base must be the same. -/
theorem share_div_eq_iff (hct : c ≤ t) (ht : 0 < t) :
    share c ((r : K) / t) = r ↔ r = 0 ∨ c = t := by
  constructor
  · intro h
    by_cases hr : r = 0
    · exact .inl hr
    · refine .inr (le_antisymm hct ?_)
      have hpos : (0 : K) < t := Nat.cast_pos.mpr ht
      have hrpos : (0 : K) < r := Nat.cast_pos.mpr (Nat.pos_of_ne_zero hr)
      have hle : (r : K) ≤ c * (r / t) := (Nat.le_floor_iff' hr).mp (le_of_eq h.symm)
      rw [mul_div_assoc', le_div_iff₀ hpos, mul_comm] at hle
      exact Nat.cast_le.mp (le_of_mul_le_mul_right hle hrpos)
  · rintro (h | h)
    · rw [h, share, Nat.cast_zero, zero_div, mul_zero, Nat.floor_zero]
    · subst h
      exact share_div_self ht

end Share

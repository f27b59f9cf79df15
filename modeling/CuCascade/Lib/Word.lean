import Mathlib.Data.Int.Order.Lemmas

/-!
# 64-bit words read as integers

The programs verified here keep sizes in `UInt64` and signed counts in
`Int64`, and both wrap. An accounting argument is about integers. The lemmas
of this file are the passage between the two: under the bound that rules the
wrap out, each machine operation is the operation on the integers the words
stand for. Comparisons need no bound and are core's `lt_iff_toNat_lt` and
`lt_iff_toInt_lt`.

The last section is about masks: a word splits into the part under a mask and
the part outside it, which is all that rounding with `&&&` and `~~~` uses.
-/

namespace Word

theorem toNat_add {a b : UInt64} (h : a.toNat + b.toNat < 2 ^ 64) :
    (a + b).toNat = a.toNat + b.toNat := by
  rw [UInt64.toNat_add, Nat.mod_eq_of_lt h]

theorem toNat_sub {a b : UInt64} (h : b.toNat ≤ a.toNat) :
    (a - b).toNat = a.toNat - b.toNat :=
  UInt64.toNat_sub_of_le _ _ (UInt64.le_iff_toNat_le.mpr h)

theorem bmod_of_mem {x : Int} (h₁ : -2 ^ 63 ≤ x) (h₂ : x < 2 ^ 63) :
    x.bmod (2 ^ 64) = x :=
  Int.bmod_eq_of_le (by omega) (by omega)

theorem toInt_add {a b : Int64} (h₁ : -2 ^ 63 ≤ a.toInt + b.toInt)
    (h₂ : a.toInt + b.toInt < 2 ^ 63) :
    (a + b).toInt = a.toInt + b.toInt := by
  rw [Int64.toInt_add, bmod_of_mem h₁ h₂]

theorem toInt_sub {a b : Int64} (h₁ : -2 ^ 63 ≤ a.toInt - b.toInt)
    (h₂ : a.toInt - b.toInt < 2 ^ 63) :
    (a - b).toInt = a.toInt - b.toInt := by
  rw [Int64.toInt_sub, bmod_of_mem h₁ h₂]

theorem toInt_toInt64 {a : UInt64} (h : a.toNat < 2 ^ 63) :
    a.toInt64.toInt = a.toNat := by
  rw [← Int64.toInt_toBitVec, UInt64.toBitVec_toInt64,
    BitVec.toInt_eq_toNat_of_lt]
  · rfl
  · show 2 * a.toNat < 2 ^ 64
    omega

theorem toNat_toUInt64 {a : Int64} (h : 0 ≤ a.toInt) :
    (a.toUInt64.toNat : Int) = a.toInt := by
  rw [Int64.toNat_toUInt64_of_le (Int64.le_iff_toInt_le.mpr h)]
  exact Int.toNat_of_nonneg h

theorem toNat_toUInt64_emod (a : Int64) :
    (a.toUInt64.toNat : Int) = a.toInt % 2 ^ 64 := by
  rw [← Int64.toInt_toBitVec, BitVec.toInt_eq_toNat_bmod]
  have hlt := a.toUInt64.toNat_lt
  have hmod : (a.toBitVec.toNat : Int).bmod (2 ^ 64) % 2 ^ 64 =
      a.toBitVec.toNat % 2 ^ 64 := Int.bmod_emod
  rw [hmod, Int64.toNat_toBitVec, Int.emod_eq_of_lt (by omega) (by omega)]

@[simp] theorem toInt_zero : (0 : Int64).toInt = 0 := rfl

theorem toInt_max (a b : Int64) : (max a b).toInt = max a.toInt b.toInt := by
  show (if a ≤ b then b else a).toInt = _
  split <;> rename_i h <;> rw [Int64.le_iff_toInt_le] at h <;> omega

theorem toNat_toUInt64_sub {a b : Int64} (hle : b.toInt ≤ a.toInt)
    (hlt : a.toInt - b.toInt < 2 ^ 63) :
    ((a - b).toUInt64.toNat : Int) = a.toInt - b.toInt := by
  have hsub := toInt_sub (a := a) (b := b) (by omega) hlt
  rw [toNat_toUInt64 (by omega), hsub]

theorem toNat_toUInt64_max (a : Int64) :
    ((max 0 a).toUInt64.toNat : Int) = max 0 a.toInt := by
  have hmax := toInt_max 0 a
  rw [toInt_zero] at hmax
  rw [toNat_toUInt64 (by omega), hmax]

theorem toNat_min (a b : UInt64) : (min a b).toNat = min a.toNat b.toNat := by
  show (if a ≤ b then a else b).toNat = _
  split <;> rename_i h <;> rw [UInt64.le_iff_toNat_le] at h <;> omega

theorem toNat_ofNat {n : Nat} (h : n < 2 ^ 64) : (UInt64.ofNat n).toNat = n := by
  rw [UInt64.toNat_ofNat', Nat.mod_eq_of_lt h]

/-! ## Without bounds

What is left of the equations above when nothing rules the wrap out. -/

theorem exists_toInt_sub (a b : Int64) :
    ∃ k : Int, (a - b).toInt = a.toInt - b.toInt - 2 ^ 64 * k := by
  refine ⟨(a.toInt - b.toInt).bdiv (2 ^ 64), ?_⟩
  have hdiv := Int.bmod_add_bdiv (a.toInt - b.toInt) (2 ^ 64)
  rw [Int64.toInt_sub]
  omega

theorem exists_toInt_add_toInt64 (a : Int64) (n : UInt64) :
    ∃ k : Int, (a + n.toInt64).toInt = a.toInt + n.toNat - 2 ^ 64 * k := by
  have hcast : n.toInt64.toInt = (n.toNat : Int).bmod (2 ^ 64) := by
    rw [← Int64.toInt_toBitVec, UInt64.toBitVec_toInt64, BitVec.toInt_eq_toNat_bmod]
    rfl
  have hn := Int.bmod_add_bdiv (n.toNat : Int) (2 ^ 64)
  have hsum := Int.bmod_add_bdiv (a.toInt + n.toInt64.toInt) (2 ^ 64)
  refine ⟨(n.toNat : Int).bdiv (2 ^ 64) +
    (a.toInt + n.toInt64.toInt).bdiv (2 ^ 64), ?_⟩
  rw [Int64.toInt_add]
  omega

theorem exists_toInt_toInt64 (n : UInt64) :
    ∃ k : Int, n.toInt64.toInt = n.toNat - 2 ^ 64 * k := by
  obtain ⟨k, hk⟩ := exists_toInt_add_toInt64 0 n
  rw [Int64.zero_add, toInt_zero] at hk
  exact ⟨k, by omega⟩

theorem exists_toInt_sub_toInt64 (a : Int64) (n : UInt64) :
    ∃ k : Int, (a - n.toInt64).toInt = a.toInt - n.toNat + 2 ^ 64 * k := by
  obtain ⟨k, hk⟩ := exists_toInt_toInt64 n
  obtain ⟨l, hl⟩ := exists_toInt_sub a n.toInt64
  exact ⟨k - l, by omega⟩

theorem toInt64_eq_zero_iff {n : UInt64} : n.toInt64 = 0 ↔ n = 0 :=
  ⟨congrArg Int64.toUInt64, congrArg UInt64.toInt64⟩

theorem toNat_toUInt64_sub_emod (a b : Int64) :
    ((a - b).toUInt64.toNat : Int) = (a.toInt - b.toInt) % 2 ^ 64 := by
  obtain ⟨k, hk⟩ := exists_toInt_sub a b
  rw [toNat_toUInt64_emod, hk]
  omega

theorem toUInt64_add_toInt64 (a : Int64) (n : UInt64) :
    (a + n.toInt64).toUInt64 = a.toUInt64 + n := by
  rw [← UInt64.toBitVec_inj]
  simp

theorem sub_sub_self (a b : UInt64) : a - (a - b) = b := by
  rw [← UInt64.toBitVec_inj, UInt64.toBitVec_sub, UInt64.toBitVec_sub]
  bv_omega

theorem add_sub_eq_iff {a b c : UInt64} : a + b - c = a ↔ c = b := by
  rw [UInt64.sub_eq_iff_eq_add, UInt64.add_right_inj]
  exact eq_comm

/-! ## Powers of two and masks -/

theorem exponent_le {a : UInt64} {k : Nat} (h : a.toNat = 2 ^ k) : k ≤ 63 := by
  have hlt := a.toNat_lt
  rw [h] at hlt
  have hk := (Nat.pow_lt_pow_iff_right (by omega : 1 < 2)).mp hlt
  omega

theorem ne_zero_of_two_pow {a : UInt64} {k : Nat} (h : a.toNat = 2 ^ k) : a ≠ 0 := by
  intro hzero
  have hpos := Nat.two_pow_pos k
  rw [hzero, UInt64.toNat_zero] at h
  omega

/-- The largest power of two that is a word. -/
theorem two_pow_le {a : UInt64} {k : Nat} (h : a.toNat = 2 ^ k) :
    2 ^ k ≤ 2 ^ 63 :=
  Nat.pow_le_pow_right (by omega) (exponent_le h)

theorem toNat_and_add_and_not (x m : UInt64) :
    (x &&& m).toNat + (x &&& ~~~m).toNat = x.toNat := by
  have hdisj : (x.toBitVec &&& m.toBitVec) &&& (x.toBitVec &&& ~~~m.toBitVec)
      = 0#64 := by
    ext i hi
    simp only [BitVec.getElem_and, BitVec.getElem_not, BitVec.getElem_zero]
    cases x.toBitVec[i] <;> cases m.toBitVec[i] <;> rfl
  have hjoin : (x.toBitVec &&& m.toBitVec) ||| (x.toBitVec &&& ~~~m.toBitVec)
      = x.toBitVec := by
    ext i hi
    simp only [BitVec.getElem_or, BitVec.getElem_and, BitVec.getElem_not]
    cases x.toBitVec[i] <;> cases m.toBitVec[i] <;> rfl
  have hsum := BitVec.toNat_add_of_and_eq_zero hdisj
  rw [BitVec.add_eq_or_of_and_eq_zero _ _ hdisj, hjoin] at hsum
  exact hsum.symm

/-- Clearing the bits under a mask takes off at most the mask. -/
theorem le_toNat_and_not (x m : UInt64) :
    x.toNat ≤ (x &&& ~~~m).toNat + m.toNat := by
  have hsplit := toNat_and_add_and_not x m
  have hle : (x &&& m).toNat ≤ m.toNat := by
    rw [UInt64.toNat_and]
    exact Nat.and_le_right
  omega

/-- Clearing the low `k` bits rounds down to a multiple of `2 ^ k`. -/
theorem toNat_and_not_mask {x m : UInt64} {k : Nat} (hm : m.toNat = 2 ^ k - 1) :
    (x &&& ~~~m).toNat = x.toNat / 2 ^ k * 2 ^ k := by
  have hsplit := toNat_and_add_and_not x m
  have hlow : (x &&& m).toNat = x.toNat % 2 ^ k := by
    rw [UInt64.toNat_and, hm, Nat.and_two_pow_sub_one_eq_mod]
  have hdiv := Nat.div_add_mod' x.toNat (2 ^ k)
  omega

end Word

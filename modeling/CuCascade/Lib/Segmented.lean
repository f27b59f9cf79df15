import Mathlib.Data.List.Nodup
import Mathlib.Logic.Function.Basic

/-!
# Sequences laid out over segments

A long sequence is kept in segments of one size that need not be adjacent:
position `n` is at offset `n % size` of segment number `n / size`. A copy runs
over such a layout in pieces that do not cross the end of a segment. The lemmas
here say what one piece does, in terms of positions, so that a loop over pieces
is a loop that fills a prefix, whatever the sizes of the segments on the two
sides are.
-/

namespace Segmented

variable {K V : Type*} {segments : List K} {size : Nat} {m : K → Nat → V}

/-- What is at position `n`. -/
def read (segments : List K) (size : Nat) (m : K → Nat → V) (n : Nat) : Option V :=
  (segments[n / size]?).map fun k => m k (n % size)

/-- The first `n` positions hold the first `n` values of a source. -/
def Holds (segments : List K) (size : Nat) (m : K → Nat → V) (n : Nat)
    (source : Nat → V) : Prop :=
  ∀ j < n, read segments size m j = some (source j)

theorem holds_zero (source : Nat → V) : Holds segments size m 0 source := nofun

/-! ## Pieces -/

/-- The piece that starts at `n` and does not reach past the end of the segment
stays in it. -/
theorem div_add_of_lt {n i : Nat} (h : n % size + i < size) :
    (n + i) / size = n / size := by
  have hn := Nat.div_add_mod n size
  refine Nat.div_eq_of_lt_le ?_ ?_
  · rw [Nat.mul_comm]
    omega
  · rw [Nat.succ_mul, Nat.mul_comm]
    omega

theorem mod_add_of_lt {n i : Nat} (h : n % size + i < size) :
    (n + i) % size = n % size + i := by
  have hdiv := div_add_of_lt h
  have hn := Nat.div_add_mod n size
  have hi := Nat.div_add_mod (n + i) size
  rw [hdiv] at hi
  omega

/-- A piece that ends with its segment goes on at the next one. -/
theorem div_add_of_eq {n i : Nat} (hpos : 0 < size) (h : n % size + i = size) :
    (n + i) / size = n / size + 1 := by
  have hn := Nat.div_add_mod n size
  have heq : n + i = size * (n / size + 1) := by
    rw [Nat.mul_add, Nat.mul_one]
    omega
  rw [heq, Nat.mul_div_cancel_left _ hpos]

theorem mod_add_of_eq {n i : Nat} (h : n % size + i = size) :
    (n + i) % size = 0 := by
  have hn := Nat.div_add_mod n size
  have heq : n + i = size * (n / size + 1) := by
    rw [Nat.mul_add, Nat.mul_one]
    omega
  rw [heq, Nat.mul_mod_right]

theorem pos_of_lt_mul {n len : Nat} (h : n < len * size) : 0 < size := by
  rcases Nat.eq_zero_or_pos size with hzero | hpos
  · rw [hzero, Nat.mul_zero] at h
    exact absurd h (Nat.not_lt_zero n)
  · exact hpos

/-- As long as there is room there is a segment. -/
theorem exists_segment {n : Nat} (h : n < segments.length * size) :
    ∃ k, segments[n / size]? = some k := by
  have hlt : n / size < segments.length :=
    (Nat.div_lt_iff_lt_mul (pos_of_lt_mul h)).mpr h
  exact ⟨segments[n / size], List.getElem?_eq_getElem hlt⟩

/-- What a piece of a layout that holds a source reads. -/
theorem Holds.piece {source : Nat → V} {total n : Nat} {k : K}
    (h : Holds segments size m total source) (hk : segments[n / size]? = some k)
    {i : Nat} (hin : n % size + i < size) (htotal : n + i < total) :
    m k (n % size + i) = source (n + i) := by
  have hread := h (n + i) htotal
  rw [read, div_add_of_lt hin, mod_add_of_lt hin, hk, Option.map_some,
    Option.some.injEq] at hread
  exact hread

/-- What a layout holds depends on its own segments. -/
theorem Holds.congr {source : Nat → V} {total : Nat} {m' : K → Nat → V}
    (h : Holds segments size m total source) (hsame : ∀ k ∈ segments, m' k = m k) :
    Holds segments size m' total source := by
  intro j hj
  rw [← h j hj, read, read]
  refine Option.map_congr fun k hk => ?_
  rw [hsame k (List.mem_of_getElem? hk)]

variable [DecidableEq K]

/-- A piece written at the end of a prefix makes the prefix longer. -/
theorem Holds.extend {source : Nat → V} {n count : Nat} {k : K}
    {contents : Nat → V} (h : Holds segments size m n source)
    (hnodup : segments.Nodup) (hk : segments[n / size]? = some k)
    (hin : n % size + count ≤ size)
    (hwritten : ∀ i < count, contents (n % size + i) = source (n + i))
    (hkept : ∀ i < n % size, contents i = m k i) :
    Holds segments size (Function.update m k contents) (n + count) source := by
  intro j hj
  rw [read]
  rcases Nat.lt_or_ge j n with hold | hnew
  · have hread := h j hold
    rw [read] at hread
    cases hseg : segments[j / size]? with
    | none =>
        rw [hseg] at hread
        cases hread
    | some k' =>
        rw [hseg, Option.map_some, Option.some.injEq] at hread
        rw [Option.map_some, Option.some.injEq, ← hread]
        by_cases hkk : k' = k
        · -- the same segment: an earlier offset of it
          subst hkk
          have hidx : j / size = n / size :=
            (List.getElem?_inj (List.getElem?_eq_some_iff.mp hseg).1 hnodup).mp
              (hseg.trans hk.symm)
          have hjmod := Nat.div_add_mod j size
          have hnmod := Nat.div_add_mod n size
          rw [hidx] at hjmod
          rw [Function.update_self, hkept (j % size) (by omega)]
        · rw [Function.update_of_ne hkk]
  · obtain ⟨i, rfl⟩ := Nat.exists_eq_add_of_le hnew
    have hlt : n % size + i < size := by omega
    rw [div_add_of_lt hlt, mod_add_of_lt hlt, hk, Option.map_some,
      Function.update_self, hwritten i (by omega)]

end Segmented

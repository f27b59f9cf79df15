import CuCascade.Lib.Word

/-!
# `utils/atomics.hpp`: the bounded counter and the peak tracker

Both are templates over an integral type and so are the definitions here: a
counter is its value, and an operation takes the value it finds and gives the
value it leaves. With one call at a time the compare-exchange of each loop
succeeds on the value just read (a spurious failure rereads the same one), so
an operation is its last iteration.

The two instances in use are `size_t`, where every subtraction of the source
is guarded and the operations are exact, and `int64_t`, where exactness needs
the distance to the bound to be representable.
-/

namespace CuCascade.Utils

section

variable {T : Type*} [Add T] [Sub T] [LT T] [DecidableLT T] [Min T] [OfNat T 0]

/-- `atomic_peak_tracker::update_peak`. -/
def updatePeak (peakValue currentValue : T) : T :=
  if peakValue < currentValue then currentValue else peakValue

/-- `atomic_bounded_counter::try_add`: the pair it returns. Its second
component is also the value the counter is left with. -/
def tryAdd (current diff upperBound : T) : Bool × T :=
  if upperBound < current ∨ upperBound - current < diff then (false, current)
  else (true, current + diff)

/-- `atomic_bounded_counter::add_bounded`: what it makes of its reference
argument, and the value it returns and leaves. -/
def addBounded (current diff upperBound : T) : T × T :=
  if current < upperBound then
    let spaceLeft := upperBound - current
    let diff := min diff spaceLeft
    (diff, current + diff)
  else (0, current)

end

section

variable {T : Type*} [Add T] [Sub T] [LT T] [DecidableLT T]
  {current diff upperBound post : T}

/-- What `try_add` leaves if it adds. -/
theorem post_of_added (h : tryAdd current diff upperBound = (true, post)) :
    post = current + diff := by
  unfold tryAdd at h
  split at h <;> cases h
  rfl

/-- And if it does not. -/
theorem post_of_refused (h : tryAdd current diff upperBound = (false, post)) :
    post = current := by
  unfold tryAdd at h
  split at h <;> cases h
  rfl

end

/-! ## `size_t` -/

theorem tryAdd_of_le {v d ub : UInt64} (h : v.toNat + d.toNat ≤ ub.toNat) :
    tryAdd v d ub = (true, v + d) := by
  unfold tryAdd
  have hsub := Word.toNat_sub (a := ub) (b := v) (by omega)
  rw [if_neg]
  rintro (hlt | hlt) <;> rw [UInt64.lt_iff_toNat_lt] at hlt <;> omega

theorem tryAdd_of_lt {v d ub : UInt64} (h : ub.toNat < v.toNat + d.toNat) :
    tryAdd v d ub = (false, v) := by
  unfold tryAdd
  rw [if_pos]
  by_cases hub : ub.toNat < v.toNat
  · exact Or.inl (UInt64.lt_iff_toNat_lt.mpr hub)
  · have hsub := Word.toNat_sub (a := ub) (b := v) (by omega)
    exact Or.inr (UInt64.lt_iff_toNat_lt.mpr (by omega))

theorem toNat_add_of_le {v d ub : UInt64} (h : v.toNat + d.toNat ≤ ub.toNat) :
    (v + d).toNat = v.toNat + d.toNat :=
  Word.toNat_add (Nat.lt_of_le_of_lt h ub.toNat_lt)

/-- `add_bounded` grants the request or the room left, whichever is smaller,
and adds what it grants. -/
theorem addBounded_spec (v d ub : UInt64) :
    (addBounded v d ub).1.toNat = min d.toNat (ub.toNat - v.toNat) ∧
      (addBounded v d ub).2.toNat =
        v.toNat + min d.toNat (ub.toNat - v.toNat) := by
  unfold addBounded
  split <;> rename_i h <;> rw [UInt64.lt_iff_toNat_lt] at h
  · have hsub := Word.toNat_sub (a := ub) (b := v) (by omega)
    have hmin := Word.toNat_min d (ub - v)
    have hlt := ub.toNat_lt
    dsimp only
    rw [Word.toNat_add (by omega)]
    omega
  · have hzero : (0 : UInt64).toNat = 0 := rfl
    dsimp only
    omega

/-! ## `int64_t` -/

theorem tryAdd_int_of_le {v d ub : Int64} (hd : 0 ≤ d.toInt)
    (hroom : ub.toInt - v.toInt < 2 ^ 63) (h : v.toInt + d.toInt ≤ ub.toInt) :
    tryAdd v d ub = (true, v + d) := by
  unfold tryAdd
  have hsub := Word.toInt_sub (a := ub) (b := v) (by omega) hroom
  rw [if_neg]
  rintro (hlt | hlt) <;> rw [Int64.lt_iff_toInt_lt] at hlt <;> omega

theorem tryAdd_int_of_lt {v d ub : Int64} (hroom : ub.toInt - v.toInt < 2 ^ 63)
    (h : ub.toInt < v.toInt + d.toInt) : tryAdd v d ub = (false, v) := by
  unfold tryAdd
  rw [if_pos]
  by_cases hub : ub.toInt < v.toInt
  · exact Or.inl (Int64.lt_iff_toInt_lt.mpr hub)
  · have hsub := Word.toInt_sub (a := ub) (b := v) (by omega) hroom
    exact Or.inr (Int64.lt_iff_toInt_lt.mpr (by omega))

theorem toInt_add_of_le {v d ub : Int64} (hd : 0 ≤ d.toInt)
    (h : v.toInt + d.toInt ≤ ub.toInt) :
    (v + d).toInt = v.toInt + d.toInt := by
  have hlo := v.le_toInt
  have hhi := ub.toInt_lt
  exact Word.toInt_add (by omega) (by omega)

end CuCascade.Utils

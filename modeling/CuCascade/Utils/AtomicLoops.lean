import CuCascade.Lib.Retry
import CuCascade.Utils.Atomics

/-!
# `utils/atomics.hpp`: the loops themselves

Each operation loads the value and loops over `compare_exchange_weak`, which
puts the value it finds into the variable it compares with. Here other threads
may write between the accesses. The local state of a loop is what it keeps from
one pass to the next besides the value it read: nothing for `try_add` and
`try_sub`, the reference argument for `add_bounded` and `sub_bounded`, the
argument, which does not change, for `update_peak`.
-/

namespace CuCascade.Utils

open Retry

section

variable {T : Type*} [LT T] [DecidableLT T]

/-- `update_peak`. -/
def updatePeakLoop (currentValue peakValue : T) : Move T T Unit :=
  if peakValue < currentValue then .exchange currentValue () currentValue else .leave ()

/-- The loop of `try_add` and `try_sub`. -/
def tryLoop (refused : T → Prop) [DecidablePred refused] (updated : T → T) (_ : Unit)
    (current : T) : Move Unit T (Bool × T) :=
  if refused current then .leave (false, current)
  else .exchange (updated current) (true, updated current) ()

/-- The loop of `add_bounded` and `sub_bounded`: what it makes of its reference
argument, and the value it returns. -/
def boundedLoop [Min T] [OfNat T 0] (goesOn : T → Prop) [DecidablePred goesOn]
    (space : T → T) (updated : T → T → T) (diff current : T) : Move T T (T × T) :=
  if goesOn current then
    -- the clamped amount is kept when the exchange fails
    let diff := min diff (space current)
    .exchange (updated current diff) (diff, updated current diff) diff
  else .leave (0, current)

variable [Add T] [Sub T]

/-- `try_add`. -/
def tryAddLoop (diff upperBound : T) : Unit → T → Move Unit T (Bool × T) :=
  tryLoop (fun current => upperBound < current ∨ upperBound - current < diff)
    fun current => current + diff

/-- `try_sub`. -/
def trySubLoop (diff lowerBound : T) : Unit → T → Move Unit T (Bool × T) :=
  tryLoop (fun current => current < lowerBound ∨ current - lowerBound < diff)
    fun current => current - diff

variable [Min T] [OfNat T 0]

/-- `add_bounded`. -/
def addBoundedLoop (upperBound : T) : T → T → Move T T (T × T) :=
  boundedLoop (fun current => current < upperBound) (fun current => upperBound - current)
    fun current diff => current + diff

/-- `sub_bounded`. -/
def subBoundedLoop (lowerBound : T) : T → T → Move T T (T × T) :=
  boundedLoop (fun current => lowerBound < current) (fun current => current - lowerBound)
    fun current diff => current - diff

end

/-! ## One pass

With nobody else at work an operation makes one pass, which is the operation as
it is modelled where calls come one at a time. -/

section

variable {T : Type*} [LT T] [DecidableLT T]

/-- The accesses of a call that nobody disturbs. -/
def undisturbed (value : T) : List (Access T) := [⟨value, false⟩, ⟨value, false⟩]

theorem updatePeakLoop_undisturbed [DecidableEq T] (peakValue currentValue : T) :
    (Call.loading currentValue).leaves updatePeakLoop (undisturbed peakValue) =
      [peakValue, updatePeak peakValue currentValue] := by
  show [peakValue, (Call.read updatePeakLoop currentValue peakValue).write _] = _
  rw [Call.read, updatePeakLoop, updatePeak]
  by_cases h : peakValue < currentValue
  · rw [if_pos h, if_pos h]
    simp [Call.write, Access.Succeeds]
  · rw [if_neg h, if_neg h]
    rfl

variable [Add T] [Sub T]

theorem tryAddLoop_result (state : Unit) (current diff upperBound : T) :
    (tryAddLoop diff upperBound state current).result =
      tryAdd current diff upperBound := by
  rw [tryAddLoop, tryLoop, tryAdd]
  by_cases h : upperBound < current ∨ upperBound - current < diff
  · rw [if_pos h, if_pos h]
    rfl
  · rw [if_neg h, if_neg h]
    rfl

theorem addBoundedLoop_undisturbed [DecidableEq T] [Min T] [OfNat T 0]
    (current diff upperBound : T) :
    ((Call.loading diff).follow (addBoundedLoop upperBound)
      (undisturbed current)).result? = some (addBounded current diff upperBound) := by
  rw [undisturbed, Call.result?_undisturbed, addBoundedLoop, boundedLoop, addBounded]
  by_cases h : current < upperBound
  · rw [if_pos h, if_pos h]
    rfl
  · rw [if_neg h, if_neg h]
    rfl

end

end CuCascade.Utils

import CuCascade.Utils.AtomicLoops
import Mathlib.Order.Bounds.Basic

/-!
# The peak under concurrent updates

Any number of calls of `update_peak` make their loads and exchanges in any
order. An exchange is only tried from a smaller value to a larger one and goes
through only from the value it was tried from, so the peak never falls. A call
gives up only when it has just read a peak that is no smaller than its own
value. As the peak does not fall, that stays so, and when all calls have
returned the peak is above everything passed.
-/

namespace CuCascade.Utils

open Retry

variable {ι T : Type*} [LinearOrder T]

/-- Calls of `update_peak` on one tracker, none of which has begun. -/
def peakWorld (initial : T) (values : ι → T) : World ι T T Unit where
  word := initial
  calls i := .loading (values i)

/-- A call with the given value is on its way to raise the peak to it, or has
seen to it. -/
def Accounted (peak value : T) : Call T T Unit → Prop
  | .loading state => state = value
  | .trying current new _ retry => current < value ∧ new = value ∧ retry = value
  | .left _ _ => value ≤ peak
  | .exchanged _ _ _ => value ≤ peak

/-- What the accesses of the calls keep. -/
structure PeakInv (initial : T) (values : ι → T) (w : World ι T T Unit) : Prop where
  initial_le : initial ≤ w.word
  attained : w.word ∈ insert initial (Set.range values)
  accounted : ∀ i, Accounted w.word (values i) (w.calls i)

/-! ## One access -/

section

variable {peak peak' value : T} {c : Call T T Unit}

theorem Accounted.mono (h : Accounted peak value c) (hle : peak ≤ peak') :
    Accounted peak' value c := by
  cases c with
  | loading state => exact h
  | trying current new result retry => exact h
  | left read result => exact le_trans h hle
  | exchanged found new result => exact le_trans h hle

/-- Either the peak just read is below the value, or the call is done with it. -/
theorem accounted_read (peak value : T) :
    Accounted peak value (Call.read updatePeakLoop value peak) := by
  by_cases h : peak < value
  · have hread : Call.read updatePeakLoop value peak = .trying peak value () value := by
      rw [Call.read, updatePeakLoop, if_pos h]
    rw [hread]
    exact ⟨h, rfl, rfl⟩
  · have hread : Call.read updatePeakLoop value peak = .left peak () := by
      rw [Call.read, updatePeakLoop, if_neg h]
    rw [hread]
    exact le_of_not_gt h

/-- An access leaves the peak, or raises it to the call's value. -/
theorem Accounted.access (h : Accounted peak value c) (spurious : Bool) :
    Accounted (c.write ⟨peak, spurious⟩) value
        (c.access updatePeakLoop ⟨peak, spurious⟩) ∧
      (c.write ⟨peak, spurious⟩ = peak ∨
        peak < value ∧ c.write ⟨peak, spurious⟩ = value) := by
  cases c with
  | loading state =>
      obtain rfl : state = value := h
      exact ⟨accounted_read peak state, Or.inl rfl⟩
  | trying current new result retry =>
      obtain ⟨hlt, rfl, rfl⟩ := h
      by_cases hsucc : (Access.mk peak spurious).Succeeds current
      · obtain rfl : peak = current := hsucc.1
        rw [Call.access_of_succeeds hsucc, Call.write, if_pos hsucc]
        exact ⟨le_rfl, Or.inr ⟨hlt, rfl⟩⟩
      · rw [Call.access_of_fails hsucc, Call.write, if_neg hsucc]
        exact ⟨accounted_read peak retry, Or.inl rfl⟩
  | left read result => exact ⟨h, Or.inl rfl⟩
  | exchanged found new result => exact ⟨h, Or.inl rfl⟩

end

/-! ## A run -/

section

variable {initial : T} {values : ι → T} {w : World ι T T Unit}

theorem peakInv_start (initial : T) (values : ι → T) :
    PeakInv initial values (peakWorld initial values) where
  initial_le := le_rfl
  attained := Set.mem_insert _ _
  accounted _ := rfl

/-- When all calls have returned nothing that was passed is above the peak. -/
theorem PeakInv.isGreatest (h : PeakInv initial values w)
    (hreturned : ∀ i, (w.calls i).Returned) :
    IsGreatest (insert initial (Set.range values)) w.word := by
  refine ⟨h.attained, ?_⟩
  intro value hvalue
  cases hvalue with
  | inl hinitial => exact hinitial ▸ h.initial_le
  | inr hpassed =>
      obtain ⟨i, rfl⟩ := hpassed
      have hcall := h.accounted i
      have hdone := hreturned i
      cases hi : w.calls i with
      | loading state => rw [hi] at hdone; exact hdone.elim
      | trying current new result retry => rw [hi] at hdone; exact hdone.elim
      | left read result => rw [hi] at hcall; exact hcall
      | exchanged found new result => rw [hi] at hcall; exact hcall

variable [DecidableEq ι]

theorem PeakInv.word_le_step (h : PeakInv initial values w) (i : ι) (spurious : Bool) :
    w.word ≤ (w.step updatePeakLoop i spurious).word := by
  obtain ⟨-, hkeeps | ⟨hlt, hraises⟩⟩ := (h.accounted i).access spurious
  · exact hkeeps.ge
  · exact hlt.le.trans_eq hraises.symm

theorem PeakInv.step (h : PeakInv initial values w) (i : ι) (spurious : Bool) :
    PeakInv initial values (w.step updatePeakLoop i spurious) := by
  have hle := h.word_le_step i spurious
  obtain ⟨hcall, hword⟩ := (h.accounted i).access spurious
  refine ⟨h.initial_le.trans hle, ?_, ?_⟩
  · show (w.calls i).write ⟨w.word, spurious⟩ ∈ _
    cases hword with
    | inl hkeeps =>
        rw [hkeeps]
        exact h.attained
    | inr hraises =>
        rw [hraises.2]
        exact Set.mem_insert_of_mem _ (Set.mem_range_self i)
  · intro j
    by_cases hj : j = i
    · subst hj
      rw [World.step_calls_self]
      exact hcall
    · rw [World.step_calls_of_ne hj]
      exact (h.accounted j).mono hle

theorem peakInv_always (initial : T) (values : ι → T) (steps : List (ι × Bool)) :
    (machine updatePeakLoop).Always (PeakInv initial values) (peakWorld initial values)
      steps :=
  Machine.always_of_lawful (fun _ step h _ => h.step step.1 step.2)
    (peakInv_start initial values) (Machine.every_of_mem fun _ _ _ => trivial)

/-- In whatever order the calls load and exchange, the peak never decreases, and
when all have returned it is the greatest of the initial peak and the values
passed. -/
theorem updatePeak_loses_no_maximum (initial : T) (values : ι → T)
    (steps : List (ι × Bool)) :
    (machine updatePeakLoop).Every
        (fun w step => w.word ≤ ((machine updatePeakLoop).next w step).word)
        (peakWorld initial values) steps ∧
      ((∀ i, (((machine updatePeakLoop).run (peakWorld initial values) steps).calls
          i).Returned) →
        IsGreatest (insert initial (Set.range values))
          ((machine updatePeakLoop).run (peakWorld initial values) steps).word) := by
  have hinv := peakInv_always initial values steps
  refine ⟨?_, hinv.last.isGreatest⟩
  exact hinv.every (J := PeakInv initial values) (fun _ step h _ => h.step step.1 step.2)
    (fun _ step h _ _ => h.word_le_step step.1 step.2) (peakInv_start initial values)
    (Machine.every_of_mem fun _ _ _ => trivial)

/-- The larger value is published between the other call's load and exchange;
the exchange fails once without reason and then finds it. -/
example : ((machine updatePeakLoop).run (peakWorld 5 fun i : Fin 2 => if i = 0 then 7 else 9)
    [(0, false), (1, false), (0, true), (1, false), (0, false)]).word = 9 := by
  decide

end

/-! ## One after the other -/

section

variable {n : Nat} (initial : T)

theorem updatePeak_eq_max (peakValue currentValue : T) :
    updatePeak peakValue currentValue = max peakValue currentValue := by
  rw [updatePeak, max_def_lt]

theorem isGreatest_foldl_updatePeak (values : List T) :
    IsGreatest (insert initial {value | value ∈ values}) (values.foldl updatePeak initial) := by
  have hmax : (initial :: values).max? = some (values.foldl updatePeak initial) := by
    rw [List.max?_cons']
    congr 2
    funext peakValue currentValue
    exact (updatePeak_eq_max peakValue currentValue).symm
  obtain ⟨hmem, hle⟩ := List.max?_eq_some_iff.mp hmax
  exact ⟨List.mem_cons.mp hmem, fun value hvalue => hle value (List.mem_cons.mpr hvalue)⟩

/-- Calls that have all returned leave the peak as the same calls do that are
made one after the other. -/
theorem run_eq_foldl_updatePeak (values : Fin n → T) (steps : List (Fin n × Bool))
    (hreturned : ∀ i, (((machine updatePeakLoop).run (peakWorld initial values) steps).calls
      i).Returned) :
    ((machine updatePeakLoop).run (peakWorld initial values) steps).word =
      (List.ofFn values).foldl updatePeak initial := by
  have hconcurrent := (peakInv_always initial values steps).last.isGreatest hreturned
  have hsequential := isGreatest_foldl_updatePeak initial (List.ofFn values)
  refine hconcurrent.unique ?_
  convert hsequential using 2
  ext value
  simp

end

end CuCascade.Utils

import Mathlib.Tactic.IntervalCases
import CuCascade.Data.CurrentDevice

/-!
# Which device is current after a conversion

The converters to the host never switch. The one from the host remembers the device
that it finds, and restores it when it gets that far. The one from device to device
goes back to the device of the source, whichever it was called on. What is thrown
between two switches leaves the device as it is.
-/

namespace CuCascade.Data

namespace BuiltinConverter

/-- Calls leave the device alone. -/
theorem foldl_calls (calls : List ConverterCall) (t : ThreadDevice) :
    (calls.map ConverterStep.call).foldl ConverterStep.run t = t := by
  induction calls with
  | nil => rfl
  | cons call calls ih => exact ih

theorem foldl_take_calls (calls : List ConverterCall) (i : Nat) (t : ThreadDevice) :
    ((calls.map ConverterStep.call).take i).foldl ConverterStep.run t = t := by
  rw [← List.map_take, foldl_calls]

/-- To return is to be done with all steps. -/
theorem exitDevice_none (c : BuiltinConverter) (device : Int) :
    c.exitDevice device none = c.exitDevice device (some c.steps.length) := by
  rw [exitDevice, exitDevice, done, done, List.take_length]

theorem exitDevice_of_calls {c : BuiltinConverter} {calls : List ConverterCall}
    (h : c.steps = calls.map .call) (device : Int) (throwsAt : Option Nat) :
    c.exitDevice device throwsAt = device := by
  unfold exitDevice done
  rw [h]
  cases throwsAt with
  | none => dsimp only; rw [foldl_calls]
  | some i => dsimp only; rw [foldl_take_calls]

theorem length_hostToGpuCalls (turns : Nat) :
    (hostToGpuCalls turns).length = 6 + 2 * turns := by
  have hturns : ((List.range turns).flatMap fun i =>
      [ConverterCall.blockAt i, ConverterCall.copy i]).length = 2 * turns := by
    induction turns with
    | zero => rfl
    | succ n ih =>
        rw [List.range_succ, List.flatMap_append, List.length_append, ih]
        exact (Nat.mul_succ 2 n).symm
  rw [hostToGpuCalls, List.length_append, List.length_append, hturns]
  simp only [List.length_cons, List.length_nil]
  omega

/-- The steps of a converter from the host, done up to `i`: before the switch, on the
target, or after the device was restored. -/
theorem exitDevice_hostToGpu (target device : Int) (turns i : Nat) :
    exitDevice (.convertHostToGpu target turns) device (some i) =
      if i ≤ 2 ∨ 9 + 2 * turns < i then device else target := by
  have hcalls : ((hostToGpuCalls turns).map ConverterStep.call).length = 6 + 2 * turns := by
    rw [List.length_map, length_hostToGpuCalls]
  simp only [exitDevice, done, steps]
  rcases Nat.lt_or_ge 2 i with hswitched | hbefore
  · obtain ⟨j, rfl⟩ := Nat.exists_eq_add_of_lt hswitched
    have hsplit : 2 + j + 1 = j + 3 := by omega
    rw [hsplit, List.append_assoc, List.cons_append, List.cons_append, List.cons_append,
      List.nil_append, List.take_succ_cons, List.take_succ_cons, List.take_succ_cons,
      List.take_append, hcalls]
    simp only [List.foldl_cons, List.foldl_append, foldl_take_calls, ConverterStep.run]
    rcases Nat.lt_or_ge (6 + 2 * turns) j with hrestored | hthere
    · rw [if_pos (.inr (by omega))]
      obtain ⟨k, rfl⟩ := Nat.exists_eq_add_of_lt hrestored
      have hleft : 6 + 2 * turns + k + 1 - (6 + 2 * turns) = k + 1 := by omega
      rw [hleft, List.take_succ_cons, List.foldl_cons]
      cases k with
      | zero => rfl
      | succ k =>
          rw [List.take_succ_cons, List.foldl_cons, List.take_nil]
          rfl
    · rw [if_neg (by omega), Nat.sub_eq_zero_of_le hthere]
      rfl
  · rw [if_pos (.inl hbefore)]
    interval_cases i <;> rfl

/-- From device to device the switches are the steps 3, 6, 9 and 14. -/
theorem exitDevice_gpuToGpu (source target device : Int) (i : Nat) :
    exitDevice (.convertGpuToGpu source target) device (some i) =
      if i ≤ 3 then device
      else if (6 < i ∧ i ≤ 9) ∨ 14 < i then source else target := by
  rcases Nat.lt_or_ge i 16 with hin | hout
  · interval_cases i <;> rfl
  · have hall : (steps (.convertGpuToGpu source target)).take i =
        steps (.convertGpuToGpu source target) := List.take_of_length_le hout
    rw [exitDevice, done, hall, if_neg (by omega), if_pos (.inr (by omega))]
    rfl

/-- When the device that was found is current at the end. In a converter from the host
the first two steps come before the switch, and the last one after the restoring one.
From device to device the switches lead to the target and to the source in turn. -/
def Restores : BuiltinConverter → Int → Option Nat → Prop
  | .convertGpuToHost _, _, _ | .convertHostToHost _, _, _ => True
  | .convertHostToGpu _ _, _, none => True
  | .convertHostToGpu targetDeviceId turns, device, some i =>
      i ≤ 2 ∨ 9 + 2 * turns < i ∨ targetDeviceId = device
  | .convertGpuToGpu sourceDeviceId _, device, none => sourceDeviceId = device
  | .convertGpuToGpu sourceDeviceId targetDeviceId, device, some i =>
      i ≤ 3 ∨
        if (6 < i ∧ i ≤ 9) ∨ 14 < i then sourceDeviceId = device
        else targetDeviceId = device

/-- The current device after any converter, entered with any device, that returns or
throws anywhere. -/
theorem exitDevice_eq_iff (c : BuiltinConverter) (device : Int) (throwsAt : Option Nat) :
    c.exitDevice device throwsAt = device ↔ c.Restores device throwsAt := by
  cases c with
  | convertGpuToHost turns =>
      exact iff_of_true (exitDevice_of_calls rfl device throwsAt) trivial
  | convertHostToHost turns =>
      exact iff_of_true (exitDevice_of_calls rfl device throwsAt) trivial
  | convertHostToGpu target turns =>
      cases throwsAt with
      | none =>
          refine iff_of_true ?_ trivial
          rw [exitDevice_none, exitDevice_hostToGpu, if_pos]
          rw [steps, List.length_append, List.length_append, List.length_map,
            length_hostToGpuCalls]
          simp only [List.length_cons, List.length_nil]
          omega
      | some i =>
          rw [exitDevice_hostToGpu, Restores]
          split
          · rename_i hstays
            refine iff_of_true rfl ?_
            rcases hstays with hbefore | hafter
            · exact .inl hbefore
            · exact .inr (.inl hafter)
          · rename_i hswitched
            rw [not_or] at hswitched
            simp [hswitched.1, hswitched.2]
  | convertGpuToGpu source target =>
      cases throwsAt with
      | none => exact Iff.rfl
      | some i =>
          rw [exitDevice_gpuToGpu, Restores]
          by_cases hbefore : i ≤ 3
          · simp [hbefore]
          · by_cases hsource : (6 < i ∧ i ≤ 9) ∨ 14 < i
            · rw [if_neg hbefore, if_pos hsource, if_pos hsource, or_iff_right hbefore]
            · rw [if_neg hbefore, if_neg hsource, if_neg hsource, or_iff_right hbefore]

/-- Called on device 2, a conversion from device 0 to device 1 that goes well leaves
device 0 current; and one whose allocation on device 1 throws leaves device 1. -/
theorem device_left_behind :
    exitDevice (.convertGpuToGpu 0 1) 2 none = 0 ∧
      exitDevice (.convertGpuToGpu 0 1) 2 (some 4) = 1 ∧
      exitDevice (.convertHostToGpu 1 1) 0 (some 3) = 1 ∧
      ¬ ∀ (c : BuiltinConverter) (device : Int) (throwsAt : Option Nat),
        c.exitDevice device throwsAt = device := by
  refine ⟨rfl, rfl, rfl, fun h => ?_⟩
  have hback := h (.convertGpuToGpu 0 1) 2 none
  revert hback
  decide

end BuiltinConverter

end CuCascade.Data

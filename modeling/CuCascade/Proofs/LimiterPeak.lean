import CuCascade.Lib.HighWater
import CuCascade.Proofs.LimiterBooks

/-!
# The peak of a limiter under any number of threads

`get_peak_total_allocated_bytes` shows a counter of its own. A call that has
raised the total loads and exchanges that counter afterwards, and in between the
total may rise and fall by the hand of others. So for a while the peak may be
lower than what has been reached; but each rise is on its way, with the call
that made it, and the peak ends up at the highest total there ever was. Charges
that are given back because the upstream has thrown are among these totals.
-/

namespace CuCascade.Memory

open Retry Utils LimiterCall

/-- The call is in `update_peak`. -/
def LimiterCall.Peaking : LimiterCall → Prop
  | peaking _ _ => True
  | adding _ _ | addingUpTo _ | reserving _ _ | counting _ | arena _ _ | uncounted _ _
  | unreserved _ _ | gone _ | charged _ | failing _ | block _ | leaked _ => False

namespace LimiterWorld

/-- The total as a number. -/
def totalBytes (w : LimiterWorld) : Nat := w.mr.totalAllocatedBytes.toNat

/-- What `get_peak_total_allocated_bytes` returns. -/
def peakBytes (w : LimiterWorld) : Nat := w.mr.peakTotalAllocatedBytes.toNat

/-- A call in `update_peak` with the value `n`. -/
def Carries (x : Option LimiterCall) (n : Nat) : Prop :=
  ∃ caller c value, x = some (.peaking caller c) ∧ Raises value c ∧ value.toNat = n

/-- Some call is in `update_peak` with the value `n`. -/
def Pending (w : LimiterWorld) (n : Nat) : Prop :=
  ∃ id, Carries (w.calls.lookup id) n

section

variable {w : LimiterWorld} {id : Nat} {mr : Adaptor} {x : Option LimiterCall}
  {call : LimiterCall}

theorem not_carries (h : ¬ call.Peaking) (n : Nat) : ¬ Carries (some call) n := by
  intro hcarries
  obtain ⟨caller, c, -, hsame, -⟩ := hcarries
  cases hsame
  exact h trivial

theorem not_carries_none (n : Nat) : ¬ Carries none n := by
  intro hcarries
  obtain ⟨caller, c, -, hsame, -⟩ := hcarries
  cases hsame

theorem lookup_put_self : (w.put id x).calls.lookup id = x := by
  cases x with
  | some call => exact AList.lookup_insert _
  | none => exact AList.lookup_erase _ _

theorem lookup_put_of_ne {k : Nat} (h : k ≠ id) :
    (w.put id x).calls.lookup k = w.calls.lookup k := by
  cases x with
  | some call => exact AList.lookup_insert_ne h
  | none => exact AList.lookup_erase_ne h

/-- What is pending after a step on `id`. -/
theorem pending_put {n : Nat} : ({ w with mr := mr }.put id x).Pending n ↔
    Carries x n ∨ ∃ k, k ≠ id ∧ Carries (w.calls.lookup k) n := by
  constructor
  · intro h
    obtain ⟨k, hk⟩ := h
    by_cases hsame : k = id
    · subst hsame
      rw [lookup_put_self] at hk
      exact Or.inl hk
    · rw [lookup_put_of_ne hsame] at hk
      exact Or.inr ⟨k, hsame, hk⟩
  · intro h
    rcases h with hx | ⟨k, hne, hk⟩
    · exact ⟨id, by rw [lookup_put_self]; exact hx⟩
    · exact ⟨k, by rw [lookup_put_of_ne hne]; exact hk⟩

/-- A step on `id` publishes what it has to if its own call does. -/
theorem publishes_put
    (hrise : mr.totalAllocatedBytes.toNat ≤ w.totalBytes ∨
      Carries x mr.totalAllocatedBytes.toNat)
    (hkeep : ∀ n, Carries (w.calls.lookup id) n →
      Carries x n ∨ n ≤ mr.peakTotalAllocatedBytes.toNat)
    (hfresh : ∀ n, Carries x n →
      Carries (w.calls.lookup id) n ∨ n = mr.totalAllocatedBytes.toNat)
    (hup : w.peakBytes ≤ mr.peakTotalAllocatedBytes.toNat)
    (hreach : mr.peakTotalAllocatedBytes.toNat = w.peakBytes ∨
      Carries (w.calls.lookup id) mr.peakTotalAllocatedBytes.toNat) :
    HighWater.Publishes totalBytes peakBytes Pending w
      ({ w with mr := mr }.put id x) := by
  have hmr : ({ w with mr := mr }.put id x).mr = mr := put_mr _ _ _
  refine ⟨?_, fun n hn => ?_, fun n hn => ?_, ?_, ?_⟩
  · rw [totalBytes, hmr, pending_put]
    exact hrise.imp_right Or.inl
  · rw [peakBytes, hmr, pending_put]
    obtain ⟨k, hk⟩ := hn
    by_cases hsame : k = id
    · subst hsame
      exact (hkeep n hk).imp_left Or.inl
    · exact Or.inl (Or.inr ⟨k, hsame, hk⟩)
  · rw [totalBytes, hmr]
    rcases pending_put.mp hn with hx | ⟨k, -, hk⟩
    · exact (hfresh n hx).imp_left fun hold => ⟨id, hold⟩
    · exact Or.inl ⟨k, hk⟩
  · rw [peakBytes, peakBytes, hmr]
    exact hup
  · rw [peakBytes, hmr]
    exact hreach.imp_right fun hold => ⟨id, hold⟩

/-- A step that leaves the peak alone, from a place outside `update_peak`. -/
theorem publishes_of_quiet (hpeak : mr.peakTotalAllocatedBytes = w.mr.peakTotalAllocatedBytes)
    (hold : ∀ n, ¬ Carries (w.calls.lookup id) n)
    (hrise : mr.totalAllocatedBytes.toNat ≤ w.totalBytes ∨
      Carries x mr.totalAllocatedBytes.toNat)
    (hfresh : ∀ n, Carries x n → n = mr.totalAllocatedBytes.toNat) :
    HighWater.Publishes totalBytes peakBytes Pending w ({ w with mr := mr }.put id x) := by
  have hsame : mr.peakTotalAllocatedBytes.toNat = w.peakBytes := by
    rw [hpeak]
    rfl
  exact publishes_put hrise (fun n hn => absurd hn (hold n))
    (fun n hn => Or.inr (hfresh n hn)) hsame.ge (Or.inl hsame)

theorem publishes_refl : HighWater.Publishes totalBytes peakBytes Pending w w :=
  ⟨Or.inl le_rfl, fun _ hn => Or.inl hn, fun _ hn => Or.inl hn, le_rfl, Or.inl rfl⟩

/-- A place outside `update_peak` after another one, the total no higher. -/
theorem publishes_of_outside {old : LimiterCall} (hcall : w.calls.lookup id = some old)
    (hold : ¬ old.Peaking) (hnew : ∀ n, ¬ Carries x n)
    (hpeak : mr.peakTotalAllocatedBytes = w.mr.peakTotalAllocatedBytes)
    (hle : mr.totalAllocatedBytes.toNat ≤ w.totalBytes) :
    HighWater.Publishes totalBytes peakBytes Pending w ({ w with mr := mr }.put id x) := by
  refine publishes_of_quiet hpeak (fun n => ?_) (Or.inl hle) fun n hn => absurd hn (hnew n)
  rw [hcall]
  exact not_carries hold n

/-- A call that has raised the total to `post` goes to `update_peak` with it. -/
theorem publishes_of_raised {old : LimiterCall} (hcall : w.calls.lookup id = some old)
    (hold : ¬ old.Peaking) (caller : AddCaller) (post : UInt64) :
    HighWater.Publishes totalBytes peakBytes Pending w
      ({ w with mr := { w.mr with totalAllocatedBytes := post } }.put id
        (some (.peaking caller (.loading post)))) := by
  refine publishes_of_quiet rfl (fun n => ?_) (Or.inr ?_) fun n hn => ?_
  · rw [hcall]
    exact not_carries hold n
  · exact ⟨caller, .loading post, post, rfl, rfl, rfl⟩
  · obtain ⟨caller', c, value, hsame, hraises, hvalue⟩ := hn
    cases hsame
    obtain rfl : post = value := hraises
    exact hvalue.symm

theorem publishes_adding (h : w.Books) {caller : AddCaller}
    {c : Call Unit UInt64 (Bool × UInt64)}
    (hcall : w.calls.lookup id = some (.adding caller c)) (spurious : Bool) :
    HighWater.Publishes totalBytes peakBytes Pending w
      (w.access id spurious (.adding caller c)) := by
  obtain ⟨-, hrun, hjust⟩ := h.sound.get hcall
  have hrefused : ∀ n, ¬ Carries caller.refused n := by
    intro n
    cases caller with
    | doReserve caller sizeBytes =>
        cases caller with
        | reserve => exact not_carries_none n
        | growReservationBy arena shrunk =>
            refine not_carries ?_ n
            exact not_false
    | doAllocateUnmanaged bytes => exact not_carries_none n
  simp only [access]
  rcases Call.access_cases (tryAddLoop caller.amount (caller.upperBound w.mr))
      ⟨w.mr.totalAllocatedBytes, spurious⟩ hrun with
    ⟨hwrite, hon⟩ | ⟨state, result, hwrite, hbody, hend⟩ |
      ⟨new, result, retry, rfl, hwrite, hend⟩
  · rw [hwrite, hon]
    exact publishes_of_outside hcall not_false (not_carries not_false) rfl le_rfl
  · obtain rfl := tryAddLoop_leave hbody
    rw [hwrite, hend]
    exact publishes_of_outside hcall not_false hrefused rfl le_rfl
  · obtain ⟨state, hbody⟩ := hjust
    obtain ⟨rfl, -, -⟩ := tryAddLoop_exchange hbody
    rw [hwrite, hend]
    exact publishes_of_raised hcall not_false caller new

theorem publishes_granted {c : Call UInt64 UInt64 (UInt64 × UInt64)}
    (hcall : w.calls.lookup id = some (.addingUpTo c)) (n post : UInt64) :
    HighWater.Publishes totalBytes peakBytes Pending w
      ({ w with mr := { w.mr with totalAllocatedBytes := post } }.put id
        (if 0 < post then
          some (.peaking (.doReserve .reserve n) (.loading post))
        else some (.counting n))) := by
  by_cases hpos : 0 < post
  · rw [if_pos hpos]
    exact publishes_of_raised hcall not_false _ post
  · rw [if_neg hpos]
    refine publishes_of_outside hcall not_false (not_carries not_false) rfl ?_
    show post.toNat ≤ _
    rw [UInt64.lt_iff_toNat_lt] at hpos
    have hzero : (0 : UInt64).toNat = 0 := rfl
    omega

theorem publishes_addingUpTo (h : w.Books) {c : Call UInt64 UInt64 (UInt64 × UInt64)}
    (hcall : w.calls.lookup id = some (.addingUpTo c)) (spurious : Bool) :
    HighWater.Publishes totalBytes peakBytes Pending w
      (w.access id spurious (.addingUpTo c)) := by
  obtain ⟨hrun, hjust⟩ := h.sound.get hcall
  simp only [access]
  rcases Call.access_cases (addBoundedLoop w.mr.memoryLimit)
      ⟨w.mr.totalAllocatedBytes, spurious⟩ hrun with
    ⟨hwrite, hon⟩ | ⟨state, result, hwrite, hbody, hend⟩ |
      ⟨new, result, retry, rfl, hwrite, hend⟩
  · rw [hwrite, hon]
    exact publishes_of_outside hcall not_false (not_carries not_false) rfl le_rfl
  · obtain rfl := addBoundedLoop_leave hbody
    rw [hwrite, hend]
    exact publishes_granted hcall 0 w.mr.totalAllocatedBytes
  · obtain ⟨diff, hbody⟩ := hjust
    obtain ⟨n, rfl, -, -⟩ := addBoundedLoop_exchange hbody
    rw [hwrite, hend]
    exact publishes_granted hcall n new

/-- An access of `update_peak` keeps its value on the way until the peak is no
lower. -/
theorem publishes_peaking (h : w.Books) {caller : AddCaller}
    {c : Call UInt64 UInt64 Unit}
    (hcall : w.calls.lookup id = some (.peaking caller c)) (spurious : Bool) :
    HighWater.Publishes totalBytes peakBytes Pending w
      (w.access id spurious (.peaking caller c)) := by
  obtain ⟨-, value, hraises⟩ := h.sound.get hcall
  have hcarried : ∀ n, Carries (w.calls.lookup id) n → n = value.toNat := by
    intro n hn
    rw [hcall] at hn
    obtain ⟨caller', c', value', hsame, hraises', rfl⟩ := hn
    cases hsame
    rw [hraises'.unique hraises]
  have hcarries : Carries (w.calls.lookup id) value.toNat :=
    ⟨caller, c, value, hcall, hraises, rfl⟩
  have hpeaked : ∀ n, ¬ Carries (some caller.peaked) n := by
    cases caller with
    | doReserve caller sizeBytes => exact not_carries not_false
    | doAllocateUnmanaged bytes => exact not_carries not_false
  simp only [access]
  rcases hraises.access w.mr.peakTotalAllocatedBytes spurious with
    ⟨hwrite, hstill | ⟨hend, hle⟩⟩ | ⟨hwrite, hlt, hend⟩
  · rw [hwrite, hstill.result?]
    refine publishes_put (Or.inl le_rfl) (fun n hn => Or.inl ?_) (fun n hn => Or.inl ?_)
      le_rfl (Or.inl rfl)
    · rw [hcarried n hn]
      exact ⟨caller, _, value, rfl, hstill, rfl⟩
    · obtain ⟨caller', c', value', hsame, hraises', rfl⟩ := hn
      cases hsame
      rw [hraises'.unique hstill]
      exact hcarries
  · rw [hwrite, hend]
    refine publishes_put (Or.inl le_rfl) (fun n hn => Or.inr ?_)
      (fun n hn => absurd hn (hpeaked n)) le_rfl (Or.inl rfl)
    rw [hcarried n hn]
    exact UInt64.le_iff_toNat_le.mp hle
  · rw [hwrite, hend]
    refine publishes_put (Or.inl le_rfl) (fun n hn => Or.inr ?_)
      (fun n hn => absurd hn (hpeaked n)) ?_ (Or.inr hcarries)
    · exact (hcarried n hn).le
    · exact (UInt64.lt_iff_toNat_lt.mp hlt).le

/-- What a call takes off the total was its own. -/
theorem Books.sub_le (h : w.Books) {call : LimiterCall}
    (hcall : w.calls.lookup id = some call) {n : UInt64} (hn : n.toNat ≤ call.charge) :
    (w.mr.totalAllocatedBytes - n).toNat ≤ w.totalBytes := by
  have hle := charge_le h hcall
  have hsub := Word.toNat_sub (a := w.mr.totalAllocatedBytes) (b := n) (by omega)
  show _ ≤ w.mr.totalAllocatedBytes.toNat
  omega

theorem publishes_access (h : w.Books) (hcall : w.calls.lookup id = some call)
    (spurious : Bool) :
    HighWater.Publishes totalBytes peakBytes Pending w (w.access id spurious call) := by
  cases call with
  | adding caller c => exact publishes_adding h hcall spurious
  | addingUpTo c => exact publishes_addingUpTo h hcall spurious
  | peaking caller c => exact publishes_peaking h hcall spurious
  | reserving caller n =>
      simp only [access]
      refine publishes_of_outside hcall not_false (not_carries ?_) rfl le_rfl
      cases caller <;> exact not_false
  | counting n =>
      simp only [access]
      exact publishes_of_outside hcall not_false (not_carries not_false) rfl le_rfl
  | uncounted arena shrunk =>
      simp only [access]
      exact publishes_of_outside hcall not_false (not_carries not_false) rfl le_rfl
  | unreserved arena shrunk =>
      have hidle : arena.Idle := h.sound.get hcall
      simp only [access]
      exact publishes_of_outside hcall not_false (not_carries not_false) rfl
        (h.sub_le hcall hidle.toNat_releasedBytes.le)
  | failing bytes =>
      simp only [access]
      exact publishes_of_outside hcall not_false not_carries_none rfl (h.sub_le hcall le_rfl)
  | arena arena shrunk => exact publishes_refl
  | gone shrunk => exact publishes_refl
  | charged bytes => exact publishes_refl
  | block bytes => exact publishes_refl
  | leaked bytes => exact publishes_refl

/-- A call that begins has nothing to publish yet. -/
theorem publishes_begins (hcall : w.calls.lookup id = none) (hnew : ¬ call.Peaking) :
    HighWater.Publishes totalBytes peakBytes Pending w (w.put id (some call)) := by
  refine publishes_of_quiet rfl (fun n => ?_) (Or.inl le_rfl) fun n hn => ?_
  · rw [hcall]
    exact not_carries_none n
  · exact absurd hn (not_carries hnew n)

/-- The steps that no call in progress is waiting for. -/
theorem publishes_step (h : w.Books) (s : LimiterStep) :
    HighWater.Publishes totalBytes peakBytes Pending w
      (w.step id (w.calls.lookup id) s) := by
  cases hcall : w.calls.lookup id with
  | none =>
      cases s with
      | reserve bytes => exact publishes_begins hcall not_false
      | reserveUpto bytes => exact publishes_begins hcall not_false
      | allocate bytes => exact publishes_begins hcall not_false
      | _ => exact publishes_refl
  | some call =>
      cases s with
      | access spurious => exact publishes_access h hcall spurious
      | growBy bytes =>
          cases call with
          | arena arena shrunk =>
              simp only [step]
              exact publishes_of_outside hcall not_false (not_carries not_false) rfl le_rfl
          | _ => exact publishes_refl
      | shrinkToFit =>
          cases call with
          | arena arena shrunk =>
              have hidle : arena.Idle := h.sound.get hcall
              have hword := Word.toNat_toUInt64 hidle.size
              simp only [step, hidle.shrink]
              refine publishes_of_outside hcall not_false (not_carries not_false) rfl
                (h.sub_le hcall ?_)
              show _ ≤ arena.size.toInt.toNat
              omega
          | _ => exact publishes_refl
      | release =>
          cases call with
          | arena arena shrunk =>
              simp only [step]
              exact publishes_of_outside hcall not_false (not_carries not_false) rfl le_rfl
          | _ => exact publishes_refl
      | deallocate =>
          cases call with
          | block bytes =>
              simp only [step, Adaptor.doDeallocate]
              exact publishes_of_outside hcall not_false not_carries_none rfl
                (h.sub_le hcall le_rfl)
          | _ => exact publishes_refl
      | upstream result =>
          cases call with
          | charged bytes =>
              simp only [step]
              refine publishes_of_outside hcall not_false (not_carries ?_) rfl le_rfl
              cases result with
              | ok ptr => exact not_false
              | error e =>
                  dsimp only
                  split <;> exact not_false
          | _ => exact publishes_refl
      | _ => exact publishes_refl

end

/-- One call raises the total to 600 and is overtaken: another takes it to 856,
publishes that and gives it back, and the first finds 856 in the peak. -/
def overtaken : List (Nat × LimiterStep) :=
  [(0, .reserve 600), (0, .access false), (0, .access false), (0, .access false),
    (1, .allocate 256), (1, .access false), (1, .access false), (1, .access false),
    (1, .access false), (1, .upstream (.ok 7)), (1, .deallocate), (0, .access false)]

end LimiterWorld

end CuCascade.Memory

import CuCascade.Memory.SpaceCalls
import CuCascade.Proofs.HostLedger
import CuCascade.Proofs.LookupTables

/-!
# Which returned bytes are announced

An arena that comes to its end has the notifier it was made with, and posts when
its bytes are back. Nothing else posts: bytes that a shrink gives back, or that
are freed outside of any reservation, or beyond the size of one, come back
without a word.
-/

namespace CuCascade.Memory

open Utils

/-! ## Notifiers stay where they are -/

section Gpu

variable {mr mr' : Adaptor} {arena arena' : DeviceReservedArena} {bytes : UInt64}

theorem growReservationBy_onExit {grown : Bool}
    (h : mr.growReservationBy arena bytes = (grown, mr', arena')) :
    arena'.onExit = arena.onExit := by
  unfold Adaptor.growReservationBy at h
  split at h <;> cases h <;> rfl

theorem shrinkReservationToFit_onExit
    (h : mr.shrinkReservationToFit arena = (mr', arena')) :
    arena'.onExit = arena.onExit := by
  simp only [Adaptor.shrinkReservationToFit] at h
  split at h <;> cases h <;> rfl

theorem increaseReservation_onExit {padded : UInt64 → UInt64}
    {requestedBytes currentAllocated : UInt64} {res : Except Failure Unit}
    (h : increaseReservation padded mr arena requestedBytes currentAllocated =
      ((mr', arena'), res)) :
    arena'.onExit = arena.onExit := by
  simp only [increaseReservation] at h
  split at h
  · rename_i hgrow
    cases h
    exact growReservationBy_onExit hgrow
  · rename_i hfirst
    have hkept := growReservationBy_onExit hfirst
    split at h
    · rename_i hgrow
      cases h
      exact (growReservationBy_onExit hgrow).trans hkept
    · rename_i hgrow
      cases h
      exact (growReservationBy_onExit hgrow).trans hkept

theorem handleOverReservation_onExit {policy : ReservationLimitPolicy}
    {requestedBytes currentAllocated : UInt64} {res : Except Failure Unit}
    (h : policy.handleOverReservation mr requestedBytes currentAllocated arena =
      ((mr', arena'), res)) :
    arena'.onExit = arena.onExit := by
  cases policy with
  | ignore =>
      cases h
      rfl
  | fail =>
      cases h
      rfl
  | increase padded => exact increaseReservation_onExit h

theorem checkReservationAndHandleOverflow_onExit {policy : Option ReservationLimitPolicy}
    {res : Except Failure UInt64}
    (h : mr.checkReservationAndHandleOverflow arena policy bytes = ((mr', arena'), res)) :
    arena'.onExit = arena.onExit := by
  simp only [Adaptor.checkReservationAndHandleOverflow] at h
  split at h
  · cases h
    rfl
  · cases policy with
    | none =>
        cases h
        rfl
    | some policy =>
        dsimp only at h
        split at h
        · rename_i hhandled
          cases h
          exact handleOverReservation_onExit hhandled
        · rename_i hhandled
          have hkept := handleOverReservation_onExit hhandled
          cases h
          exact hkept

theorem doAllocateTracked_onExit {policy : Option ReservationLimitPolicy}
    {oomPolicy : OomHandlingPolicy} {upstream : UpstreamResult} {res : Except Failure Addr}
    (h : mr.doAllocateTracked arena policy oomPolicy bytes upstream =
      ((mr', arena'), res)) :
    arena'.onExit = arena.onExit := by
  simp only [Adaptor.doAllocateTracked] at h
  split at h
  · rename_i hchecked
    cases h
    exact checkReservationAndHandleOverflow_onExit hchecked
  · rename_i hchecked
    have hkept := checkReservationAndHandleOverflow_onExit hchecked
    split at h
    · cases h
      exact hkept
    · split at h
      · cases h
        exact hkept
      · cases h
        exact hkept

end Gpu

/-! ## Calls that only take -/

/-- Neither kind of addition ever leaves less than it found. -/
theorem le_post_tryAdd {v d bound post : UInt64} {added : Bool}
    (h : tryAdd v d bound = (added, post)) : v ≤ post := by
  rcases Nat.lt_or_ge bound.toNat (v.toNat + d.toNat) with hlt | hle
  · rw [tryAdd_of_lt hlt] at h
    cases h
    exact UInt64.le_refl v
  · rw [tryAdd_of_le hle] at h
    cases h
    rw [UInt64.le_iff_toNat_le, toNat_add_of_le hle]
    exact Nat.le_add_right _ _

theorem le_post_addBounded (v d bound : UInt64) : v ≤ (addBounded v d bound).2 := by
  rw [UInt64.le_iff_toNat_le, (addBounded_spec v d bound).2]
  exact Nat.le_add_right _ _

section Gpu

variable {mr mr' : Adaptor} {arena arena' : DeviceReservedArena} {bytes : UInt64}

theorem le_doReserve {limit : UInt64} {reserved : Bool}
    (h : mr.doReserve bytes limit = (reserved, mr')) :
    mr.totalAllocatedBytes ≤ mr'.totalAllocatedBytes := by
  unfold Adaptor.doReserve at h
  split at h
  · rename_i hadd
    cases h
    exact le_post_tryAdd hadd
  · cases h
    exact UInt64.le_refl _

theorem le_doReserveUpto (mr : Adaptor) (bytes limit : UInt64) :
    mr.totalAllocatedBytes ≤ (mr.doReserveUpto bytes limit).2.totalAllocatedBytes := by
  simp only [Adaptor.doReserveUpto]
  split <;> exact le_post_addBounded _ _ _

theorem le_growReservationBy {grown : Bool}
    (h : mr.growReservationBy arena bytes = (grown, mr', arena')) :
    mr.totalAllocatedBytes ≤ mr'.totalAllocatedBytes := by
  unfold Adaptor.growReservationBy at h
  split at h
  · rename_i hreserve
    cases h
    exact le_doReserve hreserve
  · rename_i hreserve
    cases h
    exact le_doReserve hreserve

theorem le_handleOverReservation {policy : ReservationLimitPolicy}
    {requestedBytes currentAllocated : UInt64} {res : Except Failure Unit}
    (h : policy.handleOverReservation mr requestedBytes currentAllocated arena =
      ((mr', arena'), res)) :
    mr.totalAllocatedBytes ≤ mr'.totalAllocatedBytes := by
  cases policy with
  | ignore =>
      cases h
      exact UInt64.le_refl _
  | fail =>
      cases h
      exact UInt64.le_refl _
  | increase padded =>
      simp only [ReservationLimitPolicy.handleOverReservation, increaseReservation] at h
      split at h
      · rename_i hgrow
        cases h
        exact le_growReservationBy hgrow
      · rename_i hfirst
        have hle := le_growReservationBy hfirst
        split at h
        · rename_i hgrow
          cases h
          exact UInt64.le_trans hle (le_growReservationBy hgrow)
        · rename_i hgrow
          cases h
          exact UInt64.le_trans hle (le_growReservationBy hgrow)

theorem le_checkReservationAndHandleOverflow {policy : Option ReservationLimitPolicy}
    {res : Except Failure UInt64}
    (h : mr.checkReservationAndHandleOverflow arena policy bytes = ((mr', arena'), res)) :
    mr.totalAllocatedBytes ≤ mr'.totalAllocatedBytes := by
  simp only [Adaptor.checkReservationAndHandleOverflow] at h
  split at h
  · cases h
    exact UInt64.le_refl _
  · cases policy with
    | none =>
        cases h
        exact UInt64.le_refl _
    | some policy =>
        dsimp only at h
        split at h
        · rename_i hhandled
          cases h
          exact le_handleOverReservation hhandled
        · rename_i hhandled
          have hle := le_handleOverReservation hhandled
          cases h
          exact hle

/-- What an allocation that fails gives back is what it had added itself. -/
theorem le_doAllocateUnmanaged {trackingBytes : UInt64} {upstream : UpstreamResult}
    {res : Except Exception Addr}
    (h : mr.doAllocateUnmanaged bytes trackingBytes upstream = (mr', res)) :
    mr.totalAllocatedBytes ≤ mr'.totalAllocatedBytes := by
  simp only [Adaptor.doAllocateUnmanaged] at h
  split at h
  · rename_i hadd
    have hle := le_post_tryAdd hadd
    split at h
    · cases h
      exact hle
    · split at h
      · cases h
        rw [post_of_added hadd]
        have hback : mr.totalAllocatedBytes + trackingBytes - trackingBytes =
            mr.totalAllocatedBytes := UInt64.add_sub_cancel _ _
        exact UInt64.le_of_eq hback.symm
      · cases h
        exact hle
  · cases h
    exact UInt64.le_refl _

theorem le_doAllocateManaged {policy : OomHandlingPolicy} {upstream : UpstreamResult}
    {res : Except Failure Addr}
    (h : mr.doAllocateManaged policy bytes upstream = (mr', res)) :
    mr.totalAllocatedBytes ≤ mr'.totalAllocatedBytes := by
  cases policy
  simp only [Adaptor.doAllocateManaged, Adaptor.handleOom] at h
  split at h
  · rename_i hmade
    cases h
    exact le_doAllocateUnmanaged hmade
  · rename_i hmade
    cases h
    exact le_doAllocateUnmanaged hmade

theorem le_doAllocateTracked {policy : Option ReservationLimitPolicy}
    {oomPolicy : OomHandlingPolicy} {upstream : UpstreamResult} {res : Except Failure Addr}
    (h : mr.doAllocateTracked arena policy oomPolicy bytes upstream =
      ((mr', arena'), res)) :
    mr.totalAllocatedBytes ≤ mr'.totalAllocatedBytes := by
  cases oomPolicy
  simp only [Adaptor.doAllocateTracked, Adaptor.handleOom] at h
  split at h
  · rename_i hchecked
    cases h
    exact le_checkReservationAndHandleOverflow hchecked
  · rename_i hchecked
    have hle := le_checkReservationAndHandleOverflow hchecked
    split at h
    · rename_i hmade
      cases h
      exact UInt64.le_trans hle (le_doAllocateUnmanaged hmade)
    · rename_i hmade
      cases h
      exact UInt64.le_trans hle (le_doAllocateUnmanaged hmade)

end Gpu

theorem le_hostDoReserve {mr mr' : HostResource} {bytes limit : UInt64} {reserved : Bool}
    (h : mr.doReserve bytes limit = (reserved, mr')) :
    mr.allocatedBytes ≤ mr'.allocatedBytes := by
  unfold HostResource.doReserve at h
  split at h
  · rename_i hadd
    cases h
    exact le_post_tryAdd hadd
  · cases h
    exact UInt64.le_refl _

/-! ## Limiters whose arenas all have a notifier -/

namespace ReservingAdaptor

/-- Each arena has a notifier to run at its end. -/
def Wired : ReservingAdaptor → Prop
  | .gpu mr => mr.arenas.All fun _ arena => arena.onExit.isSome
  | .host mr => mr.arenas.All fun _ arena => arena.onExit.isSome
  | .disk mr => mr.arenas.All fun _ arena => arena.onExit.isSome

variable {a : ReservingAdaptor} {p : Addr} {bytes : UInt64}

theorem wired_reserve (h : a.Wired) (self : Addr) (bytes : UInt64)
    (notifier : EventNotifier) : (a.reserve self bytes (some notifier)).2.Wired := by
  cases a with
  | gpu mr =>
      simp only [reserve, GpuResource.reserve, Adaptor.reserve]
      split
      · rename_i hmade
        split at hmade
        · cases hmade
          exact AList.All.insert h rfl
        · cases hmade
      · exact h
  | host mr =>
      simp only [reserve, HostResource.reserve, HostResource.doReserve]
      split
      · rename_i hmade
        split at hmade
        · cases hmade
          exact AList.All.insert h rfl
        · cases hmade
      · rename_i hmade
        split at hmade
        · cases hmade
        · cases hmade
          exact h
  | disk mr =>
      simp only [reserve, DiskAccessLimiter.reserve, DiskAccessLimiter.doReserve]
      split
      · rename_i hmade
        split at hmade
        · cases hmade
          exact AList.All.insert h rfl
        · cases hmade
      · rename_i hmade
        split at hmade
        · cases hmade
        · cases hmade
          exact h

theorem wired_reserveUpto (h : a.Wired) (self : Addr) (bytes : UInt64)
    (notifier : EventNotifier) :
    (a.reserveUpto self bytes (some notifier)).2.Wired := by
  cases a with
  | gpu mr => exact AList.All.insert h rfl
  | host mr => exact AList.All.insert h rfl
  | disk mr => exact AList.All.insert h rfl

theorem wired_growBy (h : a.Wired) (p : Addr) (bytes : UInt64) :
    (a.growBy p bytes).1.Wired := by
  cases a with
  | gpu mr =>
      simp only [growBy, GpuResource.growBy]
      split
      · exact h
      · rename_i arena harena
        rcases hgrow : mr.mr.growReservationBy arena bytes with ⟨grown, mr', arena'⟩
        refine AList.All.insert h ?_
        rw [growReservationBy_onExit hgrow]
        exact h p arena harena
  | host mr =>
      simp only [growBy, HostResource.growBy, HostResource.doReserve]
      split
      · exact h
      · rename_i arena harena
        split
        · rename_i hmade
          split at hmade
          · cases hmade
            exact AList.All.insert h (h p arena harena)
          · cases hmade
        · rename_i hmade
          split at hmade
          · cases hmade
          · cases hmade
            exact h
  | disk mr =>
      simp only [growBy]
      split <;> exact h

theorem wired_shrinkToFit (h : a.Wired) (p : Addr) : (a.shrinkToFit p).1.Wired := by
  cases a with
  | gpu mr =>
      simp only [shrinkToFit, GpuResource.shrinkToFit]
      split
      · exact h
      · rename_i arena harena
        rcases hshrink : mr.mr.shrinkReservationToFit arena with ⟨mr', arena'⟩
        refine AList.All.insert h ?_
        rw [shrinkReservationToFit_onExit hshrink]
        exact h p arena harena
  | host mr =>
      simp only [shrinkToFit, HostResource.shrinkToFit]
      split
      · exact h
      · rename_i arena harena
        split
        · exact h
        · split
          · exact AList.All.insert h (h p arena harena)
          · exact h
  | disk mr =>
      simp only [shrinkToFit]
      split <;> exact h

/-- The end of an arena leaves the others, and if it has one, its notifier. -/
theorem wired_destroyArena (h : a.Wired) (p : Addr) :
    (a.destroyArena p).1.Wired ∧
      ((a.destroyArena p).1.totalAllocatedBytes ≠ a.totalAllocatedBytes →
        ∃ notifier, (a.destroyArena p).2 = .ok (some notifier)) := by
  cases a with
  | gpu mr =>
      simp only [destroyArena, GpuResource.destroyArena]
      cases harena : mr.arenas.lookup p with
      | none => exact ⟨h, fun hne => absurd rfl hne⟩
      | some arena =>
          obtain ⟨notifier, hnotifier⟩ := Option.isSome_iff_exists.mp (h p arena harena)
          exact ⟨AList.All.erase h, fun _ => ⟨notifier, by rw [← hnotifier]⟩⟩
  | host mr =>
      simp only [destroyArena, HostResource.destroyArena]
      cases harena : mr.arenas.lookup p with
      | none => exact ⟨h, fun hne => absurd rfl hne⟩
      | some arena =>
          cases mr.activeReservations.lookup p with
          | none => exact ⟨h, fun hne => absurd rfl hne⟩
          | some tracker =>
              obtain ⟨notifier, hnotifier⟩ :=
                Option.isSome_iff_exists.mp (h p arena harena)
              exact ⟨AList.All.erase h, fun _ => ⟨notifier, by rw [← hnotifier]⟩⟩
  | disk mr =>
      simp only [destroyArena, DiskAccessLimiter.destroyArena]
      cases harena : mr.arenas.lookup p with
      | none => exact ⟨h, fun hne => absurd rfl hne⟩
      | some arena =>
          obtain ⟨notifier, hnotifier⟩ := Option.isSome_iff_exists.mp (h p arena harena)
          exact ⟨AList.All.erase h, fun _ => ⟨notifier, by rw [← hnotifier]⟩⟩

theorem wired_doAllocate {mr : GpuResource} (h : (gpu mr).Wired) (bytes : UInt64)
    (stream : Stream) (upstream : UpstreamResult) :
    (gpu (mr.doAllocate bytes stream upstream).1).Wired := by
  simp only [GpuResource.doAllocate]
  cases mr.streamStatsMap.lookup stream with
  | none => exact h
  | some state =>
    dsimp only
    split
    · exact h
    · rename_i arena harena
      rcases hmade : mr.mr.doAllocateTracked arena state.reservationPolicy state.oomPolicy
        bytes upstream with ⟨⟨mr', arena'⟩, ptr⟩
      refine AList.All.insert h ?_
      rw [doAllocateTracked_onExit hmade]
      exact h _ arena harena

theorem wired_doDeallocate {mr : GpuResource} (h : (gpu mr).Wired) (bytes : UInt64)
    (stream : Stream) : (gpu (mr.doDeallocate bytes stream).1).Wired := by
  simp only [GpuResource.doDeallocate]
  split
  · exact h
  · split
    · exact h
    · rename_i arena harena
      exact AList.All.insert h (h _ arena harena)

theorem arenas_untrack (mr : HostResource) (tracker : Option Addr) (totalBytes : UInt64) :
    (mr.untrack tracker totalBytes).arenas = mr.arenas := by
  unfold HostResource.untrack
  split
  · rfl
  · split <;> rfl

theorem arenas_allocateTracked (mr : HostResource)
    (upstream : Nat → UInt64 → Except Exception Addr) (totalBytes tracked : UInt64)
    (tracker : Option Addr) :
    (mr.allocateTracked upstream totalBytes tracked tracker).1.arenas = mr.arenas := by
  rcases h : mr.allocateTracked upstream totalBytes tracked tracker with ⟨mr', out⟩
  obtain ⟨_, -, -, -, hbooks⟩ | ⟨-, mr₁, hbooks, rfl⟩ | ⟨-, -, -, hbooks⟩ :=
    HostResource.allocateTracked_books h
  · exact hbooks.arenas
  · exact (arenas_untrack mr₁ tracker totalBytes).trans hbooks.arenas
  · exact hbooks.arenas

theorem wired_allocateMultipleBlocks {mr : HostResource} (h : (host mr).Wired)
    (totalBytes : UInt64) (res : Option (Option Addr))
    (upstream : Nat → UInt64 → Except Exception Addr) :
    (host (mr.allocateMultipleBlocks totalBytes res upstream).1).Wired := by
  have harenas : (mr.allocateMultipleBlocks totalBytes res upstream).1.arenas =
      mr.arenas := by
    simp only [HostResource.allocateMultipleBlocks]
    split
    · rfl
    · split
      · rfl
      · split
        · exact arenas_allocateTracked mr upstream _ _ none
        · rfl
        · split
          · rfl
          · rfl
          · exact arenas_allocateTracked _ upstream _ _ _
  show AList.All _ _
  rw [harenas]
  exact h

theorem wired_destroyAllocation {mr : HostResource} (h : (host mr).Wired)
    (a : MultipleBlocksAllocation) : (host (mr.destroyAllocation a).1).Wired := by
  simp only [HostResource.destroyAllocation, HostResource.returnAllocatedChunks]
  split
  · split
    · exact h
    · split <;> exact h
  · exact h

theorem le_reserve (a : ReservingAdaptor) (self : Addr) (bytes : UInt64)
    (notifier : Option EventNotifier) :
    a.totalAllocatedBytes ≤ (a.reserve self bytes notifier).2.totalAllocatedBytes := by
  cases a with
  | gpu mr =>
      simp only [reserve, GpuResource.reserve, Adaptor.reserve]
      rcases hmade : mr.mr.doReserve bytes mr.mr.memoryLimit with ⟨reserved, mr'⟩
      have hle := le_doReserve hmade
      cases reserved with
      | true => exact hle
      | false => exact hle
  | host mr =>
      simp only [reserve, HostResource.reserve]
      rcases hmade : mr.doReserve (alignUp bytes mr.blockSize) mr.memoryLimit with
        ⟨reserved, mr'⟩
      have hle := le_hostDoReserve hmade
      cases reserved with
      | true => exact hle
      | false => exact hle
  | disk mr =>
      simp only [reserve, DiskAccessLimiter.reserve, DiskAccessLimiter.doReserve]
      rcases hadd : tryAdd mr.totalAllocatedBytes bytes mr.memoryLimit with ⟨added, post⟩
      cases added with
      | true => exact le_post_tryAdd hadd
      | false => exact UInt64.le_refl _

theorem le_reserveUpto (a : ReservingAdaptor) (self : Addr) (bytes : UInt64)
    (notifier : Option EventNotifier) :
    a.totalAllocatedBytes ≤ (a.reserveUpto self bytes notifier).2.totalAllocatedBytes := by
  cases a with
  | gpu mr => exact le_doReserveUpto mr.mr bytes mr.mr.memoryLimit
  | host mr => exact le_post_addBounded _ _ _
  | disk mr => exact le_post_addBounded _ _ _

theorem le_growBy (a : ReservingAdaptor) (p : Addr) (bytes : UInt64) :
    a.totalAllocatedBytes ≤ (a.growBy p bytes).1.totalAllocatedBytes := by
  cases a with
  | gpu mr =>
      simp only [growBy, GpuResource.growBy]
      split
      · exact UInt64.le_refl _
      · rename_i arena harena
        rcases hgrow : mr.mr.growReservationBy arena bytes with ⟨grown, mr', arena'⟩
        exact le_growReservationBy hgrow
  | host mr =>
      simp only [growBy, HostResource.growBy]
      split
      · exact UInt64.le_refl _
      · rcases hmade : mr.doReserve (alignUp bytes mr.blockSize) mr.memoryLimit with
          ⟨reserved, mr'⟩
        have hle := le_hostDoReserve hmade
        cases reserved with
        | true => exact hle
        | false => exact hle
  | disk mr =>
      simp only [growBy]
      split <;> exact UInt64.le_refl _

theorem le_doAllocate (mr : GpuResource) (bytes : UInt64) (stream : Stream)
    (upstream : UpstreamResult) :
    (gpu mr).totalAllocatedBytes ≤
      (gpu (mr.doAllocate bytes stream upstream).1).totalAllocatedBytes := by
  simp only [GpuResource.doAllocate]
  cases mr.streamStatsMap.lookup stream with
  | none =>
      rcases hmade : mr.mr.doAllocateManaged mr.defaultOomPolicy bytes upstream with
        ⟨mr', ptr⟩
      exact le_doAllocateManaged hmade
  | some state =>
      dsimp only
      split
      · exact UInt64.le_refl _
      · rename_i arena harena
        rcases hmade : mr.mr.doAllocateTracked arena state.reservationPolicy
          state.oomPolicy bytes upstream with ⟨⟨mr', arena'⟩, ptr⟩
        exact le_doAllocateTracked hmade

/-- Blocks that are not had are charged to nobody in the end, or remain charged. -/
theorem le_allocateTracked (mr : HostResource)
    (upstream : Nat → UInt64 → Except Exception Addr) (totalBytes tracked : UInt64)
    (tracker : Option Addr) {total : UInt64} (htotal : mr.allocatedBytes = total) :
    total ≤ (mr.allocateTracked upstream totalBytes tracked tracker).1.allocatedBytes := by
  rw [← htotal]
  have hcharge : mr.allocatedBytes.toNat + tracked.toNat ≤ mr.memoryCapacity.toNat →
      mr.allocatedBytes ≤ mr.allocatedBytes + tracked := by
    intro hle
    rw [UInt64.le_iff_toNat_le, toNat_add_of_le hle]
    exact Nat.le_add_right _ _
  rcases h : mr.allocateTracked upstream totalBytes tracked tracker with ⟨mr', out⟩
  obtain ⟨_, -, -, hle, hbooks⟩ | ⟨-, mr₁, hbooks, rfl⟩ | ⟨-, -, hle, hbooks⟩ :=
    HostResource.allocateTracked_books h
  · exact hbooks.allocatedBytes ▸ hcharge hle
  · have hsame : (mr₁.untrack tracker totalBytes).allocatedBytes = mr₁.allocatedBytes := by
      unfold HostResource.untrack
      split
      · rfl
      · split <;> rfl
    exact UInt64.le_of_eq (hsame.trans hbooks.allocatedBytes).symm
  · exact hbooks.allocatedBytes ▸ hcharge hle

theorem le_allocateMultipleBlocks (mr : HostResource) (totalBytes : UInt64)
    (res : Option (Option Addr)) (upstream : Nat → UInt64 → Except Exception Addr) :
    mr.allocatedBytes ≤
      (mr.allocateMultipleBlocks totalBytes res upstream).1.allocatedBytes := by
  simp only [HostResource.allocateMultipleBlocks]
  split
  · exact UInt64.le_refl _
  · split
    · exact UInt64.le_refl _
    · split
      · exact le_allocateTracked mr upstream _ _ none rfl
      · exact UInt64.le_refl _
      · split
        · exact UInt64.le_refl _
        · exact UInt64.le_refl _
        · exact le_allocateTracked _ upstream _ _ _ rfl

end ReservingAdaptor

/-! ## Calls -/

namespace MemorySpace

variable {s : MemorySpace} {ndebug : Bool} {this : Nat} {c : SpaceCall}

/-- A call that returns bytes, and what the limiter shows after it is posted: the
notification comes when the bytes are back. -/
def Announces (ndebug : Bool) (this : Nat) (s : MemorySpace) (c : SpaceCall) : Prop :=
  c.Returns → (s.call ndebug this c).1.allocated ≠ s.allocated →
    (s.call ndebug this c).1.allocated ∈ (s.call ndebug this c).2

/-- The arena at `p` has bytes that are not in use. -/
def HasUnused (s : MemorySpace) (p : Addr) : Prop :=
  match s.reservationAllocator with
  | .gpu mr => ∃ arena ∈ mr.arenas.lookup p, max 0 arena.allocatedBytes < arena.size
  | .host mr => ∃ arena ∈ mr.arenas.lookup p, ∃ tracker ∈ mr.activeReservations.lookup p,
      max 0 tracker < arena.size
  | .disk _ => False

/-- Freeing these bytes on this stream touches the total: no reservation is attached,
or more is allocated than the one that is has. -/
def ChargedOutside (mr : GpuResource) (bytes : UInt64) (stream : Stream) : Prop :=
  round256 bytes ≠ 0 ∧
    match mr.streamStatsMap.lookup stream with
    | none => True
    | some state => ∃ arena ∈ mr.arenas.lookup state.memoryReservation,
        arena.size < arena.allocatedBytes

/-- The same of the blocks of an allocation. -/
def BlocksOutside (mr : HostResource) (a : MultipleBlocksAllocation) : Prop :=
  a.mr = true ∧ UInt64.ofNat a.blocks.length * mr.blockSize ≠ 0 ∧
    match a.reservedMemory.bind fun p => (mr.activeReservations.lookup p).map (p, ·) with
    | none => True
    | some (p, tracker) => ∃ arena ∈ mr.arenas.lookup p, arena.size < tracker

/-- The call gives bytes back that no arena ends with: a shrink of an arena that has
unused bytes, or a free of bytes that were charged outside of a reservation. -/
def Unannounced (s : MemorySpace) : SpaceCall → Prop
  | .shrinkToFit p => s.HasUnused p
  | .deallocate bytes stream =>
      match s.reservationAllocator with
      | .gpu mr => ChargedOutside mr bytes stream
      | .host _ | .disk _ => False
  | .destroyAllocation a =>
      match s.reservationAllocator with
      | .host mr => BlocksOutside mr a
      | .gpu _ | .disk _ => False
  | .destroyReservation _ | .attachReservationToTracker _ _ _ _
  | .resetStreamReservation _ | .makeReservationOrNull _ _ | .makeReservationUpto _ _
  | .growBy _ _ | .allocate _ _ _ | .allocateMultipleBlocks _ _ _ | .pollWait
  | .shutdown => False

theorem sub_ne_iff (total bytes : UInt64) : total - bytes ≠ total ↔ bytes ≠ 0 := by
  grind

theorem toUInt64_eq_zero {x : Int64} (h : x.toUInt64 = 0) : x = 0 := by
  rw [← Int64.toBitVec_inj]
  exact congrArg UInt64.toBitVec h

/-- What lies between two different amounts is something. -/
theorem difference_ne_zero {current size : Int64} (h : current < size) :
    (size - current).toUInt64 ≠ 0 := by
  intro hzero
  have hdiff := toUInt64_eq_zero hzero
  have hsame : size = current := by grind
  rw [hsame] at h
  exact Int64.lt_irrefl h

theorem shrinkToFit_iff (s : MemorySpace) (p : Addr) :
    (s.reservationAllocator.shrinkToFit p).1.totalAllocatedBytes ≠ s.allocated ↔
      s.HasUnused p := by
  unfold HasUnused allocated
  cases s.reservationAllocator with
  | gpu mr =>
      simp only [ReservingAdaptor.shrinkToFit, GpuResource.shrinkToFit]
      cases mr.arenas.lookup p with
      | none => simp
      | some arena =>
          simp only [Adaptor.shrinkReservationToFit]
          split
          · rename_i hunused
            simpa [ReservingAdaptor.totalAllocatedBytes, sub_ne_iff, hunused] using
              difference_ne_zero hunused
          · rename_i hused
            simp [ReservingAdaptor.totalAllocatedBytes, hused]
  | host mr =>
      simp only [ReservingAdaptor.shrinkToFit, HostResource.shrinkToFit]
      cases mr.arenas.lookup p with
      | none => simp
      | some arena =>
          cases mr.activeReservations.lookup p with
          | none => simp
          | some tracker =>
              dsimp only
              split
              · rename_i hunused
                simpa [ReservingAdaptor.totalAllocatedBytes, sub_ne_iff, hunused] using
                  difference_ne_zero hunused
              · rename_i hused
                simp [ReservingAdaptor.totalAllocatedBytes, hused]
  | disk mr =>
      simp only [ReservingAdaptor.shrinkToFit]
      split <;> simp

/-- What is reclaimed of bytes that come back while the total stood at `before`: what
it was over the size, if the bytes take it below, and all of them if not. -/
theorem reclaimed_ne_zero_iff {bytes part : UInt64} {size before : Int64}
    (hpart : size < before → before - bytes.toInt64 < size → part ≠ 0) :
    (if before ≤ size then 0 else if before - bytes.toInt64 < size then part else bytes) ≠ 0 ↔
      bytes ≠ 0 ∧ size < before := by
  split
  · rename_i hle
    simp [Int64.not_lt.mpr hle]
  · rename_i hlt
    have hover : size < before := Int64.not_le.mp hlt
    split
    · rename_i hpartial
      refine ⟨fun _ => ⟨fun hzero => ?_, hover⟩, fun _ => hpart hover hpartial⟩
      rw [hzero] at hpartial
      have hnothing : before - (0 : UInt64).toInt64 = before := by simp
      rw [hnothing] at hpartial
      exact Int64.lt_irrefl (Int64.lt_trans hpartial hover)
    · simp [hover]

/-- What a tracked deallocation takes off the total is something when more was
allocated than reserved. -/
theorem upstreamReclaimedBytes_ne_iff (trackingBytes : UInt64) (size allocated : Int64) :
    Adaptor.upstreamReclaimedBytes trackingBytes size
        (allocated - trackingBytes.toInt64) ≠ 0 ↔
      trackingBytes ≠ 0 ∧ size < allocated := by
  have hpre : allocated - trackingBytes.toInt64 + trackingBytes.toInt64 = allocated := by
    grind
  simp only [Adaptor.upstreamReclaimedBytes, hpre]
  exact reclaimed_ne_zero_iff fun _ hpartial => difference_ne_zero hpartial

/-- The same of blocks that come back to the pool. -/
theorem reclaimedBytes_ne_iff (bytes : UInt64) (size tracker : Int64) :
    HostResource.reclaimedBytes bytes size tracker (tracker - bytes.toInt64) ≠ 0 ↔
      bytes ≠ 0 ∧ size < tracker :=
  reclaimed_ne_zero_iff fun hover _ => difference_ne_zero hover

theorem doDeallocate_iff (mr : GpuResource) (bytes : UInt64) (stream : Stream) :
    (mr.doDeallocate bytes stream).1.mr.totalAllocatedBytes ≠ mr.mr.totalAllocatedBytes ↔
      ChargedOutside mr bytes stream := by
  simp only [GpuResource.doDeallocate, ChargedOutside]
  cases mr.streamStatsMap.lookup stream with
  | none =>
      rw [and_true]
      exact sub_ne_iff _ _
  | some state =>
      dsimp only
      cases mr.arenas.lookup state.memoryReservation with
      | none => simp
      | some arena =>
          simp only [Adaptor.doDeallocateTracked, sub_ne_iff, upstreamReclaimedBytes_ne_iff]
          simp

theorem destroyAllocation_iff (mr : HostResource) (a : MultipleBlocksAllocation) :
    (mr.destroyAllocation a).1.allocatedBytes ≠ mr.allocatedBytes ↔ BlocksOutside mr a := by
  simp only [HostResource.destroyAllocation, HostResource.returnAllocatedChunks,
    BlocksOutside]
  cases hmr : a.mr with
  | false => simp
  | true =>
      cases hblocks : a.blocks with
      | nil => simp
      | cons block blocks =>
          simp only [List.isEmpty_cons, Bool.not_false, Bool.and_self, if_true, true_and]
          cases a.reservedMemory.bind fun p =>
              (mr.activeReservations.lookup p).map (p, ·) with
          | none =>
              rw [and_true]
              exact sub_ne_iff _ _
          | some tracked =>
              obtain ⟨p, tracker⟩ := tracked
              dsimp only
              cases mr.arenas.lookup p with
              | none => simp
              | some arena =>
                  simp only [sub_ne_iff, reclaimedBytes_ne_iff]
                  simp

/-- The end of an arena keeps the others wired, and is announced. -/
theorem endArena_spec (h : s.reservationAllocator.Wired) (p : Addr) :
    (s.endArena p).1.reservationAllocator.Wired ∧
      ((s.endArena p).1.allocated ≠ s.allocated →
        (s.endArena p).1.allocated ∈ (s.endArena p).2) := by
  obtain ⟨hwired, hnotifier⟩ := ReservingAdaptor.wired_destroyArena h p
  unfold endArena
  rcases hend : s.reservationAllocator.destroyArena p with ⟨mr, res⟩
  rw [hend] at hwired hnotifier
  cases res with
  | error e =>
      refine ⟨hwired, fun hne => ?_⟩
      obtain ⟨notifier, hres⟩ := hnotifier hne
      cases hres
  | ok onExit =>
      cases onExit with
      | none =>
          refine ⟨hwired, fun hne => ?_⟩
          obtain ⟨notifier, hres⟩ := hnotifier hne
          cases hres
      | some notifier => exact ⟨hwired, fun _ => List.mem_singleton.mpr rfl⟩

/-- The two calls about a stream's reservation end an arena or change nothing the
limiter shows. -/
theorem attach_spec (h : s.reservationAllocator.Wired) (stream : Stream) (arena : Addr)
    (policy : Option ReservationLimitPolicy) (oomPolicy : Option OomHandlingPolicy) :
    let after := s.call ndebug this (.attachReservationToTracker stream arena policy oomPolicy)
    after.1.reservationAllocator.Wired ∧
      (after.1.allocated ≠ s.allocated → after.1.allocated ∈ after.2) := by
  simp only [call]
  split
  · rename_i mr hmr
    simp only [attachReservationToTracker, GpuResource.attachReservationToTracker]
    cases mr.streamStatsMap.lookup stream with
    | none =>
        have hsame : s.allocated = mr.mr.totalAllocatedBytes := by
          rw [allocated, hmr]
          rfl
        rw [hmr] at h
        exact ⟨h, fun hne => absurd hsame.symm hne⟩
    | some state => exact endArena_spec h arena
  · exact ⟨h, fun hne => absurd rfl hne⟩
  · exact ⟨h, fun hne => absurd rfl hne⟩

theorem reset_spec (h : s.reservationAllocator.Wired) (stream : Stream) :
    let after := s.call ndebug this (.resetStreamReservation stream)
    after.1.reservationAllocator.Wired ∧
      (after.1.allocated ≠ s.allocated → after.1.allocated ∈ after.2) := by
  simp only [call]
  split
  · rename_i mr hmr
    simp only [resetStreamReservation]
    cases mr.streamStatsMap.lookup stream with
    | none => exact ⟨h, fun hne => absurd rfl hne⟩
    | some state =>
        have hsame : s.allocated = mr.mr.totalAllocatedBytes := by
          rw [allocated, hmr]
          rfl
        rw [hmr] at h
        rw [hsame]
        exact endArena_spec h state.memoryReservation
  · exact ⟨h, fun hne => absurd rfl hne⟩
  · exact ⟨h, fun hne => absurd rfl hne⟩

theorem wired_call (h : s.reservationAllocator.Wired) (c : SpaceCall) :
    (s.call ndebug this c).1.reservationAllocator.Wired := by
  cases c with
  | makeReservationOrNull arena size =>
      exact ReservingAdaptor.wired_reserve h arena size ⟨this⟩
  | makeReservationUpto arena size =>
      exact ReservingAdaptor.wired_reserveUpto h arena size ⟨this⟩
  | destroyReservation arena => exact (endArena_spec h arena).1
  | growBy arena additionalBytes => exact ReservingAdaptor.wired_growBy h arena additionalBytes
  | shrinkToFit arena => exact ReservingAdaptor.wired_shrinkToFit h arena
  | attachReservationToTracker stream arena policy oomPolicy =>
      exact (attach_spec h stream arena policy oomPolicy).1
  | resetStreamReservation stream => exact (reset_spec h stream).1
  | allocate bytes stream upstream =>
      simp only [call]
      split
      · rename_i mr hmr
        rw [hmr] at h
        exact ReservingAdaptor.wired_doAllocate h bytes stream upstream
      · exact h
      · exact h
  | deallocate bytes stream =>
      simp only [call]
      split
      · rename_i mr hmr
        rw [hmr] at h
        exact ReservingAdaptor.wired_doDeallocate h bytes stream
      · exact h
      · exact h
  | allocateMultipleBlocks totalBytes res upstream =>
      simp only [call]
      split
      · rename_i mr hmr
        rw [hmr] at h
        exact ReservingAdaptor.wired_allocateMultipleBlocks h totalBytes res upstream
      · exact h
      · exact h
  | destroyAllocation a =>
      simp only [call]
      split
      · rename_i mr hmr
        rw [hmr] at h
        exact ReservingAdaptor.wired_destroyAllocation h a
      · exact h
      · exact h
  | pollWait => exact h
  | shutdown => exact h

/-- A call that posts nothing announces nothing, and has nothing to announce if the
total stays. -/
theorem announces_iff_of_silent (hreturns : c.Returns) (hposts : (s.call ndebug this c).2 = [])
    {P : Prop} (h : (s.call ndebug this c).1.allocated ≠ s.allocated ↔ P) :
    Announces ndebug this s c ↔ ¬ P := by
  rw [Announces, hposts, h]
  exact ⟨fun hall hP => List.not_mem_nil (hall hreturns hP),
    fun hnot _ hP => absurd hP hnot⟩

theorem announces_of_not_returns {P : Prop} (hreturns : ¬ c.Returns) (hP : ¬ P) :
    Announces ndebug this s c ↔ ¬ P :=
  ⟨fun _ => hP, fun _ h => absurd h hreturns⟩

/-- Of the calls on a wired space, those that end an arena announce what they return,
and the others do when they return nothing. -/
theorem announces_iff (h : s.reservationAllocator.Wired) (c : SpaceCall) :
    Announces ndebug this s c ↔ ¬ s.Unannounced c := by
  cases c with
  | makeReservationOrNull arena size => exact announces_of_not_returns (fun h => h) fun h => h
  | makeReservationUpto arena size => exact announces_of_not_returns (fun h => h) fun h => h
  | growBy arena additionalBytes => exact announces_of_not_returns (fun h => h) fun h => h
  | allocate bytes stream upstream => exact announces_of_not_returns (fun h => h) fun h => h
  | allocateMultipleBlocks totalBytes res upstream =>
      exact announces_of_not_returns (fun h => h) fun h => h
  | pollWait => exact announces_of_not_returns (fun h => h) fun h => h
  | shutdown => exact announces_of_not_returns (fun h => h) fun h => h
  | destroyReservation arena => exact ⟨fun _ hnever => hnever, fun _ _ => (endArena_spec h arena).2⟩
  | attachReservationToTracker stream arena policy oomPolicy =>
      exact ⟨fun _ hnever => hnever,
        fun _ _ => (attach_spec h stream arena policy oomPolicy).2⟩
  | resetStreamReservation stream =>
      exact ⟨fun _ hnever => hnever, fun _ _ => (reset_spec h stream).2⟩
  | shrinkToFit p => exact announces_iff_of_silent (by trivial) rfl (shrinkToFit_iff s p)
  | deallocate bytes stream =>
      simp only [Unannounced]
      cases hmr : s.reservationAllocator with
      | gpu mr =>
          refine announces_iff_of_silent (by trivial) (by simp only [call, hmr]) ?_
          simp only [call, hmr, allocated]
          exact doDeallocate_iff mr bytes stream
      | host mr =>
          refine announces_iff_of_silent (by trivial) (by simp only [call, hmr]) ?_
          simp [call, hmr]
      | disk mr =>
          refine announces_iff_of_silent (by trivial) (by simp only [call, hmr]) ?_
          simp [call, hmr]
  | destroyAllocation a =>
      simp only [Unannounced]
      cases hmr : s.reservationAllocator with
      | gpu mr =>
          refine announces_iff_of_silent (by trivial) (by simp only [call, hmr]) ?_
          simp [call, hmr]
      | host mr =>
          refine announces_iff_of_silent (by trivial) (by simp only [call, hmr]) ?_
          simp only [call, hmr, allocated]
          exact destroyAllocation_iff mr a
      | disk mr =>
          refine announces_iff_of_silent (by trivial) (by simp only [call, hmr]) ?_
          simp [call, hmr]

/-! ## Runs -/

variable {M : Type} {parts : SpaceParts M}

/-- A space starts without arenas. -/
theorem wired_start (h : (machine parts ndebug this).start s) :
    s.reservationAllocator.Wired := by
  obtain ⟨config, made, hmade, rfl⟩ := h
  obtain ⟨-, hlimiter⟩ := ConstructedManager.makeSpace_spec hmade
  cases config with
  | gpu config =>
      rw [hlimiter]
      exact AList.all_empty
  | host config =>
      obtain ⟨pools, hlimiter⟩ := hlimiter
      have hbooks := HostResource.create_sameBooks
        (config.reservationLimit.getD parts.undefinedSize) config.memoryCapacity
        config.blockSize config.poolSize pools
      rw [hlimiter]
      show AList.All _ _
      rw [hbooks.arenas]
      exact AList.all_empty
  | disk config =>
      rw [hlimiter]
      exact AList.all_empty

/-- The other calls never lower what the limiter shows. -/
theorem le_allocated_call (hc : ¬ c.Returns) :
    s.allocated ≤ (s.call ndebug this c).1.allocated := by
  cases c with
  | destroyReservation _ => exact absurd trivial hc
  | shrinkToFit _ => exact absurd trivial hc
  | attachReservationToTracker _ _ _ _ => exact absurd trivial hc
  | resetStreamReservation _ => exact absurd trivial hc
  | deallocate _ _ => exact absurd trivial hc
  | destroyAllocation _ => exact absurd trivial hc
  | makeReservationOrNull arena size =>
      exact ReservingAdaptor.le_reserve s.reservationAllocator arena size _
  | makeReservationUpto arena size =>
      exact ReservingAdaptor.le_reserveUpto s.reservationAllocator arena size _
  | growBy arena additionalBytes =>
      exact ReservingAdaptor.le_growBy s.reservationAllocator arena additionalBytes
  | allocate bytes stream upstream =>
      simp only [call]
      split
      · rename_i mr hmr
        rw [allocated, hmr]
        exact ReservingAdaptor.le_doAllocate mr bytes stream upstream
      · exact UInt64.le_refl _
      · exact UInt64.le_refl _
  | allocateMultipleBlocks totalBytes res upstream =>
      simp only [call]
      split
      · rename_i mr hmr
        rw [allocated, hmr]
        exact ReservingAdaptor.le_allocateMultipleBlocks mr totalBytes res upstream
      · exact UInt64.le_refl _
      · exact UInt64.le_refl _
  | pollWait => exact UInt64.le_refl _
  | shutdown => exact UInt64.le_refl _

/-- In any run of a space every return of bytes is announced, exactly when no call of
the run gives back bytes that no arena ends with. -/
theorem every_announces_iff {s₀ : MemorySpace} {calls : List SpaceCall}
    (hstart : (machine parts ndebug this).start s₀) :
    (machine parts ndebug this).Every (Announces ndebug this) s₀ calls ↔
      (machine parts ndebug this).Every (fun s c => ¬ s.Unannounced c) s₀ calls :=
  Machine.every_congr (J := fun s => s.reservationAllocator.Wired)
    (fun _ c hs _ _ => wired_call hs c) (fun _ c hs _ => announces_iff hs c)
    (wired_start hstart) (Machine.every_of_mem fun _ _ _ => trivial)

/-- A GPU with a kibibyte. -/
def smallGpu : MemorySpaceConfig Unit := .gpu {
  deviceId := 0
  reservationLimitFraction := some 1
  downgradeTriggerFraction := ⟨1, by norm_num, by norm_num⟩
  downgradeStopFraction := ⟨1, by norm_num, by norm_num⟩
  memoryCapacity := 1024
  perStreamReservation := true
  mrFactoryFn := fun _ _ => () }

/-- Its space. -/
def smallSpace : MemorySpace where
  id := ⟨.GPU, 0⟩
  reservationAllocator := .gpu (.fresh 1024 1024)
  notificationChannel := .fresh

theorem start_smallSpace :
    (machine ConstructedManager.plainParts true 0).start smallSpace := by
  have hlimit : smallGpu.reservationLimit = some 1024 := by decide +kernel
  have hmade : smallGpu.makeSpace ConstructedManager.plainParts =
      .ok ⟨⟨⟨.GPU, 0⟩, .gpu (.fresh (smallGpu.reservationLimit.getD 0) 1024), .fresh⟩, 1024⟩ :=
    rfl
  rw [hlimit] at hmade
  exact ⟨smallGpu, _, hmade, rfl⟩

theorem released_announced :
    (machine ConstructedManager.plainParts true 0).Every (Announces true 0) smallSpace
      [.makeReservationOrNull 1 1000, .destroyReservation 1] :=
  (every_announces_iff start_smallSpace).mpr ⟨fun h => h, fun h => h, trivial⟩

/-- A reservation of nearly everything is shrunk to nothing: what was refused before
would fit now, and nothing is posted. -/
theorem shrunk_unannounced :
    (machine ConstructedManager.plainParts true 0).start smallSpace ∧
      (∀ s, (machine ConstructedManager.plainParts true 0).run smallSpace
          [.makeReservationOrNull 1 1000] = s →
        (s.reservationAllocator.reserve 2 512 none).1 = none ∧
          (s.call true 0 (.shrinkToFit 1)).1.allocated = 0 ∧
          (s.call true 0 (.shrinkToFit 1)).2 = []) ∧
      ¬ (machine ConstructedManager.plainParts true 0).Every (Announces true 0) smallSpace
        [.makeReservationOrNull 1 1000, .shrinkToFit 1] := by
  refine ⟨start_smallSpace, ?_, ?_⟩
  · rintro s rfl
    decide
  · rintro ⟨-, h, -⟩
    exact List.not_mem_nil (h trivial (by decide))

end MemorySpace

end CuCascade.Memory

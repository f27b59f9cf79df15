import CuCascade.Proofs.AdaptorSpec
import CuCascade.Memory.GpuResource

/-!
# What is advertised can be allocated

`get_available_memory` adds two clamped differences: what the total leaves of
the capacity, and what `allocated_bytes` leaves of the reservation. An
allocation adds to two counters instead and charges the total with what the
reservation does not cover. The two agree because a policy that ignores the
overflow never refuses, so that only the charge is weighed.
-/

namespace CuCascade.Memory

open Utils

/-! ## What is advertised -/

theorem Adaptor.toNat_getAvailableMemory (mr : Adaptor) :
    mr.getAvailableMemory.toNat =
      mr.capacity.toNat - mr.totalAllocatedBytes.toNat := by
  unfold Adaptor.getAvailableMemory
  split <;> rename_i h <;> rw [UInt64.lt_iff_toNat_lt] at h
  · rw [Word.toNat_sub (by omega)]
  · rw [UInt64.toNat_zero]
    omega

theorem DeviceReservedArena.toNat_getAvailableMemory {arena : DeviceReservedArena}
    (hroom : arena.size.toInt - arena.allocatedBytes.toInt < 2 ^ 63) :
    (arena.getAvailableMemory.toNat : Int) =
      max 0 (arena.size.toInt - arena.allocatedBytes.toInt) := by
  unfold DeviceReservedArena.getAvailableMemory
  split <;> rename_i h <;> rw [Int64.lt_iff_toInt_lt] at h
  · rw [Word.toNat_toUInt64_sub (by omega) hroom]
    omega
  · rw [UInt64.toNat_zero]
    omega

/-! ## What is admitted -/

namespace Adaptor

variable {mr : Adaptor} {arena : DeviceReservedArena} {oom : OomHandlingPolicy}

/-- A policy that ignores the overflow lets every request pass. -/
theorem check_ignored (mr : Adaptor) (arena : DeviceReservedArena) (n : UInt64) :
    mr.checkReservationAndHandleOverflow arena (some .ignore) n =
      ((mr, arena.tracked (arena.allocatedBytes + n.toInt64)),
        .ok (upstreamTrackingSize n arena.size
          (arena.allocatedBytes + n.toInt64))) := by
  unfold checkReservationAndHandleOverflow
  rcases htry : tryAdd arena.allocatedBytes n.toInt64 arena.size with ⟨ok, post⟩
  cases ok with
  | true => simp only [htry, post_of_added htry]
  | false => simp only [htry, ReservationLimitPolicy.handleOverReservation]

/-- If the upstream does not fail, only the capacity decides. -/
theorem unmanaged_ok_iff (mr : Adaptor) (bytes c : UInt64) (ptr : Addr) :
    (∃ p, (mr.doAllocateUnmanaged bytes c (.ok ptr)).2 = .ok p) ↔
      mr.totalAllocatedBytes.toNat + c.toNat ≤ mr.capacity.toNat := by
  unfold doAllocateUnmanaged
  rcases Nat.lt_or_ge mr.capacity.toNat
    (mr.totalAllocatedBytes.toNat + c.toNat) with hlt | hle
  · rw [tryAdd_of_lt hlt]
    refine iff_of_false ?_ (by omega)
    rintro ⟨p, hp⟩
    cases hp
  · rw [tryAdd_of_le hle]
    exact iff_of_true ⟨ptr, rfl⟩ hle

theorem managed_ok_iff {bytes : UInt64} {ptr : Addr} :
    (∃ p, (mr.doAllocateManaged oom bytes (.ok ptr)).2 = .ok p) ↔
      mr.totalAllocatedBytes.toNat + (round256 bytes).toNat ≤
        mr.capacity.toNat := by
  rw [← unmanaged_ok_iff mr bytes _ ptr]
  unfold doAllocateManaged
  rcases hu : mr.doAllocateUnmanaged bytes (round256 bytes) (.ok ptr) with
    ⟨mr₁, e | p⟩
  · simp only [hu, handleOom, reduceCtorEq]
  · simp only [hu, Except.ok.injEq]

theorem tracked_ok_iff {bytes : UInt64} {ptr : Addr} :
    (∃ p, (mr.doAllocateTracked arena (some .ignore) oom bytes (.ok ptr)).2 =
        .ok p) ↔
      mr.totalAllocatedBytes.toNat +
        (upstreamTrackingSize (round256 bytes) arena.size
          (arena.allocatedBytes + (round256 bytes).toInt64)).toNat ≤
        mr.capacity.toNat := by
  rw [← unmanaged_ok_iff mr bytes _ ptr]
  unfold doAllocateTracked
  rcases hu : mr.doAllocateUnmanaged bytes (upstreamTrackingSize (round256 bytes)
    arena.size (arena.allocatedBytes + (round256 bytes).toInt64)) (.ok ptr) with
    ⟨mr₁, e | p⟩
  · simp only [check_ignored, hu, handleOom, reduceCtorEq]
  · simp only [check_ignored, hu, Except.ok.injEq]

/-- The charge fits exactly if the request fits into what both counters leave:
inside the reservation both sides are true, and beyond it both weigh the part
that sticks out. -/
theorem charge_fits_iff {n : UInt64} (hn : n.toNat ≤ 2 ^ 62)
    (hsize : arena.size.toInt < 2 ^ 61)
    (hlo : -2 ^ 61 < arena.allocatedBytes.toInt)
    (hhi : arena.allocatedBytes.toInt < 2 ^ 61)
    (hcap : mr.capacity.toNat < 2 ^ 61)
    (htotal : mr.totalAllocatedBytes.toNat ≤ mr.capacity.toNat) :
    mr.totalAllocatedBytes.toNat +
        (upstreamTrackingSize n arena.size
          (arena.allocatedBytes + n.toInt64)).toNat ≤ mr.capacity.toNat ↔
      n ≤ mr.getAvailableMemory + arena.getAvailableMemory := by
  have hcast := Word.toInt_toInt64 (a := n) (by omega)
  have hpost := Word.toInt_add (a := arena.allocatedBytes) (b := n.toInt64)
    (by omega) (by omega)
  have hcharge := upstreamTrackingSize_spec arena.size
    (arena.allocatedBytes + n.toInt64) (n := n) (by omega) (by omega)
  have hupstream := mr.toNat_getAvailableMemory
  have hreserved := arena.toNat_getAvailableMemory (by omega)
  have hsum := Word.toNat_add (a := mr.getAvailableMemory)
    (b := arena.getAvailableMemory) (by omega)
  rw [hpost, hcast] at hcharge
  rw [UInt64.le_iff_toNat_le, hsum]
  omega

end Adaptor

/-! ## The two agree -/

/-- No reservation, or one under the ignore policy with numbers far from the
ends of `int64_t`. -/
def GpuResource.Ignoring (r : GpuResource) (stream : Stream) : Prop :=
  ∀ state ∈ r.streamStatsMap.lookup stream,
    (∃ arena, r.arenas.lookup state.memoryReservation = some arena ∧
      arena.size.toInt < 2 ^ 61 ∧ -2 ^ 61 < arena.allocatedBytes.toInt ∧
      arena.allocatedBytes.toInt < 2 ^ 61) ∧
    state.reservationPolicy = some .ignore

/-- A request is met exactly if it is not larger, as it will be rounded, than
the memory the stream is told is available. -/
theorem allocate_iff_available {r : GpuResource} {n : UInt64} {stream : Stream}
    (ptr : Addr) (hn : n.toNat < 2 ^ 61) (hcap : r.mr.capacity.toNat < 2 ^ 61)
    (htotal : r.mr.totalAllocatedBytes ≤ r.mr.capacity)
    (hstream : r.Ignoring stream) :
    ∃ available, r.getAvailableMemory stream = .ok available ∧
      ((∃ p, (r.doAllocate n stream (.ok ptr)).2 = .ok p) ↔
        round256 n ≤ available) := by
  have hround := round256_le (n := n) (by omega)
  rw [UInt64.le_iff_toNat_le] at htotal
  unfold GpuResource.getAvailableMemory GpuResource.doAllocate
  cases hstate : r.streamStatsMap.lookup stream with
  | none =>
      refine ⟨_, rfl, ?_⟩
      dsimp only
      rw [Adaptor.managed_ok_iff, UInt64.le_iff_toNat_le,
        Adaptor.toNat_getAvailableMemory]
      omega
  | some state =>
      obtain ⟨⟨arena, harena, hsize, hlo, hhi⟩, hpolicy⟩ := hstream state hstate
      simp only [harena, hpolicy]
      refine ⟨_, rfl, ?_⟩
      rw [Adaptor.tracked_ok_iff]
      exact Adaptor.charge_fits_iff hround hsize hlo hhi hcap htotal

/-- A stream with 512 bytes reserved, out of a capacity of 1024. -/
def streamOfHalf : GpuResource :=
  (((GpuResource.fresh 1024 1024).reserve 0 512 none).2
    |>.attachReservationToTracker 1 0 none none).2

theorem allocate_iff_available_half :
    ∃ available, streamOfHalf.getAvailableMemory 1 = .ok available ∧
      ((∃ p, (streamOfHalf.doAllocate 1000 1 (.ok 7)).2 = .ok p) ↔
        round256 1000 ≤ available) := by
  refine allocate_iff_available 7 (by decide) (by decide) (by decide) ?_
  intro state hstate
  cases hstate
  exact ⟨⟨_, rfl, by decide, by decide, by decide⟩, rfl⟩

end CuCascade.Memory

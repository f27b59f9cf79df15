import CuCascade.Memory.Downgrading

/-!
# Where the downgrade thresholds make sense

Consumption is the memory limit less what is available, and what is available
is counted from the capacity. As long as at least the bytes between the limit
and the capacity are in use the difference is what it says, and the start, the
stop and the amount fit together. Below that the subtraction wraps, and a space
that is nearly empty takes itself for full.
-/

namespace CuCascade.Memory

namespace DowngradableSpace

variable {s s' : DowngradableSpace} {t : MemoryThresholds} {m : UInt64}

/-- A state of a space with the given thresholds in which at least `m` bytes
are in use. -/
structure At (t : MemoryThresholds) (m : UInt64) (s : DowngradableSpace) : Prop where
  thresholds : s.toMemoryThresholds = t
  wellformed : s.Wellformed
  level : m ≤ s.bytesInUse

/-- What the three functions say of a space goes together, in all states in
which at least `m` bytes are in use. -/
structure Coherent (t : MemoryThresholds) (m : UInt64) : Prop where
  noWrap : ∀ s, At t m s → s.getAvailableMemory ≤ s.memoryLimit
  monotone : ∀ s s', At t m s → At t m s' → s.bytesInUse ≤ s'.bytesInUse →
    s.shouldDowngradeMemory → s'.shouldDowngradeMemory
  antitone : ∀ s s', At t m s → At t m s' → s.bytesInUse ≤ s'.bytesInUse →
    s'.shouldStopDowngradingMemory → s.shouldStopDowngradingMemory
  exclusive : ∀ s, At t m s →
    ¬ (s.shouldDowngradeMemory ∧ s.shouldStopDowngradingMemory)
  amount : ∀ s, At t m s → s.getAmountToDowngrade ≤ s.bytesInUse
  nothing : ∀ s, At t m s →
    (s.getAmountToDowngrade = 0 ↔ s.shouldStopDowngradingMemory)
  enough : ∀ s s', At t m s → At t 0 s' →
    s'.bytesInUse = s.bytesInUse - s.getAmountToDowngrade →
    s'.shouldStopDowngradingMemory
  empty : ∀ s, At t m s → s.bytesInUse = 0 → ¬ s.shouldDowngradeMemory

/-- Each limiter reports what is left of its capacity. -/
theorem toNat_available (h : s.Wellformed) :
    s.getAvailableMemory.toNat = s.capacity.toNat - s.bytesInUse.toNat := by
  obtain ⟨hcapacity, hused⟩ := h
  rw [UInt64.le_iff_toNat_le] at hused
  have hzero : (0 : UInt64).toNat = 0 := rfl
  unfold getAvailableMemory bytesInUse at *
  cases hlimiter : s.reservationAllocator with
  | gpu mr =>
      simp only [hlimiter, ReservingAdaptor.totalAllocatedBytes] at hcapacity hused ⊢
      rw [Adaptor.getAvailableMemory, hcapacity]
      split <;> rename_i hlt <;> rw [UInt64.lt_iff_toNat_lt] at hlt
      · exact Word.toNat_sub hused
      · omega
  | host mr =>
      simp only [hlimiter, ReservingAdaptor.totalAllocatedBytes] at hcapacity hused ⊢
      rw [HostResource.getAvailableMemory, hcapacity]
      split <;> rename_i hlt <;> rw [UInt64.lt_iff_toNat_lt] at hlt
      · exact Word.toNat_sub hused
      · omega
  | disk mr =>
      simp only [hlimiter, ReservingAdaptor.totalAllocatedBytes] at hused ⊢
      rw [DiskAccessLimiter.getAvailableMemory,
        if_pos (UInt64.le_iff_toNat_le.mpr hused)]
      exact Word.toNat_sub hused

section Consumed

variable (hm : t.capacity.toNat ≤ m.toNat + t.memoryLimit.toNat)

include hm

/-- From that level on nothing wraps: consumption is the bytes in use less those
between the limit and the capacity. -/
theorem At.consumed (h : At t m s) :
    s.getAvailableMemory.toNat ≤ t.memoryLimit.toNat ∧
      (t.memoryLimit - s.getAvailableMemory).toNat + t.capacity.toNat =
        s.bytesInUse.toNat + t.memoryLimit.toNat := by
  have havailable := toNat_available h.wellformed
  have hused := h.wellformed.2
  have hlevel := h.level
  rw [h.thresholds] at havailable hused
  rw [UInt64.le_iff_toNat_le] at hused hlevel
  have hle : s.getAvailableMemory.toNat ≤ t.memoryLimit.toNat := by omega
  refine ⟨hle, ?_⟩
  rw [Word.toNat_sub hle]
  omega

theorem At.downgrades (h : At t m s) :
    s.shouldDowngradeMemory ↔
      t.startDowngradingMemoryThreshold.toNat + t.capacity.toNat ≤
        s.bytesInUse.toNat + t.memoryLimit.toNat := by
  obtain ⟨-, hconsumed⟩ := h.consumed hm
  rw [shouldDowngradeMemory, h.thresholds, decide_eq_true_eq, UInt64.le_iff_toNat_le]
  omega

theorem At.stops (h : At t m s) :
    s.shouldStopDowngradingMemory ↔
      s.bytesInUse.toNat + t.memoryLimit.toNat ≤
        t.stopDowngradingMemoryThreshold.toNat + t.capacity.toNat := by
  obtain ⟨-, hconsumed⟩ := h.consumed hm
  rw [shouldStopDowngradingMemory, h.thresholds, decide_eq_true_eq,
    UInt64.le_iff_toNat_le]
  omega

/-- The amount is what is in use beyond the point where the downgrade stops. -/
theorem At.toNat_amount (h : At t m s) :
    s.getAmountToDowngrade.toNat =
      s.bytesInUse.toNat + t.memoryLimit.toNat -
        (t.stopDowngradingMemoryThreshold.toNat + t.capacity.toNat) := by
  obtain ⟨-, hconsumed⟩ := h.consumed hm
  have hzero : (0 : UInt64).toNat = 0 := rfl
  rw [getAmountToDowngrade, h.thresholds]
  split <;> rename_i hle <;> rw [UInt64.le_iff_toNat_le] at hle
  · omega
  · rw [Word.toNat_sub (by omega)]
    omega

end Consumed

/-- The state of a device with `m` bytes in use. -/
def deviceAt (t : MemoryThresholds) (m : UInt64) : DowngradableSpace where
  toMemoryThresholds := t
  reservationAllocator := .gpu { GpuResource.fresh t.memoryLimit t.capacity with
    mr := { Adaptor.fresh t.memoryLimit t.capacity with totalAllocatedBytes := m } }

theorem at_deviceAt (h : m ≤ t.capacity) : At t m (deviceAt t m) :=
  ⟨rfl, ⟨rfl, h⟩, UInt64.le_iff_toNat_le.mpr (Nat.le_refl _)⟩

/-- The thresholds are coherent at all levels of use from `m` on exactly if `m`
covers what the limit leaves of the capacity. -/
theorem coherent_iff
    (hstop : t.stopDowngradingMemoryThreshold < t.startDowngradingMemoryThreshold)
    (hlimit : t.memoryLimit ≤ t.capacity) (hm : m ≤ t.capacity) :
    Coherent t m ↔ t.capacity.toNat ≤ m.toNat + t.memoryLimit.toNat := by
  rw [UInt64.lt_iff_toNat_lt] at hstop
  constructor
  · intro h
    have hle := h.noWrap _ (at_deviceAt hm)
    have havailable := toNat_available (at_deviceAt hm).wellformed
    rw [UInt64.le_iff_toNat_le, havailable] at hle
    simp only [deviceAt, bytesInUse, ReservingAdaptor.totalAllocatedBytes] at hle
    omega
  · intro h
    have hcapacity := UInt64.le_iff_toNat_le.mp hlimit
    have hlevel {s : DowngradableSpace} (hs : At t m s) :
        m.toNat ≤ s.bytesInUse.toNat := UInt64.le_iff_toNat_le.mp hs.level
    refine ⟨?_, ?_, ?_, ?_, ?_, ?_, ?_, ?_⟩
    · intro s hs
      rw [hs.thresholds, UInt64.le_iff_toNat_le]
      exact (hs.consumed h).1
    · intro s s' hs hs' hle
      rw [hs.downgrades h, hs'.downgrades h]
      rw [UInt64.le_iff_toNat_le] at hle
      omega
    · intro s s' hs hs' hle
      rw [hs.stops h, hs'.stops h]
      rw [UInt64.le_iff_toNat_le] at hle
      omega
    · intro s hs
      rw [hs.downgrades h, hs.stops h]
      omega
    · intro s hs
      rw [UInt64.le_iff_toNat_le, hs.toNat_amount h]
      omega
    · intro s hs
      rw [← UInt64.toNat_inj, hs.toNat_amount h, hs.stops h,
        UInt64.toNat_zero]
      omega
    · intro s s' hs hs' hfreed
      have hamount := hs.toNat_amount h
      have hlow := hlevel hs
      -- what is left in use still covers the gap, so nothing wraps there either
      have hleft : s'.bytesInUse.toNat =
          s.bytesInUse.toNat - s.getAmountToDowngrade.toNat := by
        rw [hfreed, Word.toNat_sub (by omega)]
      have hgap := Word.toNat_sub hcapacity
      have hs'' : At t (t.capacity - t.memoryLimit) s' :=
        ⟨hs'.thresholds, hs'.wellformed, UInt64.le_iff_toNat_le.mpr (by omega)⟩
      rw [hs''.stops (by omega)]
      omega
    · intro s hs hempty
      have hlow := hlevel hs
      rw [hs.downgrades h, hempty, UInt64.toNat_zero]
      rw [hempty, UInt64.toNat_zero] at hlow
      omega

/-- The fractions a configuration has by default, of 1000 bytes. -/
def defaultThresholds : MemoryThresholds := ⟨1000, 900, 750, 650⟩

theorem coherent_default : Coherent defaultThresholds 100 :=
  (coherent_iff (by decide) (by decide) (by decide)).mpr (by decide)

/-- An empty device with these asks for a downgrade at once. -/
theorem empty_downgrades :
    At defaultThresholds 0 (deviceAt defaultThresholds 0) ∧
      (deviceAt defaultThresholds 0).shouldDowngradeMemory ∧
      ¬ Coherent defaultThresholds 0 := by
  have hat : At defaultThresholds 0 (deviceAt defaultThresholds 0) :=
    at_deviceAt (by decide)
  refine ⟨hat, by decide, ?_⟩
  intro h
  exact h.empty _ hat rfl (by decide)

end DowngradableSpace

end CuCascade.Memory

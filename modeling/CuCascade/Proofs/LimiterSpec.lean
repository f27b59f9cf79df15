import CuCascade.Proofs.AdaptorSpec
import CuCascade.Proofs.HostLedger
import CuCascade.Memory.MemorySpace

/-!
# What reserving does on any of the three limiters

The three limiters round differently and keep their arenas differently, and a
space calls whichever it has. What a caller may rely on is the same for all of
them: a request is granted exactly if its rounded size fits under the limit,
a grant moves the counter by that size and leaves an arena of it at the given
address, and a refusal changes nothing.
-/

namespace CuCascade.Memory

open Utils

namespace ReservingAdaptor

def memoryLimit : ReservingAdaptor → UInt64
  | .gpu mr => mr.mr.memoryLimit
  | .host mr => mr.memoryLimit
  | .disk mr => mr.memoryLimit

/-- What a request of this size is charged. -/
def rounded (bytes : UInt64) : ReservingAdaptor → UInt64
  | .host mr => alignUp bytes mr.blockSize
  | .gpu _ | .disk _ => bytes

/-- The rounding of the host limiter does not wrap around. -/
def NoWrap (bytes : UInt64) : ReservingAdaptor → Prop
  | .host mr => bytes.toNat + (mr.blockSize - 1).toNat < 2 ^ 64
  | .gpu _ | .disk _ => True

instance (bytes : UInt64) : (a : ReservingAdaptor) → Decidable (a.NoWrap bytes)
  | .host _ => inferInstanceAs (Decidable (_ < _))
  | .gpu _ | .disk _ => isTrue trivial

/-- The request fits under the limit. -/
def Grants (a : ReservingAdaptor) (bytes : UInt64) : Prop :=
  a.totalAllocatedBytes.toNat + (a.rounded bytes).toNat ≤ a.memoryLimit.toNat

instance (a : ReservingAdaptor) (bytes : UInt64) : Decidable (a.Grants bytes) :=
  inferInstanceAs (Decidable (_ ≤ _))

/-- What `reserve_upto` grants of a request. -/
def grantedUpto (a : ReservingAdaptor) (bytes : UInt64) : Nat :=
  min (a.rounded bytes).toNat
    (a.memoryLimit.toNat - a.totalAllocatedBytes.toNat)

/-- From `a` to `a'` an arena of `g` bytes was opened at `p` and charged. -/
structure Opened (a a' : ReservingAdaptor) (p : Addr) (g : UInt64) : Prop where
  total : a'.totalAllocatedBytes.toNat = a.totalAllocatedBytes.toNat + g.toNat
  size : a'.arenaSize p = some g.toInt64
  growBy : ∀ bytes, ∃ grown, (a'.growBy p bytes).2 = .ok grown
  shrinkToFit : (a'.shrinkToFit p).2 = .ok ()
  destroy : ∃ onExit, (a'.destroyArena p).2 = .ok onExit

theorem le_rounded {a : ReservingAdaptor} {bytes : UInt64}
    (h : a.NoWrap bytes) : bytes.toNat ≤ (a.rounded bytes).toNat := by
  cases a with
  | gpu mr => exact Nat.le_refl _
  | host mr => exact le_alignUp h
  | disk mr => exact Nat.le_refl _

section Gpu

variable {r r' : GpuResource} {p : Addr} {g : UInt64}

theorem opened_gpu {notifier : Option EventNotifier}
    (htotal : r'.mr.totalAllocatedBytes.toNat =
      r.mr.totalAllocatedBytes.toNat + g.toNat)
    (harena : r'.arenas.lookup p = some (Adaptor.makeArena g notifier)) :
    Opened (.gpu r) (.gpu r') p g := by
  refine ⟨htotal, ?_, fun bytes => ?_, ?_, ⟨_, rfl⟩⟩
  · simp only [arenaSize, harena, Option.map_some]
    rfl
  · refine ⟨(r'.mr.growReservationBy (Adaptor.makeArena g notifier) bytes).1, ?_⟩
    simp only [ReservingAdaptor.growBy, GpuResource.growBy, harena]
  · simp only [ReservingAdaptor.shrinkToFit, GpuResource.shrinkToFit, harena]

theorem reserve_gpu (r : GpuResource) (p : Addr) (bytes : UInt64)
    (notifier : Option EventNotifier) :
    ((ReservingAdaptor.gpu r).Grants bytes ∧ ∃ r',
      r.reserve p bytes notifier = (some p, r') ∧
      Opened (.gpu r) (.gpu r') p bytes) ∨
    (¬ (ReservingAdaptor.gpu r).Grants bytes ∧
      r.reserve p bytes notifier = (none, r)) := by
  rcases h : r.mr.reserve bytes notifier with ⟨arena, mr⟩
  rcases Adaptor.reserve_cases h with
    ⟨hle, rfl, hmoved⟩ | ⟨hlt, rfl, rfl⟩
  · have htotal := hmoved.total
    refine Or.inl ⟨hle, ?_⟩
    simp only [GpuResource.reserve, h]
    refine ⟨_, rfl, opened_gpu ?_ (AList.lookup_insert _)⟩
    show mr.totalAllocatedBytes.toNat = _
    omega
  · refine Or.inr ⟨Nat.not_le_of_lt hlt, ?_⟩
    simp only [GpuResource.reserve, h]

theorem reserveUpto_gpu (r : GpuResource) (p : Addr) (bytes : UInt64)
    (notifier : Option EventNotifier) :
    ∃ g r', r.reserveUpto p bytes notifier = (p, r') ∧
      g.toNat = (ReservingAdaptor.gpu r).grantedUpto bytes ∧
      Opened (.gpu r) (.gpu r') p g := by
  rcases h : r.mr.reserveUpto bytes notifier with ⟨arena, mr⟩
  obtain ⟨g, rfl, hmoved, hg⟩ := Adaptor.reserveUpto_cases h
  have htotal := hmoved.total
  simp only [GpuResource.reserveUpto, h]
  refine ⟨g, _, rfl, hg, opened_gpu ?_ (AList.lookup_insert _)⟩
  show mr.totalAllocatedBytes.toNat = _
  omega

end Gpu

section Host

variable {r r' : HostResource} {p : Addr} {g : UInt64}

theorem opened_host {arena : ChunkedReservedArea} {used : Int64}
    (htotal : r'.allocatedBytes.toNat = r.allocatedBytes.toNat + g.toNat)
    (hholds : r'.Holds p arena used) (hsize : arena.size = g.toInt64) :
    Opened (.host r) (.host r') p g := by
  refine ⟨htotal, ?_, fun bytes => ?_, ?_, ?_⟩
  · simp only [arenaSize, hholds.arena, Option.map_some, hsize]
  · simp only [ReservingAdaptor.growBy, HostResource.growBy, hholds.arena]
    split
    · exact ⟨true, rfl⟩
    · exact ⟨false, rfl⟩
  · simp only [ReservingAdaptor.shrinkToFit, HostResource.shrinkToFit,
      hholds.arena, hholds.used]
    split <;> rfl
  · refine ⟨arena.onExit, ?_⟩
    simp only [ReservingAdaptor.destroyArena, HostResource.destroyArena,
      hholds.arena, hholds.used]

/-- Whatever was registered at the address, there is an arena and a tracker
now. -/
theorem registerReservation_holds (r : HostResource) (p : Addr) (g : UInt64)
    (notifier : Option EventNotifier) :
    ∃ used, (r.registerReservation p g notifier).Holds p
      ⟨g.toInt64, notifier⟩ used := by
  cases hp : r.activeReservations.lookup p with
  | none =>
      refine ⟨0, AList.lookup_insert _, ?_⟩
      simp only [HostResource.registerReservation, hp]
      exact AList.lookup_insert _
  | some used =>
      refine ⟨used, AList.lookup_insert _, ?_⟩
      simp only [HostResource.registerReservation, hp]

theorem reserve_host (r : HostResource) (p : Addr) (bytes : UInt64)
    (notifier : Option EventNotifier) :
    ((ReservingAdaptor.host r).Grants bytes ∧ ∃ r',
      r.reserve p bytes notifier = (some p, r') ∧
      Opened (.host r) (.host r') p (alignUp bytes r.blockSize)) ∨
    (¬ (ReservingAdaptor.host r).Grants bytes ∧
      r.reserve p bytes notifier = (none, r)) := by
  by_cases hle : r.allocatedBytes.toNat + (alignUp bytes r.blockSize).toNat ≤
      r.memoryLimit.toNat
  · obtain ⟨r₁, heq, hm, -, -⟩ := HostResource.doReserve_of_le hle
    have htotal := hm.total
    obtain ⟨used, hholds⟩ := registerReservation_holds r₁ p
      (alignUp bytes r.blockSize) notifier
    refine Or.inl ⟨hle, _, by simp only [HostResource.reserve, heq],
      opened_host ?_ hholds rfl⟩
    show r₁.allocatedBytes.toNat = _
    omega
  · refine Or.inr ⟨hle, ?_⟩
    simp only [HostResource.reserve,
      HostResource.doReserve_of_lt (Nat.lt_of_not_le hle)]

theorem reserveUpto_host (r : HostResource) (p : Addr) (bytes : UInt64)
    (notifier : Option EventNotifier) :
    ∃ g r', r.reserveUpto p bytes notifier = (p, r') ∧
      g.toNat = (ReservingAdaptor.host r).grantedUpto bytes ∧
      Opened (.host r) (.host r') p g := by
  obtain ⟨g, r₁, heq, hg, hm, -, -⟩ :=
    HostResource.doReserveUpto_spec r (alignUp bytes r.blockSize)
  have htotal := hm.total
  obtain ⟨used, hholds⟩ := registerReservation_holds r₁ p g notifier
  refine ⟨g, _, by simp only [HostResource.reserveUpto, heq], hg,
    opened_host ?_ hholds rfl⟩
  show r₁.allocatedBytes.toNat = _
  omega

end Host

section Disk

variable {r r' : DiskAccessLimiter} {p : Addr} {g : UInt64}

theorem opened_disk (arena : DiskReservedArena)
    (htotal : r'.totalAllocatedBytes.toNat =
      r.totalAllocatedBytes.toNat + g.toNat)
    (harena : r'.arenas.lookup p = some arena)
    (hsize : arena.size = g.toInt64) : Opened (.disk r) (.disk r') p g := by
  refine ⟨htotal, ?_, fun bytes => ⟨false, ?_⟩, ?_, ⟨_, rfl⟩⟩
  · simp only [arenaSize, harena, Option.map_some, hsize]
  · simp only [ReservingAdaptor.growBy, harena]
  · simp only [ReservingAdaptor.shrinkToFit, harena]

theorem reserve_disk (r : DiskAccessLimiter) (p : Addr) (bytes : UInt64)
    (notifier : Option EventNotifier) :
    ((ReservingAdaptor.disk r).Grants bytes ∧ ∃ r',
      r.reserve p bytes notifier = (some p, r') ∧
      Opened (.disk r) (.disk r') p bytes) ∨
    (¬ (ReservingAdaptor.disk r).Grants bytes ∧
      r.reserve p bytes notifier = (none, r)) := by
  by_cases hle : r.totalAllocatedBytes.toNat + bytes.toNat ≤ r.memoryLimit.toNat
  · have hsum := toNat_add_of_le hle
    refine Or.inl ⟨hle, ?_⟩
    simp only [DiskAccessLimiter.reserve, DiskAccessLimiter.doReserve,
      tryAdd_of_le hle]
    exact ⟨_, rfl, opened_disk ⟨bytes.toInt64, notifier⟩ hsum
      (AList.lookup_insert _) rfl⟩
  · refine Or.inr ⟨hle, ?_⟩
    simp only [DiskAccessLimiter.reserve, DiskAccessLimiter.doReserve,
      tryAdd_of_lt (Nat.lt_of_not_le hle)]

theorem reserveUpto_disk (r : DiskAccessLimiter) (p : Addr) (bytes : UInt64)
    (notifier : Option EventNotifier) :
    ∃ g r', r.reserveUpto p bytes notifier = (p, r') ∧
      g.toNat = (ReservingAdaptor.disk r).grantedUpto bytes ∧
      Opened (.disk r) (.disk r') p g := by
  obtain ⟨hgrant, hpost⟩ :=
    addBounded_spec r.totalAllocatedBytes bytes r.memoryLimit
  rcases h : addBounded r.totalAllocatedBytes bytes r.memoryLimit with ⟨g, post⟩
  rw [h] at hgrant hpost
  dsimp only at hgrant hpost
  simp only [DiskAccessLimiter.reserveUpto, DiskAccessLimiter.doReserveUpto, h]
  refine ⟨g, _, rfl, hgrant, opened_disk ⟨g.toInt64, notifier⟩ ?_
    (AList.lookup_insert _) rfl⟩
  show post.toNat = _
  omega

end Disk

variable (a : ReservingAdaptor) (p : Addr) (bytes : UInt64)
  (notifier : Option EventNotifier)

/-- `reserve` of any limiter. -/
theorem reserve_spec :
    (a.Grants bytes ∧ ∃ a', a.reserve p bytes notifier = (some p, a') ∧
      a.Opened a' p (a.rounded bytes)) ∨
    (¬ a.Grants bytes ∧ a.reserve p bytes notifier = (none, a)) := by
  cases a with
  | gpu r =>
      rcases reserve_gpu r p bytes notifier with ⟨hg, r', heq, ho⟩ | ⟨hg, heq⟩
      · exact Or.inl ⟨hg, _, by simp only [reserve, heq], ho⟩
      · exact Or.inr ⟨hg, by simp only [reserve, heq]⟩
  | host r =>
      rcases reserve_host r p bytes notifier with ⟨hg, r', heq, ho⟩ | ⟨hg, heq⟩
      · exact Or.inl ⟨hg, _, by simp only [reserve, heq], ho⟩
      · exact Or.inr ⟨hg, by simp only [reserve, heq]⟩
  | disk r =>
      rcases reserve_disk r p bytes notifier with ⟨hg, r', heq, ho⟩ | ⟨hg, heq⟩
      · exact Or.inl ⟨hg, _, by simp only [reserve, heq], ho⟩
      · exact Or.inr ⟨hg, by simp only [reserve, heq]⟩

/-- `reserve_upto` of any limiter; it always makes an arena. -/
theorem reserveUpto_spec :
    ∃ g a', a.reserveUpto p bytes notifier = (p, a') ∧
      g.toNat = a.grantedUpto bytes ∧ a.Opened a' p g := by
  cases a with
  | gpu r =>
      obtain ⟨g, r', heq, hg, ho⟩ := reserveUpto_gpu r p bytes notifier
      exact ⟨g, _, by simp only [reserveUpto, heq], hg, ho⟩
  | host r =>
      obtain ⟨g, r', heq, hg, ho⟩ := reserveUpto_host r p bytes notifier
      exact ⟨g, _, by simp only [reserveUpto, heq], hg, ho⟩
  | disk r =>
      obtain ⟨g, r', heq, hg, ho⟩ := reserveUpto_disk r p bytes notifier
      exact ⟨g, _, by simp only [reserveUpto, heq], hg, ho⟩

theorem reserve_eq_none_iff :
    (a.reserve p bytes notifier).1 = none ↔ ¬ a.Grants bytes := by
  rcases a.reserve_spec p bytes notifier with ⟨hg, a', heq, -⟩ | ⟨hg, heq⟩
  · rw [heq]
    exact iff_of_false nofun (not_not_intro hg)
  · rw [heq]
    exact iff_of_true rfl hg

end ReservingAdaptor

end CuCascade.Memory

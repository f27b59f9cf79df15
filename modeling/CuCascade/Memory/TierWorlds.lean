import CuCascade.Memory.DiskLimiter
import CuCascade.Memory.GpuWorld
import CuCascade.Memory.HostWorld

/-!
# The host pool and the disk limiter with users who choose the addresses

What a limiter reports of its reservations should not depend on where its
arenas come to lie or on what its upstream resource answers. So the caller of
`reserve` brings the address of the arena, which may be one that an arena had
before, and the upstream of the host pool may throw.
-/

namespace CuCascade.Memory

/-- The total and the count a limiter reports are those of its live arenas, whose
sizes are within its limit. Arenas are objects in memory, so that their number
is a `size_t`. -/
structure Reported (reservedBytes reservationCount : UInt64)
    (sizes : Table Addr Int64) (memoryLimit : UInt64) : Prop where
  total : (reservedBytes.toNat : Int) = sizes.sumBy fun _ size => max 0 size.toInt
  count : reservationCount = UInt64.ofNat sizes.count
  limit : (sizes.sumBy fun _ size => size.toInt) ≤ memoryLimit.toNat
  nothing : sizes = ∅ → reservedBytes = 0 ∧ reservationCount = 0

/-- Where no size is negative, the sum of the sizes says it all. -/
theorem Reported.of_nonneg {reservedBytes reservationCount memoryLimit : UInt64}
    {sizes : Table Addr Int64} (hnonneg : sizes.All fun _ size => 0 ≤ size.toInt)
    (htotal : (reservedBytes.toNat : Int) = sizes.sumBy fun _ size => size.toInt)
    (hcount : reservationCount = UInt64.ofNat sizes.count)
    (hlimit : (sizes.sumBy fun _ size => size.toInt) ≤ memoryLimit.toNat) :
    Reported reservedBytes reservationCount sizes memoryLimit := by
  have hmax : (sizes.sumBy fun _ size => max 0 size.toInt) =
      sizes.sumBy fun _ size => size.toInt :=
    AList.sumBy_congr fun e he => max_eq_right (hnonneg.of_mem he)
  refine ⟨by rw [hmax, htotal], hcount, hlimit, ?_⟩
  intro hnone
  rw [hnone, AList.sumBy_empty] at htotal
  rw [hnone, AList.count_empty] at hcount
  refine ⟨?_, hcount⟩
  rw [← UInt64.toNat_inj]
  exact Int.natCast_inj.mp htotal

/-- A host pool, and the allocations that have not been destroyed. -/
structure HostTier where
  res : HostResource
  allocations : Table Nat MultipleBlocksAllocation

inductive HostTierOp where
  | reserve (self : Addr) (bytes : UInt64)
  | reserveUpto (self : Addr) (bytes : UInt64)
  | growBy (p : Addr) (bytes : UInt64)
  | shrinkToFit (p : Addr)
  | release (p : Addr)
  /-- `allocate_multiple_blocks`; `id` is where the allocation is put -/
  | allocate (id : Nat) (totalBytes : UInt64) (res : Option Addr)
      (upstream : Nat → UInt64 → Except Exception Addr)
  | free (id : Nat)

namespace HostTier

def fresh (memoryLimit memoryCapacity blockSize poolSize : UInt64)
    (initialPools : List Addr) : HostTier :=
  ⟨.create memoryLimit memoryCapacity blockSize poolSize initialPools, ∅⟩

def next (w : HostTier) : HostTierOp → HostTier
  | .reserve self bytes => { w with res := (w.res.reserve self bytes none).2 }
  | .reserveUpto self bytes =>
      { w with res := (w.res.reserveUpto self bytes none).2 }
  | .growBy p bytes => { w with res := (w.res.growBy p bytes).1 }
  | .shrinkToFit p => { w with res := (w.res.shrinkToFit p).1 }
  | .release p => { w with res := (w.res.destroyArena p).1 }
  | .allocate id totalBytes res upstream =>
      match w.res.allocateMultipleBlocks totalBytes (res.map some) upstream with
      | (r, .ok (some a)) => ⟨r, w.allocations.insert id a⟩
      | (r, _) => { w with res := r }
  | .free id =>
      match w.allocations.lookup id with
      | none => w
      | some a =>
          ⟨(w.res.destroyAllocation a).1, w.allocations.erase id⟩

/-- Only live objects are used, a new one lies where none is, and no allocation
exceeds its reservation. -/
def Within (w : HostTier) : HostTierOp → Prop
  | .reserve self _ | .reserveUpto self _ => self ∉ w.res.arenas
  | .growBy p _ | .shrinkToFit p | .release p => p ∈ w.res.arenas
  | .allocate id totalBytes res _ => id ∉ w.allocations ∧
      ∀ p ∈ res, ∃ arena ∈ w.res.arenas.lookup p,
        ∃ used ∈ w.res.activeReservations.lookup p,
          used.toInt + (alignUp totalBytes w.res.blockSize).toNat ≤ arena.size.toInt
  | .free id => id ∈ w.allocations

instance (w : HostTier) : (op : HostTierOp) → Decidable (w.Within op)
  | .reserve _ _ | .reserveUpto _ _ => inferInstanceAs (Decidable (_ ∉ w.res.arenas))
  | .growBy _ _ | .shrinkToFit _ | .release _ =>
      inferInstanceAs (Decidable (_ ∈ w.res.arenas))
  | .allocate _ _ res _ =>
      inferInstanceAs (Decidable (_ ∧ ∀ p ∈ res, ∃ arena ∈ w.res.arenas.lookup p,
        ∃ used ∈ w.res.activeReservations.lookup p, _))
  | .free _ => inferInstanceAs (Decidable (_ ∈ w.allocations))

def machine : Machine HostTier HostTierOp where
  start w := ∃ limit capacity blockSize poolSize initialPools,
    w = fresh limit capacity blockSize poolSize initialPools
  legal := Within
  next := next

end HostTier

/-- A disk reservation neither grows nor shrinks. -/
inductive DiskOp where
  | reserve (self : Addr) (bytes : UInt64)
  | reserveUpto (self : Addr) (bytes : UInt64)
  | growBy (p : Addr) (bytes : UInt64)
  | shrinkToFit (p : Addr)
  | release (p : Addr)
deriving DecidableEq

namespace DiskAccessLimiter

def next (mr : DiskAccessLimiter) : DiskOp → DiskAccessLimiter
  | .reserve self bytes => (mr.reserve self bytes none).2
  | .reserveUpto self bytes => (mr.reserveUpto self bytes none).2
  | .growBy _ _ | .shrinkToFit _ => mr
  | .release p => (mr.destroyArena p).1

def Within (mr : DiskAccessLimiter) : DiskOp → Prop
  | .reserve self _ | .reserveUpto self _ => self ∉ mr.arenas
  | .growBy p _ | .shrinkToFit p | .release p => p ∈ mr.arenas

instance (mr : DiskAccessLimiter) : (op : DiskOp) → Decidable (mr.Within op)
  | .reserve _ _ | .reserveUpto _ _ => inferInstanceAs (Decidable (_ ∉ mr.arenas))
  | .growBy _ _ | .shrinkToFit _ | .release _ =>
      inferInstanceAs (Decidable (_ ∈ mr.arenas))

def machine : Machine DiskAccessLimiter DiskOp where
  start mr := ∃ limit, mr = fresh limit
  legal := Within
  next := next

end DiskAccessLimiter

namespace GpuWorld

/-- As for the host tier; the users of a GPU limiter also attach reservations to
streams. -/
def Within (w : GpuWorld) : GpuOp → Prop
  | .reserve _ | .reserveUpto _ | .resetStream _ => True
  | .attach _ p _ _ | .destroy p => w.Unattached p
  | .growBy p _ | .shrinkToFit p => p ∈ w.res.arenas
  | .allocate bytes stream _ => ∀ a ∈ w.arenaAt stream,
      a.allocatedBytes.toInt + (round256 bytes).toNat ≤ a.size.toInt
  | .deallocate id _ => id ∈ w.blocks

instance (w : GpuWorld) : (op : GpuOp) → Decidable (w.Within op)
  | .reserve _ | .reserveUpto _ | .resetStream _ => isTrue trivial
  | .attach _ p _ _ | .destroy p => inferInstanceAs (Decidable (w.Unattached p))
  | .growBy _ _ | .shrinkToFit _ => inferInstanceAs (Decidable (_ ∈ w.res.arenas))
  | .allocate _ s _ => inferInstanceAs (Decidable (∀ a ∈ w.arenaAt s, _))
  | .deallocate _ _ => inferInstanceAs (Decidable (_ ∈ w.blocks))

end GpuWorld

end CuCascade.Memory

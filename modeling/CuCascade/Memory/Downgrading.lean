import CuCascade.Memory.MemorySpace

/-!
# `memory_space`: when to downgrade and how much

The three functions that the downgrade of a space is driven by, and the amount
of available memory they read. The limiter counts from the capacity and the
space measures against its reservation limit, which may be smaller.

A limiter keeps the capacity it was made with, and the constructor of the space
gives it its own. The disk limiter uses its copy here and nowhere else, so that
it is read from the space.
-/

namespace CuCascade.Memory

/-- The constant members of `memory_space` that have to do with amounts. -/
structure MemoryThresholds where
  capacity : UInt64
  memoryLimit : UInt64
  startDowngradingMemoryThreshold : UInt64
  stopDowngradingMemoryThreshold : UInt64
deriving DecidableEq, Repr

/-- A space as the downgrade sees it. -/
structure DowngradableSpace extends MemoryThresholds where
  reservationAllocator : ReservingAdaptor

/-- `fixed_size_host_memory_resource::get_available_memory`. -/
def HostResource.getAvailableMemory (r : HostResource) : UInt64 :=
  if r.allocatedBytes < r.memoryCapacity then r.memoryCapacity - r.allocatedBytes
  else 0

/-- `disk_access_limiter::get_available_memory`. -/
def DiskAccessLimiter.getAvailableMemory (mr : DiskAccessLimiter)
    (capacity : UInt64) : UInt64 :=
  if mr.totalAllocatedBytes ≤ capacity then capacity - mr.totalAllocatedBytes
  else 0

namespace DowngradableSpace

/-- `get_available_memory` without a stream. -/
def getAvailableMemory (s : DowngradableSpace) : UInt64 :=
  match s.reservationAllocator with
  | .gpu mr => mr.mr.getAvailableMemory
  | .host mr => mr.getAvailableMemory
  | .disk mr => mr.getAvailableMemory s.capacity

def shouldDowngradeMemory (s : DowngradableSpace) : Bool :=
  s.startDowngradingMemoryThreshold ≤ s.memoryLimit - s.getAvailableMemory

def shouldStopDowngradingMemory (s : DowngradableSpace) : Bool :=
  s.memoryLimit - s.getAvailableMemory ≤ s.stopDowngradingMemoryThreshold

def getAmountToDowngrade (s : DowngradableSpace) : UInt64 :=
  let consumed := s.memoryLimit - s.getAvailableMemory
  if consumed ≤ s.stopDowngradingMemoryThreshold then 0
  else consumed - s.stopDowngradingMemoryThreshold

/-- The bytes in use, as the limiter counts them. -/
def bytesInUse (s : DowngradableSpace) : UInt64 :=
  s.reservationAllocator.totalAllocatedBytes

/-- The limiter has the capacity of the space, and no more than that is in
use. -/
def Wellformed (s : DowngradableSpace) : Prop :=
  (match s.reservationAllocator with
    | .gpu mr => mr.mr.capacity = s.capacity
    | .host mr => mr.memoryCapacity = s.capacity
    | .disk _ => True) ∧ s.bytesInUse ≤ s.capacity

end DowngradableSpace

end CuCascade.Memory

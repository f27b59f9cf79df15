import CuCascade.Memory.NotificationChannel
import CuCascade.Utils.Atomics

/-!
# `reservation_aware_resource_adaptor`: one call on its counters

The functions of the GPU limiter that do the arithmetic, each on the values it
reads: the adaptor's own counters, one arena, one policy. Where the objects
live, and which stream has which arena, is `GpuResource.lean`.

An arena's two signed counters and the adaptor's unsigned total are kept in
step by six of these functions. Each reads the boundary of the reservation for
itself and splits the amount it moves there: the part inside is paid already,
the part beyond is added to or taken off `_total_allocated_bytes`.
-/

namespace CuCascade.Memory

open Utils

/-- `device_reserved_arena`, with the fields of its base `reserved_arena`. -/
structure DeviceReservedArena where
  size : Int64
  allocatedBytes : Int64
  peakAllocatedBytes : Int64
  onExit : Option EventNotifier
deriving DecidableEq, Repr

/-- `device_reserved_arena::get_available_memory`. -/
def DeviceReservedArena.getAvailableMemory (arena : DeviceReservedArena) : UInt64 :=
  if arena.allocatedBytes < arena.size then
    (arena.size - arena.allocatedBytes).toUInt64
  else 0

/-- The scalar members of `reservation_aware_resource_adaptor`. -/
structure Adaptor where
  memoryLimit : UInt64
  capacity : UInt64
  totalReservedBytes : UInt64
  numberOfAllocations : UInt64
  totalAllocatedBytes : UInt64
  peakTotalAllocatedBytes : UInt64
deriving DecidableEq, Repr

/-- `reservation_limit_policy` and its three implementations. The argument of
`increase` is the product with the padding factor, taken in `double` and cast
back to `size_t`. -/
inductive ReservationLimitPolicy where
  | ignore
  | fail
  | increase (padded : UInt64 → UInt64)

inductive OomHandlingPolicy where
  | throwOnOom
deriving DecidableEq, Repr

/-- What the upstream resource answers to an allocation. -/
abbrev UpstreamResult := Except Exception Addr

/-- `std::exception::what`, where the object is one. -/
def Exception.what? : Exception → Option String
  | .outOfMemory what | .cucascadeOutOfMemory what _ _ | .logicError what
  | .runtimeError what | .outOfRange what | .stdException what => some what
  | .other => none

namespace Adaptor

def fresh (memoryLimit capacity : UInt64) : Adaptor :=
  ⟨memoryLimit, capacity, 0, 0, 0, 0⟩

/-- `get_available_memory` without a stream. -/
def getAvailableMemory (mr : Adaptor) : UInt64 :=
  if mr.totalAllocatedBytes < mr.capacity then
    mr.capacity - mr.totalAllocatedBytes
  else 0

def getTotalReservedBytes (mr : Adaptor) : UInt64 := mr.totalReservedBytes

def getActiveReservationCount (mr : Adaptor) : UInt64 := mr.numberOfAllocations

def doReserve (mr : Adaptor) (sizeBytes limitBytes : UInt64) : Bool × Adaptor :=
  match tryAdd mr.totalAllocatedBytes sizeBytes limitBytes with
  | (true, postIncreaseBytes) =>
      (true, { mr with
        totalAllocatedBytes := postIncreaseBytes
        peakTotalAllocatedBytes :=
          updatePeak mr.peakTotalAllocatedBytes postIncreaseBytes
        totalReservedBytes := mr.totalReservedBytes + sizeBytes })
  | (false, _) => (false, mr)

def doReserveUpto (mr : Adaptor) (sizeBytes limitBytes : UInt64) :
    UInt64 × Adaptor :=
  let (sizeBytes, postIncreaseBytes) :=
    addBounded mr.totalAllocatedBytes sizeBytes limitBytes
  if 0 < postIncreaseBytes then
    (sizeBytes, { mr with
      totalAllocatedBytes := postIncreaseBytes
      peakTotalAllocatedBytes :=
        updatePeak mr.peakTotalAllocatedBytes postIncreaseBytes
      totalReservedBytes := mr.totalReservedBytes + sizeBytes })
  else (sizeBytes, { mr with totalAllocatedBytes := postIncreaseBytes })

/-- The constructor of `device_reserved_arena`. -/
def makeArena (bytes : UInt64) (notifier : Option EventNotifier) :
    DeviceReservedArena :=
  ⟨bytes.toInt64, 0, 0, notifier⟩

/-- `reserve`: a null pointer where the reservation does not fit. -/
def reserve (mr : Adaptor) (bytes : UInt64)
    (releaseNotifer : Option EventNotifier) :
    Option DeviceReservedArena × Adaptor :=
  match mr.doReserve bytes mr.memoryLimit with
  | (true, mr) =>
      (some (makeArena bytes releaseNotifer),
        { mr with numberOfAllocations := mr.numberOfAllocations + 1 })
  | (false, mr) => (none, mr)

def reserveUpto (mr : Adaptor) (bytes : UInt64)
    (releaseNotifer : Option EventNotifier) : DeviceReservedArena × Adaptor :=
  let (reservedSize, mr) := mr.doReserveUpto bytes mr.memoryLimit
  (makeArena reservedSize releaseNotifer,
    { mr with numberOfAllocations := mr.numberOfAllocations + 1 })

def growReservationBy (mr : Adaptor) (arena : DeviceReservedArena)
    (bytes : UInt64) : Bool × Adaptor × DeviceReservedArena :=
  match mr.doReserve bytes mr.memoryLimit with
  | (true, mr) => (true, mr, { arena with size := arena.size + bytes.toInt64 })
  | (false, mr) => (false, mr, arena)

def shrinkReservationToFit (mr : Adaptor) (arena : DeviceReservedArena) :
    Adaptor × DeviceReservedArena :=
  let currentBytes := max 0 arena.allocatedBytes
  if currentBytes < arena.size then
    let reclaimedBytes := arena.size - currentBytes
    ({ mr with
        totalAllocatedBytes := mr.totalAllocatedBytes - reclaimedBytes.toUInt64 },
      { arena with size := currentBytes })
  else (mr, arena)

/-- `do_release_reservation`, which the destructor of an arena runs. -/
def doReleaseReservation (mr : Adaptor) (arena : DeviceReservedArena) :
    Adaptor :=
  let allocationSize := arena.allocatedBytes
  let arenaSize := arena.size
  let releasedBytes :=
    if allocationSize < arenaSize then
      (arenaSize - max 0 allocationSize).toUInt64
    else 0
  { mr with
    numberOfAllocations := mr.numberOfAllocations - 1
    totalReservedBytes := mr.totalReservedBytes - (max 0 arenaSize).toUInt64
    totalAllocatedBytes := mr.totalAllocatedBytes - releasedBytes }

end Adaptor

/-- The branch of `handle_over_reservation` the increase policy takes when it
is given an arena: grow by the padded amount, else by what is needed. -/
def increaseReservation (padded : UInt64 → UInt64) (mr : Adaptor)
    (arena : DeviceReservedArena) (requestedBytes currentAllocated : UInt64) :
    Result (Adaptor × DeviceReservedArena) Unit :=
  let postAllocationSize := currentAllocated + requestedBytes
  let currentReserved := (max 0 arena.size).toUInt64
  let extraSpaceNeeded := postAllocationSize - currentReserved
  match mr.growReservationBy arena (padded extraSpaceNeeded) with
  | (true, mr, arena) => ((mr, arena), .ok ())
  | (false, mr, arena) =>
      match mr.growReservationBy arena extraSpaceNeeded with
      | (true, mr, arena) => ((mr, arena), .ok ())
      | (false, mr, arena) =>
          let size := arena.size.toInt
          ((mr, arena), .error (.thrown (.outOfMemory
            s!"Failed to increase stream reservation from {size} to {extraSpaceNeeded} bytes")))

/-- `handle_over_reservation`, for an arena pointer that is not null. -/
def ReservationLimitPolicy.handleOverReservation (policy : ReservationLimitPolicy)
    (mr : Adaptor) (requestedBytes currentAllocated : UInt64)
    (arena : DeviceReservedArena) :
    Result (Adaptor × DeviceReservedArena) Unit :=
  match policy with
  | .ignore => ((mr, arena), .ok ())
  | .fail =>
      let reservationSize := (max 0 arena.size).toUInt64
      ((mr, arena), .error (.thrown (.outOfMemory
        s!"Allocation of {requestedBytes} bytes would exceed stream reservation of {reservationSize} bytes (current: {currentAllocated} bytes)")))
  | .increase padded =>
      increaseReservation padded mr arena requestedBytes currentAllocated

/-- The end of `check_reservation_and_handle_overflow`: how much of an
allocation that took the arena to `postAllocationInc` the total has to carry. -/
def upstreamTrackingSize (allocationSize : UInt64)
    (reservationSize postAllocationInc : Int64) : UInt64 :=
  let preAllocationInc := postAllocationInc - allocationSize.toInt64
  if postAllocationInc < reservationSize then 0
  else if preAllocationInc < reservationSize then
    (postAllocationInc - reservationSize).toUInt64
  else allocationSize

/-- An arena whose `allocated_bytes` has just become `postAllocationInc`. -/
def DeviceReservedArena.tracked (arena : DeviceReservedArena)
    (postAllocationInc : Int64) : DeviceReservedArena :=
  { arena with
    allocatedBytes := postAllocationInc
    peakAllocatedBytes := updatePeak arena.peakAllocatedBytes postAllocationInc }

namespace Adaptor

/-- `stream_ordered_tracker_state::check_reservation_and_handle_overflow`. The
size of the reservation is read before the policy may change it. -/
def checkReservationAndHandleOverflow (mr : Adaptor)
    (arena : DeviceReservedArena) (policy : Option ReservationLimitPolicy)
    (allocationSize : UInt64) : Result (Adaptor × DeviceReservedArena) UInt64 :=
  let streamTrackingSize := allocationSize.toInt64
  let reservationSize := arena.size
  match tryAdd arena.allocatedBytes streamTrackingSize reservationSize with
  | (true, postAllocationInc) =>
      ((mr, arena.tracked postAllocationInc),
        .ok (upstreamTrackingSize allocationSize reservationSize postAllocationInc))
  | (false, currentAllocated) =>
      let handled := match policy with
        | some policy => policy.handleOverReservation mr allocationSize
            currentAllocated.toUInt64 arena
        | none => ((mr, arena), .ok ())
      match handled with
      | ((mr, arena), .error e) => ((mr, arena), .error e)
      | ((mr, arena), .ok ()) =>
          let postAllocationInc := arena.allocatedBytes + streamTrackingSize
          ((mr, arena.tracked postAllocationInc),
            .ok (upstreamTrackingSize allocationSize reservationSize
              postAllocationInc))

/-- `do_allocate_unmanaged`. Only a `std::exception` gives the bytes back. -/
def doAllocateUnmanaged (mr : Adaptor) (allocationBytes trackingBytes : UInt64)
    (upstream : UpstreamResult) : Adaptor × Except Exception Addr :=
  match tryAdd mr.totalAllocatedBytes trackingBytes mr.capacity with
  | (true, postAllocationSize) =>
      let mr := { mr with
        totalAllocatedBytes := postAllocationSize
        peakTotalAllocatedBytes :=
          updatePeak mr.peakTotalAllocatedBytes postAllocationSize }
      match upstream with
      | .ok ptr => (mr, .ok ptr)
      | .error e =>
          match e.what? with
          | some what =>
              ({ mr with
                  totalAllocatedBytes := mr.totalAllocatedBytes - trackingBytes },
                .error (.cucascadeOutOfMemory what allocationBytes
                  postAllocationSize))
          | none => (mr, .error e)
  | (false, postAllocationSize) =>
      (mr, .error (.cucascadeOutOfMemory
        "not enough capacity to allocate memory" allocationBytes
        postAllocationSize))

/-- `handle_oom` of the policy, given the exception of the first attempt. -/
def handleOom (mr : Adaptor) (policy : OomHandlingPolicy) (eptr : Exception) :
    Adaptor × Except Exception Addr :=
  match policy with
  | .throwOnOom => (mr, .error eptr)

/-- `do_allocate_managed` without a tracker state. -/
def doAllocateManaged (mr : Adaptor) (defaultOomPolicy : OomHandlingPolicy)
    (bytes : UInt64) (upstream : UpstreamResult) : Result Adaptor Addr :=
  let trackingSize := round256 bytes
  match mr.doAllocateUnmanaged bytes trackingSize upstream with
  | (mr, .ok ptr) => (mr, .ok ptr)
  | (mr, .error e) =>
      match mr.handleOom defaultOomPolicy e with
      | (mr, .ok ptr) => (mr, .ok ptr)
      | (mr, .error e) => (mr, .error (.thrown e))

/-- `do_allocate_managed` with the tracker state of a stream. -/
def doAllocateTracked (mr : Adaptor) (arena : DeviceReservedArena)
    (policy : Option ReservationLimitPolicy) (oomPolicy : OomHandlingPolicy)
    (bytes : UInt64) (upstream : UpstreamResult) :
    Result (Adaptor × DeviceReservedArena) Addr :=
  let paddedBytes := round256 bytes
  match mr.checkReservationAndHandleOverflow arena policy paddedBytes with
  | ((mr, arena), .error e) => ((mr, arena), .error e)
  | ((mr, arena), .ok trackingSize) =>
      match mr.doAllocateUnmanaged bytes trackingSize upstream with
      | (mr, .ok ptr) => ((mr, arena), .ok ptr)
      | (mr, .error e) =>
          match mr.handleOom oomPolicy e with
          | (mr, .ok ptr) => ((mr, arena), .ok ptr)
          | (mr, .error e) =>
              ((mr, { arena with allocatedBytes :=
                  arena.allocatedBytes - paddedBytes.toInt64 }),
                .error (.thrown e))

/-- What `do_deallocate` takes off the total for a block of `trackingBytes`
whose arena it has just brought down to `postDeallocationSize`. -/
def upstreamReclaimedBytes (trackingBytes : UInt64)
    (reservationSize postDeallocationSize : Int64) : UInt64 :=
  let preDeallocationSize := postDeallocationSize + trackingBytes.toInt64
  if preDeallocationSize ≤ reservationSize then 0
  else if postDeallocationSize < reservationSize then
    (reservationSize - postDeallocationSize).toUInt64
  else trackingBytes

/-- `do_deallocate` on a stream without a tracker state. -/
def doDeallocate (mr : Adaptor) (bytes : UInt64) : Adaptor :=
  { mr with totalAllocatedBytes := mr.totalAllocatedBytes - round256 bytes }

/-- `do_deallocate` on a stream with one. -/
def doDeallocateTracked (mr : Adaptor) (arena : DeviceReservedArena)
    (bytes : UInt64) : Adaptor × DeviceReservedArena :=
  let trackingBytes := round256 bytes
  let postDeallocationSize := arena.allocatedBytes - trackingBytes.toInt64
  ({ mr with totalAllocatedBytes := mr.totalAllocatedBytes -
      upstreamReclaimedBytes trackingBytes arena.size postDeallocationSize },
    { arena with allocatedBytes := postDeallocationSize })

end Adaptor

end CuCascade.Memory

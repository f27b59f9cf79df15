import CuCascade.Lib.Table
import CuCascade.Memory.ResourceAdaptor

/-!
# `reservation_aware_resource_adaptor`: arenas and trackers

The limiter with its heap. An arena is an object at an address: whoever holds
the reservation may destroy it or hand it to the tracker of a stream, and from
then on it dies with that tracker. A null pointer is an address no arena lives
at, and a call through one fails as such.

The tracking scope is the per-stream one. Each function takes from its
environment what it does not decide itself: the address a new arena gets, and
what the upstream resource answers.
-/

namespace CuCascade.Memory

/-- `stream_ordered_tracker_state`. -/
structure StreamOrderedTrackerState where
  memoryReservation : Addr
  reservationPolicy : Option ReservationLimitPolicy
  oomPolicy : OomHandlingPolicy

structure GpuResource where
  mr : Adaptor
  defaultOomPolicy : OomHandlingPolicy
  streamStatsMap : Table Stream StreamOrderedTrackerState
  arenas : Table Addr DeviceReservedArena

def makeDefaultReservationLimitPolicy : ReservationLimitPolicy := .ignore

def makeDefaultOomPolicy : OomHandlingPolicy := .throwOnOom

namespace GpuResource

def fresh (memoryLimit capacity : UInt64) : GpuResource :=
  ⟨.fresh memoryLimit capacity, makeDefaultOomPolicy, ∅, ∅⟩

/-- `reserve`, with `self` the address of the arena if one is made. -/
def reserve (r : GpuResource) (self : Addr) (bytes : UInt64)
    (releaseNotifer : Option EventNotifier) : Option Addr × GpuResource :=
  match r.mr.reserve bytes releaseNotifer with
  | (some arena, mr) =>
      (some self, { r with mr := mr, arenas := r.arenas.insert self arena })
  | (none, mr) => (none, { r with mr := mr })

def reserveUpto (r : GpuResource) (self : Addr) (bytes : UInt64)
    (releaseNotifer : Option EventNotifier) : Addr × GpuResource :=
  let (arena, mr) := r.mr.reserveUpto bytes releaseNotifer
  (self, { r with mr := mr, arenas := r.arenas.insert self arena })

/-- `~device_reserved_arena` for the object at `p`: the adaptor without it, and
the notifier that its base still has to run. -/
def destroyArena (r : GpuResource) (p : Addr) :
    GpuResource × Option EventNotifier :=
  match r.arenas.lookup p with
  | some arena =>
      ({ r with
          mr := r.mr.doReleaseReservation arena
          arenas := r.arenas.erase p }, arena.onExit)
  | none => (r, none)

/-- `attach_reservation_to_tracker`. A reservation that is not taken over dies
with the argument that brought it. -/
def attachReservationToTracker (r : GpuResource) (stream : Stream)
    (reserved : Addr) (streamReservationPolicy : Option ReservationLimitPolicy)
    (streamOomPolicy : Option OomHandlingPolicy) : Bool × GpuResource :=
  match r.streamStatsMap.lookup stream with
  | some _ => (false, (r.destroyArena reserved).1)
  | none =>
      let state : StreamOrderedTrackerState := {
        memoryReservation := reserved
        reservationPolicy :=
          some (streamReservationPolicy.getD makeDefaultReservationLimitPolicy)
        oomPolicy := streamOomPolicy.getD makeDefaultOomPolicy }
      (true, { r with streamStatsMap := r.streamStatsMap.insert stream state })

/-- `get_available_memory` of a stream. -/
def getAvailableMemory (r : GpuResource) (stream : Stream) :
    Except Failure UInt64 :=
  let upstreamAvailableMemory := r.mr.getAvailableMemory
  match r.streamStatsMap.lookup stream with
  | none => .ok upstreamAvailableMemory
  | some state =>
      match r.arenas.lookup state.memoryReservation with
      | none => .error .nullDereference
      | some arena => .ok (upstreamAvailableMemory + arena.getAvailableMemory)

/-- `reset_stream_reservation`. -/
def resetStreamReservation (r : GpuResource) (stream : Stream) : GpuResource :=
  match r.streamStatsMap.lookup stream with
  | none => r
  | some state =>
      let (r, _) := r.destroyArena state.memoryReservation
      { r with streamStatsMap := r.streamStatsMap.erase stream }

/-- `do_allocate`. -/
def doAllocate (r : GpuResource) (bytes : UInt64) (stream : Stream)
    (upstream : UpstreamResult) : Result GpuResource Addr :=
  match r.streamStatsMap.lookup stream with
  | none =>
      let (mr, ptr) := r.mr.doAllocateManaged r.defaultOomPolicy bytes upstream
      ({ r with mr := mr }, ptr)
  | some state =>
      match r.arenas.lookup state.memoryReservation with
      | none => (r, .error .nullDereference)
      | some arena =>
          let ((mr, arena), ptr) := r.mr.doAllocateTracked arena
            state.reservationPolicy state.oomPolicy bytes upstream
          ({ r with
              mr := mr
              arenas := r.arenas.insert state.memoryReservation arena }, ptr)

/-- `do_deallocate`. The pointer only goes to the upstream resource. -/
def doDeallocate (r : GpuResource) (bytes : UInt64) (stream : Stream) :
    Result GpuResource Unit :=
  match r.streamStatsMap.lookup stream with
  | none => ({ r with mr := r.mr.doDeallocate bytes }, .ok ())
  | some state =>
      match r.arenas.lookup state.memoryReservation with
      | none => (r, .error .nullDereference)
      | some arena =>
          let (mr, arena) := r.mr.doDeallocateTracked arena bytes
          ({ r with
              mr := mr
              arenas := r.arenas.insert state.memoryReservation arena }, .ok ())

/-- `device_reserved_arena::grow_by` on the object at `p`. -/
def growBy (r : GpuResource) (p : Addr) (additionalBytes : UInt64) :
    Result GpuResource Bool :=
  match r.arenas.lookup p with
  | none => (r, .error .nullDereference)
  | some arena =>
      let (grown, mr, arena) := r.mr.growReservationBy arena additionalBytes
      ({ r with mr := mr, arenas := r.arenas.insert p arena }, .ok grown)

/-- `device_reserved_arena::shrink_to_fit` on the object at `p`. -/
def shrinkToFit (r : GpuResource) (p : Addr) : Result GpuResource Unit :=
  match r.arenas.lookup p with
  | none => (r, .error .nullDereference)
  | some arena =>
      let (mr, arena) := r.mr.shrinkReservationToFit arena
      ({ r with mr := mr, arenas := r.arenas.insert p arena }, .ok ())

end GpuResource

end CuCascade.Memory

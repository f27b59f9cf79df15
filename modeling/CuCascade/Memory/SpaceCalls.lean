import CuCascade.Lib.Machine
import CuCascade.Memory.ManagerConstruction

/-!
# A space and what its users hear of

Every call that can be made on a space or on its limiter, and the posts on the
channel of the space that it makes. A post is logged with what the limiter shows
as allocated at that moment, so that one can ask whether the bytes were back by
then.

The only place that posts is the destructor of `notify_on_exit`, a member of the
base class of every arena. It runs after the body of the destructor of the arena
itself, and that is where the bytes are returned.
-/

namespace CuCascade.Memory

inductive SpaceCall where
  | makeReservationOrNull (arena : Addr) (size : UInt64)
  | makeReservationUpto (arena : Addr) (size : UInt64)
  /-- `~reservation` of the reservation that owns the arena -/
  | destroyReservation (arena : Addr)
  | growBy (arena : Addr) (additionalBytes : UInt64)
  | shrinkToFit (arena : Addr)
  | attachReservationToTracker (stream : Stream) (arena : Addr)
      (policy : Option ReservationLimitPolicy) (oomPolicy : Option OomHandlingPolicy)
  | resetStreamReservation (stream : Stream)
  | allocate (bytes : UInt64) (stream : Stream) (upstream : UpstreamResult)
  | deallocate (bytes : UInt64) (stream : Stream)
  | allocateMultipleBlocks (totalBytes : UInt64) (res : Option (Option Addr))
      (upstream : Nat → UInt64 → Except Exception Addr)
  /-- `~multiple_blocks_allocation` -/
  | destroyAllocation (a : MultipleBlocksAllocation)
  /-- a look of a waiting thread at the channel -/
  | pollWait
  | shutdown

namespace MemorySpace

/-- What the limiter of the space shows as allocated. -/
def allocated (s : MemorySpace) : UInt64 := s.reservationAllocator.totalAllocatedBytes

/-- The destructor of `_on_exit`, with the post it makes. -/
def exitArena (s : MemorySpace) : Option EventNotifier → MemorySpace × List UInt64
  | none => (s, [])
  | some _ =>
      ({ s with notificationChannel := s.notificationChannel.notifyOnExit }, [s.allocated])

/-- The destructor of the arena at `p`: its own body, and then the members of its
base. -/
def endArena (s : MemorySpace) (p : Addr) : MemorySpace × List UInt64 :=
  match s.reservationAllocator.destroyArena p with
  | (mr, .error _) => ({ s with reservationAllocator := mr }, [])
  | (mr, .ok onExit) => exitArena { s with reservationAllocator := mr } onExit

/-- `attach_reservation_to_tracker`; a reservation that the tracker does not take is
destroyed with its arena. -/
def attachReservationToTracker (s : MemorySpace) (mr : GpuResource) (stream : Stream)
    (p : Addr) (policy : Option ReservationLimitPolicy)
    (oomPolicy : Option OomHandlingPolicy) : MemorySpace × List UInt64 :=
  match mr.streamStatsMap.lookup stream with
  | some _ => s.endArena p
  | none =>
      let (_, mr) := mr.attachReservationToTracker stream p policy oomPolicy
      ({ s with reservationAllocator := .gpu mr }, [])

/-- `reset_stream_reservation`; the tracker state owns its arena. -/
def resetStreamReservation (s : MemorySpace) (mr : GpuResource) (stream : Stream) :
    MemorySpace × List UInt64 :=
  match mr.streamStatsMap.lookup stream with
  | none => (s, [])
  | some state =>
      let mr := { mr with streamStatsMap := mr.streamStatsMap.erase stream }
      endArena { s with reservationAllocator := .gpu mr } state.memoryReservation

/-- A call on the space at `this`, and the posts it makes. A call that is made for a
limiter of another kind does nothing. -/
def call (ndebug : Bool) (this : Nat) (s : MemorySpace) :
    SpaceCall → MemorySpace × List UInt64
  | .makeReservationOrNull arena size =>
      ((s.makeReservationOrNull ndebug this arena size).1, [])
  | .makeReservationUpto arena size =>
      ((s.makeReservationUpto ndebug this arena size).1, [])
  | .destroyReservation arena => s.endArena arena
  | .growBy arena additionalBytes =>
      let mr := (s.reservationAllocator.growBy arena additionalBytes).1
      ({ s with reservationAllocator := mr }, [])
  | .shrinkToFit arena =>
      let mr := (s.reservationAllocator.shrinkToFit arena).1
      ({ s with reservationAllocator := mr }, [])
  | .attachReservationToTracker stream arena policy oomPolicy =>
      match s.reservationAllocator with
      | .gpu mr => s.attachReservationToTracker mr stream arena policy oomPolicy
      | .host _ | .disk _ => (s, [])
  | .resetStreamReservation stream =>
      match s.reservationAllocator with
      | .gpu mr => s.resetStreamReservation mr stream
      | .host _ | .disk _ => (s, [])
  | .allocate bytes stream upstream =>
      match s.reservationAllocator with
      | .gpu mr =>
          let mr := (mr.doAllocate bytes stream upstream).1
          ({ s with reservationAllocator := .gpu mr }, [])
      | .host _ | .disk _ => (s, [])
  | .deallocate bytes stream =>
      match s.reservationAllocator with
      | .gpu mr =>
          let mr := (mr.doDeallocate bytes stream).1
          ({ s with reservationAllocator := .gpu mr }, [])
      | .host _ | .disk _ => (s, [])
  | .allocateMultipleBlocks totalBytes res upstream =>
      match s.reservationAllocator with
      | .host mr =>
          let mr := (mr.allocateMultipleBlocks totalBytes res upstream).1
          ({ s with reservationAllocator := .host mr }, [])
      | .gpu _ | .disk _ => (s, [])
  | .destroyAllocation a =>
      match s.reservationAllocator with
      | .host mr =>
          let mr := (mr.destroyAllocation a).1
          ({ s with reservationAllocator := .host mr }, [])
      | .gpu _ | .disk _ => (s, [])
  | .pollWait =>
      ({ s with notificationChannel := s.notificationChannel.pollWait.1 }, [])
  | .shutdown =>
      ({ s with notificationChannel := s.notificationChannel.shutdown }, [])

/-- Any space that a manager makes, and any calls on it. -/
def machine {M : Type} (parts : SpaceParts M) (ndebug : Bool) (this : Nat) :
    Machine MemorySpace SpaceCall where
  start s := ∃ config made, MemorySpaceConfig.makeSpace parts config = .ok made ∧
    s = made.toMemorySpace
  legal _ _ := True
  next s c := (s.call ndebug this c).1

end MemorySpace

/-- The calls that may return bytes: the end of an arena, a shrink, and the end of an
allocation. -/
def SpaceCall.Returns : SpaceCall → Prop
  | .destroyReservation _ | .shrinkToFit _ | .attachReservationToTracker _ _ _ _
  | .resetStreamReservation _ | .deallocate _ _ | .destroyAllocation _ => True
  | .makeReservationOrNull _ _ | .makeReservationUpto _ _ | .growBy _ _
  | .allocate _ _ _ | .allocateMultipleBlocks _ _ _ | .pollWait | .shutdown => False

end CuCascade.Memory

import CuCascade.Memory.DiskLimiter
import CuCascade.Memory.GpuResource
import CuCascade.Memory.HostResource

/-!
# `memory_space` and `reservation`

A space owns one of three limiters and the channel its reservations announce
their end on. `reserved_arena` is the interface the limiters share: an arena is
reached through the limiter it lives in, by its address.

A reservation is a pointer to a space and a pointer to an arena that it owns.
Its constructor asserts that there is an arena. Whether the assertion is
compiled in is up to the build, `ndebug` says that it is not; then a
reservation comes to exist without one, and each of its methods reads through a
null pointer.
-/

namespace CuCascade.Memory

/-- `reserving_adaptor_type`: the limiter of a space. -/
inductive ReservingAdaptor where
  | gpu (mr : GpuResource)
  | host (mr : HostResource)
  | disk (mr : DiskAccessLimiter)

/-- A space; its channel goes by the address of the space. -/
structure MemorySpace where
  id : MemorySpaceId
  reservationAllocator : ReservingAdaptor
  notificationChannel : NotificationChannel

/-- `reservation`: the position of its space, and its arena or a null
pointer. -/
structure Reservation where
  space : Nat
  arena : Option Addr
deriving DecidableEq, Repr

namespace ReservingAdaptor

def reserve (self : Addr) (bytes : UInt64) (notifier : Option EventNotifier) :
    ReservingAdaptor → Option Addr × ReservingAdaptor
  | .gpu mr => let (arena, mr) := mr.reserve self bytes notifier; (arena, .gpu mr)
  | .host mr => let (arena, mr) := mr.reserve self bytes notifier; (arena, .host mr)
  | .disk mr => let (arena, mr) := mr.reserve self bytes notifier; (arena, .disk mr)

def reserveUpto (self : Addr) (bytes : UInt64)
    (notifier : Option EventNotifier) :
    ReservingAdaptor → Addr × ReservingAdaptor
  | .gpu mr => let (arena, mr) := mr.reserveUpto self bytes notifier; (arena, .gpu mr)
  | .host mr =>
      let (arena, mr) := mr.reserveUpto self bytes notifier; (arena, .host mr)
  | .disk mr =>
      let (arena, mr) := mr.reserveUpto self bytes notifier; (arena, .disk mr)

/-- The counter a reservation is charged to. -/
def totalAllocatedBytes : ReservingAdaptor → UInt64
  | .gpu mr => mr.mr.totalAllocatedBytes
  | .host mr => mr.allocatedBytes
  | .disk mr => mr.totalAllocatedBytes

/-- The size of the arena at `p`. -/
def arenaSize (p : Addr) : ReservingAdaptor → Option Int64
  | .gpu mr => (mr.arenas.lookup p).map (·.size)
  | .host mr => (mr.arenas.lookup p).map (·.size)
  | .disk mr => (mr.arenas.lookup p).map (·.size)

/-- `grow_by` of the arena at `p`. A disk arena does not grow. -/
def growBy (p : Addr) (additionalBytes : UInt64) :
    ReservingAdaptor → Result ReservingAdaptor Bool
  | .gpu mr => let (mr, grown) := mr.growBy p additionalBytes; (.gpu mr, grown)
  | .host mr => let (mr, grown) := mr.growBy p additionalBytes; (.host mr, grown)
  | .disk mr =>
      match mr.arenas.lookup p with
      | none => (.disk mr, .error .nullDereference)
      | some _ => (.disk mr, .ok false)

/-- `shrink_to_fit` of the arena at `p`. A disk arena does not shrink. -/
def shrinkToFit (p : Addr) : ReservingAdaptor → Result ReservingAdaptor Unit
  | .gpu mr => let (mr, done) := mr.shrinkToFit p; (.gpu mr, done)
  | .host mr => let (mr, done) := mr.shrinkToFit p; (.host mr, done)
  | .disk mr =>
      match mr.arenas.lookup p with
      | none => (.disk mr, .error .nullDereference)
      | some _ => (.disk mr, .ok ())

/-- The destructor of the arena at `p`, and the notifier it leaves to be
run. -/
def destroyArena (p : Addr) :
    ReservingAdaptor → Result ReservingAdaptor (Option EventNotifier)
  | .gpu mr => let (mr, onExit) := mr.destroyArena p; (.gpu mr, .ok onExit)
  | .host mr => let (mr, onExit) := mr.destroyArena p; (.host mr, onExit)
  | .disk mr => let (mr, onExit) := mr.destroyArena p; (.disk mr, .ok onExit)

end ReservingAdaptor

namespace Reservation

/-- `reservation::create` and the constructor behind it. -/
def create (ndebug : Bool) (space : Nat) (arena : Option Addr) :
    Except Failure Reservation :=
  if arena.isNone && !ndebug then
    .error (.assertion
      "_arena != nullptr && \"Release callback must be provided\"")
  else .ok ⟨space, arena⟩

/-- `size`, in the space `s` of the reservation. -/
def size (res : Reservation) (s : MemorySpace) : Except Failure UInt64 :=
  match res.arena.bind fun p => s.reservationAllocator.arenaSize p with
  | none => .error .nullDereference
  | some size => .ok (max 0 size).toUInt64

def growBy (res : Reservation) (s : MemorySpace) (additionalBytes : UInt64) :
    Result MemorySpace Bool :=
  match res.arena with
  | none => (s, .error .nullDereference)
  | some p =>
      let (mr, grown) := s.reservationAllocator.growBy p additionalBytes
      ({ s with reservationAllocator := mr }, grown)

def shrinkToFit (res : Reservation) (s : MemorySpace) : Result MemorySpace Unit :=
  match res.arena with
  | none => (s, .error .nullDereference)
  | some p =>
      let (mr, done) := s.reservationAllocator.shrinkToFit p
      ({ s with reservationAllocator := mr }, done)

/-- `~reservation`: the arena is destroyed and posts its end. -/
def destroy (res : Reservation) (s : MemorySpace) : Result MemorySpace Unit :=
  match res.arena with
  | none => (s, .ok ())
  | some p =>
      match s.reservationAllocator.destroyArena p with
      | (mr, .error e) => ({ s with reservationAllocator := mr }, .error e)
      | (mr, .ok onExit) =>
          ({ s with
              reservationAllocator := mr
              notificationChannel :=
                if onExit.isSome then s.notificationChannel.notifyOnExit
                else s.notificationChannel }, .ok ())

end Reservation

namespace MemorySpace

/-- `make_reservation_or_null` on the space at `this`, with `self` the address
of the arena if one is made. A notifier that no arena takes is destroyed. -/
def makeReservationOrNull (s : MemorySpace) (ndebug : Bool) (this : Nat)
    (self : Addr) (size : UInt64) : Result MemorySpace (Option Reservation) :=
  let (notifier, channel) := s.notificationChannel.getNotifier this
  let (arena, mr) := s.reservationAllocator.reserve self size (some notifier)
  let s := { s with
    reservationAllocator := mr
    notificationChannel :=
      if arena.isNone then channel.releaseNotifier else channel }
  (s, (Reservation.create ndebug this arena).map some)

/-- `make_reservation_upto` on the space at `this`. -/
def makeReservationUpto (s : MemorySpace) (ndebug : Bool) (this : Nat)
    (self : Addr) (size : UInt64) : Result MemorySpace (Option Reservation) :=
  let (notifier, channel) := s.notificationChannel.getNotifier this
  let (arena, mr) := s.reservationAllocator.reserveUpto self size (some notifier)
  let s := { s with reservationAllocator := mr, notificationChannel := channel }
  (s, (Reservation.create ndebug this (some arena)).map some)

end MemorySpace

end CuCascade.Memory

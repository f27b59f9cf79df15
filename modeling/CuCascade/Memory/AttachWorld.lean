import CuCascade.Memory.DiskLimiter
import CuCascade.Memory.HostResource
import CuCascade.Memory.ThreadWorld

/-!
# Attaching a reservation of any limiter

`attach_reservation_to_tracker` takes a reservation of whatever limiter, releases
its arena, casts the pointer to a device arena and installs what the cast gives.
An arena is reached through the limiter that granted it, so a pointer is given
with that limiter, and the type of the object is what the limiter grants.

The call asks the tracker twice, and other threads may come between. What it
found at first is an argument here, and the world is the one it meets at the
second time.
-/

namespace CuCascade.Memory

/-- The limiters of the program, those of the device tier by their own names. -/
inductive Granter (I : Type) where
  | device (i : I)
  | host (j : Nat)
  | disk (k : Nat)
deriving DecidableEq

/-- A pointer to a `reserved_arena`. -/
structure ArenaPtr (I : Type) where
  granter : Granter I
  address : Addr
deriving DecidableEq

/-- `stream_ordered_tracker_state`, whose arena may be null. -/
structure AttachedState (I : Type) where
  memoryReservation : Option (ArenaPtr I)
  reservationPolicy : Option ReservationLimitPolicy
  oomPolicy : OomHandlingPolicy

/-- The limiters with their arenas, the map of each per-stream tracker, and the
`thread_reservation_state` of each thread. The maps inside the adaptors are not
used. -/
structure AttachWorld (I : Type) where
  adaptors : I → GpuResource
  hostResources : Nat → HostResource
  diskLimiters : Nat → DiskAccessLimiter
  scope : I → AllocationTrackingScope
  streamStatsMap : I → Table Stream (AttachedState I)
  threadReservationState : Table Nat (AttachedState I)

namespace AttachWorld

variable {I : Type} [DecidableEq I]

/-- The destructor of the arena at a pointer. -/
def destroyArena (w : AttachWorld I) (p : ArenaPtr I) : AttachWorld I :=
  match p.granter with
  | .device i =>
      let (r, _) := (w.adaptors i).destroyArena p.address
      { w with adaptors := Function.update w.adaptors i r }
  | .host j =>
      let (r, _) := (w.hostResources j).destroyArena p.address
      { w with hostResources := Function.update w.hostResources j r }
  | .disk k =>
      let (r, _) := (w.diskLimiters k).destroyArena p.address
      { w with diskLimiters := Function.update w.diskLimiters k r }

/-- The destructor of a `unique_ptr` to an arena. -/
def dropArena (w : AttachWorld I) : Option (ArenaPtr I) → AttachWorld I
  | none => w
  | some p => w.destroyArena p

omit [DecidableEq I] in
/-- `dynamic_cast<device_reserved_arena*>`. -/
def castToDevice (arena : Option (ArenaPtr I)) : Option (ArenaPtr I) :=
  arena.filter fun p =>
    match p.granter with
    | .device _ => true
    | .host _ | .disk _ => false

omit [DecidableEq I] in
/-- `get_tracker_state` of the adaptor `i`, called by a thread. -/
def getTrackerState (w : AttachWorld I) (i : I) (thread : Nat) (stream : Stream) :
    Option (AttachedState I) :=
  match w.scope i with
  | .PER_STREAM => (w.streamStatsMap i).lookup stream
  | .PER_THREAD => w.threadReservationState.lookup thread

/-- `assign_reservation_to_tracker`. An exception destroys the arena of the
argument. -/
def assignReservationToTracker (w : AttachWorld I) (i : I) (thread : Nat)
    (stream : Stream) (state : AttachedState I) : Result (AttachWorld I) Unit :=
  match w.scope i with
  | .PER_STREAM =>
      match (w.streamStatsMap i).lookup stream with
      | some _ => (w.dropArena state.memoryReservation, .error (.thrown (.logicError
          "Stream already has reservation state set")))
      | none =>
          let map := (w.streamStatsMap i).insert stream state
          ({ w with streamStatsMap := Function.update w.streamStatsMap i map }, .ok ())
  | .PER_THREAD =>
      match w.threadReservationState.lookup thread with
      | some _ => (w.dropArena state.memoryReservation, .error (.thrown (.logicError
          "Thread already has reservation state set")))
      | none =>
          let map := w.threadReservationState.insert thread state
          ({ w with threadReservationState := map }, .ok ())

/-- `attach_reservation_to_tracker` of the adaptor `i`, for a reservation with
this arena; `stats` says whether the call found a tracker state when it began.
With the per-thread scope that is always up to date. -/
def attachReservationToTracker (w : AttachWorld I) (stats : Bool) (i : I)
    (thread : Nat) (stream : Stream) (reserved : Option (ArenaPtr I))
    (streamReservationPolicy : Option ReservationLimitPolicy)
    (streamOomPolicy : Option OomHandlingPolicy) : Result (AttachWorld I) Bool :=
  if stats then (w.dropArena reserved, .ok false)
  else
    match w.assignReservationToTracker i thread stream {
        memoryReservation := castToDevice reserved
        reservationPolicy :=
          some (streamReservationPolicy.getD makeDefaultReservationLimitPolicy)
        oomPolicy := streamOomPolicy.getD makeDefaultOomPolicy } with
    | (w, .ok ()) => (w, .ok true)
    | (w, .error e) => (w, .error e)

/-- The arena at a pointer exists, and a host resource has it registered. -/
def Live (w : AttachWorld I) (p : ArenaPtr I) : Prop :=
  match p.granter with
  | .device i => p.address ∈ (w.adaptors i).arenas
  | .host j => p.address ∈ (w.hostResources j).arenas ∧
      p.address ∈ (w.hostResources j).activeReservations
  | .disk k => p.address ∈ (w.diskLimiters k).arenas

/-- A state that is installed in the tracker of the adaptor `i`. -/
def Installed (w : AttachWorld I) (i : I) (state : AttachedState I) : Prop :=
  ∃ thread stream, w.getTrackerState i thread stream = some state

end AttachWorld

end CuCascade.Memory

import CuCascade.Lib.Isolation
import CuCascade.Memory.GpuResource

/-!
# The adaptors that one thread uses

Any number of `reservation_aware_resource_adaptor`s, each with one of the two
tracking scopes, and the calls of a single thread on them. A tracker of the
per-stream scope is a map that belongs to its adaptor. The tracker of the
per-thread scope has no members: `thread_reservation_state` is a static
`thread_local`, one for the thread and all adaptors.

A tracker state has a pointer to its arena, and an arena belongs to the adaptor
that granted it. So a state is given here with that adaptor.
-/

namespace CuCascade.Memory

inductive AllocationTrackingScope where
  | PER_STREAM | PER_THREAD
deriving DecidableEq, Repr

structure ThreadWorld (I : Type) where
  scope : I → AllocationTrackingScope
  adaptors : I → GpuResource
  threadReservationState : Option (I × StreamOrderedTrackerState)

inductive ThreadCall where
  /-- a reservation is made, with its arena at `self` -/
  | reserve (self : Addr) (bytes : UInt64)
  | attach (stream : Stream) (reserved : Addr)
      (policy : Option ReservationLimitPolicy) (oomPolicy : Option OomHandlingPolicy)
  | allocate (bytes : UInt64) (stream : Stream) (upstream : UpstreamResult)
  | deallocate (bytes : UInt64) (stream : Stream)
  | getAvailableMemory (stream : Stream)
  | resetStreamReservation (stream : Stream)

inductive ThreadAnswer where
  | reserved (p : Option Addr)
  | attached (done : Bool)
  | allocated (ptr : Except Failure Addr)
  | deallocated (result : Except Failure Unit)
  | available (bytes : Except Failure UInt64)
  | done

namespace ThreadWorld

variable {I : Type} [DecidableEq I]

/-- The adaptor `i` changes. -/
def put (w : ThreadWorld I) (i : I) (r : GpuResource) : ThreadWorld I :=
  { w with adaptors := Function.update w.adaptors i r }

/-- `get_tracker_state`, of the tracker that the scope of `i` calls for. -/
def getTrackerState (w : ThreadWorld I) (i : I) (stream : Stream) :
    Option (I × StreamOrderedTrackerState) :=
  match w.scope i with
  | .PER_STREAM => ((w.adaptors i).streamStatsMap.lookup stream).map (i, ·)
  | .PER_THREAD => w.threadReservationState

/-- `assign_reservation_to_tracker`, where there is no state yet. -/
def assignReservationToTracker (w : ThreadWorld I) (i : I) (stream : Stream)
    (state : StreamOrderedTrackerState) : ThreadWorld I :=
  match w.scope i with
  | .PER_STREAM =>
      w.put i { w.adaptors i with
        streamStatsMap := (w.adaptors i).streamStatsMap.insert stream state }
  | .PER_THREAD => { w with threadReservationState := some (i, state) }

def attachReservationToTracker (w : ThreadWorld I) (i : I) (stream : Stream)
    (reserved : Addr) (streamReservationPolicy : Option ReservationLimitPolicy)
    (streamOomPolicy : Option OomHandlingPolicy) : Bool × ThreadWorld I :=
  match w.getTrackerState i stream with
  | some _ => (false, w.put i ((w.adaptors i).destroyArena reserved).1)
  | none =>
      (true, w.assignReservationToTracker i stream {
        memoryReservation := reserved
        reservationPolicy :=
          some (streamReservationPolicy.getD makeDefaultReservationLimitPolicy)
        oomPolicy := streamOomPolicy.getD makeDefaultOomPolicy })

/-- `do_allocate`. The arena, and with it what its policy may grow, are of the
adaptor `j` that the state is from; the total that is charged is that of `i`. -/
def doAllocate (w : ThreadWorld I) (i : I) (bytes : UInt64) (stream : Stream)
    (upstream : UpstreamResult) : Result (ThreadWorld I) Addr :=
  match w.getTrackerState i stream with
  | none =>
      let r := w.adaptors i
      let (mr, ptr) := r.mr.doAllocateManaged r.defaultOomPolicy bytes upstream
      (w.put i { r with mr := mr }, ptr)
  | some (j, state) =>
      match (w.adaptors j).arenas.lookup state.memoryReservation with
      | none => (w, .error .nullDereference)
      | some arena =>
          let paddedBytes := round256 bytes
          match (w.adaptors j).mr.checkReservationAndHandleOverflow arena
              state.reservationPolicy paddedBytes with
          | ((mr, arena), .error e) =>
              (w.put j { w.adaptors j with
                mr := mr
                arenas :=
                  (w.adaptors j).arenas.insert state.memoryReservation arena },
                .error e)
          | ((mr, arena), .ok trackingSize) =>
              let w := w.put j { w.adaptors j with
                mr := mr
                arenas := (w.adaptors j).arenas.insert state.memoryReservation arena }
              match (w.adaptors i).mr.doAllocateUnmanaged bytes trackingSize
                  upstream with
              | (mr, .ok ptr) => (w.put i { w.adaptors i with mr := mr }, .ok ptr)
              | (mr, .error e) =>
                  match mr.handleOom state.oomPolicy e with
                  | (mr, .ok ptr) => (w.put i { w.adaptors i with mr := mr }, .ok ptr)
                  | (mr, .error e) =>
                      let w := w.put i { w.adaptors i with mr := mr }
                      (w.put j { w.adaptors j with
                        arenas :=
                          (w.adaptors j).arenas.insert state.memoryReservation
                            { arena with
                              allocatedBytes :=
                                arena.allocatedBytes - paddedBytes.toInt64 } },
                        .error (.thrown e))

/-- `do_deallocate`. -/
def doDeallocate (w : ThreadWorld I) (i : I) (bytes : UInt64) (stream : Stream) :
    Result (ThreadWorld I) Unit :=
  match w.getTrackerState i stream with
  | none =>
      let r := w.adaptors i
      (w.put i { r with mr := r.mr.doDeallocate bytes }, .ok ())
  | some (j, state) =>
      match (w.adaptors j).arenas.lookup state.memoryReservation with
      | none => (w, .error .nullDereference)
      | some arena =>
          let trackingBytes := round256 bytes
          let postDeallocationSize := arena.allocatedBytes - trackingBytes.toInt64
          let w := w.put j { w.adaptors j with
            arenas := (w.adaptors j).arenas.insert state.memoryReservation
              { arena with allocatedBytes := postDeallocationSize } }
          let r := w.adaptors i
          (w.put i { r with mr := { r.mr with
            totalAllocatedBytes := r.mr.totalAllocatedBytes -
              Adaptor.upstreamReclaimedBytes trackingBytes arena.size
                postDeallocationSize } },
            .ok ())

/-- `get_available_memory` with a stream. -/
def getAvailableMemory (w : ThreadWorld I) (i : I) (stream : Stream) :
    Except Failure UInt64 :=
  let upstreamAvailableMemory := (w.adaptors i).mr.getAvailableMemory
  match w.getTrackerState i stream with
  | none => .ok upstreamAvailableMemory
  | some (j, state) =>
      match (w.adaptors j).arenas.lookup state.memoryReservation with
      | none => .error .nullDereference
      | some arena => .ok (upstreamAvailableMemory + arena.getAvailableMemory)

/-- `reset_stream_reservation`: the state goes, and its arena with it. -/
def resetStreamReservation (w : ThreadWorld I) (i : I) (stream : Stream) :
    ThreadWorld I :=
  match w.scope i with
  | .PER_STREAM => w.put i ((w.adaptors i).resetStreamReservation stream)
  | .PER_THREAD =>
      match w.threadReservationState with
      | none => w
      | some (j, state) =>
          { w.put j ((w.adaptors j).destroyArena state.memoryReservation).1 with
            threadReservationState := none }

/-- One call on the adaptor `op.1`: the world it leaves, and the answer. -/
def perform (w : ThreadWorld I) (op : I × ThreadCall) : ThreadWorld I × ThreadAnswer :=
  match op with
  | (i, .reserve self bytes) =>
      let (p, r) := (w.adaptors i).reserve self bytes none
      (w.put i r, .reserved p)
  | (i, .attach stream reserved policy oomPolicy) =>
      let (done, w) := w.attachReservationToTracker i stream reserved policy oomPolicy
      (w, .attached done)
  | (i, .allocate bytes stream upstream) =>
      let (w, ptr) := w.doAllocate i bytes stream upstream
      (w, .allocated ptr)
  | (i, .deallocate bytes stream) =>
      let (w, result) := w.doDeallocate i bytes stream
      (w, .deallocated result)
  | (i, .getAvailableMemory stream) => (w, .available (w.getAvailableMemory i stream))
  | (i, .resetStreamReservation stream) => (w.resetStreamReservation i stream, .done)

/-- A reservation is made at an address that is free, and attached to the
adaptor that granted it. -/
def Proper (w : ThreadWorld I) : I × ThreadCall → Prop
  | (i, .reserve self _) => self ∉ (w.adaptors i).arenas
  | (i, .attach _ reserved _ _) => reserved ∈ (w.adaptors i).arenas
  | _ => True

instance (w : ThreadWorld I) : (op : I × ThreadCall) → Decidable (w.Proper op)
  | (i, .reserve _ _) => inferInstanceAs (Decidable (_ ∉ (w.adaptors i).arenas))
  | (i, .attach _ _ _ _) => inferInstanceAs (Decidable (_ ∈ (w.adaptors i).arenas))
  | (_, .allocate _ _ _) | (_, .deallocate _ _) | (_, .getAvailableMemory _)
  | (_, .resetStreamReservation _) => inferInstanceAs (Decidable True)

/-- Adaptors in any state, and a thread that has attached nothing. -/
def machine : Machine (ThreadWorld I) (I × ThreadCall) where
  start w := w.threadReservationState = none
  legal := Proper
  next w op := (w.perform op).1

end ThreadWorld

end CuCascade.Memory

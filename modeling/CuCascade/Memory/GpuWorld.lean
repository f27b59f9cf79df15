import CuCascade.Lib.Machine
import CuCascade.Memory.GpuResource

/-!
# A GPU limiter and its users

The adaptor together with what its users hold: the blocks they have not freed
and the reservations they made. A block remembers the size it was asked with,
the stream it was made on and the arena that stream had then; the adaptor
itself keeps none of this. Blocks and arenas are numbered by one counter, so
that an object is told apart from one that later gets its address.
-/

namespace CuCascade.Memory

structure GpuBlock where
  bytes : UInt64
  stream : Stream
  arena : Option Addr
deriving DecidableEq, Repr

structure GpuWorld where
  res : GpuResource
  blocks : Table Nat GpuBlock
  nextId : Nat

inductive GpuOp where
  | reserve (bytes : UInt64)
  | reserveUpto (bytes : UInt64)
  | attach (stream : Stream) (p : Addr) (policy : Option ReservationLimitPolicy)
      (oomPolicy : Option OomHandlingPolicy)
  | allocate (bytes : UInt64) (stream : Stream) (upstream : UpstreamResult)
  /-- free block `id`, on a stream of the caller's choice -/
  | deallocate (id : Nat) (stream : Stream)
  | growBy (p : Addr) (bytes : UInt64)
  | shrinkToFit (p : Addr)
  | resetStream (stream : Stream)
  /-- destroy a reservation -/
  | destroy (p : Addr)

namespace GpuWorld

def fresh (memoryLimit capacity : UInt64) : GpuWorld :=
  ⟨.fresh memoryLimit capacity, ∅, 0⟩

/-- The arena the tracker of a stream owns. -/
def arenaOf (w : GpuWorld) (stream : Stream) : Option Addr :=
  (w.res.streamStatsMap.lookup stream).map (·.memoryReservation)

/-- The arena itself. -/
def arenaAt (w : GpuWorld) (stream : Stream) : Option DeviceReservedArena :=
  (w.arenaOf stream).bind w.res.arenas.lookup

/-- The reservation policy of a stream. -/
def policyAt (w : GpuWorld) (stream : Stream) : Option ReservationLimitPolicy :=
  (w.res.streamStatsMap.lookup stream).bind (·.reservationPolicy)

/-- The arena at `p` exists and no tracker owns it. -/
def Unattached (w : GpuWorld) (p : Addr) : Prop :=
  p ∈ w.res.arenas ∧
    ∀ e ∈ w.res.streamStatsMap.entries, e.2.memoryReservation ≠ p

instance (w : GpuWorld) (p : Addr) : Decidable (w.Unattached p) :=
  inferInstanceAs (Decidable (_ ∧ _))

def next (w : GpuWorld) : GpuOp → GpuWorld
  | .reserve bytes =>
      { w with
        res := (w.res.reserve w.nextId bytes none).2
        nextId := w.nextId + 1 }
  | .reserveUpto bytes =>
      { w with
        res := (w.res.reserveUpto w.nextId bytes none).2
        nextId := w.nextId + 1 }
  | .attach stream p policy oomPolicy =>
      { w with
        res := (w.res.attachReservationToTracker stream p policy oomPolicy).2 }
  | .allocate bytes stream upstream =>
      match w.res.doAllocate bytes stream upstream with
      | (res, .ok _) =>
          { res
            blocks := w.blocks.insert w.nextId ⟨bytes, stream, w.arenaOf stream⟩
            nextId := w.nextId + 1 }
      | (res, .error _) => { w with res }
  | .deallocate id stream =>
      match w.blocks.lookup id with
      | none => w
      | some block =>
          { w with
            res := (w.res.doDeallocate block.bytes stream).1
            blocks := w.blocks.erase id }
  | .growBy p bytes => { w with res := (w.res.growBy p bytes).1 }
  | .shrinkToFit p => { w with res := (w.res.shrinkToFit p).1 }
  | .resetStream stream => { w with res := w.res.resetStreamReservation stream }
  | .destroy p => { w with res := (w.res.destroyArena p).1 }

/-- What every user keeps to: sizes below `2 ^ 62`, a block freed once and
with its own size, and only live reservations used, those a tracker owns not
attached or destroyed. -/
def Proper (w : GpuWorld) : GpuOp → Prop
  | .reserve bytes | .reserveUpto bytes | .allocate bytes _ _ =>
      bytes.toNat < 2 ^ 62
  | .attach _ p _ _ | .destroy p => w.Unattached p
  | .deallocate id _ => id ∈ w.blocks
  | .growBy p bytes => p ∈ w.res.arenas ∧ bytes.toNat < 2 ^ 62
  | .shrinkToFit p => p ∈ w.res.arenas
  | .resetStream _ => True

instance (w : GpuWorld) : (op : GpuOp) → Decidable (w.Proper op)
  | .reserve _ | .reserveUpto _ | .allocate _ _ _ =>
      inferInstanceAs (Decidable (_ < _))
  | .attach _ p _ _ | .destroy p => inferInstanceAs (Decidable (w.Unattached p))
  | .deallocate _ _ => inferInstanceAs (Decidable (_ ∈ w.blocks))
  | .growBy _ _ => inferInstanceAs (Decidable (_ ∧ _))
  | .shrinkToFit _ => inferInstanceAs (Decidable (_ ∈ w.res.arenas))
  | .resetStream _ => inferInstanceAs (Decidable True)

/-- One adaptor and users who call in turn, keeping to `legal`. -/
def machine (legal : GpuWorld → GpuOp → Prop) : Machine GpuWorld GpuOp where
  start w := ∃ memoryLimit capacity, w = fresh memoryLimit capacity
  legal := legal
  next := next

end GpuWorld

end CuCascade.Memory

import CuCascade.Lib.Table
import CuCascade.Memory.NotificationChannel
import CuCascade.Utils.Atomics

/-!
# `fixed_size_host_memory_resource`

The pool of fixed-size blocks and the reservations taken on it. A block is
named by the pool it was carved from and its position there; its pointer is
the base of the pool plus so many block sizes. `_free_blocks` is a vector used
as a stack, and here its back is the head of the list.

The tracker of a reservation is found by the address of its arena. The `uuid`
both carry is written and never read, so it is left out.
-/

namespace CuCascade.Memory

open Utils

/-- A block carved by `expand_pool`. -/
structure Block where
  pool : Nat
  index : Nat
deriving DecidableEq, Repr

/-- `chunked_reserved_area`, with the fields of its base `reserved_arena`. -/
structure ChunkedReservedArea where
  size : Int64
  onExit : Option EventNotifier
deriving DecidableEq, Repr

/-- `multiple_blocks_allocation`; `mr` says whether `_mr` is set. -/
structure MultipleBlocksAllocation where
  blocks : List Block
  mr : Bool
  blockSize : UInt64
  reservedMemory : Option Addr
deriving DecidableEq, Repr

structure HostResource where
  memoryLimit : UInt64
  memoryCapacity : UInt64
  blockSize : UInt64
  poolSize : UInt64
  allocatedBlocks : List Addr
  freeBlocks : List Block
  allocatedBytes : UInt64
  peakAllocatedBytes : UInt64
  /-- `allocation_tracker::allocated_bytes` of each registered arena -/
  activeReservations : Table Addr Int64
  arenas : Table Addr ChunkedReservedArea

namespace MultipleBlocksAllocation

def empty : MultipleBlocksAllocation := ⟨[], false, 0, none⟩

def size (a : MultipleBlocksAllocation) : Nat := a.blocks.length

def sizeBytes (a : MultipleBlocksAllocation) : UInt64 :=
  UInt64.ofNat a.blocks.length * a.blockSize

end MultipleBlocksAllocation

namespace HostResource

/-- What `expand_pool` does with the memory it was given. -/
def addPool (r : HostResource) (largeAllocation : Addr) : HostResource :=
  let carved := (List.range r.poolSize.toNat).map
    (Block.mk r.allocatedBlocks.length)
  { r with
    allocatedBlocks := r.allocatedBlocks ++ [largeAllocation]
    freeBlocks := carved.reverse ++ r.freeBlocks }

/-- `expand_pool`, given how the upstream resource answers a request: with the
address of the memory, or by throwing. -/
def expandPool (r : HostResource) (upstream : UInt64 → Except Exception Addr) :
    Except Exception HostResource :=
  match upstream (r.blockSize * r.poolSize) with
  | .error e => .error e
  | .ok largeAllocation => .ok (r.addPool largeAllocation)

/-- The constructor, with the memory the upstream resource gives it for each
initial pool. -/
def create (memoryLimit memoryCapacity blockSize poolSize : UInt64)
    (initialPools : List Addr) : HostResource :=
  initialPools.foldl addPool {
    memoryLimit := memoryLimit
    memoryCapacity := memoryCapacity
    blockSize := alignUp blockSize 16
    poolSize := poolSize
    allocatedBlocks := []
    freeBlocks := []
    allocatedBytes := 0
    peakAllocatedBytes := 0
    activeReservations := ∅
    arenas := ∅ }

def getFreeBlocks (r : HostResource) : UInt64 :=
  UInt64.ofNat r.freeBlocks.length

def getTotalBlocks (r : HostResource) : UInt64 :=
  UInt64.ofNat r.allocatedBlocks.length * r.poolSize

/-- `get_total_reserved_bytes`: the registered arenas, one after the other. -/
def getTotalReservedBytes (r : HostResource) : UInt64 :=
  r.activeReservations.entries.foldl (fun total e =>
    match r.arenas.lookup e.1 with
    | none => total
    | some res => total + (max 0 res.size).toUInt64) 0

def getActiveReservationCount (r : HostResource) : UInt64 :=
  UInt64.ofNat r.activeReservations.count

/-! ## Reservations -/

def doReserve (r : HostResource) (bytes memLimit : UInt64) :
    Bool × HostResource :=
  match tryAdd r.allocatedBytes bytes memLimit with
  | (true, postAllocationSize) =>
      (true, { r with
        allocatedBytes := postAllocationSize
        peakAllocatedBytes :=
          updatePeak r.peakAllocatedBytes postAllocationSize })
  | (false, _) => (false, r)

def doReserveUpto (r : HostResource) (bytes memLimit : UInt64) :
    UInt64 × HostResource :=
  let (bytes, postAllocationSize) := addBounded r.allocatedBytes bytes memLimit
  (bytes, { r with
    allocatedBytes := postAllocationSize
    peakAllocatedBytes :=
      if 0 < bytes then updatePeak r.peakAllocatedBytes postAllocationSize
      else r.peakAllocatedBytes })

/-- The constructor of `chunked_reserved_area` at `self`, and
`register_reservation`: an `insert` that leaves an entry already there. -/
def registerReservation (r : HostResource) (self : Addr) (bytes : UInt64)
    (onRelease : Option EventNotifier) : HostResource :=
  { r with
    arenas := r.arenas.insert self ⟨bytes.toInt64, onRelease⟩
    activeReservations :=
      match r.activeReservations.lookup self with
      | none => r.activeReservations.insert self 0
      | some _ => r.activeReservations }

/-- `reserve`, with `self` the address of the arena if one is made. -/
def reserve (r : HostResource) (self : Addr) (bytes : UInt64)
    (onRelease : Option EventNotifier) : Option Addr × HostResource :=
  let bytes := alignUp bytes r.blockSize
  match r.doReserve bytes r.memoryLimit with
  | (true, r) => (some self, r.registerReservation self bytes onRelease)
  | (false, r) => (none, r)

def reserveUpto (r : HostResource) (self : Addr) (bytes : UInt64)
    (onRelease : Option EventNotifier) : Addr × HostResource :=
  let bytes := alignUp bytes r.blockSize
  let (reservedBytes, r) := r.doReserveUpto bytes r.memoryLimit
  (self, r.registerReservation self reservedBytes onRelease)

/-- `grow_reservation_by`, which `chunked_reserved_area::grow_by` calls. -/
def growBy (r : HostResource) (p : Addr) (bytes : UInt64) :
    Result HostResource Bool :=
  match r.arenas.lookup p with
  | none => (r, .error .nullDereference)
  | some arena =>
      let bytes := alignUp bytes r.blockSize
      match r.doReserve bytes r.memoryLimit with
      | (true, r) =>
          let arena := { arena with size := arena.size + bytes.toInt64 }
          ({ r with arenas := r.arenas.insert p arena }, .ok true)
      | (false, r) => (r, .ok false)

/-- `shrink_reservation_to_fit`. -/
def shrinkToFit (r : HostResource) (p : Addr) : Result HostResource Unit :=
  match r.arenas.lookup p with
  | none => (r, .error .nullDereference)
  | some arena =>
      match r.activeReservations.lookup p with
      | none => (r, .error (.assertion "iter != _active_reservations.end()"))
      | some tracker =>
          let current := max 0 tracker
          if current < arena.size then
            let reclaimed := (arena.size - current).toUInt64
            let arena := { arena with size := current }
            ({ r with
                arenas := r.arenas.insert p arena
                allocatedBytes := r.allocatedBytes - reclaimed }, .ok ())
          else (r, .ok ())

/-- `~chunked_reserved_area` for the object at `p`, that is
`release_reservation`, and the notifier its base still has to run. What
`release_reservation` throws cannot leave the destructor. -/
def destroyArena (r : HostResource) (p : Addr) :
    Result HostResource (Option EventNotifier) :=
  match r.arenas.lookup p with
  | none => (r, .ok none)
  | some arena =>
      match r.activeReservations.lookup p with
      | none => (r, .error (.thrown (.runtimeError
          "reservation was not registered or already freed")))
      | some tracker =>
          let current := max 0 tracker
          let reclaimedBytes :=
            if current < arena.size then (arena.size - current).toUInt64 else 0
          ({ r with
              allocatedBytes := r.allocatedBytes - reclaimedBytes
              activeReservations := r.activeReservations.erase p
              arenas := r.arenas.erase p }, .ok arena.onExit)

/-! ## Blocks -/

/-- How much of an allocation that takes a tracker from `pre` to `post` the
total has to carry. -/
def upstreamTrackedBytes (totalBytes : UInt64) (reservationSize pre post : Int64) :
    UInt64 :=
  if post ≤ reservationSize then 0
  else if pre < reservationSize then (post - reservationSize).toUInt64
  else totalBytes

/-- The loop of `allocate_multiple_blocks`: take `n` more blocks, expanding the
pool whenever the free list is empty. An expansion that yields no block ends
the loop with the blocks taken so far; an exception of the upstream drops
them. -/
def takeBlocks (upstream : Nat → UInt64 → Except Exception Addr) :
    Nat → HostResource → List Block →
      HostResource × Except Exception (Bool × List Block)
  | 0, r, allocatedBlocks => (r, .ok (true, allocatedBlocks))
  | n + 1, r, allocatedBlocks =>
      let expanded :=
        if r.freeBlocks.isEmpty then
          r.expandPool (upstream r.allocatedBlocks.length)
        else .ok r
      match expanded with
      | .error e => (r, .error e)
      | .ok r =>
          match r.freeBlocks with
          | [] => (r, .ok (false, allocatedBlocks))
          | ptr :: freeBlocks =>
              takeBlocks upstream n { r with freeBlocks := freeBlocks }
                (allocatedBlocks ++ [ptr])

/-- `tracker->allocated_bytes.fetch_sub`, if there is a tracker. -/
def untrack (r : HostResource) (tracker : Option Addr) (totalBytes : UInt64) :
    HostResource :=
  match tracker with
  | none => r
  | some p =>
      match r.activeReservations.lookup p with
      | none => r
      | some bytes => { r with activeReservations :=
          r.activeReservations.insert p (bytes - totalBytes.toInt64) }

/-- `allocate_multiple_blocks` from where the tracker, if there is one, has been
charged; `tracker` is the address of its arena. -/
def allocateTracked (r : HostResource)
    (upstream : Nat → UInt64 → Except Exception Addr) (totalBytes : UInt64)
    (upstreamTrackedBytes : UInt64) (tracker : Option Addr) :
    Result HostResource (Option MultipleBlocksAllocation) :=
  match tryAdd r.allocatedBytes upstreamTrackedBytes r.memoryCapacity with
  | (false, _) => (r.untrack tracker totalBytes, .ok none)
  | (true, postAllocationSize) =>
      let r := { r with allocatedBytes := postAllocationSize }
      match takeBlocks upstream (totalBytes / r.blockSize).toNat r [] with
      | (r, .error e) => (r, .error (.thrown e))
      | (r, .ok (false, allocatedBlocks)) =>
          let r := { r with
            freeBlocks := allocatedBlocks.foldl (fun l ptr => ptr :: l) r.freeBlocks
            allocatedBytes := r.allocatedBytes - upstreamTrackedBytes }
          (r.untrack tracker totalBytes, .error (.thrown (.outOfMemory
            "Not enough free blocks available in fixed_size_host_memory_resource and pool expansion failed.")))
      | (r, .ok (true, allocatedBlocks)) =>
          ({ r with peakAllocatedBytes :=
              updatePeak r.peakAllocatedBytes postAllocationSize },
            .ok (some ⟨allocatedBlocks, true, r.blockSize, tracker⟩))

/-- `allocate_multiple_blocks`. A reservation is given by the address of its
arena, or by `some none` if its arena is not one of this resource's kind. A
null answer is `none`. -/
def allocateMultipleBlocks (r : HostResource) (totalBytes : UInt64)
    (res : Option (Option Addr))
    (upstream : Nat → UInt64 → Except Exception Addr) :
    Result HostResource (Option MultipleBlocksAllocation) :=
  if totalBytes = 0 then (r, .ok (some .empty))
  else if r.blockSize = 0 then (r, .error .divisionByZero)
  else
    let totalBytes := alignUp totalBytes r.blockSize
    match res with
    | none => r.allocateTracked upstream totalBytes totalBytes none
    | some none => (r, .error (.thrown (.runtimeError
        "cannot make allocation with other reservation type")))
    | some (some p) =>
        match r.activeReservations.lookup p, r.arenas.lookup p with
        | none, _ => (r, .error (.thrown (.runtimeError
            "reservation has been freed already")))
        | some _, none => (r, .error .nullDereference)
        | some pre, some arena =>
            let post := pre + totalBytes.toInt64
            let r := { r with activeReservations :=
              r.activeReservations.insert p post }
            r.allocateTracked upstream totalBytes
              (upstreamTrackedBytes totalBytes arena.size pre post) (some p)

/-- What `return_allocated_chunks` takes off the total for chunks whose tracker
it brings from `pre` to `post`. -/
def reclaimedBytes (bytes : UInt64) (reservationSize pre post : Int64) : UInt64 :=
  if pre ≤ reservationSize then 0
  else if post < reservationSize then (pre - reservationSize).toUInt64
  else bytes

/-- `return_allocated_chunks`. -/
def returnAllocatedChunks (r : HostResource) (chunks : List Block)
    (arena : Option Addr) : Result HostResource Unit :=
  let bytes := UInt64.ofNat chunks.length * r.blockSize
  let tracked := arena.bind fun p => (r.activeReservations.lookup p).map (p, ·)
  match tracked with
  | none => ({ r with allocatedBytes := r.allocatedBytes - bytes }, .ok ())
  | some (p, pre) =>
      match r.arenas.lookup p with
      | none => (r, .error .nullDereference)
      | some area =>
          let post := pre - bytes.toInt64
          ({ r with
              activeReservations := r.activeReservations.insert p post
              allocatedBytes := r.allocatedBytes -
                reclaimedBytes bytes area.size pre post }, .ok ())

/-- `~multiple_blocks_allocation`. -/
def destroyAllocation (r : HostResource) (a : MultipleBlocksAllocation) :
    Result HostResource Unit :=
  if a.mr && !a.blocks.isEmpty then
    r.returnAllocatedChunks a.blocks a.reservedMemory
  else (r, .ok ())

end HostResource

end CuCascade.Memory

import CuCascade.Lib.Table
import CuCascade.Memory.ResourceAdaptor
import CuCascade.Utils.AtomicLoops

/-!
# The counters of one limiter, many threads

Nothing that `reservation_aware_resource_adaptor` does to its four counters is
under a lock. `reserve`, `reserve_upto`, `grow_by`, `shrink_to_fit` and the end
of a reservation, and `allocate` and `deallocate` on streams without an attached
reservation, go to them access by access, and here each access is a step: every
load and every exchange of a compare-exchange loop, every `fetch_add` and
`fetch_sub`. Between two steps of one call any steps of others may come.

A call is kept under a number together with the object it makes, from its first
step until the object is gone. What a counter is left with when the object is
gone stays under that number too: the bytes of an allocation that ended in
something else than a `std::exception`, and those by which a reservation was
shrunk, which `_total_reserved_bytes` does not hear of.
-/

namespace CuCascade.Memory

open Retry Utils

/-- Who called `do_reserve` or `do_reserve_upto`. -/
inductive ReserveCaller where
  | reserve
  /-- `grow_reservation_by`, for an arena that has been shrunk by `shrunk` bytes -/
  | growReservationBy (arena : DeviceReservedArena) (shrunk : Nat)

/-- Who adds to `_total_allocated_bytes`, and wants its peak updated. -/
inductive AddCaller where
  | doReserve (caller : ReserveCaller) (sizeBytes : UInt64)
  | doAllocateUnmanaged (bytes : UInt64)

/-- Where a call stands, or the object it has left. -/
inductive LimiterCall where
  /-- in `try_add` -/
  | adding (caller : AddCaller) (call : Call Unit UInt64 (Bool × UInt64))
  /-- in the `add_bounded` of `reserve_upto` -/
  | addingUpTo (call : Call UInt64 UInt64 (UInt64 × UInt64))
  /-- in `update_peak` -/
  | peaking (caller : AddCaller) (call : Call UInt64 UInt64 Unit)
  /-- before `_total_reserved_bytes.fetch_add` -/
  | reserving (caller : ReserveCaller) (sizeBytes : UInt64)
  /-- before `_number_of_allocations.fetch_add` -/
  | counting (sizeBytes : UInt64)
  /-- a reservation that nothing is allocated under -/
  | arena (arena : DeviceReservedArena) (shrunk : Nat)
  /-- the end of one, before `_total_reserved_bytes.fetch_sub` -/
  | uncounted (arena : DeviceReservedArena) (shrunk : Nat)
  /-- before the `sub` on the total -/
  | unreserved (arena : DeviceReservedArena) (shrunk : Nat)
  /-- a reservation that is gone -/
  | gone (shrunk : Nat)
  /-- the upstream is asked -/
  | charged (bytes : UInt64)
  /-- a `std::exception` of the upstream has been caught -/
  | failing (bytes : UInt64)
  | block (bytes : UInt64)
  /-- an allocation whose upstream threw something else -/
  | leaked (bytes : UInt64)

inductive LimiterStep where
  | reserve (bytes : UInt64)
  | reserveUpto (bytes : UInt64)
  | allocate (bytes : UInt64)
  | growBy (bytes : UInt64)
  | shrinkToFit
  /-- the destructor of the arena -/
  | release
  | deallocate
  /-- `_upstream.allocate_async` returns or throws -/
  | upstream (result : UpstreamResult)
  /-- the next access of a call in progress -/
  | access (spurious : Bool)

structure LimiterWorld where
  mr : Adaptor
  calls : Table Nat LimiterCall

namespace AddCaller

/-- What is added. -/
def amount : AddCaller → UInt64
  | doReserve _ sizeBytes => sizeBytes
  | doAllocateUnmanaged bytes => round256 bytes

def upperBound (mr : Adaptor) : AddCaller → UInt64
  | doReserve _ _ => mr.memoryLimit
  | doAllocateUnmanaged _ => mr.capacity

/-- What is left of the call if the bound is in the way: `reserve` returns a null
pointer, `grow_by` returns false, the default OOM policy rethrows. -/
def refused : AddCaller → Option LimiterCall
  | doReserve .reserve _ | doAllocateUnmanaged _ => none
  | doReserve (.growReservationBy arena shrunk) _ => some (.arena arena shrunk)

/-- Where the call goes on when the peak has been seen to. -/
def peaked : AddCaller → LimiterCall
  | doReserve caller sizeBytes => .reserving caller sizeBytes
  | doAllocateUnmanaged bytes => .charged bytes

end AddCaller

/-- `released_bytes` of `do_release_reservation`. -/
def DeviceReservedArena.releasedBytes (arena : DeviceReservedArena) : UInt64 :=
  if arena.allocatedBytes < arena.size then
    (arena.size - max 0 arena.allocatedBytes).toUInt64
  else 0

namespace LimiterWorld

def fresh (memoryLimit capacity : UInt64) : LimiterWorld :=
  ⟨.fresh memoryLimit capacity, ∅⟩

/-- What is kept under `id` becomes `call`, or nothing. -/
def put (w : LimiterWorld) (id : Nat) : Option LimiterCall → LimiterWorld
  | some call => { w with calls := w.calls.insert id call }
  | none => { w with calls := w.calls.erase id }

/-- The next access of what is kept under `id`. -/
def access (w : LimiterWorld) (id : Nat) (spurious : Bool) :
    LimiterCall → LimiterWorld
  | .adding caller call =>
      let a : Access UInt64 := ⟨w.mr.totalAllocatedBytes, spurious⟩
      let mr := { w.mr with totalAllocatedBytes := call.write a }
      let call :=
        call.access (tryAddLoop caller.amount (caller.upperBound w.mr)) a
      { w with mr }.put id (match call.result? with
        | some (true, postIncreaseBytes) =>
            some (.peaking caller (.loading postIncreaseBytes))
        | some (false, _) => caller.refused
        | none => some (.adding caller call))
  | .addingUpTo call =>
      let a : Access UInt64 := ⟨w.mr.totalAllocatedBytes, spurious⟩
      let mr := { w.mr with totalAllocatedBytes := call.write a }
      let call := call.access (addBoundedLoop w.mr.memoryLimit) a
      { w with mr }.put id (match call.result? with
        | some (sizeBytes, postIncreaseBytes) =>
            if 0 < postIncreaseBytes then
              some (.peaking (.doReserve .reserve sizeBytes)
                (.loading postIncreaseBytes))
            else some (.counting sizeBytes)
        | none => some (.addingUpTo call))
  | .peaking caller call =>
      let a : Access UInt64 := ⟨w.mr.peakTotalAllocatedBytes, spurious⟩
      let mr := { w.mr with peakTotalAllocatedBytes := call.write a }
      let call := call.access updatePeakLoop a
      { w with mr }.put id (some (match call.result? with
        | some () => caller.peaked
        | none => .peaking caller call))
  | .reserving caller sizeBytes =>
      let mr := { w.mr with
        totalReservedBytes := w.mr.totalReservedBytes + sizeBytes }
      { w with mr }.put id (some (match caller with
        | .reserve => .counting sizeBytes
        | .growReservationBy arena shrunk =>
            .arena { arena with size := arena.size + sizeBytes.toInt64 } shrunk))
  | .counting sizeBytes =>
      let mr := { w.mr with numberOfAllocations := w.mr.numberOfAllocations + 1 }
      { w with mr }.put id (some (.arena (Adaptor.makeArena sizeBytes none) 0))
  | .uncounted arena shrunk =>
      let mr := { w.mr with
        totalReservedBytes :=
          w.mr.totalReservedBytes - (max 0 arena.size).toUInt64 }
      { w with mr }.put id (some (.unreserved arena shrunk))
  | .unreserved arena shrunk =>
      let mr := { w.mr with
        totalAllocatedBytes := w.mr.totalAllocatedBytes - arena.releasedBytes }
      { w with mr }.put id (some (.gone shrunk))
  | .failing bytes =>
      let mr := { w.mr with
        totalAllocatedBytes := w.mr.totalAllocatedBytes - round256 bytes }
      { w with mr }.put id none
  | .arena _ _ | .gone _ | .charged _ | .block _ | .leaked _ => w

/-- A step on what is kept under `id`. A step it is not at does nothing. -/
def step (w : LimiterWorld) (id : Nat) (call : Option LimiterCall) :
    LimiterStep → LimiterWorld
  | .reserve bytes =>
      match call with
      | none => w.put id (some (.adding (.doReserve .reserve bytes) (.loading ())))
      | _ => w
  | .reserveUpto bytes =>
      match call with
      | none => w.put id (some (.addingUpTo (.loading bytes)))
      | _ => w
  | .allocate bytes =>
      match call with
      | none => w.put id (some (.adding (.doAllocateUnmanaged bytes) (.loading ())))
      | _ => w
  | .growBy bytes =>
      match call with
      | some (.arena arena shrunk) =>
          w.put id (some (.adding (.doReserve (.growReservationBy arena shrunk) bytes)
            (.loading ())))
      | _ => w
  | .shrinkToFit =>
      match call with
      | some (.arena arena shrunk) =>
          let (mr, shrunken) := w.mr.shrinkReservationToFit arena
          { w with mr }.put id (some (.arena shrunken
            (shrunk + (arena.size - shrunken.size).toInt.toNat)))
      | _ => w
  | .release =>
      match call with
      | some (.arena arena shrunk) =>
          let mr := { w.mr with
            numberOfAllocations := w.mr.numberOfAllocations - 1 }
          { w with mr }.put id (some (.uncounted arena shrunk))
      | _ => w
  | .deallocate =>
      match call with
      | some (.block bytes) => { w with mr := w.mr.doDeallocate bytes }.put id none
      | _ => w
  | .upstream result =>
      match call with
      | some (.charged bytes) =>
          w.put id (some (match result with
            | .ok _ => .block bytes
            | .error e =>
                match e.what? with
                | some _ => .failing bytes
                | none => .leaked bytes))
      | _ => w
  | .access spurious =>
      match call with
      | some call => w.access id spurious call
      | none => w

/-- Any threads, one access at a time. -/
def machine : Machine LimiterWorld (Nat × LimiterStep) where
  start w := ∃ memoryLimit capacity : UInt64, memoryLimit.toNat < 2 ^ 63 ∧
    capacity.toNat < 2 ^ 63 ∧ w = fresh memoryLimit capacity
  legal _ _ := True
  next w op := w.step op.1 (w.calls.lookup op.1) op.2

end LimiterWorld

end CuCascade.Memory

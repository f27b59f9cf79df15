import CuCascade.Lib.Machine
import CuCascade.Lib.Table
import CuCascade.Memory.ResourceAdaptor

/-!
# One stream under the increase policy, many threads

`allocate` and `deallocate` on a stream whose reservation grows, one atomic step
at a time. A thread reads the size of the arena, fails to add to
`allocated_bytes`, and only then takes `_arbitration_mutex`, under which the
policy reads the size again and tries to grow it, by the padded amount first and
then by the exact one. The size changes nowhere else. A thread that waits for
the mutex is one whose step does nothing yet.

A request is kept under its number with the locals it still needs. What other
streams and reservations do to the total is a step that sets it to anything; so
the steps of this stream that touch the total together with another counter are
taken as one, for no interleaving is lost by it.
-/

namespace CuCascade.Memory

open Utils

/-- Where a request is, from the first step of `do_allocate` on. -/
inductive GrowthRequest where
  /-- `reservation_size` has been read -/
  | sized (bytes : UInt64) (reservationSize : Int64)
  /-- `try_add` on `allocated_bytes` has failed -/
  | over (bytes : UInt64) (reservationSize currentAllocated : Int64)
  /-- the padded growth has failed; the mutex is held -/
  | growing (bytes : UInt64) (reservationSize currentAllocated : Int64)
      (extraSpaceNeeded : UInt64)
  /-- the policy has returned; the bytes are still to `add` -/
  | handled (bytes : UInt64) (reservationSize : Int64)
  /-- the policy has thrown -/
  | refused (bytes : UInt64)
  /-- in `allocated_bytes`; `trackingSize` is still to go on the total -/
  | tracked (bytes trackingSize : UInt64)
  | live (bytes : UInt64)
deriving DecidableEq, Repr

inductive GrowthStep where
  /-- `do_allocate` begins: the size of the reservation is read -/
  | begin (bytes : UInt64)
  /-- `try_add` on `allocated_bytes` -/
  | tryAdd
  /-- take the mutex; the policy begins and tries the padded growth -/
  | handle
  /-- the policy tries the exact growth; the mutex is released -/
  | growExactly
  /-- the `add` after the policy has returned -/
  | add
  /-- `do_allocate_unmanaged`, and the rollback if it throws -/
  | charge (upstream : UpstreamResult)
  | deallocate

inductive GrowthOp where
  | request (id : Nat) (step : GrowthStep)
  /-- other streams and reservations leave the total at `total` -/
  | others (total : UInt64)

structure GrowthWorld where
  mr : Adaptor
  arena : DeviceReservedArena
  /-- the product with the padding factor -/
  padded : UInt64 → UInt64
  /-- who holds `_arbitration_mutex` -/
  arbitrating : Option Nat
  requests : Table Nat GrowthRequest

/-- `post_allocation_size` of `handle_over_reservation`. -/
def postAllocationSize (requestedBytes : UInt64) (currentAllocated : Int64) : UInt64 :=
  currentAllocated.toUInt64 + requestedBytes

/-- `current_reserved`. -/
def DeviceReservedArena.currentReserved (arena : DeviceReservedArena) : UInt64 :=
  (max 0 arena.size).toUInt64

namespace GrowthWorld

def fresh (mr : Adaptor) (arena : DeviceReservedArena) (padded : UInt64 → UInt64) :
    GrowthWorld :=
  ⟨mr, arena, padded, none, ∅⟩

/-- The request `id` goes on to `r`. -/
def put (w : GrowthWorld) (id : Nat) (r : GrowthRequest) : GrowthWorld :=
  { w with requests := w.requests.insert id r }

/-- `allocated_bytes` has become `postAllocationInc` by a request for `bytes`. -/
def track (w : GrowthWorld) (id : Nat) (bytes : UInt64)
    (reservationSize postAllocationInc : Int64) : GrowthWorld :=
  { w with arena := w.arena.tracked postAllocationInc }.put id
    (.tracked bytes
      (upstreamTrackingSize (round256 bytes) reservationSize postAllocationInc))

/-- A step of the request `id`, which is at `request`. A step it is not at does
nothing. -/
def step (w : GrowthWorld) (id : Nat) (request : Option GrowthRequest) :
    GrowthStep → GrowthWorld
  | .begin bytes =>
      match request with
      | none => w.put id (.sized bytes w.arena.size)
      | _ => w
  | .tryAdd =>
      match request with
      | some (.sized bytes reservationSize) =>
          match Utils.tryAdd w.arena.allocatedBytes (round256 bytes).toInt64
            reservationSize with
          | (true, postAllocationInc) =>
              w.track id bytes reservationSize postAllocationInc
          | (false, currentAllocated) =>
              w.put id (.over bytes reservationSize currentAllocated)
      | _ => w
  | .handle =>
      match request, w.arbitrating with
      | some (.over bytes reservationSize currentAllocated), none =>
          let extraSpaceNeeded :=
            postAllocationSize (round256 bytes) currentAllocated -
              w.arena.currentReserved
          match w.mr.growReservationBy w.arena (w.padded extraSpaceNeeded) with
          | (true, mr, arena) =>
              { w with mr, arena }.put id (.handled bytes reservationSize)
          | (false, mr, arena) =>
              { w with mr, arena, arbitrating := some id }.put id
                (.growing bytes reservationSize currentAllocated extraSpaceNeeded)
      | _, _ => w
  | .growExactly =>
      match request with
      | some (.growing bytes reservationSize _ extraSpaceNeeded) =>
          match w.mr.growReservationBy w.arena extraSpaceNeeded with
          | (true, mr, arena) =>
              { w with mr, arena, arbitrating := none }.put id
                (.handled bytes reservationSize)
          | (false, mr, arena) =>
              { w with mr, arena, arbitrating := none }.put id (.refused bytes)
      | _ => w
  | .add =>
      match request with
      | some (.handled bytes reservationSize) =>
          w.track id bytes reservationSize
            (w.arena.allocatedBytes + (round256 bytes).toInt64)
      | _ => w
  | .charge upstream =>
      match request with
      | some (.tracked bytes trackingSize) =>
          match w.mr.doAllocateUnmanaged bytes trackingSize upstream with
          | (mr, .ok _) => { w with mr }.put id (.live bytes)
          | (mr, .error _) =>
              { w with
                mr
                arena := { w.arena with
                  allocatedBytes :=
                    w.arena.allocatedBytes - (round256 bytes).toInt64 }
                requests := w.requests.erase id }
      | _ => w
  | .deallocate =>
      match request with
      | some (.live bytes) =>
          let (mr, arena) := w.mr.doDeallocateTracked w.arena bytes
          { w with mr, arena, requests := w.requests.erase id }
      | _ => w

def next (w : GrowthWorld) : GrowthOp → GrowthWorld
  | .request id step => w.step id (w.requests.lookup id) step
  | .others total => { w with mr := { w.mr with totalAllocatedBytes := total } }

/-- Any threads, one step at a time. -/
def machine : Machine GrowthWorld GrowthOp where
  start w := ∃ mr arena padded, w = fresh mr arena padded
  legal _ _ := True
  next := next

/-! ## What a handler call should be like -/

/-- The bytes requested and the bytes allocated that the policy is given, if the
request `id` gets the mutex now. -/
def handlerCall (w : GrowthWorld) (id : Nat) : Option (UInt64 × Int64) :=
  match w.requests.lookup id, w.arbitrating with
  | some (.over bytes _ currentAllocated), none =>
      some (round256 bytes, currentAllocated)
  | _, _ => none

/-- The bytes requested, if the policy refuses them to the request `id` now. -/
def refusal (w : GrowthWorld) (id : Nat) : Option UInt64 :=
  match w.requests.lookup id,
    (w.next (.request id .growExactly)).requests.lookup id with
  | some (.growing _ _ _ _), some (.refused bytes) => some (round256 bytes)
  | _, _ => none

/-- By how much the arena, as it stands, has to grow to cover the allocated bytes
and `n` more. -/
def missing (w : GrowthWorld) (n : UInt64) : Int :=
  max 0 (w.arena.allocatedBytes.toInt + n.toNat - w.arena.size.toInt)

/-- Growing by `n` does not fit under the memory limit. -/
def Exceeds (w : GrowthWorld) (n : Int) : Prop :=
  (w.mr.memoryLimit.toNat : Int) < w.mr.totalAllocatedBytes.toNat + n

instance (w : GrowthWorld) (n : Int) : Decidable (w.Exceeds n) :=
  inferInstanceAs (Decidable (_ < _))

/-- `extra_space_needed` does not underflow, and who is refused could not have
been given what was missing. -/
def Fair (w : GrowthWorld) : GrowthOp → Prop
  | .request id .handle => ∀ call ∈ w.handlerCall id,
      w.arena.currentReserved ≤ postAllocationSize call.1 call.2
  | .request id .growExactly => ∀ n ∈ w.refusal id, w.Exceeds (w.missing n)
  | _ => True

instance (w : GrowthWorld) : (op : GrowthOp) → Decidable (w.Fair op)
  | .request id .handle =>
      @Option.decidableForallMem _ _ (fun _ => UInt64.decLe _ _) (w.handlerCall id)
  | .request id .growExactly =>
      @Option.decidableForallMem _ _ (fun n => inferInstanceAs
        (Decidable (w.Exceeds (w.missing n)))) (w.refusal id)
  | .request _ (.begin _) | .request _ .tryAdd | .request _ .add
  | .request _ (.charge _) | .request _ .deallocate | .others _ => isTrue trivial

end GrowthWorld

end CuCascade.Memory

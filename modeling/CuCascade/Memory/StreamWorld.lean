import CuCascade.Lib.Machine
import CuCascade.Lib.Table
import CuCascade.Memory.ResourceAdaptor

/-!
# One stream, many threads

The two counters an attached reservation lives on, `allocated_bytes` of its
arena and `_total_allocated_bytes` of the adaptor, with any number of calls of
`allocate` and `deallocate` in progress between them. Each atomic operation is a
step of its own and so is the answer of the upstream resource; between two
steps of one call any steps of others may come. A compare-exchange loop is its
last iteration, which is the one that changes the counter.

A call is kept under the number of the block it is about, from the first step
of `do_allocate` to the last of `do_deallocate`, with the local variables it
still needs. The size of the reservation is fixed and its policy is
`ignore_reservation_limit_policy`, which does nothing. The OOM policy may run
the retry function any number of times and may free blocks, which are calls of
their own, before it rethrows; a block it returns is one the retry function
made. The peaks decide nothing and are left out.
-/

namespace CuCascade.Memory

open Utils

/-- Where a block is between its allocation and its release. -/
inductive StreamRequest where
  /-- `try_add` on `allocated_bytes` has failed; the bytes are still to `add` -/
  | overReservation (bytes : UInt64)
  /-- in `allocated_bytes`; `trackingSize` is still to go on the total -/
  | tracked (bytes trackingSize : UInt64)
  /-- on the total as well; the upstream is asked -/
  | charged (bytes trackingSize : UInt64)
  /-- a `std::exception` of the upstream has been caught -/
  | failing (bytes trackingSize : UInt64)
  /-- `do_allocate_unmanaged` has thrown, the OOM policy has the exception -/
  | handling (bytes trackingSize : UInt64)
  /-- handed out; no call is in progress -/
  | live (bytes : UInt64)
  /-- out of `allocated_bytes`; `upstreamReclaimedBytes` is still on the total -/
  | freeing (upstreamReclaimedBytes : UInt64)
deriving DecidableEq, Repr

/-- A call on the block is in progress. -/
def StreamRequest.inProgress : StreamRequest → Bool
  | .live _ => false
  | _ => true

inductive RequestStep where
  /-- `do_allocate` begins: `try_add` on `allocated_bytes` -/
  | allocate (bytes : UInt64)
  /-- the `add` after the policy has run -/
  | add
  /-- `try_add` on the total -/
  | charge
  /-- `_upstream.allocate_async` returns or throws -/
  | upstream (result : UpstreamResult)
  /-- the `sub` on the total in the `catch` of `do_allocate_unmanaged` -/
  | uncharge
  /-- the OOM policy calls the retry function -/
  | retry
  /-- the OOM policy rethrows: the `sub` on `allocated_bytes` -/
  | rollback
  /-- `do_deallocate` begins: the `sub` on `allocated_bytes` -/
  | deallocate
  /-- the `sub` on the total at its end -/
  | reclaim

inductive StreamOp where
  | request (id : Nat) (step : RequestStep)
  /-- another stream or reservation adds to the total, by `try_add` -/
  | othersTake (bytes upperBound : UInt64)
  | othersGive (bytes : UInt64)

structure StreamWorld where
  capacity : UInt64
  size : Int64
  allocatedBytes : Int64
  totalAllocatedBytes : UInt64
  requests : Table Nat StreamRequest
  /-- what other streams and reservations hold of the total -/
  others : Nat

namespace StreamWorld

/-- The request `id` goes on to `r`, or is over. -/
def put (w : StreamWorld) (id : Nat) : Option StreamRequest → StreamWorld
  | some r => { w with requests := w.requests.insert id r }
  | none => { w with requests := w.requests.erase id }

/-- `allocated_bytes` has become `postAllocationInc` by a request for `bytes`,
which now knows what it has to charge. -/
def track (w : StreamWorld) (id : Nat) (bytes : UInt64)
    (postAllocationInc : Int64) : StreamWorld :=
  { w with allocatedBytes := postAllocationInc }.put id
    (some (.tracked bytes
      (upstreamTrackingSize (round256 bytes) w.size postAllocationInc)))

/-- A step of the request `id`, which is at `request`. A step it is not at does
nothing. -/
def step (w : StreamWorld) (id : Nat) (request : Option StreamRequest) :
    RequestStep → StreamWorld
  | .allocate bytes =>
      match request with
      | none =>
          match tryAdd w.allocatedBytes (round256 bytes).toInt64 w.size with
          | (true, postAllocationInc) => w.track id bytes postAllocationInc
          | (false, _) => w.put id (some (.overReservation bytes))
      | _ => w
  | .add =>
      match request with
      | some (.overReservation bytes) =>
          w.track id bytes (w.allocatedBytes + (round256 bytes).toInt64)
      | _ => w
  | .charge =>
      match request with
      | some (.tracked bytes trackingSize) =>
          match tryAdd w.totalAllocatedBytes trackingSize w.capacity with
          | (true, postAllocationSize) =>
              { w with totalAllocatedBytes := postAllocationSize }.put id
                (some (.charged bytes trackingSize))
          | (false, _) => w.put id (some (.handling bytes trackingSize))
      | _ => w
  | .upstream result =>
      match request with
      | some (.charged bytes trackingSize) =>
          match result with
          | .ok _ => w.put id (some (.live bytes))
          | .error e =>
              match e.what? with
              | some _ => w.put id (some (.failing bytes trackingSize))
              | none => w.put id (some (.handling bytes trackingSize))
      | _ => w
  | .uncharge =>
      match request with
      | some (.failing bytes trackingSize) =>
          { w with totalAllocatedBytes := w.totalAllocatedBytes - trackingSize }.put
            id (some (.handling bytes trackingSize))
      | _ => w
  | .retry =>
      match request with
      | some (.handling bytes trackingSize) =>
          w.put id (some (.tracked bytes trackingSize))
      | _ => w
  | .rollback =>
      match request with
      | some (.handling bytes _) =>
          { w with
            allocatedBytes := w.allocatedBytes - (round256 bytes).toInt64 }.put id
              none
      | _ => w
  | .deallocate =>
      match request with
      | some (.live bytes) =>
          let trackingBytes := round256 bytes
          let postDeallocationSize := w.allocatedBytes - trackingBytes.toInt64
          { w with allocatedBytes := postDeallocationSize }.put id
            (some (.freeing (Adaptor.upstreamReclaimedBytes trackingBytes w.size
              postDeallocationSize)))
      | _ => w
  | .reclaim =>
      match request with
      | some (.freeing upstreamReclaimedBytes) =>
          { w with
            totalAllocatedBytes :=
              w.totalAllocatedBytes - upstreamReclaimedBytes }.put id none
      | _ => w

def next (w : StreamWorld) : StreamOp → StreamWorld
  | .request id step => w.step id (w.requests.lookup id) step
  | .othersTake bytes upperBound =>
      match tryAdd w.totalAllocatedBytes bytes upperBound with
      | (true, post) =>
          { w with
            totalAllocatedBytes := post
            others := w.others + bytes.toNat }
      | (false, _) => w
  | .othersGive bytes =>
      { w with
        totalAllocatedBytes := w.totalAllocatedBytes - bytes
        others := w.others - bytes.toNat }

/-- Others give back what they hold. A block is freed once and with its own
size, which `step` sees to. -/
def Proper (w : StreamWorld) : StreamOp → Prop
  | .othersGive bytes => bytes.toNat ≤ w.others
  | _ => True

instance (w : StreamWorld) : (op : StreamOp) → Decidable (w.Proper op)
  | .othersGive _ => inferInstanceAs (Decidable (_ ≤ _))
  | .request _ _ | .othersTake _ _ => inferInstanceAs (Decidable True)

/-- The reservation has just been attached. -/
def Fresh (w : StreamWorld) : Prop :=
  0 ≤ w.size.toInt ∧ w.allocatedBytes = 0 ∧ w.requests = ∅ ∧
    (w.totalAllocatedBytes.toNat : Int) = w.size.toInt + w.others

/-- Any threads, one atomic step at a time. -/
def machine : Machine StreamWorld StreamOp where
  start := Fresh
  legal := Proper
  next := next

end StreamWorld

end CuCascade.Memory

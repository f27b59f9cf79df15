import CuCascade.Lib.Machine
import CuCascade.Memory.HostResource

/-!
# A host pool and its users

The resource together with the `multiple_blocks_allocation` objects its users
have not destroyed. Arenas and allocations are numbered by one counter, so the
address of a destroyed arena does not come back: the resource tells a live
reservation from a dead one by its address alone. The upstream resource gives
what it is asked for.
-/

namespace CuCascade.Memory

structure HostWorld where
  res : HostResource
  allocations : Table Nat MultipleBlocksAllocation
  nextId : Nat

inductive HostOp where
  | reserve (bytes : UInt64)
  | reserveUpto (bytes : UInt64)
  | growBy (p : Addr) (bytes : UInt64)
  | shrinkToFit (p : Addr)
  /-- destroy a reservation -/
  | release (p : Addr)
  /-- `allocate_multiple_blocks`, with or without a reservation; `upstream` are
  the addresses of the pools it may come to add -/
  | allocate (totalBytes : UInt64) (res : Option Addr) (upstream : Nat → Addr)
  /-- destroy an allocation -/
  | free (id : Nat)

namespace HostWorld

def fresh (memoryLimit memoryCapacity blockSize poolSize : UInt64)
    (initialPools : List Addr) : HostWorld :=
  ⟨.create memoryLimit memoryCapacity blockSize poolSize initialPools, ∅, 0⟩

def next (w : HostWorld) : HostOp → HostWorld
  | .reserve bytes =>
      { w with
        res := (w.res.reserve w.nextId bytes none).2
        nextId := w.nextId + 1 }
  | .reserveUpto bytes =>
      { w with
        res := (w.res.reserveUpto w.nextId bytes none).2
        nextId := w.nextId + 1 }
  | .growBy p bytes => { w with res := (w.res.growBy p bytes).1 }
  | .shrinkToFit p => { w with res := (w.res.shrinkToFit p).1 }
  | .release p => { w with res := (w.res.destroyArena p).1 }
  | .allocate totalBytes res upstream =>
      match w.res.allocateMultipleBlocks totalBytes (res.map some)
        (fun pool _ => .ok (upstream pool)) with
      | (r, .ok (some a)) =>
          { res := r
            allocations := w.allocations.insert w.nextId a
            nextId := w.nextId + 1 }
      | (r, _) => { w with res := r }
  | .free id =>
      match w.allocations.lookup id with
      | none => w
      | some a =>
          { w with
            res := (w.res.destroyAllocation a).1
            allocations := w.allocations.erase id }

/-- The users refer only to reservations and allocations that are live. -/
def Proper (w : HostWorld) : HostOp → Prop
  | .reserve _ | .reserveUpto _ => True
  | .growBy p _ | .shrinkToFit p | .release p => p ∈ w.res.activeReservations
  | .allocate _ res _ => ∀ p ∈ res, p ∈ w.res.activeReservations
  | .free id => id ∈ w.allocations

instance (w : HostWorld) : (op : HostOp) → Decidable (w.Proper op)
  | .reserve _ | .reserveUpto _ => isTrue trivial
  | .growBy _ _ | .shrinkToFit _ | .release _ =>
      inferInstanceAs (Decidable (_ ∈ w.res.activeReservations))
  | .allocate _ res _ => inferInstanceAs (Decidable (∀ p ∈ res, _))
  | .free _ => inferInstanceAs (Decidable (_ ∈ w.allocations))

/-- One pool and users who call in turn, keeping to `legal`. -/
def machine (legal : HostWorld → HostOp → Prop) : Machine HostWorld HostOp where
  start w := ∃ limit capacity blockSize poolSize initialPools,
    w = fresh limit capacity blockSize poolSize initialPools
  legal := legal
  next := next

end HostWorld

end CuCascade.Memory

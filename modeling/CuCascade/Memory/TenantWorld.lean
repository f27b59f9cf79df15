import CuCascade.Memory.TierWorlds

/-!
# A host pool whose reservations have identities

`chunked_reserved_area` and its tracker carry a `uuid` that is drawn from a
counter and never compared. Here it is kept beside the pool, as a ghost: which
reservation lives at an address, and under which one an allocation was made.
No function of the pool reads it, and the addresses are the caller's to choose,
so that a later reservation may lie where an earlier one lay.

The users keep to live objects. What they allocate, and under which
reservation, is theirs to decide, and the upstream may throw.
-/

namespace CuCascade.Memory

structure TenantWorld where
  tier : HostTier
  /-- the `uuid` of the reservation at an address -/
  tenants : Table Addr Nat
  /-- the `uuid` of the reservation an allocation was made under -/
  owners : Table Nat Nat
  /-- `uid_counter` -/
  uidCounter : Nat

namespace TenantWorld

def fresh (memoryLimit memoryCapacity blockSize poolSize : UInt64)
    (initialPools : List Addr) : TenantWorld :=
  ⟨.fresh memoryLimit memoryCapacity blockSize poolSize initialPools, ∅, ∅, 0⟩

/-- The arena made at `self`, if one was, draws its `uuid`. -/
def moveIn (w : TenantWorld) (self : Addr) : TenantWorld :=
  if self ∈ w.tier.res.arenas then
    { w with
      tenants := w.tenants.insert self (w.uidCounter + 1)
      uidCounter := w.uidCounter + 1 }
  else w

/-- The allocation made as `id`, if one was, remembers its reservation. -/
def signOut (w : TenantWorld) (id : Nat) (res : Option Addr) : TenantWorld :=
  match res.bind w.tenants.lookup with
  | some uuid =>
      if id ∈ w.tier.allocations then
        { w with owners := w.owners.insert id uuid }
      else w
  | none => w

def next (w : TenantWorld) (op : HostTierOp) : TenantWorld :=
  let w' := { w with tier := w.tier.next op }
  match op with
  | .reserve self _ | .reserveUpto self _ => w'.moveIn self
  | .growBy _ _ | .shrinkToFit _ => w'
  | .release p => { w' with tenants := w.tenants.erase p }
  | .allocate id _ res _ => w'.signOut id res
  | .free id => { w' with owners := w.owners.erase id }

/-- Only live objects are used, and a new one lies where none is. -/
def Proper (w : TenantWorld) : HostTierOp → Prop
  | .reserve self _ | .reserveUpto self _ => self ∉ w.tier.res.arenas
  | .growBy p _ | .shrinkToFit p | .release p => p ∈ w.tier.res.arenas
  | .allocate id _ res _ =>
      id ∉ w.tier.allocations ∧ ∀ p ∈ res, p ∈ w.tier.res.arenas
  | .free id => id ∈ w.tier.allocations

instance (w : TenantWorld) : (op : HostTierOp) → Decidable (w.Proper op)
  | .reserve _ _ | .reserveUpto _ _ =>
      inferInstanceAs (Decidable (_ ∉ w.tier.res.arenas))
  | .growBy _ _ | .shrinkToFit _ | .release _ =>
      inferInstanceAs (Decidable (_ ∈ w.tier.res.arenas))
  | .allocate id _ res _ => inferInstanceAs (Decidable
      (id ∉ w.tier.allocations ∧ ∀ p ∈ res, p ∈ w.tier.res.arenas))
  | .free _ => inferInstanceAs (Decidable (_ ∈ w.tier.allocations))

def machine : Machine TenantWorld HostTierOp where
  start w := ∃ limit capacity blockSize poolSize initialPools,
    w = fresh limit capacity blockSize poolSize initialPools
  legal := Proper
  next := next

/-- The reservation that the allocation was made under has been released. -/
def Outlives (w : TenantWorld) (id : Nat) : Prop :=
  ∃ uuid ∈ w.owners.lookup id, ∀ e ∈ w.tenants.entries, e.2 ≠ uuid

instance (w : TenantWorld) (id : Nat) : Decidable (w.Outlives id) :=
  inferInstanceAs (Decidable (∃ uuid ∈ w.owners.lookup id, _))

end TenantWorld

end CuCascade.Memory

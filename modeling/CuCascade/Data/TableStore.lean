import CuCascade.Data.HostConversion
import CuCascade.Memory.HostWorld

/-!
# Tables on devices and in host spaces

The representations that the library defines, in a process with any number of devices and
host spaces. A built-in converter makes a new representation out of one that is there, on
a device or in the blocks of a host space, and leaves the old one; a representation that
is destroyed gives its blocks back. Others allocate blocks of the same host spaces too, and
write to them what they like.

What else decides how a call goes is part of the call: what the upstream of a host space
answers, and what a device has in the memory it hands out. A converter is run with as many
turns of its loop as there are bytes.
-/

namespace CuCascade.Data

open Memory

/-- `convert_gpu_to_gpu`; the target is given by its id and the memory its allocator hands
out. -/
def convertGpuToGpu {T : Type} (cudf : Cudf T) (ndebug : Bool)
    (allocator : UInt64 → Except Exception (Nat → UInt8))
    (source : GpuTableRepresentation T) (targetId : MemorySpaceId) :
    Except Failure (GpuTableRepresentation T) :=
  let packedData := cudf.pack source.table
  if source.memorySpaceId.deviceId = targetId.deviceId ∧ ndebug = false then
    .error (.assertion "source.get_device_id() != target_memory_space->get_device_id()")
  else
    let bytesToCopy := packedData.gpuData.size
    match allocator bytesToCopy with
    | .error e => .error (.thrown e)
    | .ok dstUvector =>
        match copyBytes dstUvector bytesToCopy 0 packedData.gpuData.byteAt bytesToCopy 0
          bytesToCopy with
        | .error e => .error e
        | .ok dstUvector =>
            let newGpuData := DeviceBuffer.ofRegion bytesToCopy dstUvector
            .ok ⟨cudf.unpack packedData.metadata newGpuData, targetId⟩

/-! ## A host space and its other users -/

/-- A host space, with the allocations of its other users. -/
structure SharedHost extends HostSpace where
  allocations : Table Nat MultipleBlocksAllocation
  nextId : Nat

namespace SharedHost

/-- A call on the resource of the space. -/
def onPool (h : SharedHost) (f : HostWorld → HostWorld) : SharedHost :=
  match h.memoryResource with
  | none => h
  | some mr =>
      let w := f ⟨mr, h.allocations, h.nextId⟩
      ⟨h.withResource w.res, w.allocations, w.nextId⟩

def allocate (totalBytes : UInt64) (res : Option Addr)
    (upstream : Nat → UInt64 → Except Exception Addr) (w : HostWorld) : HostWorld :=
  match w.res.allocateMultipleBlocks totalBytes (res.map some) upstream with
  | (r, .ok (some a)) => ⟨r, w.allocations.insert w.nextId a, w.nextId + 1⟩
  | (r, .ok none) | (r, .error _) => { w with res := r }

/-- A user writes to the blocks of an allocation of its own. -/
def write (h : SharedHost) (id : Nat) (contents : HostMemory) : SharedHost :=
  match h.allocations.lookup id with
  | none => h
  | some a =>
      { h with memory := fun b => if b ∈ a.blocks then contents b else h.memory b }

/-- The destructor of a `host_table_allocation`. -/
def giveBack (h : SharedHost) (table : HostTableAllocation) : SharedHost :=
  h.onPool fun w => { w with res := (w.res.destroyAllocation table.allocation).1 }

end SharedHost

/-! ## The store -/

/-- A representation; one on the host is in the host space of this number. -/
inductive StoredTable (T : Type) where
  | gpu (table : GpuTableRepresentation T)
  | host (host : Nat) (table : HostTableRepresentation)

def StoredTable.memorySpaceId {T : Type} : StoredTable T → MemorySpaceId
  | .gpu table => table.memorySpaceId
  | .host _ table => table.memorySpaceId

/-- The host spaces, and the representations that exist. -/
structure TableStore (T : Type) where
  hosts : Table Nat SharedHost
  tables : Table Addr (StoredTable T)

inductive StoreOp (T : Type) where
  /-- a representation made of a table on a device -/
  | create (i : Addr) (table : T) (gpu : MemorySpaceId)
  /-- `convert` to `host_table_representation`; the result is put at `i` -/
  | toHost (src i : Addr) (host : Nat) (upstream : Nat → UInt64 → Except Exception Addr)
  /-- `convert` to `gpu_table_representation` -/
  | toGpu (src i : Addr) (gpu : MemorySpaceId)
      (allocator : UInt64 → Except Exception (Nat → UInt8))
  | destroy (i : Addr)
  /-- another user of a host space allocates blocks -/
  | allocate (host : Nat) (totalBytes : UInt64) (res : Option Addr)
      (upstream : Nat → UInt64 → Except Exception Addr)
  | write (host : Nat) (id : Nat) (contents : HostMemory)
  /-- any other call on the resource of a host space -/
  | call (host : Nat) (op : HostOp)

/-- The representation that a call destroys. -/
def StoreOp.destroyed {T : Type} : StoreOp T → Option Addr
  | .destroy i => some i
  | _ => none

namespace TableStore

variable {T : Type}

def atHost (w : TableStore T) (k : Nat) (f : SharedHost → SharedHost) : TableStore T :=
  match w.hosts.lookup k with
  | none => w
  | some h => { w with hosts := w.hosts.insert k (f h) }

/-- What a converter finds of a representation. -/
def sourceOf (w : TableStore T) : StoredTable T → Option (TableSource T)
  | .gpu table => some (.gpu table)
  | .host k table => (w.hosts.lookup k).map fun h => .host table h.memory

def convertToHost (w : TableStore T) (cudf : Cudf T) (ndebug : Bool) (s : StoredTable T)
    (host : Nat) (upstream : Nat → UInt64 → Except Exception Addr) :
    Option (Result (TableStore T) (StoredTable T)) :=
  match w.sourceOf s, w.hosts.lookup host with
  | some source, some target =>
      (source.convert cudf ndebug upstream (source.size cudf).toNat
        target.toHostSpace).map fun (space, result) =>
          ({ w with hosts := w.hosts.insert host { target with toHostSpace := space } },
            result.map (.host host))
  | _, _ => some (w, .error .nullDereference)

def convertToGpu (w : TableStore T) (cudf : Cudf T) (ndebug : Bool) (s : StoredTable T)
    (gpu : MemorySpaceId) (allocator : UInt64 → Except Exception (Nat → UInt8)) :
    Option (Except Failure (GpuTableRepresentation T)) :=
  match w.sourceOf s with
  | none => some (.error .nullDereference)
  | some (.gpu table) => some (convertGpuToGpu cudf ndebug allocator table gpu)
  | some (.host table memory) =>
      convertHostToGpu cudf allocator table.hostTable.dataSize.toNat table memory gpu

def destroy (w : TableStore T) (i : Addr) : TableStore T :=
  match w.tables.lookup i with
  | none => w
  | some (.gpu _) => { w with tables := w.tables.erase i }
  | some (.host k table) =>
      { w.atHost k (·.giveBack table.hostTable) with tables := w.tables.erase i }

def next (cudf : Cudf T) (ndebug : Bool) (w : TableStore T) : StoreOp T → TableStore T
  | .create i table gpu => { w with tables := w.tables.insert i (.gpu ⟨table, gpu⟩) }
  | .toHost src i host upstream =>
      match (w.tables.lookup src).bind (w.convertToHost cudf ndebug · host upstream) with
      | none => w
      | some (w, .error _) => w
      | some (w, .ok s) => { w with tables := w.tables.insert i s }
  | .toGpu src i gpu allocator =>
      match (w.tables.lookup src).bind (w.convertToGpu cudf ndebug · gpu allocator) with
      | some (.ok table) => { w with tables := w.tables.insert i (.gpu table) }
      | _ => w
  | .destroy i => w.destroy i
  | .allocate host totalBytes res upstream =>
      w.atHost host (·.onPool (SharedHost.allocate totalBytes res upstream))
  | .write host id contents => w.atHost host (·.write id contents)
  | .call host op => w.atHost host (·.onPool (·.next op))

/-- A new representation has an address of its own. -/
def Proper (w : TableStore T) : StoreOp T → Prop
  | .create i _ _ | .toHost _ i _ _ | .toGpu _ i _ _ => i ∉ w.tables
  | .call _ (.allocate _ _ _) => False
  | _ => True

instance (w : TableStore T) : (op : StoreOp T) → Decidable (w.Proper op)
  | .create i _ _ | .toHost _ i _ _ | .toGpu _ i _ _ =>
      inferInstanceAs (Decidable (i ∉ w.tables))
  | .destroy _ | .allocate _ _ _ _ | .write _ _ _ => inferInstanceAs (Decidable True)
  | .call _ (.allocate _ _ _) => inferInstanceAs (Decidable False)
  | .call _ (.reserve _) | .call _ (.reserveUpto _) | .call _ (.growBy _ _)
  | .call _ (.shrinkToFit _) | .call _ (.release _) | .call _ (.free _) =>
      inferInstanceAs (Decidable True)

/-- Host spaces as their constructors leave them, and no tables. -/
def Fresh (w : TableStore T) : Prop :=
  w.tables = ∅ ∧ w.hosts.All fun _ h => h.allocations = ∅ ∧
    ∀ mr ∈ h.memoryResource, ∃ limit capacity blockSize poolSize initialPools,
      mr = .create limit capacity blockSize poolSize initialPools

def machine (cudf : Cudf T) (ndebug : Bool) : Machine (TableStore T) (StoreOp T) where
  start := Fresh
  legal := Proper
  next := next cudf ndebug

end TableStore

/-! ## What it is for -/

/-- Tables that are kept under a name, and nothing else. -/
abbrev Shelf (T : Type) := Table Addr T

inductive ShelfOp (T : Type) where
  | put (i : Addr) (table : T)
  | copy (src i : Addr)
  | drop (i : Addr)

namespace Shelf

variable {T : Type}

def next (t : Shelf T) : ShelfOp T → Shelf T
  | .put i table => t.insert i table
  | .copy src i => ((t.lookup src).map (t.insert i)).getD t
  | .drop i => t.erase i

/-- What is taken is there, and what is new has a name of its own. -/
def Proper (t : Shelf T) : ShelfOp T → Prop
  | .put i _ => i ∉ t
  | .copy src i => src ∈ t ∧ i ∉ t
  | .drop i => i ∈ t

def machine : Machine (Shelf T) (ShelfOp T) where
  start t := t = ∅
  legal := Proper
  next := next

end Shelf

/-- What a call is to the tables. A conversion that does not come to its end is nothing. -/
def TableStore.amounts {T : Type} (cudf : Cudf T) (ndebug : Bool) (w : TableStore T) :
    StoreOp T → List (ShelfOp T)
  | .create i table _ => [.put i table]
  | .toHost src i host upstream =>
      if i ∈ (w.next cudf ndebug (.toHost src i host upstream)).tables then [.copy src i]
      else []
  | .toGpu src i gpu allocator =>
      if i ∈ (w.next cudf ndebug (.toGpu src i gpu allocator)).tables then [.copy src i]
      else []
  | .destroy i => if i ∈ w.tables then [.drop i] else []
  | .allocate _ _ _ _ | .write _ _ _ | .call _ _ => []

/-- What is unpacked is what was packed. -/
def Cudf.Faithful {T : Type} (cudf : Cudf T) : Prop :=
  ∀ t, cudf.unpack (cudf.pack t).metadata (cudf.pack t).gpuData = t

namespace TableStore

variable {T : Type}

/-- What there is of this table: it is on a device, or it comes back to any device that has
the memory for it. -/
def Yields (w : TableStore T) (cudf : Cudf T) (ndebug : Bool) (table : T) :
    StoredTable T → Prop
  | .gpu source => source.table = table
  | .host k source => ∀ gpu allocator, (∀ size, ∃ region, allocator size = .ok region) →
      w.convertToGpu cudf ndebug (.host k source) gpu allocator = some (.ok ⟨table, gpu⟩)

/-- The store has what is on the shelf, and every converter returns. -/
structure Keeps (w : TableStore T) (cudf : Cudf T) (ndebug : Bool) (t : Shelf T) : Prop where
  same : ∀ i, i ∈ w.tables ↔ i ∈ t
  yields : ∀ i s table, w.tables.lookup i = some s → t.lookup i = some table →
    w.Yields cudf ndebug table s
  returns : ∀ i s, w.tables.lookup i = some s →
    (∀ host upstream, (w.convertToHost cudf ndebug s host upstream).isSome) ∧
    ∀ gpu allocator, (w.convertToGpu cudf ndebug s gpu allocator).isSome

end TableStore

end CuCascade.Data

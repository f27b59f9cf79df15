import CuCascade.Lib.Extents
import CuCascade.Memory.HostWorld

/-!
# `numa_region_pinned_host_memory_resource`

Where the pools of the host tier come from, and where they go. The resource takes
memory from the system and makes it known to CUDA: in one call, or for a NUMA node in
two, of which the second may fail when the first has taken the memory. Each host
resource calls it for its pools, in the constructor and when it runs out of blocks,
and gives them back in its destructor.

The memory of the system is the table of what is taken. What the system and CUDA
answer is a parameter, call by call; the exceptions are those that the macros of
`rmm` make of an error. A call that neither of them allows ends in `none`.
-/

namespace CuCascade.Memory

open Utils

/-- Memory that is taken, with its node, `-1` if `cudaHostAlloc` has taken it. -/
structure Region where
  numaNode : Int
  bytes : UInt64
  /-- CUDA knows it -/
  registered : Bool
deriving DecidableEq, Repr

def Region.size (region : Region) : Nat := region.bytes.toNat

abbrev SystemMemory := Table Addr Region

/-- How the calls of one allocation end. -/
inductive SystemAnswer where
  | memory (p : Addr)
  | refused (e : Exception)
  /-- `numa_alloc_onnode` has given memory, and `cudaHostRegister` fails -/
  | unregistered (p : Addr) (e : Exception)
deriving DecidableEq, Repr

/-- Of a system that has answered all it answers. -/
def SystemAnswer.last : SystemAnswer := .refused .other

/-- `numa_region_pinned_host_memory_resource` -/
structure PinnedHostResource where
  numaNode : Int
deriving DecidableEq, Repr

namespace PinnedHostResource

def doAllocate (mr : PinnedHostResource) (memory : SystemMemory) (bytes : UInt64)
    (answer : SystemAnswer) : SystemMemory × Except Exception Addr :=
  if bytes = 0 then (memory, .ok 0)
  else if mr.numaNode = -1 then
    -- `cudaHostAlloc`: there is no second call
    match answer with
    | .memory p => (memory.insert p ⟨-1, bytes, true⟩, .ok p)
    | .refused e | .unregistered _ e => (memory, .error e)
  else
    match answer with
    | .memory p => (memory.insert p ⟨mr.numaNode, bytes, true⟩, .ok p)
    | .refused e => (memory, .error e)
    | .unregistered p e => (memory.insert p ⟨mr.numaNode, bytes, false⟩, .error e)

def doDeallocate (mr : PinnedHostResource) (memory : SystemMemory) (ptr : Addr)
    (bytes : UInt64) : Option SystemMemory :=
  match memory.lookup ptr with
  | none => none
  | some region =>
      if mr.numaNode = -1 then
        -- `cudaFreeHost` knows the size itself
        if region.numaNode = -1 then some (memory.erase ptr) else none
      else if region.numaNode ≠ -1 ∧ region.registered = true ∧ region.bytes = bytes then
        some (memory.erase ptr)
      else none

/-- The loop of the constructor of a host resource: one pool for each answer. An
exception leaves the pools before it where they are. -/
def initialPools (mr : PinnedHostResource) (bytes : UInt64) :
    List SystemAnswer → SystemMemory → SystemMemory × Except Exception (List Addr)
  | [], memory => (memory, .ok [])
  | answer :: answers, memory =>
      match mr.doAllocate memory bytes answer with
      | (memory, .error e) => (memory, .error e)
      | (memory, .ok p) =>
          match mr.initialPools bytes answers memory with
          | (memory, .error e) => (memory, .error e)
          | (memory, .ok pools) => (memory, .ok (p :: pools))

/-- The memory after that many turns of the loop of `allocate_multiple_blocks`, for which
only the number of the free blocks counts: a turn that finds none asks for a pool. -/
def afterTurns (mr : PinnedHostResource) (bytes : UInt64) (poolSize : Nat) :
    Nat → Nat → List SystemAnswer → SystemMemory → SystemMemory
  | 0, _, _, memory => memory
  | n + 1, free + 1, answers, memory => mr.afterTurns bytes poolSize n free answers memory
  | n + 1, 0, answers, memory =>
      match mr.doAllocate memory bytes (answers.headD .last) with
      | (memory, .error _) => memory
      | (memory, .ok _) =>
          match poolSize with
          | 0 => memory
          | free + 1 => mr.afterTurns bytes poolSize n free answers.tail memory

end PinnedHostResource

namespace HostResource

/-- What `expand_pool` asks the upstream for. -/
def poolBytes (r : HostResource) : UInt64 := r.blockSize * r.poolSize

/-- The pointer to a block, `i * _block_size` past its pool. -/
def pointer (r : HostResource) (b : Block) : Option Nat :=
  r.allocatedBlocks[b.pool]?.map fun base =>
    base + (UInt64.ofNat b.index * r.blockSize).toNat

/-- `allocate_multiple_blocks` comes to its loop: the reservation is one of this
resource, if there is one, and the capacity admits the charge. -/
def entersLoop (r : HostResource) (totalBytes : UInt64) (res : Option Addr) : Bool :=
  let rounded := alignUp totalBytes r.blockSize
  totalBytes ≠ 0 && r.blockSize ≠ 0 &&
    match res with
    | none => (tryAdd r.allocatedBytes rounded r.memoryCapacity).1
    | some p =>
        match r.activeReservations.lookup p, r.arenas.lookup p with
        | some pre, some arena =>
            (tryAdd r.allocatedBytes
              (upstreamTrackedBytes rounded arena.size pre (pre + rounded.toInt64))
              r.memoryCapacity).1
        | _, _ => false

/-- What `allocate_multiple_blocks` does with the memory of the system. -/
def pinnedAfter (r : HostResource) (mr : PinnedHostResource) (totalBytes : UInt64)
    (res : Option Addr) (answers : List SystemAnswer) (memory : SystemMemory) : SystemMemory :=
  if r.entersLoop totalBytes res then
    mr.afterTurns r.poolBytes r.poolSize.toNat
      (alignUp totalBytes r.blockSize / r.blockSize).toNat r.freeBlocks.length answers memory
  else memory

/-- The destructor. -/
def destroy (r : HostResource) (mr : PinnedHostResource) (memory : SystemMemory) :
    Option SystemMemory :=
  r.allocatedBlocks.foldlM (fun memory block => mr.doDeallocate memory block r.poolBytes) memory

end HostResource

/-! ## The host spaces of a process -/

/-- A host resource with its users, and the resource its pools come from. -/
structure PinnedSpace where
  mr : PinnedHostResource
  host : HostWorld

/-- What the upstream answers to `expand_pool`; it does not depend on what else is taken. -/
def PinnedSpace.upstream (s : PinnedSpace) (answers : List SystemAnswer) (pool : Nat)
    (bytes : UInt64) : Except Exception Addr :=
  (s.mr.doAllocate ∅ bytes
    (answers.getD (pool - s.host.res.allocatedBlocks.length) .last)).2

structure PinnedWorld where
  memory : SystemMemory
  spaces : Table Nat PinnedSpace

inductive PinnedOp where
  /-- the constructor, with as many answers as there are initial pools -/
  | construct (id : Nat) (numaNode : Int)
      (memoryLimit memoryCapacity blockSize poolSize : UInt64) (answers : List SystemAnswer)
  | allocate (id : Nat) (totalBytes : UInt64) (res : Option Addr) (answers : List SystemAnswer)
  /-- any other call on a resource, its arenas and its blocks -/
  | call (id : Nat) (op : HostOp)
  | destroy (id : Nat)

namespace PinnedWorld

def next (w : PinnedWorld) : PinnedOp → PinnedWorld
  | .construct id numaNode memoryLimit memoryCapacity blockSize poolSize answers =>
      let mr : PinnedHostResource := ⟨numaNode⟩
      match mr.initialPools (alignUp blockSize 16 * poolSize) answers w.memory with
      | (memory, .error _) => { w with memory := memory }
      | (memory, .ok pools) =>
          ⟨memory, w.spaces.insert id
            ⟨mr, .fresh memoryLimit memoryCapacity blockSize poolSize pools⟩⟩
  | .allocate id totalBytes res answers =>
      match w.spaces.lookup id with
      | none => w
      | some s =>
          let memory := s.host.res.pinnedAfter s.mr totalBytes res answers w.memory
          match s.host.res.allocateMultipleBlocks totalBytes (res.map some)
            (s.upstream answers) with
          | (r, .ok (some a)) =>
              ⟨memory, w.spaces.insert id
                ⟨s.mr, r, s.host.allocations.insert s.host.nextId a, s.host.nextId + 1⟩⟩
          | (r, _) => ⟨memory, w.spaces.insert id ⟨s.mr, { s.host with res := r }⟩⟩
  | .call id op =>
      match w.spaces.lookup id with
      | none => w
      | some s => { w with spaces := w.spaces.insert id ⟨s.mr, s.host.next op⟩ }
  | .destroy id =>
      match w.spaces.lookup id with
      | none => w
      | some s =>
          match s.host.res.destroy s.mr w.memory with
          | none => w
          | some memory => ⟨memory, w.spaces.erase id⟩

end PinnedWorld

def SystemAnswer.address : SystemAnswer → Option Addr
  | .memory p | .unregistered p _ => some p
  | .refused _ => none

/-- The system gives only memory that is not taken. -/
def PinnedHostResource.Promised (mr : PinnedHostResource) (bytes : UInt64) :
    List SystemAnswer → SystemMemory → Prop
  | [], _ => True
  | answer :: answers, memory =>
      (∀ p ∈ answer.address, Clear Region.size memory p bytes.toNat) ∧
        mr.Promised bytes answers (mr.doAllocate memory bytes answer).1

instance decidablePromised (mr : PinnedHostResource) (bytes : UInt64) :
    (answers : List SystemAnswer) → (memory : SystemMemory) →
      Decidable (mr.Promised bytes answers memory)
  | [], _ => isTrue trivial
  | _ :: answers, _ =>
      have := decidablePromised mr bytes answers
      inferInstanceAs (Decidable ((∀ p ∈ _, Clear Region.size _ p bytes.toNat) ∧ _))

namespace PinnedWorld

/-- The system keeps its promise, the size of a pool is a number of 64 bits and not zero,
and the users refer to what is there and destroy a resource after its allocations. -/
def Proper (w : PinnedWorld) : PinnedOp → Prop
  | .construct id numaNode _ _ blockSize poolSize answers =>
      id ∉ w.spaces ∧ 0 < (alignUp blockSize 16).toNat * poolSize.toNat ∧
        (alignUp blockSize 16).toNat * poolSize.toNat < 2 ^ 64 ∧
        (PinnedHostResource.mk numaNode).Promised (alignUp blockSize 16 * poolSize)
          answers w.memory
  | .allocate id _ res answers =>
      ∃ s ∈ w.spaces.lookup id, (∀ p ∈ res, p ∈ s.host.res.activeReservations) ∧
        s.mr.Promised s.host.res.poolBytes answers w.memory
  | .call _ (.allocate _ _ _) => False
  | .call id op => ∃ s ∈ w.spaces.lookup id, s.host.Proper op
  | .destroy id => ∃ s ∈ w.spaces.lookup id, s.host.allocations = ∅

instance (w : PinnedWorld) : (op : PinnedOp) → Decidable (w.Proper op)
  | .construct _ _ _ _ _ _ _ => inferInstanceAs (Decidable (_ ∧ _ ∧ _ ∧ _))
  | .allocate _ _ _ _ => inferInstanceAs (Decidable (∃ s ∈ _, _))
  | .call _ (.allocate _ _ _) => isFalse not_false
  | .call _ (.reserve _) | .call _ (.reserveUpto _) | .call _ (.growBy _ _)
  | .call _ (.shrinkToFit _) | .call _ (.release _) | .call _ (.free _) =>
      inferInstanceAs (Decidable (∃ s ∈ _, HostWorld.Proper _ _))
  | .destroy id =>
      have : DecidablePred fun s : PinnedSpace => s.host.allocations = ∅ := fun _ =>
        decidable_of_iff _ AList.count_eq_zero
      inferInstanceAs (Decidable (∃ s ∈ w.spaces.lookup id, s.host.allocations = ∅))

/-- The process and all its host spaces. -/
def machine : Machine PinnedWorld PinnedOp where
  start w := w = ⟨∅, ∅⟩
  legal := Proper
  next := next

end PinnedWorld

end CuCascade.Memory

import CuCascade.Data.RepositoryWorld

/-!
# A repository and the record of what went in and out

The repository with its clients and the threads that pop from it, next to two
lists: each pointer handed to `add_data_batch` with the index it was handed in
for, and each entry a pop took out with the index of its partition. An entry is
added when the call is made and taken out when the popping thread returns; both
happen under the mutex, so the lists are in the order of these calls.

A repository of `std::unique_ptr`s has the same functions but for
`get_data_batch_by_id`, which it refuses.
-/

namespace CuCascade.Data

open Memory

structure StorageWorld where
  world : RepositoryWorld
  added : List (Nat × Option Addr)
  popped : List (Nat × Option Addr)

inductive StorageOp where
  | call (op : RepositoryOp)
  | getUnsupported (batchId : UInt64) (targetState : Option BatchState)
      (partitionIdx : UInt64)

/-- What a call hands in. -/
def RepositoryOp.adds : RepositoryOp → List (Nat × Option Addr)
  | .addDataBatch b partitionIdx => [(partitionIdx.toNat, some b)]
  | _ => []

/-- The entry that a step of a popping thread takes out. -/
def RepositoryWorld.takesOut (w : RepositoryWorld) (p : Popper) :
    List (Nat × Option Addr) :=
  match p.pc with
  | .leaving i none =>
      if p.query.pops then
        (((w.partition p).bind (·[i]?)).map (p.partitionIdx.toNat, ·)).toList
      else []
  | _ => []

def RepositoryWorld.pops (w : RepositoryWorld) :
    RepositoryOp → List (Nat × Option Addr)
  | .step t =>
      match w.poppers.lookup t with
      | none => []
      | some p => w.takesOut p
  | _ => []

namespace StorageWorld

/-- What is in the partitions. -/
def stored (w : StorageWorld) : List (List (Option Addr)) :=
  w.world.repository.dataBatches

/-- What was handed in for a partition, in this order. -/
def addedTo (w : StorageWorld) (i : Nat) : List (Option Addr) :=
  (w.added.filter (·.1 = i)).map Prod.snd

def next (w : StorageWorld) : StorageOp → StorageWorld
  | .call op =>
      ⟨w.world.next op, w.added ++ op.adds, w.popped ++ w.world.pops op⟩
  | .getUnsupported batchId targetState partitionIdx =>
      let (repository, _) := w.world.repository.getDataBatchByIdUnsupported batchId
        targetState partitionIdx
      { w with world := { w.world with repository := repository } }

def Proper (w : StorageWorld) : StorageOp → Prop
  | .call op => w.world.Proper op
  | .getUnsupported _ _ _ => True

/-- An empty repository to which nothing has happened yet. -/
def Fresh (w : StorageWorld) : Prop :=
  w.world.Fresh ∧ w.added = [] ∧ w.popped = []

def machine : Machine StorageWorld StorageOp where
  start := Fresh
  legal := Proper
  next := next

/-- The partition a call works on. -/
def target (w : StorageWorld) : StorageOp → Option Nat
  | .call (.addDataBatch _ partitionIdx) => some partitionIdx.toNat
  | .call (.step t) => (w.world.poppers.lookup t).map (·.partitionIdx.toNat)
  | _ => none

end StorageWorld

end CuCascade.Data

import CuCascade.Data.DataRepositoryManager
import CuCascade.Lib.Scan

/-!
# The calls on a repository, each in one piece

The functions that look for a batch, from their entry to their return or their
first wait, with nobody else calling a batch meanwhile. Each is written from
its own text in the source: the two that look for an id are separate copies
there, one with the transition in a helper and one with a `switch` of its own.

A pointer to a batch may be null, and a method called through it is then an
access through a null pointer.
-/

namespace CuCascade.Data

open Memory

/-- What a call leaves: the batches, the partitions, the condition variable
that a batch has notified, and how the call ended. -/
structure Called where
  batches : Table Addr DataBatch
  dataBatches : List (List (Option Addr))
  notify : Option Addr
  found : Found

namespace DataRepository

/-- A method called through a pointer. -/
def callBatch (batches : Table Addr DataBatch) (batchPtr : Option Addr)
    (method : DataBatch → Outcome Bool) :
    Table Addr DataBatch × Option Addr × Except Failure Bool :=
  match batchPtr with
  | none => (batches, none, .error .nullDereference)
  | some b =>
      match batches.lookup b with
      | none => (batches, none, .error .nullDereference)
      | some batch =>
          let out := method batch
          (batches.insert b out.batch, out.notify, out.result)

/-- `try_transition_batch_for_pop`, given the pointer. -/
def tryTransitionPtrForPop (batches : Table Addr DataBatch)
    (batchPtr : Option Addr) :
    BatchState → Table Addr DataBatch × Option Addr × Except Failure Bool
  | .taskCreated => callBatch batches batchPtr DataBatch.tryToCreateTask
  | .processing => (batches, none, .error (.thrown (.runtimeError popRefusal)))
  | .inTransit => callBatch batches batchPtr DataBatch.tryToLockForInTransit
  | .idle => (batches, none, .ok false)

/-- The body of the loop of `pop_data_batch`: it stops with what it throws or
with the notification of the batch it takes. -/
def popBody (targetState : BatchState) (batches : Table Addr DataBatch)
    (batchPtr : Option Addr) :
    Table Addr DataBatch × Option (Except Failure (Option Addr)) :=
  match tryTransitionPtrForPop batches batchPtr targetState with
  | (batches, _, .error e) => (batches, some (.error e))
  | (batches, notify, .ok true) => (batches, some (.ok notify))
  | (batches, _, .ok false) => (batches, none)

/-- `throw std::out_of_range` for a partition that is not there. -/
def outOfRange (r : DataRepository) (batches : Table Addr DataBatch) : Called :=
  ⟨batches, r.dataBatches, none,
    some (.error (.thrown (.outOfRange "partition_idx out of range")))⟩

/-- The partitions without the entry at `i` of one of them. -/
def erased (r : DataRepository) (partitionIdx : UInt64)
    (entries : List (Option Addr)) (i : Nat) : List (List (Option Addr)) :=
  r.dataBatches.set partitionIdx.toNat (entries.eraseIdx i)

def popDataBatch (r : DataRepository) (batches : Table Addr DataBatch)
    (targetState : BatchState) (partitionIdx : UInt64) : Called :=
  match r.dataBatches[partitionIdx.toNat]? with
  | none => r.outOfRange batches
  | some entries =>
      if entries.isEmpty then ⟨batches, r.dataBatches, none, some (.ok none)⟩
      else
        match Scan.scan (popBody targetState) batches entries 0 with
        | (batches, some (_, .error e)) =>
            ⟨batches, r.dataBatches, none, some (.error e)⟩
        | (batches, some (i, .ok notify)) =>
            ⟨batches, r.erased partitionIdx entries i, notify,
              some (.ok entries[i]?.join)⟩
        -- `_cv.wait`
        | (batches, none) => ⟨batches, r.dataBatches, none, none⟩

/-- The body of a loop that looks for an id. -/
def idBody (batchId : UInt64) (batches : Table Addr DataBatch)
    (batchPtr : Option Addr) :
    Table Addr DataBatch × Option (Except Failure Unit) :=
  match batchPtr.bind batches.lookup with
  | none => (batches, some (.error .nullDereference))
  | some batch =>
      if batch.batchId = batchId then (batches, some (.ok ())) else (batches, none)

def popDataBatchById (r : DataRepository) (batches : Table Addr DataBatch)
    (batchId : UInt64) (targetState : Option BatchState) (partitionIdx : UInt64) :
    Called :=
  match r.dataBatches[partitionIdx.toNat]? with
  | none => r.outOfRange batches
  | some entries =>
      match Scan.scan (idBody batchId) batches entries 0 with
      | (batches, some (_, .error e)) =>
          ⟨batches, r.dataBatches, none, some (.error e)⟩
      | (batches, none) => ⟨batches, r.dataBatches, none, some (.ok none)⟩
      | (batches, some (i, .ok ())) =>
          let batchPtr := entries[i]?.join
          match targetState with
          | none =>
              ⟨batches, r.erased partitionIdx entries i, none, some (.ok batchPtr)⟩
          | some targetState =>
              match tryTransitionPtrForPop batches batchPtr targetState with
              | (batches, _, .error e) =>
                  ⟨batches, r.dataBatches, none, some (.error e)⟩
              | (batches, notify, .ok true) =>
                  ⟨batches, r.erased partitionIdx entries i, notify,
                    some (.ok batchPtr)⟩
              | (batches, _, .ok false) => ⟨batches, r.dataBatches, none, none⟩

/-- `get_data_batch_by_id` of a repository of `std::shared_ptr`s. -/
def getDataBatchById (r : DataRepository) (batches : Table Addr DataBatch)
    (batchId : UInt64) (targetState : Option BatchState) (partitionIdx : UInt64) :
    Called :=
  match r.dataBatches[partitionIdx.toNat]? with
  | none => r.outOfRange batches
  | some entries =>
      match Scan.scan (idBody batchId) batches entries 0 with
      | (batches, some (_, .error e)) =>
          ⟨batches, r.dataBatches, none, some (.error e)⟩
      | (batches, none) => ⟨batches, r.dataBatches, none, some (.ok none)⟩
      | (batches, some (i, .ok ())) =>
          let batchPtr := entries[i]?.join
          match targetState with
          | none => ⟨batches, r.dataBatches, none, some (.ok batchPtr)⟩
          | some targetState =>
              let switched := match targetState with
                | .taskCreated =>
                    callBatch batches batchPtr DataBatch.tryToCreateTask
                | .processing =>
                    (batches, none, .error (.thrown (.runtimeError getRefusal)))
                | .inTransit =>
                    callBatch batches batchPtr DataBatch.tryToLockForInTransit
                | .idle => (batches, none, .ok false)
              match switched with
              | (batches, _, .error e) =>
                  ⟨batches, r.dataBatches, none, some (.error e)⟩
              | (batches, notify, .ok true) =>
                  ⟨batches, r.dataBatches, notify, some (.ok batchPtr)⟩
              | (batches, _, .ok false) => ⟨batches, r.dataBatches, none, none⟩

/-- The call that a query stands for. -/
def call (r : DataRepository) (batches : Table Addr DataBatch)
    (partitionIdx : UInt64) : Query → Called
  | .popDataBatch targetState => r.popDataBatch batches targetState partitionIdx
  | .popDataBatchById batchId targetState =>
      r.popDataBatchById batches batchId targetState partitionIdx
  | .getDataBatchById batchId targetState =>
      r.getDataBatchById batches batchId targetState partitionIdx

/-- The body of the loop of `get_batch_ids`, which never stops of its own. -/
def idsBody (batches : Table Addr DataBatch) (batchIds : List UInt64)
    (batchPtr : Option Addr) : List UInt64 × Option Failure :=
  match batchPtr.bind batches.lookup with
  | none => (batchIds, some .nullDereference)
  | some batch => (batchIds ++ [batch.batchId], none)

def getBatchIds (r : DataRepository) (batches : Table Addr DataBatch)
    (partitionIdx : UInt64) : Except Failure (List UInt64) :=
  match r.dataBatches[partitionIdx.toNat]? with
  | none => .error (.thrown (.outOfRange "partition_idx out of range"))
  | some entries =>
      match Scan.scan (idsBody batches) [] entries 0 with
      | (_, some (_, e)) => .error e
      | (batchIds, none) => .ok batchIds

end DataRepository

/-- `add_data_batch` on the repository at `p`, one call after the other as long
as they return. -/
def ManagerWorld.addAll (w : ManagerWorld) (p : Addr) :
    List (Option Addr × UInt64) → Result ManagerWorld Unit
  | [] => (w, .ok ())
  | (batch, partitionIdx) :: adds =>
      match w.addTo p batch partitionIdx with
      | (w, .error e) => (w, .error e)
      | (w, .ok ()) => w.addAll p adds

end CuCascade.Data

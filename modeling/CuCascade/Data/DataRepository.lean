import CuCascade.Data.DataBatch
import CuCascade.Lib.Table

/-!
# `idata_repository`

Batches in partitions, and the three calls that look for one: two that pop and
one that copies the pointer. They share the loop, which goes over a partition
entry by entry; `look` is one turn of it. A turn that tries a batch is atomic
under the mutex of that batch alone, which is why the loop is not one function
here: between two turns other threads can call the methods of any batch.

Entries may be null, as `add_data_batch` lets them be. No loop checks for one,
and only a transition that calls no method of the batch gets past it.
-/

namespace CuCascade.Data

open Memory

/-- `cv` is the address of `_cv`. -/
structure DataRepository where
  cv : Addr
  dataBatches : List (List (Option Addr))

/-- The calls that look for a batch, without the partition they look in. -/
inductive Query where
  | popDataBatch (targetState : BatchState)
  | popDataBatchById (batchId : UInt64) (targetState : Option BatchState)
  | getDataBatchById (batchId : UInt64) (targetState : Option BatchState)
deriving DecidableEq, Repr

/-- What a turn of the loop comes to. -/
inductive Verdict where
  | goOn
  /-- the entry is the one; its batch is about to notify -/
  | take (notify : Option Addr)
  /-- `_cv.wait`, for the batch found if the call names one -/
  | wait (found : Option Addr)
  | finish (result : Except Failure (Option Addr))

namespace DataRepository

/-- The constructor: one empty partition. -/
def create (cv : Addr) : DataRepository := ⟨cv, [[]]⟩

/-- `resize` of the vector of partitions. -/
def resize (partitions : List (List (Option Addr))) (size : Nat) :
    List (List (Option Addr)) :=
  partitions.take size ++ List.replicate (size - partitions.length) []

/-- `add_data_batch` but for the batch, which is told the condition variable,
and the notification. The size to grow to is computed in a `size_t`. -/
def addDataBatch (r : DataRepository) (batch : Option Addr)
    (partitionIdx : UInt64) : Result DataRepository Unit :=
  let partitions :=
    if r.dataBatches.length ≤ partitionIdx.toNat then
      resize r.dataBatches (partitionIdx + 1).toNat
    else r.dataBatches
  match partitions[partitionIdx.toNat]? with
  | none => ({ r with dataBatches := partitions }, .error .outOfBounds)
  | some entries =>
      ({ r with
          dataBatches :=
            partitions.set partitionIdx.toNat (entries ++ [batch]) }, .ok ())

/-- The `switch` over the target; `refusal` is the text for the target that is
not allowed. -/
def tryTransition (refusal : String) (b : DataBatch) :
    BatchState → Outcome Bool
  | .taskCreated => b.tryToCreateTask
  | .processing => DataBatch.quiet b (.error (.thrown (.runtimeError refusal)))
  | .inTransit => b.tryToLockForInTransit
  | .idle => DataBatch.quiet b (.ok false)

def popRefusal : String :=
  "Pop operation cannot transition directly to processing; Pop with task_created and call try_to_lock_for_processing() on the batch"

def getRefusal : String :=
  "get_data_batch_by_id cannot transition directly to processing; use pop_data_batch with task_created and call try_to_lock_for_processing() on the batch"

def tryTransitionBatchForPop (b : DataBatch) (targetState : BatchState) :
    Outcome Bool :=
  tryTransition popRefusal b targetState

/-- What a turn comes to at a null entry. -/
def transitionNull : BatchState → Verdict
  | .taskCreated | .inTransit => .finish (.error .nullDereference)
  | .processing => .finish (.error (.thrown (.runtimeError popRefusal)))
  | .idle => .goOn

/-- A turn that tries the batch at `b`, and what it comes to if the batch
cannot make the transition. -/
def attempt (batches : Table Addr DataBatch) (b : Addr)
    (transition : DataBatch → Outcome Bool) (otherwise : Verdict) :
    Table Addr DataBatch × Verdict :=
  match batches.lookup b with
  | none => (batches, .finish (.error .nullDereference))
  | some batch =>
      let out := transition batch
      (batches.insert b out.batch,
        match out.result with
        | .error e => .finish (.error e)
        | .ok true => .take out.notify
        | .ok false => otherwise)

/-- A turn of the loop of `pop_data_batch`, at index `i` of the partition. -/
def lookAny (batches : Table Addr DataBatch) (entries : List (Option Addr))
    (i : Nat) (targetState : BatchState) : Table Addr DataBatch × Verdict :=
  if entries.isEmpty then (batches, .finish (.ok none))
  else
    match entries[i]? with
    | none => (batches, .wait none)
    | some none => (batches, transitionNull targetState)
    | some (some b) =>
        attempt batches b (tryTransitionBatchForPop · targetState) .goOn

/-- A turn of the loops that look for a batch by its id. Without a target the
first batch of that id is the one. -/
def lookById (batches : Table Addr DataBatch) (entries : List (Option Addr))
    (i : Nat) (refusal : String) (batchId : UInt64)
    (targetState : Option BatchState) : Table Addr DataBatch × Verdict :=
  match entries[i]? with
  | none => (batches, .finish (.ok none))
  | some none => (batches, .finish (.error .nullDereference))
  | some (some b) =>
      match batches.lookup b with
      | none => (batches, .finish (.error .nullDereference))
      | some batch =>
          if batch.batchId ≠ batchId then (batches, .goOn)
          else
            match targetState with
            | none => (batches, .take none)
            | some targetState =>
                attempt batches b (tryTransition refusal · targetState)
                  (.wait (some b))

/-- One turn of the loop of a call. -/
def look (batches : Table Addr DataBatch) (entries : List (Option Addr)) (i : Nat) :
    Query → Table Addr DataBatch × Verdict
  | .popDataBatch targetState => lookAny batches entries i targetState
  | .popDataBatchById batchId targetState =>
      lookById batches entries i popRefusal batchId targetState
  | .getDataBatchById batchId targetState =>
      lookById batches entries i getRefusal batchId targetState

/-- What becomes of a partition when the call returns the entry at `i`. -/
def remove (entries : List (Option Addr)) (i : Nat) :
    Query → List (Option Addr)
  | .popDataBatch _ | .popDataBatchById _ _ => entries.eraseIdx i
  | .getDataBatchById _ _ => entries

/-! ## What the repository says of itself -/

def numPartitions (r : DataRepository) : Nat := r.dataBatches.length

/-- `size`. What a vector holds is in memory, so its size fits a `size_t`. -/
def size (r : DataRepository) (partitionIdx : UInt64) : Except Failure Nat :=
  match r.dataBatches[partitionIdx.toNat]? with
  | none => .error (.thrown (.outOfRange "partition_idx out of range"))
  | some entries => .ok entries.length

def totalSize (r : DataRepository) : Nat :=
  r.dataBatches.foldl (fun total partition => total + partition.length) 0

def allEmpty (r : DataRepository) : Bool := r.dataBatches.all (·.isEmpty)

/-- `get_data_batch_by_id` of a repository of `std::unique_ptr`s. -/
def getDataBatchByIdUnsupported (r : DataRepository) (_batchId : UInt64)
    (_targetState : Option BatchState) (_partitionIdx : UInt64) :
    Result DataRepository (Option Addr) :=
  (r, .error (.thrown (.runtimeError
    "get_data_batch_by_id is not supported for unique_ptr repositories. Use pop_data_batch to move ownership instead.")))

end DataRepository

namespace Query

/-- The call takes the entry it returns out of the repository. -/
def pops : Query → Bool
  | .popDataBatch _ | .popDataBatchById _ _ => true
  | .getDataBatchById _ _ => false

/-- The transition asked for, if any. -/
def targetState : Query → Option BatchState
  | .popDataBatch targetState => some targetState
  | .popDataBatchById _ targetState | .getDataBatchById _ targetState => targetState

end Query

end CuCascade.Data

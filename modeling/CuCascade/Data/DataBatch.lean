import CuCascade.Memory.Common

/-!
# `data_batch`

The state of a batch and the methods that move it from one state to another. A
method does its work under the batch's own mutex, takes note there of the
condition variable to notify, and notifies it after the mutex is free. The
notification is a second event, which other threads can come before, so a
method leaves it in its outcome for the caller to send.

Both counters are unbounded here: a `size_t` would wrap only after 2^64 calls.
-/

namespace CuCascade.Data

open Memory

/-- `enum class batch_state`. -/
inductive BatchState where
  | idle | taskCreated | processing | inTransit
deriving DecidableEq, Repr

/-- An `idata_representation`: the object, and the id of the space its bytes
are in. -/
structure Representation where
  object : Addr
  memorySpaceId : MemorySpaceId
deriving DecidableEq, Repr

structure DataBatch where
  batchId : UInt64
  data : Option Representation
  processingCount : Nat
  taskCreatedCount : Nat
  state : BatchState
  stateChangeCv : Option Addr
deriving DecidableEq, Repr

inductive LockForProcessingStatus where
  | success | taskNotCreated | invalidState | memorySpaceMismatch | missingData
  | notAttempted
deriving DecidableEq, Repr

/-- `lock_for_processing_result`; the handle is the batch it points to. -/
structure LockForProcessingResult where
  success : Bool
  handle : Option Addr
  status : LockForProcessingStatus
deriving DecidableEq, Repr

/-- What a method leaves: the batch, the condition variable it is about to
notify, and what it returns or throws. -/
structure Outcome (α : Type) where
  batch : DataBatch
  notify : Option Addr
  result : Except Failure α

namespace DataBatch

/-- The constructor. -/
def create (batchId : UInt64) (data : Option Representation) : DataBatch :=
  ⟨batchId, data, 0, 0, .idle, none⟩

def setStateChangeCv (b : DataBatch) (cv : Option Addr) : DataBatch :=
  { b with stateChangeCv := cv }

/-- A method that changed the state and notifies. -/
def changed {α : Type} (b : DataBatch) (result : α) : Outcome α :=
  ⟨b, b.stateChangeCv, .ok result⟩

/-- A method that has nothing to tell. -/
def quiet {α : Type} (b : DataBatch) (result : Except Failure α) : Outcome α :=
  ⟨b, none, result⟩

def tryToCreateTask (b : DataBatch) : Outcome Bool :=
  match b.state with
  | .idle =>
      changed { b with
        state := .taskCreated
        taskCreatedCount := b.taskCreatedCount + 1 } true
  | .taskCreated | .processing =>
      quiet { b with taskCreatedCount := b.taskCreatedCount + 1 } (.ok true)
  | .inTransit => quiet b (.ok false)

def tryToCancelTask (b : DataBatch) : Outcome Bool :=
  match b.state with
  | .taskCreated | .processing =>
      if b.taskCreatedCount = 0 then
        quiet b (.error (.thrown (.runtimeError
          "Cannot cancel task: task_created_count is zero. try_to_create_task() must be called before try_to_cancel_task()")))
      else
        let b := { b with taskCreatedCount := b.taskCreatedCount - 1 }
        if b.taskCreatedCount = 0 ∧ b.processingCount = 0 then
          changed { b with state := .idle } true
        else quiet b (.ok true)
  | .idle | .inTransit => quiet b (.ok false)

/-- `try_to_lock_for_processing` on the batch at `this`. -/
def tryToLockForProcessing (b : DataBatch) (this : Addr)
    (requestedMemorySpace : MemorySpaceId) : Outcome LockForProcessingResult :=
  match b.data with
  | none => quiet b (.ok ⟨false, none, .missingData⟩)
  | some data =>
      if data.memorySpaceId ≠ requestedMemorySpace then
        quiet b (.ok ⟨false, none, .memorySpaceMismatch⟩)
      else if b.taskCreatedCount = 0 then
        quiet b (.ok ⟨false, none, .taskNotCreated⟩)
      else if ¬(b.state = .taskCreated ∨ b.state = .processing) then
        quiet b (.ok ⟨false, none, .invalidState⟩)
      else
        changed { b with
          taskCreatedCount := b.taskCreatedCount - 1
          processingCount := b.processingCount + 1
          state := .processing } ⟨true, some this, .success⟩

def tryToLockForInTransit (b : DataBatch) : Outcome Bool :=
  if b.processingCount = 0 ∧
      (b.state = .idle ∨ (b.state = .taskCreated ∧ 0 < b.taskCreatedCount)) then
    changed { b with state := .inTransit } true
  else quiet b (.ok false)

def tryToReleaseInTransit (b : DataBatch) (targetState : Option BatchState) :
    Outcome Bool :=
  if b.state = .inTransit then
    changed { b with state := targetState.getD .idle } true
  else quiet b (.ok false)

def decrementProcessingCount (b : DataBatch) : Outcome Unit :=
  if b.state ≠ .processing then
    quiet b (.error (.thrown (.runtimeError
      "Cannot decrement processing count: batch is not in processing state")))
  else if b.processingCount = 0 then
    quiet b (.error (.thrown (.runtimeError
      "Cannot decrement processing count: processing count is already zero")))
  else
    let b := { b with processingCount := b.processingCount - 1 }
    if b.processingCount = 0 then
      changed { b with
        state := if 0 < b.taskCreatedCount then .taskCreated else .idle } ()
    else quiet b (.ok ())

def setData (b : DataBatch) (data : Option Representation) : Outcome Unit :=
  if b.processingCount ≠ 0 then
    quiet b (.error (.thrown (.runtimeError
      "Cannot set data while there is active processing")))
  else quiet { b with data := data } (.ok ())

/-- `convert_to`; `convert` is the registry's answer for a representation. -/
def convertTo (b : DataBatch)
    (convert : Representation → Except Failure (Option Representation)) :
    Outcome Unit :=
  if b.processingCount ≠ 0 then
    quiet b (.error (.thrown (.runtimeError
      "Cannot convert representation while there is active processing")))
  else
    match b.data with
    | none => quiet b (.error .nullDereference)
    | some data =>
        match convert data with
        | .error e => quiet b (.error e)
        | .ok newRepresentation => quiet { b with data := newRepresentation } (.ok ())

/-- The move constructor: what it leaves of `other`, and the new batch. The
initializers run before the check. When the check fails, the members made so
far are destroyed, and the data with them. -/
def moveConstruct (other : DataBatch) : Result DataBatch DataBatch :=
  let batchId := other.batchId
  let data := other.data
  let other := { other with data := none }
  if other.processingCount ≠ 0 then
    (other, .error (.thrown (.runtimeError
      "Cannot move data_batch with active processing (processing_count != 0)")))
  else ({ other with batchId := 0 }, .ok (create batchId data))

/-- `operator=` for two different batches: what it leaves of `this` and of
`other`. Only `other` is locked and asked for its count. -/
def moveAssign (this other : DataBatch) : Result (DataBatch × DataBatch) Unit :=
  if other.processingCount ≠ 0 then
    ((this, other), .error (.thrown (.runtimeError
      "Cannot move data_batch with active processing (processing_count != 0)")))
  else
    (({ this with batchId := other.batchId, data := other.data },
      { other with batchId := 0, data := none }), .ok ())

end DataBatch

end CuCascade.Data

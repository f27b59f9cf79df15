import CuCascade.Data.DataBatch
import CuCascade.Lib.Machine
import CuCascade.Lib.Owners

/-!
# Batches, their processing handles and the clients

Any number of clients call the methods of any number of batches and pass
processing handles around. Each method is atomic under the mutex of its batch,
so an interleaving of the clients is a list of calls, in the order in which the
mutexes were taken. A handle belongs to one client at a time; what the client
does to the handle itself needs no mutex and happens together with the method
that the handle calls, if there is one.

`operator=` of a handle calls a method and then goes on to a second handle.
Other clients may come between, so it is two calls: `release dst`, and
`moveAssign dst src` for the rest.
-/

namespace CuCascade.Data

open Memory

/-- The batches, and the `_batch` of each `data_batch_processing_handle` that
exists. -/
structure BatchWorld where
  batches : Table Addr DataBatch
  handles : Table Addr (Option Addr)

inductive BatchOp where
  | tryToCreateTask (b : Addr)
  | tryToCancelTask (b : Addr)
  /-- `h` is where the handle of the result is put -/
  | tryToLockForProcessing (b : Addr) (space : MemorySpaceId) (h : Addr)
  | tryToLockForInTransit (b : Addr)
  | tryToReleaseInTransit (b : Addr) (targetState : Option BatchState)
  | release (h : Addr)
  /-- the destructor of a handle -/
  | destroy (h : Addr)
  /-- a handle made at `h` out of the one at `src` -/
  | moveConstruct (h src : Addr)
  /-- the part of `operator=` after its `release` -/
  | moveAssign (dst src : Addr)
deriving DecidableEq

namespace BatchWorld

/-- The outcome of a method called on the batch at `b`. -/
def call {α : Type} (w : BatchWorld) (b : Addr) (method : DataBatch → Outcome α) :
    Option (Outcome α) :=
  (w.batches.lookup b).map method

def store {α : Type} (w : BatchWorld) (b : Addr) (out : Outcome α) : BatchWorld :=
  { w with batches := w.batches.insert b out.batch }

def put (w : BatchWorld) (b : Addr) (batch : DataBatch) : BatchWorld :=
  { w with batches := w.batches.insert b batch }

/-- A method whose result the client keeps to itself. -/
def onBatch {α : Type} (w : BatchWorld) (b : Addr)
    (method : DataBatch → Outcome α) : BatchWorld × Option Addr :=
  match w.call b method with
  | none => (w, none)
  | some out => (w.store b out, out.notify)

/-- `release` of the handle at `h`. If the batch threw, `_batch` would keep its
value. -/
def releaseHandle (w : BatchWorld) (h : Addr) : BatchWorld × Option Addr :=
  match w.handles.lookup h with
  | some (some b) =>
      match w.call b DataBatch.decrementProcessingCount with
      | none => (w, none)
      | some out =>
          match out.result with
          | .error _ => (w.store b out, out.notify)
          | .ok () =>
              ({ w.store b out with handles := w.handles.insert h none },
                out.notify)
  | _ => (w, none)

/-- One call: the world it leaves, and the condition variable its method is
about to notify. -/
def perform (w : BatchWorld) : BatchOp → BatchWorld × Option Addr
  | .tryToCreateTask b => w.onBatch b (·.tryToCreateTask)
  | .tryToCancelTask b => w.onBatch b (·.tryToCancelTask)
  | .tryToLockForProcessing b space h =>
      match w.call b (·.tryToLockForProcessing b space) with
      | none => (w, none)
      | some out =>
          match out.result with
          | .error _ => (w.store b out, out.notify)
          | .ok r =>
              ({ w.store b out with handles := w.handles.insert h r.handle },
                out.notify)
  | .tryToLockForInTransit b => w.onBatch b (·.tryToLockForInTransit)
  | .tryToReleaseInTransit b targetState =>
      w.onBatch b (·.tryToReleaseInTransit targetState)
  | .release h => w.releaseHandle h
  | .destroy h =>
      let (w, notify) := w.releaseHandle h
      ({ w with handles := w.handles.erase h }, notify)
  | .moveConstruct h src =>
      match w.handles.lookup src with
      | none => (w, none)
      | some p =>
          ({ w with handles := (w.handles.insert src none).insert h p }, none)
  | .moveAssign dst src =>
      if dst = src then (w, none)
      else
        match w.handles.lookup src with
        | none => (w, none)
        | some p =>
            ({ w with handles := (w.handles.insert src none).insert dst p }, none)

/-- A method call names a batch that exists, a new handle is put where there
is none, and the rest of `operator=` follows the `release` of its target. -/
def Proper (w : BatchWorld) : BatchOp → Prop
  | .tryToCreateTask b | .tryToCancelTask b | .tryToLockForInTransit b
  | .tryToReleaseInTransit b _ => b ∈ w.batches
  | .tryToLockForProcessing b _ h => b ∈ w.batches ∧ h ∉ w.handles
  | .release h | .destroy h => h ∈ w.handles
  | .moveConstruct h src => h ∉ w.handles ∧ src ∈ w.handles
  | .moveAssign dst src => w.handles.lookup dst = some none ∧ src ∈ w.handles

instance (w : BatchWorld) : (op : BatchOp) → Decidable (w.Proper op)
  | .tryToCreateTask _ | .tryToCancelTask _ | .tryToLockForInTransit _
  | .tryToReleaseInTransit _ _ => inferInstanceAs (Decidable (_ ∈ w.batches))
  | .tryToLockForProcessing _ _ _ =>
      inferInstanceAs (Decidable (_ ∈ w.batches ∧ _ ∉ w.handles))
  | .release _ | .destroy _ => inferInstanceAs (Decidable (_ ∈ w.handles))
  | .moveConstruct _ _ =>
      inferInstanceAs (Decidable (_ ∉ w.handles ∧ _ ∈ w.handles))
  | .moveAssign _ _ => inferInstanceAs (Decidable (_ = _ ∧ _ ∈ w.handles))

/-- Batches as their constructor leaves them, with or without a condition
variable, and no handles. -/
def Fresh (w : BatchWorld) : Prop :=
  w.handles = ∅ ∧
    ∀ b batch, w.batches.lookup b = some batch →
      ∃ id data cv, batch = (DataBatch.create id data).setStateChangeCv cv

def machine : Machine BatchWorld BatchOp where
  start := Fresh
  legal := Proper
  next w op := (w.perform op).1

/-- The number of valid handles on the batch at `b`. -/
def liveHandles (w : BatchWorld) (b : Addr) : Nat := w.handles.owners b

/-- 1 for a call that returned a success, 0 for any other. -/
def successes {α : Type} (success : α → Bool) : Option (Outcome α) → Nat
  | some ⟨_, _, .ok result⟩ => if success result then 1 else 0
  | _ => 0

/-- 1 for a successful `try_to_create_task` on the batch at `b`. -/
def creates (b : Addr) (w : BatchWorld) : BatchOp → Nat
  | .tryToCreateTask b' =>
      if b' = b then successes id (w.call b' (·.tryToCreateTask)) else 0
  | _ => 0

/-- 1 for a successful `try_to_cancel_task` on the batch at `b`. -/
def cancels (b : Addr) (w : BatchWorld) : BatchOp → Nat
  | .tryToCancelTask b' =>
      if b' = b then successes id (w.call b' (·.tryToCancelTask)) else 0
  | _ => 0

/-- 1 for a successful `try_to_lock_for_processing` on the batch at `b`. -/
def locks (b : Addr) (w : BatchWorld) : BatchOp → Nat
  | .tryToLockForProcessing b' space _ =>
      if b' = b then
        successes (·.success) (w.call b' (·.tryToLockForProcessing b' space))
      else 0
  | _ => 0

end BatchWorld

end CuCascade.Data

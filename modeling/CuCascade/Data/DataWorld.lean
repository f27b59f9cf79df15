import CuCascade.Data.BatchWorld

/-!
# Batches whose data is replaced and moved

The clients of `BatchWorld` also give a batch other data, convert its data and
move batches. Next to them stands a record that no code reads: for each handle,
the data its batch had when `try_to_lock_for_processing` made the handle. A
handle that is moved takes its entry along.
-/

namespace CuCascade.Data

open Memory

structure DataWorld where
  clients : BatchWorld
  /-- what the batch owned when the handle at an address was obtained -/
  seen : Addr → Option Representation

inductive DataOp where
  | call (op : BatchOp)
  | setData (b : Addr) (data : Option Representation)
  /-- `answer` is what the registry's converter returns or throws if it is
  called -/
  | convertTo (b : Addr) (answer : Except Failure (Option Representation))
  /-- a batch made at `b` out of the one at `src` -/
  | moveConstruct (b src : Addr)
  | moveAssign (dst src : Addr)

/-- The data of the batch at `b`. -/
def BatchWorld.dataOf (w : BatchWorld) (b : Addr) : Option Representation :=
  (w.batches.lookup b).bind (·.data)

/-- An object that no batch owns. -/
def BatchWorld.Unowned (w : BatchWorld) (data : Option Representation) : Prop :=
  w.batches.All fun _ batch =>
    ∀ r ∈ data, ∀ r' ∈ batch.data, r.object ≠ r'.object

instance (w : BatchWorld) (data : Option Representation) :
    Decidable (w.Unowned data) :=
  inferInstanceAs (Decidable (w.batches.All fun _ batch =>
    ∀ r ∈ data, ∀ r' ∈ batch.data, r.object ≠ r'.object))

namespace DataWorld

/-- The record after a call of `op`. -/
def record (w : DataWorld) : BatchOp → Addr → Option Representation
  | .tryToLockForProcessing b _ h =>
      Function.update w.seen h (w.clients.dataOf b)
  | .moveConstruct h src => Function.update w.seen h (w.seen src)
  | .moveAssign dst src => Function.update w.seen dst (w.seen src)
  | _ => w.seen

def put (w : DataWorld) (b : Addr) (batch : DataBatch) : DataWorld :=
  { w with clients := w.clients.put b batch }

def onBatch (w : DataWorld) (b : Addr) (method : DataBatch → Outcome Unit) :
    DataWorld :=
  { w with clients := (w.clients.onBatch b method).1 }

def next (w : DataWorld) : DataOp → DataWorld
  | .call op => ⟨(w.clients.perform op).1, w.record op⟩
  | .setData b data => w.onBatch b (·.setData data)
  | .convertTo b answer => w.onBatch b (·.convertTo fun _ => answer)
  | .moveConstruct b src =>
      match w.clients.batches.lookup src with
      | none => w
      | some other =>
          match other.moveConstruct with
          | (other, .error _) => w.put src other
          | (other, .ok batch) => (w.put src other).put b batch
  | .moveAssign dst src =>
      if dst = src then w
      else
        match w.clients.batches.lookup dst, w.clients.batches.lookup src with
        | some this, some other =>
            let ((this, other), _) := this.moveAssign other
            (w.put dst this).put src other
        | _, _ => w

/-- New data is owned by nobody else, and a new batch is made where there is
none. -/
def Proper (w : DataWorld) : DataOp → Prop
  | .call op => w.clients.Proper op
  | .setData b data => b ∈ w.clients.batches ∧ w.clients.Unowned data
  | .convertTo b answer =>
      b ∈ w.clients.batches ∧ ∀ data ∈ answer.toOption, w.clients.Unowned data
  | .moveConstruct b src => b ∉ w.clients.batches ∧ src ∈ w.clients.batches
  | .moveAssign dst src => dst ∈ w.clients.batches ∧ src ∈ w.clients.batches

instance (w : DataWorld) : (op : DataOp) → Decidable (w.Proper op)
  | .call op => inferInstanceAs (Decidable (w.clients.Proper op))
  | .setData _ _ => inferInstanceAs (Decidable (_ ∈ w.clients.batches ∧ _))
  | .convertTo _ _ => inferInstanceAs (Decidable (_ ∈ w.clients.batches ∧ _))
  | .moveConstruct _ _ =>
      inferInstanceAs (Decidable (_ ∉ w.clients.batches ∧ _ ∈ w.clients.batches))
  | .moveAssign _ _ =>
      inferInstanceAs (Decidable (_ ∈ w.clients.batches ∧ _ ∈ w.clients.batches))

/-- Batches own their data alone. -/
def Owned (w : DataWorld) : Prop :=
  ∀ b c r r', w.clients.dataOf b = some r → w.clients.dataOf c = some r' →
    r.object = r'.object → b = c

/-- Fresh batches, each with data of its own. -/
def Fresh (w : DataWorld) : Prop := w.clients.Fresh ∧ w.Owned

def machine : Machine DataWorld DataOp where
  start := Fresh
  legal := Proper
  next := next

end DataWorld

end CuCascade.Data

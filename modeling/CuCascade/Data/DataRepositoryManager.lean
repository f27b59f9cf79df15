import CuCascade.Data.BatchWorld
import CuCascade.Data.DataRepository

/-!
# `data_repository_manager`

Repositories that are reached by an operator and a port, and batches that a
client shares among them. Here the calls follow one another: a call that looks
for a batch runs up to its return or its first wait, and a call that waits is
over for now, since it has changed nothing and starts to look again when it is
woken.

A client holds pointers to batches, and so does a repository in its entries. A
batch nobody points to is gone. Names are not used twice, so that what a pointer
designates can be told from what has come in its place since.
-/

namespace CuCascade.Data

open Memory

structure OperatorPortKey where
  operatorId : UInt64
  portId : String
deriving DecidableEq, Repr

namespace DataRepository

/-- The turns of a loop from the index `i` on, at most `n` of them: what became
of the batches, where the last turn was and what it came to. -/
def turns (entries : List (Option Addr)) (q : Query) :
    Nat → Nat → Table Addr DataBatch → Table Addr DataBatch × Nat × Verdict
  | 0, i, batches => (batches, i, .goOn)
  | n + 1, i, batches =>
      match look batches entries i q with
      | (batches, .goOn) => turns entries q n (i + 1) batches
      | (batches, verdict) => (batches, i, verdict)

end DataRepository

/-- The repositories by the address of their `_cv`, the pointers in the map of
the manager, and the pointers to batches that the clients hold. Who has been
destroyed is on record. -/
structure ManagerWorld where
  clients : BatchWorld
  repositories : Table Addr DataRepository
  manager : Table OperatorPortKey (Option Addr)
  held : List Addr
  destroyed : List Addr

/-- How a call that looks for a batch ended, if it did not wait. -/
abbrev Found := Option (Except Failure (Option Addr))

inductive ManagerOp where
  /-- `make_shared<data_batch>` -/
  | create (b : Addr) (batchId : UInt64) (data : Option Representation)
  /-- a client copies a pointer to a batch -/
  | copy (b : Addr)
  | letGo (b : Addr)
  | client (op : BatchOp)
  /-- `make_unique` of a repository -/
  | newRepository (r : Addr)
  | addNewRepository (key : OperatorPortKey) (r : Addr)
  | addDataBatch (batch : Option Addr) (ops : List OperatorPortKey)
  /-- `add_data_batch` of a repository -/
  | addTo (r : Addr) (batch : Option Addr) (partitionIdx : UInt64)
  /-- a call of one of the functions that look for a batch -/
  | find (r : Addr) (query : Query) (partitionIdx : UInt64)
  | destroyRepository (r : Addr)
  | destroyManager

/-- The `PtrType` of a manager. -/
inductive PtrType where
  | sharedPtr | uniquePtr
deriving DecidableEq, Repr

/-- The batch whose method a call of a client is, if any. -/
def BatchWorld.subject (w : BatchWorld) : BatchOp → Option Addr
  | .tryToCreateTask b | .tryToCancelTask b | .tryToLockForProcessing b _ _
  | .tryToLockForInTransit b | .tryToReleaseInTransit b _ => some b
  | .release h | .destroy h => (w.handles.lookup h).join
  | .moveConstruct _ _ | .moveAssign _ _ => none

/-- `set_state_change_cv` of the batch at `b`. -/
def BatchWorld.setStateChangeCv (w : BatchWorld) (b : Addr) (cv : Option Addr) :
    BatchWorld :=
  match w.batches.lookup b with
  | none => w
  | some batch => w.put b (batch.setStateChangeCv cv)

namespace ManagerWorld

/-- `add_data_batch` of the repository at `r`. -/
def addTo (w : ManagerWorld) (r : Addr) (batch : Option Addr)
    (partitionIdx : UInt64) : Result ManagerWorld Unit :=
  match w.repositories.lookup r with
  | none => (w, .error .nullDereference)
  | some repository =>
      let clients :=
        match batch with
        | none => w.clients
        | some b => w.clients.setStateChangeCv b (some repository.cv)
      let (repository, result) := repository.addDataBatch batch partitionIdx
      ({ w with
          clients := clients
          repositories := w.repositories.insert r repository }, result)

/-- The pointer that `_repositories[key]` finds or makes. -/
def at? (w : ManagerWorld) (key : OperatorPortKey) : Option Addr :=
  (w.manager.lookup key).join

/-- `add_data_batch` of the manager: the loop over the operators' ports. A port
without a repository gets a null pointer, which is then called. -/
def addDataBatch (w : ManagerWorld) (batch : Option Addr) :
    List OperatorPortKey → Result ManagerWorld Unit
  | [] => (w, .ok ())
  | key :: ops =>
      match w.at? key with
      | none =>
          ({ w with manager := w.manager.insert key none }, .error .nullDereference)
      | some r =>
          match w.addTo r batch 0 with
          | (w, .error e) => (w, .error e)
          | (w, .ok ()) => w.addDataBatch batch ops

/-- `add_data_batch` where the manager owns batches alone. A call that throws
destroys its batch. -/
def addDataBatchUnique (w : ManagerWorld) (batch : Option Addr)
    (ops : List OperatorPortKey) : Result ManagerWorld Unit :=
  if 1 < ops.length then
    (w, .error (.thrown (.runtimeError
      "unique_ptr data_batch can only be added to one repository. Use shared_ptr for multiple destinations.")))
  else
    match ops with
    | [] => (w, .error (.thrown (.runtimeError "No operator ports provided")))
    | key :: _ =>
        match w.at? key with
        | none =>
            ({ w with manager := w.manager.insert key none }, .error .nullDereference)
        | some r => w.addTo r batch 0

/-- `add_data_batch_impl` for the two instantiations. -/
def addDataBatchImpl (w : ManagerWorld) (ptrType : PtrType) (batch : Option Addr)
    (ops : List OperatorPortKey) : Result ManagerWorld Unit :=
  match ptrType with
  | .sharedPtr => w.addDataBatch batch ops
  | .uniquePtr => w.addDataBatchUnique batch ops

/-- `add_new_repository`. If it throws, its parameter takes the repository
along. -/
def addNewRepository (w : ManagerWorld) (key : OperatorPortKey) (r : Addr) :
    Result ManagerWorld Unit :=
  if key ∈ w.manager then
    ({ w with
        repositories := w.repositories.erase r
        destroyed := r :: w.destroyed },
      .error (.thrown (.runtimeError "Repository already exists")))
  else ({ w with manager := w.manager.insert key (some r) }, .ok ())

/-- A call on the repository at `r`: the world it leaves, the condition variable
that a batch has notified, and how the call ended. -/
def find (w : ManagerWorld) (r : Addr) (q : Query) (partitionIdx : UInt64) :
    ManagerWorld × Option Addr × Found :=
  match w.repositories.lookup r with
  | none => (w, none, some (.error .nullDereference))
  | some repository =>
      match repository.dataBatches[partitionIdx.toNat]? with
      | none =>
          (w, none, some (.error (.thrown (.outOfRange "partition_idx out of range"))))
      | some entries =>
          match DataRepository.turns entries q (entries.length + 1) 0
              w.clients.batches with
          | (batches, i, verdict) =>
              let w := { w with clients := { w.clients with batches := batches } }
              match verdict with
              | .goOn | .wait _ => (w, none, none)
              | .finish result => (w, none, some result)
              | .take notify =>
                  let partitions := repository.dataBatches.set partitionIdx.toNat
                    (DataRepository.remove entries i q)
                  let found := entries[i]?.join
                  ({ w with
                      repositories := w.repositories.insert r
                        { repository with dataBatches := partitions }
                      held := found.toList ++ w.held }, notify, some (.ok found))

/-- The destructor of the repository at `r`; the pointer to it, if the manager
has one, is reset. -/
def destroyRepository (w : ManagerWorld) (r : Addr) : ManagerWorld :=
  { w with
    repositories := w.repositories.erase r
    manager := w.manager.mapVal fun _ p => if p = some r then none else p
    destroyed := r :: w.destroyed }

/-- The repositories that the manager owns. -/
def owned (w : ManagerWorld) : List Addr := w.manager.entries.filterMap (·.2)

/-- `~data_repository_manager`. -/
def destroyManager (w : ManagerWorld) : ManagerWorld :=
  { w.owned.foldl destroyRepository w with manager := ∅ }

/-- One call: the world it leaves, and the condition variables that batches have
notified. -/
def perform (w : ManagerWorld) : ManagerOp → ManagerWorld × Option Addr
  | .create b batchId data =>
      ({ w with
          clients := w.clients.put b (.create batchId data)
          held := b :: w.held }, none)
  | .copy b => ({ w with held := b :: w.held }, none)
  | .letGo b => ({ w with held := w.held.erase b }, none)
  | .client op =>
      let (clients, notify) := w.clients.perform op
      ({ w with clients := clients }, notify)
  | .newRepository r =>
      ({ w with repositories := w.repositories.insert r (.create r) }, none)
  | .addNewRepository key r => ((w.addNewRepository key r).1, none)
  | .addDataBatch batch ops => ((w.addDataBatch batch ops).1, none)
  | .addTo r batch partitionIdx => ((w.addTo r batch partitionIdx).1, none)
  | .find r query partitionIdx =>
      let (w, notify, _) := w.find r query partitionIdx
      (w, notify)
  | .destroyRepository r => (w.destroyRepository r, none)
  | .destroyManager => (w.destroyManager, none)

/-- The repository at `r` has an entry for the batch at `b`. -/
def Stores (w : ManagerWorld) (r b : Addr) : Prop :=
  ∃ repository ∈ w.repositories.lookup r, some b ∈ repository.dataBatches.flatten

/-- Somebody owns the batch at `b`. -/
def Owned (w : ManagerWorld) (b : Addr) : Prop :=
  b ∈ w.held ∨ ∃ e ∈ w.repositories.entries, some b ∈ e.2.dataBatches.flatten

/-- A client calls methods of batches that it owns or a repository owns, hands
over pointers that it holds, and repositories that nobody else owns. -/
def Proper (w : ManagerWorld) : ManagerOp → Prop
  | .create b _ _ => b ∉ w.clients.batches
  | .copy b | .letGo b => b ∈ w.held
  | .client op => w.clients.Proper op ∧ ∀ b ∈ w.clients.subject op, w.Owned b
  | .newRepository r => r ∉ w.repositories ∧ r ∉ w.destroyed
  | .addNewRepository _ r => r ∈ w.repositories ∧ r ∉ w.owned
  | .addDataBatch batch _ => ∀ b ∈ batch, b ∈ w.held
  | .addTo r batch _ => r ∈ w.repositories ∧ ∀ b ∈ batch, b ∈ w.held
  | .find r _ _ | .destroyRepository r => r ∈ w.repositories
  | .destroyManager => True

/-- Nothing has been made yet. -/
def Fresh (w : ManagerWorld) : Prop :=
  w.clients.batches = ∅ ∧ w.clients.handles = ∅ ∧ w.repositories = ∅ ∧
    w.manager = ∅ ∧ w.held = [] ∧ w.destroyed = []

def machine : Machine ManagerWorld ManagerOp where
  start := Fresh
  legal := Proper
  next w op := (w.perform op).1

section Decidable

variable (w : ManagerWorld)

instance (r b : Addr) : Decidable (w.Stores r b) :=
  inferInstanceAs (Decidable (∃ repository ∈ w.repositories.lookup r, _))

instance (b : Addr) : Decidable (w.Owned b) :=
  inferInstanceAs (Decidable (_ ∨ _))

instance : (op : ManagerOp) → Decidable (w.Proper op)
  | .create _ _ _ => inferInstanceAs (Decidable (_ ∉ w.clients.batches))
  | .copy _ | .letGo _ => inferInstanceAs (Decidable (_ ∈ w.held))
  | .client op =>
      inferInstanceAs (Decidable (w.clients.Proper op ∧
        ∀ b ∈ w.clients.subject op, w.Owned b))
  | .newRepository _ => inferInstanceAs (Decidable (_ ∧ _))
  | .addNewRepository _ _ => inferInstanceAs (Decidable (_ ∧ _))
  | .addDataBatch batch _ => inferInstanceAs (Decidable (∀ b ∈ batch, b ∈ w.held))
  | .addTo r batch _ =>
      inferInstanceAs (Decidable (r ∈ w.repositories ∧ ∀ b ∈ batch, b ∈ w.held))
  | .find r _ _ | .destroyRepository r =>
      inferInstanceAs (Decidable (r ∈ w.repositories))
  | .destroyManager => isTrue trivial

end Decidable

end ManagerWorld

end CuCascade.Data

import CuCascade.Data.BatchWorld
import CuCascade.Data.DataRepository

/-!
# A repository, the threads that pop from it and the clients of its batches

Each thread that pops is a program counter. It holds the mutex of the
repository from the moment it enters, or has been woken, until it returns or
goes to sleep; `wait` gives the mutex back and falls asleep in one step. The
clients need only the mutex of the batch they call, so their calls come between
any two steps of a popping thread.

Whoever changes a batch notifies in a step of its own. A client's notification
is in `owed` until it is delivered, that of a popping thread in its program
counter. A notification wakes every thread that is asleep when it is delivered,
and nobody else.
-/

namespace CuCascade.Data

open Memory

/-- Where a popping thread stands. -/
inductive Pc where
  /-- about to take the mutex for the first time -/
  | entering
  /-- at the turn of the loop for an index; the mutex is held -/
  | scanning (i : Nat)
  /-- the entry is taken, and its batch may still have to be notified about -/
  | leaving (i : Nat) (notify : Option Addr)
  /-- at `_cv.wait`, with the mutex still held -/
  | aboutToWait (found : Option Addr)
  | blocked (found : Option Addr)
  /-- out of `_cv.wait`, about to take the mutex again -/
  | woken
  | done (result : Except Failure (Option Addr))

namespace Pc

/-- What a thread that is asleep waits for: any batch, or the one it found. -/
def sleeping : Pc → Option (Option Addr)
  | .blocked found => some found
  | _ => none

/-- What a popping thread still has to notify. -/
def announces : Pc → Option Addr
  | .leaving _ notify => notify
  | _ => none

def wakeUp : Pc → Pc
  | .blocked _ => .woken
  | pc => pc

end Pc

structure Popper where
  query : Query
  partitionIdx : UInt64
  pc : Pc

/-- `holder` is the thread that holds the mutex of the repository. -/
structure RepositoryWorld where
  clients : BatchWorld
  repository : DataRepository
  poppers : Table Nat Popper
  holder : Option Nat
  owed : List Addr

inductive RepositoryOp where
  | client (op : BatchOp)
  /-- a client's notification on this condition variable -/
  | deliver (cv : Addr)
  | addDataBatch (b : Addr) (partitionIdx : UInt64)
  | notifyStateChange
  /-- a thread calls one of the functions that pop -/
  | start (t : Nat) (query : Query) (partitionIdx : UInt64)
  /-- the next step of a popping thread -/
  | step (t : Nat)
  /-- a thread wakes up without a notification -/
  | spurious (t : Nat)

namespace RepositoryWorld

/-- The partition a thread looks in. -/
def partition (w : RepositoryWorld) (p : Popper) : Option (List (Option Addr)) :=
  w.repository.dataBatches[p.partitionIdx.toNat]?

/-- A thread moves on. -/
def goTo (w : RepositoryWorld) (t : Nat) (p : Popper) (pc : Pc) : RepositoryWorld :=
  { w with poppers := w.poppers.insert t { p with pc := pc } }

/-- A thread returns and gives the mutex back. -/
def leave (w : RepositoryWorld) (t : Nat) (p : Popper)
    (result : Except Failure (Option Addr)) : RepositoryWorld :=
  { w.goTo t p (.done result) with holder := none }

/-- `notify_all` on a condition variable. -/
def notifyAll (w : RepositoryWorld) (cv : Addr) : RepositoryWorld :=
  if cv = w.repository.cv then
    { w with poppers := w.poppers.mapVal fun _ p => { p with pc := p.pc.wakeUp } }
  else w

/-- What comes after a turn of the loop. -/
def proceed (w : RepositoryWorld) (t : Nat) (p : Popper) (i : Nat) :
    Verdict → RepositoryWorld
  | .goOn => w.goTo t p (.scanning (i + 1))
  | .take notify => w.goTo t p (.leaving i notify)
  | .wait found => w.goTo t p (.aboutToWait found)
  | .finish result => w.leave t p result

/-- A turn of the loop. -/
def scan (w : RepositoryWorld) (t : Nat) (p : Popper) (i : Nat) : RepositoryWorld :=
  match w.partition p with
  | none => w.leave t p (.error .outOfBounds)
  | some entries =>
      let (batches, verdict) :=
        DataRepository.look w.clients.batches entries i p.query
      { w with clients := { w.clients with batches := batches } }.proceed t p i
        verdict

/-- The entry at `i` is taken out of the partition and returned. -/
def takeEntry (w : RepositoryWorld) (t : Nat) (p : Popper) (i : Nat) :
    RepositoryWorld :=
  match w.partition p with
  | none => w.leave t p (.error .outOfBounds)
  | some entries =>
      let partitions := w.repository.dataBatches.set p.partitionIdx.toNat
        (DataRepository.remove entries i p.query)
      { w with repository := { w.repository with dataBatches := partitions } }.leave
        t p (.ok (entries[i]?.join))

/-- The next step of the popping thread `t`. -/
def step (w : RepositoryWorld) (t : Nat) (p : Popper) : RepositoryWorld :=
  match p.pc with
  | .entering =>
      if w.repository.dataBatches.length ≤ p.partitionIdx.toNat then
        w.goTo t p
          (.done (.error (.thrown (.outOfRange "partition_idx out of range"))))
      else { w.goTo t p (.scanning 0) with holder := some t }
  | .scanning i => w.scan t p i
  | .leaving i (some cv) => (w.notifyAll cv).goTo t p (.leaving i none)
  | .leaving i none => w.takeEntry t p i
  | .aboutToWait found => { w.goTo t p (.blocked found) with holder := none }
  | .woken => { w.goTo t p (.scanning 0) with holder := some t }
  | .blocked _ | .done _ => w

def next (w : RepositoryWorld) : RepositoryOp → RepositoryWorld
  | .client op =>
      let (clients, notify) := w.clients.perform op
      { w with clients := clients, owed := notify.toList ++ w.owed }
  | .deliver cv => { w.notifyAll cv with owed := w.owed.erase cv }
  | .addDataBatch b partitionIdx =>
      match w.clients.batches.lookup b with
      | none => w
      | some batch =>
          let batch := batch.setStateChangeCv (some w.repository.cv)
          let clients :=
            { w.clients with batches := w.clients.batches.insert b batch }
          match w.repository.addDataBatch (some b) partitionIdx with
          | (repository, .error _) =>
              { w with clients := clients, repository := repository }
          | (repository, .ok ()) =>
              { w with
                clients := clients
                repository := repository
                owed := w.repository.cv :: w.owed }
  | .notifyStateChange => w.notifyAll w.repository.cv
  | .start t query partitionIdx =>
      { w with poppers := w.poppers.insert t ⟨query, partitionIdx, .entering⟩ }
  | .step t =>
      match w.poppers.lookup t with
      | none => w
      | some p => w.step t p
  | .spurious t =>
      match w.poppers.lookup t with
      | none => w
      | some p => w.goTo t p p.pc.wakeUp

/-- The clients keep to their own rules, a notification is delivered that is
owed, and what needs the mutex waits until nobody holds it. -/
def Proper (w : RepositoryWorld) : RepositoryOp → Prop
  | .client op => w.clients.Proper op
  | .deliver cv => cv ∈ w.owed
  | .addDataBatch b _ => b ∈ w.clients.batches ∧ w.holder = none
  | .notifyStateChange => True
  | .start t _ _ => t ∉ w.poppers
  | .step t =>
      ∃ p ∈ w.poppers.lookup t,
        match p.pc with
        | .entering | .woken => w.holder = none
        | .scanning _ | .leaving _ _ | .aboutToWait _ => w.holder = some t
        | .blocked _ | .done _ => False
  | .spurious t => ∃ p ∈ w.poppers.lookup t, p.pc.sleeping.isSome

/-- Fresh batches, an empty repository and nobody in it. -/
def Fresh (w : RepositoryWorld) : Prop :=
  w.clients.Fresh ∧ (∃ cv, w.repository = .create cv) ∧ w.poppers = ∅ ∧
    w.holder = none ∧ w.owed = []

def machine : Machine RepositoryWorld RepositoryOp where
  start := Fresh
  legal := Proper
  next := next

end RepositoryWorld

end CuCascade.Data

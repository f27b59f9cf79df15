import CuCascade.Memory.StreamPool

/-!
# A stream pool and those who wait for its streams

`acquire_stream` with `BLOCK` sleeps on the condition variable of an empty pool.
Here such a call is in the world with the handles, from when it sleeps until it
returns. Every critical section is one step. `release_stream` pushes the stream
and calls `notify_one` in the same one; which of the sleeping calls that wakes is
part of the step. A call that has been woken, or wakes up by itself, has to get
the mutex again before it looks at its predicate, and others may come before it.
-/

namespace CuCascade.Memory

/-- What there is for a handle: the call that is to return it, asleep or awake
again, or the handle. -/
inductive Borrower where
  | asleep
  | woken
  | has (b : BorrowedStream)
deriving DecidableEq

namespace Borrower

def sleeping : Borrower → Nat
  | .asleep => 1
  | _ => 0

def waking : Borrower → Nat
  | .woken => 1
  | _ => 0

/-- A handle that still calls back has a stream of the pool. -/
def holding : Borrower → Nat
  | .has b => if b.releaseFn = none then 0 else 1
  | _ => 0

def handle? : Borrower → Option BorrowedStream
  | .has b => some b
  | _ => none

end Borrower

structure LendingWorld where
  pool : Addr
  record : PoolRecord
  borrowers : Table Addr Borrower

inductive LendingStep where
  /-- a call of `acquire_stream` gets the mutex; `h` is where its handle is put -/
  | acquireStream (policy : StreamAcquirePolicy) (h : Addr)
  /-- a call that sleeps wakes up without having been notified -/
  | wakeUp (h : Addr)
  /-- a call that is awake again gets the mutex -/
  | resume (h : Addr)
  /-- `reset`, with the call that its `notify_one` wakes -/
  | reset (h : Addr) (notified : Option Addr)
  | moveConstruct (h src : Addr)
  | moveAssign (dst src : Addr) (notified : Option Addr)
  | destroy (h : Addr)
deriving DecidableEq

namespace LendingWorld

variable (w : LendingWorld)

/-- The world of a pool that has just been made, with `n` streams. -/
def opened (pool : Addr) (n : Nat) (made : ExclusiveStreamPool) : LendingWorld :=
  ⟨pool, ⟨made, n, 0⟩, ∅⟩

def asleep : Nat := w.borrowers.sumBy fun _ x => x.sleeping

def woken : Nat := w.borrowers.sumBy fun _ x => x.waking

def out : Nat := w.borrowers.sumBy fun _ x => x.holding

/-- The handle at `h`. -/
def handleAt (h : Addr) : Option BorrowedStream := (w.borrowers.lookup h).bind (·.handle?)

def put (h : Addr) (x : Borrower) : LendingWorld :=
  { w with borrowers := w.borrowers.insert h x }

/-- The rest of `acquire_stream` for `h`, under the mutex. -/
def lend (policy : StreamAcquirePolicy) (h : Addr) : LendingWorld :=
  match w.record.pool.acquireStream w.pool policy (some ⟨w.pool, w.record.created⟩) with
  | none => w.put h .asleep
  | some (b, left) =>
      let grown := if w.record.pool.streams = [] then w.record.grown + 1 else w.record.grown
      { w with record := { w.record with pool := left, grown := grown } }.put h (.has b)

/-- `notify_one`. -/
def notifyOne : Option Addr → LendingWorld
  | none => w
  | some h => w.put h .woken

/-- `reset` of the handle `b` at `h`. -/
def resetHandle (h : Addr) (b : BorrowedStream) (notified : Option Addr) : LendingWorld :=
  let (b, call) := b.reset
  let w := w.put h (.has b)
  match call with
  | none => w
  | some (_, s) =>
      { w with record :=
          { w.record with pool := w.record.pool.releaseStream s } }.notifyOne notified

/-- `src` is moved into `dst`. -/
def moveInto (dst src : Addr) : LendingWorld :=
  match w.handleAt src with
  | some b => (w.put src (.has .movedFrom)).put dst (.has b)
  | none => w

def perform : LendingStep → LendingWorld
  | .acquireStream policy h => w.lend policy h
  | .wakeUp h => w.put h .woken
  | .resume h => w.lend .BLOCK h
  | .reset h notified =>
      match w.handleAt h with
      | some b => w.resetHandle h b notified
      | none => w
  | .moveConstruct h src => w.moveInto h src
  | .moveAssign dst src notified =>
      if dst = src then w
      else
        match w.handleAt dst with
        | some b => (w.resetHandle dst b notified).moveInto dst src
        | none => w
  | .destroy h => { w with borrowers := w.borrowers.erase h }

/-- A stream that comes back from `h` wakes a call that sleeps, if there is one;
a handle that does not call back wakes none. -/
def Notifies (h : Addr) (notified : Option Addr) : Prop :=
  ∃ b ∈ w.handleAt h,
    if b.releaseFn = none then notified = none
    else (notified = none → w.asleep = 0) ∧
      ∀ h' ∈ notified, w.borrowers.lookup h' = some .asleep

instance (h : Addr) (notified : Option Addr) : Decidable (w.Notifies h notified) :=
  inferInstanceAs (Decidable (∃ b ∈ w.handleAt h,
    if b.releaseFn = none then notified = none
    else (notified = none → w.asleep = 0) ∧
      ∀ h' ∈ notified, w.borrowers.lookup h' = some .asleep))

/-- A handle is made where there is nothing, the other calls name handles, and
those wake up that sleep. -/
def Proper : LendingStep → Prop
  | .acquireStream _ h => h ∉ w.borrowers
  | .wakeUp h => w.borrowers.lookup h = some .asleep
  | .resume h => w.borrowers.lookup h = some .woken
  | .reset h notified => w.Notifies h notified
  | .moveConstruct h src => h ∉ w.borrowers ∧ (w.handleAt src).isSome
  | .moveAssign dst src notified =>
      (w.handleAt src).isSome ∧
        (if dst = src then notified = none else w.Notifies dst notified)
  | .destroy h => (w.handleAt h).isSome

instance : (step : LendingStep) → Decidable (w.Proper step)
  | .acquireStream _ h => inferInstanceAs (Decidable (h ∉ w.borrowers))
  | .wakeUp h => inferInstanceAs (Decidable (w.borrowers.lookup h = some .asleep))
  | .resume h => inferInstanceAs (Decidable (w.borrowers.lookup h = some .woken))
  | .reset h notified => inferInstanceAs (Decidable (w.Notifies h notified))
  | .moveConstruct h src =>
      inferInstanceAs (Decidable (h ∉ w.borrowers ∧ (w.handleAt src).isSome))
  | .moveAssign dst src notified => inferInstanceAs (Decidable ((w.handleAt src).isSome ∧
      (if dst = src then notified = none else w.Notifies dst notified)))
  | .destroy h => inferInstanceAs (Decidable ((w.handleAt h).isSome))

def machine : Machine LendingWorld LendingStep where
  start w := ∃ pool n made, ExclusiveStreamPool.create pool n = .ok made ∧
    w = opened pool n made
  legal := Proper
  next := perform

end LendingWorld

end CuCascade.Memory

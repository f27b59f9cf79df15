import CuCascade.Lib.Machine
import CuCascade.Lib.Owners
import CuCascade.Memory.Common

/-!
# Stream pools and the streams they lend

`exclusive_stream_pool` lends its streams as `borrowed_stream` handles. A handle
is a stream and a callback; the callback is `release_stream` bound to the pool,
so it is modelled by the address of that pool, and by nothing once it has been
exchanged for a null function. A `rmm::cuda_stream` that has been moved from
holds no stream.

A stream is named by the pool it was created for and how many were created for
that pool before it. The name is never reused, whatever the driver does with
the handle behind it.
-/

namespace CuCascade.Memory

/-- The stream created for `pool` as number `index`. -/
structure StreamId where
  pool : Addr
  index : Nat
deriving DecidableEq, Repr

/-- A `rmm::cuda_stream`. -/
abbrev CudaStream := Option StreamId

structure BorrowedStream where
  stream : CudaStream
  releaseFn : Option Addr
deriving DecidableEq, Repr

inductive StreamAcquirePolicy where
  | GROW | BLOCK
deriving DecidableEq, Repr

structure ExclusiveStreamPool where
  streams : List CudaStream
deriving DecidableEq, Repr

namespace BorrowedStream

/-- A handle after its members have been moved out of it. -/
def movedFrom : BorrowedStream := ⟨none, none⟩

/-- `reset`: the handle it leaves, and the call it makes. -/
def reset (b : BorrowedStream) : BorrowedStream × Option (Addr × CudaStream) :=
  match b.releaseFn with
  | some pool => (movedFrom, some (pool, b.stream))
  | none => (b, none)

/-- The stream of a handle that has not been reset. -/
def held (b : BorrowedStream) : Option StreamId :=
  match b.releaseFn with
  | some _ => b.stream
  | none => none

end BorrowedStream

namespace ExclusiveStreamPool

/-- The constructor, at the address `self`. -/
def create (self : Addr) (poolSize : Nat) : Except Exception ExclusiveStreamPool :=
  if poolSize = 0 then
    .error (.stdException "Stream pool size must be greater than zero")
  else .ok ⟨(List.range poolSize).map fun i => some ⟨self, i⟩⟩

/-- `acquire_stream`, where `new` is the stream made if the pool has to grow;
nothing if the call waits. -/
def acquireStream (pool : ExclusiveStreamPool) (self : Addr)
    (policy : StreamAcquirePolicy) (new : CudaStream) :
    Option (BorrowedStream × ExclusiveStreamPool) :=
  match pool.streams.getLast?, policy with
  | none, .GROW => some (⟨new, some self⟩, pool)
  | none, .BLOCK => none
  | some stream, _ => some (⟨stream, some self⟩, ⟨pool.streams.dropLast⟩)

def size (pool : ExclusiveStreamPool) : Nat := pool.streams.length

def releaseStream (pool : ExclusiveStreamPool) (s : CudaStream) :
    ExclusiveStreamPool :=
  ⟨pool.streams ++ [s]⟩

end ExclusiveStreamPool

/-- A pool with what has been created for it: `poolSize` streams by the
constructor and `grown` by `GROW`. -/
structure PoolRecord where
  pool : ExclusiveStreamPool
  poolSize : Nat
  grown : Nat
deriving DecidableEq, Repr

def PoolRecord.created (e : PoolRecord) : Nat := e.poolSize + e.grown

/-- The pools, and the `borrowed_stream` objects that are alive. -/
structure PoolWorld where
  pools : Table Addr PoolRecord
  borrowed : Table Addr BorrowedStream

inductive PoolOp where
  | create (pool : Addr) (poolSize : Nat)
  /-- `h` is where the handle of the result is put -/
  | acquireStream (pool : Addr) (policy : StreamAcquirePolicy) (h : Addr)
  | reset (h : Addr)
  /-- a handle made at `h` out of the one at `src` -/
  | moveConstruct (h src : Addr)
  | moveAssign (dst src : Addr)
  /-- the destructor of a handle -/
  | destroy (h : Addr)
deriving DecidableEq

namespace PoolWorld

def fresh : PoolWorld := ⟨∅, ∅⟩

/-- `release_stream` called back through a handle. -/
def callBack (w : PoolWorld) : Option (Addr × CudaStream) → PoolWorld
  | none => w
  | some (pool, s) =>
      match w.pools.lookup pool with
      | none => w
      | some e =>
          let e := { e with pool := e.pool.releaseStream s }
          { w with pools := w.pools.insert pool e }

/-- `reset` of the handle at `h`. -/
def resetHandle (w : PoolWorld) (h : Addr) (b : BorrowedStream) : PoolWorld :=
  let (b, call) := b.reset
  { w with borrowed := w.borrowed.insert h b }.callBack call

/-- `src` is moved into `dst`. -/
def moveInto (w : PoolWorld) (dst src : Addr) : PoolWorld :=
  match w.borrowed.lookup src with
  | none => w
  | some b =>
      { w with borrowed :=
          (w.borrowed.insert src BorrowedStream.movedFrom).insert dst b }

def perform (w : PoolWorld) : PoolOp → PoolWorld
  | .create pool poolSize =>
      match ExclusiveStreamPool.create pool poolSize with
      | .error _ => w
      | .ok made => { w with pools := w.pools.insert pool ⟨made, poolSize, 0⟩ }
  | .acquireStream pool policy h =>
      match w.pools.lookup pool with
      | none => w
      | some e =>
          match e.pool.acquireStream pool policy (some ⟨pool, e.created⟩) with
          | none => w
          | some (b, left) =>
              let grown := if e.pool.streams = [] then e.grown + 1 else e.grown
              { w with
                pools := w.pools.insert pool { e with pool := left, grown := grown }
                borrowed := w.borrowed.insert h b }
  | .reset h =>
      match w.borrowed.lookup h with
      | none => w
      | some b => w.resetHandle h b
  | .moveConstruct h src => w.moveInto h src
  | .moveAssign dst src =>
      if dst = src then w
      else
        match w.borrowed.lookup dst with
        | none => w
        | some b => (w.resetHandle dst b).moveInto dst src
  -- `= default`: the members are destroyed, and the callback is not called
  | .destroy h => { w with borrowed := w.borrowed.erase h }

/-- A pool and a handle are made where there is none, the other calls name
objects that exist, and `BLOCK` is used when a stream is available. -/
def Proper (w : PoolWorld) : PoolOp → Prop
  | .create pool _ => pool ∉ w.pools
  | .acquireStream pool policy h =>
      h ∉ w.borrowed ∧ ∃ e ∈ w.pools.lookup pool,
        policy = .BLOCK → e.pool.streams ≠ []
  | .reset h | .destroy h => h ∈ w.borrowed
  | .moveConstruct h src => h ∉ w.borrowed ∧ src ∈ w.borrowed
  | .moveAssign dst src => dst ∈ w.borrowed ∧ src ∈ w.borrowed

instance (w : PoolWorld) : (op : PoolOp) → Decidable (w.Proper op)
  | .create pool _ => inferInstanceAs (Decidable (pool ∉ w.pools))
  | .acquireStream pool policy h =>
      inferInstanceAs (Decidable (h ∉ w.borrowed ∧ ∃ e ∈ w.pools.lookup pool,
        policy = .BLOCK → e.pool.streams ≠ []))
  | .reset _ | .destroy _ => inferInstanceAs (Decidable (_ ∈ w.borrowed))
  | .moveConstruct _ _ =>
      inferInstanceAs (Decidable (_ ∉ w.borrowed ∧ _ ∈ w.borrowed))
  | .moveAssign _ _ =>
      inferInstanceAs (Decidable (_ ∈ w.borrowed ∧ _ ∈ w.borrowed))

def machine : Machine PoolWorld PoolOp where
  start w := w = fresh
  legal := Proper
  next := perform

end PoolWorld

end CuCascade.Memory

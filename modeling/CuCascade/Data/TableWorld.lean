import CuCascade.Data.DataWorld
import CuCascade.Data.TableStore

/-!
# Batches of tables

The clients of `DataWorld`, whose batches own representations of the store. Next to the
batches, clients have representations of their own, which they give to batches. A batch
that is converted gives up the representation that it had, and whatever nobody owns any
more is destroyed.
-/

namespace CuCascade.Data

open Memory

structure TableWorld (T : Type) where
  clients : DataWorld
  store : TableStore T

inductive TableOp (T : Type) where
  | call (op : BatchOp)
  /-- a call of a client that is not about a batch -/
  | store (op : StoreOp T)
  /-- the representation at `i`, or none -/
  | setData (b : Addr) (i : Option Addr)
  /-- `convert_to<host_table_representation>`; the new representation is put at `i` -/
  | convertToHost (b i : Addr) (host : Nat)
      (upstream : Nat → UInt64 → Except Exception Addr)
  /-- `convert_to<gpu_table_representation>` -/
  | convertToGpu (b i : Addr) (gpu : MemorySpaceId)
      (allocator : UInt64 → Except Exception (Nat → UInt8))
  | moveConstruct (b src : Addr)
  | moveAssign (dst src : Addr)

namespace TableStore

variable {T : Type}

def representation (w : TableStore T) (i : Addr) : Option Representation :=
  (w.tables.lookup i).map fun s => ⟨i, s.memorySpaceId⟩

/-- The destructor of a `std::unique_ptr`. -/
def discard (w : TableStore T) : Option Representation → TableStore T
  | none => w
  | some data => w.destroy data.object

end TableStore

namespace TableWorld

variable {T : Type}

def batches (w : TableWorld T) : Table Addr DataBatch := w.clients.clients.batches

/-- The data of the batch at `b`. -/
def dataOf (w : TableWorld T) (b : Addr) : Option Representation := w.clients.clients.dataOf b

/-- `set_data`. It has its argument by value, so one that it does not keep is destroyed. -/
def setData (w : TableWorld T) (b : Addr) (data : Option Representation) : TableWorld T :=
  match w.batches.lookup b with
  | none => w
  | some batch =>
      match (batch.setData data).result with
      | .ok () => ⟨w.clients.next (.setData b data), w.store.discard batch.data⟩
      | .error _ => ⟨w.clients.next (.setData b data), w.store.discard data⟩

/-- `convert_to`; `convert` is the call of the converter for the data of the batch. A batch
that is processed, or has no data, calls none. -/
def convertTo (w : TableWorld T) (cudf : Cudf T) (ndebug : Bool) (b i : Addr)
    (convert : Addr → StoreOp T) : TableWorld T :=
  match w.batches.lookup b with
  | none => w
  | some batch =>
      match if batch.processingCount = 0 then batch.data else none with
      | none => w
      | some data =>
          let store := w.store.next cudf ndebug (convert data.object)
          match store.representation i with
          | none => { w with store := store }
          | some made =>
              ⟨w.clients.next (.convertTo b (.ok (some made))), store.destroy data.object⟩

/-- A batch is made at `b`. If that fails, what it has taken is destroyed. -/
def moveConstruct (w : TableWorld T) (b src : Addr) : TableWorld T :=
  match w.batches.lookup src with
  | none => w
  | some other =>
      match other.moveConstruct with
      | (_, .ok _) => { w with clients := w.clients.next (.moveConstruct b src) }
      | (_, .error _) =>
          ⟨w.clients.next (.moveConstruct b src), w.store.discard other.data⟩

/-- `operator=`. What the target had is destroyed. -/
def moveAssign (w : TableWorld T) (dst src : Addr) : TableWorld T :=
  if dst = src then w
  else
    match w.batches.lookup dst, w.batches.lookup src with
    | some this, some other =>
        match this.moveAssign other with
        | (_, .ok ()) => ⟨w.clients.next (.moveAssign dst src), w.store.discard this.data⟩
        | (_, .error _) => { w with clients := w.clients.next (.moveAssign dst src) }
    | _, _ => w

def next (cudf : Cudf T) (ndebug : Bool) (w : TableWorld T) : TableOp T → TableWorld T
  | .call op => { w with clients := w.clients.next (.call op) }
  | .store op => { w with store := w.store.next cudf ndebug op }
  | .setData b i => w.setData b (i.bind w.store.representation)
  | .convertToHost b i host upstream =>
      w.convertTo cudf ndebug b i (.toHost · i host upstream)
  | .convertToGpu b i gpu allocator =>
      w.convertTo cudf ndebug b i (.toGpu · i gpu allocator)
  | .moveConstruct b src => w.moveConstruct b src
  | .moveAssign dst src => w.moveAssign dst src

/-- No batch owns the representation at `i`. -/
def Loose (w : TableWorld T) (i : Addr) : Prop :=
  w.clients.clients.Unowned (w.store.representation i)

instance (w : TableWorld T) (i : Addr) : Decidable (w.Loose i) :=
  inferInstanceAs (Decidable (w.clients.clients.Unowned _))

/-- A client destroys what it owns, and gives away what it owns. -/
def Proper (w : TableWorld T) : TableOp T → Prop
  | .call op => w.clients.Proper (.call op)
  | .store op => w.store.Proper op ∧ ∀ i ∈ op.destroyed, w.Loose i
  | .setData b i => b ∈ w.batches ∧ ∀ j ∈ i, w.Loose j
  | .convertToHost b i _ _ | .convertToGpu b i _ _ => b ∈ w.batches ∧ i ∉ w.store.tables
  | .moveConstruct b src => w.clients.Proper (.moveConstruct b src)
  | .moveAssign dst src => w.clients.Proper (.moveAssign dst src)

instance (w : TableWorld T) : (op : TableOp T) → Decidable (w.Proper op)
  | .call op => inferInstanceAs (Decidable (w.clients.Proper (.call op)))
  | .store op => inferInstanceAs (Decidable (w.store.Proper op ∧ _))
  | .setData _ _ => inferInstanceAs (Decidable (_ ∈ w.batches ∧ _))
  | .convertToHost _ _ _ _ | .convertToGpu _ _ _ _ =>
      inferInstanceAs (Decidable (_ ∈ w.batches ∧ _ ∉ w.store.tables))
  | .moveConstruct b src => inferInstanceAs (Decidable (w.clients.Proper (.moveConstruct b src)))
  | .moveAssign dst src => inferInstanceAs (Decidable (w.clients.Proper (.moveAssign dst src)))

/-- Fresh batches without data, fresh host spaces and no tables. -/
def Fresh (w : TableWorld T) : Prop :=
  w.clients.Fresh ∧ (w.batches.All fun _ batch => batch.data = none) ∧ w.store.Fresh

def machine (cudf : Cudf T) (ndebug : Bool) : Machine (TableWorld T) (TableOp T) where
  start := Fresh
  legal := Proper
  next := next cudf ndebug

/-- The batch at `b` keeps its data: it is given no other, and it is not moved. What a
batch refuses while it is processed may be tried. -/
def LeavesData (b : Addr) (w : TableWorld T) : TableOp T → Prop
  | .setData b' _ => b' ≠ b ∨ w.clients.clients.liveHandles b ≠ 0
  | .moveConstruct _ src => src ≠ b
  | .moveAssign dst src =>
      dst = src ∨ dst ≠ b ∧ src ≠ b ∨ w.clients.clients.liveHandles src ≠ 0
  | _ => True

instance (b : Addr) (w : TableWorld T) : (op : TableOp T) → Decidable (LeavesData b w op)
  | .setData _ _ => inferInstanceAs (Decidable (_ ≠ b ∨ _ ≠ 0))
  | .moveConstruct _ _ => inferInstanceAs (Decidable (_ ≠ b))
  | .moveAssign dst src => inferInstanceAs (Decidable (dst = src ∨ dst ≠ b ∧ src ≠ b ∨ _ ≠ 0))
  | .call _ | .store _ | .convertToHost _ _ _ _ | .convertToGpu _ _ _ _ =>
      inferInstanceAs (Decidable True)

/-- The batch at `b` has this table, in the space that its data is in. -/
def Gives (cudf : Cudf T) (ndebug : Bool) (b : Addr) (table : T) (w : TableWorld T) : Prop :=
  ∃ data s, w.dataOf b = some data ∧ w.store.tables.lookup data.object = some s ∧
    s.memorySpaceId = data.memorySpaceId ∧ w.store.Yields cudf ndebug table s

end TableWorld

end CuCascade.Data

import CuCascade.Data.DataBatch
import CuCascade.Data.RepresentationConverter

/-!
# Conversion to the host tier, from a batch

`convert_to<host_table_representation>` of a batch that holds a table, on a device
or on a host. The registry's converter for the type of the table runs under the
mutex of the batch; what it does to the target space stays done, whatever it
returns or throws.
-/

namespace CuCascade.Data

open Memory

/-- The representations that have a built-in converter to the host tier. A host
table is given with the blocks it lies in. -/
inductive TableSource (T : Type) where
  | gpu (source : GpuTableRepresentation T)
  | host (source : HostTableRepresentation) (memory : HostMemory)

namespace TableSource

variable {T : Type}

/-- The bytes that the target has to allocate. -/
def size (cudf : Cudf T) : TableSource T → UInt64
  | gpu source => (cudf.pack source.table).gpuData.size
  | host source _ => source.hostTable.dataSize

/-- The converter that `register_builtin_converters` has registered. -/
def convert (cudf : Cudf T) (ndebug : Bool)
    (upstream : Nat → UInt64 → Except Exception Addr) (fuel : Nat)
    (source : TableSource T) (target : HostSpace) :
    Option (Result HostSpace HostTableRepresentation) :=
  match source with
  | gpu source => convertGpuToHost cudf upstream fuel source target
  | host source memory => convertHostToHost ndebug upstream fuel source memory target

end TableSource

/-- `convert_to` for a batch that holds `source`, with `self` the address of the
new representation. A batch that is processed, or has no data, calls no
converter. -/
def DataBatch.convertToHost {T : Type} (b : DataBatch) (cudf : Cudf T) (ndebug : Bool)
    (upstream : Nat → UInt64 → Except Exception Addr) (fuel : Nat)
    (source : TableSource T) (self : Addr) (target : HostSpace) :
    Option (HostSpace × Outcome Unit) :=
  if b.processingCount ≠ 0 ∨ b.data = none then
    some (target, b.convertTo fun _ => .ok none)
  else
    (source.convert cudf ndebug upstream fuel target).map fun (target, result) =>
      (target, b.convertTo fun _ =>
        result.map fun table => some ⟨self, table.memorySpaceId⟩)

end CuCascade.Data

import Mathlib.Logic.Function.Basic
import CuCascade.Memory.MemorySpace

/-!
# The built-in converters between device and host

A table on a device is packed by cudf into one buffer and its metadata. On the
host the buffer is spread over the blocks of one allocation. Three loops copy
between the two shapes: into blocks, out of blocks, and from blocks to blocks of
another size. They run on fuel, and `none` is a loop that is still going when
the fuel is gone.

A copy is complete when the stream has been synchronised, which each converter
does before it returns, so a copy is done at once here. What it reads and
writes must lie in the regions it is given. Memory of the device is handed out
by `allocator`, with whatever bytes are in it.
-/

namespace CuCascade.Data

open Memory

/-! ## Buffers and representations -/

/-- An `rmm::device_buffer`; its size is a `size_t`. -/
structure DeviceBuffer where
  bytes : List UInt8
  size_lt : bytes.length < 2 ^ 64

namespace DeviceBuffer

def size (b : DeviceBuffer) : UInt64 := UInt64.ofNat b.bytes.length

/-- The byte at an index of the buffer. -/
def byteAt (b : DeviceBuffer) (i : Nat) : UInt8 := b.bytes.getD i 0

/-- A buffer of this size with the bytes of a region. -/
def ofRegion (size : UInt64) (region : Nat → UInt8) : DeviceBuffer where
  bytes := (List.range size.toNat).map region
  size_lt := by
    rw [List.length_map, List.length_range]
    exact size.toNat_lt

end DeviceBuffer

/-- `cudf::packed_columns`. -/
structure PackedColumns where
  metadata : List UInt8
  gpuData : DeviceBuffer

/-- What the converters use of cudf, for tables of type `T`: `pack`, and
`unpack` with the table made of its view. -/
structure Cudf (T : Type) where
  pack : T → PackedColumns
  unpack : List UInt8 → DeviceBuffer → T

structure GpuTableRepresentation (T : Type) where
  table : T
  memorySpaceId : MemorySpaceId

structure HostTableAllocation where
  allocation : MultipleBlocksAllocation
  metadata : List UInt8
  dataSize : UInt64

structure HostTableRepresentation where
  hostTable : HostTableAllocation
  memorySpaceId : MemorySpaceId

/-- The bytes of the blocks of a host resource. -/
abbrev HostMemory := Block → Nat → UInt8

/-- A memory space and what is in its blocks. -/
structure HostSpace where
  space : MemorySpace
  memory : HostMemory

namespace HostSpace

/-- `get_memory_resource_as<fixed_size_host_memory_resource>`. -/
def memoryResource (s : HostSpace) : Option HostResource :=
  match s.space.reservationAllocator with
  | .host mr => some mr
  | .gpu _ | .disk _ => none

def withResource (s : HostSpace) (mr : HostResource) : HostSpace :=
  { s with space := { s.space with reservationAllocator := .host mr } }

end HostSpace

/-! ## Copies -/

/-- `cudaMemcpyAsync` and `memcpy`: `count` bytes from an offset in a region to
an offset in another. -/
def copyBytes (dst : Nat → UInt8) (dstSize dstOffset : UInt64) (src : Nat → UInt8)
    (srcSize srcOffset count : UInt64) : Except Failure (Nat → UInt8) :=
  if dstOffset.toNat + count.toNat ≤ dstSize.toNat ∧
      srcOffset.toNat + count.toNat ≤ srcSize.toNat then
    .ok fun i =>
      if dstOffset.toNat ≤ i ∧ i < dstOffset.toNat + count.toNat then
        src (srcOffset.toNat + (i - dstOffset.toNat))
      else dst i
  else .error .outOfBounds

/-- `multiple_blocks_allocation::at`. The text of the exception is the standard
library's. -/
def blockAt (a : MultipleBlocksAllocation) (i : UInt64) : Except Failure Block :=
  match a.blocks[i.toNat]? with
  | none => .error (.thrown (.outOfRange "vector::_M_range_check"))
  | some block => .ok block

/-- `block_index` and `block_offset`. -/
structure BlockCursor where
  blockIndex : UInt64
  blockOffset : UInt64

namespace BlockCursor

def start : BlockCursor := ⟨0, 0⟩

/-- So many bytes further, and on to the next block at the end of one. -/
def advance (c : BlockCursor) (blockSize bytes : UInt64) : BlockCursor :=
  let blockOffset := c.blockOffset + bytes
  if blockOffset = blockSize then ⟨c.blockIndex + 1, 0⟩
  else ⟨c.blockIndex, blockOffset⟩

end BlockCursor

/-- The loop of `convert_gpu_to_host`. -/
def copyIntoBlocks (a : MultipleBlocksAllocation) (data : DeviceBuffer) :
    Nat → BlockCursor → UInt64 → HostMemory → Option (Except Failure HostMemory)
  | fuel, c, sourceOffset, memory =>
      if sourceOffset < data.size then
        match fuel with
        | 0 => none
        | fuel + 1 =>
            let remainingBytes := data.size - sourceOffset
            let bytesToCopy := min remainingBytes (a.blockSize - c.blockOffset)
            match blockAt a c.blockIndex with
            | .error e => some (.error e)
            | .ok block =>
                match copyBytes (memory block) a.blockSize c.blockOffset data.byteAt
                  data.size sourceOffset bytesToCopy with
                | .error e => some (.error e)
                | .ok contents =>
                    copyIntoBlocks a data fuel (c.advance a.blockSize bytesToCopy)
                      (sourceOffset + bytesToCopy)
                      (Function.update memory block contents)
      else some (.ok memory)

/-- The loop of `convert_host_to_gpu`. -/
def copyOutOfBlocks (a : MultipleBlocksAllocation) (memory : HostMemory)
    (dataSize : UInt64) :
    Nat → BlockCursor → UInt64 → (Nat → UInt8) →
      Option (Except Failure (Nat → UInt8))
  | fuel, src, dstOffset, dst =>
      if dstOffset < dataSize then
        match fuel with
        | 0 => none
        | fuel + 1 =>
            let remainingBytes := dataSize - dstOffset
            let bytesAvailableInSrcBlock := a.blockSize - src.blockOffset
            let bytesToCopy := min remainingBytes bytesAvailableInSrcBlock
            match blockAt a src.blockIndex with
            | .error e => some (.error e)
            | .ok srcBlock =>
                match copyBytes dst dataSize dstOffset (memory srcBlock) a.blockSize
                  src.blockOffset bytesToCopy with
                | .error e => some (.error e)
                | .ok dst =>
                    copyOutOfBlocks a memory dataSize fuel
                      (src.advance a.blockSize bytesToCopy) (dstOffset + bytesToCopy)
                      dst
      else some (.ok dst)

/-- The loop of `convert_host_to_host`. -/
def copyBetweenBlocks (srcAllocation dstAllocation : MultipleBlocksAllocation)
    (srcMemory : HostMemory) (dataSize : UInt64) :
    Nat → BlockCursor → BlockCursor → UInt64 → HostMemory →
      Option (Except Failure HostMemory)
  | fuel, src, dst, copied, dstMemory =>
      if copied < dataSize then
        match fuel with
        | 0 => none
        | fuel + 1 =>
            let remaining := dataSize - copied
            let srcAvail := srcAllocation.blockSize - src.blockOffset
            let dstAvail := dstAllocation.blockSize - dst.blockOffset
            let bytesToCopy := min remaining (min srcAvail dstAvail)
            match blockAt srcAllocation src.blockIndex with
            | .error e => some (.error e)
            | .ok srcBlock =>
                match blockAt dstAllocation dst.blockIndex with
                | .error e => some (.error e)
                | .ok dstBlock =>
                    match copyBytes (dstMemory dstBlock) dstAllocation.blockSize
                      dst.blockOffset (srcMemory srcBlock) srcAllocation.blockSize
                      src.blockOffset bytesToCopy with
                    | .error e => some (.error e)
                    | .ok contents =>
                        copyBetweenBlocks srcAllocation dstAllocation srcMemory
                          dataSize fuel
                          (src.advance srcAllocation.blockSize bytesToCopy)
                          (dst.advance dstAllocation.blockSize bytesToCopy)
                          (copied + bytesToCopy)
                          (Function.update dstMemory dstBlock contents)
      else some (.ok dstMemory)

/-! ## Converters -/

/-- The converter's own end after its blocks have been filled, or not: an
allocation that is not handed over is destroyed. -/
def finishHostTable (target : HostSpace) (mr : HostResource)
    (allocation : MultipleBlocksAllocation) (metadata : List UInt8)
    (dataSize : UInt64) :
    Except Failure HostMemory → Result HostSpace HostTableRepresentation
  | .error e => (target.withResource (mr.destroyAllocation allocation).1, .error e)
  | .ok memory =>
      ({ target.withResource mr with memory := memory },
        .ok ⟨⟨allocation, metadata, dataSize⟩, target.space.id⟩)

def convertGpuToHost {T : Type} (cudf : Cudf T)
    (upstream : Nat → UInt64 → Except Exception Addr) (fuel : Nat)
    (source : GpuTableRepresentation T) (target : HostSpace) :
    Option (Result HostSpace HostTableRepresentation) :=
  let packedData := cudf.pack source.table
  match target.memoryResource with
  | none => some (target, .error .nullDereference)
  | some mr =>
      match mr.allocateMultipleBlocks packedData.gpuData.size none upstream with
      | (mr, .error e) => some (target.withResource mr, .error e)
      | (mr, .ok none) => some (target.withResource mr, .error .nullDereference)
      | (mr, .ok (some allocation)) =>
          (copyIntoBlocks allocation packedData.gpuData fuel .start 0
            target.memory).map
            (finishHostTable target mr allocation packedData.metadata
              packedData.gpuData.size)

/-- `convert_host_to_gpu` for a table in the blocks of `memory`; the target is
given by its id and the memory its allocator hands out. -/
def convertHostToGpu {T : Type} (cudf : Cudf T)
    (allocator : UInt64 → Except Exception (Nat → UInt8)) (fuel : Nat)
    (source : HostTableRepresentation) (memory : HostMemory)
    (targetId : MemorySpaceId) :
    Option (Except Failure (GpuTableRepresentation T)) :=
  let hostTable := source.hostTable
  match allocator hostTable.dataSize with
  | .error e => some (.error (.thrown e))
  | .ok dstBuffer =>
      (copyOutOfBlocks hostTable.allocation memory hostTable.dataSize fuel .start 0
        dstBuffer).map fun
        | .error e => .error e
        | .ok dstBuffer =>
            let newGpuData := DeviceBuffer.ofRegion hostTable.dataSize dstBuffer
            .ok ⟨cudf.unpack hostTable.metadata newGpuData, targetId⟩

/-- `convert_host_to_host` for a table in the blocks of `memory`. -/
def convertHostToHost (ndebug : Bool)
    (upstream : Nat → UInt64 → Except Exception Addr) (fuel : Nat)
    (source : HostTableRepresentation) (memory : HostMemory) (target : HostSpace) :
    Option (Result HostSpace HostTableRepresentation) :=
  let hostTable := source.hostTable
  if source.memorySpaceId.deviceId = target.space.id.deviceId ∧ ndebug = false then
    some (target, .error (.assertion
      "source.get_device_id() != target_memory_space->get_device_id()"))
  else
    match target.memoryResource with
    | none => some (target, .error (.thrown (.runtimeError
        "Target HOST memory_space does not have a fixed_size_host_memory_resource")))
    | some mr =>
        match mr.allocateMultipleBlocks hostTable.dataSize none upstream with
        | (mr, .error e) => some (target.withResource mr, .error e)
        | (mr, .ok none) => some (target.withResource mr, .error .nullDereference)
        | (mr, .ok (some dstAllocation)) =>
            (copyBetweenBlocks hostTable.allocation dstAllocation memory
              hostTable.dataSize fuel .start .start 0 target.memory).map
              (finishHostTable target mr dstAllocation hostTable.metadata
                hostTable.dataSize)

end CuCascade.Data

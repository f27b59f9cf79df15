import CuCascade.Proofs.CopyLoops
import CuCascade.Proofs.HostAllocation

/-!
# A table spilled and brought back

A packed table goes to the blocks of one host space, from there to the blocks of
another, and back to a device. What each of the three leaves is the same packed
table in another shape: `Stores` is that shape on the host. The converters
return, so no loop runs out of fuel, no index is outside of an allocation and no
range outside of a block.
-/

namespace CuCascade.Data

open Memory Segmented

/-- The host table holds the packed table: its size, its metadata, and its bytes
in order over the blocks. -/
structure HostTableAllocation.Stores (t : HostTableAllocation) (memory : HostMemory)
    (packed : PackedColumns) : Prop where
  dataSize : t.dataSize = packed.gpuData.size
  metadata : t.metadata = packed.metadata
  room : t.dataSize.toNat ≤ t.allocation.blocks.length * t.allocation.blockSize.toNat
  bytes : Holds t.allocation.blocks t.allocation.blockSize.toNat memory
    t.dataSize.toNat packed.gpuData.byteAt

/-- A host space whose pool is in a state that its users can bring it to, with
blocks of a power of two and room for `n` bytes. -/
def HostSpace.Offers (s : HostSpace) (n : Nat) : Prop :=
  ∃ w k, (HostWorld.machine HostWorld.Proper).Reachable w ∧
    s.space.reservationAllocator = .host w.res ∧
    w.res.blockSize.toNat = 2 ^ k ∧ w.res.HasRoom n

section

variable {T : Type} {cudf : Cudf T} {upstream : Nat → UInt64 → Except Exception Addr}
  {fuel : Nat} {target : HostSpace} {packed : PackedColumns}

/-- A host space that offers room allocates. -/
theorem HostSpace.Offers.allocates {size : UInt64} (h : target.Offers size.toNat)
    (hup : ∀ pool size, ∃ base, upstream pool size = .ok base) :
    ∃ mr mr' a, target.memoryResource = some mr ∧
      mr.allocateMultipleBlocks size none upstream = (mr', .ok (some a)) ∧
      a.blocks.Nodup ∧ size.toNat ≤ a.blocks.length * a.blockSize.toNat := by
  obtain ⟨w, k, hreachable, hspace, hblock, hroom⟩ := h
  obtain ⟨mr', a, hcall, hnodup, henough⟩ := HostResource.allocate_ok hup
    (HostWorld.sound_of_reachable hreachable) hblock hroom
  refine ⟨w.res, mr', a, ?_, hcall, hnodup, henough⟩
  rw [HostSpace.memoryResource, hspace]

theorem convertGpuToHost_stores
    (hup : ∀ pool size, ∃ base, upstream pool size = .ok base)
    (source : GpuTableRepresentation T)
    (hoffers : target.Offers (cudf.pack source.table).gpuData.bytes.length)
    (hfuel : (cudf.pack source.table).gpuData.bytes.length ≤ fuel) :
    ∃ after spilled,
      convertGpuToHost cudf upstream fuel source target = some (after, .ok spilled) ∧
      spilled.memorySpaceId = target.space.id ∧
      spilled.hostTable.Stores after.memory (cudf.pack source.table) := by
  generalize hpack : cudf.pack source.table = packed at hoffers hfuel ⊢
  rw [← packed.gpuData.size_toNat] at hoffers hfuel
  obtain ⟨mr, mr', a, hresource, hcall, hnodup, hroom⟩ := hoffers.allocates hup
  obtain ⟨memory, hloop, hholds⟩ := copyIntoBlocks_holds hnodup hroom fuel (n := 0)
    (BlockCursor.start_at a.blockSize.toNat) (Nat.zero_le _)
    (holds_zero (m := target.memory) packed.gpuData.byteAt) hfuel
  refine ⟨{ target.withResource mr' with memory := memory },
    ⟨⟨a, packed.metadata, packed.gpuData.size⟩, target.space.id⟩, ?_, rfl,
    ⟨rfl, rfl, hroom, hholds⟩⟩
  simp only [convertGpuToHost, hpack, hresource, hcall, hloop, Option.map_some,
    finishHostTable]

theorem convertHostToHost_stores (ndebug : Bool) {memory : HostMemory}
    (hup : ∀ pool size, ∃ base, upstream pool size = .ok base)
    {source : HostTableRepresentation} (hstores : source.hostTable.Stores memory packed)
    (hoffers : target.Offers packed.gpuData.bytes.length)
    (hdevice : source.memorySpaceId.deviceId ≠ target.space.id.deviceId)
    (hfuel : packed.gpuData.bytes.length ≤ fuel) :
    ∃ after moved,
      convertHostToHost ndebug upstream fuel source memory target =
        some (after, .ok moved) ∧
      moved.hostTable.Stores after.memory packed := by
  obtain ⟨hsize, hmetadata, hroom, hbytes⟩ := hstores
  rw [← packed.gpuData.size_toNat, ← hsize] at hoffers hfuel
  obtain ⟨mr, mr', b, hresource, hcall, hnodup, hroom'⟩ := hoffers.allocates hup
  obtain ⟨after, hloop, hholds⟩ := copyBetweenBlocks_holds hroom hbytes hnodup hroom'
    fuel (n := 0) (BlockCursor.start_at _) (BlockCursor.start_at _) (Nat.zero_le _)
    (holds_zero (m := target.memory) packed.gpuData.byteAt) hfuel
  refine ⟨{ target.withResource mr' with memory := after },
    ⟨⟨b, source.hostTable.metadata, source.hostTable.dataSize⟩, target.space.id⟩, ?_,
    ⟨hsize, hmetadata, hroom', hholds⟩⟩
  simp only [convertHostToHost, hdevice, false_and, if_false, hresource, hcall, hloop,
    Option.map_some, finishHostTable]

theorem convertHostToGpu_eq {allocator : UInt64 → Except Exception (Nat → UInt8)}
    (halloc : ∀ size, ∃ region, allocator size = .ok region)
    {source : HostTableRepresentation} {memory : HostMemory}
    (hstores : source.hostTable.Stores memory packed)
    (hfuel : packed.gpuData.bytes.length ≤ fuel) (targetId : MemorySpaceId) :
    convertHostToGpu cudf allocator fuel source memory targetId =
      some (.ok ⟨cudf.unpack packed.metadata packed.gpuData, targetId⟩) := by
  obtain ⟨hsize, hmetadata, hroom, hbytes⟩ := hstores
  obtain ⟨region, hregion⟩ := halloc source.hostTable.dataSize
  have hlength : source.hostTable.dataSize.toNat = packed.gpuData.bytes.length := by
    rw [hsize, packed.gpuData.size_toNat]
  rw [← hlength] at hfuel
  have hnone : ∀ i < (0 : UInt64).toNat, region i = packed.gpuData.byteAt i := nofun
  obtain ⟨after, hloop, hcopied⟩ := copyOutOfBlocks_copies hroom hbytes fuel (n := 0)
    (BlockCursor.start_at _) (Nat.zero_le _) hnone hfuel
  have hbuffer : DeviceBuffer.ofRegion source.hostTable.dataSize after =
      packed.gpuData := by
    apply DeviceBuffer.ofRegion_eq hlength
    rw [← hlength]
    exact hcopied
  simp only [convertHostToGpu, hregion, hloop, Option.map_some, hbuffer, hmetadata]

/-- From a device to `host₁`, on to `host₂` and back to a device: every converter
returns, the packed table is in the blocks of each host space in turn, and what
is unpacked in the end is the buffer and the metadata that were packed. -/
def RoundTrips (cudf : Cudf T) (upstream₁ upstream₂ : Nat → UInt64 → Except Exception Addr)
    (allocator : UInt64 → Except Exception (Nat → UInt8)) (ndebug : Bool) (fuel : Nat)
    (source : GpuTableRepresentation T) (host₁ host₂ : HostSpace)
    (gpuId : MemorySpaceId) : Prop :=
  let packed := cudf.pack source.table
  ∃ after₁ spilled after₂ moved result,
    convertGpuToHost cudf upstream₁ fuel source host₁ = some (after₁, .ok spilled) ∧
    spilled.hostTable.Stores after₁.memory packed ∧
    convertHostToHost ndebug upstream₂ fuel spilled after₁.memory host₂ =
      some (after₂, .ok moved) ∧
    moved.hostTable.Stores after₂.memory packed ∧
    convertHostToGpu cudf allocator fuel moved after₂.memory gpuId =
      some (.ok result) ∧
    result.table = cudf.unpack packed.metadata packed.gpuData ∧
    result.table = source.table

/-- Any two host spaces with room carry any table there and back, whatever their
block sizes are. -/
theorem roundTrips {upstream₁ upstream₂ : Nat → UInt64 → Except Exception Addr}
    {allocator : UInt64 → Except Exception (Nat → UInt8)} {host₁ host₂ : HostSpace}
    (hcudf : ∀ t, cudf.unpack (cudf.pack t).metadata (cudf.pack t).gpuData = t)
    (hup₁ : ∀ pool size, ∃ base, upstream₁ pool size = .ok base)
    (hup₂ : ∀ pool size, ∃ base, upstream₂ pool size = .ok base)
    (halloc : ∀ size, ∃ region, allocator size = .ok region)
    (ndebug : Bool) (source : GpuTableRepresentation T)
    (h₁ : host₁.Offers (cudf.pack source.table).gpuData.bytes.length)
    (h₂ : host₂.Offers (cudf.pack source.table).gpuData.bytes.length)
    (hdevice : host₁.space.id.deviceId ≠ host₂.space.id.deviceId)
    (hfuel : (cudf.pack source.table).gpuData.bytes.length ≤ fuel)
    (gpuId : MemorySpaceId) :
    RoundTrips cudf upstream₁ upstream₂ allocator ndebug fuel source host₁ host₂
      gpuId := by
  obtain ⟨after₁, spilled, hspill, hid, hspilled⟩ :=
    convertGpuToHost_stores hup₁ source h₁ hfuel
  rw [← hid] at hdevice
  obtain ⟨after₂, moved, hmove, hmoved⟩ :=
    convertHostToHost_stores ndebug hup₂ hspilled h₂ hdevice hfuel
  exact ⟨after₁, spilled, after₂, moved, _, hspill, hspilled, hmove, hmoved,
    convertHostToGpu_eq halloc hmoved hfuel gpuId, rfl, hcudf source.table⟩

end

/-- Tables that are their own packed buffer. -/
def flatTables : Cudf DeviceBuffer where
  pack t := ⟨[1, 2, 3], t⟩
  unpack _ buffer := buffer

/-- A host space of a device, with a fresh pool of four blocks of this size. -/
def freshHost (device : Int) (blockSize : UInt64) : HostSpace :=
  ⟨⟨⟨.HOST, device⟩, .host (.create 4096 4096 blockSize 4 [0x1000]), .fresh⟩,
    fun _ _ => 0⟩

theorem offers_freshHost (device : Int) {blockSize : UInt64} {n k : Nat}
    (hblock : (HostResource.create 4096 4096 blockSize 4 [0x1000]).blockSize.toNat =
      2 ^ k)
    (hroom : (HostResource.create 4096 4096 blockSize 4 [0x1000]).HasRoom n) :
    (freshHost device blockSize).Offers n :=
  ⟨HostWorld.fresh 4096 4096 blockSize 4 [0x1000], k,
    ⟨_, [], ⟨_, _, _, _, _, rfl⟩, Machine.lawful_nil _, rfl⟩, rfl, hblock, hroom⟩

/-- 40 bytes over three blocks of 16, one of 64, and back. -/
theorem roundTrips_blocks :
    RoundTrips flatTables (fun _ _ => .ok 0x2000) (fun _ _ => .ok 0x3000)
      (fun _ => .ok fun _ => 0xff) false 40
      ⟨⟨List.replicate 40 7, by decide⟩, ⟨.GPU, 0⟩⟩ (freshHost 0 16)
      (freshHost 1 64) ⟨.GPU, 0⟩ :=
  roundTrips (fun _ => rfl) (fun _ _ => ⟨_, rfl⟩) (fun _ _ => ⟨_, rfl⟩)
    (fun _ => ⟨_, rfl⟩) false _
    (offers_freshHost 0 (k := 4) (by decide) (by decide))
    (offers_freshHost 1 (k := 6) (by decide) (by decide)) (by decide) (by decide)
    ⟨.GPU, 0⟩

end CuCascade.Data

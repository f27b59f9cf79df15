import CuCascade.Data.TableStore
import CuCascade.Proofs.CopyOutcomes
import CuCascade.Proofs.RoundTrip
import CuCascade.Proofs.SparedBlocks

/-!
# What a converter delivers

A converter to the host ends in one of many ways: the space has no pool, the pool is full,
its upstream throws, the blocks are too few. Whichever it is, the converter comes to an
end, the pool it has asked has no block in two places, and what is written is written to
blocks that nobody else has. If it delivers a table, its blocks hold the packed table; and
what a converter to a device delivers is the table itself.
-/

namespace CuCascade.Data

open Memory Segmented

section

variable {packed : PackedColumns} {target after : HostSpace} {mr mr' : HostResource}
  {a : MultipleBlocksAllocation} {memory memory' : HostMemory}

/-- What a table stores depends on its own blocks. -/
theorem HostTableAllocation.Stores.congr {t : HostTableAllocation}
    (h : t.Stores memory packed) (hsame : ∀ b ∈ t.allocation.blocks, memory' b = memory b) :
    t.Stores memory' packed :=
  ⟨h.dataSize, h.metadata, h.room, h.bytes.congr hsame⟩

/-- The blocks of the table that a converter has made. -/
def landed : Except Failure HostTableRepresentation → List Block
  | .ok table => table.hostTable.allocation.blocks
  | .error _ => []

/-- What becomes of the target of a converter that has this outcome. -/
structure Delivered (packed : PackedColumns) (target after : HostSpace)
    (out : Except Failure HostTableRepresentation) : Prop where
  pool : after = target ∧ landed out = [] ∨
    ∃ mr mr', target.memoryResource = some mr ∧ after.memoryResource = some mr' ∧
      mr.Spares mr' (landed out)
  kept : ∀ b ∉ landed out, after.memory b = target.memory b
  stores : ∀ table, out = .ok table → table.hostTable.Stores after.memory packed

theorem delivered_idle (e : Failure) : Delivered packed target target (.error e) where
  pool := .inl ⟨rfl, rfl⟩
  kept _ _ := rfl
  stores := nofun

/-- Nothing came of the allocation, or it was given back. -/
theorem delivered_error (hmr : target.memoryResource = some mr) (hspares : mr.Spares mr' [])
    (e : Failure) : Delivered packed target (target.withResource mr') (.error e) where
  pool := .inr ⟨mr, mr', hmr, rfl, hspares⟩
  kept _ _ := rfl
  stores := nofun

/-- Blocks that are given back are not free. -/
theorem spares_destroyAllocation {out : List Block} (h : mr.Spares mr' out)
    (a : MultipleBlocksAllocation) : mr.Spares (mr'.destroyAllocation a).1 [] := by
  have hsame := HostResource.destroyAllocation_samePool mr' a
  obtain ⟨carved, hcarved, hle⟩ := h.blocks
  refine ⟨?_, hsame.poolSize.trans h.poolSize, carved, hsame.carved.trans hcarved, ?_⟩
  · rw [← h.blockSize]
    unfold HostResource.destroyAllocation HostResource.returnAllocatedChunks
    split
    · dsimp only
      split
      · rfl
      · split <;> rfl
    · rfl
  · rw [hsame.freeBlocks, Multiset.coe_nil, add_zero]
    exact (Multiset.le_add_right _ _).trans hle

theorem finishHostTable_delivers {out : Except Failure HostMemory}
    (hmr : target.memoryResource = some mr) (hspares : mr.Spares mr' a.blocks)
    (hfills : Fills a packed.gpuData.size target.memory out)
    (hholds : ∀ memory, out = .ok memory →
      Holds a.blocks a.blockSize.toNat memory packed.gpuData.size.toNat
        packed.gpuData.byteAt) :
    Delivered packed target
      (finishHostTable target mr' a packed.metadata packed.gpuData.size out).1
      (finishHostTable target mr' a packed.metadata packed.gpuData.size out).2 := by
  cases out with
  | error e => exact delivered_error hmr (spares_destroyAllocation hspares a) e
  | ok memory =>
      obtain ⟨hroom, hkept⟩ := hfills memory rfl
      refine ⟨.inr ⟨mr, mr', hmr, rfl, hspares⟩, hkept, ?_⟩
      intro table htable
      cases htable
      exact ⟨rfl, rfl, hroom, hholds memory rfl⟩

/-! ## Converters to the host -/

theorem spares_of_allocate {bytes : UInt64} {upstream : Nat → UInt64 → Except Exception Addr}
    {out : Except Failure (Option MultipleBlocksAllocation)}
    (h : mr.allocateMultipleBlocks bytes none upstream = (mr', out)) :
    mr.Spares mr' (HostResource.handedOut out) := by
  change mr.allocateMultipleBlocks bytes ((none : Option Addr).map some) upstream = _ at h
  exact HostResource.allocate_spares h

/-- The blocks of an allocation that is not empty have a size. -/
theorem blockSize_pos_of_allocate {bytes : UInt64}
    {upstream : Nat → UInt64 → Except Exception Addr}
    (h : mr.allocateMultipleBlocks bytes none upstream = (mr', .ok (some a)))
    (hbytes : bytes ≠ 0) : 0 < a.blockSize.toNat := by
  have hspares := spares_of_allocate h
  rw [HostResource.allocateMultipleBlocks, if_neg hbytes] at h
  by_cases hblock : mr.blockSize = 0
  · rw [if_pos hblock] at h
    cases h
  · rw [if_neg hblock] at h
    have hsize : a.blockSize = mr.blockSize := by
      rw [← hspares.blockSize]
      dsimp only at h
      unfold HostResource.allocateTracked at h
      split at h
      · cases h
      · dsimp only at h
        split at h <;> cases h
        rfl
    rw [hsize]
    exact Nat.pos_of_ne_zero fun hzero => hblock (UInt64.toNat_inj.mp hzero)

/-- Blocks that were handed out are apart from each other. -/
theorem nodup_of_spares {out : List Block} (h : mr.Spares mr' out)
    (hfree : (mr.freeBlocks : Multiset Block) ≤ mr.carved) : out.Nodup := by
  obtain ⟨carved, hcarved, hle⟩ := h.blocks
  have hall : (out : Multiset Block) ≤ mr'.carved := by
    rw [hcarved, ← Multiset.coe_add]
    exact (Multiset.le_add_left _ _).trans (hle.trans (Multiset.add_le_add_right hfree))
  exact Multiset.coe_nodup.mp
    (Multiset.nodup_of_le hall (Multiset.coe_nodup.mpr (HostResource.carved_nodup mr')))

variable {T : Type} {cudf : Cudf T} {ndebug : Bool}
  {upstream : Nat → UInt64 → Except Exception Addr}

theorem convertGpuToHost_delivers (source : GpuTableRepresentation T)
    (hfree : ∀ mr ∈ target.memoryResource, (mr.freeBlocks : Multiset Block) ≤ mr.carved) :
    ∃ after out, convertGpuToHost cudf upstream
        (cudf.pack source.table).gpuData.size.toNat source target = some (after, out) ∧
      Delivered (cudf.pack source.table) target after out := by
  generalize hpack : cudf.pack source.table = packed
  unfold convertGpuToHost
  rw [hpack]
  dsimp only
  cases hmr : target.memoryResource with
  | none => exact ⟨_, _, rfl, delivered_idle _⟩
  | some mr =>
      rcases hcall : mr.allocateMultipleBlocks packed.gpuData.size none upstream with
        ⟨mr', e | _ | a⟩
      · simp only [hcall]
        exact ⟨_, _, rfl, delivered_error hmr (spares_of_allocate hcall) e⟩
      · simp only [hcall]
        exact ⟨_, _, rfl, delivered_error hmr (spares_of_allocate hcall) _⟩
      · have hspares : mr.Spares mr' a.blocks := spares_of_allocate hcall
        have hnodup := nodup_of_spares hspares (hfree mr hmr)
        obtain ⟨out, hloop, hfills⟩ := copyIntoBlocks_fills (n := 0)
          (blockSize_pos_of_allocate hcall) packed.gpuData.size.toNat target.memory
          (BlockCursor.start_at _) (Nat.zero_le _) (Nat.zero_le _) (Nat.sub_le _ _)
        simp only [hcall, hloop, Option.map_some]
        refine ⟨_, _, rfl, ?_⟩
        refine finishHostTable_delivers hmr hspares hfills fun memory hout => ?_
        obtain ⟨memory', hloop', hholds⟩ := copyIntoBlocks_holds hnodup (hfills memory hout).1
          packed.gpuData.size.toNat (n := 0) (BlockCursor.start_at _) (Nat.zero_le _)
          (holds_zero (m := target.memory) packed.gpuData.byteAt) (Nat.sub_le _ _)
        rw [hloop, hout] at hloop'
        cases hloop'
        exact hholds

theorem convertHostToHost_delivers {source : HostTableRepresentation}
    (hstores : source.hostTable.Stores memory packed)
    (hfree : ∀ mr ∈ target.memoryResource, (mr.freeBlocks : Multiset Block) ≤ mr.carved) :
    ∃ after out, convertHostToHost ndebug upstream source.hostTable.dataSize.toNat source memory
        target = some (after, out) ∧
      Delivered packed target after out := by
  obtain ⟨hsize, hmetadata, hroom, hbytes⟩ := hstores
  unfold convertHostToHost
  dsimp only
  rw [hsize] at hroom hbytes ⊢
  rw [hmetadata]
  split
  · exact ⟨_, _, rfl, delivered_idle _⟩
  cases hmr : target.memoryResource with
  | none => exact ⟨_, _, rfl, delivered_idle _⟩
  | some mr =>
      rcases hcall : mr.allocateMultipleBlocks packed.gpuData.size none upstream with
        ⟨mr', e | _ | a⟩
      · simp only [hcall]
        exact ⟨_, _, rfl, delivered_error hmr (spares_of_allocate hcall) e⟩
      · simp only [hcall]
        exact ⟨_, _, rfl, delivered_error hmr (spares_of_allocate hcall) _⟩
      · have hspares : mr.Spares mr' a.blocks := spares_of_allocate hcall
        have hnodup := nodup_of_spares hspares (hfree mr hmr)
        obtain ⟨out, hloop, hfills⟩ := copyBetweenBlocks_fills (n := 0) memory hroom
          (blockSize_pos_of_allocate hcall) packed.gpuData.size.toNat target.memory
          (BlockCursor.start_at _) (BlockCursor.start_at _) (Nat.zero_le _) (Nat.zero_le _)
          (Nat.sub_le _ _)
        simp only [hcall, hloop, Option.map_some]
        refine ⟨_, _, rfl, ?_⟩
        refine finishHostTable_delivers hmr hspares hfills fun memory' hout => ?_
        obtain ⟨after, hloop', hholds⟩ := copyBetweenBlocks_holds hroom hbytes hnodup
          (hfills memory' hout).1 packed.gpuData.size.toNat (n := 0) (BlockCursor.start_at _)
          (BlockCursor.start_at _) (Nat.zero_le _)
          (holds_zero (m := target.memory) packed.gpuData.byteAt) (Nat.sub_le _ _)
        rw [hloop, hout] at hloop'
        cases hloop'
        exact hholds

/-! ## Converters to a device -/

/-- What is copied whole is the buffer. -/
theorem convertGpuToGpu_ok {allocator : UInt64 → Except Exception (Nat → UInt8)}
    {source table : GpuTableRepresentation T} {targetId : MemorySpaceId}
    (h : convertGpuToGpu cudf ndebug allocator source targetId = .ok table) :
    table = ⟨cudf.unpack (cudf.pack source.table).metadata (cudf.pack source.table).gpuData,
      targetId⟩ := by
  unfold convertGpuToGpu at h
  generalize cudf.pack source.table = packed at h ⊢
  dsimp only at h
  split at h
  · cases h
  · cases halloc : allocator packed.gpuData.size with
    | error e =>
        rw [halloc] at h
        cases h
    | ok region =>
        have hfits : (0 : UInt64).toNat + packed.gpuData.size.toNat ≤
            packed.gpuData.size.toNat := by
          rw [UInt64.toNat_zero, Nat.zero_add]
        obtain ⟨contents, hcopy, hwritten, -⟩ :=
          copyBytes_ok region packed.gpuData.byteAt hfits hfits
        simp only [halloc, hcopy] at h
        have hbuffer : DeviceBuffer.ofRegion packed.gpuData.size contents = packed.gpuData := by
          apply DeviceBuffer.ofRegion_eq packed.gpuData.size_toNat
          intro i hi
          rw [← packed.gpuData.size_toNat] at hi
          have hbyte := hwritten i hi
          rwa [UInt64.toNat_zero, Nat.zero_add] at hbyte
        cases h
        rw [hbuffer]

theorem convertHostToGpu_returns (cudf : Cudf T) {source : HostTableRepresentation}
    (hstores : source.hostTable.Stores memory packed)
    (allocator : UInt64 → Except Exception (Nat → UInt8)) (targetId : MemorySpaceId) :
    ∃ out, convertHostToGpu cudf allocator source.hostTable.dataSize.toNat source memory
        targetId = some out ∧
      ∀ table, out = .ok table →
        table = ⟨cudf.unpack packed.metadata packed.gpuData, targetId⟩ := by
  cases halloc : allocator source.hostTable.dataSize with
  | error e =>
      refine ⟨.error (.thrown e), ?_, nofun⟩
      simp only [convertHostToGpu, halloc]
  | ok region =>
      have hfuel : packed.gpuData.bytes.length ≤ source.hostTable.dataSize.toNat := by
        rw [hstores.dataSize, packed.gpuData.size_toNat]
      have hcall : convertHostToGpu cudf (fun _ => .ok region) source.hostTable.dataSize.toNat
          source memory targetId = _ :=
        convertHostToGpu_eq (fun _ => ⟨region, rfl⟩) hstores hfuel targetId
      refine ⟨_, ?_, fun table h => (Except.ok.inj h).symm⟩
      rw [← hcall]
      simp only [convertHostToGpu, halloc]

end

end CuCascade.Data

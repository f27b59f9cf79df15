import CuCascade.Data.RepresentationConverter
import CuCascade.Lib.Segmented

/-!
# The copy loops

Each loop keeps one number that matters, how many bytes are copied. The cursor
of a side is that number divided by the block size of that side, and the bytes
up to it are where they belong. A turn copies a piece that is not empty and
crosses no end of a block, so the loop is done after at most as many turns as
there are bytes, and never leaves an allocation or a block.
-/

namespace CuCascade.Data

open Memory Segmented

namespace DeviceBuffer

theorem size_toNat (b : DeviceBuffer) : b.size.toNat = b.bytes.length :=
  Word.toNat_ofNat b.size_lt

theorem byteAt_of_lt (b : DeviceBuffer) {i : Nat} (h : i < b.bytes.length) :
    b.byteAt i = b.bytes[i] := by
  rw [byteAt, List.getD_eq_getElem?_getD, List.getElem?_eq_getElem h,
    Option.getD_some]

/-- A region with the bytes of a buffer makes that buffer. -/
theorem ofRegion_eq {b : DeviceBuffer} {size : UInt64} {region : Nat → UInt8}
    (hsize : size.toNat = b.bytes.length)
    (h : ∀ i < b.bytes.length, region i = b.byteAt i) : ofRegion size region = b := by
  obtain ⟨bytes, hlt⟩ := b
  simp only [ofRegion, DeviceBuffer.mk.injEq]
  apply List.ext_getElem
  · rw [List.length_map, List.length_range, hsize]
  · intro i hi hi'
    rw [List.getElem_map, List.getElem_range, h i hi']
    exact byteAt_of_lt ⟨bytes, hlt⟩ hi'

end DeviceBuffer

/-- A copy inside its regions does what it should, and nothing else. -/
theorem copyBytes_ok (dst src : Nat → UInt8)
    {dstSize dstOffset srcSize srcOffset count : UInt64}
    (hdst : dstOffset.toNat + count.toNat ≤ dstSize.toNat)
    (hsrc : srcOffset.toNat + count.toNat ≤ srcSize.toNat) :
    ∃ contents,
      copyBytes dst dstSize dstOffset src srcSize srcOffset count = .ok contents ∧
      (∀ i < count.toNat,
        contents (dstOffset.toNat + i) = src (srcOffset.toNat + i)) ∧
      ∀ i < dstOffset.toNat, contents i = dst i := by
  refine ⟨_, if_pos ⟨hdst, hsrc⟩, ?_, ?_⟩
  · intro i hi
    rw [if_pos (by omega), Nat.add_sub_cancel_left]
  · intro i hi
    rw [if_neg (by omega)]

/-- The cursor is at position `n` of blocks of this size. -/
structure BlockCursor.At (c : BlockCursor) (size n : Nat) : Prop where
  blockIndex : c.blockIndex.toNat = n / size
  blockOffset : c.blockOffset.toNat = n % size

namespace BlockCursor

variable {c : BlockCursor} {n : Nat} {blockSize count : UInt64}

theorem start_at (size : Nat) : start.At size 0 :=
  ⟨(Nat.zero_div size).symm, (Nat.zero_mod size).symm⟩

theorem At.advance (h : c.At blockSize.toNat n) (hpos : 0 < blockSize.toNat)
    (hin : n % blockSize.toNat + count.toNat ≤ blockSize.toNat)
    (hlt : n + count.toNat < 2 ^ 64) :
    (c.advance blockSize count).At blockSize.toNat (n + count.toNat) := by
  have hsum : (c.blockOffset + count).toNat =
      n % blockSize.toNat + count.toNat := by
    have hmax := blockSize.toNat_lt
    rw [Word.toNat_add (by rw [h.blockOffset]; omega), h.blockOffset]
  unfold BlockCursor.advance
  simp only
  split
  · next hend =>
      have heq : n % blockSize.toNat + count.toNat = blockSize.toNat := by
        rw [← hsum, hend]
      have hdiv := div_add_of_eq hpos heq
      have hle := Nat.div_le_self (n + count.toNat) blockSize.toNat
      have hone : (1 : UInt64).toNat = 1 := rfl
      constructor
      · show (c.blockIndex + 1).toNat = _
        rw [Word.toNat_add (by rw [h.blockIndex, hone]; omega), h.blockIndex, hdiv,
          hone]
      · rw [mod_add_of_eq heq]
        rfl
  · next hmore =>
      have hne : n % blockSize.toNat + count.toNat ≠ blockSize.toNat := by
        intro heq
        exact hmore (UInt64.toNat_inj.mp (hsum.trans heq))
      have hin : n % blockSize.toNat + count.toNat < blockSize.toNat := by omega
      constructor
      · rw [div_add_of_lt hin]
        exact h.blockIndex
      · rw [mod_add_of_lt hin]
        exact hsum

/-- What is left of the block at the cursor. -/
theorem At.available (h : c.At blockSize.toNat n) (hpos : 0 < blockSize.toNat) :
    (blockSize - c.blockOffset).toNat = blockSize.toNat - n % blockSize.toNat := by
  have hmod := Nat.mod_lt n hpos
  rw [Word.toNat_sub (by rw [h.blockOffset]; omega), h.blockOffset]

/-- The block at the cursor. -/
theorem At.blockAt {a : MultipleBlocksAllocation} (h : c.At a.blockSize.toNat n)
    {block : Block} (hblock : a.blocks[n / a.blockSize.toNat]? = some block) :
    blockAt a c.blockIndex = .ok block := by
  simp only [Data.blockAt, h.blockIndex, hblock]

end BlockCursor

section Loops

variable {size n : UInt64}

theorem lt_of_not_done (h : n < size) : n.toNat < size.toNat :=
  UInt64.lt_iff_toNat_lt.mp h

theorem remaining_toNat (h : n < size) : (size - n).toNat = size.toNat - n.toNat :=
  Word.toNat_sub (Nat.le_of_lt (lt_of_not_done h))

/-- `size_t` addition that stays below a size. -/
theorem toNat_add_of_le_size {count : UInt64}
    (h : n.toNat + count.toNat ≤ size.toNat) :
    (n + count).toNat = n.toNat + count.toNat :=
  Word.toNat_add (Nat.lt_of_le_of_lt h size.toNat_lt)

theorem not_lt_of_fuel (h : size.toNat - n.toNat ≤ 0) : ¬ n < size := by
  rw [UInt64.lt_iff_toNat_lt]
  omega

/-- A loop that is done has come to the end. -/
theorem toNat_of_done (hn : n.toNat ≤ size.toNat) (h : ¬ n < size) :
    n.toNat = size.toNat := by
  rw [UInt64.lt_iff_toNat_lt] at h
  omega

/-- Where there is more to copy and room for all of it, the cursor stands in a
block with something left in it. -/
theorem BlockCursor.At.turn {c : BlockCursor} {a : MultipleBlocksAllocation}
    (h : c.At a.blockSize.toNat n.toNat)
    (hroom : size.toNat ≤ a.blocks.length * a.blockSize.toNat) (hmore : n < size) :
    ∃ block, a.blocks[n.toNat / a.blockSize.toNat]? = some block ∧
      n.toNat % a.blockSize.toNat < a.blockSize.toNat ∧
      c.blockOffset.toNat = n.toNat % a.blockSize.toNat ∧
      (a.blockSize - c.blockOffset).toNat =
        a.blockSize.toNat - n.toNat % a.blockSize.toNat := by
  have hlt := Nat.lt_of_lt_of_le (lt_of_not_done hmore) hroom
  have hpos := pos_of_lt_mul hlt
  obtain ⟨block, hblock⟩ := exists_segment hlt
  exact ⟨block, hblock, Nat.mod_lt n.toNat hpos, h.blockOffset, h.available hpos⟩

/-- A piece that crosses no end of a block takes the cursor along. -/
theorem BlockCursor.At.goesOn {c : BlockCursor} {blockSize count : UInt64}
    (h : c.At blockSize.toNat n.toNat)
    (hmod : n.toNat % blockSize.toNat < blockSize.toNat)
    (hin : n.toNat % blockSize.toNat + count.toNat ≤ blockSize.toNat)
    (hle : n.toNat + count.toNat ≤ size.toNat) :
    (c.advance blockSize count).At blockSize.toNat (n + count).toNat := by
  rw [toNat_add_of_le_size hle]
  exact h.advance (Nat.lt_of_le_of_lt (Nat.zero_le _) hmod) hin
    (Nat.lt_of_le_of_lt hle size.toNat_lt)

/-- With room for the buffer, the loop of `convert_gpu_to_host` ends with the
buffer in the blocks. -/
theorem copyIntoBlocks_holds {a : MultipleBlocksAllocation} {data : DeviceBuffer}
    (hnodup : a.blocks.Nodup)
    (hroom : data.size.toNat ≤ a.blocks.length * a.blockSize.toNat) (fuel : Nat) :
    ∀ {c : BlockCursor} {n : UInt64} {memory : HostMemory},
      c.At a.blockSize.toNat n.toNat → n.toNat ≤ data.size.toNat →
      Holds a.blocks a.blockSize.toNat memory n.toNat data.byteAt →
      data.size.toNat - n.toNat ≤ fuel →
      ∃ after, copyIntoBlocks a data fuel c n memory = some (.ok after) ∧
        Holds a.blocks a.blockSize.toNat after data.size.toNat data.byteAt := by
  induction fuel with
  | zero =>
      intro c n memory hc hn hholds hfuel
      have hdone := not_lt_of_fuel hfuel
      rw [toNat_of_done hn hdone] at hholds
      exact ⟨memory, by rw [copyIntoBlocks, if_neg hdone], hholds⟩
  | succ fuel ih =>
      intro c n memory hc hn hholds hfuel
      by_cases hmore : n < data.size
      · have hlt := lt_of_not_done hmore
        obtain ⟨block, hblock, hmod, hoffset, havailable⟩ := hc.turn hroom hmore
        have hcount : (min (data.size - n) (a.blockSize - c.blockOffset)).toNat =
            min (data.size.toNat - n.toNat)
              (a.blockSize.toNat - n.toNat % a.blockSize.toNat) := by
          rw [Word.toNat_min, remaining_toNat hmore, havailable]
        generalize hbytes : min (data.size - n) (a.blockSize - c.blockOffset) = count
          at hcount
        have hdst : c.blockOffset.toNat + count.toNat ≤ a.blockSize.toNat := by omega
        have hsrc : n.toNat + count.toNat ≤ data.size.toNat := by omega
        obtain ⟨contents, hcopy, hwritten, hkept⟩ :=
          copyBytes_ok (memory block) data.byteAt hdst hsrc
        rw [hoffset] at hwritten hkept
        have hsum : (n + count).toNat = n.toNat + count.toNat :=
          toNat_add_of_le_size hsrc
        have hnext : Holds a.blocks a.blockSize.toNat
            (Function.update memory block contents) (n + count).toNat data.byteAt := by
          rw [hsum]
          exact hholds.extend hnodup hblock (by omega) hwritten hkept
        have hcursor := hc.goesOn hmod (by omega) hsrc
        obtain ⟨after, hrun, hafter⟩ := ih hcursor (by omega) hnext (by omega)
        refine ⟨after, ?_, hafter⟩
        rw [copyIntoBlocks, if_pos hmore]
        simp only [hc.blockAt hblock, hbytes, hcopy, hrun]
      · rw [toNat_of_done hn hmore] at hholds
        exact ⟨memory, by rw [copyIntoBlocks, if_neg hmore], hholds⟩

/-- Out of blocks that hold a source, the loop of `convert_host_to_gpu` ends
with the source in the buffer. -/
theorem copyOutOfBlocks_copies {a : MultipleBlocksAllocation} {memory : HostMemory}
    {source : Nat → UInt8}
    (hroom : size.toNat ≤ a.blocks.length * a.blockSize.toNat)
    (hholds : Holds a.blocks a.blockSize.toNat memory size.toNat source)
    (fuel : Nat) :
    ∀ {src : BlockCursor} {n : UInt64} {dst : Nat → UInt8},
      src.At a.blockSize.toNat n.toNat → n.toNat ≤ size.toNat →
      (∀ i < n.toNat, dst i = source i) → size.toNat - n.toNat ≤ fuel →
      ∃ after, copyOutOfBlocks a memory size fuel src n dst = some (.ok after) ∧
        ∀ i < size.toNat, after i = source i := by
  induction fuel with
  | zero =>
      intro src n dst hsrc hn hcopied hfuel
      have hdone := not_lt_of_fuel hfuel
      rw [toNat_of_done hn hdone] at hcopied
      exact ⟨dst, by rw [copyOutOfBlocks, if_neg hdone], hcopied⟩
  | succ fuel ih =>
      intro src n dst hsrc hn hcopied hfuel
      by_cases hmore : n < size
      · have hlt := lt_of_not_done hmore
        obtain ⟨block, hblock, hmod, hoffset, havailable⟩ := hsrc.turn hroom hmore
        have hcount : (min (size - n) (a.blockSize - src.blockOffset)).toNat =
            min (size.toNat - n.toNat)
              (a.blockSize.toNat - n.toNat % a.blockSize.toNat) := by
          rw [Word.toNat_min, remaining_toNat hmore, havailable]
        generalize hbytes : min (size - n) (a.blockSize - src.blockOffset) = count
          at hcount
        have hinDst : n.toNat + count.toNat ≤ size.toNat := by omega
        have hinSrc : src.blockOffset.toNat + count.toNat ≤ a.blockSize.toNat := by
          omega
        obtain ⟨after, hcopy, hwritten, hkept⟩ :=
          copyBytes_ok dst (memory block) hinDst hinSrc
        have hsum : (n + count).toNat = n.toNat + count.toNat :=
          toNat_add_of_le_size hinDst
        have hnext : ∀ i < (n + count).toNat, after i = source i := by
          intro i hi
          rcases Nat.lt_or_ge i n.toNat with hold | hnew
          · rw [hkept i hold, hcopied i hold]
          · obtain ⟨j, rfl⟩ := Nat.exists_eq_add_of_le hnew
            rw [hwritten j (by omega), hoffset]
            exact hholds.piece hblock (by omega) (by omega)
        have hcursor := hsrc.goesOn hmod (by omega) hinDst
        obtain ⟨last, hrun, hlast⟩ := ih hcursor (by omega) hnext (by omega)
        refine ⟨last, ?_, hlast⟩
        rw [copyOutOfBlocks, if_pos hmore]
        simp only [hsrc.blockAt hblock, hbytes, hcopy, hrun]
      · rw [toNat_of_done hn hmore] at hcopied
        exact ⟨dst, by rw [copyOutOfBlocks, if_neg hmore], hcopied⟩

/-- Out of blocks of one size, the loop of `convert_host_to_host` ends with the
source in blocks of another. -/
theorem copyBetweenBlocks_holds {a b : MultipleBlocksAllocation}
    {memory : HostMemory} {source : Nat → UInt8}
    (hroom : size.toNat ≤ a.blocks.length * a.blockSize.toNat)
    (hholds : Holds a.blocks a.blockSize.toNat memory size.toNat source)
    (hnodup : b.blocks.Nodup)
    (hroom' : size.toNat ≤ b.blocks.length * b.blockSize.toNat) (fuel : Nat) :
    ∀ {src dst : BlockCursor} {n : UInt64} {dstMemory : HostMemory},
      src.At a.blockSize.toNat n.toNat → dst.At b.blockSize.toNat n.toNat →
      n.toNat ≤ size.toNat →
      Holds b.blocks b.blockSize.toNat dstMemory n.toNat source →
      size.toNat - n.toNat ≤ fuel →
      ∃ after,
        copyBetweenBlocks a b memory size fuel src dst n dstMemory =
          some (.ok after) ∧
        Holds b.blocks b.blockSize.toNat after size.toNat source := by
  induction fuel with
  | zero =>
      intro src dst n dstMemory hsrc hdst hn hcopied hfuel
      have hdone := not_lt_of_fuel hfuel
      rw [toNat_of_done hn hdone] at hcopied
      exact ⟨dstMemory, by rw [copyBetweenBlocks, if_neg hdone], hcopied⟩
  | succ fuel ih =>
      intro src dst n dstMemory hsrc hdst hn hcopied hfuel
      by_cases hmore : n < size
      · have hlt := lt_of_not_done hmore
        obtain ⟨srcBlock, hsrcBlock, hmod, hsrcOffset, havailable⟩ :=
          hsrc.turn hroom hmore
        obtain ⟨dstBlock, hdstBlock, hmod', hdstOffset, havailable'⟩ :=
          hdst.turn hroom' hmore
        have hcount : (min (size - n) (min (a.blockSize - src.blockOffset)
            (b.blockSize - dst.blockOffset))).toNat =
            min (size.toNat - n.toNat)
              (min (a.blockSize.toNat - n.toNat % a.blockSize.toNat)
                (b.blockSize.toNat - n.toNat % b.blockSize.toNat)) := by
          rw [Word.toNat_min, Word.toNat_min, remaining_toNat hmore, havailable,
            havailable']
        generalize hbytes : min (size - n) (min (a.blockSize - src.blockOffset)
          (b.blockSize - dst.blockOffset)) = count at hcount
        have hinDst : dst.blockOffset.toNat + count.toNat ≤ b.blockSize.toNat := by
          omega
        have hinSrc : src.blockOffset.toNat + count.toNat ≤ a.blockSize.toNat := by
          omega
        have hle : n.toNat + count.toNat ≤ size.toNat := by omega
        obtain ⟨contents, hcopy, hwritten, hkept⟩ :=
          copyBytes_ok (dstMemory dstBlock) (memory srcBlock) hinDst hinSrc
        rw [hdstOffset] at hwritten hkept
        have hsum : (n + count).toNat = n.toNat + count.toNat :=
          toNat_add_of_le_size hle
        have hnext : Holds b.blocks b.blockSize.toNat
            (Function.update dstMemory dstBlock contents) (n + count).toNat source := by
          rw [hsum]
          refine hcopied.extend hnodup hdstBlock (by omega) (fun i hi => ?_) hkept
          rw [hwritten i hi, hsrcOffset]
          exact hholds.piece hsrcBlock (by omega) (by omega)
        have hsrcNext := hsrc.goesOn hmod (by omega) hle
        have hdstNext := hdst.goesOn hmod' (by omega) hle
        obtain ⟨after, hrun, hafter⟩ := ih hsrcNext hdstNext (by omega) hnext (by omega)
        refine ⟨after, ?_, hafter⟩
        rw [copyBetweenBlocks, if_pos hmore]
        simp only [hsrc.blockAt hsrcBlock, hdst.blockAt hdstBlock, hbytes, hcopy, hrun]
      · rw [toNat_of_done hn hmore] at hcopied
        exact ⟨dstMemory, by rw [copyBetweenBlocks, if_neg hmore], hcopied⟩

end Loops

end CuCascade.Data

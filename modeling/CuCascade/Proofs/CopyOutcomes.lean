import CuCascade.Proofs.CopyLoops

/-!
# How the copy loops end

The loops that fill blocks, on an allocation of any number of blocks. If there are not
enough the block after the last is asked for, which throws; so a loop that comes to its
end has had room. Either way it ends, and it has written to the blocks of the allocation
and to no others.
-/

namespace CuCascade.Data

open Memory Segmented

variable {size n : UInt64} {a : MultipleBlocksAllocation} {memory : HostMemory}

/-- A block that is there has room up to its end. -/
theorem room_of_block {block : Block} {m count : Nat}
    (hblock : a.blocks[m / a.blockSize.toNat]? = some block)
    (hin : m % a.blockSize.toNat + count ≤ a.blockSize.toNat) :
    m + count ≤ a.blocks.length * a.blockSize.toNat := by
  have hlt := (List.getElem?_eq_some_iff.mp hblock).1
  have hle := Nat.mul_le_mul_right a.blockSize.toNat (Nat.succ_le_of_lt hlt)
  rw [Nat.succ_mul] at hle
  have hm := Nat.div_add_mod m a.blockSize.toNat
  rw [Nat.mul_comm] at hm
  omega

/-- A write to a block leaves the blocks of others. -/
theorem kept_of_update {block : Block} {contents : Nat → UInt8} {after : HostMemory}
    (hblock : block ∈ a.blocks)
    (hkept : ∀ b ∉ a.blocks, after b = Function.update memory block contents b) :
    ∀ b ∉ a.blocks, after b = memory b := by
  intro b hb
  rw [hkept b hb, Function.update_of_ne]
  rintro rfl
  exact hb hblock

/-- What a loop that fills the blocks of `a` with `size` bytes may end with. -/
def Fills (a : MultipleBlocksAllocation) (size : UInt64) (memory : HostMemory)
    (out : Except Failure HostMemory) : Prop :=
  ∀ after, out = .ok after → size.toNat ≤ a.blocks.length * a.blockSize.toNat ∧
    ∀ b ∉ a.blocks, after b = memory b

theorem fills_error (e : Failure) : Fills a size memory (.error e) := nofun

theorem Fills.of_update {block : Block} {contents : Nat → UInt8}
    {out : Except Failure HostMemory} (hblock : block ∈ a.blocks)
    (h : Fills a size (Function.update memory block contents) out) :
    Fills a size memory out := by
  intro after hout
  obtain ⟨hroom, hkept⟩ := h after hout
  exact ⟨hroom, kept_of_update hblock hkept⟩

theorem fills_done (hn : n.toNat ≤ a.blocks.length * a.blockSize.toNat)
    (hle : n.toNat ≤ size.toNat) (hdone : ¬ n < size) : Fills a size memory (.ok memory) := by
  intro after hout
  cases hout
  rw [toNat_of_done hle hdone] at hn
  exact ⟨hn, fun _ _ => rfl⟩

/-- The loop of `convert_gpu_to_host`. -/
theorem copyIntoBlocks_fills {data : DeviceBuffer}
    (hpos : data.size ≠ 0 → 0 < a.blockSize.toNat) (fuel : Nat) :
    ∀ (memory : HostMemory) {c : BlockCursor} {n : UInt64},
      c.At a.blockSize.toNat n.toNat → n.toNat ≤ data.size.toNat →
      n.toNat ≤ a.blocks.length * a.blockSize.toNat →
      data.size.toNat - n.toNat ≤ fuel →
      ∃ out, copyIntoBlocks a data fuel c n memory = some out ∧
        Fills a data.size memory out := by
  induction fuel with
  | zero =>
      intro memory c n hc hn hroom hfuel
      have hdone := not_lt_of_fuel hfuel
      exact ⟨_, by rw [copyIntoBlocks, if_neg hdone], fills_done hroom hn hdone⟩
  | succ fuel ih =>
      intro memory c n hc hn hroom hfuel
      by_cases hmore : n < data.size
      · have hlt := lt_of_not_done hmore
        have hblockSize := hpos (by rintro hzero; rw [hzero, UInt64.toNat_zero] at hlt; omega)
        rw [copyIntoBlocks, if_pos hmore]
        cases hblock : a.blocks[n.toNat / a.blockSize.toNat]? with
        | none =>
            have hat : blockAt a c.blockIndex =
                .error (.thrown (.outOfRange "vector::_M_range_check")) := by
              rw [blockAt, hc.blockIndex, hblock]
            simp only [hat]
            exact ⟨_, rfl, fills_error _⟩
        | some block =>
            have hmod := Nat.mod_lt n.toNat hblockSize
            have hcount : (min (data.size - n) (a.blockSize - c.blockOffset)).toNat =
                min (data.size.toNat - n.toNat)
                  (a.blockSize.toNat - n.toNat % a.blockSize.toNat) := by
              rw [Word.toNat_min, remaining_toNat hmore, hc.available hblockSize]
            generalize hbytes : min (data.size - n) (a.blockSize - c.blockOffset) = count
              at hcount
            have hdst : c.blockOffset.toNat + count.toNat ≤ a.blockSize.toNat := by
              rw [hc.blockOffset]
              omega
            have hsrc : n.toNat + count.toNat ≤ data.size.toNat := by omega
            obtain ⟨contents, hcopy, -, -⟩ :=
              copyBytes_ok (memory block) data.byteAt hdst hsrc
            have hsum : (n + count).toNat = n.toNat + count.toNat :=
              toNat_add_of_le_size hsrc
            have hnext := hc.goesOn hmod (by omega) hsrc
            have hroom' : n.toNat + count.toNat ≤ a.blocks.length * a.blockSize.toNat :=
              room_of_block hblock (by omega)
            rw [← hsum] at hroom'
            obtain ⟨out, hrun, hfills⟩ := ih (Function.update memory block contents)
              hnext (by omega) hroom' (by omega)
            simp only [hc.blockAt hblock, hbytes, hcopy, hrun]
            exact ⟨out, rfl, hfills.of_update (List.mem_of_getElem? hblock)⟩
      · exact ⟨_, by rw [copyIntoBlocks, if_neg hmore], fills_done hroom hn hmore⟩

/-- The loop of `convert_host_to_host`, out of an allocation with all of the bytes. -/
theorem copyBetweenBlocks_fills {b : MultipleBlocksAllocation} (srcMemory : HostMemory)
    (hsize : size.toNat ≤ b.blocks.length * b.blockSize.toNat)
    (hpos : size ≠ 0 → 0 < a.blockSize.toNat) (fuel : Nat) :
    ∀ (memory : HostMemory) {src dst : BlockCursor} {n : UInt64},
      src.At b.blockSize.toNat n.toNat → dst.At a.blockSize.toNat n.toNat →
      n.toNat ≤ size.toNat → n.toNat ≤ a.blocks.length * a.blockSize.toNat →
      size.toNat - n.toNat ≤ fuel →
      ∃ out, copyBetweenBlocks b a srcMemory size fuel src dst n memory = some out ∧
        Fills a size memory out := by
  induction fuel with
  | zero =>
      intro memory src dst n hsrc hdst hn hroom hfuel
      have hdone := not_lt_of_fuel hfuel
      exact ⟨_, by rw [copyBetweenBlocks, if_neg hdone], fills_done hroom hn hdone⟩
  | succ fuel ih =>
      intro memory src dst n hsrc hdst hn hroom hfuel
      by_cases hmore : n < size
      · have hlt := lt_of_not_done hmore
        have hblockSize := hpos (by rintro hzero; rw [hzero, UInt64.toNat_zero] at hlt; omega)
        obtain ⟨srcBlock, hsrcBlock, hmod, hsrcOffset, havailable⟩ := hsrc.turn hsize hmore
        rw [copyBetweenBlocks, if_pos hmore]
        cases hblock : a.blocks[n.toNat / a.blockSize.toNat]? with
        | none =>
            have hat : blockAt a dst.blockIndex =
                .error (.thrown (.outOfRange "vector::_M_range_check")) := by
              rw [blockAt, hdst.blockIndex, hblock]
            simp only [hsrc.blockAt hsrcBlock, hat]
            exact ⟨_, rfl, fills_error _⟩
        | some block =>
            have hmod' := Nat.mod_lt n.toNat hblockSize
            have hcount : (min (size - n) (min (b.blockSize - src.blockOffset)
                (a.blockSize - dst.blockOffset))).toNat =
                min (size.toNat - n.toNat)
                  (min (b.blockSize.toNat - n.toNat % b.blockSize.toNat)
                    (a.blockSize.toNat - n.toNat % a.blockSize.toNat)) := by
              rw [Word.toNat_min, Word.toNat_min, remaining_toNat hmore, havailable,
                hdst.available hblockSize]
            generalize hbytes : min (size - n) (min (b.blockSize - src.blockOffset)
              (a.blockSize - dst.blockOffset)) = count at hcount
            have hinDst : dst.blockOffset.toNat + count.toNat ≤ a.blockSize.toNat := by
              rw [hdst.blockOffset]
              omega
            have hinSrc : src.blockOffset.toNat + count.toNat ≤ b.blockSize.toNat := by
              omega
            have hle : n.toNat + count.toNat ≤ size.toNat := by omega
            obtain ⟨contents, hcopy, -, -⟩ :=
              copyBytes_ok (memory block) (srcMemory srcBlock) hinDst hinSrc
            have hsum : (n + count).toNat = n.toNat + count.toNat :=
              toNat_add_of_le_size hle
            have hsrcNext := hsrc.goesOn hmod (by omega) hle
            have hdstNext := hdst.goesOn hmod' (by omega) hle
            have hroom' : n.toNat + count.toNat ≤ a.blocks.length * a.blockSize.toNat :=
              room_of_block hblock (by omega)
            rw [← hsum] at hroom'
            obtain ⟨out, hrun, hfills⟩ := ih (Function.update memory block contents)
              hsrcNext hdstNext (by omega) hroom' (by omega)
            simp only [hsrc.blockAt hsrcBlock, hdst.blockAt hblock, hbytes, hcopy, hrun]
            exact ⟨out, rfl, hfills.of_update (List.mem_of_getElem? hblock)⟩
      · exact ⟨_, by rw [copyBetweenBlocks, if_neg hmore], fills_done hroom hn hmore⟩

end CuCascade.Data

import CuCascade.Proofs.HostPool

/-!
# An allocation that succeeds

A caller of `allocate_multiple_blocks` writes to the blocks it is given, so it
needs them to be different and to be enough. They are different because no
block is twice on the free list, which holds in every state the users of a pool
can bring it to, also when blocks have been lost. They are enough when the
capacity has room for the request rounded up to blocks, and the blocks are
there or can be carved.
-/

namespace CuCascade.Memory

open Utils

namespace HostResource

variable {r r' : HostResource}

/-- The free list has each block at most once, and only blocks that were
carved. -/
structure Sound (r : HostResource) : Prop where
  nodup : r.freeBlocks.Nodup
  carved : ∀ b ∈ r.freeBlocks, b ∈ r.carved

/-- What is handed out is taken from blocks that are all different. -/
theorem Sound.gains (h : r.Sound) {out : List Block} (hgains : r.Gains r' out) :
    r'.Sound ∧ out.Nodup := by
  obtain ⟨new, hcarved, hperm⟩ := hgains
  have hall := carved_nodup r'
  rw [hcarved, List.nodup_append'] at hall
  obtain ⟨-, hnew, hdisjoint⟩ := hall
  have hbefore : (r.freeBlocks ++ new).Nodup := by
    rw [List.nodup_append']
    exact ⟨h.nodup, hnew, fun b hb => hdisjoint (h.carved b hb)⟩
  have hafter := hperm.nodup_iff.mpr hbefore
  rw [List.nodup_append'] at hafter
  refine ⟨⟨hafter.1, ?_⟩, hafter.2.1⟩
  intro b hb
  have hmem := hperm.subset (List.mem_append_left out hb)
  rw [hcarved]
  rcases List.mem_append.mp hmem with hold | hnew
  · exact List.mem_append_left _ (h.carved b hold)
  · exact List.mem_append_right _ hnew

theorem Sound.samePool (h : r.Sound) (hsame : r.SamePool r') : r'.Sound :=
  (h.gains hsame.gains).1

/-- The blocks for `n` bytes. -/
def blocksFor (r : HostResource) (n : Nat) : Nat :=
  (n + r.blockSize.toNat - 1) / r.blockSize.toNat

/-- There is capacity for `n` bytes in whole blocks, and the blocks are free or
can be carved. -/
def HasRoom (r : HostResource) (n : Nat) : Prop :=
  r.allocatedBytes.toNat + r.blocksFor n * r.blockSize.toNat ≤
    r.memoryCapacity.toNat ∧
  (r.blocksFor n ≤ r.freeBlocks.length ∨ 0 < r.poolSize.toNat)

instance (r : HostResource) (n : Nat) : Decidable (r.HasRoom n) :=
  inferInstanceAs (Decidable (_ ∧ _))

section

variable {n : UInt64} {k : Nat}

theorem le_blocksFor (hblock : r.blockSize.toNat = 2 ^ k) (n : Nat) :
    n ≤ r.blocksFor n * r.blockSize.toNat := by
  have hpos : 0 < r.blockSize.toNat := hblock ▸ Nat.two_pow_pos k
  have hdiv := Nat.div_add_mod' (n + r.blockSize.toNat - 1) r.blockSize.toNat
  have hmod := Nat.mod_lt (n + r.blockSize.toNat - 1) hpos
  unfold blocksFor
  omega

/-- With that room rounding up does not wrap. -/
theorem HasRoom.no_wrap (h : r.HasRoom n.toNat)
    (hblock : r.blockSize.toNat = 2 ^ k) : n.toNat + 2 ^ k ≤ 2 ^ 64 := by
  have hle := le_blocksFor hblock n.toNat
  have hcapacity := h.1
  have hmax := r.memoryCapacity.toNat_lt
  have hk := Word.exponent_le hblock
  obtain ⟨j, hj⟩ := Nat.exists_eq_add_of_le (Nat.le_succ_of_le hk)
  have hsplit : 2 ^ 64 = 2 ^ j * 2 ^ k := by
    rw [← Nat.pow_add, Nat.add_comm, ← hj]
  have hblocks : r.blocksFor n.toNat < 2 ^ j := by
    refine Nat.lt_of_mul_lt_mul_right (a := 2 ^ k) ?_
    rw [← hsplit, ← hblock]
    omega
  calc n.toNat + 2 ^ k
    _ ≤ r.blocksFor n.toNat * 2 ^ k + 2 ^ k := by
        rw [hblock] at hle
        exact Nat.add_le_add_right hle _
    _ = (r.blocksFor n.toNat + 1) * 2 ^ k := (Nat.succ_mul _ _).symm
    _ ≤ 2 ^ j * 2 ^ k := Nat.mul_le_mul_right _ hblocks
    _ = 2 ^ 64 := hsplit.symm

theorem toNat_alignUp_blocks (h : r.HasRoom n.toNat)
    (hblock : r.blockSize.toNat = 2 ^ k) :
    (alignUp n r.blockSize).toNat = r.blocksFor n.toNat * r.blockSize.toNat := by
  rw [toNat_alignUp hblock (h.no_wrap hblock), blocksFor, hblock]

theorem toNat_numBlocks (h : r.HasRoom n.toNat)
    (hblock : r.blockSize.toNat = 2 ^ k) :
    (alignUp n r.blockSize / r.blockSize).toNat = r.blocksFor n.toNat := by
  have hpos : 0 < r.blockSize.toNat := hblock ▸ Nat.two_pow_pos k
  rw [UInt64.toNat_div, toNat_alignUp_blocks h hblock, Nat.mul_div_cancel _ hpos]

/-- A request that finds room is given blocks that are different and enough. -/
theorem allocate_ok {upstream : Nat → UInt64 → Except Exception Addr}
    (hup : ∀ pool size, ∃ base, upstream pool size = .ok base) (hr : r.Sound)
    (hblock : r.blockSize.toNat = 2 ^ k) (h : r.HasRoom n.toNat) :
    ∃ r' a, r.allocateMultipleBlocks n none upstream = (r', .ok (some a)) ∧
      a.blocks.Nodup ∧ n.toNat ≤ a.blocks.length * a.blockSize.toNat := by
  by_cases hzero : n = 0
  · refine ⟨r, .empty, if_pos hzero, List.nodup_nil, ?_⟩
    rw [hzero]
    exact Nat.zero_le _
  · have hsize : r.blockSize ≠ 0 := by
      intro heq
      have hpos := Nat.two_pow_pos k
      rw [← hblock, heq] at hpos
      exact absurd hpos (Nat.lt_irrefl 0)
    have hcharge : r.allocatedBytes.toNat + (alignUp n r.blockSize).toNat ≤
        r.memoryCapacity.toNat := by
      rw [toNat_alignUp_blocks h hblock]
      exact h.1
    rcases htake : takeBlocks upstream (alignUp n r.blockSize / r.blockSize).toNat
      { r with allocatedBytes := r.allocatedBytes + alignUp n r.blockSize } []
      with ⟨r₁, res⟩
    obtain ⟨done, taken, rfl⟩ := takeBlocks_answers hup htake
    obtain ⟨new, ht⟩ := takeBlocks_taken _ htake
    have hdone : done = true := by
      rcases h.2 with hfree | hpool
      · exact (ht.room (by rw [toNat_numBlocks h hblock]; exact hfree)).1
      · exact ht.pools hpool
    subst hdone
    have hlength := ht.length rfl
    rw [List.length_nil, Nat.zero_add, toNat_numBlocks h hblock] at hlength
    let peak := updatePeak r₁.peakAllocatedBytes
      (r.allocatedBytes + alignUp n r.blockSize)
    have hcall : r.allocateMultipleBlocks n none upstream =
        ({ r₁ with peakAllocatedBytes := peak },
          .ok (some ⟨taken, true, r₁.blockSize, none⟩)) := by
      simp only [allocateMultipleBlocks, if_neg hzero, if_neg hsize, allocateTracked,
        tryAdd_of_le hcharge, htake, peak]
    refine ⟨_, _, hcall, ?_, ?_⟩
    · exact (hr.gains (allocate_gains hup hcall).1).2
    · have hbooks : r₁.blockSize = r.blockSize := ht.books.blockSize
      rw [hlength, hbooks]
      exact le_blocksFor hblock n.toNat

end

end HostResource

namespace HostWorld

open HostResource

variable {w : HostWorld}

theorem sound_fresh (limit capacity blockSize poolSize : UInt64)
    (initialPools : List Addr) :
    (fresh limit capacity blockSize poolSize initialPools).res.Sound := by
  have hconserved := blocksConserved_fresh limit capacity blockSize poolSize
    initialPools
  constructor
  · exact Multiset.coe_nodup.mp (Multiset.nodup_add.mp hconserved.nodup).1
  · intro b hb
    rw [← Multiset.mem_coe, ← hconserved.once]
    exact Multiset.mem_add.mpr (.inl hb)

theorem sound_next (h : w.res.Sound) (op : HostOp) : (w.next op).res.Sound := by
  cases op with
  | reserve bytes => exact h.samePool (reserve_samePool _ _ _ _)
  | reserveUpto bytes => exact h.samePool (reserveUpto_samePool _ _ _ _)
  | growBy p bytes => exact h.samePool (growBy_samePool _ _ _)
  | shrinkToFit p => exact h.samePool (shrinkToFit_samePool _ _)
  | release p => exact h.samePool (destroyArena_samePool _ _)
  | allocate bytes res upstream =>
      rcases hcall : w.res.allocateMultipleBlocks bytes (res.map some)
        (fun pool _ => .ok (upstream pool)) with ⟨r, out⟩
      have hsound := (h.gains
        (allocate_gains (fun pool _ => ⟨upstream pool, rfl⟩) hcall).1).1
      simp only [next, hcall]
      split
      · next heq => exact (Prod.mk.inj heq).1 ▸ hsound
      · next heq => exact (Prod.mk.inj heq).1 ▸ hsound
  | free id =>
      simp only [next]
      split
      · exact h
      · exact h.samePool (destroyAllocation_samePool _ _)

/-- No block is ever twice on the free list. -/
theorem sound_of_reachable {legal : HostWorld → HostOp → Prop}
    (h : (machine legal).Reachable w) : w.res.Sound := by
  refine h.invariant (I := fun w => w.res.Sound) ?_ fun _ op hw _ => sound_next hw op
  rintro _ ⟨limit, capacity, blockSize, poolSize, initialPools, rfl⟩
  exact sound_fresh limit capacity blockSize poolSize initialPools

end HostWorld

end CuCascade.Memory

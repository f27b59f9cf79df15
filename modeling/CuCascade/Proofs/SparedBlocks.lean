import CuCascade.Proofs.HostLedger

/-!
# Blocks over calls that may fail

What a call on a host resource does with blocks, whatever the upstream answers. A call
that throws may lose blocks, and a destroyed allocation does not bring its blocks back,
but no call puts a block in two places: what is free or handed out afterwards was free
before or is new.
-/

namespace CuCascade.Memory

namespace HostResource

variable {upstream : Nat → UInt64 → Except Exception Addr}

def takenBlocks : Except Exception (Bool × List Block) → List Block
  | .ok (_, taken) => taken
  | .error _ => []

/-- A block goes from the free list to those taken. -/
theorem coe_pop (ptr : Block) (free acc : List Block) :
    (free : Multiset Block) + (acc ++ [ptr] : List Block) = (ptr :: free : List Block) + acc := by
  rw [Multiset.coe_add, Multiset.coe_add, ← List.append_assoc]
  exact Multiset.coe_eq_coe.mpr (List.perm_append_singleton _ _)

/-- Whatever the loop ends with, the blocks it leaves on the free list or has taken were
free or taken before, or it has carved them. -/
theorem takeBlocks_spares (n : Nat) : ∀ {r r' : HostResource} {acc : List Block}
    {out : Except Exception (Bool × List Block)},
    takeBlocks upstream n r acc = (r', out) →
    ∃ carved, r'.carved = r.carved ++ carved ∧
      (r'.freeBlocks : Multiset Block) + takenBlocks out ≤ r.freeBlocks + acc + carved := by
  induction n with
  | zero =>
      intro r r' acc out h
      cases h
      exact ⟨[], (List.append_nil _).symm, by simp [takenBlocks]⟩
  | succ n ih =>
      intro r r' acc out h
      unfold takeBlocks at h
      cases hfree : r.freeBlocks with
      | cons ptr freeBlocks =>
          simp only [hfree, List.isEmpty_cons, Bool.false_eq_true, if_false] at h
          obtain ⟨carved, hcarved, hle⟩ := ih (r := { r with freeBlocks := freeBlocks }) h
          rw [coe_pop] at hle
          exact ⟨carved, hcarved, hle⟩
      | nil =>
          simp only [hfree, List.isEmpty_nil, if_true, expandPool] at h
          cases hup : upstream r.allocatedBlocks.length (r.blockSize * r.poolSize) with
          | error e =>
              rw [hup] at h
              cases h
              refine ⟨[], (List.append_nil _).symm, ?_⟩
              simp only [takenBlocks, hfree, Multiset.coe_nil, add_zero, zero_add]
              exact Multiset.zero_le _
          | ok base =>
              have hgain := Multiset.coe_eq_coe.mpr (addPool_freeBlocks r base)
              rw [hfree, List.nil_append] at hgain
              simp only [hup] at h
              cases hnew : (r.addPool base).freeBlocks with
              | nil =>
                  rw [hnew] at h
                  cases h
                  refine ⟨_, carved_addPool r base, ?_⟩
                  rw [hgain, takenBlocks, Multiset.coe_nil, zero_add, add_comm]
              | cons ptr freeBlocks =>
                  simp only [hnew] at h
                  obtain ⟨carved, hcarved, hle⟩ :=
                    ih (r := { r.addPool base with freeBlocks := freeBlocks }) h
                  refine ⟨(List.range r.poolSize.toNat).map (Block.mk r.allocatedBlocks.length) ++
                    carved, ?_, ?_⟩
                  · rw [hcarved, ← List.append_assoc, ← carved_addPool r base]
                    rfl
                  · rw [coe_pop, ← hnew, hgain] at hle
                    rw [Multiset.coe_nil, zero_add, ← Multiset.coe_add, add_left_comm,
                      ← add_assoc]
                    exact hle

/-- From `r` to `r'` the blocks `out` are handed out, of those that were free and new ones. -/
structure Spares (r r' : HostResource) (out : List Block) : Prop where
  blockSize : r'.blockSize = r.blockSize
  poolSize : r'.poolSize = r.poolSize
  blocks : ∃ carved, r'.carved = r.carved ++ carved ∧
    (r'.freeBlocks : Multiset Block) + out ≤ r.freeBlocks + carved

theorem SamePool.spares {r r' : HostResource} (h : r.SamePool r')
    (hblock : r'.blockSize = r.blockSize) : r.Spares r' [] where
  blockSize := hblock
  poolSize := h.poolSize
  blocks := ⟨[], by rw [h.carved, List.append_nil], by simp [h.freeBlocks]⟩

theorem untrack_blockSize (r : HostResource) (tracker : Option Addr) (n : UInt64) :
    (r.untrack tracker n).blockSize = r.blockSize := by
  unfold untrack
  split
  · rfl
  · split <;> rfl

/-- The part of `allocate_multiple_blocks` from the charge on. -/
theorem allocateTracked_spares {r r' : HostResource} {n c : UInt64} {tracker : Option Addr}
    {out : Except Failure (Option MultipleBlocksAllocation)}
    (h : r.allocateTracked upstream n c tracker = (r', out)) :
    r.Spares r' (handedOut out) := by
  unfold allocateTracked at h
  rcases htry : Utils.tryAdd r.allocatedBytes c r.memoryCapacity with ⟨ok, post⟩
  rw [htry] at h
  cases ok with
  | false =>
      cases h
      exact (untrack_samePool r tracker n).spares (untrack_blockSize r tracker n)
  | true =>
      dsimp only at h
      rcases htake : takeBlocks upstream (n / r.blockSize).toNat
        { r with allocatedBytes := post } [] with ⟨r₁, got⟩
      rw [htake] at h
      obtain ⟨hbooks, -⟩ := takeBlocks_books _ htake
      obtain ⟨carved, hcarved, hle⟩ := takeBlocks_spares _ htake
      rw [Multiset.coe_nil, add_zero] at hle
      rcases got with e | ⟨complete, taken⟩
      · cases h
        exact ⟨hbooks.blockSize, hbooks.poolSize, carved, hcarved, hle⟩
      · cases complete with
        | true =>
            cases h
            exact ⟨hbooks.blockSize, hbooks.poolSize, carved, hcarved, hle⟩
        | false =>
            cases h
            let r₂ : HostResource := { r₁ with
              freeBlocks := taken.foldl (fun l ptr => ptr :: l) r₁.freeBlocks
              allocatedBytes := r₁.allocatedBytes - c }
            have hsame := untrack_samePool r₂ tracker n
            refine ⟨(untrack_blockSize r₂ tracker n).trans hbooks.blockSize,
              hsame.poolSize.trans hbooks.poolSize, carved, hsame.carved.trans hcarved, ?_⟩
            have hback := Multiset.coe_eq_coe.mpr (pushBack_perm taken r₁.freeBlocks)
            rw [← Multiset.coe_add] at hback
            rw [hsame.freeBlocks, show (r₂.freeBlocks : Multiset Block) = _ from hback]
            exact (add_zero _).trans_le hle

theorem allocate_spares {r r' : HostResource} {totalBytes : UInt64} {res : Option Addr}
    {out : Except Failure (Option MultipleBlocksAllocation)}
    (h : r.allocateMultipleBlocks totalBytes (res.map some) upstream = (r', out)) :
    r.Spares r' (handedOut out) := by
  have hsame : r.SamePool r := ⟨rfl, rfl, rfl⟩
  have hidle : r.Spares r [] := hsame.spares rfl
  unfold allocateMultipleBlocks at h
  by_cases hzero : totalBytes = 0
  · rw [if_pos hzero] at h
    cases h
    exact hidle
  by_cases hblock : r.blockSize = 0
  · rw [if_neg hzero, if_pos hblock] at h
    cases h
    exact hidle
  rw [if_neg hzero, if_neg hblock] at h
  cases res with
  | none => exact allocateTracked_spares h
  | some p =>
      simp only [Option.map_some] at h
      cases hp : r.activeReservations.lookup p with
      | none =>
          rw [hp] at h
          cases h
          exact hidle
      | some pre =>
          cases harena : r.arenas.lookup p with
          | none =>
              rw [hp, harena] at h
              cases h
              exact hidle
          | some arena =>
              rw [hp, harena] at h
              let rounded := alignUp totalBytes r.blockSize
              have hspares := allocateTracked_spares
                (r := { r with activeReservations :=
                  r.activeReservations.insert p (pre + rounded.toInt64) }) h
              exact ⟨hspares.blockSize, hspares.poolSize, hspares.blocks⟩

end HostResource

namespace HostWorld

open HostResource

/-- The calls that ask for no blocks leave the pools, and no block is held that was not. -/
theorem next_samePool (w : HostWorld) {op : HostOp}
    (hop : ∀ n res upstream, op ≠ .allocate n res upstream) :
    w.res.SamePool (w.next op).res ∧ (w.next op).res.blockSize = w.res.blockSize ∧
      (w.next op).held ≤ w.held := by
  cases op with
  | reserve bytes =>
      refine ⟨reserve_samePool _ _ _ _, ?_, le_refl _⟩
      simp only [HostWorld.next, reserve, doReserve]
      rcases Utils.tryAdd _ _ _ with ⟨_ | _, _⟩ <;> rfl
  | reserveUpto bytes => exact ⟨reserveUpto_samePool _ _ _ _, rfl, le_refl _⟩
  | growBy p bytes =>
      refine ⟨growBy_samePool _ _ _, ?_, le_refl _⟩
      simp only [HostWorld.next, growBy, doReserve]
      cases w.res.arenas.lookup p with
      | none => rfl
      | some arena => rcases Utils.tryAdd _ _ _ with ⟨_ | _, _⟩ <;> rfl
  | shrinkToFit p =>
      refine ⟨shrinkToFit_samePool _ _, ?_, le_refl _⟩
      simp only [HostWorld.next, shrinkToFit]
      split
      · rfl
      · split
        · rfl
        · split <;> rfl
  | release p =>
      refine ⟨destroyArena_samePool _ _, ?_, le_refl _⟩
      simp only [HostWorld.next, destroyArena]
      split
      · rfl
      · split <;> rfl
  | allocate n res upstream => exact absurd rfl (hop n res upstream)
  | free id =>
      cases hid : w.allocations.lookup id with
      | none =>
          have hidle : w.next (.free id) = w := by
            simp only [HostWorld.next, hid]
          rw [hidle]
          exact ⟨⟨rfl, rfl, rfl⟩, rfl, le_refl _⟩
      | some a =>
          simp only [HostWorld.next, hid]
          refine ⟨destroyAllocation_samePool _ _, ?_, ?_⟩
          · simp only [destroyAllocation, returnAllocatedChunks]
            split
            · split
              · rfl
              · split <;> rfl
            · rfl
          · have hsum := AList.sumBy_erase
              (f := fun _ a => (MultipleBlocksAllocation.blocks a : Multiset Block)) hid
            show (w.allocations.erase id).sumBy _ ≤ w.allocations.sumBy _
            rw [← hsum]
            exact Multiset.le_add_left _ _

end HostWorld

end CuCascade.Memory

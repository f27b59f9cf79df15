import CuCascade.Memory.TenantWorld
import CuCascade.Proofs.HostRounding

/-!
# Blocks that outlive their reservation

An allocation remembers its reservation as a pointer, and so does the table of
trackers. When the blocks come back, the pool asks whether the pointer is in
the table. If the reservation is gone and nothing else lies there, it is not,
and the bytes go back to the total. If a later reservation lies there, it is,
and the bytes are taken off the tracker of a stranger.
-/

namespace CuCascade.Memory

namespace HostResource

/-- The bytes that the blocks of an allocation are returned as. -/
def ownBytes (r : HostResource) (a : MultipleBlocksAllocation) : UInt64 :=
  UInt64.ofNat a.blocks.length * r.blockSize

/-- From `r` to `r'` the bytes go back to the total and to nothing else. -/
structure GivesBack (r r' : HostResource) (bytes : UInt64) : Prop where
  total : r'.allocatedBytes = r.allocatedBytes - bytes
  tracked : ∀ p, r'.activeReservations.lookup p = r.activeReservations.lookup p

variable {r : HostResource} {a : MultipleBlocksAllocation} {p : Addr} {pre : Int64}

theorem sub_eq_self_iff {x n : UInt64} : x = x - n ↔ n = 0 := by
  rw [eq_comm, UInt64.sub_eq_iff_eq_add, eq_comm]
  exact UInt64.add_eq_left

/-- The pool has a tracker at the address. -/
theorem returnAllocatedChunks_tracked (hp : r.activeReservations.lookup p = some pre) :
    r.GivesBack (r.returnAllocatedChunks a.blocks (some p)).1 (r.ownBytes a) ↔
      r.ownBytes a = 0 := by
  unfold returnAllocatedChunks
  simp only [Option.bind_some, hp, Option.map_some]
  split
  · exact ⟨fun h => sub_eq_self_iff.mp h.total,
      fun h => ⟨sub_eq_self_iff.mpr h, fun _ => rfl⟩⟩
  · next area harea =>
      show GivesBack r { r with
        activeReservations := r.activeReservations.insert p
          (pre - (r.ownBytes a).toInt64)
        allocatedBytes := r.allocatedBytes - reclaimedBytes (r.ownBytes a) area.size
          pre (pre - (r.ownBytes a).toInt64) } _ ↔ _
      constructor
      · intro h
        have htracked := h.tracked p
        dsimp only at htracked
        rw [AList.lookup_insert, hp, Option.some.injEq] at htracked
        have hself := Int64.sub_add_cancel pre (r.ownBytes a).toInt64
        rw [htracked] at hself
        exact Word.toInt64_eq_zero_iff.mp (Int64.add_eq_left.mp hself)
      · intro hzero
        have hpost : pre - (0 : UInt64).toInt64 = pre := Int64.sub_zero _
        rw [hzero, hpost]
        refine ⟨?_, fun q => ?_⟩
        · have hnothing : reclaimedBytes 0 area.size pre pre = 0 := by
            unfold reclaimedBytes
            split
            · rfl
            · next hover =>
                rw [if_neg]
                intro hlt
                rw [Int64.le_iff_toInt_le] at hover
                rw [Int64.lt_iff_toInt_lt] at hlt
                omega
          rw [hnothing]
        · dsimp only
          by_cases hq : q = p
          · rw [hq, AList.lookup_insert, hp]
          · rw [AList.lookup_insert_ne hq]

/-- It has none. -/
theorem returnAllocatedChunks_untracked
    (h : ∀ p ∈ a.reservedMemory, p ∉ r.activeReservations) :
    r.GivesBack (r.returnAllocatedChunks a.blocks a.reservedMemory).1
      (r.ownBytes a) := by
  have hnone : (a.reservedMemory.bind fun p =>
      (r.activeReservations.lookup p).map (p, ·)) = none := by
    cases hres : a.reservedMemory with
    | none => rfl
    | some p =>
        rw [Option.bind_some, AList.lookup_eq_none.mpr (h p hres)]
        rfl
  unfold returnAllocatedChunks
  simp only [hnone]
  exact ⟨rfl, fun _ => rfl⟩

/-- The bytes go back as they should exactly if there are none or no reservation
is registered at the address that the allocation remembers. -/
theorem destroyAllocation_givesBack_iff (hmr : a.mr = false → a.blocks = []) :
    r.GivesBack (r.destroyAllocation a).1 (r.ownBytes a) ↔
      r.ownBytes a = 0 ∨ ∀ p ∈ a.reservedMemory, p ∉ r.activeReservations := by
  by_cases hblocks : a.blocks = []
  · have hzero : r.ownBytes a = 0 := by
      rw [ownBytes, hblocks]
      exact UInt64.zero_mul
    have hsame : r.destroyAllocation a = (r, .ok ()) := by
      simp only [destroyAllocation, hblocks, List.isEmpty_nil, Bool.not_true,
        Bool.and_false, Bool.false_eq_true, if_false]
    rw [hsame, hzero]
    exact ⟨fun _ => .inl rfl, fun _ => ⟨(UInt64.sub_zero _).symm, fun _ => rfl⟩⟩
  · have hset : a.mr = true := by
      cases hm : a.mr with
      | true => rfl
      | false => exact absurd (hmr hm) hblocks
    rw [destroyAllocation_eq hset hblocks]
    by_cases hfree : ∀ p ∈ a.reservedMemory, p ∉ r.activeReservations
    · exact ⟨fun _ => .inr hfree, fun _ => returnAllocatedChunks_untracked hfree⟩
    · rw [or_iff_left hfree]
      simp only [not_forall, not_not] at hfree
      obtain ⟨p, hp, hin⟩ := hfree
      obtain ⟨pre, hpre⟩ := Option.isSome_iff_exists.mp (AList.lookup_isSome.mpr hin)
      rw [Option.mem_def.mp hp]
      exact returnAllocatedChunks_tracked hpre

end HostResource

namespace TenantWorld

open HostResource

variable {w : TenantWorld} {id : Nat} {a : MultipleBlocksAllocation}

/-- Blocks that outlived their reservation are returned: their own bytes go back
to the total, and the trackers of the reservations that live stay. -/
def Isolated (w : TenantWorld) : HostTierOp → Prop
  | .free id => w.Outlives id → ∀ a ∈ w.tier.allocations.lookup id,
      w.tier.res.GivesBack (w.next (.free id)).tier.res (w.tier.res.ownBytes a)
  | _ => True

/-- When they are returned, no reservation is registered where theirs was. -/
def FindsVacant (w : TenantWorld) : HostTierOp → Prop
  | .free id => w.Outlives id → ∀ a ∈ w.tier.allocations.lookup id,
      w.tier.res.ownBytes a = 0 ∨
        ∀ p ∈ a.reservedMemory, p ∉ w.tier.res.activeReservations
  | _ => True

instance (w : TenantWorld) : (op : HostTierOp) → Decidable (w.FindsVacant op)
  | .free id => inferInstanceAs (Decidable (w.Outlives id →
      ∀ a ∈ w.tier.allocations.lookup id, w.tier.res.ownBytes a = 0 ∨
        ∀ p ∈ a.reservedMemory, p ∉ w.tier.res.activeReservations))
  | .reserve _ _ | .reserveUpto _ _ | .growBy _ _ | .shrinkToFit _ | .release _
  | .allocate _ _ _ _ => isTrue trivial

/-- Only an empty allocation has no resource to return to. -/
def Managed (w : TenantWorld) : Prop :=
  w.tier.allocations.All fun _ a => a.mr = false → a.blocks = []

/-- Past its ghosts, a call does to the pool what it does. -/
theorem next_tier (w : TenantWorld) (op : HostTierOp) :
    (w.next op).tier = w.tier.next op := by
  cases op with
  | reserve self bytes | reserveUpto self bytes =>
      simp only [next, moveIn]
      split <;> rfl
  | allocate id n res upstream =>
      simp only [next, signOut]
      split
      · split <;> rfl
      · rfl
  | growBy | shrinkToFit | release | free => rfl

theorem allocate_managed {r r' : HostResource} {n : UInt64} {res : Option (Option Addr)}
    {upstream : Nat → UInt64 → Except Exception Addr}
    (h : r.allocateMultipleBlocks n res upstream = (r', .ok (some a))) :
    a.mr = false → a.blocks = [] := by
  intro hmr
  by_cases hn : n = 0
  · unfold allocateMultipleBlocks at h
    rw [if_pos hn] at h
    cases h
    rfl
  · have hset := (allocate_granted hn h).2.2.1
    rw [hmr] at hset
    cases hset

theorem managed_next {op : HostTierOp} (h : w.Managed) : (w.next op).Managed := by
  unfold Managed
  rw [next_tier]
  cases op with
  | reserve | reserveUpto | growBy | shrinkToFit | release => exact h
  | allocate id n res upstream =>
      simp only [HostTier.next]
      rcases hcall : w.tier.res.allocateMultipleBlocks n (res.map some) upstream
        with ⟨r, out⟩
      match out, hcall with
      | .ok (some a), hcall => exact AList.All.insert h (allocate_managed hcall)
      | .ok none, _ => exact h
      | .error e, _ => exact h
  | free id =>
      simp only [HostTier.next]
      split
      · exact h
      · exact AList.All.erase h

theorem isolated_iff {op : HostTierOp} (h : w.Managed) (hop : w.Proper op) :
    w.Isolated op ↔ w.FindsVacant op := by
  cases op with
  | free id =>
      obtain ⟨a, ha⟩ := Option.isSome_iff_exists.mp (AList.lookup_isSome.mpr hop)
      have hnext : (w.next (.free id)).tier.res =
          (w.tier.res.destroyAllocation a).1 := by
        rw [next_tier, HostTier.next, ha]
      simp only [Isolated, FindsVacant, ha, hnext, Option.mem_def, Option.some.injEq,
        forall_eq']
      rw [destroyAllocation_givesBack_iff (h.get ha)]
      rfl
  | _ => exact Iff.rfl

/-- In a run the blocks of dead reservations touch no other reservation and
reclaim their own bytes exactly if, whenever such blocks are returned, no
reservation lies where theirs lay. -/
theorem every_isolated_iff {ops : List HostTierOp} (hs : machine.start w)
    (hlaw : machine.Lawful w ops) :
    machine.Every Isolated w ops ↔ machine.Every FindsVacant w ops := by
  have hmanaged : w.Managed := by
    obtain ⟨limit, capacity, blockSize, poolSize, initialPools, rfl⟩ := hs
    exact AList.all_empty
  exact Machine.every_congr (fun _ _ h _ _ => managed_next h)
    (fun _ _ h hop => isolated_iff h hop) hmanaged hlaw

/-- A pool of four blocks of 16 bytes. -/
def smallPool : TenantWorld := fresh 1024 1024 16 4 [0x1000]

theorem every_isolated_elsewhere :
    machine.Every Isolated smallPool [.reserve 100 32,
      .allocate 1 32 (some 100) (fun _ _ => .ok 0x2000), .release 100,
      .reserve 200 32, .allocate 2 32 (some 200) (fun _ _ => .ok 0x2000), .free 1] :=
  (every_isolated_iff ⟨_, _, _, _, _, rfl⟩
    (show machine.Every Proper _ _ by decide)).mpr (by decide)

/-- The second reservation lies where the first one lay, and the blocks of the
first are taken off it. -/
theorem stranger_is_charged :
    machine.Lawful smallPool [.reserve 100 32,
        .allocate 1 32 (some 100) (fun _ _ => .ok 0x2000), .release 100,
        .reserve 100 32, .free 1] ∧
      ¬ machine.Every Isolated smallPool [.reserve 100 32,
        .allocate 1 32 (some 100) (fun _ _ => .ok 0x2000), .release 100,
        .reserve 100 32, .free 1] := by
  refine ⟨show machine.Every Proper _ _ by decide, ?_⟩
  intro h
  have hfree := h.2.2.2.2.1 (by decide) _ rfl
  exact absurd (hfree.tracked 100) (by decide)

end TenantWorld

end CuCascade.Memory

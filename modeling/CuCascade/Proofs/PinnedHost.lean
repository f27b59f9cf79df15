import CuCascade.Proofs.HostAllocation
import CuCascade.Proofs.PinnedPools

/-!
# Blocks in pinned memory

A block is known by its pool and its number there, and only its pointer counts for those
who write to it. The blocks of all the host spaces of a process lie in memory that is
taken and registered, each in its own place, and a destructor gives back what its space
has taken and nothing else. Memory can only be lost when a call fails: by a constructor
that throws after its first pool, and by a registration that CUDA refuses.
-/

namespace CuCascade.Memory

open HostResource

/-! ## One space -/

namespace PinnedSpace

variable {s : PinnedSpace} {memory memory' : SystemMemory} {p : Addr} {b : Block}

def pools (s : PinnedSpace) : List Addr := s.host.res.allocatedBlocks

/-- What each of its pools is to the system. -/
def region (s : PinnedSpace) : Region := ⟨s.mr.numaNode, s.host.res.poolBytes, true⟩

/-- The blocks that are free or belong to a live allocation. -/
def blocks (s : PinnedSpace) : Multiset Block := s.host.res.freeBlocks + s.host.held

/-- The pools are regions of the memory, each its own, and the blocks are carved from them,
each at one place only. -/
structure Sound (s : PinnedSpace) (memory : SystemMemory) : Prop where
  pos : 0 < s.host.res.blockSize.toNat * s.host.res.poolSize.toNat
  lt : s.host.res.blockSize.toNat * s.host.res.poolSize.toNat < 2 ^ 64
  nodup : s.pools.Nodup
  regions : ∀ p ∈ s.pools, memory.lookup p = some s.region
  blocks : s.blocks ≤ s.host.res.carved
  numbered : s.host.Numbered

theorem Sound.toNat_poolBytes (h : s.Sound memory) :
    s.host.res.poolBytes.toNat = s.host.res.poolSize.toNat * s.host.res.blockSize.toNat := by
  rw [poolBytes, UInt64.toNat_mul, Nat.mod_eq_of_lt h.lt, Nat.mul_comm]

theorem Sound.poolBytes_ne_zero (h : s.Sound memory) : s.host.res.poolBytes ≠ 0 := by
  intro hzero
  have hbytes := h.toNat_poolBytes
  have hpos := h.pos
  rw [hzero, UInt64.toNat_zero, Nat.mul_comm] at hbytes
  omega

theorem Sound.mono (h : s.Sound memory)
    (hkept : ∀ p ∈ s.pools, memory.lookup p = some s.region → memory'.lookup p = some s.region) :
    s.Sound memory' :=
  { h with regions := fun p hp => hkept p hp (h.regions p hp) }

/-- Where a block is. -/
theorem Sound.pointer (h : s.Sound memory) (hb : b ∈ s.blocks) :
    b.index < s.host.res.poolSize.toNat ∧ ∃ p, s.pools[b.pool]? = some p ∧ p ∈ s.pools ∧
      s.host.res.pointer b = some (p + b.index * s.host.res.blockSize.toNat) := by
  have hcarved : b ∈ s.host.res.carved := Multiset.mem_coe.mp (Multiset.mem_of_le h.blocks hb)
  obtain ⟨pool, hpool, hmem⟩ := List.mem_flatMap.mp hcarved
  obtain ⟨i, hi, rfl⟩ := List.mem_map.mp hmem
  rw [List.mem_range] at hpool hi
  have hget : s.pools[pool]? = some s.pools[pool] := List.getElem?_eq_getElem hpool
  have hoffset : (UInt64.ofNat i * s.host.res.blockSize).toNat =
      i * s.host.res.blockSize.toNat := by
    have hle := Nat.mul_le_mul_right s.host.res.blockSize.toNat (Nat.le_of_lt hi)
    have hlt := h.lt
    rw [Nat.mul_comm] at hlt
    have hsize := s.host.res.poolSize.toNat_lt
    rw [UInt64.toNat_mul, Word.toNat_ofNat (by omega), Nat.mod_eq_of_lt (by omega)]
  refine ⟨hi, s.pools[pool], hget, List.getElem_mem hpool, ?_⟩
  show (s.pools[pool]?).map _ = _
  rw [hget, Option.map_some, hoffset]

/-! ## The destructor -/

/-- Pools that are regions are given back one after the other. -/
theorem exists_deallocated (mr : PinnedHostResource) (bytes : UInt64) (pools : List Addr)
    (hnodup : pools.Nodup)
    (hregions : ∀ p ∈ pools, memory.lookup p = some ⟨mr.numaNode, bytes, true⟩) :
    ∃ memory', pools.foldlM (fun memory block => mr.doDeallocate memory block bytes) memory =
        some memory' ∧
      ∀ p, memory'.lookup p = if p ∈ pools then none else memory.lookup p := by
  induction pools generalizing memory with
  | nil => exact ⟨memory, rfl, fun p => (if_neg List.not_mem_nil).symm⟩
  | cons block pools ih =>
      obtain ⟨hblock, hrest⟩ := List.nodup_cons.mp hnodup
      have hcall : mr.doDeallocate memory block bytes = some (memory.erase block) := by
        unfold PinnedHostResource.doDeallocate
        rw [hregions block List.mem_cons_self]
        by_cases hnode : mr.numaNode = -1 <;> simp [hnode]
      have hleft : ∀ p ∈ pools,
          (memory.erase block).lookup p = some ⟨mr.numaNode, bytes, true⟩ := by
        intro p hp
        rw [AList.lookup_erase_ne (fun hsame : p = block => hblock (hsame ▸ hp))]
        exact hregions p (List.mem_cons_of_mem _ hp)
      obtain ⟨memory', hfold, hlookup⟩ := ih hrest hleft
      refine ⟨memory', ?_, fun p => ?_⟩
      · rw [List.foldlM_cons, hcall]
        exact hfold
      · rw [hlookup]
        by_cases hp : p = block
        · rw [hp, AList.lookup_erase, if_pos List.mem_cons_self, ite_self]
        · simp [hp, AList.lookup_erase_ne hp]

theorem Sound.destroy (h : s.Sound memory) :
    ∃ memory', s.host.res.destroy s.mr memory = some memory' ∧
      ∀ p, memory'.lookup p = if p ∈ s.pools then none else memory.lookup p :=
  exists_deallocated s.mr s.host.res.poolBytes s.pools h.nodup h.regions

/-! ## The calls -/

theorem Sound.call (h : s.Sound memory) {op : HostOp}
    (hop : ∀ n res upstream, op ≠ .allocate n res upstream) :
    Sound ⟨s.mr, s.host.next op⟩ memory ∧
      pools ⟨s.mr, s.host.next op⟩ = s.pools := by
  obtain ⟨hpool, hblock, hheld⟩ := s.host.next_samePool hop
  have hpools : pools ⟨s.mr, s.host.next op⟩ = s.pools := hpool.allocatedBlocks
  have hregion : region ⟨s.mr, s.host.next op⟩ = s.region := by
    simp only [region, poolBytes, hblock, hpool.poolSize]
  refine ⟨⟨?_, ?_, ?_, ?_, ?_, h.numbered.next op⟩, hpools⟩
  · rw [hblock, hpool.poolSize]
    exact h.pos
  · rw [hblock, hpool.poolSize]
    exact h.lt
  · rw [hpools]
    exact h.nodup
  · rw [hpools, hregion]
    exact h.regions
  · refine le_trans ?_ (h.blocks.trans (le_of_eq ?_))
    · unfold PinnedSpace.blocks
      rw [hpool.freeBlocks]
      exact Multiset.add_le_add_left hheld
    · rw [hpool.carved]

theorem addPools_allocatedBlocks (pools : List Addr) (r : HostResource) :
    (pools.foldl addPool r).allocatedBlocks = r.allocatedBlocks ++ pools := by
  induction pools generalizing r with
  | nil => exact (List.append_nil _).symm
  | cons base pools ih =>
      rw [List.foldl_cons, ih]
      simp [addPool]

/-- A space that the constructor has made. -/
theorem sound_fresh {mr : PinnedHostResource} {answers : List SystemAnswer} {new : List Addr}
    {blockSize poolSize : UInt64} (limit capacity : UInt64)
    (hpos : 0 < (alignUp blockSize 16).toNat * poolSize.toNat)
    (hlt : (alignUp blockSize 16).toNat * poolSize.toNat < 2 ^ 64)
    (hbytes : alignUp blockSize 16 * poolSize ≠ 0)
    (hgrown : mr.Grown (alignUp blockSize 16 * poolSize) answers memory new [] memory')
    (hpromised : mr.Promised (alignUp blockSize 16 * poolSize) answers memory) :
    Sound ⟨mr, .fresh limit capacity blockSize poolSize new⟩ memory' ∧
      pools ⟨mr, .fresh limit capacity blockSize poolSize new⟩ = new := by
  have hbooks := create_sameBooks limit capacity blockSize poolSize new
  have hblock : (create limit capacity blockSize poolSize new).blockSize =
      alignUp blockSize 16 := hbooks.blockSize
  have hpool : (create limit capacity blockSize poolSize new).poolSize = poolSize :=
    hbooks.poolSize
  have hpools : pools ⟨mr, .fresh limit capacity blockSize poolSize new⟩ = new :=
    addPools_allocatedBlocks new _
  have hregion : region ⟨mr, .fresh limit capacity blockSize poolSize new⟩ =
      ⟨mr.numaNode, alignUp blockSize 16 * poolSize, true⟩ := by
    simp only [region, poolBytes, HostWorld.fresh, hblock, hpool]
  obtain ⟨hnodup, -, hregions⟩ := hgrown.pools hbytes hpromised
  refine ⟨⟨?_, ?_, ?_, ?_, ?_, fun id hid => by cases hid⟩, hpools⟩
  · simp only [HostWorld.fresh, hblock, hpool]
    exact hpos
  · simp only [HostWorld.fresh, hblock, hpool]
    exact hlt
  · rw [hpools]
    exact hnodup
  · rw [hpools, hregion]
    exact hregions
  · exact le_of_eq (HostWorld.blocksConserved_fresh _ _ _ _ _).once

theorem upstream_answers (s : PinnedSpace) (answers : List SystemAnswer) :
    s.host.res.Upstream s.mr answers (s.upstream answers) := by
  intro j
  unfold PinnedSpace.upstream
  rw [Nat.add_sub_cancel_left]

/-- A space after it has been asked for blocks. -/
theorem Sound.fed {answers : List SystemAnswer} {out : List Block} {lost : Prop}
    {host : HostWorld} (h : s.Sound memory)
    (hpromised : s.mr.Promised s.host.res.poolBytes answers memory)
    (hfed : s.host.res.Fed s.mr answers memory host.res out memory' lost)
    (hheld : host.held = out + s.host.held) (hnumbered : host.Numbered) :
    Sound ⟨s.mr, host⟩ memory' := by
  obtain ⟨new, stray, hpools, hgrown, -⟩ := hfed.grown
  obtain ⟨carved, hcarved, hle⟩ := hfed.blocks
  have hbytes := h.poolBytes_ne_zero
  obtain ⟨hnodup, -, hregions⟩ := hgrown.pools hbytes hpromised
  have hregion : region ⟨s.mr, host⟩ = s.region := by
    simp only [region, poolBytes, hfed.blockSize, hfed.poolSize]
  have hall : pools ⟨s.mr, host⟩ = s.pools ++ new := hpools
  refine ⟨?_, ?_, ?_, ?_, ?_, hnumbered⟩
  · rw [hfed.blockSize, hfed.poolSize]
    exact h.pos
  · rw [hfed.blockSize, hfed.poolSize]
    exact h.lt
  · rw [hall]
    refine List.nodup_append'.mpr ⟨h.nodup, hnodup, fun p hp hnew => ?_⟩
    exact hgrown.not_mem hbytes hpromised p (.inl hnew) (AList.mem_of_lookup (h.regions p hp))
  · rw [hall, hregion]
    intro p hp
    rcases List.mem_append.mp hp with hold | hnew
    · exact hgrown.lookup hbytes hpromised (h.regions p hold)
    · exact hregions p hnew
  · show (host.res.freeBlocks : Multiset Block) + host.held ≤ host.res.carved
    rw [hheld, hcarved, ← Multiset.coe_add, ← add_assoc]
    calc (host.res.freeBlocks : Multiset Block) + out + s.host.held
      _ ≤ (s.host.res.freeBlocks : Multiset Block) + carved + s.host.held :=
          Multiset.add_le_add_right hle
      _ = s.blocks + carved := add_right_comm _ _ _
      _ ≤ s.host.res.carved + carved := Multiset.add_le_add_right h.blocks

end PinnedSpace

/-! ## All spaces -/

namespace PinnedWorld

variable {w : PinnedWorld} {id : Nat} {s s' : PinnedSpace} {mr : PinnedHostResource}
  {bytes : UInt64} {answers : List SystemAnswer} {new stray : List Addr}
  {memory' : SystemMemory}

/-- What is taken is apart, each space is sound, and no two have a pool in common. -/
structure Sound (w : PinnedWorld) : Prop where
  apart : AllApart Region.size w.memory
  spaces : w.spaces.All fun _ s => s.Sound w.memory
  once : w.spaces.All fun id s => w.spaces.All fun id' s' =>
    id ≠ id' → ∀ p ∈ s.pools, p ∉ s'.pools

/-- All memory that is taken is a pool of some space. -/
def Returned (w : PinnedWorld) : Prop :=
  ∀ p ∈ w.memory, ∃ id s, w.spaces.lookup id = some s ∧ p ∈ s.pools

/-- The pools of a space are `new` and those it had. -/
def Gains (w : PinnedWorld) (id : Nat) (s' : PinnedSpace) (new : List Addr) : Prop :=
  ∀ p, p ∈ s'.pools ↔ p ∈ new ∨ ∃ s ∈ w.spaces.lookup id, p ∈ s.pools

/-- More is taken, for no space. -/
theorem Sound.grow (h : w.Sound) (hbytes : bytes ≠ 0)
    (hgrown : mr.Grown bytes answers w.memory new stray memory')
    (hpromised : mr.Promised bytes answers w.memory) : Sound ⟨memory', w.spaces⟩ where
  apart := hgrown.allApart hbytes hpromised h.apart
  spaces := h.spaces.mono fun _ _ hs => hs.mono fun _ _ hp => hgrown.lookup hbytes hpromised hp
  once := h.once

/-- More is taken, for the space `id`. -/
theorem Sound.insert (h : w.Sound) (hbytes : bytes ≠ 0)
    (hgrown : mr.Grown bytes answers w.memory new stray memory')
    (hpromised : mr.Promised bytes answers w.memory) (hs' : s'.Sound memory')
    (hgains : w.Gains id s' new) : Sound ⟨memory', w.spaces.insert id s'⟩ := by
  have hmore := h.grow hbytes hgrown hpromised
  have hothers : ∀ id' s, id' ≠ id → w.spaces.lookup id' = some s →
      ∀ p ∈ s.pools, p ∉ s'.pools := by
    intro id' s hne hs p hp hp'
    rcases (hgains p).mp hp' with hnew | ⟨s₀, hs₀, hold⟩
    · have hmem := AList.mem_of_lookup ((h.spaces.get hs).regions p hp)
      exact hgrown.not_mem hbytes hpromised p (.inl hnew) hmem
    · exact h.once id' s hs id s₀ hs₀ hne p hp hold
  refine ⟨hmore.apart, hmore.spaces.insert hs', .insert_of_ne ?_ fun id₁ s₁ hne₁ hs₁ => ?_⟩
  · refine .insert_of_ne (fun hne => absurd rfl hne) fun id' s hne hs _ p hp hp' => ?_
    exact hothers id' s hne hs p hp' hp
  · exact .insert_of_ne (fun _ => hothers id₁ s₁ hne₁ hs₁) fun id₂ s₂ _ hs₂ =>
      h.once id₁ s₁ hs₁ id₂ s₂ hs₂

/-- What the pools of a sound world are not: memory that has just been taken. -/
theorem Sound.not_mem_pools (h : w.Sound) (hbytes : bytes ≠ 0)
    (hgrown : mr.Grown bytes answers w.memory new stray memory')
    (hpromised : mr.Promised bytes answers w.memory) {q : Addr} (hq : q ∈ new ∨ q ∈ stray)
    (hs : w.spaces.lookup id = some s) : q ∉ s.pools := fun hmem =>
  hgrown.not_mem hbytes hpromised q hq (AList.mem_of_lookup ((h.spaces.get hs).regions q hmem))

theorem returned_grow_iff (h : w.Sound) (hreturned : w.Returned) (hbytes : bytes ≠ 0)
    (hgrown : mr.Grown bytes answers w.memory new stray memory')
    (hpromised : mr.Promised bytes answers w.memory) :
    Returned ⟨memory', w.spaces⟩ ↔ ¬ ∃ q, q ∈ new ∨ q ∈ stray := by
  constructor
  · intro h' ⟨q, hq⟩
    obtain ⟨id, s, hs, hmem⟩ := h' q ((hgrown.mem_iff q).mpr (.inr hq))
    exact h.not_mem_pools hbytes hgrown hpromised hq hs hmem
  · intro hnone q hq
    rcases (hgrown.mem_iff q).mp hq with hold | hnew
    · exact hreturned q hold
    · exact absurd ⟨q, hnew⟩ hnone

theorem returned_insert_iff (h : w.Sound) (hreturned : w.Returned) (hbytes : bytes ≠ 0)
    (hgrown : mr.Grown bytes answers w.memory new stray memory')
    (hpromised : mr.Promised bytes answers w.memory) (hgains : w.Gains id s' new) :
    Returned ⟨memory', w.spaces.insert id s'⟩ ↔ ¬ ∃ q, q ∈ stray := by
  constructor
  · intro h' ⟨q, hq⟩
    have hfresh {id' : Nat} {s : PinnedSpace} (hs : w.spaces.lookup id' = some s) :
        q ∉ s.pools := h.not_mem_pools hbytes hgrown hpromised (.inr hq) hs
    obtain ⟨id', s, hs, hmem⟩ := h' q ((hgrown.mem_iff q).mpr (.inr (.inr hq)))
    by_cases hid : id' = id
    · rw [hid, AList.lookup_insert] at hs
      cases hs
      rcases (hgains q).mp hmem with hnew | ⟨s₀, hs₀, hold⟩
      · exact (hgrown.pools hbytes hpromised).2.1 q hnew hq
      · exact hfresh hs₀ hold
    · rw [AList.lookup_insert_ne hid] at hs
      exact hfresh hs hmem
  · intro hnone q hq
    rcases (hgrown.mem_iff q).mp hq with hold | hnew | hstray
    · obtain ⟨id', s, hs, hmem⟩ := hreturned q hold
      by_cases hid : id' = id
      · exact ⟨id, s', AList.lookup_insert _, (hgains q).mpr (.inr ⟨s, hid ▸ hs, hmem⟩)⟩
      · exact ⟨id', s, (AList.lookup_insert_ne hid).trans hs, hmem⟩
    · exact ⟨id, s', AList.lookup_insert _, (hgains q).mpr (.inl hnew)⟩
    · exact absurd ⟨q, hstray⟩ hnone

/-- The call fails after it has taken memory. -/
def LosesMemory (w : PinnedWorld) : PinnedOp → Prop
  | .construct _ numaNode _ _ _ _ answers => PinnedHostResource.LeavesPools ⟨numaNode⟩ answers
  | .allocate id totalBytes res answers => ∃ s ∈ w.spaces.lookup id,
      s.host.res.entersLoop totalBytes res = true ∧
        s.mr.StraysWithin s.host.res.poolSize.toNat
          (alignUp totalBytes s.host.res.blockSize / s.host.res.blockSize).toNat
          s.host.res.freeBlocks.length answers
  | .call _ _ | .destroy _ => False

instance (w : PinnedWorld) : (op : PinnedOp) → Decidable (w.LosesMemory op)
  | .construct _ _ _ _ _ _ _ => inferInstanceAs (Decidable (PinnedHostResource.LeavesPools _ _))
  | .allocate _ _ _ _ => inferInstanceAs (Decidable (∃ s ∈ _, _ = true ∧ _))
  | .call _ _ | .destroy _ => isFalse not_false

/-- The call keeps the world sound, and an owner for all that is taken unless it loses some. -/
def Keeps (w : PinnedWorld) (op : PinnedOp) : Prop :=
  (w.next op).Sound ∧ (w.Returned → ((w.next op).Returned ↔ ¬ w.LosesMemory op))

theorem keeps_construct (h : w.Sound) {numaNode : Int}
    {limit capacity blockSize poolSize : UInt64}
    (hlegal : w.Proper (.construct id numaNode limit capacity blockSize poolSize answers)) :
    w.Keeps (.construct id numaNode limit capacity blockSize poolSize answers) := by
  obtain ⟨hid, hpos, hlt, hpromised⟩ := hlegal
  have hbytes : alignUp blockSize 16 * poolSize ≠ 0 := by
    intro hzero
    have hproduct := congrArg UInt64.toNat hzero
    rw [UInt64.toNat_mul, Nat.mod_eq_of_lt hlt, UInt64.toNat_zero] at hproduct
    omega
  unfold Keeps
  rcases hpools : (PinnedHostResource.mk numaNode).initialPools
    (alignUp blockSize 16 * poolSize) answers w.memory with ⟨memory', out⟩
  rcases PinnedHostResource.initialPools_grown hbytes hpools with
    ⟨new, rfl, hgrown, hall⟩ | ⟨e, new, stray, rfl, hgrown, -, hleaves⟩
  · obtain ⟨hsound, hown⟩ := PinnedSpace.sound_fresh limit capacity hpos hlt hbytes hgrown
      hpromised
    have hnext : w.next (.construct id numaNode limit capacity blockSize poolSize answers) =
        ⟨memory', w.spaces.insert id
          ⟨⟨numaNode⟩, .fresh limit capacity blockSize poolSize new⟩⟩ := by
      simp only [next, hpools]
    have hgains : w.Gains id
        ⟨⟨numaNode⟩, .fresh limit capacity blockSize poolSize new⟩ new := by
      intro p
      rw [hown, AList.lookup_eq_none.mpr hid]
      simp
    rw [hnext]
    refine ⟨h.insert hbytes hgrown hpromised hsound hgains, fun hreturned => ?_⟩
    rw [returned_insert_iff h hreturned hbytes hgrown hpromised hgains]
    exact iff_of_true (by simp) (PinnedHostResource.not_leavesPools hall)
  · have hnext : w.next (.construct id numaNode limit capacity blockSize poolSize answers) =
        ⟨memory', w.spaces⟩ := by
      simp only [next, hpools]
    rw [hnext]
    refine ⟨h.grow hbytes hgrown hpromised, fun hreturned => ?_⟩
    rw [returned_grow_iff h hreturned hbytes hgrown hpromised]
    exact not_congr hleaves.symm

theorem keeps_allocate (h : w.Sound) {totalBytes : UInt64} {res : Option Addr}
    (hlegal : w.Proper (.allocate id totalBytes res answers)) :
    w.Keeps (.allocate id totalBytes res answers) := by
  obtain ⟨s, hs, -, hpromised⟩ := hlegal
  have hsound := h.spaces.get hs
  have hbytes := hsound.poolBytes_ne_zero
  rcases hcall : s.host.res.allocateMultipleBlocks totalBytes (res.map some)
    (s.upstream answers) with ⟨r, out⟩
  have hfed := allocate_fed w.memory hbytes (s.upstream_answers answers) hcall
  obtain ⟨new, stray, hpools, hgrown, hlost⟩ := hfed.grown
  -- what becomes of the resource is the same however the call ends
  have hspace : ∀ host : HostWorld, host.res = r →
      host.held = handedOut out + s.host.held → host.Numbered →
      let w' : PinnedWorld := ⟨s.host.res.pinnedAfter s.mr totalBytes res answers w.memory,
        w.spaces.insert id ⟨s.mr, host⟩⟩
      w'.Sound ∧ (w.Returned →
        (w'.Returned ↔ ¬ w.LosesMemory (.allocate id totalBytes res answers))) := by
    intro host hres hheld hnumbered
    have hgains : w.Gains id ⟨s.mr, host⟩ new := by
      intro p
      show p ∈ host.res.allocatedBlocks ↔ _
      rw [hres, hpools, hs, List.mem_append, or_comm]
      simp [PinnedSpace.pools]
    refine ⟨h.insert hbytes hgrown hpromised
      (hsound.fed hpromised (hres ▸ hfed) hheld hnumbered) hgains, fun hreturned => ?_⟩
    rw [returned_insert_iff h hreturned hbytes hgrown hpromised hgains, hlost]
    simp [LosesMemory, Option.mem_def.mp hs]
  unfold Keeps
  simp only [next, Option.mem_def.mp hs, hcall]
  split
  · next r' a heq =>
      cases heq
      have hnew : s.host.allocations.lookup s.host.nextId = none :=
        AList.lookup_eq_none.mpr fun hmem => Nat.lt_irrefl _ (hsound.numbered _ hmem)
      refine hspace _ rfl (AList.sumBy_insert_new hnew) fun id' hid' => ?_
      rcases (AList.mem_insert _).mp hid' with rfl | hold
      · exact Nat.lt_succ_self _
      · exact Nat.lt_succ_of_lt (hsound.numbered id' hold)
  · next r' out' hno heq =>
      cases heq
      have hnone : handedOut out = [] := by
        unfold handedOut
        split
        · next a => exact absurd rfl (hno a)
        · rfl
      refine hspace _ rfl ?_ hsound.numbered
      rw [hnone, Multiset.coe_nil, zero_add]
      rfl

theorem keeps_call (h : w.Sound) {op : HostOp} (hlegal : w.Proper (.call id op)) :
    w.Keeps (.call id op) := by
  have hop : ∀ n res upstream, op ≠ .allocate n res upstream := by
    intro n res upstream heq
    rw [heq] at hlegal
    exact hlegal
  unfold Keeps
  cases hs : w.spaces.lookup id with
  | none =>
      have hidle : w.next (.call id op) = w := by
        simp only [next, hs]
      rw [hidle]
      exact ⟨h, fun hreturned => iff_of_true hreturned not_false⟩
  | some s =>
      obtain ⟨hsound, hpools⟩ := (h.spaces.get hs).call hop
      have hbytes := (h.spaces.get hs).poolBytes_ne_zero
      have hgrown : s.mr.Grown s.host.res.poolBytes [] w.memory [] [] w.memory := .done _ _
      have hgains : w.Gains id ⟨s.mr, s.host.next op⟩ [] := by
        intro p
        rw [hpools, hs]
        simp
      have hnext : w.next (.call id op) =
          ⟨w.memory, w.spaces.insert id ⟨s.mr, s.host.next op⟩⟩ := by
        simp only [next, hs]
      rw [hnext]
      refine ⟨h.insert hbytes hgrown trivial hsound hgains, fun hreturned => ?_⟩
      rw [returned_insert_iff h hreturned hbytes hgrown trivial hgains]
      exact iff_of_true (by simp) not_false

theorem keeps_destroy (h : w.Sound) (id : Nat) : w.Keeps (.destroy id) := by
  unfold Keeps
  cases hs : w.spaces.lookup id with
  | none =>
      have hidle : w.next (.destroy id) = w := by
        simp only [next, hs]
      rw [hidle]
      exact ⟨h, fun hreturned => iff_of_true hreturned not_false⟩
  | some s =>
      obtain ⟨memory', hdestroy, hlookup⟩ := (h.spaces.get hs).destroy
      have hnext : w.next (.destroy id) = ⟨memory', w.spaces.erase id⟩ := by
        simp only [next, hs, hdestroy]
      have hold : ∀ {p region}, memory'.lookup p = some region →
          p ∉ s.pools ∧ w.memory.lookup p = some region := by
        intro p region hp
        rw [hlookup] at hp
        split at hp
        · cases hp
        · next hnot => exact ⟨hnot, hp⟩
      rw [hnext]
      refine ⟨⟨?_, ?_, ?_⟩, fun hreturned => iff_of_true ?_ not_false⟩
      · exact fun p v hp q v' hq => h.apart p v (hold hp).2 q v' (hold hq).2
      · intro id' s' hs'
        obtain ⟨hne, hs'⟩ := AList.lookup_of_lookup_erase hs'
        refine (h.spaces.get hs').mono fun p hp hregion => ?_
        rw [hlookup, if_neg (h.once id' s' hs' id s hs hne p hp)]
        exact hregion
      · intro id₁ s₁ hs₁ id₂ s₂ hs₂
        exact h.once id₁ s₁ (AList.lookup_of_lookup_erase hs₁).2 id₂ s₂
          (AList.lookup_of_lookup_erase hs₂).2
      · intro p hp
        obtain ⟨region, hregion⟩ := AList.exists_lookup hp
        obtain ⟨hnot, hp'⟩ := hold hregion
        obtain ⟨id', s', hs', hmem⟩ := hreturned p (AList.mem_of_lookup hp')
        have hne : id' ≠ id := by
          intro heq
          rw [heq, hs, Option.some.injEq] at hs'
          exact hnot (hs' ▸ hmem)
        exact ⟨id', s', (AList.lookup_erase_ne hne).trans hs', hmem⟩

theorem Sound.keeps (h : w.Sound) {op : PinnedOp} (hlegal : w.Proper op) : w.Keeps op := by
  cases op with
  | construct id numaNode limit capacity blockSize poolSize answers =>
      exact keeps_construct h hlegal
  | allocate id totalBytes res answers => exact keeps_allocate h hlegal
  | call id op => exact keeps_call h hlegal
  | destroy id => exact keeps_destroy h id

theorem sound_empty : Sound ⟨∅, ∅⟩ where
  apart := allApart_empty
  spaces := AList.all_empty
  once := AList.all_empty

/-! ## Blocks in place -/

/-- A block of the space is the bytes from `q` on, in a region of the space's own node that
is taken and known to CUDA. -/
def At (w : PinnedWorld) (s : PinnedSpace) (b : Block) (q : Nat) : Prop :=
  s.host.res.pointer b = some q ∧
    ∃ p region, w.memory.lookup p = some region ∧ region.registered = true ∧
      region.numaNode = s.mr.numaNode ∧ p ≤ q ∧
      q + s.host.res.blockSize.toNat ≤ p + region.size

/-- Each block is on a free list or in one live allocation, once, and has a place that it
shares with no other block of any space; and each space can be destroyed, which gives back
its pools and nothing else. -/
structure InPlace (w : PinnedWorld) : Prop where
  nodup : w.spaces.All fun _ s => s.blocks.Nodup
  placed : w.spaces.All fun _ s => ∀ b ∈ s.blocks, ∃ q, w.At s b q
  apart : w.spaces.All fun id s => w.spaces.All fun id' s' =>
    ∀ b ∈ s.blocks, ∀ b' ∈ s'.blocks, id ≠ id' ∨ b ≠ b' →
      ∀ q q', w.At s b q → w.At s' b' q' →
        Apart q s.host.res.blockSize.toNat q' s'.host.res.blockSize.toNat
  returns : w.spaces.All fun _ s => ∃ memory, s.host.res.destroy s.mr w.memory = some memory ∧
    ∀ p, memory.lookup p = if p ∈ s.pools then none else w.memory.lookup p

theorem Sound.apart_blocks (h : w.Sound) {id' : Nat} {b b' : Block} {q q' : Nat}
    (hs : w.spaces.lookup id = some s) (hs' : w.spaces.lookup id' = some s')
    (hb : b ∈ s.blocks) (hb' : b' ∈ s'.blocks) (hne : id ≠ id' ∨ b ≠ b')
    (hq : s.host.res.pointer b = some q) (hq' : s'.host.res.pointer b' = some q') :
    Apart q s.host.res.blockSize.toNat q' s'.host.res.blockSize.toNat := by
  have hsound := h.spaces.get hs
  have hsound' := h.spaces.get hs'
  obtain ⟨hi, p, hpool, hp, hpointer⟩ := hsound.pointer hb
  obtain ⟨hi', p', hpool', hp', hpointer'⟩ := hsound'.pointer hb'
  rw [hpointer, Option.some.injEq] at hq
  rw [hpointer', Option.some.injEq] at hq'
  rw [← hq, ← hq']
  refine h.apart.cells (hsound.regions p hp) (hsound'.regions p' hp')
    hsound.toNat_poolBytes.symm hsound'.toNat_poolBytes.symm hi hi' ?_
  by_cases hid : id = id'
  · subst hid
    rw [hs, Option.some.injEq] at hs'
    subst hs'
    by_cases hindex : b.index = b'.index
    · -- the same number in two pools
      refine .inl fun heq => hne.elim (fun hno => hno rfl) fun hbb => hbb ?_
      rw [heq] at hpool
      have hpools : b.pool = b'.pool :=
        (List.getElem?_inj (List.getElem?_eq_some_iff.mp hpool).1 hsound.nodup).mp
          (hpool.trans hpool'.symm)
      cases b
      cases b'
      exact congrArg₂ Block.mk hpools hindex
    · exact .inr ⟨rfl, hindex⟩
  · exact .inl fun heq => h.once id s hs id' s' hs' hid p hp (heq ▸ hp')

theorem Sound.inPlace (h : w.Sound) : w.InPlace where
  nodup _ s hs := Multiset.nodup_of_le (h.spaces.get hs).blocks
    (Multiset.coe_nodup.mpr (carved_nodup _))
  placed _ s hs b hb := by
    have hsound := h.spaces.get hs
    obtain ⟨hi, p, -, hp, hpointer⟩ := hsound.pointer hb
    have hcell := cell_le s.host.res.blockSize.toNat hi
    rw [← hsound.toNat_poolBytes] at hcell
    refine ⟨_, hpointer, p, s.region, hsound.regions p hp, rfl, rfl, Nat.le_add_right _ _, ?_⟩
    rw [Nat.add_assoc]
    exact Nat.add_le_add_left hcell p
  apart id s hs id' s' hs' b hb b' hb' hne q q' hq hq' :=
    h.apart_blocks hs hs' hb hb' hne hq.1 hq'.1
  returns _ s hs := (h.spaces.get hs).destroy

theorem always_sound {ops : List PinnedOp} (hlaw : machine.Lawful ⟨∅, ∅⟩ ops) :
    machine.Always Sound ⟨∅, ∅⟩ ops :=
  Machine.always_of_lawful (fun _ _ h hlegal => (h.keeps hlegal).1) sound_empty hlaw

/-- Two spaces, a pool that one of them adds, a registration that fails for the other, and
the end of the first. -/
def twoSpaces : List PinnedOp :=
  [.construct 0 (-1) 1024 1024 16 2 [.memory 0x1000],
    .construct 1 0 1024 1024 32 2 [.memory 0x2000],
    .allocate 0 48 none [.memory 0x3000],
    .allocate 1 96 none [.unregistered 0x4000 .other],
    .call 0 (.free 0), .destroy 0]

/-- All that is taken is a pool of some space in every state of a run exactly if no call of
the run loses memory. -/
theorem always_returned_iff {ops : List PinnedOp} (hlaw : machine.Lawful ⟨∅, ∅⟩ ops) :
    machine.Always Returned ⟨∅, ∅⟩ ops ↔
      machine.Every (fun w op => ¬ w.LosesMemory op) ⟨∅, ∅⟩ ops := by
  refine Machine.always_iff_every (J := Sound) ?_ ?_ sound_empty ?_ hlaw
  · exact fun w op h _ hlegal _ => (h.keeps hlegal).1
  · exact fun w op h hreturned hlegal => (h.keeps hlegal).2 hreturned
  · intro p hp
    cases hp

/-- With a refusal in place of the failed registration nothing is lost; a constructor that
is refused its second pool loses the first. -/
theorem always_returned_refused :
    machine.Always Returned ⟨∅, ∅⟩
        [.construct 1 0 1024 1024 32 2 [.memory 0x2000],
          .allocate 1 96 none [.refused .other], .destroy 1] ∧
      ¬ machine.Always Returned ⟨∅, ∅⟩
        [.construct 1 0 1024 1024 32 2 [.memory 0x2000, .refused .other]] :=
  ⟨(always_returned_iff (show machine.Every Proper _ _ by decide)).mpr (by decide),
    fun h => absurd ((always_returned_iff (show machine.Every Proper _ _ by decide)).mp h)
      (by decide)⟩

end PinnedWorld

end CuCascade.Memory

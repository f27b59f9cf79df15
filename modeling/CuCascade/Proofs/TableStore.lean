import CuCascade.Lib.Simulation
import CuCascade.Proofs.Deliveries
import CuCascade.Proofs.HostPool

/-!
# The store keeps its tables

The store is simulated by the shelf: a conversion that comes to its end is a copy, a
destruction drops a table, and nothing else is anything to the tables. What carries this
is that each block of a host space is in one place, free or with one user or with one
table. So what is written for a new table, or by another user, is written to blocks of no
table that is there.
-/

namespace CuCascade.Data

open Memory HostResource

/-! ## One host space -/

/-- From `w` to `w'` no block comes to be in two places. -/
structure Sparing (w w' : HostWorld) : Prop where
  numbered : w'.Numbered
  blocks : ∃ carved, w'.res.carved = w.res.carved ++ carved ∧
    (w'.res.freeBlocks : Multiset Block) + w'.held ≤ w.res.freeBlocks + w.held + carved

section

variable {w : HostWorld}

theorem SamePool.sparing {w' : HostWorld} (hpool : w.res.SamePool w'.res)
    (hheld : w'.held ≤ w.held) (hnumbered : w'.Numbered) : Sparing w w' where
  numbered := hnumbered
  blocks := ⟨[], by rw [hpool.carved, List.append_nil], by
    rw [hpool.freeBlocks, Multiset.coe_nil, add_zero]
    exact Multiset.add_le_add_left hheld⟩

theorem sparing_next (hn : w.Numbered) {op : HostOp}
    (hop : ∀ n res upstream, op ≠ .allocate n res upstream) : Sparing w (w.next op) := by
  obtain ⟨hpool, -, hheld⟩ := w.next_samePool hop
  exact SamePool.sparing hpool hheld (hn.next op)

theorem sparing_giveBack (hn : w.Numbered) (a : MultipleBlocksAllocation) :
    Sparing w { w with res := (w.res.destroyAllocation a).1 } :=
  SamePool.sparing (destroyAllocation_samePool w.res a) (le_refl _) hn

/-- Nobody gets blocks of a call that fails. -/
theorem sparing_of_spares {r : HostResource} (hn : w.Numbered) (h : w.res.Spares r []) :
    Sparing w { w with res := r } := by
  obtain ⟨carved, hcarved, hle⟩ := h.blocks
  refine ⟨hn, carved, hcarved, ?_⟩
  rw [Multiset.coe_nil, add_zero] at hle
  show (r.freeBlocks : Multiset Block) + w.held ≤ _
  rw [add_right_comm]
  exact Multiset.add_le_add_right hle

theorem sparing_allocate (hn : w.Numbered) (totalBytes : UInt64) (res : Option Addr)
    (upstream : Nat → UInt64 → Except Exception Addr) :
    Sparing w (SharedHost.allocate totalBytes res upstream w) := by
  rcases hcall : w.res.allocateMultipleBlocks totalBytes (res.map some) upstream with
    ⟨r, e | _ | a⟩
  all_goals
    have hspares := allocate_spares hcall
    simp only [SharedHost.allocate, hcall]
  · exact sparing_of_spares hn hspares
  · exact sparing_of_spares hn hspares
  · obtain ⟨carved, hcarved, hle⟩ := hspares.blocks
    have hfresh : w.allocations.lookup w.nextId = none :=
      AList.lookup_eq_none.mpr fun hid => Nat.lt_irrefl _ (hn w.nextId hid)
    refine ⟨?_, carved, hcarved, ?_⟩
    · intro id hid
      rcases (AList.mem_insert _).mp hid with rfl | hid
      · exact Nat.lt_succ_self _
      · exact Nat.lt_succ_of_lt (hn id hid)
    · have hheld : HostWorld.held ⟨r, w.allocations.insert w.nextId a, w.nextId + 1⟩ =
          (a.blocks : Multiset Block) + w.held :=
        AList.sumBy_insert_new (f := fun _ a => (MultipleBlocksAllocation.blocks a :
          Multiset Block)) hfresh
      rw [hheld, ← add_assoc]
      calc (r.freeBlocks : Multiset Block) + a.blocks + w.held
        _ ≤ (w.res.freeBlocks : Multiset Block) + carved + w.held :=
            Multiset.add_le_add_right hle
        _ = w.res.freeBlocks + w.held + carved := add_right_comm _ _ _

end

namespace SharedHost

variable {h : SharedHost} {stored stored' : Multiset Block} {b : Block}

def carved (h : SharedHost) : List Block := (h.memoryResource.map (·.carved)).getD []

/-- The blocks that are free or belong to other users. -/
def others (h : SharedHost) : Multiset Block :=
  ((h.memoryResource.map (·.freeBlocks)).getD [] : List Block) +
    h.allocations.sumBy fun _ a => (a.blocks : Multiset Block)

theorem carved_nodup (h : SharedHost) : h.carved.Nodup := by
  unfold carved
  cases h.memoryResource with
  | none => exact List.nodup_nil
  | some mr => exact HostResource.carved_nodup mr

/-- The blocks of tables are `stored`, and no block is in two places. -/
structure Sound (h : SharedHost) (stored : Multiset Block) : Prop where
  blocks : h.others + stored ≤ h.carved
  numbered : ∀ id ∈ h.allocations, id < h.nextId

theorem Sound.mono (hs : h.Sound stored) (hle : stored' ≤ stored) : h.Sound stored' where
  blocks := (Multiset.add_le_add_left hle).trans hs.blocks
  numbered := hs.numbered

theorem Sound.nodup (hs : h.Sound stored) : (h.others + stored).Nodup :=
  Multiset.nodup_of_le hs.blocks (Multiset.coe_nodup.mpr h.carved_nodup)

/-- Tables have their blocks to themselves. -/
theorem Sound.not_mem_of_stored (hs : h.Sound (stored' + stored)) (hb : b ∈ stored) :
    b ∉ stored' := fun hb' =>
  have hnodup := (Multiset.nodup_add.mp hs.nodup).2.1
  Multiset.disjoint_left.mp (Multiset.nodup_add.mp hnodup).2.2 hb' hb

theorem Sound.onPool (hs : h.Sound stored) {f : HostWorld → HostWorld}
    (hf : ∀ w, w.Numbered → Sparing w (f w)) :
    (h.onPool f).Sound stored ∧ (h.onPool f).memory = h.memory := by
  unfold SharedHost.onPool
  cases hmr : h.memoryResource with
  | none => exact ⟨hs, rfl⟩
  | some mr =>
      obtain ⟨hnumbered, extra, hcarved, hle⟩ := hf ⟨mr, h.allocations, h.nextId⟩ hs.numbered
      refine ⟨⟨?_, hnumbered⟩, rfl⟩
      have hblocks := hs.blocks
      unfold SharedHost.others SharedHost.carved at hblocks ⊢
      rw [hmr] at hblocks
      simp only [Option.map_some, Option.getD_some] at hblocks
      show ((f _).res.freeBlocks : Multiset Block) + (f _).held + stored ≤ (f _).res.carved
      rw [hcarved, ← Multiset.coe_add]
      calc ((f ⟨mr, h.allocations, h.nextId⟩).res.freeBlocks : Multiset Block) +
            (f ⟨mr, h.allocations, h.nextId⟩).held + stored
        _ ≤ (mr.freeBlocks : Multiset Block) +
              HostWorld.held ⟨mr, h.allocations, h.nextId⟩ + extra + stored :=
            Multiset.add_le_add_right hle
        _ = (mr.freeBlocks : Multiset Block) +
              HostWorld.held ⟨mr, h.allocations, h.nextId⟩ + stored + extra :=
            add_right_comm _ _ _
        _ ≤ mr.carved + extra := Multiset.add_le_add_right hblocks

/-- Users write to blocks of their own. -/
theorem Sound.write (hs : h.Sound stored) (id : Nat) (contents : HostMemory) :
    (h.write id contents).Sound stored ∧
      ∀ b ∈ stored, (h.write id contents).memory b = h.memory b := by
  unfold SharedHost.write
  cases hid : h.allocations.lookup id with
  | none => exact ⟨hs, fun _ _ => rfl⟩
  | some a =>
      refine ⟨⟨hs.blocks, hs.numbered⟩, fun b hb => if_neg fun hmem => ?_⟩
      have hheld : b ∈ h.others := by
        refine Multiset.mem_add.mpr (.inr ?_)
        rw [← AList.sumBy_erase
          (f := fun _ a => (MultipleBlocksAllocation.blocks a : Multiset Block)) hid]
        exact Multiset.mem_add.mpr (.inl (Multiset.mem_coe.mpr hmem))
      exact Multiset.disjoint_left.mp (Multiset.nodup_add.mp hs.nodup).2.2 hheld hb

/-- What a converter delivers has blocks of its own, and the other tables theirs. -/
theorem Sound.delivered {packed : PackedColumns} {after : HostSpace}
    {out : Except Failure HostTableRepresentation} (hs : h.Sound stored)
    (hd : Delivered packed h.toHostSpace after out) :
    Sound { h with toHostSpace := after } (landed out + stored) ∧
      ∀ b ∈ stored, after.memory b = h.memory b := by
  have hsound : Sound { h with toHostSpace := after } (landed out + stored) := by
    refine ⟨?_, hs.numbered⟩
    have hblocks := hs.blocks
    unfold SharedHost.others SharedHost.carved at hblocks ⊢
    rcases hd.pool with ⟨hsame, hnone⟩ | ⟨mr, mr', hmr, hmr', hspares⟩
    · rw [hsame, hnone, Multiset.coe_nil, zero_add]
      exact hblocks
    · obtain ⟨extra, hcarved, hle⟩ := hspares.blocks
      rw [hmr] at hblocks
      rw [hmr', Option.map_some, Option.map_some, Option.getD_some, Option.getD_some, hcarved,
        ← Multiset.coe_add]
      simp only [Option.map_some, Option.getD_some] at hblocks
      calc (mr'.freeBlocks : Multiset Block) +
            h.allocations.sumBy (fun _ a => (a.blocks : Multiset Block)) +
            (landed out + stored)
        _ = (mr'.freeBlocks : Multiset Block) + landed out +
              (h.allocations.sumBy (fun _ a => (a.blocks : Multiset Block)) + stored) :=
            add_add_add_comm _ _ _ _
        _ ≤ (mr.freeBlocks : Multiset Block) + extra +
              (h.allocations.sumBy (fun _ a => (a.blocks : Multiset Block)) + stored) :=
            Multiset.add_le_add_right hle
        _ = (mr.freeBlocks : Multiset Block) +
              h.allocations.sumBy (fun _ a => (a.blocks : Multiset Block)) + stored + extra := by
            rw [add_right_comm, ← add_assoc]
        _ ≤ mr.carved + extra := Multiset.add_le_add_right hblocks
  exact ⟨hsound, fun b hb => hd.kept b (hsound.not_mem_of_stored hb)⟩

theorem Sound.free_le (hs : h.Sound stored) :
    ∀ mr ∈ h.memoryResource, (mr.freeBlocks : Multiset Block) ≤ mr.carved := by
  intro mr hmr
  have hblocks := hs.blocks
  unfold SharedHost.others SharedHost.carved at hblocks
  rw [Option.mem_def.mp hmr] at hblocks
  exact (Multiset.le_add_right _ _).trans ((Multiset.le_add_right _ _).trans hblocks)

/-- All blocks of a pool that is new are free. -/
theorem sound_fresh (hallocations : h.allocations = ∅)
    (hfresh : ∀ mr ∈ h.memoryResource, ∃ limit capacity blockSize poolSize initialPools,
      mr = .create limit capacity blockSize poolSize initialPools) : h.Sound 0 := by
  have hnone : h.allocations.sumBy (fun _ a => (a.blocks : Multiset Block)) = 0 := by
    rw [hallocations, AList.sumBy_empty]
  refine ⟨?_, fun id hid => ?_⟩
  · unfold SharedHost.others SharedHost.carved
    rw [hnone, add_zero, add_zero]
    cases hmr : h.memoryResource with
    | none => exact le_refl _
    | some mr =>
        obtain ⟨limit, capacity, blockSize, poolSize, initialPools, rfl⟩ := hfresh mr hmr
        have honce := (HostWorld.blocksConserved_fresh limit capacity blockSize poolSize
          initialPools).once
        rw [← add_zero ((_ : List Block) : Multiset Block)]
        exact honce.le
  · rw [hallocations] at hid
    cases hid

end SharedHost

/-! ## All host spaces -/

variable {T : Type}

/-- The blocks of a table in this host space. -/
def StoredTable.blocksAt (k : Nat) : StoredTable T → Multiset Block
  | .gpu _ => 0
  | .host k' table => if k' = k then table.hostTable.allocation.blocks else 0

/-- A representation is one of this table. -/
def StoredTable.Holds (cudf : Cudf T) (hosts : Table Nat SharedHost) (table : T) :
    StoredTable T → Prop
  | .gpu source => source.table = table
  | .host k source => ∃ h, hosts.lookup k = some h ∧
      source.hostTable.Stores h.memory (cudf.pack table)

namespace TableStore

variable {w : TableStore T} {hosts : Table Nat SharedHost} {new : Nat → Multiset Block}
  {cudf : Cudf T} {ndebug : Bool} {t : Shelf T} {i : Addr} {k : Nat} {table : T}
  {s : StoredTable T}

def stored (w : TableStore T) (k : Nat) : Multiset Block :=
  w.tables.sumBy fun _ s => s.blocksAt k

/-- The host spaces may become these, with new tables in the blocks `new`. -/
structure Spares (w : TableStore T) (hosts : Table Nat SharedHost)
    (new : Nat → Multiset Block) : Prop where
  sound : hosts.All fun k h => h.Sound (new k + w.stored k)
  kept : ∀ k h, w.hosts.lookup k = some h → ∃ h', hosts.lookup k = some h' ∧
    ∀ b ∈ w.stored k, h'.memory b = h.memory b

/-- The store has the tables of the shelf, and each table its blocks to itself. -/
structure Shows (cudf : Cudf T) (w : TableStore T) (t : Shelf T) : Prop where
  sound : w.hosts.All fun k h => h.Sound (w.stored k)
  same : ∀ i, i ∈ w.tables ↔ i ∈ t
  holds : ∀ i s table, w.tables.lookup i = some s → t.lookup i = some table →
    s.Holds cudf w.hosts table

theorem Shows.spares (h : Shows cudf w t) : w.Spares w.hosts fun _ => 0 where
  sound k host hk := by
    show host.Sound (0 + w.stored k)
    rw [zero_add]
    exact h.sound k host hk
  kept k host hk := ⟨host, hk, fun _ _ => rfl⟩

/-- One host space changes. -/
theorem Shows.spares_insert {h h' : SharedHost} (hw : Shows cudf w t)
    (hk : w.hosts.lookup k = some h) (hsound : h'.Sound (new k + w.stored k))
    (hkept : ∀ b ∈ w.stored k, h'.memory b = h.memory b)
    (hothers : ∀ k', k' ≠ k → new k' = 0) : w.Spares (w.hosts.insert k h') new where
  sound := by
    refine AList.All.insert_of_ne hsound fun k' host hne hk' => ?_
    rw [hothers k' hne, zero_add]
    exact hw.sound k' host hk'
  kept k' host hk' := by
    by_cases hne : k' = k
    · subst hne
      rw [hk] at hk'
      cases hk'
      exact ⟨h', AList.lookup_insert _, hkept⟩
    · exact ⟨host, (AList.lookup_insert_ne hne).trans hk', fun _ _ => rfl⟩

theorem blocksAt_le_stored (hi : w.tables.lookup i = some s) (k : Nat) :
    s.blocksAt k ≤ w.stored k := by
  unfold stored
  rw [← AList.sumBy_erase (f := fun _ s => StoredTable.blocksAt k s) hi]
  exact Multiset.le_add_right _ _

/-- What tables hold is left alone. -/
theorem Spares.holds (hspares : w.Spares hosts new) (hi : w.tables.lookup i = some s)
    (hs : s.Holds cudf w.hosts table) : s.Holds cudf hosts table := by
  cases s with
  | gpu source => exact hs
  | host k source =>
      obtain ⟨h, hk, hstores⟩ := hs
      obtain ⟨h', hk', hkept⟩ := hspares.kept k h hk
      refine ⟨h', hk', hstores.congr fun b hb => hkept b ?_⟩
      have hblocks : (StoredTable.host k source : StoredTable T).blocksAt k =
          source.hostTable.allocation.blocks := if_pos rfl
      refine Multiset.mem_of_le (blocksAt_le_stored hi k) ?_
      rw [hblocks]
      exact Multiset.mem_coe.mpr hb

/-- No table comes or goes. -/
theorem Shows.idle (hw : Shows cudf w t) (hspares : w.Spares hosts new) :
    Shows cudf ⟨hosts, w.tables⟩ t where
  sound k h hk := (hspares.sound k h hk).mono (Multiset.le_add_left _ _)
  same := hw.same
  holds i s table hi ht := hspares.holds hi (hw.holds i s table hi ht)

theorem Shows.insert (hw : Shows cudf w t) (hspares : w.Spares hosts (s.blocksAt ·))
    (hs : s.Holds cudf hosts table) (hi : i ∉ w.tables) :
    Shows cudf ⟨hosts, w.tables.insert i s⟩ (t.insert i table) where
  sound k h hk := by
    have hstored : stored ⟨hosts, w.tables.insert i s⟩ k = s.blocksAt k + w.stored k :=
      AList.sumBy_insert_new (f := fun _ s => StoredTable.blocksAt k s)
        (AList.lookup_eq_none.mpr hi)
    show h.Sound (stored ⟨hosts, w.tables.insert i s⟩ k)
    rw [hstored]
    exact hspares.sound k h hk
  same j := by
    rw [AList.mem_insert, AList.mem_insert, hw.same j]
  holds j s' table' hj ht := by
    by_cases hne : j = i
    · subst hne
      rw [AList.lookup_insert, Option.some.injEq] at hj ht
      rwa [← hj, ← ht]
    · rw [AList.lookup_insert_ne hne] at hj ht
      exact hspares.holds hj (hw.holds j s' table' hj ht)

theorem Shows.erase (hw : Shows cudf w t) (hi : w.tables.lookup i = some s) :
    Shows cudf ⟨w.hosts, w.tables.erase i⟩ (t.erase i) where
  sound k h hk := by
    refine (hw.sound k h hk).mono ?_
    have hstored : s.blocksAt k + stored ⟨w.hosts, w.tables.erase i⟩ k = w.stored k :=
      AList.sumBy_erase (f := fun _ s => StoredTable.blocksAt k s) hi
    rw [← hstored]
    exact Multiset.le_add_left _ _
  same j := by
    rw [AList.mem_erase, AList.mem_erase, hw.same j]
  holds j s table hj ht :=
    hw.holds j s table (AList.lookup_of_lookup_erase hj).2 (AList.lookup_of_lookup_erase ht).2

theorem Shows.atHost (hw : Shows cudf w t) (k : Nat) {f : SharedHost → SharedHost}
    (hf : ∀ h stored, h.Sound stored →
      (f h).Sound stored ∧ ∀ b ∈ stored, (f h).memory b = h.memory b) :
    Shows cudf (w.atHost k f) t := by
  unfold TableStore.atHost
  cases hk : w.hosts.lookup k with
  | none => exact hw
  | some h =>
      obtain ⟨hsound, hkept⟩ := hf h (w.stored k) (hw.sound k h hk)
      rw [← zero_add (w.stored k)] at hsound
      have hspares : w.Spares (w.hosts.insert k (f h)) fun _ => 0 :=
        hw.spares_insert hk hsound hkept fun _ _ => rfl
      exact hw.idle hspares

/-- A call on the resource of a host space. -/
theorem Shows.atPool (hw : Shows cudf w t) (k : Nat) {f : HostWorld → HostWorld}
    (hf : ∀ w : HostWorld, w.Numbered → Sparing w (f w)) :
    Shows cudf (w.atHost k (·.onPool f)) t :=
  hw.atHost k fun _ _ hs =>
    have ⟨hsound, hsame⟩ := hs.onPool hf
    ⟨hsound, fun b _ => congrFun hsame b⟩

theorem shows_fresh (h : w.Fresh) : Shows cudf w ∅ := by
  obtain ⟨htables, hhosts⟩ := h
  refine ⟨fun k h hk => ?_, fun i => ?_, fun i s table hi => ?_⟩
  · have hstored : w.stored k = 0 := by
      unfold stored
      rw [htables, AList.sumBy_empty]
    show h.Sound (w.stored k)
    rw [hstored]
    exact SharedHost.sound_fresh (hhosts k h hk).1 (hhosts k h hk).2
  · rw [htables]
    exact Iff.rfl
  · rw [htables] at hi
    cases hi

/-! ## Converters -/

/-- The blocks of the table that a converter to the host has made. -/
def landedAt : Except Failure (StoredTable T) → Nat → Multiset Block
  | .ok s => s.blocksAt
  | .error _ => fun _ => 0

/-- What becomes of the host spaces, and the table that is made, if the space of the
target is `h`. -/
theorem Shows.delivered (hw : Shows cudf w t) {h : SharedHost} {after : HostSpace}
    {out : Except Failure HostTableRepresentation} (hk : w.hosts.lookup k = some h)
    (hd : Delivered (cudf.pack table) h.toHostSpace after out) :
    w.Spares (w.hosts.insert k { h with toHostSpace := after })
        (landedAt (T := T) (out.map (.host k))) ∧
      ∀ s, out.map (StoredTable.host k) = .ok s →
        s.Holds cudf (w.hosts.insert k { h with toHostSpace := after }) table := by
  obtain ⟨hsound, hkept⟩ := (hw.sound k h hk).delivered hd
  constructor
  · refine hw.spares_insert hk ?_ hkept ?_
    · cases out with
      | error e => exact hsound
      | ok source =>
          have hblocks : (StoredTable.host k source : StoredTable T).blocksAt k =
              source.hostTable.allocation.blocks := if_pos rfl
          show SharedHost.Sound _ ((StoredTable.host k source : StoredTable T).blocksAt k + _)
          rw [hblocks]
          exact hsound
    · intro k' hne
      cases out with
      | error e => rfl
      | ok source => exact if_neg hne.symm
  · intro s hs
    cases out with
    | error e => cases hs
    | ok source =>
        cases hs
        exact ⟨_, AList.lookup_insert _, hd.stores source rfl⟩

/-- A converter to the host finds the table and delivers it. -/
theorem source_delivers (ndebug : Bool) (hs : s.Holds cudf w.hosts table)
    (upstream : Nat → UInt64 → Except Exception Addr) :
    ∃ source, w.sourceOf s = some source ∧ ∀ target : HostSpace,
      (∀ mr ∈ target.memoryResource, (mr.freeBlocks : Multiset Block) ≤ mr.carved) →
      ∃ after out, source.convert cudf ndebug upstream (source.size cudf).toNat target =
          some (after, out) ∧
        Delivered (cudf.pack table) target after out := by
  cases s with
  | gpu source =>
      have htable : source.table = table := hs
      subst htable
      exact ⟨.gpu source, rfl, fun target hfree => convertGpuToHost_delivers source hfree⟩
  | host k source =>
      obtain ⟨h, hk, hstores⟩ := hs
      refine ⟨.host source h.memory, ?_, fun target hfree =>
        convertHostToHost_delivers hstores hfree⟩
      simp only [sourceOf, hk, Option.map_some]

theorem Shows.convertToHost (ndebug : Bool) (hw : Shows cudf w t) (hs : s.Holds cudf w.hosts table)
    (host : Nat) (upstream : Nat → UInt64 → Except Exception Addr) :
    ∃ hosts out, w.convertToHost cudf ndebug s host upstream = some (⟨hosts, w.tables⟩, out) ∧
      w.Spares hosts (landedAt out) ∧ ∀ s', out = .ok s' → s'.Holds cudf hosts table := by
  obtain ⟨source, hsource, hdelivers⟩ := source_delivers ndebug hs upstream
  cases hhost : w.hosts.lookup host with
  | none =>
      refine ⟨w.hosts, .error .nullDereference, ?_, hw.spares, nofun⟩
      simp only [TableStore.convertToHost, hsource, hhost]
  | some target =>
      obtain ⟨after, out, hcall, hd⟩ :=
        hdelivers target.toHostSpace (hw.sound host target hhost).free_le
      refine ⟨_, _, ?_, hw.delivered hhost hd⟩
      simp only [TableStore.convertToHost, hsource, hhost, hcall, Option.map_some]

/-- A converter to a device returns, and what it makes is of the same table. -/
theorem convertToGpu_returns (ndebug : Bool) (hcudf : cudf.Faithful)
    (hs : s.Holds cudf w.hosts table) (gpu : MemorySpaceId)
    (allocator : UInt64 → Except Exception (Nat → UInt8)) :
    ∃ out, w.convertToGpu cudf ndebug s gpu allocator = some out ∧
      ∀ source, out = .ok source → source.table = table := by
  cases s with
  | gpu source =>
      refine ⟨_, rfl, fun made hmade => ?_⟩
      rw [convertGpuToGpu_ok hmade]
      exact (hcudf source.table).trans hs
  | host k source =>
      obtain ⟨h, hk, hstores⟩ := hs
      obtain ⟨out, hcall, hout⟩ := convertHostToGpu_returns cudf hstores allocator gpu
      refine ⟨out, ?_, fun made hmade => ?_⟩
      · simp only [TableStore.convertToGpu, sourceOf, hk, Option.map_some, hcall]
      · rw [hout made hmade]
        exact hcudf table

/-! ## The store and the shelf -/

theorem Shows.find (hw : Shows cudf w t) (hi : w.tables.lookup i = some s) :
    ∃ table, t.lookup i = some table ∧ s.Holds cudf w.hosts table := by
  obtain ⟨table, ht⟩ :=
    AList.exists_lookup ((hw.same i).mp (AList.mem_of_lookup hi))
  exact ⟨table, ht, hw.holds i s table hi ht⟩

/-- A conversion that comes to its end. -/
theorem Shows.copy {src : Addr} (hw : Shows cudf w t) (hsrc : t.lookup src = some table)
    (hi : i ∉ w.tables) (hspares : w.Spares hosts (s.blocksAt ·))
    (hs : s.Holds cudf hosts table) :
    Shelf.machine.Lawful t [.copy src i] ∧
      Shows cudf ⟨hosts, w.tables.insert i s⟩ (Shelf.machine.run t [.copy src i]) := by
  have hnext : Shelf.machine.run t [.copy src i] = t.insert i table := by
    show Shelf.next t (.copy src i) = _
    simp only [Shelf.next, hsrc, Option.map_some, Option.getD_some]
  rw [hnext]
  exact ⟨⟨⟨AList.mem_of_lookup hsrc, (hw.same i).not.mp hi⟩, trivial⟩,
    hw.insert hspares hs hi⟩

theorem Shows.next_toHost {src host upstream} (hw : Shows cudf w t) (hi : i ∉ w.tables) :
    Shelf.machine.Lawful t (w.amounts cudf ndebug (.toHost src i host upstream)) ∧
      Shows cudf (w.next cudf ndebug (.toHost src i host upstream))
        (Shelf.machine.run t (w.amounts cudf ndebug (.toHost src i host upstream))) := by
  simp only [amounts]
  cases hsrc : w.tables.lookup src with
  | none =>
      have hnext : w.next cudf ndebug (.toHost src i host upstream) = w := by
        simp only [TableStore.next, hsrc, Option.bind_none]
      rw [hnext, if_neg hi]
      exact ⟨trivial, hw⟩
  | some s =>
      obtain ⟨table, ht, hs⟩ := hw.find hsrc
      obtain ⟨hosts, out, hcall, hspares, hmade⟩ :=
        hw.convertToHost ndebug hs host upstream
      cases out with
      | error e =>
          have hnext : w.next cudf ndebug (.toHost src i host upstream) =
              ⟨hosts, w.tables⟩ := by
            simp only [TableStore.next, hsrc, Option.bind_some, hcall]
          rw [hnext, if_neg hi]
          exact ⟨trivial, hw.idle hspares⟩
      | ok s' =>
          have hnext : w.next cudf ndebug (.toHost src i host upstream) =
              ⟨hosts, w.tables.insert i s'⟩ := by
            simp only [TableStore.next, hsrc, Option.bind_some, hcall]
          rw [hnext, if_pos ((AList.mem_insert _).mpr (.inl rfl))]
          exact hw.copy ht hi hspares (hmade s' rfl)

theorem Shows.next_toGpu {src gpu allocator} (hcudf : cudf.Faithful)
    (hw : Shows cudf w t) (hi : i ∉ w.tables) :
    Shelf.machine.Lawful t (w.amounts cudf ndebug (.toGpu src i gpu allocator)) ∧
      Shows cudf (w.next cudf ndebug (.toGpu src i gpu allocator))
        (Shelf.machine.run t (w.amounts cudf ndebug (.toGpu src i gpu allocator))) := by
  simp only [amounts]
  cases hsrc : w.tables.lookup src with
  | none =>
      have hnext : w.next cudf ndebug (.toGpu src i gpu allocator) = w := by
        simp only [TableStore.next, hsrc, Option.bind_none]
      rw [hnext, if_neg hi]
      exact ⟨trivial, hw⟩
  | some s =>
      obtain ⟨table, ht, hs⟩ := hw.find hsrc
      obtain ⟨out, hcall, hmade⟩ :=
        convertToGpu_returns ndebug hcudf hs gpu allocator
      cases out with
      | error e =>
          have hnext : w.next cudf ndebug (.toGpu src i gpu allocator) = w := by
            simp only [TableStore.next, hsrc, Option.bind_some, hcall]
          rw [hnext, if_neg hi]
          exact ⟨trivial, hw⟩
      | ok made =>
          have hnext : w.next cudf ndebug (.toGpu src i gpu allocator) =
              ⟨w.hosts, w.tables.insert i (.gpu made)⟩ := by
            simp only [TableStore.next, hsrc, Option.bind_some, hcall]
          rw [hnext, if_pos ((AList.mem_insert _).mpr (.inl rfl))]
          exact hw.copy ht hi hw.spares (hmade made rfl)

theorem Shows.next_destroy (hw : Shows cudf w t) :
    Shelf.machine.Lawful t (w.amounts cudf ndebug (.destroy i)) ∧
      Shows cudf (w.next cudf ndebug (.destroy i))
        (Shelf.machine.run t (w.amounts cudf ndebug (.destroy i))) := by
  simp only [amounts]
  cases hi : w.tables.lookup i with
  | none =>
      have hnext : w.next cudf ndebug (.destroy i) = w := by
        simp only [TableStore.next, destroy, hi]
      rw [hnext, if_neg (AList.lookup_eq_none.mp hi)]
      exact ⟨trivial, hw⟩
  | some s =>
      have hmem := AList.mem_of_lookup hi
      rw [if_pos hmem]
      refine ⟨⟨(hw.same i).mp hmem, trivial⟩, ?_⟩
      show Shows cudf _ (t.erase i)
      cases s with
      | gpu source =>
          have hnext : w.next cudf ndebug (.destroy i) = ⟨w.hosts, w.tables.erase i⟩ := by
            simp only [TableStore.next, destroy, hi]
          rw [hnext]
          exact hw.erase hi
      | host k source =>
          let w' := w.atHost k (·.giveBack source.hostTable)
          have hw' : Shows cudf w' t :=
            hw.atPool k fun w hn => sparing_giveBack hn source.hostTable.allocation
          have htables : w'.tables = w.tables := by
            unfold w' TableStore.atHost
            split <;> rfl
          have hnext : w.next cudf ndebug (.destroy i) = ⟨w'.hosts, w'.tables.erase i⟩ := by
            rw [htables]
            simp only [TableStore.next, destroy, hi]
            rfl
          rw [hnext]
          exact hw'.erase (htables ▸ hi)

/-- One call. -/
theorem Shows.next (hcudf : cudf.Faithful)
    (hw : Shows cudf w t) {op : StoreOp T} (hop : w.Proper op) :
    Shelf.machine.Lawful t (w.amounts cudf ndebug op) ∧
      Shows cudf (w.next cudf ndebug op) (Shelf.machine.run t (w.amounts cudf ndebug op)) := by
  cases op with
  | create i table gpu =>
      have hi : i ∉ w.tables := hop
      exact ⟨⟨(hw.same i).not.mp hi, trivial⟩, hw.insert hw.spares rfl hi⟩
  | toHost src i host upstream => exact hw.next_toHost hop
  | toGpu src i gpu allocator => exact hw.next_toGpu hcudf hop
  | destroy i => exact hw.next_destroy
  | allocate host totalBytes res upstream =>
      exact ⟨trivial, hw.atPool host fun w hn => sparing_allocate hn totalBytes res upstream⟩
  | write host id contents =>
      exact ⟨trivial, hw.atHost host fun _ _ hs => hs.write id contents⟩
  | call host op =>
      refine ⟨trivial, hw.atPool host fun w hn => sparing_next hn ?_⟩
      rintro n res upstream rfl
      exact hop

/-- The shelf simulates the store. -/
theorem simulates (hcudf : cudf.Faithful) (ndebug : Bool) :
    (machine cudf ndebug).Simulates Shelf.machine (amounts cudf ndebug) (Shows cudf) where
  start _ hw := ⟨∅, rfl, shows_fresh hw⟩
  step _ _ _ hw hop := hw.next hcudf hop

theorem yields_of_holds (hcudf : cudf.Faithful)
    (hs : s.Holds cudf w.hosts table) : w.Yields cudf ndebug table s := by
  cases s with
  | gpu source => exact hs
  | host k source =>
      intro gpu allocator halloc
      obtain ⟨h, hk, hstores⟩ := hs
      have hfuel : (cudf.pack table).gpuData.bytes.length ≤
          source.hostTable.dataSize.toNat := by
        rw [hstores.dataSize, (cudf.pack table).gpuData.size_toNat]
      have hcall : convertHostToGpu cudf allocator _ source h.memory gpu = _ :=
        convertHostToGpu_eq halloc hstores hfuel gpu
      rw [hcudf table] at hcall
      simp only [TableStore.convertToGpu, sourceOf, hk, Option.map_some, hcall]

theorem Shows.keeps (hcudf : cudf.Faithful) (hw : Shows cudf w t) : w.Keeps cudf ndebug t where
  same := hw.same
  yields i s table hi ht := yields_of_holds hcudf (hw.holds i s table hi ht)
  returns i s hi := by
    obtain ⟨table, ht, hs⟩ := hw.find hi
    refine ⟨fun host upstream => ?_, fun gpu allocator => ?_⟩
    · obtain ⟨hosts, out, hcall, -⟩ := hw.convertToHost ndebug hs host upstream
      rw [hcall, Option.isSome_some]
    · obtain ⟨out, hcall, -⟩ := convertToGpu_returns ndebug hcudf hs gpu allocator
      rw [hcall, Option.isSome_some]

/-- Two host spaces, with blocks of 16 bytes and of 64. -/
def twoHosts : TableStore DeviceBuffer where
  hosts := ((∅ : Table Nat SharedHost).insert 0 ⟨freshHost 0 16, ∅, 0⟩).insert 1
    ⟨freshHost 1 64, ∅, 0⟩
  tables := ∅

/-- A table of 40 bytes. -/
def sevens : DeviceBuffer := ⟨List.replicate 40 7, by decide⟩

/-- A table goes to one host space and on to the other, while the blocks of both are
allocated and written. -/
def movingOps : List (StoreOp DeviceBuffer) :=
  [.create 0x10 sevens ⟨.GPU, 0⟩,
    .allocate 0 20 none fun _ _ => .ok 0x2000,
    .toHost 0x10 0x20 0 fun _ _ => .ok 0x2000, .destroy 0x10, .write 0 0 fun _ _ => 9,
    .toHost 0x20 0x30 1 fun _ _ => .ok 0x3000, .destroy 0x20,
    .allocate 1 100 none fun _ _ => .ok 0x3000, .write 1 0 fun _ _ => 9]

theorem fresh_twoHosts : twoHosts.Fresh := by
  refine ⟨rfl, (AList.all_empty.insert ?_).insert ?_⟩
  · exact ⟨rfl, fun _ hmr => ⟨_, _, _, _, _, (Option.some.inj hmr).symm⟩⟩
  · exact ⟨rfl, fun _ hmr => ⟨_, _, _, _, _, (Option.some.inj hmr).symm⟩⟩

end TableStore

end CuCascade.Data

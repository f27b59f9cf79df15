import Mathlib.Data.List.Induction
import CuCascade.Memory.ManagerConstruction
import CuCascade.Proofs.HostSelection

/-!
# The lookup tables of a manager

The lists that `build_lookup_tables` appends to always agree: each space is in
the list of all of them and in the list of its tier, once and in order, and so
the sums over the tiers add up to the sums over everything. The table by id has
one place for each id. It leads to every space exactly when no two of them have
the same id, and nothing in the constructor asks for that: of two disks with one
id only the later can be found.
-/

namespace CuCascade.Memory

namespace LookupTables

variable {ids : List MemorySpaceId}

theorem build_append (ids : List MemorySpaceId) (id : MemorySpaceId) :
    build (ids ++ [id]) = (build ids).enter ids.length id := by
  simp [build, List.zipIdx_append, List.foldl_append]

/-- The lists of all spaces. -/
theorem views_build (ids : List MemorySpaceId) :
    (build ids).memorySpaceViews = List.range ids.length ∧
      (build ids).constMemorySpaceViews = List.range ids.length := by
  induction ids using List.reverseRecOn with
  | nil => exact ⟨rfl, rfl⟩
  | append_singleton ids id ih =>
      rw [build_append, List.length_append, List.length_singleton, List.range_succ]
      simp only [enter, ih, and_self]

/-- The positions of the ids that are in a tier. -/
def inTier (ids : List MemorySpaceId) (tier : Tier) : List Nat :=
  (List.range ids.length).filter fun i => (ids[i]?).map (·.tier) = some tier

theorem inTier_append (ids : List MemorySpaceId) (id : MemorySpaceId) (tier : Tier) :
    inTier (ids ++ [id]) tier =
      inTier ids tier ++ if id.tier = tier then [ids.length] else [] := by
  have hprefix : (List.range ids.length).filter
      (fun i => ((ids ++ [id])[i]?).map (·.tier) = some tier) = inTier ids tier := by
    refine List.filter_congr fun i hi => ?_
    rw [List.getElem?_append_left (List.mem_range.mp hi)]
  rw [inTier, List.length_append, List.length_singleton, List.range_succ,
    List.filter_append, hprefix, List.filter_singleton]
  simp

theorem lookup_pushBack (t : Table Tier (List Nat)) (tier tier' : Tier) (this : Nat) :
    ((pushBack t tier this).lookup tier').getD [] =
      (t.lookup tier').getD [] ++ if tier = tier' then [this] else [] := by
  unfold pushBack
  by_cases htier : tier = tier'
  · subst htier
    rw [AList.lookup_insert, if_pos rfl, Option.getD_some]
  · rw [AList.lookup_insert_ne (Ne.symm htier), if_neg htier, List.append_nil]

/-- The lists of the tiers. -/
theorem tiers_build (ids : List MemorySpaceId) (tier : Tier) :
    ((build ids).tierToMemorySpaces.lookup tier).getD [] = inTier ids tier ∧
      ((build ids).constTierToMemorySpaces.lookup tier).getD [] = inTier ids tier := by
  induction ids using List.reverseRecOn with
  | nil => exact ⟨rfl, rfl⟩
  | append_singleton ids id ih =>
      rw [build_append, inTier_append]
      simp only [enter, lookup_pushBack, ih, and_self]

/-- The table by id leads to the last space of each id. -/
theorem lookup_build (ids : List MemorySpaceId) (id : MemorySpaceId) :
    (build ids).memorySpaceLookup.lookup id =
      (ids.zipIdx.reverse.find? fun e => e.1 = id).map (·.2) := by
  have hproj : ∀ (l : List (MemorySpaceId × Nat)) (t : LookupTables),
      (l.foldl (fun t e => t.enter e.2 e.1) t).memorySpaceLookup =
        l.foldl (fun t e => t.insert e.1 e.2) t.memorySpaceLookup := by
    intro l
    induction l with
    | nil => exact fun _ => rfl
    | cons e l ih => exact fun t => ih (t.enter e.2 e.1)
  rw [build, hproj]
  exact AList.lookup_foldl_insert _ _ ids.zipIdx id

theorem mem_of_lookup_build {id : MemorySpaceId} {i : Nat}
    (h : (build ids).memorySpaceLookup.lookup id = some i) : ids[i]? = some id := by
  rw [lookup_build, Option.map_eq_some_iff] at h
  obtain ⟨e, hfind, rfl⟩ := h
  have hid : e.1 = id := by simpa using List.find?_some hfind
  have hmem := List.mem_reverse.mp (List.mem_of_find?_eq_some hfind)
  rw [← hid]
  exact List.mem_zipIdx_iff_getElem?.mp hmem

theorem isSome_lookup_build {id : MemorySpaceId} (h : id ∈ ids) :
    ∃ i, (build ids).memorySpaceLookup.lookup id = some i := by
  obtain ⟨i, hi⟩ := List.mem_iff_getElem?.mp h
  cases hfind : ids.zipIdx.reverse.find? fun e => e.1 = id with
  | none =>
      have hnone := List.find?_eq_none.mp hfind (id, i)
        (List.mem_reverse.mpr (List.mem_zipIdx_iff_getElem?.mpr hi))
      simp at hnone
  | some e => exact ⟨e.2, by rw [lookup_build, hfind]; rfl⟩

/-- Every space is found at its id exactly when the ids are distinct. -/
theorem lookup_build_iff :
    (∀ i id, ids[i]? = some id → (build ids).memorySpaceLookup.lookup id = some i) ↔
      ids.Nodup := by
  constructor
  · intro h
    refine List.pairwise_iff_getElem.mpr fun i j hi hj hlt heq => ?_
    have hfirst := h i _ (List.getElem?_eq_getElem hi)
    have hsecond := h j _ (List.getElem?_eq_getElem hj)
    rw [heq, hsecond, Option.some.injEq] at hfirst
    omega
  · intro hnodup i id hi
    obtain ⟨j, hj⟩ := isSome_lookup_build (List.mem_of_getElem? hi)
    have hsame := (mem_of_lookup_build hj).trans hi.symm
    have hlt : j < ids.length := (List.getElem?_eq_some_iff.mp (mem_of_lookup_build hj)).1
    rwa [(List.getElem?_inj hlt hnodup).mp hsame] at hj

end LookupTables

namespace ConstructedManager

variable {M : Type} {parts : SpaceParts M} {configs : List (Option (MemorySpaceConfig M))}
  {m : ConstructedManager}

/-! ## The spaces -/

/-- The ids of the spaces, in order. -/
def ids (m : ConstructedManager) : List MemorySpaceId := m.memorySpaces.map (·.id)

/-- What a space is made of, for each kind of configuration. -/
theorem makeSpace_spec {config : MemorySpaceConfig M} {s : ManagedSpace}
    (h : config.makeSpace parts = .ok s) :
    s.id = config.id ∧
      match config with
      | .gpu config => s.reservationAllocator = .gpu
          (.fresh (config.reservationLimit.getD parts.undefinedSize) config.memoryCapacity)
      | .host config => ∃ pools, s.reservationAllocator = .host
          (.create (config.reservationLimit.getD parts.undefinedSize) config.memoryCapacity
            config.blockSize config.poolSize pools)
      | .disk config => s.reservationAllocator = .disk
          (.fresh (config.reservationLimit.getD parts.undefinedSize)) := by
  cases config with
  | gpu config =>
      rw [MemorySpaceConfig.makeSpace] at h
      obtain ⟨present, -, h⟩ := ReservationManagerConfigurator.exists_of_bind_ok h
      obtain ⟨-, -, h⟩ := ReservationManagerConfigurator.exists_of_bind_ok h
      obtain ⟨-, -, h⟩ := ReservationManagerConfigurator.exists_of_bind_ok h
      cases h
      exact ⟨rfl, rfl⟩
  | host config =>
      rw [MemorySpaceConfig.makeSpace] at h
      obtain ⟨present, -, h⟩ := ReservationManagerConfigurator.exists_of_bind_ok h
      obtain ⟨-, -, h⟩ := ReservationManagerConfigurator.exists_of_bind_ok h
      obtain ⟨pools, -, h⟩ := ReservationManagerConfigurator.exists_of_bind_ok h
      cases h
      exact ⟨rfl, pools, rfl⟩
  | disk config =>
      rw [MemorySpaceConfig.makeSpace] at h
      split at h
      · cases h
      · cases h
        exact ⟨rfl, rfl⟩

theorem makeSpace_some {config : Option (MemorySpaceConfig M)} {s : ManagedSpace}
    (h : makeSpace parts config = .ok s) : config.map (·.id) = some s.id := by
  cases config with
  | none => cases h
  | some config => rw [Option.map_some, (makeSpace_spec h).1]

/-- What the constructor has made: the spaces of the configurations, in tables. -/
theorem create_parts (h : create parts configs = .ok m) :
    configs.map (Option.map (·.id)) = m.ids.map some ∧ m.tables = .build m.ids := by
  rw [create] at h
  split at h
  · cases h
  · cases hspaces : configs.mapM (makeSpace parts) with
    | error e =>
        rw [hspaces] at h
        cases h
    | ok spaces =>
        rw [hspaces] at h
        cases h
        have hmade := ReservationManagerConfigurator.forall₂_of_mapM_ok hspaces
        refine ⟨?_, rfl⟩
        rw [ids, List.map_map]
        exact (ReservationManagerConfigurator.map_eq_of_forall₂ hmade fun config s hs =>
          (makeSpace_some hs).symm).symm

theorem tier_of_create (h : create parts configs = .ok m) {id : MemorySpaceId}
    (hid : id ∈ m.ids) : id.tier ≠ .SIZE := by
  have hmem : some id ∈ configs.map (Option.map (·.id)) := by
    rw [(create_parts h).1]
    exact List.mem_map_of_mem hid
  obtain ⟨config, -, hconfig⟩ := List.mem_map.mp hmem
  obtain ⟨config, rfl, rfl⟩ := Option.map_eq_some_iff.mp hconfig
  cases config <;> simp [MemorySpaceConfig.id]

/-! ## Sums -/

theorem sumOf_cons (read : ManagedSpace → UInt64) (s : ManagedSpace)
    (spaces : List ManagedSpace) :
    sumOf read (s :: spaces) = read s + sumOf read spaces := by
  have hstart : ∀ (spaces : List ManagedSpace) (a b : UInt64),
      spaces.foldl (fun total space => total + read space) (a + b) =
        a + spaces.foldl (fun total space => total + read space) b := by
    intro spaces
    induction spaces with
    | nil => exact fun _ _ => rfl
    | cons s spaces ih =>
        intro a b
        rw [List.foldl_cons, List.foldl_cons, UInt64.add_assoc, ih]
  have hfold := hstart spaces (read s) 0
  rw [UInt64.add_zero] at hfold
  rw [sumOf, List.foldl_cons, UInt64.zero_add]
  exact hfold

/-- What is added up tier by tier is the whole, around the end of `size_t` as well. -/
theorem sumOf_tiers (read : ManagedSpace → UInt64) (spaces : List ManagedSpace)
    (h : ∀ s ∈ spaces, s.id.tier ≠ .SIZE) :
    sumOf read (spaces.filter fun s => s.id.tier = .GPU) +
        sumOf read (spaces.filter fun s => s.id.tier = .HOST) +
        sumOf read (spaces.filter fun s => s.id.tier = .DISK) = sumOf read spaces := by
  induction spaces with
  | nil => rfl
  | cons s spaces ih =>
      have hrest := ih fun s' hs' => h s' (List.mem_cons_of_mem s hs')
      rw [sumOf_cons, ← hrest]
      cases htier : s.id.tier with
      | GPU =>
          simp only [List.filter_cons, htier, decide_true, if_true, reduceCtorEq,
            decide_false, Bool.false_eq_true, if_false, sumOf_cons, UInt64.add_assoc]
      | HOST =>
          simp only [List.filter_cons, htier, decide_true, if_true, reduceCtorEq,
            decide_false, Bool.false_eq_true, if_false, sumOf_cons]
          ac_rfl
      | DISK =>
          simp only [List.filter_cons, htier, decide_true, if_true, reduceCtorEq,
            decide_false, Bool.false_eq_true, if_false, sumOf_cons]
          ac_rfl
      | SIZE => exact absurd htier (h s List.mem_cons_self)

/-- The list of a tier leads to the spaces that are in it. -/
theorem filterMap_inTier (spaces : List ManagedSpace) (tier : Tier) :
    (LookupTables.inTier (spaces.map (·.id)) tier).filterMap (spaces[·]?) =
      spaces.filter fun s => s.id.tier = tier := by
  induction spaces using List.reverseRecOn with
  | nil => rfl
  | append_singleton spaces s ih =>
      have hprefix : (LookupTables.inTier (spaces.map (·.id)) tier).filterMap
          ((spaces ++ [s])[·]?) = spaces.filter fun s => s.id.tier = tier := by
        rw [← ih]
        refine List.filterMap_congr fun i hi => ?_
        have hlt := List.mem_range.mp (List.mem_filter.mp hi).1
        rw [List.length_map] at hlt
        rw [List.getElem?_append_left hlt]
      rw [List.map_append, List.map_singleton, LookupTables.inTier_append,
        List.filterMap_append, hprefix, List.filter_append]
      by_cases htier : s.id.tier = tier <;> simp [htier]

/-! ## Agreement -/

/-- What the tables of a manager say is the same in all of them. -/
structure TablesAgree (m : ConstructedManager) : Prop where
  all : m.getAllMemorySpaces = List.range m.memorySpaces.length
  own : ∀ i ∈ m.getAllMemorySpaces, ∀ s, m.memorySpaces[i]? = some s →
    m.getMemorySpace s.id.tier s.id.deviceId = some i
  perTier : ∀ tier, m.getMemorySpacesForTier tier = m.getAllMemorySpaces.filter fun i =>
    (m.memorySpaces[i]?).map (·.id.tier) = some tier
  notConst : m.getMutableAllMemorySpaces = m.getAllMemorySpaces ∧
    ∀ tier, m.getMutableMemorySpacesForTier tier = m.getMemorySpacesForTier tier
  available : m.getAvailableMemoryForTier .GPU + m.getAvailableMemoryForTier .HOST +
    m.getAvailableMemoryForTier .DISK = m.getTotalAvailableMemory
  reserved : m.getTotalReservedMemoryForTier .GPU + m.getTotalReservedMemoryForTier .HOST +
    m.getTotalReservedMemoryForTier .DISK = m.getTotalReservedMemory
  active : m.getActiveReservationCountForTier .GPU +
    m.getActiveReservationCountForTier .HOST + m.getActiveReservationCountForTier .DISK =
      m.getActiveReservationCount
  specific : ∀ i ∈ m.getAllMemorySpaces, ∀ s, m.memorySpaces[i]? = some s →
    m.strategic.getCandidates (.specificMemorySpace s.id) = [i]

/-- The sums over the tiers, with the limiters in any state. -/
theorem sums_agree (htables : m.tables = .build m.ids)
    (htiers : ∀ id ∈ m.ids, id.tier ≠ .SIZE) (read : ManagedSpace → UInt64) :
    sumOf read (m.deref (m.getMemorySpacesForTier .GPU)) +
        sumOf read (m.deref (m.getMemorySpacesForTier .HOST)) +
        sumOf read (m.deref (m.getMemorySpacesForTier .DISK)) =
      sumOf read m.memorySpaces := by
  have hderef : ∀ tier, m.deref (m.getMemorySpacesForTier tier) =
      m.memorySpaces.filter fun s => s.id.tier = tier := by
    intro tier
    rw [getMemorySpacesForTier, htables, (LookupTables.tiers_build m.ids tier).2]
    exact filterMap_inTier m.memorySpaces tier
  rw [hderef, hderef, hderef]
  exact sumOf_tiers read m.memorySpaces fun s hs => htiers s.id (List.mem_map_of_mem hs)

/-- Tables of distinct ids agree, and tables that agree are of distinct ids. -/
theorem tablesAgree_iff (htables : m.tables = .build m.ids)
    (htiers : ∀ id ∈ m.ids, id.tier ≠ .SIZE) : m.TablesAgree ↔ m.ids.Nodup := by
  have hall : m.getAllMemorySpaces = List.range m.memorySpaces.length := by
    rw [getAllMemorySpaces, htables, (LookupTables.views_build m.ids).2, ids,
      List.length_map]
  have hids : ∀ (i : Nat) (s : ManagedSpace), m.memorySpaces[i]? = some s →
      m.ids[i]? = some s.id := by
    intro i s hs
    rw [ids, List.getElem?_map, hs, Option.map_some]
  rw [← LookupTables.lookup_build_iff, ← htables]
  constructor
  · intro h i id hi
    rw [ids, List.getElem?_map, Option.map_eq_some_iff] at hi
    obtain ⟨s, hs, rfl⟩ := hi
    have hlt := (List.getElem?_eq_some_iff.mp hs).1
    exact h.own i (hall ▸ List.mem_range.mpr hlt) s hs
  · intro h
    refine ⟨hall, fun i _ s hs => h i s.id (hids i s hs), fun tier => ?_, ⟨?_, fun tier => ?_⟩,
      sums_agree htables htiers _, sums_agree htables htiers _, sums_agree htables htiers _,
      fun i _ s hs => ?_⟩
    · rw [hall, getMemorySpacesForTier, htables, (LookupTables.tiers_build m.ids tier).2,
        LookupTables.inTier, ids, List.length_map]
      refine List.filter_congr fun i _ => ?_
      rw [List.getElem?_map, Option.map_map]
      rfl
    · rw [getMutableAllMemorySpaces, getAllMemorySpaces, htables,
        (LookupTables.views_build m.ids).1, (LookupTables.views_build m.ids).2]
    · rw [getMutableMemorySpacesForTier, getMemorySpacesForTier, htables,
        (LookupTables.tiers_build m.ids tier).1, (LookupTables.tiers_build m.ids tier).2]
    · have hfound := h i s.id (hids i s hs)
      show (m.tables.memorySpaceLookup.lookup s.id).toList = [i]
      rw [hfound]
      rfl

/-- The tables of a manager agree, at any time of its life, exactly when the
configurations it was made of have distinct ids. -/
theorem create_tablesAgree_iff (h : create parts configs = .ok m) (now : List ManagedSpace)
    (hnow : now.map (·.id) = m.memorySpaces.map (·.id)) :
    TablesAgree { m with memorySpaces := now } ↔
      (configs.map (Option.map (·.id))).Nodup := by
  obtain ⟨hconfigs, htables⟩ := create_parts h
  have hids : ids { m with memorySpaces := now } = m.ids := hnow
  rw [hconfigs, List.nodup_map_iff (Option.some_injective _), ← hids]
  refine tablesAgree_iff ?_ fun id hid => ?_
  · rw [hids]
    exact htables
  · rw [hids] at hid
    exact tier_of_create h hid

/-- The strategies see the manager that the requests are made on. -/
theorem strategic_create (h : create parts configs = .ok m) :
    m.strategic = .ofSpaces (m.memorySpaces.map (·.toMemorySpace)) := by
  have hfold : ∀ (l : List (MemorySpace × Nat)) (t : LookupTables) (all : Spaces),
      l.foldl (fun m e => m.enter e.2 e.1)
          ⟨all, t.memorySpaceLookup, t.tierToMemorySpaces⟩ =
        let t := (l.map fun e => (e.1.id, e.2)).foldl (fun t e => t.enter e.2 e.1) t
        (⟨all, t.memorySpaceLookup, t.tierToMemorySpaces⟩ : MemoryReservationManager) := by
    intro l
    induction l with
    | nil => exact fun _ _ => rfl
    | cons e l ih => exact fun t all => ih (t.enter e.2 e.1.id) all
  have hzip : ((m.memorySpaces.map (·.toMemorySpace)).zipIdx.map fun e => (e.1.id, e.2)) =
      m.ids.zipIdx := by
    rw [ids, List.zipIdx_map, List.zipIdx_map, List.map_map]
    rfl
  have hmade := hfold (m.memorySpaces.map (·.toMemorySpace)).zipIdx .cleared
    (m.memorySpaces.map (·.toMemorySpace))
  rw [hzip] at hmade
  rw [strategic, (create_parts h).2]
  exact hmade.symm

/-- What the configurator builds has tables that agree when the mounting points have
distinct ids. -/
theorem create_build_iff {c : ReservationManagerConfigurator M}
    {totalMemory : Int → UInt64} {topology : SystemTopologyInfo}
    {built : List (MemorySpaceConfig M)} (hn : 1 ≤ c.numGpus)
    (hbuild : c.build totalMemory topology = .ok built)
    (h : create parts (built.map some) = .ok m) :
    m.TablesAgree ↔ (c.diskMountingPoints.map (·.1)).Nodup := by
  obtain ⟨hconfigs, htables⟩ := create_parts h
  have hids : built.map (·.id) = m.ids := by
    rw [List.map_map] at hconfigs
    refine List.map_injective_iff.mpr (Option.some_injective _) ?_
    rw [← hconfigs, List.map_map]
    rfl
  rw [tablesAgree_iff htables fun id hid => tier_of_create h hid, ← hids]
  exact ReservationManagerConfigurator.nodup_build_iff hn hbuild

/-- Parts that are always there. -/
def plainParts : SpaceParts Unit where
  factory := fun _ => .ok true
  streamPool := fun _ => .ok ()
  pool := fun _ i _ => .ok i
  undefinedSize := 0

/-- Two disks with ids of their own. -/
def twoDisks : List (Option (MemorySpaceConfig Unit)) :=
  [some (.disk ⟨0, 100, "/mnt/a"⟩), some (.disk ⟨1, 50, "/mnt/b"⟩)]

theorem twoDisks_agree :
    ∃ m, create plainParts twoDisks = .ok m ∧
      TablesAgree { m with memorySpaces := m.memorySpaces } := by
  have hmade : ∃ m, create plainParts twoDisks = .ok m := ⟨_, rfl⟩
  obtain ⟨m, hm⟩ := hmade
  exact ⟨m, hm, (create_tablesAgree_iff hm m.memorySpaces rfl).mpr (by decide)⟩

/-- Two mounting points that go by one id, next to a GPU and its host. -/
def sharedId : Except Failure (ReservationManagerConfigurator Unit) := do
  let c ← ReservationManagerConfigurator.untouched.setDiskMountingPoint 0 100 "/mnt/a"
  c.setDiskMountingPoint 0 50 "/mnt/b"

/-- The first of them is in all the lists, and no lookup leads to it. -/
theorem disk_shadowed :
    ∃ c configs m, sharedId = .ok c ∧
      c.build (fun _ => ReservationManagerConfigurator.gib 16)
        ReservationManagerConfigurator.oneGpu = .ok configs ∧
      create plainParts (configs.map some) = .ok m ∧
      m.getMemorySpacesForTier .DISK = [2, 3] ∧
      m.getMemorySpace .DISK 0 = some 3 ∧ ¬ m.TablesAgree := by
  refine ⟨_, _, _, rfl, rfl, rfl, by decide, by decide, fun h => ?_⟩
  have hfound := h.own 2 (by decide) _ rfl
  revert hfound
  decide

end ConstructedManager

end CuCascade.Memory

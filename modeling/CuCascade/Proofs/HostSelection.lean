import CuCascade.Proofs.ReservationLimit

/-!
# The hosts follow the GPUs

`build` takes the first GPUs of the topology by their ids, and makes hosts for
them: one for each GPU, or one for each NUMA node that a GPU is on. The set that
the second loop carries keeps the first of each node and drops the rest, which is
what `eraseDups` does.

The ids of a tier are then distinct, and in total the hosts have what was set,
less a remainder of the division.
-/

namespace CuCascade.Memory

/-! ## The topology -/

/-- The NUMA node of a device: of the last GPU that goes by its id. -/
def SystemTopologyInfo.numaNode (topology : SystemTopologyInfo) (deviceId : Int) :
    Option Int :=
  (topology.gpus.reverse.find? fun gpu => gpu.id.toInt32.toInt = deviceId).map
    (·.numaNode)

/-! ## The tiers of a list of configurations -/

namespace MemorySpaceConfig

variable {M : Type}

/-- The configurations of a tier. -/
def ofTier (tier : Tier) (configs : List (MemorySpaceConfig M)) :
    List (MemorySpaceConfig M) :=
  configs.filter fun config => config.tier = tier

/-- Their device ids. -/
def deviceIds (tier : Tier) (configs : List (MemorySpaceConfig M)) : List Int :=
  (ofTier tier configs).map fun config => config.id.deviceId

/-- Their capacities in total, as a number. -/
def totalCapacity (tier : Tier) (configs : List (MemorySpaceConfig M)) : Nat :=
  ((ofTier tier configs).map fun config => config.memoryCapacity.toNat).sum

end MemorySpaceConfig

namespace ReservationManagerConfigurator

variable {M : Type} {c : ReservationManagerConfigurator M}
  {totalMemory : Int → UInt64} {topology : SystemTopologyInfo} {gpus : List GpuInfo}
  {configs : List (MemorySpaceConfig M)}

/-! ## The GPUs -/

theorem lookup_availableGpus (deviceId : Int) :
    (availableGpus totalMemory topology).lookup deviceId =
      (topology.numaNode deviceId).map fun node => (totalMemory deviceId, node) := by
  unfold availableGpus SystemTopologyInfo.numaNode
  rw [AList.lookup_foldl_insert]
  cases hfind : topology.gpus.reverse.find? fun gpu => gpu.id.toInt32.toInt = deviceId with
  | none => rfl
  | some gpu =>
      have hid : gpu.id.toInt32.toInt = deviceId := by
        simpa using List.find?_some hfind
      rw [← hid]
      rfl

theorem findGpu_eq_ok {gpuId : Int} {info : GpuInfo}
    (h : findGpu (availableGpus totalMemory topology) gpuId = .ok info) :
    info.spaceId = gpuId ∧ info.hwId = gpuId ∧
      topology.numaNode gpuId = some info.numaId := by
  rw [findGpu, lookup_availableGpus] at h
  cases hnode : topology.numaNode gpuId with
  | none =>
      rw [hnode] at h
      cases h
  | some node =>
      rw [hnode] at h
      cases h
      exact ⟨rfl, rfl, rfl⟩

/-- What is read off two lists that a loop relates turn by turn. -/
theorem map_eq_of_forall₂ {α β γ : Type} {R : α → β → Prop} {f : α → γ} {g : β → γ}
    {l : List α} {l' : List β} (h : List.Forall₂ R l l')
    (hR : ∀ a b, R a b → g b = f a) : l'.map g = l.map f := by
  induction h with
  | nil => rfl
  | cons hab _ ih => rw [List.map_cons, List.map_cons, hR _ _ hab, ih]

/-- The GPUs are the ones with the first ids, in order, each with its node. -/
theorem extractGpuIds_spec (hn : 1 ≤ c.numGpus)
    (hgpus : c.extractGpuIds totalMemory topology = .ok gpus) :
    gpus.map (·.spaceId) = (List.range c.numGpus.toNat).map Int.ofNat ∧
      gpus.map (fun gpu => some gpu.numaId) =
        (List.range c.numGpus.toNat).map fun i => topology.numaNode (Int.ofNat i) := by
  rw [extractGpuIds] at hgpus
  split at hgpus
  · cases hgpus
  · have hne : c.numGpus ≠ 0 := by
      intro hzero
      rw [hzero] at hn
      exact absurd hn (by decide)
    rw [if_neg hne] at hgpus
    have hmade := forall₂_of_mapM_ok hgpus
    exact ⟨map_eq_of_forall₂ hmade fun _ _ h => (findGpu_eq_ok h).1,
      map_eq_of_forall₂ hmade fun _ _ h => (findGpu_eq_ok h).2.2.symm⟩

/-! ## The hosts -/

/-- The loop over the NUMA nodes keeps the first of each that is not in the set. -/
theorem map_hostPerNuma (gpus : List GpuInfo) (hostIds : List Int) :
    (hostPerNuma gpus hostIds).map (·.spaceId) =
      ((gpus.map (·.numaId)).filter (· ∉ hostIds)).eraseDups := by
  induction gpus generalizing hostIds with
  | nil => rfl
  | cons gpu gpus ih =>
      by_cases hseen : gpu.numaId ∈ hostIds
      · rw [hostPerNuma, if_pos hseen, ih]
        simp [hseen]
      · rw [hostPerNuma, if_neg hseen, List.map_cons, ih, List.map_cons,
          List.filter_cons_of_pos (by simpa using hseen), List.eraseDups_cons,
          List.filter_filter]
        congr 2
        refine List.filter_congr fun node _ => ?_
        by_cases hnode : node = gpu.numaId <;> simp [hnode]

theorem nodup_eraseDups {α : Type} [DecidableEq α] (l : List α) : l.eraseDups.Nodup := by
  induction h : l.length using Nat.strong_induction_on generalizing l with
  | _ n ih =>
      cases l with
      | nil => exact List.nodup_nil
      | cons a l =>
          rw [List.eraseDups_cons]
          refine List.nodup_cons.mpr ⟨?_, ih _ ?_ _ rfl⟩
          · simp
          · have hle := List.length_filter_le (fun b => !b == a) l
            rw [← h]
            exact Nat.lt_succ_of_le hle

/-- The ids of the hosts, from those of the GPUs and their nodes. -/
theorem map_extractHostIds (gpus : List GpuInfo) :
    (c.extractHostIds gpus).map (·.spaceId) =
      match c.hostCreationPolicy with
      | .bindHostToGpuId => gpus.map (·.spaceId)
      | .bindCpuToGpuNuma => (gpus.map (·.numaId)).eraseDups := by
  unfold extractHostIds
  cases c.hostCreationPolicy with
  | bindHostToGpuId => simp [Function.comp_def]
  | bindCpuToGpuNuma => simp [map_hostPerNuma]

theorem nodup_extractHostIds (h : (gpus.map (·.spaceId)).Nodup) :
    ((c.extractHostIds gpus).map (·.spaceId)).Nodup := by
  rw [map_extractHostIds]
  cases c.hostCreationPolicy with
  | bindHostToGpuId => exact h
  | bindCpuToGpuNuma => exact nodup_eraseDups _

/-- There are no more hosts than GPUs. -/
theorem length_hostPerNuma_le (gpus : List GpuInfo) (hostIds : List Int) :
    (hostPerNuma gpus hostIds).length ≤ gpus.length := by
  induction gpus generalizing hostIds with
  | nil => exact Nat.le_refl 0
  | cons gpu gpus ih =>
      rw [hostPerNuma]
      split
      · exact Nat.le_succ_of_le (ih _)
      · exact Nat.succ_le_succ (ih _)

theorem length_extractHostIds_le (gpus : List GpuInfo) :
    (c.extractHostIds gpus).length ≤ gpus.length := by
  unfold extractHostIds
  cases c.hostCreationPolicy with
  | bindHostToGpuId => simp
  | bindCpuToGpuNuma => exact length_hostPerNuma_le gpus []

theorem length_extractHostIds_pos {gpus : List GpuInfo} (h : 1 ≤ gpus.length) :
    1 ≤ (c.extractHostIds gpus).length := by
  obtain ⟨gpu, gpus, rfl⟩ := List.exists_cons_of_length_pos h
  unfold extractHostIds
  cases c.hostCreationPolicy with
  | bindHostToGpuId => simp
  | bindCpuToGpuNuma => simp [hostPerNuma]

/-! ## The configurations -/

theorem gpuConfig_deviceId {info : GpuInfo} {config : GpuMemorySpaceConfig M}
    (h : c.gpuConfig info = .ok config) : config.deviceId = info.spaceId := by
  rw [gpuConfig] at h
  obtain ⟨capacity, -, h⟩ := exists_of_bind_ok h
  obtain ⟨fraction, -, h⟩ := exists_of_bind_ok h
  cases h
  rfl

theorem hostConfig_numaId {perHost : UInt64} {info : HostInfo}
    {config : HostMemorySpaceConfig M} (h : c.hostConfig perHost info = .ok config) :
    config.numaId = info.spaceId := by
  rw [hostConfig] at h
  obtain ⟨fraction, -, h⟩ := exists_of_bind_ok h
  cases h
  rfl

open MemorySpaceConfig

/-- Each tier has its own part of what `build` returns. -/
theorem ofTier_parts (gpuConfigs : List (GpuMemorySpaceConfig M))
    (hostConfigs : List (HostMemorySpaceConfig M)) (disks : List DiskMemorySpaceConfig) :
    ofTier .GPU (gpuConfigs.map .gpu ++ hostConfigs.map .host ++ disks.map .disk) =
        gpuConfigs.map .gpu ∧
      ofTier .HOST (gpuConfigs.map .gpu ++ hostConfigs.map .host ++ disks.map .disk) =
        hostConfigs.map .host ∧
      ofTier .DISK (gpuConfigs.map .gpu ++ hostConfigs.map .host ++ disks.map .disk) =
        disks.map .disk := by
  simp [ofTier, List.filter_append, List.filter_map, Function.comp_def,
    MemorySpaceConfig.tier]

theorem disks_eq (dinfos : List (Int × UInt64 × String)) :
    (dinfos.map fun dinfo => (.disk (diskConfig dinfo) : MemorySpaceConfig M)) =
      (dinfos.map diskConfig).map .disk := by
  rw [List.map_map]
  rfl

/-- The GPUs and the hosts among the configurations, as `build` makes them. -/
theorem build_tiers (hgpus : c.extractGpuIds totalMemory topology = .ok gpus)
    (hbuild : c.build totalMemory topology = .ok configs) :
    deviceIds .GPU configs = gpus.map (·.spaceId) ∧
      deviceIds .HOST configs = (c.extractHostIds gpus).map (·.spaceId) ∧
      ∀ config ∈ ofTier .HOST configs,
        config.memoryCapacity = c.perHostCapacity (c.extractHostIds gpus).length := by
  obtain ⟨gpuConfigs, hostConfigs, hgpu, hhost, rfl⟩ := build_parts hgpus hbuild
  obtain ⟨htierGpu, htierHost, -⟩ := ofTier_parts gpuConfigs hostConfigs
    (c.diskMountingPoints.map diskConfig)
  rw [disks_eq, deviceIds, deviceIds, htierGpu, htierHost, List.map_map, List.map_map]
  refine ⟨?_, ?_, fun config hconfig => ?_⟩
  · exact map_eq_of_forall₂ hgpu fun _ _ h => gpuConfig_deviceId h
  · exact map_eq_of_forall₂ hhost fun _ _ h => hostConfig_numaId h
  · obtain ⟨host, hmem, rfl⟩ := List.mem_map.mp hconfig
    obtain ⟨info, -, hmade⟩ := mem_of_forall₂ hhost hmem
    exact (hostConfig_parts hmade).1

/-- Among the hosts nothing of the total is lost but the remainder. -/
theorem perHostCapacity_total {hosts : Nat} (hone : 1 ≤ hosts) (hfit : hosts < 2 ^ 64)
    (hmode : c.isCapacityPerSpace = false) :
    hosts * (c.perHostCapacity hosts).toNat ≤ c.hostCapacity.toNat ∧
      c.hostCapacity.toNat - hosts * (c.perHostCapacity hosts).toNat < hosts := by
  unfold perHostCapacity
  by_cases hle : hosts ≤ 1
  · have hhosts : hosts = 1 := Nat.le_antisymm hle hone
    rw [if_pos hle, hhosts]
    omega
  · have hdiv : (c.hostCapacity / UInt64.ofNat hosts).toNat =
        c.hostCapacity.toNat / hosts := by
      rw [UInt64.toNat_div, UInt64.toNat_ofNat_of_lt' hfit]
    have hmod := Nat.div_add_mod c.hostCapacity.toNat hosts
    have hlt := Nat.mod_lt c.hostCapacity.toNat hone
    rw [if_neg hle, hmode, if_neg Bool.false_ne_true, hdiv]
    omega

theorem totalCapacity_eq {tier : Tier} {perHost : UInt64}
    (h : ∀ config ∈ ofTier tier configs, config.memoryCapacity = perHost) :
    totalCapacity tier configs = (deviceIds tier configs).length * perHost.toNat := by
  have hmap : (ofTier tier configs).map (fun config => config.memoryCapacity.toNat) =
      (ofTier tier configs).map fun _ => perHost.toNat :=
    List.map_congr_left fun config hconfig => by rw [h config hconfig]
  rw [totalCapacity, hmap, List.map_const', List.sum_replicate_nat, deviceIds,
    List.length_map]

theorem deviceIds_cons (tier : Tier) (config : MemorySpaceConfig M)
    (configs : List (MemorySpaceConfig M)) :
    deviceIds tier (config :: configs) =
      if config.tier = tier then config.id.deviceId :: deviceIds tier configs
      else deviceIds tier configs := by
  by_cases htier : config.tier = tier <;> simp [deviceIds, ofTier, htier]

theorem mem_deviceIds {tier : Tier} {deviceId : Int} :
    deviceId ∈ deviceIds tier configs ↔
      ∃ config ∈ configs, config.id = ⟨tier, deviceId⟩ := by
  unfold deviceIds ofTier
  simp only [List.mem_map, List.mem_filter, decide_eq_true_eq, and_assoc]
  refine exists_congr fun config => and_congr_right fun _ => ?_
  rw [← config.tier_id]
  constructor
  · intro ⟨htier, hdevice⟩
    rw [← htier, ← hdevice]
  · intro h
    rw [h]
    exact ⟨rfl, rfl⟩

/-- The ids are distinct in some tiers when they are in each of them. -/
theorem nodup_ids (p : Tier → Prop) [DecidablePred p]
    (h : ∀ tier, p tier → (deviceIds tier configs).Nodup) :
    ((configs.filter fun config => p config.tier).map (·.id)).Nodup := by
  induction configs with
  | nil => exact List.nodup_nil
  | cons config configs ih =>
      have hrest : ∀ tier, p tier → (deviceIds tier configs).Nodup := by
        intro tier htier
        have hcons := h tier htier
        rw [deviceIds_cons] at hcons
        split at hcons
        · exact (List.nodup_cons.mp hcons).2
        · exact hcons
      by_cases htier : p config.tier
      · rw [List.filter_cons_of_pos (by simpa using htier), List.map_cons]
        refine List.nodup_cons.mpr ⟨fun hmem => ?_, ih hrest⟩
        obtain ⟨other, hother, hid⟩ := List.mem_map.mp hmem
        have hcons := h _ htier
        rw [deviceIds_cons, if_pos rfl] at hcons
        exact (List.nodup_cons.mp hcons).1
          (mem_deviceIds.mpr ⟨other, (List.mem_filter.mp hother).1, by rw [hid, ← tier_id]⟩)
      · rw [List.filter_cons_of_neg (by simpa using htier)]
        exact ih hrest

/-- The GPUs of the configurations are the first `n`, and the hosts are theirs. -/
structure HostsFollow (c : ReservationManagerConfigurator M) (n : Nat)
    (topology : SystemTopologyInfo) (configs : List (MemorySpaceConfig M)) : Prop where
  gpus : deviceIds .GPU configs = (List.range n).map Int.ofNat
  perNuma : c.hostCreationPolicy = .bindCpuToGpuNuma → ∃ nodes : List Int,
    (nodes.map some = (List.range n).map fun i => topology.numaNode (Int.ofNat i)) ∧
      deviceIds .HOST configs = nodes.eraseDups
  perGpu : c.hostCreationPolicy = .bindHostToGpuId →
    deviceIds .HOST configs = deviceIds .GPU configs
  hostsNodup : (deviceIds .HOST configs).Nodup
  idsNodup : ((configs.filter fun config =>
    config.tier = .GPU ∨ config.tier = .HOST).map (·.id)).Nodup
  total : c.isCapacityPerSpace = false →
    totalCapacity .HOST configs ≤ c.hostCapacity.toNat ∧
      c.hostCapacity.toNat - totalCapacity .HOST configs < (ofTier .HOST configs).length

/-- The GPUs of an accepted configuration are the first ones of the system, and
its hosts are distinct. -/
theorem build_deviceIds (hn : 1 ≤ c.numGpus)
    (hbuild : c.build totalMemory topology = .ok configs) :
    deviceIds .GPU configs = (List.range c.numGpus.toNat).map Int.ofNat ∧
      (deviceIds .GPU configs).Nodup ∧ (deviceIds .HOST configs).Nodup := by
  obtain ⟨gpus, hgpus, -⟩ := exists_of_bind_ok (by rwa [build] at hbuild)
  obtain ⟨hids, -⟩ := extractGpuIds_spec hn hgpus
  obtain ⟨hgpuIds, hhostIds, -⟩ := build_tiers hgpus hbuild
  have hgpusNodup : (gpus.map (·.spaceId)).Nodup := by
    rw [hids]
    exact List.nodup_range.map fun _ _ h => Int.ofNat.inj h
  exact ⟨hgpuIds.trans hids, hgpuIds ▸ hgpusNodup,
    hhostIds ▸ nodup_extractHostIds hgpusNodup⟩

/-- Whatever the topology: what `build` accepts has the first GPUs and their
hosts. -/
theorem build_hostsFollow (hn : 1 ≤ c.numGpus)
    (hbuild : c.build totalMemory topology = .ok configs) :
    c.HostsFollow c.numGpus.toNat topology configs := by
  obtain ⟨gpus, hgpus, -⟩ := exists_of_bind_ok (by rwa [build] at hbuild)
  obtain ⟨hids, hnodes⟩ := extractGpuIds_spec hn hgpus
  obtain ⟨hgpuIds, hhostIds, hcapacity⟩ := build_tiers hgpus hbuild
  obtain ⟨hfirst, hgpusNodup, hhostsNodup⟩ := build_deviceIds hn hbuild
  refine ⟨hfirst, fun hpolicy => ⟨gpus.map (·.numaId), ?_, ?_⟩, fun hpolicy => ?_,
    hhostsNodup, nodup_ids (fun tier => tier = .GPU ∨ tier = .HOST) fun tier htier => ?_,
    fun hmode => ?_⟩
  · rw [List.map_map]
    exact hnodes
  · rw [hhostIds, map_extractHostIds, hpolicy]
  · rw [hhostIds, map_extractHostIds, hpolicy, hgpuIds]
  · cases htier with
    | inl hgpu => exact hgpu ▸ hgpusNodup
    | inr hhost => exact hhost ▸ hhostsNodup
  · have hlength : (ofTier .HOST configs).length = (c.extractHostIds gpus).length := by
      have hlengths := congrArg List.length hhostIds
      rwa [deviceIds, List.length_map, List.length_map] at hlengths
    have hgpusLength : gpus.length = c.numGpus.toNat := by
      have hlengths := congrArg List.length hids
      rwa [List.length_map, List.length_map, List.length_range] at hlengths
    have hpos : 1 ≤ gpus.length := hgpusLength ▸ UInt64.le_iff_toNat_le.mp hn
    have hone := length_extractHostIds_pos (c := c) hpos
    have hmany := length_extractHostIds_le (c := c) gpus
    have hfit := c.numGpus.toNat_lt
    rw [totalCapacity_eq hcapacity, deviceIds, List.length_map, hlength]
    exact perHostCapacity_total hone (by omega) hmode

theorem deviceIds_disk (hbuild : c.build totalMemory topology = .ok configs) :
    deviceIds .DISK configs = c.diskMountingPoints.map (·.1) := by
  obtain ⟨gpus, hgpus, -⟩ := exists_of_bind_ok (by rwa [build] at hbuild)
  obtain ⟨gpuConfigs, hostConfigs, -, -, rfl⟩ := build_parts hgpus hbuild
  rw [deviceIds, disks_eq, (ofTier_parts gpuConfigs hostConfigs _).2.2, List.map_map,
    List.map_map]
  rfl

/-- All of the ids are distinct when those of the mounting points are. -/
theorem nodup_build_iff (hn : 1 ≤ c.numGpus)
    (hbuild : c.build totalMemory topology = .ok configs) :
    (configs.map (·.id)).Nodup ↔ (c.diskMountingPoints.map (·.1)).Nodup := by
  obtain ⟨-, hgpusNodup, hhostsNodup⟩ := build_deviceIds hn hbuild
  constructor
  · intro h
    rw [← deviceIds_disk hbuild, deviceIds]
    refine List.Nodup.of_map (fun deviceId => (⟨.DISK, deviceId⟩ : MemorySpaceId)) ?_
    have hpart : (ofTier .DISK configs).map
        ((fun deviceId => (⟨.DISK, deviceId⟩ : MemorySpaceId)) ∘ fun config =>
          config.id.deviceId) = (ofTier .DISK configs).map (·.id) := by
      refine List.map_congr_left fun config hconfig => ?_
      have htier : config.tier = .DISK := by simpa using (List.mem_filter.mp hconfig).2
      rw [Function.comp_apply, ← htier, ← tier_id]
    rw [List.map_map, hpart]
    exact h.sublist (List.filter_sublist.map _)
  · intro h
    suffices hall : ∀ tier, (deviceIds tier configs).Nodup by
      simpa using nodup_ids (fun _ => True) fun tier _ => hall tier
    intro tier
    cases tier with
    | GPU => exact hgpusNodup
    | HOST => exact hhostsNodup
    | DISK => exact deviceIds_disk hbuild ▸ h
    | SIZE =>
        have hnone : deviceIds .SIZE configs = [] := by
          refine List.map_eq_nil_iff.mpr (List.filter_eq_nil_iff.mpr fun config _ => ?_)
          cases config <;> simp [MemorySpaceConfig.tier]
        rw [hnone]
        exact List.nodup_nil

/-- GPUs on an unknown node and on a known one, listed out of order and with others
between them. -/
def mixedNodes : SystemTopologyInfo := ⟨[⟨7, 1⟩, ⟨1, 0⟩, ⟨0, -1⟩, ⟨2, -1⟩, ⟨3, 1⟩]⟩

/-- Three GPUs, and eleven bytes for all of their hosts. -/
def threeGpus : ReservationManagerConfigurator Unit :=
  { untouched with numGpus := 3, hostCapacity := 11, isCapacityPerSpace := false }

theorem threeGpus_hostsFollow :
    ∃ configs, threeGpus.build (fun _ => gib 16) mixedNodes = .ok configs ∧
      deviceIds .HOST configs = [-1, 0] ∧ totalCapacity .HOST configs = 10 ∧
      threeGpus.HostsFollow 3 mixedNodes configs := by
  have hbuild : ∃ configs, threeGpus.build (fun _ => gib 16) mixedNodes = .ok configs ∧
      deviceIds .HOST configs = [-1, 0] ∧ totalCapacity .HOST configs = 10 :=
    ⟨_, rfl, by decide, by decide⟩
  obtain ⟨configs, hbuild, hhosts, htotal⟩ := hbuild
  exact ⟨configs, hbuild, hhosts, htotal, build_hostsFollow (by decide) hbuild⟩

end ReservationManagerConfigurator

end CuCascade.Memory

import CuCascade.Memory.TopologyDiscovery

/-!
# The network devices of a GPU

The selection has three stages: the devices at the least path type, those on
the GPU's NUMA node, all of them. The search for the least path type starts at
the greatest one there is, so it finds the minimum of whatever it is given, and
the first stage is never empty if a device has PCI information at all. If none
has, the function returns before the stages that were written for this case.
-/

namespace CuCascade.Memory

open Text

def NetworkDeviceInfo.HasPciInfo (dev : NetworkDeviceInfo) : Prop := dev.pciBusId ≠ []

instance : DecidablePred NetworkDeviceInfo.HasPciInfo := fun dev =>
  inferInstanceAs (Decidable (dev.pciBusId ≠ []))

/-- The device has PCI information, and no other that has is nearer. -/
def IsClosest (pathTypeOf : NetworkDeviceInfo → PciePathType)
    (devices : List NetworkDeviceInfo) (dev : NetworkDeviceInfo) : Prop :=
  dev.HasPciInfo ∧ ∀ other ∈ devices, other.HasPciInfo → pathTypeOf dev ≤ pathTypeOf other

instance (pathTypeOf : NetworkDeviceInfo → PciePathType)
    (devices : List NetworkDeviceInfo) : DecidablePred (IsClosest pathTypeOf devices) :=
  fun dev => inferInstanceAs (Decidable (dev.HasPciInfo ∧
    ∀ other ∈ devices, other.HasPciInfo → pathTypeOf dev ≤ pathTypeOf other))

/-- The names are those of the closest devices, or of those on the GPU's node
if no device has PCI information, or of all if none is there. -/
structure SelectsClosest (pathTypeOf : NetworkDeviceInfo → PciePathType)
    (gpuNumaNode : Int) (devices : List NetworkDeviceInfo)
    (names : List (List Char)) : Prop where
  closest : (∃ dev ∈ devices, dev.HasPciInfo) →
    names = (devices.filter fun dev => IsClosest pathTypeOf devices dev).map (·.name)
  onNode : (¬ ∃ dev ∈ devices, dev.HasPciInfo) →
    (∃ dev ∈ devices, dev.numaNode = gpuNumaNode) →
    names = (devices.filter fun dev => dev.numaNode = gpuNumaNode).map (·.name)
  all : (¬ ∃ dev ∈ devices, dev.HasPciInfo) →
    (¬ ∃ dev ∈ devices, dev.numaNode = gpuNumaNode) → names = devices.map (·.name)
  nonempty : devices ≠ [] → names ≠ []

/-! ## The search for the least path type -/

theorem PciePathType.le_SYS (p : PciePathType) : p ≤ .SYS := by
  cases p <;> decide

theorem bestPathType_eq (nics : List NicWithPath) :
    bestPathType nics = (nics.map (·.pathType)).foldl min .SYS := by
  rw [bestPathType, List.foldl_map]
  congr 1
  funext best nic
  rw [min_comm, min_def_lt]

/-- The search finds a lower bound that one of the devices attains. -/
theorem bestPathType_spec {nics : List NicWithPath} (hne : nics ≠ []) :
    (∃ nic ∈ nics, nic.pathType = bestPathType nics) ∧
      ∀ nic ∈ nics, bestPathType nics ≤ nic.pathType := by
  have hmin : (PciePathType.SYS :: nics.map (·.pathType)).min? =
      some (bestPathType nics) := by
    rw [bestPathType_eq, List.min?_cons']
  obtain ⟨hmem, hle⟩ := List.min?_eq_some_iff.mp hmin
  have hbelow : ∀ nic ∈ nics, bestPathType nics ≤ nic.pathType := fun nic hnic =>
    hle nic.pathType (List.mem_cons_of_mem _ (List.mem_map_of_mem hnic))
  refine ⟨?_, hbelow⟩
  cases List.mem_cons.mp hmem with
  | inl hsys =>
      -- nothing is above the start, so any device attains it
      obtain ⟨nic, hnic⟩ := List.exists_mem_of_ne_nil nics hne
      exact ⟨nic, hnic, le_antisymm (hsys ▸ nic.pathType.le_SYS) (hbelow nic hnic)⟩
  | inr hattained =>
      obtain ⟨nic, hnic, heq⟩ := List.mem_map.mp hattained
      exact ⟨nic, hnic, heq⟩

section

variable {query : List Char → List Char → Except StoiError PciePathType}
  {gpuPciId : List Char} {devices : List NetworkDeviceInfo}
  {pathTypeOf : NetworkDeviceInfo → PciePathType}

/-- The queries of the devices with PCI information find the assigned types. -/
theorem mapM_query (hquery : ∀ dev ∈ devices,
      query gpuPciId dev.pciBusId = .ok (pathTypeOf dev)) :
    (devices.mapM fun dev => do
        let pathType ← query gpuPciId dev.pciBusId
        pure (NicWithPath.mk dev.name pathType)) =
      .ok (devices.map fun dev => ⟨dev.name, pathTypeOf dev⟩) := by
  induction devices with
  | nil => rfl
  | cons dev devices ih =>
      rw [List.mapM_cons, ih fun d hd => hquery d (List.mem_cons_of_mem dev hd),
        hquery dev List.mem_cons_self]
      rfl

/-- The devices with PCI information, with their path types. -/
def knownNics (pathTypeOf : NetworkDeviceInfo → PciePathType)
    (devices : List NetworkDeviceInfo) : List NicWithPath :=
  (devices.filter fun dev => dev.HasPciInfo).map fun dev => ⟨dev.name, pathTypeOf dev⟩

theorem mem_knownNics {nic : NicWithPath} : nic ∈ knownNics pathTypeOf devices ↔
    ∃ dev ∈ devices, dev.HasPciInfo ∧ NicWithPath.mk dev.name (pathTypeOf dev) = nic := by
  simp [knownNics, and_assoc]

/-- The closest devices are those at the best path type. -/
theorem isClosest_iff {dev : NetworkDeviceInfo} (hmem : dev ∈ devices) :
    IsClosest pathTypeOf devices dev ↔ dev.HasPciInfo ∧
      pathTypeOf dev = bestPathType (knownNics pathTypeOf devices) := by
  refine and_congr_right fun hinfo => ?_
  have hdev : NicWithPath.mk dev.name (pathTypeOf dev) ∈ knownNics pathTypeOf devices :=
    mem_knownNics.mpr ⟨dev, hmem, hinfo, rfl⟩
  obtain ⟨⟨best, hbest, hattained⟩, hle⟩ := bestPathType_spec (List.ne_nil_of_mem hdev)
  obtain ⟨other, hother, hotherInfo, rfl⟩ := mem_knownNics.mp hbest
  constructor
  · intro hleast
    exact le_antisymm (hattained ▸ hleast other hother hotherInfo) (hle _ hdev)
  · intro heq o ho hoInfo
    exact heq ▸ hle _ (mem_knownNics.mpr ⟨o, ho, hoInfo, rfl⟩)

/-- If any device has PCI information then some device is closest. -/
theorem exists_isClosest (h : ∃ dev ∈ devices, dev.HasPciInfo) :
    ∃ dev ∈ devices, IsClosest pathTypeOf devices dev := by
  obtain ⟨dev, hdev, hinfo⟩ := h
  have hmem : NicWithPath.mk dev.name (pathTypeOf dev) ∈ knownNics pathTypeOf devices :=
    mem_knownNics.mpr ⟨dev, hdev, hinfo, rfl⟩
  obtain ⟨⟨best, hbest, hattained⟩, -⟩ := bestPathType_spec (List.ne_nil_of_mem hmem)
  obtain ⟨nearest, hnearest, hnearestInfo, rfl⟩ := mem_knownNics.mp hbest
  exact ⟨nearest, hnearest, (isClosest_iff hnearest).mpr ⟨hnearestInfo, hattained⟩⟩

theorem selected_eq_nil_iff :
    (devices.filter fun dev => IsClosest pathTypeOf devices dev).map (·.name) = [] ↔
      ¬ ∃ dev ∈ devices, dev.HasPciInfo := by
  rw [List.map_eq_nil_iff, List.filter_eq_nil_iff]
  constructor
  · intro hnone hinfo
    obtain ⟨dev, hdev, hclosest⟩ := exists_isClosest hinfo
    exact hnone dev hdev (decide_eq_true hclosest)
  · intro hinfo dev hdev hclosest
    exact hinfo ⟨dev, hdev, (of_decide_eq_true hclosest).1⟩

theorem names_best_eq :
    ((knownNics pathTypeOf devices).filter fun nic =>
        nic.pathType = bestPathType (knownNics pathTypeOf devices)).map (·.name) =
      (devices.filter fun dev => IsClosest pathTypeOf devices dev).map (·.name) := by
  generalize hbest : bestPathType (knownNics pathTypeOf devices) = best
  rw [knownNics, List.filter_map, List.filter_filter, List.map_map]
  congr 1
  refine List.filter_congr fun dev hdev => ?_
  simp [isClosest_iff hdev, hbest, and_comm]

/-- With the queries answered the closest devices are selected, and the two
fallbacks never come into it. -/
theorem mapNetworkDevicesToGpu_eq (gpuNumaNode : Int)
    (hquery : ∀ dev ∈ devices, dev.HasPciInfo →
      query gpuPciId dev.pciBusId = .ok (pathTypeOf dev)) :
    mapNetworkDevicesToGpu query gpuPciId gpuNumaNode devices =
      .ok ((devices.filter fun dev => IsClosest pathTypeOf devices dev).map (·.name)) := by
  have hmapM : ((devices.filter fun dev => dev.HasPciInfo).mapM fun dev => do
        let pathType ← query gpuPciId dev.pciBusId
        pure (NicWithPath.mk dev.name pathType)) = .ok (knownNics pathTypeOf devices) :=
    mapM_query fun dev hdev => hquery dev (List.mem_filter.mp hdev).1
      (of_decide_eq_true (List.mem_filter.mp hdev).2)
  rw [← names_best_eq, mapNetworkDevicesToGpu]
  show ((devices.filter fun dev => dev.HasPciInfo).mapM _ >>= _) = _
  rw [hmapM]
  show (if knownNics pathTypeOf devices = [] then _ else _) = _
  split
  · rename_i hnone
    rw [hnone]
    rfl
  · rename_i hsome
    obtain ⟨⟨nic, hnic, hattained⟩, -⟩ := bestPathType_spec hsome
    have hne : ((knownNics pathTypeOf devices).filter fun nic =>
        nic.pathType = bestPathType (knownNics pathTypeOf devices)).map (·.name) ≠ [] :=
      List.ne_nil_of_mem (List.mem_map_of_mem
        (List.mem_filter.mpr ⟨hnic, decide_eq_true hattained⟩))
    rw [if_neg hne, if_neg fun h => hne h.1]
    rfl

/-- The selection is the closest devices with its fallbacks exactly if a
device has PCI information or there is no device to select. -/
theorem mapNetworkDevicesToGpu_selectsClosest_iff (gpuNumaNode : Int)
    (hquery : ∀ dev ∈ devices, dev.HasPciInfo →
      query gpuPciId dev.pciBusId = .ok (pathTypeOf dev)) :
    (∃ names, mapNetworkDevicesToGpu query gpuPciId gpuNumaNode devices = .ok names ∧
        SelectsClosest pathTypeOf gpuNumaNode devices names) ↔
      (∃ dev ∈ devices, dev.HasPciInfo) ∨ devices = [] := by
  rw [mapNetworkDevicesToGpu_eq gpuNumaNode hquery]
  constructor
  · rintro ⟨names, hnames, hselects⟩
    cases hnames
    by_contra hneither
    obtain ⟨hnone, hne⟩ := not_or.mp hneither
    exact hselects.nonempty hne (selected_eq_nil_iff.mpr hnone)
  · intro hcond
    refine ⟨_, rfl, ?_⟩
    cases hcond with
    | inl hinfo =>
        exact {
          closest := fun _ => rfl
          onNode := fun hnone => absurd hinfo hnone
          all := fun hnone => absurd hinfo hnone
          nonempty := fun _ hnil => selected_eq_nil_iff.mp hnil hinfo }
    | inr hempty =>
        subst hempty
        exact {
          closest := fun _ => rfl
          onNode := fun _ _ => rfl
          all := fun _ _ => rfl
          nonempty := fun hne => absurd rfl hne }

/-- Two devices, the nearer one listed last. -/
def twoNics : List NetworkDeviceInfo :=
  [⟨"mlx5_0".toList, 0, "0000:40:00.0".toList⟩, ⟨"mlx5_1".toList, 0, "0000:0b:00.0".toList⟩]

/-- The type of the path from the GPU at bus 10. -/
def twoNicsPath (dev : NetworkDeviceInfo) : PciePathType :=
  if dev.name = "mlx5_1".toList then .PIX else .NODE

theorem twoNics_selectsClosest :
    ∃ names, mapNetworkDevicesToGpu (getPciePathType fun _ => []) "00000000:0A:00.0".toList
        0 twoNics = .ok names ∧ SelectsClosest twoNicsPath 0 twoNics names :=
  (mapNetworkDevicesToGpu_selectsClosest_iff 0 (by decide)).mpr
    (Or.inl ⟨⟨"mlx5_0".toList, 0, "0000:40:00.0".toList⟩, by decide, by decide⟩)

/-- A device on the GPU's own node whose PCI bus id is not known. -/
def unknownNic : NetworkDeviceInfo := ⟨"mlx5_0".toList, 0, []⟩

/-- It is not selected. -/
theorem unknownNic_notSelected :
    ¬ ∃ names, mapNetworkDevicesToGpu (getPciePathType fun _ => [])
        "00000000:0A:00.0".toList 0 [unknownNic] = .ok names ∧
      SelectsClosest twoNicsPath 0 [unknownNic] names := by
  rintro ⟨names, hnames, hselects⟩
  have hresult : mapNetworkDevicesToGpu (getPciePathType fun _ => [])
      "00000000:0A:00.0".toList 0 [unknownNic] = .ok [] := rfl
  rw [hresult] at hnames
  cases hnames
  exact hselects.nonempty (List.cons_ne_nil _ _) rfl

end

end CuCascade.Memory

import CuCascade.Memory.Discovery
import CuCascade.Proofs.HostSelection
import CuCascade.Proofs.NicSelection
import Mathlib.Data.List.Induction

/-!
# What discovery finds

The loop over the devices adds one entry for each device that answers, or ends
with an exception at the first whose texts cannot be read. So the ids of the
entries are the numbers of the devices that answered, in order, with holes where
one did not, and an entry has the nearest network devices among those found.

The configurator takes the ids from zero on. A hole among them is a GPU it does
not find, even when the topology has as many GPUs as were asked for.
-/

namespace CuCascade.Memory

open Text

namespace TopologyDiscovery

variable {nvml : Nvml} {fs : FileSystem} {nics : List NetworkDeviceInfo}
  {pciBusId : List Char} {this : TopologyDiscovery}

/-- The PCI bus id that NVML gives for a device, if it gives a handle and one. -/
def pciBusIdOf (nvml : Nvml) (i : UInt32) : Option (List Char) :=
  (nvml.device i).bind (·.pciInfo)

/-- The number of the devices that the loop visits. -/
def deviceCount (nvml : Nvml) : Nat := ((countDevices nvml).getD 0).toNat

/-- The texts that the loop reads for a GPU can be read: its core list, and its NUMA
node and those of the network devices if any of them has PCI information. -/
def Readable (fs : FileSystem) (nics : List NetworkDeviceInfo) (pciBusId : List Char) : Prop :=
  (∃ cores, parseCpuList (getCpuAffinityFromSys fs.readFileContent pciBusId) = .ok cores) ∧
    ∀ nic ∈ nics, nic.HasPciInfo →
      (∃ node, readNumaNode fs.readFileContent pciBusId = .ok node) ∧
        ∃ node, readNumaNode fs.readFileContent nic.pciBusId = .ok node

instance decidableOk {α ε : Type} : (x : Except ε α) → Decidable (∃ a, x = .ok a)
  | .ok a => isTrue ⟨a, rfl⟩
  | .error _ => isFalse fun h => by
      obtain ⟨a, ha⟩ := h
      cases ha

instance : Decidable (Readable fs nics pciBusId) :=
  inferInstanceAs (Decidable ((∃ cores,
      parseCpuList (getCpuAffinityFromSys fs.readFileContent pciBusId) = .ok cores) ∧
    ∀ nic ∈ nics, nic.HasPciInfo →
      (∃ node, readNumaNode fs.readFileContent pciBusId = .ok node) ∧
        ∃ node, readNumaNode fs.readFileContent nic.pciBusId = .ok node))

/-- The texts of each device that answers can be read. -/
def AllReadable (nvml : Nvml) (fs : FileSystem) : Prop :=
  ∀ i < deviceCount nvml, ∀ pciBusId ∈ pciBusIdOf nvml (UInt32.ofNat i),
    Readable fs fs.discoverNetworkDevicesWithTopology pciBusId

instance : Decidable (AllReadable nvml fs) :=
  inferInstanceAs (Decidable (∀ i < deviceCount nvml,
    ∀ pciBusId ∈ pciBusIdOf nvml (UInt32.ofNat i),
      Readable fs fs.discoverNetworkDevicesWithTopology pciBusId))

/-- NVML has been initialised and is not shut down: the number of devices could not be
had, or the call ends with an exception. -/
def Leaks (nvml : Nvml) (fs : FileSystem) : Prop :=
  initialised nvml ∧ (nvml.deviceCount = none ∨ ¬ AllReadable nvml fs)

instance : Decidable (Leaks nvml fs) :=
  inferInstanceAs (Decidable (initialised nvml ∧
    (nvml.deviceCount = none ∨ ¬ AllReadable nvml fs)))

/-- An entry of the topology says what the system answers about the device. -/
structure Described (nvml : Nvml) (fs : FileSystem) (nics : List NetworkDeviceInfo)
    (gpu : GpuTopology) : Prop where
  pciBusId : pciBusIdOf nvml gpu.id = some gpu.pciBusId
  numaNode : gpu.numaNode = getNumaNodeFromSys fs.readFileContent gpu.pciBusId
  memoryBinding : gpu.memoryBinding = if 0 ≤ gpu.numaNode then [gpu.numaNode] else []
  cpuCores : parseCpuList (getCpuAffinityFromSys fs.readFileContent gpu.pciBusId) =
    .ok gpu.cpuCores
  nearest : ∃ pathTypeOf : NetworkDeviceInfo → PciePathType,
    (∀ nic ∈ nics, nic.HasPciInfo →
      getPciePathType fs.readFileContent gpu.pciBusId nic.pciBusId = .ok (pathTypeOf nic)) ∧
    gpu.networkDevices = (nics.filter fun nic => IsClosest pathTypeOf nics nic).map (·.name)

/-- A topology has the devices that answered, each described. -/
structure Describes (nvml : Nvml) (fs : FileSystem) (topology : SystemTopology) : Prop where
  numGpus : topology.numGpus.toNat = deviceCount nvml
  ids : topology.gpus.map (·.id) = ((List.range (deviceCount nvml)).map UInt32.ofNat).filter
    fun i => (pciBusIdOf nvml i).isSome
  each : ∀ gpu ∈ topology.gpus, Described nvml fs topology.networkDevices gpu

/-! ## Loops that can fail -/

section Loop

variable {α β ε : Type} {f : α → Except ε β} {l : List α} {l' : List β}

theorem exists_of_mem_left {R : α → β → Prop} (h : List.Forall₂ R l l') {a : α}
    (ha : a ∈ l) : ∃ b ∈ l', R a b := by
  induction h with
  | nil => cases ha
  | cons hab _ ih =>
      rcases List.mem_cons.mp ha with rfl | hmem
      · exact ⟨_, List.mem_cons_self, hab⟩
      · obtain ⟨b, hb, hR⟩ := ih hmem
        exact ⟨b, List.mem_cons_of_mem _ hb, hR⟩

/-- The loop ends well exactly if each of its turns does. -/
theorem mapM_ok_iff : (∃ l', l.mapM f = .ok l') ↔ ∀ a ∈ l, ∃ b, f a = .ok b := by
  constructor
  · intro ⟨l', hl'⟩ a ha
    obtain ⟨b, -, hb⟩ :=
      exists_of_mem_left (ReservationManagerConfigurator.forall₂_of_mapM_ok hl') ha
    exact ⟨b, hb⟩
  · intro h
    induction l with
    | nil => exact ⟨[], rfl⟩
    | cons a l ih =>
        obtain ⟨b, hb⟩ := h a List.mem_cons_self
        obtain ⟨bs, hbs⟩ := ih fun a' ha' => h a' (List.mem_cons_of_mem a ha')
        rw [List.mapM_cons, hb, hbs]
        exact ⟨b :: bs, rfl⟩

/-- A loop that fails fails in one of its turns. -/
theorem exists_of_mapM_error {e : ε} (h : l.mapM f = .error e) : ∃ a ∈ l, f a = .error e := by
  induction l with
  | nil => cases h
  | cons a l ih =>
      rw [List.mapM_cons] at h
      cases ha : f a with
      | error e' =>
          rw [ha] at h
          cases h
          exact ⟨a, List.mem_cons_self, ha⟩
      | ok b =>
          cases hl : l.mapM f with
          | error e' =>
              rw [ha, hl] at h
              cases h
              obtain ⟨a', ha', hfails⟩ := ih hl
              exact ⟨a', List.mem_cons_of_mem a ha', hfails⟩
          | ok bs =>
              rw [ha, hl] at h
              cases h

end Loop

/-! ## One device -/

theorem getPciePathType_ok_iff {gpuPciId nicPciId : List Char} :
    (∃ p, getPciePathType fs.readFileContent gpuPciId nicPciId = .ok p) ↔
      (∃ node, readNumaNode fs.readFileContent gpuPciId = .ok node) ∧
        ∃ node, readNumaNode fs.readFileContent nicPciId = .ok node := by
  unfold getPciePathType
  cases readNumaNode fs.readFileContent gpuPciId with
  | error e =>
      refine iff_of_false ?_ ?_
      · rintro ⟨p, hp⟩
        cases hp
      · rintro ⟨⟨node, hnode⟩, -⟩
        cases hnode
  | ok gpuNuma =>
      cases readNumaNode fs.readFileContent nicPciId with
      | error e =>
          refine iff_of_false ?_ ?_
          · rintro ⟨p, hp⟩
            cases hp
          · rintro ⟨-, node, hnode⟩
            cases hnode
      | ok nicNuma => exact iff_of_true ⟨_, rfl⟩ ⟨⟨_, rfl⟩, _, rfl⟩

/-- The type of a path that is known. -/
def pathTypeFrom (fs : FileSystem) (gpuPciId : List Char) (nic : NetworkDeviceInfo) :
    PciePathType :=
  match getPciePathType fs.readFileContent gpuPciId nic.pciBusId with
  | .ok p => p
  | .error _ => .SYS

/-- The selection throws exactly if a path type cannot be had. -/
theorem mapNetworkDevicesToGpu_ok_iff {gpuPciId : List Char} {gpuNumaNode : Int} :
    (∃ names, mapNetworkDevicesToGpu (getPciePathType fs.readFileContent) gpuPciId gpuNumaNode
        nics = .ok names) ↔
      ∀ nic ∈ nics, nic.HasPciInfo →
        getPciePathType fs.readFileContent gpuPciId nic.pciBusId =
          .ok (pathTypeFrom fs gpuPciId nic) := by
  constructor
  · intro ⟨names, hnames⟩ nic hnic hinfo
    rw [mapNetworkDevicesToGpu] at hnames
    obtain ⟨known, hknown, -⟩ := ReservationManagerConfigurator.exists_of_bind_ok hnames
    have hmem : nic ∈ nics.filter fun dev => dev.pciBusId ≠ [] :=
      List.mem_filter.mpr ⟨hnic, decide_eq_true hinfo⟩
    obtain ⟨turn, hturn⟩ := mapM_ok_iff.mp ⟨known, hknown⟩ nic hmem
    obtain ⟨p, hp, -⟩ := ReservationManagerConfigurator.exists_of_bind_ok hturn
    rw [pathTypeFrom, hp]
  · intro hquery
    exact ⟨_, mapNetworkDevicesToGpu_eq gpuNumaNode hquery⟩

/-- A device is described exactly if its texts can be read. -/
theorem describeGpu_ok_iff {i : UInt32} {device : NvmlDevice} :
    (∃ gpu, describeGpu fs nics i device pciBusId = .ok gpu) ↔ Readable fs nics pciBusId := by
  have hmap : (∃ names, mapNetworkDevicesToGpu (getPciePathType fs.readFileContent) pciBusId
        (getNumaNodeFromSys fs.readFileContent pciBusId) nics = .ok names) ↔
      ∀ nic ∈ nics, nic.HasPciInfo →
        (∃ node, readNumaNode fs.readFileContent pciBusId = .ok node) ∧
          ∃ node, readNumaNode fs.readFileContent nic.pciBusId = .ok node := by
    rw [mapNetworkDevicesToGpu_ok_iff]
    refine forall₃_congr fun nic _ _ => ?_
    rw [← getPciePathType_ok_iff, pathTypeFrom]
    cases getPciePathType fs.readFileContent pciBusId nic.pciBusId <;> simp
  rw [Readable, ← hmap, describeGpu]
  cases parseCpuList (getCpuAffinityFromSys fs.readFileContent pciBusId) with
  | error e => simp
  | ok cores =>
      cases mapNetworkDevicesToGpu (getPciePathType fs.readFileContent) pciBusId
          (getNumaNodeFromSys fs.readFileContent pciBusId) nics with
      | error e => simp
      | ok names => simp

theorem describeGpu_id {i : UInt32} {device : NvmlDevice} {gpu : GpuTopology}
    (h : describeGpu fs nics i device pciBusId = .ok gpu) : gpu.id = i := by
  rw [describeGpu] at h
  split at h
  · cases h
  · split at h
    · cases h
    · cases h
      rfl

theorem described_of_ok {i : UInt32} {device : NvmlDevice} {gpu : GpuTopology}
    (hdevice : nvml.device i = some device) (hpci : device.pciInfo = some pciBusId)
    (h : describeGpu fs nics i device pciBusId = .ok gpu) :
    Described nvml fs nics gpu := by
  rw [describeGpu] at h
  cases hcores : parseCpuList (getCpuAffinityFromSys fs.readFileContent pciBusId) with
  | error e =>
      rw [hcores] at h
      cases h
  | ok cores =>
      cases hnames : mapNetworkDevicesToGpu (getPciePathType fs.readFileContent) pciBusId
          (getNumaNodeFromSys fs.readFileContent pciBusId) nics with
      | error e =>
          simp only [hcores, hnames] at h
          cases h
      | ok names =>
          simp only [hcores, hnames] at h
          cases h
          have hpaths := mapNetworkDevicesToGpu_ok_iff.mp ⟨names, hnames⟩
          have hnearest := mapNetworkDevicesToGpu_eq
            (getNumaNodeFromSys fs.readFileContent pciBusId) hpaths
          refine ⟨?_, rfl, rfl, hcores, pathTypeFrom fs pciBusId, hpaths, ?_⟩
          · rw [pciBusIdOf, hdevice, Option.bind_some, hpci]
          · exact Except.ok.inj (hnames.symm.trans hnearest)

/-! ## The loop over the devices -/

/-- A device that answers, with what `describeGpu` is called with. -/
def known (nvml : Nvml) (i : Nat) : Option (UInt32 × NvmlDevice × List Char) :=
  (nvml.device (UInt32.ofNat i)).bind fun device =>
    device.pciInfo.map fun pciBusId => (UInt32.ofNat i, device, pciBusId)

theorem mem_known {i : Nat} {x : UInt32 × NvmlDevice × List Char} (h : known nvml i = some x) :
    x.1 = UInt32.ofNat i ∧ nvml.device x.1 = some x.2.1 ∧ x.2.1.pciInfo = some x.2.2 := by
  rw [known, Option.bind_eq_some_iff] at h
  obtain ⟨device, hdevice, hmap⟩ := h
  obtain ⟨pciBusId, hpci, rfl⟩ := Option.map_eq_some_iff.mp hmap
  exact ⟨rfl, hdevice, hpci⟩

theorem isSome_known (nvml : Nvml) (i : Nat) :
    (known nvml i).isSome = (pciBusIdOf nvml (UInt32.ofNat i)).isSome := by
  unfold known pciBusIdOf
  cases nvml.device (UInt32.ofNat i) with
  | none => rfl
  | some device => simp

/-- The loop describes the devices that answer and leaves the others out. -/
theorem foldlM_visitDevice (l : List Nat) (gpus : List GpuTopology) :
    l.foldlM (visitDevice nvml fs nics) gpus =
      ((l.filterMap (known nvml)).mapM fun x => describeGpu fs nics x.1 x.2.1 x.2.2).map
        (gpus ++ ·) := by
  induction l generalizing gpus with
  | nil => simp [Except.map, pure, Except.pure]
  | cons i l ih =>
      rw [List.foldlM_cons]
      cases hknown : known nvml i with
      | none =>
          have hvisit : visitDevice nvml fs nics gpus i = .ok gpus := by
            rw [known] at hknown
            unfold visitDevice
            cases hdevice : nvml.device (UInt32.ofNat i) with
            | none => rfl
            | some device =>
                rw [hdevice, Option.bind_some, Option.map_eq_none_iff] at hknown
                simp only [hknown]
          rw [hvisit, List.filterMap_cons_none hknown]
          exact ih gpus
      | some x =>
          obtain ⟨hi, hdevice, hpci⟩ := mem_known hknown
          have hvisit : visitDevice nvml fs nics gpus i =
              (describeGpu fs nics x.1 x.2.1 x.2.2).map fun gpu => gpus ++ [gpu] := by
            rw [hi] at hdevice ⊢
            simp only [visitDevice, hdevice, hpci]
            cases describeGpu fs nics (UInt32.ofNat i) x.2.1 x.2.2 <;> rfl
          rw [hvisit, List.filterMap_cons_some hknown, List.mapM_cons]
          cases describeGpu fs nics x.1 x.2.1 x.2.2 with
          | error e => rfl
          | ok gpu =>
              refine (ih (gpus ++ [gpu])).trans ?_
              cases (l.filterMap (known nvml)).mapM fun x =>
                  describeGpu fs nics x.1 x.2.1 x.2.2 with
              | error e => rfl
              | ok rest =>
                  show Except.ok (gpus ++ [gpu] ++ rest) = Except.ok (gpus ++ gpu :: rest)
                  rw [List.append_assoc, List.singleton_append]

theorem mapM_known_ok_iff (n : Nat) :
    (∃ gpus, ((List.range n).filterMap (known nvml)).mapM (fun x =>
        describeGpu fs nics x.1 x.2.1 x.2.2) = .ok gpus) ↔
      ∀ i < n, ∀ pciBusId ∈ pciBusIdOf nvml (UInt32.ofNat i), Readable fs nics pciBusId := by
  rw [mapM_ok_iff]
  constructor
  · intro h i hi pciBusId hpci
    obtain ⟨device, hdevice, hinfo⟩ := Option.bind_eq_some_iff.mp (Option.mem_def.mp hpci)
    have hknown : known nvml i = some (UInt32.ofNat i, device, pciBusId) := by
      rw [known, hdevice, Option.bind_some, hinfo, Option.map_some]
    have hmem := List.mem_filterMap.mpr ⟨i, List.mem_range.mpr hi, hknown⟩
    exact describeGpu_ok_iff.mp (h _ hmem)
  · intro h x hx
    obtain ⟨i, hi, hknown⟩ := List.mem_filterMap.mp hx
    obtain ⟨hid, hdevice, hpci⟩ := mem_known hknown
    refine describeGpu_ok_iff.mpr (h i (List.mem_range.mp hi) x.2.2 ?_)
    rw [← hid, pciBusIdOf, hdevice]
    exact hpci

theorem map_known (l : List Nat) :
    (l.filterMap (known nvml)).map (·.1) =
      (l.map UInt32.ofNat).filter fun i => (pciBusIdOf nvml i).isSome := by
  induction l with
  | nil => rfl
  | cons i l ih =>
      have hsome := isSome_known nvml i
      cases hknown : known nvml i with
      | none =>
          rw [hknown] at hsome
          rw [List.filterMap_cons_none hknown, ih, List.map_cons,
            List.filter_cons_of_neg (by rw [← hsome]; exact Bool.false_ne_true)]
      | some x =>
          rw [hknown] at hsome
          rw [List.filterMap_cons_some hknown, List.map_cons, ih, List.map_cons,
            List.filter_cons_of_pos (by rw [← hsome]; rfl), (mem_known hknown).1]

/-! ## The call -/

/-- What one call of `discover` does, by what it finds. -/
structure Discovers (nvml : Nvml) (fs : FileSystem) (this next : TopologyDiscovery)
    (result : Except DiscoverFailure Bool) : Prop where
  returns : (∃ b, result = .ok b) ↔ AllReadable nvml fs
  found : ∀ b, result = .ok b → b = true ∧ ∃ topology,
    next.getTopology = some topology ∧ Describes nvml fs topology
  kept : ∀ e, result = .error e → next.getTopology = this.getTopology
  references : next.nvmlReferences =
    this.nvmlReferences + if Leaks nvml fs then 1 else 0

theorem references_of_ok {n : Nat} (hall : AllReadable nvml fs) :
    (if (countDevices nvml).isSome then (if initialised nvml then n + 1 else n) - 1
      else if initialised nvml then n + 1 else n) = n + if Leaks nvml fs then 1 else 0 := by
  by_cases hinit : initialised nvml
  · cases hcount : nvml.deviceCount with
    | none => simp [countDevices, Leaks, hinit, hcount]
    | some count => simp [countDevices, Leaks, hinit, hcount, hall]
  · simp [countDevices, Leaks, hinit]

theorem references_of_error {n : Nat} (hall : ¬ AllReadable nvml fs) :
    (if initialised nvml then n + 1 else n) = n + if Leaks nvml fs then 1 else 0 := by
  by_cases hinit : initialised nvml
  · simp [Leaks, hinit, hall]
  · simp [Leaks, hinit]

theorem discover_discovers (nvml : Nvml) (fs : FileSystem) (this : TopologyDiscovery) :
    Discovers nvml fs this (this.discover nvml fs).1 (this.discover nvml fs).2 := by
  have hloop : (List.range (deviceCount nvml)).foldlM
        (visitDevice nvml fs fs.discoverNetworkDevicesWithTopology) [] = _ :=
    foldlM_visitDevice _ []
  have hall : (∃ gpus, ((List.range (deviceCount nvml)).filterMap (known nvml)).mapM (fun x =>
        describeGpu fs fs.discoverNetworkDevicesWithTopology x.1 x.2.1 x.2.2) = .ok gpus) ↔
      AllReadable nvml fs := mapM_known_ok_iff _
  cases hgpus : ((List.range (deviceCount nvml)).filterMap (known nvml)).mapM fun x =>
      describeGpu fs fs.discoverNetworkDevicesWithTopology x.1 x.2.1 x.2.2 with
  | error e =>
      rw [hgpus] at hloop hall
      have hnot : ¬ AllReadable nvml fs := by
        rw [← hall]
        rintro ⟨gpus, h⟩
        cases h
      unfold deviceCount at hloop
      simp only [discover, hloop, Except.map]
      refine ⟨iff_of_false ?_ hnot, fun b h => ?_, fun _ _ => rfl, references_of_error hnot⟩
      · rintro ⟨b, h⟩
        cases h
      · cases h
  | ok gpus =>
      rw [hgpus] at hloop hall
      have hread : AllReadable nvml fs := hall.mp ⟨gpus, rfl⟩
      have hmade := ReservationManagerConfigurator.forall₂_of_mapM_ok hgpus
      unfold deviceCount at hloop
      simp only [discover, hloop, Except.map]
      refine ⟨iff_of_true ⟨true, rfl⟩ hread, fun b h => ?_, fun e h => ?_,
        references_of_ok hread⟩
      · cases h
        refine ⟨rfl, _, rfl, rfl, ?_, fun gpu hgpu => ?_⟩
        · rw [← map_known]
          exact ReservationManagerConfigurator.map_eq_of_forall₂ hmade fun x gpu hgpu =>
            describeGpu_id hgpu
        · obtain ⟨x, hx, hdescribed⟩ :=
            ReservationManagerConfigurator.mem_of_forall₂ hmade hgpu
          obtain ⟨i, -, hknown⟩ := List.mem_filterMap.mp hx
          obtain ⟨-, hdevice, hpci⟩ := mem_known hknown
          exact described_of_ok hdevice hpci hdescribed
      · cases h

/-! ## Whole runs -/

/-- The first `n` devices answer, and their numbers are ids that an `int` can hold. -/
def FirstAnswer (nvml : Nvml) (n : Nat) : Prop :=
  n ≤ deviceCount nvml ∧ n ≤ 2 ^ 31 ∧ ∀ i < n, (pciBusIdOf nvml (UInt32.ofNat i)).isSome

instance {n : Nat} : Decidable (FirstAnswer nvml n) :=
  inferInstanceAs (Decidable (n ≤ deviceCount nvml ∧ n ≤ 2 ^ 31 ∧
    ∀ i < n, (pciBusIdOf nvml (UInt32.ofNat i)).isSome))

theorem toInt_toInt32 (x : UInt32) (i : Nat) :
    x.toInt32.toInt = Int.ofNat i ↔ x.toNat = i ∧ i < 2 ^ 31 := by
  have hbits : x.toInt32.toInt = x.toBitVec.toInt := rfl
  have hnat : x.toBitVec.toNat = x.toNat := rfl
  have hlt := x.toNat_lt
  rw [hbits, BitVec.toInt_eq_toNat_cond, hnat, Int.ofNat_eq_natCast]
  split <;> omega

theorem deviceCount_lt (nvml : Nvml) : deviceCount nvml < 2 ^ 32 := UInt32.toNat_lt _

/-- A topology has an id exactly if the device answered, and with it the node that
the file system says. -/
theorem numaNode_info {topology : SystemTopology} (h : Describes nvml fs topology) (i : Nat) :
    topology.info.numaNode (Int.ofNat i) =
      if i < deviceCount nvml ∧ i < 2 ^ 31 then
        (pciBusIdOf nvml (UInt32.ofNat i)).map (getNumaNodeFromSys fs.readFileContent)
      else none := by
  have hcount := deviceCount_lt nvml
  unfold SystemTopologyInfo.numaNode
  cases hfind : topology.info.gpus.reverse.find? fun gpu =>
      gpu.id.toInt32.toInt = Int.ofNat i with
  | none =>
      rw [Option.map_none]
      split
      · rename_i hi
        cases hpci : pciBusIdOf nvml (UInt32.ofNat i) with
        | none => rfl
        | some pciBusId =>
            have hid : UInt32.ofNat i ∈ topology.gpus.map (·.id) := by
              rw [h.ids, List.mem_filter]
              refine ⟨List.mem_map_of_mem (List.mem_range.mpr hi.1), ?_⟩
              rw [hpci]
              rfl
            obtain ⟨gpu, hgpu, hgpuId⟩ := List.mem_map.mp hid
            have hmem : (⟨gpu.id, gpu.numaNode⟩ : GpuTopologyInfo) ∈
                topology.info.gpus.reverse :=
              List.mem_reverse.mpr (List.mem_map_of_mem hgpu)
            have hnot := List.find?_eq_none.mp hfind _ hmem
            refine absurd (decide_eq_true ((toInt_toInt32 gpu.id i).mpr ⟨?_, hi.2⟩)) hnot
            rw [hgpuId, UInt32.toNat_ofNat_of_lt' (show _ < 2 ^ 32 by omega)]
      · rfl
  | some entry =>
      have hid : entry.id.toInt32.toInt = Int.ofNat i := by
        simpa using List.find?_some hfind
      obtain ⟨hnat, hi⟩ := (toInt_toInt32 entry.id i).mp hid
      obtain ⟨gpu, hgpu, rfl⟩ :=
        List.mem_map.mp (List.mem_reverse.mp (List.mem_of_find?_eq_some hfind))
      have hdescribed := h.each gpu hgpu
      have hidmem : gpu.id ∈ topology.gpus.map (·.id) := List.mem_map_of_mem hgpu
      rw [h.ids, List.mem_filter] at hidmem
      obtain ⟨j, hj, hjid⟩ := List.mem_map.mp hidmem.1
      rw [List.mem_range] at hj
      have hji : j = i := by
        rw [← hnat]
        dsimp only
        rw [← hjid, UInt32.toNat_ofNat_of_lt' (show _ < 2 ^ 32 by omega)]
      subst hji
      rw [if_pos ⟨hj, hi⟩, hjid, hdescribed.pciBusId, Option.map_some, Option.map_some,
        hdescribed.numaNode]

/-- With the first devices there are as many entries at least. -/
theorem le_length_gpus {topology : SystemTopology} {n : Nat} (h : Describes nvml fs topology)
    (hfirst : FirstAnswer nvml n) : n ≤ topology.gpus.length := by
  obtain ⟨hcount, -, hanswer⟩ := hfirst
  have hkept : ((List.range n).map UInt32.ofNat).filter (fun i => (pciBusIdOf nvml i).isSome) =
      (List.range n).map UInt32.ofNat := by
    refine List.filter_eq_self.mpr fun id hid => ?_
    obtain ⟨i, hi, rfl⟩ := List.mem_map.mp hid
    exact hanswer i (List.mem_range.mp hi)
  have hsub : ((List.range n).map UInt32.ofNat).Sublist (topology.gpus.map (·.id)) := by
    rw [h.ids, ← hkept]
    exact ((List.range_sublist.mpr hcount).map _).filter _
  simpa using hsub.length_le

end TopologyDiscovery

namespace ReservationManagerConfigurator

open TopologyDiscovery MemorySpaceConfig

variable {M : Type} {c : ReservationManagerConfigurator M} {totalMemory : Int → UInt64}
  {nvml : Nvml} {fs : FileSystem} {topology : SystemTopology} {gpus : List GpuInfo}

theorem findGpu_ok_iff (h : Describes nvml fs topology) (i : Nat) :
    (∃ info, findGpu (availableGpus totalMemory topology.info) (Int.ofNat i) = .ok info) ↔
      i < deviceCount nvml ∧ i < 2 ^ 31 ∧ (pciBusIdOf nvml (UInt32.ofNat i)).isSome := by
  rw [findGpu, lookup_availableGpus, numaNode_info h]
  by_cases hi : i < deviceCount nvml ∧ i < 2 ^ 31
  · rw [if_pos hi]
    cases pciBusIdOf nvml (UInt32.ofNat i) with
    | none => simp
    | some pciBusId => exact iff_of_true ⟨_, rfl⟩ ⟨hi.1, hi.2, rfl⟩
  · rw [if_neg hi]
    simp only [Option.map_none, reduceCtorEq, exists_false, false_iff]
    exact fun hall => hi ⟨hall.1, hall.2.1⟩

/-- The ids from zero on are there exactly if the first devices answered. -/
theorem extractGpuIds_ok_iff (hn : 1 ≤ c.numGpus) (h : Describes nvml fs topology) :
    (∃ gpus, c.extractGpuIds totalMemory topology.info = .ok gpus) ↔
      FirstAnswer nvml c.numGpus.toNat := by
  have hne : c.numGpus ≠ 0 := by
    intro hzero
    rw [hzero] at hn
    exact absurd hn (by decide)
  have hpos : 1 ≤ c.numGpus.toNat := UInt64.le_iff_toNat_le.mp hn
  have hturns : (∃ gpus, (List.range c.numGpus.toNat).mapM (fun i =>
        findGpu (availableGpus totalMemory topology.info) (Int.ofNat i)) = .ok gpus) ↔
      FirstAnswer nvml c.numGpus.toNat := by
    rw [mapM_ok_iff]
    simp only [List.mem_range, findGpu_ok_iff h, FirstAnswer]
    constructor
    · intro hall
      obtain ⟨hlast, hfits, -⟩ := hall (c.numGpus.toNat - 1) (by omega)
      exact ⟨by omega, by omega, fun i hi => (hall i hi).2.2⟩
    · intro ⟨hcount, hfits, hall⟩ i hi
      exact ⟨by omega, by omega, hall i hi⟩
  rw [extractGpuIds]
  split
  · rename_i hfew
    refine iff_of_false ?_ fun hfirst => absurd hfew (Nat.not_lt.mpr ?_)
    · rintro ⟨gpus, hgpus⟩
      cases hgpus
    · rw [SystemTopology.info, List.length_map]
      exact le_length_gpus h hfirst
  · exact hturns

/-- A failed assertion ended the call. -/
def Asserts (e : Failure) : Prop := ∃ text, e = .assertion text

theorem getCapacity_asserts {size : FractionOrSize} {total : UInt64} {e : Failure}
    (h : size.getCapacity total = .error e) : Asserts e := by
  cases size with
  | fraction f => cases h
  | size bytes =>
      rw [FractionOrSize.getCapacity] at h
      split at h
      · cases h
      · cases h
        exact ⟨_, rfl⟩

theorem getFraction_asserts {size : FractionOrSize} {total : UInt64} {e : Failure}
    (h : size.getFraction total = .error e) : Asserts e := by
  cases size with
  | fraction f => cases h
  | size bytes =>
      rw [FractionOrSize.getFraction] at h
      split at h
      · cases h
      · cases h
        exact ⟨_, rfl⟩

theorem gpuConfig_asserts {info : GpuInfo} {e : Failure} (h : c.gpuConfig info = .error e) :
    Asserts e := by
  rw [gpuConfig] at h
  cases hcapacity : c.gpuCapacity.getCapacity info.gpuCapacity with
  | error e' =>
      rw [hcapacity] at h
      cases h
      exact getCapacity_asserts hcapacity
  | ok capacity =>
      cases hfraction : c.gpuReservation.getFraction info.gpuCapacity with
      | error e' =>
          rw [hcapacity, hfraction] at h
          cases h
          exact getFraction_asserts hfraction
      | ok fraction =>
          rw [hcapacity, hfraction] at h
          cases h

theorem hostConfig_asserts {perHost : UInt64} {info : HostInfo} {e : Failure}
    (h : c.hostConfig perHost info = .error e) : Asserts e := by
  rw [hostConfig] at h
  cases hfraction : c.cpuReservation.getFraction perHost with
  | error e' =>
      rw [hfraction] at h
      cases h
      exact getFraction_asserts hfraction
  | ok fraction =>
      rw [hfraction] at h
      cases h

theorem extractGpuIds_throws {info : SystemTopologyInfo} {e : Failure}
    (h : c.extractGpuIds totalMemory info = .error e) : ∃ ex, e = .thrown ex := by
  rw [extractGpuIds] at h
  split at h
  · cases h
    exact ⟨_, rfl⟩
  · obtain ⟨i, -, hfails⟩ := exists_of_mapM_error h
    rw [findGpu] at hfails
    split at hfails
    · cases hfails
      exact ⟨_, rfl⟩
    · cases hfails

/-- A computation that fails has failed in its first half or in its second. -/
theorem of_bind_error {α β ε : Type} {x : Except ε α} {f : α → Except ε β} {e : ε}
    (h : x >>= f = .error e) : x = .error e ∨ ∃ a, x = .ok a ∧ f a = .error e := by
  cases x with
  | error e' =>
      cases h
      exact Or.inl rfl
  | ok a => exact Or.inr ⟨a, rfl, h⟩

/-- Nothing of `build` throws but the search for the GPUs; the rest asserts. -/
theorem build_thrown_iff (info : SystemTopologyInfo) :
    (∃ e, c.build totalMemory info = .error (.thrown e)) ↔
      ¬ ∃ gpus, c.extractGpuIds totalMemory info = .ok gpus := by
  rw [build]
  constructor
  · rintro ⟨ex, h⟩ ⟨gpus, hgpus⟩
    have hasserts : Asserts (.thrown ex) := by
      rcases of_bind_error h with hextract | ⟨gpus', hextract, hrest⟩
      · rw [hgpus] at hextract
        cases hextract
      · rcases of_bind_error hrest with hgpu | ⟨gpuConfigs, hgpu, hrest⟩
        · obtain ⟨info, -, hfails⟩ := exists_of_mapM_error hgpu
          exact gpuConfig_asserts hfails
        · rcases of_bind_error hrest with hhost | ⟨hostConfigs, hhost, hrest⟩
          · obtain ⟨info, -, hfails⟩ := exists_of_mapM_error hhost
            exact hostConfig_asserts hfails
          · cases hrest
    obtain ⟨text, htext⟩ := hasserts
    cases htext
  · intro hno
    cases hgpus : c.extractGpuIds totalMemory info with
    | error e =>
        obtain ⟨ex, rfl⟩ := extractGpuIds_throws hgpus
        exact ⟨ex, rfl⟩
    | ok gpus => exact absurd ⟨gpus, hgpus⟩ hno

/-- What `build` makes of a topology that was discovered. -/
theorem build_discovered {configs : List (MemorySpaceConfig M)} (hn : 1 ≤ c.numGpus)
    (hdescribes : Describes nvml fs topology) (hfirst : FirstAnswer nvml c.numGpus.toNat)
    (hmade : c.build totalMemory topology.info = .ok configs) :
    deviceIds .GPU configs = (List.range c.numGpus.toNat).map Int.ofNat ∧
      ∃ pciBusIds : List (List Char),
        pciBusIds.map some =
            (List.range c.numGpus.toNat).map (fun i => pciBusIdOf nvml (UInt32.ofNat i)) ∧
          (c.hostCreationPolicy = .bindHostToGpuId →
            deviceIds .HOST configs = deviceIds .GPU configs) ∧
          (c.hostCreationPolicy = .bindCpuToGpuNuma → deviceIds .HOST configs =
            (pciBusIds.map (getNumaNodeFromSys fs.readFileContent)).eraseDups) := by
  obtain ⟨gpus, hgpus, -⟩ := exists_of_bind_ok (by rwa [build] at hmade)
  obtain ⟨hids, hnodes⟩ := extractGpuIds_spec hn hgpus
  obtain ⟨hgpuIds, hhostIds, -⟩ := build_tiers hgpus hmade
  refine ⟨hgpuIds.trans hids, (List.range c.numGpus.toNat).map fun i =>
    (pciBusIdOf nvml (UInt32.ofNat i)).getD [], ?_, fun hpolicy => ?_, fun hpolicy => ?_⟩
  · rw [List.map_map]
    refine List.map_congr_left fun i hi => ?_
    obtain ⟨pciBusId, hpci⟩ :=
      Option.isSome_iff_exists.mp (hfirst.2.2 i (List.mem_range.mp hi))
    rw [Function.comp_apply, hpci, Option.getD_some]
  · rw [hhostIds, map_extractHostIds, hpolicy, hgpuIds]
  · have hnodesOf : gpus.map (·.numaId) = ((List.range c.numGpus.toNat).map fun i =>
        (pciBusIdOf nvml (UInt32.ofNat i)).getD []).map
          (getNumaNodeFromSys fs.readFileContent) := by
      refine List.map_injective_iff.mpr (Option.some_injective Int) ?_
      rw [List.map_map, List.map_map, List.map_map]
      refine hnodes.trans (List.map_congr_left fun i hi => ?_)
      have hlt := List.mem_range.mp hi
      obtain ⟨hcount, hfits, hall⟩ := hfirst
      obtain ⟨pciBusId, hpci⟩ := Option.isSome_iff_exists.mp (hall i hlt)
      rw [numaNode_info hdescribes, if_pos ⟨by omega, by omega⟩, hpci]
      simp only [Function.comp_apply, Option.map_some, hpci, Option.getD_some]
    rw [hhostIds, map_extractHostIds, hpolicy, hnodesOf]

/-- Two devices, the first without PCI information. -/
def firstUnknown : Nvml where
  available := true
  init := true
  deviceCount := some 2
  device i := some ⟨none, if i = 0 then none else some "00000000:0B:00.0".toList, none⟩

def noFiles : FileSystem where
  readFileContent _ := []
  directory _ := none
  canonicalName _ := none
  hostname := none

end ReservationManagerConfigurator

end CuCascade.Memory

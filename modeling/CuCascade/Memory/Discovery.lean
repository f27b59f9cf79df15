import CuCascade.Lib.Machine
import CuCascade.Memory.Configurator
import CuCascade.Memory.TopologyDiscovery

/-!
# `topology_discovery`

`discover` asks NVML for the GPUs and reads the rest from files. What NVML
answers and what the file system contains are parameters; a call may find other
answers than the one before it.

NVML counts how often it has been initialised and shut down. The count outlives
the `topology_discovery`, so it is kept beside what was discovered. A text that
`stoi` cannot read throws, and no handler is in the way but those of the two
directory scans.
-/

namespace CuCascade.Memory

open Text

/-! ## What the system answers -/

/-- The answers of `nvmlDeviceGetName`, `nvmlDeviceGetPciInfo_v3` and
`nvmlDeviceGetUUID` for a device; nothing where the call fails. -/
structure NvmlDevice where
  name : Option (List Char)
  pciInfo : Option (List Char)
  uuid : Option (List Char)
deriving DecidableEq

structure Nvml where
  /-- the library is there, with all of its functions -/
  available : Bool
  /-- `nvmlInit_v2` succeeds -/
  init : Bool
  /-- `nvmlDeviceGetCount_v2` -/
  deviceCount : Option UInt32
  /-- `nvmlDeviceGetHandleByIndex_v2` -/
  device : UInt32 → Option NvmlDevice

structure DirectoryEntry where
  name : List Char
  isDirectory : Bool
deriving DecidableEq

/-- What an iteration over a directory finds, and whether it then fails. -/
structure Directory where
  entries : List DirectoryEntry
  fails : Bool
deriving DecidableEq

structure FileSystem where
  readFileContent : List Char → List Char
  directory : List Char → Option Directory
  /-- the file name of the canonical path of a link, if it exists and has one -/
  canonicalName : List Char → Option (List Char)
  hostname : Option (List Char)

/-! ## What is discovered -/

inductive StorageDriveType where
  | NVME | SATA_SSD | SATA_HDD | UNKNOWN
deriving DecidableEq, Repr

/-- `struct storage_device_info`. -/
structure StorageDeviceInfo where
  type : StorageDriveType
  name : List Char
  numaNode : Int
  pciBusId : List Char
deriving DecidableEq

/-- `struct gpu_topology_info`. -/
structure GpuTopology where
  id : UInt32
  name : List Char
  pciBusId : List Char
  uuid : List Char
  numaNode : Int
  cpuAffinityList : List Char
  cpuCores : List Int
  memoryBinding : List Int
  networkDevices : List (List Char)
deriving DecidableEq

/-- `struct system_topology_info`. -/
structure SystemTopology where
  hostname : List Char
  numGpus : UInt32
  numNumaNodes : Int
  numNetworkDevices : Int
  gpus : List GpuTopology
  networkDevices : List NetworkDeviceInfo
  storageDevices : List StorageDeviceInfo
deriving DecidableEq

/-- What the configurator reads of it. -/
def SystemTopology.info (topology : SystemTopology) : SystemTopologyInfo :=
  ⟨topology.gpus.map fun gpu => ⟨gpu.id, gpu.numaNode⟩⟩

/-- What leaves `discover` as an exception, or is undefined. -/
inductive DiscoverFailure where
  | cpuList (e : CpuListFailure)
  | pciePath (e : StoiError)
deriving DecidableEq, Repr

/-! ## The scans of the file system -/

namespace FileSystem

variable (fs : FileSystem)

/-- `get_pci_bus_id_from_device`. -/
def getPciBusIdFromDevice (devicePath : List Char) : List Char :=
  (fs.canonicalName (devicePath ++ "/device".toList)).getD []

/-- The loop over the entries of `path`. The exception of `stoi` leaves it, and the
devices found before are kept. -/
def scanEntries {D : Type} (make : List Char → Int → List Char → D) (path : List Char) :
    List DirectoryEntry → List D
  | [] => []
  | entry :: entries =>
      if entry.isDirectory then
        let entryPath := path ++ '/' :: entry.name
        let numaStr := fs.readFileContent (entryPath ++ "/device/numa_node".toList)
        match if numaStr = [] then .ok (-1) else stoi 10 numaStr with
        | .error _ => []
        | .ok numaNode =>
            make entry.name numaNode (fs.getPciBusIdFromDevice entryPath) ::
              scanEntries make path entries
      else scanEntries make path entries

/-- Both scans for devices. -/
def scanDevices {D : Type} (make : List Char → Int → List Char → D) (path : List Char) :
    List D :=
  match fs.directory path with
  | none => []
  | some dir => fs.scanEntries make path dir.entries

/-- `discover_network_devices_with_topology`, with the conversion to the public type. -/
def discoverNetworkDevicesWithTopology : List NetworkDeviceInfo :=
  fs.scanDevices .mk "/sys/class/infiniband".toList

def discoverStorageDevicesWithTopology : List StorageDeviceInfo :=
  fs.scanDevices (.mk .NVME) "/sys/class/nvme".toList

def countNumaNodes : Int :=
  match fs.directory "/sys/devices/system/node".toList with
  | none => 0
  | some dir =>
      if dir.fails then 0
      else dir.entries.countP fun entry => "node".toList.isPrefixOf entry.name

def getHostname : List Char := fs.hostname.getD []

end FileSystem

/-! ## Discovery -/

/-- A `topology_discovery`, and how often NVML has been initialised without having
been shut down. -/
structure TopologyDiscovery where
  topology : Option SystemTopology
  nvmlReferences : Nat

namespace TopologyDiscovery

section

variable (nvml : Nvml) (fs : FileSystem)

/-- `nvmlInit_v2` is called, and succeeds. -/
def initialised : Bool := nvml.available && nvml.init

/-- The device count, if there is one. -/
def countDevices : Option UInt32 := if initialised nvml then nvml.deviceCount else none

/-- What the loop adds for a device whose PCI information is known. -/
def describeGpu (networkDevices : List NetworkDeviceInfo) (i : UInt32) (device : NvmlDevice)
    (pciBusId : List Char) : Except DiscoverFailure GpuTopology :=
  let numaNode := getNumaNodeFromSys fs.readFileContent pciBusId
  let cpuAffinityList := getCpuAffinityFromSys fs.readFileContent pciBusId
  match parseCpuList cpuAffinityList with
  | .error e => .error (.cpuList e)
  | .ok cpuCores =>
      match mapNetworkDevicesToGpu (getPciePathType fs.readFileContent) pciBusId numaNode
          networkDevices with
      | .error e => .error (.pciePath e)
      | .ok mapped =>
          .ok {
            id := i
            name := device.name.getD "Unknown".toList
            pciBusId
            uuid := device.uuid.getD "Unknown".toList
            numaNode
            cpuAffinityList
            cpuCores
            memoryBinding := if 0 ≤ numaNode then [numaNode] else []
            networkDevices := mapped }

/-- A turn of the loop over the devices. One that has no handle, or whose PCI
information cannot be had, is passed over. -/
def visitDevice (networkDevices : List NetworkDeviceInfo) (gpus : List GpuTopology) (i : Nat) :
    Except DiscoverFailure (List GpuTopology) :=
  match nvml.device (UInt32.ofNat i) with
  | none => .ok gpus
  | some device =>
      match device.pciInfo with
      | none => .ok gpus
      | some pciBusId =>
          match describeGpu fs networkDevices (UInt32.ofNat i) device pciBusId with
          | .error e => .error e
          | .ok gpu => .ok (gpus ++ [gpu])

def discover (this : TopologyDiscovery) : TopologyDiscovery × Except DiscoverFailure Bool :=
  let references :=
    if initialised nvml then this.nvmlReferences + 1 else this.nvmlReferences
  let nvmlAvailable := (countDevices nvml).isSome
  let deviceCount := (countDevices nvml).getD 0
  let networkDevices := fs.discoverNetworkDevicesWithTopology
  match (List.range deviceCount.toNat).foldlM (visitDevice nvml fs networkDevices) [] with
  | .error e => ({ this with nvmlReferences := references }, .error e)
  | .ok gpus =>
      let topology : SystemTopology := {
        hostname := fs.getHostname
        numGpus := deviceCount
        numNumaNodes := fs.countNumaNodes
        numNetworkDevices := (UInt32.ofNat networkDevices.length).toInt32.toInt
        gpus
        networkDevices
        storageDevices := fs.discoverStorageDevicesWithTopology }
      ({ topology := some topology
         nvmlReferences := if nvmlAvailable then references - 1 else references }, .ok true)

end

def getTopology (this : TopologyDiscovery) : Option SystemTopology := this.topology

def isDiscovered (this : TopologyDiscovery) : Bool := this.topology.isSome

def fresh : TopologyDiscovery := ⟨none, 0⟩

/-- The calls of `discover`, each with what it finds. -/
def machine : Machine TopologyDiscovery (Nvml × FileSystem) where
  start this := this = fresh
  legal _ _ := True
  next this found := (this.discover found.1 found.2).1

end TopologyDiscovery

/-- What ends `build()`. -/
inductive BuildFailure where
  | discovering (e : DiscoverFailure)
  | building (e : Failure)

/-- `build()`, which discovers the topology itself. -/
def ReservationManagerConfigurator.buildDiscovered {M : Type}
    (c : ReservationManagerConfigurator M) (totalMemory : Int → UInt64) (nvml : Nvml)
    (fs : FileSystem) : Except BuildFailure (List (MemorySpaceConfig M)) :=
  match TopologyDiscovery.fresh.discover nvml fs with
  | (_, .error e) => .error (.discovering e)
  | (this, .ok _) =>
      match this.getTopology with
      -- `value()` of an empty optional; `discover` has returned, so it is not empty
      | none => .error (.building (.thrown (.stdException "bad optional access")))
      | some topology =>
          match c.build totalMemory topology.info with
          | .error e => .error (.building e)
          | .ok configs => .ok configs

end CuCascade.Memory

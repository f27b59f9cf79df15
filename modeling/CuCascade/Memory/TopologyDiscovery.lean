import CuCascade.Lib.Text
import Mathlib.Order.Basic

/-!
# `memory/topology_discovery.cpp`: what is parsed and selected

Discovery reads texts, from NVML and from files under `/sys`, and decides by
them which cores and which network devices are near a GPU. The functions of
this file are its pure part. A file is what `read_file_content` makes of a
path, so the file system is a function from paths to contents; a file that
cannot be read is the empty text.

Strings are lists of characters. The library functions at work, `getline`,
`find` and `stoi`, are those of the text library.
-/

namespace CuCascade.Memory

open Text

/-- `enum class PciePathType`, from the best to the worst. -/
inductive PciePathType where
  | PIX | PXB | PHB | NODE | SYS
deriving DecidableEq, Repr

/-- The value of an enumerator. -/
def PciePathType.value : PciePathType → Nat
  | PIX => 0
  | PXB => 1
  | PHB => 2
  | NODE => 3
  | SYS => 4

instance : LinearOrder PciePathType :=
  LinearOrder.lift' PciePathType.value fun a b h => by cases a <;> cases b <;> cases h <;> rfl

/-- `struct network_device_info`. -/
structure NetworkDeviceInfo where
  name : List Char
  numaNode : Int
  pciBusId : List Char
deriving DecidableEq, Repr

/-! ## Core lists -/

/-- How reading a core list fails: by what `stoi` throws, or by an `int` that
is counted past its largest value, which is undefined. -/
inductive CpuListFailure where
  | thrown (e : StoiError)
  | intOverflow
deriving DecidableEq, Repr

/-- The largest `int`. -/
def intMax : Int := 2 ^ 31 - 1

/-- `for (int i = start; i <= end; ++i) cores.push_back(i)`. -/
def pushRange (i last : Int) (cores : List Int) : Except CpuListFailure (List Int) :=
  if i ≤ last then
    -- the core is pushed, and then `i` has no successor
    if i = intMax then .error .intOverflow
    else pushRange (i + 1) last (cores ++ [i])
  else .ok cores
termination_by (last + 1 - i).toNat

/-- The body of the loop over the tokens. -/
def pushToken (cores : List Int) (token : List Char) :
    Except CpuListFailure (List Int) :=
  let dashPos := token.idxOf '-'
  if dashPos ≠ token.length then
    match stoi 10 (token.take dashPos) with
    | .error e => .error (.thrown e)
    | .ok start =>
        match stoi 10 (token.drop (dashPos + 1)) with
        | .error e => .error (.thrown e)
        | .ok last => pushRange start last cores
  else
    match stoi 10 token with
    | .error e => .error (.thrown e)
    | .ok core => .ok (cores ++ [core])

/-- `parse_cpu_list`. -/
def parseCpuList (cpulist : List Char) : Except CpuListFailure (List Int) :=
  if cpulist = [] then .ok []
  else (getlines ',' cpulist).foldlM pushToken []

/-! ## PCI bus ids -/

/-- `normalize_pci_bus_id`. -/
def normalizePciBusId (pciBusId : List Char) : List Char :=
  let colonPos := pciBusId.idxOf ':'
  if colonPos = pciBusId.length then pciBusId
  else
    let domain := pciBusId.take colonPos
    let domain := if 4 < domain.length then domain.drop (domain.length - 4) else domain
    (domain ++ pciBusId.drop colonPos).map Char.toLower

/-- The path of a file of a PCI device. -/
def devicePath (pciBusId : List Char) (file : String) : List Char :=
  "/sys/bus/pci/devices/".toList ++ pciBusId ++ file.toList

/-- `get_pci_bus_number`. -/
def getPciBusNumber (pciId : List Char) : Int :=
  let firstColon := pciId.idxOf ':'
  if firstColon = pciId.length then -1
  else
    let afterColon := pciId.drop (firstColon + 1)
    let busLength := afterColon.idxOf ':'
    if busLength = afterColon.length then -1
    else
      match stoi 16 (afterColon.take busLength) with
      | .ok bus => bus
      | .error _ => -1

section

variable (readFileContent : List Char → List Char)

/-- `get_numa_node_from_sys`. -/
def getNumaNodeFromSys (pciBusId : List Char) : Int :=
  let content := readFileContent (devicePath (normalizePciBusId pciBusId) "/numa_node")
  if content = [] then -1
  else
    match stoi 10 content with
    | .ok node => node
    | .error _ => -1

/-- `get_cpu_affinity_from_sys`. -/
def getCpuAffinityFromSys (pciBusId : List Char) : List Char :=
  readFileContent (devicePath (normalizePciBusId pciBusId) "/local_cpulist")

/-- The NUMA node as `get_pcie_path_type` reads it, which lets `stoi` throw. -/
def readNumaNode (pciBusId : List Char) : Except StoiError Int :=
  let content := readFileContent (devicePath (normalizePciBusId pciBusId) "/numa_node")
  if content = [] then .ok (-1) else stoi 10 content

/-- `get_pcie_path_type` -/
def getPciePathType (gpuPciId nicPciId : List Char) : Except StoiError PciePathType := do
  let gpuNuma ← readNumaNode readFileContent gpuPciId
  let nicNuma ← readNumaNode readFileContent nicPciId
  let gpuBus := getPciBusNumber gpuPciId
  let nicBus := getPciBusNumber nicPciId
  let busDistance := (gpuBus - nicBus).natAbs
  pure <|
    if gpuNuma ≠ nicNuma ∧ 0 ≤ gpuNuma ∧ 0 ≤ nicNuma then .SYS
    else if gpuBus < 0 ∨ nicBus < 0 then .PHB
    else if busDistance ≤ 2 then .PIX
    else if busDistance ≤ 10 then .PHB
    else .NODE

end

/-! ## The selection of network devices -/

/-- `struct NicWithPath`. -/
structure NicWithPath where
  name : List Char
  pathType : PciePathType
deriving DecidableEq, Repr

/-- The best (lowest) path type. -/
def bestPathType (nicsWithPaths : List NicWithPath) : PciePathType :=
  nicsWithPaths.foldl
    (fun best nic => if nic.pathType < best then nic.pathType else best) .SYS

/-- `map_network_devices_to_gpu`, given what it calls for the path type. -/
def mapNetworkDevicesToGpu
    (getPciePathType : List Char → List Char → Except StoiError PciePathType)
    (gpuPciId : List Char) (gpuNumaNode : Int)
    (networkDevices : List NetworkDeviceInfo) : Except StoiError (List (List Char)) := do
  -- devices without PCI information are skipped
  let nicsWithPaths ← (networkDevices.filter fun dev => dev.pciBusId ≠ []).mapM fun dev => do
    let pathType ← getPciePathType gpuPciId dev.pciBusId
    pure (NicWithPath.mk dev.name pathType)
  if nicsWithPaths = [] then pure []
  else
    let best := bestPathType nicsWithPaths
    let mappedDevices := (nicsWithPaths.filter fun nic => nic.pathType = best).map (·.name)
    let mappedDevices :=
      if mappedDevices = [] then
        (networkDevices.filter fun dev => dev.numaNode = gpuNumaNode).map (·.name)
      else mappedDevices
    pure <|
      if mappedDevices = [] ∧ networkDevices ≠ [] then networkDevices.map (·.name)
      else mappedDevices

end CuCascade.Memory

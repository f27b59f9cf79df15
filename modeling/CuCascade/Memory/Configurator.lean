import Mathlib.Algebra.Order.Field.Rat
import Mathlib.Data.Rat.Floor
import CuCascade.Lib.Share
import CuCascade.Lib.Table
import CuCascade.Memory.Common

/-!
# `reservation_manager_configurator`

The settings of a reservation manager, and the configurations of memory spaces
that `build` makes of them and of the topology of the machine. A `double` is a
rational here, and `none` stands for what is not a number. An assertion that
does not hold ends the call.

A limit that was set in bytes is turned into a fraction by the configurator, and
the configuration turns the fraction into bytes again.
-/

namespace CuCascade.Memory

open Share

/-- A factory is called with a device and a capacity. -/
abbrev DeviceMemoryResourceFactoryFn (M : Type) := Int → UInt64 → M

def defaultBlockSize : UInt64 := (1 : UInt64) <<< 20

def defaultPoolSize : UInt64 := 128

def defaultInitialNumberPools : UInt64 := 4

/-! ## Configurations -/

/-- A fraction that the setters accept. -/
structure Ratio where
  value : Rat
  pos : 0 < value
  le_one : value ≤ 1
deriving DecidableEq

/-- The conversion of a `double` to a `size_t`, defined for what it can hold. -/
def toSize (x : Rat) : Option UInt64 :=
  if -1 < x ∧ x < 2 ^ 64 then some (UInt64.ofNat ⌊x⌋₊) else none

structure GpuMemorySpaceConfig (M : Type) where
  deviceId : Int
  reservationLimitFraction : Option Rat
  downgradeTriggerFraction : Ratio
  downgradeStopFraction : Ratio
  memoryCapacity : UInt64
  perStreamReservation : Bool
  mrFactoryFn : DeviceMemoryResourceFactoryFn M

structure HostMemorySpaceConfig (M : Type) where
  numaId : Int
  reservationLimitFraction : Option Rat
  downgradeTriggerFraction : Ratio
  downgradeStopFraction : Ratio
  memoryCapacity : UInt64
  blockSize : UInt64
  poolSize : UInt64
  initialNumberPools : UInt64
  mrFactoryFn : DeviceMemoryResourceFactoryFn M

structure DiskMemorySpaceConfig where
  diskId : Int
  memoryCapacity : UInt64
  mountPaths : String

inductive MemorySpaceConfig (M : Type) where
  | gpu (config : GpuMemorySpaceConfig M)
  | host (config : HostMemorySpaceConfig M)
  | disk (config : DiskMemorySpaceConfig)

namespace MemorySpaceConfig

variable {M : Type}

def tier : MemorySpaceConfig M → Tier
  | .gpu _ => .GPU
  | .host _ => .HOST
  | .disk _ => .DISK

/-- The id that the space of a configuration gets. -/
def id : MemorySpaceConfig M → MemorySpaceId
  | .gpu config => ⟨.GPU, config.deviceId⟩
  | .host config => ⟨.HOST, config.numaId⟩
  | .disk config => ⟨.DISK, config.diskId⟩

def memoryCapacity : MemorySpaceConfig M → UInt64
  | .gpu config => config.memoryCapacity
  | .host config => config.memoryCapacity
  | .disk config => config.memoryCapacity

@[simp] theorem tier_id (config : MemorySpaceConfig M) : config.id.tier = config.tier := by
  cases config <;> rfl

end MemorySpaceConfig

/-- What both `reservation_limit` compute. -/
def limitOf (memoryCapacity : UInt64) (fraction : Option Rat) : Option UInt64 :=
  fraction.bind fun f => toSize ((memoryCapacity.toNat : Rat) * f)

def GpuMemorySpaceConfig.reservationLimit {M : Type} (config : GpuMemorySpaceConfig M) :
    Option UInt64 :=
  limitOf config.memoryCapacity config.reservationLimitFraction

def HostMemorySpaceConfig.reservationLimit {M : Type} (config : HostMemorySpaceConfig M) :
    Option UInt64 :=
  limitOf config.memoryCapacity config.reservationLimitFraction

def DiskMemorySpaceConfig.reservationLimit (config : DiskMemorySpaceConfig) :
    Option UInt64 :=
  some config.memoryCapacity

def MemorySpaceConfig.reservationLimit {M : Type} : MemorySpaceConfig M → Option UInt64
  | .gpu config => config.reservationLimit
  | .host config => config.reservationLimit
  | .disk config => config.reservationLimit

/-! ## Settings -/

inductive FractionOrSize where
  | fraction (f : Ratio)
  | size (bytes : UInt64)
deriving DecidableEq

namespace FractionOrSize

def getFraction (s : FractionOrSize) (totalSize : UInt64) : Except Failure (Option Rat) :=
  match s with
  | .fraction f => .ok (some f.value)
  | .size bytes =>
      if bytes ≤ totalSize then
        .ok (if totalSize = 0 then none
          else some ((bytes.toNat : Rat) / (totalSize.toNat : Rat)))
      else .error (.assertion "std::get<size_t>(_fraction_or_size_value) <= total_size")

def getCapacity (s : FractionOrSize) (totalSize : UInt64) : Except Failure UInt64 :=
  match s with
  | .fraction f => .ok (UInt64.ofNat (share totalSize.toNat f.value))
  | .size bytes =>
      if bytes ≤ totalSize ∧ 0 < totalSize then .ok bytes
      else .error (.assertion
        "std::get<size_t>(_fraction_or_size_value) <= total_size && total_size > 0")

end FractionOrSize

inductive HostCreationPolicy where
  | bindCpuToGpuNuma | bindHostToGpuId
deriving DecidableEq, Repr

/-- The configurator with the values of its members. -/
structure ReservationManagerConfigurator (M : Type) where
  numGpus : UInt64 := 1
  perStreamGpuReservation : Bool := true
  gpuCapacity : FractionOrSize := .size ((1 : UInt64) <<< 30)
  gpuReservation : FractionOrSize := .fraction ⟨85 / 100, by norm_num, by norm_num⟩
  downgradeFractionsPerGpu : Ratio × Ratio :=
    (⟨85 / 100, by norm_num, by norm_num⟩, ⟨65 / 100, by norm_num, by norm_num⟩)
  gpuMrFn : DeviceMemoryResourceFactoryFn M
  hostCapacity : UInt64 := (4 : UInt64) <<< 30
  isCapacityPerSpace : Bool := true
  hostCreationPolicy : HostCreationPolicy := .bindCpuToGpuNuma
  chunkSize : Option UInt64 := none
  blockSize : Option UInt64 := none
  initialBlockCount : Option UInt64 := none
  downgradeFractionsPerHost : Ratio × Ratio :=
    (⟨85 / 100, by norm_num, by norm_num⟩, ⟨65 / 100, by norm_num, by norm_num⟩)
  cpuReservation : FractionOrSize := .fraction ⟨85 / 100, by norm_num, by norm_num⟩
  cpuMrFn : DeviceMemoryResourceFactoryFn M
  diskMountingPoints : List (Int × UInt64 × String) := []

/-- The assertion of the setters that take a fraction. -/
def checkRatio (text : String) (fraction : Rat) : Except Failure Ratio :=
  if h : 0 < fraction ∧ fraction ≤ 1 then .ok ⟨fraction, h.1, h.2⟩
  else .error (.assertion text)

/-- The assertion of the setters that take a number. -/
def checkPositive (text : String) (n : UInt64) : Except Failure UInt64 :=
  if 0 < n then .ok n else .error (.assertion text)

namespace ReservationManagerConfigurator

variable {M : Type} (c : ReservationManagerConfigurator M)

def setNumberOfGpus (nGpus : UInt64) : Except Failure (ReservationManagerConfigurator M) :=
  (checkPositive "Number of GPUs must be positive" nGpus).map fun n =>
    { c with numGpus := n }

def setGpuUsageLimit (bytes : UInt64) : ReservationManagerConfigurator M :=
  { c with gpuCapacity := .size bytes }

def setUsageLimitRatioPerGpu (fraction : Rat) :
    Except Failure (ReservationManagerConfigurator M) :=
  (checkRatio "Usage limit ratio must be in (0.0, 1.0]" fraction).map fun f =>
    { c with gpuCapacity := .fraction f }

def setReservationLimitPerGpu (bytes : UInt64) : ReservationManagerConfigurator M :=
  { c with gpuReservation := .size bytes }

def setReservationFractionPerGpu (fraction : Rat) :
    Except Failure (ReservationManagerConfigurator M) :=
  (checkRatio "Reservation limit ratio must be in (0.0, 1.0]" fraction).map fun f =>
    { c with gpuReservation := .fraction f }

/-- The assertions of both setters of downgrade fractions. -/
def checkFractions (start stop : Rat) : Except Failure (Ratio × Ratio) := do
  let start ← checkRatio "Start fraction must be in (0.0, 1.0]" start
  let stop ← checkRatio "End fraction must be in (0.0, 1.0]" stop
  return (start, stop)

def setDowngradeFractionsPerGpu (start stop : Rat) :
    Except Failure (ReservationManagerConfigurator M) :=
  (checkFractions start stop).map fun fs => { c with downgradeFractionsPerGpu := fs }

def trackReservationPerStream (enable : Bool) : ReservationManagerConfigurator M :=
  { c with perStreamGpuReservation := enable }

def useHostPerGpu : ReservationManagerConfigurator M :=
  { c with hostCreationPolicy := .bindHostToGpuId }

def useHostPerNuma : ReservationManagerConfigurator M :=
  { c with hostCreationPolicy := .bindCpuToGpuNuma }

def setTotalHostCapacity (bytes : UInt64) :
    Except Failure (ReservationManagerConfigurator M) :=
  (checkPositive "Total host capacity must be positive" bytes).map fun n =>
    { c with
      hostCapacity := n
      isCapacityPerSpace := false }

def setPerHostCapacity (bytes : UInt64) :
    Except Failure (ReservationManagerConfigurator M) :=
  (checkPositive "Capacity per NUMA node must be positive" bytes).map fun n =>
    { c with
      hostCapacity := n
      isCapacityPerSpace := true }

def setDowngradeFractionsPerHost (start stop : Rat) :
    Except Failure (ReservationManagerConfigurator M) :=
  (checkFractions start stop).map fun fs => { c with downgradeFractionsPerHost := fs }

def setReservationFractionPerHost (fraction : Rat) :
    Except Failure (ReservationManagerConfigurator M) :=
  (checkRatio "Reservation limit ratio must be in (0.0, 1.0]" fraction).map fun f =>
    { c with cpuReservation := .fraction f }

def setReservationLimitPerHost (bytes : UInt64) : ReservationManagerConfigurator M :=
  { c with cpuReservation := .size bytes }

def setHostPoolFeatures (chunkSize blockSize initialBlockCount : UInt64) :
    Except Failure (ReservationManagerConfigurator M) := do
  let chunkSize ← checkPositive "Chunk size must be positive" chunkSize
  let blockSize ← checkPositive "Block size must be positive" blockSize
  let initialBlockCount ←
    checkPositive "Initial block count must be positive" initialBlockCount
  return { c with
    chunkSize := some chunkSize
    blockSize := some blockSize
    initialBlockCount := some initialBlockCount }

def setGpuMemoryResourceFactory (mrFn : DeviceMemoryResourceFactoryFn M) :
    ReservationManagerConfigurator M :=
  { c with gpuMrFn := mrFn }

def setHostMemoryResourceFactory (mrFn : DeviceMemoryResourceFactoryFn M) :
    ReservationManagerConfigurator M :=
  { c with cpuMrFn := mrFn }

def setDiskMountingPoint (uuid : Int) (capacity : UInt64) (mountingPoint : String) :
    Except Failure (ReservationManagerConfigurator M) :=
  if mountingPoint.isEmpty then .error (.assertion "Mounting point cannot be empty")
  else .ok { c with
    diskMountingPoints := c.diskMountingPoints ++ [(uuid, capacity, mountingPoint)] }

end ReservationManagerConfigurator

/-! ## Building -/

/-- What `build` reads of a `gpu_topology_info`. -/
structure GpuTopologyInfo where
  id : UInt32
  numaNode : Int

structure SystemTopologyInfo where
  gpus : List GpuTopologyInfo

structure GpuInfo where
  spaceId : Int
  hwId : Int
  gpuCapacity : UInt64
  numaId : Int
deriving DecidableEq, Repr

structure HostInfo where
  spaceId : Int
  numaId : Int
deriving DecidableEq, Repr

namespace ReservationManagerConfigurator

variable {M : Type} (c : ReservationManagerConfigurator M)

/-- The loop over the GPUs of the topology; `totalMemory` is what the driver says
of a device. -/
def availableGpus (totalMemory : Int → UInt64) (topology : SystemTopologyInfo) :
    Table Int (UInt64 × Int) :=
  topology.gpus.foldl
    (fun available gpu =>
      let deviceId := gpu.id.toInt32.toInt
      available.insert deviceId (totalMemory deviceId, gpu.numaNode)) ∅

def findGpu (available : Table Int (UInt64 × Int)) (gpuId : Int) :
    Except Failure GpuInfo :=
  match available.lookup gpuId with
  | none => .error (.thrown (.runtimeError
      ("Requested GPU ID " ++ toString gpuId ++
        " is not available in the system topology")))
  | some (total, numaNode) => .ok ⟨gpuId, gpuId, total, numaNode⟩

def extractGpuIds (totalMemory : Int → UInt64) (topology : SystemTopologyInfo) :
    Except Failure (List GpuInfo) :=
  if topology.gpus.length < c.numGpus.toNat then
    .error (.thrown (.runtimeError "Requested number of GPUs exceeds available GPUs"))
  else
    let numGpus := if c.numGpus = 0 then topology.gpus.length else c.numGpus.toNat
    (List.range numGpus).mapM fun i =>
      findGpu (availableGpus totalMemory topology) (Int.ofNat i)

/-- The loop that makes one host for each NUMA node, with the nodes that have
theirs. -/
def hostPerNuma : List GpuInfo → List Int → List HostInfo
  | [], _ => []
  | gpu :: gpus, hostIds =>
      if gpu.numaId ∈ hostIds then hostPerNuma gpus hostIds
      else ⟨gpu.numaId, gpu.numaId⟩ :: hostPerNuma gpus (gpu.numaId :: hostIds)

def extractHostIds (gpus : List GpuInfo) : List HostInfo :=
  match c.hostCreationPolicy with
  | .bindHostToGpuId => gpus.map fun gpu => ⟨gpu.spaceId, gpu.numaId⟩
  | .bindCpuToGpuNuma => hostPerNuma gpus []

/-- A factory for a space that goes by another id than its hardware. -/
def factoryFor (mrFn : DeviceMemoryResourceFactoryFn M) (spaceId hwId : Int) :
    DeviceMemoryResourceFactoryFn M :=
  if spaceId = hwId then mrFn else fun _ capacity => mrFn hwId capacity

/-- A turn of the loop of `build` over the GPUs. -/
def gpuConfig (info : GpuInfo) : Except Failure (GpuMemorySpaceConfig M) := do
  let memoryCapacity ← c.gpuCapacity.getCapacity info.gpuCapacity
  let reservationLimitFraction ← c.gpuReservation.getFraction info.gpuCapacity
  return {
    deviceId := info.spaceId
    memoryCapacity
    mrFactoryFn := factoryFor c.gpuMrFn info.spaceId info.hwId
    reservationLimitFraction
    downgradeTriggerFraction := c.downgradeFractionsPerGpu.1
    downgradeStopFraction := c.downgradeFractionsPerGpu.2
    perStreamReservation := c.perStreamGpuReservation }

/-- The capacity of a host among so many. -/
def perHostCapacity (hosts : Nat) : UInt64 :=
  if hosts ≤ 1 then c.hostCapacity
  else if c.isCapacityPerSpace then c.hostCapacity
  else c.hostCapacity / UInt64.ofNat hosts

/-- A turn of the loop over the hosts. The two sizes of the pool are taken from
settings of other names. -/
def hostConfig (perHostCapacity : UInt64) (info : HostInfo) :
    Except Failure (HostMemorySpaceConfig M) := do
  let reservationLimitFraction ← c.cpuReservation.getFraction perHostCapacity
  return {
    numaId := info.spaceId
    memoryCapacity := perHostCapacity
    mrFactoryFn := factoryFor c.cpuMrFn info.spaceId info.numaId
    reservationLimitFraction
    downgradeTriggerFraction := c.downgradeFractionsPerHost.1
    downgradeStopFraction := c.downgradeFractionsPerHost.2
    blockSize := c.chunkSize.getD defaultBlockSize
    poolSize := c.blockSize.getD defaultPoolSize
    initialNumberPools := c.initialBlockCount.getD defaultInitialNumberPools }

def diskConfig (dinfo : Int × UInt64 × String) : DiskMemorySpaceConfig where
  diskId := dinfo.1
  mountPaths := dinfo.2.2
  memoryCapacity := dinfo.2.1

def build (totalMemory : Int → UInt64) (topology : SystemTopologyInfo) :
    Except Failure (List (MemorySpaceConfig M)) := do
  let gpus ← c.extractGpuIds totalMemory topology
  let hosts := c.extractHostIds gpus
  let gpuConfigs ← gpus.mapM c.gpuConfig
  let hostConfigs ← hosts.mapM (c.hostConfig (c.perHostCapacity hosts.length))
  return gpuConfigs.map .gpu ++ hostConfigs.map .host ++
    c.diskMountingPoints.map fun dinfo => .disk (diskConfig dinfo)

end ReservationManagerConfigurator

end CuCascade.Memory

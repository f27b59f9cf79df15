import CuCascade.Memory.Configurator
import CuCascade.Memory.Downgrading
import CuCascade.Memory.ReservationManager

/-!
# The constructor of `memory_reservation_manager`

A manager is made of a list of configurations: each of them becomes a space, and
`build_lookup_tables` enters the spaces in five tables. Two of these are keyed,
and an entry with a key that is there already takes its place.

What a space is made of comes from outside: the memory resource of its factory,
the streams of its device, and the first pools of a host. `SpaceParts` says how
each of these ends. A configuration that is not set (`std::monostate`) is `none`.

The sums over the spaces are taken with the limiters as they are at the time.
-/

namespace CuCascade.Memory

/-! ## Making the spaces -/

/-- What the constructor of a space gets from elsewhere: whether the factory makes
a resource, the streams, the memory of a pool, and what a `double` becomes that a
`size_t` cannot hold. -/
structure SpaceParts (M : Type) where
  factory : M → Except Exception Bool
  streamPool : Int → Except Exception Unit
  pool : M → Nat → UInt64 → Except Exception Addr
  undefinedSize : UInt64

/-- A space as the manager makes it, with the capacity that its limiter shows. -/
structure ManagedSpace extends MemorySpace where
  capacity : UInt64

/-- An exception out of something that was called. -/
def rethrow {α : Type} : Except Exception α → Except Failure α
  | .error e => .error (.thrown e)
  | .ok a => .ok a

def requireAllocator (present : Bool) : Except Failure Unit :=
  if present then .ok ()
  else .error (.thrown (.stdException "At least one allocator must be provided"))

/-- The loop over the initial pools in the constructor of the host resource. -/
def initialPools (pool : Nat → UInt64 → Except Exception Addr) (bytes : UInt64) (n : Nat) :
    Except Exception (List Addr) :=
  (List.range n).mapM fun i => pool i bytes

/-- The constructor of `memory_space` for each kind of configuration. -/
def MemorySpaceConfig.makeSpace {M : Type} (parts : SpaceParts M) :
    MemorySpaceConfig M → Except Failure ManagedSpace
  | .gpu config => do
      let limit := config.reservationLimit.getD parts.undefinedSize
      let present ← rethrow
        (parts.factory (config.mrFactoryFn config.deviceId config.memoryCapacity))
      rethrow (parts.streamPool config.deviceId)
      requireAllocator present
      return {
        id := ⟨.GPU, config.deviceId⟩
        reservationAllocator := .gpu (GpuResource.fresh limit config.memoryCapacity)
        notificationChannel := .fresh
        capacity := config.memoryCapacity }
  | .host config => do
      let limit := config.reservationLimit.getD parts.undefinedSize
      let upstream := config.mrFactoryFn config.numaId config.memoryCapacity
      let present ← rethrow (parts.factory upstream)
      requireAllocator present
      let pools ← rethrow (initialPools (parts.pool upstream)
        (alignUp config.blockSize 16 * config.poolSize) config.initialNumberPools.toNat)
      return {
        id := ⟨.HOST, config.numaId⟩
        reservationAllocator := .host (HostResource.create limit config.memoryCapacity
          config.blockSize config.poolSize pools)
        notificationChannel := .fresh
        capacity := config.memoryCapacity }
  | .disk config =>
      if config.mountPaths.isEmpty then
        .error (.thrown (.stdException "Mount path must be provided for disk memory space"))
      else .ok {
        id := ⟨.DISK, config.diskId⟩
        reservationAllocator := .disk (DiskAccessLimiter.fresh
          (config.reservationLimit.getD parts.undefinedSize))
        notificationChannel := .fresh
        capacity := config.memoryCapacity }

/-! ## The tables -/

/-- The lookup tables of the manager; the tables of `const` pointers are tables of
their own. -/
structure LookupTables where
  memorySpaceViews : List Nat
  constMemorySpaceViews : List Nat
  memorySpaceLookup : Table MemorySpaceId Nat
  tierToMemorySpaces : Table Tier (List Nat)
  constTierToMemorySpaces : Table Tier (List Nat)

namespace LookupTables

def cleared : LookupTables := ⟨[], [], ∅, ∅, ∅⟩

/-- `push_back` on the list that `operator[]` finds or makes. -/
def pushBack (t : Table Tier (List Nat)) (tier : Tier) (this : Nat) :
    Table Tier (List Nat) :=
  t.insert tier ((t.lookup tier).getD [] ++ [this])

/-- One turn of the loop of `build_lookup_tables`. -/
def enter (t : LookupTables) (this : Nat) (id : MemorySpaceId) : LookupTables where
  memorySpaceViews := t.memorySpaceViews ++ [this]
  constMemorySpaceViews := t.constMemorySpaceViews ++ [this]
  memorySpaceLookup := t.memorySpaceLookup.insert id this
  tierToMemorySpaces := pushBack t.tierToMemorySpaces id.tier this
  constTierToMemorySpaces := pushBack t.constTierToMemorySpaces id.tier this

/-- `build_lookup_tables`, for spaces with these ids. -/
def build (ids : List MemorySpaceId) : LookupTables :=
  ids.zipIdx.foldl (fun t e => t.enter e.2 e.1) cleared

end LookupTables

/-! ## The manager -/

/-- `memory_reservation_manager`, with the spaces it owns. -/
structure ConstructedManager where
  memorySpaces : List ManagedSpace
  tables : LookupTables

namespace ConstructedManager

def buildLookupTables (memorySpaces : List ManagedSpace) : ConstructedManager where
  memorySpaces
  tables := .build (memorySpaces.map (·.id))

/-- A turn of the loop of the constructor over the configurations. -/
def makeSpace {M : Type} (parts : SpaceParts M) :
    Option (MemorySpaceConfig M) → Except Failure ManagedSpace
  | none => .error (.thrown (.stdException "Unknown memory_space configuration type"))
  | some config => config.makeSpace parts

/-- The constructor. -/
def create {M : Type} (parts : SpaceParts M) (configs : List (Option (MemorySpaceConfig M))) :
    Except Failure ConstructedManager :=
  if configs.isEmpty then
    .error (.thrown (.stdException
      "At least one memory_space configuration must be provided"))
  else (configs.mapM (makeSpace parts)).map buildLookupTables

variable (m : ConstructedManager)

def getMemorySpace (tier : Tier) (deviceId : Int) : Option Nat :=
  m.tables.memorySpaceLookup.lookup ⟨tier, deviceId⟩

def getMemorySpacesForTier (tier : Tier) : List Nat :=
  (m.tables.constTierToMemorySpaces.lookup tier).getD []

def getAllMemorySpaces : List Nat := m.tables.constMemorySpaceViews

def getMutableMemorySpacesForTier (tier : Tier) : List Nat :=
  (m.tables.tierToMemorySpaces.lookup tier).getD []

def getMutableAllMemorySpaces : List Nat := m.tables.memorySpaceViews

/-- The manager that the strategies see. -/
def strategic : MemoryReservationManager where
  memorySpaces := m.memorySpaces.map (·.toMemorySpace)
  memorySpaceLookup := m.tables.memorySpaceLookup
  tierToMemorySpaces := m.tables.tierToMemorySpaces

/-! ## Sums -/

/-- A loop that adds up what the spaces say, in `size_t`. -/
def sumOf (read : ManagedSpace → UInt64) (spaces : List ManagedSpace) : UInt64 :=
  spaces.foldl (fun total space => total + read space) 0

/-- The spaces that a list of pointers leads to. -/
def deref (views : List Nat) : List ManagedSpace := views.filterMap (m.memorySpaces[·]?)

end ConstructedManager

namespace ManagedSpace

def getAvailableMemory (s : ManagedSpace) : UInt64 :=
  match s.reservationAllocator with
  | .gpu mr => mr.mr.getAvailableMemory
  | .host mr => mr.getAvailableMemory
  | .disk mr => mr.getAvailableMemory s.capacity

def getTotalReservedMemory (s : ManagedSpace) : UInt64 :=
  match s.reservationAllocator with
  | .gpu mr => mr.mr.getTotalReservedBytes
  | .host mr => mr.getTotalReservedBytes
  | .disk mr => mr.getTotalReservedBytes

def getActiveReservationCount (s : ManagedSpace) : UInt64 :=
  match s.reservationAllocator with
  | .gpu mr => mr.mr.getActiveReservationCount
  | .host mr => mr.getActiveReservationCount
  | .disk mr => mr.getActiveReservationCount

end ManagedSpace

namespace ConstructedManager

variable (m : ConstructedManager)

def getAvailableMemoryForTier (tier : Tier) : UInt64 :=
  sumOf (·.getAvailableMemory) (m.deref (m.getMemorySpacesForTier tier))

def getTotalReservedMemoryForTier (tier : Tier) : UInt64 :=
  sumOf (·.getTotalReservedMemory) (m.deref (m.getMemorySpacesForTier tier))

def getActiveReservationCountForTier (tier : Tier) : UInt64 :=
  sumOf (·.getActiveReservationCount) (m.deref (m.getMemorySpacesForTier tier))

def getTotalAvailableMemory : UInt64 := sumOf (·.getAvailableMemory) m.memorySpaces

def getTotalReservedMemory : UInt64 := sumOf (·.getTotalReservedMemory) m.memorySpaces

def getActiveReservationCount : UInt64 := sumOf (·.getActiveReservationCount) m.memorySpaces

end ConstructedManager

end CuCascade.Memory

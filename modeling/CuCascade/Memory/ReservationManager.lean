import CuCascade.Memory.MemorySpace

/-!
# `memory_reservation_manager`: strategies and requests

The manager owns the spaces, a pointer to one of them is its position, and
`build_lookup_tables` sorts these pointers by id and by tier.

Two calls can block, `make_reservation` on the channel of a space and
`request_reservation` on the manager's own condition variable. What a blocked
thread finds when it looks again is up to the others, so a call is given the
list of what it will find: the spaces as they are each time the predicate of
its wait is evaluated. When the list is used up the call is still waiting.
-/

namespace CuCascade.Memory

/-- The spaces of a manager. -/
abbrev Spaces := List MemorySpace

/-- What has become of a call that may block: the spaces, what is left of the
list, the statuses its waits reported, and how it ended if it did. -/
structure Blocking (α : Type) where
  spaces : Spaces
  woken : List Spaces
  waited : List WaitStatus
  result : Option (Except Failure α)

/-- Run an operation of the space at `this`. -/
def onSpace {α : Type} (spaces : Spaces) (this : Nat)
    (f : MemorySpace → Result MemorySpace α) : Result Spaces α :=
  match spaces[this]? with
  | none => (spaces, .error .nullDereference)
  | some s => let (s, a) := f s; (spaces.set this s, a)

namespace MemorySpace

/-- The loop of `make_reservation`, from the wait on. -/
def awaitReservation (ndebug : Bool) (this : Nat) (self : Addr) (size : UInt64) :
    Spaces → List Spaces → Blocking (Option Reservation)
  | spaces, [] => ⟨spaces, [], [], none⟩
  | _, spaces :: woken =>
      match spaces[this]? with
      | none => ⟨spaces, woken, [], some (.error .nullDereference)⟩
      | some s =>
          let (channel, status) := s.notificationChannel.pollWait
          let spaces := spaces.set this { s with notificationChannel := channel }
          match status with
          | none => awaitReservation ndebug this self size spaces woken
          | some .SHUTDOWN => ⟨spaces, woken, [.SHUTDOWN], some (.ok none)⟩
          | some .IDLE =>
              let (spaces, res) := onSpace spaces this
                (·.makeReservationUpto ndebug this self size)
              ⟨spaces, woken, [.IDLE], some res⟩
          | some .NOTIFIED =>
              match onSpace spaces this
                (·.makeReservationOrNull ndebug this self size) with
              | (spaces, .ok none) =>
                  let rest := awaitReservation ndebug this self size spaces woken
                  { rest with waited := .NOTIFIED :: rest.waited }
              | (spaces, res) => ⟨spaces, woken, [.NOTIFIED], some res⟩

/-- `make_reservation` on the space at `this`. -/
def makeReservation (ndebug : Bool) (self : Addr) (size : UInt64) (this : Nat)
    (spaces : Spaces) (woken : List Spaces) : Blocking (Option Reservation) :=
  match onSpace spaces this (·.makeReservationOrNull ndebug this self size) with
  | (spaces, .ok none) => awaitReservation ndebug this self size spaces woken
  | (spaces, res) => ⟨spaces, woken, [], some res⟩

end MemorySpace

/-- `memory_reservation_manager`, without its mutex and condition variable. -/
structure MemoryReservationManager where
  memorySpaces : Spaces
  memorySpaceLookup : Table MemorySpaceId Nat
  tierToMemorySpaces : Table Tier (List Nat)

/-- The request strategies; the two that move between tiers have no candidates
yet. -/
inductive ReservationRequestStrategy where
  | anyMemorySpaceInTierWithPreference (tier : Tier)
      (preferredDeviceId : Option UInt64)
  | anyMemorySpaceInTier (tier : Tier)
  | anyMemorySpaceInTiers (tiers : List Tier)
  | specificMemorySpace (targetId : MemorySpaceId)
  | anyMemorySpaceToDowngrade (srcId : MemorySpaceId) (targetTiers : List Tier)
  | anyMemorySpaceToUpgrade (srcId : MemorySpaceId) (targetTier : Tier)

namespace ReservationRequestStrategy

def hasStrongOrdering : ReservationRequestStrategy → Bool
  | .anyMemorySpaceInTier _ | .anyMemorySpaceInTiers _ => false
  | .anyMemorySpaceInTierWithPreference _ _ | .specificMemorySpace _
  | .anyMemorySpaceToDowngrade _ _ | .anyMemorySpaceToUpgrade _ _ => true

end ReservationRequestStrategy

namespace MemoryReservationManager

/-- One turn of the loop of `build_lookup_tables`. -/
def enter (m : MemoryReservationManager) (this : Nat) (s : MemorySpace) :
    MemoryReservationManager :=
  { m with
    memorySpaceLookup := m.memorySpaceLookup.insert s.id this
    tierToMemorySpaces := m.tierToMemorySpaces.insert s.id.tier
      ((m.tierToMemorySpaces.lookup s.id.tier).getD [] ++ [this]) }

/-- `build_lookup_tables` for the given spaces. -/
def ofSpaces (spaces : Spaces) : MemoryReservationManager :=
  spaces.zipIdx.foldl (fun m e => m.enter e.2 e.1) ⟨spaces, ∅, ∅⟩

def getMemorySpacesForTier (m : MemoryReservationManager) (tier : Tier) :
    List Nat :=
  (m.tierToMemorySpaces.lookup tier).getD []

def getMemorySpace (m : MemoryReservationManager) (id : MemorySpaceId) :
    Option Nat :=
  m.memorySpaceLookup.lookup id

/-- Whether the space at `this` has the device id; the preferred id is cast to
`int`. -/
def onDevice (m : MemoryReservationManager) (deviceId : UInt64) (this : Nat) :
    Bool :=
  match m.memorySpaces[this]? with
  | none => false
  | some s => s.id.deviceId == deviceId.toUInt32.toInt32.toInt

/-- `get_candidates` of each strategy. `stable_partition` puts the preferred
device first. -/
def getCandidates (m : MemoryReservationManager) :
    ReservationRequestStrategy → List Nat
  | .anyMemorySpaceInTierWithPreference tier none => m.getMemorySpacesForTier tier
  | .anyMemorySpaceInTierWithPreference tier (some deviceId) =>
      let (preferred, others) :=
        (m.getMemorySpacesForTier tier).partition (m.onDevice deviceId)
      preferred ++ others
  | .anyMemorySpaceInTier tier => m.getMemorySpacesForTier tier
  | .anyMemorySpaceInTiers tiers => tiers.flatMap m.getMemorySpacesForTier
  | .specificMemorySpace targetId => (m.getMemorySpace targetId).toList
  | .anyMemorySpaceToDowngrade _ _ | .anyMemorySpaceToUpgrade _ _ => []

/-- A pointer to `make_reservation` or `make_reservation_or_null`. -/
abbrev ReserveFn :=
  Nat → Spaces → List Spaces → Blocking (Option Reservation)

/-- `make_reservation_or_null` as such; it does not wait. -/
def reserveOrNull (ndebug : Bool) (self : Addr) (size : UInt64) : ReserveFn :=
  fun this spaces woken =>
    let (spaces, res) :=
      onSpace spaces this (·.makeReservationOrNull ndebug this self size)
    ⟨spaces, woken, [], some res⟩

/-- `try_candidates`: the first reservation that is not null. Candidates come
from the lookup tables, so none of them is null and the check for it is left
out. -/
def tryCandidates (resFn : ReserveFn) :
    List Nat → Spaces → List Spaces → Blocking (Option Reservation)
  | [], spaces, woken => ⟨spaces, woken, [], some (.ok none)⟩
  | space :: candidates, spaces, woken =>
      let out := resFn space spaces woken
      match out.result with
      | some (.ok none) =>
          let rest := tryCandidates resFn candidates out.spaces out.woken
          { rest with waited := out.waited ++ rest.waited }
      | _ => out

/-- `select_memory_space_and_make_reservation`; `std::nullopt` is `none`. -/
def selectMemorySpaceAndMakeReservation (m : MemoryReservationManager)
    (ndebug : Bool) (self : Addr) (request : ReservationRequestStrategy)
    (size : UInt64) (spaces : Spaces) (woken : List Spaces) :
    Blocking (Option Reservation) :=
  let candidates := m.getCandidates request
  if request.hasStrongOrdering then
    tryCandidates (MemorySpace.makeReservation ndebug self size) candidates
      spaces woken
  else
    let out := tryCandidates (reserveOrNull ndebug self size) candidates spaces
      woken
    match out.result with
    | some (.ok none) =>
        let rest := tryCandidates (MemorySpace.makeReservation ndebug self size)
          candidates out.spaces out.woken
        { rest with waited := out.waited ++ rest.waited }
    | _ => out

/-- The loop of `request_reservation`. Each turn that finds nothing waits for
the condition variable and so uses up one entry of the list; `turns` bounds
the turns. -/
def requestLoop (m : MemoryReservationManager) (ndebug : Bool) (self : Addr)
    (request : ReservationRequestStrategy) (size : UInt64) :
    Nat → Spaces → List Spaces → Blocking Reservation
  | 0, spaces, woken => ⟨spaces, woken, [], none⟩
  | turns + 1, spaces, woken =>
      let out := m.selectMemorySpaceAndMakeReservation ndebug self request size
        spaces woken
      match out.result, out.woken with
      | some (.ok none), [] => ⟨out.spaces, [], out.waited, none⟩
      | some (.ok none), found :: woken =>
          let rest := requestLoop m ndebug self request size turns found woken
          { rest with waited := out.waited ++ rest.waited }
      | some (.ok (some res)), woken =>
          ⟨out.spaces, woken, out.waited, some (.ok res)⟩
      | some (.error e), woken => ⟨out.spaces, woken, out.waited, some (.error e)⟩
      | none, woken => ⟨out.spaces, woken, out.waited, none⟩

/-- `request_reservation`: the fast path is a first turn whose failure is not
followed by a wait. -/
def requestReservation (m : MemoryReservationManager) (ndebug : Bool)
    (self : Addr) (request : ReservationRequestStrategy) (size : UInt64)
    (woken : List Spaces) : Blocking Reservation :=
  let out := m.selectMemorySpaceAndMakeReservation ndebug self request size
    m.memorySpaces woken
  match out.result with
  | some (.ok none) =>
      let rest := m.requestLoop ndebug self request size (out.woken.length + 1)
        out.spaces out.woken
      { rest with waited := out.waited ++ rest.waited }
  | some (.ok (some res)) => ⟨out.spaces, out.woken, out.waited, some (.ok res)⟩
  | some (.error e) => ⟨out.spaces, out.woken, out.waited, some (.error e)⟩
  | none => ⟨out.spaces, out.woken, out.waited, none⟩

end MemoryReservationManager

end CuCascade.Memory

import CuCascade.Lib.Machine
import CuCascade.Lib.Table
import CuCascade.Memory.ReservationManager

/-!
# Requests, releases and `shutdown`, thread by thread

`request_reservation` one atomic step at a time. A search tries its candidates
one after the other. Inside `make_reservation` it may block on the channel of a
space, and a search that has found nothing under `_wait_mutex` blocks on
`_wait_cv`. A reservation that was returned may be released, which ends with a
post and the destruction of its notifier; `shutdown` visits one space after the
other.

A blocked thread stays where it is until another step wakes it, and which thread
`notify_one` picks is up to the environment and part of the call. A step that a
thread is not at does nothing. So a thread that waits for `_wait_mutex` is one
whose step does nothing yet.
-/

namespace CuCascade.Memory

/-- `reservation_request_strategy` as `request_reservation` sees it. Users may
derive their own; a candidate may be null. -/
structure RequestStrategy where
  hasStrongOrdering : Bool
  getCandidates : MemoryReservationManager → List (Option Nat)

/-- One of the strategies of the library. -/
def ReservationRequestStrategy.toStrategy (request : ReservationRequestStrategy) :
    RequestStrategy :=
  ⟨request.hasStrongOrdering, fun m => (m.getCandidates request).map some⟩

/-- The arguments of `request_reservation`. -/
structure Request where
  strategy : RequestStrategy
  size : UInt64

/-- What a search calls on a space next. -/
inductive Attempt where
  | makeReservationOrNull
  /-- `make_reservation` from its first statement on, or from a turn of its loop -/
  | makeReservation
  /-- what `make_reservation` ends with after a wait that reported `IDLE` -/
  | makeReservationUpto
deriving DecidableEq, Repr

/-- `select_memory_space_and_make_reservation` under way: whether `_wait_mutex` is
held, and what is still to be tried. -/
structure Search where
  request : Request
  locked : Bool
  pending : List (Attempt × Nat)

/-- Where a thread is. -/
inductive RequestThread where
  | searching (s : Search)
  /-- inside `wait` of the channel of `space`, about to evaluate its predicate -/
  | polling (space : Nat) (s : Search)
  /-- inside the same `wait`, blocked on `_cv` -/
  | asleepOn (space : Nat) (s : Search)
  /-- about to take `_wait_mutex`, for the first time or after a wake-up -/
  | locking (request : Request)
  /-- blocked on `_wait_cv` -/
  | asleep (request : Request)
  /-- `request_reservation` has returned or thrown -/
  | returned (result : Except Failure Reservation)
  /-- in `~notify_on_exit`, about to post -/
  | posting (notifier : EventNotifier)
  /-- about to destroy the notifier -/
  | leaving (notifier : EventNotifier)
  /-- in `shutdown`, about to shut down the space at `this` -/
  | stopping (this : Nat)

/-- What a thread can be blocked on. -/
inductive Condition where
  /-- `_wait_cv` of the manager -/
  | waitCv
  /-- `_cv` of the channel of the space at `this` -/
  | channel (this : Nat)
deriving DecidableEq, Repr

inductive RequestOp where
  /-- a thread calls `request_reservation` -/
  | request (t : Nat) (request : Request)
  /-- a thread inside it goes on -/
  | step (t : Nat)
  /-- a blocked thread wakes up by itself -/
  | spurious (t : Nat)
  /-- the reservation a thread was given is destroyed -/
  | release (t : Nat)
  /-- `event_notifier::post`; `woken` is whom `notify_one` picks -/
  | post (t : Nat) (woken : Option Nat)
  | destroyNotifier (t : Nat)
  /-- a thread calls `shutdown` -/
  | shutdown (t : Nat)
  /-- a turn of its loop, or its end -/
  | shutdownNext (t : Nat) (woken : Option Nat)

structure RequestWorld where
  manager : MemoryReservationManager
  ndebug : Bool
  /-- who holds `_wait_mutex` -/
  waitMutex : Option Nat
  threads : Table Nat RequestThread
  /-- the address of the next arena -/
  heap : Addr
  /-- a call of `shutdown` has returned -/
  stopped : Bool

namespace Attempt

/-- The call, up to the point where it returns or has to wait. -/
def run (ndebug : Bool) (this : Nat) (self : Addr) (size : UInt64) (s : MemorySpace) :
    Attempt → Result MemorySpace (Option Reservation)
  | .makeReservationOrNull | .makeReservation =>
      s.makeReservationOrNull ndebug this self size
  | .makeReservationUpto => s.makeReservationUpto ndebug this self size

end Attempt

namespace MemoryReservationManager

/-- What a search tries, in order. A null candidate is passed over. -/
def attempts (m : MemoryReservationManager) (strategy : RequestStrategy) :
    List (Attempt × Nat) :=
  let candidates := (strategy.getCandidates m).reduceOption
  if strategy.hasStrongOrdering then candidates.map (Attempt.makeReservation, ·)
  else
    candidates.map (Attempt.makeReservationOrNull, ·) ++
      candidates.map (Attempt.makeReservation, ·)

end MemoryReservationManager

/-- The destructor of the arena at `p`, and the notifier it leaves to be run. -/
def MemorySpace.destroyArena (s : MemorySpace) (p : Addr) :
    Result MemorySpace (Option EventNotifier) :=
  let (mr, onExit) := s.reservationAllocator.destroyArena p
  ({ s with reservationAllocator := mr }, onExit)

/-- An operation on the channel of the space at `this`. -/
def onChannel (spaces : Spaces) (this : Nat)
    (f : NotificationChannel → NotificationChannel) : Spaces :=
  spaces.modify this fun s =>
    { s with notificationChannel := f s.notificationChannel }

/-- The notifiers that the channel of the space at `this` counts. -/
def activeNotifiers (spaces : Spaces) (this : Nat) : Option UInt64 :=
  spaces[this]?.map (·.notificationChannel.nActiveNotifiers)

namespace RequestThread

def blockedOn : RequestThread → Option Condition
  | .asleepOn space _ => some (.channel space)
  | .asleep _ => some .waitCv
  | _ => none

/-- A thread that wakes up takes the mutex of its condition variable again. -/
def wake : RequestThread → RequestThread
  | .asleepOn space s => .polling space s
  | .asleep request => .locking request
  | thread => thread

/-- The space whose channel the thread notifies next. -/
def notifies : RequestThread → Option Nat
  | .posting notifier => some notifier.channel
  | .stopping this => some this
  | _ => none

end RequestThread

namespace RequestWorld

def fresh (spaces : Spaces) (ndebug : Bool) (heap : Addr) : RequestWorld :=
  ⟨.ofSpaces spaces, ndebug, none, ∅, heap, false⟩

/-- The thread `t` goes on to `thread`. -/
def put (w : RequestWorld) (t : Nat) (thread : RequestThread) : RequestWorld :=
  { w with threads := w.threads.insert t thread }

def remove (w : RequestWorld) (t : Nat) : RequestWorld :=
  { w with threads := w.threads.erase t }

def withSpaces (w : RequestWorld) (spaces : Spaces) : RequestWorld :=
  { w with manager := { w.manager with memorySpaces := spaces } }

def unlock (w : RequestWorld) (locked : Bool) : RequestWorld :=
  if locked then { w with waitMutex := none } else w

def blockedOn (w : RequestWorld) (t : Nat) : Option Condition :=
  (w.threads.lookup t).bind (·.blockedOn)

def wake (w : RequestWorld) (t : Nat) : RequestWorld :=
  match w.threads.lookup t with
  | none => w
  | some thread => w.put t thread.wake

def notifyOne (w : RequestWorld) : Option Nat → RequestWorld
  | none => w
  | some t => w.wake t

/-- `notify_all` on the channel of the space at `this`. -/
def notifyAll (w : RequestWorld) (this : Nat) : RequestWorld :=
  { w with threads := w.threads.mapVal fun _ thread =>
      if thread.blockedOn = some (.channel this) then thread.wake else thread }

/-- The spaces are now `spaces`, by an operation of the one at `this`. If its
count of notifiers fell to 0, `release_notifier` wakes everybody there. -/
def update (w : RequestWorld) (this : Nat) (spaces : Spaces) : RequestWorld :=
  if activeNotifiers w.manager.memorySpaces this ≠ some 0 ∧
      activeNotifiers spaces this = some 0 then
    (w.withSpaces spaces).notifyAll this
  else w.withSpaces spaces

/-- The next attempt of a search. -/
def attempt (w : RequestWorld) (t : Nat) (s : Search) (fn : Attempt) (space : Nat) :
    RequestWorld :=
  let (spaces, res) := onSpace w.manager.memorySpaces space fun m =>
    fn.run w.ndebug space w.heap s.request.size m
  let w := { w with heap := w.heap + 1 }.update space spaces
  match res with
  | .ok none =>
      if fn = .makeReservation then w.put t (.polling space s)
      else w.put t (.searching s)
  | .ok (some res) => (w.unlock s.locked).put t (.returned (.ok res))
  | .error e => (w.unlock s.locked).put t (.returned (.error e))

/-- The predicate of `wait` is evaluated, and `make_reservation` goes on. -/
def poll (w : RequestWorld) (t : Nat) (space : Nat) (s : Search) : RequestWorld :=
  match w.manager.memorySpaces[space]? with
  | none => (w.unlock s.locked).put t (.returned (.error .nullDereference))
  | some m =>
      let (channel, status) := m.notificationChannel.pollWait
      let w := w.withSpaces
        (onChannel w.manager.memorySpaces space fun _ => channel)
      match status with
      | none => w.put t (.asleepOn space s)
      | some .SHUTDOWN => w.put t (.searching s)
      | some .IDLE => w.put t (.searching
          { s with pending := (.makeReservationUpto, space) :: s.pending })
      | some .NOTIFIED => w.put t (.searching
          { s with pending := (.makeReservation, space) :: s.pending })

/-- A step of the thread `t`, which is at `thread`. -/
def step (w : RequestWorld) (t : Nat) (thread : Option RequestThread) :
    RequestWorld :=
  match thread with
  | some (.searching ⟨request, locked, (fn, space) :: pending⟩) =>
      w.attempt t ⟨request, locked, pending⟩ fn space
  -- the fast path is followed by the loop, a turn of the loop by a wait
  | some (.searching ⟨request, false, []⟩) => w.put t (.locking request)
  | some (.searching ⟨request, true, []⟩) =>
      (w.unlock true).put t (.asleep request)
  | some (.polling space s) => w.poll t space s
  | some (.locking request) =>
      match w.waitMutex with
      | some _ => w
      | none => { w with waitMutex := some t }.put t
          (.searching ⟨request, true, w.manager.attempts request.strategy⟩)
  | _ => w

/-- `~reservation` up to the end of its arena; what is left is the notifier. -/
def release (w : RequestWorld) (t : Nat) (res : Reservation) : RequestWorld :=
  match res.arena with
  | none => w.remove t
  | some p =>
      match onSpace w.manager.memorySpaces res.space (·.destroyArena p) with
      | (spaces, .ok none) => (w.withSpaces spaces).remove t
      | (spaces, .ok (some notifier)) =>
          (w.withSpaces spaces).put t (.posting notifier)
      | (spaces, .error e) => (w.withSpaces spaces).put t (.returned (.error e))

def next (w : RequestWorld) : RequestOp → RequestWorld
  | .request t request => w.put t
      (.searching ⟨request, false, w.manager.attempts request.strategy⟩)
  | .step t => w.step t (w.threads.lookup t)
  | .spurious t => w.wake t
  | .release t =>
      match w.threads.lookup t with
      | some (.returned (.ok res)) => w.release t res
      | _ => w
  | .post t woken =>
      match w.threads.lookup t with
      | some (.posting notifier) =>
          ((w.withSpaces (onChannel w.manager.memorySpaces notifier.channel
            (·.notify))).put t (.leaving notifier)).notifyOne woken
      | _ => w
  | .destroyNotifier t =>
      match w.threads.lookup t with
      | some (.leaving notifier) =>
          (w.update notifier.channel (onChannel w.manager.memorySpaces
            notifier.channel (·.releaseNotifier))).remove t
      | _ => w
  | .shutdown t => w.put t (.stopping 0)
  | .shutdownNext t woken =>
      match w.threads.lookup t with
      | some (.stopping this) =>
          if this < w.manager.memorySpaces.length then
            ((w.withSpaces (onChannel w.manager.memorySpaces this
              (·.shutdown))).put t (.stopping (this + 1))).notifyOne woken
          else { w with stopped := true }.remove t
      | _ => w

/-- Whom `notify_one` on the channel of the space at `this` can pick: a thread
blocked there if there is one. -/
def MayWake (w : RequestWorld) (this : Nat) : Option Nat → Prop
  | none => w.threads.All fun _ thread =>
      thread.blockedOn ≠ some (.channel this)
  | some t => w.blockedOn t = some (.channel this)

instance (w : RequestWorld) (this : Nat) :
    (woken : Option Nat) → Decidable (w.MayWake this woken)
  | none => inferInstanceAs (Decidable (w.threads.All _))
  | some t => inferInstanceAs (Decidable (w.blockedOn t = _))

/-- The same for whatever the thread `t` notifies next. -/
def MayNotify (w : RequestWorld) (t : Nat) (woken : Option Nat) : Prop :=
  ∀ this ∈ (w.threads.lookup t).bind (·.notifies), w.MayWake this woken

instance (w : RequestWorld) (t : Nat) (woken : Option Nat) :
    Decidable (w.MayNotify t woken) :=
  inferInstanceAs (Decidable (∀ this ∈ (w.threads.lookup t).bind (·.notifies),
    w.MayWake this woken))

/-- A thread makes one call at a time, and only a blocked one wakes up. -/
def Proper (w : RequestWorld) : RequestOp → Prop
  | .request t _ | .shutdown t => t ∉ w.threads
  | .spurious t => w.blockedOn t ≠ none
  | .post t woken | .shutdownNext t woken => w.MayNotify t woken
  | .step _ | .release _ | .destroyNotifier _ => True

instance (w : RequestWorld) : (op : RequestOp) → Decidable (w.Proper op)
  | .request t _ | .shutdown t => inferInstanceAs (Decidable (t ∉ w.threads))
  | .spurious t => inferInstanceAs (Decidable (w.blockedOn t ≠ none))
  | .post t woken | .shutdownNext t woken =>
      inferInstanceAs (Decidable (w.MayNotify t woken))
  | .step _ | .release _ | .destroyNotifier _ => isTrue trivial

/-- One manager and any threads, one step at a time. -/
def machine : Machine RequestWorld RequestOp where
  start w := ∃ spaces ndebug heap, w = fresh spaces ndebug heap
  legal := Proper
  next := next

/-! ## What a wait should be like -/

/-- Some step other than a wake-up by itself frees a thread that is blocked on the
condition. -/
def Signalled (c : Condition) : Prop :=
  ∃ (w : RequestWorld) (op : RequestOp) (t : Nat), w.Proper op ∧
    op ≠ .spurious t ∧ w.blockedOn t = some c ∧ (w.next op).blockedOn t = none

/-- Who is blocked waits for something that is signalled, and once `shutdown` has
returned nobody is blocked. -/
structure Attended (w : RequestWorld) : Prop where
  signalled : ∀ t, ∀ c ∈ w.blockedOn t, Signalled c
  stopped : w.stopped = true → ∀ t, w.blockedOn t = none

/-- A request that is made has a candidate. -/
def HasCandidate (w : RequestWorld) : RequestOp → Prop
  | .request _ request =>
      (request.strategy.getCandidates w.manager).reduceOption ≠ []
  | _ => True

instance (w : RequestWorld) : (op : RequestOp) → Decidable (w.HasCandidate op)
  | .request _ request => inferInstanceAs (Decidable
      ((request.strategy.getCandidates w.manager).reduceOption ≠ []))
  | .step _ | .spurious _ | .release _ | .post _ _ | .destroyNotifier _
  | .shutdown _ | .shutdownNext _ _ => isTrue trivial

end RequestWorld

end CuCascade.Memory

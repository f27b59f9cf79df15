import CuCascade.Memory.RequestWorld
import CuCascade.Proofs.Reservations

/-!
# Who wakes a requester

There are two conditions to be blocked on. The channel of a space is notified by
posts, by the last notifier that dies and by `shutdown`; `_wait_cv` by nothing at
all. Which of the two a request gets to depends on its candidates only. A
candidate that is asked never answers null, so with one the request is over before
it waits anywhere. Without one the search finds nothing, finds nothing again under
the mutex, and the thread goes to sleep where nobody looks, `shutdown` included.
-/

namespace CuCascade.Memory

namespace RequestThread

@[simp] theorem blockedOn_wake (thread : RequestThread) :
    thread.wake.blockedOn = none := by
  cases thread <;> rfl

/-- The thread waits for nothing, and if it searches there is something left to
try. -/
def Engaged : RequestThread → Prop
  | .searching s => s.locked = false ∧ s.pending ≠ []
  | .returned _ | .posting _ | .leaving _ | .stopping _ => True
  | .polling _ _ | .asleepOn _ _ | .locking _ | .asleep _ => False

variable {thread : RequestThread}

theorem Engaged.blockedOn (h : thread.Engaged) : thread.blockedOn = none := by
  cases thread with
  | asleepOn space s => exact h.elim
  | asleep request => exact h.elim
  | _ => rfl

theorem Engaged.wake (h : thread.Engaged) : thread.wake.Engaged := by
  cases thread with
  | asleepOn space s => exact h.elim
  | asleep request => exact h.elim
  | _ => exact h

end RequestThread

namespace RequestWorld

open RequestThread

variable {w : RequestWorld} {op : RequestOp} {t u this : Nat} {thread : RequestThread}
  {spaces : Spaces} {s : Search}

/-! ## What frees a thread that is blocked -/

theorem blockedOn_of_lookup (h : w.threads.lookup t = some thread) :
    w.blockedOn t = thread.blockedOn := by
  rw [blockedOn, h]
  rfl

theorem blockedOn_waitCv : w.blockedOn t = some .waitCv ↔
    ∃ request, w.threads.lookup t = some (.asleep request) := by
  rw [blockedOn, Option.bind_eq_some_iff]
  constructor
  · rintro ⟨thread, ht, hblocked⟩
    cases thread with
    | asleep request => exact ⟨request, ht⟩
    | _ => cases hblocked
  · rintro ⟨request, ht⟩
    exact ⟨_, ht, rfl⟩

theorem blockedOn_put_self : (w.put t thread).blockedOn t = thread.blockedOn :=
  blockedOn_of_lookup (AList.lookup_insert _)

theorem blockedOn_put (h : t ≠ u) : (w.put u thread).blockedOn t = w.blockedOn t := by
  rw [blockedOn, put, AList.lookup_insert_ne h]
  rfl

theorem blockedOn_remove (h : t ≠ u) : (w.remove u).blockedOn t = w.blockedOn t := by
  rw [blockedOn, remove, AList.lookup_erase_ne h]
  rfl

@[simp] theorem blockedOn_withSpaces :
    (w.withSpaces spaces).blockedOn t = w.blockedOn t := rfl

@[simp] theorem blockedOn_unlock (locked : Bool) :
    (w.unlock locked).blockedOn t = w.blockedOn t := by
  cases locked <;> rfl

theorem blockedOn_wake_self : (w.wake t).blockedOn t = none := by
  cases h : w.threads.lookup t with
  | none => simp [wake, blockedOn, h]
  | some thread => simp [wake, h, blockedOn_put_self]

theorem blockedOn_wake (h : t ≠ u) : (w.wake u).blockedOn t = w.blockedOn t := by
  unfold wake
  split
  · rfl
  · exact blockedOn_put h

/-- `notify_all` on a channel frees nobody who is blocked elsewhere. -/
theorem blockedOn_notifyAll (h : w.blockedOn t ≠ some (.channel this)) :
    (w.notifyAll this).blockedOn t = w.blockedOn t := by
  simp only [blockedOn, notifyAll, AList.lookup_mapVal] at h ⊢
  cases ht : w.threads.lookup t with
  | none => rfl
  | some thread =>
      rw [ht, Option.bind_some] at h
      rw [Option.map_some, Option.bind_some, Option.bind_some, if_neg h]

theorem blockedOn_update (h : w.blockedOn t ≠ some (.channel this)) :
    (w.update this spaces).blockedOn t = w.blockedOn t := by
  unfold update
  split
  · exact blockedOn_notifyAll h
  · rfl

theorem blockedOn_attempt {fn : Attempt} (hne : t ≠ u)
    (h : w.blockedOn t = some .waitCv) :
    (w.attempt u s fn this).blockedOn t = some .waitCv := by
  simp only [attempt]
  have hchannel : w.blockedOn t ≠ some (.channel this) := by
    rw [h]
    exact nofun
  have hupdate : ∀ spaces,
      ({ w with heap := w.heap + 1 }.update this spaces).blockedOn t =
        some .waitCv := fun spaces =>
    (blockedOn_update (w := { w with heap := w.heap + 1 }) hchannel).trans h
  split
  · split
    · rw [blockedOn_put hne, hupdate]
    · rw [blockedOn_put hne, hupdate]
  · rw [blockedOn_put hne, blockedOn_unlock, hupdate]
  · rw [blockedOn_put hne, blockedOn_unlock, hupdate]

theorem blockedOn_poll (hne : t ≠ u) :
    (w.poll u this s).blockedOn t = w.blockedOn t := by
  simp only [poll]
  split
  · rw [blockedOn_put hne, blockedOn_unlock]
  · split
    all_goals rw [blockedOn_put hne, blockedOn_withSpaces]

/-- The step of another thread. -/
theorem blockedOn_step (hne : t ≠ u) (h : w.blockedOn t = some .waitCv) :
    (w.step u (w.threads.lookup u)).blockedOn t = some .waitCv := by
  unfold step
  split
  · exact blockedOn_attempt hne h
  · rw [blockedOn_put hne, h]
  · rw [blockedOn_put hne, blockedOn_unlock, h]
  · rw [blockedOn_poll hne, h]
  · split
    · exact h
    · rw [blockedOn_put hne]
      exact h
  · exact h

theorem blockedOn_release {res : Reservation} (hne : t ≠ u) :
    (w.release u res).blockedOn t = w.blockedOn t := by
  unfold release
  split
  · exact blockedOn_remove hne
  · split
    · rw [blockedOn_remove hne, blockedOn_withSpaces]
    · rw [blockedOn_put hne, blockedOn_withSpaces]
    · rw [blockedOn_put hne, blockedOn_withSpaces]

theorem blockedOn_notifyOne {woken : Option Nat} (h : woken ≠ some t) :
    (w.notifyOne woken).blockedOn t = w.blockedOn t := by
  cases woken with
  | none => rfl
  | some u => exact blockedOn_wake fun heq => h (congrArg some heq.symm)

/-- A channel wakes none of those who are blocked on `_wait_cv`. -/
theorem MayWake.ne {woken : Option Nat} (hwoken : w.MayWake this woken)
    (h : w.blockedOn t = some .waitCv) : woken ≠ some t := by
  rintro rfl
  rw [MayWake, h] at hwoken
  cases hwoken

/-- Who is blocked is not the thread that goes on. -/
theorem ne_of_lookup {c : Condition} (h : w.blockedOn t = some c)
    (hu : w.threads.lookup u = some thread) (hfree : thread.blockedOn = none) :
    t ≠ u := by
  rintro rfl
  rw [blockedOn_of_lookup hu, hfree] at h
  cases h

/-- Nothing frees a thread that is blocked on `_wait_cv`: it sleeps on until it
wakes up by itself. -/
theorem waitCv_next (h : w.blockedOn t = some .waitCv) (hop : w.Proper op)
    (hne : op ≠ .spurious t) : (w.next op).blockedOn t = some .waitCv := by
  obtain ⟨asked, ht⟩ := blockedOn_waitCv.mp h
  have hold : t ∈ w.threads := AList.mem_of_lookup ht
  cases op with
  | request u request =>
      have htu : t ≠ u := fun heq => hop (heq ▸ hold)
      exact (blockedOn_put htu).trans h
  | step u =>
      by_cases htu : t = u
      · subst htu
        simp only [next, step, ht]
        exact h
      · exact blockedOn_step htu h
  | spurious u =>
      have htu : t ≠ u := fun heq => hne (heq ▸ rfl)
      exact (blockedOn_wake htu).trans h
  | release u =>
      simp only [next]
      split
      · rename_i res hu
        exact (blockedOn_release (ne_of_lookup h hu rfl)).trans h
      · exact h
  | post u woken =>
      simp only [next]
      split
      · rename_i notifier hu
        have hwoken := (hop notifier.channel (by simp [hu, notifies])).ne h
        rw [blockedOn_notifyOne hwoken, blockedOn_put (ne_of_lookup h hu rfl)]
        exact h
      · exact h
  | destroyNotifier u =>
      simp only [next]
      split
      · rename_i notifier hu
        rw [blockedOn_remove (ne_of_lookup h hu rfl),
          blockedOn_update (by simp [h])]
        exact h
      · exact h
  | shutdown u =>
      have htu : t ≠ u := fun heq => hop (heq ▸ hold)
      exact (blockedOn_put htu).trans h
  | shutdownNext u woken =>
      simp only [next]
      split
      · rename_i this hu
        split
        · have hwoken := (hop this (by simp [hu, notifies])).ne h
          rw [blockedOn_notifyOne hwoken, blockedOn_put (ne_of_lookup h hu rfl)]
          exact h
        · rw [blockedOn_remove (ne_of_lookup h hu rfl)]
          exact h
      · exact h

/-- The channels are signalled and `_wait_cv` is not. -/
theorem signalled_iff {c : Condition} : Signalled c ↔ c ≠ .waitCv := by
  constructor
  · rintro ⟨w, op, t, hop, hne, h, hfree⟩ rfl
    rw [waitCv_next h hop hne] at hfree
    cases hfree
  · intro hc
    cases c with
    | waitCv => exact absurd rfl hc
    | channel this =>
        -- one thread is blocked on the channel and another one posts
        let s : Search := ⟨⟨⟨true, fun _ => []⟩, 0⟩, false, []⟩
        let w := ((fresh [] true 0).put 0 (.asleepOn this s)).put 1
          (.posting ⟨this⟩)
        have hposting : w.threads.lookup 1 = some (.posting ⟨this⟩) :=
          AList.lookup_insert _
        have hblocked : w.blockedOn 0 = some (.channel this) := by
          rw [blockedOn_put (by decide), blockedOn_put_self]
          rfl
        refine ⟨w, .post 1 (some 0), 0, ?_, nofun, hblocked, ?_⟩
        · intro channel hchannel
          rw [hposting] at hchannel
          cases hchannel
          exact hblocked
        · simp only [next, hposting]
          exact blockedOn_wake_self

/-! ## A candidate is enough -/

/-- No search holds the mutex, and nobody waits. -/
structure Brisk (w : RequestWorld) : Prop where
  free : w.waitMutex = none
  engaged : w.threads.All fun _ thread => thread.Engaged

theorem Brisk.blockedOn (h : w.Brisk) (t : Nat) : w.blockedOn t = none := by
  cases ht : w.threads.lookup t with
  | none => rw [RequestWorld.blockedOn, ht]; rfl
  | some thread =>
      rw [blockedOn_of_lookup ht]
      exact (h.engaged.get ht).blockedOn

theorem Brisk.attended (h : w.Brisk) : w.Attended := by
  refine ⟨fun t c hc => ?_, fun _ => h.blockedOn⟩
  rw [h.blockedOn] at hc
  cases hc

theorem Brisk.put (h : w.Brisk) (hthread : thread.Engaged) : (w.put t thread).Brisk :=
  ⟨h.free, h.engaged.insert hthread⟩

theorem Brisk.remove (h : w.Brisk) : (w.remove t).Brisk :=
  ⟨h.free, h.engaged.erase⟩

theorem Brisk.withSpaces (h : w.Brisk) : (w.withSpaces spaces).Brisk :=
  ⟨h.free, h.engaged⟩

theorem Brisk.wake (h : w.Brisk) : (w.wake t).Brisk := by
  unfold RequestWorld.wake
  split
  · exact h
  · rename_i thread ht
    exact h.put (h.engaged.get ht).wake

theorem Brisk.notifyOne {woken : Option Nat} (h : w.Brisk) :
    (w.notifyOne woken).Brisk := by
  cases woken with
  | none => exact h
  | some t => exact h.wake

theorem Brisk.update (h : w.Brisk) : (w.update this spaces).Brisk := by
  unfold RequestWorld.update
  split
  · refine ⟨h.free, AList.all_mapVal.mpr (h.engaged.mono fun _ thread he => ?_)⟩
    split
    · exact he.wake
    · exact he
  · exact h.withSpaces

theorem attempts_ne_nil {m : MemoryReservationManager} {strategy : RequestStrategy}
    (h : (strategy.getCandidates m).reduceOption ≠ []) :
    m.attempts strategy ≠ [] := by
  simp only [MemoryReservationManager.attempts]
  split
  · simpa using h
  · simpa using h

/-- No call on a candidate answers null. -/
theorem attempt_ne (fn : Attempt) (ndebug : Bool) (self : Addr) (size : UInt64)
    (this : Nat) (spaces : Spaces) :
    (onSpace spaces this (fn.run ndebug this self size ·)).2 ≠ .ok none := by
  cases fn with
  | makeReservationOrNull => exact onSpace_ne ndebug self size this spaces
  | makeReservation => exact onSpace_ne ndebug self size this spaces
  | makeReservationUpto =>
      simp only [onSpace]
      split
      · intro hnull
        cases hnull
      · simp [Attempt.run, MemorySpace.makeReservationUpto, Reservation.create,
          Except.map]

/-- An attempt ends the request. -/
theorem Brisk.attempt {fn : Attempt} (h : w.Brisk) (hs : s.locked = false) :
    (w.attempt t s fn this).Brisk := by
  have hne := attempt_ne fn w.ndebug w.heap s.request.size this
    w.manager.memorySpaces
  have hupdate : ∀ spaces,
      ({ w with heap := w.heap + 1 }.update this spaces).Brisk := fun spaces =>
    Brisk.update (w := { w with heap := w.heap + 1 }) ⟨h.free, h.engaged⟩
  simp only [RequestWorld.attempt, hs]
  split
  · rename_i hnull
    exact absurd hnull hne
  · exact (hupdate _).put trivial
  · exact (hupdate _).put trivial

theorem Brisk.release {res : Reservation} (h : w.Brisk) : (w.release t res).Brisk := by
  unfold RequestWorld.release
  split
  · exact h.remove
  · split
    · exact h.withSpaces.remove
    · exact h.withSpaces.put trivial
    · exact h.withSpaces.put trivial

/-- A step of a thread that waits for nothing. -/
theorem Brisk.step (h : w.Brisk) : (w.step t (w.threads.lookup t)).Brisk := by
  cases ht : w.threads.lookup t with
  | none => exact h
  | some thread =>
      have hengaged := h.engaged.get ht
      cases thread with
      | searching s =>
          obtain ⟨request, locked, pending⟩ := s
          obtain ⟨hlocked, hpending⟩ := hengaged
          cases pending with
          | nil => exact absurd rfl hpending
          | cons a pending => exact h.attempt hlocked
      | polling space s => exact hengaged.elim
      | asleepOn space s => exact hengaged.elim
      | locking request => exact hengaged.elim
      | asleep request => exact hengaged.elim
      | returned result => exact h
      | posting notifier => exact h
      | leaving notifier => exact h
      | stopping this => exact h

theorem brisk_next (h : w.Brisk) (hop : w.HasCandidate op) : (w.next op).Brisk := by
  cases op with
  | request t request => exact h.put ⟨rfl, attempts_ne_nil hop⟩
  | step t => exact h.step
  | spurious t => exact h.wake
  | release t =>
      simp only [next]
      split
      · exact h.release
      · exact h
  | post t woken =>
      simp only [next]
      split
      · refine Brisk.notifyOne ?_
        exact h.withSpaces.put trivial
      · exact h
  | destroyNotifier t =>
      simp only [next]
      split
      · exact h.update.remove
      · exact h
  | shutdown t => exact h.put trivial
  | shutdownNext t woken =>
      simp only [next]
      split
      · split
        · refine Brisk.notifyOne ?_
          exact h.withSpaces.put trivial
        · exact Brisk.remove (w := { w with stopped := true }) ⟨h.free, h.engaged⟩
      · exact h

/-! ## A thread that nothing comes between -/

theorem candidates_toStrategy (m : MemoryReservationManager)
    (request : ReservationRequestStrategy) :
    (request.toStrategy.getCandidates m).reduceOption = m.getCandidates request := by
  show ((m.getCandidates request).map some).filterMap id = _
  rw [List.filterMap_map]
  exact List.filterMap_some

theorem update_spaces : (w.update this spaces).manager.memorySpaces = spaces := by
  unfold update
  split <;> rfl

/-- With a candidate, a thread returns in its next step what
`request_reservation` computes, and leaves the spaces as that does. -/
theorem request_alone {request : ReservationRequestStrategy} {size : UInt64}
    (h : w.manager.getCandidates request ≠ []) :
    let out := w.manager.requestReservation w.ndebug w.heap request size []
    let w' := machine.run w [.request t ⟨request.toStrategy, size⟩, .step t]
    w'.manager.memorySpaces = out.spaces ∧
      w'.threads.lookup t = out.result.map .returned := by
  obtain ⟨first, candidates, hcons⟩ := List.exists_cons_of_ne_nil h
  obtain ⟨after, r, hout, hrun⟩ := request_of_cons w.ndebug w.heap size [] hcons
  obtain ⟨fn, pending, hattempts, hfn⟩ : ∃ fn pending,
      w.manager.attempts request.toStrategy = (fn, first) :: pending ∧
        ∀ m : MemorySpace, fn.run w.ndebug first w.heap size m =
          m.makeReservationOrNull w.ndebug first w.heap size := by
    simp only [MemoryReservationManager.attempts, candidates_toStrategy, hcons]
    split
    · exact ⟨_, _, rfl, fun _ => rfl⟩
    · exact ⟨_, _, rfl, fun _ => rfl⟩
  simp only [Machine.run_cons, Machine.run_nil, machine, next, put, step,
    AList.lookup_insert, hattempts, attempt, hfn, hout]
  rcases hrun with ⟨res, rfl, hrun⟩ | ⟨e, rfl, hrun⟩
  · rw [hrun]
    exact ⟨update_spaces, AList.lookup_insert _⟩
  · rw [hrun]
    exact ⟨update_spaces, AList.lookup_insert _⟩

theorem onChannel_set {s : MemorySpace} (f : NotificationChannel → NotificationChannel) :
    onChannel (spaces.set this s) this f =
      spaces.set this { s with notificationChannel := f s.notificationChannel } := by
  refine List.ext_getElem? fun i => ?_
  by_cases hi : this = i
  · subst hi
    by_cases hlt : this < spaces.length
    · simp [onChannel, hlt]
    · simp [onChannel, hlt]
  · simp [onChannel, hi]

/-- What the owner of a reservation does to release it is its destructor. -/
theorem release_alone {res : Reservation} {s : MemorySpace}
    (ht : w.threads.lookup t = some (.returned (.ok res)))
    (hs : w.manager.memorySpaces[res.space]? = some s)
    (hchannel : ∀ p ∈ res.arena, ∀ notifier,
      (s.destroyArena p).2 = .ok (some notifier) → notifier.channel = res.space) :
    (machine.run w [.release t, .post t none, .destroyNotifier t]).manager.memorySpaces =
      (onSpace w.manager.memorySpaces res.space res.destroy).1 := by
  have hgone : (w.threads.erase t).lookup t = none := AList.lookup_erase _ _
  simp only [Machine.run_cons, Machine.run_nil, machine, next, ht, onSpace, hs,
    release, Reservation.destroy]
  cases ha : res.arena with
  | none =>
      obtain ⟨hlt, heq⟩ := List.getElem?_eq_some_iff.mp hs
      simp only [remove, hgone]
      rw [← heq]
      exact (List.set_getElem_self hlt).symm
  | some p =>
      rcases hd : s.reservationAllocator.destroyArena p with ⟨mr, out⟩
      simp only [MemorySpace.destroyArena, hd]
      rcases out with e | _ | notifier
      · simp only [put, AList.lookup_insert]
        rfl
      · simp only [remove, withSpaces, hgone]
        rfl
      · -- the post and the end of the notifier, one after the other
        have hspace := hchannel p ha notifier (by simp [MemorySpace.destroyArena, hd])
        simp only [put, withSpaces, AList.lookup_insert, notifyOne, hspace,
          onChannel_set, remove]
        rw [update_spaces]
        rfl

/-- Without a candidate a search has nothing to try. -/
theorem attempts_eq_nil {m : MemoryReservationManager} {strategy : RequestStrategy}
    (h : (strategy.getCandidates m).reduceOption = []) :
    m.attempts strategy = [] := by
  simp only [MemoryReservationManager.attempts, h]
  split <;> rfl

/-- The fast path finds nothing, nor does the search under the mutex. -/
theorem waitCv_alone {request : Request} (hfree : w.waitMutex = none)
    (h : (request.strategy.getCandidates w.manager).reduceOption = []) :
    (machine.run w [.request t request, .step t, .step t, .step t]).blockedOn t =
      some .waitCv := by
  simp [machine, next, put, step, hfree, attempts_eq_nil h, unlock, blockedOn,
    RequestThread.blockedOn]

/-! ## Runs -/

/-- Once blocked on `_wait_cv`, a thread stays there whatever the others do. -/
theorem waitCv_run (h : w.blockedOn t = some .waitCv) {ops : List RequestOp}
    (hlaw : machine.Lawful w ops) (hself : ∀ op ∈ ops, op ≠ .spurious t) :
    (machine.run w ops).blockedOn t = some .waitCv := by
  have hevery : machine.Every (fun _ op => op ≠ .spurious t) w ops :=
    Machine.every_of_mem fun _ op hop => hself op hop
  have halways := Machine.always_of_every (I := (·.blockedOn t = some .waitCv))
    (fun _ _ h hop hne => waitCv_next h hop hne) h hlaw hevery
  exact halways.last

theorem brisk_fresh (spaces : Spaces) (ndebug : Bool) (heap : Addr) :
    (fresh spaces ndebug heap).Brisk :=
  ⟨rfl, AList.all_empty⟩

theorem brisk_run {ops : List RequestOp} (h : w.Brisk) (hlaw : machine.Lawful w ops)
    (hops : machine.Every HasCandidate w ops) : machine.Always Brisk w ops :=
  Machine.always_of_every (I := Brisk) (fun _ _ h _ hop => brisk_next h hop) h hlaw
    hops

def Steps (op : RequestOp) : Prop := ∃ t, op = .step t

/-- In a run, wherever it is left and the threads go on, every wait has a waker
exactly if each request that is made has a candidate. -/
theorem always_attended_iff (spaces : Spaces) (ndebug : Bool) (heap : Addr)
    {ops : List RequestOp}
    (hlaw : machine.Lawful (fresh spaces ndebug heap) ops) :
    (∀ pre post rest, ops = pre ++ post → (∀ op ∈ rest, Steps op) →
      machine.Always Attended (fresh spaces ndebug heap) (pre ++ rest)) ↔
      machine.Every HasCandidate (fresh spaces ndebug heap) ops := by
  have hfresh := brisk_fresh spaces ndebug heap
  constructor
  · intro h
    by_contra hnot
    obtain ⟨pre, op, post, heq, hbefore, hfirst⟩ := Machine.exists_first_not hnot
    rw [heq, Machine.Lawful, Machine.every_append] at hlaw
    have hbrisk := (brisk_run hfresh hlaw.1 hbefore).last
    cases op with
    | request t request =>
        have hasleep := waitCv_alone (t := t) hbrisk.free (not_not.mp hfirst)
        have hall := h (pre ++ [.request t request]) post
          [.step t, .step t, .step t] (by simp [heq]) (by simp [Steps])
        have hlast := hall.last
        rw [List.append_assoc, Machine.run_append] at hlast
        exact signalled_iff.mp (hlast.signalled t .waitCv hasleep) rfl
    | _ => exact hfirst trivial
  · rintro h pre post rest rfl hrest
    -- the threads that go on make no request
    have hsteps : ∀ w : RequestWorld, ∀ op ∈ rest, w.Proper op ∧ w.HasCandidate op := by
      intro w op hop
      obtain ⟨t, rfl⟩ := hrest op hop
      exact ⟨trivial, trivial⟩
    have hlawful : machine.Lawful (fresh spaces ndebug heap) (pre ++ rest) :=
      Machine.every_append.mpr ⟨(Machine.every_append.mp hlaw).1,
        Machine.every_of_mem fun w op hop => (hsteps w op hop).1⟩
    have hall : machine.Every HasCandidate (fresh spaces ndebug heap) (pre ++ rest) :=
      Machine.every_append.mpr ⟨(Machine.every_append.mp h).1,
        Machine.every_of_mem fun w op hop => (hsteps w op hop).2⟩
    exact (brisk_run hfresh hlawful hall).mono fun w hw => hw.attended

/-- A device with no memory reserved. -/
def oneDevice : Spaces := [⟨⟨.GPU, 0⟩, .gpu (.fresh 1024 1024), .fresh⟩]

/-- Two threads ask for the device; the first gives its reservation back while
`shutdown` runs. -/
def servedOps : List RequestOp :=
  let any := (ReservationRequestStrategy.anyMemorySpaceInTier .GPU).toStrategy
  [.request 1 ⟨any, 256⟩, .step 1, .request 2 ⟨any, 512⟩, .shutdown 3, .release 1,
    .shutdownNext 3 none, .post 1 none, .step 2, .destroyNotifier 1,
    .shutdownNext 3 none]

theorem always_attended_served :
    machine.Lawful (fresh oneDevice true 0) servedOps ∧
      ∀ pre post rest, servedOps = pre ++ post → (∀ op ∈ rest, Steps op) →
        machine.Always Attended (fresh oneDevice true 0) (pre ++ rest) :=
  have hlaw : machine.Lawful (fresh oneDevice true 0) servedOps :=
    show machine.Every Proper _ _ by decide
  ⟨hlaw, (always_attended_iff oneDevice true 0 hlaw).mpr (by decide)⟩

/-- A thread asks for a device that there is not, then `shutdown` runs. -/
def unansweredOps : List RequestOp :=
  [.request 1 ⟨(ReservationRequestStrategy.specificMemorySpace ⟨.GPU, 7⟩).toStrategy,
      64⟩, .step 1, .step 1, .step 1, .shutdown 2, .shutdownNext 2 none,
    .shutdownNext 2 none]

/-- The thread is blocked after `shutdown`, and nobody can do anything about it. -/
theorem unanswered_request :
    machine.Lawful (fresh oneDevice true 0) unansweredOps ∧
      (machine.run (fresh oneDevice true 0) unansweredOps).stopped = true ∧
      ¬ machine.Always Attended (fresh oneDevice true 0) unansweredOps ∧
      ∀ rest, machine.Lawful (fresh oneDevice true 0) (unansweredOps ++ rest) →
        (∀ op ∈ rest, op ≠ .spurious 1) →
        (machine.run (fresh oneDevice true 0) (unansweredOps ++ rest)).blockedOn 1 =
          some .waitCv := by
  have hlaw : machine.Lawful (fresh oneDevice true 0) unansweredOps :=
    show machine.Every Proper _ _ by decide
  have hasleep : (machine.run (fresh oneDevice true 0) unansweredOps).blockedOn 1 =
      some .waitCv := by decide
  refine ⟨hlaw, by decide, fun h => ?_, fun rest hrest hself => ?_⟩
  · exact signalled_iff.mp (h.last.signalled 1 .waitCv hasleep) rfl
  · rw [Machine.run_append]
    exact waitCv_run hasleep (Machine.every_append.mp hrest).2 hself

end RequestWorld

end CuCascade.Memory

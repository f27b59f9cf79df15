import CuCascade.Data.LockScripts

/-!
# The calls of the library never lock each other out

Each script keeps to one order of the mutexes: the one of a manager before those of
its repositories, these before those of batches, and a batch's before what a
conversion comes to. So whatever threads call, some thread can go on as long as one
is in the middle of a call and does not sleep.
-/

namespace CuCascade.Data

open CuCascade.Memory Locks

variable {held : List Mutex} {m : Mutex}

theorem Mutex.rank_le (m : Mutex) : m.rank ≤ 9 := by
  cases m <;> simp

theorem MemoryCall.neutral (call : MemoryCall) (hheld : ∀ m ∈ held, m.rank < 5) :
    Neutral Mutex.rank held call.script := by
  cases call with
  | allocate mr overReservation =>
      refine (neutral_alone hheld).append (neutral_flatMap fun state _ => ?_)
      exact neutral_alone fun m hm => Nat.lt_succ_of_lt (hheld m hm)
  | deallocate mr => exact neutral_alone hheld
  | hostBlocks mr => exact neutral_alone fun m hm => Nat.lt_add_right 2 (hheld m hm)

theorem notifierScript_neutral (channel : Option Addr) (hheld : ∀ m ∈ held, m.rank < 8) :
    Neutral Mutex.rank held (notifierScript channel) :=
  neutral_flatMap fun _ _ => (neutral_alone hheld).append (neutral_alone hheld)

theorem AttemptCall.neutral (call : AttemptCall) (hheld : ∀ m ∈ held, m.rank < 7) :
    Neutral Mutex.rank held call.script := by
  cases call with
  | hostResource mr => exact neutral_alone hheld
  | channel c => exact neutral_alone fun m hm => Nat.lt_succ_of_lt (hheld m hm)

theorem waitLoop_neutral {α : Type} {turn : α → List (Action Mutex)} (sleeps : List α)
    (last : α) (hturn : ∀ a, Neutral Mutex.rank [m] (turn a)) :
    Neutral Mutex.rank [] (waitLoop m turn sleeps last) :=
  neutral_within (List.forall_mem_nil _)
    ((neutral_flatMap fun a _ => (hturn a).append neutral_sleep).append (hturn last))

theorem batches_neutral (bs : List Addr) (hheld : ∀ m ∈ held, m.rank < 3) :
    Neutral Mutex.rank held (bs.flatMap fun b => alone (.batch b)) :=
  neutral_flatMap fun _ _ => neutral_alone hheld

/-- Each call takes mutexes in the order of their ranks, and gives all back. -/
theorem LibraryCall.neutral (call : LibraryCall) : Neutral Mutex.rank [] call.script := by
  have hone : ∀ {m : Mutex} {n : Nat}, m.rank < n → ∀ m' ∈ [m], m'.rank < n := by
    intro m n hm m' hmem
    rwa [List.mem_singleton.mp hmem]
  have halone : ∀ m : Mutex, Neutral Mutex.rank [] (alone m) := fun m =>
    neutral_alone (List.forall_mem_nil _)
  cases call with
  | replaceData b destroyed =>
      exact neutral_within (List.forall_mem_nil _)
        (neutral_flatMap fun call _ => call.neutral (hone (by simp)))
  | convertTo b registry converter destroyed =>
      refine neutral_within (List.forall_mem_nil _) ((neutral_alone (hone (by simp))).append ?_)
      exact (neutral_flatMap fun call _ => call.neutral (hone (by simp))).append
        (neutral_flatMap fun call _ => call.neutral (hone (by simp)))
  | addToRepository r b =>
      exact neutral_within (List.forall_mem_nil _) (batches_neutral _ (hone (by simp)))
  | search r scans last =>
      exact waitLoop_neutral scans last fun bs => batches_neutral bs (hone (by simp))
  | addDataBatch manager b repositories =>
      refine neutral_within (List.forall_mem_nil _) (neutral_flatMap fun r _ => ?_)
      refine neutral_within (hone (by simp)) (batches_neutral _ fun m hm => ?_)
      rcases List.mem_cons.mp hm with rfl | hmem
      · simp
      · exact hone (by simp) m hmem
  | memoryCall call => exact call.neutral (List.forall_mem_nil _)
  | resetStream mr channel =>
      exact neutral_within (List.forall_mem_nil _)
        (notifierScript_neutral channel (hone (by simp)))
  | releaseReservation host channel =>
      exact (neutral_flatMap fun mr _ => halone (.hostResource mr)).append
        (notifierScript_neutral channel (List.forall_mem_nil _))
  | channelWait c sleeps | acquireStream c sleeps =>
      exact waitLoop_neutral (List.replicate sleeps ()) () fun _ => neutral_nil
  | requestReservation manager sleeps last =>
      exact waitLoop_neutral sleeps last fun attempts =>
        neutral_flatMap fun call _ => call.neutral (hone (by simp))
  | batchCall | repositoryCall | addNewRepository | registryCall | trackerCall | hostCall
  | channelCall | poolCall => exact halone _

/-- Any number of threads make calls of the library, one after the other: after any run
they go on, in whatever order, until each has returned or sleeps on a condition variable
and no mutex of the library is taken. -/
theorem calls_come_to_rest {steps : List (Step Mutex)}
    (hlaw : (machine IsCall).Lawful ∅ steps) :
    let w := (machine IsCall).run ∅ steps
    (∀ more, (machine IsCall).Lawful w more → (machine IsCall).Every Goes w more →
        more.length ≤ work w ∧
          ((machine IsCall).Drained Goes ((machine IsCall).run w more) →
            AtRest ((machine IsCall).run w more))) ∧
      ∃ more, (machine IsCall).Lawful w more ∧ (machine IsCall).Every Goes w more ∧
        AtRest ((machine IsCall).run w more) := by
  refine comes_to_rest Mutex.rank_le (fun script hscript => ?_) hlaw
  obtain ⟨call, rfl⟩ := hscript
  exact call.neutral.ordered

/-- One thread has found nothing in a repository and sleeps; another is adding a batch
through the manager and has three mutexes; a third wants the batch's. -/
theorem calls_come_to_rest_adding :
    let steps : List (Step Mutex) :=
      [.call 0 (LibraryCall.search 7 [[]] [3]).script, .go 0, .go 0,
        .call 1 (LibraryCall.addDataBatch 1 (some 3) [7, 8]).script, .go 1, .go 1, .go 1,
        .call 2 (LibraryCall.batchCall 3).script]
    let w := (machine IsCall).run ∅ steps
    (∀ more, (machine IsCall).Lawful w more → (machine IsCall).Every Goes w more →
        more.length ≤ work w ∧
          ((machine IsCall).Drained Goes ((machine IsCall).run w more) →
            AtRest ((machine IsCall).run w more))) ∧
      ∃ more, (machine IsCall).Lawful w more ∧ (machine IsCall).Every Goes w more ∧
        AtRest ((machine IsCall).run w more) :=
  calls_come_to_rest ⟨⟨⟨_, rfl⟩, by decide⟩, ⟨_, rfl, by decide⟩, ⟨_, rfl, by decide⟩,
    ⟨⟨_, rfl⟩, by decide⟩, ⟨_, rfl, by decide⟩, ⟨_, rfl, by decide⟩, ⟨_, rfl, by decide⟩,
    ⟨⟨_, rfl⟩, by decide⟩, trivial⟩

end CuCascade.Data

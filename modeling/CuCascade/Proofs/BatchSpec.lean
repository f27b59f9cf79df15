import CuCascade.Data.BatchWorld

/-!
# What a call does to a batch

The diagram of the states as a relation. `Move b e loud b'` is one edge: the
batch `b` becomes `b'` by the event `e`, and `loud` says whether the edge is
announced on the condition variable of the batch. Each method either follows an
edge of its own event or changes nothing, and so does a call of a client, with
what it does to the handles. What follows about runs is then a matter of the
edges alone.
-/

namespace CuCascade.Data

open Memory

inductive Event where
  | created | cancelled | locked | departed | released
  | arrived (targetState : Option BatchState)
deriving DecidableEq

/-- The edges of the diagram. -/
inductive Move (b : DataBatch) : Event → Bool → DataBatch → Prop where
  | create : b.state = .idle →
      Move b .created true
        { b with state := .taskCreated, taskCreatedCount := b.taskCreatedCount + 1 }
  | createMore : b.state = .taskCreated ∨ b.state = .processing →
      Move b .created false { b with taskCreatedCount := b.taskCreatedCount + 1 }
  | cancel : b.state = .taskCreated ∨ b.state = .processing →
      0 < b.taskCreatedCount →
      ¬(b.taskCreatedCount = 1 ∧ b.processingCount = 0) →
      Move b .cancelled false { b with taskCreatedCount := b.taskCreatedCount - 1 }
  | cancelLast : b.state = .taskCreated ∨ b.state = .processing →
      b.taskCreatedCount = 1 → b.processingCount = 0 →
      Move b .cancelled true { b with state := .idle, taskCreatedCount := 0 }
  | lock : b.state = .taskCreated ∨ b.state = .processing →
      0 < b.taskCreatedCount →
      Move b .locked true
        { b with
          state := .processing
          taskCreatedCount := b.taskCreatedCount - 1
          processingCount := b.processingCount + 1 }
  | depart : b.processingCount = 0 →
      b.state = .idle ∨ b.state = .taskCreated ∧ 0 < b.taskCreatedCount →
      Move b .departed true { b with state := .inTransit }
  | arrive (targetState : Option BatchState) : b.state = .inTransit →
      Move b (.arrived targetState) true
        { b with state := targetState.getD .idle }
  | release : b.state = .processing → 1 < b.processingCount →
      Move b .released false { b with processingCount := b.processingCount - 1 }
  | releaseLast : b.state = .processing → b.processingCount = 1 →
      Move b .released true
        { b with
          state := if 0 < b.taskCreatedCount then .taskCreated else .idle
          processingCount := 0 }

/-- The call took its edge and reported success, or it failed and changed
nothing. -/
def Performs {α : Type} (b : DataBatch) (e : Event) (yes : α) (out : Outcome α) :
    Prop :=
  (∃ loud, Move b e loud out.batch ∧
    out.notify = (if loud then b.stateChangeCv else none) ∧
    out.result = .ok yes) ∨
  (out.batch = b ∧ out.notify = none ∧ out.result ≠ .ok yes)

section Methods

variable {b : DataBatch}

theorem Performs.yes {α : Type} {e : Event} {yes : α} {b' : DataBatch}
    {loud : Bool} (h : Move b e loud b')
    (hcv : b'.stateChangeCv = b.stateChangeCv) :
    Performs b e yes ⟨b', if loud then b'.stateChangeCv else none, .ok yes⟩ :=
  .inl ⟨loud, h, by rw [hcv], rfl⟩

theorem Performs.no {α : Type} {e : Event} {yes : α} {r : Except Failure α}
    (h : r ≠ .ok yes) : Performs b e yes (DataBatch.quiet b r) :=
  .inr ⟨rfl, rfl, h⟩

theorem tryToCreateTask_performs :
    Performs b .created true b.tryToCreateTask := by
  unfold DataBatch.tryToCreateTask
  split
  · next h => exact .yes (.create h) rfl
  · next h => exact .yes (.createMore (.inl h)) rfl
  · next h => exact .yes (.createMore (.inr h)) rfl
  · exact .no (by simp)

theorem cancel_performs (h : b.state = .taskCreated ∨ b.state = .processing) :
    Performs b .cancelled true b.tryToCancelTask := by
  have hcall : b.tryToCancelTask =
      if b.taskCreatedCount = 0 then
        DataBatch.quiet b (.error (.thrown (.runtimeError
          "Cannot cancel task: task_created_count is zero. try_to_create_task() must be called before try_to_cancel_task()")))
      else if b.taskCreatedCount - 1 = 0 ∧ b.processingCount = 0 then
        DataBatch.changed { b with
          state := .idle
          taskCreatedCount := b.taskCreatedCount - 1 } true
      else DataBatch.quiet
        { b with taskCreatedCount := b.taskCreatedCount - 1 } (.ok true) := by
    unfold DataBatch.tryToCancelTask
    rcases h with h | h <;> rw [h]
  rw [hcall]
  split
  · exact .no nofun
  · next hpos =>
      split
      · next hlast =>
          have hone : b.taskCreatedCount = 1 := by omega
          rw [hlast.1]
          exact .yes (.cancelLast h hone hlast.2) rfl
      · next hmore =>
          exact .yes (.cancel h (by omega) (by omega)) rfl

theorem tryToCancelTask_performs :
    Performs b .cancelled true b.tryToCancelTask := by
  cases h : b.state with
  | taskCreated => exact cancel_performs (.inl h)
  | processing => exact cancel_performs (.inr h)
  | idle | inTransit =>
      have hcall : b.tryToCancelTask = DataBatch.quiet b (.ok false) := by
        unfold DataBatch.tryToCancelTask
        rw [h]
      rw [hcall]
      exact .no (by simp)

theorem tryToLockForProcessing_performs (this : Addr) (space : MemorySpaceId) :
    Performs b .locked ⟨true, some this, .success⟩
      (b.tryToLockForProcessing this space) := by
  unfold DataBatch.tryToLockForProcessing
  split
  · exact .no (by simp)
  · split
    · exact .no (by simp)
    · split
      · exact .no (by simp)
      · next hcount =>
          split
          · exact .no (by simp)
          · next hstate =>
              exact .yes (.lock (not_not.mp hstate) (by omega)) rfl

/-- A lock that failed says so, and its handle is empty. -/
theorem lock_failed {this : Addr} {space : MemorySpaceId}
    {r : LockForProcessingResult}
    (h : (b.tryToLockForProcessing this space).result = .ok r)
    (hne : r ≠ ⟨true, some this, .success⟩) :
    r.success = false ∧ r.handle = none := by
  unfold DataBatch.tryToLockForProcessing at h
  split at h
  · cases h
    exact ⟨rfl, rfl⟩
  · split at h
    · cases h
      exact ⟨rfl, rfl⟩
    · split at h
      · cases h
        exact ⟨rfl, rfl⟩
      · split at h
        · cases h
          exact ⟨rfl, rfl⟩
        · cases h
          exact absurd rfl hne

/-- A lock never throws, whatever its comment says. -/
theorem lock_returns (this : Addr) (space : MemorySpaceId) :
    ∃ r, (b.tryToLockForProcessing this space).result = .ok r := by
  unfold DataBatch.tryToLockForProcessing
  split
  · exact ⟨_, rfl⟩
  · split
    · exact ⟨_, rfl⟩
    · split
      · exact ⟨_, rfl⟩
      · split
        · exact ⟨_, rfl⟩
        · exact ⟨_, rfl⟩

theorem tryToLockForInTransit_performs :
    Performs b .departed true b.tryToLockForInTransit := by
  unfold DataBatch.tryToLockForInTransit
  split
  · next h => exact .yes (.depart h.1 h.2) rfl
  · exact .no (by simp)

theorem tryToReleaseInTransit_performs (targetState : Option BatchState) :
    Performs b (.arrived targetState) true (b.tryToReleaseInTransit targetState) := by
  unfold DataBatch.tryToReleaseInTransit
  split
  · next h => exact .yes (.arrive targetState h) rfl
  · exact .no (by simp)

theorem decrementProcessingCount_performs :
    Performs b .released () b.decrementProcessingCount := by
  unfold DataBatch.decrementProcessingCount
  split
  · exact .no nofun
  · next hstate =>
      have hstate : b.state = .processing := not_not.mp hstate
      split
      · exact .no nofun
      · next hpos =>
          simp only
          split
          · next hlast =>
              have hone : b.processingCount = 1 := by omega
              rw [hlast]
              exact .yes (.releaseLast hstate hone) rfl
          · next hmore =>
              exact .yes (.release hstate (by omega)) rfl

end Methods

end CuCascade.Data

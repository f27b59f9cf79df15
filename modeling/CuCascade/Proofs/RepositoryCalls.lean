import CuCascade.Data.RepositoryCalls

/-!
# What pop takes, and that get and pop agree

The loop of `pop_data_batch` calls a method that changes the batch on every
entry it comes to. A transition that fails is no change at all, so each batch
before the one that is taken is as it was, and so is the test it failed: the
loop takes the first entry that could make the transition when the call began.

The two functions that look for an id have a loop each and decide the
transition each for itself. They come to the same end, and only the texts of
one exception differ.
-/

namespace CuCascade.Data

open Memory

/-! ## One transition -/

namespace DataBatch

/-- The batch can make the transition. -/
def CanTransition (b : DataBatch) : BatchState → Prop
  | .taskCreated => b.state ≠ .inTransit
  | .inTransit => b.processingCount = 0 ∧
      (b.state = .idle ∨ b.state = .taskCreated ∧ 0 < b.taskCreatedCount)
  | .processing | .idle => False

/-- The batch after one transition. -/
def transitioned (b : DataBatch) : BatchState → DataBatch
  | .taskCreated =>
      { b with
        state := if b.state = .idle then .taskCreated else b.state
        taskCreatedCount := b.taskCreatedCount + 1 }
  | .inTransit => { b with state := .inTransit }
  | .processing | .idle => b

instance (b : DataBatch) : (targetState : BatchState) →
    Decidable (b.CanTransition targetState)
  | .taskCreated => inferInstanceAs (Decidable (_ ≠ _))
  | .inTransit => inferInstanceAs (Decidable (_ ∧ _))
  | .processing | .idle => isFalse id

theorem tryToCreateTask_can {b : DataBatch} (h : b.CanTransition .taskCreated) :
    b.tryToCreateTask.batch = b.transitioned .taskCreated ∧
      b.tryToCreateTask.result = .ok true := by
  obtain ⟨batchId, data, processingCount, taskCreatedCount, state, cv⟩ := b
  cases state with
  | inTransit => exact absurd rfl h
  | idle | taskCreated | processing => exact ⟨rfl, rfl⟩

theorem tryToCreateTask_cannot {b : DataBatch} (h : ¬ b.CanTransition .taskCreated) :
    b.tryToCreateTask = quiet b (.ok false) := by
  have hstate : b.state = .inTransit := Decidable.not_not.mp h
  simp only [tryToCreateTask, hstate]

theorem tryToLockForInTransit_can {b : DataBatch} (h : b.CanTransition .inTransit) :
    b.tryToLockForInTransit.batch = b.transitioned .inTransit ∧
      b.tryToLockForInTransit.result = .ok true := by
  have hif : b.tryToLockForInTransit = changed { b with state := .inTransit } true :=
    if_pos h
  rw [hif]
  exact ⟨rfl, rfl⟩

theorem tryToLockForInTransit_cannot {b : DataBatch}
    (h : ¬ b.CanTransition .inTransit) :
    b.tryToLockForInTransit = quiet b (.ok false) :=
  if_neg h

end DataBatch

namespace DataRepository

/-- The targets that a pop can ask for. -/
def Asked (targetState : BatchState) : Prop :=
  targetState = .taskCreated ∨ targetState = .inTransit

instance (targetState : BatchState) : Decidable (Asked targetState) :=
  inferInstanceAs (Decidable (_ ∨ _))

/-- The entry is a pointer to a batch that can make the transition. -/
def Eligible (batches : Table Addr DataBatch) (targetState : BatchState)
    (batchPtr : Option Addr) : Prop :=
  ∃ batch ∈ batchPtr.bind batches.lookup, batch.CanTransition targetState

instance (batches : Table Addr DataBatch) (targetState : BatchState)
    (batchPtr : Option Addr) : Decidable (Eligible batches targetState batchPtr) :=
  inferInstanceAs (Decidable (∃ batch ∈ batchPtr.bind batches.lookup, _))

/-- Two tables say the same of every batch. -/
def Alike (batches batches' : Table Addr DataBatch) : Prop :=
  ∀ b, batches'.lookup b = batches.lookup b

/-- Each entry points to a batch. -/
def Pointing (batches : Table Addr DataBatch) (entries : List (Option Addr)) : Prop :=
  ∀ batchPtr ∈ entries, (batchPtr.bind batches.lookup).isSome

instance (batches : Table Addr DataBatch) (entries : List (Option Addr)) :
    Decidable (Pointing batches entries) :=
  inferInstanceAs (Decidable (∀ batchPtr ∈ entries, _))

section Transition

variable {batches batches' : Table Addr DataBatch} {targetState : BatchState}
  {b : Addr} {batch : DataBatch} {batchPtr : Option Addr}

theorem alike_insert (hb : batches.lookup b = some batch)
    (h : Alike batches batches') : Alike batches (batches'.insert b batch) := by
  intro c
  by_cases hc : c = b
  · rw [hc, AList.lookup_insert, hb]
  · rw [AList.lookup_insert_ne hc]
    exact h c

theorem transition_can (htarget : Asked targetState)
    (hb : batches.lookup b = some batch) (h : batch.CanTransition targetState) :
    ∃ notify, tryTransitionPtrForPop batches (some b) targetState =
      (batches.insert b (batch.transitioned targetState), notify, .ok true) := by
  rcases htarget with rfl | rfl
  · obtain ⟨hbatch, hresult⟩ := DataBatch.tryToCreateTask_can h
    simp only [tryTransitionPtrForPop, callBatch, hb, hbatch, hresult]
    exact ⟨_, rfl⟩
  · obtain ⟨hbatch, hresult⟩ := DataBatch.tryToLockForInTransit_can h
    simp only [tryTransitionPtrForPop, callBatch, hb, hbatch, hresult]
    exact ⟨_, rfl⟩

theorem transition_cannot (htarget : Asked targetState)
    (hb : batches.lookup b = some batch) (h : ¬ batch.CanTransition targetState) :
    tryTransitionPtrForPop batches (some b) targetState =
      (batches.insert b batch, none, .ok false) := by
  rcases htarget with rfl | rfl
  · simp only [tryTransitionPtrForPop, callBatch, hb,
      DataBatch.tryToCreateTask_cannot h, DataBatch.quiet]
  · simp only [tryTransitionPtrForPop, callBatch, hb,
      DataBatch.tryToLockForInTransit_cannot h, DataBatch.quiet]

/-- The entry points to a batch that cannot make the transition. -/
def Passed (batches : Table Addr DataBatch) (targetState : BatchState)
    (batchPtr : Option Addr) : Prop :=
  ∃ batch ∈ batchPtr.bind batches.lookup, ¬ batch.CanTransition targetState

theorem popBody_null (htarget : Asked targetState)
    (h : batchPtr.bind batches.lookup = none) :
    popBody targetState batches batchPtr = (batches, some (.error .nullDereference)) := by
  cases batchPtr with
  | none => rcases htarget with rfl | rfl <;> rfl
  | some b =>
      have hb : batches.lookup b = none := h
      rcases htarget with rfl | rfl <;>
        simp only [popBody, tryTransitionPtrForPop, callBatch, hb]

theorem popBody_take (htarget : Asked targetState)
    (hb : batches.lookup b = some batch) (h : batch.CanTransition targetState) :
    ∃ notify, popBody targetState batches (some b) =
      (batches.insert b (batch.transitioned targetState), some (.ok notify)) := by
  obtain ⟨notify, heq⟩ := transition_can htarget hb h
  exact ⟨notify, by simp only [popBody, heq]⟩

/-- The loop of `pop_data_batch` leaves what it passes as it is. -/
theorem popBody_reads (htarget : Asked targetState) :
    Scan.Reads (popBody targetState) (Passed batches targetState) (Alike batches) where
  pass batches' hsame batchPtr := by
    rintro ⟨batch, hread, hcannot⟩
    obtain ⟨b, rfl, hb⟩ := Option.bind_eq_some_iff.mp hread
    have hb' := (hsame b).trans hb
    simp only [popBody, transition_cannot htarget hb' hcannot]
    exact ⟨_, rfl, alike_insert hb hsame⟩
  stop batches' hsame batchPtr hpass := by
    rcases hread : batchPtr.bind batches'.lookup with _ | batch
    · rw [popBody_null htarget hread]
      exact nofun
    · obtain ⟨b, rfl, hb⟩ := Option.bind_eq_some_iff.mp hread
      have hcan : batch.CanTransition targetState := by
        by_contra hcannot
        exact hpass ⟨batch, (hsame b).symm.trans hb, hcannot⟩
      obtain ⟨notify, heq⟩ := popBody_take htarget hb hcan
      rw [heq]
      exact nofun

end Transition

/-! ## Pop takes the oldest -/

section Pop

variable {r : DataRepository} {batches : Table Addr DataBatch}
  {targetState : BatchState} {partitionIdx : UInt64} {entries : List (Option Addr)}

/-- With a batch that can make the transition, and none before it that can, the
call takes it. -/
theorem popDataBatch_take {k : Nat} {b : Addr} {batch : DataBatch}
    (hentries : r.dataBatches[partitionIdx.toNat]? = some entries)
    (htarget : Asked targetState)
    (hfirst : Scan.FirstStop (Passed batches targetState) entries k (some b))
    (hb : batches.lookup b = some batch) (hcan : batch.CanTransition targetState) :
    ∃ batches' notify, Alike batches batches' ∧
      r.popDataBatch batches targetState partitionIdx =
        ⟨batches'.insert b (batch.transitioned targetState),
          r.erased partitionIdx entries k, notify, some (.ok (some b))⟩ := by
  obtain ⟨batches', hsame, hscan⟩ := (popBody_reads htarget).scan_of_firstStop
    (s := batches) (i := 0) (fun _ => rfl) hfirst
  obtain ⟨notify, htake⟩ := popBody_take htarget ((hsame b).trans hb) hcan
  have hne : entries.isEmpty = false :=
    List.isEmpty_eq_false_iff.mpr (List.ne_nil_of_mem hfirst.mem)
  refine ⟨batches', notify, hsame, ?_⟩
  simp only [popDataBatch, hentries, hne, hscan, htake, Option.map_some, Nat.zero_add,
    hfirst.1, Option.join_some, Bool.false_eq_true, if_false]

/-- Where no batch can make the transition, the call waits, unless there is
nothing to wait for. -/
theorem popDataBatch_wait
    (hentries : r.dataBatches[partitionIdx.toNat]? = some entries)
    (htarget : Asked targetState) (h : ∀ e ∈ entries, Passed batches targetState e) :
    ∃ batches', Alike batches batches' ∧
      r.popDataBatch batches targetState partitionIdx =
        ⟨batches', r.dataBatches, none,
          if entries = [] then some (.ok none) else none⟩ := by
  cases entries with
  | nil =>
      refine ⟨batches, fun _ => rfl, ?_⟩
      simp only [popDataBatch, hentries, List.isEmpty_nil, if_true]
  | cons e entries =>
      obtain ⟨batches', hsame, hscan⟩ := (popBody_reads htarget).scan_of_pass
        (s := batches) (i := 0) (fun _ => rfl) h
      refine ⟨batches', hsame, ?_⟩
      simp only [popDataBatch, hentries, List.isEmpty_cons, hscan,
        Bool.false_eq_true, if_false, List.cons_ne_nil]

theorem passed_iff (hpoint : Pointing batches entries) {e : Option Addr}
    (he : e ∈ entries) :
    Passed batches targetState e ↔ ¬ Eligible batches targetState e := by
  obtain ⟨batch, hread⟩ := Option.isSome_iff_exists.mp (hpoint e he)
  constructor
  · rintro ⟨other, hother, hcannot⟩ ⟨another, hanother, hcan⟩
    rw [Option.mem_def, hread, Option.some.injEq] at hother hanother
    exact hcannot (hother ▸ hanother ▸ hcan)
  · intro hnot
    exact ⟨batch, hread, fun hcan => hnot ⟨batch, hread, hcan⟩⟩

/-- The entry at `k` is a pointer to `b`, a batch that can make the transition,
and no entry before it is. -/
def OldestAt (batches : Table Addr DataBatch) (targetState : BatchState)
    (entries : List (Option Addr)) (k : Nat) (b : Addr) (batch : DataBatch) : Prop :=
  entries[k]? = some (some b) ∧ batches.lookup b = some batch ∧
    batch.CanTransition targetState ∧
    ∀ j < k, ∀ e ∈ entries[j]?, ¬ Eligible batches targetState e

theorem OldestAt.firstStop {k : Nat} {b : Addr} {batch : DataBatch}
    (hpoint : Pointing batches entries)
    (h : OldestAt batches targetState entries k b batch) :
    Scan.FirstStop (Passed batches targetState) entries k (some b) := by
  obtain ⟨hk, hb, hcan, hbefore⟩ := h
  refine ⟨hk, ?_, fun j hj e he => ?_⟩
  · rw [passed_iff hpoint (List.mem_of_getElem? hk), not_not]
    exact ⟨batch, hb, hcan⟩
  · rw [passed_iff hpoint (List.mem_of_getElem? he)]
    exact hbefore j hj e he

/-- The oldest batch that can make the transition is taken, and makes it once. -/
theorem OldestAt.taken {k : Nat} {b : Addr} {batch : DataBatch}
    (hentries : r.dataBatches[partitionIdx.toNat]? = some entries)
    (hpoint : Pointing batches entries) (htarget : Asked targetState)
    (hold : OldestAt batches targetState entries k b batch) :
    let c := r.popDataBatch batches targetState partitionIdx
    c.found = some (.ok (some b)) ∧
      c.batches.lookup b = some (batch.transitioned targetState) ∧
      (∀ b' ≠ b, c.batches.lookup b' = batches.lookup b') ∧
      c.dataBatches = r.dataBatches.set partitionIdx.toNat (entries.eraseIdx k) := by
  intro c
  obtain ⟨batches', notify, hsame, heq⟩ := popDataBatch_take hentries htarget
    (hold.firstStop hpoint) hold.2.1 hold.2.2.1
  have hc : c = _ := heq
  rw [hc]
  refine ⟨rfl, AList.lookup_insert _, fun b' hb' => ?_, rfl⟩
  exact (AList.lookup_insert_ne hb').trans (hsame b')

theorem exists_oldestAt {e : Option Addr} (he : e ∈ entries)
    (hcan : Eligible batches targetState e) :
    ∃ k b batch, OldestAt batches targetState entries k b batch := by
  have hsome : ¬ ∀ e ∈ entries, ¬ Eligible batches targetState e :=
    fun hnone => hnone e he hcan
  obtain ⟨k, e', hk, hnot, hbefore⟩ := Scan.exists_firstStop hsome
  obtain ⟨batch, hread, hcan'⟩ := not_not.mp hnot
  obtain ⟨b, rfl, hb⟩ := Option.bind_eq_some_iff.mp hread
  exact ⟨k, b, batch, hk, hb, hcan', hbefore⟩

/-- The call comes back exactly if the partition is empty or some batch can make
the transition. It takes the oldest that can, which makes one transition; no
other batch changes, and the others stay in their order. -/
theorem popDataBatch_oldest (r : DataRepository) (batches : Table Addr DataBatch)
    (targetState : BatchState) (partitionIdx : UInt64)
    (hentries : r.dataBatches[partitionIdx.toNat]? = some entries)
    (hpoint : Pointing batches entries)
    (htarget : targetState = .taskCreated ∨ targetState = .inTransit) :
    let c := r.popDataBatch batches targetState partitionIdx
    (c.found.isSome ↔
      entries = [] ∨ ∃ e ∈ entries, Eligible batches targetState e) ∧
    (∀ k b batch, OldestAt batches targetState entries k b batch →
      c.found = some (.ok (some b)) ∧
        c.batches.lookup b = some (batch.transitioned targetState) ∧
        (∀ b' ≠ b, c.batches.lookup b' = batches.lookup b') ∧
        c.dataBatches =
          r.dataBatches.set partitionIdx.toNat (entries.eraseIdx k)) ∧
    ((∀ e ∈ entries, ¬ Eligible batches targetState e) →
      c.found = (if entries = [] then some (.ok none) else none) ∧
        (∀ b, c.batches.lookup b = batches.lookup b) ∧
        c.dataBatches = r.dataBatches) := by
  intro c
  have hwait : (∀ e ∈ entries, ¬ Eligible batches targetState e) →
      c.found = (if entries = [] then some (.ok none) else none) ∧
        (∀ b, c.batches.lookup b = batches.lookup b) ∧
        c.dataBatches = r.dataBatches := by
    intro hnone
    obtain ⟨batches', hsame, heq⟩ := popDataBatch_wait hentries htarget
      fun e he => (passed_iff hpoint he).mpr (hnone e he)
    have hc : c = _ := heq
    rw [hc]
    exact ⟨rfl, hsame, rfl⟩
  refine ⟨?_, fun k b batch hold => hold.taken hentries hpoint htarget, hwait⟩
  by_cases hsome : ∃ e ∈ entries, Eligible batches targetState e
  · obtain ⟨e, he, hcan⟩ := hsome
    obtain ⟨k, b, batch, hold⟩ := exists_oldestAt he hcan
    rw [(hold.taken hentries hpoint htarget).1]
    exact iff_of_true rfl (.inr ⟨e, he, hcan⟩)
  · rw [(hwait fun e he hcan => hsome ⟨e, he, hcan⟩).1, or_iff_left hsome]
    by_cases hnil : entries = []
    · rw [if_pos hnil]
      exact iff_of_true rfl hnil
    · rw [if_neg hnil]
      exact iff_of_false (fun h => by cases h) hnil

end Pop

/-- A batch in transit, an idle one, and one with a task: for a pop that asks
for a task the second is the oldest. -/
def threeBatches : Table Addr DataBatch :=
  ((∅ : Table Addr DataBatch).insert 1 { DataBatch.create 11 none with state := .inTransit })
    |>.insert 2 (.create 12 none)
    |>.insert 3 (DataBatch.create 13 none).tryToCreateTask.batch

theorem popDataBatch_oldest_threeBatches :
    let c := popDataBatch ⟨100, [[some 1, some 2, some 3]]⟩ threeBatches .taskCreated 0
    c.found = some (.ok (some 2)) ∧ c.dataBatches = [[some 1, some 3]] := by
  have h := popDataBatch_oldest ⟨100, [[some 1, some 2, some 3]]⟩ threeBatches
    .taskCreated 0 rfl (by decide) (.inl rfl)
  obtain ⟨hfound, -, -, hrest⟩ := h.2.1 1 2 _ ⟨rfl, rfl, by decide, by decide⟩
  exact ⟨hfound, hrest⟩

/-! ## Get and pop agree -/

/-- The entry points to a batch with another id. -/
def OtherId (batches : Table Addr DataBatch) (batchId : UInt64)
    (batchPtr : Option Addr) : Prop :=
  ∃ batch ∈ batchPtr.bind batches.lookup, batch.batchId ≠ batchId

/-- Two calls end alike: but for the text of a `std::runtime_error`. -/
def SameEnd (found found' : Found) : Prop :=
  found = found' ∨ ∃ what what', found = some (.error (.thrown (.runtimeError what))) ∧
    found' = some (.error (.thrown (.runtimeError what')))

section ById

variable {r : DataRepository} {batches : Table Addr DataBatch} {batchId : UInt64}
  {targetState : Option BatchState} {partitionIdx : UInt64}
  {entries : List (Option Addr)}

theorem idBody_reads (batches : Table Addr DataBatch) (batchId : UInt64) :
    Scan.Reads (idBody batchId) (OtherId batches batchId) (· = batches) where
  pass := by
    rintro _ rfl batchPtr ⟨batch, hread, hid⟩
    rw [Option.mem_def] at hread
    simp only [idBody, hread, if_neg hid]
    exact ⟨_, rfl, rfl⟩
  stop := by
    rintro batches rfl batchPtr hpass
    rcases hread : batchPtr.bind batches.lookup with _ | batch
    · simp only [idBody, hread]
      exact nofun
    · have hid : batch.batchId = batchId := by
        by_contra hid
        exact hpass ⟨batch, hread, hid⟩
      simp only [idBody, hread, if_pos hid]
      exact nofun

/-- A loop that looks for an id finds no entry to stop at, runs into one that
cannot be read, or finds the first entry of that id. -/
theorem scan_id_cases (batches : Table Addr DataBatch) (batchId : UInt64)
    (entries : List (Option Addr)) :
    ((∀ e ∈ entries, OtherId batches batchId e) ∧
      Scan.scan (idBody batchId) batches entries 0 = (batches, none)) ∨
    ∃ k e, Scan.FirstStop (OtherId batches batchId) entries k e ∧
      ((e.bind batches.lookup = none ∧ Scan.scan (idBody batchId) batches entries 0 =
          (batches, some (k, .error .nullDereference))) ∨
        ∃ b batch, e = some b ∧ batches.lookup b = some batch ∧
          batch.batchId = batchId ∧ Scan.scan (idBody batchId) batches entries 0 =
            (batches, some (k, .ok ()))) := by
  rcases (idBody_reads batches batchId).scan_cases rfl entries 0 with
    ⟨hall, s, hs, hscan⟩ | ⟨k, e, s, hfirst, hs, hscan⟩ <;> cases hs
  · exact .inl ⟨hall, hscan⟩
  · refine .inr ⟨k, e, hfirst, ?_⟩
    rcases hread : e.bind batches.lookup with _ | batch
    · refine .inl ⟨rfl, ?_⟩
      simpa only [idBody, hread, Option.map_some, Nat.zero_add] using hscan
    · obtain ⟨b, rfl, hb⟩ := Option.bind_eq_some_iff.mp hread
      have hid : batch.batchId = batchId := by
        by_contra hid
        exact hfirst.2.1 ⟨batch, hread, hid⟩
      refine .inr ⟨b, batch, rfl, hb, hid, ?_⟩
      have hbody : idBody batchId batches (some b) = (batches, some (.ok ())) := by
        simp only [idBody, hread, if_pos hid]
      simpa only [hbody, Option.map_some, Nat.zero_add] using hscan

/-- The two calls come to the same end and leave every batch alike. -/
theorem getDataBatchById_alike (r : DataRepository) (batches : Table Addr DataBatch)
    (batchId : UInt64) (targetState : Option BatchState) (partitionIdx : UInt64) :
    let got := r.getDataBatchById batches batchId targetState partitionIdx
    let popped := r.popDataBatchById batches batchId targetState partitionIdx
    SameEnd got.found popped.found ∧ got.batches = popped.batches ∧
      got.notify = popped.notify ∧ got.dataBatches = r.dataBatches := by
  cases hentries : r.dataBatches[partitionIdx.toNat]? with
  | none =>
      simp only [getDataBatchById, popDataBatchById, hentries, outOfRange]
      exact ⟨.inl rfl, trivial, trivial, trivial⟩
  | some entries =>
      rcases hscan : Scan.scan (idBody batchId) batches entries 0 with
        ⟨batches', _ | ⟨k, e | ⟨⟩⟩⟩
      all_goals simp only [getDataBatchById, popDataBatchById, hentries, hscan]
      · exact ⟨.inl rfl, trivial, trivial, trivial⟩
      · exact ⟨.inl rfl, trivial, trivial, trivial⟩
      · -- past the search the two differ only in the text for one target
        generalize entries[k]?.join = batchPtr
        cases targetState with
        | none => exact ⟨.inl rfl, rfl, rfl, rfl⟩
        | some targetState =>
            cases targetState with
            | idle => exact ⟨.inl rfl, rfl, rfl, rfl⟩
            | processing => exact ⟨.inr ⟨_, _, rfl, rfl⟩, rfl, rfl, rfl⟩
            | taskCreated | inTransit =>
                simp only [tryTransitionPtrForPop]
                generalize callBatch batches' batchPtr _ = out
                rcases out with ⟨batches₁, notify, e | able⟩
                · exact ⟨.inl rfl, rfl, rfl, rfl⟩
                · cases able <;> exact ⟨.inl rfl, rfl, rfl, rfl⟩

/-- Pop takes the entry it returns out of the partition, and no other. -/
theorem popDataBatchById_removes (r : DataRepository) (batches : Table Addr DataBatch)
    (batchId : UInt64) (targetState : Option BatchState) (partitionIdx : UInt64) :
    let popped := r.popDataBatchById batches batchId targetState partitionIdx
    ((∀ b, popped.found ≠ some (.ok (some b))) →
        popped.dataBatches = r.dataBatches) ∧
      ∀ b, popped.found = some (.ok (some b)) →
        ∃ entries k, r.dataBatches[partitionIdx.toNat]? = some entries ∧
          Scan.FirstStop (OtherId batches batchId) entries k (some b) ∧
          popped.dataBatches =
            r.dataBatches.set partitionIdx.toNat (entries.eraseIdx k) := by
  cases hentries : r.dataBatches[partitionIdx.toNat]? with
  | none =>
      simp only [popDataBatchById, hentries, outOfRange]
      exact ⟨fun _ => trivial, fun b h => by cases h⟩
  | some entries =>
      rcases scan_id_cases batches batchId entries with ⟨-, hscan⟩ |
        ⟨k, e, hfirst, ⟨-, hscan⟩ | ⟨b, batch, rfl, hb, hid, hscan⟩⟩
      · simp only [popDataBatchById, hentries, hscan]
        exact ⟨fun _ => trivial, fun b h => by cases h⟩
      · simp only [popDataBatchById, hentries, hscan]
        exact ⟨fun _ => trivial, fun b h => by cases h⟩
      · have hk : entries[k]?.join = some b := by
          rw [hfirst.1]
          rfl
        have hremoved : ∃ entries' k', some entries = some entries' ∧
            Scan.FirstStop (OtherId batches batchId) entries' k' (some b) ∧
            r.erased partitionIdx entries k =
              r.dataBatches.set partitionIdx.toNat (entries'.eraseIdx k') :=
          ⟨entries, k, rfl, hfirst, rfl⟩
        simp only [popDataBatchById, hentries, hscan, hk]
        cases targetState with
        | none =>
            refine ⟨fun h => absurd rfl (h b), fun c hc => ?_⟩
            cases hc
            exact hremoved
        | some targetState =>
            dsimp only
            generalize tryTransitionPtrForPop batches (some b) targetState = tried
            rcases tried with ⟨batches₁, notify, e | able⟩
            · exact ⟨fun _ => rfl, fun c hc => by cases hc⟩
            cases able with
            | false => exact ⟨fun _ => rfl, fun c hc => by cases hc⟩
            | true =>
                refine ⟨fun h => absurd rfl (h b), fun c hc => ?_⟩
                cases hc
                exact hremoved

/-- The two calls find the same batch or come to the same end, and leave every
batch alike; only pop takes the entry it returns out of the partition. -/
theorem get_and_pop_agree (r : DataRepository) (batches : Table Addr DataBatch)
    (batchId : UInt64) (targetState : Option BatchState) (partitionIdx : UInt64) :
    let got := r.getDataBatchById batches batchId targetState partitionIdx
    let popped := r.popDataBatchById batches batchId targetState partitionIdx
    SameEnd got.found popped.found ∧ got.batches = popped.batches ∧
      got.notify = popped.notify ∧ got.dataBatches = r.dataBatches ∧
      ((∀ b, popped.found ≠ some (.ok (some b))) →
        popped.dataBatches = r.dataBatches) ∧
      ∀ b, popped.found = some (.ok (some b)) →
        ∃ entries k, r.dataBatches[partitionIdx.toNat]? = some entries ∧
          Scan.FirstStop (OtherId batches batchId) entries k (some b) ∧
          popped.dataBatches =
            r.dataBatches.set partitionIdx.toNat (entries.eraseIdx k) := by
  intro got popped
  obtain ⟨hend, hbatches, hnotify, hparts⟩ :=
    getDataBatchById_alike r batches batchId targetState partitionIdx
  obtain ⟨hkept, hremoved⟩ :=
    popDataBatchById_removes r batches batchId targetState partitionIdx
  exact ⟨hend, hbatches, hnotify, hparts, hkept, hremoved⟩

end ById

/-! ## The calls, turn by turn

Where other calls may come between two turns of a loop, a call is its turns. With
nobody else around they come to what the call does in one piece. -/

/-- A transition tried through a pointer, with the text for the target that is
not allowed. -/
def tryTransitionPtr (refusal : String) (batches : Table Addr DataBatch)
    (batchPtr : Option Addr) :
    BatchState → Table Addr DataBatch × Option Addr × Except Failure Bool
  | .taskCreated => callBatch batches batchPtr DataBatch.tryToCreateTask
  | .processing => (batches, none, .error (.thrown (.runtimeError refusal)))
  | .inTransit => callBatch batches batchPtr DataBatch.tryToLockForInTransit
  | .idle => (batches, none, .ok false)

/-- What a turn comes to with the end of a transition. -/
def verdictOf (otherwise : Verdict) : Option Addr × Except Failure Bool → Verdict
  | (_, .error e) => .finish (.error e)
  | (notify, .ok true) => .take notify
  | (_, .ok false) => otherwise

section Turns

variable {batches batches' : Table Addr DataBatch} {targetState : BatchState}
  {b : Addr} {batch : DataBatch} {entries : List (Option Addr)} {i n : Nat}

theorem Alike.insert (h : Alike batches batches') (b : Addr) (batch : DataBatch) :
    Alike (batches.insert b batch) (batches'.insert b batch) := by
  intro c
  by_cases hc : c = b
  · rw [hc, AList.lookup_insert, AList.lookup_insert]
  · rw [AList.lookup_insert_ne hc, AList.lookup_insert_ne hc]
    exact h c

theorem tryTransitionPtrForPop_eq (batches : Table Addr DataBatch)
    (batchPtr : Option Addr) (targetState : BatchState) :
    tryTransitionPtrForPop batches batchPtr targetState =
      tryTransitionPtr popRefusal batches batchPtr targetState := by
  cases targetState <;> rfl

theorem attempt_callBatch (method : DataBatch → Outcome Bool) (otherwise : Verdict)
    (hsame : Alike batches batches') (hb : batches.lookup b = some batch) :
    let turn := attempt batches' b method otherwise
    let tried := callBatch batches (some b) method
    Alike tried.1 turn.1 ∧ turn.2 = verdictOf otherwise tried.2 := by
  have hb' := (hsame b).trans hb
  simp only [attempt, callBatch, hb, hb']
  refine ⟨hsame.insert b _, ?_⟩
  rcases (method batch).result with e | able
  · rfl
  · cases able <;> rfl

theorem attempt_quiet (result : Except Failure Bool) (otherwise : Verdict)
    (hsame : Alike batches batches') (hb : batches.lookup b = some batch)
    (hresult : result ≠ .ok true) :
    let turn := attempt batches' b (DataBatch.quiet · result) otherwise
    Alike batches turn.1 ∧ turn.2 = verdictOf otherwise (none, result) := by
  have hb' := (hsame b).trans hb
  simp only [attempt, hb', DataBatch.quiet]
  refine ⟨alike_insert hb hsame, ?_⟩
  rcases result with e | able
  · rfl
  · cases able with
    | false => rfl
    | true => exact absurd rfl hresult

/-- A turn that tries a batch is the transition through the pointer to it. -/
theorem attempt_transition (refusal : String) (targetState : BatchState)
    (otherwise : Verdict) (hsame : Alike batches batches')
    (hb : batches.lookup b = some batch) :
    let turn := attempt batches' b (tryTransition refusal · targetState) otherwise
    let tried := tryTransitionPtr refusal batches (some b) targetState
    Alike tried.1 turn.1 ∧ turn.2 = verdictOf otherwise tried.2 := by
  cases targetState with
  | taskCreated => exact attempt_callBatch _ otherwise hsame hb
  | inTransit => exact attempt_callBatch _ otherwise hsame hb
  | processing => exact attempt_quiet _ otherwise hsame hb (fun h => by cases h)
  | idle => exact attempt_quiet _ otherwise hsame hb (fun h => by cases h)

theorem mem_callBatch (method : DataBatch → Outcome Bool) (batchPtr : Option Addr)
    (h : b ∈ batches) : b ∈ (callBatch batches batchPtr method).1 := by
  unfold callBatch
  split
  · exact h
  · split
    · exact h
    · exact (AList.mem_insert _).mpr (.inr h)

theorem mem_popBody (targetState : BatchState) (batchPtr : Option Addr)
    (h : b ∈ batches) : b ∈ (popBody targetState batches batchPtr).1 := by
  have htried : b ∈ (tryTransitionPtrForPop batches batchPtr targetState).1 := by
    cases targetState with
    | taskCreated => exact mem_callBatch _ batchPtr h
    | inTransit => exact mem_callBatch _ batchPtr h
    | processing | idle => exact h
  unfold popBody
  generalize tryTransitionPtrForPop batches batchPtr targetState = tried at htried ⊢
  rcases tried with ⟨batches₁, notify, e | able⟩
  · exact htried
  · cases able <;> exact htried

/-- One turn of the loop of `pop_data_batch`. -/
theorem look_pop {e : Option Addr} (targetState : BatchState) (hentry : entries[i]? = some e)
    (hlive : ∀ b ∈ e, b ∈ batches) (hsame : Alike batches batches') :
    let turn := look batches' entries i (.popDataBatch targetState)
    let body := popBody targetState batches e
    Alike body.1 turn.1 ∧ turn.2 = match body.2 with
      | none => .goOn
      | some (.ok notify) => .take notify
      | some (.error e) => .finish (.error e) := by
  have hne : entries.isEmpty = false :=
    List.isEmpty_eq_false_iff.mpr (List.ne_nil_of_mem (List.mem_of_getElem? hentry))
  simp only [look, lookAny, hne, hentry, Bool.false_eq_true, if_false]
  cases e with
  | none =>
      refine ⟨?_, ?_⟩
      · cases targetState <;> exact hsame
      · cases targetState <;> rfl
  | some b =>
      obtain ⟨batch, hb⟩ := AList.exists_lookup (hlive b rfl)
      obtain ⟨halike, hverdict⟩ :=
        attempt_transition popRefusal targetState .goOn hsame hb
      simp only [popBody, tryTransitionPtrForPop_eq]
      simp only [tryTransitionBatchForPop]
      generalize tryTransitionPtr popRefusal batches (some b) targetState = tried
        at halike hverdict ⊢
      rcases tried with ⟨batches₁, notify, e | able⟩
      · exact ⟨halike, hverdict⟩
      · cases able <;> exact ⟨halike, hverdict⟩

/-- All turns of the loop of `pop_data_batch`, from the entry at `i` on. -/
theorem turns_pop (targetState : BatchState) (n : Nat) (hne : entries.isEmpty = false)
    (hi : i ≤ entries.length) (hn : entries.length < i + n)
    (hlive : ∀ b, some b ∈ entries → b ∈ batches) (hsame : Alike batches batches') :
    let t := turns entries (.popDataBatch targetState) n i batches'
    let s := Scan.scan (popBody targetState) batches (entries.drop i) i
    Alike s.1 t.1 ∧ match s.2 with
      | none => t.2.2 = .wait none
      | some (k, .ok notify) => t.2 = (k, .take notify)
      | some (_, .error e) => t.2.2 = .finish (.error e) := by
  induction n generalizing i batches batches' with
  | zero => omega
  | succ n ih =>
      rw [turns]
      rcases hentry : entries[i]? with _ | e
      · have hdrop : entries.drop i = [] :=
          List.drop_eq_nil_of_le (List.getElem?_eq_none_iff.mp hentry)
        simp only [hdrop, Scan.scan_nil, look, lookAny, hne, hentry,
          Bool.false_eq_true, if_false]
        exact ⟨hsame, trivial⟩
      · obtain ⟨hlt, he⟩ := List.getElem?_eq_some_iff.mp hentry
        have hdrop : entries.drop i = e :: entries.drop (i + 1) := by
          rw [List.drop_eq_getElem_cons hlt, he]
        have hmem := List.mem_of_getElem? hentry
        obtain ⟨halike, hverdict⟩ := look_pop targetState hentry
          (fun b hb => hlive b (hb ▸ hmem)) hsame
        have hlive' : ∀ b, some b ∈ entries → b ∈ (popBody targetState batches e).1 :=
          fun b hb => mem_popBody targetState e (hlive b hb)
        rcases hbody : popBody targetState batches e with ⟨batches₁, _ | _ | notify⟩
        all_goals
          rcases hlook : look batches' entries i (.popDataBatch targetState) with
            ⟨batches₂, verdict⟩
          rw [hbody, hlook] at halike
          rw [hbody, hlook] at hverdict
          cases hverdict
        · rw [hbody] at hlive'
          rw [hdrop, Scan.scan_cons_pass hbody]
          exact ih hlt (by omega) hlive' halike
        · rw [hdrop, Scan.scan_cons_stop hbody]
          exact ⟨halike, rfl⟩
        · rw [hdrop, Scan.scan_cons_stop hbody]
          exact ⟨halike, rfl⟩

theorem attempt_ne_goOn {method : DataBatch → Outcome Bool} {otherwise : Verdict}
    (h : otherwise ≠ .goOn) : (attempt batches b method otherwise).2 ≠ .goOn := by
  unfold attempt
  split
  · exact nofun
  · dsimp only
    split
    · exact nofun
    · exact nofun
    · exact h

/-- One turn of a loop that looks for an id. -/
theorem look_byId {e : Option Addr} (batches : Table Addr DataBatch)
    (refusal : String) (batchId : UInt64) (targetState : Option BatchState)
    (hentry : entries[i]? = some e) :
    let turn := lookById batches entries i refusal batchId targetState
    (idBody batchId batches e = (batches, none) ∧ turn = (batches, .goOn)) ∨
      (idBody batchId batches e = (batches, some (.error .nullDereference)) ∧
        turn = (batches, .finish (.error .nullDereference))) ∨
      idBody batchId batches e = (batches, some (.ok ())) ∧ turn.2 ≠ .goOn := by
  rcases hread : e.bind batches.lookup with _ | batch
  · refine .inr (.inl ⟨by simp only [idBody, hread], ?_⟩)
    cases e with
    | none => simp only [lookById, hentry]
    | some b =>
        have hb : batches.lookup b = none := hread
        simp only [lookById, hentry, hb]
  · obtain ⟨b, rfl, hb⟩ := Option.bind_eq_some_iff.mp hread
    by_cases hid : batch.batchId = batchId
    · refine .inr (.inr ⟨by simp only [idBody, hread, if_pos hid], ?_⟩)
      simp only [lookById, hentry, hb, ne_eq, hid, not_true, if_false]
      cases targetState with
      | none => exact nofun
      | some targetState => exact attempt_ne_goOn nofun
    · refine .inl ⟨by simp only [idBody, hread, if_neg hid], ?_⟩
      simp only [lookById, hentry, hb, ne_eq, hid, not_false_eq_true, if_true]

/-- All turns of a loop that looks for an id. -/
theorem turns_byId {q : Query} {refusal : String} {batchId : UInt64}
    {targetState : Option BatchState}
    (hq : ∀ i, look batches entries i q =
      lookById batches entries i refusal batchId targetState)
    (hi : i ≤ entries.length) (hn : entries.length < i + n) :
    turns entries q n i batches =
      match (Scan.scan (idBody batchId) batches (entries.drop i) i).2 with
      | none => (batches, entries.length, .finish (.ok none))
      | some (k, .error e) => (batches, k, .finish (.error e))
      | some (k, .ok ()) =>
          ((look batches entries k q).1, k, (look batches entries k q).2) := by
  induction n generalizing i with
  | zero => omega
  | succ n ih =>
      rw [turns]
      rcases hentry : entries[i]? with _ | e
      · have hlen := List.getElem?_eq_none_iff.mp hentry
        have hdrop : entries.drop i = [] := List.drop_eq_nil_of_le hlen
        have hlook : look batches entries i q = (batches, .finish (.ok none)) := by
          rw [hq]
          simp only [lookById, hentry]
        rw [hdrop, Scan.scan_nil, hlook, Nat.le_antisymm hi hlen]
      · obtain ⟨hlt, he⟩ := List.getElem?_eq_some_iff.mp hentry
        have hdrop : entries.drop i = e :: entries.drop (i + 1) := by
          rw [List.drop_eq_getElem_cons hlt, he]
        rcases look_byId batches refusal batchId targetState hentry with
          ⟨hbody, hlook⟩ | ⟨hbody, hlook⟩ | ⟨hbody, hends⟩
        · rw [hdrop, Scan.scan_cons_pass hbody, hq, hlook]
          exact ih hlt (by omega)
        · rw [hdrop, Scan.scan_cons_stop hbody, hq, hlook]
        · rw [hdrop, Scan.scan_cons_stop hbody]
          rw [← hq i] at hends
          show _ = ((look batches entries i q).1, i, (look batches entries i q).2)
          rcases hlook : look batches entries i q with ⟨batches₁, verdict⟩
          rw [hlook] at hends
          cases verdict with
          | goOn => exact absurd rfl hends
          | take _ | wait _ | finish _ => rfl

end Turns

/-- What the last turn of a loop came to, at the entry `k`, is the end of the
call. -/
def Concludes (r : DataRepository) (partitionIdx : UInt64)
    (entries : List (Option Addr)) (q : Query) (k : Nat) (c : Called) : Verdict → Prop
  | .goOn | .wait _ => c.found = none ∧ c.notify = none ∧ c.dataBatches = r.dataBatches
  | .finish result =>
      c.found = some result ∧ c.notify = none ∧ c.dataBatches = r.dataBatches
  | .take notify => c.found = some (.ok entries[k]?.join) ∧ c.notify = notify ∧
      c.dataBatches = r.dataBatches.set partitionIdx.toNat (remove entries k q)

section Find

variable {r : DataRepository} {batches : Table Addr DataBatch} {q : Query}
  {partitionIdx : UInt64} {entries : List (Option Addr)} {refusal : String}
  {batchId : UInt64} {c : Called}

/-- The turns of a call conclude as the call in one piece. -/
def TurnsConclude (r : DataRepository) (batches : Table Addr DataBatch)
    (partitionIdx : UInt64) (entries : List (Option Addr)) (q : Query)
    (c : Called) : Prop :=
  let t := turns entries q (entries.length + 1) 0 batches
  Alike c.batches t.1 ∧ Concludes r partitionIdx entries q t.2.1 c t.2.2

theorem pop_concludes {targetState : BatchState}
    (hentries : r.dataBatches[partitionIdx.toNat]? = some entries)
    (hlive : ∀ b, some b ∈ entries → b ∈ batches) :
    TurnsConclude r batches partitionIdx entries (.popDataBatch targetState)
      (r.popDataBatch batches targetState partitionIdx) := by
  unfold TurnsConclude
  cases hne : entries.isEmpty with
  | true =>
      simp only [popDataBatch, hentries, hne, if_true, turns, look, lookAny]
      exact ⟨fun _ => rfl, rfl, rfl, rfl⟩
  | false =>
      have hturns := turns_pop targetState (entries.length + 1) hne (Nat.zero_le _)
        (by omega) hlive (fun _ => rfl)
      rw [List.drop_zero] at hturns
      obtain ⟨halike, hend⟩ := hturns
      simp only [popDataBatch, hentries, hne, Bool.false_eq_true, if_false]
      generalize turns entries (.popDataBatch targetState) (entries.length + 1) 0
        batches = t at halike hend ⊢
      obtain ⟨batches₁, k, verdict⟩ := t
      rcases hscan : Scan.scan (popBody targetState) batches entries 0 with
        ⟨batches₂, _ | ⟨j, e | notify⟩⟩
      all_goals
        rw [hscan] at halike
        rw [hscan] at hend
        cases hend
        exact ⟨halike, rfl, rfl, rfl⟩

/-- Once the entry is found, what is left of a call that looks for an id is the
transition. -/
theorem byId_concludes {targetState : Option BatchState} {k : Nat}
    {b : Addr} {batch : DataBatch}
    (hq : ∀ i, look batches entries i q =
      lookById batches entries i refusal batchId targetState)
    (hk : entries[k]? = some (some b)) (hb : batches.lookup b = some batch)
    (hid : batch.batchId = batchId)
    (hc : match targetState with
      | none => c = ⟨batches, r.dataBatches.set partitionIdx.toNat (remove entries k q),
          none, some (.ok (some b))⟩
      | some targetState =>
          c = match tryTransitionPtr refusal batches (some b) targetState with
            | (batches, _, .error e) =>
                ⟨batches, r.dataBatches, none, some (.error e)⟩
            | (batches, notify, .ok true) =>
                ⟨batches, r.dataBatches.set partitionIdx.toNat (remove entries k q),
                  notify, some (.ok (some b))⟩
            | (batches, _, .ok false) => ⟨batches, r.dataBatches, none, none⟩) :
    let turn := look batches entries k q
    Alike c.batches turn.1 ∧ Concludes r partitionIdx entries q k c turn.2 := by
  have hfound : some (.ok entries[k]?.join) = (some (.ok (some b)) : Found) := by
    rw [hk]
    rfl
  intro turn
  have hturn : turn = lookById batches entries k refusal batchId targetState := hq k
  simp only [lookById, hk, hb, hid, ne_eq, not_true, if_false] at hturn
  rw [hturn]
  cases targetState with
  | none =>
      subst hc
      exact ⟨fun _ => rfl, hfound.symm, rfl, rfl⟩
  | some targetState =>
      have hsame : Alike batches batches := fun _ => rfl
      obtain ⟨halike, hverdict⟩ := attempt_transition refusal targetState
        (.wait (some b)) hsame hb
      dsimp only at hc
      generalize tryTransitionPtr refusal batches (some b) targetState = tried
        at hc halike hverdict
      dsimp only
      rw [hverdict]
      rcases tried with ⟨batches₁, notify, e | able⟩
      · subst hc
        exact ⟨halike, rfl, rfl, rfl⟩
      cases able with
      | false =>
          subst hc
          exact ⟨halike, rfl, rfl, rfl⟩
      | true =>
          subst hc
          exact ⟨halike, hfound.symm, rfl, rfl⟩

theorem popById_concludes {targetState : Option BatchState}
    (hentries : r.dataBatches[partitionIdx.toNat]? = some entries) :
    TurnsConclude r batches partitionIdx entries (.popDataBatchById batchId targetState)
      (r.popDataBatchById batches batchId targetState partitionIdx) := by
  unfold TurnsConclude
  rw [turns_byId (fun _ => rfl) (Nat.zero_le _) (by omega), List.drop_zero]
  rcases scan_id_cases batches batchId entries with ⟨-, hscan⟩ |
    ⟨k, e, hfirst, ⟨-, hscan⟩ | ⟨b, batch, rfl, hb, hid, hscan⟩⟩
  · simp only [popDataBatchById, hentries, hscan]
    exact ⟨fun _ => rfl, rfl, rfl, rfl⟩
  · simp only [popDataBatchById, hentries, hscan]
    exact ⟨fun _ => rfl, rfl, rfl, rfl⟩
  · have hk : entries[k]?.join = some b := by
      rw [hfirst.1]
      rfl
    simp only [popDataBatchById, hentries, hscan, hk, tryTransitionPtrForPop_eq]
    exact byId_concludes (fun _ => rfl) hfirst.1 hb hid
      (by cases targetState <;> rfl)

theorem getById_concludes {targetState : Option BatchState}
    (hentries : r.dataBatches[partitionIdx.toNat]? = some entries) :
    TurnsConclude r batches partitionIdx entries (.getDataBatchById batchId targetState)
      (r.getDataBatchById batches batchId targetState partitionIdx) := by
  have hsame : r.dataBatches.set partitionIdx.toNat entries = r.dataBatches := by
    obtain ⟨hlt, heq⟩ := List.getElem?_eq_some_iff.mp hentries
    rw [← heq]
    exact List.set_getElem_self hlt
  unfold TurnsConclude
  rw [turns_byId (fun _ => rfl) (Nat.zero_le _) (by omega), List.drop_zero]
  rcases scan_id_cases batches batchId entries with ⟨-, hscan⟩ |
    ⟨k, e, hfirst, ⟨-, hscan⟩ | ⟨b, batch, rfl, hb, hid, hscan⟩⟩
  · simp only [getDataBatchById, hentries, hscan]
    exact ⟨fun _ => rfl, rfl, rfl, rfl⟩
  · simp only [getDataBatchById, hentries, hscan]
    exact ⟨fun _ => rfl, rfl, rfl, rfl⟩
  · have hk : entries[k]?.join = some b := by
      rw [hfirst.1]
      rfl
    simp only [getDataBatchById, hentries, hscan, hk]
    refine byId_concludes (fun _ => rfl) hfirst.1 hb hid ?_
    cases targetState with
    | none =>
        simp only [remove, hsame]
    | some targetState =>
        simp only [remove, hsame]
        cases targetState <;> rfl

end Find

/-- A call of the world of the manager is the call in one piece, on a repository
whose entries point to live batches if they are not null. -/
theorem find_eq_call {w : ManagerWorld} {p : Addr} {r : DataRepository}
    (hr : w.repositories.lookup p = some r) (q : Query) (partitionIdx : UInt64)
    (hlive : ∀ entries, r.dataBatches[partitionIdx.toNat]? = some entries →
      ∀ b, some b ∈ entries → b ∈ w.clients.batches) :
    let c := r.call w.clients.batches partitionIdx q
    let out := w.find p q partitionIdx
    out.2.2 = c.found ∧ out.2.1 = c.notify ∧
      Alike c.batches out.1.clients.batches ∧
      out.1.repositories.lookup p = some { r with dataBatches := c.dataBatches } := by
  cases hentries : r.dataBatches[partitionIdx.toNat]? with
  | none =>
      cases q <;>
        simp only [call, popDataBatch, popDataBatchById, getDataBatchById,
          ManagerWorld.find, hr, hentries, outOfRange] <;>
        exact ⟨trivial, trivial, fun _ => rfl, trivial⟩
  | some entries =>
      have hconcludes : TurnsConclude r w.clients.batches partitionIdx entries q
          (r.call w.clients.batches partitionIdx q) := by
        cases q with
        | popDataBatch targetState => exact pop_concludes hentries (hlive entries hentries)
        | popDataBatchById batchId targetState => exact popById_concludes hentries
        | getDataBatchById batchId targetState => exact getById_concludes hentries
      unfold TurnsConclude at hconcludes
      generalize r.call w.clients.batches partitionIdx q = c at hconcludes ⊢
      simp only [ManagerWorld.find, hr, hentries]
      generalize turns entries q (entries.length + 1) 0 w.clients.batches = t
        at hconcludes ⊢
      obtain ⟨batches, k, verdict⟩ := t
      obtain ⟨halike, hend⟩ := hconcludes
      cases verdict with
      | goOn | wait _ | finish _ =>
          obtain ⟨hfound, hnotify, hparts⟩ := hend
          exact ⟨hfound.symm, hnotify.symm, halike, by rw [hr, hparts]⟩
      | take notify =>
          obtain ⟨hfound, hnotify, hparts⟩ := hend
          exact ⟨hfound.symm, hnotify.symm, halike, by
            rw [hparts]
            exact AList.lookup_insert _⟩

end DataRepository

end CuCascade.Data

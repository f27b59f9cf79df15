import CuCascade.Proofs.BatchCounts

/-!
# What the states of a batch mean

The document of the states says what each of them stands for in terms of the
two counts. Every edge of the diagram keeps to it but one: the state that a
batch returns to from transit is named by the caller, or is idle, and nothing
compares it with the tasks that wait. A run keeps the states meaningful exactly
if each of its returns names a state that fits.
-/

namespace CuCascade.Data

open Memory

namespace DataBatch

/-- The states as the document describes them. -/
structure Meaningful (b : DataBatch) : Prop where
  idle : b.state = .idle → b.taskCreatedCount = 0 ∧ b.processingCount = 0
  taskCreated : b.state = .taskCreated →
    0 < b.taskCreatedCount ∧ b.processingCount = 0
  processing : b.state = .processing ↔ 0 < b.processingCount
  inTransit : b.state = .inTransit → b.processingCount = 0

/-- A task that waits can be cancelled, and locked if there is data. -/
structure Serviceable (b : DataBatch) : Prop where
  cancels : b.tryToCancelTask.result = .ok true
  locks : ∀ this data, b.data = some data →
    (b.tryToLockForProcessing this data.memorySpaceId).result =
      .ok ⟨true, some this, .success⟩

/-- The states mean what the document says, and no task is stuck outside of
transit. -/
structure Documented (b : DataBatch) : Prop extends Meaningful b where
  serviceable : 0 < b.taskCreatedCount → b.state ≠ .inTransit → b.Serviceable

/-- The state that the caller names, or idle, fits the counts. -/
def FitsTarget (b : DataBatch) (targetState : Option BatchState) : Prop :=
  match targetState.getD .idle with
  | .idle => b.taskCreatedCount = 0
  | .taskCreated => 0 < b.taskCreatedCount
  | .processing => False
  | .inTransit => True

instance (b : DataBatch) (targetState : Option BatchState) :
    Decidable (b.FitsTarget targetState) := by
  unfold FitsTarget
  split <;> infer_instance

variable {b b' : DataBatch}

theorem serviceable_of_open (hcount : 0 < b.taskCreatedCount)
    (hstate : b.state = .taskCreated ∨ b.state = .processing) : b.Serviceable := by
  constructor
  · rcases hstate with hstate | hstate <;>
      simp only [tryToCancelTask, hstate] <;>
      rw [if_neg (by omega)] <;>
      split <;> rfl
  · intro this data hdata
    simp only [tryToLockForProcessing, hdata]
    rw [if_neg (not_not.mpr rfl), if_neg (by omega), if_neg (not_not.mpr hstate)]
    rfl

/-- With meaningful states a task that waits outside of transit is in a state
that serves it. -/
theorem Meaningful.documented (h : b.Meaningful) : b.Documented where
  toMeaningful := h
  serviceable hcount hstate := by
    apply serviceable_of_open hcount
    cases hb : b.state with
    | idle =>
        have hzero := (h.idle hb).1
        omega
    | taskCreated => exact .inl rfl
    | processing => exact .inr rfl
    | inTransit => exact absurd hb hstate

theorem documented_create (id : UInt64) (data : Option Representation)
    (cv : Option Addr) : ((create id data).setStateChangeCv cv).Documented :=
  Meaningful.documented
    ⟨fun _ => ⟨rfl, rfl⟩, nofun, ⟨nofun, fun h => absurd h (Nat.lt_irrefl 0)⟩, nofun⟩

end DataBatch

section Moves

variable {b b' : DataBatch} {e : Event} {loud : Bool}

/-- Each edge but the one out of transit keeps the states meaningful, and that
one does if its target fits. -/
theorem Move.meaningful (h : Move b e loud b') (hb : b.Meaningful)
    (hfits : ∀ targetState, e = .arrived targetState → b.FitsTarget targetState) :
    b'.Meaningful := by
  obtain ⟨hidle, htask, hprocessing, htransit⟩ := hb
  cases h with
  | create hs =>
      have hzero := hidle hs
      exact ⟨nofun, fun _ => ⟨Nat.succ_pos _, hzero.2⟩,
        ⟨nofun, fun hpos => absurd hpos (by simp only; omega)⟩, nofun⟩
  | createMore hs =>
      refine ⟨fun hi => ?_, fun ht => ⟨Nat.succ_pos _, (htask ht).2⟩, hprocessing,
        htransit⟩
      rw [show b.state = .idle from hi] at hs
      simp at hs
  | cancel hs hpos hmore =>
      refine ⟨fun hi => ?_, fun ht => ?_, hprocessing, htransit⟩
      · rw [show b.state = .idle from hi] at hs
        simp at hs
      · have hzero := (htask ht).2
        exact ⟨by simp only; omega, hzero⟩
  | cancelLast hs hone hzero =>
      exact ⟨fun _ => ⟨rfl, hzero⟩, nofun,
        ⟨nofun, fun hpos => absurd hpos (by simp only; omega)⟩, nofun⟩
  | lock hs hpos =>
      exact ⟨nofun, nofun, ⟨fun _ => Nat.succ_pos _, fun _ => rfl⟩, nofun⟩
  | depart hzero hs =>
      exact ⟨nofun, nofun, ⟨nofun, fun hpos => absurd hpos (by simp only; omega)⟩,
        fun _ => hzero⟩
  | arrive targetState hs =>
      have hzero := htransit hs
      have hfit := hfits targetState rfl
      unfold DataBatch.FitsTarget at hfit
      cases ht : targetState.getD .idle <;> simp only [ht] at hfit
      · exact ⟨fun _ => ⟨hfit, hzero⟩, nofun,
          ⟨nofun, fun hpos => absurd hpos (by simp only; omega)⟩, nofun⟩
      · exact ⟨nofun, fun _ => ⟨hfit, hzero⟩,
          ⟨nofun, fun hpos => absurd hpos (by simp only; omega)⟩, nofun⟩
      · exact ⟨nofun, nofun, ⟨nofun, fun hpos => absurd hpos (by simp only; omega)⟩,
          fun _ => hzero⟩
  | release hs hmore =>
      refine ⟨fun hi => ?_, fun ht => ?_, ⟨fun _ => by simp only; omega, fun _ => hs⟩,
        fun ht => ?_⟩
      · exact absurd (hs.symm.trans hi) nofun
      · exact absurd (hs.symm.trans ht) nofun
      · exact absurd (hs.symm.trans ht) nofun
  | releaseLast hs hone =>
      rcases Nat.eq_zero_or_pos b.taskCreatedCount with hzero | hpos
      · rw [if_neg (by omega)]
        exact ⟨fun _ => ⟨hzero, rfl⟩, nofun,
          ⟨nofun, fun hpos => absurd hpos (Nat.lt_irrefl 0)⟩, nofun⟩
      · rw [if_pos hpos]
        exact ⟨nofun, fun _ => ⟨hpos, rfl⟩,
          ⟨nofun, fun hpos => absurd hpos (Nat.lt_irrefl 0)⟩, nofun⟩

/-- A return whose target does not fit leaves a state that does not mean what
it should. -/
theorem fitsTarget_of_meaningful {targetState : Option BatchState}
    (hb : b.Meaningful) (hs : b.state = .inTransit)
    (h : ({ b with state := targetState.getD .idle } : DataBatch).Meaningful) :
    b.FitsTarget targetState := by
  have hzero := hb.inTransit hs
  obtain ⟨hidle, htask, hprocessing, -⟩ := h
  unfold DataBatch.FitsTarget
  cases ht : targetState.getD .idle with
  | idle => exact (hidle ht).1
  | taskCreated => exact (htask ht).1
  | processing =>
      have hpos := hprocessing.mp ht
      simp only at hpos
      omega
  | inTransit => trivial

end Moves

namespace BatchWorld

variable {w w' : BatchWorld}

/-- Every batch is as the document has it. -/
def Documented (w : BatchWorld) : Prop := w.batches.All fun _ b => b.Documented

/-- A return from transit names a state that fits the batch. -/
def ReturnsFit (w : BatchWorld) : BatchOp → Prop
  | .tryToReleaseInTransit b targetState =>
      ∀ batch ∈ w.batches.lookup b,
        batch.state = .inTransit → batch.FitsTarget targetState
  | _ => True

instance (w : BatchWorld) : (op : BatchOp) → Decidable (w.ReturnsFit op)
  | .tryToReleaseInTransit b targetState =>
      inferInstanceAs (Decidable (∀ batch ∈ w.batches.lookup b,
        batch.state = .inTransit → batch.FitsTarget targetState))
  | .tryToCreateTask _ | .tryToCancelTask _ | .tryToLockForProcessing _ _ _
  | .tryToLockForInTransit _ | .release _ | .destroy _ | .moveConstruct _ _
  | .moveAssign _ _ => isTrue trivial

theorem documented_of_effect {notify : Option Addr}
    {what : Option (Addr × Event)} (hw : w.Documented)
    (h : Effect w w' notify what)
    (hfits : ∀ b batch targetState, what = some (b, .arrived targetState) →
      w.batches.lookup b = some batch → batch.state = .inTransit →
        batch.FitsTarget targetState) :
    w'.Documented := by
  cases h with
  | stays hbatches _ _ =>
      intro c batch hc
      rw [hbatches] at hc
      exact hw c batch hc
  | @moves b e loud batch batch' hb hmove hbatches _ _ =>
      have hmeaningful : batch'.Meaningful := by
        refine hmove.meaningful (hw b batch hb).toMeaningful fun targetState he => ?_
        subst he
        refine hfits b batch targetState rfl hb ?_
        cases hmove with
        | arrive _ hs => exact hs
      unfold Documented
      rw [hbatches]
      exact AList.All.insert hw hmeaningful.documented

theorem documented_next_iff {op : BatchOp} (hcounted : w.Counted)
    (hw : w.Documented) (hop : w.Proper op) :
    (machine.next w op).Documented ↔ w.ReturnsFit op := by
  constructor
  · intro h
    cases op with
    | tryToReleaseInTransit b targetState =>
        intro batch hb hs
        apply fitsTarget_of_meaningful (hw b batch hb).toMeaningful hs
        have hnext : (machine.next w (.tryToReleaseInTransit b targetState)).batches =
            w.batches.insert b { batch with state := targetState.getD .idle } := by
          simp only [machine, perform, onBatch, call_eq _ hb, store,
            DataBatch.tryToReleaseInTransit, if_pos hs, DataBatch.changed]
        have hlookup := h b { batch with state := targetState.getD .idle }
        rw [hnext, AList.lookup_insert] at hlookup
        exact (hlookup rfl).toMeaningful
    | _ => trivial
  · intro h
    obtain ⟨what, hdid⟩ := perform_did hcounted hop
    refine documented_of_effect hw hdid.effect ?_
    rintro b batch targetState hwhat hb hs
    have hop := hdid.arrives b targetState hwhat
    subst hop
    exact h batch hb hs

/-- From fresh batches the states mean what the document says, in every state
of a run, exactly if each return from transit in it names a state that fits the
tasks that wait. -/
theorem always_documented_iff {ops : List BatchOp} (hs : machine.start w)
    (hlaw : machine.Lawful w ops) :
    machine.Always Documented w ops ↔ machine.Every ReturnsFit w ops := by
  have hdocumented : w.Documented := by
    intro b batch hb
    obtain ⟨id, data, cv, rfl⟩ := hs.2 b batch hb
    exact DataBatch.documented_create id data cv
  exact Machine.always_iff_every
    (fun _ _ hcounted _ hop _ => counted_next hcounted hop)
    (fun _ _ hcounted hw hop => documented_next_iff hcounted hw hop)
    (counted_of_fresh hs) hdocumented hlaw

theorem always_documented_handleCalls :
    machine.Always Documented twoBatches [.tryToCreateTask 1,
      .tryToLockForInTransit 1, .tryToReleaseInTransit 1 (some .taskCreated),
      .tryToLockForProcessing 1 ⟨.GPU, 0⟩ 100, .tryToCreateTask 1, .destroy 100,
      .tryToCancelTask 1, .tryToLockForInTransit 1, .tryToReleaseInTransit 1 none] :=
  (always_documented_iff fresh_twoBatches
    (show machine.Every Proper _ _ by decide)).mpr (by decide)

/-- A batch that returns from transit by default is idle while a task waits for
it, and the task can neither be cancelled nor locked. -/
theorem not_documented_after_transit :
    machine.Lawful twoBatches [.tryToCreateTask 1, .tryToLockForInTransit 1,
        .tryToReleaseInTransit 1 none] ∧
      ¬ machine.Always Documented twoBatches [.tryToCreateTask 1,
        .tryToLockForInTransit 1, .tryToReleaseInTransit 1 none] := by
  refine ⟨show machine.Every Proper _ _ by decide, ?_⟩
  intro h
  have hidle := ((h.last 1 _ rfl).idle rfl).1
  exact absurd hidle (by decide)

end BatchWorld

end CuCascade.Data

import CuCascade.Data.BatchCalls
import CuCascade.Proofs.BatchSpec

/-!
# What a throwing call leaves of a batch

Five of the six operations ask before they write, so their exception leaves every
batch as it was. The move constructor has taken the data in its initializers
when it comes to ask the count of its source. Its exception destroys the data
together with the unfinished batch, and the handle that is still valid is left
with a batch without data.
-/

namespace CuCascade.Data

open Memory

/-- A registration counts for its own key, and only if that was free: the first
converter stays. -/
theorem ConverterRegistry.convert_registerConverter {T : Type} [DecidableEq T]
    (r : ConverterRegistry T) (key : ConverterKey T) (converter : RepresentationConverterFn)
    (source : Representation) (targetType : T) (targetMemorySpace : Option Addr)
    (stream : Stream) :
    (r.registerConverter key converter).1.convert source targetType targetMemorySpace
        stream =
      if key = ⟨r.typeOf source, targetType⟩ ∧ key ∉ r.converters then
        converter source targetMemorySpace stream
      else r.convert source targetType targetMemorySpace stream := by
  by_cases hkey : key ∈ r.converters
  · rw [registerConverter, if_pos hkey, if_neg fun h => h.2 hkey]
  · rw [registerConverter, if_neg hkey]
    by_cases hsame : key = ⟨r.typeOf source, targetType⟩
    · subst hsame
      rw [if_pos ⟨rfl, hkey⟩]
      simp only [convert, AList.lookup_insert]
    · rw [if_neg fun h => hsame h.1]
      simp only [convert, AList.lookup_insert_ne (Ne.symm hsame)]
      rfl

section Methods

variable {b : DataBatch}

/-- A method that leaves the batch alone when it ends badly, in whatever way. -/
def AsksFirst {α : Type} (b : DataBatch) (out : Outcome α) : Prop :=
  ∀ e, out.result = .error e → out.batch = b

theorem Performs.asksFirst {α : Type} {event : Event} {yes : α} {out : Outcome α}
    (h : Performs b event yes out) : AsksFirst b out := by
  intro e he
  rcases h with ⟨_, _, _, hok⟩ | ⟨hsame, _, _⟩
  · rw [hok] at he
    cases he
  · exact hsame

theorem setData_asksFirst (data : Option Representation) :
    AsksFirst b (b.setData data) := by
  intro e he
  rw [DataBatch.setData] at he ⊢
  by_cases hcount : b.processingCount ≠ 0
  · rw [if_pos hcount]
    rfl
  · rw [if_neg hcount] at he
    cases he

theorem convertTo_asksFirst
    (convert : Representation → Except Failure (Option Representation)) :
    AsksFirst b (b.convertTo convert) := by
  intro e he
  rw [DataBatch.convertTo] at he ⊢
  by_cases hcount : b.processingCount ≠ 0
  · rw [if_pos hcount]
    rfl
  · rw [if_neg hcount] at he ⊢
    cases hdata : b.data with
    | none => rfl
    | some data =>
        cases hconvert : convert data with
        | error e' =>
            simp only [hconvert]
            rfl
        | ok new =>
            simp only [hdata, hconvert] at he
            cases he

/-- The constructor asks last. -/
theorem moveConstruct_of_locked (hcount : b.processingCount ≠ 0) :
    b.moveConstruct =
      ({ b with data := none }, .error (.thrown (.runtimeError
        "Cannot move data_batch with active processing (processing_count != 0)"))) := by
  rw [DataBatch.moveConstruct]
  exact if_pos hcount

theorem moveConstruct_of_free (hcount : b.processingCount = 0) :
    b.moveConstruct =
      ({ b with data := none, batchId := 0 }, .ok (.create b.batchId b.data)) := by
  rw [DataBatch.moveConstruct]
  exact if_neg (not_not.mpr hcount)

theorem moveAssign_asksFirst {other : DataBatch} {e : Failure}
    (he : (b.moveAssign other).2 = .error e) : (b.moveAssign other).1 = (b, other) := by
  rw [DataBatch.moveAssign] at he ⊢
  by_cases hcount : other.processingCount ≠ 0
  · rw [if_pos hcount]
  · rw [if_neg hcount] at he
    cases he

end Methods

namespace BatchCall

variable {T : Type} {batches : Table Addr DataBatch} {this other : Addr}

/-- The same batches at the same addresses. -/
def Untouched (batches after : Table Addr DataBatch) : Prop :=
  ∀ b, after.lookup b = batches.lookup b

theorem untouched_insert {batch : DataBatch} (hthis : batches.lookup this = some batch) :
    Untouched batches (batches.insert this batch) := by
  intro b
  by_cases hb : b = this
  · rw [hb, AList.lookup_insert, hthis]
  · rw [AList.lookup_insert_ne hb]

/-- A call that throws leaves all batches as they were. -/
def LeavesOnThrow [DecidableEq T] (batches : Table Addr DataBatch)
    (call : BatchCall T) : Prop :=
  ∀ e, (call.perform batches).2 = .error (.thrown e) →
    Untouched batches (call.perform batches).1

theorem onBatch_untouched {α : Type} {method : DataBatch → Outcome α}
    (hmethod : ∀ batch, AsksFirst batch (method batch)) {e : Failure}
    (he : (onBatch batches this method).2 = .error e) :
    Untouched batches (onBatch batches this method).1 := by
  cases hthis : batches.lookup this with
  | none =>
      simp only [onBatch, hthis]
      exact fun _ => rfl
  | some batch =>
      simp only [onBatch, hthis] at he ⊢
      cases hresult : (method batch).result with
      | ok _ =>
          rw [hresult] at he
          cases he
      | error e' =>
          rw [hmethod batch e' hresult]
          exact untouched_insert hthis

theorem moveAssign_leaves [DecidableEq T] :
    LeavesOnThrow batches (.moveAssign this other : BatchCall T) := by
  intro e he
  by_cases hsame : this = other
  · simp only [perform, if_pos hsame]
    exact fun _ => rfl
  · simp only [perform, if_neg hsame] at he ⊢
    cases hthis : batches.lookup this with
    | none => exact fun _ => rfl
    | some target =>
        cases hother : batches.lookup other with
        | none => exact fun _ => rfl
        | some source =>
            simp only [hthis, hother] at he ⊢
            have hleft := moveAssign_asksFirst he
            rcases hmove : target.moveAssign source with ⟨⟨target', source'⟩, result⟩
            rw [hmove] at hleft
            cases hleft
            have htarget := untouched_insert hthis
            have hsource := untouched_insert ((htarget other).trans hother)
            exact fun b => (hsource b).trans (htarget b)

theorem moveConstruct_leaves_iff [DecidableEq T] :
    LeavesOnThrow batches (.moveConstruct this other : BatchCall T) ↔
      ∀ source ∈ batches.lookup other,
        source.processingCount = 0 ∨ source.data = none := by
  cases hother : batches.lookup other with
  | none =>
      simp only [LeavesOnThrow, perform, hother]
      exact ⟨fun _ _ h => (by cases h), fun _ _ _ => fun _ => rfl⟩
  | some source =>
      simp only [Option.mem_some_iff, forall_eq']
      by_cases hcount : source.processingCount = 0
      · refine iff_of_true (fun e he => ?_) (.inl hcount)
        simp only [perform, hother, moveConstruct_of_free hcount] at he
        cases he
      · simp only [LeavesOnThrow, perform, hother, moveConstruct_of_locked hcount]
        constructor
        · intro h
          have hlookup := h _ rfl other
          rw [AList.lookup_insert, hother, Option.some.injEq] at hlookup
          exact .inr (hlookup ▸ rfl)
        · intro h e he
          have hdata : source.data = none := h.resolve_left hcount
          have hsame : { source with data := none } = source := by rw [← hdata]
          rw [hsame]
          exact untouched_insert hother

/-- Only a move construction loses something by its exception, and only the data
of a batch that is being processed. -/
theorem throw_leaves_batches_iff [DecidableEq T] (batches : Table Addr DataBatch)
    (call : BatchCall T) :
    LeavesOnThrow batches call ↔
      ∀ this other, call = .moveConstruct this other →
        ∀ source ∈ batches.lookup other,
          source.processingCount = 0 ∨ source.data = none := by
  cases call with
  | moveConstruct this other =>
      rw [moveConstruct_leaves_iff]
      constructor
      · intro h this' other' heq
        cases heq
        exact h
      · intro h
        exact h this other rfl
  | moveAssign this other =>
      exact iff_of_true moveAssign_leaves fun _ _ h => (by cases h)
  | setData this data =>
      exact iff_of_true (fun _ => onBatch_untouched fun _ => setData_asksFirst data)
        fun _ _ h => (by cases h)
  | convertTo this registry targetType targetMemorySpace stream =>
      exact iff_of_true (fun _ => onBatch_untouched fun _ => convertTo_asksFirst _)
        fun _ _ h => (by cases h)
  | tryToCancelTask this =>
      exact iff_of_true
        (fun _ => onBatch_untouched fun _ => tryToCancelTask_performs.asksFirst)
        fun _ _ h => (by cases h)
  | release handle =>
      refine iff_of_true (fun e he => ?_) fun _ _ h => (by cases h)
      cases handle with
      | none => exact fun _ => rfl
      | some this =>
          exact onBatch_untouched
            (fun _ => decrementProcessingCount_performs.asksFirst) he

/-- A batch with one processing handle. -/
def lockedBatch : DataBatch := ⟨1, some ⟨7, ⟨.GPU, 0⟩⟩, 1, 0, .processing, none⟩

/-- The batch that could not be moved keeps its count and its state, and has no
data any more. -/
theorem throwing_move_takes_data :
    let batches : Table Addr DataBatch := (∅ : Table Addr DataBatch).insert 100 lockedBatch
    let after := (BatchCall.moveConstruct 101 100 : BatchCall Nat).perform batches
    after.2 = .error (.thrown (.runtimeError
      "Cannot move data_batch with active processing (processing_count != 0)")) ∧
    after.1.lookup 100 = some { lockedBatch with data := none } ∧
    ¬LeavesOnThrow batches (.moveConstruct 101 100 : BatchCall Nat) := by
  refine ⟨rfl, rfl, fun h => ?_⟩
  have hlookup := h _ rfl 100
  cases hlookup

end BatchCall

end CuCascade.Data

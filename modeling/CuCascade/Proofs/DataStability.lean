import CuCascade.Data.DataWorld
import CuCascade.Proofs.BatchCounts

/-!
# Data under a processing handle

`set_data` and `convert_to` ask the count of the batch whose data they replace,
and the count is the number of valid handles, so they never touch data that is
processed. The two moves ask the count of the batch they take from, and that is
not enough. The constructor has taken the data before it asks, and `operator=`
drops the data of a target it never asks.
-/

namespace CuCascade.Data

open Memory

section Replace

variable {b : DataBatch}

/-- What a batch is after it was moved from. -/
def DataBatch.emptied (b : DataBatch) : DataBatch :=
  { b with
    batchId := 0
    data := none }

/-- What a batch is after another was assigned to it. -/
def DataBatch.filledFrom (b other : DataBatch) : DataBatch :=
  { b with
    batchId := other.batchId
    data := other.data }

/-- A method that may give the batch other data of a kind, as long as nobody
processes it. -/
def Replaces (P : Option Representation → Prop) (b b' : DataBatch) : Prop :=
  b' = b ∨ b.processingCount = 0 ∧ ∃ data, P data ∧ b' = { b with data := data }

theorem setData_replaces (data : Option Representation) :
    Replaces (· = data) b (b.setData data).batch := by
  unfold DataBatch.setData
  split
  · exact .inl rfl
  · next hzero => exact .inr ⟨not_not.mp hzero, data, rfl, rfl⟩

theorem convertTo_replaces (answer : Except Failure (Option Representation)) :
    Replaces (· ∈ answer.toOption) b (b.convertTo fun _ => answer).batch := by
  unfold DataBatch.convertTo
  split
  · exact .inl rfl
  · next hzero =>
      cases b.data with
      | none => exact .inl rfl
      | some data =>
          cases answer with
          | error e => exact .inl rfl
          | ok new => exact .inr ⟨not_not.mp hzero, new, rfl, rfl⟩

end Replace

namespace BatchWorld

variable {w w' : BatchWorld} {b src : Addr} {batch : DataBatch}

theorem dataOf_eq (hb : w.batches.lookup b = some batch) : w.dataOf b = batch.data := by
  rw [dataOf, hb, Option.bind_some]

theorem dataOf_put (w : BatchWorld) (b : Addr) (batch : DataBatch) (c : Addr) :
    (w.put b batch).dataOf c = if c = b then batch.data else w.dataOf c :=
  lookup_bind_put (·.data) w b batch c

/-- A call of `BatchWorld` touches no data. -/
theorem dataOf_of_effect {notify : Option Addr} {what : Option (Addr × Event)}
    (h : Effect w w' notify what) (c : Addr) : w'.dataOf c = w.dataOf c :=
  lookup_bind_of_effect Move.data h c

theorem onBatch_handles {α : Type} (method : DataBatch → Outcome α) :
    (w.onBatch b method).1.handles = w.handles := by
  unfold onBatch
  split
  · rfl
  · rfl

/-- `release` makes no handle valid. -/
theorem live_of_releaseHandle {h k : Addr}
    (hk : (w.releaseHandle h).1.handles.lookup k = some (some b)) :
    w.handles.lookup k = some (some b) := by
  unfold releaseHandle at hk
  split at hk
  · split at hk
    · exact hk
    · split at hk
      · exact hk
      · by_cases heq : k = h
        · rw [heq, AList.lookup_insert] at hk
          cases hk
        · rwa [AList.lookup_insert_ne heq] at hk
  · exact hk

/-- A handle that was moved: it has what the other had. -/
theorem live_of_move {h k : Addr} {p : Option Addr}
    (hp : w.handles.lookup src = some p)
    (hk : ((w.handles.insert src none).insert h p).lookup k = some (some b)) :
    k = h ∧ w.handles.lookup src = some (some b) ∨
      k ≠ h ∧ w.handles.lookup k = some (some b) := by
  by_cases heq : k = h
  · rw [heq, AList.lookup_insert] at hk
    cases hk
    exact .inl ⟨heq, hp⟩
  · rw [AList.lookup_insert_ne heq] at hk
    by_cases hsrc : k = src
    · rw [hsrc, AList.lookup_insert] at hk
      cases hk
    · rw [AList.lookup_insert_ne hsrc] at hk
      exact .inr ⟨heq, hk⟩

end BatchWorld

/-- A lock that gives a handle gives it on this batch, which has data. -/
theorem lock_handle {batch : DataBatch} {this b : Addr} {space : MemorySpaceId}
    {r : LockForProcessingResult}
    (h : (batch.tryToLockForProcessing this space).result = .ok r)
    (hr : r.handle = some b) : b = this ∧ batch.data ≠ none := by
  by_cases hyes : r = ⟨true, some this, .success⟩
  · rw [hyes] at hr
    cases hr
    refine ⟨rfl, fun hnone => ?_⟩
    rw [DataBatch.tryToLockForProcessing, hnone, hyes] at h
    cases h
  · rw [(lock_failed h hyes).2] at hr
    cases hr

namespace DataWorld

variable {w w' : DataWorld} {b c dst src : Addr}

/-- Every valid handle is on a batch that owns what it owned when the handle
was obtained. -/
def Stable (w : DataWorld) : Prop :=
  ∀ h b, w.clients.handles.lookup h = some (some b) →
    w.clients.dataOf b = w.seen h

/-- No batch is moved from under a handle, and none is assigned to under a
handle unless the assignment throws. -/
def Guarded (w : DataWorld) : DataOp → Prop
  | .moveConstruct _ src => w.clients.liveHandles src = 0
  | .moveAssign dst src =>
      dst = src ∨ w.clients.liveHandles src ≠ 0 ∨ w.clients.liveHandles dst = 0
  | _ => True

instance (w : DataWorld) : (op : DataOp) → Decidable (w.Guarded op)
  | .moveConstruct _ _ => inferInstanceAs (Decidable (_ = 0))
  | .moveAssign dst src => inferInstanceAs (Decidable (dst = src ∨ _ ≠ 0 ∨ _ = 0))
  | .call _ | .setData _ _ | .convertTo _ _ => inferInstanceAs (Decidable True)

/-- What the argument carries from state to state. A handle is obtained from a
batch that has data, and data is in one batch only, so whatever comes in the
place of data is not the same object. -/
structure Sound (w : DataWorld) : Prop where
  counted : w.clients.Counted
  owned : w.Owned
  seen : ∀ h b, w.clients.handles.lookup h = some (some b) → w.seen h ≠ none

/-- If the handles stay, all depends on the data under them. -/
theorem stable_iff (h : w.Stable) (w' : DataWorld)
    (hhandles : w'.clients.handles = w.clients.handles)
    (hseen : w'.seen = w.seen) :
    w'.Stable ↔ ∀ b, w.clients.liveHandles b ≠ 0 →
      w'.clients.dataOf b = w.clients.dataOf b := by
  unfold Stable
  rw [hhandles, hseen]
  constructor
  · intro h' b hlive
    obtain ⟨k, hk⟩ := AList.exists_of_owners_pos (Nat.pos_of_ne_zero hlive)
    rw [h' k b hk, h k b hk]
  · intro hsame k b hk
    have hlive : w.clients.liveHandles b ≠ 0 := (AList.owners_pos hk).ne'
    rw [hsame b hlive, h k b hk]

section Calls

variable {op : BatchOp} {h : Addr}

/-- Where the record of a valid handle comes from: the handle it was moved out
of, or the lock that made it. -/
theorem record_of_live (hop : w.clients.Proper op)
    (hlive : (w.clients.perform op).1.handles.lookup h = some (some b)) :
    (∃ k, w.clients.handles.lookup k = some (some b) ∧ w.record op h = w.seen k) ∨
      w.record op h = w.clients.dataOf b ∧ w.clients.dataOf b ≠ none := by
  cases op with
  | tryToCreateTask _ | tryToCancelTask _ | tryToLockForInTransit _
  | tryToReleaseInTransit _ _ =>
      rw [BatchWorld.perform, BatchWorld.onBatch_handles] at hlive
      exact .inl ⟨h, hlive, rfl⟩
  | tryToLockForProcessing b' space h' =>
      obtain ⟨batch, hb⟩ := AList.exists_lookup hop.1
      obtain ⟨r, hr⟩ := lock_returns (b := batch) b' space
      have hcall := BatchWorld.call_eq (·.tryToLockForProcessing b' space) hb
      simp only [BatchWorld.perform, hcall, hr] at hlive
      by_cases heq : h = h'
      · rw [heq, AList.lookup_insert] at hlive
        obtain ⟨rfl, hdata⟩ := lock_handle hr (Option.some.inj hlive)
        refine .inr ⟨?_, ?_⟩
        · rw [heq]
          exact Function.update_self ..
        · rw [BatchWorld.dataOf_eq hb]
          exact hdata
      · rw [AList.lookup_insert_ne heq] at hlive
        exact .inl ⟨h, hlive, Function.update_of_ne heq ..⟩
  | release h' => exact .inl ⟨h, BatchWorld.live_of_releaseHandle hlive, rfl⟩
  | destroy h' =>
      have hrelease : (w.clients.releaseHandle h').1.handles.lookup h =
          some (some b) := (AList.lookup_of_lookup_erase hlive).2
      exact .inl ⟨h, BatchWorld.live_of_releaseHandle hrelease, rfl⟩
  | moveConstruct h' src =>
      obtain ⟨p, hp⟩ := AList.exists_lookup hop.2
      simp only [BatchWorld.perform, hp] at hlive
      rcases BatchWorld.live_of_move hp hlive with ⟨rfl, hk⟩ | ⟨hne, hk⟩
      · exact .inl ⟨src, hk, Function.update_self ..⟩
      · exact .inl ⟨h, hk, Function.update_of_ne hne ..⟩
  | moveAssign dst src =>
      obtain ⟨p, hp⟩ := AList.exists_lookup hop.2
      simp only [BatchWorld.perform, hp] at hlive
      split at hlive
      · next heq =>
          subst heq
          refine .inl ⟨h, hlive, ?_⟩
          rw [record, Function.update_eq_self]
      · rcases BatchWorld.live_of_move hp hlive with ⟨rfl, hk⟩ | ⟨hne, hk⟩
        · exact .inl ⟨src, hk, Function.update_self ..⟩
        · exact .inl ⟨h, hk, Function.update_of_ne hne ..⟩

theorem stable_call (hw : w.Sound) (hop : w.clients.Proper op) (h : w.Stable) :
    (w.next (.call op)).Stable := by
  intro k b hlive
  obtain ⟨what, hdid⟩ := perform_did hw.counted hop
  have hdata := BatchWorld.dataOf_of_effect hdid.effect b
  rcases record_of_live hop hlive with ⟨k', hk', hseen⟩ | ⟨hseen, -⟩
  · exact hdata.trans ((h k' b hk').trans hseen.symm)
  · exact hdata.trans hseen.symm

theorem sound_call (hw : w.Sound) (hop : w.clients.Proper op) :
    (w.next (.call op)).Sound := by
  obtain ⟨what, hdid⟩ := perform_did hw.counted hop
  have hdata := BatchWorld.dataOf_of_effect hdid.effect
  refine ⟨BatchWorld.counted_of_effect hw.counted hdid.effect, ?_, ?_⟩
  · intro b c r r' hb hc
    exact hw.owned b c r r' ((hdata b).symm.trans hb) ((hdata c).symm.trans hc)
  · intro k b hlive
    rcases record_of_live hop hlive with ⟨k', hk', hseen⟩ | ⟨hseen, hsome⟩
    · rw [show (w.next (.call op)).seen k = _ from hseen]
      exact hw.seen k' b hk'
    · rw [show (w.next (.call op)).seen k = _ from hseen]
      exact hsome

end Calls

section Owners

/-- Data that nobody owned comes to one batch. -/
theorem owned_replace {data : Option Representation} (hw : w.Owned)
    (hfree : w.clients.Unowned data)
    (hdata : ∀ c, w'.clients.dataOf c = if c = b then data else w.clients.dataOf c) :
    w'.Owned := by
  have hnew : ∀ r c r', data = some r → w.clients.dataOf c = some r' →
      r.object ≠ r'.object := by
    intro r c r' hr hc
    obtain ⟨batch, hbatch, hr'⟩ := Option.bind_eq_some_iff.mp hc
    exact hfree c batch hbatch r hr r' hr'
  intro c d r r' hc hd heq
  rw [hdata] at hc hd
  split at hc <;> split at hd
  · next h₁ h₂ => exact h₁.trans h₂.symm
  · exact absurd heq (hnew r d r' hc hd)
  · exact absurd heq.symm (hnew r' c r hd hc)
  · exact hw c d r r' hc hd heq

/-- Data goes from one batch to another. -/
theorem owned_move (dst src : Addr) (hw : w.Owned)
    (hdata : ∀ c, w'.clients.dataOf c =
      if c = dst then w.clients.dataOf src
      else if c = src then none else w.clients.dataOf c) :
    w'.Owned := by
  intro c d r r' hc hd heq
  rw [hdata] at hc hd
  split at hc
  · next hcdst =>
      split at hd
      · next hddst => exact hcdst.trans hddst.symm
      · split at hd
        · cases hd
        · next hdsrc => exact absurd (hw src d r r' hc hd heq) (Ne.symm hdsrc)
  · split at hc
    · cases hc
    · next hcsrc =>
        split at hd
        · exact absurd (hw c src r r' hc hd heq) hcsrc
        · split at hd
          · cases hd
          · exact hw c d r r' hc hd heq

end Owners

section Replacing

variable {P : Option Representation → Prop} {method : DataBatch → Outcome Unit}

/-- `set_data` and `convert_to` change nothing, or the data of a batch without
handles. -/
theorem replace_cases (hw : w.Sound)
    (hmethod : ∀ batch, Replaces P batch (method batch).batch)
    (hb : b ∈ w.clients.batches) :
    (w.clients.onBatch b method).1.Counted ∧
      ((∀ c, (w.clients.onBatch b method).1.dataOf c = w.clients.dataOf c) ∨
        w.clients.liveHandles b = 0 ∧ ∃ data, P data ∧
          ∀ c, (w.clients.onBatch b method).1.dataOf c =
            if c = b then data else w.clients.dataOf c) := by
  obtain ⟨batch, hbatch⟩ := AList.exists_lookup hb
  have hstore : (w.clients.onBatch b method).1 =
      w.clients.put b (method batch).batch := by
    simp only [BatchWorld.onBatch, BatchWorld.call_eq method hbatch]
    rfl
  rw [hstore]
  rcases hmethod batch with hsame | ⟨hzero, data, hP, hnew⟩
  · rw [hsame]
    refine ⟨hw.counted.put hbatch _ rfl rfl, .inl fun c => ?_⟩
    rw [BatchWorld.dataOf_put]
    split
    · next hc => rw [hc, BatchWorld.dataOf_eq hbatch]
    · rfl
  · rw [hnew]
    refine ⟨hw.counted.put hbatch _ rfl rfl, .inr ⟨?_, data, hP, ?_⟩⟩
    · rw [← (hw.counted.1 b batch hbatch).1, hzero]
    · exact BatchWorld.dataOf_put w.clients b _

theorem sound_replace (hw : w.Sound)
    (hmethod : ∀ batch, Replaces P batch (method batch).batch)
    (hb : b ∈ w.clients.batches) (hfree : ∀ data, P data → w.clients.Unowned data) :
    (w.onBatch b method).Sound := by
  obtain ⟨hcounted, hdata⟩ := replace_cases hw hmethod hb
  refine ⟨hcounted, ?_, ?_⟩
  · rcases hdata with hsame | ⟨-, data, hP, hdata⟩
    · intro c d r r' hc hd
      exact hw.owned c d r r' ((hsame c).symm.trans hc) ((hsame d).symm.trans hd)
    · exact owned_replace hw.owned (hfree data hP) hdata
  · intro k c hk
    apply hw.seen k c
    rw [← hk]
    exact (congrArg (AList.lookup k) (BatchWorld.onBatch_handles method)).symm

theorem stable_replace (hw : w.Sound)
    (hmethod : ∀ batch, Replaces P batch (method batch).batch)
    (hb : b ∈ w.clients.batches) (h : w.Stable) :
    (w.onBatch b method).Stable := by
  refine (stable_iff h (w.onBatch b method) (BatchWorld.onBatch_handles method)
    rfl).mpr ?_
  intro c hlive
  rcases (replace_cases hw hmethod hb).2 with hsame | ⟨hzero, data, -, hdata⟩
  · exact hsame c
  · have hc : c ≠ b := fun heq => hlive (heq ▸ hzero)
    exact (hdata c).trans (if_neg hc)

end Replacing

section Moves

variable {this other : DataBatch}

theorem hasData_of_live (hw : w.Sound) (h : w.Stable)
    (hlive : w.clients.liveHandles b ≠ 0) : w.clients.dataOf b ≠ none := by
  obtain ⟨k, hk⟩ := AList.exists_of_owners_pos (Nat.pos_of_ne_zero hlive)
  rw [h k b hk]
  exact hw.seen k b hk

/-- The move constructor throws and loses the data. -/
theorem moveConstruct_locked (hw : w.Sound)
    (hother : w.clients.batches.lookup src = some other)
    (hlive : w.clients.liveHandles src ≠ 0) :
    w.next (.moveConstruct b src) =
      w.put src { other with data := none } := by
  have hcount : other.processingCount ≠ 0 := by
    rwa [(hw.counted.1 src other hother).1]
  simp only [next, hother, DataBatch.moveConstruct, if_pos hcount]

theorem moveConstruct_free (hw : w.Sound)
    (hother : w.clients.batches.lookup src = some other)
    (hlive : w.clients.liveHandles src = 0) :
    w.next (.moveConstruct b src) =
      (w.put src other.emptied).put b (.create other.batchId other.data) := by
  have hcount : ¬other.processingCount ≠ 0 := by
    rw [(hw.counted.1 src other hother).1, hlive]
    exact not_not.mpr rfl
  simp only [next, hother, DataBatch.moveConstruct, if_neg hcount]
  rfl

theorem moveAssign_locked (hw : w.Sound) (hne : dst ≠ src)
    (hthis : w.clients.batches.lookup dst = some this)
    (hother : w.clients.batches.lookup src = some other)
    (hlive : w.clients.liveHandles src ≠ 0) :
    w.next (.moveAssign dst src) =
      (w.put dst this).put src other := by
  have hcount : other.processingCount ≠ 0 := by
    rwa [(hw.counted.1 src other hother).1]
  simp only [next, if_neg hne, hthis, hother, DataBatch.moveAssign, if_pos hcount]

theorem moveAssign_free (hw : w.Sound) (hne : dst ≠ src)
    (hthis : w.clients.batches.lookup dst = some this)
    (hother : w.clients.batches.lookup src = some other)
    (hlive : w.clients.liveHandles src = 0) :
    w.next (.moveAssign dst src) =
      (w.put dst (this.filledFrom other)).put src other.emptied := by
  have hcount : ¬other.processingCount ≠ 0 := by
    rw [(hw.counted.1 src other hother).1, hlive]
    exact not_not.mpr rfl
  simp only [next, if_neg hne, hthis, hother, DataBatch.moveAssign, if_neg hcount]
  rfl

theorem dataOf_put_put (k k' : Addr) (batch batch' : DataBatch) (c : Addr) :
    ((w.put k batch).put k' batch').clients.dataOf c =
      if c = k' then batch'.data else if c = k then batch.data
      else w.clients.dataOf c := by
  rw [← BatchWorld.dataOf_put w.clients k batch c]
  exact BatchWorld.dataOf_put (w.clients.put k batch) k' batch' c

theorem moveAssign_locked_dataOf (hthis : w.clients.batches.lookup dst = some this)
    (hother : w.clients.batches.lookup src = some other) (c : Addr) :
    ((w.put dst this).put src other).clients.dataOf c = w.clients.dataOf c := by
  rw [dataOf_put_put]
  split
  · next hc => rw [hc, BatchWorld.dataOf_eq hother]
  · split
    · next hc => rw [hc, BatchWorld.dataOf_eq hthis]
    · rfl

theorem sound_moveConstruct (hw : w.Sound) (hb : b ∉ w.clients.batches)
    (hother : w.clients.batches.lookup src = some other)
    (hlive : w.clients.liveHandles src = 0) :
    (w.next (.moveConstruct b src)).Sound := by
  have hne : b ≠ src := fun heq => hb (heq ▸ AList.mem_of_lookup hother)
  have hb' : ∀ batch, b ∉ (w.clients.put src batch).batches := by
    intro batch
    rw [BatchWorld.mem_put, not_or]
    exact ⟨hne, hb⟩
  rw [moveConstruct_free hw hother hlive]
  have hcounted := (hw.counted.put hother other.emptied rfl rfl).put_new (hb' _)
    (.create other.batchId other.data) rfl
  refine ⟨hcounted, owned_move b src hw.owned fun c => ?_, hw.seen⟩
  rw [dataOf_put_put, BatchWorld.dataOf_eq hother]
  rfl

theorem sound_moveAssign (hw : w.Sound) (hne : dst ≠ src)
    (hthis : w.clients.batches.lookup dst = some this)
    (hother : w.clients.batches.lookup src = some other) :
    (w.next (.moveAssign dst src)).Sound := by
  have hsrc : ∀ batch, (w.clients.put dst batch).batches.lookup src = some other := by
    intro batch
    rw [BatchWorld.put_lookup_ne hne.symm, hother]
  by_cases hlive : w.clients.liveHandles src = 0
  · rw [moveAssign_free hw hne hthis hother hlive]
    have hcounted := (hw.counted.put hthis (this.filledFrom other) rfl rfl).put
      (hsrc _) other.emptied rfl rfl
    refine ⟨hcounted, owned_move dst src hw.owned fun c => ?_, hw.seen⟩
    rw [dataOf_put_put, BatchWorld.dataOf_eq hother]
    by_cases hc : c = dst
    · rw [if_pos hc, if_neg (hc ▸ hne), if_pos hc]
      rfl
    · rw [if_neg hc, if_neg hc]
      rfl
  · rw [moveAssign_locked hw hne hthis hother hlive]
    have hcounted := (hw.counted.put hthis this rfl rfl).put (hsrc _) other rfl rfl
    refine ⟨hcounted, ?_, hw.seen⟩
    intro c d r r' hc hd
    have hsame := moveAssign_locked_dataOf hthis hother
    exact hw.owned c d r r' ((hsame c).symm.trans hc) ((hsame d).symm.trans hd)

/-- A batch may be made out of another exactly if that one has no handle. -/
theorem stable_moveConstruct_iff (hw : w.Sound) (h : w.Stable)
    (hb : b ∉ w.clients.batches)
    (hother : w.clients.batches.lookup src = some other) :
    (w.next (.moveConstruct b src)).Stable ↔ w.clients.liveHandles src = 0 := by
  by_cases hlive : w.clients.liveHandles src = 0
  · rw [moveConstruct_free hw hother hlive, iff_true_right hlive]
    refine (stable_iff h ((w.put src _).put b _) rfl rfl).mpr fun c hc => ?_
    have hcb : c ≠ b := fun heq => hc (heq ▸ hw.counted.2 b hb)
    have hcsrc : c ≠ src := fun heq => hc (heq ▸ hlive)
    rw [dataOf_put_put, if_neg hcb, if_neg hcsrc]
  · rw [moveConstruct_locked hw hother hlive, iff_false_right hlive]
    intro h'
    have hgone := (stable_iff h (w.put src _) rfl rfl).mp h' src hlive
    have hnone : (w.put src { other with data := none }).clients.dataOf src = none :=
      BatchWorld.dataOf_eq BatchWorld.put_lookup_self
    exact hasData_of_live hw h hlive (hgone.symm.trans hnone)

/-- A batch may be assigned to exactly if it has no handle, or if the other one
has. -/
theorem stable_moveAssign_iff (hw : w.Sound) (h : w.Stable) (hne : dst ≠ src)
    (hthis : w.clients.batches.lookup dst = some this)
    (hother : w.clients.batches.lookup src = some other) :
    (w.next (.moveAssign dst src)).Stable ↔
      w.clients.liveHandles src ≠ 0 ∨ w.clients.liveHandles dst = 0 := by
  by_cases hsrc : w.clients.liveHandles src = 0
  · have hdata : ∀ c, (w.next (.moveAssign dst src)).clients.dataOf c =
        if c = src then none else if c = dst then w.clients.dataOf src
        else w.clients.dataOf c := by
      intro c
      rw [moveAssign_free hw hne hthis hother hsrc, dataOf_put_put,
        BatchWorld.dataOf_eq hother]
      rfl
    have hstable : (w.next (.moveAssign dst src)).Stable ↔ _ :=
      stable_iff h _ (by rw [moveAssign_free hw hne hthis hother hsrc]; rfl)
        (by rw [moveAssign_free hw hne hthis hother hsrc]; rfl)
    rw [hstable]
    constructor
    · intro hsame
      refine .inr ?_
      by_contra hdst
      have hmoved := hsame dst hdst
      rw [hdata, if_neg hne, if_pos rfl] at hmoved
      cases hr : w.clients.dataOf dst with
      | none => exact hasData_of_live hw h hdst hr
      | some r => exact hne (hw.owned dst src r r hr (hmoved.trans hr) rfl)
    · intro hor c hc
      have hcsrc : c ≠ src := fun heq => hc (heq ▸ hsrc)
      have hcdst : c ≠ dst := fun heq =>
        hor.elim (fun hno => hno hsrc) fun hdst => hc (heq ▸ hdst)
      rw [hdata, if_neg hcsrc, if_neg hcdst]
  · rw [iff_true_right (.inl hsrc), moveAssign_locked hw hne hthis hother hsrc]
    exact (stable_iff h ((w.put dst this).put src other) rfl rfl).mpr fun c _ =>
      moveAssign_locked_dataOf hthis hother c

end Moves

theorem sound_of_fresh (h : w.Fresh) : w.Sound := by
  refine ⟨BatchWorld.counted_of_fresh h.1, h.2, fun k b hk => ?_⟩
  rw [h.1.1, AList.lookup_empty] at hk
  cases hk

theorem stable_of_fresh (h : w.Fresh) : w.Stable := by
  intro k b hk
  rw [h.1.1, AList.lookup_empty] at hk
  cases hk

theorem sound_next {op : DataOp} (hw : w.Sound) (hop : w.Proper op)
    (hguard : w.Guarded op) : (w.next op).Sound := by
  cases op with
  | call op => exact sound_call hw hop
  | setData b data =>
      refine sound_replace hw (fun _ => setData_replaces data) hop.1 ?_
      intro data' heq
      rw [heq]
      exact hop.2
  | convertTo b answer =>
      exact sound_replace hw (fun _ => convertTo_replaces answer) hop.1 hop.2
  | moveConstruct b src =>
      obtain ⟨other, hother⟩ := AList.exists_lookup hop.2
      exact sound_moveConstruct hw hop.1 hother hguard
  | moveAssign dst src =>
      by_cases hne : dst = src
      · rwa [next, if_pos hne]
      · obtain ⟨this, hthis⟩ := AList.exists_lookup hop.1
        obtain ⟨other, hother⟩ := AList.exists_lookup hop.2
        exact sound_moveAssign hw hne hthis hother

theorem stable_next_iff {op : DataOp} (hw : w.Sound) (h : w.Stable)
    (hop : w.Proper op) : (w.next op).Stable ↔ w.Guarded op := by
  cases op with
  | call op => exact iff_true_right trivial |>.mpr (stable_call hw hop h)
  | setData b data =>
      exact (iff_true_right trivial).mpr
        (stable_replace hw (fun _ => setData_replaces data) hop.1 h)
  | convertTo b answer =>
      exact (iff_true_right trivial).mpr
        (stable_replace hw (fun _ => convertTo_replaces answer) hop.1 h)
  | moveConstruct b src =>
      obtain ⟨other, hother⟩ := AList.exists_lookup hop.2
      exact stable_moveConstruct_iff hw h hop.1 hother
  | moveAssign dst src =>
      by_cases hne : dst = src
      · rw [next, if_pos hne]
        exact iff_of_true h (.inl hne)
      · obtain ⟨this, hthis⟩ := AList.exists_lookup hop.1
        obtain ⟨other, hother⟩ := AList.exists_lookup hop.2
        exact (stable_moveAssign_iff hw h hne hthis hother).trans
          (or_iff_right hne).symm

/-- In a run from fresh batches every batch with a valid handle owns, in each
state, the data it owned when the handle was obtained, exactly if no batch is
moved from, and none assigned to from a batch that may be moved, while it has
a handle. -/
theorem always_stable_iff {ops : List DataOp} (hs : machine.start w)
    (hlaw : machine.Lawful w ops) :
    machine.Always Stable w ops ↔ machine.Every Guarded w ops :=
  Machine.always_iff_every (J := Sound)
    (fun _ _ hw _ hop hguard => sound_next hw hop hguard)
    (fun _ _ hw h hop => stable_next_iff hw h hop)
    (sound_of_fresh hs) (stable_of_fresh hs) hlaw

/-- Two batches, one with data, and no handle yet. -/
def twoBatches : DataWorld := ⟨BatchWorld.twoBatches, fun _ => none⟩

theorem fresh_twoBatches : twoBatches.Fresh := by
  have hone : BatchWorld.twoBatches.batches.All
      fun k batch => batch.data ≠ none → k = 1 := by decide
  have howner : ∀ b r, twoBatches.clients.dataOf b = some r → b = 1 := by
    intro b r hb
    obtain ⟨batch, hbatch, hr⟩ := Option.bind_eq_some_iff.mp hb
    exact hone b batch hbatch (by rw [hr]; exact nofun)
  refine ⟨BatchWorld.fresh_twoBatches, fun b c r r' hb hc _ => ?_⟩
  rw [howner b r hb, howner c r' hc]

/-- While the batch at 1 is processed, its data can be neither replaced nor
converted nor assigned elsewhere. Once the handle is released all of this is
possible. -/
theorem always_stable_twoBatches :
    machine.Always Stable twoBatches
      [.call (.tryToCreateTask 1), .call (.tryToLockForProcessing 1 ⟨.GPU, 0⟩ 100),
        .setData 1 (some ⟨32, ⟨.GPU, 0⟩⟩), .convertTo 1 (.ok (some ⟨32, ⟨.HOST, 0⟩⟩)),
        .moveAssign 2 1, .call (.moveConstruct 101 100), .call (.release 101),
        .moveConstruct 3 1, .moveAssign 2 3,
        .convertTo 2 (.ok (some ⟨32, ⟨.HOST, 0⟩⟩))] :=
  (always_stable_iff fresh_twoBatches
    (show machine.Every Proper _ _ by decide)).mpr (by decide)

/-- A batch is locked for processing. A batch cannot be made out of it, but the
attempt costs it its data; and another batch may be assigned to it. -/
theorem lost_under_handle :
    let locked : List DataOp :=
      [.call (.tryToCreateTask 1), .call (.tryToLockForProcessing 1 ⟨.GPU, 0⟩ 100)]
    (machine.Lawful twoBatches (locked ++ [.moveConstruct 3 1]) ∧
        ¬machine.Always Stable twoBatches (locked ++ [.moveConstruct 3 1])) ∧
      machine.Lawful twoBatches (locked ++ [.moveAssign 1 2]) ∧
        ¬machine.Always Stable twoBatches (locked ++ [.moveAssign 1 2]) := by
  refine ⟨⟨show machine.Every Proper _ _ by decide, fun h => ?_⟩,
    show machine.Every Proper _ _ by decide, fun h => ?_⟩
  · exact absurd (h.last 100 1 rfl) (by decide)
  · exact absurd (h.last 100 1 rfl) (by decide)

end DataWorld

end CuCascade.Data

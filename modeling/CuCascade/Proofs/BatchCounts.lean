import CuCascade.Proofs.BatchSpec

/-!
# Handles and tasks are counted exactly

A call of a client either leaves the batches and the owners of handles as they
are, or takes one batch along one edge, and a handle comes or goes with the edge
as the processing count does. So the count of a batch is the number of its
valid handles in every state, and a batch with a handle is processing.
-/

namespace CuCascade.Data

open Memory

namespace Event

/-- What the event adds to the processing count. -/
def takes : Event → Nat
  | .locked => 1
  | _ => 0

/-- What it removes from the processing count. -/
def drops : Event → Nat
  | .released => 1
  | _ => 0

/-- What it adds to the tasks that wait. -/
def starts : Event → Nat
  | .created => 1
  | _ => 0

/-- What it removes from the tasks that wait. -/
def ends : Event → Nat
  | .cancelled | .locked => 1
  | _ => 0

end Event

section Moves

variable {b b' : DataBatch} {e : Event} {loud : Bool}

theorem Move.processingCount (h : Move b e loud b') :
    b'.processingCount + e.drops = b.processingCount + e.takes := by
  cases h <;> simp only [Event.drops, Event.takes] <;> omega

theorem Move.taskCreatedCount (h : Move b e loud b') :
    b'.taskCreatedCount + e.ends = b.taskCreatedCount + e.starts := by
  cases h <;> simp only [Event.starts, Event.ends] <;> omega

theorem Move.batchId (h : Move b e loud b') : b'.batchId = b.batchId := by
  cases h <;> rfl

theorem Move.data (h : Move b e loud b') : b'.data = b.data := by
  cases h <;> rfl

theorem Move.stateChangeCv (h : Move b e loud b') :
    b'.stateChangeCv = b.stateChangeCv := by
  cases h <;> rfl

/-- A batch with a processing count is processing. -/
def DataBatch.Held (b : DataBatch) : Prop :=
  0 < b.processingCount → b.state = .processing

theorem Move.held (h : Move b e loud b') (hb : b.Held) : b'.Held := by
  unfold DataBatch.Held at hb ⊢
  cases h with
  | create hs | arrive _ hs =>
      intro hpos
      rw [hb hpos] at hs
      cases hs
  | createMore | cancel | release =>
      intro _
      simp only at *
      exact hb (by omega)
  | cancelLast _ _ hzero | depart hzero =>
      intro hpos
      exact absurd hpos (by simp only; omega)
  | lock => exact fun _ => rfl
  | releaseLast => exact fun hpos => absurd hpos (Nat.lt_irrefl 0)

/-- A batch that is held can be released. -/
theorem decrement_of_held (hb : b.Held) (hpos : 0 < b.processingCount) :
    b.decrementProcessingCount.result = .ok () := by
  unfold DataBatch.decrementProcessingCount
  rw [if_neg (not_not.mpr (hb hpos)), if_neg (by omega)]
  simp only
  split <;> rfl

end Moves

/-- What a call did: nothing to any batch, or one edge of one batch with what
goes with it for the handles. -/
inductive Effect (w w' : BatchWorld) (notify : Option Addr) :
    Option (Addr × Event) → Prop where
  | stays (hbatches : ∀ c, w'.batches.lookup c = w.batches.lookup c)
      (hlive : ∀ c, w'.liveHandles c = w.liveHandles c)
      (hnotify : notify = none) : Effect w w' notify none
  | moves {b : Addr} {e : Event} {loud : Bool} {batch batch' : DataBatch}
      (hb : w.batches.lookup b = some batch) (hmove : Move batch e loud batch')
      (hbatches : w'.batches = w.batches.insert b batch')
      (hlive : ∀ c, w'.liveHandles c + (if b = c then e.drops else 0) =
        w.liveHandles c + (if b = c then e.takes else 0))
      (hnotify : notify = if loud then batch.stateChangeCv else none) :
      Effect w w' notify (some (b, e))

namespace BatchWorld

variable {w : BatchWorld} {b : Addr}

/-- The counts are right: a batch is counted once for each of its handles, a
handle is on a batch that exists, and a batch with handles is processing. -/
def Counted (w : BatchWorld) : Prop :=
  (∀ b batch, w.batches.lookup b = some batch →
    batch.processingCount = w.liveHandles b ∧ batch.Held) ∧
  ∀ b, b ∉ w.batches → w.liveHandles b = 0

section Store

variable {α : Type} {out : Outcome α} {batch : DataBatch}
  {handles : Table Addr (Option Addr)}

theorem lookup_store (hb : w.batches.lookup b = some batch)
    (hout : out.batch = batch) (c : Addr) :
    (w.batches.insert b out.batch).lookup c = w.batches.lookup c := by
  by_cases hc : c = b
  · rw [hc, AList.lookup_insert, hout, hb]
  · rw [AList.lookup_insert_ne hc]

theorem store_stays (hb : w.batches.lookup b = some batch)
    (hout : out.batch = batch) (hnotify : out.notify = none)
    (hlive : ∀ c, handles.owners c = w.liveHandles c) :
    Effect w { w.store b out with handles := handles } out.notify none :=
  .stays (lookup_store hb hout) hlive hnotify

/-- A method that the client calls on a batch and that has no handle to
give or take. -/
theorem onBatch_effect {method : DataBatch → Outcome α} {e : Event} {yes : α}
    (hp : ∀ batch, Performs batch e yes (method batch)) (htakes : e.takes = 0)
    (hdrops : e.drops = 0) (hb : w.batches.lookup b = some batch) :
    ((method batch).result = .ok yes ∧
      Effect w (w.onBatch b method).1 (w.onBatch b method).2 (some (b, e))) ∨
    ((method batch).result ≠ .ok yes ∧
      Effect w (w.onBatch b method).1 (w.onBatch b method).2 none) := by
  simp only [onBatch, call, hb, Option.map_some]
  rcases hp batch with ⟨loud, hmove, hnotify, hok⟩ | ⟨hsame, hnotify, hno⟩
  · refine .inl ⟨hok, .moves hb hmove rfl (fun c => ?_) hnotify⟩
    rw [htakes, hdrops]
    rfl
  · exact .inr ⟨hno, store_stays hb hsame hnotify fun _ => rfl⟩

end Store

theorem call_eq {α : Type} {batch : DataBatch} (method : DataBatch → Outcome α)
    (hb : w.batches.lookup b = some batch) :
    w.call b method = some (method batch) := by
  rw [call, hb, Option.map_some]

theorem successes_yes {α : Type} (success : α → Bool) {out : Outcome α} {yes : α}
    (h : out.result = .ok yes) (hyes : success yes = true) :
    successes success (some out) = 1 := by
  obtain ⟨batch, notify, result⟩ := out
  cases h
  simp only [successes, hyes, if_true]

theorem successes_no {α : Type} (success : α → Bool) {out : Outcome α}
    (h : ∀ a, out.result = .ok a → success a = false) :
    successes success (some out) = 0 := by
  obtain ⟨batch, notify, result⟩ := out
  cases result with
  | error e => rfl
  | ok a => simp only [successes, h a rfl, Bool.false_eq_true, if_false]

/-- `release` of a handle: the handle is empty then, and if it was valid its
batch was released. -/
theorem releaseHandle_effect (hw : w.Counted) {h : Addr} (hh : h ∈ w.handles) :
    ∃ what, Effect w (w.releaseHandle h).1 (w.releaseHandle h).2 what ∧
      (what = none ∨ ∃ b, what = some (b, .released)) ∧
      (w.releaseHandle h).1.handles.lookup h = some none := by
  obtain ⟨p, hp⟩ := AList.exists_lookup hh
  simp only [releaseHandle, hp]
  cases p with
  | none => exact ⟨none, .stays (fun _ => rfl) (fun _ => rfl) rfl, .inl rfl, hp⟩
  | some b =>
      have hlive : 0 < w.liveHandles b := AList.owners_pos hp
      have hmem : b ∈ w.batches := by
        by_contra hno
        have hzero := hw.2 b hno
        omega
      obtain ⟨batch, hb⟩ := AList.exists_lookup hmem
      obtain ⟨hcount, hheld⟩ := hw.1 b batch hb
      have hok := decrement_of_held hheld (by omega)
      simp only [call_eq _ hb, hok]
      refine ⟨some (b, .released), ?_, .inr ⟨b, rfl⟩, AList.lookup_insert _⟩
      rcases decrementProcessingCount_performs (b := batch) with
        ⟨loud, hmove, hnotify, -⟩ | ⟨-, -, hno⟩
      · refine .moves hb hmove rfl (fun c => ?_) hnotify
        have hclear := AList.owners_clear hp c
        rw [AList.owns_some] at hclear
        simp only [liveHandles, Event.drops, Event.takes, ite_self]
        omega
      · exact absurd hok hno

end BatchWorld

/-- What happens to the handles besides. -/
theorem Effect.trans_stays {w w' w'' : BatchWorld} {notify : Option Addr}
    {what : Option (Addr × Event)} (h : Effect w w' notify what)
    (hbatches : w''.batches = w'.batches)
    (hlive : ∀ c, w''.liveHandles c = w'.liveHandles c) :
    Effect w w'' notify what := by
  cases h with
  | stays hb hl hn =>
      exact .stays (fun c => by rw [hbatches, hb]) (fun c => by rw [hlive, hl]) hn
  | moves hb hm hb' hl hn =>
      exact .moves hb hm (hbatches.trans hb') (fun c => by rw [hlive, hl]) hn

/-- 1 if the call took the batch at `b` along an edge of the event `e`. -/
def tick (what : Option (Addr × Event)) (b : Addr) (e : Event) : Nat :=
  if what = some (b, e) then 1 else 0

theorem tick_none (b : Addr) (e : Event) : tick none b e = 0 := if_neg nofun

theorem tick_self (b c : Addr) (e : Event) :
    tick (some (b, e)) c e = if b = c then 1 else 0 := by
  simp only [tick, Option.some.injEq, Prod.mk.injEq, and_true]

theorem tick_ne {e e' : Event} (h : e ≠ e') (b c : Addr) :
    0 = tick (some (b, e)) c e' :=
  (if_neg fun heq => h (Prod.mk.inj (Option.some.inj heq)).2).symm

/-- The effect of a call, with what it returned read off as an event. -/
structure Did (w : BatchWorld) (op : BatchOp) (what : Option (Addr × Event)) :
    Prop where
  effect : Effect w (w.perform op).1 (w.perform op).2 what
  creates : ∀ c, w.creates c op = tick what c .created
  cancels : ∀ c, w.cancels c op = tick what c .cancelled
  locks : ∀ c, w.locks c op = tick what c .locked
  arrives : ∀ c targetState, what = some (c, .arrived targetState) →
    op = .tryToReleaseInTransit c targetState

section Calls

variable {w : BatchWorld} {b : Addr} {batch : DataBatch}

open BatchWorld

theorem successes_false {out : Outcome Bool} (h : out.result ≠ .ok true) :
    successes id (some out) = 0 :=
  successes_no id fun a ha => by
    cases a with
    | false => rfl
    | true => exact absurd ha h

theorem create_did (hb : w.batches.lookup b = some batch) :
    ∃ what, Did w (.tryToCreateTask b) what := by
  rcases onBatch_effect (fun _ => tryToCreateTask_performs) rfl rfl hb with
    ⟨hok, heff⟩ | ⟨hno, heff⟩
  · refine ⟨some (b, .created), heff, fun c => ?_, fun c => tick_ne (by decide) b c,
      fun c => tick_ne (by decide) b c, nofun⟩
    simp only [creates, call_eq _ hb, successes_yes id hok rfl, tick_self]
  · refine ⟨none, heff, fun c => ?_, fun c => rfl, fun c => rfl, nofun⟩
    simp only [creates, call_eq _ hb, successes_false hno, ite_self, tick_none]

theorem cancel_did (hb : w.batches.lookup b = some batch) :
    ∃ what, Did w (.tryToCancelTask b) what := by
  rcases onBatch_effect (fun _ => tryToCancelTask_performs) rfl rfl hb with
    ⟨hok, heff⟩ | ⟨hno, heff⟩
  · refine ⟨some (b, .cancelled), heff, fun c => tick_ne (by decide) b c,
      fun c => ?_, fun c => tick_ne (by decide) b c, nofun⟩
    simp only [cancels, call_eq _ hb, successes_yes id hok rfl, tick_self]
  · refine ⟨none, heff, fun c => rfl, fun c => ?_, fun c => rfl, nofun⟩
    simp only [cancels, call_eq _ hb, successes_false hno, ite_self, tick_none]

theorem lock_did (space : MemorySpaceId) {h : Addr} (hh : h ∉ w.handles)
    (hb : w.batches.lookup b = some batch) :
    ∃ what, Did w (.tryToLockForProcessing b space h) what := by
  obtain ⟨r, hr⟩ := lock_returns (b := batch) b space
  have hcall := call_eq (·.tryToLockForProcessing b space) hb
  have hperform : w.perform (.tryToLockForProcessing b space h) =
      ({ w.store b (batch.tryToLockForProcessing b space) with
          handles := w.handles.insert h r.handle },
        (batch.tryToLockForProcessing b space).notify) := by
    simp only [perform, hcall, hr]
  rcases tryToLockForProcessing_performs (b := batch) b space with
    ⟨loud, hmove, hnotify, hok⟩ | ⟨hsame, hnotify, hno⟩
  · refine ⟨some (b, .locked), ?_, fun c => tick_ne (by decide) b c,
      fun c => tick_ne (by decide) b c, fun c => ?_, nofun⟩
    · rw [hperform]
      rw [hr] at hok
      cases hok
      refine .moves hb hmove rfl (fun c => ?_) hnotify
      have hnew := AList.owners_insert_new (p := some b) hh c
      rw [AList.owns_some] at hnew
      simp only [liveHandles, Event.drops, Event.takes, ite_self]
      omega
    · have hone := successes_yes LockForProcessingResult.success hok rfl
      simp only [locks, hcall, hone, tick_self]
  · have hne : r ≠ ⟨true, some b, .success⟩ := fun heq => hno (heq ▸ hr)
    obtain ⟨hfail, hempty⟩ := lock_failed hr hne
    refine ⟨none, ?_, fun c => rfl, fun c => rfl, fun c => ?_, nofun⟩
    · rw [hperform, hempty]
      refine store_stays hb hsame hnotify fun c => ?_
      rw [AList.owners_insert_new hh, AList.owns_none, Nat.zero_add]
      rfl
    · have hzero : successes LockForProcessingResult.success
          (some (batch.tryToLockForProcessing b space)) = 0 := by
        refine successes_no _ fun a ha => ?_
        rw [hr] at ha
        cases ha
        exact hfail
      simp only [locks, hcall, hzero, ite_self, tick_none]

/-- A call that is none of the three that are counted, and stays or takes the
one edge that it is for. -/
theorem uncounted_did {op : BatchOp} {what : Option (Addr × Event)}
    (heff : Effect w (w.perform op).1 (w.perform op).2 what)
    (hwhat : what = none ∨ ∃ b e, what = some (b, e) ∧
      e ≠ .created ∧ e ≠ .cancelled ∧ e ≠ .locked ∧
      ∀ targetState, e = .arrived targetState →
        op = .tryToReleaseInTransit b targetState)
    (hcreates : ∀ c, w.creates c op = 0) (hcancels : ∀ c, w.cancels c op = 0)
    (hlocks : ∀ c, w.locks c op = 0) : ∃ what, Did w op what := by
  refine ⟨what, ?_⟩
  rcases hwhat with rfl | ⟨b, e, rfl, h₁, h₂, h₃, harrived⟩
  · exact ⟨heff, hcreates, hcancels, hlocks, nofun⟩
  · refine ⟨heff, fun c => ?_, fun c => ?_, fun c => ?_, ?_⟩
    · exact (hcreates c).trans (tick_ne h₁ b c)
    · exact (hcancels c).trans (tick_ne h₂ b c)
    · exact (hlocks c).trans (tick_ne h₃ b c)
    · rintro c targetState ⟨⟩
      exact harrived targetState rfl

/-- Each call of a client, as the diagram sees it. -/
theorem perform_did {op : BatchOp} (hw : w.Counted) (hop : w.Proper op) :
    ∃ what, Did w op what := by
  cases op with
  | tryToCreateTask b =>
      obtain ⟨batch, hb⟩ := AList.exists_lookup hop
      exact create_did hb
  | tryToCancelTask b =>
      obtain ⟨batch, hb⟩ := AList.exists_lookup hop
      exact cancel_did hb
  | tryToLockForProcessing b space h =>
      obtain ⟨batch, hb⟩ := AList.exists_lookup hop.1
      exact lock_did space hop.2 hb
  | tryToLockForInTransit b =>
      obtain ⟨batch, hb⟩ := AList.exists_lookup hop
      rcases onBatch_effect (fun _ => tryToLockForInTransit_performs) rfl rfl hb
        with ⟨-, heff⟩ | ⟨-, heff⟩
      · exact uncounted_did heff (.inr ⟨b, .departed, rfl, nofun, nofun, nofun, nofun⟩)
          (fun _ => rfl) (fun _ => rfl) fun _ => rfl
      · exact uncounted_did heff (.inl rfl) (fun _ => rfl) (fun _ => rfl) fun _ => rfl
  | tryToReleaseInTransit b targetState =>
      obtain ⟨batch, hb⟩ := AList.exists_lookup hop
      rcases onBatch_effect (fun _ => tryToReleaseInTransit_performs targetState)
        rfl rfl hb with ⟨-, heff⟩ | ⟨-, heff⟩
      · refine uncounted_did heff (.inr ⟨b, .arrived targetState, rfl, nofun, nofun,
          nofun, ?_⟩) (fun _ => rfl) (fun _ => rfl) fun _ => rfl
        rintro _ ⟨⟩
        rfl
      · exact uncounted_did heff (.inl rfl) (fun _ => rfl) (fun _ => rfl) fun _ => rfl
  | release h =>
      obtain ⟨what, heff, hwhat, -⟩ := releaseHandle_effect hw hop
      refine uncounted_did heff ?_ (fun _ => rfl) (fun _ => rfl) fun _ => rfl
      exact hwhat.imp_right fun ⟨b, hb⟩ => ⟨b, _, hb, nofun, nofun, nofun, nofun⟩
  | destroy h =>
      obtain ⟨what, heff, hwhat, hnull⟩ := releaseHandle_effect hw hop
      refine uncounted_did (heff.trans_stays rfl fun c => ?_) ?_
        (fun _ => rfl) (fun _ => rfl) fun _ => rfl
      · exact AList.owners_erase hnull c
      · exact hwhat.imp_right fun ⟨b, hb⟩ => ⟨b, _, hb, nofun, nofun, nofun, nofun⟩
  | moveConstruct h src =>
      obtain ⟨p, hp⟩ := AList.exists_lookup hop.2
      refine uncounted_did ?_ (.inl rfl) (fun _ => rfl) (fun _ => rfl) fun _ => rfl
      simp only [perform, hp]
      exact .stays (fun _ => rfl) (AList.owners_moveConstruct hop.1 hp) rfl
  | moveAssign dst src =>
      obtain ⟨p, hp⟩ := AList.exists_lookup hop.2
      refine uncounted_did ?_ (.inl rfl) (fun _ => rfl) (fun _ => rfl) fun _ => rfl
      simp only [perform, hp]
      split
      · exact .stays (fun _ => rfl) (fun _ => rfl) rfl
      · next hne =>
          exact .stays (fun _ => rfl) (AList.owners_moveAssign hne hop.1 hp) rfl

end Calls

namespace BatchWorld

variable {w w' : BatchWorld} {notify : Option Addr}
  {what : Option (Addr × Event)}

theorem counted_of_fresh (h : w.Fresh) : w.Counted := by
  have hlive : ∀ b, w.liveHandles b = 0 := by
    intro b
    rw [liveHandles, h.1, AList.owners_empty]
  refine ⟨fun b batch hb => ?_, fun b _ => hlive b⟩
  obtain ⟨id, data, cv, rfl⟩ := h.2 b batch hb
  rw [hlive]
  exact ⟨rfl, fun hpos => absurd hpos (Nat.lt_irrefl 0)⟩

theorem counted_of_effect (hw : w.Counted) (h : Effect w w' notify what) :
    w'.Counted := by
  cases h with
  | stays hbatches hlive _ =>
      constructor
      · intro c batch hc
        rw [hbatches] at hc
        rw [hlive]
        exact hw.1 c batch hc
      · intro c hc
        rw [hlive]
        apply hw.2 c
        rw [← AList.lookup_eq_none] at hc ⊢
        rw [← hbatches, hc]
  | @moves b e loud batch batch' hb hmove hbatches hlive _ =>
      obtain ⟨hcount, hheld⟩ := hw.1 b batch hb
      constructor
      · intro c other hc
        have hlive := hlive c
        rw [hbatches] at hc
        by_cases hcb : c = b
        · subst hcb
          rw [AList.lookup_insert] at hc
          cases hc
          rw [if_pos rfl, if_pos rfl] at hlive
          have hstep := hmove.processingCount
          exact ⟨by omega, hmove.held hheld⟩
        · rw [AList.lookup_insert_ne hcb] at hc
          rw [if_neg (Ne.symm hcb), if_neg (Ne.symm hcb)] at hlive
          have hother := hw.1 c other hc
          exact ⟨by omega, hother.2⟩
      · intro c hc
        have hlive := hlive c
        rw [hbatches, AList.mem_insert, not_or] at hc
        have hcb : b ≠ c := fun heq => hc.1 heq.symm
        rw [if_neg hcb, if_neg hcb] at hlive
        have hzero := hw.2 c hc.2
        omega

theorem counted_next {op : BatchOp} (hw : w.Counted) (hop : w.Proper op) :
    (machine.next w op).Counted := by
  obtain ⟨what, hdid⟩ := perform_did hw hop
  exact counted_of_effect hw hdid.effect

section Put

variable {c : Addr} {batch batch' : DataBatch}

theorem put_lookup_self : (w.put b batch).batches.lookup b = some batch :=
  AList.lookup_insert _

theorem put_lookup_ne (hc : c ≠ b) :
    (w.put b batch).batches.lookup c = w.batches.lookup c :=
  AList.lookup_insert_ne hc

theorem mem_put : c ∈ (w.put b batch).batches ↔ c = b ∨ c ∈ w.batches :=
  AList.mem_insert _

theorem lookup_bind_put {α : Type} (f : DataBatch → Option α) (w : BatchWorld)
    (b : Addr) (batch : DataBatch) (c : Addr) :
    ((w.put b batch).batches.lookup c).bind f =
      if c = b then f batch else (w.batches.lookup c).bind f := by
  by_cases hc : c = b
  · rw [if_pos hc, hc, put_lookup_self, Option.bind_some]
  · rw [if_neg hc, put_lookup_ne hc]

/-- A call of a client leaves alone what no edge changes. -/
theorem lookup_bind_of_effect {α : Type} {f : DataBatch → Option α}
    (hf : ∀ {b b' : DataBatch} {e : Event} {loud : Bool}, Move b e loud b' →
      f b' = f b)
    (h : Effect w w' notify what) (c : Addr) :
    (w'.batches.lookup c).bind f = (w.batches.lookup c).bind f := by
  cases h with
  | stays hbatches _ _ => rw [hbatches]
  | @moves b _ _ batch batch' hb hmove hbatches _ _ =>
      rw [hbatches]
      by_cases hc : c = b
      · rw [hc, AList.lookup_insert, hb, Option.bind_some, Option.bind_some, hf hmove]
      · rw [AList.lookup_insert_ne hc]

/-- A batch is written whose count is right. -/
theorem Counted.put_of (hw : w.Counted) {batch' : DataBatch}
    (hcount : batch'.processingCount = w.liveHandles b) (hheld : batch'.Held) :
    (w.put b batch').Counted := by
  constructor
  · intro c other hc
    by_cases hcb : c = b
    · subst hcb
      rw [put_lookup_self] at hc
      cases hc
      exact ⟨hcount, hheld⟩
    · rw [put_lookup_ne hcb] at hc
      exact hw.1 c other hc
  · intro c hc
    rw [mem_put, not_or] at hc
    exact hw.2 c hc.2

/-- What else is in a batch is no business of the counts. -/
theorem Counted.put (hw : w.Counted) (hb : w.batches.lookup b = some batch)
    (batch' : DataBatch)
    (hcount : batch'.processingCount = batch.processingCount)
    (hstate : batch'.state = batch.state) :
    (w.put b batch').Counted := by
  obtain ⟨hlive, hheld⟩ := hw.1 b batch hb
  refine hw.put_of (hcount.trans hlive) ?_
  unfold DataBatch.Held at hheld ⊢
  rw [hcount, hstate]
  exact hheld

/-- Nor is a new batch. -/
theorem Counted.put_new (hw : w.Counted) (hb : b ∉ w.batches)
    (batch : DataBatch)
    (hzero : batch.processingCount = 0) :
    (w.put b batch).Counted := by
  refine hw.put_of (hzero.trans (hw.2 b hb).symm) ?_
  intro hpos
  omega

end Put

/-- The tasks that wait for the batch at `b`. -/
def pending (w : BatchWorld) (b : Addr) : Nat :=
  match w.batches.lookup b with
  | none => 0
  | some batch => batch.taskCreatedCount

theorem pending_of_effect (h : Effect w w' notify what) (c : Addr) :
    w'.pending c + (tick what c .cancelled + tick what c .locked) =
      w.pending c + tick what c .created := by
  cases h with
  | stays hbatches _ _ => simp only [pending, hbatches, tick_none, Nat.add_zero]
  | @moves b e loud batch batch' hb hmove hbatches _ _ =>
      have hstep := hmove.taskCreatedCount
      by_cases hcb : c = b
      · subst hcb
        simp only [pending, hbatches, AList.lookup_insert, hb]
        cases hmove <;>
          simp only [tick, Event.starts, Event.ends, reduceCtorEq, if_true,
            if_false, Option.some.injEq, Prod.mk.injEq, and_false] at * <;>
          omega
      · have htick : ∀ e', tick (some (b, e)) c e' = 0 := fun e' =>
          if_neg fun heq => hcb (Prod.mk.inj (Option.some.inj heq)).1.symm
        simp only [pending, hbatches, AList.lookup_insert_ne hcb, htick]

theorem pending_next {op : BatchOp} (hw : w.Counted) (hop : w.Proper op)
    (c : Addr) :
    (machine.next w op).pending c + (w.cancels c op + w.locks c op) =
      w.pending c + w.creates c op := by
  obtain ⟨what, hdid⟩ := perform_did hw hop
  rw [hdid.cancels, hdid.locks, hdid.creates]
  exact pending_of_effect hdid.effect c

/-- What the handles promise in one state. -/
structure HandlesExact (w : BatchWorld) : Prop where
  counted : ∀ b batch, w.batches.lookup b = some batch →
    batch.processingCount = w.liveHandles b
  /-- a valid handle is on a batch that is processing and lets it go without
  throwing -/
  held : ∀ h b, w.handles.lookup h = some (some b) →
    ∃ batch, w.batches.lookup b = some batch ∧ batch.state = .processing ∧
      batch.decrementProcessingCount.result = .ok ()
  exclusive : ∀ b batch, w.batches.lookup b = some batch →
    batch.state = .inTransit → ∀ h, w.handles.lookup h ≠ some (some b)

theorem handlesExact_of_counted (hw : w.Counted) : w.HandlesExact := by
  have hheld : ∀ h b, w.handles.lookup h = some (some b) →
      ∃ batch, w.batches.lookup b = some batch ∧ batch.state = .processing ∧
        batch.decrementProcessingCount.result = .ok () := by
    intro h b hh
    have hpos : 0 < w.liveHandles b := AList.owners_pos hh
    have hmem : b ∈ w.batches := by
      by_contra hno
      have hzero := hw.2 b hno
      omega
    obtain ⟨batch, hb⟩ := AList.exists_lookup hmem
    obtain ⟨hcount, hprocessing⟩ := hw.1 b batch hb
    exact ⟨batch, hb, hprocessing (by omega),
      decrement_of_held hprocessing (by omega)⟩
  refine ⟨fun b batch hb => (hw.1 b batch hb).1, hheld, ?_⟩
  intro b batch hb hstate h hh
  obtain ⟨batch', hb', hprocessing, -⟩ := hheld h b hh
  rw [hb] at hb'
  cases hb'
  rw [hstate] at hprocessing
  cases hprocessing

/-- In every run of the clients from fresh batches, handles and processing
counts agree in each state, and the tasks that wait at its end are those
created less those cancelled and those locked. -/
theorem always_handlesExact {ops : List BatchOp} (hs : machine.start w)
    (hlaw : machine.Lawful w ops) :
    machine.Always HandlesExact w ops ∧
      ∀ b batch, (machine.run w ops).batches.lookup b = some batch →
        batch.taskCreatedCount + machine.tally (cancels b) w ops +
          machine.tally (locks b) w ops = machine.tally (creates b) w ops := by
  have hcounted : w.Counted := counted_of_fresh hs
  have hstep : ∀ w op, w.Counted → w.Proper op → (machine.next w op).Counted :=
    fun w op => counted_next
  constructor
  · exact (Machine.always_of_lawful hstep hcounted hlaw).mono
      fun _ => handlesExact_of_counted
  · intro b batch hb
    have hlevel := Machine.level_add_tally (M := machine) (pending · b)
      (f := creates b) (g := fun w op => cancels b w op + locks b w op) hstep
      (fun w op hw hop => pending_next hw hop b) hcounted hlaw
    have hzero : w.pending b = 0 := by
      unfold pending
      split
      · rfl
      · next other hother =>
          obtain ⟨id, data, cv, rfl⟩ := hs.2 b other hother
          rfl
    rw [Machine.tally_add, hzero] at hlevel
    simp only [pending, hb] at hlevel
    omega

/-- Two batches, of which the second has lost its data. -/
def twoBatches : BatchWorld :=
  ⟨((∅ : Table Addr DataBatch).insert 1 (.create 7 (some ⟨16, ⟨.GPU, 0⟩⟩))).insert 2
    (.create 8 none), ∅⟩

theorem fresh_twoBatches : twoBatches.Fresh :=
  ⟨rfl, AList.All.insert (AList.All.insert AList.all_empty ⟨7, _, none, rfl⟩)
    ⟨8, none, none, rfl⟩⟩

/-- Handles passed from one to another and let go while tasks come and go and
the batch leaves for another tier. -/
def handleCalls : List BatchOp :=
  [.tryToCreateTask 1, .tryToCreateTask 1, .tryToCreateTask 2,
    .tryToLockForProcessing 1 ⟨.GPU, 0⟩ 100, .tryToLockForProcessing 2 ⟨.GPU, 0⟩ 101,
    .tryToLockForProcessing 1 ⟨.GPU, 0⟩ 102, .moveConstruct 103 100,
    .tryToLockForInTransit 1, .release 102, .moveAssign 102 103, .release 103,
    .tryToCreateTask 1, .destroy 102, .tryToLockForInTransit 1,
    .tryToReleaseInTransit 1 none, .tryToCancelTask 1, .destroy 101]

theorem always_handlesExact_handleCalls :
    machine.Always HandlesExact twoBatches handleCalls :=
  (always_handlesExact fresh_twoBatches
    (show machine.Every Proper _ _ by decide)).1

end BatchWorld

end CuCascade.Data

import CuCascade.Data.TableWorld
import CuCascade.Proofs.DataStability
import CuCascade.Proofs.TableStore

/-!
# Batches have their tables

The data of each batch is in the store, and no two batches have the same, so what is
destroyed for one batch is nothing to another. A conversion puts a copy of the table in
the place of the data. It follows that a batch that is given no other data has its table,
wherever it is converted to and whatever happens to other batches and in the host spaces.
-/

namespace CuCascade.Data

open Memory

/-! ## What becomes of the tables of the store -/

namespace TableStore

variable {T : Type} {cudf : Cudf T} {ndebug : Bool} {w w' w'' : TableStore T}
  {t t' t'' : Shelf T} {gone gone' : Addr → Prop} {i j src : Addr} {op : StoreOp T}
  {data : Representation}

/-- Tables stay where they are, but for those that are gone. -/
structure Follows (cudf : Cudf T) (w : TableStore T) (t : Shelf T) (w' : TableStore T)
    (t' : Shelf T) (gone : Addr → Prop) : Prop where
  shows : Shows cudf w' t'
  tables : ∀ j ∈ w.tables, ¬gone j → w'.tables.lookup j = w.tables.lookup j
  shelf : ∀ j ∈ t, ¬gone j → t'.lookup j = t.lookup j

theorem Shows.follows (hw : Shows cudf w t) : Follows cudf w t w t fun _ => False where
  shows := hw
  tables _ _ _ := rfl
  shelf _ _ _ := rfl

theorem Follows.trans (h : Follows cudf w t w' t' gone)
    (h' : Follows cudf w' t' w'' t'' gone') :
    Follows cudf w t w'' t'' fun j => gone j ∨ gone' j where
  shows := h'.shows
  tables j hj hgone := by
    have hsame := h.tables j hj fun hj' => hgone (.inl hj')
    have hj' : j ∈ w'.tables := by
      rw [← AList.lookup_isSome, hsame, AList.lookup_isSome]
      exact hj
    exact (h'.tables j hj' fun hj'' => hgone (.inr hj'')).trans hsame
  shelf j hj hgone := by
    have hsame := h.shelf j hj fun hj' => hgone (.inl hj')
    have hj' : j ∈ t' := by
      rw [← AList.lookup_isSome, hsame, AList.lookup_isSome]
      exact hj
    exact (h'.shelf j hj' fun hj'' => hgone (.inr hj'')).trans hsame

theorem convertToHost_tables {s : StoredTable T} {host : Nat}
    {upstream : Nat → UInt64 → Except Exception Addr} {out : Except Failure (StoredTable T)}
    (h : w.convertToHost cudf ndebug s host upstream = some (w', out)) :
    w'.tables = w.tables := by
  unfold TableStore.convertToHost at h
  split at h
  · obtain ⟨⟨space, result⟩, -, hout⟩ := Option.map_eq_some_iff.mp h
    cases hout
    rfl
  · cases h
    rfl

theorem atHost_tables (w : TableStore T) (k : Nat) (f : SharedHost → SharedHost) :
    (w.atHost k f).tables = w.tables := by
  unfold TableStore.atHost
  split <;> rfl

/-- A call leaves each table where it is, unless it destroys it. -/
theorem lookup_next (hop : w.Proper op) (hj : j ∈ w.tables) (hgone : j ∉ op.destroyed) :
    (w.next cudf ndebug op).tables.lookup j = w.tables.lookup j := by
  have hne : ∀ i, i ∉ w.tables → j ≠ i := fun i hi heq => hi (heq ▸ hj)
  cases op with
  | create i table gpu => exact AList.lookup_insert_ne (hne i hop)
  | toHost src i host upstream =>
      simp only [TableStore.next]
      split
      · rfl
      · next w' e hcall =>
          obtain ⟨s, -, hs⟩ := Option.bind_eq_some_iff.mp hcall
          rw [convertToHost_tables hs]
      · next w' s hcall =>
          obtain ⟨s', -, hs⟩ := Option.bind_eq_some_iff.mp hcall
          rw [AList.lookup_insert_ne (hne i hop), convertToHost_tables hs]
  | toGpu src i gpu allocator =>
      simp only [TableStore.next]
      split
      · exact AList.lookup_insert_ne (hne i hop)
      · rfl
  | destroy i =>
      have hji : j ≠ i := fun heq => hgone (heq ▸ rfl)
      simp only [TableStore.next, destroy]
      split
      · rfl
      · exact AList.lookup_erase_ne hji
      · exact AList.lookup_erase_ne hji
  | allocate host totalBytes res upstream =>
      exact congrArg (AList.lookup j) (atHost_tables w host _)
  | write host id contents => exact congrArg (AList.lookup j) (atHost_tables w host _)
  | call host op => exact congrArg (AList.lookup j) (atHost_tables w host _)

/-- The same on the shelf. -/
theorem lookup_amounts (hw : Shows cudf w t) (hop : w.Proper op) (hj : j ∈ t)
    (hgone : j ∉ op.destroyed) :
    (Shelf.machine.run t (w.amounts cudf ndebug op)).lookup j = t.lookup j := by
  have hne : ∀ i, i ∉ w.tables → j ≠ i := fun i hi heq => hi ((hw.same i).mpr (heq ▸ hj))
  have hcopy : ∀ src i, i ∉ w.tables →
      (Shelf.machine.run t [.copy src i]).lookup j = t.lookup j := by
    intro src i hi
    show (Shelf.next t (.copy src i)).lookup j = _
    simp only [Shelf.next]
    cases t.lookup src with
    | none => rfl
    | some table => exact AList.lookup_insert_ne (hne i hi)
  cases op with
  | create i table gpu => exact AList.lookup_insert_ne (hne i hop)
  | toHost src i host upstream =>
      simp only [amounts]
      split
      · exact hcopy src i hop
      · rfl
  | toGpu src i gpu allocator =>
      simp only [amounts]
      split
      · exact hcopy src i hop
      · rfl
  | destroy i =>
      simp only [amounts]
      split
      · exact AList.lookup_erase_ne fun heq => hgone (heq ▸ rfl)
      · rfl
  | allocate host totalBytes res upstream => rfl
  | write host id contents => rfl
  | call host op => rfl

theorem Shows.follows_next (ndebug : Bool) (hcudf : cudf.Faithful)
    (hw : Shows cudf w t) (hop : w.Proper op) :
    Follows cudf w t (w.next cudf ndebug op)
      (Shelf.machine.run t (w.amounts cudf ndebug op)) (· ∈ op.destroyed) where
  shows := (hw.next hcudf hop).2
  tables _ hj hgone := lookup_next hop hj hgone
  shelf _ hj hgone := lookup_amounts hw hop hj hgone

/-- What is destroyed is the table of this representation. -/
theorem Shows.follows_discard (hcudf : cudf.Faithful)
    (hw : Shows cudf w t) (data : Option Representation) :
    ∃ t', Follows cudf w t (w.discard data) t' fun j => ∃ r ∈ data, r.object = j := by
  cases data with
  | none =>
      refine ⟨t, hw, fun _ _ _ => rfl, fun _ _ _ => rfl⟩
  | some r =>
      have hop : w.Proper (.destroy r.object) := trivial
      obtain ⟨hshows, htables, hshelf⟩ := hw.follows_next true hcudf hop
      refine ⟨_, hshows, fun j hj hgone => htables j hj ?_, fun j hj hgone => hshelf j hj ?_⟩
      · intro hj'
        exact hgone ⟨r, rfl, Option.some.inj hj'⟩
      · intro hj'
        exact hgone ⟨r, rfl, Option.some.inj hj'⟩

/-- A call of a converter, on what is at `src`, for what is to be at `i`. -/
inductive Converts (src i : Addr) : StoreOp T → Prop where
  | toHost (host : Nat) (upstream : Nat → UInt64 → Except Exception Addr) :
      Converts src i (.toHost src i host upstream)
  | toGpu (gpu : MemorySpaceId) (allocator : UInt64 → Except Exception (Nat → UInt8)) :
      Converts src i (.toGpu src i gpu allocator)

theorem Converts.proper (hop : Converts src i op) (hi : i ∉ w.tables) :
    w.Proper op ∧ op.destroyed = none := by
  cases hop with
  | toHost host upstream => exact ⟨hi, rfl⟩
  | toGpu gpu allocator => exact ⟨hi, rfl⟩

/-- What a conversion has put at `i` is a copy. -/
theorem lookup_copied (hop : Converts src i op) (hsrc : src ∈ t)
    (hi : i ∈ (w.next cudf ndebug op).tables) :
    (Shelf.machine.run t (w.amounts cudf ndebug op)).lookup i = t.lookup src := by
  have hcopy : (Shelf.machine.run t [.copy src i]).lookup i = t.lookup src := by
    obtain ⟨table, htable⟩ := AList.exists_lookup hsrc
    show (Shelf.next t (.copy src i)).lookup i = _
    simp only [Shelf.next, htable, Option.map_some, Option.getD_some]
    exact AList.lookup_insert t
  cases hop with
  | toHost host upstream =>
      simp only [amounts, if_pos hi]
      exact hcopy
  | toGpu gpu allocator =>
      simp only [amounts, if_pos hi]
      exact hcopy

theorem representation_of_follows (h : Follows cudf w t w' t' gone)
    (hgone : ¬gone j) (hdata : w.representation j = some data) :
    w'.representation j = some data := by
  obtain ⟨s, hs, rfl⟩ := Option.map_eq_some_iff.mp hdata
  unfold representation
  rw [h.tables j (AList.mem_of_lookup hs) hgone, hs, Option.map_some]

theorem object_of_representation (hdata : w.representation j = some data) :
    data.object = j ∧ j ∈ w.tables := by
  obtain ⟨s, hs, rfl⟩ := Option.map_eq_some_iff.mp hdata
  exact ⟨rfl, AList.mem_of_lookup hs⟩

end TableStore

/-! ## Batches and the store -/

namespace TableWorld

open TableStore

variable {T : Type} {cudf : Cudf T} {ndebug : Bool} {w : TableWorld T} {t t' : Shelf T}
  {clients : DataWorld} {store : TableStore T} {gone : Addr → Prop} {b c i : Addr}
  {data data' : Representation} {batch : DataBatch}

/-- Batches own their data alone, and it is in the store. -/
structure Consistent (cudf : Cudf T) (w : TableWorld T) (t : Shelf T) : Prop where
  clients : w.clients.Sound
  shows : w.store.Shows cudf t
  placed : ∀ b data, w.dataOf b = some data → w.store.representation data.object = some data

/-- The table that a batch has. -/
def tableOf (w : TableWorld T) (t : Shelf T) (b : Addr) : Option T :=
  (w.dataOf b).bind fun data => t.lookup data.object

/-- What batches own afterwards they owned before, or it is in the store. -/
theorem Consistent.step (h : w.Consistent cudf t) (hclients : clients.Sound)
    (hf : Follows cudf w.store t store t' gone)
    (hdata : ∀ c data, clients.clients.dataOf c = some data →
      (∃ c', w.dataOf c' = some data ∧ ¬gone data.object) ∨
        store.representation data.object = some data) :
    Consistent cudf ⟨clients, store⟩ t' where
  clients := hclients
  shows := hf.shows
  placed c data hc := by
    rcases hdata c data hc with ⟨c', hold, hgone⟩ | hnew
    · exact representation_of_follows hf hgone (h.placed c' data hold)
    · exact hnew

/-- A batch that keeps its data has its table. -/
theorem Consistent.tableOf_step (h : w.Consistent cudf t)
    (hf : Follows cudf w.store t store t' gone)
    (hsame : clients.clients.dataOf b = w.dataOf b)
    (hgone : ∀ data, w.dataOf b = some data → ¬gone data.object) :
    tableOf ⟨clients, store⟩ t' b = w.tableOf t b := by
  show (clients.clients.dataOf b).bind _ = _
  rw [hsame, tableOf]
  cases hb : w.dataOf b with
  | none => rfl
  | some data =>
      have hmem := (object_of_representation (h.placed b data hb)).2
      exact hf.shelf data.object ((h.shows.same _).mp hmem) (hgone data hb)

/-- What is loose is the data of no batch. -/
theorem Consistent.ne_of_loose (h : w.Consistent cudf t) (hi : w.Loose i)
    (hb : w.dataOf b = some data) : data.object ≠ i := by
  intro heq
  have hplaced := h.placed b data hb
  rw [heq] at hplaced
  obtain ⟨batch, hbatch, hdata⟩ := Option.bind_eq_some_iff.mp hb
  exact hi b batch hbatch data hplaced data hdata rfl

theorem dataOf_eq (hb : w.batches.lookup b = some batch) : w.dataOf b = batch.data :=
  BatchWorld.dataOf_eq hb

theorem dataOf_onBatch (hb : w.batches.lookup b = some batch)
    (method : DataBatch → Outcome Unit) (c : Addr) :
    (w.clients.onBatch b method).clients.dataOf c =
      if c = b then (method batch).batch.data else w.dataOf c := by
  have hstore : (w.clients.onBatch b method).clients =
      w.clients.clients.put b (method batch).batch := by
    simp only [DataWorld.onBatch, BatchWorld.onBatch, BatchWorld.call_eq method hb]
    rfl
  rw [hstore]
  exact BatchWorld.dataOf_put w.clients.clients b _ c

theorem liveHandles_eq (h : w.Consistent cudf t) (hb : w.batches.lookup b = some batch) :
    w.clients.clients.liveHandles b = batch.processingCount :=
  ((h.clients.counted.1 b batch hb).1).symm

/-- Each batch owns what it owned before. -/
theorem Consistent.idle (h : w.Consistent cudf t) (hclients : clients.Sound)
    (hf : Follows cudf w.store t store t' gone)
    (hdata : ∀ c, clients.clients.dataOf c = w.dataOf c)
    (hgone : ∀ c data, w.dataOf c = some data → ¬gone data.object) :
    Consistent cudf ⟨clients, store⟩ t' ∧ ∀ c, tableOf ⟨clients, store⟩ t' c = w.tableOf t c := by
  refine ⟨h.step hclients hf fun c data hc => ?_, fun c => h.tableOf_step hf (hdata c) (hgone c)⟩
  rw [hdata] at hc
  exact .inl ⟨c, hc, hgone c data hc⟩

/-- The data of one batch is replaced, and what is gone may be the data that it had. -/
theorem Consistent.replace (h : w.Consistent cudf t) (hclients : clients.Sound)
    (hf : Follows cudf w.store t store t' gone) {new : Option Representation}
    (hdata : ∀ c, clients.clients.dataOf c = if c = b then new else w.dataOf c)
    (hgone : ∀ j, gone j → ∃ r, w.dataOf b = some r ∧ r.object = j)
    (hnew : ∀ r ∈ new, store.representation r.object = some r) :
    Consistent cudf ⟨clients, store⟩ t' ∧
      ∀ c ≠ b, tableOf ⟨clients, store⟩ t' c = w.tableOf t c := by
  have hothers : ∀ c data, c ≠ b → w.dataOf c = some data → ¬gone data.object := by
    intro c data hcb hc hj
    obtain ⟨r, hr, heq⟩ := hgone data.object hj
    exact hcb (h.clients.owned c b data r hc hr heq.symm)
  constructor
  · refine h.step hclients hf fun c data hc => ?_
    rw [hdata] at hc
    split at hc
    · exact .inr (hnew data hc)
    · next hcb => exact .inl ⟨c, hc, hothers c data hcb hc⟩
  · intro c hcb
    exact h.tableOf_step hf ((hdata c).trans (if_neg hcb)) fun data => hothers c data hcb

/-- A step after which the batches of `leaves` have the tables that they had. -/
def Steps (cudf : Cudf T) (w : TableWorld T) (t : Shelf T) (leaves : Addr → Prop)
    (w' : TableWorld T) : Prop :=
  ∃ t', w'.Consistent cudf t' ∧ ∀ c table, leaves c → w.tableOf t c = some table →
    w'.tableOf t' c = some table

theorem Consistent.steps {leaves : Addr → Prop} {w' : TableWorld T}
    (h : w'.Consistent cudf t') (hsame : ∀ c, leaves c → w'.tableOf t' c = w.tableOf t c) :
    Steps cudf w t leaves w' :=
  ⟨t', h, fun c _ hc htable => (hsame c hc).trans htable⟩

theorem Steps.mono {leaves leaves' : Addr → Prop} {w' : TableWorld T}
    (h : Steps cudf w t leaves w') (hle : ∀ c, leaves' c → leaves c) :
    Steps cudf w t leaves' w' := by
  obtain ⟨t', hconsistent, hsame⟩ := h
  exact ⟨t', hconsistent, fun c table hc => hsame c table (hle c hc)⟩

/-! ## Data that is given -/

/-- A client that gives a representation to a batch owns it alone. -/
theorem Consistent.given (h : w.Consistent cudf t) {i : Option Addr}
    (hi : ∀ j ∈ i, w.Loose j) :
    ∀ r ∈ i.bind w.store.representation, w.store.representation r.object = some r ∧
      ∀ c data, w.dataOf c = some data → data.object ≠ r.object := by
  intro r hr
  obtain ⟨j, hj, hrep⟩ := Option.bind_eq_some_iff.mp hr
  obtain ⟨rfl, -⟩ := object_of_representation hrep
  exact ⟨hrep, fun c data hc => h.ne_of_loose (hi _ hj) hc⟩

section Given

variable {new : Option Representation}
  (hgiven : ∀ r ∈ new, w.store.representation r.object = some r ∧
    ∀ c data, w.dataOf c = some data → data.object ≠ r.object)

include hgiven

theorem Consistent.sound_setData (h : w.Consistent cudf t)
    (hbatch : w.batches.lookup b = some batch) :
    (w.clients.next (.setData b new)).Sound := by
  have hunowned : w.clients.clients.Unowned new := by
    intro c batch' hc r hr r' hr' heq
    exact (hgiven r hr).2 c r' ((dataOf_eq hc).trans hr') heq.symm
  exact DataWorld.sound_next h.clients ⟨AList.mem_of_lookup hbatch, hunowned⟩ trivial

/-- The batch takes the new data, and its old data is destroyed. -/
theorem Consistent.setData_free (hcudf : cudf.Faithful) (h : w.Consistent cudf t)
    (hbatch : w.batches.lookup b = some batch) (hcount : batch.processingCount = 0) :
    Steps cudf w t (fun c => c ≠ b) (w.setData b new) := by
  have hset : batch.setData new = DataBatch.quiet { batch with data := new } (.ok ()) :=
    if_neg (not_not.mpr hcount)
  have hnext : w.setData b new =
      ⟨w.clients.next (.setData b new), w.store.discard batch.data⟩ := by
    simp only [TableWorld.setData, hbatch, hset]
    rfl
  have hdata := dataOf_onBatch hbatch (·.setData new)
  rw [hset] at hdata
  obtain ⟨t', hf⟩ := h.shows.follows_discard hcudf batch.data
  have hgone : ∀ j, (∃ r ∈ batch.data, r.object = j) →
      ∃ r, w.dataOf b = some r ∧ r.object = j := by
    intro j hj
    obtain ⟨r, hr, heq⟩ := hj
    exact ⟨r, (dataOf_eq hbatch).trans hr, heq⟩
  have hnew : ∀ r ∈ new, (w.store.discard batch.data).representation r.object = some r := by
    intro r hr
    obtain ⟨hrep, hothers⟩ := hgiven r hr
    refine representation_of_follows hf (fun hj => ?_) hrep
    obtain ⟨r', hr', heq⟩ := hgone _ hj
    exact hothers b r' hr' heq
  obtain ⟨hconsistent, hsame⟩ :=
    h.replace (h.sound_setData hgiven hbatch) hf hdata hgone hnew
  rw [hnext]
  exact hconsistent.steps hsame

/-- The batch is processed and refuses. What it was given is destroyed. -/
theorem Consistent.setData_locked (hcudf : cudf.Faithful) (h : w.Consistent cudf t)
    (hbatch : w.batches.lookup b = some batch) (hcount : batch.processingCount ≠ 0) :
    Steps cudf w t (fun _ => True) (w.setData b new) := by
  have hnext : w.setData b new =
      ⟨w.clients.next (.setData b new), w.store.discard new⟩ := by
    simp only [TableWorld.setData, hbatch, DataBatch.setData, if_pos hcount]
    rfl
  have hsame : (batch.setData new).batch = batch := by
    unfold DataBatch.setData
    rw [if_pos hcount]
    rfl
  have hdata : ∀ c, (w.clients.next (.setData b new)).clients.dataOf c = w.dataOf c := by
    intro c
    refine (dataOf_onBatch hbatch (·.setData new) c).trans ?_
    rw [hsame]
    split
    · next hc => rw [hc, dataOf_eq hbatch]
    · rfl
  obtain ⟨t', hf⟩ := h.shows.follows_discard hcudf new
  have hgone : ∀ c data, w.dataOf c = some data → ¬∃ r ∈ new, r.object = data.object := by
    intro c data hc hgone
    obtain ⟨r, hr, heq⟩ := hgone
    exact (hgiven r hr).2 c data hc heq.symm
  obtain ⟨hconsistent, hsame⟩ := h.idle (h.sound_setData hgiven hbatch) hf hdata hgone
  rw [hnext]
  exact hconsistent.steps fun c _ => hsame c

theorem Consistent.setData (hcudf : cudf.Faithful) (h : w.Consistent cudf t)
    (hb : b ∈ w.batches) :
    Steps cudf w t (fun c => b ≠ c ∨ w.clients.clients.liveHandles c ≠ 0)
      (w.setData b new) := by
  obtain ⟨batch, hbatch⟩ := AList.exists_lookup hb
  by_cases hcount : batch.processingCount = 0
  · refine (h.setData_free hgiven hcudf hbatch hcount).mono fun c hleaves hcb => ?_
    subst hcb
    rcases hleaves with hne | hlive
    · exact hne rfl
    · exact hlive ((liveHandles_eq h hbatch).trans hcount)
  · exact (h.setData_locked hgiven hcudf hbatch hcount).mono fun _ _ => trivial

end Given

/-! ## Data that is converted -/

/-- A converter has made a copy, which takes the place of what it is a copy of. -/
theorem Consistent.converted (hcudf : cudf.Faithful)
    (h : w.Consistent cudf t) (hbatch : w.batches.lookup b = some batch)
    (hcount : batch.processingCount = 0) (hold : batch.data = some data)
    (hi : i ∉ w.store.tables) (hf : Follows cudf w.store t store t' gone)
    (hnone : ∀ j, ¬gone j) {made : Representation}
    (hmade : store.representation i = some made)
    (hcopy : t'.lookup i = t.lookup data.object) :
    Steps cudf w t (fun _ => True)
      ⟨w.clients.next (.convertTo b (.ok (some made))), store.destroy data.object⟩ := by
  obtain ⟨rfl, hmem⟩ := object_of_representation hmade
  have hdata : w.dataOf b = some data := (dataOf_eq hbatch).trans hold
  have hne : data.object ≠ made.object := fun heq =>
    hi (heq ▸ (object_of_representation (h.placed b data hdata)).2)
  have hunowned : ∀ new ∈ some (some made), w.clients.clients.Unowned new := by
    intro new hnew c batch' hc r hr r' hr' heq
    have hplaced := h.placed c r' ((dataOf_eq hc).trans hr')
    rw [← Option.some.inj hnew, Option.mem_some] at hr
    rw [hr, heq] at hi
    exact hi (object_of_representation hplaced).2
  have hsound : (w.clients.next (.convertTo b (.ok (some made)))).Sound :=
    DataWorld.sound_next h.clients ⟨AList.mem_of_lookup hbatch, hunowned⟩ trivial
  have hbatch' : (batch.convertTo fun _ => .ok (some made)).batch =
      { batch with data := some made } := by
    unfold DataBatch.convertTo
    rw [if_neg (not_not.mpr hcount), hold]
    rfl
  have hnext := dataOf_onBatch hbatch fun b => b.convertTo fun _ => .ok (some made)
  rw [hbatch'] at hnext
  obtain ⟨t'', hf'⟩ := hf.shows.follows_discard hcudf (some data)
  have hkept : ¬∃ r ∈ some data, r.object = made.object := by
    intro hgone
    obtain ⟨r, hr, heq⟩ := hgone
    rw [← Option.some.inj hr] at heq
    exact hne heq
  have hgone : ∀ j, (gone j ∨ ∃ r ∈ some data, r.object = j) →
      ∃ r, w.dataOf b = some r ∧ r.object = j := by
    intro j hj
    rcases hj with hj | ⟨r, hr, heq⟩
    · exact absurd hj (hnone j)
    · exact ⟨r, hdata.trans hr, heq⟩
  have hnew : ∀ r ∈ some made, (store.destroy data.object).representation r.object = some r := by
    intro r hr
    rw [← Option.some.inj hr]
    exact representation_of_follows hf' hkept hmade
  obtain ⟨hconsistent, hsame⟩ := h.replace hsound (hf.trans hf') hnext hgone hnew
  refine hconsistent.steps fun c _ => ?_
  by_cases hcb : c = b
  · have hlookup : t''.lookup made.object = t.lookup data.object :=
      (hf'.shelf made.object ((hf.shows.same _).mp hmem) hkept).trans hcopy
    have hdata' : (w.clients.next (.convertTo b (.ok (some made)))).clients.dataOf b =
        some made := (hnext b).trans (if_pos rfl)
    rw [hcb]
    show ((w.clients.next (.convertTo b (.ok (some made)))).clients.dataOf b).bind _ =
      (w.dataOf b).bind _
    rw [hdata', hdata]
    exact hlookup
  · exact hsame c hcb

theorem Consistent.convertTo (hcudf : cudf.Faithful)
    (h : w.Consistent cudf t) (hb : b ∈ w.batches) (hi : i ∉ w.store.tables)
    {convert : Addr → StoreOp T} (hconvert : ∀ src, Converts src i (convert src)) :
    Steps cudf w t (fun _ => True) (w.convertTo cudf ndebug b i convert) := by
  obtain ⟨batch, hbatch⟩ := AList.exists_lookup hb
  unfold TableWorld.convertTo
  simp only [hbatch]
  split
  · exact h.steps fun _ _ => rfl
  · next data hdata =>
      obtain ⟨hcount, hdata⟩ : batch.processingCount = 0 ∧ batch.data = some data := by
        split at hdata
        · next hcount => exact ⟨hcount, hdata⟩
        · cases hdata
      obtain ⟨hproper, hnone⟩ := (hconvert data.object).proper hi
      have hf := h.shows.follows_next ndebug hcudf hproper
      rw [hnone] at hf
      split
      · -- the converter has thrown
        obtain ⟨hconsistent, hsame⟩ := h.idle h.clients hf (fun _ => rfl) fun _ _ _ =>
          Option.not_mem_none _
        exact hconsistent.steps fun c _ => hsame c
      · next made hmade =>
          have hsrc := (object_of_representation
            (h.placed b data ((dataOf_eq hbatch).trans hdata))).2
          have hcopy := lookup_copied (hconvert data.object) ((h.shows.same _).mp hsrc)
            (object_of_representation hmade).2
          exact h.converted hcudf hbatch hcount hdata hi hf Option.not_mem_none hmade hcopy

/-! ## Data that is moved -/

/-- A batch that cannot be moved loses its data, and nothing else happens. -/
theorem sound_moveConstruct_locked {w : DataWorld} {b src : Addr} {other : DataBatch}
    (hw : w.Sound) (hother : w.clients.batches.lookup src = some other)
    (hlive : w.clients.liveHandles src ≠ 0) : (w.next (.moveConstruct b src)).Sound ∧
      ∀ c, (w.next (.moveConstruct b src)).clients.dataOf c =
        if c = src then none else w.clients.dataOf c := by
  rw [DataWorld.moveConstruct_locked hw hother hlive]
  have hdata : ∀ c, (w.put src { other with data := none }).clients.dataOf c =
      if c = src then none else w.clients.dataOf c := BatchWorld.dataOf_put w.clients src _
  refine ⟨⟨hw.counted.put hother _ rfl rfl, ?_, hw.seen⟩, hdata⟩
  intro c d r r' hc hd heq
  rw [hdata] at hc hd
  split at hc
  · cases hc
  · split at hd
    · cases hd
    · exact hw.owned c d r r' hc hd heq

section Moves

variable {src dst : Addr} {this other : DataBatch}

/-- The new batch has the data of the other. -/
theorem Consistent.moveConstruct_free (h : w.Consistent cudf t) (hb : b ∉ w.batches)
    (hother : w.batches.lookup src = some other)
    (hlive : w.clients.clients.liveHandles src = 0) :
    Steps cudf w t (fun c => src ≠ c) (w.moveConstruct b src) := by
  have hcount : other.processingCount = 0 := (liveHandles_eq h hother).symm.trans hlive
  have hnext : w.moveConstruct b src =
      { w with clients := w.clients.next (.moveConstruct b src) } := by
    simp only [TableWorld.moveConstruct, hother, DataBatch.moveConstruct,
      if_neg (not_not.mpr hcount)]
  have hsound : (w.clients.next (.moveConstruct b src)).Sound :=
    DataWorld.sound_next h.clients ⟨hb, AList.mem_of_lookup hother⟩ hlive
  have hdata : ∀ c, (w.clients.next (.moveConstruct b src)).clients.dataOf c =
      if c = b then other.data else if c = src then none else w.dataOf c := by
    intro c
    rw [DataWorld.moveConstruct_free h.clients hother hlive, DataWorld.dataOf_put_put]
    rfl
  have hf := h.shows.follows
  rw [hnext]
  refine ⟨t, h.step hsound hf fun c data hc => ?_, fun c table hne htable => ?_⟩
  · rw [hdata] at hc
    split at hc
    · exact .inl ⟨src, (dataOf_eq hother).trans hc, not_false⟩
    · split at hc
      · cases hc
      · exact .inl ⟨c, hc, not_false⟩
  · have hcb : c ≠ b := by
      intro hcb
      have hlookup : w.clients.clients.batches.lookup c = none :=
        hcb ▸ AList.lookup_eq_none.mpr hb
      rw [tableOf, dataOf, BatchWorld.dataOf, hlookup, Option.bind_none] at htable
      cases htable
    rw [h.tableOf_step hf ?_ fun _ _ => not_false]
    · exact htable
    · rw [hdata, if_neg hcb, if_neg hne.symm]

/-- The constructor throws, and what it has taken of the other batch is destroyed. -/
theorem Consistent.moveConstruct_locked (hcudf : cudf.Faithful) (h : w.Consistent cudf t)
    (hother : w.batches.lookup src = some other)
    (hlive : w.clients.clients.liveHandles src ≠ 0) :
    Steps cudf w t (fun c => src ≠ c) (w.moveConstruct b src) := by
  have hcount : other.processingCount ≠ 0 := by
    rwa [← liveHandles_eq h hother]
  have hnext : w.moveConstruct b src =
      ⟨w.clients.next (.moveConstruct b src), w.store.discard other.data⟩ := by
    simp only [TableWorld.moveConstruct, hother, DataBatch.moveConstruct, if_pos hcount]
  obtain ⟨hsound, hdata⟩ := sound_moveConstruct_locked (b := b) h.clients hother hlive
  obtain ⟨t', hf⟩ := h.shows.follows_discard hcudf other.data
  have hgone : ∀ j, (∃ r ∈ other.data, r.object = j) →
      ∃ r, w.dataOf src = some r ∧ r.object = j := by
    intro j hj
    obtain ⟨r, hr, heq⟩ := hj
    exact ⟨r, (dataOf_eq hother).trans hr, heq⟩
  obtain ⟨hconsistent, hsame⟩ := h.replace hsound hf hdata hgone fun r hr =>
    absurd hr (Option.not_mem_none r)
  rw [hnext]
  exact hconsistent.steps fun c hne => hsame c hne.symm

/-- The target has the data of the other, and what it had is destroyed. -/
theorem Consistent.moveAssign_free (hcudf : cudf.Faithful) (h : w.Consistent cudf t)
    (hne : dst ≠ src) (hthis : w.batches.lookup dst = some this)
    (hother : w.batches.lookup src = some other)
    (hlive : w.clients.clients.liveHandles src = 0) :
    Steps cudf w t (fun c => dst ≠ c ∧ src ≠ c) (w.moveAssign dst src) := by
  have hcount : other.processingCount = 0 := (liveHandles_eq h hother).symm.trans hlive
  have hnext : w.moveAssign dst src =
      ⟨w.clients.next (.moveAssign dst src), w.store.discard this.data⟩ := by
    simp only [TableWorld.moveAssign, if_neg hne, hthis, hother, DataBatch.moveAssign,
      if_neg (not_not.mpr hcount)]
  have hdata : ∀ c, (w.clients.next (.moveAssign dst src)).clients.dataOf c =
      if c = src then none else if c = dst then other.data else w.dataOf c := by
    intro c
    rw [DataWorld.moveAssign_free h.clients hne hthis hother hlive, DataWorld.dataOf_put_put]
    rfl
  obtain ⟨t', hf⟩ := h.shows.follows_discard hcudf this.data
  have hkept : ∀ c data, c ≠ dst → w.dataOf c = some data →
      ¬∃ r ∈ this.data, r.object = data.object := by
    intro c data hc hdata hgone
    obtain ⟨r, hr, heq⟩ := hgone
    exact hc (h.clients.owned c dst data r hdata ((dataOf_eq hthis).trans hr) heq.symm)
  have hsound := DataWorld.sound_moveAssign h.clients hne hthis hother
  rw [hnext]
  refine (h.step hsound hf fun c data hc => ?_).steps fun c hapart => ?_
  · rw [hdata] at hc
    split at hc
    · cases hc
    · split at hc
      · have hold : w.dataOf src = some data := (dataOf_eq hother).trans hc
        exact .inl ⟨src, hold, hkept src data (Ne.symm hne) hold⟩
      · next hcdst => exact .inl ⟨c, hc, hkept c data hcdst hc⟩
  · refine h.tableOf_step hf ?_ fun data => hkept c data hapart.1.symm
    rw [hdata, if_neg hapart.2.symm, if_neg hapart.1.symm]

/-- The other batch is processed, and `operator=` throws. -/
theorem Consistent.moveAssign_locked (h : w.Consistent cudf t)
    (hne : dst ≠ src) (hthis : w.batches.lookup dst = some this)
    (hother : w.batches.lookup src = some other)
    (hlive : w.clients.clients.liveHandles src ≠ 0) :
    Steps cudf w t (fun _ => True) (w.moveAssign dst src) := by
  have hcount : other.processingCount ≠ 0 := by
    rwa [← liveHandles_eq h hother]
  have hnext : w.moveAssign dst src =
      { w with clients := w.clients.next (.moveAssign dst src) } := by
    simp only [TableWorld.moveAssign, if_neg hne, hthis, hother, DataBatch.moveAssign,
      if_pos hcount]
  have hdata : ∀ c, (w.clients.next (.moveAssign dst src)).clients.dataOf c =
      w.dataOf c := by
    intro c
    rw [DataWorld.moveAssign_locked h.clients hne hthis hother hlive]
    exact DataWorld.moveAssign_locked_dataOf hthis hother c
  obtain ⟨hconsistent, hsame⟩ := h.idle
    (DataWorld.sound_moveAssign h.clients hne hthis hother) h.shows.follows hdata
    fun _ _ _ => not_false
  rw [hnext]
  exact hconsistent.steps fun c _ => hsame c

theorem Consistent.moveConstruct (hcudf : cudf.Faithful) (h : w.Consistent cudf t)
    (hb : b ∉ w.batches) (hsrc : src ∈ w.batches) :
    Steps cudf w t (fun c => src ≠ c) (w.moveConstruct b src) := by
  obtain ⟨other, hother⟩ := AList.exists_lookup hsrc
  by_cases hlive : w.clients.clients.liveHandles src = 0
  · exact h.moveConstruct_free hb hother hlive
  · exact h.moveConstruct_locked hcudf hother hlive

theorem Consistent.moveAssign (hcudf : cudf.Faithful) (h : w.Consistent cudf t)
    (hdst : dst ∈ w.batches) (hsrc : src ∈ w.batches) :
    Steps cudf w t
      (fun c => dst = src ∨ dst ≠ c ∧ src ≠ c ∨ w.clients.clients.liveHandles src ≠ 0)
      (w.moveAssign dst src) := by
  obtain ⟨this, hthis⟩ := AList.exists_lookup hdst
  obtain ⟨other, hother⟩ := AList.exists_lookup hsrc
  by_cases hne : dst = src
  · rw [TableWorld.moveAssign, if_pos hne]
    exact h.steps fun _ _ => rfl
  · by_cases hlive : w.clients.clients.liveHandles src = 0
    · refine (h.moveAssign_free hcudf hne hthis hother hlive).mono fun c hleaves => ?_
      rcases hleaves with heq | hapart | hlocked
      · exact absurd heq hne
      · exact hapart
      · exact absurd hlive hlocked
    · exact (h.moveAssign_locked hne hthis hother hlive).mono fun _ _ => trivial

end Moves

/-! ## Runs -/

theorem Consistent.call (h : w.Consistent cudf t) {op : BatchOp}
    (hop : w.clients.clients.Proper op) :
    Steps cudf w t (fun _ => True) { w with clients := w.clients.next (.call op) } := by
  obtain ⟨what, hdid⟩ := perform_did h.clients.counted hop
  obtain ⟨hconsistent, hsame⟩ := h.idle (DataWorld.sound_call h.clients hop) h.shows.follows
    (BatchWorld.dataOf_of_effect hdid.effect) fun _ _ _ => not_false
  exact hconsistent.steps fun c _ => hsame c

theorem Consistent.next (ndebug : Bool) (hcudf : cudf.Faithful)
    (h : w.Consistent cudf t) {op : TableOp T} (hop : w.Proper op) :
    Steps cudf w t (fun c => LeavesData c w op) (w.next cudf ndebug op) := by
  cases op with
  | call op => exact h.call hop
  | store op =>
      have hf := h.shows.follows_next ndebug hcudf hop.1
      obtain ⟨hconsistent, hsame⟩ := h.idle h.clients hf (fun _ => rfl) fun c data hc hgone =>
        h.ne_of_loose (hop.2 data.object hgone) hc rfl
      exact hconsistent.steps fun c _ => hsame c
  | setData b i => exact h.setData (h.given hop.2) hcudf hop.1
  | convertToHost b i host upstream =>
      exact h.convertTo hcudf hop.1 hop.2 fun _ => .toHost host upstream
  | convertToGpu b i gpu allocator =>
      exact h.convertTo hcudf hop.1 hop.2 fun _ => .toGpu gpu allocator
  | moveConstruct b src => exact h.moveConstruct hcudf hop.1 hop.2
  | moveAssign dst src => exact h.moveAssign hcudf hop.1 hop.2

theorem consistent_fresh (h : w.Fresh) : w.Consistent cudf ∅ where
  clients := DataWorld.sound_of_fresh h.1
  shows := shows_fresh h.2.2
  placed b data hb := by
    obtain ⟨batch, hbatch, hdata⟩ := Option.bind_eq_some_iff.mp hb
    rw [h.2.1 b batch hbatch] at hdata
    cases hdata

theorem consistent_of_reachable (hcudf : cudf.Faithful)
    (hw : (machine cudf ndebug).Reachable w) : ∃ t, w.Consistent cudf t := by
  refine hw.invariant (I := fun w => ∃ t, w.Consistent cudf t)
    (fun _ h => ⟨∅, consistent_fresh h⟩) ?_
  intro w op hconsistent hop
  obtain ⟨t, h⟩ := hconsistent
  obtain ⟨t', h', -⟩ := h.next ndebug hcudf hop
  exact ⟨t', h'⟩

/-- A representation is of one table. -/
theorem yields_unique {store : TableStore T} {s : StoredTable T} {table table' : T}
    (h : store.Yields cudf ndebug table s) (h' : store.Yields cudf ndebug table' s) :
    table = table' := by
  cases s with
  | gpu source => exact h.symm.trans h'
  | host k source =>
      let gpu : MemorySpaceId := ⟨.GPU, 0⟩
      have hcall := h gpu (fun _ => .ok fun _ => 0) fun _ => ⟨_, rfl⟩
      rw [h' gpu (fun _ => .ok fun _ => 0) fun _ => ⟨_, rfl⟩] at hcall
      cases hcall
      rfl

theorem Consistent.gives_iff (hcudf : cudf.Faithful) (h : w.Consistent cudf t) {table : T} :
    Gives cudf ndebug b table w ↔ w.tableOf t b = some table := by
  constructor
  · rintro ⟨data, s, hdata, hs, -, hyields⟩
    obtain ⟨table', htable', hholds⟩ := h.shows.find hs
    rw [yields_unique hyields (yields_of_holds hcudf hholds), tableOf, hdata]
    exact htable'
  · intro htable
    obtain ⟨data, hdata, ht⟩ := Option.bind_eq_some_iff.mp htable
    have hplaced := h.placed b data hdata
    obtain ⟨s, hs, hrep⟩ := Option.map_eq_some_iff.mp hplaced
    refine ⟨data, s, hdata, hs, congrArg Representation.memorySpaceId hrep, ?_⟩
    exact yields_of_holds hcudf (h.shows.holds _ s table hs ht)

/-- Two batches without data, and two host spaces. -/
def emptyBatches : TableWorld DeviceBuffer where
  clients := ⟨⟨((∅ : Table Addr DataBatch).insert 1 (.create 7 none)).insert 2
    (.create 8 none), ∅⟩, fun _ => none⟩
  store := twoHosts

theorem fresh_emptyBatches : emptyBatches.Fresh := by
  have hnone : emptyBatches.batches.All fun _ batch => batch.data = none := by
    decide
  refine ⟨⟨⟨rfl, ?_⟩, ?_⟩, hnone, fresh_twoHosts⟩
  · exact (AList.all_empty.insert ⟨7, none, none, rfl⟩).insert ⟨8, none, none, rfl⟩
  · intro b c r r' hb
    obtain ⟨batch, hbatch, hdata⟩ := Option.bind_eq_some_iff.mp hb
    rw [hnone b batch hbatch] at hdata
    cases hdata

/-- A table is given to the batch at 1. -/
def givingOps : List (TableOp DeviceBuffer) :=
  [.store (.create 0x10 sevens ⟨.GPU, 0⟩), .setData 1 (some 0x10)]

/-- The batch is spilled to one host space, processed there, moved on to the other and
brought to another device, while blocks of both are allocated and written. -/
def spillingOps : List (TableOp DeviceBuffer) :=
  [.store (.allocate 0 20 none fun _ _ => .ok 0x2000),
    .convertToHost 1 0x20 0 fun _ _ => .ok 0x2000, .store (.write 0 0 fun _ _ => 9),
    .call (.tryToCreateTask 1), .call (.tryToLockForProcessing 1 ⟨.HOST, 0⟩ 0x100),
    .setData 1 none, .convertToHost 1 0x30 1 fun _ _ => .ok 0x3000, .call (.release 0x100),
    .convertToHost 1 0x40 1 fun _ _ => .ok 0x3000, .moveAssign 2 2,
    .convertToGpu 1 0x50 ⟨.GPU, 1⟩ fun _ => .ok fun _ => 0xff]

end TableWorld

end CuCascade.Data

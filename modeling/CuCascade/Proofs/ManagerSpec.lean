import CuCascade.Data.DataRepositoryManager
import CuCascade.Proofs.Storage

/-!
# What the calls on a manager do

Three things are followed through a run: the condition variable that a batch
notifies, the entries of each repository, and the pointers the clients hold.
Only `add_data_batch` points a batch to another condition variable, and only to
that of the repository the batch then is in. Every other call leaves what is
stored and held, or a part of it; a pop hands an entry to a client.
-/

namespace CuCascade.Data

open Memory

namespace BatchWorld

variable {w w' : BatchWorld} {b c : Addr} {batch : DataBatch}

/-- The condition variable that the batch at `b` notifies. -/
def cvOf (w : BatchWorld) (b : Addr) : Option Addr :=
  (w.batches.lookup b).bind (·.stateChangeCv)

theorem cvOf_eq (hb : w.batches.lookup b = some batch) :
    w.cvOf b = batch.stateChangeCv := by
  rw [cvOf, hb, Option.bind_some]

theorem cvOf_put (w : BatchWorld) (b : Addr) (batch : DataBatch) (c : Addr) :
    (w.put b batch).cvOf c = if c = b then batch.stateChangeCv else w.cvOf c :=
  lookup_bind_put (·.stateChangeCv) w b batch c

theorem cvOf_of_effect {notify : Option Addr} {what : Option (Addr × Event)}
    (h : Effect w w' notify what) (c : Addr) : w'.cvOf c = w.cvOf c :=
  lookup_bind_of_effect Move.stateChangeCv h c

/-- A method notifies nothing or the condition variable of its batch. -/
theorem cvOf_of_performs {α : Type} {e : Event} {yes : α} {out : Outcome α} {cv : Addr}
    (hb : w.batches.lookup b = some batch) (hp : Performs batch e yes out)
    (h : out.notify = some cv) : w.cvOf b = some cv := by
  rw [cvOf_eq hb]
  rcases hp with ⟨loud, -, hnotify, -⟩ | ⟨-, hnotify, -⟩
  · rw [hnotify] at h
    cases loud with
    | true => exact h
    | false => cases h
  · rw [hnotify] at h
    cases h

theorem cvOf_of_onBatch {α : Type} {e : Event} {yes : α}
    {method : DataBatch → Outcome α} {cv : Addr}
    (hp : ∀ batch, Performs batch e yes (method batch))
    (h : (w.onBatch b method).2 = some cv) : w.cvOf b = some cv := by
  cases hb : w.batches.lookup b with
  | none =>
      simp only [onBatch, call, hb, Option.map_none] at h
      cases h
  | some batch =>
      simp only [onBatch, call_eq method hb] at h
      exact cvOf_of_performs hb (hp batch) h

theorem cvOf_of_releaseHandle {h cv : Addr}
    (hnotify : (w.releaseHandle h).2 = some cv) :
    ∃ b ∈ (w.handles.lookup h).join, w.cvOf b = some cv := by
  unfold releaseHandle at hnotify
  split at hnotify
  · next b hh =>
      refine ⟨b, by rw [hh]; rfl, ?_⟩
      cases hb : w.batches.lookup b with
      | none =>
          simp only [call, hb, Option.map_none] at hnotify
          cases hnotify
      | some batch =>
          simp only [call_eq DataBatch.decrementProcessingCount hb] at hnotify
          have hp := decrementProcessingCount_performs (b := batch)
          split at hnotify
          · exact cvOf_of_performs hb hp hnotify
          · exact cvOf_of_performs hb hp hnotify
  · cases hnotify

/-- What a call of a client notifies is the condition variable of the batch it
works on. -/
theorem cvOf_of_notify {op : BatchOp} {cv : Addr}
    (h : (w.perform op).2 = some cv) :
    ∃ b ∈ w.subject op, w.cvOf b = some cv := by
  cases op with
  | tryToCreateTask b =>
      exact ⟨b, rfl, cvOf_of_onBatch (fun _ => tryToCreateTask_performs) h⟩
  | tryToCancelTask b =>
      exact ⟨b, rfl, cvOf_of_onBatch (fun _ => tryToCancelTask_performs) h⟩
  | tryToLockForProcessing b space k =>
      refine ⟨b, rfl, ?_⟩
      cases hb : w.batches.lookup b with
      | none =>
          simp only [perform, call, hb, Option.map_none] at h
          cases h
      | some batch =>
          obtain ⟨r, hr⟩ := lock_returns (b := batch) b space
          simp only [perform, call_eq _ hb, hr] at h
          exact cvOf_of_performs hb (tryToLockForProcessing_performs b space) h
  | tryToLockForInTransit b =>
      exact ⟨b, rfl, cvOf_of_onBatch (fun _ => tryToLockForInTransit_performs) h⟩
  | tryToReleaseInTransit b targetState =>
      exact ⟨b, rfl,
        cvOf_of_onBatch (fun _ => tryToReleaseInTransit_performs targetState) h⟩
  | release k => exact cvOf_of_releaseHandle h
  | destroy k => exact cvOf_of_releaseHandle h
  | moveConstruct k src =>
      simp only [perform] at h
      split at h <;> cases h
  | moveAssign dst src =>
      simp only [perform] at h
      split at h
      · cases h
      · split at h <;> cases h

theorem mem_of_effect {notify : Option Addr} {what : Option (Addr × Event)}
    (h : Effect w w' notify what) : b ∈ w'.batches ↔ b ∈ w.batches := by
  cases h with
  | stays hbatches _ _ =>
      rw [← not_iff_not, ← AList.lookup_eq_none, ← AList.lookup_eq_none, hbatches]
  | @moves c _ _ _ _ hc _ hbatches _ _ =>
      rw [hbatches, AList.mem_insert, or_iff_right_iff_imp]
      rintro rfl
      exact AList.mem_of_lookup hc

theorem setStateChangeCv_eq (hb : w.batches.lookup b = some batch)
    (cv : Option Addr) :
    w.setStateChangeCv b cv = w.put b (batch.setStateChangeCv cv) := by
  simp only [setStateChangeCv, hb]

theorem cvOf_setStateChangeCv (hb : b ∈ w.batches) (cv : Option Addr) (c : Addr) :
    (w.setStateChangeCv b cv).cvOf c = if c = b then cv else w.cvOf c := by
  obtain ⟨batch, hb⟩ := AList.exists_lookup hb
  rw [setStateChangeCv_eq hb]
  exact cvOf_put w b (batch.setStateChangeCv cv) c

theorem Counted.setStateChangeCv (hw : w.Counted) (hb : b ∈ w.batches)
    (cv : Option Addr) : (w.setStateChangeCv b cv).Counted := by
  obtain ⟨batch, hb⟩ := AList.exists_lookup hb
  rw [setStateChangeCv_eq hb]
  exact hw.put hb _ rfl rfl

end BatchWorld

section Turns

open DataRepository

variable {entries : List (Option Addr)} {q : Query}

/-- All turns but the last leave the batches as they are. -/
theorem turns_looked (entries : List (Option Addr)) (q : Query) (n i : Nat)
    (batches : Table Addr DataBatch) :
    ∃ mid, (∀ b, mid.lookup b = batches.lookup b) ∧
      Looked mid (turns entries q n i batches).1 entries
        (turns entries q n i batches).2.1 q (turns entries q n i batches).2.2 := by
  induction n generalizing i batches with
  | zero => exact ⟨batches, fun _ => rfl, .same (fun _ => rfl) nofun⟩
  | succ n ih =>
      have hlook := look_looked batches entries i q
      rw [turns]
      generalize look batches entries i q = looked at hlook ⊢
      obtain ⟨batches', verdict⟩ := looked
      cases verdict with
      | goOn =>
          cases hlook with
          | same hbatches _ =>
              obtain ⟨mid, hmid, hlooked⟩ := ih (i + 1) batches'
              exact ⟨mid, fun b => (hmid b).trans (hbatches b), hlooked⟩
      | take _ | wait _ | finish _ => exact ⟨batches, fun _ => rfl, hlook⟩

theorem lt_of_goOn {batches : Table Addr DataBatch} {i : Nat}
    (h : (look batches entries i q).2 = .goOn) : i < entries.length := by
  by_contra hge
  have hnone : entries[i]? = none := List.getElem?_eq_none (by omega)
  cases q with
  | popDataBatch targetState =>
      simp only [look, lookAny, hnone] at h
      split at h <;> cases h
  | popDataBatchById _ _ | getDataBatchById _ _ =>
      simp only [look, lookById, hnone] at h
      cases h

/-- The turns do not run out. -/
theorem turns_ends (n i : Nat) (batches : Table Addr DataBatch)
    (hi : i ≤ entries.length) (hn : entries.length < i + n) :
    (turns entries q n i batches).2.2 ≠ .goOn := by
  induction n generalizing i batches with
  | zero => omega
  | succ n ih =>
      have hlt : (look batches entries i q).2 = .goOn → i < entries.length := lt_of_goOn
      rw [turns]
      generalize look batches entries i q = looked at hlt ⊢
      obtain ⟨batches', verdict⟩ := looked
      cases verdict with
      | goOn => exact ih (i + 1) batches' (hlt rfl) (by omega)
      | take _ | wait _ | finish _ => exact nofun

/-- What is left of the clients' side after the turns of a call. -/
theorem clients_of_looked {clients : BatchWorld} {mid batches : Table Addr DataBatch}
    {i : Nat} {verdict : Verdict} (hw : clients.Counted)
    (hmid : ∀ b, mid.lookup b = clients.batches.lookup b)
    (h : Looked mid batches entries i q verdict) :
    BatchWorld.Counted { clients with batches := batches } ∧
      (∀ b, BatchWorld.cvOf { clients with batches := batches } b = clients.cvOf b) ∧
      (∀ b, b ∈ batches ↔ b ∈ clients.batches) ∧
      ∀ cv, verdict = .take (some cv) →
        ∃ b, entries[i]? = some (some b) ∧ clients.cvOf b = some cv := by
  have hstay : Effect clients { clients with batches := mid } none none :=
    .stays hmid (fun _ => rfl) rfl
  have hcounted := BatchWorld.counted_of_effect hw hstay
  cases h with
  | same hbatches hquiet =>
      have hsame : Effect clients { clients with batches := batches } none none :=
        .stays (fun b => (hbatches b).trans (hmid b)) (fun _ => rfl) rfl
      exact ⟨BatchWorld.counted_of_effect hw hsame, BatchWorld.cvOf_of_effect hsame,
        fun _ => BatchWorld.mem_of_effect hsame, fun cv heq => absurd heq (hquiet cv)⟩
  | @moved b batch batch' e loud hentry hb _ htarget hmove hbatches =>
      have hmoves : Effect { clients with batches := mid }
          { clients with batches := batches }
          (if loud then batch.stateChangeCv else none) (some (b, e)) := by
        refine .moves hb hmove hbatches (fun c => ?_) rfl
        rcases htarget with ⟨rfl, -⟩ | ⟨rfl, -⟩ <;> rfl
      refine ⟨BatchWorld.counted_of_effect hcounted hmoves, fun c => ?_, fun c => ?_, ?_⟩
      · exact (BatchWorld.cvOf_of_effect hmoves c).trans
          (BatchWorld.cvOf_of_effect hstay c)
      · exact (BatchWorld.mem_of_effect hmoves).trans (BatchWorld.mem_of_effect hstay)
      · intro cv hnotify
        have hcv : batch.stateChangeCv = some cv := by
          cases loud with
          | true => exact Verdict.take.inj hnotify
          | false => cases hnotify
        exact ⟨b, hentry, (BatchWorld.cvOf_eq ((hmid b).symm.trans hb)).trans hcv⟩

end Turns

namespace ManagerWorld

variable {w w' : ManagerWorld} {r b : Addr} {batch : Option Addr}
  {repository : DataRepository}

theorem stores_iff (hr : w.repositories.lookup r = some repository) :
    w.Stores r b ↔ some b ∈ repository.dataBatches.flatten := by
  unfold Stores
  rw [hr]
  constructor
  · rintro ⟨_, hsome, hmem⟩
    cases hsome
    exact hmem
  · intro hmem
    exact ⟨repository, rfl, hmem⟩

theorem stores_congr (h : w'.repositories.lookup r = w.repositories.lookup r) :
    w'.Stores r b ↔ w.Stores r b := by
  unfold Stores
  rw [h]

theorem Stores.mem (h : w.Stores r b) : r ∈ w.repositories := by
  obtain ⟨repository, hr, -⟩ := h
  exact AList.mem_of_lookup hr

theorem owned_iff : w.Owned b ↔ b ∈ w.held ∨ ∃ r, w.Stores r b := by
  unfold Owned Stores
  apply or_congr_right
  constructor
  · rintro ⟨⟨r, repository⟩, he, hmem⟩
    exact ⟨r, repository, AList.mem_entries_iff.mp he, hmem⟩
  · rintro ⟨r, repository, hr, hmem⟩
    exact ⟨⟨r, repository⟩, AList.mem_entries_iff.mpr hr, hmem⟩

theorem Stores.owned (h : w.Stores r b) : w.Owned b := owned_iff.mpr (.inr ⟨r, h⟩)

/-- What holds in every state. -/
structure Sound (w : ManagerWorld) : Prop where
  counted : w.clients.Counted
  placed : ∀ r repository, w.repositories.lookup r = some repository →
    repository.cv = r
  exists_of_owned : ∀ b, w.Owned b → b ∈ w.clients.batches
  reached : ∀ key r, w.manager.lookup key = some (some r) → r ∈ w.repositories

/-- Nothing is stored or held that was not owned, and every batch still
notifies the same condition variable. -/
structure Within (w w' : ManagerWorld) : Prop where
  cv : ∀ b, w'.clients.cvOf b = w.clients.cvOf b
  stores : ∀ r b, w'.Stores r b → w.Stores r b
  held : ∀ b ∈ w'.held, w.Owned b

theorem Within.owned (h : Within w w') (hb : w'.Owned b) : w.Owned b := by
  rcases owned_iff.mp hb with hheld | ⟨r, hstores⟩
  · exact h.held b hheld
  · exact (h.stores r b hstores).owned

/-- A batch was added to the repository at `r`, and points to it from now on. -/
structure Added (w w' : ManagerWorld) (r : Addr) (batch : Option Addr) : Prop where
  cv : ∀ c, w'.clients.cvOf c = if some c = batch then some r else w.clients.cvOf c
  live : ∀ r', r' ∈ w'.repositories ↔ r' ∈ w.repositories
  held : w'.held = w.held
  manager : w'.manager = w.manager
  new : ∀ r' c, w'.Stores r' c → w.Stores r' c ∨ r' = r ∧ some c = batch
  others : ∀ r' c, r' ≠ r → w.Stores r' c → w'.Stores r' c

section AddTo

variable {partitionIdx : UInt64}

theorem mem_flatten_addDataBatch {c : Addr}
    (h : some c ∈ (repository.addDataBatch batch partitionIdx).1.dataBatches.flatten) :
    some c ∈ repository.dataBatches.flatten ∨ some c = batch := by
  rcases RepositoryWorld.addDataBatch_cases repository batch partitionIdx with
    ⟨after, hadd, -, hentries⟩ | ⟨after, hadd, -, hnil⟩
  · rw [hadd] at h
    obtain ⟨entries', hmem, hc⟩ := List.mem_flatten.mp h
    obtain ⟨i, hi⟩ := List.getElem?_of_mem hmem
    rcases hentries i entries' hi _ hc with heq | ⟨entries, hold, hc⟩
    · exact .inr heq
    · exact .inl (List.mem_flatten.mpr ⟨entries, List.mem_of_getElem? hold, hc⟩)
  · rw [hadd, hnil] at h
    cases h

theorem cv_addDataBatch :
    (repository.addDataBatch batch partitionIdx).1.cv = repository.cv := by
  rcases RepositoryWorld.addDataBatch_cases repository batch partitionIdx with
    ⟨after, hadd, hcv, -⟩ | ⟨after, hadd, hcv, -⟩
  · rw [hadd, hcv]
  · rw [hadd, hcv]

/-- The clients after an add: the batch has been told the condition variable. -/
def told (w : ManagerWorld) (r : Addr) : Option Addr → BatchWorld
  | none => w.clients
  | some b => w.clients.setStateChangeCv b (some r)

theorem addTo_eq (hw : w.Sound) (hr : w.repositories.lookup r = some repository)
    (batch : Option Addr) (partitionIdx : UInt64) :
    w.addTo r batch partitionIdx =
      ({ w with
          clients := w.told r batch
          repositories := w.repositories.insert r
            (repository.addDataBatch batch partitionIdx).1 },
        (repository.addDataBatch batch partitionIdx).2) := by
  simp only [addTo, hr, hw.placed r repository hr]
  cases batch <;> rfl

theorem counted_told (hw : w.Sound) (hbatch : ∀ b ∈ batch, b ∈ w.held) :
    (w.told r batch).Counted := by
  cases batch with
  | none => exact hw.counted
  | some b =>
      have hmem := hw.exists_of_owned b (.inl (hbatch b rfl))
      exact hw.counted.setStateChangeCv hmem (some r)

theorem cvOf_told (hw : w.Sound) (hbatch : ∀ b ∈ batch, b ∈ w.held) (c : Addr) :
    (w.told r batch).cvOf c = if some c = batch then some r else w.clients.cvOf c := by
  cases batch with
  | none => rfl
  | some b =>
      have hmem := hw.exists_of_owned b (.inl (hbatch b rfl))
      simp only [told, BatchWorld.cvOf_setStateChangeCv hmem, Option.some.injEq]

theorem mem_told (c : Addr) (h : c ∈ w.clients.batches) :
    c ∈ (w.told r batch).batches := by
  cases batch with
  | none => exact h
  | some b =>
      simp only [told, BatchWorld.setStateChangeCv]
      split
      · exact h
      · exact BatchWorld.mem_put.mpr (.inr h)

theorem added_addTo (hw : w.Sound) (hr : r ∈ w.repositories)
    (hbatch : ∀ b ∈ batch, b ∈ w.held) (partitionIdx : UInt64) :
    Added w (w.addTo r batch partitionIdx).1 r batch := by
  obtain ⟨repository, hr⟩ := AList.exists_lookup hr
  rw [addTo_eq hw hr]
  refine ⟨cvOf_told hw hbatch, fun r' => ?_, rfl, rfl, fun r' c hc => ?_,
    fun r' c hne hc => ?_⟩
  · rw [AList.mem_insert, or_iff_right_iff_imp]
    rintro rfl
    exact AList.mem_of_lookup hr
  · by_cases heq : r' = r
    · subst heq
      rw [stores_iff (AList.lookup_insert _)] at hc
      rcases mem_flatten_addDataBatch hc with hold | hnew
      · exact .inl ((stores_iff hr).mpr hold)
      · exact .inr ⟨rfl, hnew⟩
    · exact .inl ((stores_congr (AList.lookup_insert_ne heq)).mp hc)
  · exact (stores_congr (AList.lookup_insert_ne hne)).mpr hc

theorem sound_addTo (hw : w.Sound) (hr : r ∈ w.repositories)
    (hbatch : ∀ b ∈ batch, b ∈ w.held) (partitionIdx : UInt64) :
    (w.addTo r batch partitionIdx).1.Sound := by
  have hadded := added_addTo hw hr hbatch partitionIdx
  obtain ⟨repository, hr⟩ := AList.exists_lookup hr
  rw [addTo_eq hw hr] at hadded ⊢
  refine ⟨counted_told hw hbatch, fun r' other hr' => ?_, fun c hc => ?_,
    fun key r' hkey => (hadded.live r').mpr (hw.reached key r' hkey)⟩
  · by_cases heq : r' = r
    · subst heq
      rw [AList.lookup_insert] at hr'
      cases hr'
      rw [cv_addDataBatch, hw.placed r' repository hr]
    · rw [AList.lookup_insert_ne heq] at hr'
      exact hw.placed r' other hr'
  · refine mem_told c (hw.exists_of_owned c ?_)
    rcases owned_iff.mp hc with hheld | ⟨r', hstores⟩
    · exact .inl hheld
    · rcases hadded.new r' c hstores with hold | ⟨-, hnew⟩
      · exact hold.owned
      · exact .inl (hbatch c hnew.symm)

/-- The first partition can always be added to. -/
theorem addTo_first (hw : w.Sound) (hr : r ∈ w.repositories) (batch : Option Addr) :
    (w.addTo r batch 0).2 = .ok () ∧
      ∀ c, some c = batch ∨ w.Stores r c → (w.addTo r batch 0).1.Stores r c := by
  obtain ⟨repository, hr⟩ := AList.exists_lookup hr
  have hzero : (0 : UInt64).toNat + 1 < 2 ^ 64 := by decide
  have hadd := addDataBatch_ok repository batch hzero
  rw [addTo_eq hw hr, hadd]
  refine ⟨rfl, fun c hc => ?_⟩
  rw [stores_iff (AList.lookup_insert _), Buckets.flatten_push.mem_iff, List.mem_cons]
  exact hc.imp_right (stores_iff hr).mp

end AddTo

section Find

variable {q : Query} {partitionIdx : UInt64}

theorem mem_flatten_set {partitions : List (List (Option Addr))} {i : Nat}
    {entries entries' : List (Option Addr)} (hi : partitions[i]? = some entries)
    (hsub : ∀ x ∈ entries', x ∈ entries) {x : Option Addr}
    (hx : x ∈ (partitions.set i entries').flatten) : x ∈ partitions.flatten := by
  obtain ⟨l, hl, hxl⟩ := List.mem_flatten.mp hx
  rcases List.mem_or_eq_of_mem_set hl with hold | heq
  · exact List.mem_flatten.mpr ⟨l, hold, hxl⟩
  · rw [heq] at hxl
    exact List.mem_flatten.mpr ⟨entries, List.mem_of_getElem? hi, hsub x hxl⟩

/-- What is handed to the client was stored, and so was the batch that has
notified. -/
structure Finds (w w' : ManagerWorld) (r : Addr) (notify : Option Addr) : Prop where
  within : Within w w'
  counted : w'.clients.Counted
  batches : ∀ b, b ∈ w'.clients.batches ↔ b ∈ w.clients.batches
  live : ∀ r', r' ∈ w'.repositories ↔ r' ∈ w.repositories
  placed : ∀ r' repository', w'.repositories.lookup r' = some repository' →
    repository'.cv = r'
  manager : w'.manager = w.manager
  notified : ∀ cv ∈ notify, ∃ b, w.Stores r b ∧ w.clients.cvOf b = some cv

/-- A call on a repository that leaves the entries alone and notifies
nothing. -/
theorem finds_of_clients (hw : w.Sound) {clients : BatchWorld}
    (hcounted : clients.Counted) (hcv : ∀ b, clients.cvOf b = w.clients.cvOf b)
    (hmem : ∀ b, b ∈ clients.batches ↔ b ∈ w.clients.batches) :
    Finds w { w with clients := clients } r none :=
  ⟨⟨hcv, fun _ _ h => h, fun _ h => .inl h⟩, hcounted, hmem, fun _ => Iff.rfl,
    hw.placed, rfl, nofun⟩

/-- A call that has found an entry. -/
theorem finds_taken (hw : w.Sound) {clients : BatchWorld} {i j : Nat}
    {entries : List (Option Addr)} {notify : Option Addr}
    (hr : w.repositories.lookup r = some repository)
    (hj : repository.dataBatches[j]? = some entries)
    (hcounted : clients.Counted) (hcv : ∀ b, clients.cvOf b = w.clients.cvOf b)
    (hmem : ∀ b, b ∈ clients.batches ↔ b ∈ w.clients.batches)
    (hnotify : ∀ cv, notify = some cv →
      ∃ b, entries[i]? = some (some b) ∧ w.clients.cvOf b = some cv) :
    Finds w
      { w with
        clients := clients
        repositories := w.repositories.insert r
          { repository with
            dataBatches :=
              repository.dataBatches.set j (DataRepository.remove entries i q) }
        held := entries[i]?.join.toList ++ w.held } r notify := by
  have hstored : ∀ b, some b ∈ entries → w.Stores r b := by
    intro b hb
    rw [stores_iff hr]
    exact List.mem_flatten.mpr ⟨entries, List.mem_of_getElem? hj, hb⟩
  refine ⟨⟨hcv, fun r' b hb => ?_, fun b hb => ?_⟩, hcounted, hmem, fun r' => ?_,
    fun r' other hr' => ?_, rfl, fun cv h => ?_⟩
  · by_cases heq : r' = r
    · subst heq
      rw [stores_iff (AList.lookup_insert _)] at hb
      rw [stores_iff hr]
      exact mem_flatten_set hj (fun x hx => RepositoryWorld.mem_of_mem_remove hx) hb
    · exact (stores_congr (AList.lookup_insert_ne heq)).mp hb
  · rcases List.mem_append.mp hb with hfound | hheld
    · cases hi : entries[i]? with
      | none =>
          rw [hi] at hfound
          cases hfound
      | some p =>
          rw [hi, Option.join_some, Option.mem_toList] at hfound
          rw [hfound] at hi
          exact (hstored b (List.mem_of_getElem? hi)).owned
    · exact .inl hheld
  · rw [AList.mem_insert, or_iff_right_iff_imp]
    rintro rfl
    exact AList.mem_of_lookup hr
  · by_cases heq : r' = r
    · subst heq
      rw [AList.lookup_insert] at hr'
      cases hr'
      exact hw.placed r' repository hr
    · rw [AList.lookup_insert_ne heq] at hr'
      exact hw.placed r' other hr'
  · obtain ⟨b, hb, hbcv⟩ := hnotify cv h
    exact ⟨b, hstored b (List.mem_of_getElem? hb), hbcv⟩

theorem finds_find (hw : w.Sound) (r : Addr) (q : Query) (partitionIdx : UInt64) :
    Finds w (w.find r q partitionIdx).1 r (w.find r q partitionIdx).2.1 := by
  have hnothing : Finds w w r none :=
    finds_of_clients hw hw.counted (fun _ => rfl) fun _ => Iff.rfl
  cases hr : w.repositories.lookup r with
  | none =>
      simp only [find, hr]
      exact hnothing
  | some repository =>
      cases hpartition : repository.dataBatches[partitionIdx.toNat]? with
      | none =>
          simp only [find, hr, hpartition]
          exact hnothing
      | some entries =>
          obtain ⟨mid, hmid, hlooked⟩ := turns_looked entries q (entries.length + 1) 0
            w.clients.batches
          simp only [find, hr, hpartition]
          generalize DataRepository.turns entries q (entries.length + 1) 0
            w.clients.batches = turned at hlooked ⊢
          obtain ⟨batches, i, verdict⟩ := turned
          obtain ⟨hcounted, hcv, hmem, hnotified⟩ :=
            clients_of_looked hw.counted hmid hlooked
          cases verdict with
          | goOn | wait _ | finish _ => exact finds_of_clients hw hcounted hcv hmem
          | take notify =>
              exact finds_taken hw hr hpartition hcounted hcv hmem fun cv h =>
                hnotified cv (congrArg Verdict.take h)

end Find

section Destroy

/-- The repositories whose destructor a call runs. -/
def destroys (w : ManagerWorld) : ManagerOp → List Addr
  | .addNewRepository key r => if key ∈ w.manager then [r] else []
  | .destroyRepository r => [r]
  | .destroyManager => w.owned
  | _ => []

/-- The repositories of a list are gone, and nothing else that anybody could
own. -/
structure Loses (w w' : ManagerWorld) (rs : List Addr) : Prop where
  clients : w'.clients = w.clients
  held : w'.held = w.held
  lookup : ∀ r, w'.repositories.lookup r =
    if r ∈ rs then none else w.repositories.lookup r

variable {rs : List Addr}

theorem Loses.mem (h : Loses w w' rs) :
    r ∈ w'.repositories ↔ r ∈ w.repositories ∧ r ∉ rs := by
  rw [← not_iff_not, ← AList.lookup_eq_none, h.lookup, not_and_not_right]
  split
  · next hr => exact iff_of_true rfl fun _ => hr
  · next hr =>
      rw [AList.lookup_eq_none]
      exact ⟨fun hno hyes => absurd hyes hno, fun himp hyes => hr (himp hyes)⟩

theorem Loses.of_lookup (h : Loses w w' rs)
    (hr : w'.repositories.lookup r = some repository) :
    w.repositories.lookup r = some repository := by
  rw [h.lookup] at hr
  split at hr
  · cases hr
  · exact hr

theorem Loses.within (h : Loses w w' rs) : Within w w' where
  cv b := by rw [h.clients]
  stores r b hb := by
    obtain ⟨repository, hr, hmem⟩ := hb
    exact ⟨repository, h.of_lookup hr, hmem⟩
  held b hb := .inl (h.held ▸ hb)

/-- Who stores a batch and has not been destroyed still stores it. -/
theorem Loses.stores_iff (h : Loses w w' rs) :
    w'.Stores r b ↔ w.Stores r b ∧ r ∉ rs := by
  constructor
  · intro hb
    exact ⟨h.within.stores r b hb, (h.mem.mp hb.mem).2⟩
  · rintro ⟨hb, hr⟩
    exact (stores_congr ((h.lookup r).trans (if_neg hr))).mpr hb

theorem Loses.sound (h : Loses w w' rs) (hw : w.Sound)
    (hreached : ∀ key r, w'.manager.lookup key = some (some r) →
      r ∈ w'.repositories) : w'.Sound where
  counted := h.clients ▸ hw.counted
  placed r repository hr := hw.placed r repository (h.of_lookup hr)
  exists_of_owned b hb := by
    rw [h.clients]
    exact hw.exists_of_owned b (h.within.owned hb)
  reached := hreached

theorem loses_destroyRepository : Loses w (w.destroyRepository r) [r] := by
  refine ⟨rfl, rfl, fun r' => ?_⟩
  rw [destroyRepository]
  by_cases heq : r' = r
  · rw [heq, AList.lookup_erase, if_pos (List.mem_singleton_self r)]
  · rw [AList.lookup_erase_ne heq, if_neg (mt List.mem_singleton.mp heq)]

theorem loses_foldl (rs : List Addr) (w : ManagerWorld) :
    Loses w (rs.foldl destroyRepository w) rs := by
  induction rs generalizing w with
  | nil => exact ⟨rfl, rfl, fun _ => rfl⟩
  | cons r rs ih =>
      have hfirst := loses_destroyRepository (w := w) (r := r)
      have hrest := ih (w.destroyRepository r)
      rw [List.foldl_cons]
      refine ⟨hrest.clients.trans hfirst.clients, hrest.held.trans hfirst.held,
        fun r' => ?_⟩
      rw [hrest.lookup, hfirst.lookup]
      by_cases h₁ : r' ∈ rs
      · rw [if_pos h₁, if_pos (List.mem_cons_of_mem r h₁)]
      · rw [if_neg h₁]
        simp only [List.mem_cons, h₁, or_false, List.not_mem_nil]

theorem loses_destroyManager : Loses w w.destroyManager w.owned :=
  have h := loses_foldl w.owned w
  ⟨h.clients, h.held, h.lookup⟩

theorem mem_owned : r ∈ w.owned ↔ ∃ key, w.manager.lookup key = some (some r) := by
  unfold owned
  rw [List.mem_filterMap]
  constructor
  · rintro ⟨⟨key, p⟩, he, hp⟩
    refine ⟨key, ?_⟩
    rw [← hp]
    exact AList.mem_entries_iff.mp he
  · rintro ⟨key, hkey⟩
    exact ⟨⟨key, some r⟩, AList.mem_entries_iff.mpr hkey, rfl⟩

theorem sound_destroyRepository (hw : w.Sound) : (w.destroyRepository r).Sound := by
  refine loses_destroyRepository.sound hw fun key r' hkey => ?_
  rw [destroyRepository, AList.lookup_mapVal] at hkey
  obtain ⟨p, hp, hsome⟩ := Option.map_eq_some_iff.mp hkey
  split at hsome
  · cases hsome
  · next hne =>
      rw [hsome] at hp hne
      refine loses_destroyRepository.mem.mpr ⟨hw.reached key r' hp, ?_⟩
      rw [List.mem_singleton]
      exact fun heq => hne (congrArg some heq)

theorem sound_destroyManager (hw : w.Sound) : w.destroyManager.Sound := by
  refine loses_destroyManager.sound hw fun key r hkey => ?_
  rw [destroyManager, AList.lookup_empty] at hkey
  cases hkey

/-- Either the repository is the manager's now, or it is gone. -/
theorem loses_addNewRepository {key : OperatorPortKey} :
    Loses w (w.addNewRepository key r).1 (w.destroys (.addNewRepository key r)) := by
  simp only [addNewRepository, destroys]
  by_cases hkey : key ∈ w.manager
  · rw [if_pos hkey, if_pos hkey]
    exact ⟨rfl, rfl, loses_destroyRepository.lookup⟩
  · rw [if_neg hkey, if_neg hkey]
    exact ⟨rfl, rfl, fun r' => (if_neg List.not_mem_nil).symm⟩

theorem sound_addNewRepository (hw : w.Sound) {key : OperatorPortKey}
    (hr : r ∈ w.repositories) (hfree : r ∉ w.owned) :
    (w.addNewRepository key r).1.Sound := by
  refine loses_addNewRepository.sound hw fun key' r' hkey => ?_
  rw [loses_addNewRepository.mem]
  simp only [addNewRepository] at hkey
  simp only [destroys]
  split at hkey
  · next hmem =>
      rw [if_pos hmem, List.mem_singleton]
      refine ⟨hw.reached key' r' hkey, ?_⟩
      rintro rfl
      exact hfree (mem_owned.mpr ⟨key', hkey⟩)
  · next hmem =>
      rw [if_neg hmem]
      refine ⟨?_, List.not_mem_nil⟩
      by_cases heq : key' = key
      · rw [heq, AList.lookup_insert] at hkey
        cases hkey
        exact hr
      · rw [AList.lookup_insert_ne heq] at hkey
        exact hw.reached key' r' hkey

end Destroy

section Calls

theorem within_client (hw : w.Sound) {op : BatchOp} (hop : w.clients.Proper op) :
    (w.perform (.client op)).1.Sound ∧ Within w (w.perform (.client op)).1 := by
  obtain ⟨what, hdid⟩ := perform_did hw.counted hop
  refine ⟨⟨BatchWorld.counted_of_effect hw.counted hdid.effect, hw.placed,
    fun b hb => ?_, hw.reached⟩, BatchWorld.cvOf_of_effect hdid.effect,
    fun _ _ h => h, fun _ h => .inl h⟩
  exact (BatchWorld.mem_of_effect hdid.effect).mpr (hw.exists_of_owned b hb)

/-- The clients' pointers may change as long as each was to a batch that is
owned. -/
theorem sound_held (hw : w.Sound) {held : List Addr} (h : ∀ b ∈ held, w.Owned b) :
    Sound { w with held := held } ∧ Within w { w with held := held } := by
  have hwithin : Within w { w with held := held } := ⟨fun _ => rfl, fun _ _ h => h, h⟩
  exact ⟨⟨hw.counted, hw.placed, fun b hb => hw.exists_of_owned b (hwithin.owned hb),
    hw.reached⟩, hwithin⟩

theorem within_copy (hw : w.Sound) (hb : b ∈ w.held) :
    (w.perform (.copy b)).1.Sound ∧ Within w (w.perform (.copy b)).1 := by
  refine sound_held hw fun c hc => ?_
  rcases List.mem_cons.mp hc with rfl | hc
  · exact .inl hb
  · exact .inl hc

theorem within_letGo (hw : w.Sound) (b : Addr) :
    (w.perform (.letGo b)).1.Sound ∧ Within w (w.perform (.letGo b)).1 :=
  sound_held hw fun _ hc => .inl (List.mem_of_mem_erase hc)

theorem newRepository_stores {r' : Addr} (hr : r ∉ w.repositories) :
    (w.perform (.newRepository r)).1.Stores r' b ↔ w.Stores r' b := by
  by_cases heq : r' = r
  · rw [heq]
    refine iff_of_false ?_ fun h => hr h.mem
    rw [stores_iff (AList.lookup_insert _)]
    exact List.not_mem_nil
  · exact stores_congr (AList.lookup_insert_ne heq)

theorem within_newRepository (hw : w.Sound) (hr : r ∉ w.repositories) :
    (w.perform (.newRepository r)).1.Sound ∧
      Within w (w.perform (.newRepository r)).1 := by
  have hwithin : Within w (w.perform (.newRepository r)).1 :=
    ⟨fun _ => rfl, fun _ _ h => (newRepository_stores hr).mp h, fun _ h => .inl h⟩
  refine ⟨⟨hw.counted, fun r' repository hr' => ?_,
    fun b hb => hw.exists_of_owned b (hwithin.owned hb), fun key r' hkey => ?_⟩, hwithin⟩
  · by_cases heq : r' = r
    · rw [heq, perform, AList.lookup_insert] at hr'
      cases hr'
      exact heq.symm
    · rw [perform, AList.lookup_insert_ne heq] at hr'
      exact hw.placed r' repository hr'
  · exact (AList.mem_insert _).mpr (.inr (hw.reached key r' hkey))

theorem sound_create (hw : w.Sound) (hb : b ∉ w.clients.batches) (batchId : UInt64)
    (data : Option Representation) : (w.perform (.create b batchId data)).1.Sound := by
  refine ⟨hw.counted.put_new hb _ rfl, hw.placed, fun c hc => ?_, hw.reached⟩
  refine BatchWorld.mem_put.mpr ?_
  rcases hc with hheld | hstored
  · rcases List.mem_cons.mp hheld with heq | hheld
    · exact .inl heq
    · exact .inr (hw.exists_of_owned c (.inl hheld))
  · exact .inr (hw.exists_of_owned c (.inr hstored))

/-- A batch that was not there notified nothing, and notifies nothing now. -/
theorem cvOf_create (hb : b ∉ w.clients.batches) (batchId : UInt64)
    (data : Option Representation) (c : Addr) :
    (w.perform (.create b batchId data)).1.clients.cvOf c = w.clients.cvOf c := by
  refine (BatchWorld.cvOf_put w.clients b _ c).trans ?_
  split
  · next heq =>
      rw [heq, BatchWorld.cvOf, AList.lookup_eq_none.mpr hb]
      rfl
  · rfl

theorem within_find (hw : w.Sound) {q : Query} {partitionIdx : UInt64} :
    (w.perform (.find r q partitionIdx)).1.Sound ∧
      Within w (w.perform (.find r q partitionIdx)).1 := by
  have h := finds_find hw r q partitionIdx
  refine ⟨⟨h.counted, h.placed, fun b hb => ?_, fun key r' hkey => ?_⟩, h.within⟩
  · exact (h.batches b).mpr (hw.exists_of_owned b (h.within.owned hb))
  · exact (h.live r').mpr (hw.reached key r' (h.manager ▸ hkey))

end Calls

section AddDataBatch

/-- The repositories that the loop over the operators' ports reaches. -/
def targets (w : ManagerWorld) : List OperatorPortKey → List Addr
  | [] => []
  | key :: ops =>
      match w.at? key with
      | none => []
      | some r => r :: w.targets ops

theorem targets_congr (h : w'.manager = w.manager) (ops : List OperatorPortKey) :
    w'.targets ops = w.targets ops := by
  induction ops with
  | nil => rfl
  | cons key ops ih => rw [targets, targets, at?, at?, h, ih]

theorem lookup_of_at? {key : OperatorPortKey} (h : w.at? key = some r) :
    w.manager.lookup key = some (some r) := by
  rw [at?, Option.join_eq_some_iff] at h
  exact h

/-- Nobody has seen the null pointer before. -/
theorem sound_null (hw : w.Sound) (key : OperatorPortKey) :
    Sound { w with manager := w.manager.insert key none } := by
  refine ⟨hw.counted, hw.placed, hw.exists_of_owned, fun key' r hkey => ?_⟩
  by_cases heq : key' = key
  · rw [heq, AList.lookup_insert] at hkey
    cases hkey
  · rw [AList.lookup_insert_ne heq] at hkey
    exact hw.reached key' r hkey

/-- The rule for the loop over the ports: what holds before it, and what the
add to each repository it reaches keeps, holds after it. -/
theorem addDataBatch_induction {P : ManagerWorld → List Addr → Prop}
    (hw : w.Sound) (hbatch : ∀ b ∈ batch, b ∈ w.held) (ops : List OperatorPortKey)
    (hP : P w (w.targets ops))
    (hadd : ∀ w r rs, Sound w → (∀ b ∈ batch, b ∈ w.held) → r ∈ w.repositories →
      P w (r :: rs) → P (w.addTo r batch 0).1 rs)
    (hnull : ∀ w key, P w [] → P { w with manager := w.manager.insert key none } []) :
    (w.addDataBatch batch ops).1.Sound ∧ P (w.addDataBatch batch ops).1 [] := by
  induction ops generalizing w with
  | nil => exact ⟨hw, hP⟩
  | cons key ops ih =>
      rw [targets] at hP
      rw [addDataBatch]
      cases hkey : w.at? key with
      | none =>
          rw [hkey] at hP
          exact ⟨sound_null hw key, hnull w key hP⟩
      | some r =>
          rw [hkey] at hP
          have hr := hw.reached key r (lookup_of_at? hkey)
          have hok := (addTo_first hw hr batch).1
          have hadded := added_addTo hw hr hbatch 0
          have hsound := sound_addTo hw hr hbatch 0
          have hnext := hadd w r (w.targets ops) hw hbatch hr hP
          rw [← targets_congr hadded.manager] at hnext
          have hheld : ∀ b ∈ batch, b ∈ (w.addTo r batch 0).1.held := by
            intro b hb
            rw [hadded.held]
            exact hbatch b hb
          have hreturns : w.addTo r batch 0 = ((w.addTo r batch 0).1, .ok ()) :=
            Prod.ext rfl hok
          simp only
          rw [hreturns]
          exact ih hsound hheld hnext

theorem sound_addDataBatch (hw : w.Sound) (hbatch : ∀ b ∈ batch, b ∈ w.held)
    (ops : List OperatorPortKey) : (w.addDataBatch batch ops).1.Sound :=
  (addDataBatch_induction (P := fun _ _ => True) hw hbatch ops trivial
    (fun _ _ _ _ _ _ _ => trivial) fun _ _ _ => trivial).1

end AddDataBatch

theorem sound_next (hw : w.Sound) {op : ManagerOp} (hop : w.Proper op) :
    (machine.next w op).Sound := by
  cases op with
  | create b batchId data => exact sound_create hw hop batchId data
  | copy b => exact (within_copy hw hop).1
  | letGo b => exact (within_letGo hw b).1
  | client op => exact (within_client hw hop.1).1
  | newRepository r => exact (within_newRepository hw hop.1).1
  | addNewRepository key r => exact sound_addNewRepository hw hop.1 hop.2
  | addDataBatch batch ops => exact sound_addDataBatch hw hop ops
  | addTo r batch partitionIdx => exact sound_addTo hw hop.1 hop.2 partitionIdx
  | find r q partitionIdx => exact (within_find hw).1
  | destroyRepository r => exact sound_destroyRepository hw
  | destroyManager => exact sound_destroyManager hw

theorem sound_of_fresh (h : w.Fresh) : w.Sound := by
  obtain ⟨hbatches, hhandles, hrepositories, hmanager, hheld, -⟩ := h
  refine ⟨BatchWorld.counted_of_fresh ⟨hhandles, ?_⟩, ?_, ?_, ?_⟩
  · intro b batch hb
    rw [hbatches, AList.lookup_empty] at hb
    cases hb
  · intro r repository hr
    rw [hrepositories, AList.lookup_empty] at hr
    cases hr
  · intro b hb
    rcases hb with hb | ⟨e, he, -⟩
    · rw [hheld] at hb
      cases hb
    · rw [hrepositories] at he
      cases he
  · intro key r hkey
    rw [hmanager, AList.lookup_empty] at hkey
    cases hkey

end ManagerWorld

end CuCascade.Data

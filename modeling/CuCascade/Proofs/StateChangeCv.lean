import CuCascade.Proofs.ManagerSpec

/-!
# Where a batch sends its notifications

A batch has one pointer to a condition variable. `add_data_batch` sets it, and
nothing ever clears it. So a batch that is in two repositories wakes only the one
it was added to last, and a batch that is still in use when this repository is
destroyed notifies what is no longer there. Apart from that, each batch notifies
the repository that it is in, and each notification arrives.
-/

namespace CuCascade.Data

open Memory

namespace ManagerWorld

variable {w w' : ManagerWorld} {r b : Addr} {batch : Option Addr}

/-! ## Stored batches -/

/-- Every batch in a repository notifies the condition variable of this
repository. -/
def Designated (w : ManagerWorld) : Prop :=
  w.repositories.All fun _ repository =>
    ∀ b, some b ∈ repository.dataBatches.flatten →
      w.clients.cvOf b = some repository.cv

/-- The repositories that a batch is about to be added to are one, and it is in
no other. -/
def Alone (w : ManagerWorld) (batch : Option Addr) (rs : List Addr) : Prop :=
  ∀ b ∈ batch, ∀ r ∈ rs, (∀ r' ∈ rs, r' = r) ∧
    w.repositories.All fun r' repository =>
      some b ∈ repository.dataBatches.flatten → r' = r

/-- A batch is only added to the repository that it is in, if any. -/
def AddsAlone (w : ManagerWorld) : ManagerOp → Prop
  | .addDataBatch batch ops => w.Alone batch (w.targets ops)
  | .addTo r batch _ => w.Alone batch [r]
  | _ => True

section Decidable

variable (w : ManagerWorld)

instance (rs : List Addr) : Decidable (w.Alone batch rs) :=
  inferInstanceAs (Decidable (∀ b ∈ batch, ∀ r ∈ rs, _))

instance : (op : ManagerOp) → Decidable (w.AddsAlone op)
  | .addDataBatch batch ops => inferInstanceAs (Decidable (w.Alone batch (w.targets ops)))
  | .addTo r batch _ => inferInstanceAs (Decidable (w.Alone batch [r]))
  | .create _ _ _ | .copy _ | .letGo _ | .client _ | .newRepository _
  | .addNewRepository _ _ | .find _ _ _ | .destroyRepository _
  | .destroyManager => isTrue trivial

end Decidable

theorem designated_iff (hw : w.Sound) :
    w.Designated ↔ ∀ r b, w.Stores r b → w.clients.cvOf b = some r := by
  constructor
  · rintro h r b ⟨repository, hr, hmem⟩
    rw [h r repository hr b hmem, hw.placed r repository hr]
  · intro h r repository hr b hmem
    rw [h r b ⟨repository, hr, hmem⟩, hw.placed r repository hr]

theorem alone_iff {rs : List Addr} : w.Alone batch rs ↔
    ∀ b ∈ batch, ∀ r ∈ rs, ∀ r', r' ∈ rs ∨ w.Stores r' b → r' = r := by
  unfold Alone
  refine forall₂_congr fun b _ => forall₂_congr fun r _ => ?_
  constructor
  · rintro ⟨hrs, hall⟩ r' (hr' | ⟨repository, hr', hmem⟩)
    · exact hrs r' hr'
    · exact hall r' repository hr' hmem
  · intro h
    exact ⟨fun r' hr' => h r' (.inl hr'),
      fun r' repository hr' hmem => h r' (.inr ⟨repository, hr', hmem⟩)⟩

theorem designated_of_keeps (hw : w.Sound) (hw' : w'.Sound)
    (hcv : ∀ b, w'.clients.cvOf b = w.clients.cvOf b)
    (hstores : ∀ r b, w'.Stores r b → w.Stores r b) (h : w.Designated) :
    w'.Designated := by
  rw [designated_iff hw] at h
  rw [designated_iff hw']
  intro r b hb
  rw [hcv, h r b (hstores r b hb)]

/-- One add. -/
theorem designated_added_iff (hw : w.Sound) (hw' : w'.Sound)
    (hadded : Added w w' r batch) (h : w.Designated) :
    w'.Designated ↔ w.Alone batch [r] := by
  rw [designated_iff hw] at h
  rw [designated_iff hw', alone_iff]
  constructor
  · intro h' b hb r₁ hr₁ r' hr'
    obtain rfl := List.mem_singleton.mp hr₁
    rcases hr' with hr' | hstores
    · exact List.mem_singleton.mp hr'
    · by_contra hne
      have hcv := h' r' b (hadded.others r' b hne hstores)
      rw [hadded.cv, if_pos hb.symm] at hcv
      exact hne (Option.some.inj hcv).symm
  · intro halone r' c hc
    rw [hadded.cv]
    rcases hadded.new r' c hc with hold | ⟨rfl, hnew⟩
    · split
      · next heq =>
          rw [halone c heq.symm r (List.mem_singleton_self r) r' (.inr hold)]
      · exact h r' c hold
    · rw [if_pos hnew]

theorem designated_addDataBatch (hw : w.Sound) (hbatch : ∀ b ∈ batch, b ∈ w.held)
    {ops : List OperatorPortKey} (h : w.Designated)
    (halone : w.Alone batch (w.targets ops)) :
    (w.addDataBatch batch ops).1.Designated := by
  refine (addDataBatch_induction
    (P := fun w rs => w.Designated ∧ w.Alone batch rs) hw hbatch ops ⟨h, halone⟩
    ?_ fun _ _ hP => hP).2.1
  rintro w r rs hw hbatch hr ⟨h, halone⟩
  have hadded := added_addTo hw hr hbatch 0
  have hsound := sound_addTo hw hr hbatch 0
  rw [alone_iff] at halone
  rw [designated_added_iff hw hsound hadded h, alone_iff, alone_iff]
  constructor
  · intro b hb r₁ hr₁ r' hr'
    obtain rfl := List.mem_singleton.mp hr₁
    refine halone b hb r₁ List.mem_cons_self r' (hr'.imp_left fun hr' => ?_)
    rw [List.mem_singleton.mp hr']
    exact List.mem_cons_self
  · intro b hb r₁ hr₁ r' hr'
    refine halone b hb r₁ (List.mem_cons_of_mem r hr₁) r' ?_
    rcases hr' with hr' | hstores
    · exact .inl (List.mem_cons_of_mem r hr')
    · rcases hadded.new r' b hstores with hold | ⟨rfl, -⟩
      · exact .inr hold
      · exact .inl List.mem_cons_self

/-- Every repository that the loop over the ports reaches has the batch
afterwards, and whoever had it still has it. -/
theorem stores_addDataBatch (hw : w.Sound) (hbatch : ∀ b ∈ batch, b ∈ w.held)
    (ops : List OperatorPortKey) (hb : b ∈ batch)
    (hr : r ∈ w.targets ops ∨ w.Stores r b) :
    (w.addDataBatch batch ops).1.Stores r b := by
  have h := (addDataBatch_induction (P := fun w rs => r ∈ rs ∨ w.Stores r b)
    hw hbatch ops hr ?_ fun _ _ hP => hP).2
  · exact h.resolve_left List.not_mem_nil
  · intro w r₁ rs hw hbatch hr₁ hP
    have hadded := added_addTo hw hr₁ hbatch 0
    have hfirst := (addTo_first hw hr₁ batch).2 b
    by_cases heq : r = r₁
    · rw [heq]
      exact .inr (hfirst (.inl hb.symm))
    · rcases hP with hmem | hstores
      · exact .inl ((List.mem_cons.mp hmem).resolve_left heq)
      · exact .inr (hadded.others r b heq hstores)

theorem designated_addDataBatch_iff (hw : w.Sound)
    (hbatch : ∀ b ∈ batch, b ∈ w.held) (ops : List OperatorPortKey)
    (h : w.Designated) :
    (w.addDataBatch batch ops).1.Designated ↔ w.Alone batch (w.targets ops) := by
  refine ⟨fun h' => ?_, designated_addDataBatch hw hbatch h⟩
  rw [designated_iff (sound_addDataBatch hw hbatch ops)] at h'
  rw [alone_iff]
  intro b hb r hr r' hr'
  have hone := h' r b (stores_addDataBatch hw hbatch ops hb (.inl hr))
  have hother := h' r' b (stores_addDataBatch hw hbatch ops hb hr')
  exact Option.some.inj (hother.symm.trans hone)

theorem designated_next_iff (hw : w.Sound) (h : w.Designated) {op : ManagerOp}
    (hop : w.Proper op) : (machine.next w op).Designated ↔ w.AddsAlone op := by
  have hw' := sound_next hw hop
  have hwithin : Within w (machine.next w op) → ((machine.next w op).Designated ↔ True) :=
    fun hwithin => iff_true_intro (designated_of_keeps hw hw' hwithin.cv hwithin.stores h)
  cases op with
  | create b batchId data =>
      exact iff_true_intro
        (designated_of_keeps hw hw' (cvOf_create hop batchId data) (fun _ _ hb => hb) h)
  | copy b => exact hwithin (within_copy hw hop).2
  | letGo b => exact hwithin (within_letGo hw b).2
  | client op => exact hwithin (within_client hw hop.1).2
  | newRepository r => exact hwithin (within_newRepository hw hop.1).2
  | addNewRepository key r => exact hwithin loses_addNewRepository.within
  | addDataBatch batch ops => exact designated_addDataBatch_iff hw hop ops h
  | addTo r batch partitionIdx =>
      exact designated_added_iff hw hw' (added_addTo hw hop.1 hop.2 partitionIdx) h
  | find r q partitionIdx => exact hwithin (within_find hw).2
  | destroyRepository r => exact hwithin loses_destroyRepository.within
  | destroyManager => exact hwithin loses_destroyManager.within

/-- In a run from nothing every batch in a repository notifies this repository,
in each state, exactly if no batch is ever added to a second one while it is in
a first. -/
theorem always_designated_iff {ops : List ManagerOp} (hs : machine.start w)
    (hlaw : machine.Lawful w ops) :
    machine.Always Designated w ops ↔ machine.Every AddsAlone w ops := by
  have hnothing : w.Designated := by
    intro r repository hr
    rw [hs.2.2.1, AList.lookup_empty] at hr
    cases hr
  exact Machine.always_iff_every (J := Sound) (fun _ _ hw _ hop _ => sound_next hw hop)
    (fun _ _ hw h hop => designated_next_iff hw h hop) (sound_of_fresh hs) hnothing hlaw

/-- A manager that has nothing yet. -/
def nothing : ManagerWorld := ⟨⟨∅, ∅⟩, ∅, ∅, [], []⟩

theorem fresh_nothing : nothing.Fresh := ⟨rfl, rfl, rfl, rfl, rfl, rfl⟩

/-- Two operators, each with a repository at its default port. -/
def twoOperators : List ManagerOp :=
  [.newRepository 10, .addNewRepository ⟨1, "default"⟩ 10, .newRepository 20,
    .addNewRepository ⟨2, "default"⟩ 20, .create 1 7 (some ⟨16, ⟨.GPU, 0⟩⟩)]

/-- A batch goes from one operator to the next. -/
theorem always_designated_handedOn :
    machine.Always Designated nothing
      (twoOperators ++
        [.addDataBatch (some 1) [⟨1, "default"⟩], .find 10 (.popDataBatch .taskCreated) 0,
          .addDataBatch (some 1) [⟨2, "default"⟩]]) :=
  (always_designated_iff fresh_nothing
    (show machine.Every Proper _ _ by decide)).mpr (by decide)

/-- A batch is added to both operators at once: the first one no longer hears of
it. -/
theorem shared_batch_designates_one :
    let ops := twoOperators ++
      [.addDataBatch (some 1) [⟨1, "default"⟩, ⟨2, "default"⟩]]
    machine.Lawful nothing ops ∧ ¬machine.Always Designated nothing ops := by
  refine ⟨show machine.Every Proper _ _ by decide, fun h => ?_⟩
  exact absurd (h.last 10 _ rfl 1 (by decide)) (by decide)

/-! ## Batches in use -/

/-- The condition variable that a batch in use notifies is that of a repository
that exists. -/
def Attached (w : ManagerWorld) : Prop :=
  ∀ b, w.Owned b → ∀ cv, w.clients.cvOf b = some cv → cv ∈ w.repositories

/-- What a batch notifies in a call is the condition variable of a repository
that exists. -/
def Reaching (w : ManagerWorld) (op : ManagerOp) : Prop :=
  ∀ cv ∈ (w.perform op).2, cv ∈ w.repositories

/-- No batch that points to a repository outlives it, neither with a client nor
in another repository. -/
def NoneOutlives (w : ManagerWorld) (op : ManagerOp) : Prop :=
  ∀ r ∈ w.destroys op, w.clients.batches.All fun b batch =>
    batch.stateChangeCv = some r →
      b ∉ w.held ∧ ∀ e ∈ w.repositories.entries, e.1 ∉ w.destroys op →
        some b ∉ e.2.dataBatches.flatten

instance (w : ManagerWorld) (op : ManagerOp) : Decidable (w.Reaching op) :=
  inferInstanceAs (Decidable (∀ cv ∈ (w.perform op).2, _))

instance (w : ManagerWorld) (op : ManagerOp) : Decidable (w.NoneOutlives op) :=
  inferInstanceAs (Decidable (∀ r ∈ w.destroys op, _))

theorem attached_of_within (hwithin : Within w w')
    (hlive : ∀ r ∈ w.repositories, r ∈ w'.repositories) (h : w.Attached) :
    w'.Attached := by
  intro b hb cv hcv
  rw [hwithin.cv] at hcv
  exact hlive cv (h b (hwithin.owned hb) cv hcv)

/-- Destructors of repositories. -/
theorem attached_loses_iff {op : ManagerOp} (hloses : Loses w w' (w.destroys op))
    (h : w.Attached) : w'.Attached ↔ w.NoneOutlives op := by
  constructor
  · intro h' r hr b batch hb hcv
    have howned : ¬w'.Owned b := by
      intro howned
      have hcv' : w'.clients.cvOf b = some r := by
        rw [hloses.clients, BatchWorld.cvOf_eq hb, hcv]
      exact (hloses.mem.mp (h' b howned r hcv')).2 hr
    rw [owned_iff, not_or, not_exists, hloses.held] at howned
    refine ⟨howned.1, fun e he halive hmem => howned.2 e.1 ?_⟩
    exact hloses.stores_iff.mpr ⟨⟨e.2, AList.mem_entries_iff.mp he, hmem⟩, halive⟩
  · intro hnone b hb cv hcv
    rw [hloses.clients] at hcv
    refine hloses.mem.mpr ⟨h b (hloses.within.owned hb) cv hcv, fun hdead => ?_⟩
    obtain ⟨batch, hbatch, hbatchcv⟩ := Option.bind_eq_some_iff.mp hcv
    obtain ⟨hheld, hstored⟩ := hnone cv hdead b batch hbatch hbatchcv
    rcases owned_iff.mp hb with hb | ⟨r, hr⟩
    · exact hheld (hloses.held ▸ hb)
    · obtain ⟨⟨repository, hlookup, hmem⟩, halive⟩ := hloses.stores_iff.mp hr
      exact hstored ⟨r, repository⟩ (AList.mem_entries_iff.mpr hlookup) halive hmem

theorem attached_added (hadded : Added w w' r batch) (hr : r ∈ w.repositories)
    (hbatch : ∀ b ∈ batch, b ∈ w.held) (h : w.Attached) : w'.Attached := by
  intro c hc cv hcv
  rw [hadded.cv] at hcv
  rw [hadded.live]
  split at hcv
  · cases hcv
    exact hr
  · refine h c ?_ cv hcv
    rcases owned_iff.mp hc with hheld | ⟨r', hstores⟩
    · exact .inl (hadded.held ▸ hheld)
    · rcases hadded.new r' c hstores with hold | ⟨-, hnew⟩
      · exact hold.owned
      · exact .inl (hbatch c hnew.symm)

theorem attached_addDataBatch (hw : w.Sound) (hbatch : ∀ b ∈ batch, b ∈ w.held)
    (ops : List OperatorPortKey) (h : w.Attached) :
    (w.addDataBatch batch ops).1.Attached := by
  refine (addDataBatch_induction (P := fun w _ => w.Attached) hw hbatch ops h ?_
    fun _ _ hP => hP).2
  intro w r rs hw hbatch hr h
  exact attached_added (added_addTo hw hr hbatch 0) hr hbatch h

theorem attached_create (hb : b ∉ w.clients.batches) (batchId : UInt64)
    (data : Option Representation) (h : w.Attached) :
    (w.perform (.create b batchId data)).1.Attached := by
  intro c hc cv hcv
  rw [cvOf_create hb] at hcv
  have hne : c ≠ b := by
    rintro rfl
    rw [BatchWorld.cvOf, AList.lookup_eq_none.mpr hb] at hcv
    cases hcv
  exact h c (hc.imp_left fun hheld => (List.mem_cons.mp hheld).resolve_left hne) cv hcv

theorem attached_next_iff (hw : w.Sound) (h : w.Attached) {op : ManagerOp}
    (hop : w.Proper op) : (machine.next w op).Attached ↔ w.NoneOutlives op := by
  -- a call without a destructor
  have hkeeps : w.destroys op = [] → (machine.next w op).Attached →
      ((machine.next w op).Attached ↔ w.NoneOutlives op) := by
    intro hnone h'
    refine iff_of_true h' fun r hr => ?_
    rw [hnone] at hr
    cases hr
  cases op with
  | create b batchId data => exact hkeeps rfl (attached_create hop batchId data h)
  | copy b =>
      exact hkeeps rfl (attached_of_within (within_copy hw hop).2 (fun _ hr => hr) h)
  | letGo b =>
      exact hkeeps rfl (attached_of_within (within_letGo hw b).2 (fun _ hr => hr) h)
  | client op =>
      exact hkeeps rfl (attached_of_within (within_client hw hop.1).2 (fun _ hr => hr) h)
  | newRepository r =>
      exact hkeeps rfl (attached_of_within (within_newRepository hw hop.1).2
        (fun _ hr => (AList.mem_insert _).mpr (.inr hr)) h)
  | addNewRepository key r => exact attached_loses_iff loses_addNewRepository h
  | addDataBatch batch ops => exact hkeeps rfl (attached_addDataBatch hw hop ops h)
  | addTo r batch partitionIdx =>
      exact hkeeps rfl
        (attached_added (added_addTo hw hop.1 hop.2 partitionIdx) hop.1 hop.2 h)
  | find r q partitionIdx =>
      have hfinds := finds_find hw r q partitionIdx
      exact hkeeps rfl
        (attached_of_within hfinds.within (fun r' hr => (hfinds.live r').mpr hr) h)
  | destroyRepository r => exact attached_loses_iff loses_destroyRepository h
  | destroyManager => exact attached_loses_iff loses_destroyManager h

/-- As long as the batches in use are attached, what they notify exists. -/
theorem reaching_of_attached (hw : w.Sound) (h : w.Attached) {op : ManagerOp}
    (hop : w.Proper op) : w.Reaching op := by
  intro cv hcv
  cases op with
  | client op =>
      obtain ⟨b, hb, hbcv⟩ := BatchWorld.cvOf_of_notify hcv
      exact h b (hop.2 b hb) cv hbcv
  | find r q partitionIdx =>
      obtain ⟨b, hb, hbcv⟩ := (finds_find hw r q partitionIdx).notified cv hcv
      exact h b hb.owned cv hbcv
  | _ => cases hcv

/-- In a run from nothing no batch in use points to a repository that has been
destroyed, and no batch notifies one, exactly if no repository is ever destroyed
while a batch that points to it is still in use. -/
theorem always_attached_iff {ops : List ManagerOp} (hs : machine.start w)
    (hlaw : machine.Lawful w ops) :
    (machine.Always Attached w ops ∧ machine.Every Reaching w ops) ↔
      machine.Every NoneOutlives w ops := by
  have hsound := sound_of_fresh hs
  have hnothing : w.Attached := by
    intro b hb
    have hmem := hsound.exists_of_owned b hb
    rw [hs.1] at hmem
    exact absurd hmem (AList.notMem_empty b)
  have hrun : machine.Always Attached w ops ↔ machine.Every NoneOutlives w ops :=
    Machine.always_iff_every (J := Sound) (fun _ _ hw _ hop _ => sound_next hw hop)
      (fun _ _ hw h hop => attached_next_iff hw h hop) hsound hnothing hlaw
  rw [← hrun, and_iff_left_iff_imp]
  intro halways
  exact halways.every (J := Sound) (fun _ _ hw hop => sound_next hw hop)
    (fun _ _ hw h hop => reaching_of_attached hw h hop) hsound hlaw

/-- A batch is popped and let go before the manager is destroyed with all its
repositories. -/
theorem always_attached_letGo :
    let ops := twoOperators ++
      [.addDataBatch (some 1) [⟨1, "default"⟩], .letGo 1,
        .find 10 (.popDataBatch .taskCreated) 0, .client (.tryToCancelTask 1),
        .letGo 1, .destroyManager]
    machine.Always Attached nothing ops ∧ machine.Every Reaching nothing ops :=
  (always_attached_iff fresh_nothing
    (show machine.Every Proper _ _ by decide)).mpr (by decide)

/-- A batch is popped, its repository is destroyed, and the task is
cancelled. -/
theorem popped_batch_notifies_the_dead :
    let ops : List ManagerOp :=
      [.newRepository 10, .create 1 7 (some ⟨16, ⟨.GPU, 0⟩⟩), .addTo 10 (some 1) 0,
        .find 10 (.popDataBatch .taskCreated) 0, .destroyRepository 10,
        .client (.tryToCancelTask 1)]
    machine.Lawful nothing ops ∧
      ¬(machine.Always Attached nothing ops ∧ machine.Every Reaching nothing ops) := by
  refine ⟨show machine.Every Proper _ _ by decide, fun h => ?_⟩
  exact absurd h.2 (by decide)

end ManagerWorld

end CuCascade.Data

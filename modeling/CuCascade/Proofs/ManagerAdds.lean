import CuCascade.Data.DataRepositoryManager
import CuCascade.Proofs.Storage

/-!
# Adding a batch to several operators

The manager looks each port up in its map with the lookup that inserts, and
calls what it finds. With a repository for every port the batch is appended to
each of them and that is all. A port without one ends the call in the middle:
the ports before it have been served, the null pointer that the lookup has made
is called, and it stays in the map, where it keeps a repository from being
registered later.
-/

namespace CuCascade.Data

open Memory Buckets

/-- A repository with so many more entries for a batch at the end of its first
partition. -/
def DataRepository.appended (r : DataRepository) (batch : Option Addr) (n : Nat) :
    DataRepository :=
  { r with dataBatches := (push · 0 batch)^[n] r.dataBatches }

theorem DataRepository.bucket_appended (r : DataRepository) (batch : Option Addr)
    (n i : Nat) :
    bucket (r.appended batch n).dataBatches i =
      bucket r.dataBatches i ++ if i = 0 then List.replicate n batch else [] := by
  induction n with
  | zero => simp [appended]
  | succ n ih =>
      have hpush : (r.appended batch (n + 1)).dataBatches =
          push (r.appended batch n).dataBatches 0 batch :=
        Function.iterate_succ_apply' (push · 0 batch) n r.dataBatches
      rw [hpush]
      by_cases hi : i = 0
      · subst hi
        rw [bucket_push_self, ih, List.append_assoc, if_pos rfl, if_pos rfl,
          List.replicate_succ']
      · rw [bucket_push_ne hi, ih, if_neg hi, if_neg hi]

namespace ManagerWorld

variable {w w₁ w₂ : ManagerWorld} {batch : Option Addr} {key : OperatorPortKey}
  {ops ops₁ ops₂ : List OperatorPortKey} {r : Addr} {repository : DataRepository}
  {ptrType : PtrType}

/-- The port has a repository. -/
def Registered (w : ManagerWorld) (key : OperatorPortKey) : Prop :=
  ∃ r, w.at? key = some r ∧ r ∈ w.repositories

/-- The batch has been appended once for each port of the list, and told a
condition variable. Nothing else has changed. -/
structure Appends (w : ManagerWorld) (batch : Option Addr)
    (ops : List OperatorPortKey) (w' : ManagerWorld) : Prop where
  repositories : ∀ r, w'.repositories.lookup r =
    (w.repositories.lookup r).map (·.appended batch ((ops.map w.at?).count (some r)))
  manager : w'.manager = w.manager
  batches : ∀ b, (w'.clients.batches.lookup b).map (·.setStateChangeCv none) =
    (w.clients.batches.lookup b).map (·.setStateChangeCv none)
  others : ∀ b, some b ≠ batch →
    w'.clients.batches.lookup b = w.clients.batches.lookup b
  handles : w'.clients.handles = w.clients.handles
  held : w'.held = w.held
  destroyed : w'.destroyed = w.destroyed

theorem at?_congr (h : w₁.manager = w.manager) : w₁.at? = w.at? := by
  funext key
  rw [at?, at?, h]

theorem Appends.refl (w : ManagerWorld) (batch : Option Addr) :
    w.Appends batch [] w where
  repositories r := by
    cases w.repositories.lookup r <;> rfl
  manager := rfl
  batches _ := rfl
  others _ _ := rfl
  handles := rfl
  held := rfl
  destroyed := rfl

theorem Appends.trans (h₁ : w.Appends batch ops₁ w₁) (h₂ : w₁.Appends batch ops₂ w₂) :
    w.Appends batch (ops₁ ++ ops₂) w₂ where
  repositories r := by
    rw [h₂.repositories, h₁.repositories, Option.map_map, at?_congr h₁.manager,
      List.map_append, List.count_append]
    congr 1
    funext repository
    simp only [Function.comp_apply, DataRepository.appended]
    rw [Nat.add_comm, Function.iterate_add_apply]
  manager := h₂.manager.trans h₁.manager
  batches b := (h₂.batches b).trans (h₁.batches b)
  others b hb := (h₂.others b hb).trans (h₁.others b hb)
  handles := h₂.handles.trans h₁.handles
  held := h₂.held.trans h₁.held
  destroyed := h₂.destroyed.trans h₁.destroyed

theorem Appends.registered_iff (h : w.Appends batch ops w₁) :
    w₁.Registered key ↔ w.Registered key := by
  have hlive : ∀ r, r ∈ w₁.repositories ↔ r ∈ w.repositories := by
    intro r
    rw [← AList.lookup_isSome, ← AList.lookup_isSome, h.repositories,
      Option.isSome_map]
  simp only [Registered, at?_congr h.manager, hlive]

/-- What a batch is told changes nothing else of it. -/
theorem setStateChangeCv_batches (clients : BatchWorld) (b c : Addr) (cv : Option Addr) :
    ((clients.setStateChangeCv b cv).batches.lookup c).map (·.setStateChangeCv none) =
      (clients.batches.lookup c).map (·.setStateChangeCv none) := by
  rw [BatchWorld.setStateChangeCv]
  cases hb : clients.batches.lookup b with
  | none => rfl
  | some told =>
      show ((clients.batches.insert b _).lookup c).map _ = _
      by_cases hc : c = b
      · rw [hc, hb, AList.lookup_insert]
        rfl
      · rw [AList.lookup_insert_ne hc]

theorem setStateChangeCv_others (clients : BatchWorld) {b c : Addr} (cv : Option Addr)
    (hc : c ≠ b) :
    (clients.setStateChangeCv b cv).batches.lookup c = clients.batches.lookup c := by
  rw [BatchWorld.setStateChangeCv]
  cases clients.batches.lookup b with
  | none => rfl
  | some told => exact AList.lookup_insert_ne hc

theorem setStateChangeCv_handles (clients : BatchWorld) (b : Addr) (cv : Option Addr) :
    (clients.setStateChangeCv b cv).handles = clients.handles := by
  rw [BatchWorld.setStateChangeCv]
  cases clients.batches.lookup b <;> rfl

/-- The add of one repository. -/
theorem addTo_appends (batch : Option Addr) (hkey : w.at? key = some r)
    (hr : w.repositories.lookup r = some repository) :
    (w.addTo r batch 0).2 = .ok () ∧
      w.Appends batch [key] (w.addTo r batch 0).1 := by
  have hzero : (0 : UInt64).toNat + 1 < 2 ^ 64 := by decide
  simp only [addTo, hr, addDataBatch_ok repository batch hzero]
  refine ⟨trivial, ⟨fun r' => ?_, rfl, fun b => ?_, fun b hb => ?_, ?_, rfl, rfl⟩⟩
  · by_cases heq : r' = r
    · rw [heq, AList.lookup_insert, hr, List.map_singleton, hkey, List.count_singleton_self]
      rfl
    · have hne : some r' ≠ some r := fun h => heq (Option.some.inj h)
      rw [AList.lookup_insert_ne heq, List.map_singleton, hkey,
        List.count_eq_zero.mpr (by rwa [List.mem_singleton])]
      cases w.repositories.lookup r' <;> rfl
  · cases batch with
    | none => rfl
    | some told => exact setStateChangeCv_batches w.clients told b _
  · cases batch with
    | none => rfl
    | some told =>
        exact setStateChangeCv_others w.clients _ fun h => hb (congrArg some h)
  · cases batch with
    | none => rfl
    | some told => exact setStateChangeCv_handles w.clients told _

/-- The loop, when every port has a repository. -/
theorem addDataBatch_of_registered (h : ∀ key ∈ ops, w.Registered key) :
    (w.addDataBatch batch ops).2 = .ok () ∧
      w.Appends batch ops (w.addDataBatch batch ops).1 := by
  induction ops generalizing w with
  | nil => exact ⟨rfl, .refl w batch⟩
  | cons key ops ih =>
      obtain ⟨r, hkey, hr⟩ := h key List.mem_cons_self
      obtain ⟨repository, hr⟩ := AList.exists_lookup hr
      obtain ⟨hok, happends⟩ := addTo_appends batch hkey hr
      have hadd : w.addTo r batch 0 = ((w.addTo r batch 0).1, .ok ()) := Prod.ext rfl hok
      have hrest : ∀ key' ∈ ops, (w.addTo r batch 0).1.Registered key' := fun key' hmem =>
        happends.registered_iff.mpr (h key' (List.mem_cons_of_mem key hmem))
      have hcons : w.addDataBatch batch (key :: ops) =
          (w.addTo r batch 0).1.addDataBatch batch ops := by
        rw [addDataBatch, hkey]
        simp only
        rw [hadd]
      rw [hcons]
      exact ⟨(ih hrest).1, happends.trans (ih hrest).2⟩

/-- A port without a repository, wherever it stands in the list. -/
theorem addDataBatch_of_missing (h : ∃ key ∈ ops, ¬ w.Registered key) :
    (w.addDataBatch batch ops).2 = .error .nullDereference := by
  induction ops generalizing w with
  | nil =>
      obtain ⟨key, hmem, -⟩ := h
      cases hmem
  | cons key ops ih =>
      rw [addDataBatch]
      cases hkey : w.at? key with
      | none => rfl
      | some r =>
          simp only
          cases hr : w.repositories.lookup r with
          | none => simp only [addTo, hr]
          | some repository =>
              obtain ⟨hok, happends⟩ := addTo_appends batch hkey hr
              have hadd : w.addTo r batch 0 = ((w.addTo r batch 0).1, .ok ()) :=
                Prod.ext rfl hok
              have hregistered : w.Registered key :=
                ⟨r, hkey, AList.lookup_isSome.mp (by rw [hr]; rfl)⟩
              obtain ⟨key', hmem, hmissing⟩ := h
              have hrest : key' ∈ ops := by
                rcases List.mem_cons.mp hmem with heq | hmem
                · exact absurd (heq ▸ hregistered) hmissing
                · exact hmem
              rw [hadd]
              exact ih ⟨key', hrest, fun h => hmissing (happends.registered_iff.mp h)⟩

theorem addDataBatchUnique_singleton :
    w.addDataBatchUnique batch [key] = w.addDataBatch batch [key] := by
  have hone : ¬ 1 < [key].length := by simp
  simp only [addDataBatchUnique, if_neg hone, addDataBatch]
  cases w.at? key with
  | none => rfl
  | some r =>
      simp only
      rcases w.addTo r batch 0 with ⟨w', e | ⟨⟩⟩
      · rfl
      · rfl

/-- A list that is not one port is refused before anything is looked up. -/
theorem addDataBatchUnique_of_length (h : ops.length ≠ 1) :
    ∃ e, w.addDataBatchUnique batch ops = (w, .error (.thrown e)) := by
  by_cases hmore : 1 < ops.length
  · simp only [addDataBatchUnique, if_pos hmore]
    exact ⟨_, rfl⟩
  · simp only [addDataBatchUnique, if_neg hmore]
    cases ops with
    | nil => exact ⟨_, rfl⟩
    | cons key ops => rw [List.length_cons] at h hmore; omega

/-- The list can be served: each port has a repository, and there is one of them
where the batch cannot be copied. -/
def Servable (w : ManagerWorld) (ptrType : PtrType) (ops : List OperatorPortKey) : Prop :=
  (∀ key ∈ ops, w.Registered key) ∧ (ptrType = .uniquePtr → ops.length = 1)

/-- The add serves the whole list, or throws and changes neither a repository
nor the map, so that a port without a repository can still be given one. -/
structure AllOrNothing (w : ManagerWorld) (ptrType : PtrType) (batch : Option Addr)
    (ops : List OperatorPortKey) : Prop where
  all : w.Servable ptrType ops →
    (w.addDataBatchImpl ptrType batch ops).2 = .ok () ∧
      w.Appends batch ops (w.addDataBatchImpl ptrType batch ops).1
  fails : ¬ w.Servable ptrType ops →
    ∃ e, (w.addDataBatchImpl ptrType batch ops).2 = .error (.thrown e)
  repositories : ¬ w.Servable ptrType ops →
    (w.addDataBatchImpl ptrType batch ops).1.repositories = w.repositories
  manager : ¬ w.Servable ptrType ops →
    (w.addDataBatchImpl ptrType batch ops).1.manager = w.manager
  later : ¬ w.Servable ptrType ops → ∀ key ∉ w.manager, ∀ r,
    ((w.addDataBatchImpl ptrType batch ops).1.addNewRepository key r).2 = .ok ()

theorem allOrNothing_of_servable
    (hall : (w.addDataBatchImpl ptrType batch ops).2 = .ok () ∧
      w.Appends batch ops (w.addDataBatchImpl ptrType batch ops).1)
    (h : w.Servable ptrType ops) : w.AllOrNothing ptrType batch ops where
  all _ := hall
  fails hnot := absurd h hnot
  repositories hnot := absurd h hnot
  manager hnot := absurd h hnot
  later hnot := absurd h hnot

theorem allOrNothing_of_refused
    (hrefused : ∃ e, w.addDataBatchImpl ptrType batch ops = (w, .error (.thrown e)))
    (h : ¬ w.Servable ptrType ops) : w.AllOrNothing ptrType batch ops := by
  obtain ⟨e, hout⟩ := hrefused
  refine ⟨fun hyes => absurd hyes h, fun _ => ?_, fun _ => ?_, fun _ => ?_, ?_⟩
  · exact ⟨e, by rw [hout]⟩
  · rw [hout]
  · rw [hout]
  · intro _ key hkey r
    rw [hout, addNewRepository, if_neg hkey]

/-- A call that reads through the null pointer neither serves the list nor
throws. -/
theorem not_allOrNothing
    (hnull : (w.addDataBatchImpl ptrType batch ops).2 = .error .nullDereference)
    (h : ¬ w.Servable ptrType ops) : ¬ w.AllOrNothing ptrType batch ops := by
  intro hlaw
  obtain ⟨e, he⟩ := hlaw.fails h
  rw [hnull] at he
  cases he

/-- The add is all or nothing exactly when it looks up no port without a
repository. -/
theorem addDataBatch_allOrNothing_iff (w : ManagerWorld) (ptrType : PtrType)
    (batch : Option Addr) (ops : List OperatorPortKey) :
    w.AllOrNothing ptrType batch ops ↔
      (∀ key ∈ ops, w.Registered key) ∨ (ptrType = .uniquePtr ∧ ops.length ≠ 1) := by
  by_cases hregistered : ∀ key ∈ ops, w.Registered key
  · refine iff_of_true ?_ (.inl hregistered)
    cases ptrType with
    | sharedPtr =>
        exact allOrNothing_of_servable (addDataBatch_of_registered hregistered)
          ⟨hregistered, fun h => by cases h⟩
    | uniquePtr =>
        by_cases hone : ops.length = 1
        · refine allOrNothing_of_servable ?_ ⟨hregistered, fun _ => hone⟩
          obtain ⟨key, rfl⟩ := List.length_eq_one_iff.mp hone
          rw [addDataBatchImpl, addDataBatchUnique_singleton]
          exact addDataBatch_of_registered hregistered
        · exact allOrNothing_of_refused (addDataBatchUnique_of_length hone)
            fun h => hone (h.2 rfl)
  · have hnot : ¬ w.Servable ptrType ops := fun h => hregistered h.1
    have hmissing : ∃ key ∈ ops, ¬ w.Registered key := by
      simpa only [not_forall, exists_prop] using hregistered
    cases ptrType with
    | sharedPtr =>
        refine iff_of_false (not_allOrNothing (addDataBatch_of_missing hmissing) hnot) ?_
        rintro (h | ⟨h, -⟩)
        · exact hregistered h
        · cases h
    | uniquePtr =>
        by_cases hone : ops.length = 1
        · have hnull : (w.addDataBatchImpl .uniquePtr batch ops).2 =
              .error .nullDereference := by
            obtain ⟨key, rfl⟩ := List.length_eq_one_iff.mp hone
            rw [addDataBatchImpl, addDataBatchUnique_singleton]
            exact addDataBatch_of_missing hmissing
          refine iff_of_false (not_allOrNothing hnull hnot) ?_
          rintro (h | ⟨-, h⟩)
          · exact hregistered h
          · exact h hone
        · exact iff_of_true
            (allOrNothing_of_refused (addDataBatchUnique_of_length hone) hnot)
            (.inr ⟨rfl, hone⟩)

/-- A manager with one repository, and a batch that a client holds. -/
def oneRepository : ManagerWorld where
  clients :=
    { batches := (∅ : Table Addr DataBatch).insert 1 (.create 7 none)
      handles := ∅ }
  repositories := (∅ : Table Addr DataRepository).insert 10 (.create 10)
  manager := (∅ : Table OperatorPortKey (Option Addr)).insert ⟨1, "default"⟩ (some 10)
  held := [1]
  destroyed := []

/-- The second port of the list has no repository. The first has been served when
the null pointer is called, and the second cannot be given a repository any
more. -/
theorem missing_port_halfServed :
    let out := oneRepository.addDataBatchImpl .sharedPtr (some 1)
      [⟨1, "default"⟩, ⟨2, "default"⟩]
    out.2 = .error .nullDereference ∧
    (out.1.repositories.lookup 10).map (·.dataBatches) = some [[some 1]] ∧
    (oneRepository.addNewRepository ⟨2, "default"⟩ 20).2 = .ok () ∧
    (out.1.addNewRepository ⟨2, "default"⟩ 20).2 =
      .error (.thrown (.runtimeError "Repository already exists")) ∧
    ¬ oneRepository.AllOrNothing .sharedPtr (some 1)
      [⟨1, "default"⟩, ⟨2, "default"⟩] := by
  refine ⟨rfl, rfl, rfl, rfl, fun h => ?_⟩
  have hnot : ¬ oneRepository.Servable .sharedPtr
      [⟨1, "default"⟩, ⟨2, "default"⟩] := by
    intro hservable
    obtain ⟨r, hr, -⟩ := hservable.1 ⟨2, "default"⟩ (by decide)
    cases hr
  obtain ⟨e, he⟩ := h.fails hnot
  cases he

end ManagerWorld

end CuCascade.Data

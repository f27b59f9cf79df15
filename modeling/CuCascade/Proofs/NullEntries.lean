import CuCascade.Proofs.RepositoryCalls
import CuCascade.Proofs.Storage

/-!
# Null entries are accepted and not handled

`add_data_batch` checks for a null pointer before it calls the batch, and then
stores the pointer like any other. None of the four loops over a partition
checks. A loop that comes to a null entry reads through it, so that it never
gets to what is stored behind; it comes to the entry unless its search ends
before.
-/

namespace CuCascade.Data

open Memory Buckets

namespace DataRepository

section Calls

variable {r : DataRepository} {batches : Table Addr DataBatch}
  {targetState : BatchState} {partitionIdx : UInt64} {entries : List (Option Addr)}
  {batchId : UInt64}

/-- The pointers of a partition that are not null point to batches. -/
def Live (batches : Table Addr DataBatch) (entries : List (Option Addr)) : Prop :=
  ∀ b, some b ∈ entries → b ∈ batches

/-- The search of the call comes to a null entry: every entry before it is
passed. -/
def MeetsNull (batches : Table Addr DataBatch) (entries : List (Option Addr)) :
    Query → Prop
  | .popDataBatch targetState => Asked targetState ∧
      ∃ k, Scan.FirstStop (Passed batches targetState) entries k none
  | .popDataBatchById batchId _ | .getDataBatchById batchId _ =>
      ∃ k, Scan.FirstStop (OtherId batches batchId) entries k none

theorem null_of_unread {e : Option Addr} (hlive : Live batches entries)
    (he : e ∈ entries) (h : e.bind batches.lookup = none) : e = none := by
  cases e with
  | none => rfl
  | some b =>
      obtain ⟨batch, hb⟩ := AList.exists_lookup (hlive b he)
      exact absurd (hb.symm.trans h) (Option.some_ne_none _)

/-- A pop for a target it cannot ask for reads through no pointer. -/
theorem popDataBatch_not_asked (h : ¬ Asked targetState) :
    (r.popDataBatch batches targetState partitionIdx).found ≠
      some (.error .nullDereference) := by
  unfold popDataBatch
  split
  · exact nofun
  split
  · exact nofun
  next entries _ hne =>
    cases entries with
    | nil => exact absurd rfl hne
    | cons e entries =>
        cases targetState with
        | taskCreated | inTransit => exact absurd (by decide) h
        | processing =>
            have hbody : popBody .processing batches e =
              (batches, some (.error (.thrown (.runtimeError popRefusal)))) := rfl
            rw [Scan.scan_cons_stop hbody]
            exact nofun
        | idle =>
            have hreads : Scan.Reads (popBody .idle) (fun _ => True) (· = batches) :=
              ⟨fun s hs a _ => ⟨s, rfl, hs⟩, fun s hs a ha => absurd trivial ha⟩
            have hpass : ∀ a ∈ e :: entries, (fun _ => True) a := fun _ _ => trivial
            obtain ⟨s, -, hscan⟩ := hreads.scan_of_pass rfl hpass
            rw [hscan]
            exact nofun

theorem popDataBatch_null_iff
    (hentries : r.dataBatches[partitionIdx.toNat]? = some entries)
    (hlive : Live batches entries) :
    (r.popDataBatch batches targetState partitionIdx).found =
        some (.error .nullDereference) ↔
      MeetsNull batches entries (.popDataBatch targetState) := by
  by_cases htarget : Asked targetState
  · by_cases hall : ∀ e ∈ entries, Passed batches targetState e
    · obtain ⟨batches', -, heq⟩ := popDataBatch_wait hentries htarget hall
      rw [heq]
      refine iff_of_false (fun h => ?_) ?_
      · dsimp only at h
        split at h <;> cases h
      · rintro ⟨-, k, hfirst⟩
        exact hfirst.2.1 (hall none hfirst.mem)
    · obtain ⟨k, e, hfirst⟩ := Scan.exists_firstStop hall
      rcases hread : e.bind batches.lookup with _ | batch
      · have hnull := null_of_unread hlive hfirst.mem hread
        subst hnull
        obtain ⟨batches', -, hscan⟩ := (popBody_reads htarget).scan_of_firstStop
          (s := batches) (i := 0) (fun _ => rfl) hfirst
        have hne : entries.isEmpty = false :=
          List.isEmpty_eq_false_iff.mpr (List.ne_nil_of_mem hfirst.mem)
        have hbody : popBody targetState batches' none =
          (batches', some (.error .nullDereference)) := popBody_null htarget rfl
        simp only [popDataBatch, hentries, hne, hscan, hbody, Option.map_some,
          Bool.false_eq_true, if_false, true_iff]
        exact ⟨htarget, k, hfirst⟩
      · obtain ⟨b, rfl, hb⟩ := Option.bind_eq_some_iff.mp hread
        have hcan : batch.CanTransition targetState := by
          by_contra hcannot
          exact hfirst.2.1 ⟨batch, hread, hcannot⟩
        obtain ⟨batches', notify, -, heq⟩ :=
          popDataBatch_take hentries htarget hfirst hb hcan
        rw [heq]
        refine iff_of_false (fun h => by cases h) ?_
        rintro ⟨-, j, hfirst'⟩
        obtain ⟨-, hne⟩ := hfirst.unique hfirst'
        cases hne
  · exact iff_of_false (popDataBatch_not_asked htarget) fun h => htarget h.1

/-- A transition tried on a live batch reads through no null pointer. -/
theorem transition_ne_null {b : Addr} {batch : DataBatch}
    (hb : batches.lookup b = some batch) (targetState : BatchState) :
    (tryTransitionPtrForPop batches (some b) targetState).2.2 ≠
      .error .nullDereference := by
  by_cases htarget : Asked targetState
  · by_cases hcan : batch.CanTransition targetState
    · obtain ⟨notify, heq⟩ := transition_can htarget hb hcan
      rw [heq]
      exact nofun
    · rw [transition_cannot htarget hb hcan]
      exact nofun
  · cases targetState with
    | taskCreated | inTransit => exact absurd (by decide) htarget
    | processing | idle => exact nofun

theorem popDataBatchById_null_iff {target : Option BatchState}
    (hentries : r.dataBatches[partitionIdx.toNat]? = some entries)
    (hlive : Live batches entries) :
    (r.popDataBatchById batches batchId target partitionIdx).found =
        some (.error .nullDereference) ↔
      MeetsNull batches entries (.popDataBatchById batchId target) := by
  unfold MeetsNull
  rcases scan_id_cases batches batchId entries with ⟨hall, hscan⟩ |
    ⟨k, e, hfirst, ⟨hread, hscan⟩ | ⟨b, batch, rfl, hb, -, hscan⟩⟩
  · simp only [popDataBatchById, hentries, hscan]
    refine iff_of_false (fun h => by cases h) ?_
    rintro ⟨k, hfirst⟩
    exact hfirst.2.1 (hall none hfirst.mem)
  · simp only [popDataBatchById, hentries, hscan, true_iff]
    exact ⟨k, null_of_unread hlive hfirst.mem hread ▸ hfirst⟩
  · refine iff_of_false ?_ ?_
    · have hk : entries[k]?.join = some b := by
        rw [hfirst.1]
        rfl
      simp only [popDataBatchById, hentries, hscan, hk]
      cases target with
      | none => exact fun h => by cases h
      | some targetState =>
          have hne := transition_ne_null hb targetState
          dsimp only
          generalize tryTransitionPtrForPop batches (some b) targetState = tried at hne
          rcases tried with ⟨batches', notify, e | able⟩
          · intro h
            cases h
            exact hne rfl
          · cases able <;> exact fun h => by cases h
    · rintro ⟨j, hfirst'⟩
      obtain ⟨-, hne⟩ := hfirst.unique hfirst'
      cases hne

theorem SameEnd.null_iff {found found' : Found} (h : SameEnd found found') :
    found = some (.error .nullDereference) ↔
      found' = some (.error .nullDereference) := by
  rcases h with rfl | ⟨what, what', rfl, rfl⟩
  · rfl
  · exact iff_of_false (fun h => by cases h) (fun h => by cases h)

theorem MeetsNull.mem {q : Query} (h : MeetsNull batches entries q) :
    none ∈ entries := by
  cases q with
  | popDataBatch targetState => exact h.2.choose_spec.mem
  | popDataBatchById _ _ | getDataBatchById _ _ => exact h.choose_spec.mem

theorem call_outOfRange (h : r.dataBatches[partitionIdx.toNat]? = none) (q : Query) :
    r.call batches partitionIdx q = r.outOfRange batches := by
  cases q <;> simp only [call, popDataBatch, popDataBatchById, getDataBatchById, h]

/-- A call reads through a null pointer exactly if its search comes to a null
entry. -/
theorem call_null_iff (hentries : r.dataBatches[partitionIdx.toNat]? = some entries)
    (hlive : Live batches entries) (q : Query) :
    (r.call batches partitionIdx q).found = some (.error .nullDereference) ↔
      MeetsNull batches entries q := by
  cases q with
  | popDataBatch targetState => exact popDataBatch_null_iff hentries hlive
  | popDataBatchById batchId target => exact popDataBatchById_null_iff hentries hlive
  | getDataBatchById batchId target =>
      have hsame := (getDataBatchById_alike r batches batchId target partitionIdx).1
      exact hsame.null_iff.trans (popDataBatchById_null_iff hentries hlive)

/-- The loop of `get_batch_ids` goes over all entries. -/
theorem getBatchIds_null_iff
    (hentries : r.dataBatches[partitionIdx.toNat]? = some entries)
    (hlive : Live batches entries) :
    r.getBatchIds batches partitionIdx = .error .nullDereference ↔ none ∈ entries := by
  have hreads : Scan.Reads (idsBody batches)
      (fun e => e.bind batches.lookup ≠ none) (fun _ => True) := by
    refine ⟨fun ids _ e he => ?_, fun ids _ e he => ?_⟩
    · obtain ⟨batch, hread⟩ := Option.ne_none_iff_exists'.mp he
      simp only [idsBody, hread]
      exact ⟨_, rfl, trivial⟩
    · simp only [idsBody, not_not.mp he]
      exact nofun
  rcases hreads.scan_cases (s := []) trivial entries 0 with
    ⟨hall, ids, -, hscan⟩ | ⟨k, e, ids, hfirst, -, hscan⟩
  · simp only [getBatchIds, hentries, hscan]
    exact iff_of_false nofun fun hmem => hall none hmem rfl
  · have hread : e.bind batches.lookup = none := not_not.mp hfirst.2.1
    simp only [getBatchIds, hentries, hscan, idsBody, hread, Option.map_some, true_iff]
    exact null_of_unread hlive hfirst.mem hread ▸ hfirst.mem

end Calls

/-! ## What the adds leave -/

section Adds

variable {r r' : DataRepository} {batch : Option Addr} {idx : UInt64}

/-- An add that returns has put the pointer at the end of its partition. -/
theorem addDataBatch_returns (h : r.addDataBatch batch idx = (r', .ok ())) :
    r'.dataBatches = push r.dataBatches idx.toNat batch := by
  rcases Nat.lt_or_ge (idx.toNat + 1) (2 ^ 64) with hlt | hge
  · rw [addDataBatch_ok r batch hlt] at h
    cases h
    rfl
  · rcases Nat.lt_or_ge r.dataBatches.length (2 ^ 64) with hlen | hlong
    · have hmax := idx.toNat_lt
      rw [addDataBatch_wrapped r batch (by omega) hlen] at h
      cases h
    · have hgrown : grow r.dataBatches (idx.toNat + 1) = r.dataBatches := by
        have hmax := idx.toNat_lt
        rw [grow, Nat.sub_eq_zero_of_le (by omega), List.replicate_zero, List.append_nil]
      have hmax := idx.toNat_lt
      have hentries : (grow r.dataBatches (idx.toNat + 1))[idx.toNat]? =
          some (bucket r.dataBatches idx.toNat) := getElem?_grow
      rw [hgrown] at hentries
      simp only [addDataBatch, if_neg (Nat.not_le_of_lt (Nat.lt_of_lt_of_le hmax hlong)),
        hentries] at h
      cases h
      rw [push, hgrown]

end Adds

end DataRepository

namespace ManagerWorld

variable {w w' : ManagerWorld} {p : Addr} {r r' : DataRepository}
  {batch : Option Addr} {idx : UInt64} {adds : List (Option Addr × UInt64)}

theorem addTo_returns (hr : w.repositories.lookup p = some r)
    (h : w.addTo p batch idx = (w', .ok ())) :
    (∃ r', w'.repositories.lookup p = some r' ∧
      r'.dataBatches = push r.dataBatches idx.toNat batch) ∧
    ∀ b ∈ w.clients.batches, b ∈ w'.clients.batches := by
  simp only [addTo, hr] at h
  rcases hadd : r.addDataBatch batch idx with ⟨r', result⟩
  rw [hadd] at h
  cases h
  refine ⟨⟨r', AList.lookup_insert _, DataRepository.addDataBatch_returns hadd⟩, ?_⟩
  intro b hb
  cases batch with
  | none => exact hb
  | some c =>
      dsimp only [BatchWorld.setStateChangeCv]
      split
      · exact hb
      · exact (AList.mem_insert _).mpr (.inr hb)

/-- After any sequence of adds a partition holds what it held and what was added
to it. -/
theorem addAll_returns (hr : w.repositories.lookup p = some r)
    (h : w.addAll p adds = (w', .ok ())) :
    (∃ r', w'.repositories.lookup p = some r' ∧
      ∀ j e, e ∈ bucket r'.dataBatches j ↔
        e ∈ bucket r.dataBatches j ∨ ∃ a ∈ adds, a.2.toNat = j ∧ a.1 = e) ∧
    ∀ b ∈ w.clients.batches, b ∈ w'.clients.batches := by
  induction adds generalizing w r with
  | nil =>
      cases h
      refine ⟨⟨r, hr, fun j e => ⟨.inl, ?_⟩⟩, fun b hb => hb⟩
      rintro (h | ⟨a, ha, -⟩)
      · exact h
      · cases ha
  | cons a adds ih =>
      obtain ⟨batch, idx⟩ := a
      rw [addAll] at h
      rcases hadd : w.addTo p batch idx with ⟨w₁, e | ⟨⟩⟩
      · rw [hadd] at h
        cases h
      · rw [hadd] at h
        obtain ⟨⟨r₁, hr₁, hpush⟩, hlive⟩ := addTo_returns hr hadd
        obtain ⟨⟨r', hr', hmem⟩, hlive'⟩ := ih hr₁ h
        refine ⟨⟨r', hr', fun j e => ?_⟩, fun b hb => hlive' b (hlive b hb)⟩
        rw [hmem j e, hpush, mem_bucket_push, or_assoc]
        simp only [List.mem_cons, exists_eq_or_imp]

/-- The claim about a repository: no call reads through a null pointer, and a
batch behind a null entry is found by its id and by a pop, if no batch before it
is the one. -/
structure Handles (r : DataRepository) (batches : Table Addr DataBatch) : Prop where
  calls : ∀ q idx, (r.call batches idx q).found ≠ some (.error .nullDereference)
  ids : ∀ idx, r.getBatchIds batches idx ≠ .error .nullDereference
  behind : ∀ {idx : UInt64} {entries j k b batch},
    r.dataBatches[idx.toNat]? = some entries → entries[j]? = some none → j < k →
    entries[k]? = some (some b) → batches.lookup b = some batch →
    ((∀ i < k, ∀ e ∈ entries[i]?, ∀ other ∈ e.bind batches.lookup,
        other.batchId ≠ batch.batchId) →
      (r.popDataBatchById batches batch.batchId none idx).found =
          some (.ok (some b)) ∧
        (r.getDataBatchById batches batch.batchId none idx).found =
          some (.ok (some b))) ∧
    ∀ targetState, DataRepository.OldestAt batches targetState entries k b batch →
      (r.popDataBatch batches targetState idx).found = some (.ok (some b))

/-- Where every entry that is not null points to a batch, all is handled exactly
if no entry is null. -/
theorem handles_iff {batches : Table Addr DataBatch}
    (hlive : ∀ {idx : UInt64} {entries}, r.dataBatches[idx.toNat]? = some entries →
      DataRepository.Live batches entries) :
    Handles r batches ↔ ∀ {idx : UInt64} {entries},
      r.dataBatches[idx.toNat]? = some entries → none ∉ entries := by
  constructor
  · intro h idx entries hentries hmem
    exact h.ids idx ((DataRepository.getBatchIds_null_iff hentries
      (hlive hentries)).mpr hmem)
  · intro hno
    refine ⟨fun q idx => ?_, fun idx => ?_, fun hentries hj => ?_⟩
    · cases hentries : r.dataBatches[idx.toNat]? with
      | none =>
          rw [DataRepository.call_outOfRange hentries]
          exact nofun
      | some entries =>
          rw [ne_eq, DataRepository.call_null_iff hentries (hlive hentries)]
          exact fun hmeets => hno hentries hmeets.mem
    · cases hentries : r.dataBatches[idx.toNat]? with
      | none =>
          rw [DataRepository.getBatchIds, hentries]
          exact nofun
      | some entries =>
          rw [ne_eq, DataRepository.getBatchIds_null_iff hentries (hlive hentries)]
          exact hno hentries
    · exact absurd (List.mem_of_getElem? hj) (hno hentries)

/-- The entries of a new repository, after a sequence of adds, are what was
added. -/
theorem addAll_new {cv : Addr} (hnew : w.repositories.lookup p = some (.create cv))
    (hadds : w.addAll p adds = (w', .ok ()))
    (hr : w'.repositories.lookup p = some r) {j : Nat} {e : Option Addr} :
    e ∈ bucket r.dataBatches j ↔ ∃ a ∈ adds, a.2.toNat = j ∧ a.1 = e := by
  obtain ⟨⟨r', hr', hmem⟩, -⟩ := addAll_returns hnew hadds
  cases hr.symm.trans hr'
  have hempty : bucket [([] : List (Option Addr))] j = [] := by
    cases j <;> rfl
  rw [hmem, DataRepository.create, hempty, or_iff_right List.not_mem_nil]

/-- Whatever was added, a call reads through a null pointer exactly if its search
comes to a null entry before it ends; and everything is handled exactly if no
null pointer was added. -/
theorem null_entries_handled_iff (w : ManagerWorld) (p cv : Addr)
    (adds : List (Option Addr × UInt64))
    (hnew : w.repositories.lookup p = some (.create cv))
    (hlive : ∀ a ∈ adds, ∀ b ∈ a.1, b ∈ w.clients.batches)
    (hadds : w.addAll p adds = (w', .ok ()))
    (hr : w'.repositories.lookup p = some r) :
    (∀ q idx entries, r.dataBatches[idx.toNat]? = some entries →
      ((r.call w'.clients.batches idx q).found = some (.error .nullDereference) ↔
        DataRepository.MeetsNull w'.clients.batches entries q)) ∧
    (∀ idx entries, r.dataBatches[idx.toNat]? = some entries →
      (r.getBatchIds w'.clients.batches idx = .error .nullDereference ↔
        none ∈ entries)) ∧
    (Handles r w'.clients.batches ↔ ∀ a ∈ adds, a.1 ≠ none) := by
  have hkept := (addAll_returns hnew hadds).2
  have hadded : ∀ {j : Nat} {e}, e ∈ bucket r.dataBatches j ↔
      ∃ a ∈ adds, a.2.toNat = j ∧ a.1 = e := addAll_new hnew hadds hr
  have hpoint : ∀ {idx : UInt64} {entries}, r.dataBatches[idx.toNat]? = some entries →
      DataRepository.Live w'.clients.batches entries := by
    intro idx entries hentries b hb
    rw [← bucket_of_getElem? hentries, hadded] at hb
    obtain ⟨a, ha, -, hab⟩ := hb
    exact hkept b (hlive a ha b hab)
  refine ⟨fun q idx entries hentries =>
      DataRepository.call_null_iff hentries (hpoint hentries) q,
    fun idx entries hentries =>
      DataRepository.getBatchIds_null_iff hentries (hpoint hentries), ?_⟩
  rw [handles_iff hpoint]
  constructor
  · intro hno a ha hnull
    have hstored : none ∈ bucket r.dataBatches a.2.toNat :=
      hadded.mpr ⟨a, ha, rfl, hnull⟩
    cases hentries : r.dataBatches[a.2.toNat]? with
    | none =>
        rw [bucket, hentries] at hstored
        cases hstored
    | some entries =>
        rw [bucket_of_getElem? hentries] at hstored
        exact hno hentries hstored
  · intro h idx entries hentries hmem
    rw [← bucket_of_getElem? hentries, hadded] at hmem
    obtain ⟨a, ha, -, hnull⟩ := hmem
    exact h a ha hnull

/-- Two batches, and a repository at 100. -/
def twoBatches : ManagerWorld where
  clients := ⟨((∅ : Table Addr DataBatch).insert 1 (.create 11 none)).insert 2
    (.create 12 none), ∅⟩
  repositories := (∅ : Table Addr DataRepository).insert 100 (.create 100)
  manager := ∅
  held := [1, 2]
  destroyed := []

theorem null_entries_handled_twoBatches :
    Handles ⟨100, [[some 1], [], [some 2]]⟩
      (twoBatches.addAll 100 [(some 1, 0), (some 2, 2)]).1.clients.batches := by
  refine (null_entries_handled_iff twoBatches 100 100 [(some 1, 0), (some 2, 2)]
    rfl ?_ rfl rfl).2.2.mpr ?_
  · decide
  · decide

/-- A null pointer is added and then a batch. No call gets past the null entry:
neither a pop, nor a call that names the id of the batch behind it. -/
theorem null_entry_hides_batch :
    ∃ w r, twoBatches.addAll 100 [(none, 0), (some 1, 0)] = (w, .ok ()) ∧
      w.repositories.lookup 100 = some r ∧
      (r.popDataBatch w.clients.batches .taskCreated 0).found =
        some (.error .nullDereference) ∧
      (r.popDataBatchById w.clients.batches 11 none 0).found =
        some (.error .nullDereference) ∧
      (r.getDataBatchById w.clients.batches 11 none 0).found =
        some (.error .nullDereference) ∧
      r.getBatchIds w.clients.batches 0 = .error .nullDereference ∧
      ¬ Handles r w.clients.batches := by
  refine ⟨_, _, rfl, rfl, rfl, rfl, rfl, rfl, ?_⟩
  intro h
  exact h.ids 0 rfl

end ManagerWorld

end CuCascade.Data

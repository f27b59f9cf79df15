import CuCascade.Data.StorageWorld
import CuCascade.Lib.Buckets
import CuCascade.Proofs.WakeUp

/-!
# Repositories neither lose nor duplicate nor reorder

The partitions are buckets that grow on demand. An add appends to one of them, a
pop takes one entry out of one of them, and no other step of a thread or a
client touches them, so what was added is what is stored and what was popped,
and each partition lists what is left of what it was given.

There is one index for which growing is shrinking: the size to grow to is one
more than the index, and for the largest index that is 0. Such a call destroys
every partition with all that is in it before it writes beyond the end of the
empty vector.
-/

namespace CuCascade.Data

open Memory Buckets

/-! ## Growing -/

theorem resize_eq_grow {partitions : List (List (Option Addr))} {size : Nat}
    (h : partitions.length ≤ size) :
    DataRepository.resize partitions size = grow partitions size := by
  rw [DataRepository.resize, List.take_of_length_le h, grow]

theorem toNat_add_one {idx : UInt64} (h : idx.toNat + 1 < 2 ^ 64) :
    (idx + 1).toNat = idx.toNat + 1 := by
  have hone : (1 : UInt64).toNat = 1 := rfl
  rw [Word.toNat_add (by omega), hone]

/-- An add for any index but the largest. -/
theorem addDataBatch_ok (r : DataRepository) (batch : Option Addr) {idx : UInt64}
    (h : idx.toNat + 1 < 2 ^ 64) :
    r.addDataBatch batch idx =
      ({ r with dataBatches := push r.dataBatches idx.toNat batch }, .ok ()) := by
  have hgrown : (if r.dataBatches.length ≤ idx.toNat then
      DataRepository.resize r.dataBatches (idx + 1).toNat
      else r.dataBatches) = grow r.dataBatches (idx.toNat + 1) := by
    split
    · rw [toNat_add_one h, resize_eq_grow (by omega)]
    · rw [grow, Nat.sub_eq_zero_of_le (by omega), List.replicate_zero,
        List.append_nil]
  simp only [DataRepository.addDataBatch, hgrown, getElem?_grow, push]

/-- An add for the largest index. -/
theorem addDataBatch_wrapped (r : DataRepository) (batch : Option Addr)
    {idx : UInt64} (h : idx.toNat + 1 = 2 ^ 64)
    (hlen : r.dataBatches.length < 2 ^ 64) :
    r.addDataBatch batch idx = ({ r with dataBatches := [] }, .error .outOfBounds) := by
  have hzero : (idx + 1).toNat = 0 := by
    have hone : (1 : UInt64).toNat = 1 := rfl
    rw [UInt64.toNat_add, hone, h, Nat.mod_self]
  have hnil : DataRepository.resize r.dataBatches 0 = [] := by
    rw [DataRepository.resize, List.take_zero, Nat.zero_sub]
    rfl
  simp only [DataRepository.addDataBatch, hzero, hnil,
    if_pos (show r.dataBatches.length ≤ idx.toNat by omega), List.getElem?_nil]

/-! ## One step -/

/-- What a step does to the partitions: nothing, an add or a pop. -/
inductive Stores (ps : List (List (Option Addr))) :
    List (List (Option Addr)) → List (Nat × Option Addr) →
      List (Nat × Option Addr) → Prop
  | same : Stores ps ps [] []
  | add (i : Nat) (x : Option Addr) : i + 1 < 2 ^ 64 →
      Stores ps (push ps i x) [(i, x)] []
  | pop {i j : Nat} {x : Option Addr} {entries : List (Option Addr)} :
      ps[i]? = some entries → entries[j]? = some x →
      Stores ps (ps.set i (entries.eraseIdx j)) [] [(i, x)]

/-- The index can be grown to. -/
def RepositoryOp.Fits : RepositoryOp → Prop
  | .addDataBatch _ partitionIdx => partitionIdx.toNat + 1 < 2 ^ 64
  | _ => True

namespace RepositoryWorld

variable {w : RepositoryWorld} {op : RepositoryOp} {t : Nat} {p : Popper}

theorem stores_takeEntry {i : Nat} (hpc : p.pc = .leaving i none) :
    Stores w.repository.dataBatches (w.takeEntry t p i).repository.dataBatches []
      (w.takesOut p) := by
  simp only [takeEntry, takesOut, hpc]
  cases hpart : w.partition p with
  | none =>
      simp only [Option.bind_none, Option.map_none, Option.toList_none, ite_self]
      exact .same
  | some entries =>
      rw [partition] at hpart
      have hset : w.repository.dataBatches.set p.partitionIdx.toNat entries =
          w.repository.dataBatches := by
        obtain ⟨hlt, heq⟩ := List.getElem?_eq_some_iff.mp hpart
        rw [← heq, List.set_getElem_self]
      simp only [Option.bind_some, leave, goTo]
      cases hquery : p.query with
      | getDataBatchById _ _ =>
          simp only [DataRepository.remove, Query.pops, Bool.false_eq_true, if_false,
            hset]
          exact .same
      | popDataBatch _ | popDataBatchById _ _ =>
          simp only [DataRepository.remove, Query.pops, if_true]
          cases hx : entries[i]? with
          | none =>
              rw [List.eraseIdx_of_length_le (List.getElem?_eq_none_iff.mp hx), hset]
              exact .same
          | some x => exact .pop hpart hx

theorem stores_step : Stores w.repository.dataBatches
    (w.step t p).repository.dataBatches [] (w.takesOut p) := by
  simp only [step]
  split
  · rename_i hpc
    simp only [takesOut, hpc]
    split <;> exact .same
  · rename_i i hpc
    simp only [takesOut, hpc, scan]
    split
    · exact .same
    · obtain ⟨pc, holder, hproceed, -, -⟩ := proceed_eq
        { w with clients := { w.clients with batches :=
          (DataRepository.look w.clients.batches _ i p.query).1 } } t p i
        (DataRepository.look w.clients.batches _ i p.query).2
      rw [hproceed]
      exact .same
  · rename_i hpc
    simp only [takesOut, hpc, goTo, notifyAll_repository]
    exact .same
  · rename_i i hpc
    exact stores_takeEntry hpc
  · rename_i hpc
    simp only [takesOut, hpc]
    exact .same
  · rename_i hpc
    simp only [takesOut, hpc]
    exact .same
  · rename_i hpc
    simp only [takesOut, hpc]
    exact .same
  · rename_i hpc
    simp only [takesOut, hpc]
    exact .same

theorem stores_next (hop : w.Proper op) (hfits : op.Fits) :
    Stores w.repository.dataBatches (w.next op).repository.dataBatches op.adds
      (w.pops op) := by
  cases op with
  | client op => exact .same
  | deliver cv =>
      simp only [next, notifyAll_repository]
      exact .same
  | addDataBatch b partitionIdx =>
      obtain ⟨batch, hb⟩ := AList.exists_lookup hop.1
      simp only [next, hb, addDataBatch_ok _ _ hfits]
      exact .add _ _ hfits
  | notifyStateChange =>
      simp only [next, notifyAll_repository]
      exact .same
  | start t query partitionIdx => exact .same
  | step t =>
      obtain ⟨p, hp, -⟩ := hop
      simp only [next, RepositoryOp.adds, pops, Option.mem_def.mp hp]
      exact stores_step
  | spurious t =>
      obtain ⟨p, hp, -⟩ := hop
      simp only [next, Option.mem_def.mp hp]
      exact .same

end RepositoryWorld

namespace DataRepository

theorem totalSize_eq (r : DataRepository) : r.totalSize = r.dataBatches.flatten.length := by
  have hfold : ∀ (l : List (List (Option Addr))) (n : Nat),
      l.foldl (fun total partition => total + partition.length) n =
        n + l.flatten.length := by
    intro l
    induction l with
    | nil => exact fun n => rfl
    | cons partition l ih =>
        intro n
        rw [List.foldl_cons, ih, List.flatten_cons, List.length_append, Nat.add_assoc]
  rw [totalSize, hfold, Nat.zero_add]

theorem size_eq {r : DataRepository} {i : Nat} (hi : i < r.numPartitions)
    (hlen : r.numPartitions < 2 ^ 64) :
    r.size (UInt64.ofNat i) = .ok (bucket r.dataBatches i).length := by
  rw [numPartitions] at hi hlen
  rw [size, Word.toNat_ofNat (by omega), bucket, List.getElem?_eq_getElem hi]
  rfl

theorem allEmpty_iff (r : DataRepository) : r.allEmpty = true ↔ r.totalSize = 0 := by
  rw [totalSize_eq, List.length_eq_zero_iff, List.flatten_eq_nil_iff, allEmpty,
    List.all_eq_true]
  simp only [List.isEmpty_iff]

end DataRepository

namespace StorageWorld

variable {w : StorageWorld} {op : StorageOp} {ps ps' : List (List (Option Addr))}
  {added popped new out : List (Nat × Option Addr)}

/-- Nothing is lost, duplicated or put out of order, and the repository counts
what it stores. -/
structure Keeps (w : StorageWorld) : Prop where
  conserved : (w.added.map Prod.snd).Perm
    (w.stored.flatten ++ w.popped.map Prod.snd)
  ordered : ∀ i, (bucket w.stored i).Sublist (w.addedTo i)
  sizes : ∀ i, i < w.world.repository.numPartitions →
    w.world.repository.size (UInt64.ofNat i) = .ok (bucket w.stored i).length
  total : w.world.repository.totalSize =
    ((List.range w.world.repository.numPartitions).map
      fun i => (bucket w.stored i).length).sum
  empty : w.world.repository.allEmpty = true ↔ w.world.repository.totalSize = 0

/-- The call leaves the partitions it does not work on alone. -/
def Frames (w : StorageWorld) (op : StorageOp) : Prop :=
  ∀ i, w.target op ≠ some i → bucket (w.next op).stored i = bucket w.stored i

/-- The call adds for an index that can be grown to. -/
def Fits (_ : StorageWorld) : StorageOp → Prop
  | .call op => op.Fits
  | .getUnsupported _ _ _ => True

instance (w : StorageWorld) : (op : StorageOp) → Decidable (w.Proper op)
  | .call op => inferInstanceAs (Decidable (w.world.Proper op))
  | .getUnsupported _ _ _ => isTrue trivial

instance (w : StorageWorld) : (op : StorageOp) → Decidable (w.Fits op)
  | .call (.addDataBatch _ _) => inferInstanceAs (Decidable (_ < _))
  | .call (.client _) | .call (.deliver _) | .call .notifyStateChange
  | .call (.start _ _ _) | .call (.step _) | .call (.spurious _)
  | .getUnsupported _ _ _ => isTrue trivial

/-- The partitions can be numbered by a `size_t`. -/
def Numbered (w : StorageWorld) : Prop := w.stored.length < 2 ^ 64

theorem length_of_stores (hst : Stores ps ps' new out) (h : ps.length < 2 ^ 64) :
    ps'.length < 2 ^ 64 := by
  cases hst with
  | same => exact h
  | add i x hi =>
      rw [length_push]
      omega
  | pop _ _ =>
      rw [List.length_set]
      exact h

theorem conserved_of_stores (hst : Stores ps ps' new out)
    (h : (added.map Prod.snd).Perm (ps.flatten ++ popped.map Prod.snd)) :
    ((added ++ new).map Prod.snd).Perm
      (ps'.flatten ++ (popped ++ out).map Prod.snd) := by
  rw [List.map_append, List.map_append]
  cases hst with
  | same => simpa using h
  | add i x hi =>
      rw [List.map_nil, List.append_nil]
      have hnew : (added.map Prod.snd ++ [x]).Perm (x :: added.map Prod.snd) :=
        List.perm_append_singleton _ _
      exact hnew.trans ((h.cons x).trans (flatten_push.symm.append_right _))
  | @pop i j x entries hentries hx =>
      rw [List.map_nil, List.append_nil]
      -- what is put back is the bucket without the entry that is taken out
      have hset := flatten_set (entries.eraseIdx j) hentries
      have hentry : entries.Perm (x :: entries.eraseIdx j) := by
        obtain ⟨hlt, rfl⟩ := List.getElem?_eq_some_iff.mp hx
        exact (List.getElem_cons_eraseIdx_perm hlt).symm
      have hout : ((ps.set i (entries.eraseIdx j)).flatten ++ [x]).Perm ps.flatten := by
        refine (List.perm_append_right_iff (entries.eraseIdx j)).mp ?_
        rw [List.append_assoc]
        exact (hentry.symm.append_left _).trans hset
      have hmoved := hout.symm.append_right (popped.map Prod.snd)
      rw [List.append_assoc] at hmoved
      have hswap : ([x] ++ popped.map Prod.snd).Perm (popped.map Prod.snd ++ [x]) :=
        List.perm_append_comm
      exact h.trans (hmoved.trans (hswap.append_left _))

theorem addedTo_append (i : Nat) :
    ((added ++ new).filter (·.1 = i)).map Prod.snd =
      (added.filter (·.1 = i)).map Prod.snd ++
        (new.filter (·.1 = i)).map Prod.snd := by
  rw [List.filter_append, List.map_append]

theorem ordered_of_stores (hst : Stores ps ps' new out) {i : Nat}
    (h : (bucket ps i).Sublist ((added.filter (·.1 = i)).map Prod.snd)) :
    (bucket ps' i).Sublist (((added ++ new).filter (·.1 = i)).map Prod.snd) := by
  rw [addedTo_append]
  cases hst with
  | same => simpa using h
  | add j x hj =>
      by_cases hi : i = j
      · subst hi
        rw [bucket_push_self]
        simpa using h.append (List.Sublist.refl [x])
      · rw [bucket_push_ne hi]
        exact h.trans (List.sublist_append_left _ _)
  | @pop j k x entries hentries hx =>
      obtain ⟨hlt, -⟩ := List.getElem?_eq_some_iff.mp hentries
      rw [List.filter_nil, List.map_nil, List.append_nil]
      by_cases hi : i = j
      · subst hi
        rw [bucket_of_getElem? hentries] at h
        rw [bucket_set_self hlt]
        exact (List.eraseIdx_sublist _ _).trans h
      · rw [bucket_set_ne hi]
        exact h

/-- A step that stores or takes out in one bucket leaves the others alone. -/
theorem bucket_of_stores (hst : Stores ps ps' new out) {i : Nat}
    (hnew : ∀ e ∈ new, e.1 ≠ i) (hout : ∀ e ∈ out, e.1 ≠ i) :
    bucket ps' i = bucket ps i := by
  cases hst with
  | same => rfl
  | add j x hj =>
      exact bucket_push_ne (Ne.symm (hnew (j, x) (List.mem_singleton.mpr rfl)))
  | @pop j k x entries hentries hx =>
      exact bucket_set_ne (Ne.symm (hout (j, x) (List.mem_singleton.mpr rfl)))

theorem counts (hlen : w.Numbered) :
    (∀ i, i < w.world.repository.numPartitions →
      w.world.repository.size (UInt64.ofNat i) = .ok (bucket w.stored i).length) ∧
    w.world.repository.totalSize =
      ((List.range w.world.repository.numPartitions).map
        fun i => (bucket w.stored i).length).sum := by
  refine ⟨fun i hi => DataRepository.size_eq hi hlen, ?_⟩
  rw [DataRepository.totalSize_eq]
  exact length_flatten_eq

theorem stores_call {op : RepositoryOp} (hop : w.world.Proper op) (hfits : op.Fits) :
    Stores w.stored (w.next (.call op)).stored op.adds (w.world.pops op) :=
  RepositoryWorld.stores_next hop hfits

theorem numbered_next (h : w.Numbered) (hop : w.Proper op) (hfits : w.Fits op) :
    (w.next op).Numbered := by
  cases op with
  | call op => exact length_of_stores (stores_call hop hfits) h
  | getUnsupported _ _ _ => exact h

theorem keeps_next (hlen : w.Numbered) (h : w.Keeps) (hop : w.Proper op)
    (hfits : w.Fits op) : (w.next op).Keeps := by
  obtain ⟨hsizes, htotal⟩ := counts (numbered_next hlen hop hfits)
  refine ⟨?_, ?_, hsizes, htotal, DataRepository.allEmpty_iff _⟩
  · cases op with
    | call op => exact conserved_of_stores (stores_call hop hfits) h.conserved
    | getUnsupported _ _ _ => exact h.conserved
  · intro i
    cases op with
    | call op => exact ordered_of_stores (stores_call hop hfits) (h.ordered i)
    | getUnsupported _ _ _ => exact h.ordered i

/-- An entry taken out comes from the partition the popping thread works on. -/
theorem fst_of_mem_pops {op : RepositoryOp} {i : Nat} {e : Nat × Option Addr}
    (he : e ∈ w.world.pops op) (hi : w.target (.call op) ≠ some i) : e.1 ≠ i := by
  cases op with
  | step t =>
      simp only [RepositoryWorld.pops] at he
      simp only [target] at hi
      cases hp : w.world.poppers.lookup t with
      | none =>
          rw [hp] at he
          cases he
      | some p =>
          rw [hp] at he hi
          simp only [RepositoryWorld.takesOut] at he
          rintro rfl
          split at he
          · split at he
            · obtain ⟨x, -, rfl⟩ := Option.map_eq_some_iff.mp (Option.mem_toList.mp he)
              exact hi rfl
            · cases he
          · cases he
  | _ => cases he

theorem frames_of_fits (hop : w.Proper op) (hfits : w.Fits op) : w.Frames op := by
  intro i hi
  cases op with
  | call op =>
      refine bucket_of_stores (stores_call hop hfits) (fun e he => ?_)
        fun e he => fst_of_mem_pops he hi
      cases op with
      | addDataBatch b partitionIdx =>
          obtain rfl := List.mem_singleton.mp he
          exact fun heq => hi (congrArg some heq)
      | _ => cases he
  | getUnsupported _ _ _ => rfl

/-- An add for the largest index loses what it was given, and everything
else. -/
theorem fits_of_keeps (hlen : w.Numbered) (h : w.Keeps) (hop : w.Proper op)
    (h' : (w.next op).Keeps) : w.Fits op := by
  cases op with
  | getUnsupported _ _ _ => trivial
  | call op =>
      cases op with
      | addDataBatch b partitionIdx =>
          by_contra hno
          have hidx := partitionIdx.toNat_lt
          have hmax : partitionIdx.toNat + 1 = 2 ^ 64 := by
            simp only [Fits, RepositoryOp.Fits] at hno
            omega
          obtain ⟨batch, hb⟩ := AList.exists_lookup hop.1
          have hnone : (w.next (.call (.addDataBatch b partitionIdx))).stored = [] := by
            simp only [next, stored, RepositoryWorld.next, hb,
              addDataBatch_wrapped _ _ hmax hlen]
          have hbefore := h.conserved.length_eq
          have hafter := h'.conserved.length_eq
          rw [hnone] at hafter
          simp only [next, RepositoryOp.adds, RepositoryWorld.pops, List.map_append,
            List.length_append, List.length_map, List.flatten_nil, List.length_nil,
            List.length_singleton] at hbefore hafter
          omega
      | _ => trivial

/-- Every run from an empty repository keeps what it is given, and each of its
calls leaves the other partitions alone, exactly if none of its adds is for the
largest index. -/
theorem always_keeps_iff {ops : List StorageOp} (hs : machine.start w)
    (hlaw : machine.Lawful w ops) :
    (machine.Always Keeps w ops ∧ machine.Every Frames w ops) ↔
      machine.Every Fits w ops := by
  obtain ⟨⟨-, ⟨cv, hrepository⟩, -⟩, hadded, hpopped⟩ := hs
  have hstored : w.stored = [[]] := by
    rw [stored, hrepository]
    rfl
  have hlen : w.Numbered := by
    rw [Numbered, hstored, List.length_singleton]
    omega
  obtain ⟨hsizes, htotal⟩ := counts hlen
  have hkeeps : w.Keeps := by
    refine ⟨?_, ?_, hsizes, htotal, DataRepository.allEmpty_iff _⟩
    · rw [hadded, hpopped, hstored]
      exact List.Perm.refl _
    · intro i
      rw [hstored]
      cases i with
      | zero => exact List.nil_sublist _
      | succ i => exact List.nil_sublist _
  have hrun : machine.Always Keeps w ops ↔ machine.Every Fits w ops := by
    refine Machine.always_iff_every (J := Numbered) ?_ ?_ hlen hkeeps hlaw
    · intro w op hlen _ hop hfits
      exact numbered_next hlen hop hfits
    · intro w op hlen h hop
      exact ⟨fits_of_keeps hlen h hop, keeps_next hlen h hop⟩
  rw [← hrun, and_iff_left_iff_imp]
  intro hall
  exact Machine.every_imp (fun w op hop hfits => frames_of_fits hop hfits) hlaw
    (hrun.mp hall)

/-- The empty repository, before anything was handed in. -/
def nothingYet : StorageWorld := ⟨RepositoryWorld.emptyRepository, [], []⟩

theorem fresh_nothingYet : nothingYet.Fresh :=
  ⟨RepositoryWorld.fresh_emptyRepository, rfl, rfl⟩

/-- Two batches in partitions that are first made for them, one of which is
taken out again. -/
theorem always_keeps_twoPartitions :
    let ops : List StorageOp :=
      [.call (.addDataBatch 1 2), .call (.addDataBatch 2 0),
        .call (.start 0 (.popDataBatchById 7 none) 2), .call (.step 0),
        .call (.step 0), .call (.step 0), .getUnsupported 7 none 2]
    machine.Always Keeps nothingYet ops ∧ machine.Every Frames nothingYet ops :=
  (always_keeps_iff fresh_nothingYet
    (show machine.Every Proper _ _ by decide)).mpr (by decide)

/-- A batch is stored, and then one is added for the largest index. -/
theorem loses_with_largest_index :
    let ops : List StorageOp :=
      [.call (.addDataBatch 1 0), .call (.addDataBatch 2 18446744073709551615)]
    machine.Lawful nothingYet ops ∧
      ¬ (machine.Always Keeps nothingYet ops ∧ machine.Every Frames nothingYet ops) := by
  refine ⟨show machine.Every Proper _ _ by decide, ?_⟩
  intro h
  exact absurd h.1.last.conserved.length_eq (by decide)

end StorageWorld

end CuCascade.Data

import CuCascade.Memory.ManagerConstruction
import CuCascade.Memory.PinnedHost
import CuCascade.Proofs.SparedBlocks

/-!
# Pools and the memory they take

The constructor and the loop of `allocate_multiple_blocks` ask for one pool after
another until they have enough or a call fails. What this does with the memory of the
system is the same for both: the pools got are taken, and after them, if the failed call
had memory that CUDA would not register, that memory too, which nobody knows any more.
-/

namespace CuCascade.Memory

open Utils

def SystemAnswer.grants : SystemAnswer → Bool
  | .memory _ => true
  | _ => false

namespace PinnedHostResource

variable {mr : PinnedHostResource} {bytes : UInt64} {memory memory' : SystemMemory}
  {answer : SystemAnswer} {answers : List SystemAnswer} {new stray : List Addr} {p : Addr}

/-- The call throws, and memory stays taken. -/
def Strays (mr : PinnedHostResource) : SystemAnswer → Prop
  | .unregistered _ _ => mr.numaNode ≠ -1
  | _ => False

instance (mr : PinnedHostResource) : (answer : SystemAnswer) → Decidable (mr.Strays answer)
  | .unregistered _ _ => inferInstanceAs (Decidable (_ ≠ _))
  | .memory _ | .refused _ => isFalse not_false

/-! ## One call -/

theorem doAllocate_memory (hbytes : bytes ≠ 0) (memory : SystemMemory) (p : Addr) :
    mr.doAllocate memory bytes (.memory p) =
      (memory.insert p ⟨mr.numaNode, bytes, true⟩, .ok p) := by
  unfold doAllocate
  rw [if_neg hbytes]
  split
  · next hnode => rw [hnode]
  · rfl

theorem doAllocate_unregistered (hbytes : bytes ≠ 0) (hnode : mr.numaNode ≠ -1)
    (memory : SystemMemory) (p : Addr) (e : Exception) :
    mr.doAllocate memory bytes (.unregistered p e) =
      (memory.insert p ⟨mr.numaNode, bytes, false⟩, .error e) := by
  unfold doAllocate
  rw [if_neg hbytes, if_neg hnode]

theorem doAllocate_refused (hbytes : bytes ≠ 0) (hgrants : answer.grants = false)
    (hstrays : ¬ mr.Strays answer) :
    ∃ e, ∀ memory, mr.doAllocate memory bytes answer = (memory, .error e) := by
  unfold doAllocate
  simp only [if_neg hbytes]
  cases answer with
  | memory p => cases hgrants
  | refused e => exact ⟨e, fun memory => ite_self _⟩
  | unregistered p e => exact ⟨e, fun memory => if_pos (not_not.mp hstrays)⟩

/-- How the call ends does not depend on what else is taken. -/
theorem doAllocate_snd (memory : SystemMemory) :
    (mr.doAllocate memory bytes answer).2 = (mr.doAllocate ∅ bytes answer).2 := by
  unfold doAllocate
  split
  · rfl
  · split <;> cases answer <;> rfl

/-! ## One call after another -/

/-- With these answers `new` are the pools got, `stray` is the memory lost, and `memory'`
is what is taken then. -/
inductive Grown (mr : PinnedHostResource) (bytes : UInt64) :
    List SystemAnswer → SystemMemory → List Addr → List Addr → SystemMemory → Prop
  | done (answers : List SystemAnswer) (memory : SystemMemory) :
      Grown mr bytes answers memory [] [] memory
  | stray {p : Addr} {e : Exception} (answers : List SystemAnswer) (memory : SystemMemory)
      (hnode : mr.numaNode ≠ -1) :
      Grown mr bytes (.unregistered p e :: answers) memory [] [p]
        (memory.insert p ⟨mr.numaNode, bytes, false⟩)
  | pool {p : Addr} {answers : List SystemAnswer} {memory memory' : SystemMemory}
      {new stray : List Addr}
      (h : Grown mr bytes answers (memory.insert p ⟨mr.numaNode, bytes, true⟩) new stray
        memory') :
      Grown mr bytes (.memory p :: answers) memory (p :: new) stray memory'

/-- What the promise of the system says of memory it gives. -/
theorem Promised.of_memory (hbytes : bytes ≠ 0)
    (h : mr.Promised bytes (.memory p :: answers) memory) :
    Clear Region.size memory p bytes.toNat ∧
      mr.Promised bytes answers (memory.insert p ⟨mr.numaNode, bytes, true⟩) := by
  obtain ⟨hclear, hrest⟩ := h
  rw [doAllocate_memory hbytes] at hrest
  exact ⟨hclear p rfl, hrest⟩

theorem Grown.mem_iff (h : mr.Grown bytes answers memory new stray memory') (q : Addr) :
    q ∈ memory' ↔ q ∈ memory ∨ q ∈ new ∨ q ∈ stray := by
  induction h with
  | done => simp
  | stray answers memory hnode => simp [or_comm]
  | pool h ih =>
      rw [ih, AList.mem_insert, List.mem_cons]
      tauto

/-- All that is taken stays apart. -/
theorem Grown.allApart (hbytes : bytes ≠ 0)
    (h : mr.Grown bytes answers memory new stray memory')
    (hpromised : mr.Promised bytes answers memory) (hapart : AllApart Region.size memory) :
    AllApart Region.size memory' := by
  induction h with
  | done => exact hapart
  | stray answers memory hnode => exact hapart.insert (hpromised.1 _ rfl)
  | pool h ih =>
      obtain ⟨hclear, hrest⟩ := hpromised.of_memory hbytes
      exact ih hrest (hapart.insert hclear)

/-- What was taken before is as it was. -/
theorem Grown.lookup (hbytes : bytes ≠ 0)
    (h : mr.Grown bytes answers memory new stray memory')
    (hpromised : mr.Promised bytes answers memory) {q : Addr} {region : Region}
    (hq : memory.lookup q = some region) : memory'.lookup q = some region := by
  have hkept : ∀ {p : Addr} {memory : SystemMemory} {region' : Region}, p ∉ memory →
      memory.lookup q = some region → (memory.insert p region').lookup q = some region := by
    intro p memory region' hp hq
    rw [AList.lookup_insert_ne, hq]
    intro hqp
    exact hp (hqp ▸ AList.mem_of_lookup hq)
  induction h with
  | done => exact hq
  | stray answers memory hnode => exact hkept (hpromised.1 _ rfl).1 hq
  | pool h ih =>
      obtain ⟨hclear, hrest⟩ := hpromised.of_memory hbytes
      exact ih hrest (hkept hclear.1 hq)

/-- The pools got and the memory lost were not taken before. -/
theorem Grown.not_mem (hbytes : bytes ≠ 0)
    (h : mr.Grown bytes answers memory new stray memory')
    (hpromised : mr.Promised bytes answers memory) :
    ∀ q, q ∈ new ∨ q ∈ stray → q ∉ memory := by
  induction h with
  | done => simp
  | stray answers memory hnode =>
      intro q hq
      obtain rfl : q = _ := by simpa using hq
      exact (hpromised.1 _ rfl).1
  | pool h ih =>
      obtain ⟨hclear, hrest⟩ := hpromised.of_memory hbytes
      intro q hq hmem
      rw [List.mem_cons, or_assoc] at hq
      rcases hq with rfl | hq
      · exact hclear.1 hmem
      · exact ih hrest q hq ((AList.mem_insert _).mpr (.inr hmem))

/-- Each pool is a region of its own, which CUDA knows. -/
theorem Grown.pools (hbytes : bytes ≠ 0)
    (h : mr.Grown bytes answers memory new stray memory')
    (hpromised : mr.Promised bytes answers memory) :
    new.Nodup ∧ (∀ q ∈ new, q ∉ stray) ∧
      ∀ q ∈ new, memory'.lookup q = some ⟨mr.numaNode, bytes, true⟩ := by
  induction h with
  | done => simp
  | stray => simp
  | @pool p answers memory memory' new stray h ih =>
      obtain ⟨hclear, hrest⟩ := hpromised.of_memory hbytes
      obtain ⟨hnodup, hstray, hregions⟩ := ih hrest
      have hfresh : ∀ q, q ∈ new ∨ q ∈ stray → q ≠ p := by
        intro q hq hqp
        exact h.not_mem hbytes hrest q hq (hqp ▸ (AList.mem_insert _).mpr (.inl rfl))
      refine ⟨List.nodup_cons.mpr ⟨fun hp => hfresh p (.inl hp) rfl, hnodup⟩, ?_, ?_⟩
      · intro q hq hlost
        rcases List.mem_cons.mp hq with rfl | hq
        · exact hfresh q (.inr hlost) rfl
        · exact hstray q hq hlost
      · intro q hq
        rcases List.mem_cons.mp hq with rfl | hq
        · exact h.lookup hbytes hrest (AList.lookup_insert _)
        · exact hregions q hq

/-! ## The constructor -/

/-- The constructor throws when memory is already taken. -/
def LeavesPools (mr : PinnedHostResource) : List SystemAnswer → Prop
  | [] => False
  | .memory _ :: answers => ¬ ∀ answer ∈ answers, answer.grants = true
  | answer :: _ => mr.Strays answer

instance (mr : PinnedHostResource) :
    (answers : List SystemAnswer) → Decidable (mr.LeavesPools answers)
  | [] => isFalse not_false
  | .memory _ :: answers =>
      inferInstanceAs (Decidable (¬ ∀ answer ∈ answers, answer.grants = true))
  | .refused e :: _ => inferInstanceAs (Decidable (mr.Strays (.refused e)))
  | .unregistered p e :: _ => inferInstanceAs (Decidable (mr.Strays (.unregistered p e)))

theorem not_leavesPools (h : ∀ answer ∈ answers, answer.grants = true) :
    ¬ mr.LeavesPools answers := by
  cases answers with
  | nil => exact not_false
  | cons answer answers =>
      have hfirst := h answer List.mem_cons_self
      cases answer with
      | memory p => exact not_not_intro fun a ha => h a (List.mem_cons_of_mem _ ha)
      | refused | unregistered => cases hfirst

theorem eq_memory_of_grants {answer : SystemAnswer} (hgrants : answer.grants = true) :
    ∃ p, answer = .memory p := by
  cases answer with
  | memory p => exact ⟨p, rfl⟩
  | refused | unregistered => cases hgrants

/-- What a call that fails leaves, after which no other is made. -/
theorem grown_of_error (hbytes : bytes ≠ 0) {answer : SystemAnswer}
    (hgrants : answer.grants = false) (answers : List SystemAnswer) (memory : SystemMemory) :
    ∃ memory' e stray, mr.doAllocate memory bytes answer = (memory', .error e) ∧
      mr.Grown bytes (answer :: answers) memory [] stray memory' ∧
      ((∃ q, q ∈ stray) ↔ mr.Strays answer) := by
  by_cases hstrays : mr.Strays answer
  · cases answer with
    | memory p => cases hgrants
    | refused e => exact absurd hstrays not_false
    | unregistered p e =>
        exact ⟨_, e, [p], doAllocate_unregistered hbytes hstrays memory p e, .stray _ _ hstrays,
          iff_of_true ⟨p, List.mem_cons_self⟩ hstrays⟩
  · obtain ⟨e, hanswer⟩ := doAllocate_refused hbytes hgrants hstrays
    exact ⟨memory, e, [], hanswer memory, .done _ _, iff_of_false (by simp) hstrays⟩

theorem leavesPools_cons {answer : SystemAnswer} (hgrants : answer.grants = false) :
    mr.LeavesPools (answer :: answers) ↔ mr.Strays answer := by
  cases answer with
  | memory p => cases hgrants
  | refused | unregistered => exact Iff.rfl

/-- The constructor gets all its pools, or it throws and what it took is lost. -/
theorem initialPools_grown (hbytes : bytes ≠ 0) {out : Except Exception (List Addr)}
    (h : mr.initialPools bytes answers memory = (memory', out)) :
    (∃ new, out = .ok new ∧ mr.Grown bytes answers memory new [] memory' ∧
      ∀ answer ∈ answers, answer.grants = true) ∨
    (∃ e new stray, out = .error e ∧ mr.Grown bytes answers memory new stray memory' ∧
      (¬ ∀ answer ∈ answers, answer.grants = true) ∧
      (mr.LeavesPools answers ↔ ∃ q, q ∈ new ∨ q ∈ stray)) := by
  induction answers generalizing memory memory' out with
  | nil =>
      cases h
      exact .inl ⟨[], rfl, .done _ _, List.forall_mem_nil _⟩
  | cons answer answers ih =>
      unfold initialPools at h
      cases hgrants : answer.grants with
      | true =>
          obtain ⟨p, rfl⟩ := eq_memory_of_grants hgrants
          rw [doAllocate_memory hbytes] at h
          dsimp only at h
          rcases hrest : mr.initialPools bytes answers
            (memory.insert p ⟨mr.numaNode, bytes, true⟩) with ⟨memory₁, out₁⟩
          rw [hrest] at h
          rcases ih hrest with ⟨new, rfl, hgrown, hall⟩ | ⟨e, new, stray, rfl, hgrown, hsome, -⟩
          · cases h
            refine .inl ⟨p :: new, rfl, hgrown.pool, fun a ha => ?_⟩
            rcases List.mem_cons.mp ha with rfl | ha
            · rfl
            · exact hall a ha
          · cases h
            refine .inr ⟨e, p :: new, stray, rfl, hgrown.pool, ?_, ?_⟩
            · exact fun hall => hsome fun a ha => hall a (List.mem_cons_of_mem _ ha)
            · exact iff_of_true hsome ⟨p, .inl List.mem_cons_self⟩
      | false =>
          obtain ⟨memory₁, e, stray, hcall, hgrown, hstray⟩ :=
            grown_of_error hbytes hgrants answers memory
          rw [hcall] at h
          cases h
          refine .inr ⟨e, [], stray, rfl, hgrown, ?_, ?_⟩
          · intro hall
            rw [hall answer List.mem_cons_self] at hgrants
            cases hgrants
          · rw [leavesPools_cons hgrants, ← hstray]
            simp

/-- To who makes the space, the loop is that of the constructor over what `mr` answers. -/
theorem initialPools_snd (memory : SystemMemory) :
    (mr.initialPools bytes answers memory).2 =
      CuCascade.Memory.initialPools
        (fun i bytes => (mr.doAllocate ∅ bytes (answers.getD i .last)).2) bytes
        answers.length := by
  induction answers generalizing memory with
  | nil => rfl
  | cons answer answers ih =>
      unfold initialPools CuCascade.Memory.initialPools
      rw [List.length_cons, List.range_succ_eq_map, List.mapM_cons, List.mapM_map]
      simp only [List.getD_cons_zero]
      rw [← doAllocate_snd memory]
      rcases mr.doAllocate memory bytes answer with ⟨memory₁, e | p⟩
      · rfl
      · have hrest := ih memory₁
        unfold CuCascade.Memory.initialPools at hrest
        simp only [Function.comp_def, List.getD_cons_succ]
        rw [← hrest]
        rcases mr.initialPools bytes answers memory₁ with ⟨memory₂, e | pools⟩ <;> rfl

/-! ## The loop -/

/-- The first call that fails among those that `n` turns come to, with `free` blocks to
begin with, leaves memory taken. -/
def StraysWithin (mr : PinnedHostResource) (poolSize n : Nat) :
    Nat → List SystemAnswer → Prop
  | _, [] => False
  | free, .memory _ :: answers => mr.StraysWithin poolSize n (free + poolSize) answers
  | free, answer :: _ => free < n ∧ mr.Strays answer

instance decidableStraysWithin (mr : PinnedHostResource) (poolSize n : Nat) :
    (free : Nat) → (answers : List SystemAnswer) →
      Decidable (mr.StraysWithin poolSize n free answers)
  | _, [] => isFalse not_false
  | free, .memory _ :: answers => decidableStraysWithin mr poolSize n (free + poolSize) answers
  | free, .refused e :: _ => inferInstanceAs (Decidable (free < n ∧ mr.Strays (.refused e)))
  | free, .unregistered p e :: _ =>
      inferInstanceAs (Decidable (free < n ∧ mr.Strays (.unregistered p e)))

theorem straysWithin_succ {poolSize n free : Nat} :
    mr.StraysWithin poolSize (n + 1) (free + 1) answers ↔
      mr.StraysWithin poolSize n free answers := by
  induction answers generalizing free with
  | nil => exact Iff.rfl
  | cons answer answers ih =>
      cases answer with
      | memory p =>
          simp only [StraysWithin]
          rw [Nat.add_right_comm]
          exact ih
      | refused | unregistered => simp [StraysWithin]

theorem not_straysWithin_zero {poolSize free : Nat} :
    ¬ mr.StraysWithin poolSize 0 free answers := by
  induction answers generalizing free with
  | nil => exact not_false
  | cons answer answers ih =>
      cases answer with
      | memory p => exact ih
      | refused | unregistered => simp [StraysWithin]

theorem straysWithin_cons {poolSize n : Nat} {answer : SystemAnswer}
    (hgrants : answer.grants = false) :
    mr.StraysWithin poolSize (n + 1) 0 (answer :: answers) ↔ mr.Strays answer := by
  cases answer with
  | memory p => cases hgrants
  | refused | unregistered => exact and_iff_right (Nat.succ_pos n)

end PinnedHostResource

namespace HostResource

open PinnedHostResource

variable {mr : PinnedHostResource} {answers : List SystemAnswer}
  {upstream : Nat → UInt64 → Except Exception Addr}

/-- The upstream of a resource is `mr`, and these are its answers to come. -/
def Upstream (r : HostResource) (mr : PinnedHostResource) (answers : List SystemAnswer)
    (upstream : Nat → UInt64 → Except Exception Addr) : Prop :=
  ∀ j, upstream (r.allocatedBlocks.length + j) r.poolBytes =
    (mr.doAllocate ∅ r.poolBytes (answers.getD j .last)).2

theorem Upstream.addPool {r : HostResource} {base : Addr} {answer : SystemAnswer}
    (h : r.Upstream mr (answer :: answers) upstream) :
    (r.addPool base).Upstream mr answers upstream := by
  intro j
  have hj := h (j + 1)
  rw [List.getD_cons_succ] at hj
  simp only [HostResource.addPool, List.length_append, List.length_singleton, poolBytes] at hj ⊢
  rw [Nat.add_assoc, Nat.add_comm 1 j]
  exact hj

/-- The pools that the loop adds are those that it takes from the system. -/
theorem takeBlocks_grown (n : Nat) : ∀ {r r' : HostResource} {acc : List Block}
    {out : Except Exception (Bool × List Block)} {answers : List SystemAnswer}
    (memory : SystemMemory),
    r.poolBytes ≠ 0 → r.Upstream mr answers upstream →
    takeBlocks upstream n r acc = (r', out) →
    ∃ new stray, r'.allocatedBlocks = r.allocatedBlocks ++ new ∧
      mr.Grown r.poolBytes answers memory new stray
        (mr.afterTurns r.poolBytes r.poolSize.toNat n r.freeBlocks.length answers memory) ∧
      ((∃ q, q ∈ stray) ↔
        mr.StraysWithin r.poolSize.toNat n r.freeBlocks.length answers) := by
  induction n with
  | zero =>
      intro r r' acc out answers memory hbytes hup h
      cases h
      refine ⟨[], [], (List.append_nil _).symm, ?_, iff_of_false (by simp) not_straysWithin_zero⟩
      unfold afterTurns
      exact .done _ _
  | succ n ih =>
      intro r r' acc out answers memory hbytes hup h
      unfold takeBlocks at h
      cases hfree : r.freeBlocks with
      | cons ptr freeBlocks =>
          simp only [hfree, List.isEmpty_cons, Bool.false_eq_true, if_false] at h
          rw [List.length_cons, straysWithin_succ]
          exact ih (r := { r with freeBlocks := freeBlocks }) memory hbytes hup h
      | nil =>
          simp only [hfree, List.isEmpty_nil, if_true, expandPool] at h
          have hcall := hup 0
          rw [Nat.add_zero, ← doAllocate_snd memory] at hcall
          change upstream r.allocatedBlocks.length (r.blockSize * r.poolSize) = _ at hcall
          rw [hcall] at h
          rw [List.length_nil]
          cases answers with
          | nil =>
              obtain ⟨e, hlast⟩ : ∃ e, ∀ memory,
                  mr.doAllocate memory r.poolBytes .last = (memory, .error e) :=
                doAllocate_refused hbytes rfl not_false
              rw [List.getD_nil, hlast] at h
              cases h
              refine ⟨[], [], (List.append_nil _).symm, ?_, iff_of_false (by simp) not_false⟩
              simp only [afterTurns, List.headD_nil, hlast]
              exact .done _ _
          | cons answer answers =>
              rw [List.getD_cons_zero] at h
              simp only [afterTurns, List.headD_cons, List.tail_cons]
              cases hgrants : answer.grants with
              | true =>
                  obtain ⟨p, rfl⟩ := eq_memory_of_grants hgrants
                  simp only [doAllocate_memory hbytes, StraysWithin, Nat.zero_add] at h ⊢
                  have hup' : (r.addPool p).Upstream mr answers upstream := hup.addPool
                  have hlen : (r.addPool p).freeBlocks.length = r.poolSize.toNat := by
                    simp [HostResource.addPool, hfree]
                  cases hnew : (r.addPool p).freeBlocks with
                  | nil =>
                      rw [hnew, List.length_nil] at hlen
                      have hzero : r.poolSize = 0 := UInt64.toNat_inj.mp hlen.symm
                      exact absurd (by rw [poolBytes, hzero, UInt64.mul_zero]) hbytes
                  | cons ptr freeBlocks =>
                      rw [hnew, List.length_cons] at hlen
                      simp only [hnew] at h
                      obtain ⟨new, stray, hpools, hgrown, hlost⟩ :=
                        ih (r := { r.addPool p with freeBlocks := freeBlocks })
                          (memory.insert p ⟨mr.numaNode, r.poolBytes, true⟩) hbytes hup' h
                      refine ⟨p :: new, stray, ?_, ?_, ?_⟩
                      · rw [hpools]
                        simp [HostResource.addPool]
                      · rw [← hlen]
                        dsimp only
                        rw [hlen]
                        exact hgrown.pool
                      · rw [hlost, ← straysWithin_succ, hlen]
                        exact Iff.rfl
              | false =>
                  obtain ⟨memory₁, e, stray, hanswer, hgrown, hstray⟩ :=
                    grown_of_error hbytes hgrants answers memory
                  rw [hanswer] at h
                  cases h
                  rw [hanswer]
                  exact ⟨[], stray, (List.append_nil _).symm, hgrown,
                    hstray.trans (straysWithin_cons hgrants).symm⟩

/-! ## A call -/

/-- What a call makes of a resource and of the memory of the system. -/
structure Fed (r : HostResource) (mr : PinnedHostResource) (answers : List SystemAnswer)
    (memory : SystemMemory) (r' : HostResource) (out : List Block) (memory' : SystemMemory)
    (lost : Prop) : Prop where
  blockSize : r'.blockSize = r.blockSize
  poolSize : r'.poolSize = r.poolSize
  grown : ∃ new stray, r'.allocatedBlocks = r.allocatedBlocks ++ new ∧
    mr.Grown r.poolBytes answers memory new stray memory' ∧ ((∃ q, q ∈ stray) ↔ lost)
  blocks : ∃ carved, r'.carved = r.carved ++ carved ∧
    (r'.freeBlocks : Multiset Block) + out ≤ r.freeBlocks + carved

theorem SamePool.fed {r r' : HostResource} (h : r.SamePool r')
    (hblock : r'.blockSize = r.blockSize) (answers : List SystemAnswer) (memory : SystemMemory) :
    r.Fed mr answers memory r' [] memory False where
  blockSize := hblock
  poolSize := h.poolSize
  grown := ⟨[], [], by rw [h.allocatedBlocks, List.append_nil], .done _ _, by simp⟩
  blocks := ⟨[], by rw [h.carved, List.append_nil], by simp [h.freeBlocks]⟩

/-- The part of `allocate_multiple_blocks` from the charge on. -/
theorem allocateTracked_fed {r r' : HostResource} {n c : UInt64} {tracker : Option Addr}
    {out : Except Failure (Option MultipleBlocksAllocation)} (memory : SystemMemory)
    (hbytes : r.poolBytes ≠ 0) (hup : r.Upstream mr answers upstream)
    (h : r.allocateTracked upstream n c tracker = (r', out)) :
    r.Fed mr answers memory r' (handedOut out)
      (if (tryAdd r.allocatedBytes c r.memoryCapacity).1 = true then
        mr.afterTurns r.poolBytes r.poolSize.toNat (n / r.blockSize).toNat
          r.freeBlocks.length answers memory
      else memory)
      ((tryAdd r.allocatedBytes c r.memoryCapacity).1 = true ∧
        mr.StraysWithin r.poolSize.toNat (n / r.blockSize).toNat r.freeBlocks.length
          answers) := by
  have hspares := allocateTracked_spares h
  unfold allocateTracked at h
  rcases htry : tryAdd r.allocatedBytes c r.memoryCapacity with ⟨ok, post⟩
  rw [htry] at h
  cases ok with
  | false =>
      cases h
      have hidle : r.Fed mr answers memory (r.untrack tracker n) [] memory False :=
        (untrack_samePool r tracker n).fed (untrack_blockSize r tracker n) answers memory
      simp only [Bool.false_eq_true, if_false, false_and]
      exact hidle
  | true =>
      dsimp only at h
      rcases htake : takeBlocks upstream (n / r.blockSize).toNat
        { r with allocatedBytes := post } [] with ⟨r₁, got⟩
      rw [htake] at h
      have hgrown := takeBlocks_grown (r := { r with allocatedBytes := post }) _ memory
        hbytes hup htake
      simp only [if_true, true_and]
      refine ⟨hspares.blockSize, hspares.poolSize, ?_, hspares.blocks⟩
      rcases got with e | ⟨complete, taken⟩
      · cases h
        exact hgrown
      · cases complete with
        | true =>
            cases h
            exact hgrown
        | false =>
            cases h
            obtain ⟨new, stray, hpools, hmemory⟩ := hgrown
            have hsame := untrack_samePool { r₁ with
              freeBlocks := taken.foldl (fun l ptr => ptr :: l) r₁.freeBlocks
              allocatedBytes := r₁.allocatedBytes - c } tracker n
            exact ⟨new, stray, hsame.allocatedBlocks.trans hpools, hmemory⟩

/-- `allocate_multiple_blocks` takes the pools it adds from the system, and hands out
blocks that were free or that it has carved. -/
theorem allocate_fed {r r' : HostResource} {totalBytes : UInt64} {res : Option Addr}
    {out : Except Failure (Option MultipleBlocksAllocation)} (memory : SystemMemory)
    (hbytes : r.poolBytes ≠ 0) (hup : r.Upstream mr answers upstream)
    (h : r.allocateMultipleBlocks totalBytes (res.map some) upstream = (r', out)) :
    r.Fed mr answers memory r' (handedOut out)
      (r.pinnedAfter mr totalBytes res answers memory)
      (r.entersLoop totalBytes res = true ∧
        mr.StraysWithin r.poolSize.toNat (alignUp totalBytes r.blockSize / r.blockSize).toNat
          r.freeBlocks.length answers) := by
  have hidle (hno : r.entersLoop totalBytes res = false) :
      r.Fed mr answers memory r [] (r.pinnedAfter mr totalBytes res answers memory)
        (r.entersLoop totalBytes res = true ∧
          mr.StraysWithin r.poolSize.toNat
            (alignUp totalBytes r.blockSize / r.blockSize).toNat r.freeBlocks.length
            answers) := by
    have hsame : r.SamePool r := ⟨rfl, rfl, rfl⟩
    unfold pinnedAfter
    simpa [hno] using hsame.fed rfl answers memory
  unfold allocateMultipleBlocks at h
  by_cases hzero : totalBytes = 0
  · rw [if_pos hzero] at h
    cases h
    exact hidle (by simp [entersLoop, hzero])
  by_cases hblock : r.blockSize = 0
  · rw [if_neg hzero, if_pos hblock] at h
    cases h
    exact hidle (by simp [entersLoop, hblock])
  rw [if_neg hzero, if_neg hblock] at h
  cases res with
  | none =>
      have henters : r.entersLoop totalBytes none =
          (tryAdd r.allocatedBytes (alignUp totalBytes r.blockSize) r.memoryCapacity).1 := by
        simp [entersLoop, hzero, hblock]
      unfold pinnedAfter
      rw [henters]
      exact allocateTracked_fed memory hbytes hup h
  | some p =>
      simp only [Option.map_some] at h
      cases hp : r.activeReservations.lookup p with
      | none =>
          rw [hp] at h
          cases h
          exact hidle (by simp [entersLoop, hp])
      | some pre =>
          cases harena : r.arenas.lookup p with
          | none =>
              rw [hp, harena] at h
              cases h
              exact hidle (by simp [entersLoop, hp, harena])
          | some arena =>
              let rounded := alignUp totalBytes r.blockSize
              have henters : r.entersLoop totalBytes (some p) =
                  (tryAdd r.allocatedBytes
                    (upstreamTrackedBytes rounded arena.size pre (pre + rounded.toInt64))
                    r.memoryCapacity).1 := by
                simp [entersLoop, hzero, hblock, hp, harena, rounded]
              rw [hp, harena] at h
              have hfed := allocateTracked_fed
                (r := { r with activeReservations :=
                  r.activeReservations.insert p (pre + rounded.toInt64) })
                memory hbytes hup h
              unfold pinnedAfter
              rw [henters]
              exact ⟨hfed.blockSize, hfed.poolSize, hfed.grown, hfed.blocks⟩

end HostResource

end CuCascade.Memory

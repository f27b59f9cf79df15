import Mathlib.Algebra.Order.Group.Multiset
import CuCascade.Memory.HostWorld

/-!
# Who has the blocks of a host pool

Each block is carved once by `expand_pool`, and from then on it should be in
exactly one place: on the free list or in one live allocation. The books here
are kept in blocks and not in bytes: `carved` is everything the pools hold,
and the question for each function is what it does to the free list and the
blocks it hands out, taken together.

`allocate_multiple_blocks` keeps them, its clean-up branch included, and so
does everything that has to do with reservations. `return_allocated_chunks`
does not: it settles the bytes of the chunks it is given and drops the chunks.
So the blocks of a run are accounted for exactly as long as every allocation
destroyed in it was empty.
-/

namespace CuCascade.Memory

namespace HostResource

/-- All the blocks of the pools added so far. -/
def carved (r : HostResource) : List Block :=
  (List.range r.allocatedBlocks.length).flatMap fun pool =>
    (List.range r.poolSize.toNat).map (Block.mk pool)

/-- The blocks a request of this size takes. -/
def numBlocks (r : HostResource) (totalBytes : UInt64) : Nat :=
  (alignUp totalBytes r.blockSize / r.blockSize).toNat

/-- `r'` has the pools and the free list of `r`. -/
structure SamePool (r r' : HostResource) : Prop where
  freeBlocks : r'.freeBlocks = r.freeBlocks
  allocatedBlocks : r'.allocatedBlocks = r.allocatedBlocks
  poolSize : r'.poolSize = r.poolSize

/-- `r'` has the counters, the reservations and the settings of `r`. -/
structure SameBooks (r r' : HostResource) : Prop where
  memoryLimit : r'.memoryLimit = r.memoryLimit
  memoryCapacity : r'.memoryCapacity = r.memoryCapacity
  blockSize : r'.blockSize = r.blockSize
  poolSize : r'.poolSize = r.poolSize
  allocatedBytes : r'.allocatedBytes = r.allocatedBytes
  activeReservations : r'.activeReservations = r.activeReservations
  arenas : r'.arenas = r.arenas

theorem SameBooks.refl (r : HostResource) : r.SameBooks r :=
  ⟨rfl, rfl, rfl, rfl, rfl, rfl, rfl⟩

theorem SameBooks.trans {r₁ r₂ r₃ : HostResource} (h₁ : r₁.SameBooks r₂)
    (h₂ : r₂.SameBooks r₃) : r₁.SameBooks r₃ :=
  ⟨h₂.memoryLimit.trans h₁.memoryLimit,
    h₂.memoryCapacity.trans h₁.memoryCapacity, h₂.blockSize.trans h₁.blockSize,
    h₂.poolSize.trans h₁.poolSize, h₂.allocatedBytes.trans h₁.allocatedBytes,
    h₂.activeReservations.trans h₁.activeReservations,
    h₂.arenas.trans h₁.arenas⟩

theorem SamePool.carved {r r' : HostResource} (h : r.SamePool r') :
    r'.carved = r.carved := by
  unfold HostResource.carved
  rw [h.allocatedBlocks, h.poolSize]

theorem carved_length (r : HostResource) :
    r.carved.length = r.allocatedBlocks.length * r.poolSize.toNat := by
  unfold carved
  simp

theorem carved_nodup (r : HostResource) : r.carved.Nodup := by
  unfold carved
  rw [List.nodup_flatMap]
  constructor
  · intro pool _
    refine List.nodup_range.map ?_
    intro i j hij
    exact (Block.mk.inj hij).2
  · refine List.nodup_range.imp ?_
    intro i j hij b hi hj
    obtain ⟨x, -, rfl⟩ := List.mem_map.mp hi
    obtain ⟨y, -, heq⟩ := List.mem_map.mp hj
    exact hij (Block.mk.inj heq).1.symm

theorem carved_addPool (r : HostResource) (base : Addr) :
    (r.addPool base).carved = r.carved ++
      (List.range r.poolSize.toNat).map (Block.mk r.allocatedBlocks.length) := by
  unfold carved addPool
  simp [List.range_succ]

theorem addPool_freeBlocks (r : HostResource) (base : Addr) :
    (r.addPool base).freeBlocks.Perm (r.freeBlocks ++
      (List.range r.poolSize.toNat).map (Block.mk r.allocatedBlocks.length)) := by
  unfold addPool
  exact ((List.reverse_perm _).append_right _).trans List.perm_append_comm

theorem addPool_sameBooks (r : HostResource) (base : Addr) :
    r.SameBooks (r.addPool base) :=
  ⟨rfl, rfl, rfl, rfl, rfl, rfl, rfl⟩

/-! ## The loop -/

section

variable {upstream : Nat → UInt64 → Except Exception Addr}

/-- What `n` turns of the loop do that start with the blocks `acc` and end with
`taken`, having carved `new`. -/
structure Taken (r r' : HostResource) (n : Nat) (acc : List Block) (done : Bool)
    (taken new : List Block) : Prop where
  books : r.SameBooks r'
  carved : r'.carved = r.carved ++ new
  perm : (r'.freeBlocks ++ taken).Perm (r.freeBlocks ++ acc ++ new)
  length : done = true → taken.length = acc.length + n
  room : n ≤ r.freeBlocks.length →
    done = true ∧ r'.allocatedBlocks = r.allocatedBlocks
  pools : 0 < r.poolSize.toNat → done = true

/-- A turn that starts from a free list expanded by `new₁` if it had to be. -/
theorem Taken.cons {r r₁ r' : HostResource} {n : Nat} {ptr : Block}
    {freeBlocks acc taken new₁ new : List Block} {done : Bool}
    (hbooks : r.SameBooks r₁) (hcarved : r₁.carved = r.carved ++ new₁)
    (hfree : (ptr :: freeBlocks).Perm (r.freeBlocks ++ new₁))
    (hroom : n + 1 ≤ r.freeBlocks.length →
      n ≤ freeBlocks.length ∧ r₁.allocatedBlocks = r.allocatedBlocks)
    (h : Taken { r₁ with freeBlocks := freeBlocks } r' n (acc ++ [ptr]) done
      taken new) :
    Taken r r' (n + 1) acc done taken (new₁ ++ new) where
  books := by
    have hpop : r.SameBooks { r₁ with freeBlocks := freeBlocks } :=
      ⟨hbooks.memoryLimit, hbooks.memoryCapacity, hbooks.blockSize,
        hbooks.poolSize, hbooks.allocatedBytes, hbooks.activeReservations,
        hbooks.arenas⟩
    exact hpop.trans h.books
  carved := by
    rw [h.carved, ← List.append_assoc, ← hcarved]
    rfl
  perm := by
    have htake : (freeBlocks ++ (acc ++ [ptr])).Perm (ptr :: freeBlocks ++ acc) := by
      rw [← List.append_assoc]
      exact List.perm_append_singleton _ _
    refine h.perm.trans ((htake.append_right new).trans ?_)
    refine ((hfree.append_right acc).append_right new).trans ?_
    simp only [List.append_assoc]
    refine List.Perm.append_left _ ?_
    rw [← List.append_assoc, ← List.append_assoc]
    exact List.perm_append_comm.append_right _
  length hd := by
    rw [h.length hd, List.length_append, List.length_singleton]
    omega
  room hle := by
    obtain ⟨hle₁, hsame⟩ := hroom hle
    obtain ⟨hd, heq⟩ := h.room hle₁
    exact ⟨hd, heq.trans hsame⟩
  pools hp := h.pools (hbooks.poolSize.symm ▸ hp)

/-- The free list and the blocks taken so far gain what the loop carves, and
lose nothing, unless the upstream throws. Every turn that finds the list empty
carves a pool first; then one block moves from the list to the taken. -/
theorem takeBlocks_taken (n : Nat) :
    ∀ {r r' : HostResource} {acc taken : List Block} {done : Bool},
    takeBlocks upstream n r acc = (r', .ok (done, taken)) →
    ∃ new, Taken r r' n acc done taken new := by
  induction n with
  | zero =>
      intro r r' acc taken done h
      cases h
      exact ⟨[], SameBooks.refl r, by simp, by simp, fun _ => rfl,
        fun _ => ⟨rfl, rfl⟩, fun _ => rfl⟩
  | succ n ih =>
      intro r r' acc taken done h
      unfold takeBlocks at h
      cases hfree : r.freeBlocks with
      | cons ptr freeBlocks =>
          simp only [hfree, List.isEmpty_cons, Bool.false_eq_true, if_false] at h
          obtain ⟨new, htaken⟩ := ih h
          refine ⟨[] ++ new,
            htaken.cons (SameBooks.refl r) (by simp) (by simp [hfree]) ?_⟩
          intro hle
          rw [hfree, List.length_cons] at hle
          exact ⟨Nat.le_of_succ_le_succ hle, rfl⟩
      | nil =>
          simp only [hfree, List.isEmpty_nil, if_true, expandPool] at h
          cases hup : upstream r.allocatedBlocks.length (r.blockSize * r.poolSize) with
          | error e =>
              rw [hup] at h
              cases h
          | ok base =>
              have hgain := addPool_freeBlocks r base
              rw [hfree, List.nil_append] at hgain
              simp only [hup] at h
              cases hnew : (r.addPool base).freeBlocks with
              | nil =>
                  rw [hnew] at h hgain
                  cases h
                  have hnone := List.nil_perm.mp hgain
                  have hcarved := carved_addPool r base
                  rw [hnone] at hcarved
                  refine ⟨[], addPool_sameBooks r base, hcarved, ?_, nofun, ?_, ?_⟩
                  · rw [hnew, hfree]
                    simp
                  · intro hle
                    rw [hfree] at hle
                    cases hle
                  · intro hp
                    have hlen := congrArg List.length hnone
                    rw [List.length_map, List.length_range, List.length_nil] at hlen
                    omega
              | cons ptr freeBlocks =>
                  simp only [hnew] at h
                  obtain ⟨new, htaken⟩ := ih h
                  refine ⟨_ ++ new,
                    htaken.cons (addPool_sameBooks r base) (carved_addPool r base)
                      ?_ ?_⟩
                  · rw [← hnew, hfree, List.nil_append]
                    exact hgain
                  · intro hle
                    rw [hfree] at hle
                    cases hle

/-- The upstream throws at an expansion that `n` turns of the loop come to: the
first, if too few blocks are free, or a later one, if the pools before it are
not enough and not empty. -/
def ThrowsWithin (upstream : Nat → UInt64 → Except Exception Addr)
    (r : HostResource) (n : Nat) : Prop :=
  ∃ j, (0 < j → 0 < r.poolSize.toNat) ∧
    r.freeBlocks.length + j * r.poolSize.toNat < n ∧
    ∃ e, upstream (r.allocatedBlocks.length + j) (r.blockSize * r.poolSize) = .error e

theorem throwsWithin_cons {r : HostResource} {n : Nat} {ptr : Block}
    {freeBlocks : List Block} (hfree : r.freeBlocks = ptr :: freeBlocks) :
    ThrowsWithin upstream r (n + 1) ↔
      ThrowsWithin upstream { r with freeBlocks := freeBlocks } n := by
  unfold ThrowsWithin
  simp only [hfree, List.length_cons, Nat.add_right_comm _ 1, Nat.succ_lt_succ_iff]

/-- An expansion that the upstream grants leaves those after it. -/
theorem throwsWithin_addPool {r : HostResource} {n : Nat} {base : Addr}
    (hfree : r.freeBlocks = [])
    (hup : upstream r.allocatedBlocks.length (r.blockSize * r.poolSize) = .ok base) :
    ThrowsWithin upstream r n ↔
      0 < r.poolSize.toNat ∧ ThrowsWithin upstream (r.addPool base) n := by
  have hlen : (r.addPool base).freeBlocks.length = r.poolSize.toNat := by
    simp [addPool, hfree]
  have hpools : (r.addPool base).allocatedBlocks.length =
      r.allocatedBlocks.length + 1 := by
    simp [addPool]
  have hsize : (r.addPool base).poolSize = r.poolSize := rfl
  have hblock : (r.addPool base).blockSize = r.blockSize := rfl
  unfold ThrowsWithin
  rw [hlen, hpools, hfree, List.length_nil, hsize, hblock]
  constructor
  · intro ⟨j, hj, hlt, e, he⟩
    cases j with
    | zero =>
        rw [Nat.add_zero, hup] at he
        cases he
    | succ j =>
        have hpos := hj (Nat.succ_pos j)
        rw [Nat.succ_mul] at hlt
        refine ⟨hpos, j, fun _ => hpos, by omega, e, ?_⟩
        rw [Nat.add_right_comm]
        exact he
  · intro ⟨hpos, j, _, hlt, e, he⟩
    rw [Nat.add_right_comm] at he
    refine ⟨j + 1, fun _ => hpos, ?_, e, he⟩
    rw [Nat.succ_mul]
    omega

theorem takeBlocks_throws_iff (n : Nat) : ∀ {r : HostResource} {acc : List Block},
    (∃ e, (takeBlocks upstream n r acc).2 = .error e) ↔ ThrowsWithin upstream r n := by
  induction n with
  | zero =>
      intro r acc
      constructor
      · intro ⟨e, he⟩
        cases he
      · intro ⟨j, _, hlt, _⟩
        exact absurd hlt (Nat.not_lt_zero _)
  | succ n ih =>
      intro r acc
      unfold takeBlocks
      cases hfree : r.freeBlocks with
      | cons ptr freeBlocks =>
          simp only [hfree, List.isEmpty_cons, Bool.false_eq_true, if_false]
          exact ih.trans (throwsWithin_cons hfree).symm
      | nil =>
          simp only [List.isEmpty_nil, if_true, expandPool]
          cases hup : upstream r.allocatedBlocks.length (r.blockSize * r.poolSize) with
          | error e =>
              refine ⟨fun _ => ⟨0, nofun, ?_, e, hup⟩, fun _ => ⟨e, rfl⟩⟩
              rw [hfree, List.length_nil, Nat.zero_mul]
              exact Nat.succ_pos n
          | ok base =>
              dsimp only
              rw [throwsWithin_addPool hfree hup]
              have hlen : (r.addPool base).freeBlocks.length = r.poolSize.toNat := by
                simp [addPool, hfree]
              cases hnew : (r.addPool base).freeBlocks with
              | nil =>
                  rw [hnew, List.length_nil] at hlen
                  rw [← hlen]
                  constructor
                  · intro ⟨_, he⟩
                    cases he
                  · exact fun h => absurd h.1 (Nat.lt_irrefl 0)
              | cons ptr freeBlocks =>
                  rw [hnew, List.length_cons] at hlen
                  rw [throwsWithin_cons hnew, and_iff_right (by omega)]
                  exact ih

theorem takeBlocks_answers (hup : ∀ pool size, ∃ base, upstream pool size = .ok base)
    {n : Nat} {r r' : HostResource} {acc : List Block}
    {res : Except Exception (Bool × List Block)}
    (h : takeBlocks upstream n r acc = (r', res)) :
    ∃ done taken, res = .ok (done, taken) := by
  match res, h with
  | .ok (done, taken), _ => exact ⟨done, taken, rfl⟩
  | .error e, h =>
      obtain ⟨j, -, -, e', he'⟩ := (takeBlocks_throws_iff n).mp ⟨e, congrArg Prod.snd h⟩
      obtain ⟨base, hbase⟩ := hup (r.allocatedBlocks.length + j)
        (r.blockSize * r.poolSize)
      rw [hbase] at he'
      cases he'

/-! ## One call -/

/-- The blocks a call hands out. -/
def handedOut : Except Failure (Option MultipleBlocksAllocation) → List Block
  | .ok (some a) => a.blocks
  | _ => []

/-- From `r` to `r'` the pools gained some blocks; the free list and `out` hold
them and what was free. -/
def Gains (r r' : HostResource) (out : List Block) : Prop :=
  ∃ new, r'.carved = r.carved ++ new ∧
    (r'.freeBlocks ++ out).Perm (r.freeBlocks ++ new)

theorem SamePool.gains {r r' : HostResource} (h : r.SamePool r') :
    r.Gains r' [] :=
  ⟨[], by rw [h.carved, List.append_nil], by rw [h.freeBlocks]⟩

theorem Gains.same {r₁ r₂ r₃ r₄ : HostResource} {out : List Block}
    (h : r₂.Gains r₃ out) (h₁ : r₁.SamePool r₂) (h₂ : r₃.SamePool r₄) :
    r₁.Gains r₄ out := by
  obtain ⟨new, hcarved, hperm⟩ := h
  refine ⟨new, ?_, ?_⟩
  · rw [h₂.carved, hcarved, h₁.carved]
  · rw [h₂.freeBlocks, ← h₁.freeBlocks]
    exact hperm

theorem untrack_samePool (r : HostResource) (tracker : Option Addr)
    (totalBytes : UInt64) : r.SamePool (r.untrack tracker totalBytes) := by
  unfold untrack
  split
  · exact ⟨rfl, rfl, rfl⟩
  · split <;> exact ⟨rfl, rfl, rfl⟩

theorem pushBack_perm (blocks free : List Block) :
    (blocks.foldl (fun l ptr => ptr :: l) free).Perm (free ++ blocks) := by
  induction blocks generalizing free with
  | nil => simp
  | cons b blocks ih => exact (ih (b :: free)).trans (by simpa using List.perm_middle.symm)

theorem allocateTracked_gains
    (hup : ∀ pool size, ∃ base, upstream pool size = .ok base)
    {r r' : HostResource} {bytes tracked : UInt64} {tracker : Option Addr}
    {out : Except Failure (Option MultipleBlocksAllocation)}
    (h : r.allocateTracked upstream bytes tracked tracker = (r', out)) :
    r.Gains r' (handedOut out) ∧
      ((bytes / r.blockSize).toNat ≤ r.freeBlocks.length →
        r'.allocatedBlocks = r.allocatedBlocks) := by
  unfold allocateTracked at h
  split at h
  · cases h
    have hsame := untrack_samePool r tracker bytes
    exact ⟨hsame.gains, fun _ => hsame.allocatedBlocks⟩
  · next post _ =>
      have hcharged : r.SamePool { r with allocatedBytes := post } := ⟨rfl, rfl, rfl⟩
      dsimp only at h
      rcases htake : takeBlocks upstream (bytes / r.blockSize).toNat
        { r with allocatedBytes := post } [] with ⟨r₁, res⟩
      rw [htake] at h
      obtain ⟨done, taken, rfl⟩ := takeBlocks_answers hup htake
      obtain ⟨new, ht⟩ := takeBlocks_taken _ htake
      have hcarved := ht.carved
      have hperm := ht.perm
      rw [List.append_nil] at hperm
      cases done with
      | true =>
          cases h
          exact ⟨⟨new, hcarved, hperm⟩, fun hle => (ht.room hle).2⟩
      | false =>
          cases h
          let r₂ : HostResource := { r₁ with
            freeBlocks := taken.foldl (fun l ptr => ptr :: l) r₁.freeBlocks
            allocatedBytes := r₁.allocatedBytes - tracked }
          have hback : Gains { r with allocatedBytes := post } r₂ [] := by
            refine ⟨new, hcarved, ?_⟩
            rw [List.append_nil]
            exact (pushBack_perm taken r₁.freeBlocks).trans hperm
          refine ⟨hback.same hcharged (untrack_samePool r₂ tracker bytes), ?_⟩
          intro hle
          exact absurd (ht.room hle).1 nofun

/-- `allocate_multiple_blocks` takes what it hands out from the free list or
from pools it adds, whatever its outcome, and adds none while enough blocks
are free. -/
theorem allocate_gains
    (hup : ∀ pool size, ∃ base, upstream pool size = .ok base)
    {r r' : HostResource} {totalBytes : UInt64} {res : Option (Option Addr)}
    {out : Except Failure (Option MultipleBlocksAllocation)}
    (h : r.allocateMultipleBlocks totalBytes res upstream = (r', out)) :
    r.Gains r' (handedOut out) ∧
      (r.numBlocks totalBytes ≤ r.freeBlocks.length →
        r'.allocatedBlocks = r.allocatedBlocks) := by
  have hidle : r.SamePool r := ⟨rfl, rfl, rfl⟩
  unfold allocateMultipleBlocks at h
  split at h
  · cases h
    exact ⟨hidle.gains, fun _ => rfl⟩
  · split at h
    · cases h
      exact ⟨hidle.gains, fun _ => rfl⟩
    · dsimp only at h
      split at h
      · exact allocateTracked_gains hup h
      · cases h
        exact ⟨hidle.gains, fun _ => rfl⟩
      · next p =>
          split at h
          · cases h
            exact ⟨hidle.gains, fun _ => rfl⟩
          · cases h
            exact ⟨hidle.gains, fun _ => rfl⟩
          · next pre arena _ _ =>
              obtain ⟨hgains, hroom⟩ := allocateTracked_gains hup h
              exact ⟨hgains.same ⟨rfl, rfl, rfl⟩ ⟨rfl, rfl, rfl⟩, hroom⟩

theorem destroyAllocation_samePool (r : HostResource)
    (a : MultipleBlocksAllocation) : r.SamePool (r.destroyAllocation a).1 := by
  unfold destroyAllocation returnAllocatedChunks
  split
  · dsimp only
    split
    · exact ⟨rfl, rfl, rfl⟩
    · split <;> exact ⟨rfl, rfl, rfl⟩
  · exact ⟨rfl, rfl, rfl⟩

end

/-! ## Calls that touch no block -/

section

variable (r : HostResource) (p : Addr) (bytes : UInt64)

theorem doReserve_samePool (limit : UInt64) :
    r.SamePool (r.doReserve bytes limit).2 := by
  unfold doReserve
  split <;> exact ⟨rfl, rfl, rfl⟩

theorem reserve_samePool (notifier : Option EventNotifier) :
    r.SamePool (r.reserve p bytes notifier).2 := by
  have h := doReserve_samePool r (alignUp bytes r.blockSize) r.memoryLimit
  unfold reserve
  dsimp only
  split <;> next heq => rw [heq] at h; exact ⟨h.1, h.2, h.3⟩

theorem reserveUpto_samePool (notifier : Option EventNotifier) :
    r.SamePool (r.reserveUpto p bytes notifier).2 :=
  ⟨rfl, rfl, rfl⟩

theorem growBy_samePool : r.SamePool (r.growBy p bytes).1 := by
  have h := doReserve_samePool r (alignUp bytes r.blockSize) r.memoryLimit
  unfold growBy
  split
  · exact ⟨rfl, rfl, rfl⟩
  · dsimp only
    split <;> next heq => rw [heq] at h; exact ⟨h.1, h.2, h.3⟩

theorem shrinkToFit_samePool : r.SamePool (r.shrinkToFit p).1 := by
  unfold shrinkToFit
  split
  · exact ⟨rfl, rfl, rfl⟩
  · split
    · exact ⟨rfl, rfl, rfl⟩
    · dsimp only
      split <;> exact ⟨rfl, rfl, rfl⟩

theorem destroyArena_samePool : r.SamePool (r.destroyArena p).1 := by
  unfold destroyArena
  split
  · exact ⟨rfl, rfl, rfl⟩
  · split <;> exact ⟨rfl, rfl, rfl⟩

end

end HostResource

namespace HostWorld

open HostResource

/-- The blocks of the live allocations. -/
def held (w : HostWorld) : Multiset Block :=
  w.allocations.sumBy fun _ a => (a.blocks : Multiset Block)

/-- The free list and the live allocations together hold each carved block
once. Then all are free when no allocation is live, and a request adds no pool
as long as the blocks already carved are enough for it. -/
structure BlocksConserved (w : HostWorld) : Prop where
  once : (w.res.freeBlocks : Multiset Block) + w.held = w.res.carved
  nodup : ((w.res.freeBlocks : Multiset Block) + w.held).Nodup
  all_free : w.allocations = ∅ → w.res.getFreeBlocks = w.res.getTotalBlocks
  no_expansion : ∀ totalBytes res (upstream : Nat → Addr),
    w.res.numBlocks totalBytes + w.held.card ≤ w.res.carved.length →
    (w.res.allocateMultipleBlocks totalBytes res
      fun pool _ => .ok (upstream pool)).1.allocatedBlocks = w.res.allocatedBlocks

/-- The call destroys no allocation that holds blocks. -/
def DropsNoBlock (w : HostWorld) : HostOp → Prop
  | .free id => ∀ a ∈ w.allocations.lookup id, a.blocks = []
  | _ => True

instance (w : HostWorld) : (op : HostOp) → Decidable (w.DropsNoBlock op)
  | .free id => inferInstanceAs (Decidable (∀ a ∈ w.allocations.lookup id, _))
  | .reserve _ | .reserveUpto _ | .growBy _ _ | .shrinkToFit _ | .release _
  | .allocate _ _ _ => isTrue trivial

section

variable {w : HostWorld}

theorem blocksConserved_of_once
    (h : (w.res.freeBlocks : Multiset Block) + w.held = w.res.carved) :
    w.BlocksConserved where
  once := h
  nodup := by
    rw [h]
    exact carved_nodup w.res
  all_free hnone := by
    have hlen := congrArg Multiset.card h
    unfold held at hlen
    rw [hnone, AList.sumBy_empty, add_zero, Multiset.coe_card, Multiset.coe_card,
      carved_length] at hlen
    unfold getFreeBlocks getTotalBlocks
    rw [hlen, UInt64.ofNat_mul, UInt64.ofNat_toNat]
  no_expansion totalBytes res upstream hle := by
    have hlen := congrArg Multiset.card h
    rw [Multiset.card_add, Multiset.coe_card, Multiset.coe_card] at hlen
    rcases hcall : w.res.allocateMultipleBlocks totalBytes res
      (fun pool _ => .ok (upstream pool)) with ⟨r, out⟩
    exact (allocate_gains (fun pool _ => ⟨upstream pool, rfl⟩) hcall).2
      (by omega)

/-- The counter of the users is ahead of every allocation. -/
def Numbered (w : HostWorld) : Prop := ∀ id ∈ w.allocations, id < w.nextId

theorem Numbered.next (h : w.Numbered) (op : HostOp) : (w.next op).Numbered := by
  have hsucc : ∀ id ∈ w.allocations, id < w.nextId + 1 :=
    fun id hid => Nat.lt_succ_of_lt (h id hid)
  cases op with
  | reserve bytes => exact hsucc
  | reserveUpto bytes => exact hsucc
  | allocate bytes res upstream =>
      simp only [HostWorld.next]
      split
      · intro id hid
        rcases (AList.mem_insert _).mp hid with rfl | hid
        · exact Nat.lt_succ_self _
        · exact hsucc id hid
      · exact h
  | free id =>
      simp only [HostWorld.next]
      split
      · exact h
      · exact fun id' hid => h id' (AList.mem_erase.mp hid).2
  | _ => exact h

theorem coe_of_gains {r r' : HostResource} {out : List Block}
    (h : r.Gains r' out) {held : Multiset Block}
    (honce : (r.freeBlocks : Multiset Block) + held = r.carved) :
    (r'.freeBlocks : Multiset Block) + (out + held) = r'.carved := by
  obtain ⟨new, hcarved, hperm⟩ := h
  have hfree : (r'.freeBlocks : Multiset Block) + out = r.freeBlocks + new := by
    rw [Multiset.coe_add, Multiset.coe_add]
    exact Multiset.coe_eq_coe.mpr hperm
  rw [hcarved, ← Multiset.coe_add, ← honce, ← add_assoc, hfree]
  exact add_right_comm _ _ _

/-- A call that leaves the pool alone keeps every block in its place. -/
theorem BlocksConserved.samePool {r : HostResource} {nextId : Nat}
    (h : w.BlocksConserved) (hpool : w.res.SamePool r) :
    BlocksConserved ⟨r, w.allocations, nextId⟩ := by
  refine blocksConserved_of_once ?_
  show (r.freeBlocks : Multiset Block) + w.held = r.carved
  rw [hpool.freeBlocks, hpool.carved, h.once]

/-- What an allocation hands out is held from then on, and the rest is free. -/
theorem blocksConserved_allocate {bytes : UInt64} {res : Option Addr}
    {upstream : Nat → Addr} (hn : w.Numbered) (h : w.BlocksConserved) :
    (w.next (.allocate bytes res upstream)).BlocksConserved := by
  refine blocksConserved_of_once ?_
  rcases hcall : w.res.allocateMultipleBlocks bytes (res.map some)
    (fun pool _ => .ok (upstream pool)) with ⟨r, out⟩
  have hgains := coe_of_gains
    (allocate_gains (fun pool _ => ⟨upstream pool, rfl⟩) hcall).1 h.once
  simp only [HostWorld.next, hcall]
  split
  · next r' a heq =>
      cases heq
      have hnew : w.allocations.lookup w.nextId = none :=
        AList.lookup_eq_none.mpr fun hmem => Nat.lt_irrefl _ (hn _ hmem)
      show _ + (w.allocations.insert w.nextId a).sumBy _ = _
      rw [AList.sumBy_insert_new hnew]
      exact hgains
  · next r' res' hno heq =>
      cases heq
      have hout : handedOut out = [] := by
        unfold handedOut
        split
        · next a => exact absurd rfl (hno a)
        · rfl
      rw [hout, Multiset.coe_nil, zero_add] at hgains
      exact hgains

/-- Freeing an allocation keeps the blocks exactly if it holds none. -/
theorem blocksConserved_free_iff {id : Nat} {a : MultipleBlocksAllocation}
    (h : w.BlocksConserved) (hid : w.allocations.lookup id = some a) :
    (w.next (.free id)).BlocksConserved ↔ a.blocks = [] := by
  have hpool := destroyAllocation_samePool w.res a
  have hsum := AList.sumBy_erase
    (f := fun _ a => (MultipleBlocksAllocation.blocks a : Multiset Block)) hid
  have hnext : w.next (.free id) =
      { w with
        res := (w.res.destroyAllocation a).1
        allocations := w.allocations.erase id } := by
    simp only [HostWorld.next, hid]
  have honce := h.once
  unfold held at honce
  rw [← hsum] at honce
  constructor
  · intro h'
    have honce' := h'.once
    rw [hnext] at honce'
    unfold held at honce'
    dsimp only at honce'
    rw [hpool.freeBlocks, hpool.carved, ← honce] at honce'
    have hlen := congrArg Multiset.card honce'
    rw [Multiset.card_add, Multiset.card_add, Multiset.card_add] at hlen
    refine List.eq_nil_of_length_eq_zero ?_
    rw [← Multiset.coe_card]
    omega
  · intro hnil
    rw [hnil, Multiset.coe_nil, zero_add] at honce
    refine blocksConserved_of_once ?_
    rw [hnext]
    unfold held
    dsimp only
    rw [hpool.freeBlocks, hpool.carved]
    exact honce

/-- One call keeps every block in one place exactly if it drops none. -/
theorem blocksConserved_next_iff {op : HostOp} (hn : w.Numbered)
    (h : w.BlocksConserved) :
    (w.next op).BlocksConserved ↔ w.DropsNoBlock op := by
  cases op with
  | reserve bytes =>
      exact iff_of_true (h.samePool (reserve_samePool _ _ _ _)) trivial
  | reserveUpto bytes =>
      exact iff_of_true (h.samePool (reserveUpto_samePool _ _ _ _)) trivial
  | growBy p bytes => exact iff_of_true (h.samePool (growBy_samePool _ _ _)) trivial
  | shrinkToFit p => exact iff_of_true (h.samePool (shrinkToFit_samePool _ _)) trivial
  | release p => exact iff_of_true (h.samePool (destroyArena_samePool _ _)) trivial
  | allocate bytes res upstream =>
      exact iff_of_true (blocksConserved_allocate hn h) trivial
  | free id =>
      cases hid : w.allocations.lookup id with
      | none =>
          have hidle : w.next (.free id) = w := by
            simp only [HostWorld.next, hid]
          refine iff_of_true (by rw [hidle]; exact h) ?_
          intro a ha
          rw [hid] at ha
          cases ha
      | some a =>
          rw [blocksConserved_free_iff h hid]
          constructor
          · intro hnil a' ha'
            rw [hid, Option.mem_some] at ha'
            exact ha' ▸ hnil
          · intro hdrop
            exact hdrop a hid

end

theorem blocksConserved_fresh (limit capacity blockSize poolSize : UInt64)
    (initialPools : List Addr) :
    (fresh limit capacity blockSize poolSize initialPools).BlocksConserved := by
  have hpools : ∀ (pools : List Addr) (r : HostResource),
      r.freeBlocks.Perm r.carved →
      (pools.foldl addPool r).freeBlocks.Perm (pools.foldl addPool r).carved := by
    intro pools
    induction pools with
    | nil => exact fun _ h => h
    | cons base pools ih =>
        intro r h
        refine ih _ ?_
        rw [carved_addPool]
        exact (addPool_freeBlocks r base).trans (h.append_right _)
  refine blocksConserved_of_once ?_
  show _ + AList.sumBy _ ∅ = _
  rw [AList.sumBy_empty, add_zero]
  exact Multiset.coe_eq_coe.mpr (hpools initialPools _ (List.Perm.refl _))

/-- In every run the blocks are conserved exactly if no allocation is destroyed
while it holds some. -/
theorem always_blocksConserved_iff (limit capacity blockSize poolSize : UInt64)
    (initialPools : List Addr) {ops : List HostOp}
    (hlaw : (machine Proper).Lawful
      (fresh limit capacity blockSize poolSize initialPools) ops) :
    (machine Proper).Always BlocksConserved
        (fresh limit capacity blockSize poolSize initialPools) ops ↔
      (machine Proper).Every DropsNoBlock
        (fresh limit capacity blockSize poolSize initialPools) ops := by
  refine Machine.always_iff_every (J := Numbered) ?_ ?_ ?_
    (blocksConserved_fresh _ _ _ _ _) hlaw
  · exact fun w op hn _ _ _ => hn.next op
  · exact fun w op hn h _ => blocksConserved_next_iff hn h
  · intro id hid
    cases hid

/-- A reservation used and exceeded, a request that finds no capacity, an empty
request and its destruction. -/
def keepingOps : List HostOp :=
  [.reserve 32, .allocate 48 (some 0) (fun _ => 0x2000),
    .allocate 1000 none (fun _ => 0x3000), .allocate 0 none (fun _ => 0x4000),
    .free 2, .release 0]

theorem always_blocksConserved_keepingOps :
    (machine Proper).Always BlocksConserved (fresh 64 64 16 2 [0x1000])
      keepingOps :=
  (always_blocksConserved_iff 64 64 16 2 [0x1000]
    (show (machine Proper).Every Proper _ _ by decide)).mpr (by decide)

/-- A block allocated and freed is not on the free list again. -/
theorem blocks_lost_by_free :
    (machine Proper).Lawful (fresh 64 64 16 2 [0x1000])
        [.allocate 16 none (fun _ => 0x2000), .free 0] ∧
      ¬ (machine Proper).Always BlocksConserved (fresh 64 64 16 2 [0x1000])
        [.allocate 16 none (fun _ => 0x2000), .free 0] := by
  refine ⟨show (machine Proper).Every Proper _ _ by decide, ?_⟩
  intro h
  exact absurd (h.last.all_free rfl) (by decide)

end HostWorld

end CuCascade.Memory

import CuCascade.Proofs.HostLedger

/-!
# What a failed host allocation leaves behind

`allocate_multiple_blocks` charges two counters and takes its blocks one at a
time. It can fail in the middle in two ways, and its clean-up is written for
one of them, a pool that was added and brought no block. The other is an
exception of the upstream resource: it passes through `expand_pool` and through
the loop, the charges stay, and the blocks taken so far are dropped with the
vector they were put in.

Which of the two happens can be read off the state before the call and the
answers of the upstream, so nothing here is assumed of the state.
-/

namespace CuCascade.Memory

open Utils

namespace HostResource

variable {r r' : HostResource} {upstream : Nat → UInt64 → Except Exception Addr}
  {n c totalBytes : UInt64} {tracker : Option Addr} {res : Option (Option Addr)}
  {out : Except Failure (Option MultipleBlocksAllocation)}

/-- The counters are as they were, and what was free is free, with the blocks
of the pools gained. -/
structure Restores (r r' : HostResource) : Prop where
  total : r'.allocatedBytes = r.allocatedBytes
  tracked : ∀ p, r'.activeReservations.lookup p = r.activeReservations.lookup p
  blocks : r.Gains r' []

theorem Restores.refl (r : HostResource) : r.Restores r :=
  ⟨rfl, fun _ => rfl, SamePool.gains ⟨rfl, rfl, rfl⟩⟩

/-- What a request has to be charged to the total; nothing if it is turned away
for its reservation. -/
def chargeOf (r : HostResource) (totalBytes : UInt64) :
    Option (Option Addr) → Option UInt64
  | none => some (alignUp totalBytes r.blockSize)
  | some none => none
  | some (some p) =>
      match r.activeReservations.lookup p, r.arenas.lookup p with
      | some pre, some arena =>
          let totalBytes := alignUp totalBytes r.blockSize
          some (upstreamTrackedBytes totalBytes arena.size pre
            (pre + totalBytes.toInt64))
      | _, _ => none

/-- The capacity admits the charge, and then the upstream throws at an
expansion that the request needs. -/
def ExpansionThrows (r : HostResource)
    (upstream : Nat → UInt64 → Except Exception Addr) (totalBytes : UInt64)
    (res : Option (Option Addr)) : Prop :=
  ∃ charge ∈ r.chargeOf totalBytes res,
    r.allocatedBytes.toNat + charge.toNat ≤ r.memoryCapacity.toNat ∧
    ThrowsWithin upstream r (r.numBlocks totalBytes)

/-- A request that fails past the tracker: the upstream threw and all it was
charged stays, or nothing stays but what the tracker was charged is taken off
it. -/
theorem allocateTracked_fails (hfail : ∀ a, out ≠ .ok (some a))
    (h : r.allocateTracked upstream n c tracker = (r', out)) :
    (r.allocatedBytes.toNat + c.toNat ≤ r.memoryCapacity.toNat ∧
      ThrowsWithin upstream r (n / r.blockSize).toNat ∧
      r'.allocatedBytes = r.allocatedBytes + c ∧
      r'.activeReservations = r.activeReservations) ∨
    (¬ (r.allocatedBytes.toNat + c.toNat ≤ r.memoryCapacity.toNat ∧
        ThrowsWithin upstream r (n / r.blockSize).toNat) ∧
      ∃ r₁, r.SameBooks r₁ ∧ r.Gains r₁ [] ∧ r' = r₁.untrack tracker n) := by
  rcases Nat.lt_or_ge r.memoryCapacity.toNat
    (r.allocatedBytes.toNat + c.toNat) with hlt | hle
  · simp only [allocateTracked, tryAdd_of_lt hlt] at h
    cases h
    have hsame : r.SamePool r := ⟨rfl, rfl, rfl⟩
    exact Or.inr ⟨fun hadmits => by omega, r, SameBooks.refl r, hsame.gains, rfl⟩
  · simp only [allocateTracked, tryAdd_of_le hle] at h
    rcases htake : takeBlocks upstream (n / r.blockSize).toNat
      { r with allocatedBytes := r.allocatedBytes + c } [] with ⟨r₁, got⟩
    rw [htake] at h
    obtain ⟨hb, -⟩ := takeBlocks_books _ htake
    have hthrows : (∃ e, (takeBlocks upstream (n / r.blockSize).toNat
        { r with allocatedBytes := r.allocatedBytes + c } []).2 = .error e) ↔
        ThrowsWithin upstream r (n / r.blockSize).toNat :=
      takeBlocks_throws_iff _
    rw [htake] at hthrows
    rcases got with e | ⟨complete, taken⟩
    · cases h
      exact Or.inl ⟨hle, hthrows.mp ⟨e, rfl⟩, hb.allocatedBytes,
        hb.activeReservations⟩
    · cases complete with
      | true =>
          cases h
          exact absurd rfl (hfail _)
      | false =>
          obtain ⟨new, ht⟩ := takeBlocks_taken _ htake
          have hperm := ht.perm
          rw [List.append_nil] at hperm
          have hnever : ¬ ThrowsWithin upstream r (n / r.blockSize).toNat := by
            intro hthrown
            obtain ⟨e, he⟩ := hthrows.mpr hthrown
            cases he
          cases h
          refine Or.inr ⟨fun hboth => hnever hboth.2, _, ?_, ?_, rfl⟩
          · refine ⟨hb.memoryLimit, hb.memoryCapacity, hb.blockSize, hb.poolSize, ?_,
              hb.activeReservations, hb.arenas⟩
            show r₁.allocatedBytes - c = _
            rw [hb.allocatedBytes]
            exact UInt64.add_sub_cancel _ _
          · refine ⟨new, ht.carved, ?_⟩
            rw [List.append_nil]
            exact (pushBack_perm taken r₁.freeBlocks).trans hperm

theorem ne_zero_of_throwsWithin {blockSize : UInt64}
    (h : ThrowsWithin upstream r (n / blockSize).toNat) : n ≠ 0 := by
  obtain ⟨j, -, hlt, -⟩ := h
  intro hzero
  rw [hzero, UInt64.toNat_div, UInt64.toNat_zero, Nat.zero_div] at hlt
  exact absurd hlt (Nat.not_lt_zero _)

/-- Without a reservation. -/
theorem allocate_restores_loose (hfail : ∀ a, out ≠ .ok (some a))
    (h : r.allocateTracked upstream n n none = (r', out)) :
    r.Restores r' ↔ ¬ (r.allocatedBytes.toNat + n.toNat ≤ r.memoryCapacity.toNat ∧
      ThrowsWithin upstream r (n / r.blockSize).toNat) := by
  rcases allocateTracked_fails hfail h with ⟨hle, hthrown, htotal, -⟩ |
    ⟨hnot, r₁, hb, hgains, hr'⟩
  · refine ⟨fun hrestores => ?_, fun hnot => absurd ⟨hle, hthrown⟩ hnot⟩
    rw [hrestores.total] at htotal
    exact absurd (UInt64.add_eq_left.mp htotal.symm)
      (ne_zero_of_throwsWithin hthrown)
  · rw [show r' = r₁ from hr']
    refine ⟨fun _ => hnot, fun _ => ⟨hb.allocatedBytes, fun p => ?_, hgains⟩⟩
    rw [hb.activeReservations]

/-- Under the reservation at `p`, which has `pre` bytes in use. -/
theorem allocate_restores_under {p : Addr} {pre : Int64}
    (hfail : ∀ a, out ≠ .ok (some a)) (hp : r.activeReservations.lookup p = some pre)
    (h : allocateTracked { r with activeReservations :=
        r.activeReservations.insert p (pre + n.toInt64) } upstream n c (some p) =
      (r', out)) :
    r.Restores r' ↔ ¬ (r.allocatedBytes.toNat + c.toNat ≤ r.memoryCapacity.toNat ∧
      ThrowsWithin upstream r (n / r.blockSize).toNat) := by
  rcases allocateTracked_fails hfail h with ⟨hle, hthrown, -, htracked⟩ |
    ⟨hnot, r₁, hb, hgains, rfl⟩
  · refine ⟨fun hrestores => ?_, fun hnot => absurd ⟨hle, hthrown⟩ hnot⟩
    have hpre := hrestores.tracked p
    rw [htracked, hp] at hpre
    simp only [AList.lookup_insert, Option.some.injEq] at hpre
    have hzero := Word.toInt64_eq_zero_iff.mp (Int64.add_eq_left.mp hpre)
    exact absurd hzero (ne_zero_of_throwsWithin hthrown)
  · have hlookup := lookup_untrack hp hb
    obtain ⟨used, heq⟩ := untrack_eq r₁ (some p) n
    rw [heq] at hlookup ⊢
    exact ⟨fun _ => hnot, fun _ => ⟨hb.allocatedBytes, hlookup, hgains⟩⟩

end HostResource

end CuCascade.Memory

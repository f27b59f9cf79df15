import CuCascade.Proofs.GpuReports
import CuCascade.Proofs.HostReports

/-!
# What the limiters report of their reservations

The disk limiter has one counter for both purposes, because nothing else is ever
charged to it. With it, the three tiers stand side by side: each keeps the
reserved bytes in its own way, and each reports what its live arenas add up to
in every run whose calls are settled. The one tier that asks for more than
addresses and numbers is the GPU.
-/

namespace CuCascade.Memory

open Utils

namespace DiskAccessLimiter

/-- What a call must not do: grant a size that is no `int64_t`. -/
def Settled (mr : DiskAccessLimiter) : DiskOp → Prop
  | .reserve _ bytes => mr.totalAllocatedBytes.toNat + bytes.toNat ≤
      mr.memoryLimit.toNat → bytes.toNat < 2 ^ 63
  | .reserveUpto _ bytes => min bytes.toNat
      (mr.memoryLimit.toNat - mr.totalAllocatedBytes.toNat) < 2 ^ 63
  | .growBy _ _ | .shrinkToFit _ | .release _ => True

instance (mr : DiskAccessLimiter) : (op : DiskOp) → Decidable (mr.Settled op)
  | .reserve _ _ => inferInstanceAs (Decidable (_ → _))
  | .reserveUpto _ _ => inferInstanceAs (Decidable (_ < _))
  | .growBy _ _ | .shrinkToFit _ | .release _ => isTrue trivial

/-- The invariant of settled runs. -/
structure Accounted (mr : DiskAccessLimiter) : Prop where
  nonneg : mr.arenas.All fun _ arena => 0 ≤ arena.size.toInt
  total : (mr.totalAllocatedBytes.toNat : Int) =
    mr.arenas.sumBy fun _ arena => arena.size.toInt
  limit : mr.totalAllocatedBytes.toNat ≤ mr.memoryLimit.toNat
  count : mr.totalReservationCount = UInt64.ofNat mr.arenas.count

section

variable {mr : DiskAccessLimiter} {p : Addr}

/-- An arena of `g` bytes is made and charged. -/
theorem Accounted.opened (h : mr.Accounted) (hp : p ∉ mr.arenas) {g : UInt64}
    (hg : g.toNat < 2 ^ 63) {mr₁ : DiskAccessLimiter}
    (htotal : mr₁.totalAllocatedBytes.toNat = mr.totalAllocatedBytes.toNat + g.toNat)
    (hroom : mr₁.totalAllocatedBytes.toNat ≤ mr.memoryLimit.toNat)
    (hlimit : mr₁.memoryLimit = mr.memoryLimit) (harenas : mr₁.arenas = mr.arenas)
    (hcount : mr₁.totalReservationCount = mr.totalReservationCount)
    (notifier : Option EventNotifier) : (mr₁.makeArena p g notifier).Accounted := by
  have hsize := Word.toInt_toInt64 hg
  have hnone := AList.lookup_eq_none.mpr hp
  have hold := h.total
  unfold makeArena
  rw [harenas]
  refine ⟨h.nonneg.insert ?_, ?_, ?_, ?_⟩
  · dsimp only
    omega
  · rw [AList.sumBy_insert_new hnone]
    dsimp only
    omega
  · dsimp only
    rw [hlimit]
    exact hroom
  · dsimp only
    rw [hcount, h.count, AList.count_insert_new hp]
    exact (UInt64.ofNat_add _ _).symm

theorem accounted_reserve (h : mr.Accounted) {bytes : UInt64} (hp : p ∉ mr.arenas)
    (hset : mr.Settled (.reserve p bytes)) : (mr.next (.reserve p bytes)).Accounted := by
  rcases Nat.lt_or_ge mr.memoryLimit.toNat
    (mr.totalAllocatedBytes.toNat + bytes.toNat) with hlt | hle
  · simp only [next, reserve, doReserve, tryAdd_of_lt hlt]
    exact h
  · have hsum := toNat_add_of_le hle
    simp only [next, reserve, doReserve, tryAdd_of_le hle]
    refine h.opened hp (hset hle) ?_ ?_ ?_ ?_ ?_ none
    · exact hsum
    · exact hsum.trans_le hle
    all_goals rfl

theorem accounted_reserveUpto (h : mr.Accounted) {bytes : UInt64}
    (hp : p ∉ mr.arenas) (hset : mr.Settled (.reserveUpto p bytes)) :
    (mr.next (.reserveUpto p bytes)).Accounted := by
  obtain ⟨hgrant, hpost⟩ :=
    addBounded_spec mr.totalAllocatedBytes bytes mr.memoryLimit
  have hlimit := h.limit
  rcases hadd : addBounded mr.totalAllocatedBytes bytes mr.memoryLimit with ⟨g, post⟩
  rw [hadd] at hgrant hpost
  dsimp only at hgrant hpost
  simp only [Settled, ← hgrant] at hset
  simp only [next, reserveUpto, doReserveUpto, hadd]
  refine h.opened hp hset ?_ ?_ ?_ ?_ ?_ none
  · dsimp only
    omega
  · dsimp only
    omega
  all_goals rfl

theorem accounted_release (h : mr.Accounted) (p : Addr) :
    (mr.next (.release p)).Accounted := by
  cases harena : mr.arenas.lookup p with
  | none =>
      simp only [next, destroyArena, harena]
      exact h
  | some arena =>
      have hsize := h.nonneg.get harena
      have hsum := AList.sumBy_erase (f := fun _ arena => DiskReservedArena.size arena
        |>.toInt) harena
      have hrest : 0 ≤ (mr.arenas.erase p).sumBy fun _ arena => arena.size.toInt :=
        AList.sumBy_nonneg fun e he => h.nonneg.erase.of_mem he
      have hold := h.total
      have hlimit := h.limit
      have hcast := Word.toNat_toUInt64_max arena.size
      have hsub := Word.toNat_sub (a := mr.totalAllocatedBytes)
        (b := (max 0 arena.size).toUInt64) (by omega)
      simp only [next, destroyArena, harena]
      refine ⟨h.nonneg.erase, ?_, ?_, ?_⟩
      · dsimp only
        omega
      · dsimp only
        omega
      · dsimp only
        rw [h.count, ← AList.count_erase harena, UInt64.ofNat_add]
        exact UInt64.add_sub_cancel _ _

theorem accounted_next (h : mr.Accounted) {op : DiskOp} (hwithin : mr.Within op)
    (hset : mr.Settled op) : (mr.next op).Accounted := by
  cases op with
  | reserve p bytes => exact accounted_reserve h hwithin hset
  | reserveUpto p bytes => exact accounted_reserveUpto h hwithin hset
  | growBy p bytes => exact h
  | shrinkToFit p => exact h
  | release p => exact accounted_release h p

/-- What the limiter reports, and the sizes of its arenas. -/
def Reports (mr : DiskAccessLimiter) : Prop :=
  Reported mr.getTotalReservedBytes mr.getActiveReservationCount
    (mr.arenas.mapVal fun _ arena => arena.size) mr.memoryLimit

theorem Accounted.reports (h : mr.Accounted) : mr.Reports := by
  have hsizes : ((mr.arenas.mapVal fun _ arena => arena.size).sumBy
      fun _ size => size.toInt) = mr.totalAllocatedBytes.toNat := by
    rw [AList.sumBy_mapVal]
    exact h.total.symm
  refine .of_nonneg (AList.all_mapVal.mpr h.nonneg) hsizes.symm ?_ ?_
  · rw [AList.count_mapVal]
    exact h.count
  · rw [hsizes]
    exact Int.ofNat_le.mpr h.limit

theorem always_reports {limit : UInt64} {ops : List DiskOp}
    (hlaw : machine.Lawful (fresh limit) ops)
    (hset : machine.Every Settled (fresh limit) ops) :
    machine.Always Reports (fresh limit) ops :=
  (Machine.always_of_every (I := Accounted)
    (fun _ _ h hwithin hset => accounted_next h hwithin hset)
    ⟨AList.all_empty, rfl, Nat.zero_le _, rfl⟩ hlaw hset).mono fun _ h => h.reports

end

end DiskAccessLimiter

/-! ## The three tiers -/

/-- On each tier, what is reported of the reservations is right in every state of
every run whose calls are settled. -/
theorem reservations_reported (limit capacity : UInt64) :
    (∀ ops, (GpuWorld.machine GpuWorld.Within).Lawful (.fresh limit capacity) ops →
      (GpuWorld.machine GpuWorld.Within).Every GpuWorld.Settled
        (.fresh limit capacity) ops →
      (GpuWorld.machine GpuWorld.Within).Always GpuWorld.Reports
        (.fresh limit capacity) ops) ∧
    (∀ blockSize poolSize initialPools ops,
      HostTier.machine.Lawful
        (.fresh limit capacity blockSize poolSize initialPools) ops →
      HostTier.machine.Every HostTier.Settled
        (.fresh limit capacity blockSize poolSize initialPools) ops →
      HostTier.machine.Always HostTier.Reports
        (.fresh limit capacity blockSize poolSize initialPools) ops) ∧
    (∀ ops, DiskAccessLimiter.machine.Lawful (.fresh limit) ops →
      DiskAccessLimiter.machine.Every DiskAccessLimiter.Settled (.fresh limit) ops →
      DiskAccessLimiter.machine.Always DiskAccessLimiter.Reports
        (.fresh limit) ops) :=
  ⟨fun _ => GpuWorld.always_reports, fun _ _ _ _ => HostTier.always_reports,
    fun _ => DiskAccessLimiter.always_reports⟩

/-- A reservation is made, attached, used, grown, and released. -/
def reportedGpuOps : List GpuOp :=
  [.reserve 1024, .attach 7 0 none none, .allocate 500 7 (.ok 0x100),
    .allocate 300 8 (.error .other), .growBy 0 256, .deallocate 1 7,
    .reserveUpto 8192, .allocate 200 8 (.ok 0x200), .resetStream 7, .destroy 2]

/-- The last arena lies where the first one lay. -/
def reportedHostOps : List HostTierOp :=
  [.reserve 5 100, .allocate 1 50 (some 5) (fun _ _ => .ok 0x2000), .shrinkToFit 5,
    .growBy 5 30, .allocate 2 60 none (fun _ _ => .error .other), .free 1,
    .release 5, .reserveUpto 5 1000, .release 5]

theorem reservations_reported_threeTiers :
    (GpuWorld.machine GpuWorld.Within).Always GpuWorld.Reports
        (.fresh 4096 8192) reportedGpuOps ∧
      HostTier.machine.Always HostTier.Reports
        (.fresh 256 320 16 4 [0x1000]) reportedHostOps ∧
      DiskAccessLimiter.machine.Always DiskAccessLimiter.Reports (.fresh 1000)
        [.reserve 1 600, .reserveUpto 2 600, .growBy 1 100, .release 1] :=
  ⟨(reservations_reported 4096 8192).1 _
      (show (GpuWorld.machine _).Every GpuWorld.Within _ _ by decide) (by decide),
    (reservations_reported 256 320).2.1 _ _ _ _
      (show HostTier.machine.Every HostTier.Within _ _ by decide) (by decide),
    (reservations_reported 1000 1000).2.2 _
      (show DiskAccessLimiter.machine.Every DiskAccessLimiter.Within _ _ by decide)
      (by decide)⟩

/-- A reservation is shrunk to nothing and released, and its bytes stay
reported. -/
theorem still_reported_after_shrink :
    (GpuWorld.machine GpuWorld.Within).Lawful (.fresh 4096 4096)
        [.reserve 1024, .shrinkToFit 0, .destroy 0] ∧
      ¬ (GpuWorld.machine GpuWorld.Within).Always GpuWorld.Reports
        (.fresh 4096 4096) [.reserve 1024, .shrinkToFit 0, .destroy 0] := by
  refine ⟨show (GpuWorld.machine _).Every GpuWorld.Within _ _ by decide, ?_⟩
  intro h
  obtain ⟨hzero, -⟩ := h.last.nothing rfl
  exact absurd hzero (by decide)

end CuCascade.Memory

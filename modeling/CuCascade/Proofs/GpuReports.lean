import CuCascade.Lib.Cover
import CuCascade.Memory.TierWorlds
import CuCascade.Proofs.GpuConservation

/-!
# What a GPU limiter reports of its reservations

The adaptor keeps `_total_reserved_bytes` in a word of its own, and each
function that moves the size of an arena has to move it too. All but one do:
`shrink_reservation_to_fit` gives the bytes back to the total of allocations
and leaves the total of reservations as it is.

That the sizes stay within the limit is another matter. It rests on the total
of allocations, which covers the sizes of the arenas and the blocks outside
them as long as each block is freed from the account it was charged to.
-/

namespace CuCascade.Memory

open Utils

/-! ## The two words of the adaptor -/

namespace Adaptor

/-- `mr'` reports what `mr` reports. -/
structure SameReports (mr mr' : Adaptor) : Prop where
  reserved : mr'.totalReservedBytes = mr.totalReservedBytes
  count : mr'.numberOfAllocations = mr.numberOfAllocations

variable {mr mr' : Adaptor} {n : UInt64} {notifier : Option EventNotifier}
  {arena arena' : DeviceReservedArena}

theorem SameReports.refl (mr : Adaptor) : mr.SameReports mr := ⟨rfl, rfl⟩

theorem doReserve_reports {limit : UInt64} (h : mr.doReserve n limit = (true, mr')) :
    mr'.totalReservedBytes = mr.totalReservedBytes + n ∧
      mr'.numberOfAllocations = mr.numberOfAllocations := by
  unfold doReserve at h
  split at h
  · cases h
    exact ⟨rfl, rfl⟩
  · cases h

theorem reserve_reports (h : mr.reserve n notifier = (some arena, mr')) :
    mr'.totalReservedBytes = mr.totalReservedBytes + n ∧
      mr'.numberOfAllocations = mr.numberOfAllocations + 1 := by
  unfold reserve at h
  split at h
  · rename_i hreserved
    cases h
    obtain ⟨hbytes, hcount⟩ := doReserve_reports hreserved
    exact ⟨hbytes, congrArg (· + 1) hcount⟩
  · cases h

theorem reserveUpto_reports (h : mr.reserveUpto n notifier = (arena, mr')) :
    mr'.totalReservedBytes = mr.totalReservedBytes + arena.size.toUInt64 ∧
      mr'.numberOfAllocations = mr.numberOfAllocations + 1 := by
  obtain ⟨hgrant, hpost⟩ :=
    addBounded_spec mr.totalAllocatedBytes n mr.memoryLimit
  unfold reserveUpto doReserveUpto at h
  dsimp only at h
  split at h
  · cases h
    refine ⟨?_, rfl⟩
    simp only [makeArena, UInt64.toUInt64_toInt64]
  · next hno =>
      cases h
      have hzero : (addBounded mr.totalAllocatedBytes n mr.memoryLimit).1 = 0 := by
        have hz : (0 : UInt64).toNat = 0 := rfl
        rw [UInt64.lt_iff_toNat_lt] at hno
        rw [← UInt64.toNat_inj]
        omega
      refine ⟨?_, rfl⟩
      simp only [makeArena, UInt64.toUInt64_toInt64, hzero, UInt64.add_zero]

theorem grow_reports (h : mr.growReservationBy arena n = (true, mr', arena')) :
    mr'.totalReservedBytes = mr.totalReservedBytes + n ∧
      mr'.numberOfAllocations = mr.numberOfAllocations := by
  unfold growReservationBy at h
  split at h
  · rename_i hreserved
    cases h
    exact doReserve_reports hreserved
  · cases h

theorem unmanaged_reports (mr : Adaptor) (bytes c : UInt64)
    (upstream : UpstreamResult) :
    mr.SameReports (mr.doAllocateUnmanaged bytes c upstream).1 := by
  unfold doAllocateUnmanaged
  rcases tryAdd mr.totalAllocatedBytes c mr.capacity with ⟨ok, post⟩
  cases ok with
  | false => exact ⟨rfl, rfl⟩
  | true =>
      cases upstream with
      | ok ptr => exact ⟨rfl, rfl⟩
      | error e =>
          dsimp only
          split
          · exact ⟨rfl, rfl⟩
          · exact ⟨rfl, rfl⟩

theorem managed_reports (mr : Adaptor) (oom : OomHandlingPolicy) (bytes : UInt64)
    (upstream : UpstreamResult) :
    mr.SameReports (mr.doAllocateManaged oom bytes upstream).1 := by
  have hsame := unmanaged_reports mr bytes (round256 bytes) upstream
  rcases hu : mr.doAllocateUnmanaged bytes (round256 bytes) upstream with ⟨mr₁, res⟩
  rw [hu] at hsame
  simp only [doAllocateManaged, hu, handleOom]
  cases res with
  | ok ptr => exact hsame
  | error e => exact hsame

/-- Inside the reservation the addition is exact, and nothing is left for the total
to carry. -/
theorem charge_inside (hin : arena.allocatedBytes.toInt + n.toNat ≤ arena.size.toInt) :
    (arena.allocatedBytes + n.toInt64).toInt =
      arena.allocatedBytes.toInt + n.toNat ∧
    upstreamTrackingSize n arena.size (arena.allocatedBytes + n.toInt64) = 0 := by
  have hlo := arena.allocatedBytes.le_toInt
  have hhi := arena.size.toInt_lt
  have hsum : (arena.allocatedBytes + n.toInt64).toInt =
      arena.allocatedBytes.toInt + n.toNat := by
    obtain ⟨k, hk⟩ := Word.exists_toInt_add_toInt64 arena.allocatedBytes n
    have hlo' := (arena.allocatedBytes + n.toInt64).le_toInt
    have hhi' := (arena.allocatedBytes + n.toInt64).toInt_lt
    omega
  refine ⟨hsum, ?_⟩
  have hzero : (0 : UInt64).toNat = 0 := rfl
  unfold upstreamTrackingSize
  dsimp only
  rw [Int64.add_sub_cancel]
  split
  · rfl
  · next hfull =>
      rw [Int64.lt_iff_toInt_lt] at hfull
      split
      · have hcast := Word.toNat_toUInt64_sub
          (a := arena.allocatedBytes + n.toInt64) (b := arena.size) (by omega)
          (by omega)
        rw [← UInt64.toNat_inj]
        omega
      · next hover =>
          rw [Int64.lt_iff_toInt_lt] at hover
          rw [← UInt64.toNat_inj]
          omega

/-- Inside the reservation the check passes and charges nothing. An arena below
zero may have more room than an `int64_t` can say; then the policy is asked, and
one that ignores lets it pass too. -/
theorem check_inside {policy : Option ReservationLimitPolicy}
    (hpass : 0 ≤ arena.allocatedBytes.toInt ∨ ReservationLimitPolicy.Lenient policy)
    (hin : arena.allocatedBytes.toInt + n.toNat ≤ arena.size.toInt) :
    mr.checkReservationAndHandleOverflow arena policy n =
      ((mr, arena.tracked (arena.allocatedBytes + n.toInt64)), .ok 0) ∧
    (arena.allocatedBytes + n.toInt64).toInt =
      arena.allocatedBytes.toInt + n.toNat := by
  have hlo := arena.allocatedBytes.le_toInt
  have hhi := arena.size.toInt_lt
  obtain ⟨hsum, hfree⟩ := charge_inside hin
  refine ⟨?_, hsum⟩
  unfold checkReservationAndHandleOverflow
  rcases htry : tryAdd arena.allocatedBytes n.toInt64 arena.size with ⟨ok, post⟩
  cases ok with
  | true =>
      have hpost := post_of_added htry
      simp only [htry, hpost, hfree]
  | false =>
      rcases hpass with hused | hlenient
      · have hcast := Word.toInt_toInt64 (a := n) (by omega)
        rw [tryAdd_int_of_le (by omega) (by omega) (by omega)] at htry
        cases htry
      · cases policy with
        | none => simp only [htry, hfree]
        | some policy =>
            cases policy with
            | ignore =>
                simp only [htry, ReservationLimitPolicy.handleOverReservation, hfree]
            | fail => exact absurd hlenient id
            | increase padded => exact absurd hlenient id

/-- Inside its reservation an allocation charges nothing, whatever comes of it. -/
theorem tracked_inside {policy : Option ReservationLimitPolicy}
    {oom : OomHandlingPolicy} {bytes : UInt64} {upstream : UpstreamResult}
    {res : Except Failure Addr}
    (hpass : 0 ≤ arena.allocatedBytes.toInt ∨ ReservationLimitPolicy.Lenient policy)
    (hin : arena.allocatedBytes.toInt + (round256 bytes).toNat ≤ arena.size.toInt)
    (h : mr.doAllocateTracked arena policy oom bytes upstream = ((mr', arena'), res)) :
    mr.Moved mr' 0 ∧ mr.SameReports mr' ∧ arena'.size = arena.size ∧
      ((∃ ptr, res = .ok ptr ∧ upstream = .ok ptr) ∧ arena'.allocatedBytes.toInt =
          arena.allocatedBytes.toInt + (round256 bytes).toNat ∨
        (∃ e, res = .error e) ∧ arena'.allocatedBytes = arena.allocatedBytes) := by
  obtain ⟨hcheck, hsum⟩ := @check_inside mr (round256 bytes) arena policy hpass hin
  have hreports := unmanaged_reports mr bytes 0 upstream
  have hback : arena.allocatedBytes + (round256 bytes).toInt64 -
      (round256 bytes).toInt64 = arena.allocatedBytes := Int64.add_sub_cancel _ _
  unfold doAllocateTracked at h
  rcases hu : mr.doAllocateUnmanaged bytes 0 upstream with ⟨mr₁, res₁⟩
  simp only [hcheck, hu] at h hreports
  rcases unmanaged_cases hu with ⟨⟨ptr, rfl, hup⟩, hmoved⟩ |
    ⟨⟨e, rfl⟩, hmoved, -⟩ | ⟨⟨e, rfl⟩, hmoved, -⟩
  · cases h
    exact ⟨hmoved, hreports, rfl, Or.inl ⟨⟨ptr, rfl, hup⟩, hsum⟩⟩
  · cases h
    exact ⟨hmoved, hreports, rfl, Or.inr ⟨⟨_, rfl⟩, hback⟩⟩
  · cases h
    exact ⟨hmoved, hreports, rfl, Or.inr ⟨⟨_, rfl⟩, hback⟩⟩

end Adaptor

namespace GpuWorld

/-- What a call must not do for the reports to be right: give up part of a
reservation, grant a size that is no `int64_t`, or free a block from another
account than the one it was charged to. -/
def Settled (w : GpuWorld) : GpuOp → Prop
  | .reserve bytes => w.res.mr.totalAllocatedBytes.toNat + bytes.toNat ≤
      w.res.mr.memoryLimit.toNat → bytes.toNat < 2 ^ 63
  | .reserveUpto bytes => min bytes.toNat (w.res.mr.memoryLimit.toNat -
      w.res.mr.totalAllocatedBytes.toNat) < 2 ^ 63
  | .growBy p bytes => ∀ a ∈ w.res.arenas.lookup p,
      w.res.mr.totalAllocatedBytes.toNat + bytes.toNat ≤
        w.res.mr.memoryLimit.toNat → a.size.toInt + bytes.toNat < 2 ^ 63
  | .shrinkToFit p => ∀ a ∈ w.res.arenas.lookup p,
      a.size.toInt ≤ max 0 a.allocatedBytes.toInt
  | .deallocate id s => ∀ b ∈ w.blocks.lookup id, w.arenaOf s = b.arena ∨
      w.arenaOf s = none ∧ ∀ p ∈ b.arena, p ∉ w.res.arenas
  | .attach _ _ _ _ | .allocate _ _ _ | .resetStream _ | .destroy _ => True

instance (w : GpuWorld) : (op : GpuOp) → Decidable (w.Settled op)
  | .reserve _ => inferInstanceAs (Decidable (_ → _))
  | .reserveUpto _ => inferInstanceAs (Decidable (_ < _))
  | .growBy p _ | .shrinkToFit p =>
      inferInstanceAs (Decidable (∀ a ∈ w.res.arenas.lookup p, _))
  | .deallocate id _ => inferInstanceAs (Decidable (∀ b ∈ w.blocks.lookup id, _))
  | .attach _ _ _ _ | .allocate _ _ _ | .resetStream _ | .destroy _ => isTrue trivial

/-- The counter is ahead of every name in use. -/
structure Numbered (w : GpuWorld) : Prop where
  arenas : ∀ p ∈ w.res.arenas, p < w.nextId
  trackers : w.res.streamStatsMap.All fun _ st => st.memoryReservation < w.nextId
  blocks : ∀ id ∈ w.blocks, id < w.nextId
  owners : w.blocks.All fun _ b => ∀ p, b.arena = some p → p < w.nextId

/-- The invariant of settled runs. -/
structure Accounted (w : GpuWorld) : Prop where
  numbered : w.Numbered
  cover : Covered GpuBlock.arena tracked w.res.mr.memoryLimit.toNat
    w.ledger.accounts w.res.mr.totalAllocatedBytes.toNat w.blocks
  reserved : (w.res.mr.totalReservedBytes.toNat : Int) =
    w.ledger.accounts.sumBy fun _ a => a.floor
  count : w.res.mr.numberOfAllocations = UInt64.ofNat w.res.arenas.count

section

variable {w w' : GpuWorld} {op : GpuOp} {p : Addr} {a : DeviceReservedArena}

theorem Numbered.lookup_block (h : w.Numbered) : w.blocks.lookup w.nextId = none :=
  AList.lookup_eq_none.mpr fun hmem => Nat.lt_irrefl _ (h.blocks _ hmem)

theorem Numbered.lookup_arena (h : w.Numbered) : w.res.arenas.lookup w.nextId = none :=
  AList.lookup_eq_none.mpr fun hmem => Nat.lt_irrefl _ (h.arenas _ hmem)

theorem Numbered.fresh (h : w.Numbered) :
    w.blocks.All fun _ b => b.arena ≠ some w.nextId :=
  h.owners.mono fun _ _ hb harena => Nat.lt_irrefl _ (hb _ harena)

/-- The names do not depend on the counters. -/
theorem Numbered.counted (h : w.Numbered) (mr : Adaptor) :
    Numbered { w with res := { w.res with mr := mr } } :=
  ⟨h.arenas, h.trackers, h.blocks, h.owners⟩

/-- A name passed over. -/
theorem Numbered.skipped (h : w.Numbered) :
    Numbered { w with nextId := w.nextId + 1 } where
  arenas p hp := Nat.lt_succ_of_lt (h.arenas p hp)
  trackers := h.trackers.mono fun _ _ hst => Nat.lt_succ_of_lt hst
  blocks id hid := Nat.lt_succ_of_lt (h.blocks id hid)
  owners := h.owners.mono fun _ _ hb p hp => Nat.lt_succ_of_lt (hb p hp)

/-- The next name goes to an arena. -/
theorem Numbered.opened (h : w.Numbered) (arena : DeviceReservedArena) :
    Numbered { w with
      res := { w.res with arenas := w.res.arenas.insert w.nextId arena }
      nextId := w.nextId + 1 } := by
  refine ⟨?_, h.skipped.trackers, h.skipped.blocks, h.skipped.owners⟩
  intro p hp
  rcases (AList.mem_insert _).mp hp with rfl | hp
  · exact Nat.lt_succ_self _
  · exact h.skipped.arenas p hp

/-- The next name goes to a block. -/
theorem Numbered.drawn (h : w.Numbered) {b : GpuBlock}
    (hb : ∀ p, b.arena = some p → p < w.nextId) :
    Numbered ⟨w.res, w.blocks.insert w.nextId b, w.nextId + 1⟩ := by
  refine ⟨h.skipped.arenas, h.skipped.trackers, ?_, ?_⟩
  · intro id hid
    rcases (AList.mem_insert _).mp hid with rfl | hid
    · exact Nat.lt_succ_self _
    · exact h.skipped.blocks id hid
  · exact AList.All.insert h.skipped.owners fun p hp => Nat.lt_succ_of_lt (hb p hp)

theorem accounted_of {accounts : Table Addr (Account Int)} (hnum : w.Numbered)
    (haccounts : w.ledger.accounts = accounts)
    (hcover : Covered GpuBlock.arena tracked w.res.mr.memoryLimit.toNat accounts
      w.res.mr.totalAllocatedBytes.toNat w.blocks)
    (hreserved : (w.res.mr.totalReservedBytes.toNat : Int) =
      accounts.sumBy fun _ a => a.floor)
    (hcount : w.res.mr.numberOfAllocations = UInt64.ofNat w.res.arenas.count) :
    w.Accounted := by
  subst haccounts
  exact ⟨hnum, hcover, hreserved, hcount⟩

/-- A reservation of `g` bytes is opened. -/
theorem Accounted.opened (h : w.Accounted) {mr : Adaptor} {g : UInt64}
    {notifier : Option EventNotifier} (hg : g.toNat < 2 ^ 63)
    (hmoved : w.res.mr.Moved mr g.toNat)
    (hreserved : mr.totalReservedBytes = w.res.mr.totalReservedBytes + g)
    (hcount : mr.numberOfAllocations = w.res.mr.numberOfAllocations + 1)
    (hroom : g.toNat = 0 ∨ w.res.mr.totalAllocatedBytes.toNat + g.toNat ≤
      w.res.mr.memoryLimit.toNat) :
    Accounted { w with
      res := { w.res with
        mr := mr
        arenas := w.res.arenas.insert w.nextId (Adaptor.makeArena g notifier) }
      nextId := w.nextId + 1 } := by
  have hnone : w.ledger.accounts.lookup w.nextId = none := by
    show (w.res.arenas.mapVal _).lookup w.nextId = none
    rw [AList.lookup_mapVal, h.numbered.lookup_arena]
    rfl
  have haccounts : (w.res.arenas.insert w.nextId
      (Adaptor.makeArena g notifier)).mapVal (fun _ => DeviceReservedArena.account) =
      w.ledger.accounts.insert w.nextId ⟨g.toNat, 0⟩ := by
    rw [AList.mapVal_insert, Adaptor.account_makeArena hg]
    rfl
  have hcover := h.cover.open' hnone h.numbered.fresh
    (Int.natCast_nonneg g.toNat) (by omega)
  have hsum : ((w.ledger.accounts.insert w.nextId ⟨g.toNat, 0⟩).sumBy
      fun _ a => a.floor) = g.toNat + w.ledger.accounts.sumBy fun _ a => a.floor :=
    AList.sumBy_insert_new hnone
  have hnum := (h.numbered.counted mr).opened (Adaptor.makeArena g notifier)
  refine accounted_of hnum haccounts ?_ ?_ ?_
  · dsimp only
    rw [hmoved.limit, hmoved.total]
    exact hcover
  · have hsizes := hcover.sizes
    have hlt := w.res.mr.memoryLimit.toNat_lt
    have hold := h.reserved
    rw [hsum] at hsizes ⊢
    dsimp only
    rw [hreserved, Word.toNat_add (by omega)]
    omega
  · dsimp only
    rw [hcount, h.count,
      AList.count_insert_new (AList.lookup_eq_none.mp h.numbered.lookup_arena)]
    exact (UInt64.ofNat_add _ _).symm

/-- An arena is destroyed; `trackers` are those that are left. -/
theorem Accounted.destroyed (h : w.Accounted) (ha : w.res.arenas.lookup p = some a)
    {trackers : Table Stream StreamOrderedTrackerState}
    (htrackers : trackers.All fun _ st => st.memoryReservation < w.nextId) :
    Accounted { w with res := { w.res with
      mr := w.res.mr.doReleaseReservation a
      streamStatsMap := trackers
      arenas := w.res.arenas.erase p } } := by
  have hacc := account_lookup ha
  have hfloor := h.cover.floor_nonneg hacc
  have hused := h.cover.used_nonneg hacc
  have hin := h.cover.inside.get hacc
  have hsum := AList.sumBy_erase (f := fun _ a => Account.floor a) hacc
  have hle := h.cover.floor_le hacc
  have hsizes := h.cover.sizes_le
  have hmax := Word.toInt_max 0 a.size
  rw [DeviceReservedArena.account_floor] at hfloor hin hle
  rw [DeviceReservedArena.account_used] at hused hin
  rw [Word.toInt_zero] at hmax
  have hroom := Account.headroom_of_used_le (a := a.account) hin
  rw [DeviceReservedArena.account_floor, DeviceReservedArena.account_used] at hroom
  have hpaid : a.account.headroom ≤ w.res.mr.totalAllocatedBytes.toNat := by
    omega
  have hmoved := Adaptor.release_moved hfloor hpaid
  have htotal := hmoved.total
  have haccounts : (w.res.arenas.erase p).mapVal
      (fun _ => DeviceReservedArena.account) = w.ledger.accounts.erase p :=
    AList.mapVal_erase
  refine accounted_of ⟨?_, htrackers, h.numbered.blocks, h.numbered.owners⟩
    haccounts ?_ ?_ ?_
  · exact fun q hq => h.numbered.arenas q (AList.mem_erase.mp hq).2
  · dsimp only
    rw [hmoved.limit]
    refine (h.cover.close hacc).leak ?_
    rw [DeviceReservedArena.account_floor, DeviceReservedArena.account_used]
    omega
  · have hback := Word.toNat_toUInt64_max a.size
    have hold := h.reserved
    have hsub := Word.toNat_sub (a := w.res.mr.totalReservedBytes)
      (b := (max 0 a.size).toUInt64) (by omega)
    show ((w.res.mr.totalReservedBytes - (max 0 a.size).toUInt64).toNat : Int) = _
    rw [DeviceReservedArena.account_floor] at hsum
    omega
  · have hcount := AList.count_erase ha
    show w.res.mr.numberOfAllocations - 1 = _
    rw [h.count, ← hcount, UInt64.ofNat_add]
    exact UInt64.add_sub_cancel _ _

/-- An arena is written and the blocks are `blocks`; the reports stay. -/
theorem Accounted.written (h : w.Accounted) (ha : w.res.arenas.lookup p = some a)
    {mr : Adaptor} {a' : DeviceReservedArena} {blocks : Table Nat GpuBlock}
    {nextId : Nat} (hsize : a'.size = a.size) (hreports : w.res.mr.SameReports mr)
    (hnum : Numbered ⟨{ w.res with mr := mr, arenas := w.res.arenas.insert p a' },
      blocks, nextId⟩)
    (hcover : Covered GpuBlock.arena tracked mr.memoryLimit.toNat
      (w.ledger.accounts.insert p a'.account) mr.totalAllocatedBytes.toNat blocks) :
    Accounted ⟨{ w.res with mr := mr, arenas := w.res.arenas.insert p a' },
      blocks, nextId⟩ := by
  have hsum := AList.sumBy_insert (f := fun _ a => Account.floor a)
    (w := a'.account) (account_lookup ha)
  rw [DeviceReservedArena.account_floor, DeviceReservedArena.account_floor,
    hsize] at hsum
  have haccounts : (w.res.arenas.insert p a').mapVal
      (fun _ => DeviceReservedArena.account) =
      w.ledger.accounts.insert p a'.account :=
    AList.mapVal_insert
  refine accounted_of hnum haccounts hcover ?_ ?_
  · have hold := h.reserved
    dsimp only
    rw [hreports.reserved]
    omega
  · dsimp only
    rw [hreports.count, AList.count_insert ha]
    exact h.count

/-! ## One call -/

theorem accounted_reserve (h : w.Accounted) {bytes : UInt64}
    (hset : w.Settled (.reserve bytes)) : (w.next (.reserve bytes)).Accounted := by
  rcases hres : w.res.mr.reserve bytes none with ⟨arena, mr⟩
  rcases Adaptor.reserve_cases hres with ⟨hle, rfl, hmoved⟩ | ⟨-, rfl, rfl⟩
  · obtain ⟨hreserved, hcount⟩ := Adaptor.reserve_reports hres
    simp only [next, GpuResource.reserve, hres]
    exact h.opened (hset hle) hmoved hreserved hcount (Or.inr hle)
  · simp only [next, GpuResource.reserve, hres]
    exact ⟨h.numbered.skipped, h.cover, h.reserved, h.count⟩

theorem accounted_reserveUpto (h : w.Accounted) {bytes : UInt64}
    (hset : w.Settled (.reserveUpto bytes)) :
    (w.next (.reserveUpto bytes)).Accounted := by
  rcases hres : w.res.mr.reserveUpto bytes none with ⟨arena, mr⟩
  obtain ⟨g, rfl, hmoved, hg⟩ := Adaptor.reserveUpto_cases hres
  obtain ⟨hreserved, hcount⟩ := Adaptor.reserveUpto_reports hres
  simp only [Adaptor.makeArena, UInt64.toUInt64_toInt64] at hreserved
  simp only [Settled, ← hg] at hset
  simp only [next, GpuResource.reserveUpto, hres]
  exact h.opened hset hmoved hreserved hcount (by omega)

theorem accounted_destroy (h : w.Accounted) (p : Addr) :
    (w.next (.destroy p)).Accounted := by
  cases ha : w.res.arenas.lookup p with
  | none =>
      simp only [next, GpuResource.destroyArena, ha]
      exact h
  | some a =>
      simp only [next, GpuResource.destroyArena, ha]
      exact h.destroyed ha h.numbered.trackers

theorem accounted_attach (h : w.Accounted) {s : Stream}
    {policy : Option ReservationLimitPolicy} {oom : Option OomHandlingPolicy}
    (hp : w.Unattached p) : (w.next (.attach s p policy oom)).Accounted := by
  cases hs : w.res.streamStatsMap.lookup s with
  | some st =>
      rw [next_attach_tracked hs]
      exact accounted_destroy h p
  | none =>
      simp only [next, GpuResource.attachReservationToTracker, hs]
      exact ⟨⟨h.numbered.arenas, h.numbered.trackers.insert (h.numbered.arenas p hp.1),
        h.numbered.blocks, h.numbered.owners⟩, h.cover, h.reserved, h.count⟩

theorem accounted_resetStream (h : w.Accounted) (s : Stream) :
    (w.next (.resetStream s)).Accounted := by
  cases hs : w.res.streamStatsMap.lookup s with
  | none =>
      simp only [next, GpuResource.resetStreamReservation, hs]
      exact h
  | some st =>
      cases ha : w.res.arenas.lookup st.memoryReservation with
      | none =>
          simp only [next, GpuResource.resetStreamReservation, hs,
            GpuResource.destroyArena, ha]
          exact ⟨⟨h.numbered.arenas, h.numbered.trackers.erase, h.numbered.blocks,
            h.numbered.owners⟩, h.cover, h.reserved, h.count⟩
      | some a =>
          simp only [next, GpuResource.resetStreamReservation, hs,
            GpuResource.destroyArena, ha]
          exact h.destroyed ha h.numbered.trackers.erase

/-- Writing a live arena uses no new name. -/
theorem Numbered.written (h : w.Numbered) (ha : w.res.arenas.lookup p = some a)
    (mr : Adaptor) (a' : DeviceReservedArena) : Numbered { w with
      res := { w.res with mr := mr, arenas := w.res.arenas.insert p a' } } := by
  refine ⟨fun q hq => ?_, h.trackers, h.blocks, h.owners⟩
  rcases (AList.mem_insert _).mp hq with rfl | hq
  · exact h.arenas _ (AList.mem_of_lookup ha)
  · exact h.arenas q hq

theorem accounted_growBy (h : w.Accounted) {bytes : UInt64}
    (hset : w.Settled (.growBy p bytes)) : (w.next (.growBy p bytes)).Accounted := by
  cases ha : w.res.arenas.lookup p with
  | none =>
      simp only [next, GpuResource.growBy, ha]
      exact h
  | some a =>
      have hacc := account_lookup ha
      have hfloor := h.cover.floor_nonneg hacc
      have hin := h.cover.inside.get hacc
      have hle := h.cover.sizes_le
      have hsum := AList.sumBy_insert (f := fun _ a => Account.floor a)
        (w := (⟨a.size.toInt + bytes.toNat, a.allocatedBytes.toInt⟩ : Account Int)) hacc
      rw [DeviceReservedArena.account_floor] at hfloor hin hsum
      rw [DeviceReservedArena.account_used] at hin
      rcases hgrow : w.res.mr.growReservationBy a bytes with ⟨grown, mr, a'⟩
      rcases Adaptor.grow_cases hfloor (hset a ha) hgrow with
        ⟨hfit, rfl, hmoved, hused, hsize⟩ | ⟨-, rfl, rfl, rfl⟩
      · obtain ⟨hreserved, hcount⟩ := Adaptor.grow_reports hgrow
        have hroom := w.res.mr.memoryLimit.toNat_lt
        have haccounts : (w.res.arenas.insert p a').mapVal
            (fun _ => DeviceReservedArena.account) = w.ledger.accounts.insert p
              ⟨a.size.toInt + bytes.toNat, a.allocatedBytes.toInt⟩ := by
          rw [AList.mapVal_insert, DeviceReservedArena.account, hsize, hused]
          rfl
        have htotal := hmoved.total
        simp only [next, GpuResource.growBy, ha, hgrow]
        refine accounted_of (h.numbered.written ha mr a') haccounts ?_ ?_ ?_
        · dsimp only
          rw [hmoved.limit]
          refine h.cover.update hacc (Int.le_refl _) ?_ ?_ (Or.inr ?_)
          · dsimp only
            omega
          · rw [DeviceReservedArena.account_floor]
            dsimp only
            omega
          · omega
        · have hold := h.reserved
          dsimp only at hsum ⊢
          rw [hreserved, Word.toNat_add (by omega)]
          omega
        · dsimp only
          rw [hcount, AList.count_insert ha]
          exact h.count
      · simp only [next, GpuResource.growBy, ha, hgrow]
        refine h.written ha rfl (.refl _) (h.numbered.written ha _ _) ?_
        exact h.cover.update hacc (Int.le_refl _) hin (by omega) (Or.inl (Int.le_refl _))

theorem accounted_shrinkToFit (h : w.Accounted)
    (hset : w.Settled (.shrinkToFit p)) : (w.next (.shrinkToFit p)).Accounted := by
  cases ha : w.res.arenas.lookup p with
  | none =>
      simp only [next, GpuResource.shrinkToFit, ha]
      exact h
  | some a =>
      have hacc := account_lookup ha
      have hle : ¬ max 0 a.allocatedBytes < a.size := by
        have hmax := Word.toInt_max 0 a.allocatedBytes
        have hfull := hset a ha
        rw [Word.toInt_zero] at hmax
        rw [Int64.lt_iff_toInt_lt]
        omega
      simp only [next, GpuResource.shrinkToFit, ha, Adaptor.shrinkReservationToFit,
        if_neg hle]
      refine h.written ha rfl (.refl _) (h.numbered.written ha _ _) ?_
      exact h.cover.update hacc (Int.le_refl _) (h.cover.inside.get hacc) (by omega)
        (Or.inl (Int.le_refl _))

/-- A block is made on a stream without a reservation. -/
theorem accounted_drawnLoose (h : w.Accounted) {mr : Adaptor} {b : GpuBlock}
    (harena : b.arena = none) (hmoved : w.res.mr.Moved mr (round256 b.bytes).toNat)
    (hreports : w.res.mr.SameReports mr) :
    Accounted ⟨{ w.res with mr := mr }, w.blocks.insert w.nextId b, w.nextId + 1⟩ := by
  have hno : ∀ p, b.arena ≠ some p := by
    intro p hp
    rw [harena] at hp
    cases hp
  have hnum := (h.numbered.counted mr).drawn fun p hp => absurd hp (hno p)
  refine ⟨hnum, ?_, ?_, ?_⟩
  · dsimp only
    rw [hmoved.limit]
    refine h.cover.drawLoose h.numbered.lookup_block (fun p _ => hno p) ?_
    rw [hmoved.total]
  · dsimp only
    rw [hreports.reserved]
    exact h.reserved
  · dsimp only
    rw [hreports.count]
    exact h.count

theorem accounted_allocateLoose (h : w.Accounted) {bytes : UInt64} {s : Stream}
    {upstream : UpstreamResult} (hs : w.res.streamStatsMap.lookup s = none) :
    (w.next (.allocate bytes s upstream)).Accounted := by
  rcases hall : w.res.mr.doAllocateManaged w.res.defaultOomPolicy bytes upstream with
    ⟨mr, res⟩
  have hreports := Adaptor.managed_reports w.res.mr w.res.defaultOomPolicy bytes
    upstream
  rw [hall] at hreports
  -- a failed allocation may leave its charge behind
  have hfailed : ∀ d : Int, 0 ≤ d → w.res.mr.Moved mr d →
      Accounted { w with res := { w.res with mr := mr } } := by
    intro d hd hmoved
    refine ⟨h.numbered.counted mr, ?_, ?_, ?_⟩
    · have htotal := hmoved.total
      dsimp only
      rw [hmoved.limit]
      exact h.cover.leak (by omega)
    · dsimp only
      rw [hreports.reserved]
      exact h.reserved
    · dsimp only
      rw [hreports.count]
      exact h.count
  have harena := arenaOf_untracked hs
  rcases allocateManaged_cases hall with ⟨⟨ptr, rfl, -⟩, hmoved⟩ |
    ⟨⟨e, rfl⟩, hmoved, -⟩ | ⟨⟨e, rfl⟩, hmoved, -⟩
  · simp only [next, GpuResource.doAllocate, hs, hall]
    exact accounted_drawnLoose h harena hmoved hreports
  · simp only [next, GpuResource.doAllocate, hs, hall]
    exact hfailed 0 (Int.le_refl 0) hmoved
  · simp only [next, GpuResource.doAllocate, hs, hall]
    exact hfailed _ (Int.natCast_nonneg _) hmoved

theorem accounted_allocateUnder (h : w.Accounted) {bytes : UInt64} {s : Stream}
    {upstream : UpstreamResult} {st : StreamOrderedTrackerState}
    (hs : w.res.streamStatsMap.lookup s = some st)
    (ha : w.res.arenas.lookup st.memoryReservation = some a)
    (hin : a.allocatedBytes.toInt + (round256 bytes).toNat ≤ a.size.toInt) :
    (w.next (.allocate bytes s upstream)).Accounted := by
  have hacc := account_lookup ha
  have hused := h.cover.used_nonneg hacc
  have harena := arenaOf_tracked hs
  rcases hall : w.res.mr.doAllocateTracked a st.reservationPolicy st.oomPolicy bytes
    upstream with ⟨⟨mr, a'⟩, res⟩
  obtain ⟨hmoved, hreports, hsize, hres⟩ := Adaptor.tracked_inside (Or.inl hused) hin hall
  have htotal : mr.totalAllocatedBytes.toNat = w.res.mr.totalAllocatedBytes.toNat := by
    have hmove := hmoved.total
    omega
  rcases hres with ⟨⟨ptr, rfl, -⟩, hdrawn⟩ | ⟨⟨e, rfl⟩, hsame⟩
  · simp only [next, GpuResource.doAllocate, hs, ha, hall]
    have howner : ∀ p, w.arenaOf s = some p → p < w.nextId := by
      intro p hp
      have heq := Option.some.inj (harena.symm.trans hp)
      rw [← heq]
      exact h.numbered.arenas _ (AList.mem_of_lookup ha)
    have hnum := (h.numbered.written ha mr a').drawn (b := ⟨bytes, s, w.arenaOf s⟩) howner
    refine h.written ha hsize hreports hnum ?_
    rw [hmoved.limit, htotal]
    refine h.cover.draw h.numbered.lookup_block hacc harena ?_ ?_ ?_
    · rw [DeviceReservedArena.account_floor, hsize]
      rfl
    · exact Int.le_of_eq hdrawn.symm
    · rw [DeviceReservedArena.account_floor, DeviceReservedArena.account_used,
        hdrawn, hsize]
      exact hin
  · have haccount : a'.account = a.account := by
      rw [DeviceReservedArena.account, hsize, hsame]
      rfl
    simp only [next, GpuResource.doAllocate, hs, ha, hall]
    refine h.written ha hsize hreports (h.numbered.written ha mr a') ?_
    rw [haccount, hmoved.limit, htotal]
    exact h.cover.update hacc (Int.le_refl _) (h.cover.inside.get hacc) (by omega)
      (Or.inl (Int.le_refl _))

theorem accounted_allocate (h : w.Accounted) {bytes : UInt64} {s : Stream}
    {upstream : UpstreamResult} (hwithin : w.Within (.allocate bytes s upstream)) :
    (w.next (.allocate bytes s upstream)).Accounted := by
  cases hs : w.res.streamStatsMap.lookup s with
  | none => exact accounted_allocateLoose h hs
  | some st =>
      cases ha : w.res.arenas.lookup st.memoryReservation with
      | none =>
          simp only [next, GpuResource.doAllocate, hs, ha]
          exact h
      | some a =>
          exact accounted_allocateUnder h hs ha
            (hwithin a (arenaAt_eq_some.mpr ⟨st, hs, ha⟩))

/-- The names once a block is gone. -/
theorem Numbered.freed (h : w.Numbered) (id : Nat) :
    Numbered { w with blocks := w.blocks.erase id } :=
  ⟨h.arenas, h.trackers, fun _ hid => h.blocks _ (AList.mem_erase.mp hid).2,
    h.owners.erase⟩

/-- A block is freed on a stream without a reservation. -/
theorem accounted_freedLoose (h : w.Accounted) {id : Nat} {b : GpuBlock}
    (hb : w.blocks.lookup id = some b) (hno : ∀ p ∈ b.arena, p ∉ w.res.arenas) :
    Accounted { w with
      res := { w.res with mr := w.res.mr.doDeallocate b.bytes }
      blocks := w.blocks.erase id } := by
  have hloose : ∀ p ∈ w.ledger.accounts, b.arena ≠ some p := by
    intro p hp harena
    exact hno p harena (AList.mem_mapVal.mp hp)
  have hle : ((round256 b.bytes).toNat : Int) ≤ w.res.mr.totalAllocatedBytes.toNat :=
    h.cover.amount_le hb hloose
  have hmoved := deallocate_moved (Int.ofNat_le.mp hle)
  refine ⟨(h.numbered.counted _).freed id, ?_, h.reserved, h.count⟩
  refine h.cover.repayLoose hb hloose ?_
  show _ ≤ ((w.res.mr.doDeallocate b.bytes).totalAllocatedBytes.toNat : Int)
  rw [hmoved.total]
  exact Int.le_refl _

/-- A block is freed from the reservation it was made under. -/
theorem accounted_freedUnder (h : w.Accounted) {id : Nat} {b : GpuBlock}
    (hb : w.blocks.lookup id = some b) (ha : w.res.arenas.lookup p = some a)
    (harena : b.arena = some p) {mr : Adaptor} {a' : DeviceReservedArena}
    (hfree : w.res.mr.doDeallocateTracked a b.bytes = (mr, a')) :
    Accounted { w with
      res := { w.res with mr := mr, arenas := w.res.arenas.insert p a' }
      blocks := w.blocks.erase id } := by
  have hacc := account_lookup ha
  have hin := h.cover.inside.get hacc
  have hused := h.cover.used_nonneg hacc
  have hfloor := h.cover.floor_le hacc
  have hsizes := h.cover.sizes_le
  have hamount : ((round256 b.bytes).toNat : Int) ≤ a.account.used :=
    h.cover.amount_le_used hb hacc harena
  have hhi := a.size.toInt_lt
  rw [DeviceReservedArena.account_floor] at hin hfloor
  rw [DeviceReservedArena.account_used] at hin hused hamount
  obtain ⟨haccount, hmoved⟩ :=
    deallocateTracked_cases (by omega) (by omega) (by omega) hfree
  -- all of the block is inside, so the total stays where it is
  have hstay : (a.account.draw (-(round256 b.bytes).toNat)).charge -
      a.account.charge + straddleError a.account (round256 b.bytes).toNat = 0 := by
    have hnone := straddleError_eq_zero (a := a) (n := (round256 b.bytes).toNat)
    rw [hnone.mpr (by omega)]
    simp only [Account.charge, Account.draw, DeviceReservedArena.account_floor,
      DeviceReservedArena.account_used]
    omega
  have htotal := hmoved.total
  rw [hstay, add_zero] at htotal
  have hsame : w.res.mr.SameReports mr ∧ a'.size = a.size := by
    unfold Adaptor.doDeallocateTracked at hfree
    cases hfree
    exact ⟨⟨rfl, rfl⟩, rfl⟩
  have hnum := (h.numbered.written ha mr a').freed id
  refine h.written ha hsame.2 hsame.1 hnum ?_
  rw [haccount, hmoved.limit, htotal]
  exact h.cover.repay hb hacc harena rfl (sub_eq_add_neg _ _).symm

theorem accounted_deallocate (h : w.Accounted) {id : Nat} {s : Stream}
    (hset : w.Settled (.deallocate id s)) : (w.next (.deallocate id s)).Accounted := by
  cases hb : w.blocks.lookup id with
  | none =>
      simp only [next, hb]
      exact h
  | some b =>
      have hhome := hset b hb
      cases hs : w.res.streamStatsMap.lookup s with
      | none =>
          have hno := arenaOf_untracked hs
          simp only [next, hb, GpuResource.doDeallocate, hs]
          refine accounted_freedLoose h hb ?_
          rcases hhome with heq | ⟨-, hdead⟩
          · intro p hp
            rw [← heq, hno] at hp
            cases hp
          · exact hdead
      | some st =>
          have harena : b.arena = some st.memoryReservation := by
            have hsome := arenaOf_tracked hs
            rcases hhome with heq | ⟨hno, -⟩
            · exact heq.symm.trans hsome
            · rw [hno] at hsome
              cases hsome
          cases ha : w.res.arenas.lookup st.memoryReservation with
          | none =>
              simp only [next, hb, GpuResource.doDeallocate, hs, ha]
              exact ⟨h.numbered.freed id, h.cover.drop hb, h.reserved, h.count⟩
          | some a =>
              rcases hfree : w.res.mr.doDeallocateTracked a b.bytes with ⟨mr, a'⟩
              simp only [next, hb, GpuResource.doDeallocate, hs, ha, hfree]
              exact accounted_freedUnder h hb ha harena hfree

/-! ## Whole runs -/

theorem accounted_next (h : w.Accounted) (hwithin : w.Within op)
    (hset : w.Settled op) : (w.next op).Accounted := by
  cases op with
  | reserve bytes => exact accounted_reserve h hset
  | reserveUpto bytes => exact accounted_reserveUpto h hset
  | attach s p policy oom => exact accounted_attach h hwithin
  | allocate bytes s upstream => exact accounted_allocate h hwithin
  | deallocate id s => exact accounted_deallocate h hset
  | growBy p bytes => exact accounted_growBy h hset
  | shrinkToFit p => exact accounted_shrinkToFit h hset
  | resetStream s => exact accounted_resetStream h s
  | destroy p => exact accounted_destroy h p

/-- What the adaptor reports, and the sizes of its arenas. -/
def Reports (w : GpuWorld) : Prop :=
  Reported w.res.mr.getTotalReservedBytes w.res.mr.getActiveReservationCount
    (w.res.arenas.mapVal fun _ a => a.size) w.res.mr.memoryLimit

theorem Accounted.reports (h : w.Accounted) : w.Reports := by
  have hfloors : (w.ledger.accounts.sumBy fun _ a => a.floor) =
      (w.res.arenas.mapVal fun _ a => a.size).sumBy fun _ size => size.toInt := by
    rw [sumBy_accounts, AList.sumBy_mapVal]
    rfl
  refine .of_nonneg (AList.all_mapVal.mpr fun p a ha => ?_) ?_ ?_ ?_
  · exact h.cover.floor_nonneg (account_lookup ha)
  · rw [← hfloors]
    exact h.reserved
  · rw [AList.count_mapVal]
    exact h.count
  · rw [← hfloors]
    exact h.cover.sizes

theorem accounted_fresh (limit capacity : UInt64) : (fresh limit capacity).Accounted :=
  ⟨⟨nofun, AList.all_empty, nofun, AList.all_empty⟩,
    ⟨AList.all_empty, AList.all_empty, tracked_nonneg, Int.le_refl 0,
      Int.natCast_nonneg limit.toNat⟩, rfl, rfl⟩

theorem always_reports {limit capacity : UInt64} {ops : List GpuOp}
    (hlaw : (machine Within).Lawful (fresh limit capacity) ops)
    (hset : (machine Within).Every Settled (fresh limit capacity) ops) :
    (machine Within).Always Reports (fresh limit capacity) ops :=
  (Machine.always_of_every (I := Accounted)
    (fun _ _ h hwithin hset => accounted_next h hwithin hset)
    (accounted_fresh limit capacity) hlaw hset).mono fun _ h => h.reports

end

end GpuWorld

end CuCascade.Memory

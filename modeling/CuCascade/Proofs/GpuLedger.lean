import CuCascade.Memory.GpuWorld
import CuCascade.Proofs.AdaptorSpec

/-!
# The GPU limiter keeps a ledger

Read as a ledger, the state of the limiter and its users is: one account for
each live arena, the 256-rounded sizes of the live blocks outstanding, and
`_total_allocated_bytes` charged. This file says which ledger operation each
call performs, and by how much it leaks. The leaks are three: growing a
reservation that is already overdrawn, destroying one whose use is negative,
and freeing a block that straddles the boundary; besides, an upstream that
throws no `std::exception` leaves its charge behind.

The equations hold where the words do not overflow. `WF` is what is true of
the objects whatever the numbers are, and `Bounded` is what the arithmetic of
one call relies on; the last part of the file shows that every call keeps the
first, and keeps the second as long as it does not overdraw the ledger.
-/

namespace CuCascade.Memory

namespace GpuWorld

/-- The ledger a state of the limiter and its users stands for. -/
def ledger (w : GpuWorld) : Ledger Addr Int where
  accounts := w.res.arenas.mapVal fun _ => DeviceReservedArena.account
  outstanding := w.blocks.sumBy fun _ b => ((round256 b.bytes).toNat : Int)
  charged := w.res.mr.totalAllocatedBytes.toNat

/-- The trackers own live arenas, no two the same, and the counter is ahead of
every name in use. -/
structure Names (accounts : Table Addr (Account Int))
    (trackers : Table Stream StreamOrderedTrackerState)
    (blocks : Table Nat GpuBlock) (nextId : Nat) : Prop where
  attached : ∀ {s st}, trackers.lookup s = some st →
    st.memoryReservation ∈ accounts
  distinct : ∀ {s s' st st'}, trackers.lookup s = some st →
    trackers.lookup s' = some st' →
    st.memoryReservation = st'.memoryReservation → s = s'
  arenaIds : ∀ {p}, p ∈ accounts → p < nextId
  blockIds : ∀ {id}, id ∈ blocks → id < nextId
  blockArenas : blocks.All fun _ b => ∀ p, b.arena = some p → p < nextId

/-- The names in use are in order. -/
def WF (w : GpuWorld) : Prop :=
  Names w.ledger.accounts w.res.streamStatsMap w.blocks w.nextId

/-- The total covers what it has to, and no reservation is negative. This is
enough for every call that only gives back. -/
structure Funded (w : GpuWorld) : Prop where
  slack : 0 ≤ w.ledger.slack
  floors : w.ledger.accounts.All fun _ a => 0 ≤ a.floor

/-- What keeps the arithmetic of one call inside its words. -/
structure Bounded (w : GpuWorld) : Prop where
  slack : 0 ≤ w.ledger.slack
  total : w.res.mr.totalAllocatedBytes.toNat ≤
    max w.res.mr.memoryLimit.toNat w.res.mr.capacity.toNat
  limit : w.res.mr.memoryLimit.toNat < 2 ^ 62
  cap : w.res.mr.capacity.toNat < 2 ^ 62
  floors : w.ledger.accounts.All fun _ a => 0 ≤ a.floor
  blocks : w.blocks.All fun _ b => b.bytes.toNat < 2 ^ 62

theorem account_lookup {w : GpuWorld} {p : Addr} {a : DeviceReservedArena}
    (h : w.res.arenas.lookup p = some a) :
    w.ledger.accounts.lookup p = some a.account := by
  show (w.res.arenas.mapVal _).lookup p = _
  rw [AList.lookup_mapVal, h]
  rfl

theorem sumBy_accounts (w : GpuWorld) (f : Account Int → Int) :
    (w.ledger.accounts.sumBy fun _ a => f a) =
      w.res.arenas.sumBy fun _ a => f a.account :=
  AList.sumBy_mapVal (f := fun _ => DeviceReservedArena.account)

section Bounded

variable {w : GpuWorld}

theorem Bounded.funded (hb : w.Bounded) : w.Funded :=
  ⟨hb.slack, hb.floors⟩

theorem Funded.worth_le (hf : w.Funded) :
    w.ledger.outstanding + (w.ledger.accounts.sumBy fun _ a => a.headroom) ≤
      w.res.mr.totalAllocatedBytes.toNat := by
  have h := hf.slack
  unfold Ledger.slack Ledger.worth at h
  have hcharged : w.ledger.charged = w.res.mr.totalAllocatedBytes.toNat := rfl
  omega

theorem Funded.size (hf : w.Funded) {p : Addr} {a : DeviceReservedArena}
    (h : w.res.arenas.lookup p = some a) : 0 ≤ a.size.toInt :=
  hf.floors p a.account (account_lookup h)

theorem outstanding_nonneg : 0 ≤ w.ledger.outstanding := by
  exact AList.sumBy_nonneg
    (f := fun _ b => ((round256 (GpuBlock.bytes b)).toNat : Int))
    fun _ _ => Int.natCast_nonneg _

theorem headrooms_nonneg :
    0 ≤ w.ledger.accounts.sumBy fun _ a => a.headroom :=
  AList.sumBy_nonneg fun e _ => e.2.headroom_nonneg

/-- The total has paid for the headroom of each arena. -/
theorem Funded.headroom_le (hf : w.Funded) {p : Addr}
    {a : DeviceReservedArena} (h : w.res.arenas.lookup p = some a) :
    a.account.headroom ≤ w.res.mr.totalAllocatedBytes.toNat := by
  have hone := AList.le_sumBy (f := fun _ a => Account.headroom a)
    (fun e _ => e.2.headroom_nonneg) (account_lookup h)
  have hworth := hf.worth_le
  have hout := outstanding_nonneg (w := w)
  omega

/-- The total has paid for each block. -/
theorem Funded.block_le (hf : w.Funded) {id : Nat} {b : GpuBlock}
    (h : w.blocks.lookup id = some b) :
    (round256 b.bytes).toNat ≤ w.res.mr.totalAllocatedBytes.toNat := by
  have hone := AList.le_sumBy
    (f := fun _ b => ((round256 (GpuBlock.bytes b)).toNat : Int))
    (fun e _ => Int.natCast_nonneg _) h
  have hworth := hf.worth_le
  have hroom := headrooms_nonneg (w := w)
  have hout : w.ledger.outstanding =
    w.blocks.sumBy fun _ b => ((round256 b.bytes).toNat : Int) := rfl
  omega

theorem Bounded.total_lt (hb : w.Bounded) :
    w.res.mr.totalAllocatedBytes.toNat < 2 ^ 62 := by
  have htotal := hb.total
  have hlimit := hb.limit
  have hcap := hb.cap
  omega

/-- However far down frees on other streams took it, the use of an arena is far
from the lower end of `int64_t`. -/
theorem Bounded.used_ge (hb : w.Bounded) {p : Addr} {a : DeviceReservedArena}
    (h : w.res.arenas.lookup p = some a) :
    a.size.toInt - a.allocatedBytes.toInt < 2 ^ 62 := by
  have hroom := hb.funded.headroom_le h
  have htotal := hb.total_lt
  simp only [Account.headroom, DeviceReservedArena.account_floor,
    DeviceReservedArena.account_used] at hroom
  omega

end Bounded

/-! ## What each call does -/

/-- `w'` has the ledger `l`, the other parts as given, and the limits of `w`. -/
structure Becomes (w w' : GpuWorld) (l : Ledger Addr Int)
    (trackers : Table Stream StreamOrderedTrackerState)
    (blocks : Table Nat GpuBlock) (nextId : Nat) : Prop where
  ledger : w'.ledger = l
  trackers : w'.res.streamStatsMap = trackers
  blocks : w'.blocks = blocks
  nextId : w'.nextId = nextId
  limit : w'.res.mr.memoryLimit = w.res.mr.memoryLimit
  cap : w'.res.mr.capacity = w.res.mr.capacity
  bound : w'.res.mr.totalAllocatedBytes.toNat ≤
    max w.res.mr.totalAllocatedBytes.toNat
      (max w.res.mr.memoryLimit.toNat w.res.mr.capacity.toNat)

/-- The additions of a call stay in `int64_t`. They can leave it only through
frees on other streams, which let a use or a reservation grow past what the
adaptor has. -/
def Fits (w : GpuWorld) : GpuOp → Prop
  | .allocate bytes s _ => ∀ a ∈ w.arenaAt s,
      a.allocatedBytes.toInt + (round256 bytes).toNat < 2 ^ 63 ∧
      (a.size.toInt < a.allocatedBytes.toInt + (round256 bytes).toNat →
        ReservationLimitPolicy.GrowthFits w.res.mr a (round256 bytes)
          (w.policyAt s))
  | .growBy p bytes => ∀ a ∈ w.res.arenas.lookup p,
      w.res.mr.totalAllocatedBytes.toNat + bytes.toNat ≤
        w.res.mr.memoryLimit.toNat →
      a.size.toInt + bytes.toNat < 2 ^ 63
  | _ => True

instance (w : GpuWorld) : (op : GpuOp) → Decidable (w.Fits op)
  | .allocate _ s _ => inferInstanceAs (Decidable (∀ a ∈ w.arenaAt s, _))
  | .growBy p _ => inferInstanceAs (Decidable (∀ a ∈ w.res.arenas.lookup p, _))
  | .reserve _ | .reserveUpto _ | .attach _ _ _ _ | .deallocate _ _
  | .shrinkToFit _ | .resetStream _ | .destroy _ => isTrue trivial

theorem arenaAt_eq_some {w : GpuWorld} {s : Stream} {a : DeviceReservedArena} :
    w.arenaAt s = some a ↔ ∃ st, w.res.streamStatsMap.lookup s = some st ∧
      w.res.arenas.lookup st.memoryReservation = some a := by
  unfold arenaAt arenaOf
  cases w.res.streamStatsMap.lookup s <;> simp

theorem policyAt_eq {w : GpuWorld} {s : Stream}
    {st : StreamOrderedTrackerState}
    (hs : w.res.streamStatsMap.lookup s = some st) :
    w.policyAt s = st.reservationPolicy := by
  unfold policyAt
  rw [hs]
  rfl

section Calls

variable {w : GpuWorld}

theorem next_reserve {bytes : UInt64}
    (hbytes : w.res.mr.totalAllocatedBytes.toNat + bytes.toNat ≤
      w.res.mr.memoryLimit.toNat → bytes.toNat < 2 ^ 63) :
    w.Becomes (w.next (.reserve bytes)) (w.ledger.open' w.nextId bytes.toNat)
      w.res.streamStatsMap w.blocks (w.nextId + 1) ∨
    w.Becomes (w.next (.reserve bytes)) w.ledger
      w.res.streamStatsMap w.blocks (w.nextId + 1) := by
  rcases h : w.res.mr.reserve bytes none with ⟨arena, mr⟩
  simp only [next, GpuResource.reserve, h]
  rcases Adaptor.reserve_cases h with ⟨hle, rfl, hmoved⟩ | ⟨-, rfl, rfl⟩
  · refine Or.inl ⟨Ledger.ext ?_ rfl hmoved.total, rfl, rfl, rfl, hmoved.limit,
      hmoved.cap, hmoved.bound⟩
    simp only [ledger, Ledger.open', AList.mapVal_insert,
      Adaptor.account_makeArena (hbytes hle)]
  · exact Or.inr ⟨rfl, rfl, rfl, rfl, rfl, rfl, le_max_left _ _⟩

theorem next_reserveUpto {bytes : UInt64}
    (hbytes : min bytes.toNat (w.res.mr.memoryLimit.toNat -
      w.res.mr.totalAllocatedBytes.toNat) < 2 ^ 63) :
    ∃ g : Nat, w.Becomes (w.next (.reserveUpto bytes))
      (w.ledger.open' w.nextId g) w.res.streamStatsMap w.blocks
      (w.nextId + 1) := by
  rcases h : w.res.mr.reserveUpto bytes none with ⟨arena, mr⟩
  simp only [next, GpuResource.reserveUpto, h]
  obtain ⟨g, rfl, hmoved, hg⟩ := Adaptor.reserveUpto_cases h
  refine ⟨g.toNat, Ledger.ext ?_ rfl hmoved.total, rfl, rfl, rfl, hmoved.limit,
    hmoved.cap, hmoved.bound⟩
  simp only [ledger, Ledger.open', AList.mapVal_insert,
    Adaptor.account_makeArena (by omega : g.toNat < 2 ^ 63)]

theorem next_destroy (hf : w.Funded) {p : Addr} {a : DeviceReservedArena}
    (ha : w.res.arenas.lookup p = some a) :
    w.Becomes (w.next (.destroy p))
      ((w.ledger.close p a.account).leak (max 0 (-a.allocatedBytes.toInt)))
      w.res.streamStatsMap w.blocks w.nextId := by
  have hmoved := Adaptor.release_moved (hf.size ha) (hf.headroom_le ha)
  simp only [next, GpuResource.destroyArena, ha]
  refine ⟨Ledger.ext ?_ rfl ?_, rfl, rfl, rfl, hmoved.limit, hmoved.cap,
    hmoved.bound⟩
  · exact AList.mapVal_erase (f := fun _ => DeviceReservedArena.account)
  · simp only [ledger, Ledger.close, Ledger.leak, hmoved.total]
    omega

theorem next_attach_untracked {s : Stream} {p : Addr}
    {policy : Option ReservationLimitPolicy} {oom : Option OomHandlingPolicy}
    (h : w.res.streamStatsMap.lookup s = none) :
    w.Becomes (w.next (.attach s p policy oom)) w.ledger
      (w.res.streamStatsMap.insert s ⟨p,
        some (policy.getD makeDefaultReservationLimitPolicy),
        oom.getD makeDefaultOomPolicy⟩) w.blocks w.nextId := by
  simp only [next, GpuResource.attachReservationToTracker, h]
  exact ⟨rfl, rfl, rfl, rfl, rfl, rfl, le_max_left _ _⟩

theorem next_attach_tracked {s : Stream} {p : Addr}
    {policy : Option ReservationLimitPolicy} {oom : Option OomHandlingPolicy}
    {st : StreamOrderedTrackerState}
    (h : w.res.streamStatsMap.lookup s = some st) :
    w.next (.attach s p policy oom) = w.next (.destroy p) := by
  simp only [next, GpuResource.attachReservationToTracker, h]

theorem next_resetStream_untracked {s : Stream}
    (h : w.res.streamStatsMap.lookup s = none) :
    w.next (.resetStream s) = w := by
  simp only [next, GpuResource.resetStreamReservation, h]

theorem next_resetStream_tracked (hf : w.Funded) {s : Stream}
    {st : StreamOrderedTrackerState} {a : DeviceReservedArena}
    (h : w.res.streamStatsMap.lookup s = some st)
    (ha : w.res.arenas.lookup st.memoryReservation = some a) :
    w.Becomes (w.next (.resetStream s))
      ((w.ledger.close st.memoryReservation a.account).leak
        (max 0 (-a.allocatedBytes.toInt)))
      (w.res.streamStatsMap.erase s) w.blocks w.nextId := by
  have hd := next_destroy hf ha
  simp only [next, GpuResource.destroyArena, ha] at hd
  simp only [next, GpuResource.resetStreamReservation, h,
    GpuResource.destroyArena, ha]
  exact ⟨hd.ledger, rfl, rfl, rfl, hd.limit, hd.cap, hd.bound⟩

/-- The ledger once the reservation of `a` has grown by `g`. It leaks what the
growth does not give back as headroom. -/
def grownLedger (w : GpuWorld) (p : Addr) (a : DeviceReservedArena) (g : Nat) :
    Ledger Addr Int :=
  let a' := a.account.withFloor (a.size.toInt + g)
  (w.ledger.refloor p a.account a'.floor).leak
    (g - (a'.headroom - a.account.headroom))

/-- A refused growth is a growth by nothing. -/
theorem next_growBy (hf : w.Funded) {p : Addr} {bytes : UInt64}
    {a : DeviceReservedArena} (ha : w.res.arenas.lookup p = some a)
    (hfit : w.Fits (.growBy p bytes)) :
    ∃ g : Nat, (g = bytes.toNat ∧ w.res.mr.totalAllocatedBytes.toNat +
          bytes.toNat ≤ w.res.mr.memoryLimit.toNat ∨
        g = 0 ∧ w.res.mr.memoryLimit.toNat <
          w.res.mr.totalAllocatedBytes.toNat + bytes.toNat) ∧
      w.Becomes (w.next (.growBy p bytes)) (w.grownLedger p a g)
        w.res.streamStatsMap w.blocks w.nextId := by
  rcases h : w.res.mr.growReservationBy a bytes with ⟨grown, mr, a'⟩
  simp only [next, GpuResource.growBy, ha, h]
  rcases Adaptor.grow_cases (hf.size ha) (hfit a ha) h with
    ⟨hle, rfl, hmoved, hused, hfloor⟩ | ⟨hlt, rfl, rfl, rfl⟩
  · refine ⟨bytes.toNat, Or.inl ⟨rfl, hle⟩, Ledger.ext ?_ rfl ?_, rfl, rfl, rfl,
      hmoved.limit, hmoved.cap, hmoved.bound⟩
    · simp only [grownLedger, ledger, Ledger.refloor, Ledger.leak, AList.mapVal_insert,
        Account.withFloor, DeviceReservedArena.account, hused, hfloor]
    · simp only [grownLedger, ledger, Ledger.refloor, Ledger.leak, hmoved.total]
      simp only [Account.withFloor]
      omega
  · refine ⟨0, Or.inr ⟨rfl, hlt⟩, Ledger.ext ?_ rfl ?_, rfl, rfl, rfl, rfl, rfl,
      le_max_left _ _⟩
    · simp only [grownLedger, ledger, Ledger.refloor, Ledger.leak, AList.mapVal_insert,
        Account.withFloor, DeviceReservedArena.account, Nat.cast_zero, add_zero]
    · simp only [grownLedger, ledger, Ledger.refloor, Ledger.leak]
      simp only [Account.withFloor]
      omega

theorem next_shrinkToFit (hf : w.Funded) {p : Addr} {a : DeviceReservedArena}
    (ha : w.res.arenas.lookup p = some a) :
    ∃ floor : Int, 0 ≤ floor ∧ floor ≤ a.size.toInt ∧
      w.Becomes (w.next (.shrinkToFit p))
      (w.ledger.refloor p a.account floor) w.res.streamStatsMap w.blocks
      w.nextId := by
  rcases h : w.res.mr.shrinkReservationToFit a with ⟨mr, a'⟩
  obtain ⟨floor, hpos, hle, haccount, hmoved⟩ :=
    Adaptor.shrink_cases (hf.size ha) (hf.headroom_le ha) h
  simp only [next, GpuResource.shrinkToFit, ha, h]
  refine ⟨floor, hpos, hle, Ledger.ext ?_ rfl hmoved.total, rfl, rfl, rfl,
    hmoved.limit, hmoved.cap, hmoved.bound⟩
  simp only [ledger, Ledger.refloor, AList.mapVal_insert, haccount]

/-! ## What frees and allocations do -/

theorem sumBy_blocks_erase {id : Nat} {b : GpuBlock}
    (h : w.blocks.lookup id = some b) :
    ((w.blocks.erase id).sumBy fun _ b => ((round256 b.bytes).toNat : Int)) =
      w.ledger.outstanding + -(round256 b.bytes).toNat := by
  have hsum := AList.sumBy_erase
    (f := fun _ b => ((round256 (GpuBlock.bytes b)).toNat : Int)) h
  show _ = (w.blocks.sumBy fun _ b => ((round256 b.bytes).toNat : Int)) + _
  omega

theorem next_deallocate_untracked (hf : w.Funded) {id : Nat} {b : GpuBlock}
    {s : Stream} (h : w.blocks.lookup id = some b)
    (hs : w.res.streamStatsMap.lookup s = none) :
    w.Becomes (w.next (.deallocate id s))
      (w.ledger.drawLoose (-(round256 b.bytes).toNat))
      w.res.streamStatsMap (w.blocks.erase id) w.nextId := by
  have hmoved := deallocate_moved (hf.block_le h)
  simp only [next, h, GpuResource.doDeallocate, hs]
  exact ⟨Ledger.ext rfl (sumBy_blocks_erase h) hmoved.total, rfl, rfl, rfl,
    hmoved.limit, hmoved.cap, hmoved.bound⟩

theorem next_deallocate_tracked (hb : w.Bounded) {id : Nat} {b : GpuBlock}
    {s : Stream} {st : StreamOrderedTrackerState} {a : DeviceReservedArena}
    (h : w.blocks.lookup id = some b)
    (hs : w.res.streamStatsMap.lookup s = some st)
    (ha : w.res.arenas.lookup st.memoryReservation = some a) :
    w.Becomes (w.next (.deallocate id s))
      ((w.ledger.draw st.memoryReservation a.account
          (-(round256 b.bytes).toNat)).leak
        (straddleError a.account (round256 b.bytes).toNat))
      w.res.streamStatsMap (w.blocks.erase id) w.nextId := by
  have hn := round256_le (hb.blocks _ _ h)
  have hle := hb.funded.block_le h
  have hlo := hb.used_ge ha
  have hsize := hb.funded.size ha
  rcases hd : w.res.mr.doDeallocateTracked a b.bytes with ⟨mr, a'⟩
  obtain ⟨haccount, hmoved⟩ := deallocateTracked_cases (by omega) hle
    (by omega) hd
  simp only [next, h, GpuResource.doDeallocate, hs, ha, hd]
  refine ⟨Ledger.ext ?_ (sumBy_blocks_erase h) ?_, rfl, rfl, rfl, hmoved.limit,
    hmoved.cap, hmoved.bound⟩
  · simp only [ledger, Ledger.draw, Ledger.leak, AList.mapVal_insert, haccount]
  · simp only [ledger, Ledger.draw, Ledger.leak, hmoved.total, Int.add_assoc]

theorem WF.lookup_next (hw : w.WF) : w.blocks.lookup w.nextId = none :=
  AList.lookup_eq_none.mpr fun hmem => Nat.lt_irrefl _ (hw.blockIds hmem)

theorem WF.account_next (hw : w.WF) :
    w.ledger.accounts.lookup w.nextId = none :=
  AList.lookup_eq_none.mpr fun hmem => Nat.lt_irrefl _ (hw.arenaIds hmem)

theorem sumBy_blocks_insert (hw : w.WF) (b : GpuBlock) :
    ((w.blocks.insert w.nextId b).sumBy fun _ b =>
      ((round256 b.bytes).toNat : Int)) =
      w.ledger.outstanding + (round256 b.bytes).toNat := by
  rw [AList.sumBy_insert_new hw.lookup_next, Int.add_comm]
  rfl

/-- The blocks after a successful allocation. -/
def withBlock (w : GpuWorld) (bytes : UInt64) (s : Stream) : Table Nat GpuBlock :=
  w.blocks.insert w.nextId ⟨bytes, s, w.arenaOf s⟩

/-- On a stream without a reservation an allocation draws loosely or, where it
fails, leaks what it had charged at most. -/
theorem next_allocate_untracked (hw : w.WF) {bytes : UInt64} {s : Stream}
    {upstream : UpstreamResult}
    (hs : w.res.streamStatsMap.lookup s = none) :
    let n := (round256 bytes).toNat
    let w' := w.next (.allocate bytes s upstream)
    (w.Becomes w' (w.ledger.drawLoose n) w.res.streamStatsMap
        (w.withBlock bytes s) (w.nextId + 1) ∧ ∃ ptr, upstream = .ok ptr) ∨
    (w.Becomes w' w.ledger w.res.streamStatsMap w.blocks w.nextId ∧
      (upstream = .error .other →
        w.res.mr.capacity.toNat < w.res.mr.totalAllocatedBytes.toNat + n)) ∨
    (w.Becomes w' (w.ledger.leak n) w.res.streamStatsMap w.blocks w.nextId ∧
      upstream = .error .other ∧
      w.res.mr.totalAllocatedBytes.toNat + n ≤ w.res.mr.capacity.toNat) := by
  rcases h : w.res.mr.doAllocateManaged w.res.defaultOomPolicy bytes upstream
    with ⟨mr, res⟩
  simp only [next, GpuResource.doAllocate, hs, h]
  rcases allocateManaged_cases h with ⟨⟨ptr, rfl, hup⟩, hmoved⟩ |
    ⟨⟨e, rfl⟩, hmoved, hwhy⟩ | ⟨⟨e, rfl⟩, hmoved, hwhy⟩
  · exact Or.inl ⟨⟨Ledger.ext rfl (sumBy_blocks_insert hw _) hmoved.total, rfl,
      rfl, rfl, hmoved.limit, hmoved.cap, hmoved.bound⟩, ptr, hup⟩
  · have htotal := hmoved.total
    rw [Int.add_zero] at htotal
    exact Or.inr (Or.inl ⟨⟨Ledger.ext rfl rfl htotal, rfl, rfl, rfl,
      hmoved.limit, hmoved.cap, hmoved.bound⟩, hwhy⟩)
  · exact Or.inr (Or.inr ⟨⟨Ledger.ext rfl rfl hmoved.total, rfl, rfl, rfl,
      hmoved.limit, hmoved.cap, hmoved.bound⟩, hwhy⟩)

/-- On a stream with one it first grows the reservation by `g` and then draws on
the grown account while paying `k`, the price of a draw on the old one. -/
theorem next_allocate_tracked (hw : w.WF) (hb : w.Bounded) {bytes : UInt64}
    {s : Stream} {upstream : UpstreamResult} {st : StreamOrderedTrackerState}
    {a : DeviceReservedArena} (hbytes : bytes.toNat < 2 ^ 62)
    (hs : w.res.streamStatsMap.lookup s = some st)
    (ha : w.res.arenas.lookup st.memoryReservation = some a)
    (hfit : w.Fits (.allocate bytes s upstream)) :
    let n : Int := (round256 bytes).toNat
    let w' := w.next (.allocate bytes s upstream)
    let cost := (a.account.draw n).charge - a.account.charge
    ∃ g : Nat,
      let a' := a.account.withFloor (a.size.toInt + g)
      let l := w.grownLedger st.memoryReservation a g
      (ReservationLimitPolicy.Lenient st.reservationPolicy → g = 0) ∧
      ((w.Becomes w' ((l.draw st.memoryReservation a' n).leak
            (cost - ((a'.draw n).charge - a'.charge)))
          w.res.streamStatsMap (w.withBlock bytes s) (w.nextId + 1) ∧
          ∃ ptr, upstream = .ok ptr) ∨
        (w.Becomes w' l w.res.streamStatsMap w.blocks w.nextId ∧
          (ReservationLimitPolicy.Lenient st.reservationPolicy →
            upstream = .error .other → w.res.mr.capacity.toNat <
              w.res.mr.totalAllocatedBytes.toNat + cost)) ∨
        (w.Becomes w' (l.leak cost) w.res.streamStatsMap w.blocks w.nextId ∧
          upstream = .error .other ∧ w.res.mr.totalAllocatedBytes.toNat + g +
            cost ≤ w.res.mr.capacity.toNat)) := by
  have hn := round256_le hbytes
  have hlo := hb.used_ge ha
  obtain ⟨hfit₁, hfit₂⟩ := hfit a (arenaAt_eq_some.mpr ⟨st, hs, ha⟩)
  rw [policyAt_eq hs] at hfit₂
  rcases h : w.res.mr.doAllocateTracked a st.reservationPolicy st.oomPolicy
    bytes upstream with ⟨⟨mr, a₁⟩, res⟩
  obtain ⟨g, k, hg, hmoved, hfloor, hout⟩ :=
    allocateTracked_cases (by omega) (hb.funded.size ha) (by omega) hfit₁ hfit₂ h
  have htotal := hmoved.total
  have hgrown : a₁.allocatedBytes.toInt = a.allocatedBytes.toInt →
      ((w.res.arenas.insert st.memoryReservation a₁).mapVal
        fun _ => DeviceReservedArena.account) =
      (w.grownLedger st.memoryReservation a g).accounts := by
    intro hused
    simp only [grownLedger, ledger, Ledger.refloor, Ledger.leak,
      AList.mapVal_insert, Account.withFloor, DeviceReservedArena.account,
      hfloor, hused]
  have hcharged : (w.grownLedger st.memoryReservation a g).charged =
      w.res.mr.totalAllocatedBytes.toNat + g := by
    simp only [grownLedger, ledger, Ledger.refloor, Ledger.leak]
    simp only [Account.withFloor]
    omega
  simp only [next, GpuResource.doAllocate, hs, ha, h]
  refine ⟨g, hg, ?_⟩
  rcases hout with ⟨⟨ptr, rfl, hup⟩, hk, hused⟩ |
    ⟨⟨e, rfl⟩, hused, ⟨rfl, hwhy⟩ | ⟨hk, hother, hcap⟩⟩
  · refine Or.inl ⟨⟨Ledger.ext ?_ (sumBy_blocks_insert hw _) ?_, rfl, rfl, rfl,
      hmoved.limit, hmoved.cap, hmoved.bound⟩, ptr, hup⟩
    · simp only [grownLedger, ledger, Ledger.refloor, Ledger.leak, Ledger.draw,
        AList.mapVal_insert, AList.insert_insert, Account.withFloor,
        Account.draw, DeviceReservedArena.account, hfloor, hused]
    · simp only [Ledger.leak, Ledger.draw, hcharged]
      show (mr.totalAllocatedBytes.toNat : Int) = _
      omega
  · refine Or.inr (Or.inl ⟨⟨Ledger.ext (hgrown hused) rfl ?_, rfl, rfl, rfl,
      hmoved.limit, hmoved.cap, hmoved.bound⟩, hwhy⟩)
    rw [hcharged]
    show (mr.totalAllocatedBytes.toNat : Int) = _
    omega
  · refine Or.inr (Or.inr ⟨⟨Ledger.ext (hgrown hused) rfl ?_, rfl, rfl, rfl,
      hmoved.limit, hmoved.cap, hmoved.bound⟩, hother, hcap⟩)
    simp only [Ledger.leak, hcharged]
    show (mr.totalAllocatedBytes.toNat : Int) = _
    omega

/-! ## All that a call can do -/

/-- The effects, call by call. Everything proved about runs goes through this
list. -/
inductive Effect (w w' : GpuWorld) : GpuOp → Prop
  | refused {bytes} :
      w.Becomes w' w.ledger w.res.streamStatsMap w.blocks (w.nextId + 1) →
      Effect w w' (.reserve bytes)
  | reserved {bytes} :
      w.Becomes w' (w.ledger.open' w.nextId bytes.toNat) w.res.streamStatsMap
        w.blocks (w.nextId + 1) →
      Effect w w' (.reserve bytes)
  | reservedUpto {bytes} (g : Nat) :
      w.Becomes w' (w.ledger.open' w.nextId g) w.res.streamStatsMap w.blocks
        (w.nextId + 1) →
      Effect w w' (.reserveUpto bytes)
  | destroyed {op p a} :
      (op = .destroy p ∨ ∃ s policy oom, op = .attach s p policy oom) →
      w.res.arenas.lookup p = some a → w.Unattached p →
      w.Becomes w'
        ((w.ledger.close p a.account).leak (max 0 (-a.allocatedBytes.toInt)))
        w.res.streamStatsMap w.blocks w.nextId →
      Effect w w' op
  | attached {s p policy oom} :
      w.res.streamStatsMap.lookup s = none → w.Unattached p →
      w.Becomes w' w.ledger (w.res.streamStatsMap.insert s ⟨p,
        some (policy.getD makeDefaultReservationLimitPolicy),
        oom.getD makeDefaultOomPolicy⟩) w.blocks w.nextId →
      Effect w w' (.attach s p policy oom)
  | notReset {s} : w' = w → Effect w w' (.resetStream s)
  | reset {s st a} :
      w.res.streamStatsMap.lookup s = some st →
      w.res.arenas.lookup st.memoryReservation = some a →
      w.Becomes w' ((w.ledger.close st.memoryReservation a.account).leak
          (max 0 (-a.allocatedBytes.toInt)))
        (w.res.streamStatsMap.erase s) w.blocks w.nextId →
      Effect w w' (.resetStream s)
  | grown {p bytes a} (g : Nat) :
      w.res.arenas.lookup p = some a →
      (g = bytes.toNat ∧ w.res.mr.totalAllocatedBytes.toNat + bytes.toNat ≤
          w.res.mr.memoryLimit.toNat ∨
        g = 0 ∧ w.res.mr.memoryLimit.toNat <
          w.res.mr.totalAllocatedBytes.toNat + bytes.toNat) →
      w.Becomes w' (w.grownLedger p a g) w.res.streamStatsMap w.blocks
        w.nextId →
      Effect w w' (.growBy p bytes)
  | shrunk {p a} (floor : Int) :
      w.res.arenas.lookup p = some a → 0 ≤ floor → floor ≤ a.size.toInt →
      w.Becomes w' (w.ledger.refloor p a.account floor) w.res.streamStatsMap
        w.blocks w.nextId →
      Effect w w' (.shrinkToFit p)
  | freedLoose {id b s} :
      w.blocks.lookup id = some b → w.res.streamStatsMap.lookup s = none →
      w.Becomes w' (w.ledger.drawLoose (-(round256 b.bytes).toNat))
        w.res.streamStatsMap (w.blocks.erase id) w.nextId →
      Effect w w' (.deallocate id s)
  | freed {id b s st a} :
      w.blocks.lookup id = some b →
      w.res.streamStatsMap.lookup s = some st →
      w.res.arenas.lookup st.memoryReservation = some a →
      w.Becomes w' ((w.ledger.draw st.memoryReservation a.account
            (-(round256 b.bytes).toNat)).leak
          (straddleError a.account (round256 b.bytes).toNat))
        w.res.streamStatsMap (w.blocks.erase id) w.nextId →
      Effect w w' (.deallocate id s)
  | drawnLoose {bytes s upstream} :
      w.res.streamStatsMap.lookup s = none → (∃ ptr, upstream = .ok ptr) →
      w.Becomes w' (w.ledger.drawLoose (round256 bytes).toNat)
        w.res.streamStatsMap (w.withBlock bytes s) (w.nextId + 1) →
      Effect w w' (.allocate bytes s upstream)
  | failedLoose {bytes s upstream} :
      w.res.streamStatsMap.lookup s = none →
      (upstream = .error .other → w.res.mr.capacity.toNat <
        w.res.mr.totalAllocatedBytes.toNat + (round256 bytes).toNat) →
      w.Becomes w' w.ledger w.res.streamStatsMap w.blocks w.nextId →
      Effect w w' (.allocate bytes s upstream)
  | leakedLoose {bytes s upstream} :
      w.res.streamStatsMap.lookup s = none → upstream = .error .other →
      w.res.mr.totalAllocatedBytes.toNat + (round256 bytes).toNat ≤
        w.res.mr.capacity.toNat →
      w.Becomes w' (w.ledger.leak (round256 bytes).toNat) w.res.streamStatsMap
        w.blocks w.nextId →
      Effect w w' (.allocate bytes s upstream)
  | drawn {bytes s upstream st a} (g : Nat) :
      w.res.streamStatsMap.lookup s = some st →
      w.res.arenas.lookup st.memoryReservation = some a →
      (ReservationLimitPolicy.Lenient st.reservationPolicy → g = 0) →
      (∃ ptr, upstream = .ok ptr) →
      (let n : Int := (round256 bytes).toNat
      let a' := a.account.withFloor (a.size.toInt + g)
      w.Becomes w' (((w.grownLedger st.memoryReservation a g).draw
            st.memoryReservation a' n).leak
          ((a.account.draw n).charge - a.account.charge -
            ((a'.draw n).charge - a'.charge)))
        w.res.streamStatsMap (w.withBlock bytes s) (w.nextId + 1)) →
      Effect w w' (.allocate bytes s upstream)
  | failed {bytes s upstream st a} (g : Nat) :
      w.res.streamStatsMap.lookup s = some st →
      w.res.arenas.lookup st.memoryReservation = some a →
      (ReservationLimitPolicy.Lenient st.reservationPolicy → g = 0) →
      (ReservationLimitPolicy.Lenient st.reservationPolicy →
        upstream = .error .other → w.res.mr.capacity.toNat <
          w.res.mr.totalAllocatedBytes.toNat +
            ((a.account.draw (round256 bytes).toNat).charge -
              a.account.charge)) →
      w.Becomes w' (w.grownLedger st.memoryReservation a g)
        w.res.streamStatsMap w.blocks w.nextId →
      Effect w w' (.allocate bytes s upstream)
  | leaked {bytes s upstream st a} (g : Nat) :
      w.res.streamStatsMap.lookup s = some st →
      w.res.arenas.lookup st.memoryReservation = some a →
      (ReservationLimitPolicy.Lenient st.reservationPolicy → g = 0) →
      upstream = .error .other →
      w.res.mr.totalAllocatedBytes.toNat + g +
        ((a.account.draw (round256 bytes).toNat).charge - a.account.charge) ≤
          w.res.mr.capacity.toNat →
      w.Becomes w' ((w.grownLedger st.memoryReservation a g).leak
          ((a.account.draw (round256 bytes).toNat).charge - a.account.charge))
        w.res.streamStatsMap w.blocks w.nextId →
      Effect w w' (.allocate bytes s upstream)

/-- The arena of a tracker is there. -/
theorem WF.tracked (hw : w.WF) {s : Stream} {st : StreamOrderedTrackerState}
    (h : w.res.streamStatsMap.lookup s = some st) :
    ∃ a, w.res.arenas.lookup st.memoryReservation = some a :=
  AList.exists_lookup (AList.mem_mapVal.mp (hw.attached h))

theorem effect_next (hw : w.WF) (hb : w.Bounded) {op : GpuOp}
    (hproper : w.Proper op) (hfit : w.Fits op) :
    Effect w (w.next op) op := by
  cases op with
  | reserve bytes =>
      have hsmall : bytes.toNat < 2 ^ 62 := hproper
      rcases @next_reserve w bytes (fun _ => by omega) with h | h
      · exact .reserved h
      · exact .refused h
  | reserveUpto bytes =>
      have hsmall : bytes.toNat < 2 ^ 62 := hproper
      obtain ⟨g, h⟩ := @next_reserveUpto w bytes (by omega)
      exact .reservedUpto g h
  | attach s p policy oom =>
      cases hs : w.res.streamStatsMap.lookup s with
      | none => exact .attached hs hproper (next_attach_untracked hs)
      | some st =>
          obtain ⟨a, ha⟩ := AList.exists_lookup hproper.1
          rw [next_attach_tracked hs]
          exact .destroyed (Or.inr ⟨s, policy, oom, rfl⟩) ha hproper
            (next_destroy hb.funded ha)
  | allocate bytes s upstream =>
      cases hs : w.res.streamStatsMap.lookup s with
      | none =>
          rcases next_allocate_untracked hw hs with
            ⟨h, hup⟩ | ⟨h, hwhy⟩ | ⟨h, hother, hcap⟩
          · exact .drawnLoose hs hup h
          · exact .failedLoose hs hwhy h
          · exact .leakedLoose hs hother hcap h
      | some st =>
          obtain ⟨a, ha⟩ := hw.tracked hs
          obtain ⟨g, hg, hout⟩ := next_allocate_tracked hw hb hproper hs ha hfit
          rcases hout with ⟨h, hup⟩ | ⟨h, hwhy⟩ | ⟨h, hother, hcap⟩
          · exact .drawn g hs ha hg hup h
          · exact .failed g hs ha hg hwhy h
          · exact .leaked g hs ha hg hother hcap h
  | deallocate id s =>
      obtain ⟨b, hblock⟩ := AList.exists_lookup hproper
      cases hs : w.res.streamStatsMap.lookup s with
      | none => exact .freedLoose hblock hs (next_deallocate_untracked hb.funded hblock hs)
      | some st =>
          obtain ⟨a, ha⟩ := hw.tracked hs
          exact .freed hblock hs ha (next_deallocate_tracked hb hblock hs ha)
  | growBy p bytes =>
      obtain ⟨a, ha⟩ := AList.exists_lookup hproper.1
      obtain ⟨g, hg, h⟩ := next_growBy hb.funded ha hfit
      exact .grown g ha hg h
  | shrinkToFit p =>
      obtain ⟨a, ha⟩ := AList.exists_lookup hproper
      obtain ⟨floor, hpos, hle, h⟩ := next_shrinkToFit hb.funded ha
      exact .shrunk floor ha hpos hle h
  | resetStream s =>
      cases hs : w.res.streamStatsMap.lookup s with
      | none => exact .notReset (next_resetStream_untracked hs)
      | some st =>
          obtain ⟨a, ha⟩ := hw.tracked hs
          exact .reset hs ha (next_resetStream_tracked hb.funded hs ha)
  | destroy p =>
      obtain ⟨a, ha⟩ := AList.exists_lookup hproper.1
      exact .destroyed (Or.inl rfl) ha hproper (next_destroy hb.funded ha)

/-! ## What every call keeps -/

section Names

variable {accounts : Table Addr (Account Int)}
  {trackers : Table Stream StreamOrderedTrackerState}
  {blocks : Table Nat GpuBlock} {nextId : Nat}

theorem Names.skip (h : Names accounts trackers blocks nextId) :
    Names accounts trackers blocks (nextId + 1) where
  attached := h.attached
  distinct := h.distinct
  arenaIds hp := Nat.lt_succ_of_lt (h.arenaIds hp)
  blockIds hid := Nat.lt_succ_of_lt (h.blockIds hid)
  blockArenas := h.blockArenas.mono fun _ _ hb p hp =>
    Nat.lt_succ_of_lt (hb p hp)

theorem Names.insert (h : Names accounts trackers blocks nextId) {p : Addr}
    (hp : p < nextId) (a : Account Int) :
    Names (accounts.insert p a) trackers blocks nextId where
  attached hs := AList.mem_insert _ |>.mpr (Or.inr (h.attached hs))
  distinct := h.distinct
  arenaIds hq := by
    rcases (AList.mem_insert _).mp hq with rfl | hq
    · exact hp
    · exact h.arenaIds hq
  blockIds := h.blockIds
  blockArenas := h.blockArenas

theorem Names.close (h : Names accounts trackers blocks nextId) {p : Addr}
    (hp : ∀ {s st}, trackers.lookup s = some st → st.memoryReservation ≠ p) :
    Names (accounts.erase p) trackers blocks nextId where
  attached hs := AList.mem_erase.mpr ⟨hp hs, h.attached hs⟩
  distinct := h.distinct
  arenaIds hq := h.arenaIds (AList.mem_erase.mp hq).2
  blockIds := h.blockIds
  blockArenas := h.blockArenas

theorem Names.detach (h : Names accounts trackers blocks nextId) (s : Stream) :
    Names accounts (trackers.erase s) blocks nextId where
  attached hs := h.attached (AList.lookup_of_lookup_erase hs).2
  distinct hs hs' := h.distinct (AList.lookup_of_lookup_erase hs).2
    (AList.lookup_of_lookup_erase hs').2
  arenaIds := h.arenaIds
  blockIds := h.blockIds
  blockArenas := h.blockArenas

theorem Names.attach (h : Names accounts trackers blocks nextId) {s : Stream}
    {st : StreamOrderedTrackerState} (hmem : st.memoryReservation ∈ accounts)
    (hp : ∀ {s' st'}, trackers.lookup s' = some st' →
      st'.memoryReservation ≠ st.memoryReservation) :
    Names accounts (trackers.insert s st) blocks nextId where
  attached {s'} st' hs := by
    by_cases hss : s' = s
    · subst hss
      rw [AList.lookup_insert, Option.some.injEq] at hs
      exact hs ▸ hmem
    · rw [AList.lookup_insert_ne hss] at hs
      exact h.attached hs
  distinct {s₁ s₂} st₁ st₂ h₁ h₂ heq := by
    by_cases hs₁ : s₁ = s <;> by_cases hs₂ : s₂ = s
    · rw [hs₁, hs₂]
    · subst hs₁
      rw [AList.lookup_insert, Option.some.injEq] at h₁
      rw [AList.lookup_insert_ne hs₂] at h₂
      exact absurd (h₁ ▸ heq.symm) (hp h₂)
    · subst hs₂
      rw [AList.lookup_insert, Option.some.injEq] at h₂
      rw [AList.lookup_insert_ne hs₁] at h₁
      exact absurd (h₂ ▸ heq) (hp h₁)
    · rw [AList.lookup_insert_ne hs₁] at h₁
      rw [AList.lookup_insert_ne hs₂] at h₂
      exact h.distinct h₁ h₂ heq
  arenaIds := h.arenaIds
  blockIds := h.blockIds
  blockArenas := h.blockArenas

theorem Names.free (h : Names accounts trackers blocks nextId) (id : Nat) :
    Names accounts trackers (blocks.erase id) nextId where
  attached := h.attached
  distinct := h.distinct
  arenaIds := h.arenaIds
  blockIds hid := h.blockIds (AList.mem_erase.mp hid).2
  blockArenas := h.blockArenas.erase

theorem Names.newBlock (h : Names accounts trackers blocks nextId) {b : GpuBlock}
    (hb : ∀ p, b.arena = some p → p < nextId) :
    Names accounts trackers (blocks.insert nextId b) (nextId + 1) where
  attached := h.attached
  distinct := h.distinct
  arenaIds hp := Nat.lt_succ_of_lt (h.arenaIds hp)
  blockIds hid := by
    rcases (AList.mem_insert _).mp hid with rfl | hid
    · exact Nat.lt_succ_self _
    · exact Nat.lt_succ_of_lt (h.blockIds hid)
  blockArenas := h.skip.blockArenas.insert fun p hp => Nat.lt_succ_of_lt (hb p hp)

end Names

theorem Becomes.wf {w' : GpuWorld} {l : Ledger Addr Int}
    {trackers : Table Stream StreamOrderedTrackerState}
    {blocks : Table Nat GpuBlock} {nextId : Nat}
    (h : w.Becomes w' l trackers blocks nextId)
    (hn : Names l.accounts trackers blocks nextId) : w'.WF := by
  unfold WF
  rw [h.ledger, h.trackers, h.blocks, h.nextId]
  exact hn

theorem arenaOf_lt (hw : w.WF) {s : Stream} {p : Addr}
    (h : w.arenaOf s = some p) : p < w.nextId := by
  obtain ⟨st, hs, rfl⟩ := Option.map_eq_some_iff.mp h
  exact hw.arenaIds (hw.attached hs)

theorem Unattached.ne (hun : w.Unattached p) {s : Stream}
    {st : StreamOrderedTrackerState}
    (hs : w.res.streamStatsMap.lookup s = some st) :
    st.memoryReservation ≠ p :=
  hun.2 ⟨s, st⟩ (AList.mem_entries_iff.mpr hs)

theorem WF.mem_lt (hw : w.WF) {p : Addr} (h : p ∈ w.res.arenas) :
    p < w.nextId :=
  hw.arenaIds (AList.mem_mapVal.mpr h)

theorem wf_next {w' : GpuWorld} {op : GpuOp} (hw : w.WF)
    (h : Effect w w' op) : w'.WF := by
  cases h with
  | refused h => exact h.wf hw.skip
  | reserved h => exact h.wf (hw.skip.insert (Nat.lt_succ_self _) _)
  | reservedUpto g h => exact h.wf (hw.skip.insert (Nat.lt_succ_self _) _)
  | destroyed _ _ hun h => exact h.wf (Names.close hw fun hs => hun.ne hs)
  | attached hs hun h =>
      exact h.wf (Names.attach hw (AList.mem_mapVal.mpr hun.1)
        fun hs' => hun.ne hs')
  | notReset h => exact h ▸ hw
  | @reset s st a hs ha h =>
      refine h.wf (Names.close (Names.detach hw s) fun hs' heq => ?_)
      obtain ⟨hne, hs'⟩ := AList.lookup_of_lookup_erase hs'
      exact hne (hw.distinct hs' hs heq)
  | grown g ha _ h =>
      exact h.wf (Names.insert hw (hw.mem_lt (AList.mem_of_lookup ha)) _)
  | shrunk floor ha _ _ h =>
      exact h.wf (Names.insert hw (hw.mem_lt (AList.mem_of_lookup ha)) _)
  | freedLoose _ _ h => exact h.wf (Names.free hw _)
  | freed _ _ ha h =>
      exact h.wf (Names.free
        (Names.insert hw (hw.mem_lt (AList.mem_of_lookup ha)) _) _)
  | drawnLoose _ _ h =>
      exact h.wf (Names.newBlock hw fun p hp => arenaOf_lt hw hp)
  | failedLoose _ _ h => exact h.wf hw
  | leakedLoose _ _ _ h => exact h.wf hw
  | drawn g _ ha _ _ h =>
      have hlt := hw.mem_lt (AList.mem_of_lookup ha)
      exact h.wf (Names.newBlock (Names.insert (Names.insert hw hlt _) hlt _)
        fun p hp => arenaOf_lt hw hp)
  | failed g _ ha _ _ h =>
      exact h.wf (Names.insert hw (hw.mem_lt (AList.mem_of_lookup ha)) _)
  | leaked g _ ha _ _ _ h =>
      exact h.wf (Names.insert hw (hw.mem_lt (AList.mem_of_lookup ha)) _)

theorem Becomes.bounded {w' : GpuWorld} {l : Ledger Addr Int}
    {trackers : Table Stream StreamOrderedTrackerState}
    {blocks : Table Nat GpuBlock} {nextId : Nat}
    (h : w.Becomes w' l trackers blocks nextId) (hb : w.Bounded)
    (hslack : 0 ≤ w'.ledger.slack)
    (hfloors : w'.ledger.accounts.All fun _ a => 0 ≤ a.floor)
    (hblocks : blocks.All fun _ b => b.bytes.toNat < 2 ^ 62) : w'.Bounded where
  slack := hslack
  total := by
    have hbound := h.bound
    have htotal := hb.total
    rw [h.limit, h.cap]
    omega
  limit := h.limit ▸ hb.limit
  cap := h.cap ▸ hb.cap
  floors := hfloors
  blocks := h.blocks ▸ hblocks

/-- No call makes a reservation negative. -/
theorem floors_next {w' : GpuWorld} {op : GpuOp} (hf : w.Funded)
    (h : Effect w w' op) : w'.ledger.accounts.All fun _ a => 0 ≤ a.floor := by
  cases h with
  | refused h => exact h.ledger ▸ hf.floors
  | reserved h => exact h.ledger ▸ hf.floors.insert (Int.natCast_nonneg _)
  | reservedUpto g h => exact h.ledger ▸ hf.floors.insert (Int.natCast_nonneg _)
  | destroyed _ _ _ h => exact h.ledger ▸ hf.floors.erase
  | attached _ _ h => exact h.ledger ▸ hf.floors
  | notReset h => exact h ▸ hf.floors
  | reset _ _ h => exact h.ledger ▸ hf.floors.erase
  | grown g ha _ h =>
      have hsize := hf.size ha
      exact h.ledger ▸ hf.floors.insert (show (0 : Int) ≤ _ + _ by omega)
  | shrunk floor ha hpos _ h => exact h.ledger ▸ hf.floors.insert hpos
  | freedLoose _ _ h => exact h.ledger ▸ hf.floors
  | freed _ _ ha h => exact h.ledger ▸ hf.floors.insert (hf.size ha)
  | drawnLoose _ _ h => exact h.ledger ▸ hf.floors
  | failedLoose _ _ h => exact h.ledger ▸ hf.floors
  | leakedLoose _ _ _ h => exact h.ledger ▸ hf.floors
  | drawn g _ ha _ _ h =>
      have hsize := hf.size ha
      exact h.ledger ▸ (hf.floors.insert (show (0 : Int) ≤ _ + _ by omega)).insert
        (show (0 : Int) ≤ _ + _ by omega)
  | failed g _ ha _ _ h =>
      have hsize := hf.size ha
      exact h.ledger ▸ hf.floors.insert (show (0 : Int) ≤ _ + _ by omega)
  | leaked g _ ha _ _ _ h =>
      have hsize := hf.size ha
      exact h.ledger ▸ hf.floors.insert (show (0 : Int) ≤ _ + _ by omega)

/-- The bounds survive every call that does not overdraw the ledger. -/
theorem bounded_next {w' : GpuWorld} {op : GpuOp} (hb : w.Bounded)
    (hproper : w.Proper op) (h : Effect w w' op)
    (hslack : 0 ≤ w'.ledger.slack) : w'.Bounded := by
  have hfloors := floors_next hb.funded h
  cases h with
  | refused h => exact h.bounded hb hslack hfloors hb.blocks
  | reserved h => exact h.bounded hb hslack hfloors hb.blocks
  | reservedUpto g h => exact h.bounded hb hslack hfloors hb.blocks
  | destroyed _ _ _ h => exact h.bounded hb hslack hfloors hb.blocks
  | attached _ _ h => exact h.bounded hb hslack hfloors hb.blocks
  | notReset h => exact h ▸ hb
  | reset _ _ h => exact h.bounded hb hslack hfloors hb.blocks
  | grown g _ _ h => exact h.bounded hb hslack hfloors hb.blocks
  | shrunk floor _ _ _ h => exact h.bounded hb hslack hfloors hb.blocks
  | freedLoose _ _ h => exact h.bounded hb hslack hfloors hb.blocks.erase
  | freed _ _ _ h => exact h.bounded hb hslack hfloors hb.blocks.erase
  | drawnLoose _ _ h => exact h.bounded hb hslack hfloors (hb.blocks.insert hproper)
  | failedLoose _ _ h => exact h.bounded hb hslack hfloors hb.blocks
  | leakedLoose _ _ _ h => exact h.bounded hb hslack hfloors hb.blocks
  | drawn g _ _ _ _ h => exact h.bounded hb hslack hfloors (hb.blocks.insert hproper)
  | failed g _ _ _ _ h => exact h.bounded hb hslack hfloors hb.blocks
  | leaked g _ _ _ _ _ h => exact h.bounded hb hslack hfloors hb.blocks

end Calls

end GpuWorld

end CuCascade.Memory

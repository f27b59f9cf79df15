import CuCascade.Memory.GpuResource
import CuCascade.Proofs.AdaptorSpec

/-!
# What the increase policy does in the middle of an allocation

The policy takes bytes from the limiter and moves the boundary of the
reservation, and it does so between two steps of an allocation that do not look
back. The step before has read the old boundary, so the bytes beyond it are
charged although the policy has paid for them. The step after may fail, and
its clean-up knows of the bytes it took and not of those the policy took.

Both are stated of any state at all, reachable or not. So nothing here assumes
that sizes are small, and the arithmetic is that of the machine.
-/

namespace CuCascade.Memory

open Utils

/-- `try_add` finds no room in the reservation for `n` more bytes. -/
def DeviceReservedArena.exceeded (arena : DeviceReservedArena) (n : UInt64) : Bool :=
  !(tryAdd arena.allocatedBytes n.toInt64 arena.size).1

/-- The request lies inside the reservation: there is room for it, and it brings
`allocated_bytes` to no more than the size. -/
def DeviceReservedArena.Fits (arena : DeviceReservedArena) (n : UInt64) : Prop :=
  arena.exceeded n = false ∧ arena.allocatedBytes + n.toInt64 ≤ arena.size

instance (arena : DeviceReservedArena) (n : UInt64) : Decidable (arena.Fits n) :=
  inferInstanceAs (Decidable (_ ∧ _))

theorem exceeded_iff {arena : DeviceReservedArena} {n : UInt64} :
    arena.exceeded n = true ↔ arena.size < arena.allocatedBytes ∨
      arena.size - arena.allocatedBytes < n.toInt64 := by
  unfold DeviceReservedArena.exceeded tryAdd
  split
  · next hor => exact iff_of_true rfl hor
  · next hroom => exact iff_of_false Bool.false_ne_true hroom

namespace Adaptor

/-- The limit leaves room for `n` more bytes. -/
def HasRoom (mr : Adaptor) (n : UInt64) : Prop :=
  mr.totalAllocatedBytes.toNat + n.toNat ≤ mr.memoryLimit.toNat

instance (mr : Adaptor) (n : UInt64) : Decidable (mr.HasRoom n) :=
  inferInstanceAs (Decidable (_ ≤ _))

/-- How much a policy grows the arena by for an allocation of `n`: if the
reservation is exceeded, the padded amount or else the exact one, whichever the
limit has room for first. -/
def policyGrowth (mr : Adaptor) (arena : DeviceReservedArena) (n : UInt64) :
    Option ReservationLimitPolicy → UInt64
  | some (.increase padded) =>
      let extra := arena.extraSpaceNeeded n
      if arena.exceeded n = false then 0
      else if mr.HasRoom (padded extra) then padded extra
      else if mr.HasRoom extra then extra
      else 0
  | _ => 0

/-- `mr'` is `mr` with `g` more bytes reserved. -/
structure Enlarged (mr mr' : Adaptor) (g : UInt64) : Prop where
  total : mr'.totalAllocatedBytes = mr.totalAllocatedBytes + g
  reserved : mr'.totalReservedBytes = mr.totalReservedBytes + g
  exact : mr'.totalAllocatedBytes.toNat = mr.totalAllocatedBytes.toNat + g.toNat

section

variable {mr mr' : Adaptor} {arena arena' : DeviceReservedArena} {n g : UInt64}

theorem Enlarged.refl (mr : Adaptor) : mr.Enlarged mr 0 :=
  ⟨(UInt64.add_zero _).symm, (UInt64.add_zero _).symm, rfl⟩

theorem grow_of_room (arena : DeviceReservedArena) (h : mr.HasRoom n) : ∃ mr',
    mr.growReservationBy arena n =
      (true, mr', { arena with size := arena.size + n.toInt64 }) ∧
    mr.Enlarged mr' n := by
  unfold growReservationBy doReserve
  rw [tryAdd_of_le h]
  exact ⟨_, rfl, rfl, rfl, toNat_add_of_le h⟩

theorem grow_of_full (h : ¬ mr.HasRoom n) :
    mr.growReservationBy arena n = (false, mr, arena) := by
  unfold growReservationBy doReserve
  rw [tryAdd_of_lt (Nat.lt_of_not_le h)]

/-- A policy takes the growth, and throws only if it has taken nothing. -/
theorem handleOver_growth {policy : ReservationLimitPolicy}
    {res : Except Failure Unit} (hover : arena.exceeded n = true)
    (h : policy.handleOverReservation mr n arena.allocatedBytes.toUInt64 arena =
      ((mr', arena'), res)) :
    ∃ g, g = mr.policyGrowth arena n (some policy) ∧ mr.Enlarged mr' g ∧
      arena'.size = arena.size + g.toInt64 ∧
      arena'.allocatedBytes = arena.allocatedBytes ∧
      ((∃ e, res = .error (.thrown e)) ∧ g = 0 ∨ res = .ok ()) := by
  have hzero : arena.size + (0 : UInt64).toInt64 = arena.size := Int64.add_zero _
  cases policy with
  | ignore =>
      cases h
      exact ⟨0, rfl, .refl mr, hzero.symm, rfl, .inr rfl⟩
  | fail =>
      cases h
      exact ⟨0, rfl, .refl mr, hzero.symm, rfl, .inl ⟨⟨_, rfl⟩, rfl⟩⟩
  | increase padded =>
      simp only [policyGrowth, hover, Bool.true_eq_false, if_false]
      simp only [ReservationLimitPolicy.handleOverReservation, increaseReservation,
        extraSpaceNeeded_eq] at h
      split
      · next hroom =>
          obtain ⟨mr₁, heq, hlarge⟩ := grow_of_room arena hroom
          rw [heq] at h
          cases h
          exact ⟨_, rfl, hlarge, rfl, rfl, .inr rfl⟩
      · next hfull =>
          rw [grow_of_full hfull] at h
          split
          · next hroom =>
              obtain ⟨mr₁, heq, hlarge⟩ := grow_of_room arena hroom
              simp only [heq] at h
              cases h
              exact ⟨_, rfl, hlarge, rfl, rfl, .inr rfl⟩
          · next hfull' =>
              simp only [grow_of_full hfull'] at h
              cases h
              exact ⟨0, rfl, .refl mr, hzero.symm, rfl, .inl ⟨⟨_, rfl⟩, rfl⟩⟩

/-- The check takes the growth of the policy, and the `n` bytes unless it
throws. What it asks to be charged is split at the boundary as it was. -/
theorem check_growth {policy : Option ReservationLimitPolicy}
    {res : Except Failure UInt64}
    (h : mr.checkReservationAndHandleOverflow arena policy n =
      ((mr', arena'), res)) :
    ∃ g, g = mr.policyGrowth arena n policy ∧ mr.Enlarged mr' g ∧
      arena'.size = arena.size + g.toInt64 ∧
      ((∃ e, res = .error (.thrown e)) ∧ g = 0 ∧
          arena'.allocatedBytes = arena.allocatedBytes ∨
        res = .ok (upstreamTrackingSize n arena.size
            (arena.allocatedBytes + n.toInt64)) ∧
          arena'.allocatedBytes = arena.allocatedBytes + n.toInt64) := by
  have hzero : arena.size + (0 : UInt64).toInt64 = arena.size := Int64.add_zero _
  rcases htry : tryAdd arena.allocatedBytes n.toInt64 arena.size with ⟨done, post⟩
  simp only [checkReservationAndHandleOverflow, htry] at h
  cases done with
  | true =>
      have hpost := post_of_added htry
      have hover : arena.exceeded n = false := by
        simp only [DeviceReservedArena.exceeded, htry, Bool.not_true]
      have hg : mr.policyGrowth arena n policy = 0 := by
        unfold policyGrowth
        split
        · simp only [hover, if_true]
        · rfl
      subst hpost
      cases h
      exact ⟨0, hg.symm, .refl mr, hzero.symm, .inr ⟨rfl, rfl⟩⟩
  | false =>
      have hpost := post_of_refused htry
      have hover : arena.exceeded n = true := by
        simp only [DeviceReservedArena.exceeded, htry, Bool.not_false]
      subst hpost
      dsimp only at h
      cases policy with
      | none =>
          cases h
          exact ⟨0, rfl, .refl mr, hzero.symm, .inr ⟨rfl, rfl⟩⟩
      | some policy =>
          dsimp only at h
          rcases hp : policy.handleOverReservation mr n
            arena.allocatedBytes.toUInt64 arena with ⟨⟨mr₁, arena₁⟩, res₁⟩
          rw [hp] at h
          obtain ⟨g, hg, hlarge, hsize, hused, ⟨⟨e, rfl⟩, hnone⟩ | rfl⟩ :=
            handleOver_growth hover hp
          · cases h
            exact ⟨g, hg, hlarge, hsize, .inl ⟨⟨e, rfl⟩, hnone, hused⟩⟩
          · dsimp only at h
            rw [hused] at h
            cases h
            exact ⟨g, hg, hlarge, hsize, .inr ⟨rfl, rfl⟩⟩

/-- An increase policy that the limit leaves no room for refuses. -/
theorem allocateTracked_refused {padded : UInt64 → UInt64} {oom : OomHandlingPolicy}
    {bytes : UInt64} {upstream : UpstreamResult}
    (hover : arena.exceeded (round256 bytes) = true)
    (hpadded : ¬ mr.HasRoom (padded (arena.extraSpaceNeeded (round256 bytes))))
    (hextra : ¬ mr.HasRoom (arena.extraSpaceNeeded (round256 bytes))) :
    ∃ e, (mr.doAllocateTracked arena (some (.increase padded)) oom bytes upstream).2 =
      .error e := by
  have htry : tryAdd arena.allocatedBytes (round256 bytes).toInt64 arena.size =
      (false, arena.allocatedBytes) := if_pos (exceeded_iff.mp hover)
  simp only [doAllocateTracked, checkReservationAndHandleOverflow, htry,
    ReservationLimitPolicy.handleOverReservation, increaseReservation,
    extraSpaceNeeded_eq, grow_of_full hpadded, grow_of_full hextra]
  exact ⟨_, rfl⟩

/-- Without a block the total is what it was, if what the upstream threw is a
`std::exception`. -/
theorem unmanaged_failed {bytes c : UInt64} {upstream : UpstreamResult} {e : Exception}
    (hup : ∀ e, upstream = .error e → e.what?.isSome)
    (h : mr.doAllocateUnmanaged bytes c upstream = (mr', .error e)) :
    mr'.totalAllocatedBytes = mr.totalAllocatedBytes ∧
      mr'.totalReservedBytes = mr.totalReservedBytes := by
  unfold doAllocateUnmanaged at h
  split at h
  · next post htry =>
      have hpost := post_of_added htry
      subst hpost
      cases upstream with
      | ok ptr => cases h
      | error e =>
          obtain ⟨what, hwhat⟩ := Option.isSome_iff_exists.mp (hup e rfl)
          simp only [hwhat] at h
          cases h
          exact ⟨UInt64.add_sub_cancel _ _, rfl⟩
  · cases h
    exact ⟨rfl, rfl⟩

/-- A block that is handed out is charged in full. -/
theorem unmanaged_granted {bytes c : UInt64} {upstream : UpstreamResult} {ptr : Addr}
    (h : mr.doAllocateUnmanaged bytes c upstream = (mr', .ok ptr)) :
    mr'.totalAllocatedBytes = mr.totalAllocatedBytes + c ∧
      mr'.totalAllocatedBytes.toNat = mr.totalAllocatedBytes.toNat + c.toNat := by
  unfold doAllocateUnmanaged at h
  rcases Nat.lt_or_ge mr.capacity.toNat
    (mr.totalAllocatedBytes.toNat + c.toNat) with hfull | hroom
  · rw [tryAdd_of_lt hfull] at h
    cases h
  · rw [tryAdd_of_le hroom] at h
    cases upstream with
    | ok ptr =>
        cases h
        exact ⟨rfl, toNat_add_of_le hroom⟩
    | error e =>
        dsimp only at h
        split at h <;> cases h

variable {policy : Option ReservationLimitPolicy} {oom : OomHandlingPolicy}
  {bytes : UInt64} {upstream : UpstreamResult}

/-- A tracked allocation is the growth of the policy and then either the refusal
of the policy or the charge on the total. -/
theorem allocateTracked_cases {out : Except Failure Addr}
    (h : mr.doAllocateTracked arena policy oom bytes upstream =
      ((mr', arena'), out)) :
    ∃ g mr₁, g = mr.policyGrowth arena (round256 bytes) policy ∧
      mr.Enlarged mr₁ g ∧ arena'.size = arena.size + g.toInt64 ∧
      ((∃ e, out = .error e ∧ mr' = mr₁ ∧
          arena'.allocatedBytes = arena.allocatedBytes) ∨
        ∃ res, mr₁.doAllocateUnmanaged bytes (upstreamTrackingSize (round256 bytes)
            arena.size (arena.allocatedBytes + (round256 bytes).toInt64)) upstream =
            (mr', res) ∧ out = res.mapError .thrown ∧
          arena'.allocatedBytes = if out.isOk then
            arena.allocatedBytes + (round256 bytes).toInt64
          else arena.allocatedBytes) := by
  rcases hc : mr.checkReservationAndHandleOverflow arena policy
    (round256 bytes) with ⟨⟨mr₁, arena₁⟩, res₁⟩
  simp only [doAllocateTracked, hc, handleOom] at h
  obtain ⟨g, hg, hlarge, hsize, ⟨⟨e, rfl⟩, -, hused⟩ | ⟨rfl, hused⟩⟩ :=
    check_growth hc
  · cases h
    exact ⟨g, _, hg, hlarge, hsize, .inl ⟨_, rfl, rfl, hused⟩⟩
  · rcases hu : mr₁.doAllocateUnmanaged bytes (upstreamTrackingSize (round256 bytes)
      arena.size (arena.allocatedBytes + (round256 bytes).toInt64)) upstream
      with ⟨mr₂, ptr | e⟩ <;> simp only [hu] at h <;> cases h
    · refine ⟨g, mr₁, hg, hlarge, hsize, .inr ⟨_, hu, rfl, ?_⟩⟩
      show arena₁.allocatedBytes - _ = arena.allocatedBytes
      rw [hused]
      exact Int64.add_sub_cancel _ _
    · exact ⟨g, mr₁, hg, hlarge, hsize, .inr ⟨_, hu, rfl, hused⟩⟩

/-- An allocation that throws takes its own bytes back and leaves the growth. -/
theorem allocateTracked_failed {e : Failure}
    (hup : ∀ e, upstream = .error e → e.what?.isSome)
    (h : mr.doAllocateTracked arena policy oom bytes upstream =
      ((mr', arena'), .error e)) :
    ∃ g, g = mr.policyGrowth arena (round256 bytes) policy ∧
      mr'.totalAllocatedBytes = mr.totalAllocatedBytes + g ∧
      mr'.totalReservedBytes = mr.totalReservedBytes + g ∧
      arena'.size = arena.size + g.toInt64 ∧
      arena'.allocatedBytes = arena.allocatedBytes := by
  obtain ⟨g, mr₁, hg, hlarge, hsize, ⟨e, -, rfl, hused⟩ | ⟨res, hu, hout, hused⟩⟩ :=
    allocateTracked_cases h
  · exact ⟨g, hg, hlarge.total, hlarge.reserved, hsize, hused⟩
  · cases res with
    | ok ptr => cases hout
    | error e =>
        obtain ⟨htotal, hreserved⟩ := unmanaged_failed hup hu
        exact ⟨g, hg, htotal.trans hlarge.total, hreserved.trans hlarge.reserved,
          hsize, hused⟩

/-- One that returns a block has the growth and the charge on the total. -/
theorem allocateTracked_granted {ptr : Addr}
    (h : mr.doAllocateTracked arena policy oom bytes upstream =
      ((mr', arena'), .ok ptr)) :
    ∃ g c, g = mr.policyGrowth arena (round256 bytes) policy ∧
      c = upstreamTrackingSize (round256 bytes) arena.size
        (arena.allocatedBytes + (round256 bytes).toInt64) ∧
      mr'.totalAllocatedBytes.toNat =
        mr.totalAllocatedBytes.toNat + g.toNat + c.toNat ∧
      mr'.totalAllocatedBytes = mr.totalAllocatedBytes + g + c ∧
      arena'.size = arena.size + g.toInt64 ∧
      arena'.allocatedBytes = arena.allocatedBytes + (round256 bytes).toInt64 := by
  obtain ⟨g, mr₁, hg, hlarge, hsize, ⟨e, hout, -⟩ | ⟨res, hu, hout, hused⟩⟩ :=
    allocateTracked_cases h
  · cases hout
  · cases res with
    | error e => cases hout
    | ok ptr =>
        obtain ⟨htotal, hexact⟩ := unmanaged_granted hu
        refine ⟨g, _, hg, rfl, ?_, ?_, hsize, hused⟩
        · rw [hexact, hlarge.exact]
        · rw [htotal, hlarge.total]

/-- An increase policy that lets a request pass has grown the arena by what the
request needs at least, if the reservation was exceeded, and else by nothing. -/
theorem policyGrowth_granted {padded : UInt64 → UInt64} {ptr : Addr}
    (hpad : ∀ x, x ≤ padded x)
    (h : mr.doAllocateTracked arena (some (.increase padded)) oom bytes upstream =
      ((mr', arena'), .ok ptr)) :
    let g := mr.policyGrowth arena (round256 bytes) (some (.increase padded))
    (arena.exceeded (round256 bytes) = true →
        arena.extraSpaceNeeded (round256 bytes) ≤ g) ∧
      (arena.exceeded (round256 bytes) = false → g = 0) := by
  refine ⟨fun hover => ?_, fun hin => ?_⟩
  · simp only [policyGrowth, hover, Bool.true_eq_false, if_false]
    by_cases hpadded : mr.HasRoom (padded (arena.extraSpaceNeeded (round256 bytes)))
    · rw [if_pos hpadded]
      exact hpad _
    · rw [if_neg hpadded]
      by_cases hextra : mr.HasRoom (arena.extraSpaceNeeded (round256 bytes))
      · rw [if_pos hextra]
        exact UInt64.le_refl _
      · obtain ⟨e, he⟩ := allocateTracked_refused hover hpadded hextra
        rw [h] at he
        cases he
  · simp only [policyGrowth, if_pos hin]

end

end Adaptor

namespace GpuResource

variable {r r' : GpuResource} {bytes : UInt64} {stream : Stream}
  {upstream : UpstreamResult}

/-- What `allocate` makes the policy of the stream take for its arena. -/
def policyGrowth (r : GpuResource) (bytes : UInt64) (stream : Stream) : UInt64 :=
  match r.streamStatsMap.lookup stream with
  | none => 0
  | some state =>
      match r.arenas.lookup state.memoryReservation with
      | none => 0
      | some arena =>
          r.mr.policyGrowth arena (round256 bytes) state.reservationPolicy

/-! ## An allocation that throws -/

/-- Both totals and the two counters of each arena agree. -/
structure SameAccounts (r r' : GpuResource) : Prop where
  total : r'.mr.totalAllocatedBytes = r.mr.totalAllocatedBytes
  reserved : r'.mr.totalReservedBytes = r.mr.totalReservedBytes
  arenas : ∀ p,
    (r'.arenas.lookup p).map (fun arena => (arena.size, arena.allocatedBytes)) =
      (r.arenas.lookup p).map (fun arena => (arena.size, arena.allocatedBytes))

/-- An allocation that throws leaves the accounting as it was exactly if it has
not made the policy grow the reservation. -/
theorem failed_restores_iff {e : Exception}
    (hup : ∀ e, upstream = .error e → e.what?.isSome)
    (h : r.doAllocate bytes stream upstream = (r', .error (.thrown e))) :
    r.SameAccounts r' ↔ r.policyGrowth bytes stream = 0 := by
  unfold policyGrowth
  unfold doAllocate at h
  cases hs : r.streamStatsMap.lookup stream with
  | none =>
      simp only [hs, Adaptor.doAllocateManaged, Adaptor.handleOom] at h
      rcases hu : r.mr.doAllocateUnmanaged bytes (round256 bytes) upstream
        with ⟨mr, ptr | e⟩ <;> simp only [hu] at h <;> cases h
      obtain ⟨htotal, hreserved⟩ := Adaptor.unmanaged_failed hup hu
      exact iff_of_true ⟨htotal, hreserved, fun _ => rfl⟩ rfl
  | some state =>
      cases ha : r.arenas.lookup state.memoryReservation with
      | none =>
          simp only [hs, ha] at h
          cases h
      | some arena =>
          simp only [hs, ha] at h
          rcases ht : r.mr.doAllocateTracked arena state.reservationPolicy
            state.oomPolicy bytes upstream with ⟨⟨mr, arena'⟩, res⟩
          rw [ht] at h
          cases h
          obtain ⟨g, hg, htotal, hreserved, hsize, hused⟩ :=
            Adaptor.allocateTracked_failed hup ht
          simp only [ha, ← hg]
          constructor
          · intro hsame
            have hzero := hsame.total
            rw [htotal] at hzero
            exact UInt64.add_eq_left.mp hzero
          · rintro rfl
            have hkept : arena.size + (0 : UInt64).toInt64 = arena.size :=
              Int64.add_zero _
            refine ⟨htotal.trans (UInt64.add_zero _),
              hreserved.trans (UInt64.add_zero _), fun p => ?_⟩
            dsimp only
            by_cases hp : p = state.memoryReservation
            · subst hp
              rw [AList.lookup_insert, ha]
              simp only [Option.map_some, hsize, hused, hkept]
            · rw [AList.lookup_insert_ne hp]

/-- A stream whose reservation of 256 bytes may grow. -/
def growingDevice : GpuResource :=
  ((((fresh 4096 4096).reserve 0 256 none).2).attachReservationToTracker 7 0
    (some (.increase fun extra => extra)) none).2

/-- The policy asks for more than the limit and throws. -/
theorem failed_restores_refused :
    growingDevice.SameAccounts (growingDevice.doAllocate 8192 7 (.ok 0x100)).1 := by
  have hrefused : growingDevice.doAllocate 8192 7 (.ok 0x100) =
      ((growingDevice.doAllocate 8192 7 (.ok 0x100)).1,
        .error (.thrown (.outOfMemory
          "Failed to increase stream reservation from 256 to 7936 bytes"))) := rfl
  have hnone : growingDevice.policyGrowth 8192 7 = 0 := by decide
  refine (failed_restores_iff ?_ hrefused).mpr hnone
  intro e he
  cases he

/-- The policy grows the reservation by 256 bytes, then the upstream throws. -/
theorem growth_outlives_failure :
    ∃ r' e, growingDevice.doAllocate 512 7 (.error (.outOfMemory "upstream")) =
        (r', .error (.thrown e)) ∧ ¬ growingDevice.SameAccounts r' :=
  ⟨_, _, rfl, fun h => absurd h.total (by decide)⟩

/-! ## An allocation that returns a block -/

/-- The arena covers what is allocated under it, the total has grown by what the
arena has come to cost, and freeing the block and releasing the reservation
leaves what releasing it would have left before. -/
structure ChargedOnce (r r' : GpuResource) (bytes : UInt64) (stream : Stream)
    (p : Addr) (arena : DeviceReservedArena) : Prop where
  covered : ∃ arena' ∈ r'.arenas.lookup p,
    arena'.allocatedBytes.toInt ≤ arena'.size.toInt ∧
    (r'.mr.totalAllocatedBytes.toNat : Int) - r.mr.totalAllocatedBytes.toNat =
      max arena'.size.toInt arena'.allocatedBytes.toInt -
        max arena.size.toInt arena.allocatedBytes.toInt
  returned :
    ((r'.doDeallocate bytes stream).1.destroyArena p).1.mr.totalAllocatedBytes =
      (r.destroyArena p).1.mr.totalAllocatedBytes

theorem used_le_of_fits {arena : DeviceReservedArena} {n : UInt64} (h : arena.Fits n) :
    arena.allocatedBytes.toInt ≤ arena.size.toInt := by
  have hroom := h.1
  unfold DeviceReservedArena.exceeded tryAdd at hroom
  split at hroom
  · cases hroom
  · next hor =>
      rw [not_or, Int64.not_lt, Int64.le_iff_toInt_le] at hor
      exact hor.1

/-- Inside the reservation nothing is charged. -/
theorem upstreamTrackingSize_inside {arena : DeviceReservedArena} {n : UInt64}
    (h : arena.Fits n) :
    upstreamTrackingSize n arena.size (arena.allocatedBytes + n.toInt64) = 0 := by
  have hbelow := used_le_of_fits h
  have hle := Int64.le_iff_toInt_le.mp h.2
  unfold upstreamTrackingSize
  rw [Int64.add_sub_cancel]
  dsimp only
  by_cases hin : arena.allocatedBytes + n.toInt64 < arena.size
  · rw [if_pos hin]
  · rw [if_neg hin]
    rw [Int64.lt_iff_toInt_lt] at hin
    have hend : arena.allocatedBytes + n.toInt64 = arena.size := by
      rw [← Int64.toInt_inj]
      omega
    split <;> rename_i hunder <;> rw [Int64.lt_iff_toInt_lt] at hunder
    · rw [hend, Int64.sub_self]
      rfl
    · have hfull : arena.allocatedBytes = arena.size := by
        rw [← Int64.toInt_inj]
        omega
      rw [hfull] at hend
      exact Word.toInt64_eq_zero_iff.mp (Int64.add_eq_left.mp hend)

section Exceeded

variable {arena : DeviceReservedArena} {n : UInt64} (hover : arena.exceeded n = true)

include hover

/-- An exceeded reservation is not just filled by the request. -/
theorem ne_size_of_exceeded (hle : arena.allocatedBytes.toInt ≤ arena.size.toInt) :
    arena.allocatedBytes + n.toInt64 ≠ arena.size := by
  intro heq
  have hroom : arena.size - arena.allocatedBytes = n.toInt64 := by
    rw [← heq, Int64.add_comm, Int64.add_sub_cancel]
  rw [exceeded_iff, hroom] at hover
  simp only [Int64.lt_iff_toInt_lt] at hover
  omega

/-- Nor can the addition wrap where the size is negative. -/
theorem size_lt_of_exceeded (hneg : arena.size.toInt < 0)
    (hle : arena.allocatedBytes.toInt ≤ arena.size.toInt) :
    arena.size.toInt < (arena.allocatedBytes + n.toInt64).toInt := by
  have hlo := arena.allocatedBytes.le_toInt
  have hn := n.toInt64.toInt_lt
  have hsub := Word.toInt_sub (a := arena.size) (b := arena.allocatedBytes)
    (by omega) (by omega)
  simp only [exceeded_iff, Int64.lt_iff_toInt_lt] at hover
  rw [Word.toInt_add (by omega) (by omega)]
  omega

/-- With the growth on the total the charge is too much, wherever the boundary
lies and whatever wraps. -/
theorem overcharged {g : UInt64} (hpad : arena.extraSpaceNeeded n ≤ g) :
    ¬ ((arena.allocatedBytes + n.toInt64).toInt ≤ (arena.size + g.toInt64).toInt ∧
      (g.toNat : Int) + (upstreamTrackingSize n arena.size
          (arena.allocatedBytes + n.toInt64)).toNat =
        max (arena.size + g.toInt64).toInt
          (arena.allocatedBytes + n.toInt64).toInt -
        max arena.size.toInt arena.allocatedBytes.toInt) := by
  rintro ⟨hle, heq⟩
  rw [max_eq_left hle] at heq
  obtain ⟨k, hk⟩ := Word.exists_toInt_add_toInt64 arena.size g
  have hlo := (arena.size + g.toInt64).le_toInt
  have hhi := (arena.size + g.toInt64).toInt_lt
  have hsize := arena.size.le_toInt
  have hused := arena.allocatedBytes.le_toInt
  have hused' := arena.allocatedBytes.toInt_lt
  unfold upstreamTrackingSize at heq
  rw [Int64.add_sub_cancel] at heq
  dsimp only at heq
  split at heq <;> rename_i hin <;> rw [Int64.lt_iff_toInt_lt] at hin
  · -- the new use has wrapped, and the growth that takes it for huge wraps the size
    have hzero : (0 : UInt64).toNat = 0 := rfl
    rcases Int.lt_or_le arena.size.toInt arena.allocatedBytes.toInt with
      habove | hbelow
    · omega
    · rcases Int.lt_or_le arena.size.toInt 0 with hneg | hpos
      · have hlt := size_lt_of_exceeded hover hneg hbelow
        omega
      · have hextra := UInt64.toNat_sub
          (arena.allocatedBytes.toUInt64 + n) (max 0 arena.size).toUInt64
        have hpost := Word.toNat_toUInt64_emod (arena.allocatedBytes + n.toInt64)
        have hreserved := Word.toNat_toUInt64_max arena.size
        have hpostLo := (arena.allocatedBytes + n.toInt64).le_toInt
        rw [Word.toUInt64_add_toInt64] at hpost
        rw [UInt64.le_iff_toNat_le, DeviceReservedArena.extraSpaceNeeded] at hpad
        omega
  · split at heq <;> rename_i hbelow <;> rw [Int64.lt_iff_toInt_lt] at hbelow
    · have hpostHi := (arena.allocatedBytes + n.toInt64).toInt_lt
      have hbeyond :=
        Word.toNat_toUInt64_sub_emod (arena.allocatedBytes + n.toInt64) arena.size
      refine ne_size_of_exceeded hover (by omega) ?_
      rw [← Int64.toInt_inj]
      omega
    · have hn := n.toNat_lt
      have hzero : n = 0 := by
        rw [← UInt64.toNat_inj, UInt64.toNat_zero]
        omega
      have hsame : arena.allocatedBytes = arena.size := by
        rw [← Int64.toInt_inj]
        omega
      refine ne_size_of_exceeded hover (by omega) ?_
      rw [hzero, hsame]
      exact Int64.add_zero _

end Exceeded

/-- A block inside the reservation comes back without a trace. -/
theorem deallocate_inside (mr : Adaptor) {arena arena' : DeviceReservedArena}
    (h : arena.Fits (round256 bytes)) (hsize : arena'.size = arena.size)
    (hused : arena'.allocatedBytes =
      arena.allocatedBytes + (round256 bytes).toInt64) :
    (mr.doDeallocateTracked arena' bytes).1.totalAllocatedBytes =
        mr.totalAllocatedBytes ∧
      (mr.doDeallocateTracked arena' bytes).2.size = arena.size ∧
      (mr.doDeallocateTracked arena' bytes).2.allocatedBytes =
        arena.allocatedBytes := by
  have hback : arena.allocatedBytes + (round256 bytes).toInt64 -
      (round256 bytes).toInt64 = arena.allocatedBytes := Int64.add_sub_cancel _ _
  simp only [Adaptor.doDeallocateTracked, Adaptor.upstreamReclaimedBytes, hsize, hused,
    hback, if_pos h.2, and_true]
  exact UInt64.sub_zero _

/-- What a release leaves depends on the total and on the two counters of the
arena. -/
theorem release_congr {mr mr' : Adaptor} {arena arena' : DeviceReservedArena}
    (htotal : mr'.totalAllocatedBytes = mr.totalAllocatedBytes)
    (hsize : arena'.size = arena.size)
    (hused : arena'.allocatedBytes = arena.allocatedBytes) :
    (mr'.doReleaseReservation arena').totalAllocatedBytes =
      (mr.doReleaseReservation arena).totalAllocatedBytes := by
  simp only [Adaptor.doReleaseReservation, htotal, hsize, hused]

/-- An allocation under an increase policy is charged once exactly if it lies
inside the reservation, so that the policy is not asked. -/
theorem chargedOnce_iff {state : StreamOrderedTrackerState}
    {arena : DeviceReservedArena} {padded : UInt64 → UInt64} {ptr : Addr}
    (hpad : ∀ x, x ≤ padded x) (hs : r.streamStatsMap.lookup stream = some state)
    (hpolicy : state.reservationPolicy = some (.increase padded))
    (ha : r.arenas.lookup state.memoryReservation = some arena)
    (h : r.doAllocate bytes stream upstream = (r', .ok ptr)) :
    ChargedOnce r r' bytes stream state.memoryReservation arena ↔
      arena.Fits (round256 bytes) := by
  simp only [doAllocate, hs, ha] at h
  rcases ht : r.mr.doAllocateTracked arena state.reservationPolicy
    state.oomPolicy bytes upstream with ⟨⟨mr, arena'⟩, res⟩
  rw [ht] at h
  cases h
  obtain ⟨g, c, hg, hc, hexact, htotal, hsize, hused⟩ :=
    Adaptor.allocateTracked_granted ht
  have hlookup := AList.lookup_insert (a := state.memoryReservation) (b := arena')
    r.arenas
  have hkept : arena.size + (0 : UInt64).toInt64 = arena.size := Int64.add_zero _
  rw [hpolicy] at ht hg
  obtain ⟨hextra, hnone⟩ := Adaptor.policyGrowth_granted hpad ht
  rw [← hg] at hextra hnone
  constructor
  · rintro ⟨⟨_, harena, hcovered⟩, -⟩
    rw [hlookup] at harena
    cases harena
    rw [hsize, hused] at hcovered
    obtain ⟨hle, hgrown⟩ := hcovered
    cases hover : arena.exceeded (round256 bytes) with
    | true =>
        refine absurd ⟨hle, ?_⟩ (overcharged hover (hextra hover))
        rw [← hgrown, ← hc]
        dsimp only
        omega
    | false =>
        rw [hnone hover] at hle
        refine ⟨hover, Int64.le_iff_toInt_le.mpr ?_⟩
        rwa [hkept] at hle
  · intro hfits
    have hzero := hnone hfits.1
    subst hzero
    rw [upstreamTrackingSize_inside hfits] at hc
    subst hc
    rw [hkept] at hsize
    have hbelow := Int64.le_iff_toInt_le.mp hfits.2
    obtain ⟨hfree, hfreeSize, hfreeUsed⟩ :=
      deallocate_inside mr hfits hsize hused
    refine ⟨⟨arena', hlookup, ?_, ?_⟩, ?_⟩
    · rw [hsize, hused]
      exact hbelow
    · have hused' := used_le_of_fits hfits
      rw [hsize, hused]
      dsimp only
      rw [UInt64.toNat_zero] at hexact
      omega
    · simp only [doDeallocate, hs, hlookup, destroyArena, AList.lookup_insert, ha]
      refine release_congr ?_ hfreeSize hfreeUsed
      rw [hfree, htotal, UInt64.add_zero, UInt64.add_zero]

theorem chargedOnce_inside :
    ChargedOnce growingDevice (growingDevice.doAllocate 200 7 (.ok 0x100)).1
      200 7 0 ⟨256, 0, 0, none⟩ := by
  have hfits : (⟨256, 0, 0, none⟩ : DeviceReservedArena).Fits (round256 200) := by decide
  have hgranted : growingDevice.doAllocate 200 7 (.ok 0x100) =
      ((growingDevice.doAllocate 200 7 (.ok 0x100)).1, .ok 0x100) := rfl
  exact (chargedOnce_iff (fun x => UInt64.le_refl x) rfl rfl rfl hgranted).mpr hfits

/-- Of 512 bytes half lie beyond the reservation. The policy pays for them, the
allocation pays again, and a quarter of a kilobyte stays charged in the end. -/
theorem charged_twice :
    ∃ arena ∈ growingDevice.arenas.lookup 0,
      (growingDevice.doAllocate 512 7 (.ok 0x100)).2 = .ok 0x100 ∧
      ¬ ChargedOnce growingDevice (growingDevice.doAllocate 512 7 (.ok 0x100)).1
        512 7 0 arena := by
  refine ⟨_, rfl, rfl, ?_⟩
  intro h
  exact absurd h.returned (by decide)

end GpuResource

end CuCascade.Memory

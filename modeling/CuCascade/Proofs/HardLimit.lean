import CuCascade.Proofs.GpuReports

/-!
# The fail policy is a hard limit

A stream under this policy never has more allocated than is reserved for it,
and therefore never costs the total anything: what is admitted lies inside the
reservation, which has been paid. Frees of any blocks take the counter down,
perhaps below zero; growing takes the size up; shrinking takes it down to the
counter and no further.

The invariant is about the arenas and who owns them. An arena keeps to its size
as long as no tracker with another policy has it, and a reservation comes to
its tracker with nothing allocated.
-/

namespace CuCascade.Memory

open Utils

/-! ## One allocation -/

namespace Adaptor

variable {mr mr' : Adaptor} {arena arena' : DeviceReservedArena} {n : UInt64}
  {oom : OomHandlingPolicy} {bytes : UInt64} {upstream : UpstreamResult}

/-- With nothing to charge the total stays, and what is thrown is not an
`rmm::out_of_memory` itself: the upstream's own arrives as another class. -/
theorem unmanaged_free {res : Except Exception Addr}
    (h : mr.doAllocateUnmanaged bytes 0 upstream = (mr', res)) :
    mr'.totalAllocatedBytes = mr.totalAllocatedBytes ∧
      ∀ what, res ≠ .error (.outOfMemory what) := by
  unfold doAllocateUnmanaged at h
  rcases htry : tryAdd mr.totalAllocatedBytes 0 mr.capacity with ⟨ok, post⟩
  rw [htry] at h
  cases ok with
  | false =>
      cases h
      exact ⟨rfl, fun what hres => by cases hres⟩
  | true =>
      have hpost : post = mr.totalAllocatedBytes := by
        rw [post_of_added htry, UInt64.add_zero]
      subst hpost
      cases upstream with
      | ok ptr =>
          cases h
          exact ⟨rfl, fun what hres => by cases hres⟩
      | error e =>
          dsimp only at h
          split at h <;> rename_i hwhat <;> cases h
          · exact ⟨UInt64.sub_zero _, fun what hres => by cases hres⟩
          · refine ⟨rfl, fun what hres => ?_⟩
            rw [what?_eq_none] at hwhat
            subst hwhat
            cases hres

theorem check_fail_within
    (hroom : arena.size.toInt - arena.allocatedBytes.toInt < 2 ^ 63)
    (hin : arena.allocatedBytes.toInt + n.toNat ≤ arena.size.toInt) :
    mr.checkReservationAndHandleOverflow arena (some .fail) n =
      ((mr, arena.tracked (arena.allocatedBytes + n.toInt64)), .ok 0) := by
  have hcast := Word.toInt_toInt64 (a := n) (by omega)
  have hfree := (charge_inside hin).2
  have htry : tryAdd arena.allocatedBytes n.toInt64 arena.size =
      (true, arena.allocatedBytes + n.toInt64) :=
    tryAdd_int_of_le (by omega) hroom (by omega)
  simp only [checkReservationAndHandleOverflow, htry, hfree]

theorem check_fail_beyond (mr : Adaptor) (hn : n.toNat < 2 ^ 63)
    (hroom : arena.size.toInt - arena.allocatedBytes.toInt < 2 ^ 63)
    (hover : arena.size.toInt < arena.allocatedBytes.toInt + n.toNat) :
    ∃ what, mr.checkReservationAndHandleOverflow arena (some .fail) n =
      ((mr, arena), .error (.thrown (.outOfMemory what))) := by
  have hcast := Word.toInt_toInt64 hn
  have htry : tryAdd arena.allocatedBytes n.toInt64 arena.size =
      (false, arena.allocatedBytes) := tryAdd_int_of_lt hroom (by omega)
  simp only [checkReservationAndHandleOverflow, htry,
    ReservationLimitPolicy.handleOverReservation]
  exact ⟨_, rfl⟩

/-- Inside the reservation an allocation is not refused by the policy and costs
the total nothing. -/
theorem tracked_fail_within {res : Except Failure Addr}
    (hroom : arena.size.toInt - arena.allocatedBytes.toInt < 2 ^ 63)
    (hin : arena.allocatedBytes.toInt + (round256 bytes).toNat ≤ arena.size.toInt)
    (h : mr.doAllocateTracked arena (some .fail) oom bytes upstream =
      ((mr', arena'), res)) :
    mr'.totalAllocatedBytes = mr.totalAllocatedBytes ∧
      arena'.allocatedBytes ≤ arena'.size ∧
      ∀ what, res ≠ .error (.thrown (.outOfMemory what)) := by
  have hsum := (charge_inside hin).1
  unfold doAllocateTracked at h
  rcases hu : mr.doAllocateUnmanaged bytes 0 upstream with ⟨mr₁, e | ptr⟩
  all_goals
    obtain ⟨htotal, hkind⟩ := unmanaged_free hu
    simp only [check_fail_within hroom hin, hu, handleOom] at h
    cases h
  · refine ⟨htotal, ?_, fun what hres => ?_⟩
    · show arena.allocatedBytes + (round256 bytes).toInt64 -
        (round256 bytes).toInt64 ≤ arena.size
      rw [Int64.add_sub_cancel, Int64.le_iff_toInt_le]
      omega
    · injection hres with hres
      injection hres with hres
      exact hkind what (congrArg Except.error hres)
  · refine ⟨htotal, ?_, fun what hres => by cases hres⟩
    show arena.allocatedBytes + (round256 bytes).toInt64 ≤ arena.size
    rw [Int64.le_iff_toInt_le, hsum]
    exact hin

/-- Beyond it the policy refuses, and nothing changes. -/
theorem tracked_fail_beyond (mr : Adaptor) (oom : OomHandlingPolicy)
    (upstream : UpstreamResult) (hn : (round256 bytes).toNat < 2 ^ 63)
    (hroom : arena.size.toInt - arena.allocatedBytes.toInt < 2 ^ 63)
    (hover : arena.size.toInt <
      arena.allocatedBytes.toInt + (round256 bytes).toNat) :
    ∃ what, mr.doAllocateTracked arena (some .fail) oom bytes upstream =
      ((mr, arena), .error (.thrown (.outOfMemory what))) := by
  obtain ⟨what, hcheck⟩ := check_fail_beyond mr hn hroom hover
  simp only [doAllocateTracked, hcheck]
  exact ⟨what, rfl⟩

/-! ## The other calls on an arena -/

theorem grow_keeps {grown : Bool} (hn : n.toNat < 2 ^ 62)
    (hsize : arena.size.toInt < 2 ^ 62) (hle : arena.allocatedBytes ≤ arena.size)
    (h : mr.growReservationBy arena n = (grown, mr', arena')) :
    arena'.allocatedBytes ≤ arena'.size := by
  unfold growReservationBy at h
  split at h <;> cases h
  · have hlo := arena.size.le_toInt
    have hcast := Word.toInt_toInt64 (a := n) (by omega)
    have hsum := Word.toInt_add (a := arena.size) (b := n.toInt64) (by omega)
      (by omega)
    rw [Int64.le_iff_toInt_le] at hle ⊢
    show arena.allocatedBytes.toInt ≤ (arena.size + n.toInt64).toInt
    omega
  · exact hle

theorem shrink_keeps (hle : arena.allocatedBytes ≤ arena.size)
    (h : mr.shrinkReservationToFit arena = (mr', arena')) :
    arena'.allocatedBytes ≤ arena'.size := by
  unfold shrinkReservationToFit at h
  dsimp only at h
  split at h <;> cases h
  · have hmax := Word.toInt_max 0 arena.allocatedBytes
    rw [Int64.le_iff_toInt_le]
    show arena.allocatedBytes.toInt ≤ (max 0 arena.allocatedBytes).toInt
    omega
  · exact hle

theorem deallocate_keeps (hn : bytes.toNat < 2 ^ 62)
    (hlo : -2 ^ 62 < arena.allocatedBytes.toInt)
    (hle : arena.allocatedBytes ≤ arena.size)
    (h : mr.doDeallocateTracked arena bytes = (mr', arena')) :
    arena'.allocatedBytes ≤ arena'.size := by
  have hround := round256_le hn
  have hcast := Word.toInt_toInt64 (a := round256 bytes) (by omega)
  have hhi := arena.allocatedBytes.toInt_lt
  have hsub := Word.toInt_sub (a := arena.allocatedBytes)
    (b := (round256 bytes).toInt64) (by omega) (by omega)
  unfold doDeallocateTracked at h
  cases h
  rw [Int64.le_iff_toInt_le] at hle ⊢
  show (arena.allocatedBytes - (round256 bytes).toInt64).toInt ≤ arena.size.toInt
  omega

theorem allocate_keeps {res : Except Failure Addr} (hn : bytes.toNat < 2 ^ 62)
    (hroom : arena.size.toInt - arena.allocatedBytes.toInt < 2 ^ 63)
    (hle : arena.allocatedBytes ≤ arena.size)
    (h : mr.doAllocateTracked arena (some .fail) oom bytes upstream =
      ((mr', arena'), res)) :
    arena'.allocatedBytes ≤ arena'.size := by
  have hround := round256_le hn
  rcases Int.lt_or_le arena.size.toInt
    (arena.allocatedBytes.toInt + (round256 bytes).toNat) with hover | hin
  · obtain ⟨what, heq⟩ := tracked_fail_beyond mr oom upstream (by omega) hroom
      hover
    rw [heq] at h
    cases h
    exact hle
  · exact (tracked_fail_within hroom hin h).2.1

end Adaptor

/-! ## Arenas that keep to their size -/

/-- An arena that no tracker with another policy owns has at most its size
allocated. -/
def Ceiled (arenas : Table Addr DeviceReservedArena)
    (trackers : Table Stream StreamOrderedTrackerState) : Prop :=
  arenas.All fun p a => (trackers.All fun _ st => st.memoryReservation = p →
    st.reservationPolicy = some .fail) → a.allocatedBytes ≤ a.size

section Ceiled

variable {arenas : Table Addr DeviceReservedArena}
  {trackers : Table Stream StreamOrderedTrackerState} {p : Addr}
  {a : DeviceReservedArena} {s : Stream} {st : StreamOrderedTrackerState}

theorem Ceiled.insert (h : Ceiled arenas trackers)
    (ha : (trackers.All fun _ st => st.memoryReservation = p →
      st.reservationPolicy = some .fail) → a.allocatedBytes ≤ a.size) :
    Ceiled (arenas.insert p a) trackers :=
  AList.All.insert h ha

theorem Ceiled.erase (h : Ceiled arenas trackers) : Ceiled (arenas.erase p) trackers :=
  AList.All.erase h

/-- A new owner only narrows what is claimed. -/
theorem Ceiled.attach (h : Ceiled arenas trackers) (hs : trackers.lookup s = none) :
    Ceiled arenas (trackers.insert s st) := by
  intro q b hb howners
  refine h q b hb fun s' st' hs' => ?_
  have hne : s' ≠ s := by
    intro heq
    rw [heq, hs] at hs'
    cases hs'
  exact howners s' st' ((AList.lookup_insert_ne hne).trans hs')

/-- An owner leaves together with its arena. -/
theorem Ceiled.detach (h : Ceiled arenas trackers) (hs : trackers.lookup s = some st) :
    Ceiled (arenas.erase st.memoryReservation) (trackers.erase s) := by
  intro q b hb howners
  obtain ⟨hne, hb⟩ := AList.lookup_of_lookup_erase hb
  refine h q b hb fun s' st' hs' hq => ?_
  have hs'ne : s' ≠ s := by
    intro heq
    rw [heq, hs, Option.some.injEq] at hs'
    exact hne (hs' ▸ hq.symm)
  exact howners s' st' ((AList.lookup_erase_ne hs'ne).trans hs') hq

end Ceiled

namespace GpuWorld

/-- The counters of every arena are below `2 ^ 62` in magnitude. -/
def Small (w : GpuWorld) : Prop :=
  w.res.arenas.All fun _ a =>
    (-2 ^ 62 < a.size.toInt ∧ a.size.toInt < 2 ^ 62) ∧
      -2 ^ 62 < a.allocatedBytes.toInt ∧ a.allocatedBytes.toInt < 2 ^ 62

instance (w : GpuWorld) : Decidable w.Small :=
  inferInstanceAs (Decidable (w.res.arenas.All _))

/-- The invariant of all runs with small numbers. -/
structure Limited (w : GpuWorld) : Prop where
  wf : w.WF
  blocks : w.blocks.All fun _ b => b.bytes.toNat < 2 ^ 62
  ceiled : Ceiled w.res.arenas w.res.streamStatsMap

section Calls

variable {w : GpuWorld} {p : Addr} {a a' : DeviceReservedArena} {s : Stream}
  {bytes : UInt64}

theorem Limited.opened (h : w.Limited) (mr : Adaptor)
    (ha : a.allocatedBytes ≤ a.size) :
    Limited { w with
      res := { w.res with mr := mr, arenas := w.res.arenas.insert w.nextId a }
      nextId := w.nextId + 1 } := by
  refine ⟨?_, h.blocks, h.ceiled.insert fun _ => ha⟩
  have hnames := h.wf.skip.insert (Nat.lt_succ_self _) a.account
  simp only [WF, ledger, AList.mapVal_insert]
  exact hnames

theorem Limited.written (h : w.Limited) (mr : Adaptor)
    (hp : w.res.arenas.lookup p = some a)
    (ha : (w.res.streamStatsMap.All fun _ st => st.memoryReservation = p →
      st.reservationPolicy = some .fail) → a'.allocatedBytes ≤ a'.size) :
    Limited { w with
      res := { w.res with mr := mr, arenas := w.res.arenas.insert p a' } } := by
  refine ⟨?_, h.blocks, h.ceiled.insert ha⟩
  have hnames := h.wf.insert (h.wf.mem_lt (AList.mem_of_lookup hp)) a'.account
  simp only [WF, ledger, AList.mapVal_insert]
  exact hnames

/-- The invariant does not read the counters of the adaptor. -/
theorem Limited.counted (h : w.Limited) (mr : Adaptor) :
    Limited { w with res := { w.res with mr := mr } } :=
  ⟨h.wf, h.blocks, h.ceiled⟩

theorem Limited.destroyed (h : w.Limited) (hun : w.Unattached p) :
    (w.next (.destroy p)).Limited := by
  obtain ⟨a, ha⟩ := AList.exists_lookup hun.1
  simp only [next, GpuResource.destroyArena, ha]
  refine ⟨?_, h.blocks, h.ceiled.erase⟩
  have hnames := Names.close h.wf (p := p) fun hs => hun.ne hs
  simp only [WF, ledger, AList.mapVal_erase]
  exact hnames

theorem Limited.reserve (h : w.Limited) (hbytes : bytes.toNat < 2 ^ 62) :
    (w.next (.reserve bytes)).Limited := by
  rcases hr : w.res.mr.reserve bytes none with ⟨arena, mr⟩
  simp only [next, GpuResource.reserve, hr]
  rcases Adaptor.reserve_cases hr with ⟨-, rfl, -⟩ | ⟨-, rfl, rfl⟩
  · refine h.opened mr (Int64.le_iff_toInt_le.mpr ?_)
    show 0 ≤ bytes.toInt64.toInt
    rw [Word.toInt_toInt64 (by omega)]
    omega
  · exact ⟨h.wf.skip, h.blocks, h.ceiled⟩

theorem Limited.reserveUpto (h : w.Limited) (hbytes : bytes.toNat < 2 ^ 62) :
    (w.next (.reserveUpto bytes)).Limited := by
  rcases hr : w.res.mr.reserveUpto bytes none with ⟨arena, mr⟩
  simp only [next, GpuResource.reserveUpto, hr]
  obtain ⟨g, rfl, -, hg⟩ := Adaptor.reserveUpto_cases hr
  refine h.opened mr (Int64.le_iff_toInt_le.mpr ?_)
  show 0 ≤ g.toInt64.toInt
  rw [Word.toInt_toInt64 (by omega)]
  omega

theorem Limited.attach (h : w.Limited) (hun : w.Unattached p)
    (policy : Option ReservationLimitPolicy) (oom : Option OomHandlingPolicy) :
    (w.next (.attach s p policy oom)).Limited := by
  cases hs : w.res.streamStatsMap.lookup s with
  | some st =>
      rw [next_attach_tracked hs]
      exact h.destroyed hun
  | none =>
      simp only [next, GpuResource.attachReservationToTracker, hs]
      exact ⟨Names.attach h.wf (AList.mem_mapVal.mpr hun.1) fun hs' => hun.ne hs',
        h.blocks, h.ceiled.attach hs⟩

theorem Limited.resetStream (h : w.Limited) :
    (w.next (.resetStream s)).Limited := by
  cases hs : w.res.streamStatsMap.lookup s with
  | none =>
      rw [next_resetStream_untracked hs]
      exact h
  | some st =>
      obtain ⟨a, ha⟩ := h.wf.tracked hs
      simp only [next, GpuResource.resetStreamReservation, hs,
        GpuResource.destroyArena, ha]
      refine ⟨?_, h.blocks, h.ceiled.detach hs⟩
      have hnames := Names.close (Names.detach h.wf s) (p := st.memoryReservation)
        fun hs' heq => by
          obtain ⟨hne, hs'⟩ := AList.lookup_of_lookup_erase hs'
          exact hne (h.wf.distinct hs' hs heq)
      simp only [WF, ledger, AList.mapVal_erase]
      exact hnames

theorem Small.room (h : w.Small) (ha : w.res.arenas.lookup p = some a) :
    a.size.toInt - a.allocatedBytes.toInt < 2 ^ 63 := by
  have hsmall := h.get ha
  omega

theorem Limited.growBy (h : w.Limited) (hsmall : w.Small)
    (hbytes : bytes.toNat < 2 ^ 62) : (w.next (.growBy p bytes)).Limited := by
  cases ha : w.res.arenas.lookup p with
  | none =>
      simp only [next, GpuResource.growBy, ha]
      exact h
  | some a =>
      rcases hg : w.res.mr.growReservationBy a bytes with ⟨grown, mr, a'⟩
      simp only [next, GpuResource.growBy, ha, hg]
      refine h.written mr ha fun howners => ?_
      exact Adaptor.grow_keeps hbytes (hsmall.get ha).1.2 (h.ceiled p a ha howners) hg

theorem Limited.shrinkToFit (h : w.Limited) : (w.next (.shrinkToFit p)).Limited := by
  cases ha : w.res.arenas.lookup p with
  | none =>
      simp only [next, GpuResource.shrinkToFit, ha]
      exact h
  | some a =>
      rcases hg : w.res.mr.shrinkReservationToFit a with ⟨mr, a'⟩
      simp only [next, GpuResource.shrinkToFit, ha, hg]
      refine h.written mr ha fun howners => ?_
      exact Adaptor.shrink_keeps (h.ceiled p a ha howners) hg

theorem Limited.freed (h : w.Limited) (id : Nat) :
    Limited { w with blocks := w.blocks.erase id } :=
  ⟨Names.free h.wf id, h.blocks.erase, h.ceiled⟩

theorem Limited.deallocate (h : w.Limited) (hsmall : w.Small) {id : Nat} :
    (w.next (.deallocate id s)).Limited := by
  cases hb : w.blocks.lookup id with
  | none =>
      simp only [next, hb]
      exact h
  | some b =>
      have hbytes := h.blocks.get hb
      simp only [next, hb, GpuResource.doDeallocate]
      cases hs : w.res.streamStatsMap.lookup s with
      | none => exact (h.counted _).freed id
      | some st =>
          obtain ⟨a, ha⟩ := h.wf.tracked hs
          rcases hd : w.res.mr.doDeallocateTracked a b.bytes with ⟨mr, a'⟩
          simp only [ha, hd]
          refine (h.written mr ha fun howners => ?_).freed id
          exact Adaptor.deallocate_keeps hbytes (hsmall.get ha).2.1
            (h.ceiled _ a ha howners) hd

theorem Limited.drawn (h : w.Limited) (hbytes : bytes.toNat < 2 ^ 62)
    {o : Option Addr} (ho : ∀ p, o = some p → p < w.nextId) :
    Limited ⟨w.res, w.blocks.insert w.nextId ⟨bytes, s, o⟩, w.nextId + 1⟩ :=
  ⟨Names.newBlock h.wf ho, h.blocks.insert hbytes, h.ceiled⟩

theorem Limited.allocate (h : w.Limited) (hsmall : w.Small)
    (hbytes : bytes.toNat < 2 ^ 62) {upstream : UpstreamResult} :
    (w.next (.allocate bytes s upstream)).Limited := by
  have howner : ∀ p, w.arenaOf s = some p → p < w.nextId := fun p hp =>
    arenaOf_lt h.wf hp
  simp only [next]
  cases hs : w.res.streamStatsMap.lookup s with
  | none =>
      rcases hm : w.res.mr.doAllocateManaged w.res.defaultOomPolicy bytes upstream
        with ⟨mr, e | ptr⟩
      · simp only [GpuResource.doAllocate, hs, hm]
        exact h.counted mr
      · simp only [GpuResource.doAllocate, hs, hm]
        exact (h.counted mr).drawn hbytes howner
  | some st =>
      obtain ⟨a, ha⟩ := h.wf.tracked hs
      rcases ht : w.res.mr.doAllocateTracked a st.reservationPolicy st.oomPolicy
        bytes upstream with ⟨⟨mr, a'⟩, res⟩
      have hkeeps : (w.res.streamStatsMap.All fun _ st' =>
          st'.memoryReservation = st.memoryReservation →
            st'.reservationPolicy = some .fail) → a'.allocatedBytes ≤ a'.size := by
        intro howners
        rw [howners s st hs rfl] at ht
        exact Adaptor.allocate_keeps hbytes (hsmall.room ha)
          (h.ceiled _ a ha howners) ht
      have hwritten := h.written mr ha hkeeps
      cases res with
      | error e =>
          simp only [GpuResource.doAllocate, hs, ha, ht]
          exact hwritten
      | ok ptr =>
          simp only [GpuResource.doAllocate, hs, ha, ht]
          exact hwritten.drawn hbytes howner

/-! ## Whole runs -/

theorem Limited.next (h : w.Limited) (hsmall : w.Small) {op : GpuOp}
    (hproper : w.Proper op) : (w.next op).Limited := by
  cases op with
  | reserve bytes => exact h.reserve hproper
  | reserveUpto bytes => exact h.reserveUpto hproper
  | attach s p policy oom => exact h.attach hproper policy oom
  | allocate bytes s upstream => exact h.allocate hsmall hproper
  | deallocate id s => exact h.deallocate hsmall
  | growBy p bytes => exact h.growBy hsmall hproper.2
  | shrinkToFit p => exact h.shrinkToFit
  | resetStream s => exact h.resetStream
  | destroy p => exact h.destroyed hproper

end Calls

theorem limited_fresh (limit capacity : UInt64) : (fresh limit capacity).Limited :=
  ⟨wf_fresh limit capacity, AList.all_empty, AList.all_empty⟩

/-- What an allocation ended with is the refusal of its policy. -/
def PolicyRefused (res : Except Failure Addr) : Prop :=
  ∃ what, res = .error (.thrown (.outOfMemory what))

/-- Each reservation under the fail policy keeps to its size. -/
def HardLimited (w : GpuWorld) : Prop :=
  ∀ s, w.policyAt s = some .fail → ∃ a, w.arenaAt s = some a ∧
    a.allocatedBytes ≤ a.size

/-- An allocation under the fail policy does not move the total; it is refused
exactly if it does not fit into the reservation, and then the arena stays as it
is. -/
def Honours (w : GpuWorld) : GpuOp → Prop
  | .allocate bytes s upstream => w.policyAt s = some .fail → ∀ a ∈ w.arenaAt s,
      let refused := PolicyRefused (w.res.doAllocate bytes s upstream).2
      let w' := w.next (.allocate bytes s upstream)
      w'.res.mr.totalAllocatedBytes = w.res.mr.totalAllocatedBytes ∧
        (refused ↔ a.size.toInt <
          a.allocatedBytes.toInt + (round256 bytes).toNat) ∧
        (refused → w'.arenaAt s = some a)
  | _ => True

theorem Limited.hardLimited {w : GpuWorld} (h : w.Limited) : w.HardLimited := by
  intro s hpolicy
  obtain ⟨st, hs, hfail⟩ := Option.bind_eq_some_iff.mp hpolicy
  obtain ⟨a, ha⟩ := h.wf.tracked hs
  refine ⟨a, arenaAt_eq_some.mpr ⟨st, hs, ha⟩, h.ceiled _ a ha fun s' st' hs' hp => ?_⟩
  have heq : s' = s := h.wf.distinct hs' hs hp
  rw [heq, hs, Option.some.injEq] at hs'
  exact hs' ▸ hfail

theorem honours_of_small {w : GpuWorld} (hsmall : w.Small) {op : GpuOp}
    (hproper : w.Proper op) : w.Honours op := by
  cases op with
  | allocate bytes s upstream =>
      intro hpolicy a ha
      obtain ⟨st, hs, hp⟩ := arenaAt_eq_some.mp ha
      have hfail := (policyAt_eq hs).symm.trans hpolicy
      have hround := round256_le (n := bytes) hproper
      have hroom := hsmall.room hp
      rcases Int.lt_or_le a.size.toInt
        (a.allocatedBytes.toInt + (round256 bytes).toNat) with hover | hin
      · obtain ⟨what, heq⟩ := Adaptor.tracked_fail_beyond w.res.mr st.oomPolicy
          upstream (by omega) hroom hover
        simp only [next, GpuResource.doAllocate, hs, hp, hfail, heq]
        refine ⟨trivial, iff_of_true ⟨what, rfl⟩ hover, fun _ => ?_⟩
        exact arenaAt_eq_some.mpr ⟨st, hs, AList.lookup_insert _⟩
      · rcases ht : w.res.mr.doAllocateTracked a (some .fail) st.oomPolicy bytes
          upstream with ⟨⟨mr, a'⟩, e | ptr⟩
        all_goals
          obtain ⟨htotal, -, hkind⟩ := Adaptor.tracked_fail_within hroom hin ht
          simp only [next, GpuResource.doAllocate, hs, hp, hfail, ht]
          refine ⟨htotal, iff_of_false ?_ (by omega), ?_⟩
          · rintro ⟨what, hres⟩
            exact hkind what hres
          · rintro ⟨what, hres⟩
            exact absurd hres (hkind what)
  | reserve _ | reserveUpto _ | attach _ _ _ _ | deallocate _ _ | growBy _ _
  | shrinkToFit _ | resetStream _ | destroy _ => trivial

/-- In every run with small numbers, whatever is done on other streams and to
the reservation, the fail policy is a hard limit. -/
theorem fail_policy_hard_limit {limit capacity : UInt64} {ops : List GpuOp}
    (hlaw : (machine Proper).Lawful (fresh limit capacity) ops)
    (hsmall : (machine Proper).Always Small (fresh limit capacity) ops) :
    (machine Proper).Always HardLimited (fresh limit capacity) ops ∧
      (machine Proper).Every Honours (fresh limit capacity) ops := by
  have hall := hsmall.strengthen (J := Limited)
    (fun w op hw hnumbers hproper => hw.next hnumbers hproper)
    (limited_fresh limit capacity) hlaw
  refine ⟨hall.mono fun w hw => hw.1.hardLimited, ?_⟩
  exact hall.every (J := fun _ => True) (fun _ _ _ _ => trivial)
    (fun w op _ hw hproper => honours_of_small hw.2 hproper) trivial hlaw

/-- A block of another stream is freed on the limited one, whose counter falls
below zero; the reservation grows, and is then shrunk to the counter. -/
def limitedOps : List GpuOp :=
  [.reserve 512, .attach 1 0 (some .fail) none, .allocate 500 1 (.ok 7),
    .allocate 1 1 (.ok 8), .allocate 1000 2 (.ok 9), .deallocate 2 1,
    .growBy 0 256, .allocate 900 1 (.ok 10), .shrinkToFit 0,
    .allocate 1 1 (.error .other)]

theorem fail_policy_hard_limit_limitedOps :
    (machine Proper).Always HardLimited (fresh 4096 4096) limitedOps ∧
      (machine Proper).Every Honours (fresh 4096 4096) limitedOps :=
  fail_policy_hard_limit (show (machine Proper).Every Proper _ _ by decide)
    (by decide)

end GpuWorld

end CuCascade.Memory

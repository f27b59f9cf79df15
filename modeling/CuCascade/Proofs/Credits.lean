import CuCascade.Proofs.GpuReports

/-!
# Frees absorbed by another reservation

A block may be freed on another stream than it was made on. The total then stays
where it is and the arena of that stream goes down, below zero if it must: it
holds a credit, which its holder may draw as if the reservation were larger. In
the ledger this is headroom like any other, so while the arena lives the books
are exact, whatever the words are.

The credit is settled at no point. `do_release_reservation` gives the headroom
back down to a use of zero only, and `shrink_reservation_to_fit` leaves a size of
zero above a use that is negative, which is headroom still. So the total returns
to zero exactly if no reservation is let go, or kept to the end, while it holds
one.
-/

namespace CuCascade.Memory

namespace GpuWorld

/-- No arena has more allocated than its size. -/
def Inside (w : GpuWorld) : Prop :=
  w.res.arenas.All fun _ a => a.allocatedBytes ≤ a.size

instance (w : GpuWorld) : Decidable w.Inside :=
  inferInstanceAs (Decidable (AList.All _ _))

/-- The policy a call brings, if it brings one, is to ignore. -/
def Ignores : GpuOp → Prop
  | .attach _ _ policy _ => ReservationLimitPolicy.Lenient policy
  | _ => True

instance : (op : GpuOp) → Decidable (Ignores op)
  | .attach _ _ _ _ => inferInstanceAs (Decidable (ReservationLimitPolicy.Lenient _))
  | .reserve _ | .reserveUpto _ | .allocate _ _ _ | .deallocate _ _ | .growBy _ _
  | .shrinkToFit _ | .resetStream _ | .destroy _ => isTrue trivial

/-- Default policies, reservations that are never exceeded, and frees on any
stream. -/
def Absorbing (w : GpuWorld) (op : GpuOp) : Prop :=
  w.Within op ∧ Ignores op ∧ (w.next op).Inside

instance (w : GpuWorld) (op : GpuOp) : Decidable (w.Absorbing op) :=
  inferInstanceAs (Decidable (_ ∧ _))

/-- An arena that is let go holds no credit, and an upstream that throws no
`std::exception` leaves no charge behind. -/
def Clears (w : GpuWorld) : GpuOp → Prop
  | .destroy p => ∀ a ∈ w.res.arenas.lookup p, 0 ≤ a.allocatedBytes.toInt
  | .attach s p _ _ => w.arenaOf s ≠ none →
      ∀ a ∈ w.res.arenas.lookup p, 0 ≤ a.allocatedBytes.toInt
  | .resetStream s => ∀ a ∈ w.arenaAt s, 0 ≤ a.allocatedBytes.toInt
  | .allocate bytes s upstream => w.arenaOf s = none → upstream = .error .other →
      (round256 bytes).toNat = 0 ∨ w.res.mr.capacity.toNat <
        w.res.mr.totalAllocatedBytes.toNat + (round256 bytes).toNat
  | .reserve _ | .reserveUpto _ | .deallocate _ _ | .growBy _ _
  | .shrinkToFit _ => True

instance (w : GpuWorld) : (op : GpuOp) → Decidable (w.Clears op)
  | .destroy p => inferInstanceAs (Decidable (∀ a ∈ w.res.arenas.lookup p, _))
  | .attach _ p _ _ =>
      inferInstanceAs (Decidable (_ → ∀ a ∈ w.res.arenas.lookup p, _))
  | .resetStream s => inferInstanceAs (Decidable (∀ a ∈ w.arenaAt s, _))
  | .allocate _ _ _ => inferInstanceAs (Decidable (_ → _ → _))
  | .reserve _ | .reserveUpto _ | .deallocate _ _ | .growBy _ _
  | .shrinkToFit _ => isTrue trivial

/-- The invariant of such runs. -/
structure Credited (w : GpuWorld) : Prop where
  wf : w.WF
  funded : w.Funded
  inside : w.Inside
  lenient : w.res.streamStatsMap.All fun _ st =>
    ReservationLimitPolicy.Lenient st.reservationPolicy

section

variable {w w' : GpuWorld} {op : GpuOp} {p : Addr} {a : DeviceReservedArena}

theorem Inside.le (h : w.Inside) (ha : w.res.arenas.lookup p = some a) :
    a.allocatedBytes.toInt ≤ a.size.toInt :=
  Int64.le_iff_toInt_le.mp (h.get ha)

/-- The total has paid for all that lies between the use of an arena and its
size, the credit included. -/
theorem Credited.room_le (h : w.Credited) (ha : w.res.arenas.lookup p = some a) :
    a.size.toInt - a.allocatedBytes.toInt ≤ w.res.mr.totalAllocatedBytes.toNat := by
  have hroom := h.funded.headroom_le ha
  rw [Account.headroom_of_used_le (h.inside.le ha)] at hroom
  exact hroom

/-- It has paid for any block besides. -/
theorem Credited.room_add_block_le (h : w.Credited) {id : Nat} {b : GpuBlock}
    (ha : w.res.arenas.lookup p = some a) (hb : w.blocks.lookup id = some b) :
    a.size.toInt - a.allocatedBytes.toInt + (round256 b.bytes).toNat ≤
      w.res.mr.totalAllocatedBytes.toNat := by
  have hroom := AList.le_sumBy (f := fun _ a => Account.headroom a)
    (fun e _ => e.2.headroom_nonneg) (account_lookup ha)
  have hblock := AList.le_sumBy
    (f := fun _ b => ((round256 (GpuBlock.bytes b)).toNat : Int))
    (fun e _ => Int.natCast_nonneg _) hb
  have hworth := h.funded.worth_le
  have hout : w.ledger.outstanding =
    w.blocks.sumBy fun _ b => ((round256 b.bytes).toNat : Int) := rfl
  rw [Account.headroom_of_used_le (h.inside.le ha), DeviceReservedArena.account_floor,
    DeviceReservedArena.account_used] at hroom
  omega

/-! ## No word wraps

A wrap would show: it would put the use of an arena above its size. -/

theorem toNat_lt_of_inside {n : UInt64} (h : (0 : Int64) ≤ n.toInt64) :
    n.toNat < 2 ^ 63 := by
  obtain ⟨k, hk⟩ := Word.exists_toInt_toInt64 n
  have hlt := n.toNat_lt
  have hhi := n.toInt64.toInt_lt
  rw [Int64.le_iff_toInt_le, Word.toInt_zero] at h
  omega

theorem reserve_lt_of_inside {bytes : UInt64} (h : (w.next (.reserve bytes)).Inside)
    (hle : w.res.mr.totalAllocatedBytes.toNat + bytes.toNat ≤
      w.res.mr.memoryLimit.toNat) : bytes.toNat < 2 ^ 63 := by
  obtain ⟨mr, hreserve, -⟩ := Adaptor.doReserve_of_le hle
  simp only [next, GpuResource.reserve, Adaptor.reserve, hreserve] at h
  exact toNat_lt_of_inside (h.get (AList.lookup_insert _))

theorem reserveUpto_lt_of_inside {bytes : UInt64}
    (h : (w.next (.reserveUpto bytes)).Inside) :
    min bytes.toNat (w.res.mr.memoryLimit.toNat -
      w.res.mr.totalAllocatedBytes.toNat) < 2 ^ 63 := by
  rcases hreserve : w.res.mr.reserveUpto bytes none with ⟨arena, mr⟩
  obtain ⟨g, rfl, -, hg⟩ := Adaptor.reserveUpto_cases hreserve
  simp only [next, GpuResource.reserveUpto, hreserve] at h
  rw [← hg]
  exact toNat_lt_of_inside (h.get (AList.lookup_insert _))

theorem Credited.fits_growBy (h : w.Credited) {bytes : UInt64}
    (hin : (w.next (.growBy p bytes)).Inside) : w.Fits (.growBy p bytes) := by
  intro a (ha : w.res.arenas.lookup p = some a) hle
  obtain ⟨mr, hreserve, -⟩ := Adaptor.doReserve_of_le hle
  simp only [next, GpuResource.growBy, ha, Adaptor.growReservationBy, hreserve] at hin
  have hused := hin.le (AList.lookup_insert _)
  have hroom := h.room_le ha
  have hsize := h.funded.size ha
  have hlimit := w.res.mr.memoryLimit.toNat_lt
  have hhi := (a.size + bytes.toInt64).toInt_lt
  obtain ⟨k, hk⟩ := Word.exists_toInt_add_toInt64 a.size bytes
  dsimp only at hused
  omega

/-- A free takes the whole block out of the arena and nothing off the total. -/
theorem Credited.next_deallocate (h : w.Credited) {id : Nat} {b : GpuBlock}
    {s : Stream} {st : StreamOrderedTrackerState} (hb : w.blocks.lookup id = some b)
    (hs : w.res.streamStatsMap.lookup s = some st)
    (ha : w.res.arenas.lookup st.memoryReservation = some a)
    (hin : (w.next (.deallocate id s)).Inside) :
    w.Becomes (w.next (.deallocate id s))
      ((w.ledger.draw st.memoryReservation a.account (-(round256 b.bytes).toNat)).leak
        (straddleError a.account (round256 b.bytes).toNat))
      w.res.streamStatsMap (w.blocks.erase id) w.nextId := by
  have hle := h.inside.le ha
  have hback : a.allocatedBytes - (round256 b.bytes).toInt64 +
      (round256 b.bytes).toInt64 = a.allocatedBytes := Int64.sub_add_cancel _ _
  have hnothing : Adaptor.upstreamReclaimedBytes (round256 b.bytes) a.size
      (a.allocatedBytes - (round256 b.bytes).toInt64) = 0 := by
    unfold Adaptor.upstreamReclaimedBytes
    dsimp only
    rw [hback, if_pos (Int64.le_iff_toInt_le.mpr hle)]
  have hpost : (a.allocatedBytes - (round256 b.bytes).toInt64).toInt =
      a.allocatedBytes.toInt - (round256 b.bytes).toNat := by
    simp only [next, hb, GpuResource.doDeallocate, hs, ha,
      Adaptor.doDeallocateTracked] at hin
    have hused := hin.le (AList.lookup_insert _)
    have hroom := h.room_add_block_le ha hb
    have htotal := w.res.mr.totalAllocatedBytes.toNat_lt
    have hhi := a.size.toInt_lt
    have hlo := (a.allocatedBytes - (round256 b.bytes).toInt64).le_toInt
    obtain ⟨k, hk⟩ :=
      Word.exists_toInt_sub_toInt64 a.allocatedBytes (round256 b.bytes)
    dsimp only at hused
    omega
  simp only [next, hb, GpuResource.doDeallocate, hs, ha, Adaptor.doDeallocateTracked,
    hnothing]
  refine ⟨Ledger.ext ?_ (sumBy_blocks_erase hb) ?_, rfl, rfl, rfl, rfl, rfl, ?_⟩
  · simp only [ledger, Ledger.draw, Ledger.leak, AList.mapVal_insert,
      DeviceReservedArena.account, hpost, Account.draw]
    rfl
  · have hzero := straddleError_eq_zero (a := a) (n := (round256 b.bytes).toNat)
    simp only [ledger, Ledger.draw, Ledger.leak, UInt64.sub_zero, hzero.mpr (by omega)]
    simp only [Account.charge, Account.draw, DeviceReservedArena.account_floor,
      DeviceReservedArena.account_used]
    omega
  · rw [UInt64.sub_zero]
    exact le_max_left _ _

/-- Inside its reservation a draw costs nothing. -/
theorem inside_cost {n : Nat} (hin : a.allocatedBytes.toInt + n ≤ a.size.toInt) :
    (a.account.draw n).charge - a.account.charge = 0 := by
  simp only [Account.charge, Account.draw, DeviceReservedArena.account_floor,
    DeviceReservedArena.account_used]
  omega

/-- An allocation under a reservation draws on it and leaves the total alone. -/
theorem Credited.effect_allocate (h : w.Credited) {bytes : UInt64} {s : Stream}
    {upstream : UpstreamResult} {st : StreamOrderedTrackerState}
    (hs : w.res.streamStatsMap.lookup s = some st)
    (ha : w.res.arenas.lookup st.memoryReservation = some a)
    (hin : a.allocatedBytes.toInt + (round256 bytes).toNat ≤ a.size.toInt) :
    Effect w (w.next (.allocate bytes s upstream)) (.allocate bytes s upstream) := by
  have hlenient := h.lenient.get hs
  have hsame : a.account.withFloor (a.size.toInt + (0 : Nat)) = a.account := by
    simp [Account.withFloor, DeviceReservedArena.account]
  have hcost := inside_cost hin
  have hgrown : (w.grownLedger st.memoryReservation a 0).charged =
      w.res.mr.totalAllocatedBytes.toNat := by
    simp only [grownLedger, ledger, Ledger.refloor, Ledger.leak]
    simp only [Account.withFloor]
    omega
  rcases hall : w.res.mr.doAllocateTracked a st.reservationPolicy st.oomPolicy bytes
    upstream with ⟨⟨mr, a'⟩, res⟩
  obtain ⟨hmoved, -, hsize, hres⟩ := Adaptor.tracked_inside (Or.inr hlenient) hin hall
  have htotal := hmoved.total
  rcases hres with ⟨⟨ptr, rfl, rfl⟩, hdrawn⟩ | ⟨⟨e, rfl⟩, hback⟩
  · refine .drawn 0 hs ha (fun _ => rfl) ⟨ptr, rfl⟩ ?_
    simp only [next, GpuResource.doAllocate, hs, ha, hall]
    refine ⟨Ledger.ext ?_ (sumBy_blocks_insert h.wf _) ?_, rfl, rfl, rfl,
      hmoved.limit, hmoved.cap, hmoved.bound⟩
    · simp only [grownLedger, ledger, Ledger.refloor, Ledger.leak, Ledger.draw,
        AList.mapVal_insert, AList.insert_insert, hsame]
      simp only [DeviceReservedArena.account, hsize, hdrawn, Account.draw]
    · simp only [Ledger.leak, Ledger.draw, hgrown, hsame, hcost]
      show (mr.totalAllocatedBytes.toNat : Int) = _
      omega
  · have hbecomes : w.Becomes (w.next (.allocate bytes s upstream))
        (w.grownLedger st.memoryReservation a 0) w.res.streamStatsMap w.blocks
        w.nextId := by
      simp only [next, GpuResource.doAllocate, hs, ha, hall]
      refine ⟨Ledger.ext ?_ rfl ?_, rfl, rfl, rfl, hmoved.limit, hmoved.cap,
        hmoved.bound⟩
      · simp only [grownLedger, ledger, Ledger.refloor, Ledger.leak,
          AList.mapVal_insert, hsame]
        simp only [DeviceReservedArena.account, hsize, hback]
        rfl
      · rw [hgrown]
        show (mr.totalAllocatedBytes.toNat : Int) = _
        omega
    by_cases hleak : upstream = .error .other ∧
        w.res.mr.totalAllocatedBytes.toNat ≤ w.res.mr.capacity.toNat
    · refine .leaked 0 hs ha (fun _ => rfl) hleak.1 (by omega) ?_
      rw [hcost, Ledger.leak_zero]
      exact hbecomes
    · refine .failed 0 hs ha (fun _ => rfl) (fun _ hother => ?_) hbecomes
      have hlt : ¬ w.res.mr.totalAllocatedBytes.toNat ≤ w.res.mr.capacity.toNat :=
        fun hle => hleak ⟨hother, hle⟩
      omega

theorem Credited.effect (h : w.Credited) (hop : w.Absorbing op) :
    Effect w (w.next op) op := by
  obtain ⟨hwithin, -, hin⟩ := hop
  cases op with
  | reserve bytes =>
      rcases next_reserve (reserve_lt_of_inside hin) with e | e
      · exact .reserved e
      · exact .refused e
  | reserveUpto bytes =>
      obtain ⟨g, e⟩ := next_reserveUpto (reserveUpto_lt_of_inside hin)
      exact .reservedUpto g e
  | attach s p policy oom =>
      cases hs : w.res.streamStatsMap.lookup s with
      | none => exact .attached hs hwithin (next_attach_untracked hs)
      | some st =>
          obtain ⟨a, ha⟩ := AList.exists_lookup hwithin.1
          rw [next_attach_tracked hs]
          exact .destroyed (Or.inr ⟨s, policy, oom, rfl⟩) ha hwithin
            (next_destroy h.funded ha)
  | allocate bytes s upstream =>
      cases hs : w.res.streamStatsMap.lookup s with
      | none =>
          rcases next_allocate_untracked h.wf hs with
            ⟨e, hup⟩ | ⟨e, hwhy⟩ | ⟨e, hother, hcap⟩
          · exact .drawnLoose hs hup e
          · exact .failedLoose hs hwhy e
          · exact .leakedLoose hs hother hcap e
      | some st =>
          obtain ⟨a, ha⟩ := h.wf.tracked hs
          exact h.effect_allocate hs ha
            (hwithin a (arenaAt_eq_some.mpr ⟨st, hs, ha⟩))
  | deallocate id s =>
      obtain ⟨b, hb⟩ := AList.exists_lookup hwithin
      cases hs : w.res.streamStatsMap.lookup s with
      | none =>
          exact .freedLoose hb hs (next_deallocate_untracked h.funded hb hs)
      | some st =>
          obtain ⟨a, ha⟩ := h.wf.tracked hs
          exact .freed hb hs ha (h.next_deallocate hb hs ha hin)
  | growBy p bytes =>
      obtain ⟨a, ha⟩ := AList.exists_lookup hwithin
      obtain ⟨g, hg, e⟩ := next_growBy h.funded ha (h.fits_growBy hin)
      exact .grown g ha hg e
  | shrinkToFit p =>
      obtain ⟨a, ha⟩ := AList.exists_lookup hwithin
      obtain ⟨floor, hpos, hle, e⟩ := next_shrinkToFit h.funded ha
      exact .shrunk floor ha hpos hle e
  | resetStream s =>
      cases hs : w.res.streamStatsMap.lookup s with
      | none => exact .notReset (next_resetStream_untracked hs)
      | some st =>
          obtain ⟨a, ha⟩ := h.wf.tracked hs
          exact .reset hs ha (next_resetStream_tracked h.funded hs ha)
  | destroy p =>
      obtain ⟨a, ha⟩ := AList.exists_lookup hwithin.1
      exact .destroyed (Or.inl rfl) ha hwithin (next_destroy h.funded ha)

/-! ## What is settled, and what is lost -/

theorem Credited.noOverReturn (h : w.Credited) (op : GpuOp) : w.NoOverReturn op := by
  cases op with
  | deallocate id s =>
      intro b _ a harena _ hover
      obtain ⟨st, _, ha⟩ := arenaAt_eq_some.mp harena
      have hle := h.inside.le ha
      omega
  | _ => trivial

/-- An arena that is let go leaves its credit on the total. -/
theorem slack_close_iff (ha : w.res.arenas.lookup p = some a) :
    ((w.ledger.close p a.account).leak (max 0 (-a.allocatedBytes.toInt))).slack =
      w.ledger.slack ↔ 0 ≤ a.allocatedBytes.toInt := by
  rw [Ledger.slack_leak, Ledger.slack_close (account_lookup ha)]
  omega

theorem forall_used_iff {o : Option DeviceReservedArena} (ha : o = some a) :
    (∀ a ∈ o, 0 ≤ a.allocatedBytes.toInt) ↔ 0 ≤ a.allocatedBytes.toInt := by
  simp [ha]

/-- The call may let an arena go. -/
def Releases : GpuOp → Prop
  | .destroy _ | .attach _ _ _ _ | .resetStream _ => True
  | _ => False

/-- The other calls: only an allocation can leave something behind. -/
theorem Credited.slack_effect_iff (h : w.Credited) (heff : Effect w w' op)
    (hwithin : w.Within op) (hop : ¬ Releases op) :
    w'.ledger.slack = w.ledger.slack ↔ w.Clears op := by
  have hok : ∀ {ptr : Addr},
      (Except.ok ptr : UpstreamResult) ≠ .error .other := nofun
  cases heff with
  | refused e => exact iff_of_true (by rw [e.ledger]) trivial
  | reserved e =>
      exact iff_of_true (by rw [e.ledger,
        Ledger.slack_open' (Int.natCast_nonneg _) h.wf.account_next]) trivial
  | reservedUpto g e =>
      exact iff_of_true (by rw [e.ledger,
        Ledger.slack_open' (Int.natCast_nonneg _) h.wf.account_next]) trivial
  | destroyed hor =>
      rcases hor with rfl | ⟨s, policy, oom, rfl⟩
      · exact absurd trivial hop
      · exact absurd trivial hop
  | attached => exact absurd trivial hop
  | notReset => exact absurd trivial hop
  | reset => exact absurd trivial hop
  | @grown p bytes a g ha _ e =>
      have hexact := (headroom_growth_exact a.account g).mpr
        (Or.inr (h.inside.le ha))
      rw [DeviceReservedArena.account_floor] at hexact
      exact iff_of_true
        (by rw [e.ledger, slack_grownLedger g ha, hexact, add_zero]) trivial
  | shrunk floor ha _ _ e =>
      exact iff_of_true
        (by rw [e.ledger, Ledger.slack_refloor (account_lookup ha)]) trivial
  | freedLoose _ _ e => exact iff_of_true (by rw [e.ledger, Ledger.slack_drawLoose]) trivial
  | @freed id b s st a hb hs ha e =>
      have hle := h.inside.le ha
      have hzero : straddleError a.account (round256 b.bytes).toNat = 0 :=
        straddleError_eq_zero.mpr (by omega)
      exact iff_of_true (by rw [e.ledger, Ledger.slack_leak,
        Ledger.slack_draw (account_lookup ha), hzero, add_zero]) trivial
  | drawnLoose hs hup e =>
      obtain ⟨ptr, rfl⟩ := hup
      exact iff_of_true (by rw [e.ledger, Ledger.slack_drawLoose])
        fun _ hother => absurd hother hok
  | failedLoose hs hwhy e =>
      exact iff_of_true (by rw [e.ledger]) fun _ hother => Or.inr (hwhy hother)
  | leakedLoose hs hother hcap e =>
      rw [e.ledger, Ledger.slack_leak, add_eq_left]
      constructor
      · exact fun hzero _ _ => Or.inl (Int.natCast_eq_zero.mp hzero)
      · intro hclears
        have hor := hclears (arenaOf_untracked hs) hother
        omega
  | @drawn bytes s upstream st a g hs ha hg hup e =>
      obtain rfl := hg (h.lenient.get hs)
      have hsame : a.account.withFloor (a.size.toInt + (0 : Nat)) = a.account := by
        simp [Account.withFloor, DeviceReservedArena.account]
      refine iff_of_true ?_ fun hnone => ?_
      · rw [e.ledger, Ledger.slack_leak, Ledger.slack_draw lookup_grownLedger,
          grownLedger_zero ha, hsame, sub_self, add_zero]
      · rw [arenaOf_tracked hs] at hnone
        cases hnone
  | failed g hs ha hg _ e =>
      obtain rfl := hg (h.lenient.get hs)
      refine iff_of_true (by rw [e.ledger, grownLedger_zero ha]) fun hnone => ?_
      rw [arenaOf_tracked hs] at hnone
      cases hnone
  | @leaked bytes s upstream st a g hs ha hg _ _ e =>
      obtain rfl := hg (h.lenient.get hs)
      have hcost := inside_cost (hwithin a (arenaAt_eq_some.mpr ⟨st, hs, ha⟩))
      refine iff_of_true ?_ fun hnone => ?_
      · rw [e.ledger, Ledger.slack_leak, grownLedger_zero ha, hcost, add_zero]
      · rw [arenaOf_tracked hs] at hnone
        cases hnone

theorem Credited.slack_next_iff (h : w.Credited) (hop : w.Absorbing op) :
    (w.next op).ledger.slack = w.ledger.slack ↔ w.Clears op := by
  have heff := h.effect hop
  cases op with
  | destroy p =>
      obtain ⟨a, ha⟩ := AList.exists_lookup hop.1.1
      rw [(next_destroy h.funded ha).ledger, slack_close_iff ha]
      exact (forall_used_iff ha).symm
  | attach s p policy oom =>
      cases hs : w.res.streamStatsMap.lookup s with
      | none =>
          refine iff_of_true ?_ fun hsome => ?_
          · rw [(next_attach_untracked hs).ledger]
          · exact absurd (arenaOf_untracked hs) hsome
      | some st =>
          obtain ⟨a, ha⟩ := AList.exists_lookup hop.1.1
          have hsome : w.arenaOf s ≠ none := by
            rw [arenaOf_tracked hs]
            exact Option.some_ne_none _
          rw [next_attach_tracked hs, (next_destroy h.funded ha).ledger,
            slack_close_iff ha]
          constructor
          · exact fun hused _ => (forall_used_iff ha).mpr hused
          · exact fun hclears => (forall_used_iff ha).mp (hclears hsome)
  | resetStream s =>
      cases hs : w.res.streamStatsMap.lookup s with
      | none =>
          refine iff_of_true ?_ fun a harena => ?_
          · rw [next_resetStream_untracked hs]
          · rw [arenaAt_eq_none hs] at harena
            cases harena
      | some st =>
          obtain ⟨a, ha⟩ := h.wf.tracked hs
          rw [(next_resetStream_tracked h.funded hs ha).ledger, slack_close_iff ha]
          exact (forall_used_iff (arenaAt_eq_some.mpr ⟨st, hs, ha⟩)).symm
  | reserve bytes => exact h.slack_effect_iff heff hop.1 id
  | reserveUpto bytes => exact h.slack_effect_iff heff hop.1 id
  | allocate bytes s upstream => exact h.slack_effect_iff heff hop.1 id
  | deallocate id' s => exact h.slack_effect_iff heff hop.1 id
  | growBy p bytes => exact h.slack_effect_iff heff hop.1 id
  | shrinkToFit p => exact h.slack_effect_iff heff hop.1 id

theorem Credited.slack_le (h : w.Credited) (hop : w.Absorbing op) :
    w.ledger.slack ≤ (w.next op).ledger.slack :=
  slack_le_next h.wf (h.effect hop) (h.noOverReturn op)

theorem Becomes.lenient {l : Ledger Addr Int}
    {trackers : Table Stream StreamOrderedTrackerState} {blocks : Table Nat GpuBlock}
    {nextId : Nat} (e : w.Becomes w' l trackers blocks nextId)
    (h : trackers.All fun _ st => ReservationLimitPolicy.Lenient st.reservationPolicy) :
    w'.res.streamStatsMap.All fun _ st =>
      ReservationLimitPolicy.Lenient st.reservationPolicy := by
  rw [e.trackers]
  exact h

/-- The trackers keep to the default policy. -/
theorem Credited.lenient_next (h : w.Credited) (hig : Ignores op)
    (heff : Effect w w' op) : w'.res.streamStatsMap.All fun _ st =>
      ReservationLimitPolicy.Lenient st.reservationPolicy := by
  cases heff with
  | @attached s p policy oom hs _ e =>
      refine e.lenient (h.lenient.insert ?_)
      show ReservationLimitPolicy.Lenient (some _)
      cases policy with
      | none => trivial
      | some policy => exact hig
  | notReset e => exact e ▸ h.lenient
  | reset _ _ e => exact e.lenient h.lenient.erase
  | refused e => exact e.lenient h.lenient
  | reserved e => exact e.lenient h.lenient
  | reservedUpto g e => exact e.lenient h.lenient
  | destroyed _ _ _ e => exact e.lenient h.lenient
  | grown g _ _ e => exact e.lenient h.lenient
  | shrunk floor _ _ _ e => exact e.lenient h.lenient
  | freedLoose _ _ e => exact e.lenient h.lenient
  | freed _ _ _ e => exact e.lenient h.lenient
  | drawnLoose _ _ e => exact e.lenient h.lenient
  | failedLoose _ _ e => exact e.lenient h.lenient
  | leakedLoose _ _ _ e => exact e.lenient h.lenient
  | drawn g _ _ _ _ e => exact e.lenient h.lenient
  | failed g _ _ _ _ e => exact e.lenient h.lenient
  | leaked g _ _ _ _ _ e => exact e.lenient h.lenient

theorem Credited.next (h : w.Credited) (hop : w.Absorbing op) :
    (w.next op).Credited := by
  have heff := h.effect hop
  have hslack := h.funded.slack.trans (h.slack_le hop)
  exact ⟨wf_next h.wf heff, ⟨hslack, floors_next h.funded heff⟩, hop.2.2,
    h.lenient_next hop.2.1 heff⟩

/-! ## Whole runs -/

/-- Every block is freed, and every reservation that is left is shrunk. -/
structure Returned (w : GpuWorld) : Prop where
  blocks : w.blocks = ∅
  shrunk : w.res.arenas.All fun _ a => a.size ≤ max 0 a.allocatedBytes

/-- No live arena holds a credit. -/
def NoCredit (w : GpuWorld) : Prop :=
  w.res.arenas.All fun _ a => 0 ≤ a.allocatedBytes

instance (w : GpuWorld) : Decidable w.NoCredit :=
  inferInstanceAs (Decidable (AList.All _ _))

/-- At the end the total carries what was left behind on the way and the credits
of the arenas that are left. -/
theorem Credited.total_eq (h : w.Credited) (hend : w.Returned) :
    (w.res.mr.totalAllocatedBytes.toNat : Int) = w.ledger.slack +
      w.res.arenas.sumBy fun _ a => max 0 (-a.allocatedBytes.toInt) := by
  have hcharged : w.ledger.charged = w.res.mr.totalAllocatedBytes.toNat := rfl
  have hout : w.ledger.outstanding =
    w.blocks.sumBy fun _ b => ((round256 b.bytes).toNat : Int) := rfl
  have hrooms : (w.ledger.accounts.sumBy fun _ a => a.headroom) =
      w.res.arenas.sumBy fun _ a => max 0 (-a.allocatedBytes.toInt) := by
    rw [sumBy_accounts]
    refine AList.sumBy_congr fun e he => ?_
    have ha := AList.mem_entries_iff.mp he
    have hsize := h.funded.size ha
    have hused := h.inside.le ha
    have hfull := Int64.le_iff_toInt_le.mp (hend.shrunk.get ha)
    rw [Word.toInt_max, Word.toInt_zero] at hfull
    simp only [Account.headroom, DeviceReservedArena.account_floor,
      DeviceReservedArena.account_used]
    omega
  rw [hend.blocks, AList.sumBy_empty] at hout
  unfold Ledger.slack Ledger.worth
  omega

theorem noCredit_iff : w.NoCredit ↔
    (w.res.arenas.sumBy fun _ a => max 0 (-a.allocatedBytes.toInt)) = 0 := by
  constructor
  · intro h
    refine AList.sumBy_zero fun e he => ?_
    have hused := Int64.le_iff_toInt_le.mp (h.of_mem he)
    rw [Word.toInt_zero] at hused
    omega
  · intro h p a ha
    have hone := AList.le_sumBy
      (f := fun _ a => max 0 (-(DeviceReservedArena.allocatedBytes a).toInt))
      (fun e _ => le_max_left _ _) ha
    rw [Int64.le_iff_toInt_le, Word.toInt_zero]
    omega

theorem credited_fresh (limit capacity : UInt64) : (fresh limit capacity).Credited :=
  ⟨wf_fresh limit capacity, ⟨Int.le_of_eq rfl, AList.all_empty⟩, AList.all_empty,
    AList.all_empty⟩

/-- The total comes back to zero exactly if no credit is let go, and none is
left. -/
theorem credits_settled_iff {limit capacity : UInt64} {ops : List GpuOp}
    (hlaw : (machine Absorbing).Lawful (fresh limit capacity) ops)
    (hend : ((machine Absorbing).run (fresh limit capacity) ops).Returned) :
    ((machine Absorbing).run (fresh limit capacity) ops).res.mr.totalAllocatedBytes = 0 ↔
      (machine Absorbing).Every Clears (fresh limit capacity) ops ∧
        ((machine Absorbing).run (fresh limit capacity) ops).NoCredit := by
  have hstart := credited_fresh limit capacity
  have hstep : ∀ (w : GpuWorld) (op : GpuOp), w.Credited → w.Absorbing op →
      (w.next op).Credited := fun w op h hop => h.next hop
  obtain ⟨hle, hsame⟩ := Machine.every_iff_level_eq (C := Clears)
    (fun w : GpuWorld => w.ledger.slack) hstep (fun w op h hop => h.slack_le hop)
    (fun w op h hop => h.slack_next_iff hop) hstart hlaw
  have htotal := (Machine.always_of_lawful hstep hstart hlaw).last.total_eq hend
  have hcredits : 0 ≤ ((machine Absorbing).run (fresh limit capacity) ops).res.arenas.sumBy
      fun _ a => max 0 (-a.allocatedBytes.toInt) :=
    AList.sumBy_nonneg fun e _ => le_max_left _ _
  have hzero : (fresh limit capacity).ledger.slack = 0 := rfl
  rw [← hsame, noCredit_iff, ← UInt64.toNat_inj, UInt64.toNat_zero]
  omega

/-- A block of stream 2 is freed on stream 1, whose next block is larger than its
reservation. A block of stream 1 is then freed on stream 2, so both are even. -/
def returnedCreditOps : List GpuOp :=
  [.reserve 512, .attach 1 0 none none, .reserve 512, .attach 2 1 none none,
    .allocate 256 2 (.ok 0x100), .deallocate 2 1, .allocate 768 1 (.ok 0x200),
    .deallocate 3 1, .allocate 256 1 (.ok 0x300), .deallocate 4 2, .resetStream 1,
    .shrinkToFit 1]

theorem credits_settled_returnedCreditOps :
    ((machine Absorbing).run (fresh 4096 4096)
      returnedCreditOps).res.mr.totalAllocatedBytes = 0 :=
  (credits_settled_iff (show (machine Absorbing).Every Absorbing _ _ by decide)
    ⟨rfl, by decide⟩).mpr ⟨by decide, by decide⟩

/-- A block made under no reservation is freed on the stream of one, and the
stream is reset. -/
def lostCreditOps : List GpuOp :=
  [.reserve 512, .attach 1 0 none none, .allocate 256 2 (.ok 0x100),
    .deallocate 1 1, .resetStream 1]

theorem credit_lost_at_release :
    (machine Absorbing).Lawful (fresh 4096 4096) lostCreditOps ∧
      ((machine Absorbing).run (fresh 4096 4096) lostCreditOps).Returned ∧
      ((machine Absorbing).run (fresh 4096 4096)
        lostCreditOps).res.mr.totalAllocatedBytes ≠ 0 :=
  ⟨show (machine Absorbing).Every Absorbing _ _ by decide, ⟨rfl, by decide⟩, by decide⟩

end

end GpuWorld

end CuCascade.Memory

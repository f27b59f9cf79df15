import CuCascade.Lib.Holdings
import CuCascade.Proofs.GpuGuarantee

/-!
# When the GPU accounting is conserved

Here the users keep to more than the adaptor asks: default policies only, and a
block freed on the stream it was made on while that stream has the tracker it
had then, or none. In such runs the use of an arena is the size of the live
blocks made under it, so the worth of the ledger is what the claim adds up:
for each live arena the larger of its size and its use, and the blocks of no
live arena.

The total agrees with that sum exactly as long as the slack is zero, and the
slack is zero exactly as long as no call leaks. Three kinds of calls do: a
granted growth of a reservation already exceeded, a free that straddles the
boundary off its middle, and an allocation whose upstream threw something that
is no `std::exception` after bytes were charged.
-/

namespace CuCascade.Memory

namespace GpuWorld

/-- Default policies, and frees on the stream of the allocation with the tracker
it had then or, after a reset, none. -/
def Disciplined (w : GpuWorld) : GpuOp → Prop
  | .attach s p policy oom => w.Proper (.attach s p policy oom) ∧
      ReservationLimitPolicy.Lenient policy
  | .deallocate id s => w.Proper (.deallocate id s) ∧
      ∀ b ∈ w.blocks.lookup id, s = b.stream ∧
        (w.arenaOf s = b.arena ∨ w.arenaOf s = none)
  | op => w.Proper op

instance (w : GpuWorld) : (op : GpuOp) → Decidable (w.Disciplined op)
  | .attach _ _ _ _ => inferInstanceAs (Decidable (_ ∧ _))
  | .deallocate id _ =>
      inferInstanceAs (Decidable (_ ∧ ∀ b ∈ w.blocks.lookup id, _))
  | .reserve n => inferInstanceAs (Decidable (w.Proper (.reserve n)))
  | .reserveUpto n => inferInstanceAs (Decidable (w.Proper (.reserveUpto n)))
  | .allocate n s u => inferInstanceAs (Decidable (w.Proper (.allocate n s u)))
  | .growBy p n => inferInstanceAs (Decidable (w.Proper (.growBy p n)))
  | .shrinkToFit p => inferInstanceAs (Decidable (w.Proper (.shrinkToFit p)))
  | .resetStream s => inferInstanceAs (Decidable (w.Proper (.resetStream s)))
  | .destroy p => inferInstanceAs (Decidable (w.Proper (.destroy p)))

/-- The rounded sizes of the live blocks made under no live arena. -/
def loose (w : GpuWorld) : Int :=
  w.blocks.sumBy fun _ b =>
    if ∃ p ∈ b.arena, p ∈ w.res.arenas then 0 else ((round256 b.bytes).toNat : Int)

/-- The total is what the live arenas and the other live blocks add up to; in
particular it has not wrapped, and nothing is left when nothing is live. -/
structure Conserved (w : GpuWorld) : Prop where
  total : (w.res.mr.totalAllocatedBytes.toNat : Int) =
    (w.res.arenas.sumBy fun _ a => max a.size.toInt a.allocatedBytes.toInt) +
      w.loose
  bound : w.res.mr.totalAllocatedBytes.toNat ≤
    max w.res.mr.memoryLimit.toNat w.res.mr.capacity.toNat
  zero : w.blocks = ∅ → w.res.arenas = ∅ → w.res.mr.totalAllocatedBytes = 0

/-- What an allocation on a stream is going to charge. -/
def chargeOf (w : GpuWorld) (bytes : UInt64) (s : Stream) : Int :=
  match w.arenaAt s with
  | none => (round256 bytes).toNat
  | some a => (a.account.draw (round256 bytes).toNat).charge - a.account.charge

/-- The call does not leak. -/
def Exact (w : GpuWorld) : GpuOp → Prop
  | .allocate bytes s upstream => upstream = .error .other →
      w.chargeOf bytes s = 0 ∨ w.res.mr.capacity.toNat <
        w.res.mr.totalAllocatedBytes.toNat + w.chargeOf bytes s
  | .deallocate id s => ∀ b ∈ w.blocks.lookup id, ∀ a ∈ w.arenaAt s,
      let post := a.allocatedBytes.toInt - (round256 b.bytes).toNat
      post < a.size.toInt → a.size.toInt < a.allocatedBytes.toInt →
      a.size.toInt - post = a.allocatedBytes.toInt - a.size.toInt
  | .growBy p bytes => ∀ a ∈ w.res.arenas.lookup p,
      w.res.mr.totalAllocatedBytes.toNat + bytes.toNat ≤
        w.res.mr.memoryLimit.toNat →
      bytes.toNat = 0 ∨ a.allocatedBytes.toInt ≤ a.size.toInt
  | _ => True

instance (w : GpuWorld) : (op : GpuOp) → Decidable (w.Exact op)
  | .allocate _ _ _ => inferInstanceAs (Decidable (_ → _))
  | .deallocate id _ => inferInstanceAs (Decidable (∀ b ∈ w.blocks.lookup id, _))
  | .growBy p _ => inferInstanceAs (Decidable (∀ a ∈ w.res.arenas.lookup p, _))
  | .reserve _ | .reserveUpto _ | .attach _ _ _ _ | .shrinkToFit _
  | .resetStream _ | .destroy _ => isTrue trivial

/-! ## The blocks behind each account -/

/-- What a block adds to the use of its arena. -/
abbrev tracked (b : GpuBlock) : Int := (round256 b.bytes).toNat

/-- The use of each account is the size of the blocks under it, and such blocks
sit on the stream whose tracker owns the arena. -/
structure Backed (accounts : Table Addr (Account Int))
    (trackers : Table Stream StreamOrderedTrackerState)
    (blocks : Table Nat GpuBlock) : Prop where
  uses : Backs GpuBlock.arena tracked accounts blocks
  homes : blocks.All fun _ b => ∀ p, b.arena = some p → p ∈ accounts →
    ∃ st, trackers.lookup b.stream = some st ∧ st.memoryReservation = p
  lenient : trackers.All fun _ st =>
    ReservationLimitPolicy.Lenient st.reservationPolicy

section

variable {accounts : Table Addr (Account Int)}
  {trackers : Table Stream StreamOrderedTrackerState}
  {blocks : Table Nat GpuBlock} {nextId : Nat} {p : Addr}

theorem tracked_nonneg (b : GpuBlock) : 0 ≤ tracked b := Int.natCast_nonneg _

/-- Moving the floor of a live account leaves what lies under it alone. -/
theorem Backed.refloor (h : Backed accounts trackers blocks) {a : Account Int}
    (ha : accounts.lookup p = some a) (f : Int) :
    Backed (accounts.insert p (a.withFloor f)) trackers blocks where
  uses := h.uses.refloor ha f
  homes := h.homes.mono fun _ b hb q hq hmem => by
    rcases (AList.mem_insert _).mp hmem with rfl | hmem
    · exact hb q hq (AList.mem_of_lookup ha)
    · exact hb q hq hmem
  lenient := h.lenient

theorem Backed.opened (h : Backed accounts trackers blocks)
    (hn : Names accounts trackers blocks nextId) (n : Int) :
    Backed (accounts.insert nextId ⟨n, 0⟩) trackers blocks where
  uses := h.uses.open' (hn.blockArenas.mono fun _ _ hb harena =>
    Nat.lt_irrefl _ (hb nextId harena)) n
  homes := fun id b hb q hq hmem => by
    rcases (AList.mem_insert _).mp hmem with rfl | hmem
    · exact absurd (hn.blockArenas id b hb q hq) (Nat.lt_irrefl _)
    · exact h.homes id b hb q hq hmem
  lenient := h.lenient

theorem Backed.close (h : Backed accounts trackers blocks) (p : Addr) :
    Backed (accounts.erase p) trackers blocks where
  uses := h.uses.close p
  homes := h.homes.mono fun _ _ hb q hq hmem =>
    hb q hq (AList.mem_erase.mp hmem).2
  lenient := h.lenient

theorem Backed.attach (h : Backed accounts trackers blocks) {s : Stream}
    {st : StreamOrderedTrackerState} (hs : trackers.lookup s = none)
    (hst : ReservationLimitPolicy.Lenient st.reservationPolicy) :
    Backed accounts (trackers.insert s st) blocks where
  uses := h.uses
  homes := h.homes.mono fun _ b hb q hq hmem => by
    obtain ⟨st', hst', heq⟩ := hb q hq hmem
    have hne : b.stream ≠ s := by
      rintro rfl
      rw [hs] at hst'
      cases hst'
    exact ⟨st', by rw [AList.lookup_insert_ne hne, hst'], heq⟩
  lenient := h.lenient.insert hst

theorem Backed.reset (h : Backed accounts trackers blocks) {s : Stream}
    {st : StreamOrderedTrackerState} (hs : trackers.lookup s = some st) :
    Backed (accounts.erase st.memoryReservation) (trackers.erase s) blocks where
  uses := h.uses.close _
  homes := h.homes.mono fun _ b hb q hq hmem => by
    obtain ⟨hne, hmem⟩ := AList.mem_erase.mp hmem
    obtain ⟨st', hst', heq⟩ := hb q hq hmem
    have hstream : b.stream ≠ s := by
      rintro rfl
      rw [hs, Option.some.injEq] at hst'
      subst hst'
      exact hne heq.symm
    exact ⟨st', by rw [AList.lookup_erase_ne hstream, hst'], heq⟩
  lenient := h.lenient.erase

theorem Backed.free (h : Backed accounts trackers blocks) {id : Nat}
    {b : GpuBlock} (hb : blocks.lookup id = some b)
    (hloose : ∀ p ∈ accounts, b.arena ≠ some p) :
    Backed accounts trackers (blocks.erase id) where
  uses := h.uses.repayLoose hb hloose
  homes := h.homes.erase
  lenient := h.lenient

theorem Backed.freeUnder (h : Backed accounts trackers blocks) {id : Nat}
    {b : GpuBlock} (hb : blocks.lookup id = some b) {a : Account Int}
    (ha : accounts.lookup p = some a) (harena : b.arena = some p) :
    Backed (accounts.insert p (a.draw (-tracked b))) trackers
      (blocks.erase id) where
  uses := h.uses.repay hb ha harena
  homes := fun id' b' hb' q hq hmem => by
    rcases (AList.mem_insert _).mp hmem with rfl | hmem
    · exact h.homes.erase id' b' hb' q hq (AList.mem_of_lookup ha)
    · exact h.homes.erase id' b' hb' q hq hmem
  lenient := h.lenient

theorem Backed.newLoose (h : Backed accounts trackers blocks) {id : Nat}
    {b : GpuBlock} (hid : blocks.lookup id = none) (harena : b.arena = none) :
    Backed accounts trackers (blocks.insert id b) where
  uses := h.uses.drawLoose hid fun p _ hp => by
    rw [harena] at hp
    cases hp
  homes := h.homes.insert fun p hp => by
    rw [harena] at hp
    cases hp
  lenient := h.lenient

theorem Backed.newUnder (h : Backed accounts trackers blocks) {id : Nat}
    {b : GpuBlock} (hid : blocks.lookup id = none) {a : Account Int}
    {st : StreamOrderedTrackerState}
    (ha : accounts.lookup st.memoryReservation = some a)
    (hst : trackers.lookup b.stream = some st)
    (harena : b.arena = some st.memoryReservation) :
    Backed (accounts.insert st.memoryReservation (a.draw (tracked b))) trackers
      (blocks.insert id b) where
  uses := h.uses.draw hid ha harena
  homes := by
    refine AList.All.insert (fun id' b' hb' q hq hmem => ?_) fun q hq _ =>
      ⟨st, hst, Option.some.inj (harena.symm.trans hq)⟩
    rcases (AList.mem_insert _).mp hmem with rfl | hmem
    · exact h.homes id' b' hb' _ hq (AList.mem_of_lookup ha)
    · exact h.homes id' b' hb' q hq hmem
  lenient := h.lenient

end

/-! ## One call -/

/-- The invariant of disciplined runs; that the slack is zero is not part of
it. -/
structure Orderly (w : GpuWorld) : Prop where
  wf : w.WF
  bounded : w.Bounded
  backed : Backed w.ledger.accounts w.res.streamStatsMap w.blocks

section

variable {w w' : GpuWorld} {op : GpuOp}

theorem Disciplined.proper (h : w.Disciplined op) : w.Proper op := by
  cases op with
  | attach s p policy oom => exact h.1
  | deallocate id s => exact h.1
  | _ => exact h

theorem under_le_outstanding (w : GpuWorld) (p : Addr) :
    under GpuBlock.arena tracked w.blocks p ≤ w.ledger.outstanding :=
  under_le_sumBy tracked_nonneg

theorem Orderly.used_nonneg (h : w.Orderly) {a : DeviceReservedArena} {p : Addr}
    (ha : w.res.arenas.lookup p = some a) : 0 ≤ a.allocatedBytes.toInt := by
  have huse := h.backed.uses.get (account_lookup ha)
  have hpos : 0 ≤ under GpuBlock.arena tracked w.blocks p :=
    under_nonneg tracked_nonneg
  rw [DeviceReservedArena.account_used] at huse
  omega

/-- Neither the size nor the use of an arena exceeds the total. -/
theorem Orderly.charge_le (h : w.Orderly) {a : DeviceReservedArena} {p : Addr}
    (ha : w.res.arenas.lookup p = some a) :
    max a.size.toInt a.allocatedBytes.toInt ≤
      w.res.mr.totalAllocatedBytes.toNat := by
  have huse := h.backed.uses.get (account_lookup ha)
  have hone := AList.le_sumBy (f := fun _ a => Account.headroom a)
    (fun e _ => e.2.headroom_nonneg) (account_lookup ha)
  have hunder := under_le_outstanding w p
  have hworth := h.bounded.funded.worth_le
  simp only [Account.headroom, DeviceReservedArena.account_floor,
    DeviceReservedArena.account_used] at hone huse
  simp only [Account.headroom] at hworth
  omega

theorem Orderly.lenient (h : w.Orderly) {s : Stream}
    {st : StreamOrderedTrackerState}
    (hs : w.res.streamStatsMap.lookup s = some st) :
    ReservationLimitPolicy.Lenient st.reservationPolicy :=
  h.backed.lenient.get hs

theorem growthFits_of_lenient {mr : Adaptor} {arena : DeviceReservedArena}
    {n : UInt64} {policy : Option ReservationLimitPolicy}
    (h : ReservationLimitPolicy.Lenient policy) :
    ReservationLimitPolicy.GrowthFits mr arena n policy := by
  cases policy with
  | none => trivial
  | some policy =>
      cases policy with
      | increase padded => exact absurd h id
      | _ => trivial

/-- In orderly states no addition overflows. -/
theorem Orderly.fits (h : w.Orderly) (hproper : w.Proper op) : w.Fits op := by
  have htotal := h.bounded.total_lt
  cases op with
  | allocate bytes s upstream =>
      intro a harena
      obtain ⟨st, hs, ha⟩ := arenaAt_eq_some.mp harena
      have hn := round256_le hproper
      have hle := h.charge_le ha
      refine ⟨by omega, fun _ => ?_⟩
      rw [policyAt_eq hs]
      exact growthFits_of_lenient (h.lenient hs)
  | growBy p bytes =>
      intro a ha hgrant
      have hle := h.charge_le ha
      have hlimit := h.bounded.limit
      omega
  | _ => trivial

theorem Becomes.backed {l : Ledger Addr Int}
    {trackers : Table Stream StreamOrderedTrackerState}
    {blocks : Table Nat GpuBlock} {nextId : Nat}
    (h : w.Becomes w' l trackers blocks nextId)
    (hb : Backed l.accounts trackers blocks) :
    Backed w'.ledger.accounts w'.res.streamStatsMap w'.blocks := by
  rw [h.ledger, h.trackers, h.blocks]
  exact hb

theorem arenaOf_untracked {s : Stream}
    (hs : w.res.streamStatsMap.lookup s = none) : w.arenaOf s = none := by
  rw [arenaOf, hs]
  rfl

theorem arenaOf_tracked {s : Stream} {st : StreamOrderedTrackerState}
    (hs : w.res.streamStatsMap.lookup s = some st) :
    w.arenaOf s = some st.memoryReservation := by
  rw [arenaOf, hs]
  rfl

theorem backed_next (h : w.Orderly) (hdis : w.Disciplined op)
    (heff : Effect w w' op) :
    Backed w'.ledger.accounts w'.res.streamStatsMap w'.blocks := by
  cases heff with
  | refused e => exact e.backed h.backed
  | reserved e => exact e.backed (h.backed.opened h.wf _)
  | reservedUpto g e => exact e.backed (h.backed.opened h.wf _)
  | destroyed _ _ _ e => exact e.backed (h.backed.close _)
  | @attached s p policy oom hs _ e =>
      refine e.backed (h.backed.attach hs ?_)
      show ReservationLimitPolicy.Lenient (some _)
      cases policy with
      | none => trivial
      | some policy => exact hdis.2
  | notReset e => exact e ▸ h.backed
  | reset hs _ e => exact e.backed (h.backed.reset hs)
  | grown g ha _ e => exact e.backed (h.backed.refloor (account_lookup ha) _)
  | shrunk floor ha _ _ e => exact e.backed (h.backed.refloor (account_lookup ha) _)
  | @freedLoose id b s hb hs e =>
      refine e.backed (h.backed.free hb fun p hp harena => ?_)
      obtain ⟨hstream, -⟩ := hdis.2 b hb
      obtain ⟨st, hst, -⟩ := h.backed.homes.get hb p harena hp
      rw [← hstream, hs] at hst
      cases hst
  | @freed id b s st a hb hs ha e =>
      obtain ⟨-, harena⟩ := hdis.2 b hb
      rw [arenaOf_tracked hs] at harena
      rcases harena with harena | harena
      · exact e.backed (h.backed.freeUnder hb (account_lookup ha) harena.symm)
      · cases harena
  | @drawnLoose bytes s upstream hs _ e =>
      exact e.backed (h.backed.newLoose h.wf.lookup_next (arenaOf_untracked hs))
  | failedLoose _ _ e => exact e.backed h.backed
  | leakedLoose _ _ _ e => exact e.backed h.backed
  | @drawn bytes s upstream st a g hs ha _ _ e =>
      have harena := arenaOf_tracked hs
      have hgrown := h.backed.refloor (account_lookup ha) (a.size.toInt + g)
      have hnew := hgrown.newUnder (b := ⟨bytes, s, w.arenaOf s⟩)
        h.wf.lookup_next (AList.lookup_insert _) hs harena
      exact e.backed hnew
  | failed g _ ha _ _ e => exact e.backed (h.backed.refloor (account_lookup ha) _)
  | leaked g _ ha _ _ _ e => exact e.backed (h.backed.refloor (account_lookup ha) _)

theorem headroom_growth_exact (a : Account Int) (g : Nat) :
    (g : Int) - ((a.withFloor (a.floor + g)).headroom - a.headroom) = 0 ↔
      g = 0 ∨ a.used ≤ a.floor := by
  simp only [Account.headroom, Account.withFloor]
  omega

theorem grownLedger_zero {p : Addr} {a : DeviceReservedArena}
    (ha : w.res.arenas.lookup p = some a) :
    (w.grownLedger p a 0).slack = w.ledger.slack := by
  have hexact := (headroom_growth_exact a.account 0).mpr (Or.inl rfl)
  rw [DeviceReservedArena.account_floor] at hexact
  rw [slack_grownLedger 0 ha, hexact, add_zero]

theorem straddleError_eq_zero {a : DeviceReservedArena} {n : Int} :
    straddleError a.account n = 0 ↔
      (a.allocatedBytes.toInt - n < a.size.toInt →
        a.size.toInt < a.allocatedBytes.toInt →
        a.size.toInt - (a.allocatedBytes.toInt - n) =
          a.allocatedBytes.toInt - a.size.toInt) := by
  unfold straddleError
  rw [DeviceReservedArena.account_floor, DeviceReservedArena.account_used]
  split <;> omega

theorem arenaAt_eq_none {s : Stream}
    (hs : w.res.streamStatsMap.lookup s = none) : w.arenaAt s = none := by
  rw [arenaAt, arenaOf_untracked hs]
  rfl

theorem chargeOf_tracked {bytes : UInt64} {s : Stream}
    {a : DeviceReservedArena} (h : w.arenaAt s = some a) :
    w.chargeOf bytes s =
      (a.account.draw (round256 bytes).toNat).charge - a.account.charge := by
  unfold chargeOf
  rw [h]

theorem chargeOf_untracked {bytes : UInt64} {s : Stream}
    (h : w.arenaAt s = none) :
    w.chargeOf bytes s = (round256 bytes).toNat := by
  unfold chargeOf
  rw [h]

theorem exact_allocate {bytes : UInt64} {s : Stream}
    {upstream : UpstreamResult} :
    w.Exact (.allocate bytes s upstream) ↔ (upstream = .error .other →
      w.chargeOf bytes s = 0 ∨ w.res.mr.capacity.toNat <
        w.res.mr.totalAllocatedBytes.toNat + w.chargeOf bytes s) := Iff.rfl

/-- An arena whose use is not negative is closed without a leak. -/
theorem Orderly.slack_closed (h : w.Orderly) {p : Addr} {a : DeviceReservedArena}
    (ha : w.res.arenas.lookup p = some a) :
    ((w.ledger.close p a.account).leak (max 0 (-a.allocatedBytes.toInt))).slack =
      w.ledger.slack := by
  have hused := h.used_nonneg ha
  have hzero : max 0 (-a.allocatedBytes.toInt) = 0 := by omega
  rw [Ledger.slack_leak, Ledger.slack_close (account_lookup ha), hzero, add_zero]

/-- A disciplined call keeps the slack exactly if it does not leak. -/
theorem slack_next_iff (h : w.Orderly) (heff : Effect w w' op) :
    w'.ledger.slack = w.ledger.slack ↔ w.Exact op := by
  have hok : ∀ {ptr : Addr},
      (Except.ok ptr : UpstreamResult) ≠ .error .other := nofun
  cases heff with
  | refused e => exact iff_of_true (by rw [e.ledger]) trivial
  | reserved e =>
      exact iff_of_true (by rw [e.ledger,
        Ledger.slack_open' (Int.natCast_nonneg _) h.wf.account_next]) trivial
  | reservedUpto g e =>
      exact iff_of_true (by rw [e.ledger,
        Ledger.slack_open' (Int.natCast_nonneg _) h.wf.account_next]) trivial
  | @destroyed _ p a hop ha _ e =>
      refine iff_of_true (by rw [e.ledger, h.slack_closed ha]) ?_
      rcases hop with rfl | ⟨s, policy, oom, rfl⟩ <;> trivial
  | attached _ _ e => exact iff_of_true (by rw [e.ledger]) trivial
  | notReset e => exact iff_of_true (by rw [e]) trivial
  | @reset s st a _ ha e =>
      exact iff_of_true (by rw [e.ledger, h.slack_closed ha]) trivial
  | @grown p bytes a g ha hg e =>
      have hexact := headroom_growth_exact a.account g
      rw [DeviceReservedArena.account_floor,
        DeviceReservedArena.account_used] at hexact
      rw [e.ledger, slack_grownLedger g ha, add_eq_left, hexact]
      constructor
      · intro hor a' ha' hgrant
        rw [ha, Option.mem_some] at ha'
        subst ha'
        omega
      · intro hex
        have hor := hex a ha
        omega
  | shrunk floor ha _ _ e =>
      exact iff_of_true
        (by rw [e.ledger, Ledger.slack_refloor (account_lookup ha)]) trivial
  | @freedLoose id b s _ hs e =>
      refine iff_of_true (by rw [e.ledger, Ledger.slack_drawLoose]) ?_
      intro b' _ a' ha'
      rw [arenaAt_eq_none hs] at ha'
      cases ha'
  | @freed id b s st a hb hs ha e =>
      have harena := arenaAt_eq_some.mpr ⟨st, hs, ha⟩
      rw [e.ledger, Ledger.slack_leak, Ledger.slack_draw (account_lookup ha),
        add_eq_left, straddleError_eq_zero]
      constructor
      · intro hex b' hb' a' ha'
        rw [hb, Option.mem_some] at hb'
        rw [harena, Option.mem_some] at ha'
        subst hb' ha'
        exact hex
      · intro hex
        exact hex b hb a harena
  | drawnLoose _ hup e =>
      obtain ⟨ptr, rfl⟩ := hup
      exact iff_of_true (by rw [e.ledger, Ledger.slack_drawLoose])
        fun hother => absurd hother hok
  | failedLoose hs hwhy e =>
      refine iff_of_true (by rw [e.ledger]) fun hother => Or.inr ?_
      have hlt := hwhy hother
      rw [chargeOf_untracked (arenaAt_eq_none hs)]
      omega
  | leakedLoose hs hother hcap e =>
      rw [e.ledger, Ledger.slack_leak, add_eq_left]
      rw [exact_allocate, chargeOf_untracked (arenaAt_eq_none hs)]
      constructor
      · exact fun hzero _ => Or.inl hzero
      · intro hex
        have hor := hex hother
        omega
  | @drawn bytes s upstream st a g hs ha hg hup e =>
      obtain rfl := hg (h.lenient hs)
      obtain ⟨ptr, rfl⟩ := hup
      have hsame : a.account.withFloor (a.size.toInt + (0 : Nat)) = a.account := by
        simp [Account.withFloor, DeviceReservedArena.account]
      refine iff_of_true ?_ fun hother => absurd hother hok
      rw [e.ledger, Ledger.slack_leak, Ledger.slack_draw lookup_grownLedger,
        grownLedger_zero ha, hsame, sub_self, add_zero]
  | @failed bytes s upstream st a g hs ha hg hwhy e =>
      obtain rfl := hg (h.lenient hs)
      refine iff_of_true (by rw [e.ledger, grownLedger_zero ha])
        fun hother => Or.inr ?_
      rw [chargeOf_tracked (arenaAt_eq_some.mpr ⟨st, hs, ha⟩)]
      exact hwhy (h.lenient hs) hother
  | @leaked bytes s upstream st a g hs ha hg hother hcap e =>
      obtain rfl := hg (h.lenient hs)
      rw [e.ledger, Ledger.slack_leak, grownLedger_zero ha, add_eq_left]
      rw [exact_allocate, chargeOf_tracked (arenaAt_eq_some.mpr ⟨st, hs, ha⟩)]
      constructor
      · exact fun hzero _ => Or.inl hzero
      · intro hex
        have hor := hex hother
        omega

/-! ## Whole runs -/

theorem Orderly.next (h : w.Orderly) (hdis : w.Disciplined op)
    (hslack : 0 ≤ (w.next op).ledger.slack) : (w.next op).Orderly :=
  have heff := effect_next h.wf h.bounded hdis.proper (h.fits hdis.proper)
  ⟨wf_next h.wf heff, bounded_next h.bounded hdis.proper heff hslack,
    backed_next h hdis heff⟩

/-- Where the books are backed, the worth of the ledger is the sum of the
claim. -/
theorem worth_of_backed
    (h : Backed w.ledger.accounts w.res.streamStatsMap w.blocks) :
    w.ledger.worth =
      (w.res.arenas.sumBy fun _ a => max a.size.toInt a.allocatedBytes.toInt) +
        w.loose := by
  have hworth := h.uses.worth (l := w.ledger) rfl
  rw [hworth, sumBy_accounts]
  exact congrArg _ (looseSum_congr fun p => AList.mem_mapVal)

theorem Conserved.slack (hc : w.Conserved)
    (h : Backed w.ledger.accounts w.res.streamStatsMap w.blocks) :
    w.ledger.slack = 0 := by
  have hcharged : w.ledger.charged = w.res.mr.totalAllocatedBytes.toNat := rfl
  unfold Ledger.slack
  rw [hcharged, hc.total, worth_of_backed h, sub_self]

theorem Orderly.conserved (h : w.Orderly) (hslack : w.ledger.slack = 0) :
    w.Conserved := by
  have hworth := worth_of_backed h.backed
  have hcharged : w.ledger.charged = w.res.mr.totalAllocatedBytes.toNat := rfl
  unfold Ledger.slack at hslack
  have htotal : (w.res.mr.totalAllocatedBytes.toNat : Int) =
      (w.res.arenas.sumBy fun _ a => max a.size.toInt a.allocatedBytes.toInt) +
        w.loose := by
    omega
  refine ⟨htotal, h.bounded.total, fun hblocks harenas => ?_⟩
  unfold loose at htotal
  rw [hblocks, harenas, AList.sumBy_empty, AList.sumBy_empty] at htotal
  rw [← UInt64.toNat_inj]
  exact Int.natCast_inj.mp htotal

/-- A disciplined run conserves the accounting exactly if none of its calls
leaks. -/
theorem always_conserved_iff {limit capacity : UInt64} {ops : List GpuOp}
    (hlimit : limit.toNat < 2 ^ 62) (hcap : capacity.toNat < 2 ^ 62)
    (hlaw : (machine Disciplined).Lawful (fresh limit capacity) ops) :
    (machine Disciplined).Always Conserved (fresh limit capacity) ops ↔
      (machine Disciplined).Every Exact (fresh limit capacity) ops := by
  have hstart : (fresh limit capacity).Orderly :=
    ⟨wf_fresh limit capacity, bounded_fresh hlimit hcap,
      AList.all_empty, AList.all_empty, AList.all_empty⟩
  have hstep : ∀ (w : GpuWorld) (op : GpuOp), w.Orderly → w.Conserved →
      w.Disciplined op → ((w.next op).ledger.slack = 0 ↔ w.Exact op) := by
    intro w op h hc hdis
    have heff := effect_next h.wf h.bounded hdis.proper (h.fits hdis.proper)
    rw [← slack_next_iff h heff, hc.slack h.backed]
  refine Machine.always_iff_every (J := Orderly) ?_ ?_ hstart
    (hstart.conserved (Int.sub_self _)) hlaw
  · intro w op h hc hdis hex
    have hslack := (hstep w op h hc hdis).mpr hex
    exact h.next hdis (Int.le_of_eq hslack.symm)
  · intro w op h hc hdis
    have heff := effect_next h.wf h.bounded hdis.proper (h.fits hdis.proper)
    rw [← hstep w op h hc hdis]
    constructor
    · intro hc'
      exact hc'.slack (backed_next h hdis heff)
    · intro hslack
      exact (h.next hdis (Int.le_of_eq hslack.symm)).conserved hslack

/-- A reservation, a block inside it and one across its boundary with as much
inside as outside, a growth, a reset while a block is live. -/
def conservingOps : List GpuOp :=
  [.reserve 1024, .attach 7 0 none none, .allocate 500 7 (.ok 0x100),
    .allocate 1000 7 (.ok 0x200), .deallocate 2 7, .growBy 0 256,
    .shrinkToFit 0, .allocate 300 7 (.error (.outOfMemory "upstream")),
    .resetStream 7, .deallocate 1 7]

theorem always_conserved_conservingOps :
    (machine Disciplined).Always Conserved (fresh 4096 4096) conservingOps :=
  (always_conserved_iff (by decide) (by decide)
    (show (machine Disciplined).Every Disciplined _ _ by decide)).mpr (by decide)

/-- A block of 768 bytes on a reservation of 256. Its allocation charges 512,
freeing it gives back 256, and 256 bytes are charged for nothing. -/
def leakingFreeOps : List GpuOp :=
  [.reserve 256, .attach 7 0 none none, .allocate 768 7 (.ok 0x100),
    .deallocate 1 7, .resetStream 7]

theorem not_conserved_after_straddling_free :
    (machine Disciplined).Lawful (fresh 4096 4096) leakingFreeOps ∧
      ¬ (machine Disciplined).Always Conserved (fresh 4096 4096)
        leakingFreeOps := by
  refine ⟨show (machine Disciplined).Every Disciplined _ _ by decide, ?_⟩
  intro h
  exact absurd h.last.total (by decide)

end

end GpuWorld

end CuCascade.Memory

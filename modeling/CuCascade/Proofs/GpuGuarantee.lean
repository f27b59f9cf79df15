import CuCascade.Proofs.GpuLedger

/-!
# A GPU reservation is a guarantee, as long as no free over-returns

The limiter never hands out more than its capacity exactly as long as its
ledger is not overdrawn: the live blocks and the unused parts of the live
reservations are what the total has to cover, and the total stays within the
capacity. So the question is which calls can lower the slack. Of all the
effects a call can have only one does: a free whose block straddles the
boundary of the reservation gives back the part below the boundary, and where
that part is the larger one the total loses bytes that are still promised.

Frees on other streams make uses and reservations grow without bound, so the
other condition is that the signed counters of an arena do not overflow.
-/

namespace CuCascade.Memory

namespace GpuWorld

/-- The call does not free a block of which more lies below the boundary of the
reservation than above. -/
def NoOverReturn (w : GpuWorld) : GpuOp → Prop
  | .deallocate id s => ∀ b ∈ w.blocks.lookup id, ∀ a ∈ w.arenaAt s,
      let post := a.allocatedBytes.toInt - (round256 b.bytes).toNat
      post < a.size.toInt → a.size.toInt < a.allocatedBytes.toInt →
      a.size.toInt - post ≤ a.allocatedBytes.toInt - a.size.toInt
  | _ => True

instance (w : GpuWorld) : (op : GpuOp) → Decidable (w.NoOverReturn op)
  | .deallocate id _ => inferInstanceAs (Decidable (∀ b ∈ w.blocks.lookup id, _))
  | .reserve _ | .reserveUpto _ | .attach _ _ _ _ | .allocate _ _ _
  | .growBy _ _ | .shrinkToFit _ | .resetStream _ | .destroy _ => isTrue trivial

/-- What the upstream answered, as the adaptor passes it on. -/
def passedOn (w : GpuWorld) (bytes : UInt64) :
    UpstreamResult → Except Failure Addr
  | .ok ptr => .ok ptr
  | .error e => .error (.thrown (match e.what? with
      | some what => .cucascadeOutOfMemory what bytes w.res.mr.totalAllocatedBytes
      | none => e))

/-- The live blocks and the unused parts of the live reservations fit into the
capacity, and an allocation inside a reservation gets the answer of the
upstream. -/
structure Guaranteed (w : GpuWorld) : Prop where
  fits : (w.blocks.sumBy fun _ b => ((round256 b.bytes).toNat : Int)) +
    (w.res.arenas.sumBy fun _ a =>
      max 0 (a.size.toInt - max 0 a.allocatedBytes.toInt)) ≤
    w.res.mr.capacity.toNat
  reaches : ∀ bytes s a upstream, bytes.toNat < 2 ^ 62 →
    w.arenaAt s = some a →
    a.allocatedBytes.toInt + (round256 bytes).toNat ≤ a.size.toInt →
    (w.res.doAllocate bytes s upstream).2 = w.passedOn bytes upstream

section

variable {w w' : GpuWorld}

theorem slack_grownLedger {p : Addr} {a : DeviceReservedArena} (g : Nat)
    (ha : w.res.arenas.lookup p = some a) :
    (w.grownLedger p a g).slack = w.ledger.slack +
      (g - ((a.account.withFloor (a.size.toInt + g)).headroom -
        a.account.headroom)) := by
  unfold grownLedger
  rw [Ledger.slack_leak, Ledger.slack_refloor (account_lookup ha)]

theorem lookup_grownLedger {p : Addr} {a : DeviceReservedArena} {g : Nat} :
    (w.grownLedger p a g).accounts.lookup p =
      some (a.account.withFloor (a.size.toInt + g)) :=
  AList.lookup_insert _

theorem headroom_growth_le (a : Account Int) (g : Nat) :
    (a.withFloor (a.floor + g)).headroom - a.headroom ≤ g := by
  simp only [Account.headroom, Account.withFloor]
  omega

/-- A draw costs less on an account with a higher floor. -/
theorem cost_growth_le (a : Account Int) (g : Nat) (n : Int) (hn : 0 ≤ n) :
    let a' := a.withFloor (a.floor + g)
    (a'.draw n).charge - a'.charge ≤ (a.draw n).charge - a.charge := by
  simp only [Account.charge, Account.withFloor, Account.draw]
  omega

theorem cost_nonneg (a : Account Int) (n : Int) (hn : 0 ≤ n) :
    0 ≤ (a.draw n).charge - a.charge := by
  simp only [Account.charge, Account.draw]
  omega

theorem straddleError_nonneg {a : DeviceReservedArena} {n : Int}
    (h : a.allocatedBytes.toInt - n < a.size.toInt →
      a.size.toInt < a.allocatedBytes.toInt →
      a.size.toInt - (a.allocatedBytes.toInt - n) ≤
        a.allocatedBytes.toInt - a.size.toInt) :
    0 ≤ straddleError a.account n := by
  unfold straddleError
  rw [DeviceReservedArena.account_floor, DeviceReservedArena.account_used]
  split
  · next hin =>
      have hle := h hin.1 hin.2
      omega
  · exact Int.le_refl 0

/-- Only an over-returning free lowers the slack. -/
theorem slack_le_next {op : GpuOp} (hw : w.WF) (h : Effect w w' op)
    (hno : w.NoOverReturn op) : w.ledger.slack ≤ w'.ledger.slack := by
  cases h with
  | refused h => rw [h.ledger]
  | reserved h =>
      rw [h.ledger, Ledger.slack_open' (Int.natCast_nonneg _) hw.account_next]
  | reservedUpto g h =>
      rw [h.ledger, Ledger.slack_open' (Int.natCast_nonneg _) hw.account_next]
  | destroyed _ ha _ h =>
      rw [h.ledger, Ledger.slack_leak, Ledger.slack_close (account_lookup ha)]
      omega
  | attached _ _ h => rw [h.ledger]
  | notReset h => rw [h]
  | reset _ ha h =>
      rw [h.ledger, Ledger.slack_leak, Ledger.slack_close (account_lookup ha)]
      omega
  | @grown p bytes a g ha _ h =>
      have hle := headroom_growth_le a.account g
      rw [DeviceReservedArena.account_floor] at hle
      rw [h.ledger, slack_grownLedger g ha]
      omega
  | shrunk floor ha _ _ h =>
      rw [h.ledger, Ledger.slack_refloor (account_lookup ha)]
  | freedLoose _ _ h => rw [h.ledger, Ledger.slack_drawLoose]
  | @freed id b s st a hb hs ha h =>
      have hle := straddleError_nonneg
        (hno b hb a (arenaAt_eq_some.mpr ⟨st, hs, ha⟩))
      rw [h.ledger, Ledger.slack_leak, Ledger.slack_draw (account_lookup ha)]
      omega
  | drawnLoose _ _ h => rw [h.ledger, Ledger.slack_drawLoose]
  | failedLoose _ _ h => rw [h.ledger]
  | leakedLoose _ _ _ h =>
      rw [h.ledger, Ledger.slack_leak]
      omega
  | @drawn bytes s upstream st a g _ ha _ _ h =>
      have hgrow := headroom_growth_le a.account g
      have hcost := cost_growth_le a.account g (round256 bytes).toNat
        (Int.natCast_nonneg _)
      rw [DeviceReservedArena.account_floor] at hgrow hcost
      rw [h.ledger, Ledger.slack_leak, Ledger.slack_draw lookup_grownLedger,
        slack_grownLedger g ha]
      omega
  | @failed bytes s upstream st a g _ ha _ _ h =>
      have hgrow := headroom_growth_le a.account g
      rw [DeviceReservedArena.account_floor] at hgrow
      rw [h.ledger, slack_grownLedger g ha]
      omega
  | @leaked bytes s upstream st a g _ ha _ _ _ h =>
      have hgrow := headroom_growth_le a.account g
      have hcost := cost_nonneg a.account (round256 bytes).toNat
        (Int.natCast_nonneg _)
      rw [DeviceReservedArena.account_floor] at hgrow
      rw [h.ledger, Ledger.slack_leak, slack_grownLedger g ha]
      omega

/-! ## From the ledger to the guarantee -/

/-- The invariant behind the guarantee. -/
structure Solvent (limit capacity : UInt64) (w : GpuWorld) : Prop where
  wf : w.WF
  bounded : w.Bounded
  limit : w.res.mr.memoryLimit = limit
  cap : w.res.mr.capacity = capacity

theorem Effect.limits {op : GpuOp} (h : Effect w w' op) :
    w'.res.mr.memoryLimit = w.res.mr.memoryLimit ∧
      w'.res.mr.capacity = w.res.mr.capacity := by
  cases h with
  | notReset h => exact h ▸ ⟨rfl, rfl⟩
  | _ => exact ⟨Becomes.limit ‹_›, Becomes.cap ‹_›⟩

theorem wf_fresh (limit capacity : UInt64) : (fresh limit capacity).WF where
  attached hs := by cases hs
  distinct hs := by cases hs
  arenaIds hp := by cases hp
  blockIds hid := by cases hid
  blockArenas := AList.all_empty

theorem bounded_fresh {limit capacity : UInt64} (hlimit : limit.toNat < 2 ^ 62)
    (hcap : capacity.toNat < 2 ^ 62) : (fresh limit capacity).Bounded where
  slack := Int.le_refl 0
  total := Nat.zero_le _
  limit := hlimit
  cap := hcap
  floors := AList.all_empty
  blocks := AList.all_empty

theorem Solvent.next {limit capacity : UInt64} {op : GpuOp}
    (hs : w.Solvent limit capacity) (hproper : w.Proper op)
    (hno : w.NoOverReturn op) (hfit : w.Fits op) :
    (w.next op).Solvent limit capacity := by
  have heff := effect_next hs.wf hs.bounded hproper hfit
  obtain ⟨hlimit, hcap⟩ := heff.limits
  exact {
    wf := wf_next hs.wf heff
    bounded := bounded_next hs.bounded hproper heff
      (Int.le_trans hs.bounded.slack (slack_le_next hs.wf heff hno))
    limit := hlimit.trans hs.limit
    cap := hcap.trans hs.cap }

/-- The part of a reservation the claim counts is part of its headroom. -/
theorem unused_le_headroom (w : GpuWorld) :
    (w.res.arenas.sumBy fun _ a =>
      max 0 (a.size.toInt - max 0 a.allocatedBytes.toInt)) ≤
    w.ledger.accounts.sumBy fun _ a => a.headroom := by
  rw [sumBy_accounts]
  refine AList.sumBy_le_sumBy fun e _ => ?_
  simp only [Account.headroom, DeviceReservedArena.account_floor,
    DeviceReservedArena.account_used]
  omega

theorem Solvent.guaranteed {limit capacity : UInt64}
    (hs : w.Solvent limit capacity) (hle : limit.toNat ≤ capacity.toNat) :
    w.Guaranteed := by
  have htotal := hs.bounded.total
  rw [hs.limit, hs.cap] at htotal
  constructor
  · have hworth := hs.bounded.funded.worth_le
    have hunused := unused_le_headroom w
    have hout : w.ledger.outstanding =
      w.blocks.sumBy fun _ b => ((round256 b.bytes).toNat : Int) := rfl
    rw [hs.cap]
    omega
  · intro bytes s a upstream hbytes harena hin
    obtain ⟨st, hst, ha⟩ := arenaAt_eq_some.mp harena
    have hn := round256_le hbytes
    have hroom := hs.bounded.used_ge ha
    have hcap : w.res.mr.totalAllocatedBytes.toNat ≤
        w.res.mr.capacity.toNat := by
      rw [hs.cap]
      omega
    simp only [GpuResource.doAllocate, hst, ha,
      allocateTracked_inside (by omega) (hs.bounded.funded.size ha) (by omega) hin hcap]
    cases upstream with
    | ok ptr => rfl
    | error e => rfl

/-- In a run without over-returning frees and without overflow, nothing is
oversubscribed and no reservation is refused. -/
theorem always_guaranteed {limit capacity : UInt64} {ops : List GpuOp}
    (hle : limit.toNat ≤ capacity.toNat) (hcap : capacity.toNat < 2 ^ 62)
    (hlaw : (machine Proper).Lawful (fresh limit capacity) ops)
    (hops : (machine Proper).Every
      (fun w op => w.NoOverReturn op ∧ w.Fits op) (fresh limit capacity) ops) :
    (machine Proper).Always Guaranteed (fresh limit capacity) ops := by
  have hstart : (fresh limit capacity).Solvent limit capacity :=
    ⟨wf_fresh limit capacity, bounded_fresh (by omega) hcap, rfl, rfl⟩
  refine Machine.Always.mono (fun w hs => hs.guaranteed hle)
    (Machine.always_of_every ?_ hstart hlaw hops)
  intro w op hs hproper ⟨hno, hfit⟩
  exact hs.next hproper hno hfit

/-- A reserved stream, a request the upstream refuses, and a block freed on
another stream than its own. -/
def crossStreamOps : List GpuOp :=
  [.reserve 512, .attach 1 0 (some .fail) none, .allocate 256 1 (.ok 0x100),
    .reserveUpto 4096, .allocate 100 2 (.error (.stdException "no memory")),
    .deallocate 1 2, .resetStream 1]

theorem always_guaranteed_crossStream :
    (machine Proper).Always Guaranteed (fresh 1024 2048) crossStreamOps :=
  always_guaranteed (by decide) (by decide)
    (show (machine Proper).Every Proper _ _ by decide) (by decide)

/-- A block of 768 bytes on a reservation of 512: freeing it takes 512 off the
total, which had been charged 256, and a second reservation is then granted
bytes that the first still holds. -/
def straddlingFreeOps : List GpuOp :=
  [.reserve 512, .attach 1 0 none none, .allocate 768 1 (.ok 0x100),
    .deallocate 1 1, .reserve 768]

theorem oversubscribed_after_straddling_free :
    (machine Proper).Lawful (fresh 1024 1024) straddlingFreeOps ∧
      ¬ (machine Proper).Always Guaranteed (fresh 1024 1024)
        straddlingFreeOps := by
  refine ⟨show (machine Proper).Every Proper _ _ by decide, ?_⟩
  intro h
  exact absurd h.last.fits (by decide)

end

end GpuWorld

end CuCascade.Memory

import CuCascade.Lib.Cover
import CuCascade.Memory.TierWorlds
import CuCascade.Proofs.HostLedger

/-!
# What a host pool reports of its reservations

The pool has no word for the reserved bytes. It adds up the sizes of the
registered arenas each time it is asked, so what it reports is right by itself,
and that the sizes stay within the limit follows from the counter, which covers
them and the blocks of the other allocations.

The upstream may throw in the middle of an allocation. The bytes it was to have
then stay charged and stay on its tracker, which errs on the safe side.

An allocation knows its arena by the address, so a new arena must not lie where
the arena of a live allocation lay.
-/

namespace CuCascade.Memory

open HostResource

namespace HostTier

/-- What a call must not do for the reports to be right: grant a size that is
no `int64_t`, or put an arena where one was under which an allocation was
made. -/
def Settled (w : HostTier) : HostTierOp → Prop
  | .reserve self bytes =>
      (w.res.allocatedBytes.toNat + (alignUp bytes w.res.blockSize).toNat ≤
        w.res.memoryLimit.toNat → (alignUp bytes w.res.blockSize).toNat < 2 ^ 63) ∧
      w.allocations.All fun _ a => a.reservedMemory ≠ some self
  | .reserveUpto self bytes =>
      min (alignUp bytes w.res.blockSize).toNat (w.res.memoryLimit.toNat -
        w.res.allocatedBytes.toNat) < 2 ^ 63 ∧
      w.allocations.All fun _ a => a.reservedMemory ≠ some self
  | .growBy p bytes => ∀ arena ∈ w.res.arenas.lookup p,
      w.res.allocatedBytes.toNat + (alignUp bytes w.res.blockSize).toNat ≤
        w.res.memoryLimit.toNat →
      arena.size.toInt + (alignUp bytes w.res.blockSize).toNat < 2 ^ 63
  | .shrinkToFit _ | .release _ | .allocate _ _ _ _ | .free _ => True

instance (w : HostTier) : (op : HostTierOp) → Decidable (w.Settled op)
  | .reserve _ _ | .reserveUpto _ _ => inferInstanceAs (Decidable (_ ∧ _))
  | .growBy p _ => inferInstanceAs (Decidable (∀ arena ∈ w.res.arenas.lookup p, _))
  | .shrinkToFit _ | .release _ | .allocate _ _ _ _ | .free _ => isTrue trivial

/-- The bytes of the blocks an allocation holds. -/
abbrev blockBytes (r : HostResource) (a : MultipleBlocksAllocation) : Int :=
  r.bytesOf a.blocks.length

/-- The invariant of settled runs. -/
structure Accounted (w : HostTier) : Prop where
  synced : w.res.Synced
  cover : Covered MultipleBlocksAllocation.reservedMemory (blockBytes w.res)
    w.res.memoryLimit.toNat w.res.accounts w.res.allocatedBytes.toNat w.allocations

section

variable {w : HostTier} {p : Addr} {arena : ChunkedReservedArea} {used : Int64}
  {r : HostResource} {allocations : Table Nat MultipleBlocksAllocation}

/-- What is to be shown of a call that leaves the books `l`. -/
theorem Accounted.become {l : Ledger Addr Int} (hb : w.res.Becomes r l)
    (hcover : Covered MultipleBlocksAllocation.reservedMemory (blockBytes w.res)
      w.res.memoryLimit.toNat l.accounts l.charged allocations) :
    Accounted ⟨r, allocations⟩ := by
  have hbytes : blockBytes r = blockBytes w.res := by
    funext a
    rw [blockBytes, bytesOf, hb.blockSize]
    rfl
  refine ⟨hb.synced, ?_⟩
  show Covered _ (blockBytes r) r.memoryLimit.toNat r.accounts r.allocatedBytes.toNat _
  rw [hbytes, hb.memoryLimit, hb.charged]
  exact hcover.congr hb.accounts

theorem Accounted.holds (h : w.Accounted) (hp : p ∈ w.res.arenas) :
    ∃ arena used, w.res.Holds p arena used ∧ 0 ≤ used.toInt ∧
      used.toInt ≤ arena.size.toInt ∧
      arena.size.toInt ≤ w.res.allocatedBytes.toNat := by
  obtain ⟨arena, used, hholds⟩ := h.synced.holds ((h.synced p).mpr hp)
  have hfloor := h.cover.floor_le hholds.account
  have hsizes := h.cover.sizes_le
  exact ⟨arena, used, hholds, h.cover.used_nonneg hholds.account,
    h.cover.inside.get hholds.account, Int.le_trans hfloor hsizes⟩

theorem Accounted.lookup_none (h : w.Accounted) (hp : p ∉ w.res.arenas) :
    w.res.activeReservations.lookup p = none :=
  AList.lookup_eq_none.mpr fun hmem => hp ((h.synced p).mp hmem)

theorem Accounted.account_none (h : w.Accounted) (hp : p ∉ w.res.arenas) :
    w.res.accounts.lookup p = none := by
  rw [accounts, AList.lookup_mapVal, h.lookup_none hp]
  rfl

theorem accounted_reserve (h : w.Accounted) {bytes : UInt64} (hp : p ∉ w.res.arenas)
    (hset : w.Settled (.reserve p bytes)) : (w.next (.reserve p bytes)).Accounted := by
  have hcases : (∃ g : UInt64, w.res.allocatedBytes.toNat + g.toNat ≤
        w.res.memoryLimit.toNat ∧ w.res.Becomes (w.res.reserve p bytes none).2
          ((w.res.ledger 0).open' p g.toNat)) ∨
      (w.res.reserve p bytes none).2 = w.res :=
    reserve_becomes h.synced (h.lookup_none hp) hset.1 none
  rcases hcases with ⟨g, hroom, hb⟩ | heq
  · refine Accounted.become hb ?_
    exact h.cover.open' (h.account_none hp) hset.2 (Int.natCast_nonneg _) (by omega)
  · simp only [next, heq]
    exact h

theorem accounted_reserveUpto (h : w.Accounted) {bytes : UInt64}
    (hp : p ∉ w.res.arenas) (hset : w.Settled (.reserveUpto p bytes)) :
    (w.next (.reserveUpto p bytes)).Accounted := by
  have hgrant : ∃ g : UInt64, (g.toNat = 0 ∨
        w.res.allocatedBytes.toNat + g.toNat ≤ w.res.memoryLimit.toNat) ∧
      w.res.Becomes (w.res.reserveUpto p bytes none).2
        ((w.res.ledger 0).open' p g.toNat) :=
    reserveUpto_becomes h.synced (h.lookup_none hp) hset.1 none
  obtain ⟨g, hroom, hb⟩ := hgrant
  refine Accounted.become hb ?_
  exact h.cover.open' (h.account_none hp) hset.2 (Int.natCast_nonneg _) (by omega)

theorem accounted_growBy (h : w.Accounted) {bytes : UInt64} (hp : p ∈ w.res.arenas)
    (hset : w.Settled (.growBy p bytes)) : (w.next (.growBy p bytes)).Accounted := by
  obtain ⟨arena, used, hholds, hused, hin, -⟩ := h.holds hp
  have hcases : (∃ g : UInt64, w.res.allocatedBytes.toNat + g.toNat ≤
        w.res.memoryLimit.toNat ∧ w.res.Becomes (w.res.growBy p bytes).1
          ((w.res.ledger 0).refloor p ⟨arena.size.toInt, used.toInt⟩
            (arena.size.toInt + g.toNat))) ∨
      (w.res.growBy p bytes).1 = w.res :=
    growBy_becomes h.synced hholds (by omega) (hset arena hholds.arena)
      fun _ => Or.inr hin
  rcases hcases with ⟨g, hroom, hb⟩ | heq
  · have hcharged : (w.res.ledger 0).charged = w.res.allocatedBytes.toNat := rfl
    refine Accounted.become hb ?_
    refine h.cover.update hholds.account (Int.le_refl _) ?_ ?_ (Or.inr ?_)
    all_goals
      simp only [Ledger.refloor, Account.withFloor, Account.headroom]
      omega
  · simp only [next, heq]
    exact h

theorem accounted_shrinkToFit (h : w.Accounted) (hp : p ∈ w.res.arenas) :
    (w.next (.shrinkToFit p)).Accounted := by
  obtain ⟨arena, used, hholds, hused, hin, hle⟩ := h.holds hp
  have hshrunk : ∃ f, 0 ≤ f ∧ f ≤ arena.size.toInt ∧
      (used.toInt ≤ arena.size.toInt → used.toInt ≤ f) ∧
      w.res.Becomes (w.res.shrinkToFit p).1
        ((w.res.ledger 0).refloor p ⟨arena.size.toInt, used.toInt⟩ f) :=
    shrinkToFit_becomes h.synced hholds (by omega) hused (by omega)
  obtain ⟨f, hf, hfloor, hover, hb⟩ := hshrunk
  have hroom := hover hin
  have hcharged : (w.res.ledger 0).charged = w.res.allocatedBytes.toNat := rfl
  refine Accounted.become hb ?_
  refine h.cover.update hholds.account (Int.le_refl _) hroom ?_ (Or.inl hfloor)
  simp only [Ledger.refloor, Account.withFloor, Account.headroom]
  omega

theorem accounted_release (h : w.Accounted) (hp : p ∈ w.res.arenas) :
    (w.next (.release p)).Accounted := by
  obtain ⟨arena, used, hholds, hused, hin, hle⟩ := h.holds hp
  have hb : w.res.Becomes (w.res.destroyArena p).1
      ((w.res.ledger 0).close p ⟨arena.size.toInt, used.toInt⟩) :=
    destroyArena_becomes h.synced hholds hused (by omega)
  have hcharged : (w.res.ledger 0).charged = w.res.allocatedBytes.toNat := rfl
  refine Accounted.become hb ((h.cover.close hholds.account).leak ?_)
  simp only [Ledger.close, Account.headroom]
  omega

/-! ## Allocations -/

/-- The blocks of a request hold no more than its bytes. -/
theorem bytesOf_le (r : HostResource) (n : UInt64) :
    r.bytesOf (n / r.blockSize).toNat ≤ n.toNat := by
  rw [bytesOf, UInt64.toNat_div]
  exact_mod_cast Nat.div_mul_le_self _ _

/-- What a call that changed the counter alone leaves. -/
theorem Accounted.moved (h : w.Accounted) {d : Int} (hd : 0 ≤ d)
    (hm : w.res.Moved r d) (hused : r.activeReservations = w.res.activeReservations)
    (harenas : r.arenas = w.res.arenas) : Accounted ⟨r, w.allocations⟩ := by
  have hb : w.res.Becomes r ⟨w.res.accounts, 0, w.res.allocatedBytes.toNat + d⟩ :=
    becomes_same h.synced (fun q => congrArg (AList.lookup q) hused) harenas hm rfl rfl
  refine Accounted.become hb (h.cover.leak ?_)
  dsimp only
  omega

theorem accounted_allocateLoose (h : w.Accounted) {id : Nat}
    (hid : w.allocations.lookup id = none) {n : UInt64}
    {upstream : Nat → UInt64 → Except Exception Addr}
    {out : Except Failure (Option MultipleBlocksAllocation)}
    (halloc : w.res.allocateTracked upstream n n none = (r, out)) :
    (∀ a, out = .ok (some a) → Accounted ⟨r, w.allocations.insert id a⟩) ∧
      ((∀ a, out ≠ .ok (some a)) → Accounted ⟨r, w.allocations⟩) := by
  rcases allocateTracked_books halloc with ⟨blocks, rfl, hlen, hle, hb⟩ |
    ⟨hno, _, hb, rfl⟩ | ⟨hno, -, hle, hb⟩
  · refine ⟨?_, fun hno => absurd rfl (hno _)⟩
    intro a ha
    cases ha
    have hm := hb.moved hle
    have hbooks : w.res.Becomes r
        ⟨w.res.accounts, 0, w.res.allocatedBytes.toNat + n.toNat⟩ :=
      becomes_same h.synced (fun q => congrArg (AList.lookup q) hb.activeReservations)
        hb.arenas hm rfl rfl
    refine Accounted.become hbooks (h.cover.drawLoose hid (fun _ _ => nofun) ?_)
    have hbytes := bytesOf_le w.res n
    rw [← hlen] at hbytes
    dsimp only [blockBytes]
    omega
  · refine ⟨fun a ha => absurd ha (hno a), fun _ => ?_⟩
    have hm : w.res.Moved r 0 :=
      ⟨by rw [hb.allocatedBytes, add_zero], hb.memoryLimit, hb.memoryCapacity,
        hb.blockSize⟩
    exact h.moved (Int.le_refl 0) hm hb.activeReservations hb.arenas
  · refine ⟨fun a ha => absurd ha (hno a), fun _ => ?_⟩
    exact h.moved (Int.natCast_nonneg _) (hb.moved hle) hb.activeReservations hb.arenas

/-- What a call that wrote the tracker of `p` and moved the counter by `d`
leaves. -/
theorem Accounted.tracked (h : w.Accounted) (hp : w.res.Holds p arena used)
    {used' : Int64} {d : Int} (hm : w.res.Moved r d)
    (hused : r.activeReservations = w.res.activeReservations.insert p used')
    (harenas : r.arenas = w.res.arenas)
    (hcover : Covered MultipleBlocksAllocation.reservedMemory (blockBytes w.res)
      w.res.memoryLimit.toNat
      (w.res.accounts.insert p ⟨arena.size.toInt, used'.toInt⟩)
      (w.res.allocatedBytes.toNat + d) allocations) : Accounted ⟨r, allocations⟩ := by
  have hwrites := writes_used hp hused harenas
  have hb : w.res.Becomes r ⟨w.res.accounts.insert p ⟨arena.size.toInt, used'.toInt⟩,
      0, w.res.allocatedBytes.toNat + d⟩ :=
    hwrites.becomes h.synced hm rfl rfl
  exact Accounted.become hb hcover

/-- An allocation inside its reservation charges nothing. -/
theorem accounted_allocateUnder (h : w.Accounted) {id : Nat}
    (hid : w.allocations.lookup id = none) (hp : w.res.Holds p arena used) {n : UInt64}
    (hin : used.toInt + n.toNat ≤ arena.size.toInt)
    {upstream : Nat → UInt64 → Except Exception Addr}
    {out : Except Failure (Option MultipleBlocksAllocation)}
    (halloc : allocateTracked
      { w.res with
        activeReservations := w.res.activeReservations.insert p (used + n.toInt64) }
      upstream n
      (upstreamTrackedBytes n arena.size used (used + n.toInt64)) (some p) = (r, out)) :
    (∀ a, out = .ok (some a) → Accounted ⟨r, w.allocations.insert id a⟩) ∧
      ((∀ a, out ≠ .ok (some a)) → Accounted ⟨r, w.allocations⟩) := by
  have hhi := arena.size.toInt_lt
  have hused := h.cover.used_nonneg hp.account
  dsimp only at hused
  have hcast := Word.toInt_toInt64 (a := n) (by omega)
  have hsum := Word.toInt_add (a := used) (b := n.toInt64) (by omega) (by omega)
  have hcharge := upstreamTrackedBytes_spec (n := n) arena.size used (by omega)
    (by omega) hused (by omega)
  have hfree : (upstreamTrackedBytes n arena.size used (used + n.toInt64)).toNat = 0 := by
    omega
  rcases allocateTracked_books halloc with ⟨blocks, rfl, hlen, hle, hb⟩ |
    ⟨hno, r₁, hb, rfl⟩ | ⟨hno, -, hle, hb⟩
  · refine ⟨?_, fun hno => absurd rfl (hno _)⟩
    intro a ha
    cases ha
    have hm := hb.moved hle
    rw [hfree] at hm
    refine h.tracked hp ⟨hm.total, hm.memoryLimit, hm.memoryCapacity, hm.blockSize⟩
      hb.activeReservations hb.arenas ?_
    rw [Nat.cast_zero, add_zero]
    have hbytes := bytesOf_le w.res n
    dsimp only at hlen
    rw [← hlen] at hbytes
    refine h.cover.draw hid hp.account rfl rfl ?_ ?_
    · dsimp only [blockBytes]
      omega
    · dsimp only
      omega
  · refine ⟨fun a ha => absurd ha (hno a), fun _ => ?_⟩
    exact Accounted.become (becomes_untrack (o := 0) h.synced hp.used hb) h.cover
  · refine ⟨fun a ha => absurd ha (hno a), fun _ => ?_⟩
    have hm := hb.moved hle
    refine h.tracked hp ⟨hm.total, hm.memoryLimit, hm.memoryCapacity, hm.blockSize⟩
      hb.activeReservations hb.arenas ?_
    refine h.cover.update hp.account ?_ ?_ ?_ (Or.inl (Int.le_refl _))
    all_goals
      dsimp only
      omega

theorem accounted_allocate (h : w.Accounted) {id : Nat} {n : UInt64}
    {res : Option Addr} {upstream : Nat → UInt64 → Except Exception Addr}
    (hwithin : w.Within (.allocate id n res upstream)) :
    (w.next (.allocate id n res upstream)).Accounted := by
  obtain ⟨hmem, hinside⟩ := hwithin
  have hid := AList.lookup_eq_none.mpr hmem
  rcases halloc : w.res.allocateMultipleBlocks n (res.map some) upstream with ⟨r, out⟩
  -- an outcome is an allocation or it is not
  have hnext : (∀ a, out = .ok (some a) → Accounted ⟨r, w.allocations.insert id a⟩) →
      ((∀ a, out ≠ .ok (some a)) → Accounted ⟨r, w.allocations⟩) →
      (w.next (.allocate id n res upstream)).Accounted := by
    intro hmade hnone
    simp only [next, halloc]
    match out, hmade, hnone with
    | .ok (some a), hmade, _ => exact hmade a rfl
    | .ok none, _, hnone => exact hnone nofun
    | .error e, _, hnone => exact hnone nofun
  unfold allocateMultipleBlocks at halloc
  split at halloc
  · cases halloc
    refine hnext ?_ (fun hno => absurd rfl (hno _))
    intro a ha
    cases ha
    refine ⟨h.synced, h.cover.drawLoose hid (fun _ _ => nofun) ?_⟩
    have hzero : blockBytes w.res .empty = 0 := bytesOf_zero w.res
    rw [hzero, add_zero]
  · split at halloc
    · cases halloc
      exact hnext (fun a ha => by cases ha) fun _ => h
    · cases res with
      | none =>
          obtain ⟨hmade, hnone⟩ := accounted_allocateLoose h hid halloc
          exact hnext hmade hnone
      | some p =>
          obtain ⟨arena, harena, used, hused, hin⟩ := hinside p rfl
          have hholds : w.res.Holds p arena used := ⟨harena, hused⟩
          simp only [Option.map_some, hholds.used, hholds.arena] at halloc
          obtain ⟨hmade, hnone⟩ := accounted_allocateUnder h hid hholds hin halloc
          exact hnext hmade hnone

theorem accounted_free (h : w.Accounted) (id : Nat) : (w.next (.free id)).Accounted := by
  cases ha : w.allocations.lookup id with
  | none =>
      simp only [next, ha]
      exact h
  | some a =>
      simp only [next, ha]
      by_cases hempty : a.blocks = [] ∨ a.mr = false
      · have hsame : (w.res.destroyAllocation a).1 = w.res := by
          rcases hempty with hnil | hmr
          · simp only [destroyAllocation, hnil, List.isEmpty_nil, Bool.not_true,
              Bool.and_false, Bool.false_eq_true, if_false]
          · simp only [destroyAllocation, hmr, Bool.false_and, Bool.false_eq_true,
              if_false]
        rw [hsame]
        exact ⟨h.synced, h.cover.drop ha⟩
      · obtain ⟨hblocks, hmr⟩ := not_or.mp hempty
        rw [Bool.not_eq_false] at hmr
        by_cases hp : ∃ p, a.reservedMemory = some p ∧ p ∈ w.res.arenas
        · obtain ⟨p, hres, hmem⟩ := hp
          obtain ⟨arena, used, hholds, hused, hin, hle⟩ := h.holds hmem
          have hunder : blockBytes w.res a ≤ used.toInt :=
            h.cover.amount_le_used ha hholds.account hres
          have hb : w.res.Becomes (w.res.destroyAllocation a).1
              ((w.res.ledger 0).draw p ⟨arena.size.toInt, used.toInt⟩
                (-blockBytes w.res a)) :=
            destroyUnder_becomes h.synced hmr hblocks hholds hres (by omega) (by omega)
              hunder
          have hcharged : ((w.res.ledger 0).draw p ⟨arena.size.toInt, used.toInt⟩
              (-blockBytes w.res a)).charged = w.res.allocatedBytes.toNat := by
            have hamount := h.cover.amounts a
            simp only [ledger, Ledger.draw, Account.draw, Account.charge]
            omega
          refine Accounted.become hb ?_
          rw [hcharged]
          exact h.cover.repay ha hholds.account hres rfl (sub_eq_add_neg _ _).symm
        · have hloose : ∀ q ∈ w.res.accounts, a.reservedMemory ≠ some q := by
            intro q hq hres
            exact hp ⟨q, hres, (h.synced q).mp (mem_accounts.mp hq)⟩
          have hle := h.cover.amount_le ha hloose
          have hb : w.res.Becomes (w.res.destroyAllocation a).1
              ((w.res.ledger 0).drawLoose (-blockBytes w.res a)) := by
            refine destroyLoose_becomes h.synced hmr hblocks (fun q hres => ?_) hle
            exact AList.lookup_eq_none.mpr fun hmem =>
              hloose q (mem_accounts.mpr hmem) hres
          exact Accounted.become hb (h.cover.repayLoose ha hloose (Int.le_refl _))

/-! ## Whole runs -/

theorem accounted_next (h : w.Accounted) {op : HostTierOp} (hwithin : w.Within op)
    (hset : w.Settled op) : (w.next op).Accounted := by
  cases op with
  | reserve p bytes => exact accounted_reserve h hwithin hset
  | reserveUpto p bytes => exact accounted_reserveUpto h hwithin hset
  | growBy p bytes => exact accounted_growBy h hwithin hset
  | shrinkToFit p => exact accounted_shrinkToFit h hwithin
  | release p => exact accounted_release h hwithin
  | allocate id n res upstream => exact accounted_allocate h hwithin
  | free id => exact accounted_free h id

/-- What the pool reports, and the sizes of its arenas. -/
def Reports (w : HostTier) : Prop :=
  Reported w.res.getTotalReservedBytes w.res.getActiveReservationCount
    (w.res.arenas.mapVal fun _ arena => arena.size) w.res.memoryLimit

/-- The loop that adds up the sizes, from a total it has come to. -/
theorem toNat_foldl_sizes (r : HostResource) (l : List (Σ _ : Addr, Int64)) :
    ∀ total : UInt64, total.toNat +
        (l.map fun e => max 0 (r.sizeAt e.1)).sum < 2 ^ 64 →
      ((l.foldl (fun total e =>
        match r.arenas.lookup e.1 with
        | none => total
        | some res => total + (max 0 res.size).toUInt64) total).toNat : Int) =
        total.toNat + (l.map fun e => max 0 (r.sizeAt e.1)).sum := by
  induction l with
  | nil => exact fun total _ => (add_zero _).symm
  | cons e l ih =>
      intro total hlt
      have hrest : 0 ≤ (l.map fun e => max 0 (r.sizeAt e.1)).sum :=
        List.sum_nonneg fun x hx => by
          obtain ⟨e, -, rfl⟩ := List.mem_map.mp hx
          exact le_max_left _ _
      rw [List.map_cons, List.sum_cons] at hlt ⊢
      rw [List.foldl_cons]
      cases hres : r.arenas.lookup e.1 with
      | none =>
          have hzero : r.sizeAt e.1 = 0 := by
            simp only [sizeAt, hres]
          rw [hzero] at hlt ⊢
          dsimp only
          rw [ih total (by omega)]
          omega
      | some res =>
          have hsize : r.sizeAt e.1 = res.size.toInt := by
            simp only [sizeAt, hres]
          have hcast := Word.toNat_toUInt64_max res.size
          rw [hsize] at hlt ⊢
          have hadd := Word.toNat_add (a := total) (b := (max 0 res.size).toUInt64)
            (by omega)
          dsimp only
          rw [ih _ (by omega), hadd]
          omega

/-- The sizes of the arenas, summed over the registered ones. -/
theorem Accounted.floors (h : w.Accounted) :
    (w.res.accounts.sumBy fun _ a => a.floor) =
      (w.res.arenas.mapVal fun _ arena => arena.size).sumBy
        fun _ size => size.toInt := by
  have hkeys := AList.sumBy_keys h.synced fun p => w.res.sizeAt p
  have hregistered : (w.res.accounts.sumBy fun _ a => a.floor) =
      w.res.activeReservations.sumBy fun p _ => w.res.sizeAt p :=
    AList.sumBy_mapVal
  rw [hregistered, hkeys, AList.sumBy_mapVal]
  refine AList.sumBy_congr fun e he => ?_
  simp only [sizeAt, AList.mem_entries_iff.mp he]

theorem Accounted.size_nonneg (h : w.Accounted)
    (hp : w.res.arenas.lookup p = some arena) : 0 ≤ arena.size.toInt := by
  obtain ⟨arena', used, hholds, hused, hin, -⟩ := h.holds (AList.mem_of_lookup hp)
  rw [hholds.arena, Option.some.injEq] at hp
  subst hp
  omega

theorem Accounted.reports (h : w.Accounted) : w.Reports := by
  have hsizes : (w.res.activeReservations.sumBy fun p _ => max 0 (w.res.sizeAt p)) =
      w.res.accounts.sumBy fun _ a => a.floor := by
    have hregistered : (w.res.accounts.sumBy fun _ a => a.floor) =
        w.res.activeReservations.sumBy fun p _ => w.res.sizeAt p :=
      AList.sumBy_mapVal
    rw [hregistered]
    refine AList.sumBy_congr fun e he => max_eq_right ?_
    obtain ⟨arena, used, hholds⟩ :=
      h.synced.holds (AList.mem_of_lookup (AList.mem_entries_iff.mp he))
    simp only [sizeAt, hholds.arena]
    exact h.size_nonneg hholds.arena
  have hlimit := h.cover.sizes
  have hword := w.res.memoryLimit.toNat_lt
  have htotal := toNat_foldl_sizes w.res w.res.activeReservations.entries 0
    (by
      have hsum : (w.res.activeReservations.entries.map
          fun e => max 0 (w.res.sizeAt e.1)).sum =
          w.res.accounts.sumBy fun _ a => a.floor := hsizes
      have hzero : (0 : UInt64).toNat = 0 := rfl
      omega)
  have hreported : (w.res.getTotalReservedBytes.toNat : Int) =
      w.res.accounts.sumBy fun _ a => a.floor := by
    rw [← hsizes]
    exact htotal.trans (zero_add _)
  have hcount : w.res.activeReservations.count = w.res.arenas.count :=
    AList.sumBy_keys h.synced fun _ => 1
  refine .of_nonneg (AList.all_mapVal.mpr fun p arena ha => h.size_nonneg ha) ?_ ?_ ?_
  · rw [← h.floors]
    exact hreported
  · rw [AList.count_mapVal, ← hcount]
    rfl
  · rw [← h.floors]
    exact hlimit

/-- The pools a pool starts with hold no books. -/
theorem accounted_fresh (limit capacity blockSize poolSize : UInt64)
    (initialPools : List Addr) :
    (fresh limit capacity blockSize poolSize initialPools).Accounted := by
  have hb := create_sameBooks limit capacity blockSize poolSize initialPools
  have hempty : Accounted (fresh limit capacity blockSize poolSize []) :=
    ⟨fun _ => iff_of_false nofun nofun,
      ⟨AList.all_empty, AList.all_empty,
        fun a => Int.mul_nonneg (Int.natCast_nonneg _) (Int.natCast_nonneg _),
        Int.le_refl 0, Int.natCast_nonneg limit.toNat⟩⟩
  refine hempty.moved (Int.le_refl 0) ⟨?_, hb.memoryLimit, hb.memoryCapacity,
    hb.blockSize⟩ hb.activeReservations hb.arenas
  rw [hb.allocatedBytes, add_zero]
  rfl

theorem always_reports {limit capacity blockSize poolSize : UInt64}
    {initialPools : List Addr} {ops : List HostTierOp}
    (hlaw : machine.Lawful (fresh limit capacity blockSize poolSize initialPools) ops)
    (hset : machine.Every Settled
      (fresh limit capacity blockSize poolSize initialPools) ops) :
    machine.Always Reports
      (fresh limit capacity blockSize poolSize initialPools) ops :=
  (Machine.always_of_every (I := Accounted)
    (fun _ _ h hwithin hset => accounted_next h hwithin hset)
    (accounted_fresh limit capacity blockSize poolSize initialPools) hlaw
    hset).mono fun _ h => h.reports

end

end HostTier

end CuCascade.Memory

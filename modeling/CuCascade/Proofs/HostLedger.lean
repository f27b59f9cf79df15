import CuCascade.Lib.Ledger
import CuCascade.Proofs.HostPool

/-!
# What each function of the host pool does to its books

The counterpart of the GPU specifications. Here the reservation sits in one
place and the bytes allocated under it in another: the size is a field of the
arena, the use an entry of `_active_reservations`, found by the address of the
arena. An account is the two read together, and `accounts` is a table of them
under the addresses that are registered.

Because the two halves are written separately, a table of accounts is only
known entry by entry. `Becomes` therefore compares lookups: after the call the
counter is that of the ledger, and each address has the account it has there.
-/

namespace CuCascade.Memory

open Utils

namespace HostResource

/-- The size of the arena at `p`. -/
def sizeAt (r : HostResource) (p : Addr) : Int :=
  match r.arenas.lookup p with
  | none => 0
  | some arena => arena.size.toInt

/-- The registered reservations as accounts. -/
def accounts (r : HostResource) : Table Addr (Account Int) :=
  r.activeReservations.mapVal fun p used => ⟨r.sizeAt p, used.toInt⟩

/-- The books of the resource while `outstanding` bytes are out. -/
def ledger (r : HostResource) (outstanding : Int) : Ledger Addr Int :=
  ⟨r.accounts, outstanding, r.allocatedBytes.toNat⟩

/-- An address is registered while there is an arena at it. -/
def Synced (r : HostResource) : Prop :=
  ∀ p, p ∈ r.activeReservations ↔ p ∈ r.arenas

/-- The registered arena at `p`, with its size and what is drawn on it. -/
structure Holds (r : HostResource) (p : Addr) (arena : ChunkedReservedArea)
    (used : Int64) : Prop where
  arena : r.arenas.lookup p = some arena
  used : r.activeReservations.lookup p = some used

/-- A call that wrote at most the entries of `p`, and left these there. -/
structure Writes (r r' : HostResource) (p : Addr) (arena : ChunkedReservedArea)
    (used : Int64) : Prop where
  holds : r'.Holds p arena used
  used : ∀ q, q ≠ p →
    r'.activeReservations.lookup q = r.activeReservations.lookup q
  arenas : ∀ q, q ≠ p → r'.arenas.lookup q = r.arenas.lookup q

/-- A call that moved the counter by `d` and no setting. -/
structure Moved (r r' : HostResource) (d : Int) : Prop where
  total : (r'.allocatedBytes.toNat : Int) = r.allocatedBytes.toNat + d
  memoryLimit : r'.memoryLimit = r.memoryLimit
  memoryCapacity : r'.memoryCapacity = r.memoryCapacity
  blockSize : r'.blockSize = r.blockSize

/-- After a call: the books `l`, and the settings of `r`. -/
structure Becomes (r r' : HostResource) (l : Ledger Addr Int) : Prop where
  accounts : ∀ q, r'.accounts.lookup q = l.accounts.lookup q
  charged : (r'.allocatedBytes.toNat : Int) = l.charged
  synced : r'.Synced
  memoryLimit : r'.memoryLimit = r.memoryLimit
  memoryCapacity : r'.memoryCapacity = r.memoryCapacity
  blockSize : r'.blockSize = r.blockSize

section

variable {r r' : HostResource} {p : Addr} {arena : ChunkedReservedArea}
  {used : Int64} {l : Ledger Addr Int} {d : Int}

theorem Holds.account (h : r.Holds p arena used) :
    r.accounts.lookup p = some ⟨arena.size.toInt, used.toInt⟩ := by
  simp only [accounts, AList.lookup_mapVal, h.used, Option.map_some, sizeAt,
    h.arena]

theorem mem_accounts : p ∈ r.accounts ↔ p ∈ r.activeReservations :=
  AList.mem_mapVal

theorem Synced.holds (h : r.Synced) (hp : p ∈ r.activeReservations) :
    ∃ arena used, r.Holds p arena used := by
  obtain ⟨used, hused⟩ := AList.exists_lookup hp
  obtain ⟨arena, harena⟩ := AList.exists_lookup ((h p).mp hp)
  exact ⟨arena, used, harena, hused⟩

theorem lookup_accounts_congr {q : Addr}
    (hused : r'.activeReservations.lookup q = r.activeReservations.lookup q)
    (harena : r'.arenas.lookup q = r.arenas.lookup q) :
    r'.accounts.lookup q = r.accounts.lookup q := by
  simp only [accounts, AList.lookup_mapVal, hused, sizeAt, harena]

theorem synced_congr {q : Addr} (hs : r.Synced)
    (hused : r'.activeReservations.lookup q = r.activeReservations.lookup q)
    (harena : r'.arenas.lookup q = r.arenas.lookup q) :
    q ∈ r'.activeReservations ↔ q ∈ r'.arenas := by
  rw [← AList.lookup_isSome, ← AList.lookup_isSome, hused, harena,
    AList.lookup_isSome, AList.lookup_isSome]
  exact hs q

theorem Writes.becomes (h : r.Writes r' p arena used) (hs : r.Synced)
    (hm : r.Moved r' d)
    (hl : l.accounts = r.accounts.insert p ⟨arena.size.toInt, used.toInt⟩)
    (hd : l.charged = r.allocatedBytes.toNat + d) : r.Becomes r' l := by
  refine ⟨fun q => ?_, hm.total.trans hd.symm, fun q => ?_, hm.memoryLimit,
    hm.memoryCapacity, hm.blockSize⟩
  · rw [hl]
    by_cases hq : q = p
    · subst hq
      rw [h.holds.account, AList.lookup_insert]
    · rw [AList.lookup_insert_ne hq]
      exact lookup_accounts_congr (h.used q hq) (h.arenas q hq)
  · by_cases hq : q = p
    · subst hq
      exact iff_of_true (AList.mem_of_lookup h.holds.used)
        (AList.mem_of_lookup h.holds.arena)
    · exact synced_congr hs (h.used q hq) (h.arenas q hq)

theorem writes_arena {arena' : ChunkedReservedArea} (h : r.Holds p arena used)
    (hused : r'.activeReservations = r.activeReservations)
    (harenas : r'.arenas = r.arenas.insert p arena') :
    r.Writes r' p arena' used := by
  refine ⟨⟨?_, ?_⟩, fun q _ => ?_, fun q hq => ?_⟩
  · rw [harenas, AList.lookup_insert]
  · rw [hused, h.used]
  · rw [hused]
  · rw [harenas, AList.lookup_insert_ne hq]

theorem writes_used {used' : Int64} (h : r.Holds p arena used)
    (hused : r'.activeReservations = r.activeReservations.insert p used')
    (harenas : r'.arenas = r.arenas) : r.Writes r' p arena used' := by
  refine ⟨⟨?_, ?_⟩, fun q hq => ?_, fun q _ => ?_⟩
  · rw [harenas, h.arena]
  · rw [hused, AList.lookup_insert]
  · rw [hused, AList.lookup_insert_ne hq]
  · rw [harenas]

/-- A call that left every account alone. -/
theorem becomes_same (hs : r.Synced)
    (hused : ∀ q, r'.activeReservations.lookup q = r.activeReservations.lookup q)
    (harenas : r'.arenas = r.arenas) (hm : r.Moved r' d)
    (hl : l.accounts = r.accounts)
    (hd : l.charged = r.allocatedBytes.toNat + d) : r.Becomes r' l := by
  have harena : ∀ q, r'.arenas.lookup q = r.arenas.lookup q := by
    intro q
    rw [harenas]
  refine ⟨fun q => ?_, hm.total.trans hd.symm, fun q => ?_, hm.memoryLimit,
    hm.memoryCapacity, hm.blockSize⟩
  · rw [hl]
    exact lookup_accounts_congr (hused q) (harena q)
  · exact synced_congr hs (hused q) (harena q)

theorem Becomes.refl (hs : r.Synced) (outstanding : Int) :
    r.Becomes r (r.ledger outstanding) :=
  ⟨fun _ => rfl, rfl, hs, rfl, rfl, rfl⟩

end

/-! ## Reserving -/

section

variable {r r' : HostResource} {p : Addr} {arena : ChunkedReservedArea}
  {used : Int64} {n : UInt64} {out : Int}

theorem doReserve_of_le (h : r.allocatedBytes.toNat + n.toNat ≤
    r.memoryLimit.toNat) :
    ∃ r', r.doReserve n r.memoryLimit = (true, r') ∧ r.Moved r' n.toNat ∧
      r'.activeReservations = r.activeReservations ∧ r'.arenas = r.arenas := by
  have hsum := toNat_add_of_le h
  simp only [doReserve, tryAdd_of_le h]
  exact ⟨_, rfl, ⟨by dsimp only; omega, rfl, rfl, rfl⟩, rfl, rfl⟩

theorem doReserve_of_lt (h : r.memoryLimit.toNat <
    r.allocatedBytes.toNat + n.toNat) :
    r.doReserve n r.memoryLimit = (false, r) := by
  simp only [doReserve, tryAdd_of_lt h]

theorem doReserveUpto_spec (r : HostResource) (n : UInt64) :
    ∃ g r', r.doReserveUpto n r.memoryLimit = (g, r') ∧
      g.toNat = min n.toNat (r.memoryLimit.toNat - r.allocatedBytes.toNat) ∧
      r.Moved r' g.toNat ∧ r'.activeReservations = r.activeReservations ∧
      r'.arenas = r.arenas := by
  obtain ⟨hgrant, hpost⟩ := addBounded_spec r.allocatedBytes n r.memoryLimit
  rcases h : addBounded r.allocatedBytes n r.memoryLimit with ⟨g, post⟩
  rw [h] at hgrant hpost
  dsimp only at hgrant hpost
  simp only [doReserveUpto, h]
  exact ⟨_, _, rfl, hgrant, ⟨by dsimp only; omega, rfl, rfl, rfl⟩, rfl, rfl⟩

/-- Registering an arena at an address that is not in use opens an account. -/
theorem registerReservation_becomes (hs : r.Synced)
    (hp : r.activeReservations.lookup p = none) (hn : n.toNat < 2 ^ 63)
    (hm : r.Moved r' n.toNat)
    (hused : r'.activeReservations = r.activeReservations)
    (harenas : r'.arenas = r.arenas) (notifier : Option EventNotifier) :
    r.Becomes (r'.registerReservation p n notifier)
      ((r.ledger out).open' p n.toNat) := by
  have hwrites : r.Writes (r'.registerReservation p n notifier) p
      ⟨n.toInt64, notifier⟩ 0 := by
    simp only [registerReservation, hused, hp]
    refine ⟨⟨AList.lookup_insert _, AList.lookup_insert _⟩, ?_, ?_⟩
    · intro q hq
      exact AList.lookup_insert_ne hq
    · intro q hq
      rw [← harenas]
      exact AList.lookup_insert_ne hq
  refine hwrites.becomes hs ⟨hm.total, hm.memoryLimit, hm.memoryCapacity,
    hm.blockSize⟩ ?_ rfl
  rw [Word.toInt_toInt64 hn]
  rfl

/-- `reserve` opens an account with the rounded size, or changes nothing. -/
theorem reserve_becomes (hs : r.Synced)
    (hp : r.activeReservations.lookup p = none)
    (hfit : r.allocatedBytes.toNat + (alignUp n r.blockSize).toNat ≤
      r.memoryLimit.toNat → (alignUp n r.blockSize).toNat < 2 ^ 63)
    (notifier : Option EventNotifier) :
    (∃ g : UInt64, r.allocatedBytes.toNat + g.toNat ≤ r.memoryLimit.toNat ∧
      r.Becomes (r.reserve p n notifier).2 ((r.ledger out).open' p g.toNat)) ∨
    (r.reserve p n notifier).2 = r := by
  rcases Nat.lt_or_ge r.memoryLimit.toNat
    (r.allocatedBytes.toNat + (alignUp n r.blockSize).toNat) with hlt | hle
  · refine Or.inr ?_
    simp only [reserve, doReserve_of_lt hlt]
  · obtain ⟨r₁, heq, hm, hused, harenas⟩ := doReserve_of_le hle
    refine Or.inl ⟨alignUp n r.blockSize, hle, ?_⟩
    simp only [reserve, heq]
    exact registerReservation_becomes hs hp (hfit hle) hm hused harenas notifier

/-- `reserve_upto` opens an account with the part of the rounded size that
fits. -/
theorem reserveUpto_becomes (hs : r.Synced)
    (hp : r.activeReservations.lookup p = none)
    (hfit : min (alignUp n r.blockSize).toNat
      (r.memoryLimit.toNat - r.allocatedBytes.toNat) < 2 ^ 63)
    (notifier : Option EventNotifier) :
    ∃ g : UInt64, (g.toNat = 0 ∨
        r.allocatedBytes.toNat + g.toNat ≤ r.memoryLimit.toNat) ∧
      r.Becomes (r.reserveUpto p n notifier).2
        ((r.ledger out).open' p g.toNat) := by
  obtain ⟨g, r₁, heq, hgrant, hm, hused, harenas⟩ :=
    doReserveUpto_spec r (alignUp n r.blockSize)
  refine ⟨g, by omega, ?_⟩
  simp only [reserveUpto, heq]
  exact registerReservation_becomes hs hp (by omega) hm hused harenas notifier

/-- `grow_reservation_by` raises the floor of an account, which costs what it
adds as long as the account is not exceeded. -/
theorem growBy_becomes (hs : r.Synced) (h : r.Holds p arena used)
    (hsize : 0 ≤ arena.size.toInt)
    (hfit : r.allocatedBytes.toNat + (alignUp n r.blockSize).toNat ≤
      r.memoryLimit.toNat →
      arena.size.toInt + (alignUp n r.blockSize).toNat < 2 ^ 63)
    (hexact : r.allocatedBytes.toNat + (alignUp n r.blockSize).toNat ≤
      r.memoryLimit.toNat → (alignUp n r.blockSize).toNat = 0 ∨
        used.toInt ≤ arena.size.toInt) :
    (∃ g : UInt64, r.allocatedBytes.toNat + g.toNat ≤ r.memoryLimit.toNat ∧
      r.Becomes (r.growBy p n).1 ((r.ledger out).refloor p
        ⟨arena.size.toInt, used.toInt⟩ (arena.size.toInt + g.toNat))) ∨
    (r.growBy p n).1 = r := by
  rcases Nat.lt_or_ge r.memoryLimit.toNat
    (r.allocatedBytes.toNat + (alignUp n r.blockSize).toNat) with hlt | hle
  · refine Or.inr ?_
    simp only [growBy, h.arena, doReserve_of_lt hlt]
  · obtain ⟨r₁, heq, hm, hused, harenas⟩ := doReserve_of_le hle
    have hlt := hfit hle
    have hcast := Word.toInt_toInt64 (a := alignUp n r.blockSize) (by omega)
    have hsum := Word.toInt_add (a := arena.size)
      (b := (alignUp n r.blockSize).toInt64) (by omega) (by omega)
    have hroom := hexact hle
    refine Or.inl ⟨alignUp n r.blockSize, hle, ?_⟩
    simp only [growBy, h.arena, heq]
    have hwrites : r.Writes (r.growBy p n).1 p
        ⟨arena.size + (alignUp n r.blockSize).toInt64, arena.onExit⟩ used := by
      refine writes_arena h ?_ ?_ <;> simp only [growBy, h.arena, heq]
      · exact hused
      · rw [harenas]
    simp only [growBy, h.arena, heq] at hwrites
    refine hwrites.becomes hs ⟨hm.total, hm.memoryLimit, hm.memoryCapacity,
      hm.blockSize⟩ ?_ ?_
    · rw [hsum, hcast]
      rfl
    · simp only [ledger, Ledger.refloor, Account.withFloor, Account.headroom]
      omega

/-! ## Giving back -/

theorem sub_moved {x : UInt64} (h : x.toNat ≤ r.allocatedBytes.toNat) :
    ((r.allocatedBytes - x).toNat : Int) = r.allocatedBytes.toNat + -x.toNat := by
  have hsub := Word.toNat_sub h
  omega

/-- What an arena has beyond what is in use. -/
theorem toNat_unused (hused : 0 ≤ used.toInt) (hlt : max 0 used < arena.size) :
    used.toInt < arena.size.toInt ∧
      ((arena.size - max 0 used).toUInt64.toNat : Int) =
        arena.size.toInt - used.toInt := by
  have hmax := Word.toInt_max 0 used
  have hhi := arena.size.toInt_lt
  rw [Word.toInt_zero, max_eq_right hused] at hmax
  rw [Int64.lt_iff_toInt_lt, hmax] at hlt
  rw [Word.toNat_toUInt64_sub (by omega) (by omega), hmax]
  exact ⟨hlt, rfl⟩

/-- `shrink_reservation_to_fit` takes the floor down to what is in use. -/
theorem shrinkToFit_becomes (hs : r.Synced) (h : r.Holds p arena used)
    (hsize : 0 ≤ arena.size.toInt) (hused : 0 ≤ used.toInt)
    (hroom : arena.size.toInt - used.toInt ≤ r.allocatedBytes.toNat) :
    ∃ f, 0 ≤ f ∧ f ≤ arena.size.toInt ∧
      (used.toInt ≤ arena.size.toInt → used.toInt ≤ f) ∧
      r.Becomes (r.shrinkToFit p).1
        ((r.ledger out).refloor p ⟨arena.size.toInt, used.toInt⟩ f) := by
  by_cases hlt : max 0 used < arena.size
  · obtain ⟨hcur, hcast⟩ := toNat_unused hused hlt
    have htotal := sub_moved (r := r)
      (x := (arena.size - max 0 used).toUInt64) (by omega)
    have hwrites : r.Writes (r.shrinkToFit p).1 p ⟨max 0 used, arena.onExit⟩
        used := by
      refine writes_arena h ?_ ?_ <;>
        simp only [shrinkToFit, h.arena, h.used, if_pos hlt]
    refine ⟨used.toInt, hused, by omega, fun _ => le_rfl, ?_⟩
    simp only [shrinkToFit, h.arena, h.used, if_pos hlt] at hwrites ⊢
    refine hwrites.becomes hs ⟨htotal, rfl, rfl, rfl⟩ ?_ ?_
    · rw [Word.toInt_max, Word.toInt_zero, max_eq_right hused]
      rfl
    · simp only [ledger, Ledger.refloor, Account.withFloor, Account.headroom]
      omega
  · have hwrites : r.Writes r p arena used :=
      ⟨h, fun _ _ => rfl, fun _ _ => rfl⟩
    refine ⟨arena.size.toInt, hsize, le_rfl, id, ?_⟩
    simp only [shrinkToFit, h.arena, h.used, if_neg hlt]
    refine hwrites.becomes hs ⟨(add_zero _).symm, rfl, rfl, rfl⟩ rfl ?_
    simp only [ledger, Ledger.refloor, Account.withFloor]
    omega

/-- `release_reservation` closes the account. -/
theorem destroyArena_becomes (hs : r.Synced) (h : r.Holds p arena used)
    (hused : 0 ≤ used.toInt)
    (hroom : arena.size.toInt - used.toInt ≤ r.allocatedBytes.toNat) :
    r.Becomes (r.destroyArena p).1
      ((r.ledger out).close p ⟨arena.size.toInt, used.toInt⟩) := by
  have hreclaimed : ((r.allocatedBytes - if max 0 used < arena.size then
      (arena.size - max 0 used).toUInt64 else 0).toNat : Int) =
      r.allocatedBytes.toNat - max 0 (arena.size.toInt - used.toInt) := by
    by_cases hlt : max 0 used < arena.size
    · obtain ⟨hcur, hcast⟩ := toNat_unused hused hlt
      have htotal := sub_moved (r := r)
        (x := (arena.size - max 0 used).toUInt64) (by omega)
      rw [if_pos hlt]
      omega
    · have hfull := hlt
      rw [Int64.lt_iff_toInt_lt, Word.toInt_max, Word.toInt_zero,
        max_eq_right hused] at hfull
      rw [if_neg hlt, UInt64.sub_zero]
      omega
  simp only [destroyArena, h.arena, h.used]
  refine ⟨fun q => ?_, hreclaimed, fun q => ?_, rfl, rfl, rfl⟩
  · by_cases hq : q = p
    · subst hq
      simp only [accounts, AList.lookup_mapVal, Ledger.close, AList.lookup_erase,
        Option.map_none]
    · simp only [ledger, Ledger.close, AList.lookup_erase_ne hq]
      exact lookup_accounts_congr (AList.lookup_erase_ne hq)
        (AList.lookup_erase_ne hq)
  · rw [AList.mem_erase, AList.mem_erase, hs q]

end

/-! ## Splitting at the boundary -/

/-- An allocation is charged by how far it pushes the charge of its account. -/
theorem upstreamTrackedBytes_spec {n : UInt64} (size pre : Int64)
    (hn : n.toNat < 2 ^ 63) (hsize : 0 ≤ size.toInt) (hpre : 0 ≤ pre.toInt)
    (hfit : pre.toInt + n.toNat < 2 ^ 63) :
    ((upstreamTrackedBytes n size pre (pre + n.toInt64)).toNat : Int) =
      max size.toInt (pre.toInt + n.toNat) - max size.toInt pre.toInt := by
  have hcast := Word.toInt_toInt64 hn
  have hsum := Word.toInt_add (a := pre) (b := n.toInt64) (by omega) (by omega)
  have hzero : (0 : UInt64).toNat = 0 := rfl
  simp only [upstreamTrackedBytes]
  split <;> rename_i hin <;> rw [Int64.le_iff_toInt_le] at hin
  · omega
  · split <;> rename_i hover <;> rw [Int64.lt_iff_toInt_lt] at hover
    · have hover := Word.toNat_toUInt64_sub (a := pre + n.toInt64) (b := size)
        (by omega) (by omega)
      omega
    · omega

/-- Chunks given back take the charge of their account down again. -/
theorem reclaimedBytes_spec {n : UInt64} (size pre : Int64)
    (hn : n.toNat < 2 ^ 63) (hsize : 0 ≤ size.toInt)
    (hle : (n.toNat : Int) ≤ pre.toInt) :
    ((reclaimedBytes n size pre (pre - n.toInt64)).toNat : Int) =
      max size.toInt pre.toInt - max size.toInt (pre.toInt - n.toNat) := by
  have hcast := Word.toInt_toInt64 hn
  have hhi := pre.toInt_lt
  have hdiff := Word.toInt_sub (a := pre) (b := n.toInt64) (by omega) (by omega)
  have hzero : (0 : UInt64).toNat = 0 := rfl
  simp only [reclaimedBytes]
  split <;> rename_i hin <;> rw [Int64.le_iff_toInt_le] at hin
  · omega
  · split <;> rename_i hover <;> rw [Int64.lt_iff_toInt_lt] at hover
    · have hover := Word.toNat_toUInt64_sub (a := pre) (b := size) (by omega) (by omega)
      omega
    · omega

/-! ## Blocks -/

/-- What `n` blocks come to. -/
def bytesOf (r : HostResource) (n : Nat) : Int := n * r.blockSize.toNat

theorem bytesOf_zero (r : HostResource) : r.bytesOf 0 = 0 := Int.zero_mul _

theorem numBlocks_bytes {r : HostResource} {n : UInt64} {k : Nat}
    (hblock : r.blockSize.toNat = 2 ^ k) (hn : n.toNat + 2 ^ k ≤ 2 ^ 64) :
    r.bytesOf (r.numBlocks n) = (alignUp n r.blockSize).toNat := by
  have hmul : (alignUp n r.blockSize).toNat / 2 ^ k * 2 ^ k =
      (alignUp n r.blockSize).toNat := by
    rw [toNat_alignUp hblock hn, Nat.mul_div_cancel _ (Nat.two_pow_pos k)]
  simp only [bytesOf, numBlocks, UInt64.toNat_div, hblock]
  exact_mod_cast hmul

section

variable {upstream : Nat → UInt64 → Except Exception Addr}
  {r r' : HostResource} {p : Addr} {arena : ChunkedReservedArea}
  {used : Int64} {n tracked : UInt64} {tracker : Option Addr} {k : Nat}
  {out : Except Failure (Option MultipleBlocksAllocation)} {o : Int}

/-- The loop keeps the books, whatever the upstream answers, and is done only
with all of its blocks. -/
theorem takeBlocks_books (n : Nat) :
    ∀ {r r' : HostResource} {acc : List Block}
      {res : Except Exception (Bool × List Block)},
    takeBlocks upstream n r acc = (r', res) →
    r.SameBooks r' ∧
      ∀ taken, res = .ok (true, taken) → taken.length = acc.length + n := by
  induction n with
  | zero =>
      intro r r' acc res h
      cases h
      refine ⟨SameBooks.refl r, ?_⟩
      intro taken htaken
      cases htaken
      rfl
  | succ n ih =>
      intro r r' acc res h
      -- a turn with a block to take goes on with one block more
      have hturn : ∀ (r₁ : HostResource) (ptr : Block) (freeBlocks : List Block),
          r.SameBooks r₁ → takeBlocks upstream n { r₁ with freeBlocks := freeBlocks }
            (acc ++ [ptr]) = (r', res) →
          r.SameBooks r' ∧ ∀ taken, res = .ok (true, taken) →
            taken.length = acc.length + (n + 1) := by
        intro r₁ ptr freeBlocks hbooks hrest
        obtain ⟨hsame, hlen⟩ := ih hrest
        have hpop : r.SameBooks { r₁ with freeBlocks := freeBlocks } :=
          hbooks.trans ⟨rfl, rfl, rfl, rfl, rfl, rfl, rfl⟩
        refine ⟨hpop.trans hsame, ?_⟩
        intro taken htaken
        rw [hlen taken htaken, List.length_append, List.length_singleton]
        omega
      unfold takeBlocks at h
      cases hfree : r.freeBlocks with
      | cons ptr freeBlocks =>
          simp only [hfree, List.isEmpty_cons, Bool.false_eq_true, if_false] at h
          exact hturn r ptr freeBlocks (SameBooks.refl r) h
      | nil =>
          simp only [hfree, List.isEmpty_nil, if_true, expandPool] at h
          cases hup : upstream r.allocatedBlocks.length (r.blockSize * r.poolSize) with
          | error e =>
              simp only [hup] at h
              cases h
              exact ⟨SameBooks.refl r, nofun⟩
          | ok base =>
              simp only [hup] at h
              have hbooks := addPool_sameBooks r base
              cases hnew : (r.addPool base).freeBlocks with
              | nil =>
                  simp only [hnew] at h
                  cases h
                  exact ⟨hbooks, nofun⟩
              | cons ptr freeBlocks =>
                  simp only [hnew] at h
                  exact hturn (r.addPool base) ptr freeBlocks hbooks h

/-- Past the tracker, a request is charged and gets its blocks; or it gets
nothing, and either everything it charged is taken back or, if the upstream
threw, nothing is. -/
theorem allocateTracked_books
    (h : r.allocateTracked upstream n tracked tracker = (r', out)) :
    (∃ blocks, out = .ok (some ⟨blocks, true, r.blockSize, tracker⟩) ∧
      blocks.length = (n / r.blockSize).toNat ∧
      r.allocatedBytes.toNat + tracked.toNat ≤ r.memoryCapacity.toNat ∧
      SameBooks { r with allocatedBytes := r.allocatedBytes + tracked } r') ∨
    ((∀ a, out ≠ .ok (some a)) ∧ ∃ r₁, r.SameBooks r₁ ∧ r' = r₁.untrack tracker n) ∨
    ((∀ a, out ≠ .ok (some a)) ∧ ThrowsWithin upstream r (n / r.blockSize).toNat ∧
      r.allocatedBytes.toNat + tracked.toNat ≤ r.memoryCapacity.toNat ∧
      SameBooks { r with allocatedBytes := r.allocatedBytes + tracked } r') := by
  rcases Nat.lt_or_ge r.memoryCapacity.toNat
    (r.allocatedBytes.toNat + tracked.toNat) with hlt | hle
  · simp only [allocateTracked, tryAdd_of_lt hlt] at h
    cases h
    exact Or.inr (Or.inl ⟨nofun, r, SameBooks.refl r, rfl⟩)
  · simp only [allocateTracked, tryAdd_of_le hle] at h
    rcases htake : takeBlocks upstream (n / r.blockSize).toNat
      { r with allocatedBytes := r.allocatedBytes + tracked } [] with ⟨r₁, res⟩
    rw [htake] at h
    obtain ⟨hb, hlen⟩ := takeBlocks_books _ htake
    match res, htake, h, hlen with
    | .error e, htake, h, _ =>
        have hthrown := (takeBlocks_throws_iff _).mp ⟨e, congrArg Prod.snd htake⟩
        cases h
        exact Or.inr (Or.inr ⟨nofun, hthrown, hle, hb⟩)
    | .ok (true, taken), _, h, hlen =>
        have hlength := hlen taken rfl
        rw [List.length_nil, Nat.zero_add] at hlength
        cases h
        refine Or.inl ⟨taken, ?_, hlength, hle, hb.memoryLimit, hb.memoryCapacity,
          hb.blockSize, hb.poolSize, hb.allocatedBytes, hb.activeReservations,
          hb.arenas⟩
        rw [hb.blockSize]
    | .ok (false, taken), _, h, _ =>
        cases h
        refine Or.inr (Or.inl ⟨nofun, ?_⟩)
        refine ⟨_, ?_, rfl⟩
        refine ⟨hb.memoryLimit, hb.memoryCapacity, hb.blockSize, hb.poolSize, ?_,
          hb.activeReservations, hb.arenas⟩
        show r₁.allocatedBytes - tracked = _
        rw [hb.allocatedBytes]
        exact UInt64.add_sub_cancel _ _

/-- With an upstream that never throws, a request gets its blocks or leaves no
charge. -/
theorem allocateTracked_cases
    (hup : ∀ pool size, ∃ base, upstream pool size = .ok base)
    (h : r.allocateTracked upstream n tracked tracker = (r', out)) :
    (∃ blocks, out = .ok (some ⟨blocks, true, r.blockSize, tracker⟩) ∧
      blocks.length = (n / r.blockSize).toNat ∧
      r.allocatedBytes.toNat + tracked.toNat ≤ r.memoryCapacity.toNat ∧
      SameBooks { r with allocatedBytes := r.allocatedBytes + tracked } r') ∨
    ((∀ a, out ≠ .ok (some a)) ∧
      ∃ r₁, r.SameBooks r₁ ∧ r' = r₁.untrack tracker n) := by
  rcases allocateTracked_books h with hgot | hnothing |
    ⟨-, ⟨_, _, _, e, herror⟩, -⟩
  · exact Or.inl hgot
  · exact Or.inr hnothing
  · obtain ⟨base, hok⟩ := hup _ _
    rw [hok] at herror
    cases herror

theorem SameBooks.moved (h : SameBooks
      { r with allocatedBytes := r.allocatedBytes + tracked } r')
    (hle : r.allocatedBytes.toNat + tracked.toNat ≤ r.memoryCapacity.toNat) :
    r.Moved r' tracked.toNat := by
  have hsum := toNat_add_of_le hle
  refine ⟨?_, h.memoryLimit, h.memoryCapacity, h.blockSize⟩
  rw [h.allocatedBytes]
  dsimp only
  omega

/-- A request without a reservation draws loosely. -/
theorem allocateLoose_becomes (hs : r.Synced)
    (hup : ∀ pool size, ∃ base, upstream pool size = .ok base)
    (hblock : r.blockSize.toNat = 2 ^ k) (hn : n.toNat + 2 ^ k ≤ 2 ^ 64)
    (h : r.allocateMultipleBlocks n none upstream = (r', out)) :
    (∃ a, out = .ok (some a) ∧ a.reservedMemory = none ∧
      (a.mr = false → a.blocks = []) ∧
      (r.bytesOf a.blocks.length = 0 ∨
        r.allocatedBytes.toNat + r.bytesOf a.blocks.length ≤
          r.memoryCapacity.toNat) ∧
      r.Becomes r' ((r.ledger o).drawLoose (r.bytesOf a.blocks.length))) ∨
    ((∀ a, out ≠ .ok (some a)) ∧ r.Becomes r' (r.ledger o)) := by
  have hpos := Nat.two_pow_pos k
  have hbytes := numBlocks_bytes hblock hn
  have hzero := Word.ne_zero_of_two_pow hblock
  simp only [allocateMultipleBlocks, if_neg hzero] at h
  split at h
  · cases h
    refine Or.inl ⟨.empty, rfl, rfl, fun _ => rfl, Or.inl ?_, ?_⟩
    · exact bytesOf_zero r
    · refine becomes_same hs (fun _ => rfl) rfl ⟨(add_zero _).symm, rfl, rfl, rfl⟩
        rfl ?_
      show (r.allocatedBytes.toNat : Int) + r.bytesOf 0 = _
      rw [bytesOf_zero]
  · rcases allocateTracked_cases hup h with
      ⟨blocks, rfl, hlen, hle, hb⟩ | ⟨hno, _, hb, rfl⟩
    · have hblocks : r.bytesOf blocks.length = (alignUp n r.blockSize).toNat := by
        rw [hlen]
        exact hbytes
      refine Or.inl ⟨_, rfl, rfl, nofun, Or.inr ?_, ?_⟩
      · rw [hblocks]
        exact_mod_cast hle
      · refine becomes_same hs (fun q => ?_) hb.arenas (hb.moved hle) rfl ?_
        · rw [hb.activeReservations]
        · show (r.allocatedBytes.toNat : Int) + r.bytesOf blocks.length = _
          rw [hblocks]
    · refine Or.inr ⟨hno, becomes_same (d := 0) hs (fun q => ?_) hb.arenas
        ⟨?_, hb.memoryLimit, hb.memoryCapacity, hb.blockSize⟩ rfl ?_⟩
      · exact congrArg (AList.lookup q) hb.activeReservations
      · rw [hb.allocatedBytes, add_zero]
      · exact (add_zero _).symm

theorem untrack_eq (r : HostResource) (tracker : Option Addr) (n : UInt64) :
    ∃ used, r.untrack tracker n = { r with activeReservations := used } := by
  unfold untrack
  split
  · exact ⟨_, rfl⟩
  · split <;> exact ⟨_, rfl⟩

/-- What was charged to the tracker of `p` is taken off it again. -/
theorem lookup_untrack {r₁ : HostResource} (hp : r.activeReservations.lookup p = some used)
    (hb : SameBooks { r with
      activeReservations := r.activeReservations.insert p (used + n.toInt64) } r₁)
    (q : Addr) :
    (r₁.untrack (some p) n).activeReservations.lookup q =
      r.activeReservations.lookup q := by
  have hpost : r₁.activeReservations.lookup p = some (used + n.toInt64) := by
    rw [hb.activeReservations]
    exact AList.lookup_insert _
  simp only [untrack, hpost, Int64.add_sub_cancel]
  by_cases hq : q = p
  · rw [hq, AList.lookup_insert, hp]
  · rw [AList.lookup_insert_ne hq, hb.activeReservations]
    exact AList.lookup_insert_ne hq

/-- With the charge taken off again the books are as they were. -/
theorem becomes_untrack {r₁ : HostResource} (hs : r.Synced)
    (hp : r.activeReservations.lookup p = some used)
    (hb : SameBooks { r with
      activeReservations := r.activeReservations.insert p (used + n.toInt64) } r₁) :
    r.Becomes (r₁.untrack (some p) n) (r.ledger o) := by
  have hlookup := lookup_untrack hp hb
  obtain ⟨table, heq⟩ := untrack_eq r₁ (some p) n
  rw [heq] at hlookup ⊢
  refine becomes_same (d := 0) hs hlookup hb.arenas
    ⟨?_, hb.memoryLimit, hb.memoryCapacity, hb.blockSize⟩ rfl (add_zero _).symm
  rw [add_zero]
  exact congrArg (fun x : UInt64 => (x.toNat : Int)) hb.allocatedBytes

/-- A request under a reservation draws on its account, as long as the tracker
does not overflow. -/
theorem allocateUnder_becomes (hs : r.Synced) (hp : r.Holds p arena used)
    (hup : ∀ pool size, ∃ base, upstream pool size = .ok base)
    (hblock : r.blockSize.toNat = 2 ^ k) (hn : n.toNat + 2 ^ k ≤ 2 ^ 64)
    (hsize : 0 ≤ arena.size.toInt) (hused : 0 ≤ used.toInt)
    (hfit : used.toInt + (alignUp n r.blockSize).toNat < 2 ^ 63)
    (h : r.allocateMultipleBlocks n (some (some p)) upstream = (r', out)) :
    (∃ a, out = .ok (some a) ∧ a.mr = false ∧ a.blocks = [] ∧
      a.reservedMemory = none ∧ r' = r) ∨
    (∃ a, out = .ok (some a) ∧ a.reservedMemory = some p ∧ a.mr = true ∧
      let l := (r.ledger o).draw p ⟨arena.size.toInt, used.toInt⟩
        (r.bytesOf a.blocks.length)
      l.charged ≤ r.memoryCapacity.toNat ∧ r.Becomes r' l) ∨
    ((∀ a, out ≠ .ok (some a)) ∧ r.Becomes r' (r.ledger o)) := by
  have hpos := Nat.two_pow_pos k
  have hbytes := numBlocks_bytes hblock hn
  have hzero := Word.ne_zero_of_two_pow hblock
  have hcast := Word.toInt_toInt64 (a := alignUp n r.blockSize) (by omega)
  have hsum := Word.toInt_add (a := used) (b := (alignUp n r.blockSize).toInt64)
    (by omega) (by omega)
  have hcharge := upstreamTrackedBytes_spec (n := alignUp n r.blockSize)
    arena.size used (by omega) hsize hused hfit
  simp only [allocateMultipleBlocks, if_neg hzero, hp.used, hp.arena] at h
  split at h
  · cases h
    exact Or.inl ⟨.empty, rfl, rfl, rfl, rfl, rfl⟩
  · rcases allocateTracked_cases hup h with
      ⟨blocks, rfl, hlen, hle, hb⟩ | ⟨hno, r₁, hb, rfl⟩
    · have hblocks : r.bytesOf blocks.length = (alignUp n r.blockSize).toNat := by
        rw [hlen]
        exact hbytes
      have hm := hb.moved hle
      have hwrites := writes_used hp hb.activeReservations hb.arenas
      refine Or.inr (Or.inl ⟨_, rfl, rfl, rfl, ?_⟩)
      simp only [hblocks]
      refine ⟨?_, hwrites.becomes hs ⟨hm.total, hm.memoryLimit,
        hm.memoryCapacity, hm.blockSize⟩ ?_ ?_⟩
      · simp only [ledger, Ledger.draw, Account.draw, Account.charge]
        dsimp only at hle
        omega
      · rw [hsum, hcast]
        rfl
      · simp only [ledger, Ledger.draw, Account.draw, Account.charge]
        omega
    · exact Or.inr (Or.inr ⟨hno, becomes_untrack hs hp.used hb⟩)

/-! ## Destroying an allocation -/

variable {a : MultipleBlocksAllocation}

theorem destroyAllocation_empty (hmr : a.mr = false → a.blocks = [])
    (h : a.blocks = [] ∨ a.mr = false) : (r.destroyAllocation a).1 = r := by
  have hnil : a.blocks = [] := h.elim id hmr
  simp only [destroyAllocation, hnil, List.isEmpty_nil, Bool.not_true,
    Bool.and_false, Bool.false_eq_true, if_false]

theorem toNat_bytes {m : Nat} (h : r.bytesOf m < 2 ^ 64) :
    ((UInt64.ofNat m * r.blockSize).toNat : Int) = r.bytesOf m := by
  have hlt : m * r.blockSize.toNat < 2 ^ 64 := by
    simp only [bytesOf] at h
    omega
  rw [UInt64.toNat_mul, UInt64.toNat_ofNat', Nat.mod_mul_mod,
    Nat.mod_eq_of_lt hlt]
  exact Int.natCast_mul _ _

theorem destroyAllocation_eq (hmr : a.mr = true) (hblocks : a.blocks ≠ []) :
    r.destroyAllocation a = r.returnAllocatedChunks a.blocks a.reservedMemory := by
  have hne : a.blocks.isEmpty = false := by
    cases hb : a.blocks with
    | nil => exact absurd hb hblocks
    | cons b blocks => rfl
  simp only [destroyAllocation, hmr, hne, Bool.not_false, Bool.and_self, if_true]

/-- Chunks with no registered arena are repaid loosely. -/
theorem destroyLoose_becomes (hs : r.Synced) (hmr : a.mr = true)
    (hblocks : a.blocks ≠ [])
    (hp : ∀ p, a.reservedMemory = some p → r.activeReservations.lookup p = none)
    (hle : r.bytesOf a.blocks.length ≤ r.allocatedBytes.toNat) :
    r.Becomes (r.destroyAllocation a).1
      ((r.ledger o).drawLoose (-r.bytesOf a.blocks.length)) := by
  have hlt := r.allocatedBytes.toNat_lt
  have hword := toNat_bytes (r := r) (m := a.blocks.length) (by omega)
  have hsub := sub_moved (r := r)
    (x := UInt64.ofNat a.blocks.length * r.blockSize) (by omega)
  have hnone : (a.reservedMemory.bind fun p =>
      (r.activeReservations.lookup p).map (p, ·)) = none := by
    cases hr : a.reservedMemory with
    | none => rfl
    | some p =>
        rw [Option.bind_some, hp p hr]
        rfl
  rw [hword] at hsub
  rw [destroyAllocation_eq hmr hblocks]
  simp only [returnAllocatedChunks, hnone]
  exact becomes_same hs (fun _ => rfl) rfl ⟨hsub, rfl, rfl, rfl⟩ rfl rfl

/-- Chunks of a registered arena are repaid on its account. -/
theorem destroyUnder_becomes (hs : r.Synced) (hmr : a.mr = true)
    (hblocks : a.blocks ≠ []) (hp : r.Holds p arena used)
    (hres : a.reservedMemory = some p)
    (hsize : 0 ≤ arena.size.toInt)
    (hcharge : max arena.size.toInt used.toInt ≤ r.allocatedBytes.toNat)
    (hle : r.bytesOf a.blocks.length ≤ used.toInt) :
    r.Becomes (r.destroyAllocation a).1
      ((r.ledger o).draw p ⟨arena.size.toInt, used.toInt⟩
        (-r.bytesOf a.blocks.length)) := by
  have hlt := used.toInt_lt
  have hword := toNat_bytes (r := r) (m := a.blocks.length) (by omega)
  have hcast := Word.toInt_toInt64
    (a := UInt64.ofNat a.blocks.length * r.blockSize) (by omega)
  have hdiff := Word.toInt_sub (a := used)
    (b := (UInt64.ofNat a.blocks.length * r.blockSize).toInt64) (by omega)
    (by omega)
  have hreclaimed := reclaimedBytes_spec (n := UInt64.ofNat a.blocks.length *
    r.blockSize) arena.size used (by omega) hsize (by omega)
  have hsub := sub_moved (r := r)
    (x := reclaimedBytes (UInt64.ofNat a.blocks.length * r.blockSize) arena.size
      used (used - (UInt64.ofNat a.blocks.length * r.blockSize).toInt64))
    (by omega)
  have hsome : (a.reservedMemory.bind fun p =>
      (r.activeReservations.lookup p).map (p, ·)) = some (p, used) := by
    rw [hres, Option.bind_some, hp.used]
    rfl
  have hwrites : r.Writes (r.returnAllocatedChunks a.blocks a.reservedMemory).1 p
      arena (used - (UInt64.ofNat a.blocks.length * r.blockSize).toInt64) := by
    refine writes_used hp ?_ ?_ <;>
      simp only [returnAllocatedChunks, hsome, hp.arena]
  rw [destroyAllocation_eq hmr hblocks]
  simp only [returnAllocatedChunks, hsome, hp.arena] at hwrites ⊢
  refine hwrites.becomes hs ⟨hsub, rfl, rfl, rfl⟩ ?_ ?_
  · rw [hdiff, hcast, hword]
    rfl
  · simp only [ledger, Ledger.draw, Account.draw, Account.charge]
    omega

end

/-- The pools a resource starts with touch no books. -/
theorem create_sameBooks (limit capacity blockSize poolSize : UInt64)
    (initialPools : List Addr) :
    (create limit capacity blockSize poolSize []).SameBooks
      (create limit capacity blockSize poolSize initialPools) := by
  have hpools : ∀ (pools : List Addr) (r : HostResource),
      r.SameBooks (pools.foldl addPool r) := by
    intro pools
    induction pools with
    | nil => exact SameBooks.refl
    | cons base pools ih =>
        intro r
        exact (addPool_sameBooks r base).trans (ih _)
  exact hpools initialPools _

end HostResource

end CuCascade.Memory

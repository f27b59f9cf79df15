import CuCascade.Lib.Books
import CuCascade.Proofs.HostLedger

/-!
# When the host accounting is exact

An allocation remembers its arena by address and may outlive it, and an arena
may be grown or shrunk while the allocations under it exceed it. As long as
every call charges what it adds, `_allocated_bytes` is the charge of each
registered arena, its size or its use, whichever is larger, and the blocks of
the allocations under none.

One call does not: `grow_reservation_by` charges all it adds to the size, also
the part that only catches up with what was allocated beyond it and charged
then. Runs are exact as long as they do not grow a reservation while it is
exceeded. (The second condition is about a number: the tracker is an `int64_t`,
and a request rounded to a block of 2^63 bytes would turn it negative.)
-/

namespace CuCascade.Memory

open HostResource

/-- A request is below 2^62 bytes. -/
def HostOp.Small : HostOp → Prop
  | .reserve bytes | .reserveUpto bytes | .growBy _ bytes
  | .allocate bytes _ _ => bytes.toNat < 2 ^ 62
  | .shrinkToFit _ | .release _ | .free _ => True

instance : (op : HostOp) → Decidable op.Small
  | .reserve _ | .reserveUpto _ | .growBy _ _ | .allocate _ _ _ =>
      inferInstanceAs (Decidable (_ < _))
  | .shrinkToFit _ | .release _ | .free _ => isTrue trivial

namespace HostWorld

/-- A proper call with a request below 2^62 bytes. -/
def Moderate (w : HostWorld) (op : HostOp) : Prop := w.Proper op ∧ op.Small

instance (w : HostWorld) (op : HostOp) : Decidable (w.Moderate op) :=
  inferInstanceAs (Decidable (_ ∧ _))

/-- The bytes of the blocks an allocation holds. -/
def blockBytes (w : HostWorld) (a : MultipleBlocksAllocation) : Int :=
  w.res.bytesOf a.blocks.length

/-- The bytes allocated under the arena at `p` and still held. -/
def bytesUnder (w : HostWorld) (p : Addr) : Int :=
  w.allocations.sumBy fun _ a =>
    if a.reservedMemory = some p then w.blockBytes a else 0

/-- The bytes held under no registered arena. -/
def looseBytes (w : HostWorld) : Int :=
  w.allocations.sumBy fun _ a =>
    if ∃ p ∈ a.reservedMemory, p ∈ w.res.activeReservations then 0
    else w.blockBytes a

/-- The counter is what the registered arenas and the other allocations add up
to, and it and the reservations are within their bounds. -/
structure BytesConserved (w : HostWorld) : Prop where
  total : (w.res.allocatedBytes.toNat : Int) =
    (w.res.activeReservations.sumBy fun p _ =>
      max (w.res.sizeAt p) (w.bytesUnder p)) + w.looseBytes
  capacity : w.res.allocatedBytes.toNat ≤ w.res.memoryCapacity.toNat
  limit : (w.res.activeReservations.sumBy fun p _ => w.res.sizeAt p) ≤
    w.res.memoryLimit.toNat
  zero : w.allocations = ∅ → w.res.activeReservations = ∅ →
    w.res.allocatedBytes = 0

/-- A growth that is granted is by nothing or of a reservation that is not
exceeded, and a request under a reservation stays below 2^63 when rounded. -/
def Exact (w : HostWorld) : HostOp → Prop
  | .growBy p bytes => ∀ arena ∈ w.res.arenas.lookup p,
      ∀ used ∈ w.res.activeReservations.lookup p,
      w.res.allocatedBytes.toNat + (alignUp bytes w.res.blockSize).toNat ≤
        w.res.memoryLimit.toNat →
      (alignUp bytes w.res.blockSize).toNat = 0 ∨
        used.toInt ≤ arena.size.toInt
  | .allocate bytes res _ => res.isSome →
      (alignUp bytes w.res.blockSize).toNat < 2 ^ 63
  | _ => True

instance (w : HostWorld) : (op : HostOp) → Decidable (w.Exact op)
  | .growBy p _ =>
      -- the account is looked up here, not searched for among the 2^64 of its type
      have account := fun _ => Option.decidableForallMem _
      @Option.decidableForallMem _ _ account (w.res.arenas.lookup p)
  | .allocate _ _ _ => inferInstanceAs (Decidable (_ → _))
  | .reserve _ | .reserveUpto _ | .shrinkToFit _ | .release _ | .free _ =>
      isTrue trivial

/-! ## The invariant -/

/-- The books of the pool and its users. -/
def ledger (w : HostWorld) : Ledger Addr Int :=
  w.res.ledger (w.allocations.sumBy fun _ a => w.blockBytes a)

/-- The books are balanced and the names in order. -/
structure Orderly (w : HostWorld) : Prop where
  books : BalancedBooks MultipleBlocksAllocation.reservedMemory w.blockBytes
    w.res.memoryLimit.toNat w.res.memoryCapacity.toNat w.ledger w.allocations
  synced : w.res.Synced
  block : ∃ k, w.res.blockSize.toNat = 2 ^ k
  cap : w.res.memoryCapacity.toNat < 2 ^ 62
  numbered : w.Numbered
  arenaIds : ∀ p ∈ w.res.accounts, p < w.nextId
  owners : w.allocations.All fun _ a =>
    ∀ p, a.reservedMemory = some p → p < w.nextId
  managed : w.allocations.All fun _ a => a.mr = false → a.blocks = []

section

variable {w : HostWorld}

theorem Orderly.limit (h : w.Orderly) : w.res.memoryLimit.toNat < 2 ^ 62 := by
  have hle := h.books.limit_le
  have hcap := h.cap
  omega

theorem Orderly.total (h : w.Orderly) : w.res.allocatedBytes.toNat < 2 ^ 62 := by
  have hcharged : (w.res.allocatedBytes.toNat : Int) ≤
    w.res.memoryCapacity.toNat := h.books.charged
  have hcap := h.cap
  omega

/-- What holds of a registered arena: neither its size nor its use is negative
or larger than the counter. -/
theorem Orderly.holds (h : w.Orderly) {p : Addr}
    (hp : p ∈ w.res.activeReservations) :
    ∃ arena used, w.res.Holds p arena used ∧ 0 ≤ arena.size.toInt ∧
      0 ≤ used.toInt ∧
      max arena.size.toInt used.toInt ≤ w.res.allocatedBytes.toNat := by
  obtain ⟨arena, used, hholds⟩ := h.synced.holds hp
  exact ⟨arena, used, hholds, h.books.floors.get hholds.account,
    h.books.used_nonneg hholds.account, h.books.charge_le hholds.account⟩

theorem Orderly.lookup_next (h : w.Orderly) :
    w.res.activeReservations.lookup w.nextId = none :=
  AList.lookup_eq_none.mpr fun hmem =>
    Nat.lt_irrefl _ (h.arenaIds _ (mem_accounts.mpr hmem))

/-- What is to be shown of a call that leaves the books `l`. -/
theorem Orderly.become (h : w.Orderly) {r : HostResource}
    {l : Ledger Addr Int} {allocations : Table Nat MultipleBlocksAllocation}
    {nextId : Nat} (hb : w.res.Becomes r l)
    (hbooks : BalancedBooks MultipleBlocksAllocation.reservedMemory w.blockBytes
      w.res.memoryLimit.toNat w.res.memoryCapacity.toNat l allocations)
    (hnum : Numbered ⟨r, allocations, nextId⟩)
    (hids : ∀ p ∈ l.accounts, p < nextId)
    (howners : allocations.All fun _ a =>
      ∀ p, a.reservedMemory = some p → p < nextId)
    (hmanaged : allocations.All fun _ a => a.mr = false → a.blocks = []) :
    Orderly ⟨r, allocations, nextId⟩ := by
  have hbytes : blockBytes ⟨r, allocations, nextId⟩ = w.blockBytes := by
    funext a
    simp only [blockBytes, bytesOf, hb.blockSize]
  refine ⟨?_, hb.synced, ?_, ?_, hnum, ?_, howners, hmanaged⟩
  · rw [hbytes, hb.memoryLimit, hb.memoryCapacity]
    refine hbooks.congr hb.accounts ?_ hb.charged
    simp only [ledger, hbytes]
    exact hbooks.outstanding.symm
  · rw [hb.blockSize]
    exact h.block
  · rw [hb.memoryCapacity]
    exact h.cap
  · intro p hp
    refine hids p ?_
    rw [← AList.lookup_isSome] at hp ⊢
    rw [← hb.accounts p]
    exact hp

/-! ## One call -/

theorem lt_succ_of_all {t : Table Nat MultipleBlocksAllocation} {n : Nat}
    (h : t.All fun _ a => ∀ p, a.reservedMemory = some p → p < n) :
    t.All fun _ a => ∀ p, a.reservedMemory = some p → p < n + 1 :=
  h.mono fun _ _ ha p hp => Nat.lt_succ_of_lt (ha p hp)

/-- A name that is not used yet owns nothing. -/
theorem Orderly.fresh (h : w.Orderly) :
    w.allocations.All fun _ a => a.reservedMemory ≠ some w.nextId :=
  h.owners.mono fun _ _ ha hp => Nat.lt_irrefl _ (ha _ hp)

/-- A call that takes a name and changes nothing else. -/
theorem Orderly.skip (h : w.Orderly) (hnum : Numbered
    ⟨w.res, w.allocations, w.nextId + 1⟩) :
    Orderly ⟨w.res, w.allocations, w.nextId + 1⟩ :=
  h.become (Becomes.refl h.synced _) h.books hnum
    (fun p hp => Nat.lt_succ_of_lt (h.arenaIds p hp)) (lt_succ_of_all h.owners)
    h.managed

/-- Reserving opens an account under the next name. -/
theorem Orderly.opened (h : w.Orderly) {r : HostResource} {g : UInt64}
    (hb : w.res.Becomes r (w.ledger.open' w.nextId g.toNat))
    (hroom : g.toNat = 0 ∨ w.res.allocatedBytes.toNat + g.toNat ≤
      w.res.memoryLimit.toNat)
    (hnum : Numbered ⟨r, w.allocations, w.nextId + 1⟩) :
    Orderly ⟨r, w.allocations, w.nextId + 1⟩ := by
  have hnone : w.res.accounts.lookup w.nextId = none :=
    AList.lookup_eq_none.mpr fun hmem => Nat.lt_irrefl _ (h.arenaIds _ hmem)
  have hcharged : w.ledger.charged = w.res.allocatedBytes.toNat := rfl
  refine h.become hb (h.books.open' hnone h.fresh (Int.natCast_nonneg _) ?_)
    hnum ?_ (lt_succ_of_all h.owners) h.managed
  · omega
  · intro p hp
    rcases (AList.mem_insert _).mp hp with rfl | hp
    · exact Nat.lt_succ_self _
    · exact Nat.lt_succ_of_lt (h.arenaIds p hp)

/-- Writing the account of a registered arena uses no name. -/
theorem Orderly.written (h : w.Orderly) {r : HostResource} {l : Ledger Addr Int}
    {p : Addr} {a : Account Int} (hp : p ∈ w.res.activeReservations)
    (hb : w.res.Becomes r l) (hl : l.accounts = w.res.accounts.insert p a)
    (hbooks : BalancedBooks MultipleBlocksAllocation.reservedMemory w.blockBytes
      w.res.memoryLimit.toNat w.res.memoryCapacity.toNat l w.allocations) :
    Orderly ⟨r, w.allocations, w.nextId⟩ := by
  refine h.become hb hbooks h.numbered ?_ h.owners h.managed
  intro q hq
  rw [hl] at hq
  rcases (AList.mem_insert _).mp hq with rfl | hq
  · exact h.arenaIds q (mem_accounts.mpr hp)
  · exact h.arenaIds q hq

theorem Orderly.growBy (h : w.Orderly) {p : Addr} {bytes : UInt64}
    (hp : p ∈ w.res.activeReservations) (hexact : w.Exact (.growBy p bytes)) :
    Orderly ⟨(w.res.growBy p bytes).1, w.allocations, w.nextId⟩ := by
  obtain ⟨arena, used, hholds, hsize, hused, hle⟩ := h.holds hp
  have htotal := h.total
  have hlimit := h.limit
  rcases growBy_becomes h.synced hholds hsize (fun _ => by omega)
    (hexact arena hholds.arena used hholds.used) with ⟨g, hroom, hb⟩ | heq
  · refine h.written hp hb rfl (h.books.refloor hholds.account (by omega) ?_)
    have hcharged : w.ledger.charged = w.res.allocatedBytes.toNat := rfl
    dsimp only
    omega
  · rw [heq]
    exact h

theorem Orderly.shrinkToFit (h : w.Orderly) {p : Addr}
    (hp : p ∈ w.res.activeReservations) :
    Orderly ⟨(w.res.shrinkToFit p).1, w.allocations, w.nextId⟩ := by
  obtain ⟨arena, used, hholds, hsize, hused, hle⟩ := h.holds hp
  obtain ⟨f, hf, hfloor, -, hb⟩ := shrinkToFit_becomes h.synced hholds hsize hused
    (by omega)
  exact h.written hp hb rfl (h.books.refloor hholds.account hf (Or.inl hfloor))

theorem Orderly.destroyArena (h : w.Orderly) {p : Addr}
    (hp : p ∈ w.res.activeReservations) :
    Orderly ⟨(w.res.destroyArena p).1, w.allocations, w.nextId⟩ := by
  obtain ⟨arena, used, hholds, hsize, hused, hle⟩ := h.holds hp
  exact h.become (destroyArena_becomes h.synced hholds hused (by omega))
    (h.books.close hholds.account) h.numbered
    (fun q hq => h.arenaIds q (AList.mem_erase.mp hq).2) h.owners h.managed

/-- What an allocation that was just made needs of its names. -/
theorem Orderly.named (h : w.Orderly) {a : MultipleBlocksAllocation}
    (hres : ∀ p, a.reservedMemory = some p → p ∈ w.res.activeReservations)
    (hmr : a.mr = false → a.blocks = []) :
    (w.allocations.insert w.nextId a).All (fun _ a =>
      ∀ p, a.reservedMemory = some p → p < w.nextId + 1) ∧
    (w.allocations.insert w.nextId a).All fun _ a =>
      a.mr = false → a.blocks = [] := by
  refine ⟨AList.All.insert (lt_succ_of_all h.owners) fun p hp => ?_,
    h.managed.insert hmr⟩
  exact Nat.lt_succ_of_lt (h.arenaIds p (mem_accounts.mpr (hres p hp)))

theorem lookup_allocations (h : w.Orderly) :
    w.allocations.lookup w.nextId = none :=
  AList.lookup_eq_none.mpr fun hmem => Nat.lt_irrefl _ (h.numbered _ hmem)

/-- An allocation with no reservation behind it. -/
theorem Orderly.madeLoose (h : w.Orderly) {r : HostResource}
    {a : MultipleBlocksAllocation} (hres : a.reservedMemory = none)
    (hmr : a.mr = false → a.blocks = [])
    (hroom : w.blockBytes a = 0 ∨ w.res.allocatedBytes.toNat + w.blockBytes a ≤
      w.res.memoryCapacity.toNat)
    (hb : w.res.Becomes r (w.ledger.drawLoose (w.blockBytes a)))
    (hnum : Numbered ⟨r, w.allocations.insert w.nextId a, w.nextId + 1⟩) :
    Orderly ⟨r, w.allocations.insert w.nextId a, w.nextId + 1⟩ := by
  have hno : ∀ p, a.reservedMemory ≠ some p := by
    intro p hp
    rw [hres] at hp
    cases hp
  obtain ⟨howners, hmanaged⟩ := h.named (fun p hp => absurd hp (hno p)) hmr
  exact h.become hb
    (h.books.drawLoose (lookup_allocations h) (fun p _ => hno p) hroom) hnum
    (fun p hp => Nat.lt_succ_of_lt (h.arenaIds p hp)) howners hmanaged

/-- An allocation under a registered arena. -/
theorem Orderly.madeUnder (h : w.Orderly) {r : HostResource} {p : Addr}
    {arena : ChunkedReservedArea} {used : Int64} {a : MultipleBlocksAllocation}
    (hholds : w.res.Holds p arena used) (hres : a.reservedMemory = some p)
    (hmr : a.mr = true)
    (hcap : (w.ledger.draw p ⟨arena.size.toInt, used.toInt⟩
      (w.blockBytes a)).charged ≤ w.res.memoryCapacity.toNat)
    (hb : w.res.Becomes r (w.ledger.draw p ⟨arena.size.toInt, used.toInt⟩
      (w.blockBytes a)))
    (hnum : Numbered ⟨r, w.allocations.insert w.nextId a, w.nextId + 1⟩) :
    Orderly ⟨r, w.allocations.insert w.nextId a, w.nextId + 1⟩ := by
  have hmem := AList.mem_of_lookup hholds.used
  obtain ⟨howners, hmanaged⟩ := h.named (a := a) (fun q hq => by
    rw [hres] at hq
    cases hq
    exact hmem) (fun hfalse => by rw [hmr] at hfalse; cases hfalse)
  refine h.become hb
    (h.books.draw (lookup_allocations h) hholds.account hres hcap) hnum ?_
    howners hmanaged
  intro q hq
  rcases (AList.mem_insert _).mp hq with rfl | hq
  · exact Nat.lt_succ_of_lt (h.arenaIds q (mem_accounts.mpr hmem))
  · exact Nat.lt_succ_of_lt (h.arenaIds q hq)

/-- How a request ends, in terms of what it hands out. -/
theorem next_allocate {n : UInt64} {res : Option Addr} {upstream : Nat → Addr}
    {r : HostResource} {out : Except Failure (Option MultipleBlocksAllocation)}
    (h : w.res.allocateMultipleBlocks n (res.map some)
      (fun pool _ => .ok (upstream pool)) = (r, out)) :
    (∀ a, out = .ok (some a) → w.next (.allocate n res upstream) =
      ⟨r, w.allocations.insert w.nextId a, w.nextId + 1⟩) ∧
    ((∀ a, out ≠ .ok (some a)) → w.next (.allocate n res upstream) =
      ⟨r, w.allocations, w.nextId⟩) := by
  constructor
  · rintro a rfl
    simp only [next, h]
  · intro hno
    simp only [next, h]

theorem Orderly.allocate (h : w.Orderly) {n : UInt64} {res : Option Addr}
    {upstream : Nat → Addr}
    (hproper : w.Proper (.allocate n res upstream)) (hn : n.toNat < 2 ^ 62)
    (hexact : w.Exact (.allocate n res upstream)) :
    (w.next (.allocate n res upstream)).Orderly := by
  have hnum := h.numbered.next (.allocate n res upstream)
  have hup : ∀ pool (size : UInt64), ∃ base,
      (Except.ok (upstream pool) : Except Exception Addr) = .ok base :=
    fun pool _ => ⟨upstream pool, rfl⟩
  obtain ⟨k, hblock⟩ := h.block
  have hpow := Word.two_pow_le hblock
  rcases hcall : w.res.allocateMultipleBlocks n (res.map some)
    (fun pool _ => .ok (upstream pool)) with ⟨r, out⟩
  obtain ⟨hsome, hnone⟩ := next_allocate hcall
  have hrefused : (∀ a, out ≠ .ok (some a)) → w.res.Becomes r w.ledger →
      (w.next (.allocate n res upstream)).Orderly := by
    intro hno hb
    rw [hnone hno]
    exact h.become hb h.books h.numbered h.arenaIds h.owners h.managed
  cases res with
  | none =>
      rcases allocateLoose_becomes h.synced hup hblock (by omega) hcall with
        ⟨a, hout, hres, hmr, hroom, hb⟩ | ⟨hno, hb⟩
      · rw [hsome a hout] at hnum ⊢
        exact h.madeLoose hres hmr hroom hb hnum
      · exact hrefused hno hb
  | some p =>
      obtain ⟨arena, used, hholds, hsize, hused, hle⟩ := h.holds (hproper p rfl)
      have htotal := h.total
      have hrounded := alignUp_le hblock hn (hexact rfl)
      rcases allocateUnder_becomes h.synced hholds hup hblock (by omega) hsize
          hused (by omega) hcall with
        ⟨a, hout, hmr, hnil, hres, rfl⟩ | ⟨a, hout, hres, hmr, hcap, hb⟩ | ⟨hno, hb⟩
      · have hzero : w.blockBytes a = 0 := by
          simp only [blockBytes, hnil]
          exact bytesOf_zero _
        have hb := Becomes.refl h.synced w.ledger.outstanding
        rw [hsome a hout] at hnum ⊢
        refine h.madeLoose hres (fun _ => hnil) (Or.inl hzero) ?_ hnum
        exact ⟨hb.accounts, by rw [hzero]; exact (add_zero _).symm, hb.synced, rfl,
          rfl, rfl⟩
      · rw [hsome a hout] at hnum ⊢
        exact h.madeUnder hholds hres hmr hcap hb hnum
      · exact hrefused hno hb

theorem Orderly.free (h : w.Orderly) {id : Nat}
    (hproper : w.Proper (.free id)) : (w.next (.free id)).Orderly := by
  have hnum := h.numbered.next (.free id)
  have htotal := h.total
  obtain ⟨a, ha⟩ := AList.exists_lookup hproper
  have hmr := h.managed.get ha
  simp only [next, ha] at hnum ⊢
  have howners := h.owners.erase (k := id)
  have hmanaged := h.managed.erase (k := id)
  have hamount := h.books.amount_le ha
  by_cases hempty : a.blocks = [] ∨ a.mr = false
  · have hnil : a.blocks = [] := hempty.elim (fun hnil => hnil) hmr
    have hzero : w.blockBytes a = 0 := by
      simp only [blockBytes, hnil]
      exact bytesOf_zero _
    rw [destroyAllocation_empty hmr hempty] at hnum ⊢
    exact h.become (Becomes.refl h.synced _) (h.books.drop ha hzero) hnum
      h.arenaIds howners hmanaged
  · have hblocks : a.blocks ≠ [] := fun hnil => hempty (Or.inl hnil)
    have hmr' : a.mr = true := by
      cases hm : a.mr with
      | true => rfl
      | false => exact absurd (Or.inr hm) hempty
    by_cases hp : ∃ p, a.reservedMemory = some p ∧ p ∈ w.res.activeReservations
    · obtain ⟨p, hres, hmem⟩ := hp
      obtain ⟨arena, used, hholds, hsize, hused, hle⟩ := h.holds hmem
      have hunder := h.books.amount_le_used ha hholds.account hres
      refine h.become
        (destroyUnder_becomes h.synced hmr' hblocks hholds hres hsize hle hunder)
        (h.books.repay ha hholds.account hres) hnum ?_ howners hmanaged
      intro q hq
      rcases (AList.mem_insert _).mp hq with rfl | hq
      · exact h.arenaIds q (mem_accounts.mpr hmem)
      · exact h.arenaIds q hq
    · have hloose : ∀ p, a.reservedMemory = some p →
          w.res.activeReservations.lookup p = none := by
        intro p hres
        exact AList.lookup_eq_none.mpr fun hmem => hp ⟨p, hres, hmem⟩
      refine h.become
        (destroyLoose_becomes h.synced hmr' hblocks hloose hamount)
        (h.books.repayLoose ha fun p hmem hres => ?_) hnum h.arenaIds howners
        hmanaged
      exact hp ⟨p, hres, mem_accounts.mp hmem⟩

theorem Orderly.next (h : w.Orderly) {op : HostOp} (hlegal : w.Moderate op)
    (hexact : w.Exact op) : (w.next op).Orderly := by
  obtain ⟨hproper, hsmall⟩ := hlegal
  have hnum := h.numbered.next op
  cases op with
  | reserve bytes =>
      have hlimit := h.limit
      rcases reserve_becomes (n := bytes) h.synced h.lookup_next
        (fun _ => by omega) none with ⟨g, hroom, hb⟩ | heq
      · exact h.opened hb (Or.inr hroom) hnum
      · simp only [HostWorld.next, heq] at hnum ⊢
        exact h.skip hnum
  | reserveUpto bytes =>
      have hlimit := h.limit
      obtain ⟨g, hroom, hb⟩ := reserveUpto_becomes (n := bytes) h.synced
        h.lookup_next (by omega) none
      exact h.opened hb hroom hnum
  | growBy p bytes => exact h.growBy hproper hexact
  | shrinkToFit p => exact h.shrinkToFit hproper
  | release p => exact h.destroyArena hproper
  | allocate bytes res upstream => exact h.allocate hproper hsmall hexact
  | free id => exact h.free hproper

/-! ## Whole runs -/

/-- The sum over the accounts, written over the registered arenas. -/
theorem Orderly.sumBy_accounts (h : w.Orderly) (f : Account Int → Int) :
    (w.ledger.accounts.sumBy fun _ a => f a) =
      w.res.activeReservations.sumBy fun p _ =>
        f ⟨w.res.sizeAt p, w.bytesUnder p⟩ := by
  have hmap : (w.ledger.accounts.sumBy fun _ a => f a) =
      w.res.activeReservations.sumBy fun p used =>
        f ⟨w.res.sizeAt p, used.toInt⟩ :=
    AList.sumBy_mapVal (f := fun p (used : Int64) =>
      (⟨w.res.sizeAt p, used.toInt⟩ : Account Int))
  rw [hmap]
  refine AList.sumBy_congr fun e he => ?_
  have hlookup : w.ledger.accounts.lookup e.1 =
      some ⟨w.res.sizeAt e.1, e.2.toInt⟩ := by
    simp only [ledger, HostResource.ledger, accounts, AList.lookup_mapVal,
      AList.mem_entries_iff.mp he, Option.map_some]
  have huse : e.2.toInt = w.bytesUnder e.1 := h.books.backs.get hlookup
  rw [huse]

/-- Balanced books say that the bytes are conserved. -/
theorem Orderly.conserved (h : w.Orderly) : w.BytesConserved := by
  have hcharged : w.ledger.charged = w.res.allocatedBytes.toNat := rfl
  have hloose : looseSum MultipleBlocksAllocation.reservedMemory w.blockBytes
      w.ledger.accounts w.allocations = w.looseBytes :=
    looseSum_congr fun p => mem_accounts
  have htotal : (w.res.allocatedBytes.toNat : Int) =
      (w.res.activeReservations.sumBy fun p _ =>
        max (w.res.sizeAt p) (w.bytesUnder p)) + w.looseBytes := by
    rw [← hcharged, h.books.charged_eq, hloose, h.sumBy_accounts]
    rfl
  have hcap := h.books.charged
  have hsizes := h.books.sizes
  rw [h.sumBy_accounts] at hsizes
  refine ⟨htotal, by omega, hsizes, fun hnone hno => ?_⟩
  simp only [looseBytes, hnone, hno, AList.sumBy_empty] at htotal
  rw [← UInt64.toNat_inj]
  exact Int.natCast_inj.mp htotal

end

/-- The constructor rounds a power of two up to a power of two. -/
theorem alignUp_two_pow {a : UInt64} {k : Nat} (h : a.toNat = 2 ^ k) :
    ∃ j, (alignUp a 16).toNat = 2 ^ j := by
  have hle := Word.two_pow_le h
  have halign := toNat_alignUp (v := a) (a := 16) (k := 4) rfl (by omega)
  rw [halign, h]
  rcases Nat.lt_or_ge k 4 with hlt | hge
  · refine ⟨4, ?_⟩
    have hpos := Nat.two_pow_pos k
    have hsmall : 2 ^ k ≤ 2 ^ 4 := Nat.pow_le_pow_right (by omega) (by omega)
    omega
  · obtain ⟨j, rfl⟩ := Nat.exists_eq_add_of_le hge
    refine ⟨4 + j, ?_⟩
    rw [Nat.pow_add]
    omega

theorem orderly_fresh {limit capacity blockSize poolSize : UInt64} {k : Nat}
    (initialPools : List Addr) (hle : limit.toNat ≤ capacity.toNat)
    (hcap : capacity.toNat < 2 ^ 62) (hblock : blockSize.toNat = 2 ^ k) :
    (fresh limit capacity blockSize poolSize initialPools).Orderly := by
  have hempty : (fresh limit capacity blockSize poolSize []).Orderly := {
    books := {
      slack := rfl
      charged := Int.natCast_nonneg capacity.toNat
      sizes := Int.natCast_nonneg limit.toNat
      limit_le := Int.ofNat_le.mpr hle
      floors := AList.all_empty
      amounts := fun a => Int.mul_nonneg (Int.natCast_nonneg _)
        (Int.natCast_nonneg _)
      backs := AList.all_empty
      outstanding := rfl }
    synced := fun p => Iff.rfl
    block := alignUp_two_pow hblock
    cap := hcap
    numbered := fun id hid => by cases hid
    arenaIds := fun p hp => by cases hp
    owners := AList.all_empty
    managed := AList.all_empty }
  have hb := create_sameBooks limit capacity blockSize poolSize initialPools
  refine hempty.become (becomes_same (d := 0) hempty.synced (fun q => ?_)
    hb.arenas ⟨?_, hb.memoryLimit, hb.memoryCapacity, hb.blockSize⟩ rfl
    (add_zero _).symm) hempty.books hempty.numbered hempty.arenaIds
    hempty.owners hempty.managed
  · exact congrArg (AList.lookup q) hb.activeReservations
  · rw [hb.allocatedBytes, add_zero]
    rfl

/-- A reservation exceeded, shrunk, grown again and released while allocations
under it live; a request that finds no capacity; a loose allocation. -/
def exactOps : List HostOp :=
  [.reserve 100, .allocate 50 (some 0) (fun _ => 0x2000), .shrinkToFit 0,
    .growBy 0 30, .allocate 90 (some 0) (fun _ => 0x2000), .reserveUpto 1000,
    .allocate 60 none (fun _ => 0x2000), .free 1, .growBy 0 16, .release 3,
    .allocate 60 none (fun _ => 0x2000), .release 0, .free 2, .free 4]

end HostWorld

end CuCascade.Memory

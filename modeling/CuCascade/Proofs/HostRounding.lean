import CuCascade.Proofs.HostLedger

/-!
# What a rounded request covers

Requests to the host pool are rounded up with a bit mask and then divided by the
block size. The mask rounds up to a multiple of the block size if that is a
power of two. The constructor makes it a multiple of 16 and the configurator
asks for more than zero, so other sizes come through, and with them the mask
clears bits that the division does not make up for. Near `2 ^ 64` the rounding
wraps whatever the block size is, and a size from `2 ^ 63` on does not fit the
signed counter of an arena.

All of this is about one call, so the state it is made in may be any.
-/

namespace CuCascade.Memory

open Utils

/-- Raising the request by the mask does not wrap. -/
def NoWrap (blockSize bytes : UInt64) : Prop :=
  bytes.toNat + (blockSize - 1).toNat < 2 ^ 64

/-- And what the mask clears then is no more than what the division by the block
size would leave over. -/
def FillsBlocks (blockSize bytes : UInt64) : Prop :=
  NoWrap blockSize bytes ∧
    ((bytes + (blockSize - 1)) &&& (blockSize - 1)).toNat ≤
      (bytes.toNat + (blockSize - 1).toNat) % blockSize.toNat

instance (blockSize bytes : UInt64) : Decidable (NoWrap blockSize bytes) :=
  inferInstanceAs (Decidable (_ < _))

instance (blockSize bytes : UInt64) : Decidable (FillsBlocks blockSize bytes) :=
  inferInstanceAs (Decidable (_ ∧ _))

/-- How many blocks a request needs. -/
def ceilBlocks (blockSize bytes : UInt64) : Nat :=
  (bytes.toNat + blockSize.toNat - 1) / blockSize.toNat

variable {b t : UInt64}

theorem le_alignUp_iff : t.toNat ≤ (alignUp t b).toNat ↔ NoWrap b t := by
  refine ⟨fun hle => ?_, le_alignUp⟩
  by_contra hwrap
  unfold NoWrap at hwrap
  have hmask : (alignUp t b).toNat ≤ (t + (b - 1)).toNat := by
    unfold alignUp
    rw [UInt64.toNat_and]
    exact Nat.and_le_left
  have hsum := UInt64.toNat_add t (b - 1)
  have ht := t.toNat_lt
  have hb := (b - 1).toNat_lt
  omega

theorem div_sub_eq_iff {x c d : Nat} (hd : 0 < d) (hc : c ≤ x) :
    (x - c) / d = x / d ↔ c ≤ x % d := by
  have hx := Nat.div_add_mod x d
  constructor
  · intro heq
    have hle := Nat.mul_div_le (x - c) d
    rw [heq] at hle
    omega
  · intro hle
    apply Nat.le_antisymm (Nat.div_le_div_right (Nat.sub_le x c))
    rw [Nat.le_div_iff_mul_le hd, Nat.mul_comm]
    omega

/-- The division gives the number of blocks needed exactly if the mask does not
clear too much. -/
theorem div_alignUp_iff (hb : b ≠ 0) (ht : t ≠ 0) :
    (alignUp t b / b).toNat = ceilBlocks b t ↔ FillsBlocks b t := by
  have hpos : 0 < b.toNat := Nat.pos_of_ne_zero fun hzero =>
    hb (UInt64.toNat_inj.mp hzero)
  have hone : (b - 1).toNat = b.toNat - 1 := Word.toNat_sub hpos
  have htpos : 0 < t.toNat := Nat.pos_of_ne_zero fun hzero =>
    ht (UInt64.toNat_inj.mp hzero)
  have hsplit := Word.toNat_and_add_and_not (t + (b - 1)) (b - 1)
  unfold FillsBlocks ceilBlocks
  rw [UInt64.toNat_div, hone, ← Nat.add_sub_assoc hpos]
  by_cases hwrap : NoWrap b t
  · rw [and_iff_right hwrap, ← div_sub_eq_iff hpos]
    · have hsum := Word.toNat_add hwrap
      rw [hone, ← Nat.add_sub_assoc hpos] at hsum
      rw [← hsum, ← hsplit, Nat.add_sub_cancel_left]
      rfl
    · have hsum := Word.toNat_add hwrap
      omega
  · refine ⟨fun heq => absurd heq ?_, fun h => absurd h.1 hwrap⟩
    have hbelow : (alignUp t b).toNat < b.toNat := by
      have hsum := UInt64.toNat_add t (b - 1)
      have hlt := t.toNat_lt
      have hlt' := b.toNat_lt
      unfold NoWrap at hwrap
      unfold alignUp
      omega
    have hneeded : 0 < (t.toNat + b.toNat - 1) / b.toNat :=
      Nat.div_pos (by omega) hpos
    rw [Nat.div_eq_of_lt hbelow]
    omega

theorem fillsBlocks_of_two_pow {k : Nat} (hb : b.toNat = 2 ^ k)
    (ht : t.toNat + b.toNat ≤ 2 ^ 64) : FillsBlocks b t := by
  have hpos := Nat.two_pow_pos k
  have hone : (b - 1).toNat = 2 ^ k - 1 := by
    rw [← hb]
    exact Word.toNat_sub (show 1 ≤ b.toNat by omega)
  have hwrap : NoWrap b t := by
    unfold NoWrap
    omega
  refine ⟨hwrap, ?_⟩
  rw [UInt64.toNat_and, Word.toNat_add hwrap, hone, hb, Nat.and_two_pow_sub_one_eq_mod]

/-- The block sizes that every request up to the wrap fills. -/
theorem forall_fillsBlocks_iff :
    (∀ t : UInt64, t.toNat + b.toNat ≤ 2 ^ 64 → FillsBlocks b t) ↔
      ∃ k, b.toNat = 2 ^ k := by
  constructor
  · intro hall
    have hlt := b.toNat_lt
    have hfills := hall 1 (by rw [UInt64.toNat_one]; omega)
    have hb : b ≠ 0 := by
      intro hzero
      have hwrap := hfills.1
      rw [hzero] at hwrap
      exact absurd hwrap (by decide)
    have hb' : b.toNat ≠ 0 := fun hzero => hb (UInt64.toNat_inj.mp hzero)
    have hone : (b - 1).toNat = b.toNat - 1 :=
      Word.toNat_sub (Nat.pos_of_ne_zero hb')
    have hmask := hfills.2
    rw [UInt64.toNat_and, Word.toNat_add hfills.1, hone, UInt64.toNat_one,
      Nat.add_sub_cancel' (Nat.pos_of_ne_zero hb'), Nat.mod_self] at hmask
    exact (Nat.and_sub_one_eq_zero_iff_isPowerOfTwo hb').mp (Nat.le_zero.mp hmask)
  · intro ⟨k, hk⟩ t ht
    exact fillsBlocks_of_two_pow hk ht

namespace HostResource

variable {r r' : HostResource} {upstream : Nat → UInt64 → Except Exception Addr}
  {res : Option (Option Addr)} {a : MultipleBlocksAllocation} {p : Addr}
  {arena : ChunkedReservedArea}

theorem allocate_granted (ht : t ≠ 0)
    (h : r.allocateMultipleBlocks t res upstream = (r', .ok (some a))) :
    r.blockSize ≠ 0 ∧ a.blockSize = r.blockSize ∧ a.mr = true ∧
      a.blocks.length = (alignUp t r.blockSize / r.blockSize).toNat := by
  have hof {r₀ : HostResource} {n c : UInt64} {tracker : Option Addr}
      (h : r₀.allocateTracked upstream n c tracker = (r', .ok (some a)))
      (hblock : r₀.blockSize = r.blockSize) :
      a.blockSize = r.blockSize ∧ a.mr = true ∧
        a.blocks.length = (n / r.blockSize).toNat := by
    rcases allocateTracked_books h with ⟨blocks, hout, hlen, -⟩ | ⟨hno, -⟩ | ⟨hno, -⟩
    · cases hout
      rw [hblock] at hlen
      exact ⟨hblock, rfl, hlen⟩
    · exact absurd rfl (hno a)
    · exact absurd rfl (hno a)
  unfold allocateMultipleBlocks at h
  rw [if_neg ht] at h
  split at h
  · cases h
  · next hb =>
      refine ⟨hb, ?_⟩
      dsimp only at h
      split at h
      · exact hof h rfl
      · cases h
      · split at h
        · cases h
        · cases h
        · exact hof h rfl

theorem allocateTracked_divides (r : HostResource) (n c : UInt64)
    (tracker : Option Addr) :
    (r.allocateTracked upstream n c tracker).2 ≠ .error .divisionByZero := by
  intro h
  unfold allocateTracked at h
  split at h
  · cases h
  · dsimp only at h
    split at h <;> cases h

theorem divisionByZero_iff :
    (r.allocateMultipleBlocks t res upstream).2 = .error .divisionByZero ↔
      r.blockSize = 0 ∧ t ≠ 0 := by
  unfold allocateMultipleBlocks
  split
  · next ht => exact ⟨nofun, fun h => absurd ht h.2⟩
  · next ht =>
      split
      · next hb => exact ⟨fun _ => ⟨hb, ht⟩, fun _ => rfl⟩
      · next hb =>
          refine ⟨fun h => absurd h ?_, fun h => absurd h.1 hb⟩
          dsimp only
          split
          · exact allocateTracked_divides r _ _ _
          · nofun
          · split
            · nofun
            · nofun
            · exact allocateTracked_divides _ _ _ _

/-- An allocation that is granted has the blocks needed, and enough bytes. -/
theorem allocate_covers_iff
    (h : r.allocateMultipleBlocks t res upstream = (r', .ok (some a))) :
    t.toNat ≤ a.sizeBytes.toNat ∧ a.size = ceilBlocks r.blockSize t ↔
      t = 0 ∨ FillsBlocks r.blockSize t := by
  by_cases ht : t = 0
  · have hempty : a = .empty := by
      unfold allocateMultipleBlocks at h
      rw [if_pos ht] at h
      cases h
      rfl
    subst ht hempty
    refine ⟨fun _ => .inl rfl, fun _ => ⟨Nat.zero_le _, ?_⟩⟩
    show 0 = (0 + r.blockSize.toNat - 1) / r.blockSize.toNat
    rcases Nat.eq_zero_or_pos r.blockSize.toNat with hzero | hpos
    · rw [hzero]
    · rw [Nat.div_eq_of_lt (by omega)]
  · obtain ⟨hb, hsize, -, hlen⟩ := allocate_granted ht h
    rw [or_iff_right ht, ← div_alignUp_iff hb ht, ← hlen]
    refine ⟨fun h => h.2, fun heq => ⟨?_, heq⟩⟩
    have hpos : 0 < r.blockSize.toNat := Nat.pos_of_ne_zero fun hzero =>
      hb (UInt64.toNat_inj.mp hzero)
    have hdiv := Nat.div_add_mod' (t.toNat + r.blockSize.toNat - 1) r.blockSize.toNat
    have hmod := Nat.mod_lt (t.toNat + r.blockSize.toNat - 1) hpos
    have hfit : a.blocks.length * r.blockSize.toNat < 2 ^ 64 := by
      have hle := Nat.div_mul_le_self (alignUp t r.blockSize).toNat r.blockSize.toNat
      have hlt := (alignUp t r.blockSize).toNat_lt
      rw [hlen, UInt64.toNat_div]
      omega
    have hbytes : a.sizeBytes.toNat = a.blocks.length * r.blockSize.toNat := by
      rw [MultipleBlocksAllocation.sizeBytes, hsize, UInt64.toNat_mul,
        UInt64.toNat_ofNat', Nat.mod_mul_mod, Nat.mod_eq_of_lt hfit]
    have hneeded : a.blocks.length = ceilBlocks r.blockSize t := heq
    rw [hbytes, hneeded, ceilBlocks]
    omega

/-- A reservation that is granted has the size asked for. -/
theorem reserve_covers_iff {self : Addr} {onRelease : Option EventNotifier}
    (h : r.reserve self t onRelease = (some p, r')) :
    (∃ arena ∈ r'.arenas.lookup p, (t.toNat : Int) ≤ arena.size.toInt) ↔
      NoWrap r.blockSize t ∧ (alignUp t r.blockSize).toNat < 2 ^ 63 := by
  have hsize : ∃ arena, r'.arenas.lookup p = some arena ∧
      arena.size = (alignUp t r.blockSize).toInt64 := by
    unfold reserve at h
    dsimp only at h
    split at h
    · cases h
      exact ⟨_, AList.lookup_insert _, rfl⟩
    · cases h
  obtain ⟨arena, ha, hs⟩ := hsize
  rw [ha, ← le_alignUp_iff]
  simp only [Option.mem_def, Option.some.injEq, exists_eq_left', hs]
  obtain ⟨k, hk⟩ := Word.exists_toInt_toInt64 (alignUp t r.blockSize)
  have hlo := (alignUp t r.blockSize).toInt64.le_toInt
  have hhi := (alignUp t r.blockSize).toInt64.toInt_lt
  have hword := (alignUp t r.blockSize).toNat_lt
  omega

/-- A reservation that has grown has grown by what was asked for. -/
theorem growBy_covers_iff (ha : r.arenas.lookup p = some arena)
    (h : r.growBy p t = (r', .ok true)) :
    (∃ arena' ∈ r'.arenas.lookup p,
      (t.toNat : Int) ≤ arena'.size.toInt - arena.size.toInt) ↔
      NoWrap r.blockSize t ∧
        arena.size.toInt + (alignUp t r.blockSize).toNat < 2 ^ 63 := by
  have hsize : ∃ arena', r'.arenas.lookup p = some arena' ∧
      arena'.size = arena.size + (alignUp t r.blockSize).toInt64 := by
    unfold growBy at h
    simp only [ha] at h
    split at h
    · cases h
      exact ⟨_, AList.lookup_insert _, rfl⟩
    · cases h
  obtain ⟨arena', ha', hs⟩ := hsize
  rw [ha', ← le_alignUp_iff]
  simp only [Option.mem_def, Option.some.injEq, exists_eq_left', hs]
  obtain ⟨k, hk⟩ := Word.exists_toInt_add_toInt64 arena.size (alignUp t r.blockSize)
  have hlo := (arena.size + (alignUp t r.blockSize).toInt64).le_toInt
  have hhi := (arena.size + (alignUp t r.blockSize).toInt64).toInt_lt
  have hword := (alignUp t r.blockSize).toNat_lt
  have hlo' := arena.size.le_toInt
  have hhi' := arena.size.toInt_lt
  omega

/-- What each granted request comes to. The first condition is that of a block
size of zero, the others are on the rounding; and the block sizes that make the
second one hold up to the wrap are the powers of two. -/
theorem requests_covered_iff (r : HostResource) (t : UInt64) :
    (∀ res upstream,
      (r.allocateMultipleBlocks t res upstream).2 = .error .divisionByZero ↔
        r.blockSize = 0 ∧ t ≠ 0) ∧
    (∀ res upstream r' a,
      r.allocateMultipleBlocks t res upstream = (r', .ok (some a)) →
      (t.toNat ≤ a.sizeBytes.toNat ∧ a.size = ceilBlocks r.blockSize t ↔
        t = 0 ∨ FillsBlocks r.blockSize t)) ∧
    (∀ self onRelease p r', r.reserve self t onRelease = (some p, r') →
      ((∃ arena ∈ r'.arenas.lookup p, (t.toNat : Int) ≤ arena.size.toInt) ↔
        NoWrap r.blockSize t ∧ (alignUp t r.blockSize).toNat < 2 ^ 63)) ∧
    (∀ p arena r', r.arenas.lookup p = some arena → r.growBy p t = (r', .ok true) →
      ((∃ arena' ∈ r'.arenas.lookup p,
          (t.toNat : Int) ≤ arena'.size.toInt - arena.size.toInt) ↔
        NoWrap r.blockSize t ∧
          arena.size.toInt + (alignUp t r.blockSize).toNat < 2 ^ 63)) ∧
    ((∀ t : UInt64, t.toNat + r.blockSize.toNat ≤ 2 ^ 64 →
        FillsBlocks r.blockSize t) ↔
      ∃ k, r.blockSize.toNat = 2 ^ k) :=
  ⟨fun _ _ => divisionByZero_iff, fun _ _ _ _ h => allocate_covers_iff h,
    fun _ _ _ _ h => reserve_covers_iff h,
    fun _ _ _ ha h => growBy_covers_iff ha h, forall_fillsBlocks_iff⟩

/-- Blocks of 48 bytes, of which a request for one byte gets none. -/
theorem no_block_for_one_byte :
    ∃ r' a, (create 4096 4096 48 4 [0x1000]).allocateMultipleBlocks 1 none
        (fun _ _ => .ok 0x2000) = (r', .ok (some a)) ∧
      ¬ ((1 : UInt64).toNat ≤ a.sizeBytes.toNat ∧ a.size = ceilBlocks 48 1) := by
  refine ⟨_, _, rfl, ?_⟩
  intro h
  exact absurd h.1 (by decide)

end HostResource

end CuCascade.Memory

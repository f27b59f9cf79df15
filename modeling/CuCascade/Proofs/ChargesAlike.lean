import CuCascade.Proofs.AdaptorSpec
import CuCascade.Proofs.HostLedger

/-!
# The two limiters against each other

What allocating and freeing under a reservation moves on the counter, once for
the GPU adaptor under the ignore policy and once for the host pool. Both are
compared with the same two differences of `max size used`. The host pool meets
them for every size, use and amount. The adaptor meets the one for allocating;
for freeing it takes off the part of the block below the boundary where the
part above it was charged, so the two agree there exactly if the block does not
straddle the boundary or has it in its middle.
-/

namespace CuCascade.Memory

open Utils

/-- Taking `n` off `pre` does not pass the boundary, or passes it half-way. -/
def EvenSplit (size pre n : Int) : Prop :=
  pre - n < size → size < pre → size - (pre - n) = pre - size

instance (size pre n : Int) : Decidable (EvenSplit size pre n) :=
  inferInstanceAs (Decidable (_ → _))

theorem straddleError_eq_zero_iff {size pre n : Int} :
    straddleError ⟨size, pre⟩ n = 0 ↔ EvenSplit size pre n := by
  simp only [straddleError, EvenSplit]
  split <;> omega

/-- A multiple of the alignment is its own rounding. -/
theorem alignUp_of_dvd {n a : UInt64} {k : Nat} (ha : a.toNat = 2 ^ k)
    (h : 2 ^ k ∣ n.toNat) (hn : n.toNat < 2 ^ 63) : alignUp n a = n := by
  have hpow := Word.two_pow_le ha
  have hpos := Nat.two_pow_pos k
  obtain ⟨m, hm⟩ := h
  rw [← UInt64.toNat_inj, toNat_alignUp ha (by omega), hm]
  have hdiv : (2 ^ k * m + 2 ^ k - 1) / 2 ^ k = m := by
    rw [Nat.add_sub_assoc hpos, Nat.mul_add_div hpos, Nat.div_eq_of_lt (by omega),
      Nat.add_zero]
  rw [hdiv, Nat.mul_comm]

/-! ## The GPU adaptor -/

/-- What the adaptor charges for `n` bytes more than `used`, what it gives back
for `n` bytes less, and that the one undoes the other. -/
structure GpuCharges (size used : Int64) (n : UInt64) : Prop where
  allocate : ∀ {mr mr' : Adaptor} {arena arena' : DeviceReservedArena} {oom}
    {upstream : UpstreamResult} {ptr : Addr},
    arena.size = size → arena.allocatedBytes = used →
    mr.doAllocateTracked arena (some .ignore) oom n upstream =
      ((mr', arena'), .ok ptr) →
    (mr'.totalAllocatedBytes.toNat : Int) = mr.totalAllocatedBytes.toNat +
      (max size.toInt (used.toInt + n.toNat) - max size.toInt used.toInt)
  free : n.toNat ≤ used.toInt → ∀ (mr : Adaptor) (arena : DeviceReservedArena),
    arena.size = size → arena.allocatedBytes = used →
    ((mr.totalAllocatedBytes -
        (mr.doDeallocateTracked arena n).1.totalAllocatedBytes).toNat : Int) =
      max size.toInt used.toInt - max size.toInt (used.toInt - n.toNat)
  restore : ∀ {mr mr' : Adaptor} {arena arena' : DeviceReservedArena} {oom}
    {upstream : UpstreamResult} {ptr : Addr},
    arena.size = size → arena.allocatedBytes = used →
    mr.doAllocateTracked arena (some .ignore) oom n upstream =
      ((mr', arena'), .ok ptr) →
    (mr'.doDeallocateTracked arena' n).1.totalAllocatedBytes =
        mr.totalAllocatedBytes ∧
      (mr'.doDeallocateTracked arena' n).2.allocatedBytes = used

section Gpu

variable {mr mr' : Adaptor} {arena arena' : DeviceReservedArena} {n : UInt64}

/-- An allocation that succeeds under the ignore policy draws on the account
and charges what the draw costs. -/
theorem allocateTracked_ok {oom : OomHandlingPolicy} {upstream : UpstreamResult}
    {ptr : Addr} (hn : 256 ∣ n.toNat) (hsize : 0 ≤ arena.size.toInt)
    (hused : 0 ≤ arena.allocatedBytes.toInt)
    (hfit : arena.allocatedBytes.toInt + n.toNat < 2 ^ 63)
    (h : mr.doAllocateTracked arena (some .ignore) oom n upstream =
      ((mr', arena'), .ok ptr)) :
    arena'.size = arena.size ∧
      arena'.allocatedBytes = arena.allocatedBytes + n.toInt64 ∧
      ∃ c : UInt64, mr'.totalAllocatedBytes = mr.totalAllocatedBytes + c ∧
        mr.totalAllocatedBytes.toNat + c.toNat < 2 ^ 64 ∧
        (c.toNat : Int) =
          max arena.size.toInt (arena.allocatedBytes.toInt + n.toNat) -
            max arena.size.toInt arena.allocatedBytes.toInt := by
  have hround : round256 n = n := alignUp_of_dvd (k := 8) rfl hn (by omega)
  have hhi := arena.size.toInt_lt
  have hcast := Word.toInt_toInt64 (a := n) (by omega)
  have hadd := Word.toInt_add (a := arena.allocatedBytes) (b := n.toInt64)
    (by omega) (by omega)
  have hgrow : ReservationLimitPolicy.GrowthFits mr arena (round256 n)
      (some .ignore) := trivial
  obtain ⟨g, k, hg, hmoved, hfloor, hends⟩ :=
    allocateTracked_cases (by rw [hround]; omega) hsize
      (by omega) (by rw [hround]; omega) (fun _ => hgrow) h
  obtain rfl := hg trivial
  have htotal := hmoved.total
  have hword := mr'.totalAllocatedBytes.toNat_lt
  rw [hround] at hends
  rcases hends with ⟨-, hk, hused'⟩ | ⟨⟨e, he⟩, -⟩
  · simp only [Account.charge, Account.draw, DeviceReservedArena.account_floor,
      DeviceReservedArena.account_used] at hk
    have hck := Word.toNat_ofNat (n := k) (by omega)
    refine ⟨Int64.toInt_inj.mp (by omega), Int64.toInt_inj.mp (by omega),
      UInt64.ofNat k, ?_, by omega, by omega⟩
    rw [← UInt64.toNat_inj, Word.toNat_add (by omega)]
    omega
  · cases he

/-- What a free takes off the counter. -/
theorem deallocateTracked_eq (mr : Adaptor) (arena : DeviceReservedArena)
    (hn : 256 ∣ n.toNat)
    (hle : (n.toNat : Int) ≤ arena.allocatedBytes.toInt) :
    ∃ x : UInt64, (mr.doDeallocateTracked arena n).1.totalAllocatedBytes =
        mr.totalAllocatedBytes - x ∧
      (mr.doDeallocateTracked arena n).2.allocatedBytes =
        arena.allocatedBytes - n.toInt64 ∧
      (x.toNat : Int) =
        max arena.size.toInt arena.allocatedBytes.toInt -
          max arena.size.toInt (arena.allocatedBytes.toInt - n.toNat) -
          straddleError ⟨arena.size.toInt, arena.allocatedBytes.toInt⟩ n.toNat := by
  have hhi := arena.allocatedBytes.toInt_lt
  have hround : round256 n = n := alignUp_of_dvd (k := 8) rfl hn (by omega)
  have hcast := Word.toInt_toInt64 (a := n) (by omega)
  have hsub := Word.toInt_sub (a := arena.allocatedBytes) (b := n.toInt64)
    (by omega) (by omega)
  have hpost : (arena.allocatedBytes - n.toInt64).toInt + n.toNat < 2 ^ 63 := by
    omega
  obtain ⟨hspec, -⟩ := upstreamReclaimedBytes_spec arena.size (by omega) hpost
  rw [hsub, hcast, Int.sub_add_cancel] at hspec
  simp only [Account.charge, Account.draw] at hspec
  refine ⟨Adaptor.upstreamReclaimedBytes n arena.size
    (arena.allocatedBytes - n.toInt64), ?_, ?_, by rw [hspec, Int.add_neg_eq_sub]⟩
  · simp only [Adaptor.doDeallocateTracked, hround]
  · simp only [Adaptor.doDeallocateTracked, hround]

/-- With room for everything an allocation succeeds. -/
theorem exists_allocateTracked (arena : DeviceReservedArena) (hn : 256 ∣ n.toNat)
    (hsize : 0 ≤ arena.size.toInt) (hused : 0 ≤ arena.allocatedBytes.toInt)
    (hfit : arena.allocatedBytes.toInt + n.toNat < 2 ^ 63) :
    ∃ mr mr' arena' oom upstream ptr,
      Adaptor.doAllocateTracked mr arena (some .ignore) oom n upstream =
        ((mr', arena'), .ok ptr) := by
  have hround : round256 n = n := alignUp_of_dvd (k := 8) rfl hn (by omega)
  have hhi := arena.size.toInt_lt
  have hgrow : ReservationLimitPolicy.GrowthFits (.fresh (0 - 1) (0 - 1)) arena n
    (some .ignore) := trivial
  rcases hcheck : (Adaptor.fresh (0 - 1) (0 - 1)).checkReservationAndHandleOverflow
    arena (some .ignore) n with ⟨⟨mr₁, arena₁⟩, res₁⟩
  rcases check_cases (by omega) hsize (by omega) hfit (fun _ => hgrow) hcheck with
    ⟨-, -, -, hstrict, -⟩ | ⟨c, rfl, g, hg, -, hmoved, -⟩
  · exact absurd trivial hstrict
  · obtain rfl := hg trivial
    have hroom : mr₁.totalAllocatedBytes.toNat + c.toNat ≤ mr₁.capacity.toNat := by
      have htotal := hmoved.total
      have hzero : (Adaptor.fresh (0 - 1) (0 - 1)).totalAllocatedBytes.toNat = 0 :=
        rfl
      have hcap : mr₁.capacity.toNat = 2 ^ 64 - 1 := by
        rw [hmoved.cap]
        rfl
      have hword := c.toNat_lt
      omega
    obtain ⟨mr₂, hcall⟩ : ∃ mr₂, mr₁.doAllocateUnmanaged n c (.ok 0) =
        (mr₂, .ok 0) := by
      simp only [Adaptor.doAllocateUnmanaged, tryAdd_of_le hroom]
      exact ⟨_, rfl⟩
    refine ⟨.fresh (0 - 1) (0 - 1), mr₂, arena₁, .throwOnOom, .ok 0, 0, ?_⟩
    simp only [Adaptor.doAllocateTracked, hround, hcheck, hcall]

theorem gpuCharges_iff {size used : Int64} (hn : 256 ∣ n.toNat)
    (hsize : 0 ≤ size.toInt) (hused : 0 ≤ used.toInt)
    (hfit : used.toInt + n.toNat < 2 ^ 63) :
    GpuCharges size used n ↔
      (n.toNat ≤ used.toInt → EvenSplit size.toInt used.toInt n.toNat) ∧
        EvenSplit size.toInt (used.toInt + n.toNat) n.toNat := by
  have hcast := Word.toInt_toInt64 (a := n) (by omega)
  have hadd := Word.toInt_add (a := used) (b := n.toInt64) (by omega) (by omega)
  rw [hcast] at hadd
  constructor
  · intro h
    obtain ⟨arena, rfl, rfl⟩ : ∃ arena : DeviceReservedArena,
        size = arena.size ∧ used = arena.allocatedBytes :=
      ⟨⟨size, used, 0, none⟩, rfl, rfl⟩
    constructor
    · intro hle
      obtain ⟨x, htotal, -, hx⟩ :=
        deallocateTracked_eq (.fresh 0 0) arena hn hle
      have hfree := h.free hle (.fresh 0 0) arena rfl rfl
      rw [htotal, Word.sub_sub_self, hx] at hfree
      exact straddleError_eq_zero_iff.mp (by omega)
    · obtain ⟨mr, mr', arena', oom, upstream, ptr, hcall⟩ :=
        exists_allocateTracked arena hn hsize hused hfit
      obtain ⟨hsize', hused', c, htotal, -, hc⟩ :=
        allocateTracked_ok hn hsize hused hfit hcall
      have hused'' : arena'.allocatedBytes.toInt =
          arena.allocatedBytes.toInt + n.toNat := by
        rw [hused']
        exact hadd
      obtain ⟨x, hback, -, hx⟩ :=
        deallocateTracked_eq mr' arena' hn (by omega)
      obtain ⟨hrestored, -⟩ := h.restore rfl rfl hcall
      rw [hback, htotal, Word.add_sub_eq_iff] at hrestored
      subst hrestored
      rw [hused'', hsize'] at hx
      rw [Int.add_sub_cancel] at hx
      exact straddleError_eq_zero_iff.mp (by omega)
  · rintro ⟨hfree, hback⟩
    rw [← straddleError_eq_zero_iff] at hback
    refine ⟨?_, ?_, ?_⟩
    · rintro mr mr' arena arena' oom upstream ptr rfl rfl hcall
      obtain ⟨-, -, c, htotal, hword, hc⟩ :=
        allocateTracked_ok hn hsize hused hfit hcall
      rw [htotal, Word.toNat_add hword, ← hc]
      exact Int.natCast_add _ _
    · rintro hle mr arena rfl rfl
      have heven := straddleError_eq_zero_iff.mpr (hfree hle)
      obtain ⟨x, htotal, -, hx⟩ := deallocateTracked_eq mr arena hn hle
      rw [htotal, Word.sub_sub_self, hx, heven, Int.sub_zero]
    · rintro mr mr' arena arena' oom upstream ptr rfl rfl hcall
      obtain ⟨hsize', hused', c, htotal, -, hc⟩ :=
        allocateTracked_ok hn hsize hused hfit hcall
      rw [← hused'] at hadd
      obtain ⟨x, hafter, huse, hx⟩ :=
        deallocateTracked_eq mr' arena' hn (by omega)
      rw [hadd, hsize', hback, Int.add_sub_cancel] at hx
      have hxc : x = c := UInt64.toNat_inj.mp (by omega)
      refine ⟨?_, ?_⟩
      · rw [hafter, htotal, hxc]
        exact Word.add_sub_eq_iff.mpr rfl
      · rw [huse]
        have hsub := Word.toInt_sub (a := arena'.allocatedBytes) (b := n.toInt64)
          (by omega) (by omega)
        exact Int64.toInt_inj.mp (by omega)

end Gpu

/-! ## The host pool -/

open HostResource

/-- The same of the host pool, for a reservation of this size with this use. -/
structure HostCharges (size used : Int64) (n : UInt64) : Prop where
  allocate : ∀ {r r' : HostResource} {p : Addr} {arena : ChunkedReservedArea}
    {k : Nat} {upstream : Nat → UInt64 → Except Exception Addr}
    {a : MultipleBlocksAllocation},
    r.Holds p arena used → arena.size = size → r.blockSize.toNat = 2 ^ k →
    2 ^ k ∣ n.toNat →
    r.allocateMultipleBlocks n (some (some p)) upstream = (r', .ok (some a)) →
    (r'.allocatedBytes.toNat : Int) = r.allocatedBytes.toNat +
      (max size.toInt (used.toInt + n.toNat) - max size.toInt used.toInt)
  free : n.toNat ≤ used.toInt → ∀ {r : HostResource} {p : Addr}
    {arena : ChunkedReservedArea} {chunks : List Block},
    r.Holds p arena used → arena.size = size →
    chunks.length * r.blockSize.toNat = n.toNat →
    ((r.allocatedBytes -
        (r.returnAllocatedChunks chunks (some p)).1.allocatedBytes).toNat : Int) =
      max size.toInt used.toInt - max size.toInt (used.toInt - n.toNat)
  restore : ∀ {r r' : HostResource} {p : Addr} {arena : ChunkedReservedArea}
    {k : Nat} {upstream : Nat → UInt64 → Except Exception Addr}
    {a : MultipleBlocksAllocation},
    r.Holds p arena used → arena.size = size → r.blockSize.toNat = 2 ^ k →
    2 ^ k ∣ n.toNat →
    r.allocateMultipleBlocks n (some (some p)) upstream = (r', .ok (some a)) →
    (r'.destroyAllocation a).1.allocatedBytes = r.allocatedBytes ∧
      (r'.destroyAllocation a).1.activeReservations.lookup p = some used

section Host

variable {upstream : Nat → UInt64 → Except Exception Addr} {r r' : HostResource}
  {p : Addr} {arena : ChunkedReservedArea} {used : Int64} {n : UInt64} {k : Nat}
  {a : MultipleBlocksAllocation}

/-- An allocation under a reservation that was granted. -/
theorem allocateMultipleBlocks_granted (hp : r.Holds p arena used)
    (halign : alignUp n r.blockSize = n) (hblock : r.blockSize ≠ 0) (hn : n ≠ 0)
    (h : r.allocateMultipleBlocks n (some (some p)) upstream =
      (r', .ok (some a))) :
    ∃ c, c = upstreamTrackedBytes n arena.size used (used + n.toInt64) ∧
      r'.allocatedBytes = r.allocatedBytes + c ∧
      r.allocatedBytes.toNat + c.toNat < 2 ^ 64 ∧
      r'.Holds p arena (used + n.toInt64) ∧ r'.blockSize = r.blockSize ∧
      a.mr = true ∧ a.reservedMemory = some p ∧
      a.blocks.length = (n / r.blockSize).toNat := by
  simp only [allocateMultipleBlocks, if_neg hn, if_neg hblock, halign, hp.used,
    hp.arena, allocateTracked] at h
  refine ⟨_, rfl, ?_⟩
  rcases Nat.lt_or_ge r.memoryCapacity.toNat (r.allocatedBytes.toNat +
    (upstreamTrackedBytes n arena.size used (used + n.toInt64)).toNat) with
    hlt | hle
  · simp only [tryAdd_of_lt hlt] at h
    cases h
  · simp only [tryAdd_of_le hle] at h
    have hword := r.memoryCapacity.toNat_lt
    split at h
    · cases h
    · cases h
    · rename_i r₁ taken htake
      obtain ⟨hb, hall⟩ := takeBlocks_books _ htake
      have hlen := hall taken rfl
      cases h
      refine ⟨hb.allocatedBytes, by omega, ⟨?_, ?_⟩, hb.blockSize, rfl, rfl, ?_⟩
      · show r₁.arenas.lookup p = _
        rw [hb.arenas, hp.arena]
      · show r₁.activeReservations.lookup p = _
        rw [hb.activeReservations, AList.lookup_insert]
      · rw [hlen]
        exact Nat.zero_add _

/-- What returning chunks takes off the counter. -/
theorem returnAllocatedChunks_eq {chunks : List Block}
    (hp : r.Holds p arena used)
    (hbytes : UInt64.ofNat chunks.length * r.blockSize = n) :
    (r.returnAllocatedChunks chunks (some p)).1.allocatedBytes =
        r.allocatedBytes - reclaimedBytes n arena.size used (used - n.toInt64) ∧
      (r.returnAllocatedChunks chunks (some p)).1.activeReservations.lookup p =
        some (used - n.toInt64) := by
  simp only [returnAllocatedChunks, hbytes, Option.bind_some, hp.used,
    Option.map_some, hp.arena, AList.lookup_insert, and_self]

theorem ofNat_mul_eq {m : Nat} {b : UInt64} (h : m * b.toNat = n.toNat) :
    UInt64.ofNat m * b = n := by
  rw [← UInt64.toNat_inj, UInt64.toNat_mul, UInt64.toNat_ofNat', Nat.mod_mul_mod, h,
    Nat.mod_eq_of_lt n.toNat_lt]

/-- Destroying an allocation that was granted gives back what it was charged. -/
theorem destroyAllocation_granted (hp : r.Holds p arena used)
    (hsize : 0 ≤ arena.size.toInt) (hused : 0 ≤ used.toInt)
    (hfit : used.toInt + n.toNat < 2 ^ 63) (hblock : r.blockSize.toNat = 2 ^ k)
    (hdvd : 2 ^ k ∣ n.toNat) (hn : n ≠ 0)
    (h : r.allocateMultipleBlocks n (some (some p)) upstream = (r', .ok (some a))) :
    (r'.destroyAllocation a).1.allocatedBytes = r.allocatedBytes ∧
      (r'.destroyAllocation a).1.activeReservations.lookup p = some used := by
  have hpos := Nat.two_pow_pos k
  have hcast := Word.toInt_toInt64 (a := n) (by omega)
  have hadd := Word.toInt_add (a := used) (b := n.toInt64) (by omega) (by omega)
  have hcost := upstreamTrackedBytes_spec arena.size used (n := n) (by omega) hsize hused
    hfit
  obtain ⟨c, hc, htotal, hword, hp', hblock', hmr, hres, hlen⟩ :=
    allocateMultipleBlocks_granted hp (alignUp_of_dvd hblock hdvd (by omega))
      (Word.ne_zero_of_two_pow hblock) hn h
  obtain ⟨m, hm⟩ := hdvd
  have hcount : a.blocks.length = m := by
    rw [hlen, UInt64.toNat_div, hblock, hm, Nat.mul_div_cancel_left _ hpos]
  have hbytes : UInt64.ofNat a.blocks.length * r'.blockSize = n :=
    ofNat_mul_eq (by rw [hcount, hblock', hblock, hm, Nat.mul_comm])
  have hne : a.blocks ≠ [] := by
    intro hnil
    rw [hnil] at hcount
    subst hcount
    exact hn (UInt64.toNat_inj.mp (by rw [hm]; simp))
  obtain ⟨hback, huse⟩ := returnAllocatedChunks_eq hp' hbytes
  have hgive := reclaimedBytes_spec arena.size (used + n.toInt64) (n := n)
    (by omega) hsize (by omega)
  have hsub := Word.toInt_sub (a := used + n.toInt64) (b := n.toInt64)
    (by omega) (by omega)
  rw [destroyAllocation_eq hmr hne, hres]
  refine ⟨?_, ?_⟩
  · rw [hback, htotal]
    refine Word.add_sub_eq_iff.mpr (UInt64.toNat_inj.mp ?_)
    rw [hc]
    omega
  · rw [huse]
    exact congrArg some (Int64.toInt_inj.mp (by omega))

theorem hostCharges {size : Int64} (hsize : 0 ≤ size.toInt)
    (hused : 0 ≤ used.toInt) (hfit : used.toInt + n.toNat < 2 ^ 63) :
    HostCharges size used n := by
  have hcost := upstreamTrackedBytes_spec size used (n := n) (by omega) hsize hused
    hfit
  refine ⟨?_, ?_, ?_⟩
  · rintro r r' p arena k upstream a hp rfl hblock hdvd h
    have halign := alignUp_of_dvd hblock hdvd (by omega)
    by_cases hn : n = 0
    · subst hn
      simp only [allocateMultipleBlocks, if_true] at h
      cases h
      simp
    · obtain ⟨c, rfl, htotal, hword, -⟩ := allocateMultipleBlocks_granted hp halign
        (Word.ne_zero_of_two_pow hblock) hn h
      rw [htotal, Word.toNat_add hword, ← hcost]
      exact Int.natCast_add _ _
  · rintro hle r p arena chunks hp rfl hbytes
    have hgive := reclaimedBytes_spec arena.size used (n := n) (by omega) hsize hle
    rw [(returnAllocatedChunks_eq hp (ofNat_mul_eq hbytes)).1, Word.sub_sub_self,
      hgive]
  · rintro r r' p arena k upstream a hp rfl hblock hdvd h
    by_cases hn : n = 0
    · subst hn
      simp only [allocateMultipleBlocks, if_true] at h
      cases h
      exact ⟨rfl, hp.used⟩
    · exact destroyAllocation_granted hp hsize hused hfit hblock hdvd hn h

end Host

/-! ## Both -/

def ChargesAlike (size used : Int64) (n : UInt64) : Prop :=
  GpuCharges size used n ∧ HostCharges size used n

/-- The limiters charge and give back the same exactly if no free of the amount
passes the boundary other than half-way. -/
theorem chargesAlike_iff {size used : Int64} {n : UInt64} (hn : 256 ∣ n.toNat)
    (hsize : 0 ≤ size.toInt) (hused : 0 ≤ used.toInt)
    (hfit : used.toInt + n.toNat < 2 ^ 63) :
    ChargesAlike size used n ↔
      (n.toNat ≤ used.toInt → EvenSplit size.toInt used.toInt n.toNat) ∧
        EvenSplit size.toInt (used.toInt + n.toNat) n.toNat := by
  rw [← gpuCharges_iff hn hsize hused hfit]
  exact and_iff_left (hostCharges hsize hused hfit)

theorem chargesAlike_halfway : ChargesAlike 1024 768 512 :=
  (chargesAlike_iff (by decide) (by decide) (by decide) (by decide)).mpr
    (by decide)

/-- A block of 768 bytes on a reservation of 256 is charged with 512; freed, it
gives 512 back to the host pool and 256 to the adaptor. -/
theorem not_chargesAlike_straddling : ¬ ChargesAlike 256 0 768 := by
  rintro ⟨hgpu, -⟩
  have hsplit := ((gpuCharges_iff (by decide) (by decide) (by decide)
    (by decide)).mp hgpu).2
  exact absurd hsplit (by decide)

end CuCascade.Memory

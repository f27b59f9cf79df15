import CuCascade.Lib.Ledger
import CuCascade.Memory.ResourceAdaptor

/-!
# What each function of the GPU limiter does to its books

One lemma for each function of `ResourceAdaptor.lean`, in integers: how far the
total moves and what becomes of the arena. Each assumes what keeps the machine
arithmetic exact at its own inputs and nothing about the rest of the state.

An arena is read as an account, the reservation its floor and the bytes
allocated under it its use. The amount an allocation charges is then the
difference of two `Account.charge`s, and the amounts the other functions move
are differences of headroom. Where a function moves something else, its lemma
says by how much.
-/

namespace CuCascade.Memory

open Utils

def DeviceReservedArena.account (a : DeviceReservedArena) : Account Int :=
  ⟨a.size.toInt, a.allocatedBytes.toInt⟩

@[simp] theorem DeviceReservedArena.account_floor (a : DeviceReservedArena) :
    a.account.floor = a.size.toInt := rfl

@[simp] theorem DeviceReservedArena.account_used (a : DeviceReservedArena) :
    a.account.used = a.allocatedBytes.toInt := rfl

namespace Adaptor

/-- `mr'` is `mr` with `d` more on its total, which has not been pushed past
the limits. -/
structure Moved (mr mr' : Adaptor) (d : Int) : Prop where
  total : (mr'.totalAllocatedBytes.toNat : Int) = mr.totalAllocatedBytes.toNat + d
  limit : mr'.memoryLimit = mr.memoryLimit
  cap : mr'.capacity = mr.capacity
  bound : mr'.totalAllocatedBytes.toNat ≤ max mr.totalAllocatedBytes.toNat
    (max mr.memoryLimit.toNat mr.capacity.toNat)

theorem Moved.refl (mr : Adaptor) : mr.Moved mr 0 :=
  ⟨by omega, rfl, rfl, by omega⟩

theorem Moved.trans {mr₁ mr₂ mr₃ : Adaptor} {d e : Int} (h₁ : mr₁.Moved mr₂ d)
    (h₂ : mr₂.Moved mr₃ e) : mr₁.Moved mr₃ (d + e) := by
  have hb₁ := h₁.bound
  have hb₂ := h₂.bound
  rw [h₁.limit, h₁.cap] at hb₂
  exact ⟨by rw [h₂.total, h₁.total, Int.add_assoc], h₂.limit.trans h₁.limit,
    h₂.cap.trans h₁.cap, by omega⟩

/-! ## Reserving -/

theorem doReserve_of_le {mr : Adaptor} {n : UInt64}
    (h : mr.totalAllocatedBytes.toNat + n.toNat ≤ mr.memoryLimit.toNat) :
    ∃ mr', mr.doReserve n mr.memoryLimit = (true, mr') ∧
      mr.Moved mr' n.toNat := by
  have hsum := toNat_add_of_le h
  unfold doReserve
  rw [tryAdd_of_le h]
  exact ⟨_, rfl, by dsimp only; omega, rfl, rfl, by dsimp only; omega⟩

theorem doReserve_of_lt {mr : Adaptor} {n : UInt64}
    (h : mr.memoryLimit.toNat < mr.totalAllocatedBytes.toNat + n.toNat) :
    mr.doReserve n mr.memoryLimit = (false, mr) := by
  unfold doReserve
  rw [tryAdd_of_lt h]

theorem account_makeArena {n : UInt64} (hn : n.toNat < 2 ^ 63)
    (notifier : Option EventNotifier) :
    (makeArena n notifier).account = ⟨n.toNat, 0⟩ := by
  unfold makeArena DeviceReservedArena.account
  rw [Word.toInt_toInt64 hn]
  rfl

/-- `reserve` grants what fits under the limit and opens an arena of exactly
that size, or changes nothing. -/
theorem reserve_cases {mr mr' : Adaptor} {n : UInt64}
    {notifier : Option EventNotifier} {arena : Option DeviceReservedArena}
    (h : mr.reserve n notifier = (arena, mr')) :
    (mr.totalAllocatedBytes.toNat + n.toNat ≤ mr.memoryLimit.toNat ∧
      arena = some (makeArena n notifier) ∧ mr.Moved mr' n.toNat) ∨
    (mr.memoryLimit.toNat < mr.totalAllocatedBytes.toNat + n.toNat ∧
      arena = none ∧ mr' = mr) := by
  unfold reserve at h
  rcases Nat.lt_or_ge mr.memoryLimit.toNat
    (mr.totalAllocatedBytes.toNat + n.toNat) with hlt | hle
  · rw [doReserve_of_lt hlt] at h
    injection h with h₁ h₂
    exact Or.inr ⟨hlt, h₁.symm, h₂.symm⟩
  · obtain ⟨mr₁, heq, hmoved⟩ := doReserve_of_le hle
    rw [heq] at h
    injection h with h₁ h₂
    subst h₂
    exact Or.inl ⟨hle, h₁.symm, hmoved.total, hmoved.limit, hmoved.cap,
      hmoved.bound⟩

/-- `reserve_upto` grants the part of the request that fits. -/
theorem reserveUpto_cases {mr mr' : Adaptor} {n : UInt64}
    {notifier : Option EventNotifier} {arena : DeviceReservedArena}
    (h : mr.reserveUpto n notifier = (arena, mr')) :
    ∃ g : UInt64, arena = makeArena g notifier ∧ mr.Moved mr' g.toNat ∧
      g.toNat = min n.toNat
        (mr.memoryLimit.toNat - mr.totalAllocatedBytes.toNat) := by
  obtain ⟨hgrant, hpost⟩ :=
    addBounded_spec mr.totalAllocatedBytes n mr.memoryLimit
  unfold reserveUpto doReserveUpto at h
  dsimp only at h
  split at h <;> injection h with h₁ h₂ <;> subst h₂ <;>
    exact ⟨_, h₁.symm, ⟨by dsimp only; omega, rfl, rfl, by dsimp only; omega⟩,
      hgrant⟩

/-- `grow_reservation_by` takes the whole amount or nothing. -/
theorem grow_cases {mr mr' : Adaptor} {arena arena' : DeviceReservedArena}
    {n : UInt64} {grown : Bool} (hsize : 0 ≤ arena.size.toInt)
    (hfit : mr.totalAllocatedBytes.toNat + n.toNat ≤ mr.memoryLimit.toNat →
      arena.size.toInt + n.toNat < 2 ^ 63)
    (h : mr.growReservationBy arena n = (grown, mr', arena')) :
    (mr.totalAllocatedBytes.toNat + n.toNat ≤ mr.memoryLimit.toNat ∧
      grown = true ∧ mr.Moved mr' n.toNat ∧
      arena'.allocatedBytes = arena.allocatedBytes ∧
      arena'.size.toInt = arena.size.toInt + n.toNat) ∨
    (mr.memoryLimit.toNat < mr.totalAllocatedBytes.toNat + n.toNat ∧
      grown = false ∧ mr' = mr ∧ arena' = arena) := by
  unfold growReservationBy at h
  rcases Nat.lt_or_ge mr.memoryLimit.toNat
    (mr.totalAllocatedBytes.toNat + n.toNat) with hlt | hle
  · rw [doReserve_of_lt hlt] at h
    injection h with h₁ h₂
    injection h₂ with h₂ h₃
    exact Or.inr ⟨hlt, h₁.symm, h₂.symm, h₃.symm⟩
  · obtain ⟨mr₁, heq, hmoved⟩ := doReserve_of_le hle
    rw [heq] at h
    injection h with h₁ h₂
    injection h₂ with h₂ h₃
    subst h₂ h₃
    have hroom := hfit hle
    have hcast := Word.toInt_toInt64 (a := n) (by omega)
    refine Or.inl ⟨hle, h₁.symm, hmoved, rfl, ?_⟩
    show (arena.size + n.toInt64).toInt = _
    rw [Word.toInt_add (by omega) (by omega), hcast]

/-! ## Giving back -/

theorem sub_moved {mr : Adaptor} {x : UInt64}
    (h : x.toNat ≤ mr.totalAllocatedBytes.toNat) :
    mr.Moved { mr with totalAllocatedBytes := mr.totalAllocatedBytes - x }
      (-x.toNat) := by
  have hsub := Word.toNat_sub h
  exact ⟨by dsimp only; omega, rfl, rfl, by dsimp only; omega⟩

/-- `shrink_reservation_to_fit` takes the floor down to what is in use, never
below zero, and pays back the difference in headroom. -/
theorem shrink_cases {mr mr' : Adaptor} {arena arena' : DeviceReservedArena}
    (hsize : 0 ≤ arena.size.toInt)
    (hroom : arena.account.headroom ≤ mr.totalAllocatedBytes.toNat)
    (h : mr.shrinkReservationToFit arena = (mr', arena')) :
    ∃ floor, 0 ≤ floor ∧ floor ≤ arena.size.toInt ∧
      arena'.account = arena.account.withFloor floor ∧
      mr.Moved mr' ((arena.account.withFloor floor).headroom -
        arena.account.headroom) := by
  have hmax := Word.toInt_max 0 arena.allocatedBytes
  have hlo := arena.size.toInt_lt
  simp only [Account.headroom, Account.withFloor,
    DeviceReservedArena.account_floor, DeviceReservedArena.account_used,
    Word.toInt_zero] at hroom hmax ⊢
  unfold shrinkReservationToFit at h
  dsimp only at h
  split at h <;> rename_i hlt <;> rw [Int64.lt_iff_toInt_lt, hmax] at hlt <;>
    injection h with h₁ h₂ <;> subst h₁ h₂
  · have hcast := Word.toNat_toUInt64_sub (a := arena.size)
      (b := max 0 arena.allocatedBytes) (by omega) (by omega)
    have hle : (arena.size - max 0 arena.allocatedBytes).toUInt64.toNat ≤
        mr.totalAllocatedBytes.toNat := by omega
    obtain ⟨htotal, -, -, hbound⟩ := sub_moved hle
    refine ⟨max 0 arena.allocatedBytes.toInt, le_max_left _ _, by omega, ?_, ?_,
      rfl, rfl, hbound⟩
    · unfold DeviceReservedArena.account
      rw [hmax]
    · rw [htotal]
      omega
  · exact ⟨arena.size.toInt, hsize, Int.le_refl _, rfl, by omega, rfl, rfl,
      le_max_left _ _⟩

/-- `do_release_reservation` gives back the headroom, except that an arena
whose use is negative keeps the part of it beyond the whole reservation. -/
theorem release_moved {mr : Adaptor} {arena : DeviceReservedArena}
    (hsize : 0 ≤ arena.size.toInt)
    (hroom : arena.account.headroom ≤ mr.totalAllocatedBytes.toNat) :
    mr.Moved (mr.doReleaseReservation arena)
      (-arena.account.headroom + max 0 (-arena.allocatedBytes.toInt)) := by
  have hmax := Word.toInt_max 0 arena.allocatedBytes
  have hlo := arena.size.toInt_lt
  simp only [Account.headroom, DeviceReservedArena.account_floor,
    DeviceReservedArena.account_used, Word.toInt_zero] at hroom hmax ⊢
  unfold doReleaseReservation
  dsimp only
  split <;> rename_i hlt <;> rw [Int64.lt_iff_toInt_lt] at hlt
  · have hcast := Word.toNat_toUInt64_sub (a := arena.size)
      (b := max 0 arena.allocatedBytes) (by omega) (by omega)
    have hle : (arena.size - max 0 arena.allocatedBytes).toUInt64.toNat ≤
        mr.totalAllocatedBytes.toNat := by omega
    obtain ⟨htotal, -, -, hbound⟩ := sub_moved hle
    exact ⟨by dsimp only at htotal ⊢; omega, rfl, rfl, hbound⟩
  · have hzero : (0 : UInt64).toNat = 0 := rfl
    have hle : (0 : UInt64).toNat ≤ mr.totalAllocatedBytes.toNat := by omega
    obtain ⟨htotal, -, -, hbound⟩ := sub_moved hle
    exact ⟨by dsimp only at htotal ⊢; omega, rfl, rfl, hbound⟩

end Adaptor

/-! ## Splitting at the boundary -/

/-- What an allocation has to charge: the growth of the part of the use that
lies beyond a reservation of `size`. The three branches of the source are the
three positions of the boundary. -/
theorem upstreamTrackingSize_spec {n : UInt64} (size post : Int64)
    (hn : n.toNat < 2 ^ 63) (hpre : -2 ^ 63 ≤ post.toInt - n.toNat) :
    ((upstreamTrackingSize n size post).toNat : Int) =
      max size.toInt post.toInt - max size.toInt (post.toInt - n.toNat) := by
  have hcast := Word.toInt_toInt64 hn
  have hhi := post.toInt_lt
  have hsub := Word.toInt_sub (a := post) (b := n.toInt64) (by omega) (by omega)
  have hzero : (0 : UInt64).toNat = 0 := rfl
  unfold upstreamTrackingSize
  dsimp only
  split <;> rename_i hin <;> rw [Int64.lt_iff_toInt_lt] at hin
  · omega
  · split <;> rename_i hover <;> rw [Int64.lt_iff_toInt_lt] at hover
    · have hover := Word.toNat_toUInt64_sub (a := post) (b := size) (by omega) (by omega)
      omega
    · omega

/-- What `do_deallocate` leaves on the counter, beyond what it should, when it
takes `n` off an account. It is not zero only where the block straddles the
floor: the code then gives back the part below the floor instead of the part
above. -/
def straddleError (a : Account Int) (n : Int) : Int :=
  if a.used - n < a.floor ∧ a.floor < a.used then
    2 * a.used - 2 * a.floor - n
  else 0

theorem upstreamReclaimedBytes_spec {n : UInt64} (size : Int64) {post : Int64}
    (hn : n.toNat < 2 ^ 63) (hpre : post.toInt + n.toNat < 2 ^ 63) :
    let a : Account Int := ⟨size.toInt, post.toInt + n.toNat⟩
    ((Adaptor.upstreamReclaimedBytes n size post).toNat : Int) =
      a.charge - (a.draw (-n.toNat)).charge - straddleError a n.toNat ∧
    (Adaptor.upstreamReclaimedBytes n size post).toNat ≤ n.toNat := by
  have hcast := Word.toInt_toInt64 hn
  have hlo := post.le_toInt
  have hadd := Word.toInt_add (a := post) (b := n.toInt64) (by omega) (by omega)
  have hzero : (0 : UInt64).toNat = 0 := rfl
  simp only [Account.charge, Account.draw, straddleError]
  unfold Adaptor.upstreamReclaimedBytes
  dsimp only
  split <;> rename_i hin <;> rw [Int64.le_iff_toInt_le] at hin
  · rw [if_neg (by omega)]
    omega
  · split <;> rename_i hover <;> rw [Int64.lt_iff_toInt_lt] at hover
    · have hbelow := Word.toNat_toUInt64_sub (a := size) (b := post) (by omega) (by omega)
      rw [if_pos (by omega)]
      omega
    · rw [if_neg (by omega)]
      omega

/-! ## Allocating -/

/-- The space an allocation of `n` lacks, as the increase policy reckons it. -/
def DeviceReservedArena.extraSpaceNeeded (arena : DeviceReservedArena)
    (n : UInt64) : UInt64 :=
  arena.allocatedBytes.toUInt64 + n - (max 0 arena.size).toUInt64

theorem extraSpaceNeeded_eq (arena : DeviceReservedArena) (n : UInt64) :
    arena.allocatedBytes.toUInt64 + n - (max 0 arena.size).toUInt64 =
      arena.extraSpaceNeeded n := rfl

theorem extraSpaceNeeded_spec {arena : DeviceReservedArena} {n : UInt64}
    (hsize : 0 ≤ arena.size.toInt)
    (hover : arena.size.toInt < arena.allocatedBytes.toInt + n.toNat)
    (hfit : arena.allocatedBytes.toInt + n.toNat < 2 ^ 63) :
    ((arena.extraSpaceNeeded n).toNat : Int) =
      arena.allocatedBytes.toInt + n.toNat - arena.size.toInt := by
  have hreserved := Word.toNat_toUInt64_max arena.size
  have hused := Word.toNat_toUInt64_emod arena.allocatedBytes
  -- the sum may pass `2 ^ 64`, where a negative use comes back to what it is
  have hpost := UInt64.toNat_add arena.allocatedBytes.toUInt64 n
  have hextra := Word.toNat_sub (a := arena.allocatedBytes.toUInt64 + n)
    (b := (max 0 arena.size).toUInt64) (by omega)
  unfold DeviceReservedArena.extraSpaceNeeded
  omega

namespace ReservationLimitPolicy

/-- A policy that neither refuses an allocation nor moves the reservation. -/
def Lenient : Option ReservationLimitPolicy → Prop
  | none | some .ignore => True
  | some .fail | some (.increase _) => False

/-- The padded growth of an increase policy, if it is granted, keeps the
reservation in `int64_t`. -/
def GrowthFits (mr : Adaptor) (arena : DeviceReservedArena) (n : UInt64) :
    Option ReservationLimitPolicy → Prop
  | some (.increase padded) =>
      let grown := (padded (arena.extraSpaceNeeded n)).toNat
      mr.totalAllocatedBytes.toNat + grown ≤ mr.memoryLimit.toNat →
        arena.size.toInt + grown < 2 ^ 63
  | _ => True

instance : (policy : Option ReservationLimitPolicy) → Decidable (Lenient policy)
  | none | some .ignore => isTrue trivial
  | some .fail | some (.increase _) => isFalse id

instance (mr : Adaptor) (arena : DeviceReservedArena) (n : UInt64) :
    (policy : Option ReservationLimitPolicy) →
      Decidable (GrowthFits mr arena n policy)
  | none | some .ignore | some .fail => isTrue trivial
  | some (.increase _) => inferInstanceAs (Decidable (_ ≤ _ → _ < _))

end ReservationLimitPolicy

section Allocate

open ReservationLimitPolicy

variable {mr mr' : Adaptor} {arena arena' : DeviceReservedArena} {n : UInt64}
  {policy : Option ReservationLimitPolicy}

/-- A policy throws and changes nothing, or lets the allocation pass and may
have grown the reservation by some `g` within the limit. -/
theorem handleOver_cases {policy : ReservationLimitPolicy}
    {res : Except Failure Unit} (hsize : 0 ≤ arena.size.toInt)
    (hover : arena.size.toInt < arena.allocatedBytes.toInt + n.toNat)
    (hfit : arena.allocatedBytes.toInt + n.toNat < 2 ^ 63)
    (hgrow : GrowthFits mr arena n (some policy))
    (h : policy.handleOverReservation mr n arena.allocatedBytes.toUInt64 arena =
      ((mr', arena'), res)) :
    ((∃ e, res = .error (.thrown e)) ∧ mr' = mr ∧ arena' = arena ∧
      ¬ Lenient (some policy)) ∨
    (res = .ok () ∧ ∃ g : Nat, (Lenient (some policy) → g = 0) ∧
      mr.Moved mr' g ∧ arena'.allocatedBytes = arena.allocatedBytes ∧
      arena'.size.toInt = arena.size.toInt + g) := by
  cases policy with
  | ignore =>
      cases h
      exact Or.inr ⟨rfl, 0, fun _ => rfl, Adaptor.Moved.refl mr, rfl, by omega⟩
  | fail =>
      cases h
      exact Or.inl ⟨⟨_, rfl⟩, rfl, rfl, id⟩
  | increase padded =>
      have hextra := extraSpaceNeeded_spec hsize hover hfit
      simp only [handleOverReservation, increaseReservation,
        extraSpaceNeeded_eq] at h
      rcases hg₁ : mr.growReservationBy arena
        (padded (arena.extraSpaceNeeded n)) with ⟨b₁, mr₁, arena₁⟩
      rw [hg₁] at h
      rcases Adaptor.grow_cases hsize hgrow hg₁ with
        ⟨-, rfl, hmoved, hused, hfloor⟩ | ⟨-, rfl, rfl, rfl⟩
      · cases h
        exact Or.inr ⟨rfl, _, nofun, hmoved, hused, hfloor⟩
      · rcases hg₂ : mr₁.growReservationBy arena₁
          (arena₁.extraSpaceNeeded n) with ⟨b₂, mr₂, arena₂⟩
        dsimp only at h
        rw [hg₂] at h
        rcases Adaptor.grow_cases hsize (fun _ => by omega) hg₂ with
          ⟨-, rfl, hmoved, hused, hfloor⟩ | ⟨-, rfl, rfl, rfl⟩
        · cases h
          exact Or.inr ⟨rfl, _, nofun, hmoved, hused, hfloor⟩
        · cases h
          exact Or.inl ⟨⟨_, rfl⟩, rfl, rfl, id⟩

/-- A successful check has added `n` to the arena and returns what lies beyond
the reservation as it was before the policy was asked. -/
theorem check_cases {res : Except Failure UInt64} (hn : n.toNat < 2 ^ 63)
    (hsize : 0 ≤ arena.size.toInt)
    (hroom : arena.size.toInt - arena.allocatedBytes.toInt < 2 ^ 63)
    (hfit : arena.allocatedBytes.toInt + n.toNat < 2 ^ 63)
    (hgrow : arena.size.toInt < arena.allocatedBytes.toInt + n.toNat →
      GrowthFits mr arena n policy)
    (h : mr.checkReservationAndHandleOverflow arena policy n =
      ((mr', arena'), res)) :
    ((∃ e, res = .error (.thrown e)) ∧ mr' = mr ∧ arena' = arena ∧
      ¬ Lenient policy ∧
      arena.size.toInt < arena.allocatedBytes.toInt + n.toNat) ∨
    (∃ c : UInt64, res = .ok c ∧ ∃ g : Nat, (Lenient policy → g = 0) ∧
      (arena.allocatedBytes.toInt + n.toNat ≤ arena.size.toInt → g = 0) ∧
      mr.Moved mr' g ∧ arena'.size.toInt = arena.size.toInt + g ∧
      arena'.allocatedBytes.toInt = arena.allocatedBytes.toInt + n.toNat ∧
      (c.toNat : Int) =
        (arena.account.draw n.toNat).charge - arena.account.charge) := by
  have hcast := Word.toInt_toInt64 hn
  have hlo := arena.allocatedBytes.le_toInt
  have hadd := Word.toInt_add (a := arena.allocatedBytes) (b := n.toInt64)
    (by omega) (by omega)
  have hsplit := upstreamTrackingSize_spec arena.size
    (arena.allocatedBytes + n.toInt64) hn (by omega)
  simp only [Account.charge, Account.draw, DeviceReservedArena.account_floor,
    DeviceReservedArena.account_used]
  simp only [Adaptor.checkReservationAndHandleOverflow] at h
  rcases Int.lt_or_le arena.size.toInt
    (arena.allocatedBytes.toInt + n.toNat) with hover | hin
  · rw [tryAdd_int_of_lt (by omega) (by omega)] at h
    dsimp only at h
    cases policy with
    | none =>
        cases h
        exact Or.inr ⟨_, rfl, 0, fun _ => rfl, fun _ => rfl,
          Adaptor.Moved.refl mr, by show arena.size.toInt = _; omega,
          by show (arena.allocatedBytes + n.toInt64).toInt = _; omega, by omega⟩
    | some policy =>
        dsimp only at h
        rcases hp : policy.handleOverReservation mr n
          arena.allocatedBytes.toUInt64 arena with ⟨⟨mr₁, arena₁⟩, res₁⟩
        rw [hp] at h
        rcases handleOver_cases hsize hover hfit (hgrow hover) hp with
          ⟨⟨e, rfl⟩, rfl, rfl, hstrict⟩ | ⟨rfl, g, hg, hmoved, hused, hfloor⟩
        · cases h
          exact Or.inl ⟨⟨e, rfl⟩, rfl, rfl, hstrict, hover⟩
        · dsimp only at h
          rw [hused] at h
          cases h
          exact Or.inr ⟨_, rfl, g, hg, fun _ => by omega, hmoved, hfloor,
            by show (arena.allocatedBytes + n.toInt64).toInt = _; omega,
            by omega⟩
  · rw [tryAdd_int_of_le (by omega) (by omega) (by omega)] at h
    cases h
    exact Or.inr ⟨_, rfl, 0, fun _ => rfl, fun _ => rfl,
      Adaptor.Moved.refl mr, by show arena.size.toInt = _; omega,
      by show (arena.allocatedBytes + n.toInt64).toInt = _; omega, by omega⟩

theorem what?_eq_none {e : Exception} : e.what? = none ↔ e = .other := by
  cases e <;> simp [Exception.what?]

/-- What the total has gained, beside `c` itself, when an allocation charging
`c` comes back: all of `c` with the block, and without it nothing, unless what
the upstream threw was no `std::exception`. -/
theorem unmanaged_cases {bytes c : UInt64} {upstream : UpstreamResult}
    {res : Except Exception Addr}
    (h : mr.doAllocateUnmanaged bytes c upstream = (mr', res)) :
    ((∃ ptr, res = .ok ptr ∧ upstream = .ok ptr) ∧ mr.Moved mr' c.toNat) ∨
    ((∃ e, res = .error e) ∧ mr.Moved mr' 0 ∧ (upstream = .error .other →
      mr.capacity.toNat < mr.totalAllocatedBytes.toNat + c.toNat)) ∨
    ((∃ e, res = .error e) ∧ mr.Moved mr' c.toNat ∧ upstream = .error .other ∧
      mr.totalAllocatedBytes.toNat + c.toNat ≤ mr.capacity.toNat) := by
  unfold Adaptor.doAllocateUnmanaged at h
  rcases Nat.lt_or_ge mr.capacity.toNat
    (mr.totalAllocatedBytes.toNat + c.toNat) with hlt | hle
  · rw [tryAdd_of_lt hlt] at h
    cases h
    exact Or.inr (Or.inl ⟨⟨_, rfl⟩, Adaptor.Moved.refl mr, fun _ => hlt⟩)
  · have hsum := toNat_add_of_le hle
    rw [tryAdd_of_le hle] at h
    cases upstream with
    | ok ptr =>
        cases h
        exact Or.inl ⟨⟨ptr, rfl, rfl⟩, by dsimp only; omega, rfl, rfl,
          by dsimp only; omega⟩
    | error e =>
        dsimp only at h
        split at h
        · next what hwhat =>
            cases h
            have hback := Word.toNat_sub
              (a := mr.totalAllocatedBytes + c) (b := c) (by omega)
            have hne : e ≠ .other := by
              intro he
              rw [what?_eq_none.mpr he] at hwhat
              cases hwhat
            exact Or.inr (Or.inl ⟨⟨_, rfl⟩, ⟨by dsimp only; omega, rfl, rfl,
              by dsimp only; omega⟩, fun h => absurd (Except.error.inj h) hne⟩)
        · next hwhat =>
            cases h
            rw [what?_eq_none] at hwhat
            subst hwhat
            exact Or.inr (Or.inr ⟨⟨_, rfl⟩, ⟨by dsimp only; omega, rfl, rfl,
              by dsimp only; omega⟩, rfl, hle⟩)

/-- An allocation on a stream without a reservation. -/
theorem allocateManaged_cases {bytes : UInt64} {upstream : UpstreamResult}
    {oom : OomHandlingPolicy} {res : Except Failure Addr}
    (h : mr.doAllocateManaged oom bytes upstream = (mr', res)) :
    let n := (round256 bytes).toNat
    ((∃ ptr, res = .ok ptr ∧ upstream = .ok ptr) ∧ mr.Moved mr' n) ∨
    ((∃ e, res = .error e) ∧ mr.Moved mr' 0 ∧ (upstream = .error .other →
      mr.capacity.toNat < mr.totalAllocatedBytes.toNat + n)) ∨
    ((∃ e, res = .error e) ∧ mr.Moved mr' n ∧ upstream = .error .other ∧
      mr.totalAllocatedBytes.toNat + n ≤ mr.capacity.toNat) := by
  unfold Adaptor.doAllocateManaged at h
  rcases hu : mr.doAllocateUnmanaged bytes (round256 bytes) upstream with
    ⟨mr₁, res₁⟩
  simp only [hu, Adaptor.handleOom] at h
  rcases unmanaged_cases hu with ⟨⟨ptr, rfl, hup⟩, hmoved⟩ |
    ⟨⟨e, rfl⟩, hmoved, hwhy⟩ | ⟨⟨e, rfl⟩, hmoved, hwhy⟩
  · cases h
    exact Or.inl ⟨⟨ptr, rfl, hup⟩, hmoved⟩
  · cases h
    exact Or.inr (Or.inl ⟨⟨_, rfl⟩, hmoved, hwhy⟩)
  · cases h
    exact Or.inr (Or.inr ⟨⟨_, rfl⟩, hmoved, hwhy⟩)

/-- An allocation on a stream with one. The total gains `g` by the growth of
the reservation and `k` by the allocation itself; `k` is what the draw costs
the account as it was before the growth. -/
theorem allocateTracked_cases {bytes : UInt64} {upstream : UpstreamResult}
    {oom : OomHandlingPolicy} {res : Except Failure Addr}
    (hn : (round256 bytes).toNat < 2 ^ 63) (hsize : 0 ≤ arena.size.toInt)
    (hroom : arena.size.toInt - arena.allocatedBytes.toInt < 2 ^ 63)
    (hfit : arena.allocatedBytes.toInt + (round256 bytes).toNat < 2 ^ 63)
    (hgrow : arena.size.toInt <
        arena.allocatedBytes.toInt + (round256 bytes).toNat →
      GrowthFits mr arena (round256 bytes) policy)
    (h : mr.doAllocateTracked arena policy oom bytes upstream =
      ((mr', arena'), res)) :
    ∃ g k : Nat, (Lenient policy → g = 0) ∧
      mr.Moved mr' (g + k) ∧ arena'.size.toInt = arena.size.toInt + g ∧
      let c := (arena.account.draw (round256 bytes).toNat).charge -
        arena.account.charge
      (((∃ ptr, res = .ok ptr ∧ upstream = .ok ptr) ∧ (k : Int) = c ∧
          arena'.allocatedBytes.toInt =
            arena.allocatedBytes.toInt + (round256 bytes).toNat) ∨
        ((∃ e, res = .error e) ∧
          arena'.allocatedBytes.toInt = arena.allocatedBytes.toInt ∧
          ((k = 0 ∧ (Lenient policy → upstream = .error .other →
              mr.capacity.toNat < mr.totalAllocatedBytes.toNat + c)) ∨
            ((k : Int) = c ∧ upstream = .error .other ∧
              mr.totalAllocatedBytes.toNat + g + c ≤ mr.capacity.toNat)))) := by
  have hcast := Word.toInt_toInt64 hn
  have hlo := arena.allocatedBytes.le_toInt
  unfold Adaptor.doAllocateTracked at h
  rcases hc : mr.checkReservationAndHandleOverflow arena policy
    (round256 bytes) with ⟨⟨mr₁, arena₁⟩, res₁⟩
  simp only [hc, Adaptor.handleOom] at h
  rcases check_cases hn hsize hroom hfit hgrow hc with
    ⟨⟨e, rfl⟩, rfl, rfl, hstrict, -⟩ |
    ⟨c, rfl, g, hg, -, hmoved₁, hfloor, hused, hcharge⟩
  · cases h
    exact ⟨0, 0, fun _ => rfl, Adaptor.Moved.refl _, by omega, Or.inr ⟨⟨_, rfl⟩,
      rfl, Or.inl ⟨rfl, fun hlenient => absurd hlenient hstrict⟩⟩⟩
  · rcases hu : mr₁.doAllocateUnmanaged bytes c upstream with ⟨mr₂, res₂⟩
    simp only [hu] at h
    have htotal := hmoved₁.total
    rcases unmanaged_cases hu with ⟨⟨ptr, rfl, hup⟩, hmoved⟩ |
      ⟨⟨e, rfl⟩, hmoved, hwhy⟩ | ⟨⟨e, rfl⟩, hmoved, hother, hcap⟩
    · cases h
      exact ⟨g, c.toNat, hg, hmoved₁.trans hmoved, hfloor,
        Or.inl ⟨⟨ptr, rfl, hup⟩, hcharge, hused⟩⟩
    all_goals
      cases h
      have hback := Word.toInt_sub (a := arena₁.allocatedBytes)
        (b := (round256 bytes).toInt64) (by omega) (by omega)
    · refine ⟨g, 0, hg, hmoved₁.trans hmoved, hfloor,
        Or.inr ⟨⟨_, rfl⟩, by dsimp only; omega, Or.inl ⟨rfl, ?_⟩⟩⟩
      intro hlenient hother
      have hzero := hg hlenient
      have hlt := hwhy hother
      rw [hmoved₁.cap] at hlt
      omega
    · rw [hmoved₁.cap] at hcap
      exact ⟨g, c.toNat, hg, hmoved₁.trans hmoved, hfloor, Or.inr ⟨⟨_, rfl⟩,
        by dsimp only; omega, Or.inr ⟨hcharge, hother, by omega⟩⟩⟩

/-- Inside the reservation an allocation charges nothing, and what comes back
is what the upstream answered. -/
theorem allocateTracked_inside {bytes : UInt64} {upstream : UpstreamResult}
    {oom : OomHandlingPolicy} (hn : (round256 bytes).toNat < 2 ^ 63)
    (hsize : 0 ≤ arena.size.toInt)
    (hroom : arena.size.toInt - arena.allocatedBytes.toInt < 2 ^ 63)
    (hin : arena.allocatedBytes.toInt + (round256 bytes).toNat ≤
      arena.size.toInt)
    (hcap : mr.totalAllocatedBytes.toNat ≤ mr.capacity.toNat) :
    (mr.doAllocateTracked arena policy oom bytes upstream).2 =
      match upstream with
      | .ok ptr => .ok ptr
      | .error e => .error (.thrown (match e.what? with
          | some what => .cucascadeOutOfMemory what bytes mr.totalAllocatedBytes
          | none => e)) := by
  have hhi := arena.size.toInt_lt
  unfold Adaptor.doAllocateTracked
  rcases hc : mr.checkReservationAndHandleOverflow arena policy
    (round256 bytes) with ⟨⟨mr₁, arena₁⟩, res₁⟩
  rcases check_cases hn hsize hroom (by omega) (fun hover => by omega) hc with
    ⟨-, -, -, -, hover⟩ |
    ⟨c, rfl, g, -, hzero, hmoved, -, -, hcharge⟩
  · omega
  · have hg := hzero hin
    have htotal := hmoved.total
    simp only [Account.charge, Account.draw, DeviceReservedArena.account_floor,
      DeviceReservedArena.account_used] at hcharge
    have hfits : mr₁.totalAllocatedBytes.toNat + c.toNat ≤
        mr₁.capacity.toNat := by
      rw [hmoved.cap]
      omega
    have hsame : mr₁.totalAllocatedBytes + c = mr.totalAllocatedBytes := by
      rw [← UInt64.toNat_inj, toNat_add_of_le hfits]
      omega
    simp only [hc, Adaptor.doAllocateUnmanaged, tryAdd_of_le hfits, hsame,
      Adaptor.handleOom]
    cases upstream with
    | ok ptr => rfl
    | error e => cases e <;> rfl

end Allocate

/-! ## Freeing -/

/-- A free on a stream without a reservation. -/
theorem deallocate_moved {mr : Adaptor} {bytes : UInt64}
    (h : (round256 bytes).toNat ≤ mr.totalAllocatedBytes.toNat) :
    mr.Moved (mr.doDeallocate bytes) (-(round256 bytes).toNat) :=
  Adaptor.sub_moved h

/-- A free on a stream with one. -/
theorem deallocateTracked_cases {mr mr' : Adaptor}
    {arena arena' : DeviceReservedArena} {bytes : UInt64}
    (hn : (round256 bytes).toNat < 2 ^ 63)
    (htotal : (round256 bytes).toNat ≤ mr.totalAllocatedBytes.toNat)
    (hlo : -2 ^ 63 ≤ arena.allocatedBytes.toInt - (round256 bytes).toNat)
    (h : mr.doDeallocateTracked arena bytes = (mr', arena')) :
    arena'.account = arena.account.draw (-(round256 bytes).toNat) ∧
    mr.Moved mr' ((arena.account.draw (-(round256 bytes).toNat)).charge -
      arena.account.charge +
      straddleError arena.account (round256 bytes).toNat) := by
  have hcast := Word.toInt_toInt64 hn
  have hhi := arena.allocatedBytes.toInt_lt
  have hsub := Word.toInt_sub (a := arena.allocatedBytes)
    (b := (round256 bytes).toInt64) (by omega) (by omega)
  have hpost : (arena.allocatedBytes - (round256 bytes).toInt64).toInt +
      (round256 bytes).toNat = arena.allocatedBytes.toInt := by omega
  obtain ⟨hvalue, hle⟩ := upstreamReclaimedBytes_spec arena.size hn
    (by omega : (arena.allocatedBytes - (round256 bytes).toInt64).toInt +
      (round256 bytes).toNat < 2 ^ 63)
  rw [hpost] at hvalue
  unfold Adaptor.doDeallocateTracked at h
  cases h
  obtain ⟨hmoved, -, -, hbound⟩ := Adaptor.sub_moved (Nat.le_trans hle htotal)
  refine ⟨?_, ?_, rfl, rfl, hbound⟩
  · show Account.mk _ (arena.allocatedBytes - (round256 bytes).toInt64).toInt = _
    rw [hsub, hcast]
    rfl
  · rw [hmoved, hvalue]
    unfold DeviceReservedArena.account
    omega

end CuCascade.Memory

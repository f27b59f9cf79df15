import CuCascade.Memory.LimiterWorld

/-!
# The counters of one limiter are exact in any interleaving

At every moment each counter is the sum of what the calls and the objects have
put there. What is whose can be read off the place where a call stands: an
amount is the call's from the exchange of its `try_add` on, and stops being so
with the `sub` at its end. So each access moves one counter and the share of one
call by the same amount, and the rest is the sum over a table.

The total is exact as a number: a `try_add` goes through only below its bound,
so the counter never wraps and never exceeds both bounds. The two others are
exact as words, which is all that `fetch_add` promises. The reserved bytes
include those by which reservations were shrunk, for good.
-/

namespace CuCascade.Memory

open Retry Utils

/-! ## What is whose -/

/-- Nothing is allocated under the arena. -/
structure DeviceReservedArena.Idle (arena : DeviceReservedArena) : Prop where
  size : 0 ≤ arena.size.toInt
  allocatedBytes : arena.allocatedBytes = 0

namespace ReserveCaller

/-- What of the total is the caller's already. -/
def held : ReserveCaller → Nat
  | reserve => 0
  | growReservationBy arena _ => arena.size.toInt.toNat

/-- And of the reserved bytes. -/
def booked : ReserveCaller → Nat
  | reserve => 0
  | growReservationBy arena shrunk => arena.size.toInt.toNat + shrunk

/-- And of the count. -/
def counted : ReserveCaller → Nat
  | reserve => 0
  | growReservationBy _ _ => 1

def Sound : ReserveCaller → Prop
  | reserve => True
  | growReservationBy arena _ => arena.Idle

end ReserveCaller

namespace AddCaller

def held : AddCaller → Nat
  | doReserve caller _ => caller.held
  | doAllocateUnmanaged _ => 0

def booked : AddCaller → Nat
  | doReserve caller _ => caller.booked
  | doAllocateUnmanaged _ => 0

def counted : AddCaller → Nat
  | doReserve caller _ => caller.counted
  | doAllocateUnmanaged _ => 0

def Sound : AddCaller → Prop
  | doReserve caller _ => caller.Sound
  | doAllocateUnmanaged _ => True

end AddCaller

/-- A call of `update_peak` in progress with the value `value`. -/
def Raises (value : UInt64) : Call UInt64 UInt64 Unit → Prop
  | .loading state => state = value
  | .trying current new _ retry => current < value ∧ new = value ∧ retry = value
  | .left _ _ | .exchanged _ _ _ => False

namespace LimiterCall

/-- What of `_total_allocated_bytes` is the call's, or its object's. -/
def charge : LimiterCall → Nat
  | adding caller _ => caller.held
  | addingUpTo _ | gone _ => 0
  | peaking caller _ => caller.held + caller.amount.toNat
  | reserving caller sizeBytes => caller.held + sizeBytes.toNat
  | counting sizeBytes => sizeBytes.toNat
  | arena a _ | uncounted a _ | unreserved a _ => a.size.toInt.toNat
  | charged bytes | failing bytes | block bytes | leaked bytes =>
      (round256 bytes).toNat

/-- What of `_total_reserved_bytes` is. -/
def booked : LimiterCall → Nat
  | adding caller _ | peaking caller _ => caller.booked
  | reserving caller _ => caller.booked
  | counting sizeBytes => sizeBytes.toNat
  | arena a shrunk | uncounted a shrunk => a.size.toInt.toNat + shrunk
  | unreserved _ shrunk | gone shrunk => shrunk
  | addingUpTo _ | charged _ | failing _ | block _ | leaked _ => 0

/-- What of `_number_of_allocations` is. -/
def counted : LimiterCall → Nat
  | adding caller _ | peaking caller _ => caller.counted
  | reserving caller _ => caller.counted
  | arena _ _ => 1
  | addingUpTo _ | counting _ | uncounted _ _ | unreserved _ _ | gone _
  | charged _ | failing _ | block _ | leaked _ => 0

/-- What a step leaves behind is as the code has it. -/
def Sound (mr : Adaptor) : LimiterCall → Prop
  | adding caller call =>
      caller.Sound ∧ call.result? = none ∧
        call.Justified (tryAddLoop caller.amount (caller.upperBound mr))
  | addingUpTo call =>
      call.result? = none ∧ call.Justified (addBoundedLoop mr.memoryLimit)
  | peaking caller call => caller.Sound ∧ ∃ value, Raises value call
  | reserving caller _ => caller.Sound
  | arena a _ | uncounted a _ | unreserved a _ => a.Idle
  | counting _ | gone _ | charged _ | failing _ | block _ | leaked _ => True

/-- The same of what may not be there. -/
def charge? (x : Option LimiterCall) : Nat := x.elim 0 charge

def booked? (x : Option LimiterCall) : Nat := x.elim 0 booked

def counted? (x : Option LimiterCall) : Nat := x.elim 0 counted

end LimiterCall

/-! ## One pass of a loop -/

section

variable {d ub cur new : UInt64}

theorem tryAddLoop_leave {state : Unit} {result : Bool × UInt64}
    (h : tryAddLoop d ub state cur = .leave result) : result = (false, cur) := by
  rw [tryAddLoop, tryLoop] at h
  split at h
  · cases h
    rfl
  · cases h

/-- An exchange of `try_add` is proposed only within the bound. -/
theorem tryAddLoop_exchange {state retry : Unit} {result : Bool × UInt64}
    (h : tryAddLoop d ub state cur = .exchange new result retry) :
    result = (true, new) ∧ new.toNat = cur.toNat + d.toNat ∧ new.toNat ≤ ub.toNat := by
  have hresult := tryAddLoop_result state cur d ub
  rw [tryAddLoop, tryLoop] at h
  split at h
  · cases h
  · rename_i hgo
    cases h
    refine ⟨rfl, ?_⟩
    by_cases hle : cur.toNat + d.toNat ≤ ub.toNat
    · rw [toNat_add_of_le hle]
      exact ⟨rfl, hle⟩
    · have hrefused : tryAdd cur d ub = (false, cur) := tryAdd_of_lt (by omega)
      rw [tryAdd, if_neg hgo] at hrefused
      cases hrefused

theorem addBoundedLoop_leave {diff : UInt64} {result : UInt64 × UInt64}
    (h : addBoundedLoop ub diff cur = .leave result) : result = (0, cur) := by
  rw [addBoundedLoop, boundedLoop] at h
  split at h
  · cases h
  · cases h
    rfl

/-- An exchange of `add_bounded` adds what it says, within the bound. -/
theorem addBoundedLoop_exchange {diff retry : UInt64} {result : UInt64 × UInt64}
    (h : addBoundedLoop ub diff cur = .exchange new result retry) :
    ∃ n, result = (n, new) ∧ new.toNat = cur.toNat + n.toNat ∧ new.toNat ≤ ub.toNat := by
  have hspec := addBounded_spec cur diff ub
  rw [addBoundedLoop, boundedLoop] at h
  split at h
  · rename_i hgo
    cases h
    rw [addBounded, if_pos hgo] at hspec
    refine ⟨min diff (ub - cur), rfl, ?_, ?_⟩
    · rw [hspec.2, hspec.1]
    · have hlt := UInt64.lt_iff_toNat_lt.mp hgo
      rw [hspec.2]
      omega
  · cases h

end

section

variable {value peak : UInt64} {c : Call UInt64 UInt64 Unit}

theorem Raises.result? (h : Raises value c) : c.result? = none := by
  cases c with
  | loading state => rfl
  | trying current new result retry => rfl
  | left read result => exact h.elim
  | exchanged found new result => exact h.elim

theorem Raises.unique {value' : UInt64} (h : Raises value c) (h' : Raises value' c) :
    value = value' := by
  cases c with
  | loading state => exact h.symm.trans h'
  | trying current new result retry => exact h.2.1.symm.trans h'.2.1
  | left read result => exact h.elim
  | exchanged found new result => exact h.elim

theorem raises_read (value peak : UInt64) :
    Raises value (Call.read updatePeakLoop value peak) ∨
      ((Call.read updatePeakLoop value peak).result? = some () ∧ value ≤ peak) := by
  by_cases h : peak < value
  · have hread : Call.read updatePeakLoop value peak = .trying peak value () value := by
      rw [Call.read, updatePeakLoop, if_pos h]
    rw [hread]
    exact Or.inl ⟨h, rfl, rfl⟩
  · have hread : Call.read updatePeakLoop value peak = .left peak () := by
      rw [Call.read, updatePeakLoop, if_neg h]
    rw [hread]
    exact Or.inr ⟨rfl, UInt64.not_lt.mp h⟩

/-- An access of `update_peak` leaves the peak, or raises it to the call's value. -/
theorem Raises.access (h : Raises value c) (peak : UInt64) (spurious : Bool) :
    (c.write ⟨peak, spurious⟩ = peak ∧
      (Raises value (c.access updatePeakLoop ⟨peak, spurious⟩) ∨
        ((c.access updatePeakLoop ⟨peak, spurious⟩).result? = some () ∧ value ≤ peak))) ∨
    (c.write ⟨peak, spurious⟩ = value ∧ peak < value ∧
      (c.access updatePeakLoop ⟨peak, spurious⟩).result? = some ()) := by
  cases c with
  | loading state =>
      obtain rfl : state = value := h
      exact Or.inl ⟨rfl, raises_read state peak⟩
  | trying current new result retry =>
      obtain ⟨hlt, rfl, rfl⟩ := h
      by_cases hsucc : (Access.mk peak spurious).Succeeds current
      · obtain rfl : peak = current := hsucc.1
        rw [Call.access_of_succeeds hsucc, Call.write, if_pos hsucc]
        exact Or.inr ⟨rfl, hlt, rfl⟩
      · rw [Call.access_of_fails hsucc, Call.write, if_neg hsucc]
        exact Or.inl ⟨rfl, raises_read retry peak⟩
  | left read result => exact h.elim
  | exchanged found new result => exact h.elim

end

/-! ## Arenas that nothing is allocated under -/

namespace DeviceReservedArena

variable {arena : DeviceReservedArena} {n : UInt64}

theorem toNat_size (arena : DeviceReservedArena) :
    (max 0 arena.size).toUInt64.toNat = arena.size.toInt.toNat := by
  have hword := Word.toNat_toUInt64_max arena.size
  omega

theorem Idle.toNat_releasedBytes (h : arena.Idle) :
    arena.releasedBytes.toNat = arena.size.toInt.toNat := by
  have hsize := h.size
  rw [releasedBytes, h.allocatedBytes]
  by_cases hlt : (0 : Int64) < arena.size
  · rw [if_pos hlt, show max (0 : Int64) 0 = 0 by rfl]
    rw [Int64.sub_zero]
    have hword := Word.toNat_toUInt64 hsize
    omega
  · rw [if_neg hlt]
    rw [Int64.lt_iff_toInt_lt, Word.toInt_zero] at hlt
    show 0 = _
    omega

theorem idle_makeArena (hn : n.toNat < 2 ^ 63) :
    (Adaptor.makeArena n none).Idle ∧
      (Adaptor.makeArena n none).size.toInt.toNat = n.toNat := by
  have hsize : (Adaptor.makeArena n none).size.toInt = n.toNat :=
    Word.toInt_toInt64 hn
  exact ⟨⟨by omega, rfl⟩, by omega⟩

theorem Idle.grow (h : arena.Idle) (hn : arena.size.toInt.toNat + n.toNat < 2 ^ 63) :
    DeviceReservedArena.Idle { arena with size := arena.size + n.toInt64 } ∧
      (arena.size + n.toInt64).toInt.toNat = arena.size.toInt.toNat + n.toNat := by
  have hsize := h.size
  have hword := Word.toInt_toInt64 (a := n) (by omega)
  have hsum := Word.toInt_add (a := arena.size) (b := n.toInt64) (by omega) (by omega)
  exact ⟨⟨by show 0 ≤ (arena.size + n.toInt64).toInt; omega, h.allocatedBytes⟩, by omega⟩

/-- `shrink_to_fit` takes what nothing is allocated in, which is everything. -/
theorem Idle.shrink (h : arena.Idle) (mr : Adaptor) :
    mr.shrinkReservationToFit arena = ({ mr with
        totalAllocatedBytes := mr.totalAllocatedBytes - arena.size.toUInt64 },
      { arena with size := 0 }) := by
  have hsize := h.size
  have hnone : max 0 arena.allocatedBytes = 0 := by
    rw [h.allocatedBytes]
    rfl
  unfold Adaptor.shrinkReservationToFit
  rw [hnone]
  dsimp only
  by_cases hlt : (0 : Int64) < arena.size
  · rw [if_pos hlt, Int64.sub_zero]
  · have hzero : arena.size = 0 := by
      rw [Int64.lt_iff_toInt_lt, Word.toInt_zero] at hlt
      exact Int64.toInt_inj.mp (by rw [Word.toInt_zero]; omega)
    have hnothing : mr.totalAllocatedBytes - (0 : Int64).toUInt64 =
        mr.totalAllocatedBytes := UInt64.sub_zero _
    rw [if_neg hlt, hzero, hnothing, ← hzero]

end DeviceReservedArena

open LimiterCall

theorem AddCaller.upperBound_le (caller : AddCaller) (mr : Adaptor) :
    (caller.upperBound mr).toNat ≤ max mr.memoryLimit.toNat mr.capacity.toNat := by
  cases caller with
  | doReserve caller sizeBytes => exact le_max_left _ _
  | doAllocateUnmanaged bytes => exact le_max_right _ _

/-- What a call holds if its bound is in the way is what it held before. -/
theorem AddCaller.refused_spec {caller : AddCaller} (h : caller.Sound) (mr : Adaptor) :
    charge? caller.refused = caller.held ∧ booked? caller.refused = caller.booked ∧
      counted? caller.refused = caller.counted ∧
        ∀ call, caller.refused = some call → call.Sound mr := by
  cases caller with
  | doReserve caller sizeBytes =>
      cases caller with
      | reserve => exact ⟨rfl, rfl, rfl, fun call hcall => by cases hcall⟩
      | growReservationBy arena shrunk =>
          refine ⟨rfl, rfl, rfl, fun call hcall => ?_⟩
          cases hcall
          exact h
  | doAllocateUnmanaged bytes =>
      exact ⟨rfl, rfl, rfl, fun call hcall => by cases hcall⟩

namespace LimiterWorld

/-- The counters are what the calls and the objects have put there. -/
structure Books (w : LimiterWorld) : Prop where
  total : w.mr.totalAllocatedBytes.toNat = w.calls.sumBy fun _ call => call.charge
  reserved : w.mr.totalReservedBytes =
    .ofNat (w.calls.sumBy fun _ call => call.booked)
  number : w.mr.numberOfAllocations =
    .ofNat (w.calls.sumBy fun _ call => call.counted)
  within : w.mr.totalAllocatedBytes.toNat ≤
    max w.mr.memoryLimit.toNat w.mr.capacity.toNat
  sound : w.calls.All fun _ call => call.Sound w.mr
  memoryLimit : w.mr.memoryLimit.toNat < 2 ^ 63
  capacity : w.mr.capacity.toNat < 2 ^ 63

/-- A step on `id` moves each counter as it moves the share of the call. -/
structure Balanced (w : LimiterWorld) (id : Nat) (mr : Adaptor)
    (x : Option LimiterCall) : Prop where
  memoryLimit : mr.memoryLimit = w.mr.memoryLimit
  capacity : mr.capacity = w.mr.capacity
  total : mr.totalAllocatedBytes.toNat + charge? (w.calls.lookup id) =
    w.mr.totalAllocatedBytes.toNat + charge? x
  reserved : mr.totalReservedBytes + .ofNat (booked? (w.calls.lookup id)) =
    w.mr.totalReservedBytes + .ofNat (booked? x)
  number : mr.numberOfAllocations + .ofNat (counted? (w.calls.lookup id)) =
    w.mr.numberOfAllocations + .ofNat (counted? x)
  within : mr.totalAllocatedBytes.toNat ≤ w.mr.totalAllocatedBytes.toNat ∨
    mr.totalAllocatedBytes.toNat ≤ max w.mr.memoryLimit.toNat w.mr.capacity.toNat
  sound : ∀ call, x = some call → call.Sound w.mr

section

variable {w : LimiterWorld} {id : Nat} {mr : Adaptor} {x : Option LimiterCall}
  {call : LimiterCall}

theorem sound_congr (hlimit : mr.memoryLimit = w.mr.memoryLimit)
    (hcapacity : mr.capacity = w.mr.capacity) (h : call.Sound w.mr) :
    call.Sound mr := by
  cases call with
  | adding caller c =>
      have hbound : caller.upperBound mr = caller.upperBound w.mr := by
        cases caller <;> assumption
      rw [LimiterCall.Sound, hbound]
      exact h
  | addingUpTo c =>
      rw [LimiterCall.Sound, hlimit]
      exact h
  | _ => exact h

theorem sumBy_put (f : LimiterCall → Nat) (w : LimiterWorld) (id : Nat)
    (x : Option LimiterCall) :
    ((w.put id x).calls.sumBy fun _ call => f call) +
        (w.calls.lookup id).elim 0 f =
      (w.calls.sumBy fun _ call => f call) + x.elim 0 f := by
  cases x with
  | some call =>
      have hinsert : (w.calls.lookup id).elim 0 f +
          ((w.calls.insert id call).sumBy fun _ call => f call) =
            f call + w.calls.sumBy fun _ call => f call :=
        AList.sumBy_insert_elim (f := fun _ call => f call) w.calls id call
      show ((w.calls.insert id call).sumBy fun _ call => f call) + _ = _ + f call
      omega
  | none =>
      show (AList.sumBy _ (w.calls.erase id)) + _ = _ + 0
      cases hlookup : w.calls.lookup id with
      | none =>
          have hsame : ∀ k, (w.calls.erase id).lookup k = w.calls.lookup k := by
            intro k
            by_cases hk : k = id
            · rw [hk, AList.lookup_erase, hlookup]
            · exact AList.lookup_erase_ne hk
          rw [AList.sumBy_ext hsame]
          rfl
      | some call =>
          have herase : f call + ((w.calls.erase id).sumBy fun _ call => f call) =
              w.calls.sumBy fun _ call => f call :=
            AList.sumBy_erase (f := fun _ call => f call) hlookup
          show ((w.calls.erase id).sumBy fun _ call => f call) + f call = _
          omega

theorem ofNat_step {a a' : UInt64} {s s' old new : Nat} (ha : a = .ofNat s)
    (hstep : a' + .ofNat old = a + .ofNat new) (hsum : s' + old = s + new) :
    a' = .ofNat s' := by
  have hword : UInt64.ofNat s' + .ofNat old = .ofNat s + .ofNat new := by
    rw [← UInt64.ofNat_add, ← UInt64.ofNat_add, hsum]
  rw [ha, ← hword] at hstep
  exact UInt64.add_left_inj _ |>.mp hstep

theorem Books.put (h : w.Books) (hb : w.Balanced id mr x) :
    ({ w with mr := mr }.put id x).Books := by
  have hmr : ({ w with mr := mr }.put id x).mr = mr := by cases x <;> rfl
  have hsum : ∀ f, (({ w with mr := mr }.put id x).calls.sumBy fun _ call => f call) +
      (w.calls.lookup id).elim 0 f =
        (w.calls.sumBy fun _ call => f call) + x.elim 0 f :=
    fun f => sumBy_put f { w with mr := mr } id x
  refine ⟨?_, ?_, ?_, ?_, ?_, ?_, ?_⟩
  · have hcharge := hsum charge
    have htotal := hb.total
    have hold := h.total
    rw [hmr]
    simp only [charge?] at htotal
    omega
  · rw [hmr]
    exact ofNat_step h.reserved hb.reserved (hsum booked)
  · rw [hmr]
    exact ofNat_step h.number hb.number (hsum counted)
  · rw [hmr, hb.memoryLimit, hb.capacity]
    rcases hb.within with hle | hle
    · exact hle.trans h.within
    · exact hle
  · rw [hmr]
    have hold : w.calls.All fun _ call => call.Sound mr :=
      h.sound.mono fun _ call hsound => sound_congr hb.memoryLimit hb.capacity hsound
    cases x with
    | some call => exact hold.insert (sound_congr hb.memoryLimit hb.capacity (hb.sound call rfl))
    | none => exact hold.erase
  · rw [hmr, hb.memoryLimit]
    exact h.memoryLimit
  · rw [hmr, hb.capacity]
    exact h.capacity

theorem balanced_of_counters (hmr : mr = w.mr)
    (hcharge : charge? (w.calls.lookup id) = charge? x)
    (hbooked : booked? (w.calls.lookup id) = booked? x)
    (hcounted : counted? (w.calls.lookup id) = counted? x)
    (hsound : ∀ call, x = some call → call.Sound w.mr) : w.Balanced id mr x := by
  subst hmr
  exact ⟨rfl, rfl, by rw [hcharge], by rw [hbooked], by rw [hcounted], Or.inl le_rfl,
    hsound⟩

/-- A step that moves no counter. -/
theorem Books.goes (h : w.Books) (hcharge : charge? (w.calls.lookup id) = charge? x)
    (hbooked : booked? (w.calls.lookup id) = booked? x)
    (hcounted : counted? (w.calls.lookup id) = counted? x)
    (hsound : ∀ call, x = some call → call.Sound w.mr) : (w.put id x).Books :=
  h.put (balanced_of_counters rfl hcharge hbooked hcounted hsound)

/-- A call begins, with nothing to its name. -/
theorem Books.begins (h : w.Books) {new : LimiterCall} (hcall : w.calls.lookup id = none)
    (hshare : new.charge = 0 ∧ new.booked = 0 ∧ new.counted = 0)
    (hsound : new.Sound w.mr) : (w.put id (some new)).Books := by
  obtain ⟨hcharge, hbooked, hcounted⟩ := hshare
  refine h.goes ?_ ?_ ?_ ?_
  · rw [hcall]
    exact hcharge.symm
  · rw [hcall]
    exact hbooked.symm
  · rw [hcall]
    exact hcounted.symm
  · intro call hsame
    cases hsame
    exact hsound

/-- A call goes on, with the same to its name. -/
theorem Books.turns (h : w.Books) {old new : LimiterCall}
    (hcall : w.calls.lookup id = some old)
    (hshare : new.charge = old.charge ∧ new.booked = old.booked ∧
      new.counted = old.counted) (hsound : new.Sound w.mr) :
    (w.put id (some new)).Books := by
  obtain ⟨hcharge, hbooked, hcounted⟩ := hshare
  refine h.goes ?_ ?_ ?_ ?_
  · rw [hcall]
    exact hcharge.symm
  · rw [hcall]
    exact hbooked.symm
  · rw [hcall]
    exact hcounted.symm
  · intro call hsame
    cases hsame
    exact hsound

theorem charge_le (h : w.Books) (hcall : w.calls.lookup id = some call) :
    call.charge ≤ w.mr.totalAllocatedBytes.toNat := by
  rw [h.total]
  exact AList.le_sumBy (f := fun _ call => call.charge) (fun _ _ => Nat.zero_le _) hcall

end

/-! ## One access -/

section

variable {w : LimiterWorld} {id : Nat} {a n : UInt64} {k j : Nat}

theorem add_add_ofNat : a + n + .ofNat k = a + .ofNat (k + n.toNat) := by
  rw [UInt64.ofNat_add, UInt64.ofNat_toNat]
  ac_rfl

theorem sub_add_ofNat (h : n.toNat = k) : a - n + .ofNat (k + j) = a + .ofNat j := by
  rw [← h, UInt64.ofNat_add, UInt64.ofNat_toNat, ← UInt64.add_assoc, UInt64.sub_add_cancel]

theorem Books.access_adding (h : w.Books) {caller : AddCaller}
    {c : Call Unit UInt64 (Bool × UInt64)}
    (hcall : w.calls.lookup id = some (.adding caller c)) (spurious : Bool) :
    (w.access id spurious (.adding caller c)).Books := by
  obtain ⟨hcaller, hrun, hjust⟩ := h.sound.get hcall
  have hnext := hjust.access ⟨w.mr.totalAllocatedBytes, spurious⟩
  simp only [access]
  rcases Call.access_cases (tryAddLoop caller.amount (caller.upperBound w.mr))
      ⟨w.mr.totalAllocatedBytes, spurious⟩ hrun with
    ⟨hwrite, hon⟩ | ⟨state, result, hwrite, hbody, hend⟩ |
      ⟨new, result, retry, rfl, hwrite, hend⟩
  · rw [hwrite, hon]
    exact h.turns hcall ⟨rfl, rfl, rfl⟩ ⟨hcaller, hon, hnext⟩
  · obtain rfl := tryAddLoop_leave hbody
    obtain ⟨hcharge, hbooked, hcounted, hsound⟩ := AddCaller.refused_spec hcaller w.mr
    rw [hwrite, hend]
    refine h.goes ?_ ?_ ?_ hsound
    · rw [hcall]
      exact hcharge.symm
    · rw [hcall]
      exact hbooked.symm
    · rw [hcall]
      exact hcounted.symm
  · obtain ⟨state, hbody⟩ := hjust
    obtain ⟨rfl, hnew, hle⟩ := tryAddLoop_exchange hbody
    have hbound := caller.upperBound_le w.mr
    have hadded : new.toNat = w.mr.totalAllocatedBytes.toNat + caller.amount.toNat := hnew
    rw [hwrite, hend]
    refine h.put ⟨rfl, rfl, ?_, by rw [hcall]; rfl, by rw [hcall]; rfl,
      Or.inr (hle.trans hbound), ?_⟩
    · rw [hcall]
      show new.toNat + caller.held =
        w.mr.totalAllocatedBytes.toNat + (caller.held + caller.amount.toNat)
      omega
    · intro call hsame
      cases hsame
      exact ⟨hcaller, new, rfl⟩

/-- What `reserve_upto` goes on with, having been granted `n` and told that the
total is `post`. -/
theorem Books.granted (h : w.Books) {c : Call UInt64 UInt64 (UInt64 × UInt64)}
    (hcall : w.calls.lookup id = some (.addingUpTo c)) {n post : UInt64}
    (hpost : post.toNat = w.mr.totalAllocatedBytes.toNat + n.toNat)
    (hle : post.toNat ≤ w.mr.totalAllocatedBytes.toNat ∨
      post.toNat ≤ max w.mr.memoryLimit.toNat w.mr.capacity.toNat) :
    ({ w with mr := { w.mr with totalAllocatedBytes := post } }.put id
      (if 0 < post then
        some (.peaking (.doReserve .reserve n) (.loading post))
      else some (.counting n))).Books := by
  by_cases hpos : 0 < post
  · rw [if_pos hpos]
    refine h.put ⟨rfl, rfl, ?_, by rw [hcall]; rfl, by rw [hcall]; rfl, hle, ?_⟩
    · rw [hcall]
      show post.toNat + 0 = w.mr.totalAllocatedBytes.toNat + (0 + n.toNat)
      omega
    · intro call hsame
      cases hsame
      exact ⟨trivial, post, rfl⟩
  · rw [if_neg hpos]
    have hzero : n = 0 := by
      rw [UInt64.lt_iff_toNat_lt] at hpos
      have hnone : (0 : UInt64).toNat = 0 := rfl
      exact UInt64.toNat_inj.mp (by omega)
    subst hzero
    refine h.put ⟨rfl, rfl, ?_, by rw [hcall]; rfl, by rw [hcall]; rfl, hle, ?_⟩
    · rw [hcall]
      exact hpost
    · intro call hsame
      cases hsame
      trivial

theorem Books.access_addingUpTo (h : w.Books)
    {c : Call UInt64 UInt64 (UInt64 × UInt64)}
    (hcall : w.calls.lookup id = some (.addingUpTo c)) (spurious : Bool) :
    (w.access id spurious (.addingUpTo c)).Books := by
  obtain ⟨hrun, hjust⟩ := h.sound.get hcall
  have hnext := hjust.access ⟨w.mr.totalAllocatedBytes, spurious⟩
  simp only [access]
  rcases Call.access_cases (addBoundedLoop w.mr.memoryLimit)
      ⟨w.mr.totalAllocatedBytes, spurious⟩ hrun with
    ⟨hwrite, hon⟩ | ⟨state, result, hwrite, hbody, hend⟩ |
      ⟨new, result, retry, rfl, hwrite, hend⟩
  · rw [hwrite, hon]
    exact h.turns hcall ⟨rfl, rfl, rfl⟩ ⟨hon, hnext⟩
  · obtain rfl := addBoundedLoop_leave hbody
    rw [hwrite, hend]
    exact h.granted hcall rfl (Or.inl le_rfl)
  · obtain ⟨diff, hbody⟩ := hjust
    obtain ⟨n, rfl, hnew, hle⟩ := addBoundedLoop_exchange hbody
    rw [hwrite, hend]
    exact h.granted hcall hnew (Or.inr (hle.trans (le_max_left _ _)))

/-- The peak is no concern of the books. -/
theorem Books.access_peaking (h : w.Books) {caller : AddCaller}
    {c : Call UInt64 UInt64 Unit}
    (hcall : w.calls.lookup id = some (.peaking caller c)) (spurious : Bool) :
    (w.access id spurious (.peaking caller c)).Books := by
  obtain ⟨hcaller, value, hraises⟩ := h.sound.get hcall
  have hput : ∀ (peak : UInt64) (call : LimiterCall),
      call.charge = caller.held + caller.amount.toNat → call.booked = caller.booked →
      call.counted = caller.counted → call.Sound w.mr →
      ({ w with mr := { w.mr with peakTotalAllocatedBytes := peak } }.put id
        (some call)).Books := by
    intro peak call hcharge hbooked hcounted hsound
    refine h.put ⟨rfl, rfl, ?_, ?_, ?_, Or.inl le_rfl, ?_⟩
    · rw [hcall]
      exact congrArg _ hcharge.symm
    · rw [hcall]
      exact congrArg _ (congrArg _ hbooked.symm)
    · rw [hcall]
      exact congrArg _ (congrArg _ hcounted.symm)
    · intro other hsame
      cases hsame
      exact hsound
  have hpeaked : caller.peaked.charge = caller.held + caller.amount.toNat ∧
      caller.peaked.booked = caller.booked ∧ caller.peaked.counted = caller.counted ∧
        caller.peaked.Sound w.mr := by
    cases caller with
    | doReserve caller sizeBytes => exact ⟨rfl, rfl, rfl, hcaller⟩
    | doAllocateUnmanaged bytes => exact ⟨(Nat.zero_add _).symm, rfl, rfl, trivial⟩
  have hdone := hput (c.write ⟨w.mr.peakTotalAllocatedBytes, spurious⟩) caller.peaked
    hpeaked.1 hpeaked.2.1 hpeaked.2.2.1 hpeaked.2.2.2
  simp only [access]
  rcases hraises.access w.mr.peakTotalAllocatedBytes spurious with
    ⟨-, hstill | ⟨hend, -⟩⟩ | ⟨-, -, hend⟩
  · rw [hstill.result?]
    exact hput _ _ rfl rfl rfl ⟨hcaller, value, hstill⟩
  · rw [hend]
    exact hdone
  · rw [hend]
    exact hdone

theorem Books.access_reserving (h : w.Books) {caller : ReserveCaller} {n : UInt64}
    (hcall : w.calls.lookup id = some (.reserving caller n)) (spurious : Bool) :
    (w.access id spurious (.reserving caller n)).Books := by
  have hcaller : caller.Sound := h.sound.get hcall
  have hle := charge_le h hcall
  have hwithin := h.within
  have hlimit := h.memoryLimit
  have hcapacity := h.capacity
  simp only [access]
  cases caller with
  | reserve =>
      refine h.put ⟨rfl, rfl, ?_, ?_, by rw [hcall]; rfl, Or.inl le_rfl, ?_⟩
      · rw [hcall]
        show w.mr.totalAllocatedBytes.toNat + (0 + n.toNat) = _ + n.toNat
        omega
      · rw [hcall]
        show _ + n + .ofNat 0 = _ + .ofNat n.toNat
        rw [add_add_ofNat, Nat.zero_add]
      · intro call hsame
        cases hsame
        trivial
  | growReservationBy arena shrunk =>
      have hfits : arena.size.toInt.toNat + n.toNat ≤ w.mr.totalAllocatedBytes.toNat := hle
      obtain ⟨hidle, hsize⟩ := DeviceReservedArena.Idle.grow (n := n) hcaller (by omega)
      refine h.put ⟨rfl, rfl, ?_, ?_, by rw [hcall]; rfl, Or.inl le_rfl, ?_⟩
      · rw [hcall]
        show _ = w.mr.totalAllocatedBytes.toNat + (arena.size + n.toInt64).toInt.toNat
        rw [hsize]
        rfl
      · rw [hcall]
        show _ + n + .ofNat (arena.size.toInt.toNat + shrunk) =
          _ + .ofNat ((arena.size + n.toInt64).toInt.toNat + shrunk)
        rw [add_add_ofNat, hsize, Nat.add_right_comm]
      · intro call hsame
        cases hsame
        exact hidle

theorem Books.access_counting (h : w.Books) {n : UInt64}
    (hcall : w.calls.lookup id = some (.counting n)) (spurious : Bool) :
    (w.access id spurious (.counting n)).Books := by
  have hle : n.toNat ≤ w.mr.totalAllocatedBytes.toNat := charge_le h hcall
  have hwithin := h.within
  have hlimit := h.memoryLimit
  have hcapacity := h.capacity
  obtain ⟨hidle, hsize⟩ := DeviceReservedArena.idle_makeArena (n := n) (by omega)
  simp only [access]
  refine h.put ⟨rfl, rfl, ?_, ?_, ?_, Or.inl le_rfl, ?_⟩
  · rw [hcall]
    show _ = w.mr.totalAllocatedBytes.toNat + (Adaptor.makeArena n none).size.toInt.toNat
    rw [hsize]
    rfl
  · rw [hcall]
    show _ = w.mr.totalReservedBytes +
      .ofNat ((Adaptor.makeArena n none).size.toInt.toNat + 0)
    rw [hsize]
    rfl
  · rw [hcall]
    show w.mr.numberOfAllocations + 1 + .ofNat 0 = w.mr.numberOfAllocations + .ofNat 1
    exact UInt64.add_zero _
  · intro call hsame
    cases hsame
    exact hidle

theorem Books.access_uncounted (h : w.Books) {arena : DeviceReservedArena} {shrunk : Nat}
    (hcall : w.calls.lookup id = some (.uncounted arena shrunk)) (spurious : Bool) :
    (w.access id spurious (.uncounted arena shrunk)).Books := by
  have hidle : arena.Idle := h.sound.get hcall
  simp only [access]
  refine h.put ⟨rfl, rfl, by rw [hcall]; rfl, ?_, by rw [hcall]; rfl, Or.inl le_rfl, ?_⟩
  · rw [hcall]
    exact sub_add_ofNat arena.toNat_size
  · intro call hsame
    cases hsame
    exact hidle

/-- An amount that is a call's own is taken off the total without wrapping. -/
theorem Books.giveBack (h : w.Books) {call : LimiterCall} {x : Option LimiterCall}
    (hcall : w.calls.lookup id = some call) {n : UInt64}
    (hn : n.toNat + charge? x = call.charge) (hbooked : booked? x = call.booked)
    (hcounted : counted? x = call.counted) (hsound : ∀ c, x = some c → c.Sound w.mr) :
    ({ w with mr := { w.mr with
        totalAllocatedBytes := w.mr.totalAllocatedBytes - n } }.put id x).Books := by
  have hle := charge_le h hcall
  have hsub := Word.toNat_sub (a := w.mr.totalAllocatedBytes) (b := n) (by omega)
  refine h.put ⟨rfl, rfl, ?_, ?_, ?_, Or.inl ?_, hsound⟩
  · rw [hcall]
    show (w.mr.totalAllocatedBytes - n).toNat + call.charge = _
    omega
  · rw [hcall, hbooked]
    rfl
  · rw [hcall, hcounted]
    rfl
  · show (w.mr.totalAllocatedBytes - n).toNat ≤ _
    omega

theorem Books.access (h : w.Books) {call : LimiterCall}
    (hcall : w.calls.lookup id = some call) (spurious : Bool) :
    (w.access id spurious call).Books := by
  cases call with
  | adding caller c => exact h.access_adding hcall spurious
  | addingUpTo c => exact h.access_addingUpTo hcall spurious
  | peaking caller c => exact h.access_peaking hcall spurious
  | reserving caller n => exact h.access_reserving hcall spurious
  | counting n => exact h.access_counting hcall spurious
  | uncounted arena shrunk => exact h.access_uncounted hcall spurious
  | unreserved arena shrunk =>
      have hidle : arena.Idle := h.sound.get hcall
      refine h.giveBack (x := some (.gone shrunk)) hcall ?_ rfl rfl ?_
      · exact hidle.toNat_releasedBytes
      · intro call hsame
        cases hsame
        trivial
  | failing bytes =>
      exact h.giveBack (x := none) hcall rfl rfl rfl fun call hsame => by cases hsame
  | arena arena shrunk => exact h
  | gone shrunk => exact h
  | charged bytes => exact h
  | block bytes => exact h
  | leaked bytes => exact h

theorem Books.release (h : w.Books) {arena : DeviceReservedArena} {shrunk : Nat}
    (hcall : w.calls.lookup id = some (.arena arena shrunk)) :
    (w.step id (some (.arena arena shrunk)) .release).Books := by
  have hidle : arena.Idle := h.sound.get hcall
  simp only [step]
  refine h.put ⟨rfl, rfl, by rw [hcall]; rfl, by rw [hcall]; rfl, ?_, Or.inl le_rfl, ?_⟩
  · rw [hcall]
    exact sub_add_ofNat (n := 1) (k := 1) (j := 0) rfl
  · intro call hsame
    cases hsame
    exact hidle

theorem Books.shrinkToFit (h : w.Books) {arena : DeviceReservedArena} {shrunk : Nat}
    (hcall : w.calls.lookup id = some (.arena arena shrunk)) :
    (w.step id (some (.arena arena shrunk)) .shrinkToFit).Books := by
  have hidle : arena.Idle := h.sound.get hcall
  have hword := Word.toNat_toUInt64 hidle.size
  have hle : arena.size.toInt.toNat ≤ w.mr.totalAllocatedBytes.toNat := charge_le h hcall
  have hsub := Word.toNat_sub (a := w.mr.totalAllocatedBytes) (b := arena.size.toUInt64)
    (by omega)
  simp only [step, hidle.shrink]
  refine h.put ⟨rfl, rfl, ?_, ?_, by rw [hcall]; rfl, Or.inl ?_, ?_⟩
  · rw [hcall]
    show (w.mr.totalAllocatedBytes - arena.size.toUInt64).toNat + arena.size.toInt.toNat = _
    show _ = w.mr.totalAllocatedBytes.toNat + 0
    omega
  · rw [hcall, Int64.sub_zero]
    show w.mr.totalReservedBytes + .ofNat (arena.size.toInt.toNat + shrunk) =
      w.mr.totalReservedBytes + .ofNat (0 + (shrunk + arena.size.toInt.toNat))
    rw [Nat.zero_add, Nat.add_comm]
  · show (w.mr.totalAllocatedBytes - arena.size.toUInt64).toNat ≤ _
    omega
  · intro call hsame
    cases hsame
    exact ⟨le_rfl, hidle.allocatedBytes⟩

theorem Books.step (h : w.Books) (s : LimiterStep) :
    (w.step id (w.calls.lookup id) s).Books := by
  cases hcall : w.calls.lookup id with
  | none =>
      cases s with
      | reserve bytes => exact h.begins hcall ⟨rfl, rfl, rfl⟩ ⟨trivial, rfl, trivial⟩
      | reserveUpto bytes => exact h.begins hcall ⟨rfl, rfl, rfl⟩ ⟨rfl, trivial⟩
      | allocate bytes => exact h.begins hcall ⟨rfl, rfl, rfl⟩ ⟨trivial, rfl, trivial⟩
      | _ => exact h
  | some call =>
      cases s with
      | access spurious => exact h.access hcall spurious
      | growBy bytes =>
          cases call with
          | arena arena shrunk =>
              exact h.turns hcall ⟨rfl, rfl, rfl⟩ ⟨h.sound.get hcall, rfl, trivial⟩
          | _ => exact h
      | shrinkToFit =>
          cases call with
          | arena arena shrunk => exact h.shrinkToFit hcall
          | _ => exact h
      | release =>
          cases call with
          | arena arena shrunk => exact h.release hcall
          | _ => exact h
      | deallocate =>
          cases call with
          | block bytes =>
              exact h.giveBack (x := none) hcall rfl rfl rfl fun call hsame => by cases hsame
          | _ => exact h
      | upstream result =>
          cases call with
          | charged bytes =>
              cases result with
              | ok ptr => exact h.turns hcall ⟨rfl, rfl, rfl⟩ trivial
              | error e =>
                  simp only [LimiterWorld.step]
                  cases e.what? with
                  | some what => exact h.turns hcall ⟨rfl, rfl, rfl⟩ trivial
                  | none => exact h.turns hcall ⟨rfl, rfl, rfl⟩ trivial
          | _ => exact h
      | _ => exact h

end

/-! ## Whole runs -/

theorem put_mr (w : LimiterWorld) (id : Nat) (x : Option LimiterCall) :
    (w.put id x).mr = w.mr := by
  cases x <;> rfl

/-- The two bounds are constants. -/
theorem step_bounds (w : LimiterWorld) (id : Nat) (call : Option LimiterCall)
    (s : LimiterStep) :
    (w.step id call s).mr.memoryLimit = w.mr.memoryLimit ∧
      (w.step id call s).mr.capacity = w.mr.capacity := by
  have haccess : ∀ (spurious : Bool) (call : LimiterCall),
      (w.access id spurious call).mr.memoryLimit = w.mr.memoryLimit ∧
        (w.access id spurious call).mr.capacity = w.mr.capacity := by
    intro spurious call
    cases call <;> simp [access, put_mr]
  have hshrink : ∀ arena, (w.mr.shrinkReservationToFit arena).1.memoryLimit =
        w.mr.memoryLimit ∧
      (w.mr.shrinkReservationToFit arena).1.capacity = w.mr.capacity := by
    intro arena
    unfold Adaptor.shrinkReservationToFit
    dsimp only
    split
    · exact ⟨rfl, rfl⟩
    · exact ⟨rfl, rfl⟩
  cases call with
  | none => cases s <;> exact ⟨rfl, rfl⟩
  | some call =>
      cases s with
      | access spurious => exact haccess spurious call
      | shrinkToFit =>
          cases call with
          | arena arena shrunk => exact hshrink arena
          | _ => exact ⟨rfl, rfl⟩
      | upstream result => cases call <;> exact ⟨rfl, rfl⟩
      | growBy bytes => cases call <;> exact ⟨rfl, rfl⟩
      | release => cases call <;> exact ⟨rfl, rfl⟩
      | deallocate => cases call <;> exact ⟨rfl, rfl⟩
      | _ => exact ⟨rfl, rfl⟩

theorem books_fresh {memoryLimit capacity : UInt64} (hlimit : memoryLimit.toNat < 2 ^ 63)
    (hcapacity : capacity.toNat < 2 ^ 63) : (fresh memoryLimit capacity).Books :=
  ⟨rfl, rfl, rfl, Nat.zero_le _, AList.all_empty, hlimit, hcapacity⟩

end LimiterWorld

namespace LimiterCall

/-- No call is in progress: there is an object, or what one left behind. -/
def AtRest : LimiterCall → Prop
  | arena _ _ | gone _ | block _ | leaked _ => True
  | adding _ _ | addingUpTo _ | peaking _ _ | reserving _ _ | counting _ | uncounted _ _
  | unreserved _ _ | charged _ | failing _ => False

/-- The size of a live reservation. -/
def reservedBytes : LimiterCall → Nat
  | arena a _ => a.size.toInt.toNat
  | _ => 0

/-- The bytes of a live block, rounded up as they are charged. -/
def blockBytes : LimiterCall → Nat
  | block bytes => (round256 bytes).toNat
  | _ => 0

/-- The bytes of an allocation that ended in something else than a
`std::exception`. -/
def leakedBytes : LimiterCall → Nat
  | leaked bytes => (round256 bytes).toNat
  | _ => 0

/-- The bytes a reservation was shrunk by. -/
def shrunkBytes : LimiterCall → Nat
  | arena _ shrunk | gone shrunk => shrunk
  | _ => 0

/-- One for a live reservation. -/
def reservations : LimiterCall → Nat
  | arena _ _ => 1
  | _ => 0

end LimiterCall

namespace LimiterWorld

/-- The counters are what there is to count. -/
structure Settled (w : LimiterWorld) : Prop where
  total : w.mr.totalAllocatedBytes.toNat =
    (w.calls.sumBy fun _ call => call.reservedBytes) +
      (w.calls.sumBy fun _ call => call.blockBytes) +
        w.calls.sumBy fun _ call => call.leakedBytes
  reserved : w.mr.totalReservedBytes =
    .ofNat ((w.calls.sumBy fun _ call => call.reservedBytes) +
      w.calls.sumBy fun _ call => call.shrunkBytes)
  number : w.mr.numberOfAllocations =
    .ofNat (w.calls.sumBy fun _ call => call.reservations)

theorem Books.settled {w : LimiterWorld} (h : w.Books)
    (hrest : w.calls.All fun _ call => call.AtRest) : w.Settled := by
  refine ⟨?_, ?_, ?_⟩
  · rw [h.total, ← AList.sumBy_add, ← AList.sumBy_add]
    refine AList.sumBy_congr fun e he => ?_
    have hat : e.2.AtRest := hrest.of_mem he
    cases hcall : e.2 with
    | arena a shrunk => rfl
    | gone shrunk => rfl
    | block bytes => exact (Nat.zero_add _).symm
    | leaked bytes => exact (Nat.zero_add _).symm
    | _ =>
        rw [hcall] at hat
        exact hat.elim
  · rw [h.reserved, ← AList.sumBy_add]
    refine congrArg _ (AList.sumBy_congr fun e he => ?_)
    have hat : e.2.AtRest := hrest.of_mem he
    cases hcall : e.2 with
    | arena a shrunk => rfl
    | gone shrunk => exact (Nat.zero_add _).symm
    | block bytes => rfl
    | leaked bytes => rfl
    | _ =>
        rw [hcall] at hat
        exact hat.elim
  · rw [h.number]
    refine congrArg _ (AList.sumBy_congr fun e he => ?_)
    have hat : e.2.AtRest := hrest.of_mem he
    cases hcall : e.2 with
    | arena a shrunk => rfl
    | gone shrunk => rfl
    | block bytes => rfl
    | leaked bytes => rfl
    | _ =>
        rw [hcall] at hat
        exact hat.elim

/-- Two reservations of a limiter of 1000, and a block: the second exchange finds
that the first has gone through, one fails without reason, the block is refused,
one reservation is shrunk, the other released. -/
def crossing : List (Nat × LimiterStep) :=
  [(0, .reserve 300), (1, .reserveUpto 900), (0, .access false), (1, .access false),
    (0, .access false), (1, .access false), (1, .access true), (1, .access false),
    (2, .allocate 256), (2, .access false), (1, .access false), (1, .access false),
    (0, .access false), (0, .access false), (0, .access false), (1, .access false),
    (1, .access false), (0, .access false), (1, .shrinkToFit), (0, .release),
    (0, .access false), (0, .access false)]

end LimiterWorld

end CuCascade.Memory

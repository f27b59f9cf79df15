import CuCascade.Memory.StreamWorld
import CuCascade.Proofs.AdaptorSpec

/-!
# What is left when every call on a stream has come back

The total should stand at the larger of the reservation and of what is
allocated under it, plus what others hold. While calls are in progress it is off
by what each of them has still to add or to take away, and that is the
invariant: every request in progress has a `weight`, and the total is right up
to the sum of the weights. A step keeps this exactly when what it moves on one
counter telescopes with what it moves on the other.

Most steps do. An allocation charges the growth of the part beyond the boundary
and remembers the charge. Three steps may not: a rollback takes the block out
of `allocated_bytes` when others have moved the boundary, so that it lowers
that part by another amount than was charged and given back; a deallocation of
a block that straddles the boundary gives back the wrong part of it; and an
exception that is not a `std::exception` leaves the charge on the total.
-/

namespace CuCascade.Memory

open Utils

namespace StreamRequest

/-- What of `allocated_bytes` is the request's. -/
def held : StreamRequest → Int
  | .tracked bytes _ | .charged bytes _ | .failing bytes _ | .handling bytes _
  | .live bytes => (round256 bytes).toNat
  | .overReservation _ | .freeing _ => 0

/-- How far the total is beyond what `allocated_bytes` says, for the request. -/
def weight : StreamRequest → Int
  | .tracked _ trackingSize | .handling _ trackingSize => -trackingSize.toNat
  | .freeing upstreamReclaimedBytes => upstreamReclaimedBytes.toNat
  | .overReservation _ | .charged _ _ | .failing _ _ | .live _ => 0

/-- What a request that may not have begun holds. -/
def held? (x : Option StreamRequest) : Int := x.elim 0 held

def weight? (x : Option StreamRequest) : Int := x.elim 0 weight

@[simp] theorem held?_some (r : StreamRequest) : held? (some r) = r.held := rfl

@[simp] theorem weight?_some (r : StreamRequest) : weight? (some r) = r.weight := rfl

/-- A block can be counted in an `int64_t`, and is charged no more than itself. -/
def Sound : StreamRequest → Prop
  | .tracked bytes trackingSize | .charged bytes trackingSize
  | .failing bytes trackingSize | .handling bytes trackingSize =>
      (round256 bytes).toNat < 2 ^ 63 ∧ trackingSize.toNat ≤ (round256 bytes).toNat
  | .overReservation bytes | .live bytes => (round256 bytes).toNat < 2 ^ 63
  | .freeing _ => True

theorem weight_of_not_inProgress {r : StreamRequest} (h : r.inProgress = false) :
    r.weight = 0 := by
  cases r with
  | live bytes => rfl
  | _ => cases h

theorem held_nonneg (r : StreamRequest) : 0 ≤ r.held := by
  cases r <;> simp [held]

theorem Sound.worth_nonneg {r : StreamRequest} (h : r.Sound) :
    0 ≤ r.held + r.weight := by
  cases r <;> simp only [Sound, held, weight] at h ⊢ <;> omega

end StreamRequest

namespace StreamWorld

/-! ## A call that nothing comes between -/

/-- The steps of one `do_allocate`. Those it does not come to do nothing. -/
def doAllocate (id : Nat) (bytes : UInt64) (upstream : UpstreamResult) :
    List StreamOp :=
  [.allocate bytes, .add, .charge, .upstream upstream, .uncharge, .rollback].map
    (.request id)

def doDeallocate (id : Nat) : List StreamOp :=
  [.deallocate, .reclaim].map (.request id)

/-- The counters as the functions of the adaptor have them, and where the block
`id` is. -/
structure Agrees (w : StreamWorld) (mr : Adaptor) (arena : DeviceReservedArena)
    (id : Nat) (x : Option StreamRequest) : Prop where
  capacity : mr.capacity = w.capacity
  size : arena.size = w.size
  allocatedBytes : arena.allocatedBytes = w.allocatedBytes
  totalAllocatedBytes : mr.totalAllocatedBytes = w.totalAllocatedBytes
  request : w.requests.lookup id = x

section Alone

variable {w : StreamWorld} {mr : Adaptor} {arena : DeviceReservedArena} {id : Nat}
  {x : Option StreamRequest} {bytes c : UInt64}

theorem next_request (h : w.Agrees mr arena id x) (s : RequestStep) :
    machine.next w (.request id s) = w.step id x s := by
  rw [← h.request]
  rfl

/-- A step that moves at most the total. -/
theorem Agrees.goesTo (h : w.Agrees mr arena id x) (s : RequestStep)
    (y : Option StreamRequest) (mr' : Adaptor) {t : UInt64}
    (hs : w.step id x s = { w with totalAllocatedBytes := t }.put id y)
    (hcapacity : mr'.capacity = mr.capacity) (ht : mr'.totalAllocatedBytes = t) :
    (machine.next w (.request id s)).Agrees mr' arena id y := by
  rw [next_request h, hs]
  cases y with
  | none =>
      exact ⟨hcapacity.trans h.capacity, h.size, h.allocatedBytes, ht,
        AList.lookup_erase id w.requests⟩
  | some r =>
      exact ⟨hcapacity.trans h.capacity, h.size, h.allocatedBytes, ht,
        AList.lookup_insert w.requests⟩

/-- A step the request is not at. -/
theorem Agrees.stays (h : w.Agrees mr arena id x) {s : RequestStep}
    (hs : w.step id x s = w) :
    (machine.next w (.request id s)).Agrees mr arena id x := by
  rw [next_request h, hs]
  exact h

theorem Agrees.tracks (h : w.Agrees mr arena id x) {s : RequestStep}
    {bytes : UInt64} {post : Int64} (hs : w.step id x s = w.track id bytes post) :
    (machine.next w (.request id s)).Agrees mr (arena.tracked post) id
      (some (.tracked bytes
        (upstreamTrackingSize (round256 bytes) arena.size post))) := by
  rw [next_request h, hs, h.size]
  exact ⟨h.capacity, h.size, rfl, h.totalAllocatedBytes, AList.lookup_insert _⟩

theorem Agrees.rollback (h : w.Agrees mr arena id (some (.handling bytes c))) :
    (machine.next w (.request id .rollback)).Agrees mr { arena with
      allocatedBytes := arena.allocatedBytes - (round256 bytes).toInt64 } id none := by
  rw [next_request h]
  refine ⟨h.capacity, h.size, ?_, h.totalAllocatedBytes,
    AList.lookup_erase id w.requests⟩
  rw [h.allocatedBytes]
  rfl

/-- The first two steps are `check_reservation_and_handle_overflow`. -/
theorem Agrees.check (h : w.Agrees mr arena id none) (bytes : UInt64) :
    ∃ arena' c, mr.checkReservationAndHandleOverflow arena (some .ignore)
        (round256 bytes) = ((mr, arena'), .ok c) ∧
      (machine.run w [.request id (.allocate bytes), .request id .add]).Agrees mr
        arena' id (some (.tracked bytes c)) := by
  unfold Adaptor.checkReservationAndHandleOverflow
  dsimp only
  cases htry : tryAdd arena.allocatedBytes (round256 bytes).toInt64 arena.size with
  | mk success post =>
      rw [h.allocatedBytes, h.size] at htry
      cases success with
      | true =>
          have hs : w.step id none (.allocate bytes) = w.track id bytes post := by
            simp only [step, htry]
          exact ⟨_, _, rfl, (h.tracks hs).stays rfl⟩
      | false =>
          have hover := h.goesTo (.allocate bytes) (some (.overReservation bytes)) mr
            (by simp only [step, htry]) rfl h.totalAllocatedBytes
          refine ⟨_, _, rfl, hover.tracks ?_⟩
          rw [hover.allocatedBytes]
          rfl

/-- The others are `do_allocate_unmanaged`, the policy that rethrows, and the
rollback. -/
theorem Agrees.unmanaged (h : w.Agrees mr arena id (some (.tracked bytes c)))
    (upstream : UpstreamResult) :
    let w' := machine.run w ([.charge, .upstream upstream, .uncharge, .rollback].map
      (.request id))
    match mr.doAllocateUnmanaged bytes c upstream with
    | (mr', .ok _) => w'.Agrees mr' arena id (some (.live bytes))
    | (mr', .error _) => w'.Agrees mr' { arena with
        allocatedBytes := arena.allocatedBytes - (round256 bytes).toInt64 } id none := by
  unfold Adaptor.doAllocateUnmanaged
  cases htry : tryAdd mr.totalAllocatedBytes c mr.capacity with
  | mk success post =>
      rw [h.totalAllocatedBytes, h.capacity] at htry
      cases success with
      | true =>
          have hcharged := h.goesTo .charge (some (.charged bytes c))
            { mr with
              totalAllocatedBytes := post
              peakTotalAllocatedBytes := updatePeak mr.peakTotalAllocatedBytes post }
            (by simp only [step, htry]) rfl rfl
          cases upstream with
          | ok ptr =>
              have hlive := hcharged.goesTo (.upstream (.ok ptr)) (some (.live bytes)) _
                rfl rfl hcharged.totalAllocatedBytes
              exact (hlive.stays rfl).stays rfl
          | error e =>
              cases hwhat : e.what? with
              | some what =>
                  have hfailing := hcharged.goesTo (.upstream (.error e))
                    (some (.failing bytes c)) _ (by simp only [step, hwhat]) rfl
                    hcharged.totalAllocatedBytes
                  have hhandling := hfailing.goesTo .uncharge (some (.handling bytes c))
                    { mr with
                      totalAllocatedBytes := post - c
                      peakTotalAllocatedBytes :=
                        updatePeak mr.peakTotalAllocatedBytes post }
                    rfl rfl (by rw [← hfailing.totalAllocatedBytes])
                  simp only [hwhat]
                  exact hhandling.rollback
              | none =>
                  have hhandling := hcharged.goesTo (.upstream (.error e))
                    (some (.handling bytes c)) _ (by simp only [step, hwhat]) rfl
                    hcharged.totalAllocatedBytes
                  simp only [hwhat]
                  exact (hhandling.stays rfl).rollback
      | false =>
          have hhandling := h.goesTo .charge (some (.handling bytes c)) mr
            (by simp only [step, htry]) rfl h.totalAllocatedBytes
          exact ((hhandling.stays rfl).stays rfl).rollback

/-- An allocation that nothing comes between is `do_allocate_managed`. -/
theorem Agrees.doAllocate (h : w.Agrees mr arena id none) (bytes : UInt64)
    (upstream : UpstreamResult) :
    let w' := machine.run w (doAllocate id bytes upstream)
    match mr.doAllocateTracked arena (some .ignore) .throwOnOom bytes upstream with
    | ((mr', arena'), .ok _) => w'.Agrees mr' arena' id (some (.live bytes))
    | ((mr', arena'), .error _) => w'.Agrees mr' arena' id none := by
  obtain ⟨arena', c, hcheck, htracked⟩ := h.check bytes
  have hrest := htracked.unmanaged upstream
  unfold Adaptor.doAllocateTracked
  simp only [hcheck]
  cases hres : mr.doAllocateUnmanaged bytes c upstream with
  | mk mr' res =>
      rw [hres] at hrest
      cases res with
      | ok ptr => exact hrest
      | error e => exact hrest

/-- And a deallocation is `do_deallocate`. -/
theorem Agrees.doDeallocate (h : w.Agrees mr arena id (some (.live bytes))) :
    (machine.run w (doDeallocate id)).Agrees (mr.doDeallocateTracked arena bytes).1
      (mr.doDeallocateTracked arena bytes).2 id none := by
  have hfreeing : (machine.next w (.request id .deallocate)).Agrees mr
      (mr.doDeallocateTracked arena bytes).2 id (some (.freeing
        (Adaptor.upstreamReclaimedBytes (round256 bytes) arena.size
          (arena.allocatedBytes - (round256 bytes).toInt64)))) := by
    rw [next_request h, h.size, h.allocatedBytes]
    refine ⟨h.capacity, h.size, ?_, h.totalAllocatedBytes, AList.lookup_insert _⟩
    show arena.allocatedBytes - _ = w.allocatedBytes - _
    rw [h.allocatedBytes]
  refine hfreeing.goesTo .reclaim none _ rfl rfl ?_
  rw [← hfreeing.totalAllocatedBytes]
  rfl

end Alone

/-! ## The balance -/

/-- `_total_allocated_bytes` should be this once no call is in progress. -/
def due (w : StreamWorld) : Int :=
  max w.size.toInt w.allocatedBytes.toInt + w.others

/-- No call is in progress. -/
def Quiet (w : StreamWorld) : Prop :=
  w.requests.All fun _ r => r.inProgress = false

instance (w : StreamWorld) : Decidable w.Quiet :=
  inferInstanceAs (Decidable (w.requests.All fun _ r => r.inProgress = false))

/-- The total is what is due, wherever no call is in progress. -/
def Settled (w : StreamWorld) : Prop :=
  w.Quiet → (w.totalAllocatedBytes.toNat : Int) = w.due

/-- The two counters, up to what the requests in progress will still do. -/
structure Balanced (w : StreamWorld) : Prop where
  size_nonneg : 0 ≤ w.size.toInt
  sound : w.requests.All fun _ r => r.Sound
  allocated : w.allocatedBytes.toInt = w.requests.sumBy fun _ r => r.held
  total : (w.totalAllocatedBytes.toNat : Int) =
    w.due + w.requests.sumBy fun _ r => r.weight

/-- The step does the same to the total, now or later, as it does to the larger
of the reservation and `allocated_bytes`, and overflows no counter. -/
def TelescopesAt (w : StreamWorld) : Option StreamRequest → RequestStep → Prop
  | _, .allocate bytes => (round256 bytes).toNat < 2 ^ 63
  | some (.overReservation bytes), .add =>
      w.allocatedBytes.toInt + (round256 bytes).toNat < 2 ^ 63
  | some (.charged _ trackingSize), .upstream (.error e) =>
      e.what? = none → trackingSize = 0
  | some (.handling bytes trackingSize), .rollback =>
      max w.size.toInt w.allocatedBytes.toInt -
          max w.size.toInt (w.allocatedBytes.toInt - (round256 bytes).toNat) =
        trackingSize.toNat
  | some (.live bytes), .deallocate =>
      let pre := w.allocatedBytes.toInt
      let post := w.allocatedBytes.toInt - (round256 bytes).toNat
      pre ≤ w.size.toInt ∨ w.size.toInt ≤ post ∨
        pre - w.size.toInt = w.size.toInt - post
  | _, _ => True

def Telescopes (w : StreamWorld) : StreamOp → Prop
  | .request id step => w.TelescopesAt (w.requests.lookup id) step
  | .othersTake _ _ | .othersGive _ => True

instance (w : StreamWorld) (r : Option StreamRequest) (s : RequestStep) :
    Decidable (w.TelescopesAt r s) := by
  unfold TelescopesAt
  split <;> infer_instance

instance (w : StreamWorld) : (op : StreamOp) → Decidable (w.Telescopes op)
  | .request _ _ => inferInstanceAs (Decidable (w.TelescopesAt _ _))
  | .othersTake _ _ | .othersGive _ => inferInstanceAs (Decidable True)

namespace Balanced

open StreamRequest

variable {w : StreamWorld}

theorem allocated_nonneg (h : w.Balanced) : 0 ≤ w.allocatedBytes.toInt := by
  rw [h.allocated]
  exact AList.sumBy_nonneg fun _ _ => StreamRequest.held_nonneg _

/-- Each request is on the total with what it is worth, and so are the others. -/
theorem worths_le (h : w.Balanced) :
    (w.requests.sumBy fun _ r => r.held + r.weight) + w.others ≤
      w.totalAllocatedBytes.toNat := by
  have hworth : (w.requests.sumBy fun _ r => r.held + r.weight) =
      (w.requests.sumBy fun _ r => r.held) + w.requests.sumBy fun _ r => r.weight :=
    AList.sumBy_add
  have htotal := h.total
  have hallocated := h.allocated
  simp only [due] at htotal
  omega

/-- The total is never short of what others hold and one request is worth. -/
theorem worth_le (h : w.Balanced) {id : Nat} {r : StreamRequest}
    (hid : w.requests.lookup id = some r) :
    r.held + r.weight + w.others ≤ w.totalAllocatedBytes.toNat := by
  have hle := AList.le_sumBy (f := fun _ r => r.held + r.weight)
    (fun e he => (h.sound.of_mem he).worth_nonneg) hid
  have hworths := h.worths_le
  omega

theorem others_le (h : w.Balanced) : w.others ≤ w.totalAllocatedBytes.toNat := by
  have hle : 0 ≤ w.requests.sumBy fun _ r => r.held + r.weight :=
    AList.sumBy_nonneg fun e he => (h.sound.of_mem he).worth_nonneg
  have hworths := h.worths_le
  omega

/-- The rule for a step of a request: what it moves on the two counters is what
it takes along to the place it goes to. -/
theorem goesTo (h : w.Balanced) {id : Nat} {x : Option StreamRequest}
    {r : StreamRequest} (hid : w.requests.lookup id = x) (hr : r.Sound) {a : Int64}
    {t : UInt64} (ha : held? x + a.toInt = r.held + w.allocatedBytes.toInt)
    (ht : weight? x + (t.toNat - max w.size.toInt a.toInt) = r.weight +
      (w.totalAllocatedBytes.toNat - max w.size.toInt w.allocatedBytes.toInt)) :
    ({ w with allocatedBytes := a, totalAllocatedBytes := t }.put id
      (some r)).Balanced := by
  have hallocated := h.allocated
  have htotal : (w.totalAllocatedBytes.toNat : Int) =
    max w.size.toInt w.allocatedBytes.toInt + w.others + _ := h.total
  have hheld : held? (w.requests.lookup id) +
      (w.requests.insert id r).sumBy (fun _ r => r.held) = r.held + _ :=
    AList.sumBy_insert_elim (f := fun _ r => r.held) w.requests id r
  have hweight : weight? (w.requests.lookup id) +
      (w.requests.insert id r).sumBy (fun _ r => r.weight) = r.weight + _ :=
    AList.sumBy_insert_elim (f := fun _ r => r.weight) w.requests id r
  subst hid
  refine ⟨h.size_nonneg, h.sound.insert hr, ?_, ?_⟩
  · show a.toInt = (w.requests.insert id r).sumBy fun _ r => r.held
    omega
  · show (t.toNat : Int) = max w.size.toInt a.toInt + w.others +
      (w.requests.insert id r).sumBy fun _ r => r.weight
    omega

/-- And for its last step, which leaves nothing. -/
theorem ends (h : w.Balanced) {id : Nat} {r : StreamRequest}
    (hid : w.requests.lookup id = some r) {a : Int64} {t : UInt64}
    (ha : r.held + a.toInt = w.allocatedBytes.toInt)
    (ht : r.weight + (t.toNat - max w.size.toInt a.toInt) =
      w.totalAllocatedBytes.toNat - max w.size.toInt w.allocatedBytes.toInt) :
    ({ w with allocatedBytes := a, totalAllocatedBytes := t }.put id
      none).Balanced := by
  have hallocated := h.allocated
  have htotal : (w.totalAllocatedBytes.toNat : Int) =
    max w.size.toInt w.allocatedBytes.toInt + w.others + _ := h.total
  have hheld := AList.sumBy_erase (f := fun _ r => r.held) hid
  have hweight := AList.sumBy_erase (f := fun _ r => r.weight) hid
  refine ⟨h.size_nonneg, h.sound.erase, ?_, ?_⟩
  · show a.toInt = (w.requests.erase id).sumBy fun _ r => r.held
    omega
  · show (t.toNat : Int) = max w.size.toInt a.toInt + w.others +
      (w.requests.erase id).sumBy fun _ r => r.weight
    omega

/-- An allocation comes into `allocated_bytes` with the charge that goes with
it, whether it fitted or the policy let it through. -/
theorem track (h : w.Balanced) {id : Nat} {x : Option StreamRequest}
    (hid : w.requests.lookup id = x) (hheld : held? x = 0) (hweight : weight? x = 0)
    {bytes : UInt64} {post : Int64} (hbytes : (round256 bytes).toNat < 2 ^ 63)
    (hpost : post.toInt = w.allocatedBytes.toInt + (round256 bytes).toNat) :
    (w.track id bytes post).Balanced := by
  have hnonneg := h.allocated_nonneg
  have hpre : post.toInt - (round256 bytes).toNat = w.allocatedBytes.toInt := by omega
  have hcharge := upstreamTrackingSize_spec w.size post hbytes (by omega)
  rw [hpre] at hcharge
  have hsound : (StreamRequest.tracked bytes
      (upstreamTrackingSize (round256 bytes) w.size post)).Sound :=
    ⟨hbytes, by omega⟩
  refine h.goesTo hid hsound ?_ ?_
  · simp only [held]
    omega
  · simp only [weight]
    omega

theorem allocate (h : w.Balanced) {id : Nat} (hid : w.requests.lookup id = none)
    {bytes : UInt64} (hbytes : (round256 bytes).toNat < 2 ^ 63) :
    (w.step id none (.allocate bytes)).Balanced := by
  have hcast := Word.toInt_toInt64 hbytes
  have hnonneg := h.allocated_nonneg
  have hlt := w.size.toInt_lt
  simp only [step]
  rcases Int.lt_or_le w.size.toInt
    (w.allocatedBytes.toInt + (round256 bytes).toInt64.toInt) with hover | hfits
  · rw [tryAdd_int_of_lt (by omega) hover]
    exact h.goesTo (r := .overReservation bytes) hid hbytes rfl rfl
  · rw [tryAdd_int_of_le (by omega) (by omega) hfits]
    refine h.track hid rfl rfl hbytes ?_
    rw [toInt_add_of_le (by omega) hfits, hcast]

theorem add (h : w.Balanced) {id : Nat} {bytes : UInt64}
    (hid : w.requests.lookup id = some (.overReservation bytes))
    (hroom : w.allocatedBytes.toInt + (round256 bytes).toNat < 2 ^ 63) :
    (w.step id (some (.overReservation bytes)) .add).Balanced := by
  have hbytes : (round256 bytes).toNat < 2 ^ 63 := h.sound.get hid
  have hcast := Word.toInt_toInt64 hbytes
  have hnonneg := h.allocated_nonneg
  refine h.track hid rfl rfl hbytes ?_
  rw [Word.toInt_add (by omega) (by omega), hcast]

theorem charge (h : w.Balanced) {id : Nat} {bytes trackingSize : UInt64}
    (hid : w.requests.lookup id = some (.tracked bytes trackingSize)) :
    (w.step id (some (.tracked bytes trackingSize)) .charge).Balanced := by
  have hsound : (StreamRequest.tracked bytes trackingSize).Sound := h.sound.get hid
  simp only [step]
  rcases Nat.lt_or_ge w.capacity.toNat
    (w.totalAllocatedBytes.toNat + trackingSize.toNat) with hfull | hfits
  · rw [tryAdd_of_lt hfull]
    exact h.goesTo (r := .handling bytes trackingSize) hid hsound rfl rfl
  · rw [tryAdd_of_le hfits]
    refine h.goesTo (r := .charged bytes trackingSize) hid hsound rfl ?_
    rw [toNat_add_of_le hfits]
    simp only [weight?_some, weight]
    omega

theorem upstream (h : w.Balanced) {id : Nat} {bytes trackingSize : UInt64}
    (hid : w.requests.lookup id = some (.charged bytes trackingSize))
    {result : UpstreamResult}
    (hT : w.TelescopesAt (some (.charged bytes trackingSize)) (.upstream result)) :
    (w.step id (some (.charged bytes trackingSize)) (.upstream result)).Balanced := by
  have hsound : (StreamRequest.charged bytes trackingSize).Sound := h.sound.get hid
  cases result with
  | ok ptr => exact h.goesTo (r := .live bytes) hid hsound.1 rfl rfl
  | error e =>
      simp only [step]
      cases hwhat : e.what? with
      | some what => exact h.goesTo (r := .failing bytes trackingSize) hid hsound rfl rfl
      | none =>
          have hzero : trackingSize = 0 := hT hwhat
          subst hzero
          exact h.goesTo (r := .handling bytes 0) hid hsound rfl rfl

theorem uncharge (h : w.Balanced) {id : Nat} {bytes trackingSize : UInt64}
    (hid : w.requests.lookup id = some (.failing bytes trackingSize)) :
    (w.step id (some (.failing bytes trackingSize)) .uncharge).Balanced := by
  have hsound : (StreamRequest.failing bytes trackingSize).Sound := h.sound.get hid
  have hworth := h.worth_le hid
  simp only [Sound, held, weight] at hsound hworth
  simp only [step]
  refine h.goesTo (r := .handling bytes trackingSize) hid hsound rfl ?_
  rw [Word.toNat_sub (by omega)]
  simp only [weight?_some, weight]
  omega

theorem retry (h : w.Balanced) {id : Nat} {bytes trackingSize : UInt64}
    (hid : w.requests.lookup id = some (.handling bytes trackingSize)) :
    (w.step id (some (.handling bytes trackingSize)) .retry).Balanced := by
  have hsound : (StreamRequest.handling bytes trackingSize).Sound := h.sound.get hid
  exact h.goesTo (r := .tracked bytes trackingSize) hid hsound rfl rfl

/-- A request can take its own block out of `allocated_bytes`. -/
theorem toInt_sub_round256 (h : w.Balanced) {id : Nat} {r : StreamRequest}
    (hid : w.requests.lookup id = some r) {bytes : UInt64}
    (hbytes : (round256 bytes).toNat < 2 ^ 63) (hr : r.held = (round256 bytes).toNat) :
    (w.allocatedBytes - (round256 bytes).toInt64).toInt =
      w.allocatedBytes.toInt - (round256 bytes).toNat := by
  have hcast := Word.toInt_toInt64 hbytes
  have hlt := w.allocatedBytes.toInt_lt
  have hle := AList.le_sumBy (f := fun _ r => r.held)
    (fun _ _ => StreamRequest.held_nonneg _) hid
  rw [← h.allocated] at hle
  rw [Word.toInt_sub (by omega) (by omega), hcast]

theorem rollback (h : w.Balanced) {id : Nat} {bytes trackingSize : UInt64}
    (hid : w.requests.lookup id = some (.handling bytes trackingSize))
    (hT : w.TelescopesAt (some (.handling bytes trackingSize)) .rollback) :
    (w.step id (some (.handling bytes trackingSize)) .rollback).Balanced := by
  have hsound : (StreamRequest.handling bytes trackingSize).Sound := h.sound.get hid
  have hpost := h.toInt_sub_round256 hid hsound.1 rfl
  simp only [TelescopesAt] at hT
  simp only [step]
  refine h.ends hid ?_ ?_
  · simp only [held]
    omega
  · rw [hpost]
    simp only [weight]
    omega

theorem deallocate (h : w.Balanced) {id : Nat} {bytes : UInt64}
    (hid : w.requests.lookup id = some (.live bytes))
    (hT : w.TelescopesAt (some (.live bytes)) .deallocate) :
    (w.step id (some (.live bytes)) .deallocate).Balanced := by
  have hbytes : (round256 bytes).toNat < 2 ^ 63 := h.sound.get hid
  have hpost := h.toInt_sub_round256 hid hbytes rfl
  have hlt := w.allocatedBytes.toInt_lt
  have hreclaimed := (upstreamReclaimedBytes_spec w.size hbytes
    (by rw [hpost]; omega :
      (w.allocatedBytes - (round256 bytes).toInt64).toInt + _ < 2 ^ 63)).1
  simp only [Account.charge, Account.draw, straddleError, hpost] at hreclaimed
  simp only [TelescopesAt] at hT
  simp only [step]
  refine h.goesTo (r := .freeing _) hid trivial ?_ ?_
  · simp only [held?_some, held]
    omega
  · rw [hpost]
    simp only [weight?_some, weight]
    split at hreclaimed <;> omega

theorem reclaim (h : w.Balanced) {id : Nat} {bytes : UInt64}
    (hid : w.requests.lookup id = some (.freeing bytes)) :
    (w.step id (some (.freeing bytes)) .reclaim).Balanced := by
  have hworth := h.worth_le hid
  simp only [held, weight] at hworth
  simp only [step]
  refine h.ends hid (Int.zero_add _) ?_
  rw [Word.toNat_sub (by omega)]
  simp only [weight]
  omega

theorem othersTake (h : w.Balanced) (bytes upperBound : UInt64) :
    (w.next (.othersTake bytes upperBound)).Balanced := by
  have htotal := h.total
  simp only [due] at htotal
  simp only [next]
  rcases Nat.lt_or_ge upperBound.toNat
    (w.totalAllocatedBytes.toNat + bytes.toNat) with hfull | hfits
  · rw [tryAdd_of_lt hfull]
    exact h
  · rw [tryAdd_of_le hfits]
    refine ⟨h.size_nonneg, h.sound, h.allocated, ?_⟩
    simp only [due]
    rw [toNat_add_of_le hfits]
    omega

theorem othersGive (h : w.Balanced) {bytes : UInt64} (hle : bytes.toNat ≤ w.others) :
    (w.next (.othersGive bytes)).Balanced := by
  have htotal := h.total
  have hothers := h.others_le
  simp only [due] at htotal
  refine ⟨h.size_nonneg, h.sound, h.allocated, ?_⟩
  simp only [next, due]
  rw [Word.toNat_sub (by omega)]
  omega

/-- A step of a request keeps the balance if it telescopes. Where the request
is not at that step nothing happens. -/
theorem step (h : w.Balanced) {id : Nat} {x : Option StreamRequest}
    (hid : w.requests.lookup id = x) {s : RequestStep} (hT : w.TelescopesAt x s) :
    (w.step id x s).Balanced := by
  cases s with
  | allocate bytes =>
      cases x with
      | none => exact h.allocate hid hT
      | some r => exact h
  | add =>
      cases x with
      | none => exact h
      | some r =>
          cases r with
          | overReservation bytes => exact h.add hid hT
          | _ => exact h
  | charge =>
      cases x with
      | none => exact h
      | some r =>
          cases r with
          | tracked bytes trackingSize => exact h.charge hid
          | _ => exact h
  | upstream result =>
      cases x with
      | none => exact h
      | some r =>
          cases r with
          | charged bytes trackingSize => exact h.upstream hid hT
          | _ => exact h
  | uncharge =>
      cases x with
      | none => exact h
      | some r =>
          cases r with
          | failing bytes trackingSize => exact h.uncharge hid
          | _ => exact h
  | retry =>
      cases x with
      | none => exact h
      | some r =>
          cases r with
          | handling bytes trackingSize => exact h.retry hid
          | _ => exact h
  | rollback =>
      cases x with
      | none => exact h
      | some r =>
          cases r with
          | handling bytes trackingSize => exact h.rollback hid hT
          | _ => exact h
  | deallocate =>
      cases x with
      | none => exact h
      | some r =>
          cases r with
          | live bytes => exact h.deallocate hid hT
          | _ => exact h
  | reclaim =>
      cases x with
      | none => exact h
      | some r =>
          cases r with
          | freeing bytes => exact h.reclaim hid
          | _ => exact h

theorem next (h : w.Balanced) {op : StreamOp} (hlegal : w.Proper op)
    (hT : w.Telescopes op) : (w.next op).Balanced := by
  cases op with
  | request id s => exact h.step rfl hT
  | othersTake bytes upperBound => exact h.othersTake bytes upperBound
  | othersGive bytes => exact h.othersGive hlegal

/-- With no call in progress nothing is pending, and the total is what is due. -/
theorem settled (h : w.Balanced) : w.Settled := by
  intro hquiet
  have hzero : (w.requests.sumBy fun _ r => r.weight) = 0 :=
    AList.sumBy_zero fun _ he =>
      StreamRequest.weight_of_not_inProgress (hquiet.of_mem he)
  rw [h.total, hzero, Int.add_zero]

end Balanced

theorem Fresh.balanced {w : StreamWorld} (h : w.Fresh) : w.Balanced := by
  obtain ⟨hsize, hallocated, hrequests, htotal⟩ := h
  refine ⟨hsize, ?_, ?_, ?_⟩
  · rw [hrequests]
    exact AList.all_empty
  · rw [hallocated, hrequests]
    rfl
  · rw [htotal, hrequests, due, hallocated, Word.toInt_zero, AList.sumBy_empty,
      max_eq_left hsize, Int.add_zero]

/-- The interleavings of allocations, failed or not, and deallocations after
which the total is right whenever no call is in progress: those whose steps all
telescope. -/
theorem always_settled {w : StreamWorld} {ops : List StreamOp}
    (hstart : machine.start w) (hlaw : machine.Lawful w ops)
    (htelescopes : machine.Every Telescopes w ops) :
    machine.Always Settled w ops := by
  have hbalanced : machine.Always Balanced w ops :=
    Machine.always_of_every (fun _ _ h hlegal hT => h.next hlegal hT)
      hstart.balanced hlaw htelescopes
  exact hbalanced.mono fun _ h => h.settled

/-- Two blocks of which the second reaches over the boundary and gets no memory,
while the first is in use. -/
theorem always_settled_secondFails :
    machine.Always Settled ⟨4096, 1024, 0, 1024, ∅, 0⟩
      ([(1, .allocate 768), (2, .allocate 512), (1, .charge), (2, .add), (2, .charge),
        (1, .upstream (.ok 7)), (2, .upstream (.error (.outOfMemory "full"))),
        (2, .uncharge), (2, .rollback), (1, .deallocate), (1, .reclaim)].map
          fun s => .request s.1 s.2) :=
  always_settled ⟨by decide, rfl, rfl, by decide⟩
    (show machine.Every Proper _ _ by decide) (by decide)

/-- Here it is the first that gets no memory. It was charged nothing, because it
fitted, so nothing is given back; but the second was charged as if the first
were there, and stays charged when it is not. -/
theorem rollback_leaves_charge :
    let w : StreamWorld := ⟨4096, 1024, 0, 1024, ∅, 0⟩
    let ops : List StreamOp :=
      [(1, .allocate 768), (1, .charge), (2, .allocate 512), (2, .add), (2, .charge),
        (2, .upstream (.ok 7)), (1, .upstream (.error (.outOfMemory "full"))),
        (1, .uncharge), (1, .rollback)].map fun s => .request s.1 s.2
    machine.start w ∧ machine.Lawful w ops ∧ ¬ machine.Always Settled w ops ∧
      (machine.run w ops).totalAllocatedBytes = 1280 ∧ (machine.run w ops).due = 1024 :=
  ⟨⟨by decide, rfl, rfl, by decide⟩, show machine.Every Proper _ _ by decide,
    fun h => absurd (h.last (by decide)) (by decide), by decide, by decide⟩

end StreamWorld

end CuCascade.Memory

import CuCascade.Memory.GrowthWorld
import CuCascade.Proofs.PolicyGrowth

/-!
# When growing a reservation concurrently is fair

The policy is given an amount of allocated bytes that its thread read before it
had the mutex, and the size of the arena it reads itself. The two belong
together only if nobody was quicker. A handler that ran in between has grown the
arena for its own request, perhaps beyond what this one was told is needed: then
the difference wraps, no growth that large fits, and the request is refused with
the arena large enough for it. Or a block has been freed since: then the
difference is larger than what is missing.

The first condition below rules out the one and the second the other, each on
the state in which the step is taken. Between the two steps of one handler call
the mutex keeps the arena's size where it was, which is the invariant.
-/

namespace CuCascade.Memory

open Utils

theorem toNat_postAllocationSize (n : UInt64) (c : Int64) :
    ((postAllocationSize n c).toNat : Int) = (c.toInt + n.toNat) % 2 ^ 64 := by
  have hread := Word.toNat_toUInt64_emod c
  have hsum := UInt64.toNat_add c.toUInt64 n
  unfold postAllocationSize
  omega

theorem DeviceReservedArena.toNat_currentReserved (arena : DeviceReservedArena) :
    (arena.currentReserved.toNat : Int) = max 0 arena.size.toInt :=
  Word.toNat_toUInt64_max arena.size

namespace GrowthWorld

/-- The bytes requested and the bytes allocated that the policy was given, if the
request `id` is about to try the exact growth. -/
def growingCall (w : GrowthWorld) (id : Nat) : Option (UInt64 × Int64) :=
  match w.requests.lookup id with
  | some (.growing bytes _ currentAllocated _) => some (round256 bytes, currentAllocated)
  | _ => none

/-- Nobody has grown the arena beyond what this handler will think is needed; and
where bytes it counts have been freed, the limit does not fall between what it
asks for and what is missing. -/
def Timely (w : GrowthWorld) : GrowthOp → Prop
  | .request id .handle => ∀ call ∈ w.handlerCall id,
      max 0 w.arena.size.toInt ≤ (call.2.toInt + call.1.toNat) % 2 ^ 64
  | .request id .growExactly => ∀ call ∈ w.growingCall id,
      let post := (call.2.toInt + call.1.toNat) % 2 ^ 64
      w.arena.allocatedBytes.toInt + call.1.toNat < post →
        w.Exceeds (w.missing call.1) ∨
          ¬ w.Exceeds (post - max 0 w.arena.size.toInt)
  | _ => True

/-- Who is between the two growths holds the mutex, and the arena is as large as
when the difference was taken. -/
def Arbitrated (w : GrowthWorld) : Prop :=
  ∀ id bytes size c extra,
    w.requests.lookup id = some (.growing bytes size c extra) →
      w.arbitrating = some id ∧
        (extra.toNat : Int) =
          (c.toInt + (round256 bytes).toNat) % 2 ^ 64 - max 0 w.arena.size.toInt

section

variable {w w' : GrowthWorld} {id : Nat}

theorem toNat_extraSpaceNeeded {n : UInt64} {c : Int64}
    (h : max 0 w.arena.size.toInt ≤ (c.toInt + n.toNat) % 2 ^ 64) :
    ((postAllocationSize n c - w.arena.currentReserved).toNat : Int) =
      (c.toInt + n.toNat) % 2 ^ 64 - max 0 w.arena.size.toInt := by
  have hpost := toNat_postAllocationSize n c
  have hreserved := w.arena.toNat_currentReserved
  have hsub := Word.toNat_sub (a := postAllocationSize n c)
    (b := w.arena.currentReserved) (by omega)
  omega

theorem currentReserved_le_iff {n : UInt64} {c : Int64} :
    w.arena.currentReserved ≤ postAllocationSize n c ↔
      max 0 w.arena.size.toInt ≤ (c.toInt + n.toNat) % 2 ^ 64 := by
  have hpost := toNat_postAllocationSize n c
  have hreserved := w.arena.toNat_currentReserved
  rw [UInt64.le_iff_toNat_le]
  omega

/-! ## A handler that nothing comes between -/

/-- The two steps of a handler call are `handle_over_reservation`. -/
theorem handler_alone {bytes : UInt64} {size c : Int64}
    (hrequest : w.requests.lookup id = some (.over bytes size c))
    (hmutex : w.arbitrating = none) :
    let w' := machine.run w [.request id .handle, .request id .growExactly]
    w'.arbitrating = none ∧
      match (ReservationLimitPolicy.increase w.padded).handleOverReservation w.mr
        (round256 bytes) c.toUInt64 w.arena with
      | ((mr, arena), .ok ()) => w'.mr = mr ∧ w'.arena = arena ∧
          w'.requests.lookup id = some (.handled bytes size)
      | ((mr, arena), .error _) => w'.mr = mr ∧ w'.arena = arena ∧
          w'.requests.lookup id = some (.refused bytes) := by
  have hextra : c.toUInt64 + round256 bytes - (max 0 w.arena.size).toUInt64 =
    postAllocationSize (round256 bytes) c - w.arena.currentReserved := rfl
  simp only [ReservationLimitPolicy.handleOverReservation, increaseReservation, hextra]
  by_cases hpadded : w.mr.HasRoom (w.padded
      (postAllocationSize (round256 bytes) c - w.arena.currentReserved))
  · obtain ⟨mr, hgrow, -⟩ := Adaptor.grow_of_room w.arena hpadded
    simp only [Machine.run_cons, Machine.run_nil, machine, next, step, hrequest, hmutex,
      hgrow, put, AList.lookup_insert, and_self]
  · by_cases hroom : w.mr.HasRoom
        (postAllocationSize (round256 bytes) c - w.arena.currentReserved)
    · obtain ⟨mr, hgrow, -⟩ := Adaptor.grow_of_room w.arena hroom
      simp only [Machine.run_cons, Machine.run_nil, machine, next, step, hrequest, hmutex,
        Adaptor.grow_of_full hpadded, hgrow, put, AList.lookup_insert, and_self]
    · simp only [Machine.run_cons, Machine.run_nil, machine, next, step, hrequest, hmutex,
        Adaptor.grow_of_full hpadded, Adaptor.grow_of_full hroom, put,
        AList.lookup_insert, and_self]

/-! ## What a step keeps -/

/-- A request that goes on to `r` is at `r`, and the others are where they were. -/
theorem lookup_insert_growing {t : Table Nat GrowthRequest} {id id' : Nat}
    {r g : GrowthRequest} (h : (t.insert id r).lookup id' = some g) (hne : r ≠ g) :
    t.lookup id' = some g := by
  by_cases hid : id' = id
  · subst hid
    rw [AList.lookup_insert, Option.some.injEq] at h
    exact absurd h hne
  · rw [AList.lookup_insert_ne hid] at h
    exact h

/-- The size and the mutex are left alone, and the request goes on to where it is
not between the two growths. -/
theorem Arbitrated.goesTo (h : w.Arbitrated) (r : GrowthRequest)
    (hr : ∀ bytes size c extra, r ≠ .growing bytes size c extra)
    (hsize : w'.arena.size = w.arena.size) (hmutex : w'.arbitrating = w.arbitrating)
    (hrequests : w'.requests = w.requests.insert id r) : w'.Arbitrated := by
  intro id' bytes size c extra hlookup
  rw [hrequests] at hlookup
  rw [hsize, hmutex]
  exact h _ _ _ _ _ (lookup_insert_growing hlookup (hr _ _ _ _))

/-- Or it is over. -/
theorem Arbitrated.ends (h : w.Arbitrated) (hsize : w'.arena.size = w.arena.size)
    (hmutex : w'.arbitrating = w.arbitrating)
    (hrequests : w'.requests = w.requests.erase id) : w'.Arbitrated := by
  intro id' bytes size c extra hlookup
  rw [hrequests] at hlookup
  rw [hsize, hmutex]
  exact h _ _ _ _ _ (AList.lookup_of_lookup_erase hlookup).2

theorem arbitrated_track (h : w.Arbitrated) (bytes : UInt64) (size post : Int64) :
    (w.track id bytes size post).Arbitrated :=
  h.goesTo (.tracked _ _) nofun rfl rfl rfl

/-- No request is between the two growths while the mutex is free. -/
theorem Arbitrated.free (h : w.Arbitrated) (hmutex : w.arbitrating = none)
    {bytes : UInt64} {size c : Int64} {extra : UInt64} :
    w.requests.lookup id ≠ some (.growing bytes size c extra) := by
  intro hlookup
  rw [(h _ _ _ _ _ hlookup).1] at hmutex
  cases hmutex

theorem arbitrated_handle (h : w.Arbitrated)
    (hfair : w.Fair (.request id .handle)) :
    (w.next (.request id .handle)).Arbitrated := by
  simp only [next, step]
  split
  · next bytes size c hrequest hmutex =>
      have hcall : w.handlerCall id = some (round256 bytes, c) := by
        simp only [handlerCall, hrequest, hmutex]
      have hfit := currentReserved_le_iff.mp (hfair _ hcall)
      by_cases hroom : w.mr.HasRoom (w.padded
          (postAllocationSize (round256 bytes) c - w.arena.currentReserved))
      · obtain ⟨mr, hgrow, -⟩ := Adaptor.grow_of_room w.arena hroom
        simp only [hgrow]
        intro id' bytes' size' c' extra' hlookup
        exact absurd (lookup_insert_growing hlookup nofun) (h.free hmutex)
      · simp only [Adaptor.grow_of_full hroom]
        intro id' bytes' size' c' extra' hlookup
        by_cases hid : id' = id
        · subst hid
          rw [put, AList.lookup_insert] at hlookup
          cases hlookup
          exact ⟨rfl, toNat_extraSpaceNeeded hfit⟩
        · rw [put, AList.lookup_insert_ne hid] at hlookup
          exact absurd hlookup (h.free hmutex)
  · exact h

theorem arbitrated_growExactly (h : w.Arbitrated) :
    (w.next (.request id .growExactly)).Arbitrated := by
  simp only [next, step]
  split
  · next bytes size c extra hrequest =>
      -- the mutex was held by `id`, so nobody else is between the two growths
      have hnone : ∀ {r : GrowthRequest} {id' bytes' size' c' extra'},
          (∀ b s c e, r ≠ .growing b s c e) →
          (w.requests.insert id r).lookup id' ≠
            some (.growing bytes' size' c' extra') := by
        intro r id' bytes' size' c' extra' hr hlookup
        have hold := lookup_insert_growing hlookup (hr _ _ _ _)
        have hid : id' = id :=
          Option.some.inj ((h _ _ _ _ _ hold).1.symm.trans (h _ _ _ _ _ hrequest).1)
        rw [hid, AList.lookup_insert, Option.some.injEq] at hlookup
        exact hr _ _ _ _ hlookup
      split
      · intro id' bytes' size' c' extra' hlookup
        exact absurd hlookup (hnone nofun)
      · intro id' bytes' size' c' extra' hlookup
        exact absurd hlookup (hnone nofun)
  · exact h

theorem arbitrated_next {op : GrowthOp} (h : w.Arbitrated) (hfair : w.Fair op) :
    (w.next op).Arbitrated := by
  cases op with
  | others total => exact h
  | request id s =>
      cases s with
      | handle => exact arbitrated_handle h hfair
      | growExactly => exact arbitrated_growExactly h
      | begin bytes =>
          simp only [next, step]
          split
          · exact h.goesTo (.sized _ _) nofun rfl rfl rfl
          · exact h
      | tryAdd =>
          simp only [next, step]
          split
          · split
            · exact arbitrated_track h _ _ _
            · exact h.goesTo (.over _ _ _) nofun rfl rfl rfl
          · exact h
      | add =>
          simp only [next, step]
          split
          · exact arbitrated_track h _ _ _
          · exact h
      | charge upstream =>
          simp only [next, step]
          split
          · split
            · exact h.goesTo (.live _) nofun rfl rfl rfl
            · exact h.ends rfl rfl rfl
          · exact h
      | deallocate =>
          simp only [next, step]
          split
          · exact h.ends rfl rfl rfl
          · exact h

/-! ## What a step does -/

theorem fair_handle_iff : w.Fair (.request id .handle) ↔
    w.Timely (.request id .handle) := by
  constructor
  · intro h call hcall
    exact currentReserved_le_iff.mp (h call hcall)
  · intro h call hcall
    exact currentReserved_le_iff.mpr (h call hcall)

theorem exceeds_iff (w : GrowthWorld) (n : UInt64) :
    w.Exceeds n.toNat ↔ ¬ w.mr.HasRoom n := by
  unfold Exceeds Adaptor.HasRoom
  omega

/-- The exact growth is refused if the limit has no room for it. -/
theorem refusal_of_growing {bytes : UInt64} {size c : Int64} {extra : UInt64}
    (h : w.requests.lookup id = some (.growing bytes size c extra)) :
    w.refusal id = if w.mr.HasRoom extra then none else some (round256 bytes) := by
  by_cases hroom : w.mr.HasRoom extra
  · obtain ⟨mr, hgrow, -⟩ := Adaptor.grow_of_room w.arena hroom
    simp only [refusal, next, step, h, hgrow, put, AList.lookup_insert, if_pos hroom]
  · simp only [refusal, next, step, h, Adaptor.grow_of_full hroom, put,
      AList.lookup_insert, if_neg hroom]

theorem fair_growExactly_iff (h : w.Arbitrated) :
    w.Fair (.request id .growExactly) ↔ w.Timely (.request id .growExactly) := by
  cases hrequest : w.requests.lookup id with
  | none => simp [Fair, Timely, refusal, growingCall, hrequest]
  | some r =>
      cases r with
      | growing bytes size c extra =>
          obtain ⟨-, hextra⟩ := h _ _ _ _ _ hrequest
          have hroom := w.exceeds_iff extra
          simp only [Fair, Timely, refusal_of_growing hrequest, growingCall, hrequest,
            Option.mem_some, forall_eq', ← hextra, hroom, not_not]
          split
          · next hfits =>
              refine iff_of_true (fun n hn => ?_) fun _ => Or.inr hfits
              cases hn
          · next hfull =>
              simp only [Option.mem_some, forall_eq', hfull, or_false]
              constructor
              · exact fun hexceeds _ => hexceeds
              · intro htimely
                by_cases hstale : w.arena.allocatedBytes.toInt + (round256 bytes).toNat <
                    (c.toInt + (round256 bytes).toNat) % 2 ^ 64
                · exact htimely hstale
                · -- what was asked for is no more than what is missing
                  have hexceeds := hroom.mpr hfull
                  simp only [Exceeds, missing] at hexceeds ⊢
                  omega
      | _ => simp [Fair, Timely, refusal, growingCall, hrequest]

theorem fair_iff {op : GrowthOp} (h : w.Arbitrated) : w.Fair op ↔ w.Timely op := by
  cases op with
  | others total => exact Iff.rfl
  | request id s =>
      cases s with
      | handle => exact fair_handle_iff
      | growExactly => exact fair_growExactly_iff h
      | _ => exact Iff.rfl

/-- A run is fair exactly if each handler call in it is timely. -/
theorem every_fair_iff (mr : Adaptor) (arena : DeviceReservedArena)
    (padded : UInt64 → UInt64) (ops : List GrowthOp) :
    machine.Every Fair (fresh mr arena padded) ops ↔
      machine.Every Timely (fresh mr arena padded) ops := by
  have hstart : (fresh mr arena padded).Arbitrated := nofun
  have hlaw : machine.Lawful (fresh mr arena padded) ops :=
    Machine.every_of_mem fun _ _ _ => trivial
  exact Machine.every_congr (fun _ _ h _ hfair => arbitrated_next h hfair)
    (fun _ _ h _ => fair_iff h) hstart hlaw

/-- A reservation of 1024 bytes, nothing allocated, and no padding. -/
def smallReservation : GrowthWorld :=
  fresh ⟨16384, 16384, 1024, 1, 1024, 1024⟩ ⟨1024, 0, 0, none⟩ fun n => n

/-- Two threads find the reservation too small. The one that asks for more gets the
mutex first. -/
def overtakenOps : List GrowthOp :=
  [.request 1 (.begin 2048), .request 2 (.begin 6144), .request 1 .tryAdd,
    .request 2 .tryAdd, .request 2 .handle, .request 1 .handle,
    .request 1 .growExactly]

/-- The other is refused although nothing is missing. -/
theorem overtaken_refused :
    ¬ machine.Every Fair smallReservation overtakenOps ∧
      (machine.run smallReservation overtakenOps).requests.lookup 1 =
        some (.refused 2048) ∧
      (machine.run smallReservation overtakenOps).missing 2048 = 0 :=
  ⟨by decide, by decide, by decide⟩

end

end GrowthWorld

end CuCascade.Memory

import CuCascade.Proofs.Reservations

/-!
# Falling over to another space

What a request over a tier or over several is for: the candidates are asked in
their order and the first that can grant the request gives the reservation.
With candidates that never answer null the search never gets past the first,
so the request is served as it should be exactly if the first one can.
-/

namespace CuCascade.Memory

open MemoryReservationManager

namespace MemoryReservationManager

/-- The limiter of the space at `this` can grant the request now. -/
def canGrant (m : MemoryReservationManager) (size : UInt64) (this : Nat) : Bool :=
  match m.memorySpaces[this]? with
  | none => false
  | some s => decide (s.reservationAllocator.Grants size)

/-- The earliest candidate that can grant the request now. -/
def earliest (m : MemoryReservationManager) (request : ReservationRequestStrategy)
    (size : UInt64) : Option Nat :=
  (m.getCandidates request).find? (m.canGrant size)

end MemoryReservationManager

/-- The request returns without waiting a reservation, of at least the size
asked for, in the earliest candidate that can grant it, and the accounting of
every other space is what it was. -/
def FallbackContract (m : MemoryReservationManager) (ndebug : Bool) (self : Addr)
    (request : ReservationRequestStrategy) (size : UInt64)
    (woken : List Spaces) : Prop :=
  let out := m.requestReservation ndebug self request size woken
  ∃ first res, m.earliest request size = some first ∧
    out.result = some (.ok res) ∧ out.waited = [] ∧ out.woken = woken ∧
    res.space = first ∧
    (∃ s n, out.spaces[first]? = some s ∧ res.size s = .ok n ∧
      size.toNat ≤ n.toNat) ∧
    ∀ other, other ≠ first →
      (out.spaces[other]?).map (·.reservationAllocator) =
        (m.memorySpaces[other]?).map (·.reservationAllocator)

/-- The first candidate can grant the request with a size that is not smaller
and that an arena can hold. -/
def FirstFits (m : MemoryReservationManager)
    (request : ReservationRequestStrategy) (size : UInt64) : Prop :=
  ∀ first ∈ (m.getCandidates request).head?,
    ∃ s, m.memorySpaces[first]? = some s ∧
      s.reservationAllocator.Grants size ∧
      size.toNat ≤ heldSize (s.reservationAllocator.rounded size).toNat

section

variable {m : MemoryReservationManager} {ndebug : Bool} {self : Addr}
  {request : ReservationRequestStrategy} {size : UInt64} {woken : List Spaces}

theorem candidates_ne_nil (h : (m.earliest request size).isSome) :
    m.getCandidates request ≠ [] := by
  intro hnil
  rw [earliest, hnil] at h
  exact absurd h nofun

theorem earliest_of_grants {first : Nat} {candidates : List Nat} {s : MemorySpace}
    (h : m.getCandidates request = first :: candidates)
    (hs : m.memorySpaces[first]? = some s)
    (hg : s.reservationAllocator.Grants size) :
    m.earliest request size = some first := by
  have hcan : m.canGrant size first = true := by
    simp only [canGrant, hs, decide_eq_true hg]
  rw [earliest, h, List.find?_cons_of_pos hcan]

/-- Where some candidate can grant the request now, it is served by the
earliest of them exactly if that is the first candidate. -/
theorem fallback_iff (ndebug : Bool) (self : Addr) (woken : List Spaces)
    (hsome : (m.earliest request size).isSome) :
    FallbackContract m ndebug self request size woken ↔
      FirstFits m request size := by
  obtain ⟨first, candidates, h⟩ := List.exists_cons_of_ne_nil
    (candidates_ne_nil hsome)
  obtain ⟨after, r, hout, hrun⟩ := request_of_cons ndebug self size woken h
  simp only [FirstFits, h, List.head?_cons, Option.mem_some_iff, forall_eq']
  constructor
  · rintro ⟨_, res, -, hres, -, -, rfl, ⟨s', n, hs', hn, hle⟩, -⟩
    rcases hrun with ⟨res', rfl, hrun⟩ | ⟨e, rfl, hrun⟩ <;> rw [hrun] at hres hs'
    · cases hres
      cases hs : m.memorySpaces[first]? with
      | none =>
          simp only [onSpace, hs] at hout
          cases hout
      | some s =>
          by_cases hg : s.reservationAllocator.Grants size
          · obtain ⟨after₁, heq, hafter, ho⟩ :=
              onSpace_of_grants ndebug self hs hg
            obtain ⟨n', hn', hsize⟩ := size_of_opened first ho
            rw [heq] at hout
            cases hout
            rw [hafter] at hs'
            cases hs'
            rw [hn'] at hn
            cases hn
            exact ⟨s, rfl, hg, by omega⟩
          · rcases onSpace_of_not_grants hs hg hout with ⟨e, he⟩ | hnull
            · cases he
            · cases hnull
              cases hn
    · cases hres
  · rintro ⟨s, hs, hg, hle⟩
    obtain ⟨after₁, heq, hafter, ho⟩ := onSpace_of_grants ndebug self hs hg
    obtain ⟨n, hn, hsize⟩ := size_of_opened first ho
    rw [heq] at hout
    cases hout
    rcases hrun with ⟨res', hok, hrun⟩ | ⟨e, herr, -⟩
    · cases hok
      refine ⟨first, ⟨first, some self⟩, earliest_of_grants h hs hg, ?_⟩
      rw [hrun]
      refine ⟨rfl, rfl, rfl, rfl, ⟨after₁, n, hafter, hn, by omega⟩, ?_⟩
      intro other hother
      rw [List.getElem?_set_ne (Ne.symm hother)]
    · cases herr

/-- A small device and a larger one. -/
def twoDevices : Spaces :=
  [⟨⟨.GPU, 0⟩, .gpu (.fresh 256 256), .fresh⟩,
    ⟨⟨.GPU, 1⟩, .gpu (.fresh 1024 1024), .fresh⟩]

theorem fallback_twoDevices :
    FallbackContract (ofSpaces twoDevices) false 7
      (.anyMemorySpaceInTiers [.HOST, .GPU]) 200 [] :=
  (fallback_iff false 7 [] (by decide)).mpr
    (by rintro first ⟨⟩; exact ⟨_, rfl, by decide, by decide⟩)

/-- The second device could grant 512 bytes, and the request ends at the
first. -/
theorem no_fallback_twoDevices :
    (ofSpaces twoDevices).earliest (.anyMemorySpaceInTier .GPU) 512 = some 1 ∧
      ¬ FallbackContract (ofSpaces twoDevices) false 7
        (.anyMemorySpaceInTier .GPU) 512 [] ∧
      ¬ FallbackContract (ofSpaces twoDevices) true 7
        (.anyMemorySpaceInTier .GPU) 512 [] := by
  refine ⟨by decide, ?_, ?_⟩
  · rintro ⟨first, res, -, hres, -⟩
    cases hres
  · rintro ⟨first, res, hfirst, hres, -, -, hspace, -⟩
    have hone : some 1 = some first := hfirst
    have hzero : some (.ok ⟨0, none⟩) =
        some ((Except.ok res : Except Failure Reservation)) := hres
    cases hzero
    cases hspace
    cases hone

end

end CuCascade.Memory

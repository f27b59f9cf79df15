import CuCascade.Memory.ReservationManager
import CuCascade.Proofs.LimiterSpec

/-!
# Which reservations are real

A limiter refuses by returning a null arena, and `reservation::create` wraps
what it is given, null or not. So the refusal never reaches a caller as a null
reservation: in a build with assertions the constructor aborts, and in one
without the caller gets a reservation that owns nothing. `make_reservation`
waits only for a null reservation, hence never, and the candidate search of
the manager stops at its first candidate whether or not that one granted
anything.

Everything in this file follows from `makeReservation_eq`, which says the
second of these, and from the two outcomes of `make_reservation_or_null`.
-/

namespace CuCascade.Memory

/-- From `before` to `after`, the reservation came to own an arena of the space
whose size is what the space was charged, and nothing it can be asked for
fails. -/
structure Reservation.Real (res : Reservation) (before after : MemorySpace) :
    Prop where
  arena : res.arena ≠ none
  charged : ∃ n, res.size after = .ok n ∧
    after.reservationAllocator.totalAllocatedBytes.toNat =
      before.reservationAllocator.totalAllocatedBytes.toNat + n.toNat
  growBy : ∀ bytes, ∃ grown, (res.growBy after bytes).2 = .ok grown
  shrinkToFit : (res.shrinkToFit after).2 = .ok ()
  destroy : (res.destroy after).2 = .ok ()

/-- The limiter can grant the request, and its size is one an arena can
hold. -/
def ReservingAdaptor.Honours (a : ReservingAdaptor) (size : UInt64) : Prop :=
  a.Grants size ∧ (a.rounded size).toNat < 2 ^ 63

instance (a : ReservingAdaptor) (size : UInt64) : Decidable (a.Honours size) :=
  inferInstanceAs (Decidable (_ ∧ _))

/-- `size()` of an arena of `g` bytes. -/
def heldSize (g : Nat) : Nat := if g < 2 ^ 63 then g else 0

theorem toNat_max_toInt64 (g : UInt64) :
    (max 0 g.toInt64).toUInt64.toNat = heldSize g.toNat := by
  have hback : g.toInt64.toUInt64 = g := UInt64.toUInt64_toInt64 g
  have hhi := g.toInt64.toInt_lt
  have hword := Word.toNat_toUInt64_max g.toInt64
  unfold heldSize
  by_cases hlt : g.toNat < 2 ^ 63
  · have hcast := Word.toInt_toInt64 hlt
    rw [if_pos hlt]
    omega
  · rw [if_neg hlt]
    rcases lt_or_ge g.toInt64.toInt 0 with hneg | hpos
    · omega
    · have hsame := Word.toNat_toUInt64 hpos
      rw [hback] at hsame
      omega

section Real

variable {before after s : MemorySpace} {ndebug : Bool} {this : Nat}
  {self : Addr} {size g : UInt64}

theorem size_of_opened (this : Nat) (h : before.reservationAllocator.Opened
    after.reservationAllocator self g) :
    ∃ n, (Reservation.mk this (some self)).size after = .ok n ∧
      n.toNat = heldSize g.toNat := by
  refine ⟨_, ?_, toNat_max_toInt64 g⟩
  simp only [Reservation.size, Option.bind_some, h.size]

theorem real_iff (h : before.reservationAllocator.Opened
    after.reservationAllocator self g) :
    (Reservation.mk this (some self)).Real before after ↔ g.toNat < 2 ^ 63 := by
  obtain ⟨n, hn, hsize⟩ := size_of_opened this h
  have htotal := h.total
  constructor
  · intro hreal
    obtain ⟨n', hn', hcharged⟩ := hreal.charged
    rw [hn] at hn'
    cases hn'
    unfold heldSize at hsize
    split at hsize
    · assumption
    · omega
  · intro hlt
    obtain ⟨onExit, hdestroy⟩ := h.destroy
    rw [heldSize, if_pos hlt] at hsize
    refine ⟨nofun, ⟨n, hn, by omega⟩, fun bytes => ?_, ?_, ?_⟩
    · exact h.growBy bytes
    · exact h.shrinkToFit
    · simp only [Reservation.destroy]
      rcases hout : after.reservationAllocator.destroyArena self with ⟨mr, out⟩
      rw [hout] at hdestroy
      dsimp only at hdestroy
      rw [hdestroy]

theorem not_real_null : ¬ (Reservation.mk this none).Real before after :=
  fun h => h.arena rfl

/-! ## `make_reservation_or_null` and `make_reservation_upto` -/

/-- The two outcomes. The second is no null reservation, in neither build. -/
theorem makeReservationOrNull_cases (s : MemorySpace) (ndebug : Bool)
    (this : Nat) (self : Addr) (size : UInt64) :
    (s.reservationAllocator.Grants size ∧ ∃ after,
      s.makeReservationOrNull ndebug this self size =
        (after, .ok (some ⟨this, some self⟩)) ∧
      s.reservationAllocator.Opened after.reservationAllocator self
        (s.reservationAllocator.rounded size)) ∨
    (¬ s.reservationAllocator.Grants size ∧ ∃ after,
      s.makeReservationOrNull ndebug this self size =
        (after, (Reservation.create ndebug this none).map some) ∧
      after.reservationAllocator = s.reservationAllocator) := by
  rcases s.reservationAllocator.reserve_spec self size (some ⟨this⟩) with
    ⟨hg, a', heq, ho⟩ | ⟨hg, heq⟩
  · refine Or.inl ⟨hg, ?_⟩
    simp only [MemorySpace.makeReservationOrNull,
      NotificationChannel.getNotifier, heq]
    exact ⟨_, rfl, ho⟩
  · refine Or.inr ⟨hg, ?_⟩
    simp only [MemorySpace.makeReservationOrNull,
      NotificationChannel.getNotifier, heq]
    exact ⟨_, rfl, rfl⟩

theorem create_null_ne (ndebug : Bool) (this : Nat) :
    (Reservation.create ndebug this none).map some ≠ .ok none := by
  cases ndebug <;> exact nofun

/-- A null reservation is never returned. -/
theorem makeReservationOrNull_ne (s : MemorySpace) (ndebug : Bool) (this : Nat)
    (self : Addr) (size : UInt64) :
    (s.makeReservationOrNull ndebug this self size).2 ≠ .ok none := by
  rcases makeReservationOrNull_cases s ndebug this self size with
    ⟨-, after, heq, -⟩ | ⟨-, after, heq, -⟩
  · rw [heq]
    exact nofun
  · rw [heq]
    exact create_null_ne ndebug this

/-- `make_reservation_or_null` reports a refusal as null and otherwise returns
a real reservation. -/
def OrNullContract (ndebug : Bool) (this : Nat) (self : Addr) (size : UInt64)
    (s : MemorySpace) : Prop :=
  ∃ r after, s.makeReservationOrNull ndebug this self size = (after, .ok r) ∧
    (r = none ↔
      (s.reservationAllocator.reserve self size (some ⟨this⟩)).1 = none) ∧
    ∀ res ∈ r, res.Real s after

/-- `make_reservation_upto` returns nothing but real reservations. -/
def UptoContract (ndebug : Bool) (this : Nat) (self : Addr) (size : UInt64)
    (s : MemorySpace) : Prop :=
  ∃ r after, s.makeReservationUpto ndebug this self size = (after, .ok r) ∧
    ∀ res ∈ r, res.Real s after

theorem orNullContract_iff :
    OrNullContract ndebug this self size s ↔
      s.reservationAllocator.Honours size := by
  have hnull := s.reservationAllocator.reserve_eq_none_iff self size (some ⟨this⟩)
  rcases makeReservationOrNull_cases s ndebug this self size with
    ⟨hg, after, heq, ho⟩ | ⟨hg, after, heq, -⟩
  · constructor
    · rintro ⟨r, after', h, -, hreal⟩
      rw [heq] at h
      cases h
      exact ⟨hg, (real_iff ho).mp (hreal _ rfl)⟩
    · rintro ⟨-, hlt⟩
      refine ⟨_, after, heq, iff_of_false nofun (fun h => hnull.mp h hg), ?_⟩
      rintro res ⟨⟩
      exact (real_iff ho).mpr hlt
  · refine iff_of_false ?_ fun h => hg h.1
    rintro ⟨r, after', h, hiff, -⟩
    rw [hiff.mpr (hnull.mpr hg), heq] at h
    exact create_null_ne ndebug this (congrArg Prod.snd h)

theorem uptoContract_iff :
    UptoContract ndebug this self size s ↔
      s.reservationAllocator.grantedUpto size < 2 ^ 63 := by
  obtain ⟨g, a', heq, hg, ho⟩ :=
    s.reservationAllocator.reserveUpto_spec self size (some ⟨this⟩)
  have hout : s.makeReservationUpto ndebug this self size =
      ({ s with reservationAllocator := a' }, .ok (some ⟨this, some self⟩)) := by
    simp only [MemorySpace.makeReservationUpto, NotificationChannel.getNotifier,
      heq]
    rfl
  rw [← hg]
  constructor
  · rintro ⟨r, after', h, hreal⟩
    rw [hout] at h
    cases h
    exact (real_iff ho).mp (hreal _ rfl)
  · intro hlt
    refine ⟨_, _, hout, ?_⟩
    rintro res ⟨⟩
    exact (real_iff ho).mpr hlt

end Real

/-! ## The calls that could wait -/

/-- The spaces as the call found them when it last had to look. -/
def Blocking.lastFound {α : Type} (out : Blocking α) (spaces : Spaces)
    (woken : List Spaces) : Spaces :=
  (woken.take (woken.length - out.woken.length)).getLastD spaces

/-- Since the call last looked, the space of the reservation was charged for
it. -/
def RealIn {α : Type} (out : Blocking α) (spaces : Spaces) (woken : List Spaces)
    (res : Reservation) : Prop :=
  ∃ before after, (out.lastFound spaces woken)[res.space]? = some before ∧
    out.spaces[res.space]? = some after ∧ res.Real before after

/-- A reservation `make_reservation` returns is real, and as large as asked
unless the channel was found idle. -/
def MakeContract (ndebug : Bool) (self : Addr) (size : UInt64) (this : Nat)
    (spaces : Spaces) (woken : List Spaces) : Prop :=
  let out := MemorySpace.makeReservation ndebug self size this spaces woken
  ∀ r, out.result = some r → ∃ r', r = .ok r' ∧
    ∀ res ∈ r', RealIn out spaces woken res ∧
      (out.waited.getLast? = some .IDLE ∨
        ∃ s n, out.spaces[res.space]? = some s ∧ res.size s = .ok n ∧
          size.toNat ≤ n.toNat)

/-- A reservation `request_reservation` returns is real. -/
def RequestContract (m : MemoryReservationManager) (ndebug : Bool) (self : Addr)
    (request : ReservationRequestStrategy) (size : UInt64)
    (woken : List Spaces) : Prop :=
  let out := m.requestReservation ndebug self request size woken
  ∀ r, out.result = some r →
    ∃ res, r = .ok res ∧ RealIn out m.memorySpaces woken res

section Blocking

open MemoryReservationManager

variable {ndebug : Bool} {self : Addr} {size : UInt64} {this : Nat}
  {spaces : Spaces} {woken : List Spaces} {s : MemorySpace}

theorem onSpace_ne (ndebug : Bool) (self : Addr) (size : UInt64) (this : Nat)
    (spaces : Spaces) :
    (onSpace spaces this (·.makeReservationOrNull ndebug this self size)).2 ≠
      .ok none := by
  simp only [onSpace]
  split
  · exact nofun
  · exact makeReservationOrNull_ne _ ndebug this self size

/-- The loop of `make_reservation` is never entered. -/
theorem makeReservation_eq (ndebug : Bool) (self : Addr) (size : UInt64) :
    MemorySpace.makeReservation ndebug self size =
      reserveOrNull ndebug self size := by
  funext this spaces woken
  have hne := onSpace_ne ndebug self size this spaces
  simp only [MemorySpace.makeReservation, reserveOrNull]

/-- The candidate search ends at the first candidate. -/
theorem tryCandidates_cons (candidates : List Nat) :
    tryCandidates (reserveOrNull ndebug self size) (this :: candidates) spaces
      woken = reserveOrNull ndebug self size this spaces woken := by
  have hne := onSpace_ne ndebug self size this spaces
  simp only [tryCandidates, reserveOrNull]
  rcases hout : onSpace spaces this
    (·.makeReservationOrNull ndebug this self size) with ⟨after, r⟩
  rw [hout] at hne
  rcases r with e | _ | res
  · rfl
  · exact absurd rfl hne
  · rfl

theorem select_of_nil {m : MemoryReservationManager}
    {request : ReservationRequestStrategy} (h : m.getCandidates request = []) :
    m.selectMemorySpaceAndMakeReservation ndebug self request size spaces woken =
      ⟨spaces, woken, [], some (.ok none)⟩ := by
  simp only [selectMemorySpaceAndMakeReservation, h, tryCandidates]
  split <;> rfl

theorem select_of_cons {m : MemoryReservationManager}
    {request : ReservationRequestStrategy} {candidates : List Nat}
    (h : m.getCandidates request = this :: candidates) :
    m.selectMemorySpaceAndMakeReservation ndebug self request size spaces woken =
      reserveOrNull ndebug self size this spaces woken := by
  have hne := onSpace_ne ndebug self size this spaces
  simp only [selectMemorySpaceAndMakeReservation, h, makeReservation_eq,
    tryCandidates_cons]
  split
  · rfl
  · simp only [reserveOrNull]
    rcases hout : onSpace spaces this
      (·.makeReservationOrNull ndebug this self size) with ⟨after, r⟩
    rw [hout] at hne
    rcases r with e | _ | res
    · rfl
    · exact absurd rfl hne
    · rfl

/-- A request with no candidates waits for ever. -/
theorem requestLoop_of_nil {m : MemoryReservationManager}
    {request : ReservationRequestStrategy} (h : m.getCandidates request = [])
    (turns : Nat) :
    (m.requestLoop ndebug self request size turns spaces woken).result = none := by
  induction turns generalizing spaces woken with
  | zero => rfl
  | succ turns ih =>
      simp only [requestLoop, select_of_nil h]
      cases woken with
      | nil => rfl
      | cons found woken => exact ih

theorem request_of_nil {m : MemoryReservationManager}
    {request : ReservationRequestStrategy} (h : m.getCandidates request = []) :
    (m.requestReservation ndebug self request size woken).result = none := by
  simp only [requestReservation, select_of_nil h]
  exact requestLoop_of_nil h _

/-- A request is settled by its first candidate. -/
theorem request_of_cons (ndebug : Bool) (self : Addr) (size : UInt64)
    (woken : List Spaces) {m : MemoryReservationManager}
    {request : ReservationRequestStrategy} {candidates : List Nat}
    (h : m.getCandidates request = this :: candidates) :
    ∃ after r, onSpace m.memorySpaces this
        (·.makeReservationOrNull ndebug this self size) = (after, r) ∧
      ((∃ res, r = .ok (some res) ∧
        m.requestReservation ndebug self request size woken =
          ⟨after, woken, [], some (.ok res)⟩) ∨
      (∃ e, r = .error e ∧
        m.requestReservation ndebug self request size woken =
          ⟨after, woken, [], some (.error e)⟩)) := by
  have hne := onSpace_ne ndebug self size this m.memorySpaces
  rcases hout : onSpace m.memorySpaces this
    (·.makeReservationOrNull ndebug this self size) with ⟨after, r⟩
  rw [hout] at hne
  refine ⟨after, r, rfl, ?_⟩
  simp only [requestReservation, select_of_cons h, reserveOrNull, hout]
  rcases r with e | _ | res
  · exact Or.inr ⟨e, rfl, rfl⟩
  · exact absurd rfl hne
  · exact Or.inl ⟨res, rfl, rfl⟩

/-! ## When the contracts hold -/

theorem realIn_iff {α : Type} {out : Blocking α} {res : Reservation}
    (h : out.woken = woken) : RealIn out spaces woken res ↔
      ∃ before after, spaces[res.space]? = some before ∧
        out.spaces[res.space]? = some after ∧ res.Real before after := by
  have hlast : out.lastFound spaces woken = spaces := by
    simp only [Blocking.lastFound, h, Nat.sub_self, List.take_zero,
      List.getLastD_nil]
  rw [RealIn, hlast]

theorem onSpace_of_grants (ndebug : Bool) (self : Addr)
    (hs : spaces[this]? = some s)
    (hg : s.reservationAllocator.Grants size) :
    ∃ after, onSpace spaces this
        (·.makeReservationOrNull ndebug this self size) =
        (spaces.set this after, .ok (some ⟨this, some self⟩)) ∧
      (spaces.set this after)[this]? = some after ∧
      s.reservationAllocator.Opened after.reservationAllocator self
        (s.reservationAllocator.rounded size) := by
  rcases makeReservationOrNull_cases s ndebug this self size with
    ⟨-, after, heq, ho⟩ | ⟨hno, -⟩
  · obtain ⟨hlt, -⟩ := List.getElem?_eq_some_iff.mp hs
    refine ⟨after, ?_, ?_, ho⟩
    · simp only [onSpace, hs, heq]
    · rw [List.getElem?_set_self hlt]
  · exact absurd hg hno

theorem onSpace_of_not_grants (hs : spaces[this]? = some s)
    (hg : ¬ s.reservationAllocator.Grants size) {after : Spaces}
    {r : Except Failure (Option Reservation)}
    (h : onSpace spaces this (·.makeReservationOrNull ndebug this self size) =
      (after, r)) :
    (∃ e, r = .error e) ∨ r = .ok (some ⟨this, none⟩) := by
  rcases makeReservationOrNull_cases s ndebug this self size with
    ⟨hyes, -⟩ | ⟨-, after', heq, -⟩
  · exact absurd hyes hg
  · simp only [onSpace, hs, heq] at h
    cases h
    cases ndebug
    · exact Or.inl ⟨_, rfl⟩
    · exact Or.inr rfl

/-- Only a limiter that honours the request leaves a real reservation. -/
theorem honours_of_real {after : Spaces} {res : Reservation}
    {before after' : MemorySpace}
    (h : onSpace spaces this (·.makeReservationOrNull ndebug this self size) =
      (after, .ok (some res))) (hb : spaces[res.space]? = some before)
    (ha : after[res.space]? = some after') (hreal : res.Real before after') :
    ∃ s, spaces[this]? = some s ∧ s.reservationAllocator.Honours size := by
  cases hs : spaces[this]? with
  | none =>
      simp only [onSpace, hs] at h
      cases h
  | some s =>
      by_cases hg : s.reservationAllocator.Grants size
      · obtain ⟨after₁, heq, hafter, ho⟩ := onSpace_of_grants ndebug self hs hg
        rw [heq] at h
        cases h
        rw [hs] at hb
        rw [hafter] at ha
        cases hb
        cases ha
        exact ⟨_, rfl, hg, (real_iff ho).mp hreal⟩
      · rcases onSpace_of_not_grants hs hg h with ⟨e, he⟩ | hnull
        · cases he
        · cases hnull
          exact absurd hreal not_real_null

theorem makeContract_iff (hs : spaces[this]? = some s)
    (hwrap : s.reservationAllocator.NoWrap size) :
    MakeContract ndebug self size this spaces woken ↔
      s.reservationAllocator.Honours size := by
  simp only [MakeContract, makeReservation_eq, reserveOrNull]
  constructor
  · intro h
    have hne := onSpace_ne ndebug self size this spaces
    rcases hout : onSpace spaces this
      (·.makeReservationOrNull ndebug this self size) with ⟨after, r⟩
    rw [hout] at h hne
    obtain ⟨r', hr, hall⟩ := h _ rfl
    dsimp only at hr hne
    subst hr
    cases r' with
    | none => exact absurd rfl hne
    | some res =>
        obtain ⟨before, after', hb, ha, hreal⟩ :=
          (realIn_iff rfl).mp (hall res rfl).1
        obtain ⟨s', hs', hhonours⟩ := honours_of_real hout hb ha hreal
        rw [hs] at hs'
        cases hs'
        exact hhonours
  · rintro ⟨hg, hlt⟩
    obtain ⟨after, heq, hafter, ho⟩ := onSpace_of_grants ndebug self hs hg
    obtain ⟨n, hn, hsize⟩ := size_of_opened this ho
    have hle := ReservingAdaptor.le_rounded hwrap
    rw [heldSize, if_pos hlt] at hsize
    rw [heq]
    rintro r ⟨⟩
    refine ⟨_, rfl, ?_⟩
    rintro res ⟨⟩
    exact ⟨(realIn_iff rfl).mpr ⟨s, after, hs, hafter, (real_iff ho).mpr hlt⟩,
      Or.inr ⟨after, n, hafter, hn, by omega⟩⟩

theorem requestContract_iff {m : MemoryReservationManager}
    {request : ReservationRequestStrategy} :
    RequestContract m ndebug self request size woken ↔
      ∀ first ∈ (m.getCandidates request).head?,
        ∃ s, m.memorySpaces[first]? = some s ∧
          s.reservationAllocator.Honours size := by
  cases h : m.getCandidates request with
  | nil =>
      refine iff_of_true ?_ nofun
      intro r hr
      rw [request_of_nil h] at hr
      cases hr
  | cons first candidates =>
      obtain ⟨after, r, hout, hrun⟩ := request_of_cons ndebug self size woken h
      simp only [List.head?_cons, Option.mem_some_iff, forall_eq', RequestContract]
      rcases hrun with ⟨res, rfl, hrun⟩ | ⟨e, rfl, hrun⟩ <;> rw [hrun]
      · constructor
        · intro hall
          obtain ⟨res', hres, hreal⟩ := hall _ rfl
          cases hres
          obtain ⟨before, after', hb, ha, hreal⟩ := (realIn_iff rfl).mp hreal
          exact honours_of_real hout hb ha hreal
        · rintro ⟨s, hs, hg, hlt⟩ r ⟨⟩
          obtain ⟨after', heq, hafter, ho⟩ := onSpace_of_grants ndebug self hs hg
          rw [heq] at hout
          cases hout
          exact ⟨_, rfl, (realIn_iff rfl).mpr
            ⟨s, after', hs, hafter, (real_iff ho).mpr hlt⟩⟩
      · refine iff_of_false ?_ ?_
        · intro hall
          obtain ⟨res, hres, -⟩ := hall _ rfl
          cases hres
        · rintro ⟨s, hs, hg, -⟩
          obtain ⟨after', heq, -⟩ := onSpace_of_grants ndebug self hs hg
          rw [heq] at hout
          cases hout

/-- When each of the four functions hands out only real reservations: the
limiter it asks first can grant the request, and what it grants is a size an
arena can hold. -/
theorem reservations_real_iff (ndebug : Bool) (self : Addr) (size : UInt64) :
    (∀ this s, OrNullContract ndebug this self size s ↔
      s.reservationAllocator.Honours size) ∧
    (∀ this s, UptoContract ndebug this self size s ↔
      s.reservationAllocator.grantedUpto size < 2 ^ 63) ∧
    (∀ spaces this s woken, spaces[this]? = some s →
      s.reservationAllocator.NoWrap size →
      (MakeContract ndebug self size this spaces woken ↔
        s.reservationAllocator.Honours size)) ∧
    (∀ (m : MemoryReservationManager) request woken,
      RequestContract m ndebug self request size woken ↔
        ∀ first ∈ (m.getCandidates request).head?,
          ∃ s, m.memorySpaces[first]? = some s ∧
            s.reservationAllocator.Honours size) :=
  ⟨fun _ _ => orNullContract_iff, fun _ _ => uptoContract_iff,
    fun _ _ _ _ hs hwrap => makeContract_iff hs hwrap,
    fun _ _ _ => requestContract_iff⟩

/-- A device with room for 1024 bytes, a host pool for 256 and a disk for
4096. -/
def threeTiers : Spaces :=
  [⟨⟨.GPU, 0⟩, .gpu (.fresh 1024 1024), .fresh⟩,
    ⟨⟨.HOST, 0⟩, .host (.create 256 256 16 8 [0x1000]), .fresh⟩,
    ⟨⟨.DISK, 0⟩, .disk (.fresh 4096), .fresh⟩]

theorem reservations_real_threeTiers :
    MakeContract false 7 200 1 threeTiers [] ∧
      RequestContract (ofSpaces threeTiers) true 7 (.anyMemorySpaceInTier .DISK)
        4000 [] :=
  ⟨((reservations_real_iff false 7 200).2.2.1 threeTiers 1 _ [] rfl
      (by decide)).mpr (by decide),
    ((reservations_real_iff true 7 4000).2.2.2 (ofSpaces threeTiers) _ []).mpr
      (by rintro first ⟨⟩; exact ⟨_, rfl, by decide⟩)⟩

/-- The device refuses 2048 bytes: one build aborts, the other returns a
reservation without an arena. -/
theorem refusal_is_not_null :
    ¬ OrNullContract false 0 7 2048 ⟨⟨.GPU, 0⟩, .gpu (.fresh 1024 1024), .fresh⟩ ∧
      ¬ OrNullContract true 0 7 2048
        ⟨⟨.GPU, 0⟩, .gpu (.fresh 1024 1024), .fresh⟩ := by
  constructor
  · rintro ⟨r, after, h, -⟩
    exact absurd (congrArg Prod.snd h) nofun
  · rintro ⟨r, after, h, -, hreal⟩
    have hr : .ok (some ⟨0, none⟩) = Except.ok r := congrArg Prod.snd h
    cases hr
    exact (hreal _ rfl).arena rfl

end Blocking

end CuCascade.Memory

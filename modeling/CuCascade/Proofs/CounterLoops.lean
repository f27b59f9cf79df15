import CuCascade.Utils.AtomicLoops

/-!
# The counter operations under interference

A call of `try_add` or `try_sub` is decided by the value it read last, for it
keeps nothing else; so it takes effect at one moment whatever other threads
write in between. `add_bounded` and `sub_bounded` keep the amount they have
clamped. It never grows again, so that they grant what the tightest moment since
their load left room for, not what there is room for when they exchange.
-/

namespace CuCascade.Utils

open Retry

variable {w : Nat}

instance instMinBitVec : Min (BitVec w) := ⟨fun a b => if a ≤ b then a else b⟩

theorem toNat_min (a b : BitVec w) : (min a b).toNat = min a.toNat b.toNat := by
  show (if a ≤ b then a else b).toNat = _
  by_cases h : a ≤ b
  · rw [if_pos h, Nat.min_eq_left (BitVec.le_def.mp h)]
  · rw [if_neg h, Nat.min_eq_right (Nat.le_of_not_le fun hle => h (BitVec.le_def.mpr hle))]

/-- A counter is raised towards an upper bound or lowered towards a lower one. -/
inductive Direction where
  | up | down
deriving DecidableEq, Repr

namespace Direction

/-- `try_add` or `try_sub`. -/
def tryLoop (d : Direction) (diff bound : BitVec w) :
    Unit → BitVec w → Move Unit (BitVec w) (Bool × BitVec w) :=
  match d with
  | up => tryAddLoop diff bound
  | down => trySubLoop diff bound

/-- `add_bounded` or `sub_bounded`. -/
def boundedLoop (d : Direction) (bound : BitVec w) :
    BitVec w → BitVec w → Move (BitVec w) (BitVec w) (BitVec w × BitVec w) :=
  match d with
  | up => addBoundedLoop bound
  | down => subBoundedLoop bound

/-- How far the counter is from the bound. -/
def room (d : Direction) (bound current : BitVec w) : Nat :=
  match d with
  | up => bound.toNat - current.toNat
  | down => current.toNat - bound.toNat

/-- The amount takes the counter no further than the bound. -/
def Fits (d : Direction) (bound current amount : BitVec w) : Prop :=
  match d with
  | up => current.toNat + amount.toNat ≤ bound.toNat
  | down => bound.toNat + amount.toNat ≤ current.toNat

/-- The amount takes the counter from one value to the other without a wrap. -/
def Moves (d : Direction) (current amount new : BitVec w) : Prop :=
  match d with
  | up => new.toNat = current.toNat + amount.toNat
  | down => new.toNat + amount.toNat = current.toNat

/-- `add_bounded` and `sub_bounded` go on. -/
def GoesOn (d : Direction) (bound current : BitVec w) : Prop :=
  match d with
  | up => current < bound
  | down => bound < current

instance (d : Direction) (bound : BitVec w) : DecidablePred (d.GoesOn bound) := fun current =>
  match d with
  | up => inferInstanceAs (Decidable (current < bound))
  | down => inferInstanceAs (Decidable (bound < current))

end Direction

/-- A call of `try_add` or `try_sub` that has returned moved the counter by the
whole amount, and could; or it did not touch it, and could not. -/
def Tried (d : Direction) (requested bound loaded : BitVec w)
    (as : List (Access (BitVec w))) : Prop :=
  let body := d.tryLoop requested bound
  let call := Call.read body () loaded
  match call.follow body as with
  | .exchanged found new result =>
      result = (true, new) ∧ d.Fits bound found requested ∧ d.Moves found requested new
  | .left read result =>
      result = (false, read) ∧ ¬ d.Fits bound read requested ∧
        call.leaves body as = as.map (·.found)
  | .loading _ | .trying .. => True

/-- A call of `add_bounded` or `sub_bounded` that has returned moved the counter
by the request or the room there was, whichever is smaller; or it did not touch
it, and there was none. -/
def Granted (d : Direction) (requested bound loaded : BitVec w)
    (as : List (Access (BitVec w))) : Prop :=
  let body := d.boundedLoop bound
  let call := Call.read body requested loaded
  match call.follow body as with
  | .exchanged found new result =>
      result.1.toNat = min requested.toNat (d.room bound found) ∧
        d.Moves found result.1 new ∧ result.2 = new
  | .left read result =>
      d.room bound read = 0 ∧ result = (0, read) ∧
        call.leaves body as = as.map (·.found)
  | .loading _ | .trying .. => True

/-- Each value that `add_bounded` or `sub_bounded` reads before it succeeds
leaves as much room as it then needs. -/
def RoomKept (d : Direction) (requested bound loaded : BitVec w)
    (as : List (Access (BitVec w))) : Prop :=
  let path := history (d.GoesOn bound) loaded as
  ∀ found ∈ path.2, ∀ read ∈ path.1,
    min requested.toNat (d.room bound found) ≤ d.room bound read

/-! ## `try_add` and `try_sub` -/

namespace Direction

variable {d : Direction} {requested bound current new : BitVec w}

/-- The test before the exchange is exact: it wraps nowhere it is asked. -/
theorem refused_up_iff : (bound < current ∨ bound - current < requested) ↔
    ¬ up.Fits bound current requested := by
  show _ ↔ ¬ current.toNat + requested.toNat ≤ bound.toNat
  by_cases hlt : bound < current
  · have hnat := BitVec.lt_def.mp hlt
    exact iff_of_true (Or.inl hlt) (by omega)
  · have hle : current ≤ bound := BitVec.le_def.mpr (by
      rw [BitVec.lt_def] at hlt
      omega)
    have hnat := BitVec.le_def.mp hle
    rw [or_iff_right hlt, BitVec.lt_def, BitVec.toNat_sub_of_le hle]
    omega

theorem refused_down_iff : (current < bound ∨ current - bound < requested) ↔
    ¬ down.Fits bound current requested := by
  show _ ↔ ¬ bound.toNat + requested.toNat ≤ current.toNat
  rw [refused_up_iff]
  rfl

theorem moves_up (h : up.Fits bound current requested) :
    up.Moves current requested (current + requested) := by
  have hfits : current.toNat + requested.toNat ≤ bound.toNat := h
  exact BitVec.toNat_add_of_lt (by have := bound.isLt; omega)

theorem moves_down (h : down.Fits bound current requested) :
    down.Moves current requested (current - requested) := by
  have hfits : bound.toNat + requested.toNat ≤ current.toNat := h
  have hle : requested ≤ current := BitVec.le_def.mpr (by omega)
  show (current - requested).toNat + requested.toNat = current.toNat
  rw [BitVec.toNat_sub_of_le hle]
  omega

theorem tryLoop_exchange {result : Bool × BitVec w} {state retry : Unit}
    (h : d.tryLoop requested bound state current = .exchange new result retry) :
    result = (true, new) ∧ d.Fits bound current requested ∧
      d.Moves current requested new := by
  cases d with
  | up =>
      by_cases hfits : up.Fits bound current requested
      · have hgo := refused_up_iff.not_left.mpr hfits
        rw [tryLoop, tryAddLoop, Utils.tryLoop, if_neg hgo] at h
        cases h
        exact ⟨rfl, hfits, moves_up hfits⟩
      · rw [tryLoop, tryAddLoop, Utils.tryLoop, if_pos (refused_up_iff.mpr hfits)] at h
        cases h
  | down =>
      by_cases hfits : down.Fits bound current requested
      · have hgo := refused_down_iff.not_left.mpr hfits
        rw [tryLoop, trySubLoop, Utils.tryLoop, if_neg hgo] at h
        cases h
        exact ⟨rfl, hfits, moves_down hfits⟩
      · rw [tryLoop, trySubLoop, Utils.tryLoop, if_pos (refused_down_iff.mpr hfits)] at h
        cases h

theorem tryLoop_leave {result : Bool × BitVec w} {state : Unit}
    (h : d.tryLoop requested bound state current = .leave result) :
    result = (false, current) ∧ ¬ d.Fits bound current requested := by
  cases d with
  | up =>
      rw [tryLoop, tryAddLoop, Utils.tryLoop] at h
      split at h
      · rename_i hrefused
        cases h
        exact ⟨rfl, refused_up_iff.mp hrefused⟩
      · cases h
  | down =>
      rw [tryLoop, trySubLoop, Utils.tryLoop] at h
      split at h
      · rename_i hrefused
        cases h
        exact ⟨rfl, refused_down_iff.mp hrefused⟩
      · cases h

end Direction

/-- `try_add` and `try_sub` are atomic in effect under any interference. -/
theorem tried (d : Direction) (requested bound loaded : BitVec w)
    (as : List (Access (BitVec w))) : Tried d requested bound loaded as := by
  have hjust : ((Call.read (d.tryLoop requested bound) () loaded).follow
      (d.tryLoop requested bound) as).Justified (d.tryLoop requested bound) :=
    Call.justified_read.follow as
  unfold Tried
  dsimp only
  generalize hcall : (Call.read (d.tryLoop requested bound) () loaded).follow
    (d.tryLoop requested bound) as = call at hjust
  cases call with
  | loading state => trivial
  | trying current new result retry => trivial
  | left read result =>
      obtain ⟨state, hbody⟩ := hjust
      obtain ⟨hresult, hfits⟩ := Direction.tryLoop_leave hbody
      exact ⟨hresult, hfits, Call.leaves_of_left hcall⟩
  | exchanged found new result =>
      obtain ⟨state, retry, hbody⟩ := hjust
      exact Direction.tryLoop_exchange hbody

/-- In a run of concurrent calls of `try_add` on one counter, a call that has
returned gave what the operation gives, made at one moment, for the value the
counter had then. -/
theorem tryAdd_in_run {ι : Type*} [DecidableEq ι] {requested bound : BitVec w}
    (initial : BitVec w) (steps : List (ι × Bool)) (i : ι) (result : Bool × BitVec w)
    (h : (((machine (tryAddLoop requested bound)).run
      ⟨initial, fun _ => .loading ()⟩ steps).calls i).result? = some result) :
    ∃ current, result = tryAdd current requested bound := by
  obtain ⟨state, current, hresult⟩ := result_run h
  exact ⟨current, hresult.trans (tryAddLoop_result state current requested bound)⟩

/-! ## `add_bounded` and `sub_bounded` -/

namespace Direction

variable {d : Direction} {bound current amount : BitVec w}

/-- The amount the loops clamp to. -/
def space (d : Direction) (bound current : BitVec w) : BitVec w :=
  match d with
  | up => bound - current
  | down => current - bound

/-- The value the loops write. -/
def updated (d : Direction) (current amount : BitVec w) : BitVec w :=
  match d with
  | up => current + amount
  | down => current - amount

theorem boundedLoop_of_goesOn (h : d.GoesOn bound current) (diff : BitVec w) :
    d.boundedLoop bound diff current =
      .exchange (d.updated current (min diff (d.space bound current)))
        (min diff (d.space bound current),
          d.updated current (min diff (d.space bound current)))
        (min diff (d.space bound current)) := by
  cases d with
  | up => exact if_pos h
  | down => exact if_pos h

theorem boundedLoop_of_not_goesOn (h : ¬ d.GoesOn bound current) (diff : BitVec w) :
    d.boundedLoop bound diff current = .leave (0, current) := by
  cases d with
  | up => exact if_neg h
  | down => exact if_neg h

theorem toNat_space (h : d.GoesOn bound current) :
    (d.space bound current).toNat = d.room bound current := by
  cases d with
  | up => exact BitVec.toNat_sub_of_le (BitVec.le_of_lt h)
  | down => exact BitVec.toNat_sub_of_le (BitVec.le_of_lt h)

theorem room_eq_zero (h : ¬ d.GoesOn bound current) : d.room bound current = 0 := by
  cases d with
  | up => exact Nat.sub_eq_zero_of_le (Nat.le_of_not_lt fun hlt => h (BitVec.lt_def.mpr hlt))
  | down => exact Nat.sub_eq_zero_of_le (Nat.le_of_not_lt fun hlt => h (BitVec.lt_def.mpr hlt))

theorem moves_updated (h : amount.toNat ≤ d.room bound current) (hgo : d.GoesOn bound current) :
    d.Moves current amount (d.updated current amount) := by
  have hfits : d.Fits bound current amount := by
    cases d with
    | up =>
        have hlt := BitVec.lt_def.mp hgo
        have hroom : amount.toNat ≤ bound.toNat - current.toNat := h
        show current.toNat + amount.toNat ≤ bound.toNat
        omega
    | down =>
        have hlt := BitVec.lt_def.mp hgo
        have hroom : amount.toNat ≤ current.toNat - bound.toNat := h
        show bound.toNat + amount.toNat ≤ current.toNat
        omega
  cases d with
  | up => exact moves_up hfits
  | down => exact moves_down hfits

/-- What is left of the request after clamping it at one value after the other. -/
theorem le_clamped_iff {reads : List (BitVec w)} (h : ∀ read ∈ reads, d.GoesOn bound read)
    (requested : BitVec w) (k : Nat) :
    k ≤ (reads.foldl (fun diff read => min diff (d.space bound read)) requested).toNat ↔
      k ≤ requested.toNat ∧ ∀ read ∈ reads, k ≤ d.room bound read := by
  induction reads generalizing requested with
  | nil => simp
  | cons read reads ih =>
      obtain ⟨hread, hreads⟩ := List.forall_mem_cons.mp h
      rw [List.foldl_cons, ih hreads, toNat_min, toNat_space hread, le_min_iff,
        List.forall_mem_cons, and_assoc]

theorem boundedLoop_leave {result : BitVec w × BitVec w} {diff : BitVec w}
    (h : d.boundedLoop bound diff current = .leave result) :
    d.room bound current = 0 ∧ result = (0, current) := by
  by_cases hgo : d.GoesOn bound current
  · rw [boundedLoop_of_goesOn hgo] at h
    cases h
  · rw [boundedLoop_of_not_goesOn hgo] at h
    cases h
    exact ⟨room_eq_zero hgo, rfl⟩

end Direction

section

variable {d : Direction} {requested bound loaded : BitVec w}
  {as : List (Access (BitVec w))}

/-- A call that does not get to an exchange did what it should. -/
theorem granted_of_no_exchange (h : (history (d.GoesOn bound) loaded as).2 = none) :
    Granted d requested bound loaded as := by
  have hjust : ((Call.read (d.boundedLoop bound) requested loaded).follow
      (d.boundedLoop bound) as).Justified (d.boundedLoop bound) :=
    Call.justified_read.follow as
  unfold Granted
  dsimp only
  generalize hcall : (Call.read (d.boundedLoop bound) requested loaded).follow
    (d.boundedLoop bound) as = call at hjust
  cases call with
  | loading state => trivial
  | trying current new result retry => trivial
  | left read result =>
      obtain ⟨diff, hbody⟩ := hjust
      obtain ⟨hroom, hresult⟩ := Direction.boundedLoop_leave hbody
      exact ⟨hroom, hresult, Call.leaves_of_left hcall⟩
  | exchanged found new result =>
      have hpath := history_of_exchanged
        (fun diff current hgo => ⟨_, Direction.boundedLoop_of_not_goesOn hgo diff⟩)
        (fun diff current hgo => ⟨_, _, _, Direction.boundedLoop_of_goesOn hgo diff⟩) hcall
      rw [hpath] at h
      cases h

/-- A call that exchanges grants what it should if no value it read before left
less room. -/
theorem granted_iff_of_exchange {found : BitVec w}
    (h : (history (d.GoesOn bound) loaded as).2 = some found) :
    Granted d requested bound loaded as ↔
      ∀ read ∈ (history (d.GoesOn bound) loaded as).1,
        min requested.toNat (d.room bound found) ≤ d.room bound read := by
  have hpath := goesOn_of_mem_history (d.GoesOn bound) loaded as
  have hfound : d.GoesOn bound found := hpath.2 found h
  let clamp := fun diff read => min diff (d.space bound read)
  let clamped := (history (d.GoesOn bound) loaded as).1.foldl clamp requested
  have hfollow : (Call.read (d.boundedLoop bound) requested loaded).follow
      (d.boundedLoop bound) as = .exchanged found (d.updated found (clamp clamped found))
        (clamp clamped found, d.updated found (clamp clamped found)) :=
    follow_of_history clamp (fun diff current => d.updated current diff)
      (fun diff current => (diff, d.updated current diff))
      (fun diff current hgo => Direction.boundedLoop_of_goesOn hgo diff) h
  have hle := Direction.le_clamped_iff hpath.1 requested
  have hgrant : (clamp clamped found).toNat = min clamped.toNat (d.room bound found) := by
    rw [toNat_min, Direction.toNat_space hfound]
  have hatmost : clamped.toNat ≤ requested.toNat := ((hle clamped.toNat).mp le_rfl).1
  have hmoves : d.Moves found (clamp clamped found)
      (d.updated found (clamp clamped found)) :=
    Direction.moves_updated (hgrant.trans_le (min_le_right _ _)) hfound
  unfold Granted
  dsimp only
  rw [hfollow]
  constructor
  · intro hlaw
    have hexact : min clamped.toNat (d.room bound found) =
        min requested.toNat (d.room bound found) := hgrant.symm.trans hlaw.1
    exact ((hle _).mp (hexact ▸ min_le_left _ _)).2
  · intro hkept
    have henough : min requested.toNat (d.room bound found) ≤ clamped.toNat :=
      (hle _).mpr ⟨min_le_left _ _, hkept⟩
    refine ⟨hgrant.trans (le_antisymm ?_ ?_), hmoves, rfl⟩
    · exact min_le_min_right _ hatmost
    · exact le_min henough (min_le_right _ _)

/-- `add_bounded` and `sub_bounded` grant what they should exactly if no value
they read on the way left less room than they need in the end. -/
theorem granted_iff (d : Direction) (requested bound loaded : BitVec w)
    (as : List (Access (BitVec w))) :
    Granted d requested bound loaded as ↔ RoomKept d requested bound loaded as := by
  unfold RoomKept
  dsimp only
  cases h : (history (d.GoesOn bound) loaded as).2 with
  | none => exact iff_of_true (granted_of_no_exchange h) fun found hfound => by cases hfound
  | some found =>
      rw [granted_iff_of_exchange h]
      simp

end

/-- The four operations are atomic in effect exactly if no value that a bounded
one read on the way left less room than it needs in the end. -/
theorem atomicInEffect_iff (d : Direction) (requested bound loaded : BitVec w)
    (as : List (Access (BitVec w))) :
    Tried d requested bound loaded as ∧ Granted d requested bound loaded as ↔
      RoomKept d requested bound loaded as := by
  rw [granted_iff]
  exact and_iff_right (tried d requested bound loaded as)

/-- Ten are requested of a counter at seven of ten; before the exchange it drops
to zero, and three are granted. -/
theorem add_bounded_keeps_clamp :
    ¬ (Tried .up (10 : BitVec 64) 10 7 [⟨0, false⟩, ⟨0, false⟩] ∧
      Granted .up (10 : BitVec 64) 10 7 [⟨0, false⟩, ⟨0, false⟩]) := by
  intro h
  have hgrant : (3 : BitVec 64).toNat = min (10 : BitVec 64).toNat 10 := h.2.1
  cases hgrant

end CuCascade.Utils

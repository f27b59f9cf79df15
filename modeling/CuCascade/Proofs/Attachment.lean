import CuCascade.Memory.AttachWorld

/-!
# What becomes of a reservation that is attached

The call gives up the arena before it knows the type of the object. A host or a
disk arena is then owned by nobody, and a null pointer is installed in its place;
an arena of another adaptor is installed as if it were one's own. When the stream
has a state already, the arena is released by whoever holds it last, provided
that the cast has left somebody to hold it.
-/

namespace CuCascade.Memory

namespace AttachWorld

variable {I : Type} [DecidableEq I] {w w' : AttachWorld I} {i : I} {thread : Nat}
  {stream : Stream} {state : AttachedState I} {arena : Option (ArenaPtr I)}
  {p : ArenaPtr I}

/-- A device arena that the adaptor `i` has granted, and not a null pointer. -/
def Own (i : I) (arena : Option (ArenaPtr I)) : Prop :=
  ∃ a, arena = some ⟨.device i, a⟩

/-- Every state in the tracker of the adaptor has an arena of the adaptor. -/
def HoldsOwn (w : AttachWorld I) (i : I) : Prop :=
  ∀ state, w.Installed i state → Own i state.memoryReservation

/-- The limiters, with all arenas and all bytes. -/
def limiters (w : AttachWorld I) :
    (I → GpuResource) × (Nat → HostResource) × (Nat → DiskAccessLimiter) :=
  (w.adaptors, w.hostResources, w.diskLimiters)

/-- The arena of a reservation is the one that is now installed, or its
destructor has run: its bytes are back at the limiter that granted it. -/
def Settles (w w' : AttachWorld I) (i : I) (thread : Nat) (stream : Stream)
    (arena : Option (ArenaPtr I)) : Prop :=
  ∀ p ∈ arena,
    (∃ state ∈ w'.getTrackerState i thread stream, state.memoryReservation = some p) ∨
      w'.limiters = (w.destroyArena p).limiters

/-- A call that the stream, or the arena, is fit for. -/
def Attachable (w : AttachWorld I) (stats : Bool) (i : I) (thread : Nat)
    (stream : Stream) (reserved : Option (ArenaPtr I)) : Prop :=
  stats = true ∨
    if (w.getTrackerState i thread stream).isSome then
      ∀ p ∈ reserved, ∃ j, p.granter = .device j
    else Own i reserved

/-! ## Destructors -/

theorem getTrackerState_dropArena (arena : Option (ArenaPtr I)) :
    (w.dropArena arena).getTrackerState = w.getTrackerState := by
  cases arena with
  | none => rfl
  | some p =>
      rcases p with ⟨_ | _ | _, a⟩ <;> rfl

omit [DecidableEq I] in
theorem holdsOwn_congr (h : w'.getTrackerState = w.getTrackerState) :
    w'.HoldsOwn i ↔ w.HoldsOwn i := by
  simp only [HoldsOwn, Installed, h]

/-- A host or a disk arena that exists takes bytes back when it is destroyed. -/
theorem limiters_destroyArena_ne (hlive : w.Live p) (hp : ∀ j, p.granter ≠ .device j) :
    w.limiters ≠ (w.destroyArena p).limiters := by
  intro heq
  obtain ⟨granter, a⟩ := p
  cases granter with
  | device j => exact hp j rfl
  | host j =>
      obtain ⟨harena, hregistered⟩ := hlive
      obtain ⟨arena, harena'⟩ := AList.exists_lookup harena
      obtain ⟨tracker, htracker⟩ := AList.exists_lookup hregistered
      have hhost : w.hostResources j = ((w.hostResources j).destroyArena a).1 := by
        have h := congrFun (congrArg (fun l => l.2.1) heq) j
        simpa only [limiters, destroyArena, Function.update_self] using h
      have hgone : a ∉ ((w.hostResources j).destroyArena a).1.arenas := by
        simp only [HostResource.destroyArena, harena', htracker]
        exact fun h => (AList.mem_erase.mp h).1 rfl
      rw [← hhost] at hgone
      exact hgone harena
  | disk k =>
      obtain ⟨arena, harena⟩ := AList.exists_lookup hlive
      have hdisk : w.diskLimiters k = ((w.diskLimiters k).destroyArena a).1 := by
        have h := congrFun (congrArg (fun l => l.2.2) heq) k
        simpa only [limiters, destroyArena, Function.update_self] using h
      have hgone : a ∉ ((w.diskLimiters k).destroyArena a).1.arenas := by
        simp only [DiskAccessLimiter.destroyArena, harena]
        exact fun h => (AList.mem_erase.mp h).1 rfl
      rw [← hdisk] at hgone
      exact hgone hlive

/-! ## The cast -/

omit [DecidableEq I] in
theorem castToDevice_of_device (h : ∀ p ∈ arena, ∃ j, p.granter = .device j) :
    castToDevice arena = arena := by
  cases arena with
  | none => rfl
  | some p =>
      obtain ⟨j, hj⟩ := h p rfl
      simp only [castToDevice, Option.filter_some, hj, if_true]

omit [DecidableEq I] in
theorem castToDevice_of_not_device (h : ∀ j, p.granter ≠ .device j) :
    castToDevice (some p) = none := by
  obtain ⟨granter, a⟩ := p
  cases granter with
  | device j => exact absurd rfl (h j)
  | host j => rfl
  | disk k => rfl

omit [DecidableEq I] in
theorem own_castToDevice : Own i (castToDevice arena) ↔ Own i arena := by
  cases arena with
  | none => rfl
  | some p =>
      obtain ⟨granter, a⟩ := p
      cases granter with
      | device j => rfl
      | host j => exact iff_of_false (fun ⟨_, h⟩ => by cases h) fun ⟨_, h⟩ => by cases h
      | disk k => exact iff_of_false (fun ⟨_, h⟩ => by cases h) fun ⟨_, h⟩ => by cases h

/-! ## The tracker -/

theorem assign_of_tracked (h : (w.getTrackerState i thread stream).isSome)
    (state : AttachedState I) :
    ∃ e, w.assignReservationToTracker i thread stream state =
      (w.dropArena state.memoryReservation, .error (.thrown e)) := by
  obtain ⟨old, hold⟩ := Option.isSome_iff_exists.mp h
  rw [getTrackerState] at hold
  cases hscope : w.scope i with
  | PER_STREAM =>
      rw [hscope] at hold
      simp only [assignReservationToTracker, hscope, hold]
      exact ⟨_, rfl⟩
  | PER_THREAD =>
      rw [hscope] at hold
      simp only [assignReservationToTracker, hscope, hold]
      exact ⟨_, rfl⟩

/-- The state goes where none was, and the others stay. -/
theorem assign_of_free (h : w.getTrackerState i thread stream = none)
    (state : AttachedState I) :
    ∃ w', w.assignReservationToTracker i thread stream state = (w', .ok ()) ∧
      w'.limiters = w.limiters ∧ w'.getTrackerState i thread stream = some state ∧
      ∀ other, w'.Installed i other ↔ other = state ∨ w.Installed i other := by
  rw [getTrackerState] at h
  cases hscope : w.scope i with
  | PER_STREAM =>
      rw [hscope] at h
      simp only [assignReservationToTracker, hscope, h]
      refine ⟨_, rfl, rfl, ?_, fun other => ?_⟩
      · simp only [getTrackerState, hscope, Function.update_self, AList.lookup_insert]
      · simp only [Installed, getTrackerState, hscope, Function.update_self, exists_const]
        exact AList.exists_lookup_insert_iff h
  | PER_THREAD =>
      rw [hscope] at h
      simp only [assignReservationToTracker, hscope, h]
      refine ⟨_, rfl, rfl, ?_, fun other => ?_⟩
      · simp only [getTrackerState, hscope, AList.lookup_insert]
      · simp only [Installed, getTrackerState, hscope, exists_const]
        exact AList.exists_lookup_insert_iff h

/-! ## The call -/

/-- The adaptor as it is alone, when it tracks by streams and its states have
arenas. -/
def view (w : AttachWorld I) (i : I) : GpuResource :=
  { w.adaptors i with
    streamStatsMap := (w.streamStatsMap i).mapVal fun _ state =>
      ⟨(state.memoryReservation.map (·.address)).getD 0, state.reservationPolicy,
        state.oomPolicy⟩ }

section Call

variable (reserved : Option (ArenaPtr I)) (policy : Option ReservationLimitPolicy)
  (oomPolicy : Option OomHandlingPolicy)

/-- What the call offers to the tracker. -/
def offered : AttachedState I where
  memoryReservation := castToDevice reserved
  reservationPolicy := some (policy.getD makeDefaultReservationLimitPolicy)
  oomPolicy := oomPolicy.getD makeDefaultOomPolicy

/-- A call that finds a state returns false and destroys its reservation. -/
theorem attach_of_found :
    w.attachReservationToTracker true i thread stream reserved policy oomPolicy =
      (w.dropArena reserved, .ok false) :=
  if_pos rfl

/-- A call that another thread has come before throws. -/
theorem attach_of_overtaken (h : (w.getTrackerState i thread stream).isSome) :
    ∃ e, w.attachReservationToTracker false i thread stream reserved policy oomPolicy =
      (w.dropArena (castToDevice reserved), .error (.thrown e)) := by
  obtain ⟨e, he⟩ := assign_of_tracked h (offered reserved policy oomPolicy)
  refine ⟨e, ?_⟩
  rw [offered] at he
  simp only [attachReservationToTracker, he, Bool.false_eq_true, if_false]

theorem attach_of_free (h : w.getTrackerState i thread stream = none) :
    ∃ w', w.attachReservationToTracker false i thread stream reserved policy oomPolicy =
        (w', .ok true) ∧
      w'.limiters = w.limiters ∧
      w'.getTrackerState i thread stream = some (offered reserved policy oomPolicy) ∧
      ∀ other, w'.Installed i other ↔
        other = offered reserved policy oomPolicy ∨ w.Installed i other := by
  obtain ⟨w', hassign, hlimiters, hstate, hinstalled⟩ :=
    assign_of_free h (offered reserved policy oomPolicy)
  refine ⟨w', ?_, hlimiters, hstate, hinstalled⟩
  rw [offered] at hassign
  simp only [attachReservationToTracker, hassign, Bool.false_eq_true, if_false]

theorem settles_dropArena :
    w.Settles (w.dropArena reserved) i thread stream reserved := by
  intro p hp
  cases hp
  exact .inr rfl

/-- An exception leaks what the cast has turned into a null pointer. -/
theorem settles_cast_iff (hown : w.HoldsOwn i) (hlive : ∀ p ∈ reserved, w.Live p) :
    w.Settles (w.dropArena (castToDevice reserved)) i thread stream reserved ↔
      ∀ p ∈ reserved, ∃ j, p.granter = .device j := by
  constructor
  · intro h p hp
    by_contra hnot
    have hp' : ∀ j, p.granter ≠ .device j := fun j hj => hnot ⟨j, hj⟩
    cases hp
    rw [castToDevice_of_not_device hp'] at h
    rcases h p rfl with ⟨state, hstate, hmem⟩ | hlimiters
    · obtain ⟨a, ha⟩ := hown state ⟨thread, stream, hstate⟩
      rw [hmem] at ha
      cases ha
      exact hp' i rfl
    · exact limiters_destroyArena_ne (hlive p rfl) hp' hlimiters
  · intro h
    rw [castToDevice_of_device h]
    exact settles_dropArena reserved

/-- For an arena of the adaptor the call does what it does to an adaptor that is
alone. -/
theorem view_attach (hscope : w.scope i = .PER_STREAM) (a : Addr) :
    let out := w.attachReservationToTracker (w.getTrackerState i thread stream).isSome i
      thread stream (some ⟨.device i, a⟩) policy oomPolicy
    let alone := (w.view i).attachReservationToTracker stream a policy oomPolicy
    out.1.view i = alone.2 ∧ out.2 = .ok alone.1 := by
  have hlookup : (w.view i).streamStatsMap.lookup stream =
      ((w.streamStatsMap i).lookup stream).map fun state =>
        ⟨(state.memoryReservation.map (·.address)).getD 0, state.reservationPolicy,
          state.oomPolicy⟩ := AList.lookup_mapVal
  rw [getTrackerState, hscope]
  simp only [GpuResource.attachReservationToTracker, hlookup]
  cases hstate : (w.streamStatsMap i).lookup stream with
  | some state =>
      refine ⟨?_, rfl⟩
      simp only [attachReservationToTracker, Option.isSome_some, if_true, dropArena,
        destroyArena, view, Function.update_self, GpuResource.destroyArena,
        Option.map_some]
      cases (w.adaptors i).arenas.lookup a <;> rfl
  | none =>
      simp only [attachReservationToTracker, assignReservationToTracker, hscope, hstate,
        Option.isSome_none, Bool.false_eq_true, if_false, Option.map_none]
      refine ⟨?_, trivial⟩
      simp only [view, Function.update_self, AList.mapVal_insert]
      rfl

end Call

/-- Attaching is all or nothing exactly when the stream has a state, or the
reservation a device arena of this very adaptor. A call that throws, because
another thread has attached in between, needs a device arena or none. -/
theorem attach_allOrNothing_iff (w : AttachWorld I) (stats : Bool) (i : I)
    (thread : Nat) (stream : Stream) (reserved : Option (ArenaPtr I))
    (policy : Option ReservationLimitPolicy) (oomPolicy : Option OomHandlingPolicy)
    (hlive : ∀ p ∈ reserved, w.Live p) :
    let out := w.attachReservationToTracker stats i thread stream reserved policy oomPolicy
    out.1.HoldsOwn i ∧ w.Settles out.1 i thread stream reserved ↔
      w.HoldsOwn i ∧ w.Attachable stats i thread stream reserved := by
  intro out
  cases stats with
  | true =>
      have hout : out = (w.dropArena reserved, .ok false) :=
        attach_of_found reserved policy oomPolicy
      rw [hout, holdsOwn_congr (getTrackerState_dropArena reserved)]
      exact and_congr_right fun _ =>
        iff_of_true (settles_dropArena reserved) (.inl rfl)
  | false =>
      rcases hstate : w.getTrackerState i thread stream with _ | state
      · obtain ⟨w', hout, hlimiters, hnew, hinstalled⟩ :=
          attach_of_free reserved policy oomPolicy hstate
        have hout : out = (w', .ok true) := hout
        rw [hout]
        constructor
        · rintro ⟨hown, -⟩
          have hcast : Own i (castToDevice reserved) := hown _ ⟨thread, stream, hnew⟩
          refine ⟨fun other hother => hown other ((hinstalled other).mpr (.inr hother)),
            .inr ?_⟩
          rw [hstate]
          exact own_castToDevice.mp hcast
        · rintro ⟨hown, hfit⟩
          have hreserved : Own i reserved := by
            have hfit := hfit.resolve_left Bool.false_ne_true
            rwa [hstate] at hfit
          constructor
          · intro other hother
            rcases (hinstalled other).mp hother with rfl | hother
            · exact own_castToDevice.mpr hreserved
            · exact hown other hother
          · obtain ⟨a, rfl⟩ := hreserved
            intro p hp
            cases hp
            exact .inl ⟨_, hnew, rfl⟩
      · have hsome : (w.getTrackerState i thread stream).isSome := by rw [hstate]; rfl
        obtain ⟨e, hout⟩ := attach_of_overtaken reserved policy oomPolicy hsome
        have hout : out = (w.dropArena (castToDevice reserved), .error (.thrown e)) := hout
        rw [hout, holdsOwn_congr (getTrackerState_dropArena _)]
        refine and_congr_right fun hown => ?_
        rw [settles_cast_iff reserved hown hlive, Attachable, if_pos hsome]
        exact ⟨.inr, fun h => h.resolve_left Bool.false_ne_true⟩

/-- Two adaptors and the other tiers, no stream with a state. The adaptors have
granted an arena of 100 bytes, and the host one of 64. -/
def unattached : AttachWorld Nat where
  adaptors _ := ((GpuResource.fresh 1000 1000).reserve 5 100 none).2
  hostResources _ := ((HostResource.create 1000 1000 16 4 []).reserve 7 64 none).2
  diskLimiters _ := .fresh 1000
  scope _ := .PER_STREAM
  streamStatsMap _ := ∅
  threadReservationState := ∅

theorem attach_allOrNothing_ownArena :
    let out := unattached.attachReservationToTracker false 0 0 1 (some ⟨.device 0, 5⟩)
      none none
    out.1.HoldsOwn 0 ∧ unattached.Settles out.1 0 0 1 (some ⟨.device 0, 5⟩) := by
  refine (attach_allOrNothing_iff unattached false 0 0 1 _ none none ?_).mpr ⟨?_, ?_⟩
  · intro p hp
    cases hp
    show (5 : Addr) ∈ ((GpuResource.fresh 1000 1000).reserve 5 100 none).2.arenas
    decide
  · rintro state ⟨thread, stream, hstate⟩
    cases hstate
  · exact .inr ⟨5, rfl⟩

/-- A host reservation attached to a device adaptor. The call returns true, the
stream has a null arena, and the host goes on charging 64 bytes for an arena that
nobody owns any more. -/
theorem host_arena_leaked :
    let out := unattached.attachReservationToTracker false 0 0 1 (some ⟨.host 0, 7⟩)
      none none
    out.2 = .ok true ∧
    (out.1.getTrackerState 0 0 1).map (·.memoryReservation) = some none ∧
    (out.1.hostResources 0).allocatedBytes = 64 ∧
    7 ∈ (out.1.hostResources 0).arenas ∧
    ¬ (out.1.HoldsOwn 0 ∧ unattached.Settles out.1 0 0 1 (some ⟨.host 0, 7⟩)) := by
  refine ⟨rfl, rfl, by decide, by decide, fun h => ?_⟩
  obtain ⟨a, ha⟩ := h.1 (offered (some ⟨.host 0, 7⟩) none none) ⟨0, 1, rfl⟩
  cases ha

end AttachWorld

end CuCascade.Memory

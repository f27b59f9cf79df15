import CuCascade.Memory.ThreadWorld

/-!
# Adaptors do not notice each other

A call on an adaptor works on the tracker state that it finds. With the
per-stream scope this is the adaptor's own. With the per-thread scope it is
whatever the thread has attached last, and the adaptor takes it for its own. As
long as it is, or there is none, the call works on the one adaptor alone.
-/

namespace CuCascade.Memory

namespace ThreadWorld

variable {I : Type} [DecidableEq I] {w t : ThreadWorld I} {i j a : I}

/-- A call with the per-thread scope does not find the state of another
adaptor. -/
def Guarded (w : ThreadWorld I) (op : I × ThreadCall) : Prop :=
  w.scope op.1 = .PER_THREAD → ∀ s ∈ w.threadReservationState, s.1 = op.1

instance (w : ThreadWorld I) (op : I × ThreadCall) : Decidable (w.Guarded op) :=
  inferInstanceAs (Decidable (_ → ∀ s ∈ w.threadReservationState, _))

/-- A call changes the adaptor that it is made on and no other. -/
def Frames (w : ThreadWorld I) (op : I × ThreadCall) : Prop :=
  ∀ j, j ≠ op.1 → (w.perform op).1.adaptors j = w.adaptors j

/-- What the thread has attached, if it is of the adaptor `a`. -/
def attachedTo (w : ThreadWorld I) (a : I) : Option (I × StreamOrderedTrackerState) :=
  w.threadReservationState.filter (·.1 = a)

/-- To the adaptor `a` the two worlds are the same. -/
structure Alike (a : I) (w t : ThreadWorld I) : Prop where
  scope : t.scope a = w.scope a
  adaptor : t.adaptors a = w.adaptors a
  state : w.scope a = .PER_THREAD → t.threadReservationState = w.attachedTo a

@[simp] theorem put_adaptors_self {r : GpuResource} : (w.put i r).adaptors i = r :=
  Function.update_self ..

theorem put_adaptors_ne {r : GpuResource} (h : j ≠ i) :
    (w.put i r).adaptors j = w.adaptors j :=
  Function.update_of_ne h ..

@[simp] theorem put_put {r r' : GpuResource} : (w.put i r).put i r' = w.put i r' := by
  simp only [put, Function.update_idem]

theorem put_self : w.put i (w.adaptors i) = w := by
  simp only [put, Function.update_eq_self]

omit [DecidableEq I] in
/-- A guarded call finds no state or one of its own adaptor. -/
theorem getTrackerState_fst {stream : Stream} {state : StreamOrderedTrackerState}
    {call : ThreadCall} (hguard : w.Guarded (i, call))
    (h : w.getTrackerState i stream = some (j, state)) : j = i := by
  unfold getTrackerState at h
  cases hscope : w.scope i with
  | PER_STREAM =>
      rw [hscope] at h
      obtain ⟨s, -, hs⟩ := Option.map_eq_some_iff.mp h
      exact (Prod.mk.inj hs).1.symm
  | PER_THREAD =>
      rw [hscope] at h
      exact hguard hscope _ h

theorem attachedTo_of_forall (h : ∀ s ∈ w.threadReservationState, s.1 = i) :
    w.attachedTo i = w.threadReservationState := by
  unfold attachedTo
  cases hstate : w.threadReservationState with
  | none => rfl
  | some s => rw [Option.filter_some, if_pos (decide_eq_true (h s hstate))]

theorem attachedTo_of_ne (hne : i ≠ a) (h : ∀ s ∈ w.threadReservationState, s.1 = i) :
    w.attachedTo a = none := by
  unfold attachedTo
  cases hstate : w.threadReservationState with
  | none => rfl
  | some s =>
      rw [Option.filter_some, if_neg]
      rw [decide_eq_true_eq, h s hstate]
      exact hne

/-- Where the thread's state is the adaptor's, both worlds have it. -/
theorem Alike.shared (h : Alike i w t) {call : ThreadCall}
    (hguard : w.Guarded (i, call)) (hscope : w.scope i = .PER_THREAD) :
    t.threadReservationState = w.threadReservationState :=
  (h.state hscope).trans (attachedTo_of_forall (hguard hscope))

/-- A guarded call finds the same in both worlds. -/
theorem Alike.getTrackerState (h : Alike i w t) {call : ThreadCall}
    (hguard : w.Guarded (i, call)) (stream : Stream) :
    t.getTrackerState i stream = w.getTrackerState i stream := by
  unfold ThreadWorld.getTrackerState
  rw [h.scope, h.adaptor]
  cases hscope : w.scope i with
  | PER_STREAM => rfl
  | PER_THREAD => exact h.shared hguard hscope

/-! ## The per-stream scope

An adaptor with this scope is a `GpuResource` by itself. -/

section PerStream

variable {stream : Stream}

omit [DecidableEq I] in
theorem getTrackerState_perStream (h : w.scope i = .PER_STREAM) :
    w.getTrackerState i stream =
      ((w.adaptors i).streamStatsMap.lookup stream).map (i, ·) := by
  rw [getTrackerState, h]

theorem attach_perStream (h : w.scope i = .PER_STREAM) (reserved : Addr)
    (policy : Option ReservationLimitPolicy) (oomPolicy : Option OomHandlingPolicy) :
    w.attachReservationToTracker i stream reserved policy oomPolicy =
      let (done, r) := (w.adaptors i).attachReservationToTracker stream reserved policy
        oomPolicy
      (done, w.put i r) := by
  simp only [attachReservationToTracker, getTrackerState_perStream h,
    assignReservationToTracker, h, GpuResource.attachReservationToTracker]
  cases (w.adaptors i).streamStatsMap.lookup stream with
  | none => rfl
  | some state => rfl

theorem doAllocate_perStream (h : w.scope i = .PER_STREAM) (bytes : UInt64)
    (upstream : UpstreamResult) :
    w.doAllocate i bytes stream upstream =
      let (r, ptr) := (w.adaptors i).doAllocate bytes stream upstream
      (w.put i r, ptr) := by
  simp only [doAllocate, getTrackerState_perStream h, GpuResource.doAllocate]
  cases (w.adaptors i).streamStatsMap.lookup stream with
  | none => rfl
  | some state =>
      simp only [Option.map_some, put_adaptors_self, put_put, Adaptor.doAllocateTracked]
      cases (w.adaptors i).arenas.lookup state.memoryReservation with
      | none => exact congrArg (·, _) put_self.symm
      | some arena =>
          simp only
          generalize (w.adaptors i).mr.checkReservationAndHandleOverflow arena
            state.reservationPolicy (round256 bytes) = checked
          obtain ⟨⟨mr, arena⟩, result⟩ := checked
          cases result with
          | error e => rfl
          | ok trackingSize =>
              simp only
              generalize mr.doAllocateUnmanaged bytes trackingSize upstream = allocated
              obtain ⟨mr, result⟩ := allocated
              cases result with
              | ok ptr => rfl
              | error e =>
                  simp only
                  generalize mr.handleOom state.oomPolicy e = handled
                  obtain ⟨mr, result⟩ := handled
                  cases result with
                  | ok ptr => rfl
                  | error e => simp only [AList.insert_insert]

theorem doDeallocate_perStream (h : w.scope i = .PER_STREAM) (bytes : UInt64) :
    w.doDeallocate i bytes stream =
      let (r, result) := (w.adaptors i).doDeallocate bytes stream
      (w.put i r, result) := by
  simp only [doDeallocate, getTrackerState_perStream h, GpuResource.doDeallocate]
  cases (w.adaptors i).streamStatsMap.lookup stream with
  | none => rfl
  | some state =>
      simp only [Option.map_some, put_adaptors_self, put_put, Adaptor.doDeallocateTracked]
      cases (w.adaptors i).arenas.lookup state.memoryReservation with
      | none => exact congrArg (·, _) put_self.symm
      | some arena => rfl

end PerStream

/-! ## A guarded call -/

/-- `t` with what the adaptor `i` has come to in `w`. -/
def follow (t w : ThreadWorld I) (i : I) : ThreadWorld I :=
  { t.put i (w.adaptors i) with
    threadReservationState :=
      match t.scope i with
      | .PER_STREAM => t.threadReservationState
      | .PER_THREAD => w.threadReservationState }

section Own

variable {call : ThreadCall}

theorem follow_put (h : Alike i w t) (hguard : w.Guarded (i, call)) (r : GpuResource) :
    t.put i r = t.follow (w.put i r) i := by
  unfold follow
  rw [put_adaptors_self, h.scope]
  cases hscope : w.scope i with
  | PER_STREAM => rfl
  | PER_THREAD =>
      have hshared := h.shared hguard hscope
      simp only [put, hshared]

theorem follow_self (h : Alike i w t) (hguard : w.Guarded (i, call)) :
    t = t.follow w i := by
  have hput := follow_put h hguard (w.adaptors i)
  rw [put_self] at hput
  rw [← hput, ← h.adaptor, put_self]

theorem attach_local (h : Alike i w t) (hguard : w.Guarded (i, call))
    (stream : Stream) (reserved : Addr) (policy : Option ReservationLimitPolicy)
    (oomPolicy : Option OomHandlingPolicy) :
    t.attachReservationToTracker i stream reserved policy oomPolicy =
      ((w.attachReservationToTracker i stream reserved policy oomPolicy).1,
        t.follow (w.attachReservationToTracker i stream reserved policy oomPolicy).2
          i) := by
  unfold attachReservationToTracker
  rw [h.getTrackerState hguard]
  cases w.getTrackerState i stream with
  | some _ =>
      simp only [h.adaptor]
      rw [← follow_put h hguard]
  | none =>
      simp only [assignReservationToTracker, h.scope]
      cases hscope : w.scope i with
      | PER_STREAM =>
          simp only [h.adaptor]
          rw [← follow_put h hguard]
      | PER_THREAD =>
          simp only [follow, h.scope, hscope, ← h.adaptor, put_self]

theorem doAllocate_local (h : Alike i w t) (hguard : w.Guarded (i, call))
    (bytes : UInt64) (stream : Stream) (upstream : UpstreamResult) :
    t.doAllocate i bytes stream upstream =
      (t.follow (w.doAllocate i bytes stream upstream).1 i,
        (w.doAllocate i bytes stream upstream).2) := by
  unfold doAllocate
  rw [h.getTrackerState hguard]
  cases hfound : w.getTrackerState i stream with
  | none =>
      simp only [h.adaptor]
      rw [← follow_put h hguard]
  | some found =>
      obtain ⟨j, state⟩ := found
      obtain rfl := getTrackerState_fst hguard hfound
      simp only [h.adaptor, put_adaptors_self, put_put]
      cases (w.adaptors j).arenas.lookup state.memoryReservation with
      | none => exact congrArg (·, _) (follow_self h hguard)
      | some arena =>
          simp only
          generalize (w.adaptors j).mr.checkReservationAndHandleOverflow arena
            state.reservationPolicy (round256 bytes) = checked
          obtain ⟨⟨mr, arena⟩, result⟩ := checked
          cases result with
          | error e => exact congrArg (·, _) (follow_put h hguard _)
          | ok trackingSize =>
              simp only
              generalize mr.doAllocateUnmanaged bytes trackingSize upstream = allocated
              obtain ⟨mr, result⟩ := allocated
              cases result with
              | ok ptr => exact congrArg (·, _) (follow_put h hguard _)
              | error e =>
                  simp only
                  generalize mr.handleOom state.oomPolicy e = handled
                  obtain ⟨mr, result⟩ := handled
                  cases result with
                  | ok ptr => exact congrArg (·, _) (follow_put h hguard _)
                  | error e => exact congrArg (·, _) (follow_put h hguard _)

theorem doDeallocate_local (h : Alike i w t) (hguard : w.Guarded (i, call))
    (bytes : UInt64) (stream : Stream) :
    t.doDeallocate i bytes stream =
      (t.follow (w.doDeallocate i bytes stream).1 i,
        (w.doDeallocate i bytes stream).2) := by
  unfold doDeallocate
  rw [h.getTrackerState hguard]
  cases hfound : w.getTrackerState i stream with
  | none =>
      simp only [h.adaptor]
      rw [← follow_put h hguard]
  | some found =>
      obtain ⟨j, state⟩ := found
      obtain rfl := getTrackerState_fst hguard hfound
      simp only [h.adaptor, put_adaptors_self, put_put]
      cases (w.adaptors j).arenas.lookup state.memoryReservation with
      | none => exact congrArg (·, _) (follow_self h hguard)
      | some arena => exact congrArg (·, _) (follow_put h hguard _)

theorem getAvailableMemory_local (h : Alike i w t) (hguard : w.Guarded (i, call))
    (stream : Stream) :
    t.getAvailableMemory i stream = w.getAvailableMemory i stream := by
  unfold getAvailableMemory
  rw [h.getTrackerState hguard, h.adaptor]
  cases hfound : w.getTrackerState i stream with
  | none => rfl
  | some found =>
      obtain ⟨j, state⟩ := found
      obtain rfl := getTrackerState_fst hguard hfound
      simp only [h.adaptor]

theorem resetStreamReservation_local (h : Alike i w t) (hguard : w.Guarded (i, call))
    (stream : Stream) :
    t.resetStreamReservation i stream =
      t.follow (w.resetStreamReservation i stream) i := by
  unfold resetStreamReservation
  rw [h.scope]
  cases hscope : w.scope i with
  | PER_STREAM =>
      simp only [h.adaptor]
      exact follow_put h hguard _
  | PER_THREAD =>
      simp only [h.shared hguard hscope]
      cases hstate : w.threadReservationState with
      | none => exact follow_self h hguard
      | some found =>
          obtain ⟨j, state⟩ := found
          obtain rfl : j = i := hguard hscope (j, state) hstate
          simp only [follow, h.scope, hscope, h.adaptor, put_adaptors_self]

/-- What a guarded call does to the adaptor, and what it answers, is the same
in every world that is alike to the adaptor. -/
theorem perform_local (h : Alike i w t) (hguard : w.Guarded (i, call)) :
    t.perform (i, call) =
      (t.follow (w.perform (i, call)).1 i, (w.perform (i, call)).2) := by
  cases call with
  | reserve self bytes =>
      simp only [perform, h.adaptor]
      rw [← follow_put h hguard]
  | attach stream reserved policy oomPolicy =>
      simp only [perform, attach_local h hguard]
  | allocate bytes stream upstream => simp only [perform, doAllocate_local h hguard]
  | deallocate bytes stream => simp only [perform, doDeallocate_local h hguard]
  | getAvailableMemory stream =>
      simp only [perform, getAvailableMemory_local h hguard, ← follow_self h hguard]
  | resetStreamReservation stream =>
      simp only [perform, resetStreamReservation_local h hguard]

theorem doAllocate_state (bytes : UInt64) (stream : Stream) (upstream : UpstreamResult) :
    (w.doAllocate i bytes stream upstream).1.threadReservationState =
      w.threadReservationState := by
  unfold doAllocate
  split
  · rfl
  · split
    · rfl
    · simp only
      split
      · rfl
      · split
        · rfl
        · split
          · rfl
          · rfl

theorem doDeallocate_state (bytes : UInt64) (stream : Stream) :
    (w.doDeallocate i bytes stream).1.threadReservationState =
      w.threadReservationState := by
  unfold doDeallocate
  split
  · rfl
  · split
    · rfl
    · rfl

/-- What a guarded call leaves attached to the thread is of its own adaptor. -/
theorem perform_state (hguard : w.Guarded (i, call)) (hscope : w.scope i = .PER_THREAD) :
    ∀ s ∈ (w.perform (i, call)).1.threadReservationState, s.1 = i := by
  have hown := hguard hscope
  cases call with
  | reserve self bytes => exact hown
  | attach stream reserved policy oomPolicy =>
      simp only [perform, attachReservationToTracker]
      split
      · exact hown
      · simp only [assignReservationToTracker, hscope]
        rintro _ ⟨⟩
        rfl
  | allocate bytes stream upstream =>
      simp only [perform, doAllocate_state]
      exact hown
  | deallocate bytes stream =>
      simp only [perform, doDeallocate_state]
      exact hown
  | getAvailableMemory stream => exact hown
  | resetStreamReservation stream =>
      simp only [perform, resetStreamReservation, hscope]
      split
      · next hnone => rw [hnone]; exact nofun
      · exact nofun

end Own

section Follow

variable {w' : ThreadWorld I}

theorem follow_adaptors_ne (hne : a ≠ i) : (t.follow w' i).adaptors a = t.adaptors a :=
  put_adaptors_ne hne

/-- To the adaptor itself, following is being alike. -/
theorem Alike.follow (h : Alike i w t) (hscope : w'.scope i = w.scope i)
    (hown : w.scope i = .PER_THREAD → ∀ s ∈ w'.threadReservationState, s.1 = i) :
    Alike i w' (t.follow w' i) := by
  refine ⟨h.scope.trans hscope.symm, put_adaptors_self, fun hthread => ?_⟩
  rw [hscope] at hthread
  rw [attachedTo_of_forall (hown hthread)]
  simp only [ThreadWorld.follow, h.scope, hthread]

/-- To the others nothing has happened. -/
theorem Alike.other (h : Alike a w t) (hne : i ≠ a) {call : ThreadCall}
    (hguard : w.Guarded (i, call))
    (hown : w.scope i = .PER_THREAD → ∀ s ∈ w'.threadReservationState, s.1 = i) :
    Alike a (w.follow w' i) t := by
  refine ⟨h.scope, ?_, fun hthread => ?_⟩
  · rw [follow_adaptors_ne (Ne.symm hne), h.adaptor]
  · rw [h.state hthread]
    cases hscope : w.scope i with
    | PER_STREAM => simp only [attachedTo, ThreadWorld.follow, hscope]
    | PER_THREAD =>
        rw [attachedTo_of_ne hne (hguard hscope)]
        symm
        refine attachedTo_of_ne hne ?_
        simp only [ThreadWorld.follow, hscope]
        exact hown hscope

end Follow

/-! ## A run -/

section Run

variable {op : I × ThreadCall}

omit [DecidableEq I] in
theorem alike_self [DecidableEq I] (h : w.scope i = .PER_THREAD →
    ∀ s ∈ w.threadReservationState, s.1 = i) : Alike i w w :=
  ⟨rfl, rfl, fun hscope => (attachedTo_of_forall (h hscope)).symm⟩

/-- A guarded call leaves all but its own adaptor as they were. -/
theorem perform_follow (hguard : w.Guarded op) :
    (w.perform op).1 = w.follow (w.perform op).1 op.1 :=
  congrArg Prod.fst (perform_local (alike_self hguard) hguard)

theorem perform_scope (hguard : w.Guarded op) : (w.perform op).1.scope = w.scope := by
  rw [perform_follow hguard]
  rfl

theorem frames_of_guarded (hguard : w.Guarded op) : w.Frames op := by
  intro j hne
  rw [perform_follow hguard, follow_adaptors_ne hne]

theorem alike_other (h : Alike a w t) (hguard : w.Guarded op) (hne : op.1 ≠ a) :
    Alike a (machine.next w op) t := by
  show Alike a (w.perform op).1 t
  rw [perform_follow hguard]
  exact h.other hne hguard (perform_state hguard)

theorem alike_own (h : Alike a w t) (hguard : w.Guarded op) (heq : op.1 = a) :
    Alike a (machine.next w op) (machine.next t op) ∧
      (w.perform op).2 = (t.perform op).2 := by
  subst heq
  have hlocal := perform_local h hguard
  refine ⟨?_, (congrArg Prod.snd hlocal).symm⟩
  show Alike op.1 (w.perform op).1 (t.perform op).1
  rw [hlocal]
  exact h.follow (congrFun (perform_scope hguard) op.1) (perform_state hguard)

end Run

/-- What the adaptors answer. -/
def answer (w : ThreadWorld I) (op : I × ThreadCall) : ThreadAnswer := (w.perform op).2

/-- The calls on one adaptor. -/
def callsOn (i : I) (op : I × ThreadCall) : Bool := op.1 = i

/-- Every call of a run changes only the adaptor it is made on, and each adaptor
answers its calls and ends up as if the calls on the others had not been made. -/
def Isolated (w : ThreadWorld I) (ops : List (I × ThreadCall)) : Prop :=
  machine.Every Frames w ops ∧ ∀ i,
    (machine.run w ops).adaptors i =
        (machine.run w (ops.filter (callsOn i))).adaptors i ∧
      machine.answers answer (callsOn i) w ops =
        machine.answers answer (callsOn i) w (ops.filter (callsOn i))

/-- One thread and any number of adaptors: they are isolated in every run in
which no call with the per-thread scope finds the state of another adaptor. -/
theorem isolated_of_guarded {ops : List (I × ThreadCall)} (hs : machine.start w)
    (hguard : machine.Every Guarded w ops) : Isolated w ops := by
  refine ⟨hguard.mono fun _ _ => frames_of_guarded, fun i => ?_⟩
  have hstart : Alike i w w := alike_self fun _ s hstate => by
    rw [show w.threadReservationState = none from hs] at hstate
    cases hstate
  obtain ⟨halike, hanswers⟩ := Machine.isolated_of_unwinding (M := machine)
    (R := Alike i) (C := Guarded)
    (fun w t op h hguard hno => alike_other h hguard (of_decide_eq_false hno))
    (fun w t op h hguard hyes => alike_own h hguard (of_decide_eq_true hyes))
    hstart hguard
  exact ⟨halike.adaptor.symm, hanswers⟩

/-- Three adaptors without reservations, the last one with the per-stream
scope. -/
def threeAdaptors : ThreadWorld (Fin 3) :=
  ⟨fun i => if i = 2 then .PER_STREAM else .PER_THREAD, fun _ => .fresh 4096 4096, none⟩

/-- The thread is done with one adaptor before it turns to the next with the
same scope; the per-stream one is used in between. -/
theorem isolated_threeAdaptors :
    Isolated threeAdaptors
      [(0, .reserve 0 1024), (0, .attach 5 0 none none), (2, .reserve 0 512),
        (2, .attach 5 0 none none), (0, .allocate 256 5 (.ok 77)),
        (2, .allocate 256 5 (.ok 78)), (0, .deallocate 256 5),
        (0, .resetStreamReservation 5), (1, .allocate 256 5 (.ok 79)),
        (2, .getAvailableMemory 5)] :=
  isolated_of_guarded rfl (by decide)

/-- The thread has a reservation of one adaptor attached when it allocates from
another. -/
theorem charged_to_the_attached :
    let ops : List (Fin 3 × ThreadCall) :=
      [(0, .reserve 0 1024), (0, .attach 5 0 none none), (1, .allocate 256 5 (.ok 77))]
    machine.start threeAdaptors ∧ machine.Lawful threeAdaptors ops ∧
      ¬Isolated threeAdaptors ops := by
  refine ⟨rfl, show machine.Every Proper _ _ by decide, fun h => ?_⟩
  have hsame := congrArg (·.arenas.lookup 0) (h.2 0).1
  exact absurd hsame (by decide)

end ThreadWorld

end CuCascade.Memory

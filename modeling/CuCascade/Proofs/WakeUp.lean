import CuCascade.Data.RepositoryWorld
import CuCascade.Proofs.BatchCounts

/-!
# Wake-ups that are lost

A thread that sleeps although it could be served, while nobody is about to
notify, has lost its wake-up. Three things can bring that about. The thread
goes to sleep on a batch that came to be eligible after its turn, since a
client needs no mutex of the repository to change the batch and to notify
before there is anyone to wake. Or a task is created, by a client or by a thread
that pops, on a batch that says `task_created` with a count of zero: that makes
the batch ready for transit without a notification. The proof is that there is
nothing else.
-/

namespace CuCascade.Data

open Memory

namespace DataBatch

/-- The transition that a thread asks for would succeed. -/
def eligible (b : DataBatch) : Option BatchState → Bool
  | none => false
  | some targetState =>
      match (DataRepository.tryTransitionBatchForPop b targetState).result with
      | .ok able => able
      | .error _ => false

/-- `task_created` without a task. -/
def Uncounted (b : DataBatch) : Prop :=
  b.state = .taskCreated ∧ b.taskCreatedCount = 0 ∧ b.processingCount = 0

instance (b : DataBatch) : Decidable b.Uncounted :=
  inferInstanceAs (Decidable (_ ∧ _ ∧ _))

end DataBatch

/-- The call would be content with this batch. -/
def Query.names (batch : DataBatch) : Query → Bool
  | .popDataBatch _ => true
  | .popDataBatchById batchId _ | .getDataBatchById batchId _ =>
      batch.batchId = batchId

namespace RepositoryWorld

/-- The batches of the partition that a thread would wait for: the one it
found, or all. -/
def awaited (w : RepositoryWorld) (p : Popper) (found : Option Addr) : List Addr :=
  match w.partition p with
  | none => []
  | some entries =>
      (entries.filterMap id).filter fun b => found = none ∨ found = some b

/-- A notification on the condition variable of the repository is still to
come. -/
def Owes (w : RepositoryWorld) : Prop :=
  w.repository.cv ∈ w.owed ∨
    ∃ e ∈ w.poppers.entries, e.2.pc.announces = some w.repository.cv

/-- No batch that a thread waits for could make the transition. -/
def Unserved (w : RepositoryWorld) (p : Popper) (found : Option Addr) : Prop :=
  ∀ b ∈ w.awaited p found, ∀ batch ∈ w.clients.batches.lookup b,
    batch.eligible p.query.targetState = false

/-- Nobody sleeps who could be served, unless a notification is to come. -/
def NoLostWakeUp (w : RepositoryWorld) : Prop :=
  w.Owes ∨ w.poppers.All fun _ p => ∀ found ∈ p.pc.sleeping, w.Unserved p found

/-- A task created on the batch at `b` now serves nobody who is asleep, or a
notification is to come. -/
def CreateIsSafe (w : RepositoryWorld) (b : Addr) : Prop :=
  w.Owes ∨ ∀ batch ∈ w.clients.batches.lookup b, batch.Uncounted →
    w.poppers.All fun _ p => ∀ found ∈ p.pc.sleeping,
      b ∈ w.awaited p found → p.query.targetState ≠ some .inTransit

/-- The entry that a thread looks at. -/
def entry (w : RepositoryWorld) (p : Popper) (i : Nat) : Option Addr :=
  ((w.partition p).bind (·[i]?)).join

/-- The next step of the popping thread `p` does not lose a wake-up. -/
def StepIsSafe (w : RepositoryWorld) (p : Popper) : Prop :=
  match p.pc with
  | .aboutToWait found => w.Owes ∨ w.Unserved p found
  | .scanning i =>
      p.query.targetState = some .taskCreated →
        ∀ b ∈ w.entry p i, ∀ batch ∈ w.clients.batches.lookup b,
          p.query.names batch → w.CreateIsSafe b
  | _ => True

/-- A thread goes to sleep only on batches that cannot serve it, and nobody
creates a task that readies a batch in silence. -/
def Safe (w : RepositoryWorld) : RepositoryOp → Prop
  | .client (.tryToCreateTask b) => w.CreateIsSafe b
  | .step t => ∀ p ∈ w.poppers.lookup t, w.StepIsSafe p
  | _ => True

section Decidable

variable (w : RepositoryWorld)

instance : Decidable w.Owes := inferInstanceAs (Decidable (_ ∨ _))

instance (p : Popper) (found : Option Addr) : Decidable (w.Unserved p found) :=
  inferInstanceAs (Decidable (∀ b ∈ w.awaited p found, _))

instance : Decidable w.NoLostWakeUp := inferInstanceAs (Decidable (_ ∨ _))

instance (b : Addr) : Decidable (w.CreateIsSafe b) :=
  inferInstanceAs (Decidable (_ ∨ _))

instance (p : Popper) : Decidable (w.StepIsSafe p) := by
  unfold StepIsSafe
  split <;> infer_instance

instance : (op : RepositoryOp) → Decidable (w.Safe op)
  | .client op => by
      cases op <;> unfold Safe <;> infer_instance
  | .step t => inferInstanceAs (Decidable (∀ p ∈ w.poppers.lookup t, _))
  | .deliver _ | .addDataBatch _ _ | .notifyStateChange | .start _ _ _
  | .spurious _ => isTrue trivial

instance decidableTurn (t : Nat) (p : Popper) : Decidable (match p.pc with
    | .entering | .woken => w.holder = none
    | .scanning _ | .leaving _ _ | .aboutToWait _ => w.holder = some t
    | .blocked _ | .done _ => False) :=
  match p.pc with
  | .entering | .woken => decEq w.holder none
  | .scanning _ | .leaving _ _ | .aboutToWait _ => decEq w.holder (some t)
  | .blocked _ | .done _ => instDecidableFalse

instance : (op : RepositoryOp) → Decidable (w.Proper op)
  | .client op => inferInstanceAs (Decidable (w.clients.Proper op))
  | .deliver cv => inferInstanceAs (Decidable (cv ∈ w.owed))
  | .addDataBatch b _ =>
      inferInstanceAs (Decidable (b ∈ w.clients.batches ∧ w.holder = none))
  | .notifyStateChange => isTrue trivial
  | .start t _ _ => inferInstanceAs (Decidable (t ∉ w.poppers))
  | .step t =>
      @Option.decidableExistsMem _ _ (decidableTurn w t) (w.poppers.lookup t)
  | .spurious t =>
      inferInstanceAs (Decidable (∃ p ∈ w.poppers.lookup t, p.pc.sleeping.isSome))

end Decidable

end RepositoryWorld

section Moves

variable {b b' : DataBatch} {e : Event} {loud : Bool} {target : Option BatchState}

theorem eligible_taskCreated :
    b.eligible (some .taskCreated) = true ↔ b.state ≠ .inTransit := by
  simp only [DataBatch.eligible, DataRepository.tryTransitionBatchForPop,
    DataRepository.tryTransition, DataBatch.tryToCreateTask]
  cases b.state <;> simp [DataBatch.changed, DataBatch.quiet]

theorem eligible_inTransit :
    b.eligible (some .inTransit) = true ↔ b.processingCount = 0 ∧
      (b.state = .idle ∨ b.state = .taskCreated ∧ 0 < b.taskCreatedCount) := by
  simp only [DataBatch.eligible, DataRepository.tryTransitionBatchForPop,
    DataRepository.tryTransition, DataBatch.tryToLockForInTransit]
  by_cases h : b.processingCount = 0 ∧
      (b.state = .idle ∨ b.state = .taskCreated ∧ 0 < b.taskCreatedCount)
  · rw [if_pos h]
    exact ⟨fun _ => h, fun _ => rfl⟩
  · rw [if_neg h]
    exact ⟨nofun, fun h' => absurd h' h⟩

/-- An edge that is not announced makes no batch eligible, except for the task
created on a batch without one. -/
theorem Move.eligible_of_quiet (h : Move b e false b')
    (hel : b'.eligible target = true) :
    b.eligible target = true ∨
      e = .created ∧ b.Uncounted ∧ target = some .inTransit := by
  rcases target with _ | _ | _ | _ | _
  · exact absurd hel nofun
  · exact absurd hel nofun
  · left
    rw [eligible_taskCreated] at hel ⊢
    cases h <;> exact hel
  · exact absurd hel nofun
  · rw [eligible_inTransit] at hel ⊢
    cases h with
    | createMore hs =>
        obtain ⟨hzero, hstate⟩ := hel
        rcases Nat.eq_zero_or_pos b.taskCreatedCount with hcount | hcount
        · rcases hs with hs | hs
          · exact .inr ⟨rfl, ⟨hs, hcount, hzero⟩, rfl⟩
          · simp only [hs, reduceCtorEq, false_and, or_self] at hstate
        · exact .inl ⟨hzero, hstate.imp_right fun h => ⟨h.1, hcount⟩⟩
    | cancel hs hpos hmore =>
        obtain ⟨hzero, hstate⟩ := hel
        exact .inl ⟨hzero, hstate.imp_right fun h => ⟨h.1, hpos⟩⟩
    | release hs hmore =>
        have hzero := hel.1
        simp only at hzero
        omega

theorem create_of_uncounted (h : b.Uncounted) :
    b.tryToCreateTask = DataBatch.quiet
        { b with taskCreatedCount := b.taskCreatedCount + 1 } (.ok true) ∧
      ({ b with taskCreatedCount := b.taskCreatedCount + 1 } : DataBatch).eligible
        (some .inTransit) = true := by
  constructor
  · simp only [DataBatch.tryToCreateTask, h.1]
  · rw [eligible_inTransit]
    exact ⟨h.2.2, .inr ⟨h.1, Nat.succ_pos _⟩⟩

end Moves

namespace RepositoryWorld

variable {w w' : RepositoryWorld} {p : Popper} {t : Nat} {found : Option Addr}

theorem mem_awaited {b : Addr} : b ∈ w.awaited p found ↔
    (∃ entries, w.partition p = some entries ∧ some b ∈ entries) ∧
      (found = none ∨ found = some b) := by
  unfold awaited
  cases w.partition p with
  | none => simp
  | some entries => simp [List.mem_filter]

/-- What every step keeps: the counts are right, and a batch that is stored
notifies this repository. -/
structure Coherent (w : RepositoryWorld) : Prop where
  counted : w.clients.Counted
  stored : ∀ (i : Nat) (entries : List (Option Addr)),
    w.repository.dataBatches[i]? = some entries → ∀ b, some b ∈ entries →
      ∃ batch, w.clients.batches.lookup b = some batch ∧
        batch.stateChangeCv = some w.repository.cv

theorem Coherent.cv_of_awaited (h : w.Coherent) {b : Addr}
    (hb : b ∈ w.awaited p found) {batch : DataBatch}
    (hlookup : w.clients.batches.lookup b = some batch) :
    batch.stateChangeCv = some w.repository.cv := by
  obtain ⟨⟨entries, hentries, hmem⟩, -⟩ := mem_awaited.mp hb
  obtain ⟨batch', hlookup', hcv⟩ := h.stored _ entries hentries b hmem
  rw [hlookup] at hlookup'
  cases hlookup'
  exact hcv

/-- A step after which nobody sleeps who did not before, on nothing that was
not awaited before, and after which what was to come still is. -/
structure Follows (w w' : RepositoryWorld) : Prop where
  sleepers : ∀ t p, w'.poppers.lookup t = some p → p.pc.sleeping.isSome →
    w.poppers.lookup t = some p
  awaited : ∀ p found b, b ∈ w'.awaited p found → b ∈ w.awaited p found
  owes : w.Owes → w'.Owes

theorem Follows.noLostWakeUp (h : Follows w w') (hw : w.NoLostWakeUp)
    (hbatches : ∀ b, w'.clients.batches.lookup b = w.clients.batches.lookup b) :
    w'.NoLostWakeUp := by
  rcases hw with howes | hall
  · exact .inl (h.owes howes)
  · right
    intro t p hp found hfound b hb batch hbatch
    have hp := h.sleepers t p hp (Option.isSome_iff_exists.mpr ⟨found, hfound⟩)
    rw [Option.mem_def, hbatches] at hbatch
    exact hall t p hp found hfound b (h.awaited p found b hb) batch hbatch

/-- Such a step may take a batch along an edge if it announces what is to be
announced and creates no task in silence. -/
theorem Follows.noLostWakeUp_of_move (h : Follows w w') (hw : w.NoLostWakeUp)
    (hco : w.Coherent) {b : Addr} {batch batch' : DataBatch} {e : Event}
    {loud : Bool} (hb : w.clients.batches.lookup b = some batch)
    (hmove : Move batch e loud batch')
    (hbatches : w'.clients.batches = w.clients.batches.insert b batch')
    (hloud : loud = true → batch.stateChangeCv = some w.repository.cv → w'.Owes)
    (hcreate : e = .created → w.CreateIsSafe b) : w'.NoLostWakeUp := by
  rcases hw with howes | hall
  · exact .inl (h.owes howes)
  · by_cases howes : w'.Owes
    · exact .inl howes
    · right
      intro t p hp found hfound c hc other hother
      have hp := h.sleepers t p hp (Option.isSome_iff_exists.mpr ⟨found, hfound⟩)
      have hc := h.awaited p found c hc
      rw [Option.mem_def, hbatches] at hother
      by_cases hcb : c = b
      · subst hcb
        rw [AList.lookup_insert] at hother
        cases hother
        cases loud with
        | true => exact absurd (hloud rfl (hco.cv_of_awaited hc hb)) howes
        | false =>
            have hserved := hall t p hp found hfound c hc batch hb
            by_contra hel
            rw [Bool.not_eq_false] at hel
            rcases hmove.eligible_of_quiet hel with hel | ⟨rfl, hun, htarget⟩
            · rw [hserved] at hel
              cases hel
            · rcases hcreate rfl with howes' | hsafe
              · exact howes (h.owes howes')
              · exact hsafe batch hb hun t p hp found hfound hc htarget
      · rw [AList.lookup_insert_ne hcb] at hother
        exact hall t p hp found hfound c hc other hother

end RepositoryWorld

/-! ## One turn of a loop -/

section Looking

open DataRepository

variable {batches : Table Addr DataBatch} {entries : List (Option Addr)} {i : Nat}
  {q : Query}

/-- What a turn of the loop does to the batches: nothing, and then it announces
nothing, or one edge of the batch at the entry, of the event asked for. -/
inductive Looked (batches batches' : Table Addr DataBatch)
    (entries : List (Option Addr)) (i : Nat) (q : Query) : Verdict → Prop where
  | same {verdict : Verdict}
      (hbatches : ∀ b, batches'.lookup b = batches.lookup b)
      (hquiet : ∀ cv, verdict ≠ .take (some cv)) :
      Looked batches batches' entries i q verdict
  | moved {b : Addr} {batch batch' : DataBatch} {e : Event} {loud : Bool}
      (hentry : entries[i]? = some (some b))
      (hb : batches.lookup b = some batch) (hnames : q.names batch = true)
      (htarget : e = .created ∧ q.targetState = some .taskCreated ∨
        e = .departed ∧ q.targetState = some .inTransit)
      (hmove : Move batch e loud batch')
      (hbatches : batches' = batches.insert b batch') :
      Looked batches batches' entries i q
        (.take (if loud then batch.stateChangeCv else none))

theorem tryTransition_performs (refusal : String) (b : DataBatch)
    (targetState : BatchState) :
    (∃ e, (e = .created ∧ targetState = .taskCreated ∨
        e = .departed ∧ targetState = .inTransit) ∧
      Performs b e true (tryTransition refusal b targetState)) ∨
    ∃ r, r ≠ .ok true ∧
      tryTransition refusal b targetState = DataBatch.quiet b r := by
  cases targetState with
  | idle => exact .inr ⟨.ok false, by simp, rfl⟩
  | taskCreated => exact .inl ⟨_, .inl ⟨rfl, rfl⟩, tryToCreateTask_performs⟩
  | processing => exact .inr ⟨.error _, nofun, rfl⟩
  | inTransit => exact .inl ⟨_, .inr ⟨rfl, rfl⟩, tryToLockForInTransit_performs⟩

/-- A turn whose batch does not make the transition. -/
theorem attempt_refused {b : Addr} {batch : DataBatch}
    {transition : DataBatch → Outcome Bool} {otherwise : Verdict}
    (hb : batches.lookup b = some batch) (hsame : (transition batch).batch = batch)
    (hno : (transition batch).result ≠ .ok true)
    (hquiet : ∀ cv, otherwise ≠ .take (some cv)) :
    Looked batches (attempt batches b transition otherwise).1 entries i q
      (attempt batches b transition otherwise).2 := by
  simp only [attempt, hb]
  apply Looked.same
  · intro c
    by_cases hc : c = b
    · rw [hc, AList.lookup_insert, hsame, hb]
    · rw [AList.lookup_insert_ne hc]
  · intro cv
    cases hr : (transition batch).result with
    | error e => exact nofun
    | ok able =>
        cases able with
        | false => exact hquiet cv
        | true => exact absurd hr hno

theorem attempt_looked {b : Addr} {batch : DataBatch} {refusal : String}
    {targetState : BatchState} {otherwise : Verdict}
    (hentry : entries[i]? = some (some b)) (hb : batches.lookup b = some batch)
    (hnames : q.names batch = true) (htarget : q.targetState = some targetState)
    (hquiet : ∀ cv, otherwise ≠ .take (some cv)) :
    Looked batches
      (attempt batches b (tryTransition refusal · targetState) otherwise).1 entries
      i q (attempt batches b (tryTransition refusal · targetState) otherwise).2 := by
  rcases tryTransition_performs refusal batch targetState with
    ⟨e, he, hperforms⟩ | ⟨r, hr, hout⟩
  · rcases hperforms with ⟨loud, hmove, hnotify, hok⟩ | ⟨hsame, hnotify, hno⟩
    · simp only [attempt, hb, hok, hnotify]
      refine .moved hentry hb hnames ?_ hmove rfl
      rcases he with ⟨rfl, rfl⟩ | ⟨rfl, rfl⟩
      · exact .inl ⟨rfl, htarget⟩
      · exact .inr ⟨rfl, htarget⟩
    · exact attempt_refused hb hsame hno hquiet
  · refine attempt_refused hb ?_ ?_ hquiet
    · rw [hout, DataBatch.quiet]
    · rw [hout]
      exact hr

theorem lookById_looked {refusal : String} {batchId : UInt64}
    {targetState : Option BatchState} (htarget : q.targetState = targetState)
    (hnames : ∀ batch, q.names batch = decide (batch.batchId = batchId)) :
    Looked batches (lookById batches entries i refusal batchId targetState).1
      entries i q
      (lookById batches entries i refusal batchId targetState).2 := by
  unfold lookById
  split
  · exact .same (fun _ => rfl) nofun
  · exact .same (fun _ => rfl) nofun
  · next b hentry =>
      cases hb : batches.lookup b with
      | none => exact .same (fun _ => rfl) nofun
      | some batch =>
          simp only
          split
          · exact .same (fun _ => rfl) nofun
          · next hid =>
              cases targetState with
              | none => exact .same (fun _ => rfl) nofun
              | some targetState =>
                  refine attempt_looked hentry hb ?_ htarget nofun
                  rw [hnames, decide_eq_true (not_not.mp hid)]

theorem transitionNull_ne_take (targetState : BatchState) (notify : Option Addr) :
    transitionNull targetState ≠ .take notify := by
  cases targetState <;> exact nofun

/-- Each turn of each loop. -/
theorem look_looked (batches : Table Addr DataBatch)
    (entries : List (Option Addr)) (i : Nat) (q : Query) :
    Looked batches (look batches entries i q).1 entries i q
      (look batches entries i q).2 := by
  cases q with
  | popDataBatch targetState =>
      simp only [look, lookAny]
      split
      · exact .same (fun _ => rfl) nofun
      · split
        · exact .same (fun _ => rfl) nofun
        · exact .same (fun _ => rfl) fun cv =>
            transitionNull_ne_take targetState (some cv)
        · next b hentry =>
            cases hb : batches.lookup b with
            | none =>
                simp only [attempt, hb]
                exact .same (fun _ => rfl) nofun
            | some batch => exact attempt_looked hentry hb rfl rfl nofun
  | popDataBatchById batchId targetState => exact lookById_looked rfl fun _ => rfl
  | getDataBatchById batchId targetState => exact lookById_looked rfl fun _ => rfl

end Looking

/-! ## One step -/

/-- What a thread still has to notify after a turn. -/
def Verdict.announces : Verdict → Option Addr
  | .take notify => notify
  | _ => none

namespace RepositoryWorld

variable {w w' : RepositoryWorld} {p q : Popper} {t : Nat} {found : Option Addr}

theorem lookup_goTo_self {pc : Pc} :
    (w.goTo t p pc).poppers.lookup t = some { p with pc := pc } :=
  AList.lookup_insert _

theorem lookup_goTo_ne {pc : Pc} {u : Nat} (h : u ≠ t) :
    (w.goTo t p pc).poppers.lookup u = w.poppers.lookup u :=
  AList.lookup_insert_ne h

theorem owes_iff : w.Owes ↔ w.repository.cv ∈ w.owed ∨
    ∃ t p, w.poppers.lookup t = some p ∧
      p.pc.announces = some w.repository.cv := by
  apply or_congr_right
  constructor
  · rintro ⟨e, he, hannounces⟩
    exact ⟨e.1, e.2, AList.mem_entries_iff.mp he, hannounces⟩
  · rintro ⟨t, p, hp, hannounces⟩
    exact ⟨⟨t, p⟩, AList.mem_entries_iff.mpr hp, hannounces⟩

theorem owes_goTo_iff (hp : w.poppers.lookup t = some p)
    (hbefore : p.pc.announces ≠ some w.repository.cv) {pc : Pc}
    (hafter : pc.announces ≠ some w.repository.cv) :
    (w.goTo t p pc).Owes ↔ w.Owes := by
  rw [owes_iff, owes_iff]
  apply or_congr_right
  constructor
  · rintro ⟨u, p', hp', hannounces⟩
    by_cases hu : u = t
    · rw [hu, lookup_goTo_self] at hp'
      cases hp'
      exact absurd hannounces hafter
    · rw [lookup_goTo_ne hu] at hp'
      exact ⟨u, p', hp', hannounces⟩
  · rintro ⟨u, p', hp', hannounces⟩
    have hu : u ≠ t := by
      intro hu
      rw [hu, hp] at hp'
      cases hp'
      exact hbefore hannounces
    exact ⟨u, p', (lookup_goTo_ne hu).trans hp', hannounces⟩

/-- The thread `t`, which is `p`, announces nothing that is waited for. -/
theorem silent_of_lookup (hp : w.poppers.lookup t = some p)
    (hsilent : p.pc.announces ≠ some w.repository.cv) :
    ∀ p', w.poppers.lookup t = some p' →
      p'.pc.announces ≠ some w.repository.cv := by
  intro p' hp'
  rw [hp] at hp'
  cases hp'
  exact hsilent

/-- The thread `t` moves, and not to sleep. -/
theorem follows_insert (hpoppers : w'.poppers = w.poppers.insert t q)
    (hawake : q.pc.sleeping = none)
    (hsilent : ∀ p, w.poppers.lookup t = some p →
      p.pc.announces ≠ some w.repository.cv)
    (hcv : w'.repository.cv = w.repository.cv) (howed : w'.owed = w.owed)
    (hawaited : ∀ p found b, b ∈ w'.awaited p found → b ∈ w.awaited p found) :
    Follows w w' where
  sleepers t' p hp hsleeps := by
    rw [hpoppers] at hp
    by_cases ht : t' = t
    · rw [ht, AList.lookup_insert] at hp
      cases hp
      rw [hawake] at hsleeps
      cases hsleeps
    · rwa [AList.lookup_insert_ne ht] at hp
  awaited := hawaited
  owes h := by
    rw [owes_iff] at h ⊢
    rw [hcv, howed]
    rcases h with h | ⟨t', p, hp, hannounces⟩
    · exact .inl h
    · refine .inr ⟨t', p, ?_, hannounces⟩
      have ht : t' ≠ t := by
        intro ht
        exact hsilent p (ht ▸ hp) hannounces
      rw [hpoppers, AList.lookup_insert_ne ht, hp]

theorem noLostWakeUp_of_awake
    (h : ∀ t p, w.poppers.lookup t = some p → p.pc.sleeping = none) :
    w.NoLostWakeUp := by
  right
  intro t p hp found hfound
  rw [h t p hp] at hfound
  cases hfound

theorem sleeping_wakeUp (pc : Pc) : pc.wakeUp.sleeping = none := by
  cases pc <;> rfl

theorem announces_of_sleeping {pc : Pc} (h : pc.sleeping.isSome) :
    pc.announces = none := by
  cases pc with
  | blocked found => rfl
  | entering | scanning _ | leaving _ _ | aboutToWait _ | woken | done _ => cases h

/-- After a notification on the condition variable nobody is asleep. -/
theorem notifyAll_awake
    (h : (w.notifyAll w.repository.cv).poppers.lookup t = some q) :
    q.pc.sleeping = none := by
  simp only [notifyAll, if_pos, AList.lookup_mapVal, Option.map_eq_some_iff] at h
  obtain ⟨q', -, rfl⟩ := h
  exact sleeping_wakeUp q'.pc

theorem notifyAll_of_ne {cv : Addr} (h : cv ≠ w.repository.cv) :
    w.notifyAll cv = w := if_neg h

/-- A step of a thread that changes no batch. -/
theorem noLostWakeUp_goTo (hw : w.NoLostWakeUp) (hp : w.poppers.lookup t = some p)
    (hsilent : p.pc.announces ≠ some w.repository.cv) {pc : Pc}
    (hawake : pc.sleeping = none) : (w.goTo t p pc).NoLostWakeUp := by
  have hfollows : Follows w (w.goTo t p pc) :=
    follows_insert (q := { p with pc := pc }) rfl hawake (silent_of_lookup hp hsilent)
      rfl rfl fun _ _ _ hb => hb
  exact hfollows.noLostWakeUp hw fun _ => rfl

theorem mem_of_mem_remove {entries : List (Option Addr)} {i : Nat} {x : Option Addr}
    {query : Query} (h : x ∈ DataRepository.remove entries i query) : x ∈ entries := by
  cases query with
  | popDataBatch _ | popDataBatchById _ _ => exact List.mem_of_mem_eraseIdx h
  | getDataBatchById _ _ => exact h

/-- What a thread leaves in the partitions was there before. -/
theorem dataBatches_takeEntry {i j : Nat} {entries' : List (Option Addr)}
    (h : (w.takeEntry t p i).repository.dataBatches[j]? = some entries') :
    ∃ entries, w.repository.dataBatches[j]? = some entries ∧
      ∀ x ∈ entries', x ∈ entries := by
  unfold takeEntry at h
  split at h
  · exact ⟨entries', h, fun _ hx => hx⟩
  · next entries hentries =>
      simp only [leave, goTo, List.getElem?_set] at h
      split at h
      · next hidx =>
          split at h
          · cases h
            refine ⟨entries, ?_, fun _ hx => mem_of_mem_remove hx⟩
            rw [← hidx]
            exact hentries
          · cases h
      · exact ⟨entries', h, fun _ hx => hx⟩

theorem takeEntry_eq (i : Nat) :
    ∃ result, (w.takeEntry t p i).poppers =
        w.poppers.insert t { p with pc := .done result } ∧
      (w.takeEntry t p i).repository.cv = w.repository.cv ∧
      (w.takeEntry t p i).owed = w.owed ∧
      (w.takeEntry t p i).clients = w.clients := by
  unfold takeEntry
  split
  · exact ⟨_, rfl, rfl, rfl, rfl⟩
  · exact ⟨_, rfl, rfl, rfl, rfl⟩

theorem noLostWakeUp_takeEntry (hw : w.NoLostWakeUp)
    (hp : w.poppers.lookup t = some p)
    (hsilent : p.pc.announces ≠ some w.repository.cv) (i : Nat) :
    (w.takeEntry t p i).NoLostWakeUp := by
  obtain ⟨result, hpoppers, hcv, howed, hclients⟩ := takeEntry_eq (w := w) (t := t)
    (p := p) i
  have hfollows : Follows w (w.takeEntry t p i) := by
    refine follows_insert hpoppers rfl (silent_of_lookup hp hsilent) hcv howed ?_
    intro p' found b hb
    rw [mem_awaited] at hb ⊢
    obtain ⟨⟨entries', hentries', hmem⟩, hfound⟩ := hb
    obtain ⟨entries, hentries, hsub⟩ := dataBatches_takeEntry hentries'
    exact ⟨⟨entries, hentries, hsub _ hmem⟩, hfound⟩
  exact hfollows.noLostWakeUp hw fun _ => by rw [hclients]

/-- Going to sleep is safe exactly if nothing that is awaited could serve. -/
theorem noLostWakeUp_sleep_iff (hw : w.NoLostWakeUp)
    (hp : w.poppers.lookup t = some p) (hpc : p.pc = .aboutToWait found) :
    (w.goTo t p (.blocked found)).NoLostWakeUp ↔ w.Owes ∨ w.Unserved p found := by
  have howes : (w.goTo t p (.blocked found)).Owes ↔ w.Owes := by
    apply owes_goTo_iff hp
    · rw [hpc]
      exact nofun
    · exact nofun
  constructor
  · rintro (h | h)
    · exact .inl (howes.mp h)
    · exact .inr (h t _ lookup_goTo_self found rfl)
  · rintro (h | h)
    · exact .inl (howes.mpr h)
    · rcases hw with hw | hw
      · exact .inl (howes.mpr hw)
      · right
        intro t' p' hp' found' hfound'
        by_cases ht : t' = t
        · rw [ht, lookup_goTo_self] at hp'
          cases hp'
          cases hfound'
          exact h
        · rw [lookup_goTo_ne ht] at hp'
          exact hw t' p' hp' found' hfound'

theorem proceed_eq (w : RepositoryWorld) (t : Nat) (p : Popper) (i : Nat)
    (verdict : Verdict) :
    ∃ pc holder, w.proceed t p i verdict = { w.goTo t p pc with holder := holder } ∧
      pc.sleeping = none ∧ pc.announces = verdict.announces := by
  cases verdict with
  | goOn => exact ⟨.scanning (i + 1), w.holder, rfl, rfl, rfl⟩
  | take notify => exact ⟨.leaving i notify, w.holder, rfl, rfl, rfl⟩
  | wait found => exact ⟨.aboutToWait found, w.holder, rfl, rfl, rfl⟩
  | finish result => exact ⟨.done result, none, rfl, rfl, rfl⟩

/-- The batch that a turn creates a task on, if there is no task yet. -/
theorem look_create {batches : Table Addr DataBatch} {entries : List (Option Addr)}
    {i : Nat} {query : Query} {b : Addr} {batch : DataBatch}
    (htarget : query.targetState = some .taskCreated)
    (hentry : entries[i]? = some (some b)) (hb : batches.lookup b = some batch)
    (hnames : query.names batch = true) (hun : batch.Uncounted) :
    DataRepository.look batches entries i query =
      (batches.insert b { batch with taskCreatedCount := batch.taskCreatedCount + 1 },
        .take none) := by
  obtain ⟨hcreate, -⟩ := create_of_uncounted hun
  cases query with
  | popDataBatch targetState =>
      cases htarget
      have hne : entries.isEmpty = false := by
        cases entries with
        | nil => cases hentry
        | cons x xs => rfl
      simp only [DataRepository.look, DataRepository.lookAny, hne, hentry,
        DataRepository.attempt, hb, DataRepository.tryTransitionBatchForPop,
        DataRepository.tryTransition, hcreate, DataBatch.quiet, Bool.false_eq_true,
        if_false]
  | popDataBatchById batchId targetState =>
      cases htarget
      have hid : batch.batchId = batchId := of_decide_eq_true hnames
      simp only [DataRepository.look, DataRepository.lookById, hentry, hb, hid,
        ne_eq, not_true, if_false, DataRepository.attempt,
        DataRepository.tryTransition, hcreate, DataBatch.quiet]
  | getDataBatchById batchId targetState =>
      cases htarget
      have hid : batch.batchId = batchId := of_decide_eq_true hnames
      simp only [DataRepository.look, DataRepository.lookById, hentry, hb, hid,
        ne_eq, not_true, if_false, DataRepository.attempt,
        DataRepository.tryTransition, hcreate, DataBatch.quiet]

theorem entry_of_partition {entries : List (Option Addr)} {i : Nat}
    (h : w.partition p = some entries) : w.entry p i = entries[i]?.join := by
  rw [entry, h, Option.bind_some]

section Scan

variable {i : Nat}

theorem noLostWakeUp_scan (hco : w.Coherent) (hw : w.NoLostWakeUp)
    (hp : w.poppers.lookup t = some p) (hpc : p.pc = .scanning i)
    (hsafe : w.StepIsSafe p) : (w.scan t p i).NoLostWakeUp := by
  have hsilent : p.pc.announces ≠ some w.repository.cv := by
    rw [hpc]
    exact nofun
  unfold scan
  cases hentries : w.partition p with
  | none => exact noLostWakeUp_goTo hw hp hsilent rfl
  | some entries =>
      simp only
      have hlook := look_looked w.clients.batches entries i p.query
      generalize DataRepository.look w.clients.batches entries i p.query = looked
        at hlook ⊢
      obtain ⟨batches, verdict⟩ := looked
      obtain ⟨pc, holder, hproceed, hawake, hannounces⟩ := proceed_eq
        { w with clients := { w.clients with batches := batches } } t p i verdict
      simp only at hlook ⊢
      rw [hproceed]
      have hfollows : Follows w { ({ w with
          clients := { w.clients with batches := batches } } : RepositoryWorld).goTo
            t p pc with holder := holder } :=
        follows_insert (q := { p with pc := pc }) rfl hawake
          (silent_of_lookup hp hsilent) rfl rfl fun _ _ _ hb => hb
      cases hlook with
      | same hbatches hquiet => exact hfollows.noLostWakeUp hw hbatches
      | @moved b batch batch' e loud hentry hb hnames htarget hmove hbatches =>
          refine hfollows.noLostWakeUp_of_move hw hco hb hmove hbatches ?_ ?_
          · intro hloud hcv
            rw [owes_iff]
            refine .inr ⟨t, { p with pc := pc }, AList.lookup_insert _, ?_⟩
            rw [hannounces, hloud, hcv]
            rfl
          · rintro rfl
            rcases htarget with ⟨-, htarget⟩ | ⟨he, -⟩
            · simp only [StepIsSafe, hpc] at hsafe
              refine hsafe htarget b ?_ batch hb hnames
              rw [Option.mem_def, entry_of_partition hentries, hentry]
              rfl
            · cases he

theorem stepIsSafe_of_scan (hp : w.poppers.lookup t = some p)
    (hpc : p.pc = .scanning i) (h : (w.scan t p i).NoLostWakeUp) :
    w.StepIsSafe p := by
  simp only [StepIsSafe, hpc]
  intro htarget b hb batch hbatch hnames
  by_cases howes : w.Owes
  · exact .inl howes
  · right
    intro batch' hbatch' hun u p' hp' found hfound hawaited htarget'
    rw [Option.mem_def] at hb hbatch hbatch'
    rw [hbatch] at hbatch'
    cases hbatch'
    cases hentries : w.partition p with
    | none =>
        rw [entry, hentries] at hb
        cases hb
    | some entries =>
        rw [entry_of_partition hentries, Option.join_eq_some_iff] at hb
        have hscan : w.scan t p i = ({ w with clients := { w.clients with
            batches := w.clients.batches.insert b
              { batch with taskCreatedCount := batch.taskCreatedCount + 1 } } }
            : RepositoryWorld).goTo t p (.leaving i none) := by
          simp only [scan, hentries, look_create htarget hb hbatch hnames hun, proceed]
        rw [hscan] at h
        rcases h with h | h
        · apply howes
          refine (owes_goTo_iff hp ?_ ?_).mp h
          · rw [hpc]
            exact nofun
          · exact nofun
        · have hu : u ≠ t := by
            intro hu
            rw [hu, hp] at hp'
            cases hp'
            rw [hpc] at hfound
            cases hfound
          have hserved := h u p' ((lookup_goTo_ne hu).trans hp') found hfound b hawaited
            _ (AList.lookup_insert _)
          rw [htarget', (create_of_uncounted hun).2] at hserved
          cases hserved

end Scan

/-- Each step of a popping thread. -/
theorem noLostWakeUp_step_iff (hco : w.Coherent) (hw : w.NoLostWakeUp)
    (hp : w.poppers.lookup t = some p) :
    (w.step t p).NoLostWakeUp ↔ w.StepIsSafe p := by
  cases hpc : p.pc with
  | aboutToWait found =>
      simp only [step, StepIsSafe, hpc]
      exact noLostWakeUp_sleep_iff hw hp hpc
  | scanning i =>
      simp only [step, hpc]
      exact ⟨stepIsSafe_of_scan hp hpc, noLostWakeUp_scan hco hw hp hpc⟩
  | entering =>
      simp only [step, StepIsSafe, hpc, iff_true]
      split
      · exact noLostWakeUp_goTo hw hp (by rw [hpc]; exact nofun) rfl
      · exact noLostWakeUp_goTo hw hp (by rw [hpc]; exact nofun) rfl
  | woken =>
      simp only [step, StepIsSafe, hpc, iff_true]
      exact noLostWakeUp_goTo hw hp (by rw [hpc]; exact nofun) rfl
  | leaving i notify =>
      cases notify with
      | none =>
          simp only [step, StepIsSafe, hpc, iff_true]
          exact noLostWakeUp_takeEntry hw hp (by rw [hpc]; exact nofun) i
      | some cv =>
          simp only [step, StepIsSafe, hpc, iff_true]
          by_cases hcv : cv = w.repository.cv
          · subst hcv
            apply noLostWakeUp_of_awake
            intro u q hq
            by_cases hu : u = t
            · rw [hu, lookup_goTo_self] at hq
              cases hq
              rfl
            · rw [lookup_goTo_ne hu] at hq
              exact notifyAll_awake hq
          · rw [notifyAll_of_ne hcv]
            refine noLostWakeUp_goTo hw hp ?_ rfl
            rw [hpc]
            exact fun h => hcv (Option.some.inj h)
  | blocked found | done result =>
      simp only [step, StepIsSafe, hpc, iff_true]
      exact hw

/-! ## The other steps -/

/-- A vector of partitions has the size it was given, and no entries that it
did not have. -/
theorem length_resize (partitions : List (List (Option Addr))) (size : Nat) :
    (DataRepository.resize partitions size).length = size := by
  rw [DataRepository.resize, List.length_append, List.length_take,
    List.length_replicate]
  omega

theorem mem_resize {partitions : List (List (Option Addr))} {size i : Nat}
    {entries : List (Option Addr)}
    (h : (DataRepository.resize partitions size)[i]? = some entries)
    {x : Option Addr} (hx : x ∈ entries) : partitions[i]? = some entries := by
  simp only [DataRepository.resize, List.getElem?_append, List.getElem?_replicate,
    List.getElem?_take] at h
  split at h
  · split at h
    · exact h
    · cases h
  · split at h
    · cases h
      cases hx
    · cases h

/-- A batch is added to the partition, or the size to grow to has wrapped to
zero and the vector is gone. -/
theorem addDataBatch_cases (r : DataRepository) (batch : Option Addr)
    (partitionIdx : UInt64) :
    (∃ after, r.addDataBatch batch partitionIdx = (after, .ok ()) ∧
      after.cv = r.cv ∧
      ∀ (i : Nat) (entries' : List (Option Addr)),
        after.dataBatches[i]? = some entries' → ∀ x ∈ entries', x = batch ∨
          ∃ entries, r.dataBatches[i]? = some entries ∧ x ∈ entries) ∨
    ∃ after, r.addDataBatch batch partitionIdx = (after, .error .outOfBounds) ∧
      after.cv = r.cv ∧ after.dataBatches = [] := by
  simp only [DataRepository.addDataBatch]
  generalize hpartitions : (if r.dataBatches.length ≤ partitionIdx.toNat then
    DataRepository.resize r.dataBatches (partitionIdx + 1).toNat
    else r.dataBatches) = partitions
  have hmem : ∀ (i : Nat) (entries : List (Option Addr)),
      partitions[i]? = some entries → ∀ x ∈ entries,
        r.dataBatches[i]? = some entries := by
    intro i entries hentries x hx
    rw [← hpartitions] at hentries
    split at hentries
    · exact mem_resize hentries hx
    · exact hentries
  cases hidx : partitions[partitionIdx.toNat]? with
  | some entries =>
      refine .inl ⟨_, rfl, rfl, ?_⟩
      intro i entries' hentries' x hx
      rw [List.getElem?_set] at hentries'
      split at hentries'
      · next hi =>
          split at hentries'
          · cases hentries'
            rcases List.mem_append.mp hx with hx | hx
            · subst hi
              exact .inr ⟨entries, hmem _ entries hidx x hx, hx⟩
            · exact .inl (List.mem_singleton.mp hx)
          · cases hentries'
      · exact .inr ⟨entries', hmem i entries' hentries' x hx, hx⟩
  | none =>
      refine .inr ⟨_, rfl, rfl, ?_⟩
      rw [List.getElem?_eq_none_iff, ← hpartitions] at hidx
      rw [← hpartitions]
      split at hidx
      · next hgrow =>
          rw [if_pos hgrow]
          rw [length_resize] at hidx
          apply List.eq_nil_of_length_eq_zero
          rw [length_resize]
          rw [UInt64.toNat_add] at hidx ⊢
          have hone : (1 : UInt64).toNat = 1 := rfl
          have hlt := partitionIdx.toNat_lt
          omega
      · next hgrow => exact absurd hidx hgrow

theorem noLostWakeUp_addDataBatch {b : Addr} {partitionIdx : UInt64}
    (hb : b ∈ w.clients.batches) :
    (w.next (.addDataBatch b partitionIdx)).NoLostWakeUp := by
  obtain ⟨batch, hb⟩ := AList.exists_lookup hb
  rcases addDataBatch_cases w.repository (some b) partitionIdx with
    ⟨after, hadd, hcv, -⟩ | ⟨after, hadd, -, hnil⟩
  · simp only [next, hb, hadd]
    refine .inl (.inl ?_)
    rw [hcv]
    exact List.mem_cons_self
  · simp only [next, hb, hadd]
    right
    intro t p hp found hfound c hc
    obtain ⟨⟨entries, hentries, -⟩, -⟩ := mem_awaited.mp hc
    simp only [partition, hnil, List.getElem?_nil, reduceCtorEq] at hentries

theorem noLostWakeUp_deliver (hw : w.NoLostWakeUp) {cv : Addr} :
    (w.next (.deliver cv)).NoLostWakeUp := by
  by_cases hcv : cv = w.repository.cv
  · subst hcv
    apply noLostWakeUp_of_awake
    intro t q hq
    exact notifyAll_awake hq
  · have hfollows : Follows w (w.next (.deliver cv)) := by
      simp only [next, notifyAll_of_ne hcv]
      refine ⟨fun t p hp _ => hp, fun _ _ _ hb => hb, fun h => ?_⟩
      refine h.imp_left fun hmem => ?_
      exact (List.mem_erase_of_ne (Ne.symm hcv)).mpr hmem
    refine hfollows.noLostWakeUp hw fun _ => ?_
    simp only [next, notifyAll_of_ne hcv]

/-- What a client does follows unless a batch of its call moves in silence. -/
theorem noLostWakeUp_client (hco : w.Coherent) (hw : w.NoLostWakeUp)
    {op : BatchOp} (hop : w.clients.Proper op) (hsafe : w.Safe (.client op)) :
    (w.next (.client op)).NoLostWakeUp := by
  obtain ⟨what, hdid⟩ := perform_did hco.counted hop
  have hfollows : Follows w (w.next (.client op)) :=
    ⟨fun t p hp _ => hp, fun _ _ _ hb => hb, fun h =>
      h.imp_left fun hmem => List.mem_append_right _ hmem⟩
  have heffect := hdid.effect
  have hcreates := hdid.creates
  clear hdid
  cases heffect with
  | stays hbatches _ _ => exact hfollows.noLostWakeUp hw hbatches
  | @moves b e loud batch batch' hb hmove hbatches _ hnotify =>
      refine hfollows.noLostWakeUp_of_move hw hco hb hmove hbatches ?_ ?_
      · intro hloud hcv
        have hmem : w.repository.cv ∈ (w.clients.perform op).2.toList := by
          rw [hnotify, hloud, if_pos rfl, hcv]
          exact List.mem_singleton.mpr rfl
        exact .inl (List.mem_append_left _ hmem)
      · rintro rfl
        have hone := hcreates b
        rw [tick_self, if_pos rfl] at hone
        cases op with
        | tryToCreateTask c =>
            simp only [BatchWorld.creates] at hone
            split at hone
            · next hc =>
                subst hc
                exact hsafe
            · cases hone
        | _ => cases hone

theorem safe_of_client {op : BatchOp} (hop : w.clients.Proper op)
    (h : (w.next (.client op)).NoLostWakeUp) : w.Safe (.client op) := by
  cases op with
  | tryToCreateTask b =>
      by_cases howes : w.Owes
      · exact .inl howes
      · right
        intro batch hb hun t p hp found hfound hawaited htarget
        obtain ⟨hcreate, hel⟩ := create_of_uncounted hun
        let after : DataBatch :=
          { batch with taskCreatedCount := batch.taskCreatedCount + 1 }
        have hnext : w.next (.client (.tryToCreateTask b)) = { w with
            clients := ⟨w.clients.batches.insert b after, w.clients.handles⟩ } := by
          simp only [next, BatchWorld.perform, BatchWorld.onBatch,
            BatchWorld.call_eq _ hb, hcreate, BatchWorld.store, DataBatch.quiet,
            Option.toList_none, List.nil_append, after]
        rw [hnext] at h
        rcases h with h | h
        · exact howes h
        · have hserved := h t p hp found hfound b hawaited _ (AList.lookup_insert _)
          rw [htarget, hel] at hserved
          cases hserved
  | _ => trivial

/-- One step loses no wake-up exactly if it is safe. -/
theorem noLostWakeUp_next_iff (hco : w.Coherent) (hw : w.NoLostWakeUp)
    {op : RepositoryOp} (hop : w.Proper op) :
    (machine.next w op).NoLostWakeUp ↔ w.Safe op := by
  cases op with
  | client op => exact ⟨safe_of_client hop, noLostWakeUp_client hco hw hop⟩
  | deliver cv => exact iff_of_true (noLostWakeUp_deliver hw) trivial
  | addDataBatch b partitionIdx =>
      exact iff_of_true (noLostWakeUp_addDataBatch hop.1) trivial
  | notifyStateChange =>
      refine iff_of_true (noLostWakeUp_of_awake fun t q hq => ?_) trivial
      exact notifyAll_awake hq
  | start t query partitionIdx =>
      have hfollows : Follows w (w.next (.start t query partitionIdx)) := by
        refine follows_insert (q := ⟨query, partitionIdx, .entering⟩) rfl rfl ?_ rfl rfl
          fun _ _ _ hb => hb
        intro p hp
        exact absurd (AList.mem_of_lookup hp) hop
      exact iff_of_true (hfollows.noLostWakeUp hw fun _ => rfl) trivial
  | step t =>
      obtain ⟨p, hp, -⟩ := hop
      have hsafe : w.Safe (.step t) ↔ w.StepIsSafe p := by
        constructor
        · intro h
          exact h p hp
        · intro h p' hp'
          rw [hp] at hp'
          cases hp'
          exact h
      rw [hsafe]
      simp only [machine, next, Option.mem_def.mp hp]
      exact noLostWakeUp_step_iff hco hw hp
  | spurious t =>
      obtain ⟨p, hp, hsleeps⟩ := hop
      refine iff_of_true ?_ trivial
      simp only [machine, next, Option.mem_def.mp hp]
      refine noLostWakeUp_goTo hw hp ?_ (sleeping_wakeUp p.pc)
      rw [announces_of_sleeping hsleeps]
      exact nofun

/-! ## What every step keeps -/

theorem coherent_of_effect (hco : w.Coherent) {notify : Option Addr}
    {what : Option (Addr × Event)}
    (heffect : Effect w.clients w'.clients notify what)
    (hcv : w'.repository.cv = w.repository.cv)
    (hentries : ∀ (i : Nat) (entries' : List (Option Addr)),
      w'.repository.dataBatches[i]? = some entries' → ∃ entries,
        w.repository.dataBatches[i]? = some entries ∧ ∀ x ∈ entries', x ∈ entries) :
    w'.Coherent where
  counted := BatchWorld.counted_of_effect hco.counted heffect
  stored i entries' hentries' c hc := by
    obtain ⟨entries, hold, hsub⟩ := hentries i entries' hentries'
    obtain ⟨other, hother, hothercv⟩ := hco.stored i entries hold c (hsub _ hc)
    rw [hcv]
    cases heffect with
    | stays hbatches _ _ => exact ⟨other, by rw [hbatches, hother], hothercv⟩
    | @moves b e loud batch batch' hb hmove hbatches _ _ =>
        rw [hbatches]
        by_cases hcb : c = b
        · subst hcb
          rw [hother] at hb
          cases hb
          exact ⟨batch', AList.lookup_insert _, hmove.stateChangeCv.trans hothercv⟩
        · exact ⟨other, (AList.lookup_insert_ne hcb).trans hother, hothercv⟩

/-- A step that changes neither the clients nor the repository. -/
theorem coherent_congr (hco : w.Coherent) (hclients : w'.clients = w.clients)
    (hrepository : w'.repository = w.repository) : w'.Coherent where
  counted := hclients ▸ hco.counted
  stored := by
    rw [hclients, hrepository]
    exact hco.stored

theorem notifyAll_clients (cv : Addr) : (w.notifyAll cv).clients = w.clients := by
  unfold notifyAll
  split <;> rfl

theorem notifyAll_repository (cv : Addr) :
    (w.notifyAll cv).repository = w.repository := by
  unfold notifyAll
  split <;> rfl

theorem coherent_scan (hco : w.Coherent) (i : Nat) : (w.scan t p i).Coherent := by
  unfold scan
  split
  · exact coherent_congr hco rfl rfl
  · next entries hentries =>
      have hlook := look_looked w.clients.batches entries i p.query
      generalize DataRepository.look w.clients.batches entries i p.query = looked
        at hlook ⊢
      obtain ⟨batches, verdict⟩ := looked
      obtain ⟨pc, holder, hproceed, -, -⟩ := proceed_eq
        { w with clients := { w.clients with batches := batches } } t p i verdict
      simp only at hlook ⊢
      rw [hproceed]
      cases hlook with
      | same hbatches _ =>
          exact coherent_of_effect hco (.stays hbatches (fun _ => rfl) rfl) rfl
            fun _ entries' h => ⟨entries', h, fun _ hx => hx⟩
      | @moved b batch batch' e loud _ hb _ htarget hmove hbatches =>
          refine coherent_of_effect hco (.moves hb hmove hbatches (fun c => ?_) rfl)
            rfl fun _ entries' h => ⟨entries', h, fun _ hx => hx⟩
          rcases htarget with ⟨rfl, -⟩ | ⟨rfl, -⟩ <;> rfl

theorem coherent_addDataBatch (hco : w.Coherent) {b : Addr} {partitionIdx : UInt64}
    (hb : b ∈ w.clients.batches) :
    (w.next (.addDataBatch b partitionIdx)).Coherent := by
  obtain ⟨batch, hb⟩ := AList.exists_lookup hb
  have hcounted := hco.counted.put hb (batch.setStateChangeCv (some w.repository.cv))
    rfl rfl
  rcases addDataBatch_cases w.repository (some b) partitionIdx with
    ⟨after, hadd, hcv, hentries⟩ | ⟨after, hadd, -, hnil⟩
  · simp only [next, hb, hadd]
    refine ⟨hcounted, ?_⟩
    intro i entries' hentries' c hc
    simp only at hentries' ⊢
    rw [hcv]
    by_cases hcb : c = b
    · subst hcb
      exact ⟨_, AList.lookup_insert _, rfl⟩
    · rcases hentries i entries' hentries' _ hc with heq | ⟨entries, hold, hmem⟩
      · exact absurd (Option.some.inj heq) hcb
      · obtain ⟨other, hother, hothercv⟩ := hco.stored i entries hold c hmem
        exact ⟨other, (AList.lookup_insert_ne hcb).trans hother, hothercv⟩
  · simp only [next, hb, hadd]
    refine ⟨hcounted, ?_⟩
    intro i entries' hentries'
    simp only [hnil, List.getElem?_nil, reduceCtorEq] at hentries'

theorem coherent_step (hco : w.Coherent) : (w.step t p).Coherent := by
  unfold step
  split
  · split
    · exact coherent_congr hco rfl rfl
    · exact coherent_congr hco rfl rfl
  · exact coherent_scan hco _
  · exact coherent_congr hco (notifyAll_clients _) (notifyAll_repository _)
  · next i hpc =>
      obtain ⟨result, -, hcv, -, hclients⟩ := takeEntry_eq (w := w) (t := t) (p := p) i
      have heffect : Effect w.clients (w.takeEntry t p i).clients none none := by
        rw [hclients]
        exact .stays (fun _ => rfl) (fun _ => rfl) rfl
      exact coherent_of_effect hco heffect hcv fun j entries' h =>
        dataBatches_takeEntry h
  · exact coherent_congr hco rfl rfl
  · exact coherent_congr hco rfl rfl
  · exact hco
  · exact hco

theorem coherent_next (hco : w.Coherent) {op : RepositoryOp} (hop : w.Proper op) :
    (machine.next w op).Coherent := by
  cases op with
  | client op =>
      obtain ⟨what, hdid⟩ := perform_did hco.counted hop
      exact coherent_of_effect hco hdid.effect rfl
        fun _ entries' h => ⟨entries', h, fun _ hx => hx⟩
  | deliver cv =>
      exact coherent_congr hco (notifyAll_clients cv) (notifyAll_repository cv)
  | addDataBatch b partitionIdx => exact coherent_addDataBatch hco hop.1
  | notifyStateChange =>
      exact coherent_congr hco (notifyAll_clients _) (notifyAll_repository _)
  | start t query partitionIdx => exact coherent_congr hco rfl rfl
  | step t =>
      obtain ⟨p, hp, -⟩ := hop
      simp only [machine, next, Option.mem_def.mp hp]
      exact coherent_step hco
  | spurious t =>
      obtain ⟨p, hp, -⟩ := hop
      simp only [machine, next, Option.mem_def.mp hp]
      exact coherent_congr hco rfl rfl

theorem coherent_of_fresh (h : w.Fresh) : w.Coherent := by
  obtain ⟨hclients, ⟨cv, hrepository⟩, -⟩ := h
  refine ⟨BatchWorld.counted_of_fresh hclients, ?_⟩
  intro i entries hentries b hb
  rw [hrepository] at hentries
  cases i with
  | zero =>
      cases hentries
      cases hb
  | succ i => cases hentries

/-- A run from an empty repository loses no wake-up in any of its states
exactly if each of its steps is safe. -/
theorem always_noLostWakeUp_iff {ops : List RepositoryOp} (hs : machine.start w)
    (hlaw : machine.Lawful w ops) :
    machine.Always NoLostWakeUp w ops ↔ machine.Every Safe w ops := by
  have hnone : w.NoLostWakeUp := by
    apply noLostWakeUp_of_awake
    intro t p hp
    rw [hs.2.2.1, AList.lookup_empty] at hp
    cases hp
  exact Machine.always_iff_every
    (fun _ _ hco _ hop _ => coherent_next hco hop)
    (fun _ _ hco hw hop => noLostWakeUp_next_iff hco hw hop)
    (coherent_of_fresh hs) hnone hlaw

/-- An empty repository whose condition variable is at 9, and two batches that
may come to be in it. -/
def emptyRepository : RepositoryWorld :=
  ⟨BatchWorld.twoBatches, .create 9, ∅, none, []⟩

theorem fresh_emptyRepository : emptyRepository.Fresh :=
  ⟨BatchWorld.fresh_twoBatches, ⟨9, rfl⟩, rfl, rfl, rfl⟩

/-- A batch that is being processed is added. -/
def addProcessing : List RepositoryOp :=
  [.addDataBatch 1 0, .deliver 9, .client (.tryToCreateTask 1), .deliver 9,
    .client (.tryToLockForProcessing 1 ⟨.GPU, 0⟩ 100), .deliver 9]

/-- A thread that wants the batch for transit falls asleep, and is woken and
served when the handle is released. -/
theorem always_noLostWakeUp_asleep :
    machine.Always NoLostWakeUp emptyRepository (addProcessing ++
      [.start 0 (.popDataBatch .inTransit) 0, .step 0, .step 0, .step 0, .step 0,
        .client (.release 100), .deliver 9, .step 0, .step 0, .step 0, .step 0]) :=
  (always_noLostWakeUp_iff fresh_emptyRepository
    (show machine.Every Proper _ _ by decide)).mpr (by decide)

/-- The handle is released, and the release announced, after the thread has
looked at the batch and before it sleeps. -/
theorem lostWakeUp_between_look_and_wait :
    machine.Lawful emptyRepository (addProcessing ++
        [.start 0 (.popDataBatch .inTransit) 0, .step 0, .step 0, .step 0,
          .client (.release 100), .deliver 9, .step 0]) ∧
      ¬ machine.Always NoLostWakeUp emptyRepository (addProcessing ++
        [.start 0 (.popDataBatch .inTransit) 0, .step 0, .step 0, .step 0,
          .client (.release 100), .deliver 9, .step 0]) := by
  refine ⟨show machine.Every Proper _ _ by decide, ?_⟩
  intro h
  exact absurd h.last (by decide)

end RepositoryWorld

end CuCascade.Data

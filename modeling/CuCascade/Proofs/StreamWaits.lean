import CuCascade.Lib.Drain
import CuCascade.Lib.Turnstile
import CuCascade.Memory.LendingWorld

/-!
# Nobody sleeps before a stream

The pool is a store of tokens behind a condition variable: each step of the
world serves those who wait or disturbs them, and either way there are never more
streams in `_streams` than calls on the way to them while another call sleeps.
That `notify_one` is called for each stream that comes back is what it takes,
though a call that never slept may take the stream before the one notified.

So a call sleeps on for one reason only, that all streams are out or were lost
with their handles; and if those that have streams reset their handles, all that
wait are served, in no more steps than are counted here.
-/

namespace CuCascade.Memory

namespace LendingWorld

variable {w : LendingWorld} {h : Addr} {x : Borrower} {b : BorrowedStream}

def turnstile (w : LendingWorld) : Turnstile :=
  ⟨w.record.pool.size, w.asleep, w.woken, w.out⟩

/-- The streams that a call makes. -/
def grows (w : LendingWorld) : LendingStep → Nat
  | .acquireStream .GROW _ => if w.record.pool.streams = [] then 1 else 0
  | _ => 0

/-- The streams that a call loses: those of the handles that are destroyed. -/
def loses (w : LendingWorld) : LendingStep → Nat
  | .destroy h => (w.borrowers.lookup h).elim 0 Borrower.holding
  | _ => 0

/-- What brings the calls that wait on: one that has been woken gets the mutex,
one who has a stream resets the handle. -/
def Serving (w : LendingWorld) : LendingStep → Prop
  | .resume _ => True
  | .reset h _ => ∃ b ∈ w.handleAt h, b.releaseFn ≠ none
  | _ => False

/-! ## What a step does to the numbers -/

/-- Where the streams are after a step, and what it made and lost. -/
structure Counted (w w' : LendingWorld) (made lost : Nat) : Prop where
  step : Turnstile.Serves w.turnstile w'.turnstile ∨
    Turnstile.Disturbs w.turnstile w'.turnstile
  places : w'.record.pool.size + w'.out + lost = w.record.pool.size + w.out + made
  created : w'.record.created = w.record.created + made

theorem counts_of_insert {w' : LendingWorld} (heq : w'.borrowers = w.borrowers.insert h x) :
    (w.borrowers.lookup h).elim 0 Borrower.sleeping + w'.asleep = x.sleeping + w.asleep ∧
      (w.borrowers.lookup h).elim 0 Borrower.waking + w'.woken = x.waking + w.woken ∧
      (w.borrowers.lookup h).elim 0 Borrower.holding + w'.out = x.holding + w.out := by
  unfold asleep woken out
  rw [heq]
  exact ⟨AList.sumBy_insert_elim (f := fun _ x => x.sleeping) w.borrowers h x,
    AList.sumBy_insert_elim (f := fun _ x => x.waking) w.borrowers h x,
    AList.sumBy_insert_elim (f := fun _ x => x.holding) w.borrowers h x⟩

theorem counts_put (w : LendingWorld) (h : Addr) (x : Borrower) :
    (w.borrowers.lookup h).elim 0 Borrower.sleeping + (w.put h x).asleep =
        x.sleeping + w.asleep ∧
      (w.borrowers.lookup h).elim 0 Borrower.waking + (w.put h x).woken =
        x.waking + w.woken ∧
      (w.borrowers.lookup h).elim 0 Borrower.holding + (w.put h x).out =
        x.holding + w.out :=
  counts_of_insert rfl

theorem handleAt_eq_some : w.handleAt h = some b ↔ w.borrowers.lookup h = some (.has b) := by
  unfold handleAt
  cases w.borrowers.lookup h with
  | none => simp
  | some x => cases x <;> simp [Borrower.handle?]

theorem holding_of_callsBack (hb : b.releaseFn ≠ none) : (Borrower.has b).holding = 1 := if_neg hb

theorem holding_of_not (hb : b.releaseFn = none) : (Borrower.has b).holding = 0 := if_pos hb

@[simp] theorem holding_asleep : Borrower.asleep.holding = 0 := rfl

@[simp] theorem holding_woken : Borrower.woken.holding = 0 := rfl

/-- The rest of `acquire_stream`: a stream of the pool, one that is made, or a wait. -/
theorem lend_cases (w : LendingWorld) (policy : StreamAcquirePolicy) (h : Addr) :
    (∃ b, w.record.pool.streams ≠ [] ∧ b.releaseFn ≠ none ∧
      w.record.pool.size = (w.lend policy h).record.pool.size + 1 ∧
      (w.lend policy h).record.created = w.record.created ∧
      (w.lend policy h).borrowers = w.borrowers.insert h (.has b)) ∨
    (w.record.pool.streams = [] ∧ policy = .BLOCK ∧ w.lend policy h = w.put h .asleep) ∨
    ∃ b, w.record.pool.streams = [] ∧ policy = .GROW ∧ b.releaseFn ≠ none ∧
      (w.lend policy h).record = { w.record with grown := w.record.grown + 1 } ∧
      (w.lend policy h).borrowers = w.borrowers.insert h (.has b) := by
  by_cases hempty : w.record.pool.streams = []
  · cases policy with
    | BLOCK =>
        have hlend : w.lend .BLOCK h = w.put h .asleep := by
          simp only [lend, ExclusiveStreamPool.acquireStream, hempty, List.getLast?_nil]
        exact Or.inr (Or.inl ⟨hempty, rfl, hlend⟩)
    | GROW =>
        have hlend : w.lend .GROW h =
            { w with record := { w.record with grown := w.record.grown + 1 } }.put h
              (.has ⟨some ⟨w.pool, w.record.created⟩, some w.pool⟩) := by
          simp only [lend, ExclusiveStreamPool.acquireStream, hempty, List.getLast?_nil, if_true]
        rw [hlend]
        exact Or.inr (Or.inr ⟨_, hempty, rfl, Option.some_ne_none _, rfl, rfl⟩)
  · obtain ⟨c, hlast⟩ := Option.ne_none_iff_exists'.mp
      (fun hnone => hempty (List.getLast?_eq_none_iff.mp hnone))
    have hlend : w.lend policy h =
        { w with record := { w.record with pool := ⟨w.record.pool.streams.dropLast⟩ } }.put h
          (.has ⟨c, some w.pool⟩) := by
      simp only [lend, ExclusiveStreamPool.acquireStream, hlast, if_neg hempty]
    have hsize : w.record.pool.streams.length = w.record.pool.streams.dropLast.length + 1 := by
      have hpos := List.length_pos_iff.mpr hempty
      rw [List.length_dropLast]
      omega
    rw [hlend]
    exact Or.inl ⟨_, hempty, Option.some_ne_none _, hsize, rfl, rfl⟩

/-- A newcomer. -/
theorem acquire_counted (policy : StreamAcquirePolicy) (hnew : h ∉ w.borrowers) :
    Counted w (w.lend policy h) (w.grows (.acquireStream policy h)) 0 := by
  have hnone : w.borrowers.lookup h = none := AList.lookup_eq_none.mpr hnew
  rcases w.lend_cases policy h with ⟨b, hsome, hb, hsize, hcreated, hput⟩ |
    ⟨hempty, rfl, heq⟩ | ⟨b, hempty, rfl, hb, hrecord, hput⟩
  · obtain ⟨ha, hw, ho⟩ := counts_of_insert hput
    have hgrows : w.grows (.acquireStream policy h) = 0 := by
      cases policy <;> simp only [grows, if_neg hsome]
    simp only [hnone, Option.elim_none, holding_of_callsBack hb, Borrower.sleeping,
      Borrower.waking, Nat.zero_add] at ha hw ho
    rw [hgrows]
    exact ⟨Or.inr (.overtakes hsize ha hw (ho.trans (Nat.add_comm 1 _))), by omega, hcreated⟩
  · have hzero : w.record.pool.size = 0 := List.length_eq_zero_iff.mpr hempty
    obtain ⟨ha, hw, ho⟩ := counts_put w h .asleep
    simp only [hnone, Option.elim_none, Borrower.sleeping, Borrower.waking, holding_asleep,
      Nat.zero_add] at ha hw ho
    rw [heq]
    exact ⟨Or.inr (.sleeps hzero hzero (ha.trans (Nat.add_comm 1 _)) hw ho),
      congrArg (w.record.pool.size + ·) ho, rfl⟩
  · have hzero : w.record.pool.size = 0 := List.length_eq_zero_iff.mpr hempty
    obtain ⟨ha, hw, ho⟩ := counts_of_insert hput
    simp only [hnone, Option.elim_none, holding_of_callsBack hb, Borrower.sleeping,
      Borrower.waking, Nat.zero_add] at ha hw ho
    have hgrows : w.grows (.acquireStream .GROW h) = 1 := by
      simp only [grows, if_pos hempty]
    have hsize : (w.lend .GROW h).record.pool.size = w.record.pool.size := by rw [hrecord]
    rw [hgrows]
    refine ⟨Or.inr (.brings hzero (hsize.trans hzero) ha hw (ho.trans (Nat.add_comm 1 _))),
      by omega, ?_⟩
    rw [hrecord]
    exact (Nat.add_assoc _ _ _).symm

/-- A call that was woken. -/
theorem resume_counted (hwoken : w.borrowers.lookup h = some .woken) :
    Turnstile.Serves w.turnstile (w.lend .BLOCK h).turnstile ∧
      Counted w (w.lend .BLOCK h) 0 0 := by
  rcases w.lend_cases .BLOCK h with ⟨b, hsome, hb, hsize, hcreated, hput⟩ |
    ⟨hempty, -, heq⟩ | ⟨b, hempty, hnever, -⟩
  · obtain ⟨ha, hw, ho⟩ := counts_of_insert hput
    simp only [hwoken, Option.elim_some, holding_of_callsBack hb, Borrower.sleeping,
      Borrower.waking, holding_woken, Nat.zero_add] at ha hw ho
    have hserves : Turnstile.Serves w.turnstile (w.lend .BLOCK h).turnstile :=
      .takes hsize ha (hw.symm.trans (Nat.add_comm 1 _)) (ho.trans (Nat.add_comm 1 _))
    exact ⟨hserves, Or.inl hserves, by omega, hcreated⟩
  · have hzero : w.record.pool.size = 0 := List.length_eq_zero_iff.mpr hempty
    obtain ⟨ha, hw, ho⟩ := counts_put w h .asleep
    simp only [hwoken, Option.elim_some, Borrower.sleeping, Borrower.waking, holding_asleep,
      holding_woken, Nat.zero_add] at ha hw ho
    rw [heq]
    have hserves : Turnstile.Serves w.turnstile (w.put h .asleep).turnstile :=
      .sleepsAgain hzero hzero (ha.trans (Nat.add_comm 1 _)) (hw.symm.trans (Nat.add_comm 1 _)) ho
    exact ⟨hserves, Or.inl hserves, congrArg (w.record.pool.size + ·) ho, rfl⟩
  · cases hnever

@[simp] theorem record_put : (w.put h x).record = w.record := rfl

theorem handleAt_put_ne {src : Addr} (hne : src ≠ h) :
    (w.put h x).handleAt src = w.handleAt src := by
  simp only [handleAt, put, AList.lookup_insert_ne hne]

theorem handleAt_put_self : (w.put h (.has b)).handleAt h = some b := by
  simp only [handleAt, put, AList.lookup_insert, Option.bind_some, Borrower.handle?]

/-- A handle that has been reset or moved from is reset. -/
theorem reset_empty (hb : w.handleAt h = some b) (hempty : b.releaseFn = none) :
    w.resetHandle h b none = w.put h (.has b) ∧
      (w.put h (.has b)).turnstile = w.turnstile := by
  constructor
  · simp only [resetHandle, BorrowedStream.reset, hempty]
  · obtain ⟨ha, hw, ho⟩ := counts_put w h (.has b)
    simp only [handleAt_eq_some.mp hb, Option.elim_some, Nat.add_left_cancel_iff] at ha hw ho
    simp only [turnstile, ha, hw, ho, record_put]

/-- A handle that calls back: it is emptied, the stream pushed, and a call notified. -/
theorem resetHandle_full (w : LendingWorld) (h : Addr) (notified : Option Addr)
    (hfull : b.releaseFn ≠ none) :
    ∃ w₁ : LendingWorld, w.resetHandle h b notified = w₁.notifyOne notified ∧
      w₁.borrowers = w.borrowers.insert h (.has .movedFrom) ∧
      w₁.record.pool.size = w.record.pool.size + 1 ∧
      w₁.record.created = w.record.created := by
  obtain ⟨pool, hcall⟩ := Option.ne_none_iff_exists'.mp hfull
  refine ⟨{ w.put h (.has .movedFrom) with
      record := { w.record with pool := w.record.pool.releaseStream b.stream } },
    ?_, rfl, List.length_append, rfl⟩
  simp only [resetHandle, BorrowedStream.reset, hcall, record_put]

/-- A stream comes back. -/
theorem reset_full {notified : Option Addr} (hb : w.handleAt h = some b)
    (hfull : b.releaseFn ≠ none) (hquiet : notified = none → w.asleep = 0)
    (hasleep : ∀ h' ∈ notified, w.borrowers.lookup h' = some .asleep) :
    Turnstile.Serves w.turnstile (w.resetHandle h b notified).turnstile ∧
      Counted w (w.resetHandle h b notified) 0 0 := by
  have hlookup := handleAt_eq_some.mp hb
  obtain ⟨w₁, hreset, hinsert, hsize, hcreated⟩ := w.resetHandle_full h notified hfull
  obtain ⟨ha, hw, ho⟩ := counts_of_insert hinsert
  simp only [hlookup, Option.elim_some, holding_of_callsBack hfull, Borrower.sleeping,
    Borrower.waking, Nat.zero_add,
    holding_of_not (show BorrowedStream.movedFrom.releaseFn = none from rfl)] at ha hw ho
  rw [hreset]
  cases notified with
  | none =>
      have hserves : Turnstile.Serves w.turnstile w₁.turnstile :=
        .returns (hquiet rfl) hsize (ha.trans (hquiet rfl)) hw
          (ho.symm.trans (Nat.add_comm 1 _))
      refine ⟨hserves, Or.inl hserves, ?_, hcreated⟩
      simp only [notifyOne]
      omega
  | some h' =>
      have hsleeps := hasleep h' rfl
      have hne : h' ≠ h := by
        intro heq
        rw [heq, hlookup] at hsleeps
        cases hsleeps
      have hsame : w₁.borrowers.lookup h' = some .asleep := by
        rw [hinsert, AList.lookup_insert_ne hne, hsleeps]
      obtain ⟨ha', hw', ho'⟩ := counts_put w₁ h' .woken
      simp only [hsame, Option.elim_some, Borrower.sleeping, Borrower.waking, holding_asleep,
        holding_woken, Nat.zero_add] at ha' hw' ho'
      have hserves : Turnstile.Serves w.turnstile (w₁.put h' .woken).turnstile := by
        refine .wakes hsize ?_ ?_ ?_ <;> simp only [turnstile] <;> omega
      refine ⟨hserves, Or.inl hserves, ?_, hcreated⟩
      simp only [notifyOne, record_put]
      omega

/-- A handle that was reset keeps no callback, and the other handles are where they were. -/
theorem handleAt_resetHandle {notified : Option Addr} (hb : w.handleAt h = some b)
    (hnotify : w.Notifies h notified) :
    (∃ b', (w.resetHandle h b notified).handleAt h = some b' ∧ b'.releaseFn = none) ∧
      ∀ src, src ≠ h → (w.handleAt src).isSome →
        (w.resetHandle h b notified).handleAt src = w.handleAt src := by
  obtain ⟨b₀, hb₀, hif⟩ := hnotify
  obtain rfl : b = b₀ := Option.some.inj (hb.symm.trans hb₀)
  cases hcall : b.releaseFn with
  | none =>
      rw [if_pos hcall] at hif
      subst hif
      rw [(reset_empty hb hcall).1]
      exact ⟨⟨b, handleAt_put_self, hcall⟩, fun src hne _ => handleAt_put_ne hne⟩
  | some pool =>
      rw [if_neg (hcall ▸ Option.some_ne_none pool)] at hif
      obtain ⟨w₁, hreset, hinsert, -⟩ :=
        w.resetHandle_full h notified (hcall ▸ Option.some_ne_none pool)
      have hself : w₁.handleAt h = some .movedFrom := by
        rw [handleAt_eq_some, hinsert, AList.lookup_insert]
      have hother : ∀ src, src ≠ h → w₁.handleAt src = w.handleAt src := by
        intro src hne
        simp only [handleAt, hinsert, AList.lookup_insert_ne hne]
      rw [hreset]
      cases notified with
      | none => exact ⟨⟨_, hself, rfl⟩, fun src hne _ => hother src hne⟩
      | some h' =>
          have hsleeps := hif.2 h' rfl
          have hawake : ∀ src, (w.handleAt src).isSome → src ≠ h' := by
            intro src hsome heq
            rw [heq, handleAt, hsleeps] at hsome
            cases hsome
          have hhere : (w.handleAt h).isSome := by rw [hb]; rfl
          refine ⟨⟨.movedFrom, ?_, rfl⟩, fun src hne hsome => ?_⟩
          · exact (handleAt_put_ne (hawake h hhere)).trans hself
          · exact (handleAt_put_ne (hawake src hsome)).trans (hother src hne)

/-- A move passes a stream on to a handle that has none. -/
theorem moveInto_turnstile {dst src : Addr} (hsrc : (w.handleAt src).isSome) (hne : dst ≠ src)
    (hdst : dst ∉ w.borrowers ∨ ∃ b', w.handleAt dst = some b' ∧ b'.releaseFn = none) :
    (w.moveInto dst src).turnstile = w.turnstile ∧
      (w.moveInto dst src).record = w.record := by
  obtain ⟨b, hb⟩ := Option.isSome_iff_exists.mp hsrc
  have hmove : w.moveInto dst src = (w.put src (.has .movedFrom)).put dst (.has b) := by
    simp only [moveInto, hb]
  obtain ⟨ha, hw, ho⟩ := counts_put w src (.has .movedFrom)
  obtain ⟨ha', hw', ho'⟩ := counts_put (w.put src (.has .movedFrom)) dst (.has b)
  have hold : ((w.put src (.has .movedFrom)).borrowers.lookup dst) = w.borrowers.lookup dst :=
    AList.lookup_insert_ne hne
  have hempty : (w.borrowers.lookup dst).elim 0 Borrower.sleeping = 0 ∧
      (w.borrowers.lookup dst).elim 0 Borrower.waking = 0 ∧
        (w.borrowers.lookup dst).elim 0 Borrower.holding = 0 := by
    rcases hdst with hnew | ⟨b', hb', hnone⟩
    · rw [AList.lookup_eq_none.mpr hnew]
      exact ⟨rfl, rfl, rfl⟩
    · rw [handleAt_eq_some.mp hb']
      exact ⟨rfl, rfl, holding_of_not hnone⟩
  rw [hold, hempty.1] at ha'
  rw [hold, hempty.2.1] at hw'
  rw [hold, hempty.2.2] at ho'
  simp only [handleAt_eq_some.mp hb, Option.elim_some, Borrower.sleeping, Borrower.waking,
    Nat.zero_add, holding_of_not (show BorrowedStream.movedFrom.releaseFn = none from rfl)]
    at ha hw ho ha' hw' ho'
  rw [hmove]
  refine ⟨?_, rfl⟩
  simp only [turnstile, record_put, ha', ha, hw', hw, ho', ho]

theorem Counted.of_same {w' : LendingWorld} (hturn : w'.turnstile = w.turnstile)
    (hrecord : w'.record.created = w.record.created) : Counted w w' 0 0 := by
  refine ⟨Or.inr (.stays hturn), ?_, hrecord⟩
  have hidle : w'.record.pool.size = w.record.pool.size := congrArg Turnstile.idle hturn
  have hout : w'.out = w.out := congrArg Turnstile.out hturn
  omega

theorem Counted.then_same {w' w'' : LendingWorld} (h : Counted w w' 0 0)
    (hturn : w''.turnstile = w'.turnstile) (hrecord : w''.record = w'.record) :
    Counted w w'' 0 0 := by
  have hout : w''.out = w'.out := congrArg Turnstile.out hturn
  have hplaces := h.places
  have hcreated := h.created
  rw [← hrecord] at hplaces hcreated
  exact ⟨hturn ▸ h.step, by omega, hcreated⟩

/-- A handle that is reset, whatever it holds. -/
theorem reset_counted {notified : Option Addr} (hb : w.handleAt h = some b)
    (hnotify : w.Notifies h notified) :
    (b.releaseFn ≠ none →
        Turnstile.Serves w.turnstile (w.resetHandle h b notified).turnstile) ∧
      Counted w (w.resetHandle h b notified) 0 0 := by
  obtain ⟨b₀, hb₀, hif⟩ := hnotify
  obtain rfl : b = b₀ := Option.some.inj (hb.symm.trans hb₀)
  by_cases hempty : b.releaseFn = none
  · rw [if_pos hempty] at hif
    subst hif
    obtain ⟨hreset, hturn⟩ := reset_empty hb hempty
    rw [hreset]
    exact ⟨fun hfull => absurd hempty hfull, .of_same hturn rfl⟩
  · rw [if_neg hempty] at hif
    obtain ⟨hserves, hcounted⟩ := reset_full hb hempty hif.1 hif.2
    exact ⟨fun _ => hserves, hcounted⟩

theorem wakeUp_counted (hasleep : w.borrowers.lookup h = some .asleep) :
    Counted w (w.put h .woken) 0 0 := by
  obtain ⟨ha, hw, ho⟩ := counts_put w h .woken
  simp only [hasleep, Option.elim_some, Borrower.sleeping, Borrower.waking, holding_asleep,
    holding_woken, Nat.zero_add] at ha hw ho
  refine ⟨Or.inr (.stirs rfl (ha.symm.trans (Nat.add_comm 1 _))
    (hw.trans (Nat.add_comm 1 _)) ho), ?_, rfl⟩
  simp only [record_put]
  omega

theorem destroy_counted (hb : w.handleAt h = some b) :
    Counted w (w.perform (.destroy h)) 0 (w.loses (.destroy h)) := by
  have hlookup := handleAt_eq_some.mp hb
  have ha : 0 + (w.perform (.destroy h)).asleep = w.asleep :=
    AList.sumBy_erase (f := fun _ x => x.sleeping) hlookup
  have hw : 0 + (w.perform (.destroy h)).woken = w.woken :=
    AList.sumBy_erase (f := fun _ x => x.waking) hlookup
  have ho : (Borrower.has b).holding + (w.perform (.destroy h)).out = w.out :=
    AList.sumBy_erase (f := fun _ x => x.holding) hlookup
  have hloses : w.loses (.destroy h) = (Borrower.has b).holding := by
    rw [loses, hlookup, Option.elim_some]
  rw [Nat.zero_add] at ha hw
  rw [hloses]
  have hplaces : w.record.pool.size + (w.perform (.destroy h)).out + (Borrower.has b).holding =
      w.record.pool.size + w.out + 0 := by
    omega
  by_cases hempty : b.releaseFn = none
  · rw [holding_of_not hempty, Nat.zero_add] at ho
    refine ⟨Or.inr (.stays ?_), hplaces, rfl⟩
    have hrecord : (w.perform (.destroy h)).record = w.record := rfl
    simp only [turnstile, ha, hw, ho, hrecord]
  · rw [holding_of_callsBack hempty] at ho
    exact ⟨Or.inr (.loses rfl ha hw (ho.symm.trans (Nat.add_comm 1 _))), hplaces, rfl⟩

theorem step_counted {step : LendingStep} (hlegal : w.Proper step) :
    Counted w (w.perform step) (w.grows step) (w.loses step) ∧
      (w.Serving step → Turnstile.Serves w.turnstile (w.perform step).turnstile) := by
  cases step with
  | acquireStream policy h => exact ⟨acquire_counted policy hlegal, fun hno => hno.elim⟩
  | wakeUp h => exact ⟨wakeUp_counted hlegal, fun hno => hno.elim⟩
  | resume h =>
      obtain ⟨hserves, hcounted⟩ := resume_counted hlegal
      exact ⟨hcounted, fun _ => hserves⟩
  | reset h notified =>
      have hnotify : w.Notifies h notified := hlegal
      obtain ⟨b, hb, -⟩ := hlegal
      have hperform : w.perform (.reset h notified) = w.resetHandle h b notified := by
        simp only [perform, Option.mem_def.mp hb]
      obtain ⟨hserves, hcounted⟩ := reset_counted hb hnotify
      rw [hperform]
      refine ⟨hcounted, fun ⟨b', hb', hfull⟩ => hserves ?_⟩
      rwa [Option.some.inj (hb.symm.trans hb')]
  | moveConstruct h src =>
      obtain ⟨hnew, hsrc⟩ := hlegal
      have hne : h ≠ src := by
        intro heq
        rw [← heq, handleAt, AList.lookup_eq_none.mpr hnew] at hsrc
        cases hsrc
      obtain ⟨hturn, hrecord⟩ := moveInto_turnstile hsrc hne (.inl hnew)
      exact ⟨.of_same hturn (congrArg PoolRecord.created hrecord), fun hno => hno.elim⟩
  | moveAssign dst src notified =>
      refine ⟨?_, fun hno => hno.elim⟩
      obtain ⟨hsrc, hif⟩ := hlegal
      by_cases heq : dst = src
      · simp only [perform, if_pos heq]
        exact .of_same rfl rfl
      · rw [if_neg heq] at hif
        have hnotify := hif
        obtain ⟨b, hb, -⟩ := hif
        have hperform : w.perform (.moveAssign dst src notified) =
            (w.resetHandle dst b notified).moveInto dst src := by
          simp only [perform, if_neg heq, Option.mem_def.mp hb]
        obtain ⟨hself, hothers⟩ := handleAt_resetHandle hb hnotify
        have hstill : ((w.resetHandle dst b notified).handleAt src).isSome := by
          rwa [hothers src (Ne.symm heq) hsrc]
        obtain ⟨hturn, hrecord⟩ := moveInto_turnstile hstill heq (.inr hself)
        rw [hperform]
        exact (reset_counted hb hnotify).2.then_same hturn hrecord
  | destroy h =>
      obtain ⟨b, hb⟩ := Option.isSome_iff_exists.mp hlegal
      exact ⟨destroy_counted hb, fun hno => hno.elim⟩

/-! ## Whole runs -/

theorem awake_step {step : LendingStep} (hawake : w.turnstile.Awake)
    (hlegal : w.Proper step) : (w.perform step).turnstile.Awake := by
  rcases (step_counted hlegal).1.step with hserves | hdisturbs
  · exact hawake.serves hserves
  · exact hawake.disturbs hdisturbs

theorem work_lt {step : LendingStep} (hlegal : w.Proper step) (hserving : w.Serving step) :
    (w.perform step).turnstile.work < w.turnstile.work :=
  ((step_counted hlegal).2 hserving).work_lt

theorem exists_holding {f : Borrower → Nat} (hpos : 0 < w.borrowers.sumBy fun _ x => f x) :
    ∃ h x, w.borrowers.lookup h = some x ∧ 0 < f x := by
  by_contra hno
  have hzero : (w.borrowers.sumBy fun _ x => f x) = 0 := by
    refine AList.sumBy_zero fun e he => Nat.eq_zero_of_not_pos fun hpos => hno ?_
    exact ⟨e.1, e.2, AList.mem_entries_iff.mp he, hpos⟩
  omega

/-- Where nothing is left to serve, no call is on the way and no stream is out. -/
theorem drained_counts (hdrained : machine.Drained Serving w) : w.woken = 0 ∧ w.out = 0 := by
  constructor
  · refine Nat.eq_zero_of_not_pos fun hpos => ?_
    obtain ⟨h, x, hx, hwaking⟩ := exists_holding hpos
    cases x with
    | woken => exact hdrained (.resume h) hx trivial
    | asleep | has => exact absurd hwaking (Nat.lt_irrefl 0)
  · refine Nat.eq_zero_of_not_pos fun hpos => ?_
    obtain ⟨h, x, hx, hholding⟩ := exists_holding hpos
    cases x with
    | asleep | woken => exact absurd hholding (Nat.lt_irrefl 0)
    | has b =>
        have hb := handleAt_eq_some.mpr hx
        have hfull : b.releaseFn ≠ none := by
          intro hempty
          rw [holding_of_not hempty] at hholding
          exact Nat.lt_irrefl 0 hholding
        rcases Nat.eq_zero_or_pos w.asleep with hquiet | hsome
        · refine hdrained (.reset h none) ⟨b, hb, ?_⟩ ⟨b, hb, hfull⟩
          rw [if_neg hfull]
          exact ⟨fun _ => hquiet, fun h' hno => by cases hno⟩
        · obtain ⟨h', x', hx', hsleeps⟩ := exists_holding hsome
          have hasleep : x' = .asleep := by
            cases x' with
            | asleep => rfl
            | woken | has => exact absurd hsleeps (Nat.lt_irrefl 0)
          subst hasleep
          refine hdrained (.reset h (some h')) ⟨b, hb, ?_⟩ ⟨b, hb, hfull⟩
          rw [if_neg hfull]
          refine ⟨fun hno => (Option.some_ne_none h' hno).elim, fun h'' hmem => ?_⟩
          cases hmem
          exact hx'

/-- Streams are in the pool, out, or lost. -/
theorem run_places {steps : List LendingStep} (hlaw : machine.Lawful w steps) :
    (machine.run w steps).record.pool.size + (machine.run w steps).out +
        machine.tally loses w steps =
      w.record.pool.size + w.out + machine.tally grows w steps ∧
    (machine.run w steps).record.created = w.record.created + machine.tally grows w steps := by
  induction steps generalizing w with
  | nil => exact ⟨rfl, rfl⟩
  | cons step steps ih =>
      obtain ⟨hcounted, -⟩ := step_counted hlaw.1
      obtain ⟨hplaces, hcreated⟩ := ih hlaw.2
      have hnow := hcounted.places
      have hmade := hcounted.created
      simp only [Machine.run_cons, Machine.tally]
      simp only [machine] at hplaces hcreated ⊢
      omega

theorem serving_places {step : LendingStep} (hlegal : w.Proper step)
    (hserving : w.Serving step) :
    (w.perform step).record.pool.size + (w.perform step).out = w.record.pool.size + w.out := by
  have hplaces := (step_counted hlegal).1.places
  cases step with
  | resume | reset => exact hplaces
  | _ => exact hserving.elim

/-- After any run, a call sleeps with no other on the way only if all streams are
out or lost; and however those that have streams and those that are woken go on, they
come to an end, and then nobody waits unless all streams were lost. -/
theorem always_served {pool : Addr} {n : Nat} {made : ExclusiveStreamPool}
    (hmade : ExclusiveStreamPool.create pool n = .ok made) {steps : List LendingStep}
    (hlaw : machine.Lawful (opened pool n made) steps) :
    let w := machine.run (opened pool n made) steps
    let lost := machine.tally loses (opened pool n made) steps
    (w.woken = 0 → w.asleep ≠ 0 →
        w.record.pool.size = 0 ∧ w.out + lost = w.record.created) ∧
      (∀ more, machine.Lawful w more → machine.Every Serving w more →
        more.length ≤ 2 * w.asleep + 3 * w.woken + 2 * w.out ∧
          (machine.Drained Serving (machine.run w more) → lost ≠ w.record.created →
            (machine.run w more).asleep = 0 ∧ (machine.run w more).woken = 0)) ∧
      ∃ more, machine.Lawful w more ∧ machine.Every Serving w more ∧
        machine.Drained Serving (machine.run w more) := by
  intro w lost
  have hsize : made.size = n := by
    unfold ExclusiveStreamPool.create at hmade
    split at hmade
    · cases hmade
    · cases hmade
      rw [ExclusiveStreamPool.size, List.length_map, List.length_range]
  have hawake : w.turnstile.Awake :=
    (Machine.always_of_lawful (I := fun v => v.turnstile.Awake)
      (fun _ _ h hlegal => awake_step h hlegal) (Or.inl rfl) hlaw).last
  have hall : w.record.pool.size + w.out + lost = w.record.created := by
    obtain ⟨hplaces, hcreated⟩ := run_places hlaw
    have hstart : (opened pool n made).record.pool.size + (opened pool n made).out =
        (opened pool n made).record.created := hsize
    show (machine.run (opened pool n made) steps).record.pool.size +
      (machine.run (opened pool n made) steps).out +
        machine.tally loses (opened pool n made) steps =
      (machine.run (opened pool n made) steps).record.created
    omega
  refine ⟨fun hwoken hasleep => ?_, fun more hmore hserving => ⟨?_, fun hdrained hlost => ?_⟩,
    ?_⟩
  · have hidle : w.record.pool.size = 0 := hawake.idle_eq_zero hwoken hasleep
    exact ⟨hidle, by omega⟩
  · have hlength := Machine.length_add_le (I := fun _ => True) (f := fun v => v.turnstile.work)
      (fun _ _ _ _ => trivial) (fun _ _ _ hlegal hserves => work_lt hlegal hserves) trivial
      hmore hserving
    exact (Nat.le_add_right _ _).trans hlength
  · have hkept := (Machine.always_of_every (I := fun v => v.turnstile.Awake ∧
        v.record.pool.size + v.out = w.record.pool.size + w.out)
      (fun v step h hlegal hserves => ⟨awake_step h.1 hlegal,
        (serving_places hlegal hserves).trans h.2⟩) ⟨hawake, rfl⟩ hmore hserving).last
    obtain ⟨hwoken, hout⟩ := drained_counts hdrained
    refine ⟨by_contra fun hasleep => hlost ?_, hwoken⟩
    have hidle : (machine.run w more).record.pool.size = 0 :=
      hkept.1.idle_eq_zero hwoken hasleep
    omega
  · exact Machine.exists_drained (I := fun _ => True) (f := fun v => v.turnstile.work)
      (fun _ _ _ _ => trivial) (fun _ _ _ hlegal hserves => work_lt hlegal hserves) trivial

/-- One stream and three callers: the one notified is overtaken and sleeps again. -/
def overtaken : List LendingStep :=
  [.acquireStream .BLOCK 10, .acquireStream .BLOCK 11, .reset 10 (some 11),
    .acquireStream .BLOCK 12, .resume 11]

theorem always_served_overtaken :
    let w := machine.run (opened 0 1 ⟨[some ⟨0, 0⟩]⟩) overtaken
    let lost := machine.tally loses (opened 0 1 ⟨[some ⟨0, 0⟩]⟩) overtaken
    (w.woken = 0 → w.asleep ≠ 0 →
        w.record.pool.size = 0 ∧ w.out + lost = w.record.created) ∧
      (∀ more, machine.Lawful w more → machine.Every Serving w more →
        more.length ≤ 2 * w.asleep + 3 * w.woken + 2 * w.out ∧
          (machine.Drained Serving (machine.run w more) → lost ≠ w.record.created →
            (machine.run w more).asleep = 0 ∧ (machine.run w more).woken = 0)) ∧
      ∃ more, machine.Lawful w more ∧ machine.Every Serving w more ∧
        machine.Drained Serving (machine.run w more) :=
  always_served (show ExclusiveStreamPool.create 0 1 = .ok ⟨[some ⟨0, 0⟩]⟩ from rfl)
    (show machine.Every Proper _ _ by decide)

end LendingWorld

end CuCascade.Memory

import CuCascade.Memory.ChannelWorld
import CuCascade.Proofs.Reservations

/-!
# What the channel knows and whom it wakes

The count of a channel is lowered by each notifier that dies and raised by
none. It agrees with the number of live notifiers until the first of them is
made, and whether it does is the only question: the flag and the end of the
channel are reported as they are in every run.

As to waking, the two conditions that stay true once they are true need
everybody who waits to be woken. `release_notifier` does this, `shutdown` wakes
one thread. A second one that waits is then left behind as soon as the threads
that were awake have returned, unless somebody happens to notify again. So a
run is safe if no `shutdown` finds two threads asleep, and if one does, the
threads that are awake only have to go on for the other to be stranded.
-/

namespace CuCascade.Memory

namespace NotificationChannel

/-- What `wait` waits for. -/
def Ready (c : NotificationChannel) : Prop :=
  c.hasBeenNotified = true ∨ c.nActiveNotifiers = 0 ∨ c.isRunning = false

instance (c : NotificationChannel) : Decidable c.Ready :=
  inferInstanceAs (Decidable (_ ∨ _))

/-- The fields a status is read off. -/
def Reports (c : NotificationChannel) : WaitStatus → Prop
  | .IDLE => c.nActiveNotifiers = 0
  | .NOTIFIED => c.hasBeenNotified = true
  | .SHUTDOWN => c.isRunning = false

variable {c c' : NotificationChannel}

theorem pollWait_none (h : c.pollWait = (c', none)) :
    c' = c ∧ ¬ c.Ready := by
  obtain ⟨notified, n, running⟩ := c
  simp only [pollWait] at h
  split at h
  · cases h
  · rename_i hpred
    cases h
    cases notified <;> cases running <;> simp_all [Ready]

theorem pollWait_some {status : WaitStatus} (h : c.pollWait = (c', some status)) :
    c' = { c with hasBeenNotified := false } ∧ c.Reports status := by
  obtain ⟨notified, n, running⟩ := c
  simp only [pollWait] at h
  split at h
  · rename_i hpred
    cases h
    refine ⟨rfl, ?_⟩
    cases notified <;> cases running <;> simp_all [Reports]
  · cases h

/-- Once the channel is shut down every evaluation ends the wait. -/
theorem pollWait_stopped (h : c.isRunning = false) :
    c.pollWait = ({ c with hasBeenNotified := false }, some .SHUTDOWN) := by
  simp [pollWait, h]

end NotificationChannel

/-- The status says what was so. -/
def WaitReturn.Warranted (r : WaitReturn) : Prop :=
  match r.status with
  | .IDLE => r.alive = 0
  | .NOTIFIED => r.posted = true
  | .SHUTDOWN => r.stopped = true

namespace ChannelWorld

open NotificationChannel

/-! ## The count and the statuses -/

/-- The count is that of the live notifiers, and each wait returned for the
reason it gave. -/
structure KnowsNotifiers (w : ChannelWorld) : Prop where
  count : w.channel.nActiveNotifiers.toNat = w.notifiers.count
  returns : ∀ r ∈ w.returns, r.Warranted

/-- The call makes no notifier. -/
def MakesNone (_ : ChannelWorld) (op : ChannelOp) : Prop :=
  ∀ id, op ≠ .getNotifier id

/-- The notifier that the call makes. -/
def made : ChannelOp → Option Nat
  | .getNotifier id => some id
  | _ => none

theorem makesNone_iff {w : ChannelWorld} {op : ChannelOp} :
    made op = none ↔ w.MakesNone op := by
  cases op <;> simp [made, MakesNone]

instance (w : ChannelWorld) (op : ChannelOp) : Decidable (w.MakesNone op) :=
  decidable_of_iff _ makesNone_iff

/-- The flag is up only after a post that no wait has reported, and the channel
is down only after `shutdown`. -/
structure Candid (w : ChannelWorld) : Prop where
  notified : w.channel.hasBeenNotified = true → w.posted = true
  running : w.channel.isRunning = false → w.stopped = true

variable {w : ChannelWorld} {op : ChannelOp} {t : Nat} {woken : Option Nat}

@[simp] theorem notifyOne_channel : (w.notifyOne woken).channel = w.channel := by
  cases woken <;> rfl

@[simp] theorem notifyOne_notifiers :
    (w.notifyOne woken).notifiers = w.notifiers := by
  cases woken <;> rfl

@[simp] theorem notifyOne_posted : (w.notifyOne woken).posted = w.posted := by
  cases woken <;> rfl

@[simp] theorem notifyOne_stopped : (w.notifyOne woken).stopped = w.stopped := by
  cases woken <;> rfl

@[simp] theorem notifyOne_returns : (w.notifyOne woken).returns = w.returns := by
  cases woken <;> rfl

theorem candid_evaluate (h : w.Candid) : (w.evaluate t).Candid := by
  simp only [evaluate]
  rcases hpoll : w.channel.pollWait with ⟨c, status⟩
  cases status with
  | none =>
      obtain ⟨rfl, -⟩ := pollWait_none hpoll
      exact ⟨h.notified, h.running⟩
  | some status =>
      obtain ⟨rfl, -⟩ := pollWait_some hpoll
      exact ⟨nofun, h.running⟩

theorem candid_next (h : w.Candid) : (w.next op).Candid := by
  cases op with
  | getNotifier id => exact ⟨h.notified, h.running⟩
  | post id woken =>
      simp only [next]
      exact ⟨fun _ => by simp, by simpa [notify] using h.running⟩
  | destroyNotifier id =>
      simp only [next]
      split
      · exact ⟨h.notified, h.running⟩
      · exact ⟨h.notified, h.running⟩
  | wait t => exact candid_evaluate h
  | resume t => exact candid_evaluate h
  | shutdown woken =>
      simp only [next]
      exact ⟨by simpa [shutdown] using h.notified, fun _ => by simp⟩

theorem knowsNotifiers_evaluate (hc : w.Candid) (h : w.KnowsNotifiers) :
    (w.evaluate t).KnowsNotifiers := by
  simp only [evaluate]
  rcases hpoll : w.channel.pollWait with ⟨c, status⟩
  cases status with
  | none =>
      obtain ⟨rfl, -⟩ := pollWait_none hpoll
      exact ⟨h.count, h.returns⟩
  | some status =>
      obtain ⟨rfl, hreports⟩ := pollWait_some hpoll
      refine ⟨h.count, ?_⟩
      intro r hr
      rcases List.mem_cons.mp hr with rfl | hr
      · cases status with
        | IDLE =>
            show w.notifiers.count = 0
            rw [← h.count, show w.channel.nActiveNotifiers = 0 from hreports]
            rfl
        | NOTIFIED => exact hc.notified hreports
        | SHUTDOWN => exact hc.running hreports
      · exact h.returns r hr

/-- A channel that knows its notifiers knows them after a call exactly if the
call made none. -/
theorem knowsNotifiers_next_iff (hc : w.Candid) (h : w.KnowsNotifiers)
    (hop : w.Proper op) : (w.next op).KnowsNotifiers ↔ w.MakesNone op := by
  cases op with
  | getNotifier id =>
      refine iff_of_false (fun h' => ?_) (fun h' => h' id rfl)
      have hcount := h'.count
      simp only [next, getNotifier, AList.count_insert_new hop] at hcount
      rw [h.count] at hcount
      omega
  | post id woken =>
      refine iff_of_true ?_ (makesNone_iff.mp rfl)
      simp only [next]
      exact ⟨by simpa [notify] using h.count, by simpa using h.returns⟩
  | destroyNotifier id =>
      refine iff_of_true ?_ (makesNone_iff.mp rfl)
      obtain ⟨notifier, hid⟩ := AList.exists_lookup hop
      have hcount := AList.count_erase hid
      have hone : (1 : UInt64).toNat = 1 := rfl
      have hsub := Word.toNat_sub (a := w.channel.nActiveNotifiers) (b := 1)
        (by rw [h.count]; omega)
      have hafter : (w.channel.nActiveNotifiers - 1).toNat =
          (w.notifiers.erase id).count := by
        rw [hsub, h.count, hone]
        omega
      simp only [next]
      split
      · exact ⟨hafter, h.returns⟩
      · exact ⟨hafter, h.returns⟩
  | wait t =>
      exact iff_of_true (knowsNotifiers_evaluate hc h) (makesNone_iff.mp rfl)
  | resume t =>
      exact iff_of_true (knowsNotifiers_evaluate hc h) (makesNone_iff.mp rfl)
  | shutdown woken =>
      refine iff_of_true ?_ (makesNone_iff.mp rfl)
      simp only [next]
      exact ⟨by simpa [shutdown] using h.count, by simpa using h.returns⟩

/-- `make_reservation` does not fall back: it never waits. -/
theorem makeReservation_waited (ndebug : Bool) (self : Addr) (size : UInt64)
    (this : Nat) (spaces : Spaces) (woken : List Spaces) :
    (MemorySpace.makeReservation ndebug self size this spaces woken).waited =
      [] := by
  rw [makeReservation_eq]
  rfl

/-- The channel knows its notifiers throughout a run exactly if the run makes
none; and `make_reservation` never falls back for want of one. -/
theorem always_knowsNotifiers_iff (self : Addr) {ops : List ChannelOp}
    (hlaw : (machine Proper).Lawful (fresh self) ops) :
    ((machine Proper).Always KnowsNotifiers (fresh self) ops ∧
      ∀ ndebug p size this spaces woken, .IDLE ∉
        (MemorySpace.makeReservation ndebug p size this spaces woken).waited) ↔
      (machine Proper).Every MakesNone (fresh self) ops := by
  have hrun : (machine Proper).Always KnowsNotifiers (fresh self) ops ↔
      (machine Proper).Every MakesNone (fresh self) ops := by
    refine Machine.always_iff_every (J := Candid) ?_ ?_ ⟨nofun, nofun⟩
      ⟨rfl, nofun⟩ hlaw
    · intro w op hc _ _ _
      exact candid_next hc
    · intro w op hc h hop
      exact knowsNotifiers_next_iff hc h hop
  rw [hrun, and_iff_left]
  intro ndebug p size this spaces woken
  rw [makeReservation_waited]
  exact List.not_mem_nil

theorem always_knowsNotifiers_without :
    (machine Proper).Always KnowsNotifiers (fresh 0)
        [.wait 1, .shutdown none, .wait 2] ∧
      ∀ ndebug p size this spaces woken, .IDLE ∉
        (MemorySpace.makeReservation ndebug p size this spaces woken).waited :=
  (always_knowsNotifiers_iff 0
    (show (machine Proper).Every Proper _ _ by decide)).mpr (by decide)

/-- With one notifier alive the count is 0 and `wait` returns `IDLE`. -/
theorem idle_beside_notifier :
    (machine Proper).Lawful (fresh 0) [.getNotifier 1, .wait 2] ∧
      ¬ (machine Proper).Always KnowsNotifiers (fresh 0)
        [.getNotifier 1, .wait 2] := by
  refine ⟨show (machine Proper).Every Proper _ _ by decide, ?_⟩
  intro h
  have hreturn := h.last.returns ⟨.IDLE, 1, false, false⟩ (by decide)
  exact absurd hreturn (show ¬ 1 = 0 by decide)

/-! ## Who is left asleep -/

/-- Somebody is asleep who could go on, and nobody is awake. -/
structure Stranded (w : ChannelWorld) : Prop where
  blocked : ∃ t, w.Blocked t
  asleep : w.waiters.All fun _ s => s = .blocked
  ready : w.channel.Ready

/-- `shutdown` finds at most one thread asleep. -/
def FindsOne (w : ChannelWorld) : ChannelOp → Prop
  | .shutdown _ => w.waiters.All fun t s => s = .blocked →
      w.waiters.All fun u s' => s' = .blocked → t = u
  | _ => True

instance (w : ChannelWorld) : (op : ChannelOp) → Decidable (w.FindsOne op)
  | .shutdown _ => inferInstanceAs (Decidable (w.waiters.All _))
  | .getNotifier _ | .post _ _ | .destroyNotifier _ | .wait _ | .resume _ =>
      isTrue trivial

def NoneBlocked (w : ChannelWorld) : Prop := ∀ t, ¬ w.Blocked t

/-- Nobody sleeps through a condition that stays, and whoever could take the
notification has somebody awake before it. -/
structure Wakeful (w : ChannelWorld) : Prop where
  idle : w.channel.nActiveNotifiers = 0 → w.NoneBlocked
  stopped : w.channel.isRunning = false → w.NoneBlocked
  notified : w.channel.hasBeenNotified = true →
    w.NoneBlocked ∨ ∃ t, w.waiters.lookup t = some .runnable

theorem Wakeful.of_noneBlocked (h : w.NoneBlocked) : w.Wakeful :=
  ⟨fun _ => h, fun _ => h, fun _ => Or.inl h⟩

theorem Wakeful.not_stranded (h : w.Wakeful) : ¬ w.Stranded := by
  rintro ⟨⟨t, hb⟩, hasleep, hready⟩
  rcases hready with hnotified | hidle | hstopped
  · rcases h.notified hnotified with hnone | ⟨u, hu⟩
    · exact hnone t hb
    · cases hasleep.get hu
  · exact h.idle hidle t hb
  · exact h.stopped hstopped t hb

theorem blocked_insert {u : Nat} {s : Waiter} {waiters : Table Nat Waiter}
    (h : (waiters.insert t s).lookup u = some .blocked) (hs : s ≠ .blocked) :
    u ≠ t ∧ waiters.lookup u = some .blocked := by
  by_cases hu : u = t
  · subst hu
    rw [AList.lookup_insert, Option.some.injEq] at h
    exact absurd h hs
  · rw [AList.lookup_insert_ne hu] at h
    exact ⟨hu, h⟩

/-- Whom `notify_one` wakes is not blocked any more. -/
theorem blocked_notifyOne {u : Nat} (h : (w.notifyOne woken).Blocked u) :
    woken ≠ some u ∧ w.Blocked u := by
  cases woken with
  | none => exact ⟨nofun, h⟩
  | some t =>
      obtain ⟨hne, hb⟩ := blocked_insert h (by decide)
      exact ⟨fun heq => hne (Option.some.inj heq).symm, hb⟩

/-- `notify_one` leaves nobody asleep or somebody awake. -/
theorem notifyOne_wakes (h : w.MayWake woken) :
    (w.notifyOne woken).NoneBlocked ∨
      ∃ t, (w.notifyOne woken).waiters.lookup t = some .runnable := by
  cases woken with
  | none =>
      refine Or.inl fun t hb => ?_
      cases h.get hb
  | some t => exact Or.inr ⟨t, AList.lookup_insert _⟩

theorem noneBlocked_notifyAll : w.notifyAll.NoneBlocked := by
  intro t h
  simp only [Blocked, notifyAll, AList.lookup_mapVal] at h
  cases hl : w.waiters.lookup t with
  | none =>
      rw [hl] at h
      cases h
  | some s =>
      rw [hl] at h
      cases h

theorem wakeful_evaluate (h : w.Wakeful) : (w.evaluate t).Wakeful := by
  simp only [evaluate]
  rcases hpoll : w.channel.pollWait with ⟨c, status⟩
  cases status with
  | none =>
      obtain ⟨rfl, hnot⟩ := pollWait_none hpoll
      exact ⟨fun hidle => absurd (Or.inr (Or.inl hidle)) hnot,
        fun hstopped => absurd (Or.inr (Or.inr hstopped)) hnot,
        fun hnotified => absurd (Or.inl hnotified) hnot⟩
  | some status =>
      obtain ⟨rfl, -⟩ := pollWait_some hpoll
      exact ⟨fun hidle u hu => h.idle hidle u (AList.lookup_of_lookup_erase hu).2,
        fun hstopped u hu =>
          h.stopped hstopped u (AList.lookup_of_lookup_erase hu).2, nofun⟩

/-- A `shutdown` that finds at most one thread asleep leaves none. -/
theorem noneBlocked_shutdown (hone : w.FindsOne (.shutdown woken))
    (hwake : w.MayWake woken) : (w.notifyOne woken).NoneBlocked := by
  intro u hu
  obtain ⟨hne, hb⟩ := blocked_notifyOne hu
  cases woken with
  | none => cases hwake.get hb
  | some t => exact hne (congrArg some ((hone.get hwake rfl).get hb rfl))

theorem wakeful_next (h : w.Wakeful) (hop : w.Prompt op) (hone : w.FindsOne op) :
    (w.next op).Wakeful := by
  cases op with
  | getNotifier id => exact ⟨h.idle, h.stopped, h.notified⟩
  | post id woken =>
      refine ⟨fun hidle u hu => ?_, fun hstopped u hu => ?_, fun _ => ?_⟩
      · simp only [next, notifyOne_channel, notify] at hidle
        exact h.idle hidle u (blocked_notifyOne hu).2
      · simp only [next, notifyOne_channel, notify] at hstopped
        exact h.stopped hstopped u (blocked_notifyOne hu).2
      · exact notifyOne_wakes (w := { w with
          channel := w.channel.notify, posted := true }) hop.2
  | destroyNotifier id =>
      simp only [next]
      split
      · exact .of_noneBlocked noneBlocked_notifyAll
      · rename_i hne
        exact ⟨fun hidle => absurd hidle hne, h.stopped, h.notified⟩
  | wait t => exact wakeful_evaluate h
  | resume t => exact wakeful_evaluate h
  | shutdown woken =>
      exact .of_noneBlocked (noneBlocked_shutdown (w := { w with
        channel := w.channel.shutdown, stopped := true }) hone hop)

/-- A thread awake on a channel that is shut down returns. -/
theorem evaluate_stopped (h : w.channel.isRunning = false) :
    (w.evaluate t).channel.isRunning = false ∧
      (w.evaluate t).waiters = w.waiters.erase t := by
  rw [evaluate, pollWait_stopped h]
  exact ⟨h, rfl⟩

def Resumes (op : ChannelOp) : Prop := ∃ t, op = .resume t

/-- A thread asleep on a channel that is shut down is stranded once the threads
that are awake have gone on. -/
theorem exists_stranded {u : Nat} (hstopped : w.channel.isRunning = false)
    (hb : w.Blocked u) : ∃ rest : List ChannelOp, (∀ op ∈ rest, Resumes op) ∧
      (machine Prompt).Lawful w rest ∧
      ((machine Prompt).run w rest).Stranded := by
  induction hn : w.waiters.count generalizing w with
  | zero =>
      simp only [Blocked, AList.count_eq_zero.mp hn, AList.lookup_empty] at hb
      cases hb
  | succ n ih =>
      by_cases hall : w.waiters.All fun _ s => s = .blocked
      · exact ⟨[], nofun, trivial, ⟨u, hb⟩, hall, Or.inr (Or.inr hstopped)⟩
      · -- the next to return is any thread that is awake
        obtain ⟨t, ht⟩ : ∃ t, w.waiters.lookup t = some .runnable := by
          by_contra hno
          refine hall fun t s hs => ?_
          cases s with
          | blocked => rfl
          | runnable => exact absurd ⟨t, hs⟩ hno
        obtain ⟨hstopped', hwaiters⟩ := evaluate_stopped (t := t) hstopped
        have hne : u ≠ t := by
          rintro rfl
          rw [Blocked, ht] at hb
          cases hb
        have hb' : (w.evaluate t).Blocked u := by
          rw [Blocked, hwaiters, AList.lookup_erase_ne hne]
          exact hb
        have hcount := AList.count_erase ht
        rw [← hwaiters] at hcount
        obtain ⟨rest, hrest, hlaw, hstranded⟩ :=
          ih hstopped' hb' (by omega)
        refine ⟨.resume t :: rest, ?_, ⟨ht, hlaw⟩, hstranded⟩
        intro op hop
        rcases List.mem_cons.mp hop with rfl | hop
        · exact ⟨t, rfl⟩
        · exact hrest op hop

/-- A run strands nobody, wherever it is left and the threads that are awake go
on, exactly if each of its `shutdown`s finds at most one thread asleep. -/
theorem never_stranded_iff (self : Addr) {ops : List ChannelOp}
    (hlaw : (machine Prompt).Lawful (fresh self) ops) :
    (∀ pre post rest, ops = pre ++ post → (∀ op ∈ rest, Resumes op) →
      (machine Prompt).Lawful (fresh self) (pre ++ rest) →
      (machine Prompt).Always (¬ Stranded ·) (fresh self) (pre ++ rest)) ↔
      (machine Prompt).Every FindsOne (fresh self) ops := by
  constructor
  · intro h
    refine Machine.every_iff_append.mpr fun pre op post heq => ?_
    rw [heq, Machine.Lawful, Machine.every_append] at hlaw
    obtain ⟨hpre, hop, -⟩ := hlaw
    cases op with
    | shutdown woken =>
        by_contra hmany
        -- somebody else than the thread that is picked stays asleep
        obtain ⟨u, hu⟩ : ∃ u, (((machine Prompt).run (fresh self) pre).next
            (.shutdown woken)).Blocked u := by
          by_contra hnone
          refine hmany fun t s ht hs v s' hv hs' => ?_
          subst hs
          subst hs'
          have hwoken : ∀ u, ((machine Prompt).run (fresh self) pre).Blocked u →
              woken = some u := by
            intro u hu
            by_contra hne
            refine hnone ⟨u, ?_⟩
            cases woken with
            | none => exact hu
            | some x =>
                have hux : u ≠ x := fun heq => hne (congrArg some heq.symm)
                exact (AList.lookup_insert_ne hux).trans hu
          exact Option.some.inj ((hwoken t ht).symm.trans (hwoken v hv))
        obtain ⟨rest, hrest, hlaw, hstranded⟩ :=
          exists_stranded (by simp [next, shutdown]) hu
        have hcontinued : pre ++ .shutdown woken :: rest =
            (pre ++ [.shutdown woken]) ++ rest := by simp
        have hall := h (pre ++ [.shutdown woken]) post rest (by simp [heq]) hrest
          (by
            rw [← hcontinued]
            exact Machine.every_append.mpr ⟨hpre, hop, hlaw⟩)
        rw [← hcontinued] at hall
        refine hall.last ?_
        rw [Machine.run_append]
        exact hstranded
    | _ => trivial
  · rintro h pre post rest rfl hrest hlaw'
    have hone : (machine Prompt).Every FindsOne (fresh self) (pre ++ rest) := by
      refine Machine.every_append.mpr ⟨(Machine.every_append.mp h).1, ?_⟩
      refine Machine.every_of_mem fun w op hop => ?_
      obtain ⟨t, rfl⟩ := hrest op hop
      trivial
    have hfresh : (fresh self).Wakeful := .of_noneBlocked nofun
    exact (Machine.always_of_every (I := Wakeful)
      (fun w op h hop hone => wakeful_next h hop hone) hfresh hlaw' hone).mono
      fun w h => h.not_stranded

/-- A thread sleeps after a notifier has died; `shutdown` wakes it. -/
def loneWaiterOps : List ChannelOp :=
  [.getNotifier 1, .getNotifier 2, .destroyNotifier 1, .wait 3, .post 2 (some 3),
    .wait 4, .resume 3, .shutdown (some 3)]

theorem never_stranded_loneWaiter :
    (machine Prompt).Lawful (fresh 0) loneWaiterOps ∧
      ∀ pre post rest, loneWaiterOps = pre ++ post → (∀ op ∈ rest, Resumes op) →
        (machine Prompt).Lawful (fresh 0) (pre ++ rest) →
        (machine Prompt).Always (¬ Stranded ·) (fresh 0) (pre ++ rest) :=
  have hlaw : (machine Prompt).Lawful (fresh 0) loneWaiterOps :=
    show (machine Prompt).Every Prompt _ _ by decide
  ⟨hlaw, (never_stranded_iff 0 hlaw).mpr (by decide)⟩

/-- Two threads sleep, `shutdown` wakes one of them, and when it has returned
the other sleeps on. -/
def strandingOps : List ChannelOp :=
  [.getNotifier 1, .destroyNotifier 1, .wait 2, .wait 3, .shutdown (some 2),
    .resume 2]

theorem stranded_by_shutdown :
    (machine Prompt).Lawful (fresh 0) strandingOps ∧
      ((machine Prompt).run (fresh 0) strandingOps).Stranded :=
  ⟨show (machine Prompt).Every Prompt _ _ by decide, ⟨3, by decide⟩, by decide,
    by decide⟩

end ChannelWorld

end CuCascade.Memory

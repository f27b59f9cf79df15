import CuCascade.Lib.Drain
import CuCascade.Lib.Table

/-!
# Mutexes that are taken in order

Threads run scripts of what they do with mutexes: they take one, give one back,
or sleep on a condition variable, which gives the mutex back and takes it again
after the thread has been woken. A thread that wants a mutex some thread has can
only wait.

The mutexes are ranked. A script keeps to the order if it takes a mutex only above
those it has, sleeps with one mutex only, and ends with none. Threads that run such
scripts never block each other for ever: of those that wait for a mutex, one that
wants a mutex of the greatest rank waits for a thread that can go on.
-/

namespace Locks

variable {μ : Type*}

inductive Action (μ : Type*) where
  | lock (m : μ)
  | unlock (m : μ)
  /-- on a condition variable, with the mutex -/
  | sleep (m : μ)

/-- A thread: what it has still to do, the mutexes it has, and whether it sleeps. -/
structure Thread (μ : Type*) where
  todo : List (Action μ)
  held : List μ
  asleep : Bool

inductive Step (μ : Type*) where
  /-- a thread that has nothing to do starts on a script -/
  | call (t : Nat) (script : List (Action μ))
  | go (t : Nat)
  | wake (t : Nat)

/-! ## Scripts -/

section Scripts

variable [DecidableEq μ] {rank : μ → Nat} {held : List μ} {m : μ}
  {script body rest : List (Action μ)}

/-- The script keeps to the order, for a thread that has the mutexes `held`. -/
def Ordered (rank : μ → Nat) : List μ → List (Action μ) → Prop
  | held, [] => held = []
  | held, .lock m :: rest => (∀ h ∈ held, rank h < rank m) ∧ Ordered rank (m :: held) rest
  | held, .unlock m :: rest => m ∈ held ∧ Ordered rank (held.erase m) rest
  | held, .sleep m :: rest => held = [m] ∧ Ordered rank [m] rest

/-- A mutex is taken for the time of `body`. -/
def within (m : μ) (body : List (Action μ)) : List (Action μ) :=
  .lock m :: body ++ [.unlock m]

/-- Nothing else is done under the mutex. -/
def alone (m : μ) : List (Action μ) := within m []

/-- The script keeps to the order and leaves the thread with what it had. -/
def Neutral (rank : μ → Nat) (held : List μ) (body : List (Action μ)) : Prop :=
  ∀ rest, Ordered rank held rest → Ordered rank held (body ++ rest)

theorem neutral_nil : Neutral rank held [] := fun _ h => h

theorem Neutral.append {body' : List (Action μ)} (h : Neutral rank held body)
    (h' : Neutral rank held body') : Neutral rank held (body ++ body') := by
  intro rest hrest
  rw [List.append_assoc]
  exact h _ (h' rest hrest)

theorem neutral_flatMap {α : Type*} {f : α → List (Action μ)} {l : List α}
    (h : ∀ a ∈ l, Neutral rank held (f a)) : Neutral rank held (l.flatMap f) := by
  induction l with
  | nil => exact neutral_nil
  | cons a l ih =>
      rw [List.flatMap_cons]
      exact (h a List.mem_cons_self).append (ih fun b hb => h b (List.mem_cons_of_mem a hb))

theorem neutral_within (hm : ∀ h ∈ held, rank h < rank m)
    (hbody : Neutral rank (m :: held) body) : Neutral rank held (within m body) := by
  intro rest hrest
  have hback : Ordered rank (m :: held) (.unlock m :: rest) := by
    refine ⟨List.mem_cons_self, ?_⟩
    rwa [List.erase_cons_head]
  have hall := hbody _ hback
  simp only [within, List.cons_append, List.append_assoc, List.nil_append]
  exact ⟨hm, hall⟩

theorem neutral_alone (hm : ∀ h ∈ held, rank h < rank m) : Neutral rank held (alone m) :=
  neutral_within hm neutral_nil

theorem neutral_sleep : Neutral rank [m] [.sleep m] := fun _ h => ⟨rfl, h⟩

theorem Neutral.ordered (h : Neutral rank [] script) : Ordered rank [] script := by
  have hnil := h [] rfl
  rwa [List.append_nil] at hnil

end Scripts

/-! ## Threads -/

section Threads

/-- The mutex a thread takes next. -/
def Thread.wants (th : Thread μ) : Option μ :=
  match th.todo with
  | .lock m :: _ => some m
  | _ => none

/-- A thread has that mutex. -/
def Taken (w : Table Nat (Thread μ)) (m : μ) : Prop :=
  ∃ e ∈ w.entries, m ∈ e.2.held

/-- The thread is awake and does not want a mutex that is taken. -/
def Ready (w : Table Nat (Thread μ)) (th : Thread μ) : Prop :=
  th.asleep = false ∧ th.todo ≠ [] ∧ ∀ m ∈ th.wants, ¬ Taken w m

/-- The thread has nothing left to do. -/
def Thread.Done (th : Thread μ) : Prop := th.todo = [] ∧ th.asleep = false

instance [DecidableEq μ] (w : Table Nat (Thread μ)) (m : μ) : Decidable (Taken w m) :=
  inferInstanceAs (Decidable (∃ e ∈ w.entries, m ∈ e.2.held))

instance [DecidableEq μ] (w : Table Nat (Thread μ)) (th : Thread μ) : Decidable (Ready w th) :=
  inferInstanceAs (Decidable (th.asleep = false ∧ th.todo ≠ [] ∧ ∀ m ∈ th.wants, ¬ Taken w m))

instance (th : Thread μ) : Decidable th.Done :=
  inferInstanceAs (Decidable (th.todo = [] ∧ th.asleep = false))

/-- An awake thread that cannot go on wants a mutex that is taken. -/
theorem wants_of_not_ready {w : Table Nat (Thread μ)} {th : Thread μ}
    (hawake : th.asleep = false) (hne : th.todo ≠ []) (hnot : ¬ Ready w th) :
    ∃ m rest, th.todo = .lock m :: rest ∧ Taken w m := by
  obtain ⟨todo, held, asleep⟩ := th
  by_contra hno
  refine hnot ⟨hawake, hne, fun m hm htaken => ?_⟩
  cases todo with
  | nil => exact hne rfl
  | cons a rest =>
      cases a with
      | lock m' =>
          obtain rfl : m' = m := Option.some.inj hm
          exact hno ⟨m', rest, rfl, htaken⟩
      | unlock | sleep => cases hm

variable [DecidableEq μ]

/-- What a thread does next. -/
def Thread.act : Thread μ → Thread μ
  | ⟨.lock m :: rest, held, _⟩ => ⟨rest, m :: held, false⟩
  | ⟨.unlock m :: rest, held, _⟩ => ⟨rest, held.erase m, false⟩
  | ⟨.sleep m :: rest, held, _⟩ => ⟨.lock m :: rest, held.erase m, true⟩
  | th => th

/-- Threads that make the calls with these scripts. -/
def machine (calls : List (Action μ) → Prop) : Machine (Table Nat (Thread μ)) (Step μ) where
  start w := w = ∅
  legal w
    | .call t script => calls script ∧ ∀ th ∈ w.lookup t, th.Done
    | .go t => ∃ th ∈ w.lookup t, Ready w th
    | .wake t => ∃ th ∈ w.lookup t, th.asleep = true
  next w
    | .call t script => w.insert t ⟨script, ((w.lookup t).map (·.held)).getD [], false⟩
    | .go t => (w.lookup t).elim w fun th => w.insert t th.act
    | .wake t => (w.lookup t).elim w fun th => w.insert t { th with asleep := false }

/-- A thread goes on by itself. -/
def Goes : Table Nat (Thread μ) → Step μ → Prop
  | _, .go _ => True
  | _, _ => False

/-- No thread is in the middle of anything: it has done all it had to, or it sleeps,
and no mutex is taken. -/
structure AtRest (w : Table Nat (Thread μ)) : Prop where
  quiet : w.All fun _ th => th.Done ∨ th.asleep = true
  free : ∀ m, ¬ Taken w m

variable {rank : μ → Nat} {calls : List (Action μ) → Prop} {w : Table Nat (Thread μ)}
  {th : Thread μ} {t : Nat}

/-- What is left of its script keeps to the order, and one that sleeps has no mutex. -/
structure Thread.Sound (rank : μ → Nat) (th : Thread μ) : Prop where
  ordered : Ordered rank th.held th.todo
  asleep : th.asleep = true → th.held = [] ∧ ∃ m rest, th.todo = .lock m :: rest

theorem Thread.Sound.act (h : th.Sound rank) (hne : th.todo ≠ []) : th.act.Sound rank := by
  obtain ⟨todo, held, asleep⟩ := th
  cases todo with
  | nil => exact absurd rfl hne
  | cons a rest =>
      obtain ⟨hordered, -⟩ := h
      cases a with
      | lock m => exact ⟨hordered.2, fun hno => by cases hno⟩
      | unlock m => exact ⟨hordered.2, fun hno => by cases hno⟩
      | sleep m =>
          obtain ⟨hheld, hrest⟩ := hordered
          obtain rfl : held = [m] := hheld
          have hnone : [m].erase m = [] := List.erase_cons_head m []
          refine ⟨?_, fun _ => ⟨hnone, m, rest, rfl⟩⟩
          show Ordered rank ([m].erase m) (.lock m :: rest)
          rw [hnone]
          exact ⟨List.forall_mem_nil _, hrest⟩

/-- A step keeps each thread to the order. -/
theorem sound_step (hcalls : ∀ script, calls script → Ordered rank [] script)
    (h : w.All fun _ th => th.Sound rank) {step : Step μ}
    (hlegal : (machine calls).legal w step) :
    ((machine calls).next w step).All fun _ th => th.Sound rank := by
  cases step with
  | call t script =>
      obtain ⟨hscript, hdone⟩ := hlegal
      have hheld : ((w.lookup t).map (·.held)).getD [] = [] := by
        cases hth : w.lookup t with
        | none => rfl
        | some th =>
            have hordered := (h.get hth).ordered
            rw [(hdone th hth).1] at hordered
            exact hordered
      refine h.insert ⟨?_, fun hno => by cases hno⟩
      rw [hheld]
      exact hcalls script hscript
  | go t =>
      obtain ⟨th, hth, hready⟩ := hlegal
      simp only [machine, Option.mem_def.mp hth, Option.elim_some]
      exact h.insert ((h.get hth).act hready.2.1)
  | wake t =>
      obtain ⟨th, hth, -⟩ := hlegal
      simp only [machine, Option.mem_def.mp hth, Option.elim_some]
      exact h.insert ⟨(h.get hth).ordered, fun hno => by cases hno⟩

/-! ## Somebody can go on -/

/-- A thread that has a mutex is in the middle of its script. -/
theorem Thread.Sound.of_mem_held {m : μ} (h : th.Sound rank) (hm : m ∈ th.held) :
    th.asleep = false ∧ th.todo ≠ [] := by
  constructor
  · rw [← Bool.not_eq_true]
    intro hasleep
    rw [(h.asleep hasleep).1] at hm
    cases hm
  · intro hnil
    have hordered := h.ordered
    rw [hnil] at hordered
    rw [show th.held = [] from hordered] at hm
    cases hm

/-- Who waits for a mutex waits for a thread that can go on: it, or one that it waits
for, and so on up the ranks. -/
theorem exists_ready_of_taken {top : Nat} (hrank : ∀ m, rank m ≤ top)
    (h : w.All fun _ th => th.Sound rank) {m : μ} (htaken : Taken w m) :
    ∃ t th, w.lookup t = some th ∧ Ready w th := by
  induction hn : top - rank m using Nat.strongRecOn generalizing m with
  | ind n ih =>
      obtain ⟨⟨t, th⟩, he, hm⟩ := htaken
      have hth := AList.mem_entries_iff.mp he
      obtain ⟨hawake, hne⟩ := (h.get hth).of_mem_held hm
      by_cases hready : Ready w th
      · exact ⟨t, th, hth, hready⟩
      · obtain ⟨m', rest, htodo, htaken'⟩ := wants_of_not_ready hawake hne hready
        have hordered := (h.get hth).ordered
        rw [htodo] at hordered
        have habove : rank m < rank m' := hordered.1 m hm
        have htop := hrank m'
        exact ih _ (by omega) htaken' rfl

theorem exists_ready {top : Nat} (hrank : ∀ m, rank m ≤ top)
    (h : w.All fun _ th => th.Sound rank) (hth : w.lookup t = some th)
    (hawake : th.asleep = false) (hne : th.todo ≠ []) :
    ∃ t th, w.lookup t = some th ∧ Ready w th := by
  by_cases hready : Ready w th
  · exact ⟨t, th, hth, hready⟩
  · obtain ⟨m, rest, -, htaken⟩ := wants_of_not_ready hawake hne hready
    exact exists_ready_of_taken hrank h htaken

/-! ## Rest -/

/-- Where no thread goes on by itself, all are done or asleep. -/
theorem atRest_of_drained {top : Nat} (hrank : ∀ m, rank m ≤ top)
    (h : w.All fun _ th => th.Sound rank)
    (hdrained : (machine calls).Drained Goes w) : AtRest w := by
  have hnone : ∀ t th, w.lookup t = some th → ¬ Ready w th := fun t th hth hready =>
    hdrained (.go t) ⟨th, hth, hready⟩ trivial
  constructor
  · intro t th hth
    cases hasleep : th.asleep with
    | true => exact Or.inr rfl
    | false =>
        refine Or.inl ⟨by_contra fun hne => ?_, hasleep⟩
        obtain ⟨t', th', hth', hready⟩ := exists_ready hrank h hth hasleep hne
        exact hnone t' th' hth' hready
  · intro m htaken
    obtain ⟨t, th, hth, hready⟩ := exists_ready_of_taken hrank h htaken
    exact hnone t th hth hready

/-- What is left of a script; to sleep leaves the mutex to be taken again. -/
def Action.work : Action μ → Nat
  | .sleep _ => 2
  | _ => 1

def Thread.work (th : Thread μ) : Nat := th.todo.foldr (fun a n => a.work + n) 0

/-- All that the threads have left to do. -/
def work (w : Table Nat (Thread μ)) : Nat := w.sumBy fun _ th => th.work

theorem Thread.work_act (hne : th.todo ≠ []) : th.act.work < th.work := by
  obtain ⟨todo, held, asleep⟩ := th
  cases todo with
  | nil => exact absurd rfl hne
  | cons a rest =>
      cases a <;> simp [Thread.act, Thread.work, Action.work]

theorem work_lt {step : Step μ} (hlegal : (machine calls).legal w step) (hgoes : Goes w step) :
    work ((machine calls).next w step) < work w := by
  cases step with
  | go t =>
      obtain ⟨th, hth, hready⟩ := hlegal
      have hact := Thread.work_act hready.2.1
      have hsum := AList.sumBy_insert (f := fun _ th => Thread.work th) (w := th.act) hth
      simp only [machine, Option.mem_def.mp hth, Option.elim_some, work]
      omega
  | call | wake => exact hgoes.elim

/-- The rule: if every call keeps to the order, then after any run the threads go on
until each is done or asleep and no mutex is taken, and that takes no more steps than
they have actions left. -/
theorem comes_to_rest {top : Nat} (hrank : ∀ m, rank m ≤ top)
    (hcalls : ∀ script, calls script → Ordered rank [] script) {steps : List (Step μ)}
    (hlaw : (machine calls).Lawful ∅ steps) :
    let w := (machine calls).run ∅ steps
    (∀ more, (machine calls).Lawful w more → (machine calls).Every Goes w more →
        more.length ≤ work w ∧
          ((machine calls).Drained Goes ((machine calls).run w more) →
            AtRest ((machine calls).run w more))) ∧
      ∃ more, (machine calls).Lawful w more ∧ (machine calls).Every Goes w more ∧
        AtRest ((machine calls).run w more) := by
  intro w
  have hsound : w.All fun _ th => th.Sound rank :=
    (Machine.always_of_lawful (M := machine calls)
      (I := fun w => w.All fun _ th => th.Sound rank)
      (fun _ _ h hlegal => sound_step hcalls h hlegal) AList.all_empty hlaw).last
  have hmore : ∀ more, (machine calls).Lawful w more →
      (machine calls).Drained Goes ((machine calls).run w more) →
        AtRest ((machine calls).run w more) := by
    intro more hmore hdrained
    have hlast := (Machine.always_of_lawful (M := machine calls)
      (I := fun w => w.All fun _ th => th.Sound rank)
      (fun _ _ h hlegal => sound_step hcalls h hlegal) hsound hmore).last
    exact atRest_of_drained hrank hlast hdrained
  refine ⟨fun more hlaw' hgoes => ⟨?_, hmore more hlaw'⟩, ?_⟩
  · have hlength := Machine.length_add_le (I := fun _ => True) (f := work)
      (fun _ _ _ _ => trivial) (fun _ _ _ hlegal hgoes => work_lt hlegal hgoes) trivial
      hlaw' hgoes
    exact (Nat.le_add_right _ _).trans hlength
  · obtain ⟨more, hlaw', hgoes, hdrained⟩ := Machine.exists_drained (M := machine calls)
      (I := fun _ => True) (f := work) (s := w) (fun _ _ _ _ => trivial)
      (fun _ _ _ hlegal hgoes => work_lt hlegal hgoes) trivial
    exact ⟨more, hlaw', hgoes, hmore more hlaw' hdrained⟩

end Threads

end Locks

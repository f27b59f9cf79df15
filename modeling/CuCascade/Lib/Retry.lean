import CuCascade.Lib.Machine
import Mathlib.Logic.Function.Basic

/-!
# Compare-exchange loops

A thread that changes a shared word without a lock loads it, works out from
what it read what to write, and writes by a weak compare-exchange. If the word
is no longer what was read, or for no reason at all, the exchange fails, and
the loop goes on with the value it found. Other threads may write between any
two accesses.

A loop is given by its body: in a local state and with a value just read it
either leaves or proposes an exchange, together with what is returned if that
succeeds and the local state to go on with if it fails. A call is followed
through the accesses it makes, each of which finds some value in the word; that
is all a call can see of the other threads. In a world of calls on one word the
values found are those the calls leave for each other.

What a call does is decided by the last value it read alone, if its local state
does not change: then it is as if the body ran at one moment, that of the
exchange.
-/

namespace Retry

variable {ι σ T ρ : Type*}

/-- What a pass through the loop decides. -/
inductive Move (σ T ρ : Type*) where
  | leave (result : ρ)
  | exchange (new : T) (result : ρ) (retry : σ)

/-- What is returned if the pass ends the loop. -/
def Move.result : Move σ T ρ → ρ
  | leave result => result
  | exchange _ result _ => result

/-- An access to the word: the value it finds, and whether it fails without
reason if it is an exchange. -/
structure Access (T : Type*) where
  found : T
  spurious : Bool

/-- Where a call stands. -/
inductive Call (σ T ρ : Type*) where
  /-- before its load -/
  | loading (state : σ)
  /-- before an exchange -/
  | trying (current new : T) (result : ρ) (retry : σ)
  /-- returned without an exchange, having last read `read` -/
  | left (read : T) (result : ρ)
  /-- returned after an exchange that turned `found` into `new` -/
  | exchanged (found new : T) (result : ρ)

/-- The call returned. -/
def Call.Returned : Call σ T ρ → Prop
  | loading _ | trying .. => False
  | left .. | exchanged .. => True

/-- The compare-exchange from `current` goes through. -/
def Access.Succeeds (a : Access T) (current : T) : Prop :=
  a.found = current ∧ a.spurious = false

instance [DecidableEq T] (a : Access T) (current : T) : Decidable (a.Succeeds current) :=
  inferInstanceAs (Decidable (a.found = current ∧ a.spurious = false))

section

variable (body : σ → T → Move σ T ρ)

/-- The loop goes on with the value just read. -/
def Call.read (state : σ) (current : T) : Call σ T ρ :=
  match body state current with
  | .leave result => .left current result
  | .exchange new result retry => .trying current new result retry

/-- What the call is about to do, or did, is what the body says of the value it
last read. -/
def Call.Justified : Call σ T ρ → Prop
  | loading _ => True
  | trying current new result retry =>
      ∃ state, body state current = .exchange new result retry
  | left read result => ∃ state, body state read = .leave result
  | exchanged found new result =>
      ∃ state retry, body state found = .exchange new result retry

variable [DecidableEq T]

/-- Where the call stands after its next access. -/
def Call.access (c : Call σ T ρ) (a : Access T) : Call σ T ρ :=
  match c with
  | loading state => read body state a.found
  | trying current new result retry =>
      if a.Succeeds current then .exchanged current new result
      else read body retry a.found
  | left read result => .left read result
  | exchanged found new result => .exchanged found new result

/-- The call through a list of accesses. -/
def Call.follow : Call σ T ρ → List (Access T) → Call σ T ρ :=
  List.foldl (Call.access body)

end

/-- What the access leaves in the word. -/
def Call.write [DecidableEq T] (c : Call σ T ρ) (a : Access T) : T :=
  match c with
  | trying current new _ _ => if a.Succeeds current then new else a.found
  | loading _ | left .. | exchanged .. => a.found

/-- What each access of a list leaves in the word. -/
def Call.leaves [DecidableEq T] (body : σ → T → Move σ T ρ) :
    Call σ T ρ → List (Access T) → List T
  | _, [] => []
  | c, a :: as => c.write a :: leaves body (c.access body a) as

/-- What the call returned. -/
def Call.result? : Call σ T ρ → Option ρ
  | loading _ | trying .. => none
  | left _ result | exchanged _ _ result => some result

section

variable {body : σ → T → Move σ T ρ} [DecidableEq T] {current new : T} {result : ρ}
  {retry : σ} {a : Access T}

@[simp] theorem Call.follow_nil (c : Call σ T ρ) : c.follow body [] = c := rfl

@[simp] theorem Call.follow_cons (c : Call σ T ρ) (a : Access T) (as : List (Access T)) :
    c.follow body (a :: as) = (c.access body a).follow body as := rfl

theorem Call.access_of_succeeds (h : a.Succeeds current) :
    (Call.trying current new result retry).access body a =
      .exchanged current new result :=
  if_pos h

theorem Call.access_of_fails (h : ¬ a.Succeeds current) :
    (Call.trying current new result retry).access body a =
      Call.read body retry a.found :=
  if_neg h

theorem Call.follow_left (read : T) (as : List (Access T)) :
    (Call.left (σ := σ) read result).follow body as = .left read result := by
  induction as with
  | nil => rfl
  | cons a as ih => exact ih

theorem Call.follow_exchanged (found : T) (as : List (Access T)) :
    (Call.exchanged (σ := σ) found new result).follow body as =
      .exchanged found new result := by
  induction as with
  | nil => rfl
  | cons a as ih => exact ih

end

/-! ## What an access writes -/

section

variable {body : σ → T → Move σ T ρ} [DecidableEq T] {c : Call σ T ρ}

/-- An access writes only if it is an exchange that goes through. -/
theorem Call.write_cases (body : σ → T → Move σ T ρ) (c : Call σ T ρ) (a : Access T) :
    c.write a = a.found ∨
      ∃ new result retry, c = .trying a.found new result retry ∧ c.write a = new ∧
        c.access body a = .exchanged a.found new result := by
  cases c with
  | loading state => exact Or.inl rfl
  | trying current new result retry =>
      by_cases h : a.Succeeds current
      · obtain rfl : a.found = current := h.1
        exact Or.inr ⟨new, result, retry, rfl, if_pos h, access_of_succeeds h⟩
      · exact Or.inl (if_neg h)
  | left read result => exact Or.inl rfl
  | exchanged found new result => exact Or.inl rfl

/-- What an access does to a call in progress: it goes on, it leaves, or it gets
its exchange through. -/
theorem Call.access_cases (body : σ → T → Move σ T ρ) {c : Call σ T ρ} (a : Access T)
    (hrun : c.result? = none) :
    (c.write a = a.found ∧ (c.access body a).result? = none) ∨
      (∃ state result, c.write a = a.found ∧ body state a.found = .leave result ∧
        c.access body a = .left a.found result) ∨
      ∃ new result retry, c = .trying a.found new result retry ∧ c.write a = new ∧
        c.access body a = .exchanged a.found new result := by
  have hread : ∀ state, (Call.read body state a.found).result? = none ∨
      ∃ result, body state a.found = .leave result ∧
        Call.read body state a.found = .left a.found result := by
    intro state
    unfold Call.read
    cases body state a.found with
    | leave result => exact Or.inr ⟨result, rfl, rfl⟩
    | exchange new result retry => exact Or.inl rfl
  cases c with
  | loading state =>
      rcases hread state with hon | ⟨result, hbody, hleft⟩
      · exact Or.inl ⟨rfl, hon⟩
      · exact Or.inr (Or.inl ⟨state, result, rfl, hbody, hleft⟩)
  | trying current new result retry =>
      by_cases h : a.Succeeds current
      · obtain rfl : a.found = current := h.1
        exact Or.inr (Or.inr ⟨new, result, retry, rfl, if_pos h, access_of_succeeds h⟩)
      · rw [access_of_fails h]
        rcases hread retry with hon | ⟨out, hbody, hleft⟩
        · exact Or.inl ⟨if_neg h, hon⟩
        · exact Or.inr (Or.inl ⟨retry, out, if_neg h, hbody, hleft⟩)
  | left read result => cases hrun
  | exchanged found new result => cases hrun

/-- A call that has left its loop has changed nothing. -/
theorem Call.leaves_of_left {read : T} {result : ρ} {as : List (Access T)}
    (h : c.follow body as = .left read result) :
    c.leaves body as = as.map (·.found) := by
  induction as generalizing c with
  | nil => rfl
  | cons a as ih =>
      rw [leaves, List.map_cons, ih h]
      cases write_cases body c a with
      | inl hkeeps => rw [hkeeps]
      | inr hwrites =>
          obtain ⟨new, out, retry, -, -, hend⟩ := hwrites
          rw [follow_cons, hend, follow_exchanged] at h
          cases h

/-- A call whose load and first exchange find the same value returns what the one
pass at that value returns. -/
theorem Call.result?_undisturbed (state : σ) (value : T) :
    ((Call.loading state).follow body [⟨value, false⟩, ⟨value, false⟩]).result? =
      some (body state value).result := by
  show ((Call.read body state value).access body ⟨value, false⟩).result? = _
  unfold Call.read
  cases body state value with
  | leave result => rfl
  | exchange new result retry =>
      have hsucc : (Access.mk value false).Succeeds value := ⟨rfl, rfl⟩
      show ((Call.trying value new result retry).access body ⟨value, false⟩).result? = _
      rw [access_of_succeeds hsucc]
      rfl

end

/-! ## A call is decided by one value -/

section

variable {body : σ → T → Move σ T ρ} {c : Call σ T ρ} {state : σ} {current : T}

theorem Call.justified_read : (Call.read body state current).Justified body := by
  unfold Call.read
  split
  · rename_i h
    exact ⟨state, h⟩
  · rename_i h
    exact ⟨state, h⟩

/-- What a call returned is what one pass returns, made at one value. -/
theorem Call.Justified.result (h : c.Justified body) {result : ρ}
    (hreturned : c.result? = some result) :
    ∃ state current, result = (body state current).result := by
  cases c with
  | loading state => cases hreturned
  | trying current new result retry => cases hreturned
  | left read result =>
      obtain ⟨state, hbody⟩ := h
      cases hreturned
      exact ⟨state, read, by rw [hbody]; rfl⟩
  | exchanged found new result =>
      obtain ⟨state, retry, hbody⟩ := h
      cases hreturned
      exact ⟨state, found, by rw [hbody]; rfl⟩

variable [DecidableEq T]

theorem Call.Justified.access (h : c.Justified body) (a : Access T) :
    (c.access body a).Justified body := by
  cases c with
  | loading state => exact justified_read
  | trying current new result retry =>
      obtain ⟨state, hbody⟩ := h
      by_cases hsucc : a.Succeeds current
      · rw [access_of_succeeds hsucc]
        exact ⟨state, retry, hbody⟩
      · rw [access_of_fails hsucc]
        exact justified_read
  | left read result => exact h
  | exchanged found new result => exact h

theorem Call.Justified.follow (h : c.Justified body) (as : List (Access T)) :
    (c.follow body as).Justified body := by
  induction as generalizing c with
  | nil => exact h
  | cons a as ih => exact ih (h.access a)

end

/-! ## The values a call reads -/

section

variable [DecidableEq T] (goesOn : T → Prop) [DecidablePred goesOn]

/-- The values read before the exchanges that failed, and the value at which one
went through, of a loop that goes on as long as `goesOn` holds of what it read. -/
def history : T → List (Access T) → List T × Option T
  | _, [] => ([], none)
  | current, a :: as =>
      if goesOn current then
        if a.Succeeds current then ([], some current)
        else
          let later := history a.found as
          (current :: later.1, later.2)
      else ([], none)

variable {goesOn} {body : σ → T → Move σ T ρ} {state : σ} {found : T}

theorem history_cons_of_succeeds {current : T} {a : Access T} {as : List (Access T)}
    (hgo : goesOn current) (h : a.Succeeds current) :
    history goesOn current (a :: as) = ([], some current) := by
  rw [history, if_pos hgo, if_pos h]

theorem history_cons_of_fails {current : T} {a : Access T} {as : List (Access T)}
    (hgo : goesOn current) (h : ¬ a.Succeeds current) :
    history goesOn current (a :: as) =
      (current :: (history goesOn a.found as).1, (history goesOn a.found as).2) := by
  rw [history, if_pos hgo, if_neg h]

/-- A loop that updates its state each time it goes on, followed to its
exchange. The state there has seen all values read before. -/
theorem follow_of_history (update : σ → T → σ) (new : σ → T → T) (result : σ → T → ρ)
    (hbody : ∀ state current, goesOn current → body state current =
      .exchange (new (update state current) current)
        (result (update state current) current) (update state current))
    {current : T} {as : List (Access T)} (h : (history goesOn current as).2 = some found) :
    let last := update ((history goesOn current as).1.foldl update state) found
    (Call.read body state current).follow body as =
      .exchanged found (new last found) (result last found) := by
  induction as generalizing state current with
  | nil => cases h
  | cons a as ih =>
      by_cases hgo : goesOn current
      · rw [Call.read, hbody state current hgo]
        by_cases hsucc : a.Succeeds current
        · rw [history_cons_of_succeeds hgo hsucc] at h ⊢
          cases h
          rw [Call.follow_cons, Call.access_of_succeeds hsucc, Call.follow_exchanged]
          rfl
        · rw [history_cons_of_fails hgo hsucc] at h ⊢
          rw [Call.follow_cons, Call.access_of_fails hsucc]
          exact ih h
      · rw [history, if_neg hgo] at h
        cases h

/-- A loop that leaves when it does not go on exchanges where its history says. -/
theorem history_of_exchanged (hleave : ∀ state current, ¬ goesOn current →
      ∃ result, body state current = .leave result)
    (hgo : ∀ state current, goesOn current →
      ∃ new result retry, body state current = .exchange new result retry)
    {current new : T} {result : ρ} {as : List (Access T)}
    (h : (Call.read body state current).follow body as = .exchanged found new result) :
    (history goesOn current as).2 = some found := by
  induction as generalizing state current with
  | nil =>
      have hread : Call.read body state current = .exchanged found new result := h
      unfold Call.read at hread
      split at hread <;> cases hread
  | cons a as ih =>
      by_cases hcurrent : goesOn current
      · obtain ⟨next, out, retry, hbody⟩ := hgo state current hcurrent
        rw [Call.read, hbody, Call.follow_cons] at h
        by_cases hsucc : a.Succeeds current
        · rw [Call.access_of_succeeds hsucc, Call.follow_exchanged] at h
          cases h
          rw [history_cons_of_succeeds hcurrent hsucc]
        · rw [Call.access_of_fails hsucc] at h
          rw [history_cons_of_fails hcurrent hsucc]
          exact ih h
      · obtain ⟨out, hbody⟩ := hleave state current hcurrent
        rw [Call.read, hbody, Call.follow_left] at h
        cases h

/-- The loop goes on at each value of its history. -/
theorem goesOn_of_mem_history (goesOn : T → Prop) [DecidablePred goesOn] (current : T)
    (as : List (Access T)) :
    (∀ read ∈ (history goesOn current as).1, goesOn read) ∧
      ∀ found ∈ (history goesOn current as).2, goesOn found := by
  induction as generalizing current with
  | nil => simp [history]
  | cons a as ih =>
      by_cases hgo : goesOn current
      · by_cases hsucc : a.Succeeds current
        · rw [history_cons_of_succeeds hgo hsucc]
          simpa using hgo
        · rw [history_cons_of_fails hgo hsucc]
          exact ⟨List.forall_mem_cons.mpr ⟨hgo, (ih a.found).1⟩, (ih a.found).2⟩
      · simp [history, hgo]

end

/-! ## Calls on one word -/

/-- The word, and where each call on it stands. -/
structure World (ι σ T ρ : Type*) where
  word : T
  calls : ι → Call σ T ρ

section

variable [DecidableEq ι] [DecidableEq T] (body : σ → T → Move σ T ρ)

/-- Call `i` makes its next access. -/
def World.step (w : World ι σ T ρ) (i : ι) (spurious : Bool) : World ι σ T ρ where
  word := (w.calls i).write ⟨w.word, spurious⟩
  calls := Function.update w.calls i ((w.calls i).access body ⟨w.word, spurious⟩)

/-- The calls make their accesses in any order. -/
def machine : Machine (World ι σ T ρ) (ι × Bool) where
  start w := ∀ i, ∃ state, w.calls i = .loading state
  legal _ _ := True
  next w step := w.step body step.1 step.2

/-- What the accesses of call `i` find in a run. -/
def accesses (i : ι) : World ι σ T ρ → List (ι × Bool) → List (Access T)
  | _, [] => []
  | w, step :: steps =>
      let later := accesses i (w.step body step.1 step.2) steps
      if step.1 = i then ⟨w.word, step.2⟩ :: later else later

variable {body} {w : World ι σ T ρ} {i : ι} {spurious : Bool}

theorem World.step_calls_self :
    (w.step body i spurious).calls i =
      (w.calls i).access body ⟨w.word, spurious⟩ :=
  Function.update_self i _ w.calls

theorem World.step_calls_of_ne {j : ι} (h : j ≠ i) :
    (w.step body i spurious).calls j = w.calls j :=
  Function.update_of_ne h _ w.calls

/-- In a run each call is followed through the accesses it makes. -/
theorem calls_run (i : ι) (w : World ι σ T ρ) (steps : List (ι × Bool)) :
    ((machine body).run w steps).calls i =
      (w.calls i).follow body (accesses body i w steps) := by
  induction steps generalizing w with
  | nil => rfl
  | cons step steps ih =>
      rw [Machine.run_cons, ih, accesses]
      show ((w.step body step.1 step.2).calls i).follow body
        (accesses body i (w.step body step.1 step.2) steps) = _
      by_cases hi : step.1 = i
      · rw [if_pos hi, Call.follow_cons, hi, World.step_calls_self]
      · rw [if_neg hi, World.step_calls_of_ne (Ne.symm hi)]

/-- In a run from calls that have not begun, what a call returned is what one
pass returns, made at one value. -/
theorem result_run {initial : T} {states : ι → σ} {steps : List (ι × Bool)} {result : ρ}
    (h : (((machine body).run ⟨initial, fun j => .loading (states j)⟩ steps).calls i).result? =
      some result) : ∃ state current, result = (body state current).result := by
  rw [calls_run] at h
  have hstart : (Call.loading (states i)).Justified body := trivial
  exact (hstart.follow _).result h

end

end Retry

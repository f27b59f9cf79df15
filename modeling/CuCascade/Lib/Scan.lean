import Mathlib.Data.List.Basic

/-!
# Loops over a list that may stop early

A loop goes over a list from the left and changes a state as it goes. At each
element the body passes or stops with a result; the loop returns the result and
the index of the element it stopped at.

The rules are for loops that look for something: `Pass` tells which elements
are passed, and passing one keeps what is known of the state. Then the loop
stops at the first element that is not passed, and nothing has changed before
it.
-/

namespace Scan

variable {σ α ρ : Type*}

/-- The loop with the given body, its first element being number `i`. -/
def scan (body : σ → α → σ × Option ρ) : σ → List α → Nat → σ × Option (Nat × ρ)
  | s, [], _ => (s, none)
  | s, a :: as, i =>
      match body s a with
      | (s, some r) => (s, some (i, r))
      | (s, none) => scan body s as (i + 1)

/-- The element at `k` is the first of the list that is not passed. -/
def FirstStop (Pass : α → Prop) (as : List α) (k : Nat) (a : α) : Prop :=
  as[k]? = some a ∧ ¬ Pass a ∧ ∀ j < k, ∀ b ∈ as[j]?, Pass b

variable {body : σ → α → σ × Option ρ} {Pass : α → Prop} {I : σ → Prop} {s : σ}
  {as : List α} {a : α} {k i : Nat}

@[simp] theorem scan_nil : scan body s [] i = (s, none) := rfl

theorem scan_cons_stop {s' : σ} {r : ρ} (h : body s a = (s', some r)) :
    scan body s (a :: as) i = (s', some (i, r)) := by
  rw [scan, h]

theorem scan_cons_pass {s' : σ} (h : body s a = (s', none)) :
    scan body s (a :: as) i = scan body s' as (i + 1) := by
  rw [scan, h]

/-- Either all elements are passed or there is a first one that is not. -/
theorem exists_firstStop (h : ¬ ∀ a ∈ as, Pass a) : ∃ k a, FirstStop Pass as k a := by
  induction as with
  | nil => exact absurd (fun a ha => by cases ha) h
  | cons a as ih =>
      by_cases ha : Pass a
      · obtain ⟨k, b, hk, hb, hbefore⟩ := ih fun hall =>
          h (List.forall_mem_cons.mpr ⟨ha, hall⟩)
        refine ⟨k + 1, b, hk, hb, fun j hj c hc => ?_⟩
        cases j with
        | zero =>
            cases hc
            exact ha
        | succ j => exact hbefore j (Nat.lt_of_succ_lt_succ hj) c hc
      · exact ⟨0, a, rfl, ha, fun j hj => absurd hj (Nat.not_lt_zero j)⟩

theorem FirstStop.mem (h : FirstStop Pass as k a) : a ∈ as :=
  List.mem_of_getElem? h.1

/-- There is at most one. -/
theorem FirstStop.unique {k' : Nat} {a' : α} (h : FirstStop Pass as k a)
    (h' : FirstStop Pass as k' a') : k = k' ∧ a = a' := by
  have hk : k = k' := by
    rcases Nat.lt_trichotomy k k' with hlt | heq | hgt
    · exact absurd (h'.2.2 k hlt a h.1) h.2.1
    · exact heq
    · exact absurd (h.2.2 k' hgt a' h'.1) h'.2.1
  subst hk
  exact ⟨rfl, Option.some.inj (h.1.symm.trans h'.1)⟩

/-- The body passes the elements that `Pass` tells of, keeping what is known of
the state, and stops at the others. -/
structure Reads (body : σ → α → σ × Option ρ) (Pass : α → Prop) (I : σ → Prop) :
    Prop where
  pass : ∀ s, I s → ∀ a, Pass a → ∃ s', body s a = (s', none) ∧ I s'
  stop : ∀ s, I s → ∀ a, ¬ Pass a → (body s a).2 ≠ none

/-- A loop that passes every element ends with what is known of the state. -/
theorem Reads.scan_of_pass (hr : Reads body Pass I) (hs : I s)
    (h : ∀ a ∈ as, Pass a) : ∃ s', I s' ∧ scan body s as i = (s', none) := by
  induction as generalizing s i with
  | nil => exact ⟨s, hs, rfl⟩
  | cons a as ih =>
      obtain ⟨ha, has⟩ := List.forall_mem_cons.mp h
      obtain ⟨s', hbody, hs'⟩ := hr.pass s hs a ha
      rw [scan_cons_pass hbody]
      exact ih hs' has

/-- A loop stops at the first element that is not passed, in a state of which
the same is known as at its start. -/
theorem Reads.scan_of_firstStop (hr : Reads body Pass I) (hs : I s)
    (h : FirstStop Pass as k a) : ∃ s', I s' ∧ scan body s as i =
      ((body s' a).1, (body s' a).2.map fun r => (i + k, r)) := by
  induction as generalizing s i k with
  | nil => cases h.1
  | cons b as ih =>
      obtain ⟨hk, ha, hbefore⟩ := h
      cases k with
      | zero =>
          cases hk
          rcases hbody : body s a with ⟨s', _ | r⟩
          · exact absurd (congrArg Prod.snd hbody) (hr.stop s hs a ha)
          · exact ⟨s, hs, by rw [scan_cons_stop hbody, hbody]; rfl⟩
      | succ k =>
          obtain ⟨s', hbody, hs'⟩ := hr.pass s hs b
            (hbefore 0 (Nat.succ_pos k) b rfl)
          obtain ⟨s'', hs'', heq⟩ := ih (i := i + 1) hs' ⟨hk, ha, fun j hj c hc =>
            hbefore (j + 1) (Nat.succ_lt_succ hj) c hc⟩
          refine ⟨s'', hs'', ?_⟩
          rw [scan_cons_pass hbody, heq, Nat.add_right_comm, Nat.add_assoc]

/-- So there are two ways for a loop to end. -/
theorem Reads.scan_cases (hr : Reads body Pass I) (hs : I s) (as : List α) (i : Nat) :
    ((∀ a ∈ as, Pass a) ∧ ∃ s', I s' ∧ scan body s as i = (s', none)) ∨
      ∃ k a s', FirstStop Pass as k a ∧ I s' ∧ scan body s as i =
        ((body s' a).1, (body s' a).2.map fun r => (i + k, r)) := by
  by_cases h : ∀ a ∈ as, Pass a
  · exact .inl ⟨h, hr.scan_of_pass hs h⟩
  · obtain ⟨k, a, hfirst⟩ := exists_firstStop h
    obtain ⟨s', hs', heq⟩ := hr.scan_of_firstStop hs hfirst
    exact .inr ⟨k, a, s', hfirst, hs', heq⟩

end Scan

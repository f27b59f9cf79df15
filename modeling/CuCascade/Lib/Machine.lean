import Mathlib.Order.Basic

/-!
# Machines driven by a list of calls

A machine is a state, the calls its users may make, and what each call does to
the state. Everything the environment decides (what a foreign component
answers, which thread moves next) is part of the call, so `next` is a function
and a run is a fold over the list of calls made.

Two predicates read a run. `Every C` looks at the steps: each call met `C` in
the state where it was made. `Always P` looks at the states: each state
visited satisfies `P`, the first and the last included. The rules below go
from a step lemma to one of the two, and `always_iff_every` is the sharp form:
when one step keeps `P` exactly if it meets `C`, a whole run stays inside `P`
exactly if all of its steps meet `C`.
-/

/-- A deterministic labelled transition system: where it may start, which
calls are allowed in a state, and what a call does. -/
structure Machine (σ α : Type*) where
  start : σ → Prop
  legal : σ → α → Prop
  next : σ → α → σ

namespace Machine

variable {σ α : Type*} (M : Machine σ α)

/-- The state after a list of calls. -/
def run : σ → List α → σ := List.foldl M.next

/-- Each call of the list meets `C` in the state where it is made. -/
def Every (C : σ → α → Prop) : σ → List α → Prop
  | _, [] => True
  | s, a :: as => C s a ∧ Every C (M.next s a) as

/-- Each state visited satisfies `P`. -/
def Always (P : σ → Prop) : σ → List α → Prop
  | s, [] => P s
  | s, a :: as => P s ∧ Always P (M.next s a) as

/-- What `f` counts of each call, added up over a run. -/
def tally (f : σ → α → Nat) : σ → List α → Nat
  | _, [] => 0
  | s, a :: as => f s a + tally f (M.next s a) as

/-- A list of calls the users are allowed to make. -/
def Lawful : σ → List α → Prop := M.Every M.legal

/-- A state some lawful run from a start state ends in. -/
def Reachable (s : σ) : Prop :=
  ∃ s₀ as, M.start s₀ ∧ M.Lawful s₀ as ∧ M.run s₀ as = s

variable {M}

instance decidableEvery {C : σ → α → Prop} [∀ s a, Decidable (C s a)] :
    (s : σ) → (as : List α) → Decidable (M.Every C s as)
  | _, [] => isTrue trivial
  | s, a :: as =>
      have := decidableEvery (C := C) (M.next s a) as
      inferInstanceAs (Decidable (C s a ∧ M.Every C (M.next s a) as))

instance decidableAlways {P : σ → Prop} [∀ s, Decidable (P s)] :
    (s : σ) → (as : List α) → Decidable (M.Always P s as)
  | s, [] => inferInstanceAs (Decidable (P s))
  | s, a :: as =>
      have := decidableAlways (P := P) (M.next s a) as
      inferInstanceAs (Decidable (P s ∧ M.Always P (M.next s a) as))

@[simp] theorem run_nil (s : σ) : M.run s [] = s := rfl

@[simp] theorem run_cons (s : σ) (a : α) (as : List α) :
    M.run s (a :: as) = M.run (M.next s a) as := rfl

@[simp] theorem every_nil (C : σ → α → Prop) (s : σ) : M.Every C s [] := trivial

@[simp] theorem every_cons {C : σ → α → Prop} {s : σ} {a : α} {as : List α} :
    M.Every C s (a :: as) ↔ C s a ∧ M.Every C (M.next s a) as := Iff.rfl

@[simp] theorem always_nil {P : σ → Prop} {s : σ} : M.Always P s [] ↔ P s := Iff.rfl

@[simp] theorem always_cons {P : σ → Prop} {s : σ} {a : α} {as : List α} :
    M.Always P s (a :: as) ↔ P s ∧ M.Always P (M.next s a) as := Iff.rfl

@[simp] theorem lawful_nil (s : σ) : M.Lawful s [] := trivial

@[simp] theorem lawful_cons {s : σ} {a : α} {as : List α} :
    M.Lawful s (a :: as) ↔ M.legal s a ∧ M.Lawful (M.next s a) as := Iff.rfl

theorem run_append (s : σ) (as bs : List α) :
    M.run s (as ++ bs) = M.run (M.run s as) bs :=
  List.foldl_append

theorem every_append {C : σ → α → Prop} {s : σ} {as bs : List α} :
    M.Every C s (as ++ bs) ↔ M.Every C s as ∧ M.Every C (M.run s as) bs := by
  induction as generalizing s with
  | nil => simp
  | cons a as ih => simp [ih, and_assoc]

/-- A condition holds throughout a run if it holds of each call in the state
that the calls before it leave. -/
theorem every_iff_append {C : σ → α → Prop} {s : σ} {as : List α} :
    M.Every C s as ↔
      ∀ as₁ a as₂, as = as₁ ++ a :: as₂ → C (M.run s as₁) a := by
  constructor
  · rintro h as₁ a as₂ rfl
    exact (every_append.mp h).2.1
  · intro h
    induction as generalizing s with
    | nil => trivial
    | cons a as ih =>
        refine ⟨h [] a as rfl, ih fun as₁ b as₂ heq => ?_⟩
        rw [heq] at h
        exact h (a :: as₁) b as₂ rfl

/-- Calls that meet `C` wherever they are made. -/
theorem every_of_mem {C : σ → α → Prop} {s : σ} {as : List α}
    (h : ∀ s, ∀ a ∈ as, C s a) : M.Every C s as := by
  induction as generalizing s with
  | nil => trivial
  | cons a as ih =>
      exact ⟨h s a List.mem_cons_self,
        ih fun s b hb => h s b (List.mem_cons_of_mem a hb)⟩

/-- A run that does not meet `C` throughout has a first call that does not. -/
theorem exists_first_not {C : σ → α → Prop} {s : σ} {as : List α}
    (h : ¬ M.Every C s as) : ∃ as₁ a as₂, as = as₁ ++ a :: as₂ ∧
      M.Every C s as₁ ∧ ¬ C (M.run s as₁) a := by
  induction as generalizing s with
  | nil => exact absurd trivial h
  | cons a as ih =>
      by_cases hC : C s a
      · obtain ⟨as₁, b, as₂, rfl, hbefore, hnot⟩ := ih fun hall => h ⟨hC, hall⟩
        exact ⟨a :: as₁, b, as₂, rfl, ⟨hC, hbefore⟩, hnot⟩
      · exact ⟨[], a, as, rfl, trivial, hC⟩

/-- What each legal call that meets `C` meets, a run whose calls all meet `C`
meets throughout. -/
theorem every_imp {C D : σ → α → Prop} (h : ∀ s a, M.legal s a → C s a → D s a)
    {s : σ} {as : List α} (hlaw : M.Lawful s as) (hC : M.Every C s as) :
    M.Every D s as := by
  induction as generalizing s with
  | nil => trivial
  | cons a as ih => exact ⟨h s a hlaw.1 hC.1, ih hlaw.2 hC.2⟩

theorem Every.mono {C D : σ → α → Prop} (h : ∀ s a, C s a → D s a) {s : σ}
    {as : List α} (hC : M.Every C s as) : M.Every D s as := by
  induction as generalizing s with
  | nil => trivial
  | cons a as ih => exact ⟨h s a hC.1, ih hC.2⟩

theorem Always.head {P : σ → Prop} {s : σ} {as : List α}
    (h : M.Always P s as) : P s := by
  cases as with
  | nil => exact h
  | cons a as => exact h.1

theorem Always.last {P : σ → Prop} {s : σ} {as : List α}
    (h : M.Always P s as) : P (M.run s as) := by
  induction as generalizing s with
  | nil => exact h
  | cons a as ih => exact ih h.2

theorem Always.mono {P Q : σ → Prop} (hPQ : ∀ s, P s → Q s) {s : σ}
    {as : List α} (h : M.Always P s as) : M.Always Q s as := by
  induction as generalizing s with
  | nil => exact hPQ s h
  | cons a as ih => exact ⟨hPQ s h.1, ih h.2⟩

/-- What each legal call meets in a state of `P`, a run that visits only such
states meets throughout. -/
theorem Always.every {J P : σ → Prop} {D : σ → α → Prop}
    (hJ : ∀ s a, J s → M.legal s a → J (M.next s a))
    (hD : ∀ s a, J s → P s → M.legal s a → D s a) {s : σ} {as : List α}
    (hs : J s) (h : M.Always P s as) (hlaw : M.Lawful s as) : M.Every D s as := by
  induction as generalizing s with
  | nil => trivial
  | cons a as ih =>
      exact ⟨hD s a hs h.1 hlaw.1, ih (hJ s a hs hlaw.1) h.2 hlaw.2⟩

/-- An invariant that every legal call keeps in a state of `P` holds along a run
that visits only such states. -/
theorem Always.strengthen {J P : σ → Prop}
    (hJ : ∀ s a, J s → P s → M.legal s a → J (M.next s a)) {s : σ} {as : List α}
    (hs : J s) (h : M.Always P s as) (hlaw : M.Lawful s as) :
    M.Always (fun s => J s ∧ P s) s as := by
  induction as generalizing s with
  | nil => exact ⟨hs, h⟩
  | cons a as ih =>
      exact ⟨⟨hs, h.1⟩, ih (hJ s a hs h.1 hlaw.1) h.2 hlaw.2⟩

/-- Two conditions on calls agree along a run if they agree under an invariant
that every call meeting them keeps. -/
theorem every_congr {J : σ → Prop} {C D : σ → α → Prop}
    (hJ : ∀ s a, J s → M.legal s a → C s a → J (M.next s a))
    (hiff : ∀ s a, J s → M.legal s a → (C s a ↔ D s a)) {s : σ} {as : List α}
    (hs : J s) (hlaw : M.Lawful s as) : M.Every C s as ↔ M.Every D s as := by
  induction as generalizing s with
  | nil => exact Iff.rfl
  | cons a as ih =>
      rw [every_cons, every_cons, ← hiff s a hs hlaw.1]
      exact and_congr_right fun hC => ih (hJ s a hs hlaw.1 hC) hlaw.2

/-- The invariant rule for runs whose steps all meet `C`. -/
theorem always_of_every {I : σ → Prop} {C : σ → α → Prop}
    (hstep : ∀ s a, I s → M.legal s a → C s a → I (M.next s a)) {s : σ}
    {as : List α} (hs : I s) (hlaw : M.Lawful s as) (hC : M.Every C s as) :
    M.Always I s as := by
  induction as generalizing s with
  | nil => exact hs
  | cons a as ih =>
      exact ⟨hs, ih (hstep s a hs hlaw.1 hC.1) hlaw.2 hC.2⟩

/-- The invariant rule for all lawful runs. -/
theorem always_of_lawful {I : σ → Prop}
    (hstep : ∀ s a, I s → M.legal s a → I (M.next s a)) {s : σ} {as : List α}
    (hs : I s) (hlaw : M.Lawful s as) : M.Always I s as :=
  always_of_every (C := M.legal) (fun s a hs hl _ => hstep s a hs hl)
    hs hlaw hlaw

theorem Reachable.invariant {I : σ → Prop} (hstart : ∀ s, M.start s → I s)
    (hstep : ∀ s a, I s → M.legal s a → I (M.next s a)) {s : σ}
    (hr : M.Reachable s) : I s := by
  obtain ⟨s₀, as, h₀, hlaw, rfl⟩ := hr
  exact (always_of_lawful hstep (hstart s₀ h₀) hlaw).last

/-- The sharp rule. `J` is what every step keeps while `P` still holds; if
under it one step keeps `P` exactly when it meets `C`, then a run visits only
states of `P` exactly when each of its steps meets `C`. -/
theorem always_iff_every {J P : σ → Prop} {C : σ → α → Prop}
    (hJ : ∀ s a, J s → P s → M.legal s a → C s a → J (M.next s a))
    (hiff : ∀ s a, J s → P s → M.legal s a → (P (M.next s a) ↔ C s a))
    {s : σ} {as : List α} (hs : J s) (hP : P s) (hlaw : M.Lawful s as) :
    M.Always P s as ↔ M.Every C s as := by
  induction as generalizing s with
  | nil => exact ⟨fun _ => trivial, fun _ => hP⟩
  | cons a as ih =>
      constructor
      · intro h
        have hC := (hiff s a hs hP hlaw.1).mp h.2.head
        exact ⟨hC, (ih (hJ s a hs hP hlaw.1 hC) h.2.head hlaw.2).mp h.2⟩
      · intro h
        have hP' := (hiff s a hs hP hlaw.1).mpr h.1
        exact ⟨hP, (ih (hJ s a hs hP hlaw.1 h.1) hP' hlaw.2).mpr h.2⟩

/-- A level that no step lowers is where it was at the start exactly if no step
raised it. -/
theorem every_iff_level_eq {J : σ → Prop} {C : σ → α → Prop} {β : Type*}
    [PartialOrder β] (level : σ → β)
    (hJ : ∀ s a, J s → M.legal s a → J (M.next s a))
    (hle : ∀ s a, J s → M.legal s a → level s ≤ level (M.next s a))
    (hiff : ∀ s a, J s → M.legal s a → (level (M.next s a) = level s ↔ C s a))
    {s : σ} {as : List α} (hs : J s) (hlaw : M.Lawful s as) :
    level s ≤ level (M.run s as) ∧
      (level (M.run s as) = level s ↔ M.Every C s as) := by
  induction as generalizing s with
  | nil => exact ⟨le_rfl, fun _ => trivial, fun _ => rfl⟩
  | cons a as ih =>
      obtain ⟨hrest, hsame⟩ := ih (hJ s a hs hlaw.1) hlaw.2
      have hnow := hle s a hs hlaw.1
      refine ⟨hnow.trans hrest, ?_, ?_⟩
      · intro h
        have hback : level (M.next s a) = level s :=
          le_antisymm (hrest.trans_eq h) hnow
        exact ⟨(hiff s a hs hlaw.1).mp hback, hsame.mp (h.trans hback.symm)⟩
      · intro h
        have hback := (hiff s a hs hlaw.1).mpr h.1
        exact (hsame.mpr h.2).trans hback

theorem tally_add (f g : σ → α → Nat) (s : σ) (as : List α) :
    M.tally (fun s a => f s a + g s a) s as = M.tally f s as + M.tally g s as := by
  induction as generalizing s with
  | nil => rfl
  | cons a as ih =>
      simp only [tally, ih]
      omega

/-- A level that each step raises by what `f` counts and lowers by what `g`
counts stands, after a run, at what came in less what went out. -/
theorem level_add_tally {J : σ → Prop} (level : σ → Nat) {f g : σ → α → Nat}
    (hJ : ∀ s a, J s → M.legal s a → J (M.next s a))
    (hstep : ∀ s a, J s → M.legal s a →
      level (M.next s a) + g s a = level s + f s a)
    {s : σ} {as : List α} (hs : J s) (hlaw : M.Lawful s as) :
    level (M.run s as) + M.tally g s as = level s + M.tally f s as := by
  induction as generalizing s with
  | nil => rfl
  | cons a as ih =>
      have hnow := hstep s a hs hlaw.1
      have hrest := ih (hJ s a hs hlaw.1) hlaw.2
      simp only [run_cons, tally]
      omega

end Machine

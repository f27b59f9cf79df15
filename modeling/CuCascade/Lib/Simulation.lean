import CuCascade.Lib.Machine

/-!
# Machines that do what others say

A machine is explained by a simpler one when each of its calls amounts to a few calls of
the other, or to none if the simpler machine has nothing to do with it. What a call
amounts to may depend on the state, so that a call that fails can say less than one that
does not. A relation ties the states of the two together, and has to survive one call at
a time; the rule here is that it survives a run.
-/

namespace Machine

variable {σ α τ β : Type*}

/-- All that the calls of a run amount to, in order. -/
def transcript (M : Machine σ α) (amounts : σ → α → List β) : σ → List α → List β
  | _, [] => []
  | s, a :: as => amounts s a ++ M.transcript amounts (M.next s a) as

/-- Related states stay related when `A` makes the calls that a call of `M` amounts to, and
`A` may make them. -/
structure Simulates (M : Machine σ α) (A : Machine τ β) (amounts : σ → α → List β)
    (R : σ → τ → Prop) : Prop where
  start : ∀ s, M.start s → ∃ t, A.start t ∧ R s t
  step : ∀ s t a, R s t → M.legal s a →
    A.Lawful t (amounts s a) ∧ R (M.next s a) (A.run t (amounts s a))

variable {M : Machine σ α} {A : Machine τ β} {amounts : σ → α → List β} {R : σ → τ → Prop}
  {s : σ} {t : τ} {as : List α}

theorem Simulates.run (h : M.Simulates A amounts R) (hR : R s t) (hlaw : M.Lawful s as) :
    A.Lawful t (M.transcript amounts s as) ∧
      R (M.run s as) (A.run t (M.transcript amounts s as)) := by
  induction as generalizing s t with
  | nil => exact ⟨trivial, hR⟩
  | cons a as ih =>
      obtain ⟨hcalls, hnext⟩ := h.step s t a hR hlaw.1
      obtain ⟨hrest, hlast⟩ := ih hnext hlaw.2
      rw [transcript, run_append]
      exact ⟨every_append.mpr ⟨hcalls, hrest⟩, hlast⟩

end Machine

import CuCascade.Lib.Machine

/-!
# Steps that wear themselves out

Some of the calls a machine allows lower a measure, whatever the others do to
it. A run of such calls alone is no longer than the measure it starts from, so
it comes to a state where none of them is left to make; and what holds of every
such state that is reached, every run that goes on as long as it can ends with.
-/

namespace Machine

variable {σ α : Type*} {M : Machine σ α} {I : σ → Prop} {C : σ → α → Prop}
  {f : σ → Nat} {s : σ} {as : List α}

/-- No legal call of the kind `C` is left. -/
def Drained (M : Machine σ α) (C : σ → α → Prop) (s : σ) : Prop :=
  ∀ a, M.legal s a → ¬ C s a

/-- A run of calls that lower the measure is no longer than the measure. -/
theorem length_add_le
    (hI : ∀ s a, I s → M.legal s a → I (M.next s a))
    (hlower : ∀ s a, I s → M.legal s a → C s a → f (M.next s a) < f s)
    (hs : I s) (hlaw : M.Lawful s as) (hC : M.Every C s as) :
    as.length + f (M.run s as) ≤ f s := by
  induction as generalizing s with
  | nil => exact Nat.le_of_eq (Nat.zero_add _)
  | cons a as ih =>
      have hnow := hlower s a hs hlaw.1 hC.1
      have hrest := ih (hI s a hs hlaw.1) hlaw.2 hC.2
      simp only [List.length_cons, run_cons]
      omega

/-- Some run of them comes to where none is left. -/
theorem exists_drained
    (hI : ∀ s a, I s → M.legal s a → I (M.next s a))
    (hlower : ∀ s a, I s → M.legal s a → C s a → f (M.next s a) < f s)
    (hs : I s) : ∃ as, M.Lawful s as ∧ M.Every C s as ∧ M.Drained C (M.run s as) := by
  induction hn : f s using Nat.strongRecOn generalizing s with
  | ind n ih =>
      by_cases hdrained : M.Drained C s
      · exact ⟨[], trivial, trivial, hdrained⟩
      · obtain ⟨a, hlegal, ha⟩ : ∃ a, M.legal s a ∧ C s a := by
          by_contra hno
          exact hdrained fun a hlegal ha => hno ⟨a, hlegal, ha⟩
        have hlt : f (M.next s a) < n := hn ▸ hlower s a hs hlegal ha
        obtain ⟨as, hlaw, hC, hend⟩ := ih _ hlt (hI s a hs hlegal) rfl
        exact ⟨a :: as, ⟨hlegal, hlaw⟩, ⟨ha, hC⟩, hend⟩

end Machine

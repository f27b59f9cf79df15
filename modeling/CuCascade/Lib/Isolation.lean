import CuCascade.Lib.Machine

/-!
# Parties that do not notice each other

Calls of several parties on one machine, each of which is answered. A party is
isolated if taking the calls of all others out of a run changes neither the
answers it gets nor what it is left with.

The rule is an unwinding: `R s t` says that to the party the state `s` of the
full run and the state `t` of the run on its own are the same. A call of another
party moves only the full run, a call of its own moves both and is answered
alike.
-/

namespace Machine

variable {σ α β : Type*} (M : Machine σ α) (answer : σ → α → β) (mine : α → Bool)

/-- The answers to the calls of a party, in the order of the calls. -/
def answers : σ → List α → List β
  | _, [] => []
  | s, a :: as =>
      if mine a then answer s a :: answers (M.next s a) as
      else answers (M.next s a) as

variable {M answer mine}

theorem isolated_of_unwinding {R : σ → σ → Prop} {C : σ → α → Prop}
    (hother : ∀ s t a, R s t → C s a → mine a = false → R (M.next s a) t)
    (hmine : ∀ s t a, R s t → C s a → mine a = true →
      R (M.next s a) (M.next t a) ∧ answer s a = answer t a)
    {s t : σ} {as : List α} (hR : R s t) (hC : M.Every C s as) :
    R (M.run s as) (M.run t (as.filter mine)) ∧
      M.answers answer mine s as = M.answers answer mine t (as.filter mine) := by
  induction as generalizing s t with
  | nil => exact ⟨hR, rfl⟩
  | cons a as ih =>
      cases ha : mine a with
      | false =>
          have hrest := ih (hother s t a hR hC.1 ha) hC.2
          rw [List.filter_cons_of_neg (by rw [ha]; exact Bool.false_ne_true), answers, ha]
          exact hrest
      | true =>
          obtain ⟨hnext, hsame⟩ := hmine s t a hR hC.1 ha
          obtain ⟨hrun, hanswers⟩ := ih hnext hC.2
          rw [List.filter_cons_of_pos ha, answers, answers, if_pos ha, if_pos ha, hsame,
            hanswers]
          exact ⟨hrun, rfl⟩

end Machine

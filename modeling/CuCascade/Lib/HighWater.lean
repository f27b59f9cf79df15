import CuCascade.Lib.Machine
import Mathlib.Order.Bounds.Basic
import Mathlib.Order.MinMax

/-!
# A high-water mark that is published late

A level rises and falls, and a mark is meant to show how high it has been.
Where one thread moves the level and only afterwards raises the mark, a rise is
for some time neither in the mark nor forgotten: it is pending, carried by the
thread that caused it. Four rules keep this sound. A rise is pending as soon as
it has happened; a pending value stays pending until the mark is no lower;
nothing else becomes pending; and the mark only moves up, to a value that was
pending. Then the mark is never above what the level has been, and when nothing
is pending it is exactly that.
-/

namespace HighWater

variable {σ α β : Type*} [LinearOrder β] (M : Machine σ α)

/-- The states a run goes through, the first and the last included. -/
def visited : σ → List α → List σ
  | s, [] => [s]
  | s, a :: as => s :: visited (M.next s a) as

variable (level mark : σ → β) (pending : σ → β → Prop)

/-- `top` is as high as the level has been: it is in the mark, or on its way. -/
structure Marks (top : β) (s : σ) : Prop where
  level_le : level s ≤ top
  mark_le : mark s ≤ top
  pending_le : ∀ v, pending s v → v ≤ top
  kept : mark s = top ∨ pending s top

/-- What a step may do to the level, the mark and the values on their way. -/
structure Publishes (s s' : σ) : Prop where
  rise : level s' ≤ level s ∨ pending s' (level s')
  keep : ∀ v, pending s v → pending s' v ∨ v ≤ mark s'
  fresh : ∀ v, pending s' v → pending s v ∨ v = level s'
  up : mark s ≤ mark s'
  reach : mark s' = mark s ∨ pending s (mark s')

variable {M level mark pending} {top : β} {s s' : σ}

theorem mem_visited_self (s : σ) (as : List α) : s ∈ visited M s as := by
  cases as with
  | nil => exact List.mem_singleton_self s
  | cons a as => exact List.mem_cons_self

/-- One step, and the highest level with it. -/
theorem Marks.step (h : Marks level mark pending top s)
    (hstep : Publishes level mark pending s s') :
    Marks level mark pending (max top (level s')) s' := by
  have hmark : mark s' ≤ top := by
    rcases hstep.reach with hsame | hreached
    · exact hsame.trans_le h.mark_le
    · exact h.pending_le _ hreached
  refine ⟨le_max_right _ _, hmark.trans (le_max_left _ _), fun v hv => ?_, ?_⟩
  · rcases hstep.fresh v hv with hold | hnew
    · exact (h.pending_le v hold).trans (le_max_left _ _)
    · exact hnew.trans_le (le_max_right _ _)
  · rcases le_or_gt (level s') top with hle | hlt
    · rw [max_eq_left hle]
      rcases h.kept with hin | hon
      · exact Or.inl (le_antisymm hmark (hin.symm.trans_le hstep.up))
      · rcases hstep.keep top hon with hstill | hpast
        · exact Or.inr hstill
        · exact Or.inl (le_antisymm hmark hpast)
    · rw [max_eq_right hlt.le]
      rcases hstep.rise with hfell | hpending
      · exact absurd (hfell.trans h.level_le) (not_le_of_gt hlt)
      · exact Or.inr hpending

/-- A run keeps the mark in step with the levels visited. -/
theorem exists_marks {I : σ → Prop} {as : List α}
    (hI : ∀ s a, I s → M.legal s a → I (M.next s a))
    (hstep : ∀ s a, I s → M.legal s a → Publishes level mark pending s (M.next s a))
    (hs : I s) (hlaw : M.Lawful s as) (h : Marks level mark pending top s) :
    ∃ top', Marks level mark pending top' (M.run s as) ∧
      top ≤ top' ∧ (∀ t ∈ visited M s as, level t ≤ top') ∧
      (top' = top ∨ ∃ t ∈ visited M s as, level t = top') := by
  induction as generalizing s top with
  | nil =>
      refine ⟨top, h, le_rfl, fun t ht => ?_, Or.inl rfl⟩
      obtain rfl := List.mem_singleton.mp ht
      exact h.level_le
  | cons a as ih =>
      obtain ⟨top', hmarks, hle, hlevels, hattained⟩ :=
        ih (hI s a hs hlaw.1) hlaw.2 (h.step (hstep s a hs hlaw.1))
      have htop : top ≤ top' := (le_max_left _ _).trans hle
      refine ⟨top', hmarks, htop, fun t ht => ?_, ?_⟩
      · rcases List.mem_cons.mp ht with rfl | ht
        · exact h.level_le.trans htop
        · exact hlevels t ht
      · have hlater : (∃ t ∈ visited M (M.next s a) as, level t = top') →
            ∃ t ∈ visited M s (a :: as), level t = top' := by
          intro hex
          obtain ⟨t, ht, heq⟩ := hex
          exact ⟨t, List.mem_cons_of_mem s ht, heq⟩
        rcases hattained with heq | hex
        · rcases max_choice top (level (M.next s a)) with hmax | hmax
          · exact Or.inl (heq.trans hmax)
          · exact Or.inr (hlater ⟨M.next s a, mem_visited_self _ _, (heq.trans hmax).symm⟩)
        · exact Or.inr (hlater hex)

/-- When nothing is pending the mark is the greatest level the run has visited. -/
theorem isGreatest_mark {I : σ → Prop} {as : List α}
    (hI : ∀ s a, I s → M.legal s a → I (M.next s a))
    (hstep : ∀ s a, I s → M.legal s a → Publishes level mark pending s (M.next s a))
    (hs : I s) (hlaw : M.Lawful s as) (hstart : mark s = level s)
    (hnone : ∀ v, ¬ pending s v) :
    (∀ v, pending (M.run s as) v → ∃ t ∈ visited M s as, v ≤ level t) ∧
    (∃ t ∈ visited M s as, mark (M.run s as) ≤ level t) ∧
      ((∀ v, ¬ pending (M.run s as) v) →
        IsGreatest {v | ∃ t ∈ visited M s as, level t = v} (mark (M.run s as))) := by
  have hmarks : Marks level mark pending (level s) s :=
    ⟨le_rfl, hstart.le, fun v hv => absurd hv (hnone v), Or.inl hstart⟩
  obtain ⟨top, hend, -, hlevels, hattained⟩ := exists_marks hI hstep hs hlaw hmarks
  have hex : ∃ t ∈ visited M s as, level t = top := by
    rcases hattained with heq | hex
    · exact ⟨s, mem_visited_self s as, heq.symm⟩
    · exact hex
  obtain ⟨t, ht, hlevel⟩ := hex
  refine ⟨fun v hv => ⟨t, ht, (hend.pending_le v hv).trans_eq hlevel.symm⟩,
    ⟨t, ht, hend.mark_le.trans_eq hlevel.symm⟩, fun hquiet => ?_⟩
  have htop : mark (M.run s as) = top := by
    rcases hend.kept with hin | hon
    · exact hin
    · exact absurd hon (hquiet top)
  refine ⟨⟨t, ht, hlevel.trans htop.symm⟩, fun v hv => ?_⟩
  obtain ⟨t', ht', rfl⟩ := hv
  exact (hlevels t' ht').trans_eq htop.symm

end HighWater

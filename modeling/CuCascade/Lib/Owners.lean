import CuCascade.Lib.Table

/-!
# Counting owners

A table of move-only handles: each is empty or owns one thing. The number of
handles that own a given thing moves by one when a handle takes hold of it or
lets it go, and stays when ownership passes from one handle to another.
-/

namespace AList

variable {K A : Type*} [DecidableEq A]

/-- What one handle contributes to the owners of `a`. -/
def owns (p : Option A) (a : A) : Nat := if p = some a then 1 else 0

@[simp] theorem owns_none (a : A) : owns none a = 0 := if_neg nofun

@[simp] theorem owns_self (a : A) : owns (some a) a = 1 := if_pos rfl

theorem owns_some (b a : A) : owns (some b) a = if b = a then 1 else 0 := by
  simp only [owns, Option.some.injEq]

/-- How many handles own `a`. -/
def owners (t : Table K (Option A)) (a : A) : Nat := t.sumBy fun _ p => owns p a

@[simp] theorem owners_empty (a : A) : owners (∅ : Table K (Option A)) a = 0 := rfl

theorem exists_of_owners_pos [DecidableEq K] {t : Table K (Option A)} {a : A}
    (h : 0 < t.owners a) : ∃ k, t.lookup k = some (some a) := by
  by_contra hno
  rw [not_exists] at hno
  have hzero : t.owners a = 0 := by
    refine sumBy_zero fun e he => ?_
    rw [owns, if_neg]
    intro hea
    apply hno e.1
    rw [← hea]
    exact mem_entries_iff.mp he
  omega

variable [DecidableEq K] {t : Table K (Option A)} {k k' : K} {p : Option A}

theorem owners_pos {a : A} (h : t.lookup k = some (some a)) : 0 < t.owners a := by
  have heq := sumBy_erase (f := fun (_ : K) p => owns p a) h
  rw [owns_self] at heq
  unfold owners
  omega

/-- A new handle. -/
theorem owners_insert_new (h : k ∉ t) (a : A) :
    (t.insert k p).owners a = owns p a + t.owners a :=
  sumBy_insert_new (lookup_eq_none.mpr h)

/-- A handle lets go of what it has. -/
theorem owners_clear (h : t.lookup k = some p) (a : A) :
    owns p a + (t.insert k none).owners a = t.owners a := by
  have heq := sumBy_insert (f := fun (_ : K) p => owns p a) (w := none) h
  rw [owns_none, Nat.zero_add] at heq
  exact heq

/-- An empty handle is destroyed. -/
theorem owners_erase (h : t.lookup k = some none) (a : A) :
    (t.erase k).owners a = t.owners a := by
  have heq := sumBy_erase (f := fun (_ : K) p => owns p a) h
  rw [owns_none, Nat.zero_add] at heq
  exact heq

/-- A handle is made out of another. -/
theorem owners_moveConstruct (hk : k ∉ t) (h : t.lookup k' = some p) (a : A) :
    ((t.insert k' none).insert k p).owners a = t.owners a := by
  have hne : k ≠ k' := by
    intro heq
    exact hk (heq ▸ mem_of_lookup h)
  have hfresh : k ∉ t.insert k' none := by
    rw [mem_insert]
    exact not_or.mpr ⟨hne, hk⟩
  rw [owners_insert_new hfresh, owners_clear h]

/-- An empty handle takes over from another. -/
theorem owners_moveAssign (hne : k ≠ k') (hk : t.lookup k = some none)
    (h : t.lookup k' = some p) (a : A) :
    ((t.insert k' none).insert k p).owners a = t.owners a := by
  have hk' : (t.insert k' none).lookup k = some none := by
    rw [lookup_insert_ne hne, hk]
  have heq := sumBy_insert (f := fun (_ : K) p => owns p a) (w := p) hk'
  rw [owns_none, Nat.zero_add] at heq
  exact heq.trans (owners_clear h a)

end AList

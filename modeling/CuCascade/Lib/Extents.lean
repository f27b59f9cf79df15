import CuCascade.Lib.Table

/-!
# Extents of memory

An extent is `n` bytes from an address on. Memory is handed out as extents, kept in
a table by their addresses, and carved into cells of one size. Cells are apart from
each other because those of one extent are and because the extents are.
-/

/-- The `n` bytes from `p` and the `m` bytes from `q` on have none in common. -/
def Apart (p n q m : Nat) : Prop := p + n ≤ q ∨ q + m ≤ p

instance (p n q m : Nat) : Decidable (Apart p n q m) :=
  inferInstanceAs (Decidable (p + n ≤ q ∨ q + m ≤ p))

namespace Apart

variable {p n q m p' n' q' m' : Nat}

theorem symm (h : Apart p n q m) : Apart q m p n := Or.symm h

/-- What lies within extents that are apart is apart. -/
theorem within (h : Apart p n q m) (hp : p ≤ p') (hn : p' + n' ≤ p + n) (hq : q ≤ q')
    (hm : q' + m' ≤ q + m) : Apart p' n' q' m' := by
  unfold Apart at *
  omega

theorem ne (h : Apart p n q m) (hn : 0 < n) (hm : 0 < m) : p ≠ q := by
  unfold Apart at h
  omega

end Apart

/-! ## Cells -/

section Cells

variable {i j n : Nat}

/-- A cell lies within its extent. -/
theorem cell_le (size : Nat) (h : i < n) : i * size + size ≤ n * size := by
  rw [← Nat.succ_mul]
  exact Nat.mul_le_mul_right size h

theorem cells_apart (p size : Nat) (h : i ≠ j) :
    Apart (p + i * size) size (p + j * size) size := by
  rcases Nat.lt_or_gt_of_ne h with hlt | hlt
  · have hle := cell_le size hlt
    exact Or.inl (by omega)
  · have hle := cell_le size hlt
    exact Or.inr (by omega)

end Cells

/-! ## Tables of extents -/

section Tables

variable {V : Type*} {size : V → Nat} {t : Table Nat V} {p : Nat} {v : V}

/-- No extent of the table meets the `n` bytes from `p` on. -/
def Clear (size : V → Nat) (t : Table Nat V) (p n : Nat) : Prop :=
  p ∉ t ∧ t.All fun q v => Apart p n q (size v)

/-- The extents of the table are apart from each other. -/
def AllApart (size : V → Nat) (t : Table Nat V) : Prop :=
  t.All fun p v => t.All fun q w => p ≠ q → Apart p (size v) q (size w)

instance (size : V → Nat) (t : Table Nat V) (p n : Nat) : Decidable (Clear size t p n) :=
  inferInstanceAs (Decidable (p ∉ t ∧ t.All fun q v => Apart p n q (size v)))

theorem allApart_empty : AllApart size (∅ : Table Nat V) := AList.all_empty

theorem AllApart.insert (h : AllApart size t) (hclear : Clear size t p (size v)) :
    AllApart size (t.insert p v) := by
  refine .insert_of_ne ?_ fun q w hq hw => ?_
  · exact .insert_of_ne (fun hne => absurd rfl hne) fun q w _ hw _ => hclear.2 q w hw
  · exact .insert_of_ne (fun _ => (hclear.2 q w hw).symm) fun q' w' _ hw' => h q w hw q' w' hw'

theorem AllApart.erase (h : AllApart size t) : AllApart size (t.erase p) := by
  intro q w hw q' w' hw'
  exact h q w (AList.lookup_of_lookup_erase hw).2 q' w' (AList.lookup_of_lookup_erase hw').2

/-- Cells of two extents of the table, or two cells of one, are apart. -/
theorem AllApart.cells (h : AllApart size t) {p q i j n m c d : Nat} {v w : V}
    (hp : t.lookup p = some v) (hq : t.lookup q = some w) (hn : n * c = size v)
    (hm : m * d = size w) (hi : i < n) (hj : j < m) (hne : p ≠ q ∨ c = d ∧ i ≠ j) :
    Apart (p + i * c) c (q + j * d) d := by
  by_cases hpq : p = q
  · obtain ⟨rfl, hij⟩ := hne.resolve_left (not_not_intro hpq)
    rw [hpq]
    exact cells_apart q c hij
  · have hci := cell_le c hi
    have hcj := cell_le d hj
    exact (h p v hp q w hq hpq).within (by omega) (by omega) (by omega) (by omega)

end Tables

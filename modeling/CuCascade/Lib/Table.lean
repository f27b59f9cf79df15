import Mathlib.Algebra.BigOperators.Group.List.Basic
import Mathlib.Algebra.Order.BigOperators.Group.List
import Mathlib.Data.List.AList

/-!
# Sums over association lists

A finite map is Mathlib's `AList` with a constant value type, and the
quantities an accounting argument talks about are sums over its entries. What
those arguments need is how such a sum moves under one `insert` or `erase`:
each lemma says it as an equation with the touched entry on both sides, so
that nothing has to be subtracted and the lemmas hold in any commutative
monoid.
-/

/-- A finite map: no two entries share a key. -/
abbrev Table (K V : Type*) := AList fun _ : K => V

namespace AList

variable {K V W M : Type*}

/-- The sum of `f` over the entries of a table. -/
def sumBy [AddCommMonoid M] (f : K → V → M) (t : Table K V) : M :=
  (t.entries.map fun e => f e.1 e.2).sum

/-- A table with each value replaced by its image. -/
def mapVal (f : K → V → W) (t : Table K V) : Table K W where
  entries := t.entries.map fun e => ⟨e.1, f e.1 e.2⟩
  nodupKeys := by
    have h := t.nodupKeys
    simpa [List.NodupKeys, List.keys, Function.comp_def] using h

section Sum

variable [AddCommMonoid M] {f g : K → V → M} {t : Table K V}

@[simp] theorem sumBy_empty : sumBy f (∅ : Table K V) = 0 := rfl

theorem sumBy_congr (h : ∀ e ∈ t.entries, f e.1 e.2 = g e.1 e.2) :
    t.sumBy f = t.sumBy g := by
  unfold sumBy
  rw [List.map_congr_left h]

theorem sumBy_add : (t.sumBy fun k v => f k v + g k v) = t.sumBy f + t.sumBy g :=
  List.sum_map_add

theorem sumBy_zero (h : ∀ e ∈ t.entries, f e.1 e.2 = 0) : t.sumBy f = 0 := by
  rw [sumBy_congr (g := fun _ _ => 0) h]
  simp [sumBy]

variable [DecidableEq K] {k : K} {v w : V}

theorem mem_entries_iff : ⟨k, v⟩ ∈ t.entries ↔ t.lookup k = some v :=
  mem_lookup_iff.symm

theorem sum_kerase {l : List (Σ _ : K, V)} (h : l.dlookup k = some v) :
    f k v + ((l.kerase k).map fun e => f e.1 e.2).sum =
      (l.map fun e => f e.1 e.2).sum := by
  induction l with
  | nil => cases h
  | cons e l ih =>
      by_cases hk : k = e.1
      · obtain ⟨k', v'⟩ := e
        subst hk
        rw [List.dlookup_cons_eq, Option.some.injEq] at h
        subst h
        have hl : List.kerase k ((⟨k, v'⟩ : Σ _ : K, V) :: l) = l :=
          List.kerase_cons_eq rfl
        rw [hl, List.map_cons, List.sum_cons]
      · rw [List.dlookup_cons_ne _ _ hk] at h
        rw [List.kerase_cons_ne hk, List.map_cons, List.sum_cons,
          List.map_cons, List.sum_cons, ← ih h]
        exact add_left_comm _ _ _

/-- Taking an entry out removes exactly its own term. -/
theorem sumBy_erase (h : t.lookup k = some v) :
    f k v + (t.erase k).sumBy f = t.sumBy f :=
  sum_kerase h

/-- A new key adds exactly its own term. -/
theorem sumBy_insert_new (h : t.lookup k = none) :
    (t.insert k v).sumBy f = f k v + t.sumBy f := by
  have hk : k ∉ t := lookup_eq_none.mp h
  unfold sumBy
  rw [entries_insert_of_notMem hk, List.map_cons, List.sum_cons]

/-- Overwriting an entry exchanges its old term for its new one. -/
theorem sumBy_insert (h : t.lookup k = some v) :
    f k v + (t.insert k w).sumBy f = f k w + t.sumBy f := by
  rw [← sumBy_erase (f := f) h]
  unfold sumBy
  rw [entries_insert, List.map_cons, List.sum_cons]
  exact add_left_comm _ _ _

/-- The same for a key that may be new. -/
theorem sumBy_insert_elim (t : Table K V) (k : K) (w : V) :
    (t.lookup k).elim 0 (f k) + (t.insert k w).sumBy f = f k w + t.sumBy f := by
  cases h : t.lookup k with
  | none =>
      show 0 + _ = _
      rw [zero_add, sumBy_insert_new h]
  | some v => exact sumBy_insert h

end Sum

section Count

variable {t : Table K V}

/-- The number of entries. -/
def count (t : Table K V) : Nat := t.sumBy fun _ _ => 1

@[simp] theorem count_empty : (∅ : Table K V).count = 0 := rfl

theorem count_eq_zero : t.count = 0 ↔ t = ∅ := by
  have hlen : t.count = t.entries.length := by
    simp [count, sumBy]
  rw [hlen, List.length_eq_zero_iff]
  exact ⟨fun h => AList.ext h, fun h => by rw [h]; rfl⟩

variable [DecidableEq K] {k : K} {v : V}

theorem count_insert_new (h : k ∉ t) : (t.insert k v).count = t.count + 1 := by
  rw [Nat.add_comm]
  exact sumBy_insert_new (lookup_eq_none.mpr h)

theorem count_insert (h : t.lookup k = some v) (w : V) :
    (t.insert k w).count = t.count :=
  Nat.add_left_cancel (sumBy_insert (f := fun _ _ => 1) (w := w) h)

theorem count_erase (h : t.lookup k = some v) :
    (t.erase k).count + 1 = t.count := by
  rw [Nat.add_comm]
  exact sumBy_erase (f := fun _ _ => 1) h

end Count

section Order

variable [AddCommMonoid M] [PartialOrder M] [IsOrderedAddMonoid M]
  {f g : K → V → M} {t : Table K V}

theorem sumBy_nonneg (h : ∀ e ∈ t.entries, 0 ≤ f e.1 e.2) : 0 ≤ t.sumBy f :=
  List.sum_nonneg fun _ hx => by
    obtain ⟨e, he, rfl⟩ := List.mem_map.mp hx
    exact h e he

theorem sumBy_le_sumBy (h : ∀ e ∈ t.entries, f e.1 e.2 ≤ g e.1 e.2) :
    t.sumBy f ≤ t.sumBy g :=
  List.sum_le_sum h

theorem le_sumBy [DecidableEq K] {k : K} {v : V}
    (h : ∀ e ∈ t.entries, 0 ≤ f e.1 e.2) (hk : t.lookup k = some v) :
    f k v ≤ t.sumBy f := by
  rw [← sumBy_erase hk]
  refine le_add_of_nonneg_right (sumBy_nonneg fun e he => h e ?_)
  exact (List.kerase_sublist k t.entries).subset he

end Order

section Map

variable {f : K → V → W} {t : Table K V}

@[simp] theorem entries_mapVal :
    (t.mapVal f).entries = t.entries.map fun e => ⟨e.1, f e.1 e.2⟩ := rfl

theorem sumBy_mapVal [AddCommMonoid M] {g : K → W → M} :
    (t.mapVal f).sumBy g = t.sumBy fun k v => g k (f k v) := by
  simp [sumBy, mapVal, Function.comp_def]

@[simp] theorem count_mapVal : (t.mapVal f).count = t.count := sumBy_mapVal

variable [DecidableEq K] {k : K} {v : V}

@[simp] theorem lookup_mapVal : (t.mapVal f).lookup k = (t.lookup k).map (f k) :=
  List.dlookup_map₂ k

@[simp] theorem mem_mapVal : k ∈ t.mapVal f ↔ k ∈ t := by
  rw [← lookup_isSome, lookup_mapVal, Option.isSome_map, lookup_isSome]

theorem kerase_map (l : List (Σ _ : K, V)) :
    (l.map fun e => (⟨e.1, f e.1 e.2⟩ : Σ _ : K, W)).kerase k =
      (l.kerase k).map fun e => ⟨e.1, f e.1 e.2⟩ := by
  induction l with
  | nil => rfl
  | cons e l ih =>
      by_cases hk : k = e.1
      · rw [List.map_cons, List.kerase_cons_eq (by exact hk),
          List.kerase_cons_eq hk]
      · rw [List.map_cons, List.kerase_cons_ne (by exact hk),
          List.kerase_cons_ne hk, List.map_cons, ih]

theorem mapVal_erase : (t.erase k).mapVal f = (t.mapVal f).erase k := by
  apply AList.ext
  exact (kerase_map t.entries).symm

theorem mapVal_insert :
    (t.insert k v).mapVal f = (t.mapVal f).insert k (f k v) := by
  apply AList.ext
  rw [entries_insert, entries_mapVal, entries_insert, List.map_cons,
    entries_mapVal, kerase_map]

end Map

section Ext

variable [AddCommMonoid M] [DecidableEq K] {f : K → V → M} {t u : Table K V}

/-- A sum depends on the entries and not on their order. -/
theorem sumBy_ext (h : ∀ k, t.lookup k = u.lookup k) : t.sumBy f = u.sumBy f := by
  have hperm : t.entries.Perm u.entries :=
    List.lookup_ext t.nodupKeys u.nodupKeys fun k v => by
      show t.lookup k = some v ↔ u.lookup k = some v
      rw [h k]
  exact (hperm.map _).sum_eq

/-- A sum over the keys depends on the keys. -/
theorem sumBy_keys {u : Table K W} (h : ∀ k, k ∈ t ↔ k ∈ u) (g : K → M) :
    (t.sumBy fun k _ => g k) = u.sumBy fun k _ => g k := by
  have hsame : ∀ k, (t.mapVal fun _ _ => ()).lookup k =
      (u.mapVal fun _ _ => ()).lookup k := by
    intro k
    have hk := h k
    rw [← lookup_isSome, ← lookup_isSome] at hk
    rw [lookup_mapVal, lookup_mapVal]
    cases ht : t.lookup k <;> cases hu : u.lookup k <;> simp_all
  have hsum := sumBy_ext (f := fun k _ => g k) hsame
  rw [sumBy_mapVal, sumBy_mapVal] at hsum
  exact hsum

end Ext

section Fibre

variable [AddCommMonoid M] {A W' : Type*} [DecidableEq A]

omit [DecidableEq A] in
theorem sumBy_comm (t : Table K V) (u : Table A W') (g : A → K → V → M) :
    (u.sumBy fun a _ => t.sumBy (g a)) =
      t.sumBy fun k v => u.sumBy fun a _ => g a k v := by
  unfold sumBy
  induction t.entries with
  | nil => simp
  | cons e l ih =>
      simp only [List.map_cons, List.sum_cons]
      rw [← ih, List.sum_map_add]

/-- Of a sum that is `c` at one key and zero elsewhere, `c` remains if the key
is in the table. -/
theorem sumBy_single (u : Table A W') (o : Option A) (c : M) :
    (u.sumBy fun a _ => if o = some a then c else 0) =
      if ∃ a ∈ o, a ∈ u then c else 0 := by
  cases o with
  | none => simp [sumBy]
  | some a =>
      by_cases ha : a ∈ u
      · obtain ⟨w, hw⟩ := Option.isSome_iff_exists.mp (lookup_isSome.mpr ha)
        rw [← sumBy_erase hw, sumBy_zero, if_pos rfl,
          if_pos ⟨a, rfl, ha⟩, add_zero]
        intro e he
        rw [if_neg]
        rintro hea
        rw [Option.some.injEq] at hea
        have hmem : e.1 ∈ u.erase a := List.mem_map_of_mem he
        exact (mem_erase.mp hmem).1 hea.symm
      · rw [sumBy_zero, if_neg]
        · rintro ⟨b, hb, hbu⟩
          cases hb
          exact ha hbu
        · intro e he
          rw [if_neg]
          intro hea
          rw [Option.some.injEq] at hea
          have hmem : e.1 ∈ u := List.mem_map_of_mem he
          exact ha (hea ▸ hmem)

/-- A sum over `t` splits into what belongs to each key of `u` and what belongs
to none. -/
theorem sumBy_fibre (t : Table K V) (u : Table A W') (key : V → Option A)
    (f : K → V → M) :
    t.sumBy f =
      (u.sumBy fun a _ => t.sumBy fun k v => if key v = some a then f k v else 0) +
      t.sumBy fun k v => if ∃ a ∈ key v, a ∈ u then 0 else f k v := by
  rw [sumBy_comm, ← sumBy_add]
  refine sumBy_congr fun e _ => ?_
  rw [sumBy_single]
  split <;> simp

end Fibre

section All

variable [DecidableEq K] {P Q : K → V → Prop} {t : Table K V} {k : K} {v : V}

/-- Each entry satisfies `P`. -/
def All (P : K → V → Prop) (t : Table K V) : Prop :=
  ∀ k v, t.lookup k = some v → P k v

theorem all_empty : (∅ : Table K V).All P := by
  intro k v h
  simp at h

theorem All.get (h : t.All P) (hk : t.lookup k = some v) : P k v := h k v hk

/-- An entry is written, and the others satisfy `P` already. -/
theorem All.insert_of_ne (hv : P k v)
    (h : ∀ k' v', k' ≠ k → t.lookup k' = some v' → P k' v') : (t.insert k v).All P := by
  intro k' v' h'
  by_cases hk : k' = k
  · subst hk
    rw [lookup_insert, Option.some.injEq] at h'
    exact h' ▸ hv
  · rw [lookup_insert_ne hk] at h'
    exact h k' v' hk h'

theorem All.insert (h : t.All P) (hv : P k v) : (t.insert k v).All P :=
  .insert_of_ne hv fun k' v' _ h' => h k' v' h'

/-- What an entry at a free key adds to the values. -/
theorem exists_lookup_insert_iff {x : V} (h : t.lookup k = none) :
    (∃ j, (t.insert k v).lookup j = some x) ↔ x = v ∨ ∃ j, t.lookup j = some x := by
  constructor
  · rintro ⟨j, hj⟩
    by_cases hsame : j = k
    · rw [hsame, lookup_insert] at hj
      exact .inl (Option.some.inj hj).symm
    · rw [lookup_insert_ne hsame] at hj
      exact .inr ⟨j, hj⟩
  · rintro (rfl | ⟨j, hj⟩)
    · exact ⟨k, lookup_insert t⟩
    · have hne : j ≠ k := by
        intro hsame
        rw [hsame, h] at hj
        cases hj
      exact ⟨j, by rw [lookup_insert_ne hne, hj]⟩

theorem lookup_of_lookup_erase {k' : K} (h : (t.erase k).lookup k' = some v) :
    k' ≠ k ∧ t.lookup k' = some v := by
  have hk : k' ≠ k := by
    intro hk
    subst hk
    rw [lookup_erase] at h
    cases h
  exact ⟨hk, (lookup_erase_ne hk).symm.trans h⟩

theorem All.erase (h : t.All P) : (t.erase k).All P := fun k' v' h' =>
  h k' v' (lookup_of_lookup_erase h').2

theorem All.mono (h : t.All P) (hPQ : ∀ k v, P k v → Q k v) : t.All Q :=
  fun k v hk => hPQ k v (h k v hk)

theorem All.of_mem (h : t.All P) {e : Σ _ : K, V} (he : e ∈ t.entries) :
    P e.1 e.2 :=
  h e.1 e.2 (mem_entries_iff.mp he)

theorem all_iff_entries : t.All P ↔ ∀ e ∈ t.entries, P e.1 e.2 :=
  ⟨fun h _ he => h.of_mem he, fun h _ _ hk => h _ (mem_entries_iff.mpr hk)⟩

instance [∀ k v, Decidable (P k v)] : Decidable (t.All P) :=
  decidable_of_iff _ all_iff_entries.symm

theorem all_mapVal {W : Type*} {f : K → V → W} {R : K → W → Prop} :
    (t.mapVal f).All R ↔ t.All fun k v => R k (f k v) := by
  constructor
  · intro h k v hk
    exact h k (f k v) (by rw [lookup_mapVal, hk]; rfl)
  · intro h k y hk
    rw [lookup_mapVal, Option.map_eq_some_iff] at hk
    obtain ⟨v, hv, rfl⟩ := hk
    exact h k v hv

theorem exists_lookup (h : k ∈ t) : ∃ v, t.lookup k = some v :=
  Option.isSome_iff_exists.mp (lookup_isSome.mpr h)

theorem mem_of_lookup (h : t.lookup k = some v) : k ∈ t :=
  lookup_isSome.mp (h ▸ rfl)

end All

section Loop

variable [DecidableEq K] {α : Type*} (key : α → K) (val : α → V)

/-- A loop that enters one thing after another leaves at each key what came last. -/
theorem lookup_foldl_insert_elim (l : List α) (t : Table K V) (k : K) :
    (l.foldl (fun t a => t.insert (key a) (val a)) t).lookup k =
      ((l.reverse.find? fun a => key a = k).map val).or (t.lookup k) := by
  induction l generalizing t with
  | nil => rfl
  | cons a l ih =>
      rw [List.foldl_cons, ih, List.reverse_cons, List.find?_append]
      by_cases hk : key a = k
      · subst hk
        simp
      · rw [lookup_insert_ne (Ne.symm hk)]
        simp [hk]

theorem lookup_foldl_insert (l : List α) (k : K) :
    (l.foldl (fun t a => t.insert (key a) (val a)) (∅ : Table K V)).lookup k =
      (l.reverse.find? fun a => key a = k).map val := by
  rw [lookup_foldl_insert_elim, lookup_empty, Option.or_none]

end Loop

end AList

import Mathlib.Algebra.Order.Group.Int
import CuCascade.Lib.Holdings

/-!
# A counter that covers its promises

A limiter promises floors out of a `limit`, and the holdings drawn on a promise
stay inside it. Its counter need not be exact: it may hold more than it has to,
say after a draw that failed half way. `Covered` says that it never holds less
than the floors and the loose holdings together, and then the floors are within
the limit, because the counter was when the last of them was granted.

The lemmas follow the operations. Nothing has to be checked to give something
back; to promise or to draw loosely, what the counter gains has to cover it.
-/

section

variable {I C K : Type*} [DecidableEq K]

/-- The promises are kept, and the counter covers them. -/
structure Covered (owner : C → Option K) (amount : C → Int) (limit : Int)
    (accounts : Table K (Account Int)) (charged : Int) (t : Table I C) : Prop where
  uses : accounts.All fun k a => under owner amount t k ≤ a.used
  inside : accounts.All fun _ a => a.used ≤ a.floor
  amounts : ∀ c, 0 ≤ amount c
  covered : (accounts.sumBy fun _ a => a.floor) +
    looseSum owner amount accounts t ≤ charged
  sizes : (accounts.sumBy fun _ a => a.floor) ≤ limit

variable {owner : C → Option K} {amount : C → Int} {t : Table I C}
  {accounts : Table K (Account Int)} {k : K} {a : Account Int}

theorem looseSum_nonneg (owner : C → Option K) (accounts : Table K (Account Int))
    (t : Table I C) (h : ∀ c, 0 ≤ amount c) :
    0 ≤ looseSum owner amount accounts t := by
  refine AList.sumBy_nonneg fun e _ => ?_
  split
  · exact le_rfl
  · exact h e.2

/-- Replacing an account moves no holding. -/
theorem looseSum_insert (hk : k ∈ accounts) :
    looseSum owner amount (accounts.insert k a) t =
      looseSum owner amount accounts t := by
  refine looseSum_congr fun q => ?_
  rw [AList.mem_insert, or_iff_right_of_imp]
  intro hq
  exact hq ▸ hk

/-- What is held under a closed account is loose. -/
theorem looseSum_close (hk : k ∈ accounts) :
    looseSum owner amount (accounts.erase k) t =
      looseSum owner amount accounts t + under owner amount t k := by
  unfold looseSum under
  rw [← AList.sumBy_add]
  refine AList.sumBy_congr fun e _ => ?_
  by_cases howner : owner e.2 = some k
  · have hmem : ∃ q ∈ owner e.2, q ∈ accounts := ⟨k, howner, hk⟩
    have hgone : ¬ ∃ q ∈ owner e.2, q ∈ accounts.erase k := by
      intro ⟨q, hq, hq'⟩
      have heq : q = k := Option.some.inj (hq.symm.trans howner)
      exact (AList.mem_erase.mp hq').1 heq
    rw [if_pos hmem, if_neg hgone, if_pos howner, zero_add]
  · have hiff : (∃ q ∈ owner e.2, q ∈ accounts.erase k) ↔
        ∃ q ∈ owner e.2, q ∈ accounts := by
      refine exists_congr fun q => and_congr_right fun hq => ?_
      rw [AList.mem_erase, and_iff_right]
      intro heq
      exact howner (heq ▸ hq)
    simp only [hiff, if_neg howner, add_zero]

variable [DecidableEq I] {i : I} {c : C}

/-- A new account under which nothing is held moves no holding. -/
theorem looseSum_open (hfresh : t.All fun _ c => owner c ≠ some k) :
    looseSum owner amount (accounts.insert k a) t =
      looseSum owner amount accounts t := by
  refine AList.sumBy_congr fun e he => ?_
  have hne := hfresh.of_mem he
  have hiff : (∃ q ∈ owner e.2, q ∈ accounts.insert k a) ↔
      ∃ q ∈ owner e.2, q ∈ accounts := by
    refine exists_congr fun q => and_congr_right fun hq => ?_
    rw [AList.mem_insert, or_iff_right]
    intro heq
    exact hne (heq ▸ hq)
  simp only [hiff]

theorem looseSum_add (owner : C → Option K) (amount : C → Int)
    (accounts : Table K (Account Int)) (hi : t.lookup i = none) :
    looseSum owner amount accounts (t.insert i c) =
      (if ∃ q ∈ owner c, q ∈ accounts then 0 else amount c) +
        looseSum owner amount accounts t :=
  AList.sumBy_insert_new hi

theorem looseSum_remove (owner : C → Option K) (amount : C → Int)
    (accounts : Table K (Account Int)) (hi : t.lookup i = some c) :
    (if ∃ q ∈ owner c, q ∈ accounts then 0 else amount c) +
        looseSum owner amount accounts (t.erase i) =
      looseSum owner amount accounts t :=
  AList.sumBy_erase
    (f := fun _ c => if ∃ q ∈ owner c, q ∈ accounts then 0 else amount c) hi

namespace Covered

variable {limit charged charged' : Int}

section Bounds

omit [DecidableEq I] in
theorem used_nonneg (h : Covered owner amount limit accounts charged t)
    (hk : accounts.lookup k = some a) : 0 ≤ a.used :=
  Int.le_trans (under_nonneg h.amounts) (h.uses.get hk)

omit [DecidableEq I] in
theorem floor_nonneg (h : Covered owner amount limit accounts charged t)
    (hk : accounts.lookup k = some a) : 0 ≤ a.floor :=
  Int.le_trans (h.used_nonneg hk) (h.inside.get hk)

omit [DecidableEq I] in
theorem floor_le (h : Covered owner amount limit accounts charged t)
    (hk : accounts.lookup k = some a) :
    a.floor ≤ accounts.sumBy fun _ a => a.floor :=
  AList.le_sumBy (f := fun _ a => Account.floor a)
    (fun _ he => h.floor_nonneg (AList.mem_entries_iff.mp he)) hk

omit [DecidableEq I] in
theorem sizes_le (h : Covered owner amount limit accounts charged t) :
    (accounts.sumBy fun _ a => a.floor) ≤ charged := by
  have hloose := looseSum_nonneg owner accounts t h.amounts
  have hcovered := h.covered
  omega

/-- A holding is covered by its account, or by the counter itself. -/
theorem amount_le (h : Covered owner amount limit accounts charged t)
    (hi : t.lookup i = some c) (hno : ∀ q ∈ accounts, owner c ≠ some q) :
    amount c ≤ charged := by
  have hnone : ¬ ∃ q ∈ owner c, q ∈ accounts := by
    intro ⟨q, hq, hmem⟩
    exact hno q hmem hq
  have hloose := looseSum_remove owner amount accounts hi
  rw [if_neg hnone] at hloose
  have hrest := looseSum_nonneg owner accounts (t.erase i) h.amounts
  have hfloors : 0 ≤ accounts.sumBy fun _ a => a.floor :=
    AList.sumBy_nonneg fun _ he => h.floor_nonneg (AList.mem_entries_iff.mp he)
  have hcovered := h.covered
  omega

theorem amount_le_used (h : Covered owner amount limit accounts charged t)
    (hi : t.lookup i = some c) (hk : accounts.lookup k = some a)
    (hc : owner c = some k) : amount c ≤ a.used :=
  Int.le_trans (amount_le_under h.amounts hi hc) (h.uses.get hk)

end Bounds

omit [DecidableEq I] in
/-- The counter may hold more. -/
theorem leak (h : Covered owner amount limit accounts charged t)
    (hle : charged ≤ charged') : Covered owner amount limit accounts charged' t where
  uses := h.uses
  inside := h.inside
  amounts := h.amounts
  covered := Int.le_trans h.covered hle
  sizes := h.sizes

omit [DecidableEq I] in
/-- The order of the accounts does not matter. -/
theorem congr (h : Covered owner amount limit accounts charged t)
    {accounts' : Table K (Account Int)}
    (hsame : ∀ k, accounts'.lookup k = accounts.lookup k) :
    Covered owner amount limit accounts' charged t where
  uses := fun k a hk => h.uses k a (hsame k ▸ hk)
  inside := fun k a hk => h.inside k a (hsame k ▸ hk)
  amounts := h.amounts
  covered := by
    have hmem : ∀ k, k ∈ accounts' ↔ k ∈ accounts := by
      intro k
      rw [← AList.lookup_isSome, hsame, AList.lookup_isSome]
    rw [AList.sumBy_ext hsame, looseSum_congr hmem]
    exact h.covered
  sizes := by
    rw [AList.sumBy_ext hsame]
    exact h.sizes

theorem open' (h : Covered owner amount limit accounts charged t)
    (hk : accounts.lookup k = none) (hfresh : t.All fun _ c => owner c ≠ some k)
    {n : Int} (hn : 0 ≤ n) (hroom : n = 0 ∨ charged + n ≤ limit) :
    Covered owner amount limit (accounts.insert k ⟨n, 0⟩) (charged + n) t where
  uses := h.uses.insert (under_of_none hfresh).le
  inside := h.inside.insert hn
  amounts := h.amounts
  covered := by
    have hcovered := h.covered
    rw [looseSum_open hfresh, AList.sumBy_insert_new hk]
    dsimp only
    omega
  sizes := by
    have hsizes := h.sizes
    have hle := h.sizes_le
    rw [AList.sumBy_insert_new hk]
    dsimp only
    omega

omit [DecidableEq I] in
theorem close (h : Covered owner amount limit accounts charged t)
    (hk : accounts.lookup k = some a) :
    Covered owner amount limit (accounts.erase k) (charged - (a.floor - a.used)) t where
  uses := h.uses.erase
  inside := h.inside.erase
  amounts := h.amounts
  covered := by
    have hcovered := h.covered
    have huse := h.uses.get hk
    have hsum := AList.sumBy_erase (f := fun _ a => Account.floor a) hk
    rw [looseSum_close (AList.mem_of_lookup hk)]
    omega
  sizes := by
    have hsizes := h.sizes
    have hfloor := h.floor_nonneg hk
    have hsum := AList.sumBy_erase (f := fun _ a => Account.floor a) hk
    omega

omit [DecidableEq I] in
/-- An account may be replaced by one with as much under it. -/
theorem update (h : Covered owner amount limit accounts charged t)
    (hk : accounts.lookup k = some a) {a' : Account Int}
    (huse : a.used ≤ a'.used) (hin : a'.used ≤ a'.floor)
    (hcovered : charged + (a'.floor - a.floor) ≤ charged')
    (hroom : a'.floor ≤ a.floor ∨ charged' ≤ limit) :
    Covered owner amount limit (accounts.insert k a') charged' t where
  uses := h.uses.insert (Int.le_trans (h.uses.get hk) huse)
  inside := h.inside.insert hin
  amounts := h.amounts
  covered := by
    have hold := h.covered
    have hsum := AList.sumBy_insert (f := fun _ a => Account.floor a) (w := a') hk
    rw [looseSum_insert (AList.mem_of_lookup hk)]
    omega
  sizes := by
    have hsizes := h.sizes
    have hle := h.sizes_le
    have hsum := AList.sumBy_insert (f := fun _ a => Account.floor a) (w := a') hk
    omega

/-- A holding is drawn inside an account. -/
theorem draw (h : Covered owner amount limit accounts charged t)
    (hi : t.lookup i = none) (hk : accounts.lookup k = some a)
    (hc : owner c = some k) {a' : Account Int} (hfloor : a'.floor = a.floor)
    (huse : a.used + amount c ≤ a'.used) (hin : a'.used ≤ a'.floor) :
    Covered owner amount limit (accounts.insert k a') charged (t.insert i c) where
  uses := by
    refine AList.All.insert_of_ne ?_ ?_
    · have hold := h.uses.get hk
      rw [under_insert_self hi hc]
      omega
    · intro q b hne hq
      rw [under_insert_ne hi hc hne]
      exact h.uses.get hq
  inside := h.inside.insert hin
  amounts := h.amounts
  covered := by
    have hold := h.covered
    have hmem := AList.mem_of_lookup hk
    have hsum := AList.sumBy_insert (f := fun _ a => Account.floor a) (w := a') hk
    rw [looseSum_insert hmem, looseSum_add owner amount accounts hi, if_pos ⟨k, hc, hmem⟩]
    omega
  sizes := by
    have hsizes := h.sizes
    have hsum := AList.sumBy_insert (f := fun _ a => Account.floor a) (w := a') hk
    omega

/-- A holding is given back to its account. -/
theorem repay (h : Covered owner amount limit accounts charged t)
    (hi : t.lookup i = some c) (hk : accounts.lookup k = some a)
    (hc : owner c = some k) {a' : Account Int} (hfloor : a'.floor = a.floor)
    (huse : a'.used = a.used - amount c) :
    Covered owner amount limit (accounts.insert k a') charged (t.erase i) where
  uses := by
    refine AList.All.insert_of_ne ?_ ?_
    · have hold := h.uses.get hk
      rw [under_erase_self hi hc]
      omega
    · intro q b hne hq
      rw [under_erase_ne hi hc hne]
      exact h.uses.get hq
  inside := by
    have hin := h.inside.get hk
    have hamount := h.amounts c
    refine h.inside.insert ?_
    omega
  amounts := h.amounts
  covered := by
    have hold := h.covered
    have hmem := AList.mem_of_lookup hk
    have hsum := AList.sumBy_insert (f := fun _ a => Account.floor a) (w := a') hk
    have hloose := looseSum_remove owner amount accounts hi
    rw [if_pos ⟨k, hc, hmem⟩] at hloose
    rw [looseSum_insert hmem]
    omega
  sizes := by
    have hsizes := h.sizes
    have hsum := AList.sumBy_insert (f := fun _ a => Account.floor a) (w := a') hk
    omega

/-- A holding is drawn on no account. -/
theorem drawLoose (h : Covered owner amount limit accounts charged t)
    (hi : t.lookup i = none) (hc : ∀ q ∈ accounts, owner c ≠ some q)
    (hle : charged + amount c ≤ charged') :
    Covered owner amount limit accounts charged' (t.insert i c) where
  uses := by
    intro q b hq
    rw [under_insert hi, if_neg (hc q (AList.mem_of_lookup hq)), add_zero]
    exact h.uses.get hq
  inside := h.inside
  amounts := h.amounts
  covered := by
    have hold := h.covered
    have hnone : ¬ ∃ q ∈ owner c, q ∈ accounts := by
      intro ⟨q, hq, hmem⟩
      exact hc q hmem hq
    rw [looseSum_add owner amount accounts hi, if_neg hnone]
    omega
  sizes := h.sizes

/-- A holding under no account is given back. -/
theorem repayLoose (h : Covered owner amount limit accounts charged t)
    (hi : t.lookup i = some c) (hc : ∀ q ∈ accounts, owner c ≠ some q)
    (hle : charged - amount c ≤ charged') :
    Covered owner amount limit accounts charged' (t.erase i) where
  uses := by
    intro q b hq
    rw [under_erase hi, if_neg (hc q (AList.mem_of_lookup hq)), sub_zero]
    exact h.uses.get hq
  inside := h.inside
  amounts := h.amounts
  covered := by
    have hold := h.covered
    have hnone : ¬ ∃ q ∈ owner c, q ∈ accounts := by
      intro ⟨q, hq, hmem⟩
      exact hc q hmem hq
    have hloose := looseSum_remove owner amount accounts hi
    rw [if_neg hnone] at hloose
    omega
  sizes := h.sizes

/-- A holding may be forgotten. -/
theorem drop (h : Covered owner amount limit accounts charged t)
    (hi : t.lookup i = some c) :
    Covered owner amount limit accounts charged (t.erase i) where
  uses := by
    intro q b hq
    have hold := h.uses.get hq
    have hamount := h.amounts c
    rw [under_erase hi]
    split <;> omega
  inside := h.inside
  amounts := h.amounts
  covered := by
    have hold := h.covered
    have hamount := h.amounts c
    have hloose := looseSum_remove owner amount accounts hi
    split at hloose <;> omega
  sizes := h.sizes

end Covered

end

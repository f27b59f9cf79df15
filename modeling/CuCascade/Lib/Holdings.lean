import CuCascade.Lib.Ledger

/-!
# What lies behind the accounts of a ledger

The use of an account is a number; what it stands for is a set of holdings,
each drawn on one account or on none. A holding remembers its account by name,
and the account may be closed before the holding is given back: from then on
the holding is as loose as one that never had an account.

`Backs` says that each use is the sum of the holdings under it. The lemmas
follow the operations of a ledger: opening and closing an account, moving its
floor, and drawing and repaying one holding. `Backs.worth` is what they are
for. It turns the worth of the ledger into a sum that mentions no use: the
charge of each account, and the holdings under none.
-/

section

variable {I C K G : Type*} [AddCommGroup G] [DecidableEq K]
  (owner : C → Option K) (amount : C → G)

/-- The holdings under account `k`. -/
def under (t : Table I C) (k : K) : G :=
  t.sumBy fun _ c => if owner c = some k then amount c else 0

/-- The holdings under no account of `accounts`. -/
def looseSum {V : Type*} (accounts : Table K V) (t : Table I C) : G :=
  t.sumBy fun _ c => if ∃ k ∈ owner c, k ∈ accounts then 0 else amount c

/-- Each use is the sum of the holdings under it. -/
def Backs (accounts : Table K (Account G)) (t : Table I C) : Prop :=
  accounts.All fun k a => a.used = under owner amount t k

variable {owner amount} {t : Table I C} {k : K}

section Order

variable [PartialOrder G] [IsOrderedAddMonoid G]

theorem under_nonneg (h : ∀ c, 0 ≤ amount c) : 0 ≤ under owner amount t k := by
  refine AList.sumBy_nonneg fun e _ => ?_
  split
  · exact h e.2
  · exact le_rfl

theorem under_le_sumBy (h : ∀ c, 0 ≤ amount c) :
    under owner amount t k ≤ t.sumBy fun _ c => amount c := by
  refine AList.sumBy_le_sumBy (g := fun _ c => amount c) fun e _ => ?_
  split
  · exact le_rfl
  · exact h e.2

end Order

theorem looseSum_congr {V W : Type*} {accounts : Table K V}
    {accounts' : Table K W} (h : ∀ k, k ∈ accounts ↔ k ∈ accounts') :
    looseSum owner amount accounts t = looseSum owner amount accounts' t := by
  unfold looseSum
  simp only [h]

variable [DecidableEq I] {i : I} {c : C}

theorem under_of_none (h : t.All fun _ c => owner c ≠ some k) :
    under owner amount t k = 0 := by
  refine AList.sumBy_zero fun e he => ?_
  rw [if_neg (h.of_mem he)]

/-- A holding is no more than all that is held under its account. -/
theorem amount_le_under [PartialOrder G] [IsOrderedAddMonoid G]
    (h : ∀ c, 0 ≤ amount c) (hi : t.lookup i = some c) (hc : owner c = some k) :
    amount c ≤ under owner amount t k := by
  have hone := AList.le_sumBy
    (f := fun _ c => if owner c = some k then amount c else 0)
    (fun e _ => by
      split
      · exact h e.2
      · exact le_rfl) hi
  rwa [if_pos hc] at hone

theorem under_erase (h : t.lookup i = some c) :
    under owner amount (t.erase i) k =
      under owner amount t k - if owner c = some k then amount c else 0 := by
  have hsum := AList.sumBy_erase
    (f := fun _ c => if owner c = some k then amount c else 0) h
  unfold under
  rw [← hsum, add_sub_cancel_left]

theorem under_insert (h : t.lookup i = none) :
    under owner amount (t.insert i c) k =
      under owner amount t k + if owner c = some k then amount c else 0 := by
  unfold under
  rw [AList.sumBy_insert_new h, add_comm]

theorem under_erase_self (h : t.lookup i = some c) (hc : owner c = some k) :
    under owner amount (t.erase i) k = under owner amount t k - amount c := by
  rw [under_erase h, if_pos hc]

theorem under_insert_self (h : t.lookup i = none) (hc : owner c = some k) :
    under owner amount (t.insert i c) k = under owner amount t k + amount c := by
  rw [under_insert h, if_pos hc]

/-- A holding is nothing to the accounts it is not drawn on. -/
theorem under_erase_ne (h : t.lookup i = some c) (hc : owner c = some k) {q : K}
    (hq : q ≠ k) : under owner amount (t.erase i) q = under owner amount t q := by
  rw [under_erase h, if_neg, sub_zero]
  rw [hc, Option.some.injEq]
  exact Ne.symm hq

theorem under_insert_ne (h : t.lookup i = none) (hc : owner c = some k) {q : K}
    (hq : q ≠ k) : under owner amount (t.insert i c) q = under owner amount t q := by
  rw [under_insert h, if_neg, add_zero]
  rw [hc, Option.some.injEq]
  exact Ne.symm hq

namespace Backs

variable {accounts : Table K (Account G)} {a : Account G}

omit [DecidableEq I] in
/-- An account may be replaced by one with the same use. -/
theorem update (h : Backs owner amount accounts t)
    (ha : a.used = under owner amount t k) :
    Backs owner amount (accounts.insert k a) t :=
  AList.All.insert h ha

omit [DecidableEq I] in
theorem refloor (h : Backs owner amount accounts t)
    (hk : accounts.lookup k = some a) (f : G) :
    Backs owner amount (accounts.insert k (a.withFloor f)) t := by
  have huse := h.get hk
  exact h.update huse

theorem open' (h : Backs owner amount accounts t)
    (hk : t.All fun _ c => owner c ≠ some k) (n : G) :
    Backs owner amount (accounts.insert k ⟨n, 0⟩) t :=
  h.update (under_of_none hk).symm

omit [DecidableEq I] in
theorem close (h : Backs owner amount accounts t) (k : K) :
    Backs owner amount (accounts.erase k) t :=
  AList.All.erase h

/-- A holding under no open account is given back. -/
theorem repayLoose (h : Backs owner amount accounts t)
    (hi : t.lookup i = some c) (hc : ∀ k ∈ accounts, owner c ≠ some k) :
    Backs owner amount accounts (t.erase i) := by
  intro k a hk
  rw [under_erase hi, if_neg (hc k (AList.mem_of_lookup hk)), sub_zero]
  exact h.get hk

/-- A holding of nothing is given back. -/
theorem drop (h : Backs owner amount accounts t) (hi : t.lookup i = some c)
    (hc : amount c = 0) : Backs owner amount accounts (t.erase i) := by
  intro k a hk
  rw [under_erase hi, hc, ite_self, sub_zero]
  exact h.get hk

/-- A holding under an open account is given back. -/
theorem repay (h : Backs owner amount accounts t)
    (hi : t.lookup i = some c) (hk : accounts.lookup k = some a)
    (hc : owner c = some k) :
    Backs owner amount (accounts.insert k (a.draw (-amount c)))
      (t.erase i) := by
  refine AList.All.insert_of_ne ?_ ?_
  · rw [under_erase_self hi hc, ← h.get hk]
    exact (sub_eq_add_neg _ _).symm
  · intro q b hne hq
    rw [under_erase_ne hi hc hne]
    exact h.get hq

/-- A holding is drawn on no open account. -/
theorem drawLoose (h : Backs owner amount accounts t)
    (hi : t.lookup i = none) (hc : ∀ k ∈ accounts, owner c ≠ some k) :
    Backs owner amount accounts (t.insert i c) := by
  intro k a hk
  rw [under_insert hi, if_neg (hc k (AList.mem_of_lookup hk)), add_zero]
  exact h.get hk

/-- A holding is drawn on an open account. -/
theorem draw (h : Backs owner amount accounts t)
    (hi : t.lookup i = none) (hk : accounts.lookup k = some a)
    (hc : owner c = some k) :
    Backs owner amount (accounts.insert k (a.draw (amount c)))
      (t.insert i c) := by
  refine AList.All.insert_of_ne ?_ ?_
  · rw [under_insert_self hi hc, ← h.get hk]
    rfl
  · intro q b hne hq
    rw [under_insert_ne hi hc hne]
    exact h.get hq

omit [DecidableEq I] in
/-- The worth of a ledger so backed: the charge of each account, and the holdings
under none. -/
theorem worth [LinearOrder G] [IsOrderedAddMonoid G] {l : Ledger K G}
    (h : Backs owner amount l.accounts t)
    (hout : l.outstanding = t.sumBy fun _ c => amount c) :
    l.worth = (l.accounts.sumBy fun _ a => a.charge) +
      looseSum owner amount l.accounts t := by
  have hsplit := AList.sumBy_fibre t l.accounts owner fun _ c => amount c
  have huses : (l.accounts.sumBy fun _ a => a.used) =
      l.accounts.sumBy fun k _ => under owner amount t k :=
    AList.sumBy_congr fun e he => h.get (AList.mem_entries_iff.mp he)
  refine Ledger.worth_eq_charge ?_
  rw [hout, huses, hsplit]
  rfl

end Backs

end

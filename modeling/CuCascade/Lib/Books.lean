import Mathlib.Algebra.Order.Group.Int
import CuCascade.Lib.Holdings

/-!
# Balanced books

A limiter promises floors out of a `limit` and lets nothing be charged beyond a
`cap`. Its books are balanced when the counter holds exactly what it has to
cover, each account is backed by the holdings drawn on it, and the two bounds
stand. Then the sum of the floors is within the limit because the counter was
when the last of them was granted, and no single account, holding or use is
larger than the counter: `sizes_le`, `charge_le`, `amount_le`.

Each operation of a ledger keeps the books balanced under the check a limiter
makes before it: the counter is within the limit after a floor was raised, and
within the cap after a holding was drawn. Nothing has to be checked to give
something back.
-/

/-- The books of a limiter whose counter is exact. -/
structure BalancedBooks {I C K : Type*} [DecidableEq K] (owner : C → Option K)
    (amount : C → Int) (limit cap : Int) (l : Ledger K Int) (t : Table I C) :
    Prop where
  slack : l.slack = 0
  charged : l.charged ≤ cap
  sizes : (l.accounts.sumBy fun _ a => a.floor) ≤ limit
  limit_le : limit ≤ cap
  floors : l.accounts.All fun _ a => 0 ≤ a.floor
  amounts : ∀ c, 0 ≤ amount c
  backs : Backs owner amount l.accounts t
  outstanding : l.outstanding = t.sumBy fun _ c => amount c

namespace BalancedBooks

variable {I C K : Type*} [DecidableEq K] [DecidableEq I] {owner : C → Option K}
  {amount : C → Int} {limit cap : Int} {l l' : Ledger K Int} {t : Table I C}
  {k : K} {a : Account Int} {i : I} {c : C}

section Bounds

omit [DecidableEq I] in
theorem charged_eq (h : BalancedBooks owner amount limit cap l t) :
    l.charged = (l.accounts.sumBy fun _ a => a.charge) +
      looseSum owner amount l.accounts t := by
  have hworth := h.backs.worth h.outstanding
  have hslack := h.slack
  simp only [Ledger.slack] at hslack
  omega

omit [DecidableEq I] in
theorem loose_nonneg (h : BalancedBooks owner amount limit cap l t) :
    0 ≤ looseSum owner amount l.accounts t := by
  refine AList.sumBy_nonneg fun e _ => ?_
  split
  · exact le_rfl
  · exact h.amounts e.2

omit [DecidableEq I] in
theorem used_nonneg (h : BalancedBooks owner amount limit cap l t)
    (hk : l.accounts.lookup k = some a) : 0 ≤ a.used := by
  have huse := h.backs.get hk
  have hpos : 0 ≤ under owner amount t k := under_nonneg h.amounts
  omega

omit [DecidableEq I] in
theorem charge_le (h : BalancedBooks owner amount limit cap l t)
    (hk : l.accounts.lookup k = some a) : max a.floor a.used ≤ l.charged := by
  have hone := AList.le_sumBy (f := fun _ a => Account.charge a)
    (fun e he => le_max_of_le_left (h.floors.of_mem he)) hk
  have hall := h.charged_eq
  have hloose := h.loose_nonneg
  simp only [Account.charge] at hone hall
  omega

omit [DecidableEq I] in
theorem sizes_le (h : BalancedBooks owner amount limit cap l t) :
    (l.accounts.sumBy fun _ a => a.floor) ≤ l.charged := by
  have hle : (l.accounts.sumBy fun _ a => a.floor) ≤
      l.accounts.sumBy fun _ a => a.charge :=
    AList.sumBy_le_sumBy fun e _ => le_max_left _ _
  have hall := h.charged_eq
  have hloose := h.loose_nonneg
  omega

theorem amount_le (h : BalancedBooks owner amount limit cap l t)
    (hi : t.lookup i = some c) : amount c ≤ l.charged := by
  have hone := AList.le_sumBy (f := fun _ c => amount c)
    (fun e _ => h.amounts e.2) hi
  have hroom : 0 ≤ l.accounts.sumBy fun _ a => a.headroom :=
    AList.sumBy_nonneg fun e _ => e.2.headroom_nonneg
  have hslack := h.slack
  have hout := h.outstanding
  simp only [Ledger.slack, Ledger.worth] at hslack
  omega

theorem amount_le_used (h : BalancedBooks owner amount limit cap l t)
    (hi : t.lookup i = some c) (hk : l.accounts.lookup k = some a)
    (hc : owner c = some k) : amount c ≤ a.used := by
  rw [h.backs.get hk]
  exact amount_le_under h.amounts hi hc

end Bounds

omit [DecidableEq I] in
/-- The order of the accounts does not matter. -/
theorem congr (h : BalancedBooks owner amount limit cap l t)
    (haccounts : ∀ k, l'.accounts.lookup k = l.accounts.lookup k)
    (hout : l'.outstanding = l.outstanding) (hcharged : l'.charged = l.charged) :
    BalancedBooks owner amount limit cap l' t where
  slack := by
    have hslack := h.slack
    simp only [Ledger.slack, Ledger.worth] at hslack ⊢
    rw [AList.sumBy_ext haccounts, hout, hcharged, hslack]
  charged := hcharged ▸ h.charged
  sizes := by
    rw [AList.sumBy_ext haccounts]
    exact h.sizes
  limit_le := h.limit_le
  floors := fun k a hk => h.floors k a (haccounts k ▸ hk)
  amounts := h.amounts
  backs := fun k a hk => h.backs k a (haccounts k ▸ hk)
  outstanding := hout.trans h.outstanding

theorem open' (h : BalancedBooks owner amount limit cap l t)
    (hk : l.accounts.lookup k = none) (hfresh : t.All fun _ c => owner c ≠ some k)
    {n : Int} (hn : 0 ≤ n) (hroom : n = 0 ∨ l.charged + n ≤ limit) :
    BalancedBooks owner amount limit cap (l.open' k n) t where
  slack := (Ledger.slack_open' hn hk).trans h.slack
  charged := by
    have hcharged := h.charged
    have hle := h.limit_le
    show l.charged + n ≤ cap
    omega
  sizes := by
    have hsizes := h.sizes
    have hcharged := h.sizes_le
    show (l.accounts.insert k ⟨n, 0⟩).sumBy _ ≤ limit
    rw [AList.sumBy_insert_new hk]
    dsimp only
    omega
  limit_le := h.limit_le
  floors := h.floors.insert hn
  amounts := h.amounts
  backs := h.backs.open' hfresh n
  outstanding := h.outstanding

omit [DecidableEq I] in
theorem close (h : BalancedBooks owner amount limit cap l t)
    (hk : l.accounts.lookup k = some a) :
    BalancedBooks owner amount limit cap (l.close k a) t where
  slack := (Ledger.slack_close hk).trans h.slack
  charged := by
    have hcharged := h.charged
    have hroom := a.headroom_nonneg
    show l.charged - a.headroom ≤ cap
    omega
  sizes := by
    have hsizes := h.sizes
    have hfloor := h.floors.get hk
    have hsum := AList.sumBy_erase (f := fun _ a => Account.floor a) hk
    show (l.accounts.erase k).sumBy _ ≤ limit
    omega
  limit_le := h.limit_le
  floors := h.floors.erase
  amounts := h.amounts
  backs := h.backs.close k
  outstanding := h.outstanding

omit [DecidableEq I] in
theorem refloor (h : BalancedBooks owner amount limit cap l t)
    (hk : l.accounts.lookup k = some a) {f : Int} (hf : 0 ≤ f)
    (hroom : f ≤ a.floor ∨ l.charged + (f - a.floor) ≤ limit) :
    BalancedBooks owner amount limit cap (l.refloor k a f) t where
  slack := (Ledger.slack_refloor hk f).trans h.slack
  charged := by
    have hcharged := h.charged
    have hle := h.limit_le
    simp only [Ledger.refloor, Account.headroom, Account.withFloor]
    omega
  sizes := by
    have hsizes := h.sizes
    have hcharged := h.sizes_le
    have hsum := AList.sumBy_insert (f := fun _ a => Account.floor a)
      (w := a.withFloor f) hk
    simp only [Account.withFloor] at hsum
    show (l.accounts.insert k (a.withFloor f)).sumBy _ ≤ limit
    simp only [Account.withFloor]
    omega
  limit_le := h.limit_le
  floors := h.floors.insert hf
  amounts := h.amounts
  backs := h.backs.refloor hk f
  outstanding := h.outstanding

omit [DecidableEq I] in
/-- A draw leaves the floors as they are. -/
theorem sizes_draw (h : BalancedBooks owner amount limit cap l t)
    (hk : l.accounts.lookup k = some a) (n : Int) :
    ((l.draw k a n).accounts.sumBy fun _ a => a.floor) ≤ limit := by
  have hsizes := h.sizes
  have hsum := AList.sumBy_insert (f := fun _ a => Account.floor a)
    (w := a.draw n) hk
  simp only [Account.draw] at hsum
  simp only [Ledger.draw, Account.draw]
  omega

theorem draw (h : BalancedBooks owner amount limit cap l t)
    (hi : t.lookup i = none) (hk : l.accounts.lookup k = some a)
    (hc : owner c = some k) (hcap : (l.draw k a (amount c)).charged ≤ cap) :
    BalancedBooks owner amount limit cap (l.draw k a (amount c)) (t.insert i c) where
  slack := (Ledger.slack_draw hk _).trans h.slack
  charged := hcap
  sizes := h.sizes_draw hk _
  limit_le := h.limit_le
  floors := by
    have hfloor := h.floors.get hk
    exact h.floors.insert hfloor
  amounts := h.amounts
  backs := h.backs.draw hi hk hc
  outstanding := by
    rw [AList.sumBy_insert_new hi, ← h.outstanding]
    exact add_comm _ _

theorem drawLoose (h : BalancedBooks owner amount limit cap l t)
    (hi : t.lookup i = none) (hc : ∀ k ∈ l.accounts, owner c ≠ some k)
    (hcap : amount c = 0 ∨ l.charged + amount c ≤ cap) :
    BalancedBooks owner amount limit cap (l.drawLoose (amount c)) (t.insert i c) where
  slack := (Ledger.slack_drawLoose l _).trans h.slack
  charged := by
    have hcharged := h.charged
    show l.charged + amount c ≤ cap
    omega
  sizes := h.sizes
  limit_le := h.limit_le
  floors := h.floors
  amounts := h.amounts
  backs := h.backs.drawLoose hi hc
  outstanding := by
    rw [AList.sumBy_insert_new hi, ← h.outstanding]
    exact add_comm _ _

theorem sumBy_repaid (h : BalancedBooks owner amount limit cap l t)
    (hi : t.lookup i = some c) :
    l.outstanding + -amount c = (t.erase i).sumBy fun _ c => amount c := by
  have hsum := AList.sumBy_erase (f := fun _ c => amount c) hi
  have hout := h.outstanding
  omega

theorem repay (h : BalancedBooks owner amount limit cap l t)
    (hi : t.lookup i = some c) (hk : l.accounts.lookup k = some a)
    (hc : owner c = some k) :
    BalancedBooks owner amount limit cap (l.draw k a (-amount c)) (t.erase i) where
  slack := (Ledger.slack_draw hk _).trans h.slack
  charged := by
    have hcharged := h.charged
    have hamount := h.amounts c
    simp only [Ledger.draw, Account.charge, Account.draw]
    omega
  sizes := h.sizes_draw hk _
  limit_le := h.limit_le
  floors := by
    have hfloor := h.floors.get hk
    exact h.floors.insert hfloor
  amounts := h.amounts
  backs := h.backs.repay hi hk hc
  outstanding := h.sumBy_repaid hi

theorem repayLoose (h : BalancedBooks owner amount limit cap l t)
    (hi : t.lookup i = some c) (hc : ∀ k ∈ l.accounts, owner c ≠ some k) :
    BalancedBooks owner amount limit cap (l.drawLoose (-amount c)) (t.erase i) where
  slack := (Ledger.slack_drawLoose l _).trans h.slack
  charged := by
    have hcharged := h.charged
    have hamount := h.amounts c
    show l.charged + -amount c ≤ cap
    omega
  sizes := h.sizes
  limit_le := h.limit_le
  floors := h.floors
  amounts := h.amounts
  backs := h.backs.repayLoose hi hc
  outstanding := h.sumBy_repaid hi

/-- A holding of nothing may be dropped. -/
theorem drop (h : BalancedBooks owner amount limit cap l t)
    (hi : t.lookup i = some c) (hc : amount c = 0) :
    BalancedBooks owner amount limit cap l (t.erase i) where
  slack := h.slack
  charged := h.charged
  sizes := h.sizes
  limit_le := h.limit_le
  floors := h.floors
  amounts := h.amounts
  backs := h.backs.drop hi hc
  outstanding := by
    have hsum := h.sumBy_repaid hi
    omega

end BalancedBooks

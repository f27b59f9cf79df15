import Mathlib.Algebra.Order.Group.MinMax
import Mathlib.Tactic.Abel
import Mathlib.Data.Int.Order.Basic
import CuCascade.Lib.Table

/-!
# Ledgers with reserved floors

One counter pays for two kinds of claims. An account has a floor, an amount
promised to its holder in advance, and a use, the amount drawn on it so far;
drawing inside the floor costs the counter nothing because the floor was paid
when the account was opened, and drawing beyond it is paid as it happens. Loose
amounts belong to no account and are paid one by one.

`charged` is the counter and `worth` what it has to cover: everything
outstanding, plus for each account the headroom still promised to its holder.
`slack` is the difference. The operations below are the ones that keep it:
opening and closing an account, moving its floor, drawing on it and repaying
(the same operation with a negative amount), drawing loosely. `leak` is the
only one that moves it. A program whose steps are composed of these keeps its
books exactly as far as it does not leak.
-/

/-- A promise and what has been drawn on it. -/
@[ext] structure Account (G : Type*) where
  floor : G
  used : G
deriving DecidableEq

/-- A single counter and the claims it pays for. -/
@[ext] structure Ledger (K G : Type*) where
  accounts : Table K (Account G)
  outstanding : G
  charged : G

section

variable {K G : Type*} [AddCommGroup G] [LinearOrder G]

namespace Account

/-- What the holder may still draw without paying. -/
def headroom (a : Account G) : G := max 0 (a.floor - a.used)

/-- What the account costs the counter: its floor or its use, whichever is
larger. -/
def charge (a : Account G) : G := max a.floor a.used

/-- The account after drawing `n` on it. -/
def draw (a : Account G) (n : G) : Account G := ⟨a.floor, a.used + n⟩

/-- The account with another floor. -/
def withFloor (a : Account G) (f : G) : Account G := ⟨f, a.used⟩

theorem headroom_nonneg (a : Account G) : 0 ≤ a.headroom := le_max_left _ _

variable [IsOrderedAddMonoid G]

theorem charge_eq (a : Account G) : a.charge = a.used + a.headroom := by
  unfold charge headroom
  rw [← max_add_add_left, add_zero, add_sub_cancel, max_comm]

theorem headroom_of_used_le {a : Account G} (h : a.used ≤ a.floor) :
    a.headroom = a.floor - a.used :=
  max_eq_right (sub_nonneg.mpr h)

end Account

namespace Ledger

/-- What the counter has to cover. -/
def worth (l : Ledger K G) : G :=
  l.outstanding + l.accounts.sumBy fun _ a => a.headroom

/-- What the counter holds beyond what it has to cover. -/
def slack (l : Ledger K G) : G := l.charged - l.worth

variable [DecidableEq K]

/-- Open an account with floor `n`, paid at once. -/
def open' (l : Ledger K G) (k : K) (n : G) : Ledger K G :=
  { l with accounts := l.accounts.insert k ⟨n, 0⟩, charged := l.charged + n }

/-- Close an account: its headroom goes back, what was drawn stays out. -/
def close (l : Ledger K G) (k : K) (a : Account G) : Ledger K G :=
  { l with accounts := l.accounts.erase k, charged := l.charged - a.headroom }

/-- Move the floor of an account, paying the difference in headroom. -/
def refloor (l : Ledger K G) (k : K) (a : Account G) (f : G) : Ledger K G :=
  { l with
    accounts := l.accounts.insert k (a.withFloor f)
    charged := l.charged + ((a.withFloor f).headroom - a.headroom) }

/-- Draw `n` on an account, or repay it when `n` is negative; the counter pays
the part beyond the floor. -/
def draw (l : Ledger K G) (k : K) (a : Account G) (n : G) : Ledger K G :=
  { accounts := l.accounts.insert k (a.draw n)
    outstanding := l.outstanding + n
    charged := l.charged + ((a.draw n).charge - a.charge) }

/-- Draw `n` on no account. -/
def drawLoose (l : Ledger K G) (n : G) : Ledger K G :=
  { l with outstanding := l.outstanding + n, charged := l.charged + n }

/-- Pay `n` for nothing. -/
def leak (l : Ledger K G) (n : G) : Ledger K G :=
  { l with charged := l.charged + n }

omit [DecidableEq K] in
@[simp] theorem slack_drawLoose (l : Ledger K G) (n : G) :
    (l.drawLoose n).slack = l.slack := by
  simp only [slack, worth, drawLoose]
  abel

omit [DecidableEq K] [LinearOrder G] in
@[simp] theorem leak_zero (l : Ledger K G) : l.leak 0 = l := by
  simp only [leak, add_zero]

omit [DecidableEq K] in
@[simp] theorem slack_leak (l : Ledger K G) (n : G) :
    (l.leak n).slack = l.slack + n := by
  simp only [slack, worth, leak]
  abel

variable {l : Ledger K G} {k : K} {a : Account G}

theorem slack_open' [IsOrderedAddMonoid G] {n : G} (hn : 0 ≤ n)
    (hk : l.accounts.lookup k = none) : (l.open' k n).slack = l.slack := by
  have hroom : (Account.mk n 0).headroom = n := by
    rw [Account.headroom_of_used_le (a := ⟨n, 0⟩) hn, sub_zero]
  simp only [slack, worth, open', AList.sumBy_insert_new hk, hroom]
  abel

theorem slack_close (hk : l.accounts.lookup k = some a) :
    (l.close k a).slack = l.slack := by
  have hsum := AList.sumBy_erase (f := fun _ a => Account.headroom a) hk
  simp only [slack, worth, close, ← hsum]
  abel

theorem slack_refloor (hk : l.accounts.lookup k = some a) (f : G) :
    (l.refloor k a f).slack = l.slack := by
  have hsum := AList.sumBy_insert (f := fun _ a => Account.headroom a)
    (w := a.withFloor f) hk
  have hroom := eq_sub_of_add_eq' hsum
  simp only [slack, worth, refloor, hroom]
  abel

theorem slack_draw [IsOrderedAddMonoid G] (hk : l.accounts.lookup k = some a)
    (n : G) : (l.draw k a n).slack = l.slack := by
  have hsum := AList.sumBy_insert (f := fun _ a => Account.headroom a)
    (w := a.draw n) hk
  have hroom := eq_sub_of_add_eq' hsum
  simp only [slack, worth, draw, hroom, Account.charge_eq]
  simp only [Account.draw]
  abel

omit [DecidableEq K] in
/-- Where each use is backed by what is outstanding on the account, the worth
is the charge of every account plus what is outstanding on none. -/
theorem worth_eq_charge [IsOrderedAddMonoid G] {loose : G}
    (h : l.outstanding = (l.accounts.sumBy fun _ a => a.used) + loose) :
    l.worth = (l.accounts.sumBy fun _ a => a.charge) + loose := by
  simp only [worth, h, Account.charge_eq, AList.sumBy_add]
  abel

end Ledger

end

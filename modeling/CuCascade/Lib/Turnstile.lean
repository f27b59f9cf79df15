import Mathlib.Order.Basic

/-!
# Tokens behind a condition variable

A store of tokens under a mutex, and those who want one. Who finds a token takes
it. Who finds none sleeps on the condition variable, or brings a token of its
own. Who gives a token back wakes one of those that sleep. Who is woken, by that
or by nothing, comes back for the mutex and looks again, and may find that
another was faster.

Only numbers count here: the tokens in the store, those that sleep, those that
are awake and on the way, and those that are out with a token. While anyone
sleeps, no more tokens lie in the store than others are on the way to take.
-/

structure Turnstile where
  idle : Nat
  asleep : Nat
  woken : Nat
  out : Nat
deriving DecidableEq, Repr

namespace Turnstile

variable {s s' : Turnstile}

/-- What those who hold a token and those who have been woken can do by
themselves. -/
inductive Serves (s s' : Turnstile) : Prop where
  /-- a woken one takes a token -/
  | takes (idle : s.idle = s'.idle + 1) (asleep : s'.asleep = s.asleep)
      (woken : s.woken = s'.woken + 1) (out : s'.out = s.out + 1)
  /-- or finds none, and sleeps again -/
  | sleepsAgain (none : s.idle = 0) (idle : s'.idle = 0) (asleep : s'.asleep = s.asleep + 1)
      (woken : s.woken = s'.woken + 1) (out : s'.out = s.out)
  /-- a token is given back, and one of those that sleep is woken -/
  | wakes (idle : s'.idle = s.idle + 1) (asleep : s.asleep = s'.asleep + 1)
      (woken : s'.woken = s.woken + 1) (out : s.out = s'.out + 1)
  /-- or nobody sleeps -/
  | returns (nobody : s.asleep = 0) (idle : s'.idle = s.idle + 1) (asleep : s'.asleep = 0)
      (woken : s'.woken = s.woken) (out : s.out = s'.out + 1)

/-- What can happen besides. -/
inductive Disturbs (s s' : Turnstile) : Prop where
  /-- a newcomer takes a token -/
  | overtakes (idle : s.idle = s'.idle + 1) (asleep : s'.asleep = s.asleep)
      (woken : s'.woken = s.woken) (out : s'.out = s.out + 1)
  /-- or finds none and sleeps -/
  | sleeps (none : s.idle = 0) (idle : s'.idle = 0) (asleep : s'.asleep = s.asleep + 1)
      (woken : s'.woken = s.woken) (out : s'.out = s.out)
  /-- or brings one of its own -/
  | brings (none : s.idle = 0) (idle : s'.idle = 0) (asleep : s'.asleep = s.asleep)
      (woken : s'.woken = s.woken) (out : s'.out = s.out + 1)
  /-- one that sleeps wakes up by itself -/
  | stirs (idle : s'.idle = s.idle) (asleep : s.asleep = s'.asleep + 1)
      (woken : s'.woken = s.woken + 1) (out : s'.out = s.out)
  /-- a token is never given back -/
  | loses (idle : s'.idle = s.idle) (asleep : s'.asleep = s.asleep)
      (woken : s'.woken = s.woken) (out : s.out = s'.out + 1)
  | stays (same : s' = s)

/-- For each token that lies in the store while one sleeps another is on the way. -/
def Awake (s : Turnstile) : Prop := s.asleep = 0 ∨ s.idle ≤ s.woken

/-- How much is left to do for those who serve. -/
def work (s : Turnstile) : Nat := 2 * s.asleep + 3 * s.woken + 2 * s.out

theorem Awake.serves (h : s.Awake) (hstep : Serves s s') : s'.Awake := by
  unfold Awake at h ⊢
  cases hstep with
  | returns _ _ hnobody => exact Or.inl hnobody
  | _ => omega

theorem Awake.disturbs (h : s.Awake) (hstep : Disturbs s s') : s'.Awake := by
  unfold Awake at h ⊢
  cases hstep with
  | stays hsame => exact hsame ▸ h
  | _ => omega

theorem Serves.work_lt (hstep : Serves s s') : s'.work < s.work := by
  unfold work
  cases hstep <;> omega

/-- Where nobody is left to serve, nobody sleeps before a token. -/
theorem Awake.idle_eq_zero (h : s.Awake) (hwoken : s.woken = 0) (hasleep : s.asleep ≠ 0) :
    s.idle = 0 := by
  have hle := h.resolve_left hasleep
  omega

end Turnstile

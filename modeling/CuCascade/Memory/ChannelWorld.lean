import CuCascade.Lib.Machine
import CuCascade.Lib.Table
import CuCascade.Memory.NotificationChannel

/-!
# A notification channel, its notifiers and the threads that wait on it

A thread inside `wait` is blocked on `_cv` or about to evaluate the predicate
again. An evaluation happens under the mutex together with what it leads to:
the thread goes back to sleep, or it returns with the status it reads off. So
does each post, each destruction of a notifier and `shutdown`, with the
notification it sends. Which thread `notify_one` picks is up to the
environment and part of the call.

Next to the channel stands what its users know about it: which notifiers are
alive, whether there was a post since `wait` last returned `NOTIFIED`, whether
`shutdown` was called. Each return of `wait` is kept together with what held at
that moment.
-/

namespace CuCascade.Memory

/-- A thread inside `wait`. -/
inductive Waiter where
  | blocked | runnable
deriving DecidableEq, Repr

/-- A return of `wait`, and what was so when it returned. -/
structure WaitReturn where
  status : WaitStatus
  alive : Nat
  posted : Bool
  stopped : Bool
deriving DecidableEq, Repr

structure ChannelWorld where
  self : Addr
  channel : NotificationChannel
  notifiers : Table Nat EventNotifier
  waiters : Table Nat Waiter
  posted : Bool
  stopped : Bool
  returns : List WaitReturn

inductive ChannelOp where
  | getNotifier (id : Nat)
  /-- `event_notifier::post`; `woken` is whom `notify_one` picks -/
  | post (id : Nat) (woken : Option Nat)
  | destroyNotifier (id : Nat)
  /-- a thread calls `wait` -/
  | wait (t : Nat)
  /-- a thread inside `wait` evaluates the predicate again -/
  | resume (t : Nat)
  | shutdown (woken : Option Nat)
deriving DecidableEq

namespace ChannelWorld

def fresh (self : Addr) : ChannelWorld :=
  ⟨self, .fresh, ∅, ∅, false, false, []⟩

def Blocked (w : ChannelWorld) (t : Nat) : Prop :=
  w.waiters.lookup t = some .blocked

instance (w : ChannelWorld) (t : Nat) : Decidable (w.Blocked t) :=
  inferInstanceAs (Decidable (_ = _))

def notifyOne (w : ChannelWorld) : Option Nat → ChannelWorld
  | none => w
  | some t => { w with waiters := w.waiters.insert t .runnable }

def notifyAll (w : ChannelWorld) : ChannelWorld :=
  { w with waiters := w.waiters.mapVal fun _ _ => .runnable }

/-- A thread evaluates the predicate of `wait`. -/
def evaluate (w : ChannelWorld) (t : Nat) : ChannelWorld :=
  match w.channel.pollWait with
  | (channel, none) =>
      { w with channel := channel, waiters := w.waiters.insert t .blocked }
  | (channel, some status) =>
      { w with
        channel := channel
        waiters := w.waiters.erase t
        posted := w.posted && status != .NOTIFIED
        returns :=
          ⟨status, w.notifiers.count, w.posted, w.stopped⟩ :: w.returns }

def next (w : ChannelWorld) : ChannelOp → ChannelWorld
  | .getNotifier id =>
      let (notifier, channel) := w.channel.getNotifier w.self
      { w with channel := channel, notifiers := w.notifiers.insert id notifier }
  | .post _ woken =>
      { w with channel := w.channel.notify, posted := true }.notifyOne woken
  | .destroyNotifier id =>
      let w := { w with
        channel := w.channel.releaseNotifier
        notifiers := w.notifiers.erase id }
      if w.channel.nActiveNotifiers = 0 then w.notifyAll else w
  | .wait t | .resume t => w.evaluate t
  | .shutdown woken =>
      { w with channel := w.channel.shutdown, stopped := true }.notifyOne woken

/-- Whom `notify_one` can pick: a blocked thread if there is one. -/
def MayWake (w : ChannelWorld) : Option Nat → Prop
  | none => w.waiters.All fun _ s => s = .runnable
  | some t => w.Blocked t

instance (w : ChannelWorld) : (woken : Option Nat) → Decidable (w.MayWake woken)
  | none => inferInstanceAs (Decidable (w.waiters.All _))
  | some t => inferInstanceAs (Decidable (w.Blocked t))

/-- Only notifiers that are alive are used, and a thread waits once at a
time. A thread that resumes may have woken up by itself. -/
def Proper (w : ChannelWorld) : ChannelOp → Prop
  | .getNotifier id => id ∉ w.notifiers
  | .post id woken => id ∈ w.notifiers ∧ w.MayWake woken
  | .destroyNotifier id => id ∈ w.notifiers
  | .wait t => t ∉ w.waiters
  | .resume t => t ∈ w.waiters
  | .shutdown woken => w.MayWake woken

instance (w : ChannelWorld) : (op : ChannelOp) → Decidable (w.Proper op)
  | .getNotifier _ => inferInstanceAs (Decidable (_ ∉ w.notifiers))
  | .post _ _ => inferInstanceAs (Decidable (_ ∈ w.notifiers ∧ w.MayWake _))
  | .destroyNotifier _ => inferInstanceAs (Decidable (_ ∈ w.notifiers))
  | .wait _ => inferInstanceAs (Decidable (_ ∉ w.waiters))
  | .resume _ => inferInstanceAs (Decidable (_ ∈ w.waiters))
  | .shutdown _ => inferInstanceAs (Decidable (w.MayWake _))

/-- The same without spurious wake-ups. -/
def Prompt (w : ChannelWorld) : ChannelOp → Prop
  | .resume t => w.waiters.lookup t = some .runnable
  | op => w.Proper op

instance (w : ChannelWorld) : (op : ChannelOp) → Decidable (w.Prompt op)
  | .resume _ => inferInstanceAs (Decidable (_ = _))
  | .getNotifier id => inferInstanceAs (Decidable (w.Proper (.getNotifier id)))
  | .post id woken => inferInstanceAs (Decidable (w.Proper (.post id woken)))
  | .destroyNotifier id =>
      inferInstanceAs (Decidable (w.Proper (.destroyNotifier id)))
  | .wait t => inferInstanceAs (Decidable (w.Proper (.wait t)))
  | .shutdown woken => inferInstanceAs (Decidable (w.Proper (.shutdown woken)))

/-- One channel and users who keep to `legal`. -/
def machine (legal : ChannelWorld → ChannelOp → Prop) :
    Machine ChannelWorld ChannelOp where
  start w := ∃ self, w = fresh self
  legal := legal
  next := next

end ChannelWorld

end CuCascade.Memory

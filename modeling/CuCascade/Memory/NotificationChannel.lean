import CuCascade.Memory.Common

/-!
# `notification_channel`: what its mutex protects

The three fields of a channel and the effect each operation has on them under
the mutex. Who is blocked and who gets woken is not part of this file.

An `event_notifier` is created without touching the count it will later
decrement: its constructor only keeps a pointer to the channel.
-/

namespace CuCascade.Memory

structure NotificationChannel where
  hasBeenNotified : Bool
  nActiveNotifiers : UInt64
  isRunning : Bool
deriving DecidableEq, Repr

/-- `notification_channel::event_notifier`: the channel it holds. -/
structure EventNotifier where
  channel : Addr
deriving DecidableEq, Repr

inductive WaitStatus where
  | IDLE | NOTIFIED | SHUTDOWN
deriving DecidableEq, Repr

namespace NotificationChannel

def fresh : NotificationChannel := ⟨false, 0, true⟩

/-- `get_notifier`, that is the constructor of `event_notifier`. -/
def getNotifier (c : NotificationChannel) (self : Addr) :
    EventNotifier × NotificationChannel :=
  (⟨self⟩, c)

def notify (c : NotificationChannel) : NotificationChannel :=
  { c with hasBeenNotified := true }

def releaseNotifier (c : NotificationChannel) : NotificationChannel :=
  { c with nActiveNotifiers := c.nActiveNotifiers - 1 }

def shutdown (c : NotificationChannel) : NotificationChannel :=
  { c with isRunning := false }

/-- `~notify_on_exit` and then the destructor of the notifier it owns. -/
def notifyOnExit (c : NotificationChannel) : NotificationChannel :=
  c.notify.releaseNotifier

/-- One evaluation of the predicate in `wait`: it consumes the notification,
and a true answer comes with the status `wait` then returns. -/
def pollWait (c : NotificationChannel) :
    NotificationChannel × Option WaitStatus :=
  let notified := c.hasBeenNotified
  let c := { c with hasBeenNotified := false }
  if notified || c.nActiveNotifiers == 0 || !c.isRunning then
    (c, some (if !c.isRunning then .SHUTDOWN
      else if notified then .NOTIFIED else .IDLE))
  else (c, none)

end NotificationChannel

end CuCascade.Memory

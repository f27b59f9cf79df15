import CuCascade.Lib.Table
import CuCascade.Memory.NotificationChannel
import CuCascade.Utils.Atomics

/-!
# `disk_access_limiter`

The limiter of the disk tier only promises: nothing is allocated through it, a
reservation can neither grow nor shrink, and what it took is given back when
it is destroyed. The private `grow_reservation_by` and
`shrink_reservation_to_fit` have no caller, and the mount path is only handed
on, so none of them is here.
-/

namespace CuCascade.Memory

open Utils

/-- `disk_reserved_arena`, with the fields of its base `reserved_arena`. -/
structure DiskReservedArena where
  size : Int64
  onExit : Option EventNotifier
deriving DecidableEq, Repr

structure DiskAccessLimiter where
  memoryLimit : UInt64
  totalAllocatedBytes : UInt64
  peakTotalAllocatedBytes : UInt64
  totalReservationCount : UInt64
  arenas : Table Addr DiskReservedArena

namespace DiskAccessLimiter

def fresh (memoryLimit : UInt64) : DiskAccessLimiter :=
  ⟨memoryLimit, 0, 0, 0, ∅⟩

def doReserve (mr : DiskAccessLimiter) (sizeBytes limitBytes : UInt64) :
    Bool × DiskAccessLimiter :=
  match tryAdd mr.totalAllocatedBytes sizeBytes limitBytes with
  | (true, postAllocationSize) =>
      (true, { mr with
        totalAllocatedBytes := postAllocationSize
        peakTotalAllocatedBytes :=
          updatePeak mr.peakTotalAllocatedBytes postAllocationSize })
  | (false, _) => (false, mr)

def doReserveUpto (mr : DiskAccessLimiter) (sizeBytes limitBytes : UInt64) :
    UInt64 × DiskAccessLimiter :=
  let (sizeBytes, postAllocationSize) :=
    addBounded mr.totalAllocatedBytes sizeBytes limitBytes
  (sizeBytes, { mr with
    totalAllocatedBytes := postAllocationSize
    peakTotalAllocatedBytes :=
      if 0 < sizeBytes then
        updatePeak mr.peakTotalAllocatedBytes postAllocationSize
      else mr.peakTotalAllocatedBytes })

/-- The constructor of `disk_reserved_arena` at `self`. -/
def makeArena (mr : DiskAccessLimiter) (self : Addr) (bytes : UInt64)
    (notifier : Option EventNotifier) : DiskAccessLimiter :=
  { mr with
    totalReservationCount := mr.totalReservationCount + 1
    arenas := mr.arenas.insert self ⟨bytes.toInt64, notifier⟩ }

def reserve (mr : DiskAccessLimiter) (self : Addr) (bytes : UInt64)
    (releaseNotifer : Option EventNotifier) : Option Addr × DiskAccessLimiter :=
  match mr.doReserve bytes mr.memoryLimit with
  | (true, mr) => (some self, mr.makeArena self bytes releaseNotifer)
  | (false, mr) => (none, mr)

def reserveUpto (mr : DiskAccessLimiter) (self : Addr) (bytes : UInt64)
    (releaseNotifer : Option EventNotifier) : Addr × DiskAccessLimiter :=
  let (reservedBytes, mr) := mr.doReserveUpto bytes mr.memoryLimit
  (self, mr.makeArena self reservedBytes releaseNotifer)

/-- `~disk_reserved_arena` for the object at `p`, that is
`do_release_reservation`, and the notifier its base still has to run. -/
def destroyArena (mr : DiskAccessLimiter) (p : Addr) :
    DiskAccessLimiter × Option EventNotifier :=
  match mr.arenas.lookup p with
  | none => (mr, none)
  | some arena =>
      let sizeToRelease := (max 0 arena.size).toUInt64
      ({ mr with
          totalAllocatedBytes := mr.totalAllocatedBytes - sizeToRelease
          totalReservationCount := mr.totalReservationCount - 1
          arenas := mr.arenas.erase p }, arena.onExit)

def getTotalReservedBytes (mr : DiskAccessLimiter) : UInt64 := mr.totalAllocatedBytes

def getActiveReservationCount (mr : DiskAccessLimiter) : UInt64 :=
  mr.totalReservationCount

end DiskAccessLimiter

end CuCascade.Memory
